import Mathlib.Data.List.Forall2

/-! Operations on maps that look at one key and write over others, run one after
another. Nothing here mentions a particular program. -/

namespace GpuTelemetry

variable {κ ν ι β : Type}

/-- What is written depends on the value of one key only. -/
structure Overlay (κ ν : Type) where
  reads : κ
  writes : Option ν → κ → Option ν

namespace Overlay

def apply (o : Overlay κ ν) (m : κ → Option ν) : κ → Option ν :=
  fun key => (o.writes (m o.reads) key).or (m key)

def run (overlay : ι → Overlay κ ν) (steps : List ι) (m : κ → Option ν) : κ → Option ν :=
  steps.foldl (fun m step => (overlay step).apply m) m

/-- Two operations read the same key, and a view shows the same of what they write. -/
structure Alike (view : ν → β) (o o' : Overlay κ ν) : Prop where
  reads : o.reads = o'.reads
  writes : ∀ value key, (o.writes value key).map view = (o'.writes value key).map view

theorem Alike.refl (view : ν → β) (o : Overlay κ ν) : o.Alike view o := ⟨rfl, fun _ _ => rfl⟩

/-- No operation writes a key that one of them reads, and each writes only keys that it owns. -/
structure Separated (overlay : ι → Overlay κ ν) (owner : κ → ι → Bool) : Prop where
  quiet : ∀ step other value, (overlay step).writes value (overlay other).reads = none
  silent : ∀ key step, owner key step = false → ∀ value, (overlay step).writes value key = none

namespace Separated

variable {overlay : ι → Overlay κ ν} {owner : κ → ι → Bool} {steps steps' before between after : List ι}
  {step again : ι} {view : ν → β}

theorem apply_reads (separated : Separated overlay owner) (step other : ι) (m : κ → Option ν) :
    (overlay step).apply m (overlay other).reads = m (overlay other).reads := by
  rw [apply, separated.quiet, Option.none_or]

/-- Every operation finds its key as it was at the start. -/
theorem run_apply (separated : Separated overlay owner) (steps : List ι) (m : κ → Option ν) (key : κ) :
    run overlay steps m key =
      steps.foldl (fun found step => ((overlay step).writes (m (overlay step).reads) key).or found) (m key) := by
  induction steps generalizing m with
  | nil => rfl
  | cons first rest ih =>
    refine (ih ((overlay first).apply m)).trans (List.foldl_ext _ _ _ fun found step _ => ?_)
    rw [separated.apply_reads]

/-- The steps that do not own a key can be left out for it. -/
theorem foldl_owners (separated : Separated overlay owner) (steps : List ι) (m : κ → Option ν) (key : κ)
    (found : Option ν) :
    steps.foldl (fun found step => ((overlay step).writes (m (overlay step).reads) key).or found) found =
      (steps.filter (owner key)).foldl
        (fun found step => ((overlay step).writes (m (overlay step).reads) key).or found) found := by
  induction steps generalizing found with
  | nil => rfl
  | cons first rest ih =>
    rcases owned : owner key first with _ | _
    · rw [List.filter_cons_of_neg (by rw [owned]; exact Bool.false_ne_true), List.foldl_cons,
        separated.silent key first owned, Option.none_or, ih]
    · rw [List.filter_cons_of_pos owned, List.foldl_cons, List.foldl_cons, ih]

/-- Only the order among the steps that own a key matters for it. -/
theorem run_eq (separated : Separated overlay owner)
    (same : ∀ key, steps.filter (owner key) = steps'.filter (owner key)) (m : κ → Option ν) :
    run overlay steps m = run overlay steps' m := by
  funext key
  rw [separated.run_apply, separated.run_apply, separated.foldl_owners steps, separated.foldl_owners steps', same]

theorem apply_again (separated : Separated overlay owner) (step : ι) (m : κ → Option ν) :
    (overlay step).apply ((overlay step).apply m) = (overlay step).apply m := by
  funext key
  rw [apply, separated.apply_reads, apply]
  cases (overlay step).writes (m (overlay step).reads) key <;> rfl

/-- A step that runs again after others that own none of its keys does nothing more. -/
theorem run_again (separated : Separated overlay owner)
    (others : ∀ other ∈ between, ∀ key, owner key step = true → owner key other = false) (m : κ → Option ν) :
    run overlay (before ++ step :: (between ++ step :: after)) m =
      run overlay (before ++ step :: (between ++ after)) m := by
  have earlier : run overlay (before ++ step :: (between ++ step :: after)) m =
      run overlay (before ++ step :: step :: (between ++ after)) m := by
    refine separated.run_eq (fun key => ?_) m
    rcases owned : owner key step with _ | _
    · simp [List.filter_append, owned]
    · have none : between.filter (owner key) = [] :=
        List.filter_eq_nil_iff.mpr fun other member =>
          Bool.eq_false_iff.mp (others other member key owned)
      simp [List.filter_append, owned, none]
  rw [earlier, run, run, List.foldl_append, List.foldl_append, List.foldl_cons, List.foldl_cons, List.foldl_cons,
    separated.apply_again]

/-- Steps that are alike in a view lead to outcomes that it shows alike. -/
theorem run_view (separated : Separated overlay owner)
    (alike : List.Forall₂ (fun step step' => (overlay step).Alike view (overlay step')) steps steps')
    (m : κ → Option ν) (key : κ) : (run overlay steps m key).map view = (run overlay steps' m key).map view := by
  have general : ∀ found found' : Option ν, found.map view = found'.map view →
      (steps.foldl (fun found step => ((overlay step).writes (m (overlay step).reads) key).or found) found).map view =
        (steps'.foldl (fun found step => ((overlay step).writes (m (overlay step).reads) key).or found) found').map
          view := by
    induction alike with
    | nil => exact fun _ _ same => same
    | cons head _ ih =>
      intro found found' same
      refine ih _ _ ?_
      rw [Option.map_or, Option.map_or, head.reads, head.writes, same]
  rw [separated.run_apply, separated.run_apply]
  exact general _ _ rfl

/-- The same for a step that is only alike. -/
theorem run_again_view (separated : Separated overlay owner) (alike : (overlay again).Alike view (overlay step))
    (others : ∀ other ∈ between, ∀ key, owner key step = true → owner key other = false) (m : κ → Option ν) (key : κ) :
    (run overlay (before ++ step :: (between ++ again :: after)) m key).map view =
      (run overlay (before ++ step :: (between ++ after)) m key).map view := by
  have itself (steps : List ι) :
      List.Forall₂ (fun step step' => (overlay step).Alike view (overlay step')) steps steps :=
    List.forall₂_same.mpr fun step _ => Alike.refl view (overlay step)
  refine Eq.trans ?_ (congrArg (Option.map view) (congrFun (separated.run_again others m) key))
  exact separated.run_view (List.rel_append (itself before)
    (.cons (Alike.refl view _) (List.rel_append (itself between) (.cons alike (itself after))))) m key

end Separated

end Overlay

end GpuTelemetry
