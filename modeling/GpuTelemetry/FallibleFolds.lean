import Mathlib.Data.List.Basic

namespace GpuTelemetry

variable {ε α β γ : Type} {f : β → α → Except ε β}

theorem bind_returned {x : Except ε α} {g : α → Except ε β} {b : β} (run : x.bind g = .ok b) :
    ∃ a, x = .ok a ∧ g a = .ok b := by
  cases x with
  | error e => simp [Except.bind] at run
  | ok a => exact ⟨a, rfl, run⟩

theorem map_returned {x : Except ε α} {g : α → β} {b : β} (run : x.map g = .ok b) : ∃ a, x = .ok a ∧ g a = b := by
  cases x with
  | error e => simp [Except.map] at run
  | ok a => exact ⟨a, rfl, Except.ok.inj run⟩

theorem bind_ne_error {e : ε} {x : Except ε α} {g : α → Except ε β} (first : x ≠ .error e)
    (later : ∀ a, x = .ok a → g a ≠ .error e) : x.bind g ≠ .error e := by
  cases x with
  | error e' => exact fun same => first (congrArg Except.error (Except.error.inj same))
  | ok a => exact later a rfl

theorem map_ne_error {e : ε} {x : Except ε α} {g : α → β} (first : x ≠ .error e) : x.map g ≠ .error e := by
  cases x with
  | error e' => exact fun same => first (congrArg Except.error (Except.error.inj same))
  | ok a => exact nofun

theorem returns_bind_iff {x : Except ε α} {f : α → β} :
    (∃ result, (x >>= fun a => pure (f a)) = .ok result) ↔ ∃ a, x = .ok a := by
  cases x <;> simp [bind, Except.bind, pure, Except.pure]

/-- A fold returns exactly when every element is one its step returns on, if
that does not depend on what has been accumulated. -/
theorem foldlM_returns_iff {Good : α → Prop} (step : ∀ acc x, (∃ next, f acc x = .ok next) ↔ Good x)
    (xs : List α) (acc : β) : (∃ result, xs.foldlM f acc = .ok result) ↔ ∀ x ∈ xs, Good x := by
  induction xs generalizing acc with
  | nil => simp [pure, Except.pure]
  | cons x xs ih =>
    rw [List.forall_mem_cons, List.foldlM_cons]
    cases run : f acc x with
    | error e =>
      have bad : ¬Good x := fun good => by simpa [run] using (step acc x).mpr good
      exact iff_of_false (by simp [bind, Except.bind]) fun all => bad all.1
    | ok next =>
      have good : Good x := (step acc x).mp ⟨next, run⟩
      exact (ih next).trans (by simp [good])

/-- What a view of the accumulator follows, when each step of the fold acts on it. -/
theorem foldlM_view {view : β → γ} {act : γ → α → γ} (step : ∀ acc x next, f acc x = .ok next →
    view next = act (view acc) x) {xs : List α} {acc result : β} (run : xs.foldlM f acc = .ok result) :
    view result = xs.foldl act (view acc) := by
  induction xs generalizing acc with
  | nil =>
    obtain rfl : acc = result := Except.ok.inj run
    rfl
  | cons x xs ih =>
    rw [List.foldlM_cons] at run
    cases first : f acc x with
    | error e => simp [first, bind, Except.bind] at run
    | ok next =>
      rw [first] at run
      rw [List.foldl_cons, ← step acc x next first]
      exact ih run

/-- A fold that returns has made each of its steps. -/
theorem foldlM_steps {xs : List α} {acc result : β} (run : xs.foldlM f acc = .ok result) :
    ∀ x ∈ xs, ∃ acc next, f acc x = .ok next := by
  induction xs generalizing acc with
  | nil => exact fun x member => nomatch member
  | cons x xs ih =>
    rw [List.foldlM_cons] at run
    obtain ⟨next, first, later⟩ := bind_returned run
    exact List.forall_mem_cons.mpr ⟨⟨acc, next, first⟩, ih later⟩

/-- An error that no step raises is not raised by the fold. -/
theorem foldlM_ne_error {e : ε} {xs : List α} (steps : ∀ x ∈ xs, ∀ acc, f acc x ≠ .error e) (acc : β) :
    xs.foldlM f acc ≠ .error e := by
  induction xs generalizing acc with
  | nil => exact nofun
  | cons x xs ih =>
    obtain ⟨here, later⟩ := List.forall_mem_cons.mp steps
    exact bind_ne_error (here acc) fun next _ => ih later next

/-- Members that each return something with a property. -/
theorem mapM_returns {P : α → β → Prop} {g : α → Except ε β} {xs : List α}
    (each : ∀ x ∈ xs, ∃ y, g x = .ok y ∧ P x y) : ∃ ys, xs.mapM g = .ok ys ∧ List.Forall₂ P xs ys := by
  induction xs with
  | nil => exact ⟨[], rfl, .nil⟩
  | cons x xs ih =>
    obtain ⟨⟨y, first, holds⟩, rest⟩ := List.forall_mem_cons.mp each
    obtain ⟨ys, later, all⟩ := ih rest
    exact ⟨y :: ys, by rw [List.mapM_cons, first, later]; rfl, .cons holds all⟩

/-- All members return when their list does. -/
theorem returned_of_mapM {g : α → Except ε β} {xs : List α} {ys : List β} (run : xs.mapM g = .ok ys) :
    ∀ x ∈ xs, ∃ y, g x = .ok y := by
  induction xs generalizing ys with
  | nil => exact fun x member => nomatch member
  | cons x xs ih =>
    rw [List.mapM_cons] at run
    obtain ⟨y, first, later⟩ := bind_returned run
    obtain ⟨rest, isRest, -⟩ := bind_returned later
    exact List.forall_mem_cons.mpr ⟨⟨y, first⟩, ih isRest⟩

/-- Lists related through a list in between. -/
theorem forall₂_through {R : α → β → Prop} {S : β → γ → Prop} {T : α → γ → Prop}
    (compose : ∀ a b c, R a b → S b c → T a c) {as : List α} {bs : List β} {cs : List γ} (first : List.Forall₂ R as bs)
    (second : List.Forall₂ S bs cs) : List.Forall₂ T as cs := by
  induction first generalizing cs with
  | nil =>
    cases second
    exact .nil
  | cons here _ ih =>
    cases second with
    | cons next later => exact .cons (compose _ _ _ here next) (ih later)

/-- Each member of related lists is related to a member of the other one. -/
theorem mem_of_forall₂ {R : α → β → Prop} {as : List α} {bs : List β} (related : List.Forall₂ R as bs) :
    (∀ a ∈ as, ∃ b ∈ bs, R a b) ∧ ∀ b ∈ bs, ∃ a ∈ as, R a b := by
  induction related with
  | nil => simp
  | cons here _ ih =>
    refine ⟨List.forall_mem_cons.mpr ⟨⟨_, List.mem_cons_self, here⟩, fun a member => ?_⟩,
      List.forall_mem_cons.mpr ⟨⟨_, List.mem_cons_self, here⟩, fun b member => ?_⟩⟩
    · obtain ⟨b, inLater, holds⟩ := ih.1 a member
      exact ⟨b, List.mem_cons_of_mem _ inLater, holds⟩
    · obtain ⟨a, inLater, holds⟩ := ih.2 b member
      exact ⟨a, List.mem_cons_of_mem _ inLater, holds⟩

/-- Members that each become a value. -/
theorem mapM_map_returns {h : α → β} {f : β → Except ε γ} {g : α → γ} {xs : List α}
    (each : ∀ x ∈ xs, f (h x) = .ok (g x)) : (xs.map h).mapM f = .ok (xs.map g) := by
  induction xs with
  | nil => rfl
  | cons x xs ih =>
    obtain ⟨first, rest⟩ := List.forall_mem_cons.mp each
    rw [List.map_cons, List.mapM_cons, first, ih rest]
    rfl

end GpuTelemetry
