import GpuTelemetry.NcclTail

namespace GpuTelemetry

/-! ### Ranks by collective type -/

section

variable {F : Type}

/-- The collective type and the rank of a record, as the keys of the annotation. -/
def NCCLCollectiveMetrics.pair (m : NCCLCollectiveMetrics F) : Option (DictKey × DictKey) :=
  if m.collectiveType.truthy && isSomething m.rank then
    match dictKey m.collectiveType, dictKey m.rank with
    | .ok ctype, .ok rank => some (ctype, rank)
    | _, _ => none
  else none

/-- The durations of a collective type. -/
def typeDurations (times : List ((DictKey × DictKey) × F)) (ctype : DictKey) : List F :=
  (times.filter fun time => time.1.1 = ctype).map Prod.snd

variable [Add F] [Sub F] [Mul F] [Div F] [LT F] [DecidableLT F] [OfNat F 2] [OfNat F 1000]

/-- A duration is above the median of its type by more than the threshold, for a
type with two durations or more. -/
def Exceeds (thresholdMs : F) (times : List ((DictKey × DictKey) × F)) (time : (DictKey × DictKey) × F) : Prop :=
  2 ≤ (typeDurations times time.1.1).length ∧ ∃ medianUs, median (typeDurations times time.1.1) = .ok medianUs ∧
    thresholdMs * 1000 < time.2 - medianUs

end

/-! ### The flags of a batch -/

section

variable {F : Type}

end

section

variable {F : Type} [Add F] [Sub F] [Mul F] [Div F] [LT F] [DecidableLT F] [OfNat F 2] [OfNat F 1000]

end

/-! ### The order of a batch -/

section

variable {F : Type} [LinearOrder F] [Add F] [Sub F] [Mul F] [Div F] [OfNat F 2] [OfNat F 1000]

omit [Sub F] [Mul F] [OfNat F 1000] in
theorem median_perm {values values' : List F} (order : values.Perm values') : median values = median values' := by
  have sorted : ∀ values : List F, (values.insertionSort fun a b => ¬ b < a).Pairwise fun a b => ¬ b < a := by
    intro values
    have total : Std.Total fun a b : F => ¬ b < a := ⟨fun a b => by simpa using le_total a b⟩
    have trans : IsTrans F fun a b => ¬ b < a := ⟨fun a b c ab bc => not_lt.mpr ((not_lt.mp ab).trans (not_lt.mp bc))⟩
    exact List.pairwise_insertionSort _ _
  have same : (values.insertionSort fun a b => ¬ b < a) = values'.insertionSort fun a b => ¬ b < a :=
    ((List.perm_insertionSort _ _).trans (order.trans (List.perm_insertionSort _ _).symm)).eq_of_pairwise
      (fun a b _ _ ab ba => le_antisymm (not_lt.mp ab) (not_lt.mp ba)) (sorted values) (sorted values')
  unfold median
  rw [same]

theorem exceeds_perm {thresholdMs : F} {times times' : List ((DictKey × DictKey) × F)} (order : times.Perm times')
    (time : (DictKey × DictKey) × F) : Exceeds thresholdMs times time ↔ Exceeds thresholdMs times' time := by
  have durations : (typeDurations times time.1.1).Perm (typeDurations times' time.1.1) := (order.filter _).map _
  unfold Exceeds
  rw [median_perm durations, durations.length_eq]

/-- The durations of a rank for a type are all far above the median, or none is. -/
def AllOrNone (thresholdMs : F) (times : List ((DictKey × DictKey) × F)) : Prop :=
  ∀ time ∈ times, ∀ time' ∈ times, time.1 = time'.1 → Exceeds thresholdMs times time → Exceeds thresholdMs times time'

theorem AllOrNone.perm {thresholdMs : F} {times times' : List ((DictKey × DictKey) × F)} (order : times'.Perm times)
    (allOrNone : AllOrNone thresholdMs times) : AllOrNone thresholdMs times' := by
  intro time inTimes time' inTimes' sameRank exceeds
  exact (exceeds_perm order time').mpr (allOrNone time (order.mem_iff.mp inTimes) time' (order.mem_iff.mp inTimes')
    sameRank ((exceeds_perm order time).mp exceeds))

end

end GpuTelemetry
