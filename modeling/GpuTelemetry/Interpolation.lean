import Mathlib.Algebra.Order.Field.Basic
import Mathlib.Data.List.Pairwise
import Mathlib.Order.Interval.Set.Basic
import Mathlib.Tactic.Ring

/-! Curves through points that go right and up. Nothing here mentions a
particular program. -/

namespace GpuTelemetry

variable {K : Type} [Field K] [LinearOrder K] [IsStrictOrderedRing K]

/-- Where the line from `a` to `b` reaches the height `t`. -/
def crossing (a b : K × K) (t : K) : K := a.1 + (b.1 - a.1) * (t - a.2) / (b.2 - a.2)

/-- Where the curve from `a` through the points first reaches the height `t`; its
end if it never does. -/
def reaches (t : K) : K × K → List (K × K) → K
  | a, [] => a.1
  | a, b :: points => if t ≤ b.2 then if b.2 = a.2 then a.1 else crossing a b t else reaches t b points

theorem crossing_mono {a b : K × K} {t t' : K} (along : a.1 ≤ b.1) (rises : a.2 < b.2) (later : t ≤ t') :
    crossing a b t ≤ crossing a b t' := by
  have width : 0 ≤ b.1 - a.1 := sub_nonneg.mpr along
  have height : 0 ≤ b.2 - a.2 := (sub_pos.mpr rises).le
  have product : (b.1 - a.1) * (t - a.2) ≤ (b.1 - a.1) * (t' - a.2) :=
    mul_le_mul_of_nonneg_left (sub_le_sub_right later a.2) width
  exact (add_le_add_iff_left a.1).mpr (div_le_div_of_nonneg_right product height)

omit [LinearOrder K] [IsStrictOrderedRing K] in
theorem crossing_start (a b : K × K) : crossing a b a.2 = a.1 := by
  simp [crossing]

theorem crossing_end {a b : K × K} (rises : a.2 < b.2) : crossing a b b.2 = b.1 := by
  rw [crossing, mul_div_cancel_right₀ _ (sub_pos.mpr rises).ne', add_sub_cancel]

section

variable {a : K × K} {points : List (K × K)}

omit [Field K] [IsStrictOrderedRing K] in
/-- The first segment of a curve, and the curve behind it. -/
theorem ascending_cons {b : K × K} (ascending : (a :: b :: points).Pairwise (· ≤ ·)) :
    a.1 ≤ b.1 ∧ a.2 ≤ b.2 ∧ (b :: points).Pairwise (· ≤ ·) := by
  obtain ⟨fromStart, others⟩ := List.pairwise_cons.mp ascending
  have first : a ≤ b := fromStart b (by simp)
  exact ⟨first.1, first.2, others⟩

theorem le_reaches {t : K} (ascending : (a :: points).Pairwise (· ≤ ·)) (above : a.2 ≤ t) :
    a.1 ≤ reaches t a points := by
  induction points generalizing a with
  | nil => exact le_rfl
  | cons b points ih =>
    obtain ⟨along, up, others⟩ := ascending_cons ascending
    rw [reaches]
    split
    · split
      · exact le_rfl
      · rename_i rising
        have rises : a.2 < b.2 := lt_of_le_of_ne up (Ne.symm rising)
        rw [← crossing_start a b]
        exact crossing_mono along rises above
    · rename_i beyond
      exact along.trans (ih others (not_le.mp beyond).le)

/-- A curve stays left of a bound of its points. -/
theorem reaches_le {t bound : K} (ascending : (a :: points).Pairwise (· ≤ ·))
    (bounded : ∀ b ∈ a :: points, b.1 ≤ bound) : reaches t a points ≤ bound := by
  induction points generalizing a with
  | nil => exact bounded a (by simp)
  | cons b points ih =>
    obtain ⟨along, up, others⟩ := ascending_cons ascending
    obtain ⟨start, rest⟩ := List.forall_mem_cons.mp bounded
    rw [reaches]
    split
    · rename_i within
      split
      · exact start
      · rename_i rising
        have rises : a.2 < b.2 := lt_of_le_of_ne up (Ne.symm rising)
        have atEnd := crossing_mono along rises within
        rw [crossing_end rises] at atEnd
        exact atEnd.trans (rest b (by simp))
    · exact ih others rest

/-- Higher is further along. -/
theorem reaches_mono {t t' : K} (ascending : (a :: points).Pairwise (· ≤ ·)) (above : a.2 ≤ t) (later : t ≤ t') :
    reaches t a points ≤ reaches t' a points := by
  induction points generalizing a with
  | nil => exact le_rfl
  | cons b points ih =>
    obtain ⟨along, up, others⟩ := ascending_cons ascending
    rw [reaches, reaches]
    by_cases within' : t' ≤ b.2
    · -- both heights are reached on the first segment
      rw [if_pos within', if_pos (later.trans within')]
      split
      · exact le_rfl
      · rename_i rising
        exact crossing_mono along (lt_of_le_of_ne up (Ne.symm rising)) later
    · rw [if_neg within']
      by_cases within : t ≤ b.2
      · have further : b.1 ≤ reaches t' b points := le_reaches others (not_le.mp within').le
        rw [if_pos within]
        split
        · exact along.trans further
        · rename_i rising
          have rises : a.2 < b.2 := lt_of_le_of_ne up (Ne.symm rising)
          have atEnd := crossing_mono along rises within
          rw [crossing_end rises] at atEnd
          exact atEnd.trans further
      · rw [if_neg within]
        exact ih others (not_le.mp within).le

end

end GpuTelemetry
