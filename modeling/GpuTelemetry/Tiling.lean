import Mathlib.Algebra.Order.BigOperators.Group.List
import Mathlib.Data.Multiset.Filter
import Mathlib.Algebra.BigOperators.Group.Multiset.Basic

/-! Runs of closed intervals over a grid, and the multisets they cut out.
Nothing here mentions a particular program. -/

namespace GpuTelemetry

/-- The intervals follow one another from `start` to `stop`, each beginning one
grid step `g` behind the end of the one before. -/
inductive Tiles (g stop : Int) : Int → List (Int × Int) → Prop
  | last {start} : start ≤ stop → Tiles g stop start [(start, stop)]
  | next {start upper bounds} : start ≤ upper → g ∣ upper → Tiles g stop (upper + g) bounds →
      Tiles g stop start ((start, upper) :: bounds)

theorem Tiles.start_le {g stop start : Int} {bounds : List (Int × Int)} (positive : 0 < g)
    (tiles : Tiles g stop start bounds) : start ≤ stop := by
  induction tiles with
  | last ordered => exact ordered
  | next ordered _ _ ih => omega

variable {α β : Type}

/-- The members of a multiset whose key lies in a closed interval. -/
def within (key : α → Int) (s : Multiset α) (lower upper : Int) : Multiset α :=
  s.filter fun x => lower ≤ key x ∧ key x ≤ upper

/-- On the grid nothing lies between an upper bound and the next lower one. -/
theorem within_split {g start upper stop : Int} {key : α → Int} {s : Multiset α} (positive : 0 < g)
    (whole : ∀ x ∈ s, g ∣ key x) (aligned : g ∣ upper) (first : start ≤ upper) (later : upper + g ≤ stop) :
    within key s start upper + within key s (upper + g) stop = within key s start stop := by
  have disjoint : s.filter (fun x => (start ≤ key x ∧ key x ≤ upper) ∧ (upper + g ≤ key x ∧ key x ≤ stop)) = 0 := by
    refine Multiset.filter_eq_nil.mpr fun x _ both => ?_
    omega
  rw [within, within, Multiset.filter_add_filter, disjoint, add_zero]
  refine Multiset.filter_congr fun x member => ?_
  constructor
  · omega
  · intro inside
    by_cases atMost : key x ≤ upper
    · omega
    · obtain ⟨i, keyEq⟩ := whole x member
      obtain ⟨j, upperEq⟩ := aligned
      have beyond : j + 1 ≤ i := by
        by_contra less
        have atMost' : g * i ≤ g * j := Int.mul_le_mul_of_nonneg_left (by omega) positive.le
        omega
      have step : g * (j + 1) ≤ g * i := Int.mul_le_mul_of_nonneg_left beyond positive.le
      rw [Int.mul_add, Int.mul_one] at step
      omega

/-- A tiling cuts a multiset into its members between the outer bounds, each once. -/
theorem Tiles.sum_within {g stop start : Int} {bounds : List (Int × Int)} {key : α → Int} {s : Multiset α}
    (positive : 0 < g) (whole : ∀ x ∈ s, g ∣ key x) (tiles : Tiles g stop start bounds) :
    (bounds.map fun bound => within key s bound.1 bound.2).sum = within key s start stop := by
  induction tiles with
  | last _ => simp
  | next ordered aligned later ih =>
    rw [List.map_cons, List.sum_cons, ih]
    exact within_split positive whole aligned ordered (later.start_le positive)

theorem coe_flatMap (f : β → List α) (xs : List β) :
    (xs.flatMap f : Multiset α) = (xs.map fun x => (f x : Multiset α)).sum := by
  induction xs with
  | nil => rfl
  | cons x xs ih => rw [List.flatMap_cons, ← Multiset.coe_add, ih, List.map_cons, List.sum_cons]

end GpuTelemetry
