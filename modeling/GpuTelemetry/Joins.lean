import Mathlib.Data.List.Basic
import Mathlib.Order.WithBot
import Mathlib.Order.ConditionallyCompleteLattice.Basic

/-! The join of a first element and the elements of a list. Nothing here
mentions a particular program. -/

namespace GpuTelemetry

variable {α β : Type}

def joinFrom [Max α] (a : α) (l : List α) : α := l.foldl max a

section semilattice

variable [SemilatticeSup α] [SemilatticeSup β] {a b : α} {l m : List α}

theorem joinFrom_le_iff : joinFrom a l ≤ b ↔ ∀ x ∈ a :: l, x ≤ b := by
  induction l generalizing a with
  | nil => simp [joinFrom]
  | cons x l ih =>
    have step : joinFrom a (x :: l) = joinFrom (a ⊔ x) l := rfl
    rw [step, ih]
    simp only [List.forall_mem_cons, sup_le_iff, and_assoc]

theorem le_joinFrom {x : α} (member : x ∈ a :: l) : x ≤ joinFrom a l :=
  joinFrom_le_iff.mp le_rfl x member

/-- Neither the order nor the repetition of the elements matters. -/
theorem joinFrom_congr (same : ∀ x, x ∈ a :: l ↔ x ∈ b :: m) : joinFrom a l = joinFrom b m := by
  apply le_antisymm
  · exact joinFrom_le_iff.mpr fun x member => le_joinFrom ((same x).mp member)
  · exact joinFrom_le_iff.mpr fun x member => le_joinFrom ((same x).mpr member)

theorem map_joinFrom (f : α → β) (hom : ∀ x y, f (x ⊔ y) = f x ⊔ f y) (a : α) (l : List α) :
    f (joinFrom a l) = joinFrom (f a) (l.map f) := by
  induction l generalizing a with
  | nil => rfl
  | cons x l ih =>
    have step : joinFrom a (x :: l) = joinFrom (a ⊔ x) l := rfl
    rw [step, ih, hom]
    rfl

end semilattice

theorem joinFrom_lt_iff [LinearOrder α] {a b : α} {l : List α} : joinFrom a l < b ↔ ∀ x ∈ a :: l, x < b := by
  induction l generalizing a with
  | nil => simp [joinFrom]
  | cons x l ih =>
    have step : joinFrom a (x :: l) = joinFrom (a ⊔ x) l := rfl
    rw [step, ih]
    simp only [List.forall_mem_cons, sup_lt_iff, and_assoc]

theorem le_joinFrom_iff [LinearOrder α] {a b : α} {l : List α} : b ≤ joinFrom a l ↔ ∃ x ∈ a :: l, b ≤ x := by
  rw [← not_lt, joinFrom_lt_iff]
  push Not
  rfl

theorem joinFrom_prop (p : α → Prop) (a : α) (l : List α) :
    joinFrom (p a) (l.map p) ↔ ∃ x ∈ a :: l, p x := by
  have below : ∀ q : Prop, joinFrom q (l.map p) ↔ q ∨ ∃ x ∈ l, p x := by
    intro q
    induction l generalizing q with
    | nil => simp [joinFrom]
    | cons x l ih =>
      have step : joinFrom q ((x :: l).map p) = joinFrom (q ∨ p x) (l.map p) := rfl
      rw [step, ih, List.exists_mem_cons_iff, or_assoc]
  rw [below, List.exists_mem_cons_iff]

/-- Where the values are optional, the join is the maximum of those there are. -/
theorem joinFrom_option [LinearOrder α] (f : β → Option α) (x : β) (xs : List β) :
    @joinFrom (WithBot α) _ (f x) (xs.map fun y => (f y : WithBot α)) = ((x :: xs).filterMap f).max? := by
  have above : ∀ v : WithBot α,
      joinFrom v (xs.map fun y => (f y : WithBot α)) = (v.toList ++ xs.filterMap f : List α).max? := by
    induction xs with
    | nil =>
      intro v
      cases v <;> rfl
    | cons y xs ih =>
      intro v
      have step : joinFrom v ((y :: xs).map fun y => (f y : WithBot α)) =
        joinFrom (v ⊔ f y) (xs.map fun y => (f y : WithBot α)) := rfl
      rw [step, ih, List.filterMap_cons]
      cases value : f y with
      | none => exact congrArg (fun w : WithBot α => (w.toList ++ xs.filterMap f : List α).max?) (sup_bot_eq v)
      | some w =>
        cases v with
        | bot => rfl
        | coe v => rfl
  refine (above (f x)).trans ?_
  rw [List.filterMap_cons]
  cases f x <;> rfl

end GpuTelemetry
