import GpuTelemetry.Dicts
import Mathlib.Data.Nat.Basic
import Mathlib.Order.Defs.LinearOrder
import Mathlib.Order.MinMax

/-! Enumerations whose members are numbered as they are declared, and the lowest
of the numbers in a list. Nothing here mentions a particular program. -/

namespace GpuTelemetry

/-! ### Numbered members -/

section

variable {α : Type}

/-- The values of the members: the given ones, and for the others one more than
the value before. -/
def autoValues : Nat → List (α × Option Nat) → List (α × Nat)
  | _, [] => []
  | next, (member, given) :: declared => (member, given.getD next) :: autoValues (given.getD next + 1) declared

/-- No given value is below the one that would come next. -/
def increasingFrom : Nat → List (α × Option Nat) → Bool
  | _, [] => true
  | next, (_, given) :: declared => decide (next ≤ given.getD next) && increasingFrom (given.getD next + 1) declared

variable [DecidableEq α]

/-- The value of a member. -/
def enumValue (declared : List (α × Option Nat)) (member : α) : Nat := (dictGet (autoValues 1 declared) member).getD 0

/-- A member is declared before another one. -/
def DeclaredBefore (declared : List (α × Option Nat)) (a b : α) : Prop :=
  (declared.map Prod.fst).idxOf a < (declared.map Prod.fst).idxOf b

instance (declared : List (α × Option Nat)) (a b : α) : Decidable (DeclaredBefore declared a b) :=
  inferInstanceAs (Decidable (_ < _))

theorem le_autoValues {next : Nat} {declared : List (α × Option Nat)} (increasing : increasingFrom next declared = true)
    {a : α} (member : a ∈ declared.map Prod.fst) : next ≤ (dictGet (autoValues next declared) a).getD 0 := by
  induction declared generalizing next with
  | nil => cases member
  | cons entry declared ih =>
    obtain ⟨first, given⟩ := entry
    rw [increasingFrom, Bool.and_eq_true, decide_eq_true_eq] at increasing
    obtain ⟨here, others⟩ := increasing
    rw [autoValues, dictGet_cons]
    split
    · exact here
    · rename_i differs
      have later : a ∈ declared.map Prod.fst := (List.mem_cons.mp member).resolve_left differs
      have bound := ih others later
      omega

/-- The values follow the order of the declaration. -/
theorem enumValue_lt_iff {declared : List (α × Option Nat)} (increasing : increasingFrom 1 declared = true) {a b : α}
    (inA : a ∈ declared.map Prod.fst) (inB : b ∈ declared.map Prod.fst) :
    enumValue declared a < enumValue declared b ↔ DeclaredBefore declared a b := by
  unfold enumValue DeclaredBefore
  generalize 1 = next at increasing ⊢
  induction declared generalizing next with
  | nil => cases inA
  | cons entry declared ih =>
    obtain ⟨first, given⟩ := entry
    rw [increasingFrom, Bool.and_eq_true, decide_eq_true_eq] at increasing
    obtain ⟨here, others⟩ := increasing
    rw [autoValues, dictGet_cons, dictGet_cons, List.map_cons]
    by_cases isA : a = first
    · subst isA
      by_cases isB : b = a
      · rw [isB]
        exact iff_of_false (lt_irrefl _) (lt_irrefl _)
      · have bound := le_autoValues others ((List.mem_cons.mp inB).resolve_left isB)
        rw [if_pos rfl, if_neg isB, Option.getD_some, List.idxOf_cons_self, List.idxOf_cons_ne _ (Ne.symm isB)]
        omega
    · have laterA := (List.mem_cons.mp inA).resolve_left isA
      by_cases isB : b = first
      · subst isB
        have bound := le_autoValues others laterA
        rw [if_neg isA, if_pos rfl, Option.getD_some, List.idxOf_cons_self, List.idxOf_cons_ne _ (Ne.symm isA)]
        omega
      · have laterB := (List.mem_cons.mp inB).resolve_left isB
        rw [if_neg isA, if_neg isB, List.idxOf_cons_ne _ (Ne.symm isA), List.idxOf_cons_ne _ (Ne.symm isB),
          ih laterA laterB _ others]
        omega

end

/-! ### The lowest value -/

section

variable {β : Type} [LinearOrder β]

/-- `min` of a list, with a default for an empty one. -/
def lowest (default : β) : List β → β
  | [] => default
  | v :: values => values.foldl min v

theorem lowest_lt_iff {default bound : β} (le : bound ≤ default) (values : List β) :
    lowest default values < bound ↔ ∃ v ∈ values, v < bound := by
  have run : ∀ (values : List β) (v : β), values.foldl min v < bound ↔ v < bound ∨ ∃ w ∈ values, w < bound := by
    intro values
    induction values with
    | nil => simp
    | cons w values ih =>
      intro v
      rw [List.foldl_cons, ih, min_lt_iff, List.exists_mem_cons_iff, or_assoc]
  cases values with
  | nil => simpa [lowest] using le
  | cons v values => rw [lowest, run, List.exists_mem_cons_iff]

theorem lt_lowest_iff {default bound : β} (less : bound < default) (values : List β) :
    bound < lowest default values ↔ ∀ v ∈ values, bound < v := by
  have run : ∀ (values : List β) (v : β), bound < values.foldl min v ↔ bound < v ∧ ∀ w ∈ values, bound < w := by
    intro values
    induction values with
    | nil => simp
    | cons w values ih =>
      intro v
      rw [List.foldl_cons, ih, lt_min_iff, List.forall_mem_cons, and_assoc]
  cases values with
  | nil => simpa [lowest] using less
  | cons v values => rw [lowest, run, List.forall_mem_cons]

end

end GpuTelemetry
