import Mathlib.Algebra.GroupWithZero.Nat
import Mathlib.Algebra.Order.BigOperators.Group.List
import Mathlib.Algebra.Order.Group.Nat
import Mathlib.Data.List.Forall2
import Mathlib.Logic.Function.Basic

/-! Maps that number the elements of a list, and relations between two lists
made of blocks. Nothing here mentions a particular program. -/

namespace GpuTelemetry

variable {κ ν α β ι : Type}

/-- The map holds the list under its indices and nothing else. -/
structure Numbers (key : Nat → κ) (m : κ → Option ν) (xs : List ν) : Prop where
  at_key : ∀ n, m (key n) = xs[n]?
  elsewhere : ∀ k, (∀ n, k ≠ key n) → m k = none

theorem Numbers.empty (key : Nat → κ) : Numbers key (fun _ => none) ([] : List ν) := ⟨fun _ => by simp, fun _ _ => rfl⟩

theorem Numbers.snoc [DecidableEq κ] {key : Nat → κ} {m : κ → Option ν} {xs : List ν} (numbers : Numbers key m xs)
    (injective : Function.Injective key) (v : ν) :
    Numbers key (Function.update m (key xs.length) (some v)) (xs ++ [v]) := by
  refine ⟨fun n => ?_, fun k away => ?_⟩
  · by_cases last : n = xs.length
    · simp [last]
    · rw [Function.update_of_ne fun same => last (injective same), numbers.at_key n]
      rcases Nat.lt_or_gt_of_ne last with inside | outside
      · rw [List.getElem?_append_left inside]
      · rw [List.getElem?_eq_none (by omega), List.getElem?_eq_none (by simp; omega)]
  · rw [Function.update_of_ne (away _), numbers.elsewhere k away]

/-- The same value under the next numbers. -/
theorem Numbers.replicate [DecidableEq κ] {key : Nat → κ} {m : κ → Option ν} {xs : List ν}
    (numbers : Numbers key m xs) (injective : Function.Injective key) (v : ν) (count : Nat) :
    Numbers key ((List.range count).foldl (fun m i => Function.update m (key (xs.length + i)) (some v)) m)
      (xs ++ List.replicate count v) := by
  induction count with
  | zero => simpa using numbers
  | succ count ih =>
    rw [List.range_succ, List.foldl_append, List.replicate_succ', ← List.append_assoc]
    have next := ih.snoc injective v
    rwa [List.length_append, List.length_replicate] at next

/-- A map under construction, with the next number. -/
structure Numbered (key : Nat → κ) (state : (κ → Option ν) × Nat) (xs : List ν) : Prop where
  numbers : Numbers key state.1 xs
  next : state.2 = xs.length

theorem Numbered.start (key : Nat → κ) : Numbered key (fun _ => none, 0) ([] : List ν) := ⟨Numbers.empty key, rfl⟩

/-- A loop that numbers one value so many times. -/
theorem Numbered.replicate [DecidableEq κ] {key : Nat → κ} {state : (κ → Option ν) × Nat} {xs : List ν}
    (numbered : Numbered key state xs) (injective : Function.Injective key) (v : ν) (count : Nat) :
    Numbered key ((List.range count).foldl (fun state _ =>
      (Function.update state.1 (key state.2) (some v), state.2 + 1)) state) (xs ++ List.replicate count v) := by
  induction count with
  | zero => simpa using numbered
  | succ count ih =>
    rw [List.range_succ, List.foldl_append, List.replicate_succ', ← List.append_assoc]
    refine ⟨?_, by simp [ih.next, Nat.add_assoc]⟩
    rw [List.foldl_cons, List.foldl_nil, ih.next]
    exact ih.numbers.snoc injective v

/-- A loop whose rounds each number a block numbers all of them. -/
theorem Numbered.foldl {key : Nat → κ} {step : (κ → Option ν) × Nat → ι → (κ → Option ν) × Nat} {block : ι → List ν}
    (each : ∀ state xs i, Numbered key state xs → Numbered key (step state i) (xs ++ block i)) (is : List ι)
    {state : (κ → Option ν) × Nat} {xs : List ν} (numbered : Numbered key state xs) :
    Numbered key (is.foldl step state) (xs ++ is.flatMap block) := by
  induction is generalizing state xs with
  | nil => simpa using numbered
  | cons i is ih =>
    rw [List.foldl_cons, List.flatMap_cons, ← List.append_assoc]
    exact ih (each state xs i numbered)

/-- The keys in use are those of the numbers below the length. -/
theorem Numbers.isSome_iff {key : Nat → κ} {m : κ → Option ν} {xs : List ν} (numbers : Numbers key m xs) (k : κ) :
    (m k).isSome ↔ ∃ n < xs.length, k = key n := by
  constructor
  · intro used
    by_contra unnumbered
    have away : ∀ n, k ≠ key n := by
      rintro n rfl
      obtain ⟨v, found⟩ := Option.isSome_iff_exists.mp used
      rw [numbers.at_key] at found
      exact unnumbered ⟨n, (List.getElem?_eq_some_iff.mp found).1, rfl⟩
    rw [numbers.elsewhere k away] at used
    cases used
  · rintro ⟨n, inside, rfl⟩
    rw [numbers.at_key, List.getElem?_eq_getElem inside]
    rfl

theorem Numbers.mem_of_some {key : Nat → κ} {m : κ → Option ν} {xs : List ν} (numbers : Numbers key m xs) {k : κ}
    {v : ν} (found : m k = some v) : v ∈ xs := by
  obtain ⟨n, -, rfl⟩ := (numbers.isSome_iff k).mp (by rw [found]; rfl)
  rw [numbers.at_key] at found
  exact List.mem_of_getElem? found

theorem rel_getElem?_iff {R : α → β → Prop} {xs : List α} {ys : List β} :
    (∀ n : Nat, Option.Rel R xs[n]? ys[n]?) ↔ List.Forall₂ R xs ys := by
  induction xs generalizing ys with
  | nil =>
    rw [List.forall₂_nil_left_iff]
    constructor
    · intro agree
      cases ys with
      | nil => rfl
      | cons y ys => exact absurd (agree 0) (by simp)
    · rintro rfl n
      simp
  | cons x xs ih =>
    cases ys with
    | nil =>
      rw [List.forall₂_nil_right_iff]
      refine iff_of_false (fun agree => absurd (agree 0) (by simp)) (by simp)
    | cons y ys =>
      rw [List.forall₂_cons, ← ih]
      constructor
      · exact fun agree => ⟨by simpa using agree 0, fun n => by simpa using agree (n + 1)⟩
      · rintro ⟨first, later⟩ n
        cases n with
        | zero => simpa using first
        | succ n => simpa using later n

/-- Two numberings agree number by number exactly when their lists do. -/
theorem Numbers.agree_iff {κ' ν' : Type} {key : Nat → κ} {key' : Nat → κ'} {m : κ → Option ν} {m' : κ' → Option ν'}
    {xs : List ν} {ys : List ν'} {R : ν → ν' → Prop} (numbers : Numbers key m xs) (numbers' : Numbers key' m' ys) :
    (∀ n, Option.Rel R (m (key n)) (m' (key' n))) ↔ List.Forall₂ R xs ys := by
  simp only [numbers.at_key, numbers'.at_key]
  exact rel_getElem?_iff

/-! ### Blocks -/

theorem sum_map_eq_iff {xs : List ι} {f g : ι → Nat} (le : ∀ x ∈ xs, f x ≤ g x) :
    (xs.map f).sum = (xs.map g).sum ↔ ∀ x ∈ xs, f x = g x := by
  induction xs with
  | nil => simp
  | cons x xs ih =>
    rw [List.forall_mem_cons] at le
    rw [List.forall_mem_cons, ← ih le.2, List.map_cons, List.map_cons, List.sum_cons, List.sum_cons]
    have later : (xs.map f).sum ≤ (xs.map g).sum := List.sum_le_sum le.2
    omega

theorem forall₂_append_iff {R : α → β → Prop} {as as' : List α} {bs bs' : List β} (same : as.length = bs.length) :
    List.Forall₂ R (as ++ as') (bs ++ bs') ↔ List.Forall₂ R as bs ∧ List.Forall₂ R as' bs' := by
  constructor
  · intro related
    have first := List.forall₂_take as.length related
    have later := List.forall₂_drop as.length related
    rw [List.take_left, same, List.take_left] at first
    rw [List.drop_left, same, List.drop_left] at later
    exact ⟨first, later⟩
  · exact fun ⟨first, later⟩ => List.rel_append first later

/-- Two lists of blocks, where those of the first are never longer, are related
exactly when their blocks are. -/
theorem forall₂_flatMap_iff {R : α → β → Prop} {xs : List ι} {as : ι → List α} {bs : ι → List β}
    (shorter : ∀ x ∈ xs, (as x).length ≤ (bs x).length) :
    List.Forall₂ R (xs.flatMap as) (xs.flatMap bs) ↔ ∀ x ∈ xs, List.Forall₂ R (as x) (bs x) := by
  have blocks : (∀ x ∈ xs, (as x).length = (bs x).length) →
      (List.Forall₂ R (xs.flatMap as) (xs.flatMap bs) ↔ ∀ x ∈ xs, List.Forall₂ R (as x) (bs x)) := by
    intro same
    clear shorter
    induction xs with
    | nil => simp
    | cons x xs ih =>
      rw [List.forall_mem_cons] at same
      rw [List.flatMap_cons, List.flatMap_cons, forall₂_append_iff same.1, ih same.2, List.forall_mem_cons]
  constructor
  · intro related
    have lengths := related.length_eq
    rw [List.length_flatMap, List.length_flatMap, sum_map_eq_iff shorter] at lengths
    exact (blocks lengths).mp related
  · intro each
    exact (blocks fun x member => (each x member).length_eq).mpr each

/-- The values of a list, each so many times. -/
def blocksOf (count : ι → Nat) (value : ι → ν) (is : List ι) : List ν :=
  is.flatMap fun i => List.replicate (count i) (value i)

theorem blocksOf_length (count : ι → Nat) (value : ι → ν) (is : List ι) :
    (blocksOf count value is).length = (is.map count).sum := by
  rw [blocksOf, List.length_flatMap]
  simp only [List.length_replicate]

/-- The block of a value begins behind the blocks of the values before it. -/
theorem blocksOf_getElem? (count : ι → Nat) (value : ι → ν) (earlier : List ι) (i : ι) (later : List ι) {j : Nat}
    (inside : j < count i) :
    (blocksOf count value (earlier ++ i :: later))[(earlier.map count).sum + j]? = some (value i) := by
  have split : blocksOf count value (earlier ++ i :: later) =
      blocksOf count value earlier ++ (List.replicate (count i) (value i) ++ blocksOf count value later) := by
    rw [blocksOf, List.flatMap_append, List.flatMap_cons]
    rfl
  rw [split, ← blocksOf_length count value earlier, List.getElem?_append_right (Nat.le_add_right _ _),
    Nat.add_sub_cancel_left, List.getElem?_append_left (by rwa [List.length_replicate]),
    List.getElem?_replicate_of_lt inside]

/-- A repeated element against a list whose elements it is related to alike. -/
theorem forall₂_replicate_iff {R : α → β → Prop} {a : α} {bs : List β} {related : Prop}
    (alike : ∀ b ∈ bs, R a b ↔ related) (count : Nat) :
    List.Forall₂ R (List.replicate count a) bs ↔ count = bs.length ∧ (bs ≠ [] → related) := by
  induction bs generalizing count with
  | nil => cases count <;> simp [List.replicate_succ]
  | cons b bs ih =>
    rw [List.forall_mem_cons] at alike
    cases count with
    | zero => simp
    | succ count =>
      rw [List.replicate_succ, List.forall₂_cons, ih alike.2, alike.1, List.length_cons, Nat.add_right_cancel_iff]
      simp only [ne_eq, reduceCtorEq, not_false_eq_true, forall_const]
      tauto

end GpuTelemetry
