import Mathlib.Algebra.BigOperators.Group.Finset.Piecewise
import Mathlib.Data.List.Basic
import Mathlib.Logic.Function.Basic

/-! Maps filled by writes in order, where the last write to a key stays. Nothing
here mentions a particular program. -/

namespace GpuTelemetry

variable {α κ ν : Type}

/-- The last member of a list with a property. -/
theorem exists_last {p : α → Prop} {xs : List α} (found : ∃ x ∈ xs, p x) :
    ∃ earlier x later, xs = earlier ++ x :: later ∧ p x ∧ ∀ y ∈ later, ¬p y := by
  induction xs with
  | nil => simp at found
  | cons x xs ih =>
    by_cases inTail : ∃ y ∈ xs, p y
    · obtain ⟨earlier, y, later, rfl, holds, quiet⟩ := ih inTail
      exact ⟨x :: earlier, y, later, by simp, holds, quiet⟩
    · obtain ⟨y, member, holds⟩ := found
      rcases List.mem_cons.mp member with rfl | tail
      · exact ⟨[], y, xs, rfl, holds, fun z inXs holdsZ => inTail ⟨z, inXs, holdsZ⟩⟩
      · exact absurd ⟨y, tail, holds⟩ inTail

/-- A field that each round either sets or keeps ends as the last one set. -/
theorem foldl_last {σ ι β : Type} {step : σ → ι → σ} {g : σ → β} {sets : ι → Option β} {xs : List ι}
    (each : ∀ s, ∀ x ∈ xs, g (step s x) = (sets x).getD (g s)) (s : σ) :
    g (xs.foldl step s) = (xs.filterMap sets).getLast?.getD (g s) := by
  induction xs generalizing s with
  | nil => rfl
  | cons x xs ih =>
    rw [List.foldl_cons, ih (fun s y member => each s y (by simp [member])), each s x (by simp), List.filterMap_cons]
    cases sets x with
    | none => rfl
    | some name => simp [List.getLast?_cons]

variable [DecidableEq κ]

/-- One value written under each of the keys. -/
def writeKeys (m : κ → Option ν) (keys : List κ) (v : ν) : κ → Option ν :=
  keys.foldl (fun m key => Function.update m key (some v)) m

/-- Several such writes, in order. -/
def writeAll (m : κ → Option ν) (writes : List (List κ × ν)) : κ → Option ν :=
  writes.foldl (fun m write => writeKeys m write.1 write.2) m

theorem writeKeys_apply (m : κ → Option ν) (keys : List κ) (v : ν) (key : κ) :
    writeKeys m keys v key = if key ∈ keys then some v else m key := by
  induction keys generalizing m with
  | nil => simp [writeKeys]
  | cons first keys ih =>
    have step : writeKeys m (first :: keys) v = writeKeys (Function.update m first (some v)) keys v := rfl
    rw [step, ih]
    by_cases inTail : key ∈ keys
    · simp [inTail]
    · by_cases same : key = first
      · simp [same]
      · simp [inTail, same]

theorem writeAll_append (m : κ → Option ν) (earlier later : List (List κ × ν)) :
    writeAll m (earlier ++ later) = writeAll (writeAll m earlier) later :=
  List.foldl_append

theorem writeAll_quiet {writes : List (List κ × ν)} {key : κ} (quiet : ∀ write ∈ writes, key ∉ write.1)
    (m : κ → Option ν) : writeAll m writes key = m key := by
  induction writes generalizing m with
  | nil => rfl
  | cons write writes ih =>
    have step : writeAll m (write :: writes) = writeAll (writeKeys m write.1 write.2) writes := rfl
    rw [step, ih fun later member => quiet later (by simp [member]), writeKeys_apply, if_neg (quiet write (by simp))]

/-- The last write to a key stays. -/
theorem writeAll_last {earlier later : List (List κ × ν)} {keys : List κ} {v : ν} {key : κ} (member : key ∈ keys)
    (quiet : ∀ write ∈ later, key ∉ write.1) (m : κ → Option ν) :
    writeAll m (earlier ++ (keys, v) :: later) key = some v := by
  have step : writeAll (writeAll m earlier) ((keys, v) :: later) =
      writeAll (writeKeys (writeAll m earlier) keys v) later := rfl
  rw [writeAll_append, step, writeAll_quiet quiet, writeKeys_apply, if_pos member]

/-- The only write to a key stays, wherever it comes. -/
theorem writeAll_only {writes : List (List κ × ν)} {write : List κ × ν} {key : κ} (member : write ∈ writes)
    (writesKey : key ∈ write.1) (only : ∀ other ∈ writes, key ∈ other.1 → other = write) (m : κ → Option ν) :
    writeAll m writes key = some write.2 := by
  obtain ⟨earlier, last, later, rfl, holds, quiet⟩ :=
    exists_last (p := fun other : List κ × ν => key ∈ other.1) ⟨write, member, writesKey⟩
  rw [writeAll_last holds quiet, only last (by simp) holds]

/-! ### What stays and what is overwritten -/

section

variable {ι M : Type} (key : ι → κ) (value : ι → M)

/-- The value of the last item with a key. -/
def lastOf (items : List ι) (k : κ) : Option M :=
  (items.filterMap fun i => if key i = k then some (value i) else none).getLast?

/-- The items before another one with the same key. -/
def overwritten : List ι → List ι
  | [] => []
  | i :: later => if ∃ j ∈ later, key j = key i then i :: overwritten later else overwritten later

theorem lastOf_cons (i : ι) (later : List ι) (k : κ) :
    lastOf key value (i :: later) k =
      (lastOf key value later k).or (if key i = k then some (value i) else none) := by
  unfold lastOf
  rw [List.filterMap_cons]
  split
  · rename_i here
    rw [here, Option.or_none]
  · rename_i here
    rw [here, List.getLast?_cons]
    cases (later.filterMap fun j => if key j = k then some (value j) else none).getLast? <;> rfl

theorem lastOf_eq_none_iff {items : List ι} {k : κ} : lastOf key value items k = none ↔ ∀ i ∈ items, key i ≠ k := by
  simp [lastOf]

/-- The values of all items are those that stay under the keys and those that
are overwritten. -/
theorem sum_last_add_overwritten [AddCommMonoid M] {keys : Finset κ} {items : List ι}
    (known : ∀ i ∈ items, key i ∈ keys) :
    ∑ k ∈ keys, (lastOf key value items k).getD 0 + ((overwritten key items).map value).sum =
      (items.map value).sum := by
  induction items with
  | nil => simp [lastOf, overwritten]
  | cons i later ih =>
    obtain ⟨here, others⟩ := List.forall_mem_cons.mp known
    have total := ih others
    simp only [List.map_cons, List.sum_cons, ← total]
    by_cases again : ∃ j ∈ later, key j = key i
    · -- the item is overwritten: what stays is what stays of the later ones
      have stays : ∀ k ∈ keys, (lastOf key value (i :: later) k).getD 0 = (lastOf key value later k).getD 0 := by
        intro k _
        rw [lastOf_cons]
        by_cases same : key i = k
        · subst same
          obtain ⟨j, inLater, sameKey⟩ := again
          cases last : lastOf key value later (key i) with
          | none => exact absurd sameKey ((lastOf_eq_none_iff key value).mp last j inLater)
          | some v => rfl
        · rw [if_neg same, Option.or_none]
      rw [overwritten, if_pos again, Finset.sum_congr rfl stays, List.map_cons, List.sum_cons, add_left_comm]
    · have stays : ∀ k ∈ keys, (lastOf key value (i :: later) k).getD 0 =
          (if key i = k then value i else 0) + (lastOf key value later k).getD 0 := by
        intro k _
        rw [lastOf_cons]
        by_cases same : key i = k
        · have absent : lastOf key value later k = none :=
            (lastOf_eq_none_iff key value).mpr fun j inLater sameKey => again ⟨j, inLater, sameKey.trans same.symm⟩
          simp [absent, same]
        · simp [same]
      rw [overwritten, if_neg again, Finset.sum_congr rfl stays, Finset.sum_add_distrib, Finset.sum_ite_eq,
        if_pos here, add_assoc]

end

end GpuTelemetry
