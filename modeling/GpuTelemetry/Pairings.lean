import Mathlib.Data.List.Nodup

/-! Pairs of the members of a list: neighbours two by two, closed to a ring, and
all combinations. Nothing here mentions a particular program. -/

namespace GpuTelemetry

variable {α : Type}

/-- The members at even positions. -/
def everySecond : List α → List α
  | [] => []
  | [a] => [a]
  | a :: _ :: xs => a :: everySecond xs

/-- Each member at an even position with the next one. -/
def neighbours (xs : List α) : List (α × α) := (everySecond xs).zip (everySecond xs.tail)

/-- The last member with the first one. -/
def closingPair : List α → List (α × α)
  | [] => []
  | a :: xs => [((a :: xs).getLast (List.cons_ne_nil a xs), a)]

/-- The combinations of two members, in the order of their positions. -/
def pairsOf : List α → List (α × α)
  | [] => []
  | a :: xs => xs.map (fun b => (a, b)) ++ pairsOf xs

def pairMembers (pairs : List (α × α)) : List α := pairs.flatMap fun p => [p.1, p.2]

@[simp] theorem pairMembers_append (pairs pairs' : List (α × α)) :
    pairMembers (pairs ++ pairs') = pairMembers pairs ++ pairMembers pairs' := List.flatMap_append

theorem pairMembers_length (pairs : List (α × α)) : (pairMembers pairs).length = 2 * pairs.length := by
  induction pairs with
  | nil => rfl
  | cons p pairs ih =>
    rw [pairMembers, List.flatMap_cons, List.length_append, List.length_cons]
    exact (congrArg (2 + ·) ih).trans (Nat.add_comm 2 _)

theorem everySecond_cons (a : α) (xs : List α) : everySecond (a :: xs) = a :: everySecond xs.tail := by
  cases xs <;> rfl

@[simp] theorem neighbours_cons_cons (a b : α) (xs : List α) : neighbours (a :: b :: xs) = (a, b) :: neighbours xs := by
  rw [neighbours, List.tail_cons, everySecond_cons, everySecond_cons]
  rfl

/-- The neighbours go through the list in order, up to a member that is left over. -/
theorem pairMembers_neighbours : ∀ xs : List α,
    pairMembers (neighbours xs) = if xs.length % 2 = 0 then xs else xs.dropLast
  | [] => rfl
  | [_] => rfl
  | a :: b :: xs => by
    have later := pairMembers_neighbours xs
    have parity : (a :: b :: xs).length % 2 = xs.length % 2 := by
      rw [List.length_cons, List.length_cons]
      omega
    rw [neighbours_cons_cons, parity]
    have first : pairMembers ((a, b) :: neighbours xs) = a :: b :: pairMembers (neighbours xs) := rfl
    rw [first, later]
    split
    · rfl
    · rename_i odd
      cases xs with
      | nil => exact absurd rfl odd
      | cons c xs => rfl

/-- The neighbours, with the member that is left over paired with the first one. -/
def ringPairs (xs : List α) : List (α × α) :=
  if xs.length % 2 = 0 then neighbours xs else neighbours xs ++ closingPair xs

/-- The pairs go through the list in order, and return to its start when a member is left over. -/
theorem pairMembers_ringPairs (xs : List α) :
    pairMembers (ringPairs xs) = xs ++ if xs.length % 2 = 0 then [] else xs.head?.toList := by
  rw [ringPairs]
  split
  · rename_i even
    rw [pairMembers_neighbours, if_pos even, List.append_nil]
  · rename_i odd
    cases xs with
    | nil => exact absurd rfl odd
    | cons a xs =>
      rw [pairMembers_append, pairMembers_neighbours, if_neg odd]
      calc (a :: xs).dropLast ++ [(a :: xs).getLast (List.cons_ne_nil a xs), a]
          = ((a :: xs).dropLast ++ [(a :: xs).getLast (List.cons_ne_nil a xs)]) ++ [a] := by
            rw [List.append_assoc]
            rfl
        _ = (a :: xs) ++ [a] := by rw [List.dropLast_append_getLast]

/-- The two members of a pair stand one behind the other. -/
theorem neighbours_sublist : ∀ (xs : List α), ∀ p ∈ neighbours xs, [p.1, p.2].Sublist xs
  | [], _, member => nomatch member
  | [_], _, member => nomatch member
  | a :: b :: xs, p, member => by
    rw [neighbours_cons_cons, List.mem_cons] at member
    rcases member with rfl | later
    · exact ((List.nil_sublist xs).cons_cons b).cons_cons a
    · exact ((neighbours_sublist xs p later).cons b).cons a

theorem pairsOf_sublist {xs : List α} {p : α × α} (member : p ∈ pairsOf xs) : [p.1, p.2].Sublist xs := by
  induction xs with
  | nil => cases member
  | cons a xs ih =>
    rcases List.mem_append.mp member with first | later
    · obtain ⟨b, inRest, rfl⟩ := List.mem_map.mp first
      exact (List.singleton_sublist.mpr inRest).cons_cons a
    · exact (ih later).cons a

/-- No pair has a member outside of the list, or the same one twice. -/
structure ProperPairs (xs : List α) (pairs : List (α × α)) : Prop where
  left : ∀ p ∈ pairs, p.1 ∈ xs
  right : ∀ p ∈ pairs, p.2 ∈ xs
  distinct : ∀ p ∈ pairs, p.1 ≠ p.2

variable {xs : List α}

theorem properPairs_of_sublist (nodup : xs.Nodup) {pairs : List (α × α)}
    (sublists : ∀ p ∈ pairs, [p.1, p.2].Sublist xs) : ProperPairs xs pairs where
  left p member := (sublists p member).subset (by simp)
  right p member := (sublists p member).subset (by simp)
  distinct p member := by simpa using (sublists p member).nodup nodup

theorem ProperPairs.append {pairs pairs' : List (α × α)} (first : ProperPairs xs pairs)
    (second : ProperPairs xs pairs') : ProperPairs xs (pairs ++ pairs') where
  left := List.forall_mem_append.mpr ⟨first.left, second.left⟩
  right := List.forall_mem_append.mpr ⟨first.right, second.right⟩
  distinct := List.forall_mem_append.mpr ⟨first.distinct, second.distinct⟩

theorem closingPair_proper (nodup : xs.Nodup) (two : 2 ≤ xs.length) : ProperPairs xs (closingPair xs) := by
  match xs, two with
  | a :: b :: rest, _ =>
    have atEnd : (a :: b :: rest).getLast (List.cons_ne_nil a _) ∈ b :: rest := by
      rw [List.getLast_cons (List.cons_ne_nil b rest)]
      exact List.getLast_mem _
    have notFirst : a ∉ b :: rest := (List.nodup_cons.mp nodup).1
    constructor
    · intro p member
      rw [List.mem_singleton.mp member]
      exact List.mem_cons_of_mem a atEnd
    · intro p member
      rw [List.mem_singleton.mp member]
      exact List.mem_cons_self
    · intro p member same
      rw [List.mem_singleton.mp member] at same
      have isLast : (a :: b :: rest).getLast (List.cons_ne_nil a _) = a := same
      rw [isLast] at atEnd
      exact notFirst atEnd

theorem ringPairs_proper (nodup : xs.Nodup) (two : 2 ≤ xs.length) : ProperPairs xs (ringPairs xs) := by
  have proper := properPairs_of_sublist nodup (neighbours_sublist xs)
  rw [ringPairs]
  split
  · exact proper
  · exact proper.append (closingPair_proper nodup two)

theorem ringPairs_length (nonempty : xs ≠ []) : (ringPairs xs).length = (xs.length + 1) / 2 := by
  have total := congrArg List.length (pairMembers_ringPairs xs)
  rw [pairMembers_length, List.length_append] at total
  obtain ⟨a, rest, rfl⟩ := List.exists_cons_of_ne_nil nonempty
  split at total
  · rw [List.length_nil] at total
    omega
  · rw [List.head?_cons, Option.toList_some, List.length_singleton] at total
    omega

theorem pairsOf_proper (nodup : xs.Nodup) : ProperPairs xs (pairsOf xs) :=
  properPairs_of_sublist nodup fun _ => pairsOf_sublist

/-- Every member occurs once, but for the first one of an odd number of members. -/
theorem ringPairs_count [DecidableEq α] [BEq α] [LawfulBEq α] (nodup : xs.Nodup) {a : α} (member : a ∈ xs) :
    (pairMembers (ringPairs xs)).count a = if xs.length % 2 = 1 ∧ xs.head? = some a then 2 else 1 := by
  rw [pairMembers_ringPairs, List.count_append, List.count_eq_one_of_mem nodup member]
  rcases Nat.mod_two_eq_zero_or_one xs.length with even | odd
  · rw [if_pos even, if_neg fun both => by omega]
    rfl
  · rw [if_neg (by omega : ¬xs.length % 2 = 0)]
    obtain ⟨b, rest, rfl⟩ := List.exists_cons_of_ne_nil (List.ne_nil_of_mem member)
    rw [List.head?_cons, Option.toList_some, List.count_singleton]
    by_cases first : b = a
    · rw [if_pos (beq_iff_eq.mpr first), if_pos ⟨odd, congrArg some first⟩]
    · rw [if_neg (mt beq_iff_eq.mp first), if_neg fun both => first (Option.some.inj both.2)]

variable [DecidableEq α]

/-- The pair of two members, in either order. -/
def isPair (a b : α) (p : α × α) : Bool := decide (p = (a, b) ∨ p = (b, a))

theorem isPair_comm (a b : α) : isPair a b = isPair b a := by
  funext p
  rw [isPair, isPair, decide_eq_decide]
  exact or_comm

theorem pairsOf_isPair_eq_zero {a b : α} (absent : a ∉ xs) : (pairsOf xs).countP (isPair a b) = 0 := by
  rw [List.countP_eq_zero]
  intro p member isHere
  have sublist := pairsOf_sublist member
  rcases of_decide_eq_true isHere with rfl | rfl
  · exact absent (sublist.subset (by simp))
  · exact absent (sublist.subset (by simp))

/-- The combinations with the first member have each of the others once. -/
theorem pairsOf_cons_isPair {a b : α} (nodup : (a :: xs).Nodup) (member : b ∈ xs) :
    (pairsOf (a :: xs)).countP (isPair a b) = 1 := by
  obtain ⟨absent, nodupRest⟩ := List.nodup_cons.mp nodup
  have same : (isPair a b ∘ fun c => (a, c)) = fun c => c == b := by
    funext c
    have differs : a ≠ b := fun equal => absent (equal ▸ member)
    rw [Function.comp_apply, isPair, decide_eq_decide.mpr (show (a, c) = (a, b) ∨ (a, c) = (b, a) ↔ c = b by
      simp [differs]), beq_eq_decide]
  rw [pairsOf, List.countP_append, List.countP_map, same, pairsOf_isPair_eq_zero absent]
  exact List.count_eq_one_of_mem nodupRest member

/-- Every two different members are combined once. -/
theorem pairsOf_isPair (nodup : xs.Nodup) {a b : α} (inA : a ∈ xs) (inB : b ∈ xs) (differ : a ≠ b) :
    (pairsOf xs).countP (isPair a b) = 1 := by
  induction xs with
  | nil => cases inA
  | cons c xs ih =>
    rcases List.mem_cons.mp inA with rfl | laterA
    · exact pairsOf_cons_isPair nodup ((List.mem_cons.mp inB).resolve_left differ.symm)
    · rcases List.mem_cons.mp inB with rfl | laterB
      · rw [isPair_comm]
        exact pairsOf_cons_isPair nodup laterA
      · obtain ⟨absent, nodupRest⟩ := List.nodup_cons.mp nodup
        have none : (xs.map fun d => (c, d)).countP (isPair a b) = 0 := by
          rw [List.countP_map, List.countP_eq_zero]
          intro d _ isHere
          rcases of_decide_eq_true isHere with same | same
          · exact absent ((Prod.mk.inj same).1 ▸ laterA)
          · exact absent ((Prod.mk.inj same).1 ▸ laterB)
        rw [pairsOf, List.countP_append, none, ih nodupRest laterA laterB]

end GpuTelemetry
