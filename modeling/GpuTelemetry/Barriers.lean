import Mathlib.Data.Fintype.Card

/-! A barrier that parties wait at, as Python's `threading.Barrier`: the last
party to come lets all of them through, and a wait that times out breaks the
barrier for good. Nothing here mentions a particular program. -/

namespace GpuTelemetry

inductive BarrierState
  | filling
  | draining
  | broken
  deriving DecidableEq, Repr

/-- `waiting` holds the parties inside `wait`. -/
structure Barrier (ι : Type) where
  parties : Nat
  state : BarrierState
  waiting : Finset ι

/-- How far a call of `wait` is: still blocked, returned, or raised `BrokenBarrierError`. -/
inductive Waited
  | blocked
  | passed
  | broken
  deriving DecidableEq, Repr

namespace Barrier

variable {ι : Type}

def new (parties : Nat) : Barrier ι := ⟨parties, .filling, ∅⟩

section Steps

variable [DecidableEq ι]

/-- The last party to leave makes room for the next round. -/
def drain (b : Barrier ι) (waiting : Finset ι) : Barrier ι :=
  { b with state := if waiting = ∅ then .filling else .draining, waiting := waiting }

/-- A call of `wait`, up to where it blocks. While the barrier drains nobody comes in. -/
inductive Enters (b : Barrier ι) (i : ι) : Waited → Barrier ι → Prop
  | blocks : b.state = .filling → b.waiting.card + 1 < b.parties →
      Enters b i .blocked { b with waiting := insert i b.waiting }
  | releases : b.state = .filling → b.waiting.card + 1 = b.parties → Enters b i .passed (b.drain b.waiting)
  | refuses : b.state = .broken → Enters b i .broken b

/-- A blocked call of `wait` that goes on. Only where `impatient` holds can it time out. -/
inductive Wakes (impatient : Prop) (b : Barrier ι) (i : ι) : Waited → Barrier ι → Prop
  | leaves : i ∈ b.waiting → b.state = .draining → Wakes impatient b i .passed (b.drain (b.waiting.erase i))
  | abandons : i ∈ b.waiting → b.state = .broken →
      Wakes impatient b i .broken { b with waiting := b.waiting.erase i }
  | timesOut : impatient → i ∈ b.waiting → b.state = .filling →
      Wakes impatient b i .broken { b with state := .broken, waiting := b.waiting.erase i }

end Steps

/-! ### One round of waits -/

/-- Where a party is in a round. -/
inductive Place
  | before
  | inside
  | through
  | refused
  deriving DecidableEq, Repr

def Place.after : Waited → Place
  | .blocked => .inside
  | .passed => .through
  | .broken => .refused

/-- A round in which each party waits once. Either somebody is through, and
then nobody is refused, or somebody is refused, and then nobody is through. -/
inductive Round (b : Barrier ι) (place : ι → Place) : Prop
  | gathering : (∀ j, place j ≠ .through) → b.state ≠ .draining → (∀ j, place j = .refused → b.state = .broken) →
      b.waiting.card < b.parties → Round b place
  | draining : (∀ j, place j = .inside ∨ place j = .through) → b.state = .draining → b.waiting ≠ ∅ → Round b place
  | finished : (∀ j, place j = .through) → b.state = .filling → b.waiting = ∅ → Round b place

/-- The parties inside `wait` are those in the middle of the round. -/
def Matches (b : Barrier ι) (place : ι → Place) : Prop := ∀ j, j ∈ b.waiting ↔ place j = .inside

variable {b b' : Barrier ι} {place : ι → Place} {i : ι} {waited : Waited} {impatient : Prop}

theorem Round.through (round : b.Round place) {j : ι} (some : place i = .through) :
    place j = .inside ∨ place j = .through := by
  cases round with
  | gathering nobody => exact absurd some (nobody i)
  | draining all => exact all j
  | finished all => exact .inr (all j)

/-- A drained barrier that all have left is as new. -/
theorem Round.next (round : b.Round place) (within : b.Matches place) (positive : 0 < b.parties)
    (all : ∀ j, place j = .through) : b.Round (fun _ => .before) ∧ b.Matches (fun _ : ι => .before) := by
  have empty : b.waiting = ∅ := by
    refine Finset.eq_empty_of_forall_notMem fun j member => ?_
    rw [within j, all j] at member
    exact Place.noConfusion member
  refine ⟨?_, fun j => by simp [empty]⟩
  cases round with
  | finished _ filling => exact .gathering (by simp) (by simp [filling]) (by simp) (by simpa [empty] using positive)
  | draining _ _ some => exact absurd empty some
  | gathering _ quiet _ room => exact .gathering (by simp) quiet (by simp) room

theorem Round.refused (round : b.Round place) (refused : place i = .refused) : b.state = .broken := by
  cases round with
  | gathering _ _ refusals => exact refusals i refused
  | draining all => exact absurd (all i) (by simp [refused])
  | finished all => exact absurd (all i) (by simp [refused])

/-- Whoever is held by a filling barrier waits for a party that has not come. -/
theorem Round.missing [Fintype ι] (round : b.Round place) (within : b.Matches place)
    (all : b.parties ≤ Fintype.card ι) (filling : b.state = .filling) (inside : place i = .inside) :
    ∃ j, place j = .before := by
  cases round with
  | draining _ draining => simp [filling] at draining
  | finished through => simp [through i] at inside
  | gathering nobody _ refusals room =>
    by_contra missing
    push Not at missing
    have everybody : b.waiting = Finset.univ := by
      refine Finset.eq_univ_iff_forall.mpr fun j => (within j).mpr ?_
      cases here : place j with
      | inside => rfl
      | before => exact absurd here (missing j)
      | through => exact absurd here (nobody j)
      | refused => simp [filling] at refusals; exact absurd here (refusals j)
    rw [everybody, Finset.card_univ] at room
    omega

variable [DecidableEq ι]

theorem Enters.parties (enters : b.Enters i waited b') : b'.parties = b.parties := by
  cases enters <;> rfl

theorem Enters.settled (enters : b.Enters i waited b') : b.state ≠ .draining := by
  cases enters <;> simp [*]

theorem Wakes.parties (wakes : b.Wakes impatient i waited b') : b'.parties = b.parties := by
  cases wakes <;> rfl

theorem Matches.enters (within : b.Matches place) (enters : b.Enters i waited b') (outside : place i = .before) :
    b'.Matches (Function.update place i (.after waited)) := by
  intro j
  have absent : i ∉ b.waiting := fun member => by
    rw [(within i).mp member] at outside
    exact Place.noConfusion outside
  by_cases same : j = i
  · subst same
    cases enters <;> simp [Place.after, drain, absent]
  · cases enters <;> simp [drain, same, within j]

theorem Matches.wakes (within : b.Matches place) (wakes : b.Wakes impatient i waited b') :
    b'.Matches (Function.update place i (.after waited)) := by
  intro j
  by_cases same : j = i
  · subst same
    cases wakes <;> simp [Place.after, drain]
  · cases wakes <;> simp [drain, same, within j]

/-- Who waits with all the others gathered waits with everybody. -/
theorem Matches.everybody [Fintype ι] (within : b.Matches place) (outside : place i = .before)
    (enough : Fintype.card ι ≤ b.parties) (last : b.waiting.card + 1 = b.parties) {j : ι} (other : j ≠ i) :
    place j = .inside := by
  have absent : i ∉ b.waiting := fun member => by
    rw [(within i).mp member] at outside
    exact Place.noConfusion outside
  have full : insert i b.waiting = Finset.univ := by
    rw [← Finset.card_eq_iff_eq_univ]
    refine le_antisymm (Finset.card_le_univ _) ?_
    rw [Finset.card_insert_of_notMem absent]
    omega
  have member : j ∈ insert i b.waiting := full ▸ Finset.mem_univ j
  exact (within j).mp (Finset.mem_of_mem_insert_of_ne member other)

theorem Round.enters [Fintype ι] (round : b.Round place) (within : b.Matches place)
    (enough : Fintype.card ι ≤ b.parties) (enters : b.Enters i waited b') (outside : place i = .before) :
    b'.Round (Function.update place i (.after waited)) := by
  cases round with
  | finished all => exact absurd (all i) (by simp [outside])
  | draining all => exact absurd (all i) (by simp [outside])
  | gathering nobody quiet refusals room =>
    cases enters with
    | blocks filling more =>
      refine .gathering (fun j => ?_) (by simp [filling]) (fun j => ?_) ?_
      · by_cases same : j = i <;> simp [same, Place.after, nobody j]
      · by_cases same : j = i
        · simp [same, Place.after]
        · simpa [same, Place.after] using refusals j
      · exact Nat.lt_of_le_of_lt (Finset.card_insert_le _ _) more
    | releases filling last =>
      have gathered : ∀ j, j ≠ i → place j = .inside := fun j => within.everybody outside enough last
      by_cases alone : b.waiting = ∅
      · refine .finished (fun j => ?_) (by simp [drain, alone]) alone
        by_cases same : j = i
        · simp [same, Place.after]
        · have member := (within j).mpr (gathered j same)
          simp [alone] at member
      · refine .draining (fun j => ?_) (by simp [drain, alone]) alone
        by_cases same : j = i
        · simp [same, Place.after]
        · simp [same, gathered j same]
    | refuses broken =>
      refine .gathering (fun j => ?_) quiet (fun _ _ => broken) room
      by_cases same : j = i <;> simp [same, Place.after, nobody j]

theorem Round.wakes (round : b.Round place) (within : b.Matches place) (wakes : b.Wakes impatient i waited b') :
    b'.Round (Function.update place i (.after waited)) := by
  cases round with
  | finished all filling empty => cases wakes <;> simp_all
  | draining all draining some =>
    cases wakes with
    | leaves member =>
      by_cases last : b.waiting.erase i = ∅
      · refine .finished (fun j => ?_) (by simp [drain, last]) last
        by_cases same : j = i
        · simp [same, Place.after]
        · have absent : j ∉ b.waiting := fun waits => by
            have left : j ∈ b.waiting.erase i := Finset.mem_erase.mpr ⟨same, waits⟩
            simp [last] at left
          simpa [same, ← within j, absent] using all j
      · refine .draining (fun j => ?_) (by simp [drain, last]) last
        by_cases same : j = i <;> simp [same, Place.after, all j]
    | abandons _ broken => simp [draining] at broken
    | timesOut _ _ filling => simp [draining] at filling
  | gathering nobody quiet refusals room =>
    have fewer : (b.waiting.erase i).card < b.parties := Nat.lt_of_le_of_lt (Finset.card_erase_le) room
    have blocked : ∀ j, Function.update place i Place.refused j ≠ .through := fun j => by
      by_cases same : j = i <;> simp [same, nobody j]
    cases wakes with
    | leaves _ draining => exact absurd draining quiet
    | abandons _ broken => exact .gathering blocked quiet (fun _ _ => broken) fewer
    | timesOut _ _ _ => exact .gathering blocked (by simp) (fun _ _ => rfl) fewer

/-- Only a wait that times out breaks a barrier. -/
theorem Enters.whole (enters : b.Enters i waited b') (whole : b.state ≠ .broken) : b'.state ≠ .broken := by
  cases enters with
  | blocks filling => simp [filling]
  | releases => unfold drain; dsimp only; split <;> simp
  | refuses broken => exact absurd broken whole

theorem Wakes.whole (wakes : b.Wakes impatient i waited b') (patient : ¬impatient) (whole : b.state ≠ .broken) :
    b'.state ≠ .broken := by
  cases wakes with
  | leaves => unfold drain; dsimp only; split <;> simp
  | abandons _ broken => exact absurd broken whole
  | timesOut impatient => exact absurd impatient patient

/-- A barrier that is whole lets a party in, unless others are still leaving. -/
theorem Round.can_enter (round : b.Round place) (i : ι) (settled : b.state ≠ .draining)
    (outside : place i = .before) : ∃ waited b', b.Enters i waited b' := by
  cases round with
  | finished all => exact absurd (all i) (by simp [outside])
  | draining _ draining => exact absurd draining settled
  | gathering _ _ _ room =>
    cases state : b.state with
    | draining => exact absurd state settled
    | broken => exact ⟨_, _, .refuses state⟩
    | filling =>
      by_cases last : b.waiting.card + 1 = b.parties
      · exact ⟨_, _, .releases state last⟩
      · exact ⟨_, _, .blocks state (by omega)⟩

theorem can_wake (patience : impatient ∨ b.state ≠ .filling) (inside : i ∈ b.waiting) :
    ∃ waited b', b.Wakes impatient i waited b' := by
  cases state : b.state with
  | draining => exact ⟨_, _, .leaves inside state⟩
  | broken => exact ⟨_, _, .abandons inside state⟩
  | filling => exact ⟨_, _, .timesOut (patience.resolve_right (fun not => not state)) inside state⟩

end Barrier

end GpuTelemetry
