import GpuTelemetry.Decorators

namespace GpuTelemetry

variable {σ τ α : Type}

/-- The statement that the loop of `retry` ends in: the `return` or an exception
of the function, the `raise OutOfRetries` or the `raise AssertionError`. -/
inductive RetryExit (α : Type)
  | settled (out : Except PyError α)
  | outOfRetries
  | illegalState

def RetryExit.result : RetryExit α → Except PyError α
  | .settled out => out
  | .outOfRetries => .error .outOfRetries
  | .illegalState =>
    .error (.assertionError ("Illegal state. There is always at least one try, so we must always enter the loop " ++
      "body which either returns, throws an exception, or continues iteration.").toList)

/-- The loop of `retry`, with the statement it ends in. -/
def retryLoopExit (sleep : τ → σ → σ) (f : Effect σ α) : List (Option τ) → σ → RetryExit α × σ
  | [], s => (.illegalState, s)
  | sleepSec :: retrySchedule, s =>
    match f s with
    | (.error .retry, s') =>
      match sleepSec with
      | none => (.outOfRetries, s')
      | some t => retryLoopExit sleep f retrySchedule (sleep t s')
    | (out, s') => (.settled out, s')

theorem retryLoopExit_settled {sleep : τ → σ → σ} {f : Effect σ α} {sleepSec : Option τ}
    {schedule : List (Option τ)} {s s' : σ} {out : Except PyError α} (run : f s = (out, s'))
    (settled : out ≠ .error .retry) : retryLoopExit sleep f (sleepSec :: schedule) s = (.settled out, s') := by
  rw [retryLoopExit, run]
  split
  · rename_i same
    exact absurd (congrArg Prod.fst same) settled
  · rename_i same
    cases same
    rfl

/-- The loop returns or raises what the statement does that it ends in. -/
theorem retryLoop_eq_exit (sleep : τ → σ → σ) (f : Effect σ α) (schedule : List (Option τ)) (s : σ) :
    retryLoop sleep f schedule s =
      ((retryLoopExit sleep f schedule s).1.result, (retryLoopExit sleep f schedule s).2) := by
  induction schedule generalizing s with
  | nil => rfl
  | cons sleepSec schedule ih =>
    by_cases again : (f s).1 = .error .retry
    · have run : f s = (.error .retry, (f s).2) := Prod.ext again rfl
      cases sleepSec with
      | none => rw [retryLoop, retryLoopExit, run]; rfl
      | some t =>
        rw [retryLoop, retryLoopExit, run]
        exact ih (sleep t (f s).2)
    · have run : f s = ((f s).1, (f s).2) := rfl
      rw [retryLoop_settled run again, retryLoopExit_settled run again]
      rfl

/-- What the wrapper does, in order. -/
inductive RetryEvent (τ : Type)
  | call
  | sleep (t : τ)

def RetryEvent.isCall : RetryEvent τ → Bool
  | .call => true
  | .sleep _ => false

def RetryEvent.slept? : RetryEvent τ → Option τ
  | .call => none
  | .sleep t => some t

/-- The calls and the sleeps among the events. -/
def tries (events : List (RetryEvent τ)) : Nat := events.countP RetryEvent.isCall
def sleeps (events : List (RetryEvent τ)) : List τ := events.filterMap RetryEvent.slept?

/-- A function with the given outcomes, one for each call. -/
def tryOnce (outcomes : Nat → Except PyError α) : Effect (List (RetryEvent τ)) α := fun events =>
  (outcomes (tries events), events ++ [.call])

def recordSleep (t : τ) (events : List (RetryEvent τ)) : List (RetryEvent τ) := events ++ [.sleep t]

/-- The retries after the first try. -/
def retriesAfter (slept : List τ) : List (RetryEvent τ) := slept.flatMap fun t => [.sleep t, .call]

@[simp] theorem tries_append (events events' : List (RetryEvent τ)) :
    tries (events ++ events') = tries events + tries events' := List.countP_append

@[simp] theorem sleeps_append (events events' : List (RetryEvent τ)) :
    sleeps (events ++ events') = sleeps events ++ sleeps events' := List.filterMap_append

@[simp] theorem tries_retriesAfter (slept : List τ) : tries (retriesAfter slept) = slept.length := by
  induction slept with
  | nil => rfl
  | cons t slept ih =>
    rw [retriesAfter, List.flatMap_cons, tries_append, List.length_cons]
    exact (congrArg (1 + ·) ih).trans (Nat.add_comm 1 _)

@[simp] theorem sleeps_retriesAfter (slept : List τ) : sleeps (retriesAfter slept) = slept := by
  induction slept with
  | nil => rfl
  | cons t slept ih =>
    rw [retriesAfter, List.flatMap_cons, sleeps_append]
    exact congrArg (t :: ·) ih

/-- The wrapper of a function with these outcomes, from its first call on. -/
def retryRun (schedule : List τ) (outcomes : Nat → Except PyError α) : Except PyError α × List (RetryEvent τ) :=
  retry recordSleep schedule (tryOnce outcomes) []

def retryExit (schedule : List τ) (outcomes : Nat → Except PyError α) : RetryExit α :=
  (retryLoopExit recordSleep (tryOnce outcomes) (schedule.map some ++ [none]) []).1

/-- The index of the first outcome that asks for no retry. -/
structure FirstSettled (outcomes : Nat → Except PyError α) (i : Nat) : Prop where
  settled : outcomes i ≠ .error .retry
  before : ∀ j < i, outcomes j = .error .retry

/-- One more try: the loop sleeps and goes on behind the first entry. -/
theorem retryLoopExit_again {outcomes : Nat → Except PyError α} {events : List (RetryEvent τ)} {t : τ}
    {schedule : List (Option τ)} (again : outcomes (tries events) = .error .retry) :
    retryLoopExit recordSleep (tryOnce outcomes) (some t :: schedule) events =
      retryLoopExit recordSleep (tryOnce outcomes) schedule (events ++ [.call, .sleep t]) := by
  have run : tryOnce outcomes events = (.error .retry, events ++ [.call]) := Prod.ext again rfl
  rw [retryLoopExit, run]
  simp [recordSleep]

/-- The run up to the first outcome that asks for no retry. -/
theorem retryLoopExit_first {outcomes : Nat → Except PyError α} {schedule : List τ} {d : Nat}
    {events : List (RetryEvent τ)} (again : ∀ j < d, outcomes (tries events + j) = .error .retry)
    (settled : outcomes (tries events + d) ≠ .error .retry) (within : d ≤ schedule.length) :
    retryLoopExit recordSleep (tryOnce outcomes) (schedule.map some ++ [none]) events =
      (.settled (outcomes (tries events + d)), events ++ .call :: retriesAfter (schedule.take d)) := by
  induction d generalizing schedule events with
  | zero =>
    have run : tryOnce outcomes events = (outcomes (tries events), events ++ [.call]) := rfl
    cases schedule with
    | nil => exact retryLoopExit_settled run settled
    | cons t schedule => exact retryLoopExit_settled run settled
  | succ d ih =>
    cases schedule with
    | nil => simp at within
    | cons t schedule =>
      have later : tries (events ++ [.call, .sleep t]) = tries events + 1 := tries_append _ _
      have shifted : ∀ j, tries (events ++ [.call, .sleep t]) + j = tries events + (j + 1) := by
        intro j
        rw [later]
        omega
      have rest := @ih schedule (events ++ [.call, .sleep t])
        (fun j less => shifted j ▸ again (j + 1) (by omega)) (shifted d ▸ settled) (by simpa using within)
      rw [List.map_cons, List.cons_append, retryLoopExit_again (again 0 (by omega)), rest, shifted]
      simp [retriesAfter]

/-- The run in which every try asks for a retry. -/
theorem retryLoopExit_exhausted {outcomes : Nat → Except PyError α} {schedule : List τ}
    {events : List (RetryEvent τ)} (again : ∀ j ≤ schedule.length, outcomes (tries events + j) = .error .retry) :
    retryLoopExit recordSleep (tryOnce outcomes) (schedule.map some ++ [none]) events =
      (.outOfRetries, events ++ .call :: retriesAfter schedule) := by
  induction schedule generalizing events with
  | nil =>
    have run : tryOnce outcomes events = (.error .retry, events ++ [.call]) := Prod.ext (again 0 le_rfl) rfl
    rw [List.map_nil, List.nil_append, retryLoopExit, run]
    rfl
  | cons t schedule ih =>
    have later : tries (events ++ [.call, .sleep t]) = tries events + 1 := tries_append _ _
    have rest := @ih (events ++ [.call, .sleep t]) fun j less => by
      have atNext := again (j + 1) (by simpa using less)
      rwa [later, Nat.add_assoc, Nat.add_comm 1 j]
    rw [List.map_cons, List.cons_append, retryLoopExit_again (again 0 (by omega)), rest]
    simp [retriesAfter]

/-- The wrapper follows its schedule. -/
structure FollowsSchedule (schedule : List τ) (outcomes : Nat → Except PyError α) : Prop where
  result : (retryRun schedule outcomes).1 = (retryExit schedule outcomes).result
  calls : ∀ i, FirstSettled outcomes i → tries (retryRun schedule outcomes).2 = min (i + 1) (schedule.length + 1)
  calls_all : (∀ i, outcomes i = .error .retry) → tries (retryRun schedule outcomes).2 = schedule.length + 1
  sleeps_eq : sleeps (retryRun schedule outcomes).2 = schedule.take (tries (retryRun schedule outcomes).2 - 1)
  order : (retryRun schedule outcomes).2 = .call :: retriesAfter (sleeps (retryRun schedule outcomes).2)
  settled : ∀ i, FirstSettled outcomes i → i ≤ schedule.length →
    retryExit schedule outcomes = .settled (outcomes i) ∧ (retryRun schedule outcomes).1 = outcomes i
  outOfRetries_iff : retryExit schedule outcomes = .outOfRetries ↔ ∀ j ≤ schedule.length, outcomes j = .error .retry
  never_illegal : retryExit schedule outcomes ≠ .illegalState

variable {schedule : List τ} {outcomes : Nat → Except PyError α}

theorem retryRun_eq (exit : RetryExit α) (events : List (RetryEvent τ))
    (run : retryLoopExit recordSleep (tryOnce outcomes) (schedule.map some ++ [none]) [] = (exit, events)) :
    retryRun schedule outcomes = (exit.result, events) ∧ retryExit schedule outcomes = exit := by
  rw [retryRun, retry, retryLoop_eq_exit, retryExit, run]
  exact ⟨rfl, rfl⟩

theorem FirstSettled.unique {i j : Nat} (first : FirstSettled outcomes i) (other : FirstSettled outcomes j) :
    i = j := by
  rcases Nat.lt_trichotomy i j with less | same | greater
  · exact absurd (other.before i less) first.settled
  · exact same
  · exact absurd (first.before j greater) other.settled

theorem exists_firstSettled {n : Nat} (some_settled : ¬∀ j ≤ n, outcomes j = .error .retry) :
    ∃ i ≤ n, FirstSettled outcomes i := by
  classical
  push Not at some_settled
  obtain ⟨j, within, settled⟩ := some_settled
  have found : ∃ i, outcomes i ≠ .error .retry := ⟨j, settled⟩
  refine ⟨Nat.find found, (Nat.find_min' found settled).trans within, Nat.find_spec found, fun k less => ?_⟩
  exact not_not.mp (Nat.find_min found less)

theorem followsSchedule_settled {i : Nat} (first : FirstSettled outcomes i) (within : i ≤ schedule.length) :
    FollowsSchedule schedule outcomes := by
  have loop := @retryLoopExit_first τ α outcomes schedule i []
    (fun j less => by simpa [tries] using first.before j less) (by simpa [tries] using first.settled) within
  obtain ⟨run, exit⟩ := retryRun_eq _ _ loop
  have index : tries ([] : List (RetryEvent τ)) + i = i := Nat.zero_add i
  rw [index] at run exit
  have slept : sleeps (retryRun schedule outcomes).2 = schedule.take i := by
    rw [run]
    exact sleeps_retriesAfter _
  have called : tries (retryRun schedule outcomes).2 = i + 1 := by
    rw [run]
    have total : tries (RetryEvent.call :: retriesAfter (schedule.take i)) = 1 + (schedule.take i).length :=
      (tries_append [.call] _).trans (congrArg (1 + ·) (tries_retriesAfter _))
    rw [List.nil_append, total, List.length_take]
    omega
  refine ⟨by rw [run, exit], fun j other => ?_, fun all => absurd (all i) first.settled, ?_, ?_, fun j other _ => ?_,
    ?_, exit ▸ nofun⟩
  · rw [called, first.unique other]
    rw [first.unique other] at within
    omega
  · rw [slept, called, Nat.add_sub_cancel]
  · rw [slept, run]
    rfl
  · rw [run, exit, first.unique other]
    exact ⟨rfl, rfl⟩
  · rw [exit]
    exact iff_of_false nofun fun all => first.settled (all i within)

theorem followsSchedule_exhausted (again : ∀ j ≤ schedule.length, outcomes j = .error .retry) :
    FollowsSchedule schedule outcomes := by
  have loop := @retryLoopExit_exhausted τ α outcomes schedule [] fun j less => by simpa [tries] using again j less
  obtain ⟨run, exit⟩ := retryRun_eq _ _ loop
  have slept : sleeps (retryRun schedule outcomes).2 = schedule := by
    rw [run]
    exact sleeps_retriesAfter _
  have called : tries (retryRun schedule outcomes).2 = schedule.length + 1 := by
    rw [run]
    exact (tries_append [.call] _).trans
      ((congrArg (1 + ·) (tries_retriesAfter schedule)).trans (Nat.add_comm 1 schedule.length))
  have beyond : ∀ i, FirstSettled outcomes i → schedule.length < i := fun i first =>
    not_le.mp fun within => first.settled (again i within)
  refine ⟨by rw [run, exit], fun i first => ?_, fun _ => called, ?_, ?_, fun i first within => ?_, ?_,
    exit ▸ nofun⟩
  · have later := beyond i first
    rw [called]
    omega
  · rw [slept, called, Nat.add_sub_cancel, List.take_length]
  · rw [slept, run]
    rfl
  · exact absurd within (not_le.mpr (beyond i first))
  · rw [exit]
    exact iff_of_true rfl again

/-- On every finite schedule and for every sequence of outcomes. -/
theorem retry_followsSchedule (schedule : List τ) (outcomes : Nat → Except PyError α) :
    FollowsSchedule schedule outcomes := by
  by_cases again : ∀ j ≤ schedule.length, outcomes j = .error .retry
  · exact followsSchedule_exhausted again
  · obtain ⟨i, within, first⟩ := exists_firstSettled again
    exact followsSchedule_settled first within

end GpuTelemetry
