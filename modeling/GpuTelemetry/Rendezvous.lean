import GpuTelemetry.Barriers
import GpuTelemetry.Exceptions
import GpuTelemetry.Runs

namespace GpuTelemetry

/-! ### `_publish_chunk` with a rendezvous server -/

/-- Where a process is in `_publish_chunk`, with what `thunk` did once it has
run. It ends in one of the last three: `notStarted` and `notEnded` are the
`BrokenBarrierError` of the first and of the second `b.wait`. -/
inductive Stage
  | arriving
  | starting
  | publishing
  | finishing (outcome : Except PyError Unit)
  | ending (outcome : Except PyError Unit)
  | ended (outcome : Except PyError Unit)
  | notStarted
  | notEnded (outcome : Except PyError Unit)

namespace Stage

/-- After the `b.wait` before `thunk`. -/
def start : Waited → Stage
  | .blocked => starting
  | .passed => publishing
  | .broken => notStarted

/-- After the `b.wait` of the `finally`. -/
def finish (outcome : Except PyError Unit) : Waited → Stage
  | .blocked => ending outcome
  | .passed => ended outcome
  | .broken => notEnded outcome

/-- `thunk` has been called. -/
def hasStarted : Stage → Bool
  | arriving | starting | notStarted => false
  | _ => true

/-- What `thunk` did, once it has run. -/
def outcome : Stage → Option (Except PyError Unit)
  | finishing outcome | ending outcome | ended outcome | notEnded outcome => some outcome
  | _ => none

/-- `_publish_chunk` has raised. -/
def hasRaised : Stage → Bool
  | notStarted | notEnded _ | ended (.error _) => true
  | _ => false

end Stage

variable {ι Chunk : Type}

/-! ### One chunk: two rounds of one barrier -/

namespace Stage

/-- Where a process is in the round of waits before `thunk`. -/
def startPlace : Stage → Barrier.Place
  | arriving => .before
  | starting => .inside
  | notStarted => .refused
  | _ => .through

/-- Where a process is in the round of waits after `thunk`. -/
def endPlace : Stage → Barrier.Place
  | ending _ => .inside
  | ended _ => .through
  | notEnded _ => .refused
  | _ => .before

@[simp] theorem startPlace_start (waited : Waited) : (start waited).startPlace = .after waited := by
  cases waited <;> rfl

@[simp] theorem endPlace_start (waited : Waited) : (start waited).endPlace = .before := by
  cases waited <;> rfl

@[simp] theorem startPlace_finish (outcome : Except PyError Unit) (waited : Waited) :
    (finish outcome waited).startPlace = .through := by
  cases waited <;> rfl

@[simp] theorem endPlace_finish (outcome : Except PyError Unit) (waited : Waited) :
    (finish outcome waited).endPlace = .after waited := by
  cases waited <;> rfl

theorem hasStarted_iff (stage : Stage) : stage.hasStarted ↔ stage.startPlace = .through := by
  cases stage <;> simp [hasStarted, startPlace]

end Stage

/-- All processes are in the first round, or all have left it and are in the second. -/
inductive ChunkInvariant (b : Barrier ι) (stages : ι → Stage) : Prop
  | first : b.Round (fun j => (stages j).startPlace) → b.Matches (fun j => (stages j).startPlace) →
      (∀ j, (stages j).endPlace = .before) → ChunkInvariant b stages
  | second : (∀ j, (stages j).startPlace = .through) → b.Round (fun j => (stages j).endPlace) →
      b.Matches (fun j => (stages j).endPlace) → ChunkInvariant b stages

/-- Once `thunk` has been called somewhere, every process has come and none was turned away. -/
theorem ChunkInvariant.started {b : Barrier ι} {stages : ι → Stage} {i : ι} (inv : ChunkInvariant b stages)
    (started : (stages i).hasStarted) (j : ι) : stages j = .starting ∨ (stages j).hasStarted := by
  rw [Stage.hasStarted_iff] at started ⊢
  have met : (stages j).startPlace = .inside ∨ (stages j).startPlace = .through := by
    cases inv with
    | first round => exact round.through started
    | second all => exact .inr (all j)
  refine met.imp_left fun inside => ?_
  cases stage : stages j <;> simp_all [Stage.startPlace]

/-- Once a process has got through the second wait, `thunk` has ended in every process. -/
theorem ChunkInvariant.ended {b : Barrier ι} {stages : ι → Stage} {i : ι} {outcome : Except PyError Unit}
    (inv : ChunkInvariant b stages) (ended : stages i = .ended outcome) (j : ι) :
    ∃ outcome, stages j = .ending outcome ∨ stages j = .ended outcome := by
  have left : (stages i).endPlace = .through := by simp [ended, Stage.endPlace]
  cases inv with
  | first _ _ notYet => simp [notYet i] at left
  | second _ round =>
    have met := round.through (j := j) left
    cases stage : stages j <;> simp_all [Stage.endPlace]

/-- The processes inside a wait are those the barrier counts. -/
theorem ChunkInvariant.waits {b : Barrier ι} {stages : ι → Stage} (inv : ChunkInvariant b stages) (j : ι) :
    j ∈ b.waiting ↔ stages j = .starting ∨ ∃ outcome, stages j = .ending outcome := by
  cases inv with
  | first _ within notYet =>
    rw [within j]
    have early := notYet j
    cases stage : stages j <;> simp_all [Stage.startPlace, Stage.endPlace]
  | second all _ within =>
    rw [within j]
    have started := all j
    cases stage : stages j <;> simp_all [Stage.startPlace, Stage.endPlace]

theorem ChunkInvariant.draining {b : Barrier ι} {stages : ι → Stage} (inv : ChunkInvariant b stages)
    (draining : b.state = .draining) : ∃ j, j ∈ b.waiting := by
  have some : b.waiting ≠ ∅ := by
    cases inv with
    | first round => cases round <;> simp_all
    | second _ round => cases round <;> simp_all
  exact Finset.nonempty_iff_ne_empty.mpr some

/-! ### The processes -/

/-- The processes that backfill, each at one of its chunks, and the barriers
that the server gives out for `get_barrier`. That it gives every process the
same barrier for a chunk, a `threading.Barrier` of the server's `parties`, is
taken as given: the server is not in the repository. -/
structure Backfills (ι Chunk : Type) where
  barriers : Chunk → Barrier ι
  position : ι → Nat
  stage : ι → Stage

namespace Backfills

def initial (parties : Nat) : Backfills ι Chunk := ⟨fun _ => .new parties, fun _ => 0, fun _ => .arriving⟩

variable [DecidableEq Chunk]

/-- What process `i` does on a chunk. It has published the chunks before its position. -/
def on (s : Backfills ι Chunk) (chunks : ι → List Chunk) (chunk : Chunk) (i : ι) : Stage :=
  if (chunks i)[s.position i]? = some chunk then s.stage i
  else if chunk ∈ (chunks i).take (s.position i) then .ended (.ok ())
  else .arriving

variable {chunks : ι → List Chunk} {s : Backfills ι Chunk}

theorem on_current {chunk : Chunk} {i : ι} (current : (chunks i)[s.position i]? = some chunk) :
    s.on chunks chunk i = s.stage i := by
  rw [on, if_pos current]

theorem on_past {chunk : Chunk} {i : ι} (distinct : (chunks i).Nodup)
    (past : chunk ∈ (chunks i).take (s.position i)) : s.on chunks chunk i = .ended (.ok ()) := by
  have behind : (chunks i)[s.position i]? ≠ some chunk := by
    intro current
    obtain ⟨n, before, place⟩ := List.mem_take_iff_getElem.mp past
    obtain ⟨inside, here⟩ := List.getElem?_eq_some_iff.mp current
    have same := (distinct.getElem_inj_iff).mp (place.trans here.symm)
    omega
  rw [on, if_neg behind, if_pos past]

theorem on_later {chunk : Chunk} {i : ι} (distinct : (chunks i).Nodup)
    (later : chunk ∈ (chunks i).drop (s.position i + 1)) : s.on chunks chunk i = .arriving := by
  obtain ⟨n, inside, place⟩ := List.mem_drop_iff_getElem.mp later
  rw [on, if_neg, if_neg]
  · intro past
    obtain ⟨m, before, place'⟩ := List.mem_take_iff_getElem.mp past
    have same := (distinct.getElem_inj_iff).mp (place'.trans place.symm)
    omega
  · intro current
    obtain ⟨_, here⟩ := List.getElem?_eq_some_iff.mp current
    have same := (distinct.getElem_inj_iff).mp (place.trans here.symm)
    omega

theorem current_of_on {chunk : Chunk} {i : ι} (here : s.on chunks chunk i ≠ .arriving)
    (unfinished : s.on chunks chunk i ≠ .ended (.ok ())) : (chunks i)[s.position i]? = some chunk := by
  by_contra away
  by_cases past : chunk ∈ (chunks i).take (s.position i) <;> simp [on, away, past] at here unfinished

end Backfills

variable [DecidableEq ι] [DecidableEq Chunk]

/-- A step of process `i` in `_publish_chunk`, with the barrier of the chunk. -/
inductive PublishStep (impatient : Prop) (thunk : Except PyError Unit) (i : ι) :
    Stage → Barrier ι → Stage → Barrier ι → Prop
  | meet {b b' waited} : b.Enters i waited b' → PublishStep impatient thunk i .arriving b (.start waited) b'
  | begin {b b' waited} : b.Wakes impatient i waited b' →
      PublishStep impatient thunk i .starting b (.start waited) b'
  | publish {b} : PublishStep impatient thunk i .publishing b (.finishing thunk) b
  | gather {b b' waited outcome} : b.Enters i waited b' →
      PublishStep impatient thunk i (.finishing outcome) b (.finish outcome waited) b'
  | leave {b b' waited outcome} : b.Wakes impatient i waited b' →
      PublishStep impatient thunk i (.ending outcome) b (.finish outcome waited) b'

/-- A step of one of the processes, each running `publish_all_serial` on its chunks. -/
inductive BackfillStep (impatient : Prop) (thunk : ι → Chunk → Except PyError Unit) (chunks : ι → List Chunk) :
    Backfills ι Chunk → Backfills ι Chunk → Prop
  | publish {s i chunk stage b} : (chunks i)[s.position i]? = some chunk →
      PublishStep impatient (thunk i chunk) i (s.stage i) (s.barriers chunk) stage b →
      BackfillStep impatient thunk chunks s { s with
        barriers := Function.update s.barriers chunk b
        stage := Function.update s.stage i stage }
  | next {s i} : s.stage i = .ended (.ok ()) → s.position i + 1 < (chunks i).length →
      BackfillStep impatient thunk chunks s { s with
        position := Function.update s.position i (s.position i + 1)
        stage := Function.update s.stage i .arriving }

/-- The states that the processes can reach, in whatever order they take steps. -/
def BackfillReach (impatient : Prop) (thunk : ι → Chunk → Except PyError Unit) (chunks : ι → List Chunk)
    (parties : Nat) : Backfills ι Chunk → Prop :=
  Relation.ReflTransGen (BackfillStep impatient thunk chunks) (.initial parties)

/-! ### A step keeps the rounds -/

theorem place_update (place : Stage → Barrier.Place) (stages : ι → Stage) (i : ι) (stage : Stage) :
    (fun j => place (Function.update stages i stage j)) =
      Function.update (fun j => place (stages j)) i (place stage) := by
  funext j
  exact Function.apply_update (fun _ => place) stages i stage j

omit [DecidableEq ι] in
/-- Whoever comes to the second wait finds everybody through the first. -/
theorem ChunkInvariant.turn {b : Barrier ι} {stages : ι → Stage} {i : ι} (inv : ChunkInvariant b stages)
    (positive : 0 < b.parties) (started : (stages i).startPlace = .through) (settled : b.state ≠ .draining) :
    (∀ j, (stages j).startPlace = .through) ∧ b.Round (fun j => (stages j).endPlace) ∧
      b.Matches (fun j => (stages j).endPlace) := by
  cases inv with
  | second all round within => exact ⟨all, round, within⟩
  | first round within notYet =>
    have all : ∀ j, (stages j).startPlace = .through := by
      cases round with
      | finished all => exact all
      | gathering nobody => exact absurd started (nobody i)
      | draining _ draining => exact absurd draining settled
    have fresh := round.next within positive all
    have same : (fun j => (stages j).endPlace) = fun _ => .before := funext notYet
    rw [same]
    exact ⟨all, fresh⟩

theorem ChunkInvariant.step [Fintype ι] {b b' : Barrier ι} {stages : ι → Stage} {i : ι} {impatient : Prop}
    {thunk : Except PyError Unit} {stage : Stage} (inv : ChunkInvariant b stages)
    (enough : Fintype.card ι ≤ b.parties) (step : PublishStep impatient thunk i (stages i) b stage b') :
    ChunkInvariant b' (Function.update stages i stage) := by
  have positive : 0 < b.parties := Nat.lt_of_lt_of_le (Fintype.card_pos_iff.mpr ⟨i⟩) enough
  have others : ∀ place : Stage → Barrier.Place, ∀ value, (∀ j, place (stages j) = value) → place stage = value →
      ∀ j, place (Function.update stages i stage j) = value := by
    intro place value all new j
    by_cases same : j = i
    · simp [same, new]
    · simp [same, all j]
  generalize atStage : stages i = before at step
  cases step with
  | meet enters =>
    cases inv with
    | second all => exact absurd (all i) (by simp [atStage, Stage.startPlace])
    | first round within notYet =>
      refine .first ?_ ?_ (others _ _ notYet (Stage.endPlace_start _))
      · rw [place_update, Stage.startPlace_start]
        exact round.enters within enough enters (by simp [atStage, Stage.startPlace])
      · rw [place_update, Stage.startPlace_start]
        exact within.enters enters (by simp [atStage, Stage.startPlace])
  | begin wakes =>
    cases inv with
    | second all => exact absurd (all i) (by simp [atStage, Stage.startPlace])
    | first round within notYet =>
      refine .first ?_ ?_ (others _ _ notYet (Stage.endPlace_start _))
      · rw [place_update, Stage.startPlace_start]
        exact round.wakes within wakes
      · rw [place_update, Stage.startPlace_start]
        exact within.wakes wakes
  | publish =>
    have still : ∀ place : Stage → Barrier.Place, place (.finishing thunk) = place .publishing →
        (fun j => place (Function.update stages i (.finishing thunk) j)) = fun j => place (stages j) := by
      intro place same
      rw [place_update, same, ← atStage]
      exact Function.update_eq_self i _
    cases inv with
    | first round within notYet =>
      refine .first ?_ ?_ (others _ _ notYet rfl)
      · rwa [still _ rfl]
      · rwa [still _ rfl]
    | second all round within =>
      refine .second (others _ _ all rfl) ?_ ?_
      · rwa [still _ rfl]
      · rwa [still _ rfl]
  | gather enters =>
    obtain ⟨all, round, within⟩ := inv.turn (i := i) positive (by simp [atStage, Stage.startPlace]) enters.settled
    refine .second (others _ _ all (Stage.startPlace_finish _ _)) ?_ ?_
    · rw [place_update, Stage.endPlace_finish]
      exact round.enters within enough enters (by simp [atStage, Stage.endPlace])
    · rw [place_update, Stage.endPlace_finish]
      exact within.enters enters (by simp [atStage, Stage.endPlace])
  | leave wakes =>
    cases inv with
    | first _ _ notYet => exact absurd (notYet i) (by simp [atStage, Stage.endPlace])
    | second all round within =>
      refine .second (others _ _ all (Stage.startPlace_finish _ _)) ?_ ?_
      · rw [place_update, Stage.endPlace_finish]
        exact round.wakes within wakes
      · rw [place_update, Stage.endPlace_finish]
        exact within.wakes wakes

/-! ### The run -/

variable {impatient : Prop} {thunk : ι → Chunk → Except PyError Unit} {chunks : ι → List Chunk} {parties : Nat}
  {s s' : Backfills ι Chunk}

/-- A step is a step of one process on one chunk, or leaves a chunk alone. -/
theorem BackfillStep.on (distinct : ∀ i, (chunks i).Nodup) (step : BackfillStep impatient thunk chunks s s')
    (chunk : Chunk) :
    (s'.barriers chunk = s.barriers chunk ∧ s'.on chunks chunk = s.on chunks chunk) ∨
      ∃ i stage, PublishStep impatient (thunk i chunk) i (s.on chunks chunk i) (s.barriers chunk) stage
          (s'.barriers chunk) ∧ s'.on chunks chunk = Function.update (s.on chunks chunk) i stage := by
  cases step with
  | @publish i current stage b here step =>
    by_cases same : chunk = current
    · subst same
      refine .inr ⟨i, stage, ?_, ?_⟩
      · rw [Backfills.on_current here]
        simpa using step
      · funext j
        by_cases self : j = i
        · subst self
          simp [Backfills.on, here]
        · simp [Backfills.on, self]
    · refine .inl ⟨by simp [same], ?_⟩
      funext j
      by_cases self : j = i
      · subst self
        have other : (chunks j)[s.position j]? ≠ some chunk := by
          rw [here]
          exact fun equal => same (Option.some.inj equal).symm
        simp [Backfills.on, other]
      · simp [Backfills.on, self]
  | @next i done more =>
    refine .inl ⟨rfl, ?_⟩
    funext j
    by_cases self : j = i
    · subst self
      have inside : s.position j < (chunks j).length := by omega
      by_cases coming : (chunks j)[s.position j + 1]? = some chunk
      · have later : chunk ∈ (chunks j).drop (s.position j + 1) :=
          List.mem_drop_iff_getElem.mpr ⟨0, by simpa using more, (List.getElem?_eq_some_iff.mp coming).2⟩
        rw [Backfills.on_later (distinct j) later]
        simp [Backfills.on, coming]
      · by_cases here : (chunks j)[s.position j] = chunk
        · rw [Backfills.on_current (List.getElem?_eq_some_iff.mpr ⟨inside, here⟩), done]
          simp [Backfills.on, coming, List.take_add_one, inside, here]
        · have elsewhere : (chunks j)[s.position j]? ≠ some chunk := by
            rw [List.getElem?_eq_getElem inside]
            exact fun equal => here (Option.some.inj equal)
          have past : chunk ∈ (chunks j).take (s.position j + 1) ↔ chunk ∈ (chunks j).take (s.position j) := by
            rw [List.take_add_one, List.getElem?_eq_getElem inside, List.mem_append]
            exact or_iff_left fun last => here (List.mem_singleton.mp last).symm
          simp only [Backfills.on, Function.update_self, if_neg coming, if_neg elsewhere, past]
    · simp [Backfills.on, self]

/-- What holds in every state of a run. -/
structure BackfillInvariant (thunk : ι → Chunk → Except PyError Unit) (chunks : ι → List Chunk) (parties : Nat)
    (s : Backfills ι Chunk) : Prop where
  parties : ∀ chunk, (s.barriers chunk).parties = parties
  rounds : ∀ chunk, ChunkInvariant (s.barriers chunk) (s.on chunks chunk)
  within : ∀ i, s.position i = 0 ∨ s.position i < (chunks i).length
  outcomes : ∀ chunk i outcome, (s.on chunks chunk i).outcome = some outcome → outcome = thunk i chunk

omit [DecidableEq Chunk] in
theorem PublishStep.barrier {thunk : Except PyError Unit} {i : ι} {stage stage' : Stage} {b b' : Barrier ι}
    (step : PublishStep impatient thunk i stage b stage' b') :
    b'.parties = b.parties ∧ ∀ outcome, stage'.outcome = some outcome →
      stage.outcome = some outcome ∨ outcome = thunk := by
  cases step with
  | @meet _ _ waited enters => exact ⟨enters.parties, by cases waited <;> simp [Stage.start, Stage.outcome]⟩
  | @begin _ _ waited wakes => exact ⟨wakes.parties, by cases waited <;> simp [Stage.start, Stage.outcome]⟩
  | publish => exact ⟨rfl, fun outcome same => .inr (Option.some.inj same).symm⟩
  | @gather _ _ waited _ enters =>
    exact ⟨enters.parties, by cases waited <;> simp [Stage.finish, Stage.outcome]⟩
  | @leave _ _ waited _ wakes => exact ⟨wakes.parties, by cases waited <;> simp [Stage.finish, Stage.outcome]⟩

omit [DecidableEq ι] in
theorem BackfillInvariant.initial (positive : 0 < parties) :
    BackfillInvariant thunk chunks parties (.initial parties) where
  parties _ := rfl
  rounds chunk := by
    have fresh : (Backfills.initial parties).on chunks chunk = fun _ => .arriving := by
      funext j
      simp [Backfills.on, Backfills.initial]
    rw [fresh]
    refine .first (.gathering ?_ ?_ ?_ ?_) ?_ ?_
    all_goals simp [Barrier.Matches, Stage.startPlace, Stage.endPlace, Backfills.initial, Barrier.new, positive]
  within _ := .inl rfl
  outcomes chunk i outcome some := by simp [Backfills.on, Backfills.initial, Stage.outcome] at some

theorem BackfillInvariant.step [Fintype ι] (enough : Fintype.card ι ≤ parties) (distinct : ∀ i, (chunks i).Nodup)
    (inv : BackfillInvariant thunk chunks parties s) (step : BackfillStep impatient thunk chunks s s') :
    BackfillInvariant thunk chunks parties s' where
  parties chunk := by
    rcases step.on distinct chunk with ⟨same, -⟩ | ⟨i, stage, step, -⟩
    · rw [same, inv.parties chunk]
    · rw [step.barrier.1, inv.parties chunk]
  rounds chunk := by
    rcases step.on distinct chunk with ⟨same, still⟩ | ⟨i, stage, step, new⟩
    · rw [same, still]
      exact inv.rounds chunk
    · rw [new]
      exact (inv.rounds chunk).step (inv.parties chunk ▸ enough) step
  within j := by
    cases step with
    | publish => exact inv.within j
    | @next i _ more =>
      by_cases self : j = i
      · subst self
        exact .inr (by simpa using more)
      · simpa [self] using inv.within j
  outcomes chunk j outcome some := by
    rcases step.on distinct chunk with ⟨-, still⟩ | ⟨i, stage, step, new⟩
    · exact inv.outcomes chunk j outcome (still ▸ some)
    · rw [new] at some
      by_cases self : j = i
      · subst self
        rw [Function.update_self] at some
        exact (step.barrier.2 outcome some).elim (inv.outcomes chunk j outcome) id
      · rw [Function.update_of_ne self] at some
        exact inv.outcomes chunk j outcome some

theorem BackfillReach.invariant [Fintype ι] (enough : Fintype.card ι ≤ parties) (positive : 0 < parties)
    (distinct : ∀ i, (chunks i).Nodup) (reach : BackfillReach impatient thunk chunks parties s) :
    BackfillInvariant thunk chunks parties s :=
  run_keeps (fun _ _ inv step => inv.step enough distinct step) reach (.initial positive)

/-! ### Lockstep -/

/-- What is to hold in every state of the processes. -/
structure Lockstep (thunk : ι → Chunk → Except PyError Unit) (chunks : ι → List Chunk) (s : Backfills ι Chunk) :
    Prop where
  starts : ∀ chunk i, (s.on chunks chunk i).hasStarted →
    ∀ j, s.on chunks chunk j = .starting ∨ (s.on chunks chunk j).hasStarted
  ends : ∀ chunk i outcome, s.on chunks chunk i = .ended outcome →
    ∀ j, s.on chunks chunk j = .ending (thunk j chunk) ∨ s.on chunks chunk j = .ended (thunk j chunk)
  together : ∀ i j, chunks i = chunks j → s.position i ≤ s.position j + 1
  stops : ∀ i, (s.stage i).hasRaised → ∀ chunk ∈ (chunks i).drop (s.position i + 1),
    ∀ j, (s.on chunks chunk j).hasStarted = false

omit [DecidableEq ι] in
theorem BackfillInvariant.lockstep (distinct : ∀ i, (chunks i).Nodup)
    (inv : BackfillInvariant thunk chunks parties s) : Lockstep thunk chunks s where
  starts chunk i started := (inv.rounds chunk).started started
  ends chunk i outcome ended j := by
    obtain ⟨outcome, ending | ended⟩ := (inv.rounds chunk).ended ended j
    · exact .inl (ending.trans (congrArg _ (inv.outcomes chunk j outcome (by simp [ending, Stage.outcome]))))
    · exact .inr (ended.trans (congrArg _ (inv.outcomes chunk j outcome (by simp [ended, Stage.outcome]))))
  together i j same := by
    by_contra ahead
    push Not at ahead
    have inside : s.position j + 1 < (chunks i).length := by
      have := inv.within i
      omega
    have passed : s.on chunks (chunks i)[s.position j + 1] i = .ended (.ok ()) :=
      Backfills.on_past (distinct i) (List.mem_take_iff_getElem.mpr ⟨s.position j + 1, by omega, rfl⟩)
    have later : s.on chunks (chunks i)[s.position j + 1] j = .arriving := by
      refine Backfills.on_later (distinct j) (List.mem_drop_iff_getElem.mpr ⟨0, ?_, ?_⟩)
      · simpa [← same] using inside
      · simp [same]
    obtain ⟨outcome, ending | ended⟩ := (inv.rounds _).ended passed j
    · simp [later] at ending
    · simp [later] at ended
  stops i raised chunk later j := by
    have away : s.on chunks chunk i = .arriving := Backfills.on_later (distinct i) later
    by_contra started
    rw [Bool.not_eq_false] at started
    rcases (inv.rounds chunk).started started i with starting | already
    · simp [away] at starting
    · simp [away, Stage.hasStarted] at already

/-- The processes that meet at a server stay in lockstep, whatever their
`thunk` does and whichever of their waits time out. No chunk is published
before all processes have come to it, and none starts a chunk that another has
given up; none leaves a chunk before all have published it. -/
theorem backfills_in_lockstep [Fintype ι] [Nonempty ι] (impatient : Prop)
    (thunk : ι → Chunk → Except PyError Unit) (chunks : ι → List Chunk) (parties : Nat)
    (enough : Fintype.card ι ≤ parties) (distinct : ∀ i, (chunks i).Nodup) (s : Backfills ι Chunk)
    (reach : BackfillReach impatient thunk chunks parties s) : Lockstep thunk chunks s :=
  (reach.invariant enough (Nat.lt_of_lt_of_le Fintype.card_pos enough) distinct).lockstep distinct

/-- A chunk that two processes have met at. -/
theorem backfills_in_lockstep_pair :
    ∃ s : Backfills (Fin 2) Nat, (s.on (fun _ => [7, 8]) 7 1).hasStarted ∧
      Lockstep (fun _ _ => .ok ()) (fun _ => [7, 8]) s := by
  have reach := Relation.ReflTransGen.refl (r := BackfillStep True (fun _ _ => .ok ()) fun _ : Fin 2 => [7, 8])
    (a := .initial 2)
    |>.tail (.publish (i := 0) rfl (.meet (.blocks rfl (by decide))))
    |>.tail (.publish (i := 1) rfl (.meet (.releases rfl (by decide))))
  exact ⟨_, by decide, backfills_in_lockstep True _ _ 2 (by decide) (by decide) _ reach⟩

end GpuTelemetry
