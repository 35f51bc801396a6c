import GpuTelemetry.Runs
import GpuTelemetry.SacctBackfill

namespace GpuTelemetry

variable {Chunk : Type}

/-! ### Iterators of chunks -/

/-- What a call of `next` on an iterator does. -/
inductive NextCall (Chunk : Type)
  | yields (chunk : Chunk)
  | raises (e : PyError)
  | stops

/-- The calls of `next` on a generator, up to the first that yields nothing. -/
def Generated.next (g : Generated Chunk) (n : Nat) : NextCall Chunk :=
  match g.yields[n]? with
  | some chunk => .yields chunk
  | none =>
    match g.raises with
    | some e => .raises e
    | none => .stops

/-! ### The threads of `publish_all_parallel` -/

inductive Producer (Chunk : Type)
  | iterating
  | holding (chunk : Chunk)
  | acquired (chunk : Chunk)
  | exiting
  | returned
  | raised (e : PyError)

inductive Consumer (Chunk : Type)
  | waiting
  | holding (chunk : Chunk)
  | registering
  | exiting
  | returned

/-- How far the call of a future is, and whether its callback has released the permit. -/
inductive Phase
  | pending
  | running
  | finished (outcome : Except PyError Unit)
  | released (outcome : Except PyError Unit)

/-- A future of the pool with the chunk it publishes. -/
structure Future (Chunk : Type) where
  chunk : Chunk
  phase : Phase
  registered : Bool

/-- `permits` is the count of the semaphore, if there is one, and `nexts` the
number of chunks taken from the iterator. -/
structure ParallelState (Chunk : Type) where
  nexts : Nat
  producer : Producer Chunk
  permits : Option Nat
  queue : List (Option Chunk)
  consumer : Consumer Chunk
  futures : List (Future Chunk)

def ParallelState.initial (maxConcurrency : Option Nat) : ParallelState Chunk :=
  ⟨0, .iterating, maxConcurrency, [], .waiting, []⟩

def Phase.isDone : Phase → Bool
  | .pending | .running => false
  | .finished _ | .released _ => true

/-- A step of the producer, of the consumer or of a worker of the pool.
`publishOne` tells how the call for the n-th chunk ends. -/
inductive ParallelStep (publishOne : Nat → Chunk → Except PyError Unit) (chunkIter : Nat → NextCall Chunk) :
    ParallelState Chunk → ParallelState Chunk → Prop
  | next {s chunk} : s.producer = .iterating → chunkIter s.nexts = .yields chunk →
      ParallelStep publishOne chunkIter s { s with nexts := s.nexts + 1, producer := .holding chunk }
  | stop {s} : s.producer = .iterating → chunkIter s.nexts = .stops →
      ParallelStep publishOne chunkIter s { s with producer := .exiting }
  | raise {s e} : s.producer = .iterating → chunkIter s.nexts = .raises e →
      ParallelStep publishOne chunkIter s { s with producer := .raised e }
  | acquire {s chunk} : s.producer = .holding chunk → s.permits ≠ some 0 →
      ParallelStep publishOne chunkIter s { s with
        producer := .acquired chunk
        permits := s.permits.map (· - 1) }
  | put {s chunk} : s.producer = .acquired chunk →
      ParallelStep publishOne chunkIter s { s with producer := .iterating, queue := s.queue ++ [some chunk] }
  | putNone {s} : s.producer = .exiting →
      ParallelStep publishOne chunkIter s { s with producer := .returned, queue := s.queue ++ [none] }
  | get {s chunk queue} : s.consumer = .waiting → s.queue = some chunk :: queue →
      ParallelStep publishOne chunkIter s { s with consumer := .holding chunk, queue := queue }
  | getNone {s queue} : s.consumer = .waiting → s.queue = none :: queue →
      ParallelStep publishOne chunkIter s { s with consumer := .exiting, queue := queue }
  | submit {s chunk} : s.consumer = .holding chunk →
      ParallelStep publishOne chunkIter s { s with
        consumer := .registering
        futures := s.futures ++ [⟨chunk, .pending, false⟩] }
  -- `add_done_callback`: a future that is done already runs the callback at once
  | register {s before chunk phase} : s.consumer = .registering → s.futures = before ++ [⟨chunk, phase, false⟩] →
      ParallelStep publishOne chunkIter s { s with
        consumer := .waiting
        futures := before ++ [⟨chunk, phase, true⟩] }
  | waited {s} : s.consumer = .exiting → (∀ f ∈ s.futures, f.phase.isDone) →
      ParallelStep publishOne chunkIter s { s with consumer := .returned }
  | start {s before chunk registered after} : s.futures = before ++ ⟨chunk, .pending, registered⟩ :: after →
      ParallelStep publishOne chunkIter s { s with futures := before ++ ⟨chunk, .running, registered⟩ :: after }
  | finish {s before chunk registered after} : s.futures = before ++ ⟨chunk, .running, registered⟩ :: after →
      ParallelStep publishOne chunkIter s { s with
        futures := before ++ ⟨chunk, .finished (publishOne before.length chunk), registered⟩ :: after }
  | release {s before chunk outcome after} : s.futures = before ++ ⟨chunk, .finished outcome, true⟩ :: after →
      ParallelStep publishOne chunkIter s { s with
        permits := s.permits.map (· + 1)
        futures := before ++ ⟨chunk, .released outcome, true⟩ :: after }

/-- The states that `publish_all_parallel` can reach, in whatever order its threads take steps. -/
def ParallelReach (publishOne : Nat → Chunk → Except PyError Unit) (chunkIter : Nat → NextCall Chunk)
    (maxConcurrency : Option Nat) : ParallelState Chunk → Prop :=
  Relation.ReflTransGen (ParallelStep publishOne chunkIter) (.initial maxConcurrency)

/-! ### The chunks on their way -/

/-- The chunk a thread has in hand. -/
def Producer.chunks : Producer Chunk → List Chunk
  | .holding chunk | .acquired chunk => [chunk]
  | _ => []

def Consumer.chunks : Consumer Chunk → List Chunk
  | .holding chunk => [chunk]
  | _ => []

namespace ParallelState

def queued (s : ParallelState Chunk) : List Chunk := s.queue.filterMap id

def submitted (s : ParallelState Chunk) : List Chunk := s.futures.map Future.chunk

/-- The chunks taken from the iterator, the oldest first. -/
def taken (s : ParallelState Chunk) : List Chunk :=
  s.submitted ++ s.consumer.chunks ++ s.queued ++ s.producer.chunks

end ParallelState

/-- The first calls of `next` yield these chunks. -/
def Yields (chunkIter : Nat → NextCall Chunk) (chunks : List Chunk) : Prop :=
  ∀ i (inside : i < chunks.length), chunkIter i = .yields chunks[i]

theorem Yields.append {chunkIter : Nat → NextCall Chunk} {chunks : List Chunk} {chunk : Chunk}
    (yields : Yields chunkIter chunks) (next : chunkIter chunks.length = .yields chunk) :
    Yields chunkIter (chunks ++ [chunk]) := by
  intro i inside
  rw [List.length_append, List.length_singleton] at inside
  by_cases old : i < chunks.length
  · rw [List.getElem_append_left old]
    exact yields i old
  · have last : i = chunks.length := by omega
    subst last
    rw [List.getElem_concat_length rfl]
    exact next

variable {publishOne : Nat → Chunk → Except PyError Unit} {chunkIter : Nat → NextCall Chunk}
  {maxConcurrency : Option Nat} {s s' : ParallelState Chunk}

/-- Only `next` adds a chunk, behind all the others; the other steps pass chunks on. -/
theorem ParallelStep.taken (step : ParallelStep publishOne chunkIter s s') :
    (s'.taken = s.taken ∧ s'.nexts = s.nexts) ∨
      ∃ chunk, chunkIter s.nexts = .yields chunk ∧ s'.taken = s.taken ++ [chunk] ∧ s'.nexts = s.nexts + 1 := by
  cases step with
  | next producer call =>
    refine .inr ⟨_, call, ?_, rfl⟩
    simp [ParallelState.taken, ParallelState.submitted, ParallelState.queued, Producer.chunks, producer]
  | _ =>
    refine .inl ⟨?_, rfl⟩
    simp [ParallelState.taken, ParallelState.submitted, ParallelState.queued, Producer.chunks, Consumer.chunks, *]

/-! ### The permits -/

def Producer.permits : Producer Chunk → Nat
  | .acquired _ => 1
  | _ => 0

def Phase.isReleased : Phase → Bool
  | .released _ => true
  | _ => false

namespace ParallelState

/-- The permits that are out: of the chunk before it is queued, and until its callback has run. -/
def held (s : ParallelState Chunk) : Nat :=
  s.producer.permits + s.queued.length + s.consumer.chunks.length +
    s.futures.countP fun f => !f.phase.isReleased

/-- The chunks that are queued or being published. -/
def inProgress (s : ParallelState Chunk) : List Chunk :=
  s.queued ++ s.consumer.chunks ++ (s.futures.filter fun f => !f.phase.isDone).map Future.chunk

theorem inProgress_length_le (s : ParallelState Chunk) : s.inProgress.length ≤ s.held := by
  have unfinished : (s.futures.countP fun f => !f.phase.isDone) ≤ s.futures.countP fun f => !f.phase.isReleased := by
    refine List.countP_mono_left fun f _ running => ?_
    cases phase : f.phase <;> simp_all [Phase.isDone, Phase.isReleased]
  rw [inProgress, held, List.length_append, List.length_append, List.length_map, ← List.countP_eq_length_filter]
  omega

end ParallelState

/-- A step neither makes nor loses a permit. -/
theorem ParallelStep.permits (step : ParallelStep publishOne chunkIter s s') :
    s'.permits.map (· + s'.held) = s.permits.map (· + s.held) := by
  cases step with
  | acquire producer free =>
    cases permits : s.permits with
    | none => rfl
    | some n =>
      have positive : n ≠ 0 := fun zero => free (by rw [permits, zero])
      simp [ParallelState.held, ParallelState.queued, Producer.permits, producer]
      omega
  | release futures =>
    cases permits : s.permits with
    | none => rfl
    | some n =>
      simp [ParallelState.held, ParallelState.queued, Phase.isReleased, futures]
      omega
  | _ =>
    congr 1
    funext n
    simp [ParallelState.held, ParallelState.queued, Producer.permits, Consumer.chunks, Phase.isReleased, *]
    try omega

/-! ### The sentinel -/

def Producer.isTerminated : Producer Chunk → Bool
  | .returned | .raised _ => true
  | _ => false

def Producer.isReturned : Producer Chunk → Bool
  | .returned => true
  | _ => false

/-- Whether the consumer is in its loop. -/
def Consumer.isLooping : Consumer Chunk → Bool
  | .exiting | .returned => false
  | _ => true

/-- The producer puts the sentinel behind all chunks as the last thing it does,
and the consumer leaves its loop when it gets it. -/
inductive Sentinel (s : ParallelState Chunk) : Prop
  | ahead : s.producer.isReturned = false → s.consumer.isLooping → none ∉ s.queue → Sentinel s
  | queued {chunks} : s.producer.isReturned → s.consumer.isLooping → none ∉ chunks → s.queue = chunks ++ [none] →
      Sentinel s
  | read : s.producer.isReturned → s.consumer.isLooping = false → s.queue = [] → Sentinel s

theorem ParallelStep.sentinel (step : ParallelStep publishOne chunkIter s s') (sentinel : Sentinel s) :
    Sentinel s' := by
  cases step with
  | putNone producer =>
    cases sentinel with
    | ahead _ looping absent => exact .queued rfl looping absent rfl
    | queued returned => simp [producer, Producer.isReturned] at returned
    | read returned => simp [producer, Producer.isReturned] at returned
  | @get chunk queue consumer head =>
    cases sentinel with
    | ahead open_ _ absent =>
      rw [head] at absent
      exact .ahead open_ rfl (List.not_mem_of_not_mem_cons absent)
    | @queued chunks returned _ absent whole =>
      cases chunks with
      | nil => simp [head] at whole
      | cons first chunks =>
        rw [head, List.cons_append, List.cons.injEq] at whole
        exact .queued returned rfl (List.not_mem_of_not_mem_cons absent) whole.2
    | read _ _ empty => simp [head] at empty
  | @getNone queue consumer head =>
    cases sentinel with
    | ahead _ _ absent => simp [head] at absent
    | @queued chunks returned _ absent whole =>
      cases chunks with
      | nil =>
        rw [head, List.nil_append, List.cons.injEq] at whole
        exact .read returned rfl whole.2
      | cons first chunks =>
        rw [head, List.cons_append, List.cons.injEq] at whole
        rw [← whole.1] at absent
        exact absurd List.mem_cons_self absent
    | read _ _ empty => simp [head] at empty
  | _ =>
    cases sentinel with
    | ahead => apply Sentinel.ahead <;> simp_all [Producer.isReturned, Consumer.isLooping]
    | queued returned looping absent whole =>
      refine .queued ?_ ?_ absent ?_ <;> simp_all [Producer.isReturned, Consumer.isLooping]
    | read => apply Sentinel.read <;> simp_all [Producer.isReturned, Consumer.isLooping]

/-- The iterator of a producer that has left its loop has ended, as the producer did. -/
def Ended (chunkIter : Nat → NextCall Chunk) (s : ParallelState Chunk) : Prop :=
  match s.producer with
  | .exiting | .returned => chunkIter s.nexts = .stops
  | .raised e => chunkIter s.nexts = .raises e
  | _ => True

theorem ParallelStep.ended (step : ParallelStep publishOne chunkIter s s') (ended : Ended chunkIter s) :
    Ended chunkIter s' := by
  cases step with
  | next producer call => trivial
  | stop producer call => exact call
  | raise producer call => exact call
  | acquire producer free => trivial
  | put producer => trivial
  | putNone producer => simpa [Ended, producer] using ended
  | _ => exact ended

/-- The facts that every step keeps. -/
structure ParallelInvariant (chunkIter : Nat → NextCall Chunk) (maxConcurrency : Option Nat)
    (s : ParallelState Chunk) : Prop where
  yields : Yields chunkIter s.taken
  count : s.taken.length = s.nexts
  permits : s.permits.map (· + s.held) = maxConcurrency
  sentinel : Sentinel s
  ended : Ended chunkIter s

theorem ParallelInvariant.step (inv : ParallelInvariant chunkIter maxConcurrency s)
    (step : ParallelStep publishOne chunkIter s s') : ParallelInvariant chunkIter maxConcurrency s' where
  yields := by
    rcases step.taken with ⟨same, -⟩ | ⟨chunk, call, more, -⟩
    · rw [same]
      exact inv.yields
    · rw [more]
      exact inv.yields.append (inv.count ▸ call)
  count := by
    rcases step.taken with ⟨same, still⟩ | ⟨chunk, call, more, next⟩
    · rw [same, still, inv.count]
    · rw [more, next, List.length_append, inv.count, List.length_singleton]
  permits := step.permits.trans inv.permits
  sentinel := step.sentinel inv.sentinel
  ended := step.ended inv.ended

theorem ParallelInvariant.initial (chunkIter : Nat → NextCall Chunk) (maxConcurrency : Option Nat) :
    ParallelInvariant chunkIter maxConcurrency (.initial maxConcurrency) where
  yields := fun i inside => absurd inside (Nat.not_lt_zero i)
  count := rfl
  permits := by cases maxConcurrency <;> rfl
  sentinel := .ahead rfl rfl List.not_mem_nil
  ended := trivial

theorem ParallelReach.invariant (reach : ParallelReach publishOne chunkIter maxConcurrency s) :
    ParallelInvariant chunkIter maxConcurrency s :=
  run_keeps (fun _ _ inv step => inv.step step) reach (.initial chunkIter maxConcurrency)

/-! ### Safety -/

/-- What is to hold in every state. A sentinel that the consumer has got
shows in the consumer having left its loop. -/
structure ParallelSafe (chunkIter : Nat → NextCall Chunk) (maxConcurrency : Option Nat)
    (s : ParallelState Chunk) : Prop where
  bounded : ∀ n, maxConcurrency = some n → s.inProgress.length ≤ n
  inOrder : Yields chunkIter s.submitted
  sentinel : s.producer.isTerminated → none ∈ s.queue ∨ s.consumer.isLooping = false
  notLeft : ¬(s.producer.isTerminated ∧ s.queue = [] ∧ s.consumer = .waiting)

/-- The first call of `next` that yields no chunk raises. -/
def IterationRaises (chunkIter : Nat → NextCall Chunk) : Prop :=
  ∃ n e, (∀ i < n, ∃ chunk, chunkIter i = .yields chunk) ∧ chunkIter n = .raises e

theorem ParallelInvariant.safe (inv : ParallelInvariant chunkIter maxConcurrency s)
    (running : s.producer.isTerminated → s.producer.isReturned) : ParallelSafe chunkIter maxConcurrency s := by
  have sentinel : s.producer.isTerminated → none ∈ s.queue ∨ s.consumer.isLooping = false := by
    intro terminated
    cases inv.sentinel with
    | ahead open_ => exact absurd (running terminated) (by simp [open_])
    | queued _ _ _ whole => exact .inl (by simp [whole])
    | read _ left => exact .inr left
  refine ⟨fun n limit => ?_, fun i inside => ?_, sentinel, ?_⟩
  · have permits := inv.permits
    rw [limit, Option.map_eq_some_iff] at permits
    obtain ⟨free, -, sum⟩ := permits
    exact s.inProgress_length_le.trans (by omega)
  · have early : i < s.taken.length := by
      rw [ParallelState.taken, List.append_assoc, List.append_assoc, List.length_append]
      omega
    rw [inv.yields i early]
    simp only [ParallelState.taken, List.append_assoc]
    rw [List.getElem_append_left inside]
  · rintro ⟨terminated, empty, waiting⟩
    rcases sentinel terminated with queued | left
    · simp [empty] at queued
    · simp [waiting, Consumer.isLooping] at left

theorem ParallelInvariant.iterationRaises (inv : ParallelInvariant chunkIter maxConcurrency s) {e : PyError}
    (raised : s.producer = .raised e) : IterationRaises chunkIter := by
  have ended := inv.ended
  rw [Ended, raised] at ended
  exact ⟨s.nexts, e, fun i before => ⟨_, inv.yields i (inv.count ▸ before)⟩, ended⟩

/-- The states reachable without any permit, when there is a chunk: the producer waits for a permit. -/
structure Blocked (s : ParallelState Chunk) : Prop where
  futures : s.futures = []
  consumer : s.consumer = .waiting
  queue : s.queue = []
  permits : s.permits = some 0
  producer : s.producer = .iterating ∧ s.nexts = 0 ∨ ∃ chunk, s.producer = .holding chunk

theorem ParallelReach.blocked {chunk : Chunk} (first : chunkIter 0 = .yields chunk)
    (reach : ParallelReach publishOne chunkIter (some 0) s) : Blocked s := by
  refine run_keeps (fun s s' blocked step => ?_) reach ⟨rfl, rfl, rfl, rfl, .inl ⟨rfl, rfl⟩⟩
  obtain ⟨futures, consumer, queue, permits, producer⟩ := blocked
  rcases producer with ⟨iterating, zero⟩ | ⟨chunk, holding⟩
  · cases step with
    | next _ call => exact ⟨futures, consumer, queue, permits, .inr ⟨_, rfl⟩⟩
    | _ => simp_all
  · cases step <;> simp_all

/-- One chunk after the other can be taken, queued and published. -/
theorem idle_reach (free : maxConcurrency ≠ some 0) {n : Nat} (chunks : ∀ i < n, ∃ chunk, chunkIter i = .yields chunk) :
    ∃ futures, ParallelReach publishOne chunkIter maxConcurrency
      ⟨n, .iterating, maxConcurrency, [], .waiting, futures⟩ := by
  induction n with
  | zero => exact ⟨[], .refl⟩
  | succ n ih =>
    obtain ⟨futures, idle⟩ := ih fun i before => chunks i (by omega)
    obtain ⟨chunk, call⟩ := chunks n (by omega)
    have again : (maxConcurrency.map (· - 1)).map (· + 1) = maxConcurrency := by
      cases maxConcurrency with
      | none => rfl
      | some k =>
        have positive : k ≠ 0 := fun zero => free (congrArg some zero)
        simp
        omega
    have run := idle
      |>.tail (.next rfl call)
      |>.tail (.acquire rfl free)
      |>.tail (.put rfl)
      |>.tail (.get rfl rfl)
      |>.tail (.submit rfl)
      |>.tail (.register rfl rfl)
      |>.tail (.start rfl)
      |>.tail (.finish rfl)
      |>.tail (.release rfl)
    refine ⟨futures ++ [⟨chunk, .released (publishOne futures.length chunk), true⟩], ?_⟩
    simpa only [ParallelReach, again] using run

/-- When iterating raises, the producer ends without the sentinel, and the consumer may be left waiting. -/
theorem consumer_left (publishOne : Nat → Chunk → Except PyError Unit) {n : Nat} {e : PyError}
    (chunks : ∀ i < n, ∃ chunk, chunkIter i = .yields chunk) (raises : chunkIter n = .raises e)
    (free : maxConcurrency ≠ some 0 ∨ n = 0) :
    ∃ s, ParallelReach publishOne chunkIter maxConcurrency s ∧ s.producer.isTerminated ∧ s.queue = [] ∧
      s.consumer = .waiting := by
  have idle : ∃ futures, ParallelReach publishOne chunkIter maxConcurrency
      ⟨n, .iterating, maxConcurrency, [], .waiting, futures⟩ := by
    rcases free with some | zero
    · exact idle_reach some chunks
    · subst zero
      exact ⟨[], .refl⟩
  obtain ⟨futures, reach⟩ := idle
  exact ⟨_, reach.tail (.raise rfl raises), rfl, rfl, rfl⟩

/-- Every state of every run is safe exactly when iterating over the chunks
does not raise, or never comes to it for want of a permit. -/
theorem publishAllParallel_safe_iff (publishOne : Nat → Chunk → Except PyError Unit)
    (chunkIter : Nat → NextCall Chunk) (maxConcurrency : Option Nat) :
    (∀ s, ParallelReach publishOne chunkIter maxConcurrency s → ParallelSafe chunkIter maxConcurrency s) ↔
      ¬IterationRaises chunkIter ∨ maxConcurrency = some 0 ∧ ∃ chunk, chunkIter 0 = .yields chunk := by
  constructor
  · intro safe
    rw [or_iff_not_imp_left, not_not]
    rintro ⟨n, e, chunks, raises⟩
    by_contra free
    have some : maxConcurrency ≠ some 0 ∨ n = 0 := by
      by_contra neither
      push Not at neither
      exact free ⟨neither.1, chunks 0 (by omega)⟩
    obtain ⟨s, reach, left⟩ := consumer_left publishOne chunks raises some
    exact (safe s reach).notLeft left
  · rintro (quiet | ⟨rfl, chunk, first⟩) s reach
    · refine reach.invariant.safe fun terminated => ?_
      cases producer : s.producer with
      | raised e => exact absurd (reach.invariant.iterationRaises producer) quiet
      | returned => rfl
      | _ => simp [producer, Producer.isTerminated] at terminated
    · refine reach.invariant.safe fun terminated => ?_
      rcases (reach.blocked first).producer with ⟨iterating, -⟩ | ⟨held, holding⟩
      · simp [iterating, Producer.isTerminated] at terminated
      · simp [holding, Producer.isTerminated] at terminated

/-- A backfill `new` with `--step 0`: `gen_time_bounds` raises when the producer
asks for the first chunk, and the consumer waits forever. -/
theorem publishAllParallel_left_waiting : ∃ chunks : Generated BoundedClosedInterval,
    (∀ fuel, genTimeBounds timedeltaText 0 fuel ⟨0, 10800 * second, by decide⟩ 0 = some chunks) ∧
    ∃ s, ParallelReach (fun _ _ => .ok ()) chunks.next (some 2) s ∧
      s.producer.isTerminated ∧ s.queue = [] ∧ s.consumer = .waiting ∧
      Stuck (ParallelStep (fun _ _ => .ok ()) chunks.next) s := by
  refine ⟨_, fun fuel => if_pos second_pos.le, _, .tail .refl (.raise rfl rfl), rfl, rfl, rfl, fun s' step => ?_⟩
  cases step <;> simp_all [ParallelState.initial]

end GpuTelemetry
