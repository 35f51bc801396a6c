import GpuTelemetry.PublishAll
import Mathlib.Data.Multiset.Basic

namespace GpuTelemetry

variable {Chunk : Type}

/-! ### `publish_all_serial` -/

section serial

variable (publishOne : Nat → Chunk → Except PyError Unit) (sleep : Nat)

variable {publishOne}

end serial

/-! ### The end of a parallel run -/

variable {publishOne : Nat → Chunk → Except PyError Unit} {chunkIter : Nat → NextCall Chunk}
  {maxConcurrency : Option Nat} {s s' : ParallelState Chunk}

/-- The callback of the newest future may still have to be registered. -/
def Consumer.unregistered : Consumer Chunk → List Bool
  | .registering => [false]
  | _ => []

def Registered (s : ParallelState Chunk) : Prop :=
  ∃ flags, (∀ flag ∈ flags, flag = true) ∧ s.futures.map Future.registered = flags ++ s.consumer.unregistered

theorem ParallelStep.registered (step : ParallelStep publishOne chunkIter s s') (registered : Registered s) :
    Registered s' := by
  obtain ⟨flags, all, whole⟩ := registered
  cases step with
  | submit consumer =>
    refine ⟨flags, all, ?_⟩
    have old : s.futures.map Future.registered = flags := by simpa [consumer, Consumer.unregistered] using whole
    simp [old, Consumer.unregistered]
  | register consumer futures =>
    rw [consumer, futures, Consumer.unregistered, List.map_append] at whole
    refine ⟨flags ++ [true], by simpa [or_imp, forall_and] using all, ?_⟩
    have before := List.append_inj_left' whole rfl
    simp [before, Consumer.unregistered]
  | _ => exact ⟨flags, all, by simp_all [Consumer.unregistered]⟩

theorem ParallelReach.registered (reach : ParallelReach publishOne chunkIter maxConcurrency s) : Registered s :=
  run_keeps (fun _ _ registered step => step.registered registered) reach ⟨[], by simp, rfl⟩

/-- In a state without a next one the calls are over, and the consumer waits or has returned. -/
structure Settled (s : ParallelState Chunk) : Prop where
  futures : ∀ f ∈ s.futures, f.phase.isReleased
  consumer : s.consumer = .waiting ∨ s.consumer = .returned
  queue : s.queue = []

theorem Stuck.done (stuck : Stuck (ParallelStep publishOne chunkIter) s) {f : Future Chunk} (member : f ∈ s.futures) :
    f.phase.isDone := by
  obtain ⟨before, after, whole⟩ := List.append_of_mem member
  obtain ⟨chunk, phase, registered⟩ := f
  cases phase with
  | pending => exact absurd (.start whole) (stuck _)
  | running => exact absurd (.finish whole) (stuck _)
  | finished => rfl
  | released => rfl

theorem Stuck.consumer (stuck : Stuck (ParallelStep publishOne chunkIter) s) (registered : Registered s) :
    s.consumer = .waiting ∨ s.consumer = .returned := by
  cases consumer : s.consumer with
  | waiting => exact .inl rfl
  | returned => exact .inr rfl
  | holding chunk => exact absurd (.submit consumer) (stuck _)
  | exiting => exact absurd (.waited consumer fun f member => Stuck.done stuck member) (stuck _)
  | registering =>
    obtain ⟨flags, -, whole⟩ := registered
    rw [consumer] at whole
    obtain ⟨before, last, futures, -, flag⟩ := List.map_eq_append_iff.mp whole
    obtain ⟨newest, single, unregistered⟩ := List.map_eq_singleton_iff.mp flag
    obtain ⟨chunk, phase, registered⟩ := newest
    dsimp only at unregistered
    rw [single, unregistered] at futures
    exact absurd (.register consumer futures) (stuck _)

theorem Stuck.settled (stuck : Stuck (ParallelStep publishOne chunkIter) s)
    (reach : ParallelReach publishOne chunkIter maxConcurrency s) : Settled s := by
  have consumer := Stuck.consumer stuck reach.registered
  refine ⟨fun f member => ?_, consumer, ?_⟩
  · obtain ⟨flags, all, whole⟩ := reach.registered
    have unregistered : s.consumer.unregistered = [] := by
      rcases consumer with waiting | returned
      · rw [waiting]
        rfl
      · rw [returned]
        rfl
    have flagged : f.registered = true := by
      refine all _ ?_
      rw [unregistered, List.append_nil] at whole
      rw [← whole]
      exact List.mem_map_of_mem member
    have done := Stuck.done stuck member
    obtain ⟨before, after, split⟩ := List.append_of_mem member
    obtain ⟨chunk, phase, registered⟩ := f
    dsimp only at flagged
    subst flagged
    cases phase with
    | finished => exact absurd (.release split) (stuck _)
    | released => rfl
    | pending => cases done
    | running => cases done
  · rcases consumer with waiting | returned
    · cases queue : s.queue with
      | nil => rfl
      | cons entry rest =>
        cases entry with
        | none => exact absurd (.getNone waiting queue) (stuck _)
        | some chunk => exact absurd (.get waiting queue) (stuck _)
    · cases reach.invariant.sentinel with
      | ahead _ looping => simp [returned, Consumer.isLooping] at looping
      | queued _ looping => simp [returned, Consumer.isLooping] at looping
      | read _ _ empty => exact empty

/-- With a permit to be had, the producer has ended in a state without a next one. -/
theorem Stuck.producer (stuck : Stuck (ParallelStep publishOne chunkIter) s)
    (reach : ParallelReach publishOne chunkIter maxConcurrency s)
    (free : maxConcurrency ≠ some 0 ∨ ∀ chunk, chunkIter 0 ≠ .yields chunk) : s.producer.isTerminated := by
  have settled := Stuck.settled stuck reach
  have inv := reach.invariant
  cases producer : s.producer with
  | iterating =>
    cases call : chunkIter s.nexts with
    | yields chunk => exact absurd (.next producer call) (stuck _)
    | raises e => exact absurd (.raise producer call) (stuck _)
    | stops => exact absurd (.stop producer call) (stuck _)
  | holding chunk =>
    have idle : s.held = 0 := by
      have released : (s.futures.countP fun f => !f.phase.isReleased) = 0 := by
        rw [List.countP_eq_zero]
        intro f member
        simp [settled.futures f member]
      rcases settled.consumer with waiting | returned
      · simp [ParallelState.held, ParallelState.queued, settled.queue, producer, waiting, Producer.permits,
          Consumer.chunks, released]
      · simp [ParallelState.held, ParallelState.queued, settled.queue, producer, returned, Producer.permits,
          Consumer.chunks, released]
    have permits := inv.permits
    rw [idle] at permits
    have some : s.permits = maxConcurrency := by simpa using permits
    rcases free with free | none
    · exact absurd (.acquire producer (some ▸ free)) (stuck _)
    · have first := inv.yields 0 (by simp [ParallelState.taken, producer, Producer.chunks])
      exact absurd first (none _)
  | acquired chunk => exact absurd (.put producer) (stuck _)
  | exiting => exact absurd (.putNone producer) (stuck _)
  | returned => rfl
  | raised e => rfl

/-! ### The attempts of a parallel run -/

theorem Generated.next_eq_yields {g : Generated Chunk} {n : Nat} {chunk : Chunk} :
    g.next n = .yields chunk ↔ g.yields[n]? = some chunk := by
  unfold Generated.next
  cases g.yields[n]? with
  | some c => simp
  | none => cases g.raises <;> simp

/-- The chunks yielded up to the end of a generator are all of them. -/
theorem Yields.all {g : Generated Chunk} {chunks : List Chunk} (yields : Yields g.next chunks)
    (ended : ∀ chunk, g.next chunks.length ≠ .yields chunk) : chunks = g.yields := by
  refine List.ext_getElem? fun i => ?_
  by_cases inside : i < chunks.length
  · rw [List.getElem?_eq_getElem inside, Generated.next_eq_yields.mp (yields i inside)]
  · have beyond : g.yields.length ≤ chunks.length := by
      by_contra more
      exact ended _ (Generated.next_eq_yields.mpr (List.getElem?_eq_getElem (by omega)))
    rw [List.getElem?_eq_none (by omega), List.getElem?_eq_none (by omega)]

def Producer.cost : Producer Chunk → Nat
  | .iterating => 3
  | .holding _ => 12
  | .acquired _ => 11
  | .exiting => 2
  | .returned | .raised _ => 0

def Consumer.cost : Consumer Chunk → Nat
  | .waiting | .registering => 2
  | .holding _ => 8
  | .exiting => 1
  | .returned => 0

def Phase.cost : Phase → Nat
  | .pending => 3
  | .running => 2
  | .finished _ => 1
  | .released _ => 0

def Future.cost (f : Future Chunk) : Nat := f.phase.cost + if f.registered then 0 else 1

/-- A bound on the steps that are left. -/
def ParallelState.cost (chunks : Nat) (s : ParallelState Chunk) : Nat :=
  10 * (chunks - s.nexts) + s.producer.cost + (s.queue.map fun entry => if entry.isSome then 7 else 1).sum +
    s.consumer.cost + (s.futures.map Future.cost).sum

theorem ParallelStep.cost {g : Generated Chunk} (step : ParallelStep publishOne g.next s s') :
    s'.cost g.yields.length < s.cost g.yields.length := by
  cases step with
  | @next chunk producer call =>
    have inside : s.nexts < g.yields.length :=
      (List.getElem?_eq_some_iff.mp (Generated.next_eq_yields.mp call)).1
    simp [ParallelState.cost, producer, Producer.cost]
    omega
  | _ => simp [ParallelState.cost, Producer.cost, Consumer.cost, Future.cost, Phase.cost, *] <;> omega

end GpuTelemetry
