import GpuTelemetry.Rendezvous
import Mathlib.Algebra.Order.BigOperators.Group.Finset
import Mathlib.Data.Set.Finite.Lemmas

namespace GpuTelemetry

variable {ι Chunk : Type} [DecidableEq ι] [DecidableEq Chunk] {impatient : Prop}
  {thunk : ι → Chunk → Except PyError Unit} {chunks : ι → List Chunk} {parties : Nat} {s s' : Backfills ι Chunk}

/-! ### How the processes end -/

/-- How many steps a process has left on its chunk, at most. -/
def Stage.left : Stage → Nat
  | arriving => 5
  | starting => 4
  | publishing => 3
  | finishing _ => 2
  | ending _ => 1
  | _ => 0

omit [DecidableEq Chunk] in
theorem PublishStep.left {thunk : Except PyError Unit} {i : ι} {stage stage' : Stage} {b b' : Barrier ι}
    (step : PublishStep impatient thunk i stage b stage' b') : stage'.left < stage.left := by
  cases step with
  | @meet _ _ waited => cases waited <;> simp [Stage.start, Stage.left]
  | @begin _ _ waited wakes =>
    cases wakes <;> simp [Stage.start, Stage.left]
  | publish => simp [Stage.left]
  | @gather _ _ waited => cases waited <;> simp [Stage.finish, Stage.left]
  | @leave _ _ waited _ wakes => cases wakes <;> simp [Stage.finish, Stage.left]

namespace Backfills

/-- How many steps process `i` has left, at most. -/
def leftOf (chunks : ι → List Chunk) (s : Backfills ι Chunk) (i : ι) : Nat :=
  6 * ((chunks i).length - s.position i) + (s.stage i).left

def left [Fintype ι] (chunks : ι → List Chunk) (s : Backfills ι Chunk) : Nat :=
  Finset.univ.sum (s.leftOf chunks)

end Backfills

theorem BackfillStep.left [Fintype ι] (step : BackfillStep impatient thunk chunks s s') :
    s'.left chunks < s.left chunks := by
  have lower : ∃ i, s'.leftOf chunks i < s.leftOf chunks i ∧ ∀ j, j ≠ i → s'.leftOf chunks j = s.leftOf chunks j := by
    cases step with
    | @publish i chunk stage b here step =>
      refine ⟨i, ?_, fun j other => by simp [Backfills.leftOf, other]⟩
      have less := step.left
      simp only [Backfills.leftOf, Function.update_self]
      omega
    | @next i done more =>
      refine ⟨i, ?_, fun j other => by simp [Backfills.leftOf, other]⟩
      simp only [Backfills.leftOf, Function.update_self, Stage.left]
      omega
  obtain ⟨i, less, others⟩ := lower
  refine Finset.sum_lt_sum (fun j _ => ?_) ⟨i, Finset.mem_univ i, less⟩
  by_cases self : j = i
  · exact self ▸ less.le
  · exact (others j self).le

/-- A process that cannot take a step on its chunk has ended there, or waits for others that it gives all the time. -/
theorem ChunkInvariant.stuck {b : Barrier ι} {stages : ι → Stage} {outcomes : ι → Except PyError Unit}
    (inv : ChunkInvariant b stages) (positive : 0 < b.parties)
    {i : ι} (stuck : ∀ j, j = i ∨ j ∈ b.waiting →
      ∀ stage b', ¬PublishStep impatient (outcomes j) j (stages j) b stage b') :
    (∃ outcome, stages i = .ended outcome) ∨ (stages i).hasRaised ∨
      (stages i = .starting ∨ ∃ outcome, stages i = .ending outcome) ∧ ¬impatient ∧ b.state = .filling := by
  have never : ∀ j before, stages j = before → j = i ∨ j ∈ b.waiting →
      ∀ stage b', ¬PublishStep impatient (outcomes j) j before b stage b' :=
    fun j _ same => same ▸ stuck j
  have wakes : ∀ j ∈ b.waiting, ¬impatient ∧ b.state = .filling := by
    intro j member
    by_contra free
    rw [not_and_or, not_not] at free
    obtain ⟨waited, b', wakes⟩ := Barrier.can_wake free member
    rcases (inv.waits j).mp member with starting | ⟨outcome, ending⟩
    · exact never j _ starting (.inr member) _ _ (.begin wakes)
    · exact never j _ ending (.inr member) _ _ (.leave wakes)
  have settled : b.state ≠ .draining := fun draining => by
    obtain ⟨j, member⟩ := inv.draining draining
    simp [draining] at wakes
    exact (wakes j member).elim
  cases stage : stages i with
  | ended outcome => exact .inl ⟨outcome, rfl⟩
  | notStarted => exact .inr (.inl rfl)
  | notEnded outcome => exact .inr (.inl rfl)
  | starting => exact .inr (.inr ⟨.inl rfl, wakes i ((inv.waits i).mpr (.inl stage))⟩)
  | ending outcome => exact .inr (.inr ⟨.inr ⟨outcome, rfl⟩, wakes i ((inv.waits i).mpr (.inr ⟨outcome, stage⟩))⟩)
  | publishing => exact absurd .publish (never i _ stage (.inl rfl) _ b)
  | arriving =>
    have enters : ∃ waited b', b.Enters i waited b' := by
      cases inv with
      | first round => exact round.can_enter i settled (by simp [stage, Stage.startPlace])
      | second all => exact absurd (all i) (by simp [stage, Stage.startPlace])
    obtain ⟨waited, b', enters⟩ := enters
    exact absurd (.meet enters) (never i _ stage (.inl rfl) _ b')
  | finishing outcome =>
    obtain ⟨-, round, -⟩ := inv.turn (i := i) positive (by simp [stage, Stage.startPlace]) settled
    obtain ⟨waited, b', enters⟩ := round.can_enter i settled (by simp [stage, Stage.endPlace])
    exact absurd (.gather enters) (never i _ stage (.inl rfl) _ b')

theorem BackfillInvariant.stuck (inv : BackfillInvariant thunk chunks parties s) (positive : 0 < parties)
    (stuck : Stuck (BackfillStep impatient thunk chunks) s) {i : ι} {chunk : Chunk}
    (here : (chunks i)[s.position i]? = some chunk) :
    s.stage i = .ended (.ok ()) ∧ s.position i + 1 = (chunks i).length ∨ (s.stage i).hasRaised ∨
      (s.stage i = .starting ∨ ∃ outcome, s.stage i = .ending outcome) ∧ ¬impatient ∧
        (s.barriers chunk).state = .filling := by
  have current : ∀ j, j = i ∨ j ∈ (s.barriers chunk).waiting → (chunks j)[s.position j]? = some chunk := by
    rintro j (rfl | member)
    · exact here
    · rcases ((inv.rounds chunk).waits j).mp member with starting | ⟨outcome, ending⟩
      · exact Backfills.current_of_on (by simp [starting]) (by simp [starting])
      · exact Backfills.current_of_on (by simp [ending]) (by simp [ending])
  have never : ∀ j, j = i ∨ j ∈ (s.barriers chunk).waiting →
      ∀ stage b', ¬PublishStep impatient (thunk j chunk) j (s.on chunks chunk j) (s.barriers chunk) stage b' := by
    intro j member stage b' step
    rw [Backfills.on_current (current j member)] at step
    exact stuck _ (.publish (current j member) step)
  have ends := (inv.rounds chunk).stuck (inv.parties chunk ▸ positive) never
  rw [Backfills.on_current here] at ends
  rcases ends with ⟨outcome, ended⟩ | rest
  · cases outcome with
    | error e => exact .inr (.inl (by simp [ended, Stage.hasRaised]))
    | ok =>
      obtain ⟨inside, -⟩ := List.getElem?_eq_some_iff.mp here
      have last : ¬s.position i + 1 < (chunks i).length := fun more => stuck _ (.next ended more)
      exact .inl ⟨ended, by omega⟩
  · exact .inr rest

/-- All processes have ended, and of each chunk all say the same: that it was
not published, that all have published it, or that all have and then lost
sight of one another. -/
structure ChunksAgreed (thunk : ι → Chunk → Except PyError Unit) (chunks : ι → List Chunk) (s : Backfills ι Chunk) :
    Prop where
  ended : ∀ i, chunks i = [] ∨ (s.stage i).hasRaised ∨
    s.stage i = .ended (.ok ()) ∧ s.position i + 1 = (chunks i).length
  agreed : ∀ chunk, (∀ j, (s.on chunks chunk j).hasStarted = false) ∨
    (∀ j, s.on chunks chunk j = .ended (thunk j chunk)) ∨ ∀ j, s.on chunks chunk j = .notEnded (thunk j chunk)

theorem BackfillInvariant.settled (inv : BackfillInvariant thunk chunks parties s) (positive : 0 < parties)
    (stuck : Stuck (BackfillStep True thunk chunks) s) : ChunksAgreed thunk chunks s where
  ended i := by
    cases here : (chunks i)[s.position i]? with
    | some chunk =>
      rcases inv.stuck positive stuck here with done | raised | ⟨-, patient, -⟩
      · exact .inr (.inr done)
      · exact .inr (.inl raised)
      · exact absurd trivial patient
    | none =>
      have beyond := List.getElem?_eq_none_iff.mp here
      have within := inv.within i
      exact .inl (List.length_eq_zero_iff.mp (by omega))
  agreed chunk := by
    -- nobody is left inside `_publish_chunk`
    have final : ∀ j, (s.on chunks chunk j).hasStarted → (∃ outcome, s.on chunks chunk j = .ended outcome) ∨
        ∃ outcome, s.on chunks chunk j = .notEnded outcome := by
      intro j started
      by_cases passed : s.on chunks chunk j = .ended (.ok ())
      · exact .inl ⟨_, passed⟩
      · have here := Backfills.current_of_on (fun away => by simp [away, Stage.hasStarted] at started) passed
        rw [Backfills.on_current here] at started passed ⊢
        rcases inv.stuck positive stuck here with ⟨done, -⟩ | raised | ⟨-, patient, -⟩
        · exact absurd done passed
        · cases stage : s.stage j <;> simp_all [Stage.hasRaised, Stage.hasStarted]
        · exact absurd trivial patient
    by_cases some : ∃ i, (s.on chunks chunk i).hasStarted
    · obtain ⟨i, started⟩ := some
      refine .inr ?_
      have everybody : ∀ j, (s.on chunks chunk j).hasStarted := by
        intro j
        refine ((inv.rounds chunk).started started j).resolve_left fun starting => ?_
        have here : (chunks j)[s.position j]? = some chunk :=
          Backfills.current_of_on (by simp [starting]) (by simp [starting])
        rw [Backfills.on_current here] at starting
        rcases inv.stuck positive stuck here with ⟨done, -⟩ | raised | ⟨-, patient, -⟩
        · simp [starting] at done
        · simp [starting, Stage.hasRaised] at raised
        · exact patient trivial
      rcases final i started with ⟨outcome, ended⟩ | ⟨outcome, notEnded⟩
      · refine .inl fun j => ?_
        obtain ⟨last, ending | ended⟩ := (inv.rounds chunk).ended ended j
        · rcases final j (everybody j) with ⟨_, is⟩ | ⟨_, is⟩ <;> simp [ending] at is
        · exact ended.trans (congrArg _ (inv.outcomes chunk j last (by simp [ended, Stage.outcome])))
      · refine .inr fun j => ?_
        rcases final j (everybody j) with ⟨last, ended⟩ | ⟨last, notEnded'⟩
        · obtain ⟨_, is | is⟩ := (inv.rounds chunk).ended ended i <;> simp [notEnded] at is
        · exact notEnded'.trans (congrArg _ (inv.outcomes chunk j last (by simp [notEnded', Stage.outcome])))
    · exact .inl fun j => Bool.eq_false_iff.mpr fun started => some ⟨j, started⟩

/-- With time-outs the processes never wait for each other forever: from every
state that they can reach they end, and wherever they end they agree on each
chunk. -/
theorem backfills_settle [Fintype ι] [Nonempty ι] (thunk : ι → Chunk → Except PyError Unit)
    (chunks : ι → List Chunk) (parties : Nat) (enough : Fintype.card ι ≤ parties)
    (distinct : ∀ i, (chunks i).Nodup) (s : Backfills ι Chunk) (reach : BackfillReach True thunk chunks parties s) :
    (∃ s', Relation.ReflTransGen (BackfillStep True thunk chunks) s s' ∧ Stuck (BackfillStep True thunk chunks) s') ∧
      ∀ s', Relation.ReflTransGen (BackfillStep True thunk chunks) s s' →
        Stuck (BackfillStep True thunk chunks) s' → ChunksAgreed thunk chunks s' := by
  have positive : 0 < parties := Nat.lt_of_lt_of_le Fintype.card_pos enough
  refine ⟨?_, fun s' run stuck => ?_⟩
  · exact run_ends (P := fun _ => True) (fun _ _ _ _ => trivial) (Backfills.left chunks)
      (fun _ _ _ step => step.left) trivial
  · have inv := BackfillReach.invariant enough positive distinct (reach.trans run)
    exact inv.settled positive stuck

/-- Two processes of which one has come to the first chunk. -/
theorem backfills_settle_pair :
    ∃ s : Backfills (Fin 2) Nat, s.stage 0 = .starting ∧
      (∃ s', Relation.ReflTransGen (BackfillStep True (fun _ _ => .ok ()) fun _ => [7, 8]) s s' ∧
        Stuck (BackfillStep True (fun _ _ => .ok ()) fun _ => [7, 8]) s') ∧
      ∀ s', Relation.ReflTransGen (BackfillStep True (fun _ _ => .ok ()) fun _ => [7, 8]) s s' →
        Stuck (BackfillStep True (fun _ _ => .ok ()) fun _ => [7, 8]) s' →
        ChunksAgreed (fun _ _ => .ok ()) (fun _ => [7, 8]) s' := by
  have reach := Relation.ReflTransGen.refl (r := BackfillStep True (fun _ _ => .ok ()) fun _ : Fin 2 => [7, 8])
    (a := .initial 2)
    |>.tail (.publish (i := 0) rfl (.meet (.blocks rfl (by decide))))
  exact ⟨_, rfl, backfills_settle _ _ 2 (by decide) (by decide) _ reach⟩

/-! ### Without time-outs -/

omit [DecidableEq Chunk] in
theorem PublishStep.whole {outcome : Except PyError Unit} {i : ι} {stage stage' : Stage} {b b' : Barrier ι}
    (step : PublishStep impatient outcome i stage b stage' b') (patient : ¬impatient) (whole : b.state ≠ .broken) :
    b'.state ≠ .broken := by
  cases step with
  | meet enters => exact enters.whole whole
  | begin wakes => exact wakes.whole patient whole
  | publish => exact whole
  | gather enters => exact enters.whole whole
  | leave wakes => exact wakes.whole patient whole

theorem BackfillReach.whole (patient : ¬impatient) (reach : BackfillReach impatient thunk chunks parties s)
    (chunk : Chunk) : (s.barriers chunk).state ≠ .broken := by
  refine run_keeps (P := fun s => (s.barriers chunk).state ≠ .broken) (fun s s' whole step => ?_) reach
    (by simp [Backfills.initial, Barrier.new])
  cases step with
  | @publish i current stage b _ step =>
    by_cases same : chunk = current
    · subst same
      simpa using step.whole patient whole
    · simpa [same] using whole
  | next => exact whole

omit [DecidableEq ι] in
theorem ChunkInvariant.refused {b : Barrier ι} {stages : ι → Stage} {i : ι} (inv : ChunkInvariant b stages)
    (whole : b.state ≠ .broken) (raised : (stages i).hasRaised) : ∃ e, stages i = .ended (.error e) := by
  cases stage : stages i with
  | notStarted =>
    cases inv with
    | first round => exact absurd (round.refused (i := i) (by simp [stage, Stage.startPlace])) whole
    | second all => exact absurd (all i) (by simp [stage, Stage.startPlace])
  | notEnded =>
    cases inv with
    | first _ _ notYet => exact absurd (notYet i) (by simp [stage, Stage.endPlace])
    | second _ round => exact absurd (round.refused (i := i) (by simp [stage, Stage.endPlace])) whole
  | ended outcome =>
    cases outcome with
    | error e => exact ⟨e, rfl⟩
    | ok => simp [stage, Stage.hasRaised] at raised
  | _ => simp [stage, Stage.hasRaised] at raised

omit [DecidableEq ι] in
/-- Not all processes can be waiting at a barrier that fills. -/
theorem ChunkInvariant.missing [Fintype ι] {b : Barrier ι} {stages : ι → Stage} {i : ι}
    (inv : ChunkInvariant b stages) (all : b.parties ≤ Fintype.card ι) (filling : b.state = .filling)
    (waits : i ∈ b.waiting) :
    ∃ j, stages j ∉ [.starting, .ended (.ok ())] ∧ ∀ outcome, stages j ≠ .ending outcome := by
  cases inv with
  | first round within notYet =>
    obtain ⟨j, away⟩ := round.missing within all filling ((within i).mp waits)
    refine ⟨j, ?_, fun outcome ending => ?_⟩
    · cases stage : stages j <;> simp_all [Stage.startPlace]
    · simp [ending, Stage.startPlace] at away
  | second started round within =>
    obtain ⟨j, away⟩ := round.missing within all filling ((within i).mp waits)
    have in_ := started j
    refine ⟨j, ?_, fun outcome ending => ?_⟩
    · cases stage : stages j <;> simp_all [Stage.startPlace, Stage.endPlace]
    · simp [ending, Stage.endPlace] at away

theorem BackfillInvariant.complete [Fintype ι] {chunks : List Chunk}
    (inv : BackfillInvariant thunk (fun _ => chunks) (Fintype.card ι) s) (positive : 0 < Fintype.card ι)
    (distinct : chunks.Nodup) (publishes : ∀ i, ∀ chunk ∈ chunks, thunk i chunk = .ok ())
    (whole : ∀ chunk, (s.barriers chunk).state ≠ .broken)
    (stuck : Stuck (BackfillStep False thunk fun _ => chunks) s) (some : chunks ≠ []) (i : ι) :
    s.stage i = .ended (.ok ()) ∧ s.position i + 1 = chunks.length := by
  have inside : ∀ j, s.position j < chunks.length := fun j => by
    have within := inv.within j
    have positive := List.length_pos_iff.mpr some
    omega
  have either : ∀ j chunk, chunks[s.position j]? = Option.some chunk →
      s.stage j = .ended (.ok ()) ∧ s.position j + 1 = chunks.length ∨
        (s.stage j = .starting ∨ ∃ outcome, s.stage j = .ending outcome) ∧ (s.barriers chunk).state = .filling := by
    intro j chunk here
    rcases inv.stuck positive stuck here with done | raised | ⟨waits, -, filling⟩
    · exact .inl done
    · have current : s.on (fun _ => chunks) chunk j = s.stage j := Backfills.on_current here
      rw [← current] at raised
      obtain ⟨e, failed⟩ := (inv.rounds chunk).refused (whole chunk) raised
      have outcome := inv.outcomes chunk j (.error e) (by simp [failed, Stage.outcome])
      rw [publishes j chunk (List.mem_of_getElem? here)] at outcome
      cases outcome
    · exact .inr ⟨waits, filling⟩
  -- of the processes that are not done, one that is the furthest behind
  by_contra undone
  obtain ⟨k, behind, least⟩ := Set.exists_min_image
    {j | ¬(s.stage j = .ended (.ok ()) ∧ s.position j + 1 = chunks.length)} s.position (Set.toFinite _) ⟨i, undone⟩
  obtain ⟨chunk, here⟩ : ∃ chunk, chunks[s.position k]? = Option.some chunk :=
    ⟨_, List.getElem?_eq_getElem (inside k)⟩
  obtain ⟨waits, filling⟩ := (either k chunk here).resolve_left behind
  have held : k ∈ (s.barriers chunk).waiting := by
    rw [(inv.rounds chunk).waits k, Backfills.on_current here]
    exact waits
  obtain ⟨j, away, elsewhere⟩ := (inv.rounds chunk).missing (inv.parties chunk).le filling held
  have after : s.position k ≤ s.position j := by
    by_cases done : s.stage j = .ended (.ok ()) ∧ s.position j + 1 = chunks.length
    · have := inside k
      omega
    · exact least j done
  by_cases same : s.position j = s.position k
  · have meets : chunks[s.position j]? = Option.some chunk := same ▸ here
    have current : s.on (fun _ => chunks) chunk j = s.stage j := Backfills.on_current meets
    rw [current] at away elsewhere
    rcases either j chunk meets with ⟨done, -⟩ | ⟨starting | ⟨outcome, ending⟩, -⟩
    · simp [done] at away
    · simp [starting] at away
    · exact elsewhere outcome ending
  · have past : s.on (fun _ => chunks) chunk j = .ended (.ok ()) := by
      refine Backfills.on_past distinct (List.mem_take_iff_getElem.mpr ⟨s.position k, ?_, ?_⟩)
      · have := inside k
        omega
      · exact (List.getElem?_eq_some_iff.mp here).2
    simp [past] at away

/-- As long as no wait times out, processes that publish the same chunks
cannot block each other: they end only when each has published every chunk. -/
theorem backfills_complete [Fintype ι] [Nonempty ι] (thunk : ι → Chunk → Except PyError Unit)
    (chunks : List Chunk) (distinct : chunks.Nodup) (publishes : ∀ i, ∀ chunk ∈ chunks, thunk i chunk = .ok ())
    (s : Backfills ι Chunk) (reach : BackfillReach False thunk (fun _ => chunks) (Fintype.card ι) s) :
    (∃ s', Relation.ReflTransGen (BackfillStep False thunk fun _ => chunks) s s' ∧
      Stuck (BackfillStep False thunk fun _ => chunks) s') ∧
      ∀ s', Relation.ReflTransGen (BackfillStep False thunk fun _ => chunks) s s' →
        Stuck (BackfillStep False thunk fun _ => chunks) s' →
        ∀ i, ∀ chunk ∈ chunks, s'.on (fun _ => chunks) chunk i = .ended (.ok ()) := by
  refine ⟨run_ends (P := fun _ => True) (fun _ _ _ _ => trivial) (Backfills.left fun _ => chunks)
    (fun _ _ _ step => step.left) trivial, fun s' run stuck => ?_⟩
  have inv := BackfillReach.invariant le_rfl Fintype.card_pos (fun _ => distinct) (reach.trans run)
  have whole := BackfillReach.whole id (reach.trans run)
  intro i chunk member
  obtain ⟨done, last⟩ := inv.complete Fintype.card_pos distinct publishes whole stuck (List.ne_nil_of_mem member) i
  obtain ⟨n, inside, place⟩ := List.getElem_of_mem member
  by_cases here : n = s'.position i
  · have current : s'.on (fun _ => chunks) chunk i = s'.stage i :=
      Backfills.on_current (here ▸ List.getElem?_eq_some_iff.mpr ⟨inside, place⟩)
    rw [current, done]
  · exact Backfills.on_past distinct (List.mem_take_iff_getElem.mpr ⟨n, by omega, place⟩)

/-- Two processes of which one has come to the first chunk. -/
theorem backfills_complete_pair :
    ∃ s : Backfills (Fin 2) Nat, s.stage 0 = .starting ∧
      (∃ s', Relation.ReflTransGen (BackfillStep False (fun _ _ => .ok ()) fun _ => [7, 8]) s s' ∧
        Stuck (BackfillStep False (fun _ _ => .ok ()) fun _ => [7, 8]) s') ∧
      ∀ s', Relation.ReflTransGen (BackfillStep False (fun _ _ => .ok ()) fun _ => [7, 8]) s s' →
        Stuck (BackfillStep False (fun _ _ => .ok ()) fun _ => [7, 8]) s' →
        ∀ i, ∀ chunk ∈ [7, 8], s'.on (fun _ => [7, 8]) chunk i = .ended (.ok ()) := by
  have reach := Relation.ReflTransGen.refl (r := BackfillStep False (fun _ _ => .ok ()) fun _ : Fin 2 => [7, 8])
    (a := .initial 2)
    |>.tail (.publish (i := 0) rfl (.meet (.blocks rfl (by decide))))
  exact ⟨_, rfl, backfills_complete _ _ (by decide) (fun _ _ _ => rfl) _ reach⟩

end GpuTelemetry
