import GpuTelemetry.SinkWrites

namespace GpuTelemetry

variable {Record : Type}

/-! ### The loop -/

/-- What a call of `get_data` raises or returns. -/
abbrev Collection (Record : Type) := Except PyError (Option (List Record))

/-- The arguments of `run_data_collection_loop` that its writes depend on. -/
structure LoopSettings (Record : Type) where
  jsonDump : Record → Str
  sinkRepr : Str
  chunkSize : Int
  retries : Nat
  once : Bool

/-- `succeeded writing %s data to sink %s`. -/
def World.report (w : World Record) : World Record := { w with reports := w.reports ++ [w.logs] }

/-- The body of the `for` loop over the tasks. -/
def collectTask (settings : LoopSettings Record) (write : Log Record → Effect (World Record) Unit) (logTime : Int) :
    Collection Record → Effect (World Record) Unit
  | .error e, w => (.error e, w)
  | .ok none, w => (.ok (), w)
  | .ok (some data), w =>
    match writeToSinkWithRetries settings.jsonDump write settings.sinkRepr data settings.chunkSize settings.retries
        logTime w with
    | (.error e, w') => (.error e, w')
    | (.ok _, w') => (.ok (), w'.report)

def collectTasks (settings : LoopSettings Record) (write : Log Record → Effect (World Record) Unit) (logTime : Int) :
    List (Collection Record) → Effect (World Record) Unit
  | [], w => (.ok (), w)
  | task :: tasks, w =>
    match collectTask settings write logTime task w with
    | (.error e, w') => (.error e, w')
    | (.ok _, w') => collectTasks settings write logTime tasks w'

/-- The log time of a round and what its calls of `get_data` give. -/
structure Round (Record : Type) where
  logTime : Int
  collections : List (Collection Record)

inductive LoopStatus
  | running
  | returned
  | raised (e : PyError)
  deriving DecidableEq

/-- The `while` loop, followed for a number of rounds. -/
def collectionRounds (settings : LoopSettings Record) (write : Log Record → Effect (World Record) Unit)
    (rounds : Nat → Round Record) : Nat → Nat → World Record → LoopStatus × World Record
  | 0, _, w => (.running, w)
  | fuel + 1, i, w =>
    match collectTasks settings write (rounds i).logTime (rounds i).collections w with
    | (.error e, w') => (.raised e, w')
    | (.ok _, w') => if settings.once then (.returned, w') else collectionRounds settings write rounds fuel (i + 1) w'

/-- `_write = log_error(logger_name)(sink_impl.write)`. -/
def loggedWrite (script : Nat → Attempt) (log : Log Record) : Effect (World Record) Unit :=
  logError World.logException () (sinkWrite script log)

def runDataCollectionLoop (settings : LoopSettings Record) (script : Nat → Attempt) (rounds : Nat → Round Record)
    (fuel : Nat) : LoopStatus × World Record :=
  collectionRounds settings (loggedWrite script) rounds fuel 0 World.empty

/-! ### What is asked of the writes -/

/-- The outcomes of the calls that wrote a `Log`, in order. -/
def World.attempts (w : World Record) (log : Nat) : List (Except PyError Unit) :=
  (w.calls.filter fun call => call.log = log).map Call.outcome

/-- Every `Log` that asks for a retry is written again up to `retries` times, a
report of success comes after a successful write of each `Log` before it, and
the loop fails when the tries of a `Log` run out. -/
structure RetriedAndReported (settings : LoopSettings Record) (status : LoopStatus) (w : World Record) : Prop where
  again : ∀ log n, (w.attempts log)[n]? = some (.error .retry) → n < settings.retries →
    n + 1 < (w.attempts log).length
  upTo : ∀ log, (w.attempts log).length ≤ settings.retries + 1
  reported : ∀ n ∈ w.reports, ∀ log < n, .ok () ∈ w.attempts log
  exhausted : ∀ log, (∀ n ≤ settings.retries, (w.attempts log)[n]? = some (.error .retry)) →
    status = .raised (writeError settings.sinkRepr settings.retries .outOfRetries)

/-! ### The logs of a run -/

/-- What the chunking of a collection raises. -/
def chunkingError (settings : LoopSettings Record) (data : List Record) : Option PyError :=
  if 0 < settings.chunkSize then (chunkByJsonSize settings.jsonDump data settings.chunkSize).raises else none

/-- How many `Log` objects a collection is written as. -/
def logCount (settings : LoopSettings Record) : Collection Record → Nat
  | .ok (some data) => (chunksOf settings.jsonDump data settings.chunkSize).length
  | _ => 0

/-- A collection after which the loop goes on, if writing raises nothing. -/
def Finishes (settings : LoopSettings Record) : Collection Record → Bool
  | .error _ => false
  | .ok none => true
  | .ok (some data) => (chunkingError settings data).isNone

/-- The `Log` objects of the collections up to the first that does not finish. -/
def writtenLogs (settings : LoopSettings Record) : List (Collection Record) → Nat
  | [] => 0
  | task :: tasks => logCount settings task + if Finishes settings task then writtenLogs settings tasks else 0

/-- The `Log` objects of the collections before the first that does not finish. -/
def reportedLogs (settings : LoopSettings Record) : List (Collection Record) → Nat
  | [] => 0
  | task :: tasks => if Finishes settings task then logCount settings task + reportedLogs settings tasks else 0

/-- The collections of the rounds that a run of some rounds starts. -/
def startedCollections (settings : LoopSettings Record) (rounds : Nat → Round Record) :
    Nat → Nat → List (Collection Record)
  | 0, _ => []
  | fuel + 1, i =>
    (rounds i).collections ++ if settings.once then [] else startedCollections settings rounds fuel (i + 1)

/-! ### One call for each log -/

/-- The n-th call wrote the n-th `Log`, so no `Log` has been written twice. -/
def OneCallEach (script : Nat → Attempt) (w : World Record) : Prop :=
  w.calls.map (fun call => (call.log, call.outcome)) = (List.range w.logs).map fun i => (i, (script i).outcome)

theorem OneCallEach.calls_length {script : Nat → Attempt} {w : World Record} (each : OneCallEach script w) :
    w.calls.length = w.logs := by
  have lengths := congrArg List.length each
  simpa using lengths

theorem range_filter_eq (n log : Nat) : ((List.range n).filter fun i => i = log) = if log < n then [log] else [] := by
  induction n with
  | zero => simp
  | succ n ih =>
    rw [List.range_succ, List.filter_append, ih]
    by_cases last : n = log
    · subst last
      simp
    · have order : log < n + 1 ↔ log < n := by omega
      simp [last, order]

theorem OneCallEach.attempts {script : Nat → Attempt} {w : World Record} (each : OneCallEach script w) (log : Nat) :
    w.attempts log = if log < w.logs then [(script log).outcome] else [] := by
  have numbered : w.attempts log =
      ((w.calls.map fun call => (call.log, call.outcome)).filter fun entry => entry.1 = log).map Prod.snd := by
    rw [World.attempts, List.filter_map, List.map_map]
    rfl
  rw [numbered, each, List.filter_map, List.map_map]
  calc
    _ = ((List.range w.logs).filter fun i => i = log).map fun i => (script i).outcome := rfl
    _ = _ := by
      rw [range_filter_eq]
      split <;> rfl

/-- From one state to another, some logs have been written, each by one call. -/
structure Writes (script : Nat → Attempt) (count : Nat) (w w' : World Record) : Prop where
  each : OneCallEach script w → OneCallEach script w'
  logs : w'.logs = w.logs + count
  reports : w'.reports = w.reports

theorem Writes.refl (script : Nat → Attempt) (w : World Record) : Writes script 0 w w :=
  ⟨id, rfl, rfl⟩

theorem Writes.trans {script : Nat → Attempt} {n m : Nat} {w w' w'' : World Record} (first : Writes script n w w')
    (later : Writes script m w' w'') : Writes script (n + m) w w'' :=
  ⟨later.each ∘ first.each, by rw [later.logs, first.logs, Nat.add_assoc], later.reports.trans first.reports⟩

/-- `log_error` leaves `retry` no exception, so a new `Log` is written once
whatever the sink does. -/
theorem writeLog_once (script : Nat → Attempt) (schedule : List Nat) (ts : Int) (message : Message Record)
    (w : World Record) :
    ∃ w', writeLog (fun log => retry World.sleep schedule (loggedWrite script log)) ts message w = (.ok (), w') ∧
      Writes script 1 w w' := by
  obtain ⟨w', run, logs, reports, calls⟩ :
      ∃ w', loggedWrite script ⟨w.logs, ts, message⟩ { w with logs := w.logs + 1 } = (.ok (), w') ∧
        w'.logs = w.logs + 1 ∧ w'.reports = w.reports ∧
        ∃ delivered, w'.calls = w.calls ++ [⟨w.logs, delivered, (script w.calls.length).outcome⟩] := by
    unfold loggedWrite logError
    split <;> rename_i run <;> obtain ⟨-, rfl⟩ := Prod.ext_iff.mp run
    · exact ⟨_, rfl, rfl, rfl, _, rfl⟩
    · exact ⟨_, rfl, rfl, rfl, _, rfl⟩
  obtain ⟨delivered, calls⟩ := calls
  refine ⟨w', ?_, ?_, logs, reports⟩
  · rw [writeLog, retry_once, run]
    rw [run]
    simp
  · intro each
    rw [OneCallEach, calls, logs, List.map_append, each, List.range_succ, List.map_append, each.calls_length]
    rfl

theorem writeChunks_once (script : Nat → Attempt) (schedule : List Nat) (ts : Int) (chunks : List (List Record))
    (w : World Record) :
    ∃ w', writeChunks (fun log => retry World.sleep schedule (loggedWrite script log)) ts chunks w = (.ok (), w') ∧
      Writes script chunks.length w w' := by
  induction chunks generalizing w with
  | nil => exact ⟨w, rfl, .refl script w⟩
  | cons chunk chunks ih =>
    obtain ⟨w', first, writesFirst⟩ := writeLog_once script schedule ts (.chunk chunk) w
    obtain ⟨w'', later, writesLater⟩ := ih w'
    refine ⟨w'', by rw [writeChunks, first]; exact later, ?_⟩
    rw [List.length_cons, Nat.add_comm]
    exact writesFirst.trans writesLater

theorem writeToSinkWithRetries_once (settings : LoopSettings Record) (script : Nat → Attempt) (logTime : Int)
    (data : List Record) (w : World Record) :
    ∃ w', writeToSinkWithRetries settings.jsonDump (loggedWrite script) settings.sinkRepr data settings.chunkSize
        settings.retries logTime w =
        (match chunkingError settings data with
          | some e => .error (writeError settings.sinkRepr settings.retries e)
          | none => .ok (), w') ∧
      Writes script (logCount settings (.ok (some data))) w w' := by
  unfold writeToSinkWithRetries writeRecords chunkingError logCount chunksOf
  dsimp only
  by_cases positive : 0 < settings.chunkSize
  · simp only [if_pos positive]
    obtain ⟨w', run, writes⟩ := writeChunks_once script (exponentialBackoff settings.retries) logTime
      (chunkByJsonSize settings.jsonDump data settings.chunkSize).yields { w with source := data }
    rw [run]
    cases (chunkByJsonSize settings.jsonDump data settings.chunkSize).raises with
    | none => exact ⟨w', rfl, writes.each, writes.logs, writes.reports⟩
    | some e => exact ⟨w', rfl, writes.each, writes.logs, writes.reports⟩
  · simp only [if_neg positive]
    obtain ⟨w', run, writes⟩ := writeLog_once script (exponentialBackoff settings.retries) logTime .generator
      { w with source := data }
    rw [run]
    exact ⟨w', rfl, writes.each, writes.logs, writes.reports⟩

/-! ### The logs and reports of a run -/

theorem logs_of_finished {settings : LoopSettings Record} {tasks : List (Collection Record)}
    (finish : tasks.all (Finishes settings)) (later : List (Collection Record)) :
    writtenLogs settings (tasks ++ later) = reportedLogs settings tasks + writtenLogs settings later ∧
      reportedLogs settings (tasks ++ later) = reportedLogs settings tasks + reportedLogs settings later := by
  induction tasks with
  | nil => simp [reportedLogs]
  | cons task tasks ih =>
    rw [List.all_cons, Bool.and_eq_true] at finish
    obtain ⟨written, reported⟩ := ih finish.2
    simp only [List.cons_append, writtenLogs, reportedLogs, finish.1, if_true, written, reported]
    omega

theorem logs_of_stopped {settings : LoopSettings Record} {tasks : List (Collection Record)}
    (stop : ¬tasks.all (Finishes settings)) (later : List (Collection Record)) :
    writtenLogs settings (tasks ++ later) = writtenLogs settings tasks ∧
      reportedLogs settings (tasks ++ later) = reportedLogs settings tasks := by
  induction tasks with
  | nil => simp at stop
  | cons task tasks ih =>
    cases finish : Finishes settings task with
    | false => simp [writtenLogs, reportedLogs, finish]
    | true =>
      rw [List.all_cons, finish, Bool.true_and] at stop
      simp [writtenLogs, reportedLogs, finish, ih stop]

theorem writtenLogs_of_finished {settings : LoopSettings Record} {tasks : List (Collection Record)}
    (finish : tasks.all (Finishes settings)) : writtenLogs settings tasks = reportedLogs settings tasks := by
  have whole := (logs_of_finished finish []).1
  rwa [List.append_nil] at whole

theorem reportedLogs_le (settings : LoopSettings Record) (tasks : List (Collection Record)) :
    reportedLogs settings tasks ≤ writtenLogs settings tasks := by
  induction tasks with
  | nil => exact Nat.le_refl 0
  | cons task tasks ih =>
    rw [reportedLogs, writtenLogs]
    split <;> omega

/-- From one state to another, the loop has gone through some collections. -/
structure Progress (settings : LoopSettings Record) (script : Nat → Attempt) (tasks : List (Collection Record))
    (w w' : World Record) (raised : Option PyError) : Prop where
  each : OneCallEach script w → OneCallEach script w'
  logs : w'.logs = w.logs + writtenLogs settings tasks
  kept : w.reports ⊆ w'.reports
  before : ∀ n ∈ w'.reports, n ∈ w.reports ∨ n ≤ w.logs + reportedLogs settings tasks
  last : 0 < reportedLogs settings tasks → w.logs + reportedLogs settings tasks ∈ w'.reports
  finished : raised = none ↔ tasks.all (Finishes settings)
  unreported : reportedLogs settings tasks < writtenLogs settings tasks → ∃ msg, raised = some (.usageError msg)

theorem Progress.nil (settings : LoopSettings Record) (script : Nat → Attempt) (w : World Record) :
    Progress settings script [] w w none where
  each := id
  logs := rfl
  kept := List.Subset.refl _
  before := fun n member => .inl member
  last := fun positive => absurd positive (lt_irrefl 0)
  finished := by simp
  unreported := fun less => absurd less (lt_irrefl 0)

theorem Progress.append {settings : LoopSettings Record} {script : Nat → Attempt}
    {tasks later : List (Collection Record)} {w w' w'' : World Record} {raised : Option PyError}
    (first : Progress settings script tasks w w' none) (second : Progress settings script later w' w'' raised) :
    Progress settings script (tasks ++ later) w w'' raised := by
  have finish := first.finished.mp rfl
  obtain ⟨written, reported⟩ := logs_of_finished finish later
  have logs := first.logs
  rw [writtenLogs_of_finished finish] at logs
  refine ⟨second.each ∘ first.each, ?_, List.Subset.trans first.kept second.kept, ?_, ?_, ?_, ?_⟩
  · rw [second.logs, logs, written, Nat.add_assoc]
  · intro n member
    rw [reported]
    rcases second.before n member with old | bound
    · rcases first.before n old with older | bound
      · exact .inl older
      · exact .inr (by omega)
    · exact .inr (by omega)
  · intro positive
    rw [reported, ← Nat.add_assoc, ← logs]
    by_cases more : 0 < reportedLogs settings later
    · exact second.last more
    · have none : reportedLogs settings later = 0 := by omega
      rw [none, Nat.add_zero, logs]
      exact second.kept (first.last (by omega))
  · rw [second.finished, List.all_append, finish, Bool.true_and]
  · intro less
    exact second.unreported (by omega)

theorem Progress.stop {settings : LoopSettings Record} {script : Nat → Attempt} {tasks : List (Collection Record)}
    {w w' : World Record} {e : PyError} (first : Progress settings script tasks w w' (some e))
    (later : List (Collection Record)) : Progress settings script (tasks ++ later) w w' (some e) := by
  have stop : ¬tasks.all (Finishes settings) := fun finish => by simpa using first.finished.mpr finish
  obtain ⟨written, reported⟩ := logs_of_stopped stop later
  refine ⟨first.each, by rw [written, first.logs], first.kept, ?_, ?_, ?_, ?_⟩
  · rw [reported]
    exact first.before
  · rw [reported]
    exact first.last
  · refine iff_of_false (by simp) fun finish => stop ?_
    rw [List.all_append, Bool.and_eq_true] at finish
    exact finish.1
  · rw [written, reported]
    exact first.unreported

theorem chunkLoop_raises {jsonDump : Record → Str} {sizeHintBytes chunkSize : Int} {items chunk : List Record}
    {e : PyError} (raised : (chunkLoop jsonDump sizeHintBytes items chunkSize chunk).raises = some e) :
    ∃ msg, e = .valueError msg := by
  induction items generalizing chunkSize chunk with
  | nil => cases chunk <;> simp [chunkLoop, Generated.done] at raised
  | cons item items ih =>
    unfold chunkLoop at raised
    dsimp only at raised
    split at raised
    · exact ⟨_, (Option.some.inj raised).symm⟩
    · generalize (encodedSize (jsonDump item) : Int) + (if chunk.isEmpty then 0 else 1) = size at raised
      split at raised
      · exact ih raised
      · exact ih raised

theorem chunkingError_valueError {settings : LoopSettings Record} {data : List Record} {e : PyError}
    (raised : chunkingError settings data = some e) : ∃ msg, e = .valueError msg := by
  unfold chunkingError at raised
  split at raised
  · rename_i positive
    rw [chunkByJsonSize, if_neg (by omega)] at raised
    exact chunkLoop_raises raised
  · simp at raised

/-- The exception a computation ends with, if any. -/
def raisedOf : Except PyError Unit → Option PyError
  | .error e => some e
  | .ok _ => none

/-- A collection written whole is reported, with its own logs and all before them. -/
theorem Writes.progress_reported {settings : LoopSettings Record} {script : Nat → Attempt} {data : List Record}
    {w w' : World Record} (writes : Writes script (logCount settings (.ok (some data))) w w')
    (whole : chunkingError settings data = none) :
    Progress settings script [.ok (some data)] w w'.report none := by
  have finish : Finishes settings (.ok (some data)) = true := by simp [Finishes, whole]
  have reported : reportedLogs settings [.ok (some data)] = logCount settings (.ok (some data)) := by
    simp [reportedLogs, finish]
  have written : writtenLogs settings [.ok (some data)] = logCount settings (.ok (some data)) := by
    simp [writtenLogs]
  have reports : w'.report.reports = w.reports ++ [w'.logs] := by rw [World.report, writes.reports]
  refine ⟨writes.each, ?_, ?_, ?_, ?_, ?_, ?_⟩
  · rw [written]
    exact writes.logs
  · rw [reports]
    exact List.subset_append_left _ _
  · intro n member
    rw [reports, writes.logs] at member
    rw [reported]
    rcases List.mem_append.mp member with old | new
    · exact .inl old
    · exact .inr (List.mem_singleton.mp new).le
  · intro _
    rw [reported, reports, ← writes.logs]
    exact List.mem_append_right _ (List.mem_singleton_self _)
  · simp [finish]
  · rw [reported, written]
    exact fun less => absurd less (lt_irrefl _)

/-- A collection that cannot be chunked is not reported, although some chunks of it are written. -/
theorem Writes.progress_stopped {settings : LoopSettings Record} {script : Nat → Attempt} {data : List Record}
    {w w' : World Record} (writes : Writes script (logCount settings (.ok (some data))) w w') {msg : Str}
    (large : chunkingError settings data = some (.valueError msg)) :
    Progress settings script [.ok (some data)] w w' (some (.usageError msg)) := by
  have stop : Finishes settings (.ok (some data)) = false := by simp [Finishes, large]
  have reported : reportedLogs settings [.ok (some data)] = 0 := by simp [reportedLogs, stop]
  refine ⟨writes.each, ?_, ?_, ?_, ?_, ?_, ?_⟩
  · simpa [writtenLogs] using writes.logs
  · rw [writes.reports]
    exact List.Subset.refl _
  · intro n member
    rw [writes.reports] at member
    exact .inl member
  · rw [reported]
    exact fun less => absurd less (lt_irrefl _)
  · simp [stop]
  · exact fun _ => ⟨msg, rfl⟩

theorem collectTask_progress (settings : LoopSettings Record) (script : Nat → Attempt) (logTime : Int)
    (task : Collection Record) (w : World Record) :
    ∃ outcome w', collectTask settings (loggedWrite script) logTime task w = (outcome, w') ∧
      Progress settings script [task] w w' (raisedOf outcome) := by
  match task with
  | .error e =>
    refine ⟨_, w, rfl, id, rfl, List.Subset.refl _, fun n member => .inl member, ?_, ?_, ?_⟩
    · simp [reportedLogs, Finishes]
    · simp [raisedOf, Finishes]
    · simp [reportedLogs, writtenLogs, logCount]
  | .ok none =>
    refine ⟨_, w, rfl, id, rfl, List.Subset.refl _, fun n member => .inl member, ?_, ?_, ?_⟩
    · simp [reportedLogs, logCount]
    · simp [raisedOf, Finishes]
    · simp [reportedLogs, writtenLogs, Finishes]
  | .ok (some data) =>
    obtain ⟨w', run, writes⟩ := writeToSinkWithRetries_once settings script logTime data w
    rw [collectTask, run]
    cases raised : chunkingError settings data with
    | none => exact ⟨_, _, rfl, writes.progress_reported raised⟩
    | some e =>
      obtain ⟨msg, rfl⟩ := chunkingError_valueError raised
      exact ⟨_, _, rfl, writes.progress_stopped raised⟩

theorem collectTasks_progress (settings : LoopSettings Record) (script : Nat → Attempt) (logTime : Int)
    (tasks : List (Collection Record)) (w : World Record) :
    ∃ outcome w', collectTasks settings (loggedWrite script) logTime tasks w = (outcome, w') ∧
      Progress settings script tasks w w' (raisedOf outcome) := by
  induction tasks generalizing w with
  | nil => exact ⟨_, w, rfl, .nil settings script w⟩
  | cons task tasks ih =>
    obtain ⟨outcome, w', run, progress⟩ := collectTask_progress settings script logTime task w
    rw [collectTasks, run]
    cases outcome with
    | error e => exact ⟨_, _, rfl, progress.stop tasks⟩
    | ok done =>
      obtain ⟨outcome, w'', later, rest⟩ := ih w'
      exact ⟨outcome, w'', later, progress.append rest⟩

def LoopStatus.raised? : LoopStatus → Option PyError
  | .raised e => some e
  | _ => none

theorem collectionRounds_progress (settings : LoopSettings Record) (script : Nat → Attempt)
    (rounds : Nat → Round Record) (fuel i : Nat) (w : World Record) :
    ∃ status w', collectionRounds settings (loggedWrite script) rounds fuel i w = (status, w') ∧
      Progress settings script (startedCollections settings rounds fuel i) w w' status.raised? := by
  induction fuel generalizing i w with
  | zero => exact ⟨_, w, rfl, .nil settings script w⟩
  | succ fuel ih =>
    obtain ⟨outcome, w', run, progress⟩ :=
      collectTasks_progress settings script (rounds i).logTime (rounds i).collections w
    rw [collectionRounds, startedCollections, run]
    cases outcome with
    | error e => exact ⟨_, _, rfl, progress.stop _⟩
    | ok done =>
      cases once : settings.once with
      | true => exact ⟨_, _, rfl, progress.append (.nil settings script w')⟩
      | false =>
        obtain ⟨status, w'', later, rest⟩ := ih (i + 1) w'
        exact ⟨status, w'', by simpa using later, progress.append (by simpa using rest)⟩

section OneCall

variable {settings : LoopSettings Record} {script : Nat → Attempt} {status : LoopStatus} {w : World Record}

/-- Where nothing asks for a retry, nothing is left to be retried. -/
theorem OneCallEach.retriedAndReported (each : OneCallEach script w)
    (noRetry : ∀ i < w.logs, (script i).outcome ≠ .error .retry)
    (reported : ∀ n ∈ w.reports, n ≤ w.logs ∧ ∀ i < n, (script i).outcome = .ok ()) :
    RetriedAndReported settings status w := by
  have never : ∀ log n : Nat, (w.attempts log)[n]? ≠ some (Except.error PyError.retry) := by
    intro log n retry
    rw [each.attempts] at retry
    split at retry
    · rename_i less
      cases n with
      | zero => exact noRetry log less (Option.some.inj retry)
      | succ n => simp at retry
    · simp at retry
  refine ⟨fun log n retry => absurd retry (never log n), fun log => ?_, ?_, ?_⟩
  · rw [each.attempts]
    split <;> simp
  · intro n member log less
    obtain ⟨bound, success⟩ := reported n member
    rw [each.attempts, if_pos (by omega), success log less]
    exact List.mem_singleton_self _
  · intro log all
    exact absurd (all 0 (Nat.zero_le _)) (never log 0)

/-- A call that asks for a retry is not answered, so no retries were allowed and
the run ends with the error of exhausted retries. -/
theorem RetriedAndReported.exhausted_of_retry (asked : RetriedAndReported settings status w)
    (each : OneCallEach script w) {i : Nat} (less : i < w.logs) (retry : (script i).outcome = .error .retry) :
    status = .raised (writeError settings.sinkRepr settings.retries .outOfRetries) := by
  have only : w.attempts i = [.error .retry] := by rw [each.attempts, if_pos less, retry]
  have noRetries : settings.retries = 0 := by
    by_contra positive
    have again := asked.again i 0 (by rw [only]; rfl) (by omega)
    rw [only] at again
    simp at again
  refine asked.exhausted i fun n bound => ?_
  have zero : n = 0 := by omega
  rw [only, zero]
  rfl

end OneCall

/-- A run retries and reports as asked exactly when no `Log` it writes meets a
`Retry`, and every `Log` of a collection it reports is written successfully. -/
theorem runDataCollectionLoop_retried_iff (settings : LoopSettings Record) (script : Nat → Attempt)
    (rounds : Nat → Round Record) (fuel : Nat) :
    RetriedAndReported settings (runDataCollectionLoop settings script rounds fuel).1
        (runDataCollectionLoop settings script rounds fuel).2 ↔
      (∀ i < writtenLogs settings (startedCollections settings rounds fuel 0), (script i).outcome ≠ .error .retry) ∧
        ∀ i < reportedLogs settings (startedCollections settings rounds fuel 0), (script i).outcome = .ok () := by
  obtain ⟨status, w, run, progress⟩ := collectionRounds_progress settings script rounds fuel 0 World.empty
  rw [runDataCollectionLoop, run]
  have each : OneCallEach script w := progress.each rfl
  have logs := progress.logs.trans (Nat.zero_add _)
  have reportedLe := reportedLogs_le settings (startedCollections settings rounds fuel 0)
  rw [← logs] at reportedLe ⊢
  constructor
  · intro asked
    have success : ∀ i < reportedLogs settings (startedCollections settings rounds fuel 0),
        (script i).outcome = .ok () := by
      intro i less
      have member := asked.reported _ (progress.last (by omega)) i (by simpa [World.empty] using less)
      rw [each.attempts, if_pos (by omega), List.mem_singleton] at member
      exact member.symm
    refine ⟨fun i less retry => ?_, success⟩
    have exhausted : status = _ := asked.exhausted_of_retry each less retry
    have unfinished : reportedLogs settings (startedCollections settings rounds fuel 0) ≤ i := by
      by_contra finished
      have ok := success i (by omega)
      rw [retry] at ok
      cases ok
    obtain ⟨msg, usage⟩ := progress.unreported (by omega)
    rw [exhausted] at usage
    simp [LoopStatus.raised?, writeError] at usage
  · rintro ⟨noRetry, success⟩
    refine each.retriedAndReported noRetry fun n member => ?_
    have bound : n ≤ reportedLogs settings (startedCollections settings rounds fuel 0) := by
      rcases progress.before n member with impossible | bound
      · cases impossible
      · exact bound.trans (Nat.zero_add _).le
    exact ⟨by omega, fun i less => success i (by omega)⟩

/-- One record and two retries: the only call asks for a retry, no other call is
made, and the collection is reported as written. -/
theorem runDataCollectionLoop_swallows_retry :
    let settings : LoopSettings Nat := ⟨decimal, "'otel'".toList, 100, 2, true⟩
    let run := runDataCollectionLoop settings (fun _ => ⟨0, .error .retry⟩) (fun _ => ⟨0, [.ok (some [7])]⟩) 1
    run.1 = .returned ∧ run.2.reports = [1] ∧ run.2.attempts 0 = [.error .retry] ∧
      ¬RetriedAndReported settings run.1 run.2 := by
  intro settings run
  have only : run.2.attempts 0 = [.error .retry] := by decide
  refine ⟨by decide, by decide, only, fun asked => ?_⟩
  have again := asked.again 0 0 (by rw [only]; rfl) (by decide)
  rw [only] at again
  simp at again

end GpuTelemetry
