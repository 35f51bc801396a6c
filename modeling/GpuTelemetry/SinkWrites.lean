import GpuTelemetry.Decorators
import Mathlib.Algebra.BigOperators.Group.List.Basic

namespace GpuTelemetry

variable {Record : Type}

/-! ### Chunking -/

/-- `len(s.encode())`. -/
def encodedSize (s : Str) : Nat := (s.map Char.utf8Size).sum

/-- `_OPEN_CLOSE_BRACKET_SIZE`. -/
def openCloseBracketSize : Int := 2

/-- The loop of `chunk_by_json_size`, with the current chunk and its size. -/
def chunkLoop (jsonDump : Record → Str) (sizeHintBytes : Int) :
    List Record → Int → List Record → Generated (List Record)
  | [], _, chunk => if chunk.isEmpty then .done else ⟨[chunk], none⟩
  | item :: items, chunkSize, chunk =>
    let itemSize : Int := encodedSize (jsonDump item)
    if sizeHintBytes < itemSize + openCloseBracketSize then
      ⟨[], some (.valueError ("Got item of size ".toList ++ intText itemSize ++ " which is not less than ".toList ++
        intText sizeHintBytes ++ " - 2 bytes".toList))⟩
    else
      let itemSizeWithSeparator := itemSize + if chunk.isEmpty then 0 else 1
      if chunkSize + itemSizeWithSeparator ≤ sizeHintBytes then
        chunkLoop jsonDump sizeHintBytes items (chunkSize + itemSizeWithSeparator) (chunk ++ [item])
      else .cons chunk (chunkLoop jsonDump sizeHintBytes items (itemSize + 2) [item])

def chunkByJsonSize (jsonDump : Record → Str) (items : List Record) (sizeHintBytes : Int) :
    Generated (List Record) :=
  if sizeHintBytes ≤ 0 then
    ⟨[], some (.valueError ("Size hint must be a positive integer, but got ".toList ++ intText sizeHintBytes))⟩
  else chunkLoop jsonDump sizeHintBytes items openCloseBracketSize []

/-- When nothing is raised, the chunks are the items in order. -/
theorem chunkLoop_flatten {jsonDump : Record → Str} {sizeHintBytes chunkSize : Int} {items chunk : List Record}
    (finished : (chunkLoop jsonDump sizeHintBytes items chunkSize chunk).raises = none) :
    (chunkLoop jsonDump sizeHintBytes items chunkSize chunk).yields.flatten = chunk ++ items := by
  induction items generalizing chunkSize chunk with
  | nil => cases chunk <;> simp [chunkLoop, Generated.done]
  | cons item items ih =>
    unfold chunkLoop at finished ⊢
    dsimp only at finished ⊢
    split at finished
    · simp at finished
    · rename_i fits
      rw [if_neg fits]
      generalize (encodedSize (jsonDump item) : Int) + (if chunk.isEmpty then 0 else 1) = size at finished ⊢
      split at finished
      · rename_i inChunk
        rw [if_pos inChunk, ih finished, List.append_assoc, List.singleton_append]
      · rename_i full
        have later : (chunkLoop jsonDump sizeHintBytes items (encodedSize (jsonDump item) + 2) [item]).yields.flatten =
          [item] ++ items := ih finished
        rw [if_neg full, Generated.cons, List.flatten_cons, later, List.singleton_append]

theorem chunkByJsonSize_flatten {jsonDump : Record → Str} {items : List Record} {sizeHintBytes : Int}
    (finished : (chunkByJsonSize jsonDump items sizeHintBytes).raises = none) :
    (chunkByJsonSize jsonDump items sizeHintBytes).yields.flatten = items := by
  unfold chunkByJsonSize at finished ⊢
  split at finished
  · simp at finished
  · rename_i positive
    rw [if_neg positive]
    exact chunkLoop_flatten finished

/-! ### The sink and what is written to it -/

/-- The message of a log: a list, or the one-shot generator of the records. -/
inductive Message (Record : Type)
  | chunk (items : List Record)
  | generator

/-- A `Log` object; `serial` tells the objects apart. -/
structure Log (Record : Type) where
  serial : Nat
  ts : Int
  message : Message Record

/-- One call of `sink_impl.write`: the records it took from the message before
it returned or raised. -/
structure Call (Record : Type) where
  log : Nat
  delivered : List Record
  outcome : Except PyError Unit

/-- The state around the writes: the number of `Log` objects so far, what is
left of the generator, the calls, the sleeps, the logged exceptions, and for
each report of success the number of `Log` objects before it. -/
structure World (Record : Type) where
  logs : Nat
  source : List Record
  calls : List (Call Record)
  sleeps : List Nat
  logged : List PyError
  reports : List Nat

def World.empty : World Record := ⟨0, [], [], [], [], []⟩

def World.sleep (seconds : Nat) (w : World Record) : World Record := { w with sleeps := w.sleeps ++ [seconds] }

def World.logException (e : PyError) (w : World Record) : World Record := { w with logged := w.logged ++ [e] }

/-- What a sink does at one call: its outcome, and how many records it takes
before it raises. A sink that returns takes the whole message. -/
structure Attempt where
  reads : Nat
  outcome : Except PyError Unit

/-- `sink_impl.write`, whose n-th call goes as the n-th attempt of a script. -/
def sinkWrite (script : Nat → Attempt) (log : Log Record) : Effect (World Record) Unit := fun w =>
  let attempt := script w.calls.length
  let content := match log.message with
    | .chunk items => items
    | .generator => w.source
  let delivered := match attempt.outcome with
    | .ok _ => content
    | .error _ => content.take attempt.reads
  let source := match log.message with
    | .chunk _ => w.source
    | .generator => w.source.drop delivered.length
  (attempt.outcome, { w with source := source, calls := w.calls ++ [⟨log.serial, delivered, attempt.outcome⟩] })

/-- Put a message into a new `Log` and write it. -/
def writeLog (retryableWrite : Log Record → Effect (World Record) Unit) (ts : Int) (message : Message Record) :
    Effect (World Record) Unit :=
  fun w => retryableWrite ⟨w.logs, ts, message⟩ { w with logs := w.logs + 1 }

/-- The loop over the chunks. -/
def writeChunks (retryableWrite : Log Record → Effect (World Record) Unit) (ts : Int) :
    List (List Record) → Effect (World Record) Unit
  | [], w => (.ok (), w)
  | chunk :: chunks, w =>
    match writeLog retryableWrite ts (.chunk chunk) w with
    | (.error e, w') => (.error e, w')
    | (.ok _, w') => writeChunks retryableWrite ts chunks w'

/-- The body of the `try` of `write_to_sink_with_retries`. A `ValueError` of the
chunking is raised after the chunks before it have been written. -/
def writeRecords (retryableWrite : Log Record → Effect (World Record) Unit) (jsonDump : Record → Str)
    (records : List Record) (chunkSize logTime : Int) : Effect (World Record) Unit := fun w =>
  if 0 < chunkSize then
    let chunks := chunkByJsonSize jsonDump records chunkSize
    match writeChunks retryableWrite logTime chunks.yields w with
    | (.error e, w') => (.error e, w')
    | (.ok _, w') =>
      match chunks.raises with
      | some e => (.error e, w')
      | none => (.ok (), w')
  else writeLog retryableWrite logTime .generator w

/-- What the `except` clauses raise in place of an exception; `sinkRepr` is the
`repr` of the sink's name. -/
def writeError (sinkRepr : Str) (retries : Nat) : PyError → PyError
  | .outOfRetries => .clickException ("Failed even after retrying ".toList ++ decimal retries ++
      " times. Please try again later.".toList)
  | .valueError msg => .usageError msg
  | e => .clickException ("An error occurred writing logs to 'sink=".toList ++ sinkRepr ++ "': ".toList ++ e.text ++
      ". Please try again later".toList)

def writeToSinkWithRetries (jsonDump : Record → Str) (write : Log Record → Effect (World Record) Unit)
    (sinkRepr : Str) (records : List Record) (chunkSize : Int) (retries : Nat) (logTime : Int) :
    Effect (World Record) Unit := fun w =>
  let retryableWrite := fun log => retry World.sleep (exponentialBackoff retries) (write log)
  match writeRecords retryableWrite jsonDump records chunkSize logTime { w with source := records } with
  | (.error e, w') => (.error (writeError sinkRepr retries e), w')
  | (.ok _, w') => (.ok (), w')

/-! ### What successful writes deliver -/

/-- The records delivered by each successful call, in order. -/
def World.successes (w : World Record) : List (List Record) :=
  (w.calls.filter fun call => call.outcome.isOk).map Call.delivered

/-- The records taken by some attempts of a script from one on. -/
def readBefore (script : Nat → Attempt) : Nat → Nat → Nat
  | _, 0 => 0
  | start, n + 1 => (script start).reads + readBefore script (start + 1) n

/-- The n-th attempt from `start` is the first not to ask for a retry, and succeeds. -/
def SucceedsAt (script : Nat → Attempt) (start n : Nat) : Prop :=
  (∀ i < n, (script (start + i)).outcome = .error .retry) ∧ (script (start + n)).outcome = .ok ()

theorem SucceedsAt.succ {script : Nat → Attempt} {start n : Nat} (first : (script start).outcome = .error .retry) :
    SucceedsAt script start (n + 1) ↔ SucceedsAt script (start + 1) n := by
  have shift : ∀ i, start + (i + 1) = start + 1 + i := fun i => by omega
  constructor
  · rintro ⟨before, success⟩
    refine ⟨fun i less => ?_, by rwa [shift] at success⟩
    rw [← shift]
    exact before (i + 1) (by omega)
  · rintro ⟨before, success⟩
    refine ⟨fun i less => ?_, by rwa [shift]⟩
    cases i with
    | zero => exact first
    | succ i =>
      rw [shift]
      exact before i (by omega)

theorem SucceedsAt.eq_zero {script : Nat → Attempt} {start n : Nat} (settled : (script start).outcome ≠ .error .retry)
    (success : SucceedsAt script start n) : n = 0 := by
  by_contra later
  exact settled (success.1 0 (by omega))

theorem SucceedsAt.ne_zero {script : Nat → Attempt} {start n : Nat} (retry : (script start).outcome = .error .retry)
    (success : SucceedsAt script start n) : n ≠ 0 := by
  rintro rfl
  have ok := retry.symm.trans success.2
  simp at ok

theorem readBefore_eq_zero_iff {script : Nat → Attempt} {start n : Nat} :
    readBefore script start n = 0 ↔ ∀ i < n, (script (start + i)).reads = 0 := by
  induction n generalizing start with
  | zero => simp [readBefore]
  | succ n ih =>
    have shift : ∀ i, start + (i + 1) = start + 1 + i := fun i => by omega
    rw [readBefore, Nat.add_eq_zero_iff, ih]
    constructor
    · rintro ⟨first, later⟩ i less
      cases i with
      | zero => exact first
      | succ i =>
        rw [shift]
        exact later i (by omega)
    · intro all
      refine ⟨all 0 (by omega), fun i less => ?_⟩
      rw [← shift]
      exact all (i + 1) (by omega)

theorem sinkWrite_outcome (script : Nat → Attempt) (log : Log Record) (w : World Record) :
    (sinkWrite script log w).1 = (script w.calls.length).outcome := rfl

theorem sinkWrite_calls (script : Nat → Attempt) (log : Log Record) (w : World Record) :
    (sinkWrite script log w).2.calls.length = w.calls.length + 1 := by
  simp [sinkWrite]

theorem sinkWrite_ok {script : Nat → Attempt} (log : Log Record) {w : World Record}
    (success : (script w.calls.length).outcome = .ok ()) :
    (sinkWrite script log w).2.successes = w.successes ++ [match log.message with
      | .chunk items => items
      | .generator => w.source] := by
  simp only [sinkWrite, World.successes, success, List.filter_append, List.map_append]
  rfl

theorem sinkWrite_error {script : Nat → Attempt} (log : Log Record) {w : World Record} {e : PyError}
    (failure : (script w.calls.length).outcome = .error e) :
    (sinkWrite script log w).2.successes = w.successes := by
  simp only [sinkWrite, World.successes, failure, List.filter_append, List.map_append]
  exact List.append_nil _

theorem sinkWrite_generator_error {script : Nat → Attempt} {log : Log Record} {w : World Record} {e : PyError}
    (isGenerator : log.message = .generator) (failure : (script w.calls.length).outcome = .error e) :
    (sinkWrite script log w).2.source = w.source.drop (script w.calls.length).reads := by
  simp only [sinkWrite, isGenerator, failure, List.length_take]
  by_cases few : (script w.calls.length).reads ≤ w.source.length
  · rw [Nat.min_eq_left few]
  · rw [Nat.min_eq_right (by omega), List.drop_length, List.drop_eq_nil_of_le (by omega)]

/-- What a retry finds after a failed write and the sleep: one call more and no new success. -/
theorem retried_state {script : Nat → Attempt} {log : Log Record} {w w' : World Record}
    (run : sinkWrite script log w = (.error .retry, w')) (t : Nat) :
    (script w.calls.length).outcome = .error .retry ∧ (w'.sleep t).calls.length = w.calls.length + 1 ∧
      (w'.sleep t).successes = w.successes := by
  have outcome := sinkWrite_outcome script log w
  have calls := sinkWrite_calls script log w
  rw [run] at outcome calls
  have kept := sinkWrite_error log outcome.symm
  rw [run] at kept
  exact ⟨outcome.symm, calls, kept⟩

/-- Retried writes return exactly when a try within the schedule succeeds. -/
theorem retries_ok_iff {script : Nat → Attempt} {log : Log Record} {schedule : List Nat} {w : World Record}
    {result : Except PyError Unit × World Record}
    (tries : Retries World.sleep (sinkWrite script log) schedule w result) :
    result.1 = .ok () ↔ ∃ n ≤ schedule.length, SucceedsAt script w.calls.length n := by
  induction tries with
  | @settled schedule w out w' run settled =>
    have outcome := sinkWrite_outcome script log w
    rw [run] at outcome
    have noRetry : (script w.calls.length).outcome ≠ .error .retry := fun retry => settled (outcome.trans retry)
    constructor
    · intro success
      exact ⟨0, by omega, by simp, outcome.symm.trans success⟩
    · rintro ⟨n, -, atN⟩
      obtain rfl := atN.eq_zero noRetry
      exact outcome.trans atN.2
  | @exhausted w w' run =>
    have outcome := sinkWrite_outcome script log w
    rw [run] at outcome
    refine iff_of_false (by simp) ?_
    rintro ⟨n, none, atN⟩
    exact atN.ne_zero outcome.symm (Nat.le_zero.mp none)
  | @again t schedule w w' result run later ih =>
    obtain ⟨retry, calls, -⟩ := retried_state run t
    rw [ih, calls]
    constructor
    · rintro ⟨m, bound, atM⟩
      exact ⟨m + 1, by simpa using bound, (SucceedsAt.succ retry).mpr atM⟩
    · rintro ⟨n, bound, atN⟩
      obtain ⟨m, rfl⟩ := Nat.exists_eq_succ_of_ne_zero (atN.ne_zero retry)
      exact ⟨m, by simpa using bound, (SucceedsAt.succ retry).mp atN⟩

/-- The write of the generator that succeeds delivers what the tries before it left over. -/
theorem retries_generator {script : Nat → Attempt} {log : Log Record} (isGenerator : log.message = .generator)
    {schedule : List Nat} {w : World Record} {result : Except PyError Unit × World Record}
    (tries : Retries World.sleep (sinkWrite script log) schedule w result) {n : Nat} (bound : n ≤ schedule.length)
    (atN : SucceedsAt script w.calls.length n) :
    result.2.successes = w.successes ++ [w.source.drop (readBefore script w.calls.length n)] := by
  induction tries generalizing n with
  | @settled schedule w out w' run settled =>
    have outcome := sinkWrite_outcome script log w
    rw [run] at outcome
    obtain rfl := atN.eq_zero fun retry => settled (outcome.trans retry)
    have delivered := sinkWrite_ok log atN.2
    rw [run, isGenerator] at delivered
    exact delivered
  | @exhausted w w' run =>
    have outcome := sinkWrite_outcome script log w
    rw [run] at outcome
    exact absurd (Nat.le_zero.mp bound) (atN.ne_zero outcome.symm)
  | @again t schedule w w' result run later ih =>
    obtain ⟨retry, calls, kept⟩ := retried_state run t
    have left := sinkWrite_generator_error isGenerator retry
    rw [run] at left
    have leftSleep : (w'.sleep t).source = w.source.drop (script w.calls.length).reads := left
    obtain ⟨m, rfl⟩ := Nat.exists_eq_succ_of_ne_zero (atN.ne_zero retry)
    have atM := (SucceedsAt.succ retry).mp atN
    rw [← calls] at atM
    have delivered := ih (by simpa using bound) atM
    rw [calls, kept, leftSleep, List.drop_drop] at delivered
    exact delivered

/-- Retried writes of a list deliver it whole when they return. -/
theorem retries_chunk {script : Nat → Attempt} {log : Log Record} {items : List Record}
    (isChunk : log.message = .chunk items) {schedule : List Nat} {w : World Record}
    {result : Except PyError Unit × World Record}
    (tries : Retries World.sleep (sinkWrite script log) schedule w result) (returned : result.1 = .ok ()) :
    result.2.successes = w.successes ++ [items] := by
  induction tries with
  | @settled schedule w out w' run settled =>
    have outcome := sinkWrite_outcome script log w
    rw [run] at outcome
    have delivered := sinkWrite_ok log (outcome.symm.trans returned)
    rw [run, isChunk] at delivered
    exact delivered
  | exhausted run => simp at returned
  | @again t schedule w w' result run later ih =>
    obtain ⟨-, -, kept⟩ := retried_state run t
    rw [ih returned, kept]

/-! ### The records of a run that returns -/

theorem exponentialBackoff_length (retries : Nat) : (exponentialBackoff retries).length = retries := by
  simp [exponentialBackoff]

/-- A loop over chunks that returns has delivered each of them whole. -/
theorem writeChunks_delivers {script : Nat → Attempt} {schedule : List Nat} {ts : Int} {chunks : List (List Record)}
    {w : World Record}
    (returned :
      (writeChunks (fun log => retry World.sleep schedule (sinkWrite script log)) ts chunks w).1 = .ok ()) :
    (writeChunks (fun log => retry World.sleep schedule (sinkWrite script log)) ts chunks w).2.successes =
      w.successes ++ chunks := by
  induction chunks generalizing w with
  | nil => simp [writeChunks]
  | cons chunk chunks ih =>
    rw [writeChunks] at returned ⊢
    split at returned
    · simp at returned
    · rename_i done w' run
      have tries := retry_iff.mp run
      have delivered := retries_chunk rfl tries rfl
      have later := ih returned
      rw [delivered] at later
      rw [later, List.append_assoc, List.singleton_append]
      rfl

/-- The lists the successful writes have to deliver: the chunks, or without
chunking the records at once. -/
def chunksOf (jsonDump : Record → Str) (records : List Record) (chunkSize : Int) : List (List Record) :=
  if 0 < chunkSize then (chunkByJsonSize jsonDump records chunkSize).yields else [records]

theorem writeRecords_chunked {jsonDump : Record → Str} {script : Nat → Attempt} {schedule : List Nat}
    {records : List Record} {chunkSize logTime : Int} {w : World Record} (positive : 0 < chunkSize)
    (returned : (writeRecords (fun log => retry World.sleep schedule (sinkWrite script log)) jsonDump records
      chunkSize logTime w).1 = .ok ()) :
    (writeRecords (fun log => retry World.sleep schedule (sinkWrite script log)) jsonDump records chunkSize
        logTime w).2.successes = w.successes ++ chunksOf jsonDump records chunkSize ∧
      (chunksOf jsonDump records chunkSize).flatten = records := by
  rw [chunksOf, if_pos positive]
  simp only [writeRecords, if_pos positive] at returned ⊢
  split at returned
  · simp at returned
  · rename_i done w' run
    have written := writeChunks_delivers (congrArg Prod.fst run)
    rw [run] at written
    split at returned
    · simp at returned
    · rename_i finished
      exact ⟨written, chunkByJsonSize_flatten finished⟩

theorem writeToSinkWithRetries_ok_iff {jsonDump : Record → Str} {write : Log Record → Effect (World Record) Unit}
    {sinkRepr : Str} {records : List Record} {chunkSize : Int} {retries : Nat} {logTime : Int} {w : World Record} :
    (writeToSinkWithRetries jsonDump write sinkRepr records chunkSize retries logTime w).1 = .ok () ↔
      (writeRecords (fun log => retry World.sleep (exponentialBackoff retries) (write log)) jsonDump records
        chunkSize logTime { w with source := records }).1 = .ok () := by
  unfold writeToSinkWithRetries
  dsimp only
  split
  · rename_i e w' run
    rw [run]
    exact iff_of_false (by simp) (by simp)
  · rename_i done w' run
    rw [run]

theorem writeToSinkWithRetries_world {jsonDump : Record → Str} {write : Log Record → Effect (World Record) Unit}
    {sinkRepr : Str} {records : List Record} {chunkSize : Int} {retries : Nat} {logTime : Int} {w : World Record} :
    (writeToSinkWithRetries jsonDump write sinkRepr records chunkSize retries logTime w).2 =
      (writeRecords (fun log => retry World.sleep (exponentialBackoff retries) (write log)) jsonDump records
        chunkSize logTime { w with source := records }).2 := by
  unfold writeToSinkWithRetries
  dsimp only
  split <;> rename_i run <;> rw [run]

/-- Without chunking the writes are retried on the generator, so the success
delivers what the tries before it left. -/
theorem writeRecords_generator (script : Nat → Attempt) (jsonDump : Record → Str) (records : List Record)
    (retries : Nat) (logTime : Int) {chunkSize : Int} (unchunked : ¬0 < chunkSize) :
    let run := writeRecords (fun log => retry World.sleep (exponentialBackoff retries) (sinkWrite script log))
      jsonDump records chunkSize logTime { World.empty with source := records }
    (run.1 = .ok () ↔ ∃ n ≤ retries, SucceedsAt script 0 n) ∧
      ∀ n ≤ retries, SucceedsAt script 0 n → run.2.successes = [records.drop (readBefore script 0 n)] := by
  intro run
  have write : run = retry World.sleep (exponentialBackoff retries) (sinkWrite script ⟨0, logTime, .generator⟩)
      { World.empty with logs := 1, source := records } := by
    simp only [run, writeRecords, if_neg unchunked]
    rfl
  have tries := retry_iff.mp write.symm
  have returns := retries_ok_iff tries
  rw [exponentialBackoff_length] at returns
  refine ⟨returns, fun n bound atN => ?_⟩
  rw [← exponentialBackoff_length retries] at bound
  exact retries_generator rfl tries bound atN

/-- A list loses nothing to a drop when there is nothing in it or nothing is dropped. -/
theorem drop_eq_self_iff {items : List Record} {n : Nat} : items.drop n = items ↔ items = [] ∨ n = 0 := by
  constructor
  · intro same
    have lengths := congrArg List.length same
    rw [List.length_drop] at lengths
    by_cases empty : items = []
    · exact .inl empty
    · have positive := List.length_pos_of_ne_nil empty
      exact .inr (by omega)
  · intro nothing
    cases nothing with
    | inl empty => rw [empty, List.drop_nil]
    | inr zero => rw [zero, List.drop_zero]

/-- A run that returns has delivered every record in order, for each chunk and
together, unless the records were one message and a retried write before the
first success had already taken some of them from the generator. -/
theorem writeToSinkWithRetries_delivers_iff (jsonDump : Record → Str) (script : Nat → Attempt) (sinkRepr : Str)
    (records : List Record) (chunkSize : Int) (retries : Nat) (logTime : Int) :
    ((writeToSinkWithRetries jsonDump (sinkWrite script) sinkRepr records chunkSize retries logTime
        World.empty).1 = .ok () →
      (writeToSinkWithRetries jsonDump (sinkWrite script) sinkRepr records chunkSize retries logTime
        World.empty).2.successes = chunksOf jsonDump records chunkSize ∧
      (writeToSinkWithRetries jsonDump (sinkWrite script) sinkRepr records chunkSize retries logTime
        World.empty).2.successes.flatten = records) ↔
    0 < chunkSize ∨ records = [] ∨
      ∀ n ≤ retries, SucceedsAt script 0 n → ∀ i < n, (script i).reads = 0 := by
  rw [writeToSinkWithRetries_ok_iff, writeToSinkWithRetries_world]
  by_cases positive : 0 < chunkSize
  · refine iff_of_true (fun returned => ?_) (.inl positive)
    obtain ⟨written, complete⟩ := writeRecords_chunked positive returned
    have delivered := written.trans (List.nil_append _)
    exact ⟨delivered, by rw [delivered, complete]⟩
  · obtain ⟨returned, delivered⟩ := writeRecords_generator script jsonDump records retries logTime positive
    rw [chunksOf, if_neg positive, returned]
    constructor
    · intro all
      refine .inr ?_
      by_cases empty : records = []
      · exact .inl empty
      · refine .inr fun n bound atN => ?_
        have whole := (all ⟨n, bound, atN⟩).1
        rw [delivered n bound atN, List.singleton_inj, drop_eq_self_iff] at whole
        have unread := readBefore_eq_zero_iff.mp (whole.resolve_left empty)
        simpa using unread
    · rintro condition ⟨n, bound, atN⟩
      have whole : records.drop (readBefore script 0 n) = records := by
        rw [drop_eq_self_iff]
        rcases condition with chunked | empty | unread
        · exact absurd chunked positive
        · exact .inl empty
        · refine .inr (readBefore_eq_zero_iff.mpr fun i less => ?_)
          rw [Nat.zero_add]
          exact unread n bound atN i less
      rw [delivered n bound atN, whole]
      exact ⟨rfl, by simp⟩

/-- Three records without chunking: the first call takes one and asks for a
retry, the second succeeds and delivers the other two. -/
theorem writeToSinkWithRetries_loses_record :
    let jsonDump : Nat → Str := decimal
    let script : Nat → Attempt := fun call => if call = 0 then ⟨1, .error .retry⟩ else ⟨0, .ok ()⟩
    let run := writeToSinkWithRetries jsonDump (sinkWrite script) "'otel'".toList [1, 2, 3] 0 1 0 World.empty
    run.1 = .ok () ∧ run.2.successes = [[2, 3]] ∧ run.2.successes ≠ chunksOf jsonDump [1, 2, 3] 0 := by
  decide

end GpuTelemetry
