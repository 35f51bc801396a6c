import GpuTelemetry.NcclTail

namespace GpuTelemetry

/-- How a call finds the log. -/
inductive LogAccess
  | missing
  | unreadable
  | readable
  deriving DecidableEq

def LogAccess.file (content : ByteArray) : LogAccess → LogFile
  | .missing => .missing
  | .unreadable => .unreadable
  | .readable => .readable content

/-- What has been written since the last call, and how the next call finds the log. -/
structure LogObservation where
  appended : ByteArray
  access : LogAccess

/-- All that is written over the observations. -/
def appendedBytes : List LogObservation → ByteArray
  | [] => .empty
  | observation :: observations => observation.appended ++ appendedBytes observations

/-- What each call reads that can read the log, where some bytes are still unread before them. -/
def readChunks (unread : ByteArray) : List LogObservation → List ByteArray
  | [] => []
  | observation :: observations =>
    match observation.access with
    | .readable => (unread ++ observation.appended) :: readChunks .empty observations
    | .missing | .unreadable => readChunks (unread ++ observation.appended) observations

def joinBytes (chunks : List ByteArray) : ByteArray := chunks.foldr (· ++ ·) .empty

/-- The last call, if there is one, can read the log. -/
def ReadAtEnd (observations : List LogObservation) : Prop := ∀ last ∈ observations.getLast?, last.access = .readable

theorem ReadAtEnd.cons {observation : LogObservation} {observations : List LogObservation}
    (atEnd : ReadAtEnd observations) (started : observations = [] → observation.access = .readable) :
    ReadAtEnd (observation :: observations) := by
  intro last isLast
  cases observations with
  | nil =>
    obtain rfl := Option.some.inj isLast
    exact started rfl
  | cons next observations => exact atEnd last (by rwa [List.getLast?_cons_cons] at isLast)

theorem ReadAtEnd.tail {observation : LogObservation} {observations : List LogObservation}
    (atEnd : ReadAtEnd (observation :: observations)) :
    ReadAtEnd observations ∧ (observations = [] → observation.access = .readable) := by
  refine ⟨fun last isLast => atEnd last ?_, fun none => ?_⟩
  · rw [List.getLast?_cons, Option.mem_def.mp isLast]
    rfl
  · rw [none] at atEnd
    exact atEnd observation rfl

/-- If the last call can read the log, the calls together read all of it. -/
theorem joinBytes_readChunks {unread : ByteArray} {observations : List LogObservation}
    (atEnd : ReadAtEnd observations) (started : observations = [] → unread = .empty) :
    joinBytes (readChunks unread observations) = unread ++ appendedBytes observations := by
  induction observations generalizing unread with
  | nil =>
    rw [started rfl]
    exact ByteArray.append_empty.symm
  | cons observation observations ih =>
    obtain ⟨others, readable⟩ := atEnd.tail
    rw [readChunks, appendedBytes, ← ByteArray.append_assoc]
    cases access : observation.access with
    | readable =>
      dsimp only
      rw [joinBytes, List.foldr_cons, ← joinBytes, ih others fun _ => rfl, ByteArray.empty_append]
    | missing | unreadable =>
      refine ih others fun none => ?_
      have isReadable := readable none
      rw [access] at isReadable
      cases isReadable

theorem readChunks_append (unread : ByteArray) (seen later : List LogObservation) :
    ∃ others, readChunks unread (seen ++ later) = readChunks unread seen ++ others := by
  induction seen generalizing unread with
  | nil => exact ⟨_, rfl⟩
  | cons observation seen ih =>
    rw [List.cons_append, readChunks, readChunks]
    cases observation.access with
    | readable =>
      obtain ⟨others, split⟩ := ih .empty
      exact ⟨others, by dsimp only; rw [split, List.cons_append]⟩
    | missing | unreadable => exact ih _

/-- The first chunks are read by the first observations. -/
theorem seen_of_readChunks {unread : ByteArray} {observations : List LogObservation} {chunks others : List ByteArray}
    (split : readChunks unread observations = chunks ++ others) :
    ∃ seen later, observations = seen ++ later ∧ readChunks unread seen = chunks ∧ ReadAtEnd seen := by
  induction observations generalizing unread chunks with
  | nil =>
    obtain ⟨rfl, -⟩ := List.append_eq_nil_iff.mp split.symm
    exact ⟨[], [], rfl, rfl, fun last none => nomatch none⟩
  | cons observation observations ih =>
    cases chunks with
    | nil => exact ⟨[], observation :: observations, rfl, rfl, fun last none => nomatch none⟩
    | cons chunk chunks =>
      rw [readChunks] at split
      cases access : observation.access with
      | readable =>
        rw [access] at split
        obtain ⟨rfl, rest⟩ := List.cons.inj split
        obtain ⟨seen, later, rfl, read, atEnd⟩ := ih rest
        refine ⟨observation :: seen, later, rfl, ?_, atEnd.cons fun _ => access⟩
        rw [readChunks, access, read]
      | missing | unreadable =>
        rw [access] at split
        obtain ⟨seen, later, rfl, read, atEnd⟩ := ih split
        refine ⟨observation :: seen, later, rfl, ?_, atEnd.cons fun none => ?_⟩
        · rw [readChunks, access]
          exact read
        · rw [none] at read
          cases read

theorem joinBytes_utf8Encode (texts : List Str) : joinBytes (texts.map List.utf8Encode) = texts.flatten.utf8Encode := by
  induction texts with
  | nil => exact List.utf8Encode_nil.symm
  | cons text texts ih =>
    rw [List.map_cons, List.flatten_cons, List.utf8Encode_append, ← ih]
    rfl

section

variable {F : Type} [Mul F] [OfNat F 1000] [OfNat F 1000000000] (float : Json → Except PyError F) (py : Interpreter)
  (depth : Nat)

theorem chunks_are_texts {chunks : List ByteArray} {records : List (NCCLCollectiveMetrics F)}
    (run : collect (chunkGives float py depth) chunks = .ok records) :
    ∃ texts : List Str, chunks = texts.map List.utf8Encode := by
  induction chunks generalizing records with
  | nil => exact ⟨[], rfl⟩
  | cons chunk chunks ih =>
    obtain ⟨first, others, ranFirst, ranOthers, -⟩ := andThen_eq_ok.mp run
    obtain ⟨text, rfl⟩ := text_of_chunkGives float py depth ranFirst
    obtain ⟨texts, rfl⟩ := ih ranOthers
    exact ⟨text :: texts, rfl⟩

theorem collect_texts (texts : List Str) : collect (chunkGives float py depth) (texts.map List.utf8Encode) =
    collect (readText isNewline (lineGives float py depth)) texts := by
  induction texts with
  | nil => rfl
  | cons text texts ih => rw [List.map_cons, collect, collect, chunkGives_utf8Encode, ih]

end

variable {F : Type} [Add F] [Sub F] [Mul F] [Div F] [LT F] [DecidableLT F] [OfNat F 2] [OfNat F 1000]
  [OfNat F 1000000000] (float : Json → Except PyError F) (py : Interpreter) (depth : Nat) (thresholdMs : F)

/-- The records of successive calls, each from the position that the call before it returned. -/
def tailRun (content : ByteArray) (position : Nat) :
    List LogObservation → Except PyError (List (NCCLCollectiveMetrics F))
  | [] => .ok []
  | observation :: observations => do
    let content := content ++ observation.appended
    let (records, position) ← tailAndParse float py depth thresholdMs (observation.access.file content) position
    let later ← tailRun content position observations
    return records ++ later

omit [Add F] [Sub F] [Mul F] [Div F] [LT F] [DecidableLT F] [OfNat F 2] [OfNat F 1000] [OfNat F 1000000000] in
theorem outcome_call (call : Except PyError (List (NCCLCollectiveMetrics F) × Nat))
    (others : Nat → Except PyError (List (NCCLCollectiveMetrics F))) :
    (outcome do
      let returned ← call
      let later ← others returned.2
      return returned.1 ++ later).map (List.map NCCLCollectiveMetrics.measured) = (do
        let returned ← (outcome call).map fun returned => (returned.1.map NCCLCollectiveMetrics.measured, returned.2)
        andThen (.ok returned.1) ((outcome (others returned.2)).map (List.map NCCLCollectiveMetrics.measured))) := by
  cases call with
  | error e => rfl
  | ok returned =>
    obtain ⟨records, position⟩ := returned
    change (outcome (others position >>= _)).map _ = andThen (.ok _) ((outcome (others position)).map _)
    cases others position with
    | error e => rfl
    | ok later => exact congrArg Except.ok List.map_append

/-- The calls of a run return what the chunks that they read give. -/
theorem tailRun_outcome (before unread : ByteArray) (observations : List LogObservation) :
    (outcome (tailRun float py depth thresholdMs (before ++ unread) before.size observations)).map
        (List.map NCCLCollectiveMetrics.measured) =
      collect (chunkGives float py depth) (readChunks unread observations) := by
  induction observations generalizing before unread with
  | nil => rfl
  | cons observation observations ih =>
    unfold tailRun readChunks
    dsimp only
    rw [ByteArray.append_assoc, outcome_call _ fun position =>
      tailRun float py depth thresholdMs (before ++ (unread ++ observation.appended)) position observations]
    cases observation.access with
    | missing | unreadable =>
      change andThen (.ok []) _ = _
      rw [andThen_nil]
      exact ih before (unread ++ observation.appended)
    | readable =>
      rw [LogAccess.file, tailAndParse_outcome, ByteArray.extract_append_eq_right rfl ByteArray.size_append, collect]
      have others := ih (before ++ (unread ++ observation.appended)) .empty
      rw [ByteArray.append_empty] at others
      rw [Nat.max_eq_right (by rw [ByteArray.size_append]; omega), ← others]
      cases chunkGives float py depth (unread ++ observation.appended) <;> rfl

/-- The records of successive calls, without the stragglers. -/
def successive (observations : List LogObservation) : Except Unit (List (NCCLCollectiveMetrics F)) :=
  (outcome (tailRun float py depth thresholdMs .empty 0 observations)).map (List.map NCCLCollectiveMetrics.measured)

/-- The records of one call on the whole log, without the stragglers. -/
def atOnce (content : ByteArray) : Except Unit (List (NCCLCollectiveMetrics F)) :=
  (outcome (tailAndParse float py depth thresholdMs (.readable content) 0)).map
    fun returned => returned.1.map NCCLCollectiveMetrics.measured

theorem successive_eq (observations : List LogObservation) :
    successive float py depth thresholdMs observations =
      collect (chunkGives float py depth) (readChunks .empty observations) := by
  rw [← tailRun_outcome float py depth thresholdMs .empty .empty observations, ByteArray.empty_append]
  rfl

theorem atOnce_eq (content : ByteArray) :
    atOnce float py depth thresholdMs content = chunkGives float py depth content := by
  have call := tailAndParse_outcome float py depth thresholdMs content 0
  rw [ByteArray.extract_zero_size] at call
  have records := congrArg (Except.map Prod.fst) call
  unfold atOnce
  cases returned : outcome (tailAndParse float py depth thresholdMs (.readable content) 0) <;>
    cases given : chunkGives float py depth content <;> rw [returned, given] at records <;> exact records

/-- Whenever a call has read the log, the calls so far have returned the records of the whole log so far. -/
def LosesNothing (observations : List LogObservation) : Prop :=
  ∀ seen later, observations = seen ++ later → ReadAtEnd seen →
    successive float py depth thresholdMs seen = atOnce float py depth thresholdMs (appendedBytes seen)

/-- Each call reads whole characters, and the line that it goes on with gives
what its two parts give. -/
def KeepsLog (observations : List LogObservation) : Prop :=
  ∃ texts : List Str, readChunks .empty observations = texts.map List.utf8Encode ∧
    KeepsLines isNewline (lineGives float py depth) texts

theorem atOnce_texts {seen : List LogObservation} {texts : List Str} (atEnd : ReadAtEnd seen)
    (cut : readChunks .empty seen = texts.map List.utf8Encode) :
    atOnce float py depth thresholdMs (appendedBytes seen) =
      readText isNewline (lineGives float py depth) texts.flatten := by
  have whole := joinBytes_readChunks atEnd fun _ => rfl
  rw [cut, joinBytes_utf8Encode, ByteArray.empty_append] at whole
  rw [atOnce_eq, ← whole, chunkGives_utf8Encode]

theorem losesNothing_of_keepsLog {observations : List LogObservation} (keeps : KeepsLog float py depth observations) :
    LosesNothing float py depth thresholdMs observations := by
  rintro seen later rfl atEnd
  obtain ⟨texts, cut, keepsLines⟩ := keeps
  obtain ⟨others, split⟩ := readChunks_append .empty seen later
  obtain ⟨before, after, rfl, ofSeen, -⟩ := List.map_eq_append_iff.mp (cut.symm.trans split)
  rw [successive_eq, ← ofSeen, collect_texts, atOnce_texts float py depth thresholdMs atEnd ofSeen.symm]
  exact collect_chunks isNewline (lineGives float py depth) keepsLines.earlier (lineGives_nil float py depth)

theorem keepsLog_of_losesNothing {observations : List LogObservation} {records : List (NCCLCollectiveMetrics F)}
    (run : successive float py depth thresholdMs observations = .ok records)
    (same : LosesNothing float py depth thresholdMs observations) : KeepsLog float py depth observations := by
  rw [successive_eq] at run
  obtain ⟨texts, cut⟩ := chunks_are_texts float py depth run
  rw [cut, collect_texts] at run
  refine ⟨texts, cut, keepsLines_of_collect isNewline (lineGives float py depth) run fun earlier later split => ?_⟩
  rw [split, List.map_append] at cut
  obtain ⟨seen, rest, isPrefix, ofSeen, atEnd⟩ := seen_of_readChunks cut
  rw [← atOnce_texts float py depth thresholdMs atEnd ofSeen, ← same seen rest isPrefix atEnd, successive_eq, ofSeen,
    collect_texts]

/-- Calls that come only between lines lose nothing. -/
theorem losesNothing_of_ended {observations : List LogObservation} {texts : List Str}
    (cut : readChunks .empty observations = texts.map List.utf8Encode)
    (ended : ∀ text ∈ texts, ∀ c ∈ text.getLast?, isNewline c = true) :
    LosesNothing float py depth thresholdMs observations :=
  losesNothing_of_keepsLog float py depth thresholdMs
    ⟨texts, cut, keepsLines_of_ended isNewline (lineGives float py depth) (lineGives_nil float py depth) ended⟩

/-- A call that divides the text of a record loses it, if neither part of the text gives a record. -/
theorem losesRecord_of_divided {observations : List LogObservation} {records : List (NCCLCollectiveMetrics F)}
    {earlier later : List Str} {next : Str} (run : successive float py depth thresholdMs observations = .ok records)
    (cut : readChunks .empty observations = (earlier ++ next :: later).map List.utf8Encode)
    (front : lineGives float py depth (unfinished isNewline earlier.flatten) = .ok [])
    (back : lineGives float py depth (firstLine isNewline next) = .ok [])
    (whole : lineGives float py depth (unfinished isNewline earlier.flatten ++ firstLine isNewline next) ≠ .ok []) :
    ¬LosesNothing float py depth thresholdMs observations := by
  intro same
  obtain ⟨texts, isCut, keeps⟩ := keepsLog_of_losesNothing float py depth thresholdMs run same
  have encode : Function.Injective List.utf8Encode := fun s t eq => by
    have decoded := congrArg ByteArray.utf8Decode? eq
    rw [List.utf8Decode?_utf8Encode, List.utf8Decode?_utf8Encode] at decoded
    simpa using decoded
  have split : texts = earlier ++ next :: later := List.map_injective_iff.mpr encode (isCut.symm.trans cut)
  have kept := keeps earlier next later split
  rw [KeepsLine, front, back] at kept
  exact whole kept

/-- Calls between lines lose nothing, and one inside the text of a record loses it. -/
theorem tailRun_cuts {observations : List LogObservation} {earlier later : List Str} {next : Str}
    (cut : readChunks .empty observations = (earlier ++ next :: later).map List.utf8Encode) :
    ((∀ text ∈ earlier ++ next :: later, ∀ c ∈ text.getLast?, isNewline c = true) →
        LosesNothing float py depth thresholdMs observations) ∧
      ((∃ records, successive float py depth thresholdMs observations = .ok records) →
        lineGives float py depth (unfinished isNewline earlier.flatten) = .ok [] →
        lineGives float py depth (firstLine isNewline next) = .ok [] →
        lineGives float py depth (unfinished isNewline earlier.flatten ++ firstLine isNewline next) ≠ .ok [] →
          ¬LosesNothing float py depth thresholdMs observations) :=
  ⟨losesNothing_of_ended float py depth thresholdMs cut, fun ⟨_, run⟩ front back whole =>
    losesRecord_of_divided float py depth thresholdMs run cut front back whole⟩

/-- A log is tailed without loss where each call keeps the line that it goes on
with; if all calls return, only there. -/
theorem tailRun_losesNothing_iff (observations : List LogObservation) :
    (KeepsLog float py depth observations → LosesNothing float py depth thresholdMs observations) ∧
      ((∃ records, successive float py depth thresholdMs observations = .ok records) →
        LosesNothing float py depth thresholdMs observations → KeepsLog float py depth observations) :=
  ⟨losesNothing_of_keepsLog float py depth thresholdMs, fun ⟨_, run⟩ same =>
    keepsLog_of_losesNothing float py depth thresholdMs run same⟩

/-- `float` of a number. -/
def numberFloat : Json → Except PyError Float
  | .int n => .ok (Float.ofInt n)
  | .float x => .ok x
  | _ => .error (.typeError "float() argument must be a string or a real number".toList)

/-- A call after each record, and one between them. -/
theorem tailRun_losesNothing_records :
    let py : Interpreter := ⟨fun _ => none, some 4300, by decide⟩
    let allGather := "\x7b\"collective\": \"AllGather\", \"rank\": 0, \"time_us\": 100.0\x7d\n".toList
    let broadcast := "\x7b\"collective\": \"Broadcast\", \"rank\": 0, \"time_us\": 50.0\x7d\n".toList
    LosesNothing numberFloat py 1000 1000
      [⟨allGather.utf8Encode, .readable⟩, ⟨[].utf8Encode, .readable⟩, ⟨broadcast.utf8Encode, .readable⟩] := by
  intro py allGather broadcast
  refine (tailRun_losesNothing_iff numberFloat py 1000 1000 _).1 ⟨[allGather, [], broadcast], ?_, ?_⟩
  · rw [readChunks, readChunks, readChunks, readChunks, ByteArray.empty_append, ByteArray.empty_append,
      ByteArray.empty_append]
    rfl
  · refine keepsLines_of_ended isNewline (lineGives numberFloat py 1000) (lineGives_nil numberFloat py 1000) ?_
    have newline : ∀ text : Str, text.getLast? = some '\n' ∨ text.getLast? = none →
        ∀ c ∈ text.getLast?, isNewline c = true := by
      rintro text (last | empty) c isLast
      · obtain rfl := Option.some.inj (last.symm.trans isLast)
        rfl
      · cases empty.symm.trans isLast
    rw [List.forall_mem_cons, List.forall_mem_cons, List.forall_mem_singleton]
    exact ⟨newline allGather (.inl rfl), newline [] (.inr rfl), newline broadcast (.inl rfl)⟩

/-- The first call comes in the middle of a record. Neither call returns it. -/
theorem tailRun_losesRecord :
    let py : Interpreter := ⟨fun _ => none, some 4300, by decide⟩
    let start := "\x7b\"collective\": \"AllGather\", \"rank\": 0, \"si".toList
    let rest := "ze\": 512, \"time_us\": 100.0\x7d\n".toList
    ¬ LosesNothing numberFloat py 1000 1000 [⟨start.utf8Encode, .readable⟩, ⟨rest.utf8Encode, .readable⟩] := by
  intro py start rest same
  have atEnd : ReadAtEnd [⟨start.utf8Encode, .readable⟩, ⟨rest.utf8Encode, .readable⟩] := by
    intro last isLast
    obtain rfl := Option.some.inj isLast
    rfl
  have cut : readChunks .empty [⟨start.utf8Encode, .readable⟩, ⟨rest.utf8Encode, .readable⟩] =
      [start, rest].map List.utf8Encode := by
    rw [readChunks, readChunks, readChunks, ByteArray.empty_append, ByteArray.empty_append]
    rfl
  have whole := same _ [] (List.append_nil _).symm atEnd
  rw [successive_eq, cut, collect_texts, atOnce_texts numberFloat py 1000 1000 atEnd cut] at whole
  have none : (collect (readText isNewline (lineGives numberFloat py 1000)) [start, rest]).map List.length = .ok 0 := by
    decide +kernel
  have one : (readText isNewline (lineGives numberFloat py 1000) [start, rest].flatten).map List.length = .ok 1 := by
    decide +kernel
  rw [whole, one] at none
  cases none

end GpuTelemetry
