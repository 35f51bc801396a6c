import GpuTelemetry.NcclMonitor

namespace GpuTelemetry

/-- What is returned, whatever is raised otherwise. -/
def outcome {α : Type} (run : Except PyError α) : Except Unit α := run.mapError fun _ => ()

/-! ### What the annotation leaves of the records -/

section

variable {F : Type}

/-- The annotation finds the keys of a record, if it looks for them. -/
def hasKeys (m : NCCLCollectiveMetrics F) : Bool :=
  !(m.collectiveType.truthy && isSomething m.rank) || ((dictKey m.collectiveType).isOk && (dictKey m.rank).isOk)

/-- Where the annotation looks for the keys of a record, it finds both. -/
theorem dictKeys_of_hasKeys {m : NCCLCollectiveMetrics F} (keys : hasKeys m = true)
    (named : (m.collectiveType.truthy && isSomething m.rank) = true) :
    ∃ ctype rank, dictKey m.collectiveType = .ok ctype ∧ dictKey m.rank = .ok rank := by
  rw [hasKeys, named, Bool.not_true, Bool.false_or, Bool.and_eq_true] at keys
  cases ofType : dictKey m.collectiveType with
  | error e => rw [ofType] at keys; cases keys.1
  | ok ctype =>
    cases ofRank : dictKey m.rank with
    | error e => rw [ofRank] at keys; cases keys.2
    | ok rank => exact ⟨ctype, rank, rfl, rfl⟩

/-- The records that a call returns once it has read them, without the stragglers. -/
def annotated (records : List (NCCLCollectiveMetrics F)) : Except Unit (List (NCCLCollectiveMetrics F)) :=
  if records.all hasKeys then .ok (records.map NCCLCollectiveMetrics.measured) else .error ()

theorem annotateRecord_outcome (flags : StragglerRanks) (m : NCCLCollectiveMetrics F) :
    outcome ((annotateRecord flags m).map NCCLCollectiveMetrics.measured) =
      if hasKeys m then .ok m.measured else .error () := by
  unfold annotateRecord hasKeys
  by_cases named : (m.collectiveType.truthy && isSomething m.rank) = true
  · rw [if_pos named, named]
    cases dictKey m.collectiveType with
    | error e => rfl
    | ok ctype =>
      cases dictKey m.rank with
      | error e => rfl
      | ok rank => rfl
  · rw [if_neg named, Bool.eq_false_iff.mpr named]
    rfl

theorem annotateRecords_outcome (flags : StragglerRanks) (records : List (NCCLCollectiveMetrics F)) :
    outcome ((records.mapM (annotateRecord flags)).map (List.map NCCLCollectiveMetrics.measured)) =
      annotated records := by
  induction records with
  | nil => rfl
  | cons m records ih =>
    have here := annotateRecord_outcome flags m
    rw [List.mapM_cons]
    unfold annotated at ih ⊢
    rw [List.all_cons]
    cases run : annotateRecord flags m with
    | error e =>
      rw [run] at here
      cases keys : hasKeys m with
      | true => rw [keys] at here; cases here
      | false => rfl
    | ok m' =>
      rw [run] at here
      cases keys : hasKeys m with
      | false => rw [keys] at here; cases here
      | true =>
        rw [keys] at here
        have same : m'.measured = m.measured := Except.ok.inj here
        rw [Bool.true_and, List.map_cons, ← same]
        cases runs : records.mapM (annotateRecord flags) with
        | error e =>
          rw [runs] at ih
          cases all : records.all hasKeys with
          | true => rw [all] at ih; cases ih
          | false => rfl
        | ok rest =>
          rw [runs] at ih
          cases all : records.all hasKeys with
          | false => rw [all] at ih; cases ih
          | true =>
            rw [all] at ih
            exact congrArg (fun rest => Except.ok (m'.measured :: rest)) (Except.ok.inj ih)

variable [Add F] [Sub F] [Mul F] [Div F] [LT F] [DecidableLT F] [OfNat F 2] [OfNat F 1000]

/-- The ranks of the durations have keys. -/
def RanksHashable (durations : DurationsByType F) : Prop :=
  ∀ entry ∈ durations, ∀ timed ∈ entry.2, ∃ key, dictKey timed.1 = .ok key

omit [Add F] [Sub F] [Mul F] [Div F] [LT F] [DecidableLT F] [OfNat F 2] [OfNat F 1000] in
theorem addDuration_returns {durations : DurationsByType F} {m : NCCLCollectiveMetrics F}
    (hashable : RanksHashable durations) (keys : hasKeys m = true) :
    ∃ durations', addDuration durations m = .ok durations' ∧ RanksHashable durations' := by
  unfold addDuration
  cases m.durationUs with
  | none => exact ⟨durations, rfl, hashable⟩
  | some durationUs =>
    dsimp only
    by_cases named : (m.collectiveType.truthy && isSomething m.rank) = true
    · obtain ⟨ctype, rank, ofType, ofRank⟩ := dictKeys_of_hasKeys keys named
      rw [if_pos named, ofType]
      refine ⟨_, rfl, fun entry member timed inEntry => ?_⟩
      rcases mem_dictModify member with old | ⟨old, before, rfl⟩
      · exact hashable entry old timed inEntry
      · rcases List.mem_append.mp inEntry with earlier | added
        · cases old with
          | none => cases earlier
          | some ranks => exact hashable _ (before ranks rfl) timed earlier
        · obtain rfl := List.mem_singleton.mp added
          exact ⟨rank, ofRank⟩
    · rw [if_neg named]
      exact ⟨durations, rfl, hashable⟩

omit [Sub F] [Mul F] [OfNat F 1000] in
theorem median_returns {values : List F} (several : values ≠ []) : ∃ m, median values = .ok m := by
  unfold median
  have positive : 0 < (values.insertionSort fun a b => ¬ b < a).length := by
    rw [List.length_insertionSort]
    exact List.length_pos_iff.mpr several
  dsimp only
  rw [List.getElem?_eq_getElem (by omega), List.getElem?_eq_getElem (by omega)]
  exact ⟨_, rfl⟩

omit [Mul F] [OfNat F 1000] in
theorem flagType_returns (thresholdUs : F) (flags : StragglerRanks) {entry : DictKey × List (Json × F)}
    (hashable : ∀ timed ∈ entry.2, ∃ key, dictKey timed.1 = .ok key) :
    ∃ flags', flagType thresholdUs flags entry = .ok flags' := by
  obtain ⟨ctype, rankDurations⟩ := entry
  unfold flagType
  dsimp only
  by_cases few : rankDurations.length < 2
  · rw [if_pos few]
    exact ⟨flags, rfl⟩
  · rw [if_neg few]
    have several : rankDurations.map Prod.snd ≠ [] := by
      intro none
      rw [List.map_eq_nil_iff.mp none] at few
      exact few Nat.zero_lt_two
    obtain ⟨medianUs, isMedian⟩ := median_returns several
    rw [isMedian]
    have step : ∀ (flags : StragglerRanks) (timed : Json × F), (∃ next, (do
        let key ← dictKey timed.1
        return dictSet (ctype, key) (decide (thresholdUs < timed.2 - medianUs)) flags) = Except.ok next) ↔
          ∃ key, dictKey timed.1 = .ok key := fun flags timed => returns_bind_iff
    exact (foldlM_returns_iff step rankDurations flags).mpr hashable


omit [Add F] [Sub F] [Mul F] [Div F] [LT F] [DecidableLT F] [OfNat F 2] [OfNat F 1000] in
theorem addDurations_return {records : List (NCCLCollectiveMetrics F)} (keys : ∀ m ∈ records, hasKeys m = true)
    {durations : DurationsByType F} (hashable : RanksHashable durations) :
    ∃ durations', records.foldlM addDuration durations = .ok durations' ∧ RanksHashable durations' := by
  induction records generalizing durations with
  | nil => exact ⟨durations, rfl, hashable⟩
  | cons m records ih =>
    obtain ⟨here, others⟩ := List.forall_mem_cons.mp keys
    obtain ⟨next, run, stillHashable⟩ := addDuration_returns hashable here
    obtain ⟨durations', runs, result⟩ := ih others stillHashable
    exact ⟨durations', by rw [List.foldlM_cons, run]; exact runs, result⟩

omit [Mul F] [OfNat F 1000] in
theorem flagTypes_return (thresholdUs : F) {durations : DurationsByType F} (hashable : RanksHashable durations)
    (flags : StragglerRanks) : ∃ flags', durations.foldlM (flagType thresholdUs) flags = .ok flags' := by
  induction durations generalizing flags with
  | nil => exact ⟨flags, rfl⟩
  | cons entry durations ih =>
    obtain ⟨here, others⟩ := List.forall_mem_cons.mp hashable
    obtain ⟨next, run⟩ := flagType_returns thresholdUs flags here
    obtain ⟨flags', runs⟩ := ih others next
    exact ⟨flags', by rw [List.foldlM_cons, run]; exact runs⟩

/-- The annotation only adds the stragglers, and raises only for a record without keys. -/
theorem annotateStragglers_outcome (thresholdMs : F) (records : List (NCCLCollectiveMetrics F)) :
    outcome ((annotateStragglers thresholdMs records).map (List.map NCCLCollectiveMetrics.measured)) =
      annotated records := by
  unfold annotateStragglers
  by_cases keys : records.all hasKeys = true
  · have fresh : RanksHashable ([] : DurationsByType F) := fun entry member => nomatch member
    obtain ⟨durations, runDurations, hashable⟩ := addDurations_return (List.all_eq_true.mp keys) fresh
    obtain ⟨flags, runFlags⟩ := flagTypes_return (thresholdMs * 1000) hashable []
    simp only [runDurations, runFlags, bind, Except.bind]
    exact annotateRecords_outcome flags records
  · cases records.foldlM addDuration [] with
    | error e => rw [annotated, if_neg keys]; rfl
    | ok durations =>
      simp only [bind, Except.bind]
      cases durations.foldlM (flagType (thresholdMs * 1000)) [] with
      | error e => rw [annotated, if_neg keys]; rfl
      | ok flags => exact annotateRecords_outcome flags records

end

/-! ### What one call returns -/

variable {F : Type}

theorem annotated_append (records later : List (NCCLCollectiveMetrics F)) :
    annotated (records ++ later) = andThen (annotated records) (annotated later) := by
  unfold annotated
  rw [List.all_append, List.map_append]
  cases records.all hasKeys with
  | false => rfl
  | true => cases later.all hasKeys <;> rfl

section

variable [Mul F] [OfNat F 1000] [OfNat F 1000000000] (float : Json → Except PyError F) (py : Interpreter) (depth : Nat)

/-- What a line adds to what a call returns. -/
def lineGives (line : Str) : Except Unit (List (NCCLCollectiveMetrics F)) := do
  let records ← outcome (lineRecords float py depth line)
  annotated records

theorem lineGives_nil : lineGives float py depth [] = .ok [] := rfl

theorem collect_lineGives (lines : List Str) :
    collect (lineGives float py depth) lines = (do
      let records ← outcome (collect (lineRecords float py depth) lines)
      annotated records) := by
  induction lines with
  | nil => rfl
  | cons line lines ih =>
    rw [collect, collect, ih]
    unfold lineGives
    cases lineRecords float py depth line with
    | error e => rfl
    | ok records =>
      cases collect (lineRecords float py depth) lines with
      | error e =>
        change andThen (annotated records) (.error ()) = .error ()
        cases annotated records <;> rfl
      | ok later => exact (annotated_append records later).symm

/-- What the bytes that a call reads give. -/
def chunkGives (bytes : ByteArray) : Except Unit (List (NCCLCollectiveMetrics F)) :=
  match bytes.utf8Decode? with
  | some chars => readText isNewline (lineGives float py depth) chars.toList
  | none => .error ()

theorem chunkGives_utf8Encode (text : Str) :
    chunkGives float py depth text.utf8Encode = readText isNewline (lineGives float py depth) text := by
  rw [chunkGives, List.utf8Decode?_utf8Encode]

/-- Bytes that give anything are a text. -/
theorem text_of_chunkGives {bytes : ByteArray} {records : List (NCCLCollectiveMetrics F)}
    (run : chunkGives float py depth bytes = .ok records) : ∃ text : Str, bytes = text.utf8Encode := by
  unfold chunkGives at run
  cases decoded : bytes.utf8Decode? with
  | none => rw [decoded] at run; cases run
  | some chars =>
    obtain ⟨text, isText⟩ := ByteArray.isSome_utf8Decode?_iff.mp (Option.isSome_iff_exists.mpr ⟨chars, decoded⟩)
    exact ⟨text, isText⟩

end

section

variable {β ε : Type} {read : Str → Except ε (List β)}

theorem splitOnP_ending {c : Char} (ends : isNewline c = true) (text : Str) :
    (c :: text).splitOnP isNewline = [] :: text.splitOnP isNewline := by
  rw [List.splitOnP_cons_eq_if_modifyHead, if_pos ends]

/-- Two texts start with the same line, and their other lines give the same. -/
def ReadAlike (read : Str → Except ε (List β)) (text text' : Str) : Prop :=
  firstLine isNewline text = firstLine isNewline text' ∧
    collect read (text.splitOnP isNewline).tail = collect read (text'.splitOnP isNewline).tail

theorem ReadAlike.readText {text text' : Str} (alike : ReadAlike read text text') :
    readText isNewline read text = readText isNewline read text' := by
  obtain ⟨rest, shape⟩ := (splitOnP_parts isNewline text).2
  obtain ⟨rest', shape'⟩ := (splitOnP_parts isNewline text').2
  obtain ⟨first, others⟩ := alike
  rw [shape, shape', List.tail_cons, List.tail_cons] at others
  unfold GpuTelemetry.readText
  rw [shape, shape', collect, collect, first, others]

theorem ReadAlike.cons {text text' : Str} (alike : ReadAlike read text text') (c : Char) :
    ReadAlike read (c :: text) (c :: text') := by
  obtain ⟨rest, shape⟩ := (splitOnP_parts isNewline text).2
  obtain ⟨rest', shape'⟩ := (splitOnP_parts isNewline text').2
  unfold ReadAlike firstLine
  by_cases ends : isNewline c = true
  · rw [splitOnP_ending ends, splitOnP_ending ends]
    exact ⟨rfl, alike.readText⟩
  · obtain ⟨first, others⟩ := alike
    rw [shape, shape', List.tail_cons, List.tail_cons] at others
    rw [List.splitOnP_cons_eq_if_modifyHead, List.splitOnP_cons_eq_if_modifyHead, if_neg ends, if_neg ends, shape,
      shape', first]
    exact ⟨rfl, others⟩

/-- A reading that gets nothing from an empty line takes `\r\n` as it takes two ends. -/
theorem readAlike_joinCrLf (blank : read [] = .ok []) (text : Str) : ReadAlike read (joinCrLf text) text := by
  induction text with
  | nil => exact ⟨rfl, rfl⟩
  | cons c text ih =>
    rw [joinCrLf]
    split
    · rename_i crLf
      obtain ⟨rfl, newline⟩ := crLf
      obtain ⟨rest, rfl⟩ : ∃ rest, text = '\n' :: rest := by
        cases text with
        | nil => cases newline
        | cons d rest => exact ⟨rest, congrArg (· :: rest) (Option.some.inj newline)⟩
      have oneEnd : ReadAlike read ('\n' :: rest) ('\r' :: '\n' :: rest) := by
        unfold ReadAlike firstLine
        rw [splitOnP_ending (show isNewline '\r' = true by decide),
          splitOnP_ending (show isNewline '\n' = true by decide)]
        exact ⟨rfl, by rw [List.tail_cons, List.tail_cons, collect, blank, andThen_nil]⟩
      exact ⟨ih.1.trans oneEnd.1, ih.2.trans oneEnd.2⟩
    · exact ih.cons c

theorem collect_dropEmptyLast (blank : read [] = .ok []) (parts : List Str) :
    collect read (dropEmptyLast parts) = collect read parts := by
  unfold dropEmptyLast
  split
  · rename_i isEmpty
    have whole : parts.dropLast ++ [[]] = parts := List.dropLast_append_getLast? [] isEmpty
    have last : collect read [[]] = .ok [] := by rw [collect, collect, blank, andThen_none]
    conv_rhs => rw [← whole, collect_append, last, andThen_none]
  · rfl

theorem collect_fileLines (blank : read [] = .ok []) (text : Str) :
    collect read (fileLines text) = readText isNewline read text := by
  rw [fileLines, collect_dropEmptyLast blank]
  exact (readAlike_joinCrLf blank text).readText

end

section

variable [Add F] [Sub F] [Mul F] [Div F] [LT F] [DecidableLT F] [OfNat F 2] [OfNat F 1000] [OfNat F 1000000000]
  (float : Json → Except PyError F) (py : Interpreter) (depth : Nat)

/-- The records of a call and the position that it leaves. -/
theorem tailAndParse_outcome (thresholdMs : F) (content : ByteArray) (position : Nat) :
    (outcome (tailAndParse float py depth thresholdMs (.readable content) position)).map
        (fun returned => (returned.1.map NCCLCollectiveMetrics.measured, returned.2)) =
      (chunkGives float py depth (content.extract position content.size)).map
        fun records => (records, max position content.size) := by
  unfold tailAndParse readFrom chunkGives
  dsimp only
  cases (content.extract position content.size).utf8Decode? with
  | none => rfl
  | some chars =>
    dsimp only
    rw [← collect_fileLines (lineGives_nil float py depth), collect_lineGives]
    simp only [bind, Except.bind]
    cases collect (lineRecords float py depth) (fileLines chars.toList) with
    | error e => rfl
    | ok records =>
      cases records with
      | nil => rfl
      | cons m records =>
        change _ = (annotated (m :: records)).map _
        rw [← annotateStragglers_outcome thresholdMs (m :: records)]
        simp only [List.isEmpty_cons, Bool.false_eq_true, if_false]
        cases annotateStragglers thresholdMs (m :: records) with
        | error e => rfl
        | ok returned => rfl

end

end GpuTelemetry
