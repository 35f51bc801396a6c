import GpuTelemetry.Exceptions

/-! The reader of Python's `csv` module in its default dialect. Nothing here
mentions a particular program. -/

namespace GpuTelemetry

inductive CsvMode
  | startRecord
  | startField
  | inField
  | inQuotedField
  | quoteInQuotedField
  | eatCrNl
  deriving DecidableEq

structure CsvParser where
  mode : CsvMode
  fields : List Str
  field : Str

def csvFieldLimit : Nat := 131072

def csvFieldLimitError : PyError := .exception "field larger than field limit (131072)".toList

namespace CsvParser

def start : CsvParser := ⟨.startRecord, [], []⟩

def saveField (s : CsvParser) (mode : CsvMode) : CsvParser := ⟨mode, s.fields ++ [s.field], []⟩

def addChar (s : CsvParser) (mode : CsvMode) (c : Char) : Except PyError CsvParser :=
  if csvFieldLimit ≤ s.field.length then .error csvFieldLimitError else .ok ⟨mode, s.fields, s.field ++ [c]⟩

/-- The first character of a field. The end of a line, here and below, is `none`. -/
def processFirst (s : CsvParser) : Option Char → Except PyError CsvParser
  | none => .ok (s.saveField .startRecord)
  | some c =>
    if c = '\n' ∨ c = '\r' then .ok (s.saveField .eatCrNl)
    else if c = '"' then .ok { s with mode := .inQuotedField }
    else if c = ',' then .ok (s.saveField .startField)
    else s.addChar .inField c

def processChar (s : CsvParser) (c : Option Char) : Except PyError CsvParser :=
  match s.mode, c with
  | .startRecord, none => .ok s
  | .startRecord, some c => if c = '\n' ∨ c = '\r' then .ok { s with mode := .eatCrNl } else s.processFirst (some c)
  | .startField, c => s.processFirst c
  | .inField, none => .ok (s.saveField .startRecord)
  | .inField, some c =>
    if c = '\n' ∨ c = '\r' then .ok (s.saveField .eatCrNl)
    else if c = ',' then .ok (s.saveField .startField)
    else s.addChar .inField c
  | .inQuotedField, none => .ok s
  | .inQuotedField, some c =>
    if c = '"' then .ok { s with mode := .quoteInQuotedField } else s.addChar .inQuotedField c
  | .quoteInQuotedField, none => .ok (s.saveField .startRecord)
  | .quoteInQuotedField, some c =>
    if c = '"' then s.addChar .inQuotedField c
    else if c = ',' then .ok (s.saveField .startField)
    else if c = '\n' ∨ c = '\r' then .ok (s.saveField .eatCrNl)
    else s.addChar .inField c
  | .eatCrNl, none => .ok { s with mode := .startRecord }
  | .eatCrNl, some c =>
    if c = '\n' ∨ c = '\r' then .ok s
    else .error (.exception ("new-line character seen in unquoted field - " ++
      "do you need to open the file in universal-newline mode?").toList)

end CsvParser

/-- The records of some lines. A record goes on over the lines that its quotes span. -/
def csvReader : CsvParser → List Str → Except PyError (List (List Str))
  | s, [] => .ok (if s.field ≠ [] ∨ s.mode = .inQuotedField then [s.fields ++ [s.field]] else [])
  | s, line :: lines => do
    let s ← (line.map some ++ [none]).foldlM CsvParser.processChar s
    if s.mode = .startRecord then return s.fields :: (← csvReader .start lines)
    else csvReader s lines

/-- The lines of a text, with their newlines, as a file yields them. -/
def linesWithEnds : Str → List Str
  | [] => []
  | c :: s =>
    if c = '\n' then [c] :: linesWithEnds s
    else
      match linesWithEnds s with
      | [] => [[c]]
      | line :: rest => (c :: line) :: rest

/-- The rows of `csv.DictReader`: values under the names of the fields, `None`
where the row ends before, and the fields of the row that have no name. -/
def dictReader (fieldnames : List Str) (lines : List Str) :
    Except PyError (List (List (Str × Option Str) × List Str)) := do
  let records ← csvReader .start lines
  return (records.filter fun row => row ≠ []).map fun row =>
    ((fieldnames.zip (row.map some ++ List.replicate (fieldnames.length - row.length) none)),
      row.drop fieldnames.length)

/-! ### Plain cells -/

/-- A cell that stands in a line as it is. -/
structure PlainCell (cell : Str) : Prop where
  nonempty : cell ≠ []
  plain : ∀ c ∈ cell, c ≠ '\n' ∧ c ≠ '\r' ∧ c ≠ '"' ∧ c ≠ ','

def csvLine (cells : List Str) : Str := [','].intercalate cells

namespace CsvParser

theorem foldlM_inField {run : Str} (plain : ∀ c ∈ run, c ≠ '\n' ∧ c ≠ '\r' ∧ c ≠ '"' ∧ c ≠ ',') (done : List Str)
    {field : Str} (fits : field.length ≤ csvFieldLimit) (rest : List (Option Char)) :
    (run.map some ++ rest).foldlM processChar ⟨.inField, done, field⟩ =
      if (field ++ run).length ≤ csvFieldLimit then rest.foldlM processChar ⟨.inField, done, field ++ run⟩
      else .error csvFieldLimitError := by
  induction run generalizing field with
  | nil => simp [fits]
  | cons c run ih =>
    obtain ⟨⟨notNewline, notReturn, -, notComma⟩, later⟩ := List.forall_mem_cons.mp plain
    have step : processChar ⟨.inField, done, field⟩ (some c) = addChar ⟨.inField, done, field⟩ .inField c := by
      simp [processChar, notNewline, notReturn, notComma]
    rw [List.map_cons, List.cons_append, List.foldlM_cons, step, addChar]
    by_cases full : csvFieldLimit ≤ field.length
    · rw [if_pos full, if_neg (by simp; omega)]
      rfl
    · have next := @ih later (field ++ [c]) (by simp; omega)
      rw [List.append_assoc] at next
      rw [if_neg full]
      exact next

theorem foldlM_cell {cell : Str} (plain : PlainCell cell) {mode : CsvMode}
    (first : mode = .startRecord ∨ mode = .startField) (done : List Str) (rest : List (Option Char)) :
    (cell.map some ++ rest).foldlM processChar ⟨mode, done, []⟩ =
      if cell.length ≤ csvFieldLimit then rest.foldlM processChar ⟨.inField, done, cell⟩
      else .error csvFieldLimitError := by
  obtain ⟨nonempty, plain⟩ := plain
  cases cell with
  | nil => exact absurd rfl nonempty
  | cons c run =>
    obtain ⟨⟨notNewline, notReturn, notQuote, notComma⟩, later⟩ := List.forall_mem_cons.mp plain
    have step : processChar ⟨mode, done, []⟩ (some c) = .ok ⟨.inField, done, [c]⟩ := by
      rcases first with rfl | rfl <;>
        simp [processChar, processFirst, addChar, csvFieldLimit, notNewline, notReturn, notQuote, notComma]
    rw [List.map_cons, List.cons_append, List.foldlM_cons, step]
    exact foldlM_inField later done (by simp [csvFieldLimit]) rest

/-- What ends a record after its last field. -/
def EndsRecord (last : List (Option Char)) : Prop :=
  ∀ done field, last.foldlM processChar ⟨.inField, done, field⟩ = .ok ⟨.startRecord, done ++ [field], []⟩

theorem endsRecord_none : EndsRecord [none] := fun _ _ => rfl

theorem endsRecord_newline : EndsRecord [some '\n', none] := fun _ _ => rfl

theorem foldlM_record {cells : List Str} (plain : ∀ cell ∈ cells, PlainCell cell) (some_cell : cells ≠ [])
    {mode : CsvMode} (first : mode = .startRecord ∨ mode = .startField) (done : List Str)
    {last : List (Option Char)} (ends : EndsRecord last) :
    ((csvLine cells).map some ++ last).foldlM processChar ⟨mode, done, []⟩ =
      if ∀ cell ∈ cells, cell.length ≤ csvFieldLimit then .ok ⟨.startRecord, done ++ cells, []⟩
      else .error csvFieldLimitError := by
  induction cells generalizing mode done with
  | nil => exact absurd rfl some_cell
  | cons cell rest ih =>
    obtain ⟨here, later⟩ := List.forall_mem_cons.mp plain
    cases rest with
    | nil =>
      rw [csvLine, List.intercalate_singleton, foldlM_cell here first, ends]
      simp
    | cons next rest =>
      have text : (csvLine (cell :: next :: rest)).map some ++ last =
          cell.map some ++ some ',' :: ((csvLine (next :: rest)).map some ++ last) := by
        simp [csvLine]
      have comma : processChar ⟨.inField, done, cell⟩ (some ',') = .ok ⟨.startField, done ++ [cell], []⟩ := rfl
      rw [text, foldlM_cell here first]
      by_cases fits : cell.length ≤ csvFieldLimit
      · rw [if_pos fits, List.foldlM_cons, comma]
        refine (ih later (by simp) (.inr rfl) (done ++ [cell])).trans ?_
        simp [fits]
      · rw [if_neg fits, if_neg fun all => fits (all cell List.mem_cons_self)]

end CsvParser

theorem linesWithEnds_line {line : Str} (unbroken : '\n' ∉ line) (s : Str) :
    linesWithEnds (line ++ '\n' :: s) = (line ++ ['\n']) :: linesWithEnds s := by
  induction line with
  | nil => rfl
  | cons c line ih =>
    rw [List.mem_cons, not_or] at unbroken
    rw [List.cons_append, linesWithEnds, if_neg (Ne.symm unbroken.1), ih unbroken.2]
    rfl

theorem linesWithEnds_last {line : Str} (unbroken : '\n' ∉ line) (some_char : line ≠ []) :
    linesWithEnds line = [line] := by
  induction line with
  | nil => exact absurd rfl some_char
  | cons c line ih =>
    rw [List.mem_cons, not_or] at unbroken
    rw [linesWithEnds, if_neg (Ne.symm unbroken.1)]
    cases line with
    | nil => rfl
    | cons d line => rw [ih unbroken.2 (by simp)]

theorem csvLine_unbroken {cells : List Str} (plain : ∀ cell ∈ cells, PlainCell cell) : '\n' ∉ csvLine cells := by
  induction cells with
  | nil => simp [csvLine]
  | cons cell rest ih =>
    obtain ⟨here, later⟩ := List.forall_mem_cons.mp plain
    have notHere : '\n' ∉ cell := fun member => (here.plain _ member).1 rfl
    cases rest with
    | nil => simpa [csvLine] using notHere
    | cons next rest => simpa [csvLine, notHere] using ih later

theorem csvLine_ne_nil {cells : List Str} (plain : ∀ cell ∈ cells, PlainCell cell) (some_cell : cells ≠ []) :
    csvLine cells ≠ [] := by
  cases cells with
  | nil => exact absurd rfl some_cell
  | cons cell rest =>
    have nonempty := (plain cell List.mem_cons_self).nonempty
    cases rest <;> simp [csvLine, nonempty]

/-- The first line of some records, and what ends it. -/
theorem linesWithEnds_records {cells : List Str} (plain : ∀ cell ∈ cells, PlainCell cell) (some_cell : cells ≠ [])
    (rest : List (List Str)) : ∃ last, CsvParser.EndsRecord last ∧ ∃ line,
      line.map some ++ [none] = (csvLine cells).map some ++ last ∧
      linesWithEnds (['\n'].intercalate ((cells :: rest).map csvLine)) =
        line :: linesWithEnds (['\n'].intercalate (rest.map csvLine)) := by
  have unbroken := csvLine_unbroken plain
  cases rest with
  | nil =>
    refine ⟨_, CsvParser.endsRecord_none, csvLine cells, rfl, ?_⟩
    rw [List.map_singleton, List.intercalate_singleton,
      linesWithEnds_last unbroken (csvLine_ne_nil plain some_cell)]
    rfl
  | cons next rest =>
    refine ⟨_, CsvParser.endsRecord_newline, csvLine cells ++ ['\n'], by simp, ?_⟩
    rw [List.map_cons, List.map_cons, List.intercalate_cons_cons, List.append_assoc]
    exact linesWithEnds_line unbroken _

/-- Records of plain cells are read as they were written, if all cells fit. -/
theorem csvReader_lines {records : List (List Str)} (plain : ∀ cells ∈ records, ∀ cell ∈ cells, PlainCell cell)
    (some_cell : ∀ cells ∈ records, cells ≠ []) :
    csvReader .start (linesWithEnds (['\n'].intercalate (records.map csvLine))) =
      if ∀ cells ∈ records, ∀ cell ∈ cells, cell.length ≤ csvFieldLimit then .ok records
      else .error csvFieldLimitError := by
  induction records with
  | nil => rfl
  | cons cells rest ih =>
    obtain ⟨plainHere, plainLater⟩ := List.forall_mem_cons.mp plain
    obtain ⟨someHere, someLater⟩ := List.forall_mem_cons.mp some_cell
    obtain ⟨last, ends, line, chars, split⟩ := linesWithEnds_records plainHere someHere rest
    have record := CsvParser.foldlM_record plainHere someHere (.inl rfl) [] ends
    rw [← chars] at record
    rw [split, csvReader, CsvParser.start, record]
    by_cases fits : ∀ cell ∈ cells, cell.length ≤ csvFieldLimit
    · have later := ih plainLater someLater
      rw [if_pos fits]
      refine (congrArg (fun x => x >>= fun records => pure (cells :: records)) later).trans ?_
      by_cases all : ∀ cells ∈ rest, ∀ cell ∈ cells, cell.length ≤ csvFieldLimit
      · rw [if_pos all, if_pos (List.forall_mem_cons.mpr ⟨fits, all⟩)]
        rfl
      · rw [if_neg all, if_neg fun both => all (List.forall_mem_cons.mp both).2]
        rfl
    · rw [if_neg fits, if_neg fun all => fits (all cells List.mem_cons_self)]
      rfl

end GpuTelemetry
