import GpuTelemetry.Csv
import GpuTelemetry.Dicts
import GpuTelemetry.FallibleFolds
import GpuTelemetry.Words

/-! The output of `hl-smi`: the rows that are replaced or pending, and the
counters of the ports. -/

namespace GpuTelemetry

def hlSmiQueryFields : Str :=
  "index,name,utilization.aip,memory.used,memory.total,temperature.aip,power.draw".toList

def parseHlSmiCsv (output : Str) : Except PyError (List (List (Str × Str))) := do
  let reader ← dictReader ((hlSmiQueryFields.splitOn ',').map strip) (linesWithEnds (strip output))
  reader.mapM fun (row, extra) =>
    if extra ≠ [] then .error (.attributeError "'NoneType' object has no attribute 'strip'".toList)
    else .ok (dictUpdate [] (row.map fun (k, v) => (strip k, (v.map strip).getD [])))

structure RowCounts where
  rowsReplaced : Int
  rowsPending : Int
  deriving DecidableEq

structure PortCounters where
  rxBytes : Int
  txBytes : Int
  deriving DecidableEq

section
variable (py : Interpreter)

/-- `int(row.get(key, 0) or 0)`. The values are stripped. -/
def rowCount (row : List (Str × Str)) (key : Str) : Option Int :=
  match dictGet row key with
  | none => some 0
  | some value => if value = [] then some 0 else pyIntOfWord py value

/-- One round of `_parse_hl_smi_rows`, nothing where a `ValueError` ends it. -/
def rowCounts (row : List (Str × Str)) : Option (Int × RowCounts) := do
  let idx ← match dictGet row "index".toList with
    | none => some (-1)
    | some value => pyIntOfWord py value
  let rowsReplaced ← rowCount py row "rows.replaced".toList
  let rowsPending ← rowCount py row "rows.pending".toList
  return (idx, ⟨rowsReplaced, rowsPending⟩)

def parseHlSmiRows (output : Str) : Except PyError (List (Int × RowCounts)) := do
  let rows ← parseHlSmiCsv output
  return dictUpdate [] (rows.filterMap (rowCounts py))

def intAt (parts : List Str) (i : Nat) : Option Int := parts[i]?.bind (pyIntOfWord py)

/-- The number two words behind the first word that is the label. -/
def intBehind (parts : List Str) (label : Str) : Option Int :=
  if label ∈ parts then intAt py parts (parts.idxOf label + 2) else some 0

/-- A line with `Port` in it, nothing where a `ValueError` or an `IndexError`
ends its round. The number of the port was just read, so it can be written. -/
def portCounters (line : Str) : Option (Int × Str × PortCounters) := do
  let parts := splitWords (line.map fun c => if c = ':' then ' ' else c)
  let devIdx ← intAt py parts 1
  let portId ← intAt py parts 4
  let rx ← intBehind py parts "RX".toList
  let tx ← intBehind py parts "TX".toList
  return (devIdx, intText portId, ⟨rx, tx⟩)

def parseHlSmiNetworkStats (output : Str) : List (Int × List (Str × PortCounters)) :=
  let lines := ((splitlines output).map strip).filter fun line => line ≠ [] ∧ occursIn "Port".toList line = true
  dictOfDicts [] (lines.filterMap (portCounters py))

end

/-! ### Tables -/

structure GaudiRow where
  index : Nat
  replaced : Nat
  pending : Nat
  gap : Nat

/-- The cells for `index,rows.replaced,rows.pending`, with some blanks after the commas. -/
def GaudiRow.cells (row : GaudiRow) : List Str :=
  [decimal row.index, List.replicate row.gap ' ' ++ decimal row.replaced,
    List.replicate row.gap ' ' ++ decimal row.pending]

def GaudiRow.counts (row : GaudiRow) : Int × RowCounts := (row.index, ⟨row.replaced, row.pending⟩)

structure GaudiTable where
  rows : List GaudiRow
  distinct : (rows.map GaudiRow.index).Nodup

def GaudiTable.text (table : GaudiTable) : Str := linesText (table.rows.map fun row => csvLine row.cells)

/-- No cell and no index is too long to be read. -/
def GaudiTable.Readable (py : Interpreter) (table : GaudiTable) : Prop :=
  ∀ row ∈ table.rows, (∀ cell ∈ row.cells, cell.length ≤ csvFieldLimit) ∧ Printable py row.index

/-- The counters of a port, and how many further blanks follow each word of its line. -/
structure PortRow where
  device : Nat
  port : Nat
  rx : Nat
  tx : Nat
  gap : Nat → Nat

def PortRow.blanks (row : PortRow) (i : Nat) : Str := ' ' :: List.replicate (row.gap i) ' '

/-- The words of a line after the first, each with what stands before it. -/
def PortRow.words (row : PortRow) : List (Str × Str) :=
  [(row.blanks 0, decimal row.device), (row.blanks 1, "/".toList), (row.blanks 2, "Port".toList),
    (row.blanks 3, decimal row.port), (':' :: row.blanks 4, "RX".toList), (row.blanks 5, "Bytes".toList),
    (':' :: row.blanks 6, decimal row.rx), (row.blanks 7, "TX".toList), (row.blanks 8, "Bytes".toList),
    (':' :: row.blanks 9, decimal row.tx)]

def PortRow.text (row : PortRow) : Str := "AIP".toList ++ row.words.flatMap fun next => next.1 ++ next.2

def PortRow.counters (row : PortRow) : PortCounters := ⟨row.rx, row.tx⟩

structure PortTable where
  rows : List PortRow
  distinct : (rows.map fun row => (row.device, row.port)).Nodup

def PortTable.text (table : PortTable) : Str := linesText (table.rows.map PortRow.text)

def PortTable.Readable (py : Interpreter) (table : PortTable) : Prop :=
  ∀ row ∈ table.rows, Printable py row.device ∧ Printable py row.port ∧ Printable py row.rx ∧ Printable py row.tx

/-- The dictionary has the devices of the table, and of each the ports with their counters. -/
def PortTable.IsResult (table : PortTable) (result : List (Int × List (Str × PortCounters))) : Prop :=
  (∀ device, device ∈ result.map Prod.fst ↔ ∃ row ∈ table.rows, (row.device : Int) = device) ∧
    ∀ device port counters, dictGetNested result device port = some counters ↔
      ∃ row ∈ table.rows, (row.device : Int) = device ∧ decimal row.port = port ∧ row.counters = counters

/-! ### The rows -/

theorem decimal_not_isSpace {n : Nat} : ∀ c ∈ decimal n, isSpace c = false := by
  intro c member
  have bounds := isDigit_value (decimal_isDigit member)
  by_contra space
  have code := isSpace_code (by simpa using space)
  omega

theorem strip_blanks_decimal (gap n : Nat) : strip (List.replicate gap ' ' ++ decimal n) = decimal n := by
  have blank : ∀ c ∈ List.replicate gap ' ', isSpace c = true := by
    intro c member
    rw [List.eq_of_mem_replicate member]
    decide
  rw [strip, List.dropWhile_append_of_pos blank]
  exact strip_of_no_space decimal_not_isSpace

theorem plainCell_decimal (gap n : Nat) : PlainCell (List.replicate gap ' ' ++ decimal n) where
  nonempty := by simp [decimal_ne_nil]
  plain := by
    intro c member
    rcases List.mem_append.mp member with blank | digit
    · rw [List.eq_of_mem_replicate blank]
      decide
    · have bounds := isDigit_value (decimal_isDigit digit)
      refine ⟨?_, ?_, ?_, ?_⟩ <;>
      · rintro rfl
        exact absurd bounds (by decide)

theorem cells_plain (row : GaudiRow) : ∀ cell ∈ row.cells, PlainCell cell := by
  simp only [GaudiRow.cells, List.forall_mem_cons]
  exact ⟨plainCell_decimal 0 _, plainCell_decimal _ _, plainCell_decimal _ _, by simp⟩

theorem csvLine_solid (row : GaudiRow) : SolidEnds (csvLine row.cells) := by
  have line : csvLine row.cells = decimal row.index ++
      ((',' :: (List.replicate row.gap ' ' ++ (decimal row.replaced ++ ',' :: List.replicate row.gap ' '))) ++
        decimal row.pending) := by
    simp [csvLine, GaudiRow.cells]
  rw [line]
  exact (SolidEnds.of_solid (decimal_ne_nil _) decimal_not_isSpace).around
    (.of_solid (decimal_ne_nil _) decimal_not_isSpace) _

/-- What the names of the first query make of a row of the second. -/
def GaudiRow.dict (row : GaudiRow) : List (Str × Str) :=
  [("index".toList, decimal row.index), ("name".toList, decimal row.replaced),
    ("utilization.aip".toList, decimal row.pending), ("memory.used".toList, []), ("memory.total".toList, []),
    ("temperature.aip".toList, []), ("power.draw".toList, [])]

theorem hlSmiQueryFields_names : (hlSmiQueryFields.splitOn ',').map strip =
    ["index".toList, "name".toList, "utilization.aip".toList, "memory.used".toList, "memory.total".toList,
      "temperature.aip".toList, "power.draw".toList] := by
  decide +kernel

theorem GaudiRow.dict_keys (row : GaudiRow) : row.dict.map Prod.fst = (hlSmiQueryFields.splitOn ',').map strip := by
  rw [hlSmiQueryFields_names]
  rfl

theorem hlSmiQueryFields_nodup : ((hlSmiQueryFields.splitOn ',').map strip).Nodup := by decide +kernel

theorem dictUpdate_row (row : GaudiRow) :
    dictUpdate [] ((((hlSmiQueryFields.splitOn ',').map strip).zip (row.cells.map some ++ List.replicate 4 none)).map
      fun (k, v) => (strip k, (v.map strip).getD [])) = row.dict := by
  have stripped : ((hlSmiQueryFields.splitOn ',').map strip).map strip = (hlSmiQueryFields.splitOn ',').map strip := by
    decide +kernel
  have values : (row.cells.map some ++ List.replicate 4 none).map (fun v : Option Str => (v.map strip).getD []) =
      [decimal row.index, decimal row.replaced, decimal row.pending, [], [], [], []] := by
    simp [GaudiRow.cells, strip_blanks_decimal, strip_of_no_space decimal_not_isSpace]
  have distinct : (([] ++ row.dict).map Prod.fst).Nodup := by
    rw [List.nil_append, row.dict_keys]
    exact hlSmiQueryFields_nodup
  have pairs : ((((hlSmiQueryFields.splitOn ',').map strip).zip (row.cells.map some ++ List.replicate 4 none)).map
      fun (k, v) => (strip k, (v.map strip).getD [])) = row.dict := by
    refine (@List.zip_map _ _ _ _ strip (fun v : Option Str => (v.map strip).getD []) _ _).symm.trans ?_
    rw [stripped, values, hlSmiQueryFields_names]
    rfl
  rw [pairs, dictUpdate_of_new distinct, List.nil_append]

theorem parseHlSmiCsv_text (table : GaudiTable) :
    parseHlSmiCsv table.text =
      if ∀ row ∈ table.rows, ∀ cell ∈ row.cells, cell.length ≤ csvFieldLimit then .ok (table.rows.map GaudiRow.dict)
      else .error csvFieldLimitError := by
  have text : strip table.text = ['\n'].intercalate ((table.rows.map GaudiRow.cells).map csvLine) := by
    rw [GaudiTable.text, List.map_map, strip_linesText]
    · rfl
    · rw [List.forall_mem_map]
      exact fun row _ => csvLine_solid row
  have plain : ∀ cells ∈ table.rows.map GaudiRow.cells, ∀ cell ∈ cells, PlainCell cell := by
    rw [List.forall_mem_map]
    exact fun row _ => cells_plain row
  have someCell : ∀ cells ∈ table.rows.map GaudiRow.cells, cells ≠ [] := by simp [GaudiRow.cells]
  have read := csvReader_lines plain someCell
  have kept : (table.rows.map GaudiRow.cells).filter (fun row => row ≠ []) = table.rows.map GaudiRow.cells :=
    List.filter_eq_self.mpr fun cells member => decide_eq_true (someCell cells member)
  rw [parseHlSmiCsv, text, dictReader, read]
  by_cases fits : ∀ row ∈ table.rows, ∀ cell ∈ row.cells, cell.length ≤ csvFieldLimit
  · rw [if_pos fits, if_pos (List.forall_mem_map.mpr fits)]
    change (((table.rows.map GaudiRow.cells).filter (fun row => row ≠ [])).map _).mapM _ = _
    rw [kept, List.map_map]
    exact mapM_map_returns fun row _ => congrArg Except.ok (dictUpdate_row row)
  · rw [if_neg fits, if_neg fun all => fits (List.forall_mem_map.mp all)]
    rfl

theorem rowCounts_dict (py : Interpreter) (row : GaudiRow) :
    rowCounts py row.dict = if Printable py row.index then some ((row.index : Int), ⟨0, 0⟩) else none := by
  have distinct : (row.dict.map Prod.fst).Nodup := by
    rw [row.dict_keys]
    exact hlSmiQueryFields_nodup
  have index : dictGet row.dict "index".toList = some (decimal row.index) :=
    dictGet_of_mem distinct (by simp [GaudiRow.dict])
  have absent : ∀ key ∉ (hlSmiQueryFields.splitOn ',').map strip, dictGet row.dict key = none := fun key missing =>
    dictGet_eq_none (row.dict_keys ▸ missing)
  have replaced := absent "rows.replaced".toList (by decide +kernel)
  have pending := absent "rows.pending".toList (by decide +kernel)
  simp only [rowCounts, rowCount, index, replaced, pending, pyIntOfWord_decimal]
  split <;> rfl

section
variable (py : Interpreter)

/-- The counts of a table are read only as zeroes. -/
theorem parseHlSmiRows_text_iff (table : GaudiTable) :
    parseHlSmiRows py table.text = .ok (table.rows.map GaudiRow.counts) ↔
      (∀ row ∈ table.rows, row.replaced = 0 ∧ row.pending = 0) ∧ table.Readable py := by
  have distinct : ((table.rows.filterMap fun row => rowCounts py row.dict).map Prod.fst).Nodup := by
    refine List.pairwise_map.mpr (List.pairwise_filterMap.mpr ?_)
    refine (List.pairwise_map.mp table.distinct).imp fun {row row'} different counts read counts' read' same => ?_
    rw [rowCounts_dict, Option.ite_none_right_eq_some, Option.some.injEq] at read read'
    rw [← read.2, ← read'.2] at same
    exact different (Int.ofNat_inj.mp same)
  have each : ∀ row : GaudiRow, rowCounts py row.dict = some row.counts ↔
      (row.replaced = 0 ∧ row.pending = 0) ∧ Printable py row.index := by
    intro row
    rw [rowCounts_dict, Option.ite_none_right_eq_some, Option.some.injEq, GaudiRow.counts]
    simp only [Prod.mk.injEq, RowCounts.mk.injEq, true_and]
    exact ⟨fun ⟨printable, zero⟩ => ⟨by omega, printable⟩, fun ⟨zero, printable⟩ => ⟨printable, by omega⟩⟩
  by_cases fits : ∀ row ∈ table.rows, ∀ cell ∈ row.cells, cell.length ≤ csvFieldLimit
  · have run : parseHlSmiRows py table.text = .ok (table.rows.filterMap fun row => rowCounts py row.dict) := by
      rw [parseHlSmiRows, parseHlSmiCsv_text, if_pos fits]
      change Except.ok (dictUpdate [] _) = _
      rw [List.filterMap_map, dictUpdate_of_new (by exact distinct), List.nil_append]
      rfl
    rw [run, Except.ok.injEq, List.filterMap_eq_map_iff_forall_eq_some]
    simp only [each, GaudiTable.Readable]
    exact ⟨fun all => ⟨fun row member => (all row member).1, fun row member => ⟨fits row member, (all row member).2⟩⟩,
      fun ⟨zero, readable⟩ row member => ⟨zero row member, (readable row member).2⟩⟩
  · have run : parseHlSmiRows py table.text = .error csvFieldLimitError := by
      rw [parseHlSmiRows, parseHlSmiCsv_text, if_neg fits]
      rfl
    rw [run]
    exact ⟨fun same => (nomatch same), fun ⟨_, readable⟩ => absurd (fun row member => (readable row member).1) fits⟩

/-! ### The ports -/

/-- A blank, or the colon that is replaced by one. -/
def isPortBlank (c : Char) : Bool := isSpace c || c = ':'

theorem blanks_separate (row : PortRow) (i : Nat) : ∀ c ∈ row.blanks i, c = ' ' := by
  intro c member
  rcases List.mem_cons.mp member with rfl | later
  · rfl
  · exact List.eq_of_mem_replicate later

theorem decimal_not_isPortBlank {n : Nat} : ∀ c ∈ decimal n, isPortBlank c = false := by
  intro c member
  have notColon : c ≠ ':' := by
    rintro rfl
    exact not_mem_decimal (by decide) n member
  simp [isPortBlank, decimal_not_isSpace c member, notColon]

theorem words_shape (row : PortRow) : ∀ next ∈ row.words, next.1 ≠ [] ∧ (∀ c ∈ next.1, c = ' ' ∨ c = ':') ∧
    next.2 ≠ [] ∧ ∀ c ∈ next.2, isPortBlank c = false := by
  have blanks : ∀ i, row.blanks i ≠ [] ∧ ∀ c ∈ row.blanks i, c = ' ' ∨ c = ':' := fun i =>
    ⟨List.cons_ne_nil _ _, fun c member => .inl (blanks_separate row i c member)⟩
  have colon : ∀ i, ':' :: row.blanks i ≠ [] ∧ ∀ c ∈ ':' :: row.blanks i, c = ' ' ∨ c = ':' := fun i =>
    ⟨List.cons_ne_nil _ _, List.forall_mem_cons.mpr ⟨.inr rfl, (blanks i).2⟩⟩
  have number : ∀ n, decimal n ≠ [] ∧ ∀ c ∈ decimal n, isPortBlank c = false := fun n =>
    ⟨decimal_ne_nil n, decimal_not_isPortBlank⟩
  have label : ∀ word ∈ ["/".toList, "Port".toList, "RX".toList, "Bytes".toList, "TX".toList],
      word ≠ [] ∧ ∀ c ∈ word, isPortBlank c = false := by decide
  simp only [List.forall_mem_cons] at label
  obtain ⟨slash, port, rx, bytes, tx, -⟩ := label
  intro next member
  simp only [PortRow.words, List.mem_cons, List.not_mem_nil, or_false] at member
  rcases member with rfl | rfl | rfl | rfl | rfl | rfl | rfl | rfl | rfl | rfl
  · exact ⟨(blanks 0).1, (blanks 0).2, number _⟩
  · exact ⟨(blanks 1).1, (blanks 1).2, slash⟩
  · exact ⟨(blanks 2).1, (blanks 2).2, port⟩
  · exact ⟨(blanks 3).1, (blanks 3).2, number _⟩
  · exact ⟨(colon 4).1, (colon 4).2, rx⟩
  · exact ⟨(blanks 5).1, (blanks 5).2, bytes⟩
  · exact ⟨(colon 6).1, (colon 6).2, number _⟩
  · exact ⟨(blanks 7).1, (blanks 7).2, tx⟩
  · exact ⟨(blanks 8).1, (blanks 8).2, bytes⟩
  · exact ⟨(colon 9).1, (colon 9).2, number _⟩

theorem not_isSpace_of_not_isPortBlank {c : Char} (solid : isPortBlank c = false) : isSpace c = false :=
  (Bool.or_eq_false_iff.mp solid).1

theorem text_solid (row : PortRow) : SolidEnds row.text :=
  (SolidEnds.of_solid (by decide) (by decide)).joined fun next member =>
    .of_solid (words_shape row next member).2.2.1 fun c inWord =>
      not_isSpace_of_not_isPortBlank ((words_shape row next member).2.2.2 c inWord)

theorem text_unbroken (row : PortRow) : ∀ c ∈ row.text, isLineBreak c = false := by
  intro c member
  rcases List.mem_append.mp member with first | later
  · exact (by decide : ∀ c ∈ "AIP".toList, isLineBreak c = false) c first
  · obtain ⟨next, isNext, inNext⟩ := List.mem_flatMap.mp later
    obtain ⟨-, blank, -, solid⟩ := words_shape row next isNext
    rcases List.mem_append.mp inNext with between | inWord
    · rcases blank c between with rfl | rfl <;> decide
    · exact not_isLineBreak (not_isSpace_of_not_isPortBlank (solid c inWord))

theorem splitWords_text (row : PortRow) :
    splitWords (row.text.map fun c => if c = ':' then ' ' else c) = "AIP".toList :: row.words.map Prod.snd := by
  have replaced : splitWords (row.text.map fun c => if c = ':' then ' ' else c) = wordsBy isPortBlank row.text := by
    refine wordsBy_map (fun c => ?_) (fun c solid => ?_) row.text
    · by_cases colon : c = ':'
      · subst colon
        decide
      · simp [isPortBlank, colon]
    · have notColon : c ≠ ':' := by simpa using (Bool.or_eq_false_iff.mp solid).2
      exact if_neg notColon
  rw [replaced]
  refine wordsBy_joined (by decide) (by decide) fun next member => ?_
  obtain ⟨someBlank, blank, someLetter, solid⟩ := words_shape row next member
  refine ⟨someBlank, fun c between => ?_, someLetter, solid⟩
  rcases blank c between with rfl | rfl <;> decide

theorem intBehind_append {before : List Str} {label : Str} (absent : label ∉ before) (word value : Str)
    (later : List Str) : intBehind py (before ++ label :: word :: value :: later) label = pyIntOfWord py value := by
  have found : (before ++ label :: word :: value :: later).idxOf label = before.length := by
    rw [List.idxOf_append_of_notMem absent, List.idxOf_cons_self, Nat.add_zero]
  rw [intBehind, if_pos (by simp), found, intAt, List.getElem?_append_right (Nat.le_add_right _ _),
    Nat.add_sub_cancel_left]
  rfl

theorem decimal_ne_letters {n : Nat} {c : Char} (letter : c.isDigit = false) (word : Str) : decimal n ≠ c :: word := by
  intro same
  exact not_mem_decimal letter n (by rw [same]; exact List.mem_cons_self)

/-- A line is read if its four numbers are. -/
theorem portCounters_text_eq_some_iff (row : PortRow) (entry : Int × Str × PortCounters) :
    portCounters py row.text = some entry ↔
      (Printable py row.device ∧ Printable py row.port ∧ Printable py row.rx ∧ Printable py row.tx) ∧
        ((row.device : Int), decimal row.port, row.counters) = entry := by
  have rx : intBehind py ("AIP".toList :: row.words.map Prod.snd) "RX".toList = pyIntOfWord py (decimal row.rx) := by
    refine @intBehind_append py ["AIP".toList, decimal row.device, "/".toList, "Port".toList, decimal row.port] _ ?_
      "Bytes".toList _ _
    have device := decimal_ne_letters (n := row.device) (c := 'R') (by decide) ['X']
    have port := decimal_ne_letters (n := row.port) (c := 'R') (by decide) ['X']
    simp [Ne.symm device, Ne.symm port]
  have tx : intBehind py ("AIP".toList :: row.words.map Prod.snd) "TX".toList = pyIntOfWord py (decimal row.tx) := by
    refine @intBehind_append py ["AIP".toList, decimal row.device, "/".toList, "Port".toList, decimal row.port,
      "RX".toList, "Bytes".toList, decimal row.rx] _ ?_ "Bytes".toList _ []
    have device := decimal_ne_letters (n := row.device) (c := 'T') (by decide) ['X']
    have port := decimal_ne_letters (n := row.port) (c := 'T') (by decide) ['X']
    have rx := decimal_ne_letters (n := row.rx) (c := 'T') (by decide) ['X']
    simp [Ne.symm device, Ne.symm port, Ne.symm rx]
  have device : intAt py ("AIP".toList :: row.words.map Prod.snd) 1 = pyIntOfWord py (decimal row.device) := rfl
  have port : intAt py ("AIP".toList :: row.words.map Prod.snd) 4 = pyIntOfWord py (decimal row.port) := rfl
  have name : intText row.port = decimal row.port := by simp [intText, show ¬(row.port : Int) < 0 by omega]
  simp only [portCounters, splitWords_text, rx, tx, device, port, pyIntOfWord_decimal, Option.bind_eq_bind,
    Option.bind_eq_some_iff, Option.ite_none_right_eq_some, Option.some.injEq, Option.pure_def]
  constructor
  · rintro ⟨_, ⟨printsDevice, rfl⟩, _, ⟨printsPort, rfl⟩, _, ⟨printsRx, rfl⟩, _, ⟨printsTx, rfl⟩, rfl⟩
    exact ⟨⟨printsDevice, printsPort, printsRx, printsTx⟩, by rw [name]; rfl⟩
  · rintro ⟨⟨printsDevice, printsPort, printsRx, printsTx⟩, rfl⟩
    exact ⟨_, ⟨printsDevice, rfl⟩, _, ⟨printsPort, rfl⟩, _, ⟨printsRx, rfl⟩, _, ⟨printsTx, rfl⟩, by rw [name]; rfl⟩

theorem parseHlSmiNetworkStats_text (table : PortTable) :
    parseHlSmiNetworkStats py table.text =
      dictOfDicts [] (table.rows.filterMap fun row => portCounters py row.text) := by
  have lines : splitlines table.text = table.rows.map PortRow.text := by
    refine splitlines_lines ?_
    rw [List.forall_mem_map]
    exact fun row _ => text_unbroken row
  have stripped : (table.rows.map PortRow.text).map strip = table.rows.map PortRow.text := by
    rw [List.map_map]
    exact List.map_congr_left fun row _ => (text_solid row).strip_eq
  have kept : (table.rows.map PortRow.text).filter (fun line => line ≠ [] ∧ occursIn "Port".toList line = true) =
      table.rows.map PortRow.text := by
    rw [List.filter_eq_self, List.forall_mem_map]
    refine fun row _ => decide_eq_true ⟨(text_solid row).nonempty, ?_⟩
    have split : row.text =
        ("AIP".toList ++ (row.words.take 2).flatMap (fun next => next.1 ++ next.2) ++ row.blanks 2) ++
          ("Port".toList ++ (row.words.drop 3).flatMap fun next => next.1 ++ next.2) := by
      simp [PortRow.text, PortRow.words]
    rw [split]
    exact occursIn_middle (by decide) _ _
  rw [parseHlSmiNetworkStats, lines, stripped, kept, List.filterMap_map]
  rfl

/-- The counters of a table are all read, if all of its numbers are. -/
theorem parseHlSmiNetworkStats_text_iff (table : PortTable) :
    table.IsResult (parseHlSmiNetworkStats py table.text) ↔ table.Readable py := by
  have distinct : ((table.rows.filterMap fun row => portCounters py row.text).map
      fun entry => (entry.1, entry.2.1)).Nodup := by
    refine List.pairwise_map.mpr (List.pairwise_filterMap.mpr ?_)
    refine (List.pairwise_map.mp table.distinct).imp fun {row row'} different entry read entry' read' same => ?_
    rw [portCounters_text_eq_some_iff] at read read'
    rw [← read.2, ← read'.2] at same
    obtain ⟨devices, ports⟩ := Prod.mk.inj same
    exact different (Prod.ext (Int.ofNat_inj.mp devices) (decimal_injective ports))
  have nested := dictGetNested_eq_some_iff distinct
  rw [parseHlSmiNetworkStats_text]
  constructor
  · intro result row member
    have found := (result.2 row.device (decimal row.port) row.counters).mpr ⟨row, member, rfl, rfl, rfl⟩
    obtain ⟨row', member', read⟩ := List.mem_filterMap.mp ((nested _ _ _).mp found)
    rw [portCounters_text_eq_some_iff] at read
    obtain ⟨readable, same⟩ := read
    obtain ⟨devices, later⟩ := Prod.mk.inj same
    obtain ⟨ports, -⟩ := Prod.mk.inj later
    have rows : row' = row := List.inj_on_of_nodup_map table.distinct member' member
      (Prod.ext (Int.ofNat_inj.mp devices) (decimal_injective ports))
    rwa [rows] at readable
  · intro readable
    have reads : ∀ row ∈ table.rows, ∀ entry, portCounters py row.text = some entry ↔
        ((row.device : Int), decimal row.port, row.counters) = entry := fun row member entry => by
      rw [portCounters_text_eq_some_iff, and_iff_right (readable row member)]
    refine ⟨fun device => ?_, fun device port counters => ?_⟩
    · rw [dictOfDicts_keys]
      simp only [List.map_nil, List.not_mem_nil, false_or, List.mem_filterMap]
      constructor
      · rintro ⟨entry, ⟨row, member, read⟩, rfl⟩
        exact ⟨row, member, by rw [← (reads row member entry).mp read]⟩
      · rintro ⟨row, member, rfl⟩
        exact ⟨_, ⟨row, member, (reads row member _).mpr rfl⟩, rfl⟩
    · rw [nested, List.mem_filterMap]
      refine exists_congr fun row => and_congr_right fun member => ?_
      rw [reads row member, Prod.mk.injEq, Prod.mk.injEq]

/-- The two tables are read back where all counts of rows are zero: the rows
are read under the names of the first query, which has no such counts. -/
theorem hlSmi_tables_read_iff (table : GaudiTable) (ports : PortTable) :
    (parseHlSmiRows py table.text = .ok (table.rows.map GaudiRow.counts) ∧
      ports.IsResult (parseHlSmiNetworkStats py ports.text)) ↔
    ((∀ row ∈ table.rows, row.replaced = 0 ∧ row.pending = 0) ∧ table.Readable py) ∧ ports.Readable py :=
  and_congr (parseHlSmiRows_text_iff py table) (parseHlSmiNetworkStats_text_iff py ports)

end

/-- A device with three rows replaced and one pending. -/
theorem replaced_rows_read_as_zero :
    let table : GaudiTable := ⟨[⟨0, 3, 1, 1⟩], by decide⟩
    let py : Interpreter := ⟨fun _ => none, some 4300, by decide⟩
    table.text = "0, 3, 1\n".toList ∧ table.rows.map GaudiRow.counts = [(0, ⟨3, 1⟩)] ∧
      parseHlSmiRows py table.text = .ok [(0, ⟨0, 0⟩)] ∧
      parseHlSmiRows py table.text ≠ .ok (table.rows.map GaudiRow.counts) := by
  decide +kernel

end GpuTelemetry
