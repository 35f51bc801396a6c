import GpuTelemetry.Dicts
import GpuTelemetry.LocalJobs
import GpuTelemetry.Words
import Mathlib.Algebra.Group.Action.Defs
import Mathlib.Algebra.Order.BigOperators.Group.List

namespace GpuTelemetry

/-! ### The pipeline and its parser -/

/-- A character between the fields of a record. -/
def isAwkBlank (c : Char) : Bool := c == ' ' || c == '\t'

/-- `awk '{print $2}'`. -/
def awkSecond (text : Str) : Str :=
  linesText ((unixLines text).map fun record => (wordsBy isAwkBlank record).getD 1 [])

/-- `tail -n +3` of a text whose last line ends, as all that `awk` prints do. -/
def tailFromThird (text : Str) : Str := linesText ((unixLines text).drop 2)

/-- What `NvidiaSmiGetPidsCommand` makes of the output of `nvidia-smi pmon -c 1`. -/
def nvidiaSmiGetPids (pmon : Str) : Str := tailFromThird (awkSecond pmon)

def dropCarriageReturn (line : Str) : Str := if line.getLast? = some '\r' then line.dropLast else line

/-- The lines of a `bufio.Scanner`, which ends at a line of 64 KiB. -/
def scanLines (text : Str) : List Str :=
  ((unixLines text).takeWhile fun line => (line.map Char.utf8Size).sum < 64 * 1024).map dropCarriageReturn

def parseNvidiaSmiGetPidsCommand (output : Str) : List (Str × Str) :=
  dictUpdate [] ((scanLines output).zipIdx.map fun (line, gpuID) =>
    (decimal gpuID, (trimSpace line).takeWhile Char.isDigit))

/-! ### Tables -/

/-- A row of `pmon`. The pid is a 32 bit number. -/
structure PmonRow where
  gpu : Nat
  pid : Option Nat
  pidBound : ∀ p ∈ pid, p < 2 ^ 32
  indent : Nat
  gap : Nat
  rest : Str
  oneLine : '\n' ∉ rest

def PmonRow.pidText (row : PmonRow) : Str :=
  match row.pid with
  | some pid => decimal pid
  | none => "-".toList

def PmonRow.text (row : PmonRow) : Str :=
  List.replicate row.indent ' ' ++ (decimal row.gpu ++ ' ' :: (List.replicate row.gap ' ' ++ (row.pidText ++
    ' ' :: row.rest)))

/-- The output of `pmon`: two lines that name the columns, and the rows by GPU. -/
structure PmonTable where
  names : Str
  units : Str
  oneLine : '\n' ∉ names ∧ '\n' ∉ units
  rows : List PmonRow
  ordered : rows.Pairwise fun row row' => row.gpu ≤ row'.gpu

def PmonTable.text (table : PmonTable) : Str := linesText (table.names :: table.units :: table.rows.map PmonRow.text)

/-- The digits that are read of a row. -/
def PmonRow.pidDigits (row : PmonRow) : Str :=
  match row.pid with
  | some pid => decimal pid
  | none => []

theorem pidText_chars (row : PmonRow) : ∀ c ∈ row.pidText, 45 ≤ c.toNat ∧ c.toNat ≤ 57 := by
  intro c member
  unfold PmonRow.pidText at member
  split at member
  · have bounds := isDigit_value (decimal_isDigit member)
    omega
  · rw [List.mem_singleton.mp member]
    decide

theorem pidText_ne_nil (row : PmonRow) : row.pidText ≠ [] := by
  unfold PmonRow.pidText
  split
  · exact decimal_ne_nil _
  · decide

theorem not_blank {c : Char} (code : 45 ≤ c.toNat ∧ c.toNat ≤ 57) : isAwkBlank c = false := by
  have space : c ≠ ' ' := by rintro rfl; exact absurd code (by decide)
  have tab : c ≠ '\t' := by rintro rfl; exact absurd code (by decide)
  simp [isAwkBlank, space, tab]

theorem not_goSpace {c : Char} (code : 45 ≤ c.toNat ∧ c.toNat ≤ 57) : isGoSpace c = false := by
  have codes : ∀ space ∈ [0x9, 0xA, 0xB, 0xC, 0xD, 0x20, 0x85, 0xA0, 0x1680, 0x2000, 0x2001, 0x2002, 0x2003, 0x2004,
      0x2005, 0x2006, 0x2007, 0x2008, 0x2009, 0x200A, 0x2028, 0x2029, 0x202F, 0x205F, 0x3000],
      space < 45 ∨ 57 < space := by decide
  by_contra space
  rw [Bool.not_eq_false] at space
  have outside := codes c.toNat (List.contains_iff_mem.mp space)
  omega

theorem wordsBy_text (row : PmonRow) : (wordsBy isAwkBlank row.text).getD 1 [] = row.pidText := by
  have blanks : ∀ n, ∀ c ∈ List.replicate n ' ', isAwkBlank c = true := by
    intro n c member
    rw [List.eq_of_mem_replicate member]
    decide
  have gpu : ∀ c ∈ decimal row.gpu, isAwkBlank c = false := by
    intro c member
    have bounds := isDigit_value (decimal_isDigit member)
    exact not_blank (by omega)
  have pid : ∀ c ∈ row.pidText, isAwkBlank c = false := fun c member => not_blank (pidText_chars row c member)
  rw [PmonRow.text, wordsBy_blanks_append (blanks _), wordsBy_word_append gpu (decimal_ne_nil _) (by decide),
    wordsBy_blanks_append (blanks _), wordsBy_word_append pid (pidText_ne_nil row) (by decide)]
  rfl

theorem pidText_newline (row : PmonRow) : '\n' ∉ row.pidText :=
  fun member => absurd (pidText_chars row _ member) (by decide)

theorem text_newline (row : PmonRow) : '\n' ∉ row.text := by
  have blanks : ∀ n, '\n' ∉ List.replicate n ' ' := fun n member => absurd (List.eq_of_mem_replicate member) (by decide)
  have gpu : '\n' ∉ decimal row.gpu := not_mem_decimal (by decide) row.gpu
  simp [PmonRow.text, blanks, gpu, pidText_newline row, row.oneLine]

theorem nvidiaSmiGetPids_text (table : PmonTable) :
    nvidiaSmiGetPids table.text = linesText (table.rows.map PmonRow.pidText) := by
  have records : unixLines table.text = table.names :: table.units :: table.rows.map PmonRow.text := by
    refine unixLines_linesText ?_
    simpa [table.oneLine] using fun row _ => text_newline row
  have pids : (table.rows.map PmonRow.text).map (fun record => (wordsBy isAwkBlank record).getD 1 []) =
      table.rows.map PmonRow.pidText := by
    rw [List.map_map]
    exact List.map_congr_left fun row _ => wordsBy_text row
  rw [nvidiaSmiGetPids, tailFromThird, awkSecond, records, unixLines_linesText]
  · rw [List.map_cons, List.map_cons, pids]
    rfl
  · intro line member newline
    obtain ⟨record, inTable, rfl⟩ := List.mem_map.mp member
    have inRecord := mem_of_mem_getD_wordsBy newline
    rw [List.mem_cons, List.mem_cons, List.mem_map] at inTable
    rcases inTable with rfl | rfl | ⟨row, -, rfl⟩
    · exact table.oneLine.1 inRecord
    · exact table.oneLine.2 inRecord
    · exact text_newline row inRecord

theorem pidText_short (row : PmonRow) : (row.pidText.map Char.utf8Size).sum < 64 * 1024 := by
  have length : row.pidText.length ≤ 10 := by
    unfold PmonRow.pidText
    split
    · rename_i pid isPid
      have bound := row.pidBound pid isPid
      exact (Nat.length_toDigits_le_iff (by decide) (by decide)).mpr (by omega)
    · decide
  have sizes : (row.pidText.map Char.utf8Size).sum ≤ (row.pidText.map Char.utf8Size).length • 4 :=
    List.sum_le_card_nsmul _ _ fun size member => by
      obtain ⟨c, -, rfl⟩ := List.mem_map.mp member
      exact Char.utf8Size_le_four c
  rw [List.length_map, smul_eq_mul] at sizes
  omega

theorem scanLines_pids (rows : List PmonRow) :
    scanLines (linesText (rows.map PmonRow.pidText)) = rows.map PmonRow.pidText := by
  have unbroken : ∀ line ∈ rows.map PmonRow.pidText, '\n' ∉ line := by
    intro line member
    obtain ⟨row, -, rfl⟩ := List.mem_map.mp member
    exact pidText_newline row
  rw [scanLines, unixLines_linesText unbroken, List.takeWhile_eq_self_iff.mpr]
  · refine (List.map_congr_left fun line member => ?_).trans (List.map_id _)
    obtain ⟨row, -, rfl⟩ := List.mem_map.mp member
    refine if_neg fun last => ?_
    exact absurd (pidText_chars row _ (List.mem_of_getLast? last)) (by decide)
  · intro line member
    obtain ⟨row, -, rfl⟩ := List.mem_map.mp member
    exact decide_eq_true (pidText_short row)

theorem digits_pidText (row : PmonRow) : (trimSpace row.pidText).takeWhile Char.isDigit = row.pidDigits := by
  have trimmed : trimSpace row.pidText = row.pidText :=
    trim_of_solid fun c member => not_goSpace (pidText_chars row c member)
  rw [trimmed, PmonRow.pidText, PmonRow.pidDigits]
  split
  · exact List.takeWhile_eq_self_iff.mpr fun c member => decimal_isDigit member
  · rfl

theorem parse_text (table : PmonTable) :
    parseNvidiaSmiGetPidsCommand (nvidiaSmiGetPids table.text) =
      dictUpdate [] (table.rows.zipIdx.map fun (row, i) => (decimal i, row.pidDigits)) := by
  rw [nvidiaSmiGetPids_text, parseNvidiaSmiGetPidsCommand, scanLines_pids, List.zipIdx_map, List.map_map]
  refine congrArg (dictUpdate []) (List.map_congr_left fun entry _ => ?_)
  exact congrArg (Prod.mk _) (digits_pidText entry.1)

/-! ### Which pids the GPUs are mapped to -/

/-- Only own pids are mapped to, and a GPU with a pid is mapped to one of its pids. -/
structure MapsOwnPids (rows : List PmonRow) (gpuToPid : List (Str × Str)) : Prop where
  sound : ∀ gpu pid, dictGet gpuToPid gpu = some pid → pid ≠ [] →
    ∃ row ∈ rows, decimal row.gpu = gpu ∧ row.pid.map decimal = some pid
  complete : ∀ row ∈ rows, row.pid ≠ none →
    ∃ other ∈ rows, other.gpu = row.gpu ∧ ∃ pid ∈ other.pid, dictGet gpuToPid (decimal row.gpu) = some (decimal pid)

/-- The value under a key is that of the row with this number. -/
theorem dictGet_rows (rows : List PmonRow) (key pid : Str) :
    dictGet (dictUpdate [] (rows.zipIdx.map fun (row, i) => (decimal i, row.pidDigits))) key = some pid ↔
      ∃ i row, rows[i]? = some row ∧ key = decimal i ∧ pid = row.pidDigits := by
  have distinct : ((rows.zipIdx.map fun (row, i) => (decimal i, row.pidDigits)).map Prod.fst).Nodup := by
    have keys : ((rows.zipIdx.map fun (row, i) => (decimal i, row.pidDigits)).map Prod.fst) =
        (rows.zipIdx.map Prod.snd).map decimal := by
      rw [List.map_map, List.map_map]
      rfl
    rw [keys, List.zipIdx_map_snd]
    exact (List.nodup_range' _).map decimal_injective
  have none : dictGet ([] : List (Str × Str)) key = none := rfl
  rw [dictGet_dictUpdate distinct, none, Option.or_none]
  constructor
  · intro found
    obtain ⟨⟨row, i⟩, member, same⟩ := List.mem_map.mp (mem_of_dictGet found)
    obtain ⟨rfl, rfl⟩ := Prod.mk.inj same
    exact ⟨i, row, List.mem_zipIdx_iff_getElem?.mp member, rfl, rfl⟩
  · rintro ⟨i, row, atRow, rfl, rfl⟩
    exact dictGet_of_mem distinct (List.mem_map.mpr ⟨(row, i), List.mem_zipIdx_iff_getElem?.mpr atRow, rfl⟩)

section InPlace

variable {rows : List PmonRow}

/-- Each row with a pid has its number for the GPU of a row with that pid. -/
def NumberedRows (rows : List PmonRow) : Prop :=
  ∀ (i : Nat) (row : PmonRow), rows[i]? = some row → row.pid ≠ none →
    ∃ other ∈ rows, other.gpu = i ∧ other.pid = row.pid

theorem gpu_le_of_lt (ordered : rows.Pairwise fun row row' => row.gpu ≤ row'.gpu) {i j : Nat} {row row' : PmonRow}
    (atRow : rows[i]? = some row) (atRow' : rows[j]? = some row') (before : i < j) : row.gpu ≤ row'.gpu := by
  obtain ⟨boundI, rfl⟩ := List.getElem?_eq_some_iff.mp atRow
  obtain ⟨boundJ, rfl⟩ := List.getElem?_eq_some_iff.mp atRow'
  exact List.pairwise_iff_getElem.mp ordered i j boundI boundJ before

/-- A row before its GPU has one before its own GPU ahead of it. -/
theorem no_row_before_gpu (ordered : rows.Pairwise fun row row' => row.gpu ≤ row'.gpu) (numbered : NumberedRows rows)
    (i : Nat) (row : PmonRow) (atRow : rows[i]? = some row) (runs : row.pid ≠ none) : row.gpu ≤ i := by
  induction i using Nat.strong_induction_on generalizing row with
  | _ i ih =>
    by_contra before
    obtain ⟨other, member, isGpu, samePid⟩ := numbered i row atRow runs
    obtain ⟨j, atOther⟩ := List.getElem?_of_mem member
    have ahead : j < i := by
      by_contra behind
      rcases Nat.lt_or_eq_of_le (not_lt.mp behind) with later | rfl
      · have order := gpu_le_of_lt ordered atRow atOther later
        omega
      · obtain rfl := Option.some.inj (atRow.symm.trans atOther)
        omega
    have bound := ih j ahead other atOther (samePid ▸ runs)
    omega

/-- A row behind its GPU has one behind its own GPU further on. -/
theorem no_row_behind_gpu (ordered : rows.Pairwise fun row row' => row.gpu ≤ row'.gpu) (numbered : NumberedRows rows)
    (i : Nat) (row : PmonRow) (atRow : rows[i]? = some row) (runs : row.pid ≠ none) : i ≤ row.gpu := by
  induction left : rows.length - i using Nat.strong_induction_on generalizing i row with
  | _ left ih =>
    by_contra behind
    obtain ⟨other, member, isGpu, samePid⟩ := numbered i row atRow runs
    obtain ⟨j, atOther⟩ := List.getElem?_of_mem member
    have further : i < j := by
      by_contra ahead
      rcases Nat.lt_or_eq_of_le (not_lt.mp ahead) with earlier | rfl
      · have order := gpu_le_of_lt ordered atOther atRow earlier
        omega
      · obtain rfl := Option.some.inj (atRow.symm.trans atOther)
        omega
    have inside := (List.getElem?_eq_some_iff.mp atOther).1
    have bound := ih (rows.length - j) (by omega) j other atOther (samePid ▸ runs) rfl
    omega

end InPlace

theorem mapsOwnPids_iff {rows : List PmonRow} (ordered : rows.Pairwise fun row row' => row.gpu ≤ row'.gpu) :
    MapsOwnPids rows (dictUpdate [] (rows.zipIdx.map fun (row, i) => (decimal i, row.pidDigits))) ↔
      ∀ (i : Nat) (row : PmonRow), rows[i]? = some row → row.pid ≠ none → row.gpu = i := by
  have digits : ∀ {row : PmonRow} {pid : Nat}, row.pid = some pid → row.pidDigits = decimal pid := by
    intro row pid isPid
    rw [PmonRow.pidDigits, isPid]
  constructor
  · intro maps
    have numbered : NumberedRows rows := by
      intro i row atRow runs
      obtain ⟨pid, isPid⟩ := Option.ne_none_iff_exists'.mp runs
      have mapped := (dictGet_rows rows (decimal i) row.pidDigits).mpr ⟨i, row, atRow, rfl, rfl⟩
      rw [digits isPid] at mapped
      obtain ⟨other, member, isGpu, otherPid⟩ := maps.sound _ _ mapped (decimal_ne_nil pid)
      refine ⟨other, member, decimal_injective isGpu, ?_⟩
      rw [isPid]
      exact Option.map_injective decimal_injective otherPid
    intro i row atRow runs
    exact Nat.le_antisymm (no_row_before_gpu ordered numbered i row atRow runs)
      (no_row_behind_gpu ordered numbered i row atRow runs)
  · intro inPlace
    constructor
    · intro gpu pid mapped nonempty
      obtain ⟨i, row, atRow, rfl, rfl⟩ := (dictGet_rows rows gpu pid).mp mapped
      cases isPid : row.pid with
      | none =>
        rw [PmonRow.pidDigits, isPid] at nonempty
        exact absurd rfl nonempty
      | some pid =>
        refine ⟨row, List.mem_of_getElem? atRow, ?_, ?_⟩
        · rw [inPlace i row atRow (by simp [isPid])]
        · rw [isPid, digits isPid]
          rfl
    · intro row member runs
      obtain ⟨i, atRow⟩ := List.getElem?_of_mem member
      obtain ⟨pid, isPid⟩ := Option.ne_none_iff_exists'.mp runs
      refine ⟨row, member, rfl, pid, isPid, ?_⟩
      exact (dictGet_rows rows _ _).mpr ⟨i, row, atRow, by rw [inPlace i row atRow runs], (digits isPid).symm⟩

/-- Each GPU gets its own processes exactly when the row of each process stands at the place of its GPU. -/
theorem parseNvidiaSmiGetPidsCommand_iff (table : PmonTable) :
    MapsOwnPids table.rows (parseNvidiaSmiGetPidsCommand (nvidiaSmiGetPids table.text)) ↔
      ∀ (i : Nat) (row : PmonRow), table.rows[i]? = some row → row.pid ≠ none → row.gpu = i := by
  rw [parse_text]
  exact mapsOwnPids_iff table.ordered

/-- A compute process as `pmon` prints it. -/
def computeRow (gpu pid : Nat) (pidBound : pid < 2 ^ 32) : PmonRow where
  gpu := gpu
  pid := some pid
  pidBound := by simpa using pidBound
  indent := 4
  gap := 5
  rest := "    C     10      5      -      -      -      -    python".toList
  oneLine := by decide

/-- GPU 0 with two processes, GPU 1 with none. -/
def sharedGpu : PmonTable where
  names := "# gpu         pid   type     sm    mem    enc    dec    jpg    ofa    command".toList
  units := "# Idx           #    C/G      %      %      %      %      %      %    name".toList
  oneLine := by decide
  rows := [computeRow 0 4711 (by decide), computeRow 0 4712 (by decide),
    ⟨1, none, by simp, 4, 10, "    -      -      -      -      -      -      -    -".toList, by decide⟩]
  ordered := by simp [computeRow]

/-- The second process of GPU 0 goes to GPU 1. -/
theorem second_process_moves :
    dictGet (parseNvidiaSmiGetPidsCommand (nvidiaSmiGetPids sharedGpu.text)) "1".toList = some "4712".toList ∧
      ¬MapsOwnPids sharedGpu.rows (parseNvidiaSmiGetPidsCommand (nvidiaSmiGetPids sharedGpu.text)) := by
  rw [parse_text]
  refine ⟨by decide, fun maps => ?_⟩
  have inPlace := (mapsOwnPids_iff sharedGpu.ordered).mp maps 1 (computeRow 0 4712 (by decide)) rfl
    (by simp [computeRow])
  exact absurd inPlace (by decide)

end GpuTelemetry
