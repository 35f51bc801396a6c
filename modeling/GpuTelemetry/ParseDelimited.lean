import GpuTelemetry.PyStrings
import Mathlib.Data.List.Sort

/-! Delimited output of the Slurm commands: the columns that a schema asks for,
and the rows. -/

namespace GpuTelemetry

/-- The parts of a text between the occurrences of a separator, of which so many
characters are still to be passed over. -/
def splitFrom (separator : Str) : Nat → Str → List Str
  | _, [] => [[]]
  | skip + 1, _ :: s => splitFrom separator skip s
  | 0, c :: s =>
    if separator.isPrefixOf (c :: s) then [] :: splitFrom separator (separator.length - 1) s
    else (splitFrom separator 0 s).modifyHead (c :: ·)

example : splitFrom "||".toList 0 "a||b|||c".toList = ["a".toList, "b".toList, "|c".toList] := by decide

/-- The stripped fields of a line. -/
def fieldsOf (delimiter : Option Str) (line : Str) : List Str :=
  match delimiter with
  | some separator => (splitFrom separator 0 line).map strip
  | none => (splitWords line).map strip

def jobIdColumn : Str := "JOBID".toList
def jobIdRawColumn : Str := "JOBID_RAW".toList
def stateColumn : Str := "STATE".toList

/-- Where `parse_delimited` is in its loop over the columns. -/
structure Selection where
  validFieldnames : List Str
  cntJobId : Nat
  validIdx : List Nat
  header : List Str

def Selection.add (s : Selection) (column : Str × Nat) : Selection :=
  if column.1 ∉ s.validFieldnames then s
  else
    let cntJobId := if column.1 = jobIdColumn then s.cntJobId + 1 else s.cntJobId
    let fn := if column.1 = jobIdColumn then if cntJobId = 2 then jobIdRawColumn else jobIdColumn else column.1
    { validFieldnames :=
        if fn ∈ [stateColumn, jobIdColumn, jobIdRawColumn] then s.validFieldnames else s.validFieldnames.erase fn
      cntJobId
      validIdx := s.validIdx ++ [column.2]
      header := s.header ++ [fn] }

def selectColumns (schema columns : List Str) : Selection := columns.zipIdx.foldl Selection.add ⟨schema, 0, [], []⟩

structure Delimited where
  header : List Str
  rows : List (List Str)
  deriving DecidableEq

/-- A round of `gen_rows`, where it yields a row. -/
def rowOf (delimiter : Option Str) (s : Selection) (line : Str) : Option (List Str) :=
  if line = [] then none
  else
    let row := ((fieldsOf delimiter line).zipIdx.filter fun datum => datum.2 ∈ s.validIdx).map Prod.fst
    if row.length ≠ s.header.length then none else some row

/-- The header and all rows, for the field names of a dataclass and the lines
after the header line. -/
def parseDelimited (delimiter : Option Str) (schema : List Str) (headerLine : Str) (lines : List Str) :
    Except PyError Delimited :=
  if delimiter = some [] then .error (.valueError "empty separator".toList)
  else
    let s := selectColumns schema (fieldsOf delimiter headerLine)
    .ok ⟨s.header, lines.filterMap (rowOf delimiter s)⟩

/-! ### Columns -/

/-- The name of a column in the header: the second `JOBID` is `JOBID_RAW`. -/
def columnName (columns : List Str) (i : Nat) : Str :=
  if columns.getD i [] = jobIdColumn ∧ (columns.take i).count jobIdColumn = 1 then jobIdRawColumn
  else columns.getD i []

/-- A column of the schema, the first of its name unless that is `STATE` or `JOBID`. -/
def IsColumn (schema columns : List Str) (i : Nat) : Prop :=
  i < columns.length ∧ columns.getD i [] ∈ schema ∧ (columns.getD i [] = stateColumn ∨
    columns.getD i [] = jobIdColumn ∨ columns.getD i [] ∉ columns.take i)

/-- A column that is taken: its name is still wanted after the columns before. -/
def IsTaken (schema columns : List Str) (i : Nat) : Prop :=
  i < columns.length ∧ columns.getD i [] ∈ schema ∧
    (columns.getD i [] ∈ [stateColumn, jobIdColumn, jobIdRawColumn] ∨
      (columns.take i).count (columns.getD i []) < schema.count (columns.getD i []))

instance (schema columns : List Str) (i : Nat) : Decidable (IsTaken schema columns i) :=
  inferInstanceAs (Decidable (_ ∧ _ ∧ _))

/-- The loop over some columns has taken what it should, and wants what is left. -/
structure Selects (schema columns : List Str) (s : Selection) : Prop where
  wanted : ∀ fn, s.validFieldnames.count fn =
    if fn ∈ [stateColumn, jobIdColumn, jobIdRawColumn] then schema.count fn else schema.count fn - columns.count fn
  jobIds : jobIdColumn ∈ schema → s.cntJobId = columns.count jobIdColumn
  validIdx : s.validIdx = (List.range columns.length).filter (IsTaken schema columns)
  header : s.header = s.validIdx.map (columnName columns)

theorem getD_snoc_of_lt {columns : List Str} {i : Nat} (before : i < columns.length) (fn : Str) :
    (columns ++ [fn]).getD i [] = columns.getD i [] ∧ (columns ++ [fn]).take i = columns.take i := by
  refine ⟨?_, List.take_append_of_le_length before.le⟩
  rw [List.getD_eq_getElem?_getD, List.getD_eq_getElem?_getD, List.getElem?_append_left before]

theorem getD_snoc_self (columns : List Str) (fn : Str) :
    (columns ++ [fn]).getD columns.length [] = fn ∧ (columns ++ [fn]).take columns.length = columns := by
  simp

theorem isTaken_snoc_of_lt {schema columns : List Str} {i : Nat} (before : i < columns.length) (fn : Str) :
    IsTaken schema (columns ++ [fn]) i ↔ IsTaken schema columns i := by
  obtain ⟨name, taken⟩ := getD_snoc_of_lt before fn
  rw [IsTaken, IsTaken, name, taken]
  simp [before, Nat.lt_succ_of_lt before]

theorem columnName_snoc_of_lt {columns : List Str} {i : Nat} (before : i < columns.length) (fn : Str) :
    columnName (columns ++ [fn]) i = columnName columns i := by
  obtain ⟨name, taken⟩ := getD_snoc_of_lt before fn
  rw [columnName, columnName, name, taken]

theorem Selects.isTaken_iff {schema columns : List Str} {s : Selection} (selects : Selects schema columns s)
    (fn : Str) : IsTaken schema (columns ++ [fn]) columns.length ↔ fn ∈ s.validFieldnames := by
  obtain ⟨name, taken⟩ := getD_snoc_self columns fn
  have wanted := selects.wanted fn
  have inSchema := List.count_pos_iff (a := fn) (l := schema)
  rw [IsTaken, name, taken, ← List.count_pos_iff (a := fn) (l := s.validFieldnames), wanted]
  split
  · rename_i special
    simp [special, inSchema]
  · rename_i ordinary
    simp only [List.length_append, List.length_singleton, Nat.lt_add_one, true_and, ordinary, false_or, ← inSchema]
    omega

theorem Selects.validIdx_snoc {schema columns : List Str} {s : Selection} (selects : Selects schema columns s)
    (fn : Str) : (List.range (columns ++ [fn]).length).filter (IsTaken schema (columns ++ [fn])) =
      s.validIdx ++ if fn ∈ s.validFieldnames then [columns.length] else [] := by
  have earlier : (List.range columns.length).filter (IsTaken schema (columns ++ [fn])) = s.validIdx := by
    rw [selects.validIdx]
    refine List.filter_congr fun i member => ?_
    rw [decide_eq_decide]
    exact isTaken_snoc_of_lt (List.mem_range.mp member) fn
  have here := selects.isTaken_iff fn
  rw [List.length_append, List.length_singleton, List.range_succ, List.filter_append, earlier]
  by_cases wanted : fn ∈ s.validFieldnames
  · rw [if_pos wanted, List.filter_cons_of_pos (by simpa [here] using wanted)]
    rfl
  · rw [if_neg wanted, List.filter_cons_of_neg (by simpa [here] using wanted)]
    rfl

theorem Selects.header_snoc {schema columns : List Str} {s : Selection} (selects : Selects schema columns s)
    (fn : Str) : s.validIdx.map (columnName (columns ++ [fn])) = s.header := by
  rw [selects.header]
  refine List.map_congr_left fun i member => columnName_snoc_of_lt ?_ fn
  rw [selects.validIdx, List.mem_filter, List.mem_range] at member
  exact member.1

/-- The name that a taken column gets. -/
theorem Selects.columnName_snoc {schema columns : List Str} {s : Selection} (selects : Selects schema columns s)
    {fn : Str} (wanted : fn ∈ s.validFieldnames) : columnName (columns ++ [fn]) columns.length =
      if fn = jobIdColumn then if s.cntJobId + 1 = 2 then jobIdRawColumn else jobIdColumn else fn := by
  obtain ⟨name, before⟩ := getD_snoc_self columns fn
  have taken := (selects.isTaken_iff fn).mpr wanted
  rw [columnName, name, before]
  by_cases job : fn = jobIdColumn
  · have inSchema : jobIdColumn ∈ schema := by
      have member := taken.2.1
      rwa [name, job] at member
    rw [selects.jobIds inSchema]
    by_cases second : columns.count jobIdColumn = 1
    · simp [job, second]
    · simp [job, second]
  · rw [if_neg job, if_neg fun both => job both.1]

theorem Selects.add_wanted {schema columns : List Str} {s : Selection} (selects : Selects schema columns s)
    {fn : Str} (wanted : fn ∈ s.validFieldnames) : s.add (fn, columns.length) =
      { validFieldnames :=
          if fn ∈ [stateColumn, jobIdColumn, jobIdRawColumn] then s.validFieldnames else s.validFieldnames.erase fn
        cntJobId := if fn = jobIdColumn then s.cntJobId + 1 else s.cntJobId
        validIdx := s.validIdx ++ [columns.length]
        header := s.header ++ [columnName (columns ++ [fn]) columns.length] } := by
  rw [selects.columnName_snoc wanted, Selection.add, if_neg (not_not.mpr wanted)]
  by_cases job : fn = jobIdColumn
  · have special : ∀ name ∈ [jobIdRawColumn, jobIdColumn], name ∈ [stateColumn, jobIdColumn, jobIdRawColumn] := by
      decide
    simp only [job, if_true]
    split
    · rw [if_pos (special _ (by simp)), if_pos (special _ (by simp))]
    · rw [if_pos (special _ (by simp))]
  · simp only [job, if_false]

theorem count_snoc (columns : List Str) (fn name : Str) :
    (columns ++ [fn]).count name = columns.count name + if fn = name then 1 else 0 := by
  rw [List.count_append, List.count_singleton]
  simp

/-- What is still wanted after a column that was. -/
theorem Selects.wanted_snoc {schema columns : List Str} {s : Selection} (selects : Selects schema columns s)
    (fn name : Str) :
    (if fn ∈ [stateColumn, jobIdColumn, jobIdRawColumn] then s.validFieldnames
      else s.validFieldnames.erase fn).count name =
    if name ∈ [stateColumn, jobIdColumn, jobIdRawColumn] then schema.count name
      else schema.count name - (columns ++ [fn]).count name := by
  have before := selects.wanted name
  have nameCount := count_snoc columns fn name
  by_cases same : fn = name
  · subst same
    rw [if_pos rfl] at nameCount
    by_cases special : fn ∈ [stateColumn, jobIdColumn, jobIdRawColumn]
    · simp only [if_pos special] at before ⊢
      exact before
    · simp only [if_neg special] at before ⊢
      rw [List.count_erase_self, before, nameCount]
      omega
  · rw [if_neg same, Nat.add_zero] at nameCount
    rw [nameCount, ← before]
    split
    · rfl
    · exact List.count_erase_of_ne (Ne.symm same)

theorem Selects.unwanted_snoc {schema columns : List Str} {s : Selection} (selects : Selects schema columns s)
    {fn : Str} (unwanted : fn ∉ s.validFieldnames) (name : Str) :
    s.validFieldnames.count name =
      if name ∈ [stateColumn, jobIdColumn, jobIdRawColumn] then schema.count name
        else schema.count name - (columns ++ [fn]).count name := by
  have known := selects.wanted fn
  rw [List.count_eq_zero.mpr unwanted] at known
  rw [selects.wanted name, count_snoc]
  by_cases same : fn = name
  · rw [← same, if_pos rfl]
    split at known <;> split <;> first | rfl | omega
  · rw [if_neg same, Nat.add_zero]

/-- One round of the loop. -/
theorem Selects.add {schema columns : List Str} {s : Selection} (selects : Selects schema columns s) (fn : Str) :
    Selects schema (columns ++ [fn]) (s.add (fn, columns.length)) := by
  have jobCount := count_snoc columns fn jobIdColumn
  by_cases wanted : fn ∈ s.validFieldnames
  · rw [selects.add_wanted wanted]
    refine ⟨selects.wanted_snoc fn, fun inSchema => ?_, ?_, ?_⟩
    · have jobIds := selects.jobIds inSchema
      split at jobCount
      · rename_i job
        simp only [if_pos job]
        omega
      · rename_i job
        simp only [if_neg job]
        omega
    · rw [selects.validIdx_snoc fn, if_pos wanted]
    · rw [List.map_append, selects.header_snoc fn, List.map_singleton]
  · rw [Selection.add, if_pos wanted]
    refine ⟨selects.unwanted_snoc wanted, fun inSchema => ?_, ?_, (selects.header_snoc fn).symm⟩
    · have other : fn ≠ jobIdColumn := by
        rintro rfl
        have known := selects.wanted jobIdColumn
        rw [List.count_eq_zero.mpr wanted, if_pos (by decide)] at known
        exact List.count_eq_zero.mp known.symm inSchema
      rw [jobCount, if_neg other, selects.jobIds inSchema, Nat.add_zero]
    · rw [selects.validIdx_snoc fn, if_neg wanted, List.append_nil]

theorem selectColumns_selects (schema columns : List Str) : Selects schema columns (selectColumns schema columns) := by
  induction columns using List.reverseRecOn with
  | nil => exact ⟨by simp [selectColumns], by simp [selectColumns], rfl, rfl⟩
  | append_singleton columns fn ih =>
    have step : selectColumns schema (columns ++ [fn]) = (selectColumns schema columns).add (fn, columns.length) := by
      rw [selectColumns, List.zipIdx_append, List.foldl_append]
      simp [selectColumns]
    rw [step]
    exact ih.add fn

theorem filter_range_mem {idx : List Nat} (increasing : idx.Pairwise (· < ·)) (n : Nat) :
    (List.range n).filter (· ∈ idx) = idx.filter (· < n) := by
  refine List.Perm.eq_of_pairwise' (r := (· < ·)) (List.pairwise_lt_range.filter _) (increasing.filter _) ?_
  rw [List.perm_ext_iff_of_nodup (List.nodup_range.filter _) ((increasing.imp Nat.ne_of_lt).filter _)]
  intro i
  simp [and_comm]

/-- The data at some indices, as far as they go. -/
theorem filter_zipIdx_mem {idx : List Nat} (increasing : idx.Pairwise (· < ·)) (data : List Str) :
    (data.zipIdx.filter fun datum => datum.2 ∈ idx).map Prod.fst =
      (idx.filter (· < data.length)).map fun i => data.getD i [] := by
  have numbered : data.zipIdx = (List.range data.length).map fun i => (data.getD i [], i) := by
    refine List.ext_getElem (by simp) fun i bound bound' => ?_
    have inside : i < data.length := by simpa using bound
    simp [inside]
  rw [numbered, List.filter_map, List.map_map]
  exact congrArg (List.map _) (filter_range_mem increasing data.length)

theorem rowOf_eq (delimiter : Option Str) {s : Selection} (increasing : s.validIdx.Pairwise (· < ·))
    (header : s.header.length = s.validIdx.length) (line : Str) :
    rowOf delimiter s line =
      if line ≠ [] ∧ ∀ i ∈ s.validIdx, i < (fieldsOf delimiter line).length then
        some (s.validIdx.map fun i => (fieldsOf delimiter line).getD i [])
      else none := by
  have lengths : ((s.validIdx.filter (· < (fieldsOf delimiter line).length)).map fun i =>
      (fieldsOf delimiter line).getD i []).length = s.header.length ↔
        ∀ i ∈ s.validIdx, i < (fieldsOf delimiter line).length := by
    rw [List.length_map, header, List.length_filter_eq_length_iff]
    simp
  rw [rowOf]
  simp only [filter_zipIdx_mem increasing]
  by_cases empty : line = []
  · rw [if_pos empty, if_neg fun both => both.1 empty]
  · rw [if_neg empty]
    by_cases inside : ∀ i ∈ s.validIdx, i < (fieldsOf delimiter line).length
    · have all : s.validIdx.filter (· < (fieldsOf delimiter line).length) = s.validIdx :=
        List.filter_eq_self.mpr (by simpa using inside)
      rw [if_neg (not_not.mpr (lengths.mpr inside)), if_pos ⟨empty, inside⟩, all]
    · rw [if_pos (mt lengths.mp inside), if_neg fun both => inside both.2]

/-! ### Repeated columns -/

/-- A list has an occurrence after any smaller number of them. -/
theorem exists_occurrence {α : Type} [BEq α] [LawfulBEq α] {l : List α} {a : α} {k : Nat} (more : k < l.count a) :
    ∃ i, l[i]? = some a ∧ (l.take i).count a = k := by
  induction l generalizing k with
  | nil => simp at more
  | cons b l ih =>
    by_cases same : b = a
    · subst same
      rw [List.count_cons_self] at more
      cases k with
      | zero => exact ⟨0, rfl, rfl⟩
      | succ k =>
        obtain ⟨i, here, before⟩ := ih (Nat.lt_of_succ_lt_succ more)
        exact ⟨i + 1, here, by simp [before]⟩
    · rw [List.count_cons_of_ne same] at more
      obtain ⟨i, here, before⟩ := ih more
      exact ⟨i + 1, here, by simp [before, same]⟩

theorem count_take_lt {α : Type} [BEq α] [LawfulBEq α] {l : List α} {a : α} {i : Nat} (here : l[i]? = some a) :
    (l.take i).count a < l.count a := by
  obtain ⟨bound, same⟩ := List.getElem?_eq_some_iff.mp here
  have split := congrArg (List.count a) (List.take_append_drop i l)
  rw [List.count_append, List.drop_eq_getElem_cons bound, same, List.count_cons_self] at split
  omega

theorem IsColumn.isTaken {schema columns : List Str} {i : Nat} (column : IsColumn schema columns i) :
    IsTaken schema columns i := by
  obtain ⟨bound, inSchema, first⟩ := column
  refine ⟨bound, inSchema, ?_⟩
  rcases first with state | job | first
  · exact .inl (by rw [state]; decide)
  · exact .inl (by rw [job]; decide)
  · refine .inr ?_
    rw [List.count_eq_zero.mpr first]
    exact List.count_pos_iff.mpr inSchema

/-- No repeated column is taken twice, unless it is `STATE` or `JOBID`. -/
def TakenOnce (schema columns : List Str) : Prop :=
  ∀ fn ∈ schema, 2 ≤ columns.count fn →
    fn = stateColumn ∨ fn = jobIdColumn ∨ fn ≠ jobIdRawColumn ∧ schema.count fn = 1

theorem TakenOnce.isColumn {schema columns : List Str} (once : TakenOnce schema columns) {i : Nat}
    (taken : IsTaken schema columns i) : IsColumn schema columns i := by
  obtain ⟨bound, inSchema, taken⟩ := taken
  refine ⟨bound, inSchema, ?_⟩
  by_contra other
  rw [not_or, not_or, not_not] at other
  obtain ⟨notState, notJob, earlier⟩ := other
  have here : columns[i]? = some (columns.getD i []) := by simp [bound]
  have before : 0 < (columns.take i).count (columns.getD i []) := List.count_pos_iff.mpr earlier
  have more := count_take_lt here
  rcases once _ inSchema (by omega) with state | job | ⟨notRaw, single⟩
  · exact notState state
  · exact notJob job
  · rcases taken with special | fewer
    · simp only [List.mem_cons, List.not_mem_nil, or_false] at special
      exact special.elim notState (Or.rec notJob notRaw)
    · omega

/-- Where a column would be taken twice, its second occurrence is no column of the table. -/
theorem takenOnce_of_isColumn {schema columns : List Str}
    (columnsOnly : ∀ i, IsTaken schema columns i → IsColumn schema columns i) : TakenOnce schema columns := by
  intro fn inSchema twice
  by_contra several
  rw [not_or, not_or] at several
  obtain ⟨notState, notJob, several⟩ := several
  obtain ⟨i, here, before⟩ := exists_occurrence (show 1 < columns.count fn from twice)
  obtain ⟨bound, -⟩ := List.getElem?_eq_some_iff.mp here
  have name : columns.getD i [] = fn := by rw [List.getD_eq_getElem?_getD, here, Option.getD_some]
  have taken : IsTaken schema columns i := by
    rw [IsTaken, name, before]
    refine ⟨bound, inSchema, ?_⟩
    by_cases raw : fn = jobIdRawColumn
    · exact .inl (by rw [raw]; decide)
    · have some := List.count_pos_iff.mpr inSchema
      have single : schema.count fn ≠ 1 := fun single => several ⟨raw, single⟩
      exact .inr (by omega)
  have first := (columnsOnly i taken).2.2
  rw [name] at first
  rcases first with state | job | new
  · exact notState state
  · exact notJob job
  · rw [List.count_eq_zero.mpr new] at before
    omega

/-! ### Tables -/

/-- The table is read as it should be: a header of columns of the schema, for
every line with as many fields as there are columns a row of these columns, and
no row for a line with fewer fields. -/
def ReadsTable (delimiter : Option Str) (schema : List Str) (headerLine : Str) (lines : List Str) : Prop :=
  let columns := fieldsOf delimiter headerLine
  ∃ (idx : List Nat) (row : Str → Option (List Str)),
    idx.Pairwise (· < ·) ∧ (∀ i ∈ idx, IsColumn schema columns i) ∧
    (∀ data, parseDelimited delimiter schema headerLine data =
      .ok ⟨idx.map (columnName columns), data.filterMap row⟩) ∧
    ∀ line ∈ lines,
      ((fieldsOf delimiter line).length = columns.length →
        row line = some (idx.map fun i => (fieldsOf delimiter line).getD i [])) ∧
      ((fieldsOf delimiter line).length < columns.length → row line = none)

/-- What the table must be for that. -/
structure ReadableTable (delimiter : Option Str) (schema : List Str) (headerLine : Str) (lines : List Str) : Prop where
  separates : delimiter ≠ some []
  once : TakenOnce schema (fieldsOf delimiter headerLine)
  empty : [] ∈ lines → (fieldsOf delimiter []).length ≠ (fieldsOf delimiter headerLine).length
  short : ∀ line ∈ lines, line ≠ [] → (fieldsOf delimiter line).length < (fieldsOf delimiter headerLine).length →
    ∃ i, IsColumn schema (fieldsOf delimiter headerLine) i ∧ (fieldsOf delimiter line).length ≤ i

theorem selectColumns_increasing (schema columns : List Str) :
    (selectColumns schema columns).validIdx.Pairwise (· < ·) := by
  rw [(selectColumns_selects schema columns).validIdx]
  exact List.pairwise_lt_range.filter _

theorem mem_validIdx {schema columns : List Str} {i : Nat} :
    i ∈ (selectColumns schema columns).validIdx ↔ IsTaken schema columns i := by
  rw [(selectColumns_selects schema columns).validIdx, List.mem_filter, List.mem_range, decide_eq_true_eq]
  exact and_iff_right_of_imp And.left

theorem parseDelimited_run {delimiter : Option Str} (separates : delimiter ≠ some []) (schema : List Str)
    (headerLine : Str) (lines : List Str) :
    parseDelimited delimiter schema headerLine lines =
      .ok ⟨(selectColumns schema (fieldsOf delimiter headerLine)).validIdx.map
          (columnName (fieldsOf delimiter headerLine)),
        lines.filterMap (rowOf delimiter (selectColumns schema (fieldsOf delimiter headerLine)))⟩ := by
  rw [parseDelimited, if_neg separates, ← (selectColumns_selects schema _).header]

theorem rowOf_selectColumns (delimiter : Option Str) (schema columns : List Str) (line : Str) :
    rowOf delimiter (selectColumns schema columns) line =
      if line ≠ [] ∧ ∀ i ∈ (selectColumns schema columns).validIdx, i < (fieldsOf delimiter line).length then
        some ((selectColumns schema columns).validIdx.map fun i => (fieldsOf delimiter line).getD i [])
      else none := by
  refine rowOf_eq delimiter (selectColumns_increasing schema columns) ?_ line
  rw [(selectColumns_selects schema columns).header, List.length_map]

/-- The columns and the rows of a table that is read as it should be are those of the code. -/
theorem ReadsTable.ofCode {delimiter : Option Str} {schema : List Str} {headerLine : Str} {idx : List Nat}
    {row : Str → Option (List Str)} (separates : delimiter ≠ some []) (sorted : idx.Pairwise (· < ·))
    (columns : ∀ i ∈ idx, IsColumn schema (fieldsOf delimiter headerLine) i)
    (run : ∀ data, parseDelimited delimiter schema headerLine data =
      .ok ⟨idx.map (columnName (fieldsOf delimiter headerLine)), data.filterMap row⟩) :
    idx = (selectColumns schema (fieldsOf delimiter headerLine)).validIdx ∧
      ∀ line, rowOf delimiter (selectColumns schema (fieldsOf delimiter headerLine)) line = row line := by
  have parsed := fun lines : List Str =>
    Except.ok.inj ((parseDelimited_run separates schema headerLine lines).symm.trans (run lines))
  refine ⟨?_, fun line => ?_⟩
  · -- columns of the schema are taken, and as many of them are in the header as are taken
    have subset : idx ⊆ (selectColumns schema (fieldsOf delimiter headerLine)).validIdx := fun i member =>
      mem_validIdx.mpr (columns i member).isTaken
    have lengths := congrArg (fun d => d.header.length) (parsed [])
    simp only [List.length_map] at lengths
    have among := List.subperm_of_subset (sorted.imp Nat.ne_of_lt) subset
    exact (among.perm_of_length_le lengths.le).eq_of_pairwise' sorted (selectColumns_increasing _ _)
  · have single := congrArg Delimited.rows (parsed [line])
    simp only [List.filterMap_cons, List.filterMap_nil] at single
    cases ofCode : rowOf delimiter (selectColumns schema (fieldsOf delimiter headerLine)) line with
    | none =>
      cases ofTable : row line with
      | none => rfl
      | some r => simp [ofCode, ofTable] at single
    | some r =>
      cases ofTable : row line with
      | none => simp [ofCode, ofTable] at single
      | some r' => simpa [ofCode, ofTable] using single

theorem ReadsTable.readable {delimiter : Option Str} {schema : List Str} {headerLine : Str} {lines : List Str}
    (reads : ReadsTable delimiter schema headerLine lines) : ReadableTable delimiter schema headerLine lines := by
  obtain ⟨idx, row, sorted, columns, run, each⟩ := reads
  have separates : delimiter ≠ some [] := by
    rintro rfl
    exact nomatch run []
  obtain ⟨taken, rows⟩ := ReadsTable.ofCode separates sorted columns run
  refine ⟨separates, takenOnce_of_isColumn fun i member => columns i (taken ▸ mem_validIdx.mpr member),
    fun member full => ?_, fun line member nonempty short => ?_⟩
  · have yields := (each [] member).1 full
    rw [← rows, rowOf_selectColumns, if_neg fun both => both.1 rfl] at yields
    cases yields
  · have silent := (each line member).2 short
    rw [← rows, rowOf_selectColumns, ite_eq_right_iff] at silent
    by_contra all
    refine nomatch silent ⟨nonempty, fun i inIdx => ?_⟩
    by_contra beyond
    exact all ⟨i, columns i (taken ▸ inIdx), Nat.not_lt.mp beyond⟩

theorem ReadableTable.reads {delimiter : Option Str} {schema : List Str} {headerLine : Str} {lines : List Str}
    (readable : ReadableTable delimiter schema headerLine lines) : ReadsTable delimiter schema headerLine lines := by
  refine ⟨_, _, selectColumns_increasing schema (fieldsOf delimiter headerLine),
    fun i member => readable.once.isColumn (mem_validIdx.mp member),
    parseDelimited_run readable.separates schema headerLine, fun line member => ⟨fun full => ?_, fun short => ?_⟩⟩
  · have nonempty : line ≠ [] := by
      rintro rfl
      exact readable.empty member full
    rw [rowOf_selectColumns, if_pos ⟨nonempty, fun i inIdx => full ▸ (mem_validIdx.mp inIdx).1⟩]
  · rw [rowOf_selectColumns]
    by_cases nonempty : line = []
    · rw [if_neg fun both => both.1 nonempty]
    · obtain ⟨i, column, beyond⟩ := readable.short line member nonempty short
      rw [if_neg fun both => absurd (both.2 i (mem_validIdx.mpr column.isTaken)) (Nat.not_lt.mpr beyond)]

/-- A table is read as it should be, exactly if no column is taken twice, no
empty line has all fields, and every other line with too few of them ends
before some column of the schema. -/
theorem parseDelimited_readsTable_iff (delimiter : Option Str) (schema : List Str) (headerLine : Str)
    (lines : List Str) :
    ReadsTable delimiter schema headerLine lines ↔ ReadableTable delimiter schema headerLine lines :=
  ⟨ReadsTable.readable, ReadableTable.reads⟩

/-- A line without its last field, of a column that the schema does not have. -/
theorem short_line_yields_row :
    let schema := ["foo".toList, "bar".toList]
    parseDelimited (some "|".toList) schema "foo|bar|baz".toList ["a|b".toList] =
        .ok ⟨["foo".toList, "bar".toList], [["a".toList, "b".toList]]⟩ ∧
      ¬ReadsTable (some "|".toList) schema "foo|bar|baz".toList ["a|b".toList] := by
  intro schema
  have parsed : parseDelimited (some "|".toList) schema "foo|bar|baz".toList ["a|b".toList] =
      .ok ⟨["foo".toList, "bar".toList], [["a".toList, "b".toList]]⟩ := by decide +kernel
  refine ⟨parsed, ?_⟩
  rintro ⟨idx, row, -, -, run, each⟩
  have silent := (each _ List.mem_cons_self).2 (by decide +kernel)
  have rows := congrArg Delimited.rows (Except.ok.inj (parsed.symm.trans (run ["a|b".toList])))
  rw [List.filterMap_cons_none silent] at rows
  cases rows

end GpuTelemetry
