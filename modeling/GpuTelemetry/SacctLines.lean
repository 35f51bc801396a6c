import GpuTelemetry.Exceptions

namespace GpuTelemetry

/-! ### Counting delimiters -/

/-- A delimiter: a non-empty string on one line. -/
structure Delimiter where
  chars : Str
  nonempty : chars ≠ []
  oneLine : '\n' ∉ chars

/-- The loop of `str.count`: the characters of the last occurrence still to
skip, then the next occurrence. -/
def countLoop (d : Str) : Nat → Str → Nat
  | _, [] => 0
  | skip + 1, _ :: s => countLoop d skip s
  | 0, c :: s => if d.isPrefixOf (c :: s) then countLoop d (d.length - 1) s + 1 else countLoop d 0 s

/-- `str.count`: the occurrences that do not overlap, from the left. -/
def Delimiter.count (d : Delimiter) (s : Str) : Nat := countLoop d.chars 0 s

theorem isPrefixOf_before_newline {d : Str} (s rest : Str) (oneLine : '\n' ∉ d) :
    d.isPrefixOf (s ++ '\n' :: rest) = d.isPrefixOf s := by
  induction d generalizing s with
  | nil => simp
  | cons c d ih =>
    have later : '\n' ∉ d := fun member => oneLine (by simp [member])
    have notNewline : c ≠ '\n' := fun same => oneLine (by simp [same])
    cases s with
    | nil => simp [List.isPrefixOf, notNewline]
    | cons c' s => simp [List.isPrefixOf, ih _ later]

/-- No occurrence reaches over a newline. -/
theorem Delimiter.countLoop_newline (d : Delimiter) {skip : Nat} {line : Str} (rest : Str)
    (bound : skip ≤ line.length) :
    countLoop d.chars skip (line ++ '\n' :: rest) = countLoop d.chars skip line + d.count rest := by
  induction line generalizing skip with
  | nil =>
    obtain ⟨c, tail, chars⟩ := List.exists_cons_of_ne_nil d.nonempty
    have notNewline : c ≠ '\n' := fun same => d.oneLine (by simp [chars, same])
    have none : skip = 0 := by simpa using bound
    subst none
    simp [countLoop, Delimiter.count, chars, notNewline]
  | cons c line ih =>
    cases skip with
    | succ skip => exact ih (by simpa using bound)
    | zero =>
      have same := isPrefixOf_before_newline (c :: line) rest d.oneLine
      rw [List.cons_append] at same ⊢
      simp only [countLoop, same]
      split
      · rename_i isPrefix
        have short := (List.isPrefixOf_iff_prefix.mp isPrefix).length_le
        rw [List.length_cons] at short
        rw [ih (by omega)]
        omega
      · exact ih (by omega)

theorem Delimiter.count_newline (d : Delimiter) (line rest : Str) :
    d.count (line ++ '\n' :: rest) = d.count line + d.count rest :=
  d.countLoop_newline rest (Nat.zero_le _)

theorem Delimiter.count_pos (d : Delimiter) (front last : Str) : 1 ≤ d.count (front ++ (d.chars ++ last)) := by
  induction front with
  | nil =>
    obtain ⟨c, tail, chars⟩ := List.exists_cons_of_ne_nil d.nonempty
    have isPrefix : d.chars.isPrefixOf (d.chars ++ last) = true := by simp [List.isPrefixOf_iff_prefix]
    rw [chars] at isPrefix
    simp only [Delimiter.count, chars, List.nil_append, List.cons_append] at isPrefix ⊢
    simp [countLoop, isPrefix]
  | cons c front ih =>
    simp only [Delimiter.count, List.cons_append, countLoop]
    split
    · omega
    · exact ih

/-! ### The lines of the output -/

/-- Iterating over a text file: the lines with their newlines. -/
def physicalLinesLoop : Str → Str → List Str
  | current, [] => if current = [] then [] else [current]
  | current, c :: s =>
    if c = '\n' then (current ++ [c]) :: physicalLinesLoop [] s else physicalLinesLoop (current ++ [c]) s

def physicalLines (s : Str) : List Str := physicalLinesLoop [] s

/-- `line.replace("\n", "\\n")`. -/
def escapeNewlines (s : Str) : Str := s.flatMap fun c => if c = '\n' then ['\\', 'n'] else [c]

/-- The lines a scan yields, and the fragments left in its buffer. -/
structure SacctScan where
  lines : Generated Str
  prevLine : Str
  deriving DecidableEq

def SacctScan.cons (line : Str) (later : SacctScan) : SacctScan := ⟨.cons line later.lines, later.prevLine⟩

/-- The loop of `get_sacct_lines` over the lines behind the header. -/
def sacctLinesLoop (d : Delimiter) (fieldsNumber : Nat) : Str → Nat → List Str → SacctScan
  | prevLine, _, [] => ⟨.done, prevLine⟩
  | prevLine, prevLineDelimiters, line :: stdout =>
    let lineDelimiters := d.count line
    if lineDelimiters < fieldsNumber then
      if prevLineDelimiters + lineDelimiters = fieldsNumber then
        .cons (prevLine ++ line) (sacctLinesLoop d fieldsNumber [] 0 stdout)
      else if fieldsNumber < prevLineDelimiters + lineDelimiters then
        ⟨⟨[], some (.exception ("The following sacct line has more delimiters than expected: ".toList ++ line))⟩,
          prevLine⟩
      else
        sacctLinesLoop d fieldsNumber (prevLine ++ escapeNewlines line) (prevLineDelimiters + lineDelimiters) stdout
    else .cons line (sacctLinesLoop d fieldsNumber prevLine prevLineDelimiters stdout)

/-- `get_sacct_lines` of the wrapper, on the text it reads. -/
def getSacctLines (d : Delimiter) (stdout : Str) : SacctScan :=
  match physicalLines stdout with
  | [] => .cons [] (sacctLinesLoop d (d.count []) [] 0 [])
  | firstLine :: later => .cons firstLine (sacctLinesLoop d (d.count firstLine) [] 0 later)

/-- `get_sacct_lines` of the Slurm client, on a process and its piped output. -/
def getProcessSacctLines (d : Delimiter) : Option Str → SacctScan
  | none => ⟨⟨[], some (.assertionError "It should be piped due to subprocess.PIPE".toList)⟩, []⟩
  | some stdout => getSacctLines d stdout

/-- A record with `k` delimiters: its physical lines, and the last field behind
the last delimiter of the last one. -/
structure SacctRecord (d : Delimiter) (k : Nat) where
  earlier : List Str
  front : Str
  lastField : Str
  earlierLines : ∀ line ∈ earlier, '\n' ∉ line
  lastLine : '\n' ∉ front ++ (d.chars ++ lastField)
  delimiters : d.count (earlier.flatMap (· ++ ['\n']) ++ (front ++ (d.chars ++ lastField))) = k

variable {d : Delimiter} {k : Nat}

def SacctRecord.finalLine (r : SacctRecord d k) : Str := r.front ++ (d.chars ++ r.lastField)

def SacctRecord.text (r : SacctRecord d k) : Str := r.earlier.flatMap (· ++ ['\n']) ++ r.finalLine

/-- What `sacct` prints. -/
def rawOutput (header : Str) (records : List (SacctRecord d k)) : Str :=
  header ++ '\n' :: records.flatMap fun r => r.text ++ ['\n']

/-- The one line a record should become. -/
def SacctRecord.line (r : SacctRecord d k) : Str := escapeNewlines r.text ++ ['\n']

/-- Up to a newline, a line is gathered. -/
theorem physicalLinesLoop_append {line : Str} (oneLine : '\n' ∉ line) (current rest : Str) :
    physicalLinesLoop current (line ++ rest) = physicalLinesLoop (current ++ line) rest := by
  induction line generalizing current with
  | nil => simp
  | cons c line ih =>
    have notNewline : c ≠ '\n' := fun same => oneLine (by simp [same])
    have later := ih (fun member => oneLine (by simp [member])) (current ++ [c])
    simpa [physicalLinesLoop, notNewline] using later

theorem physicalLines_cons {line : Str} (oneLine : '\n' ∉ line) (rest : Str) :
    physicalLines (line ++ '\n' :: rest) = (line ++ ['\n']) :: physicalLines rest := by
  rw [physicalLines, physicalLinesLoop_append oneLine]
  simp [physicalLinesLoop, physicalLines]

theorem physicalLines_record (r : SacctRecord d k) (rest : Str) :
    physicalLines (r.text ++ '\n' :: rest) =
      r.earlier.map (· ++ ['\n']) ++ (r.finalLine ++ ['\n']) :: physicalLines rest := by
  have general : ∀ earlier : List Str, (∀ line ∈ earlier, '\n' ∉ line) →
      physicalLines (earlier.flatMap (· ++ ['\n']) ++ (r.finalLine ++ '\n' :: rest)) =
        earlier.map (· ++ ['\n']) ++ (r.finalLine ++ ['\n']) :: physicalLines rest := by
    intro earlier
    induction earlier with
    | nil => exact fun _ => physicalLines_cons r.lastLine rest
    | cons line earlier ih =>
      intro each
      have later := ih fun other member => each other (by simp [member])
      have whole := physicalLines_cons (each line (by simp))
        (earlier.flatMap (· ++ ['\n']) ++ (r.finalLine ++ '\n' :: rest))
      simpa [later] using whole
  simpa [SacctRecord.text] using general r.earlier r.earlierLines

theorem escapeNewlines_append (a b : Str) : escapeNewlines (a ++ b) = escapeNewlines a ++ escapeNewlines b :=
  List.flatMap_append

theorem escapeNewlines_oneLine {line : Str} (oneLine : '\n' ∉ line) : escapeNewlines line = line := by
  induction line with
  | nil => rfl
  | cons c line ih =>
    have notNewline : c ≠ '\n' := fun same => oneLine (by simp [same])
    have later := ih fun member => oneLine (by simp [member])
    unfold escapeNewlines at later ⊢
    simp [notNewline, later]

/-- The fragments of a record before its last line, as they are kept. -/
def SacctRecord.fragments (r : SacctRecord d k) : Str := r.earlier.flatMap fun line => escapeNewlines (line ++ ['\n'])

theorem SacctRecord.line_eq (r : SacctRecord d k) : r.line = r.fragments ++ (r.finalLine ++ ['\n']) := by
  have escaped : ∀ earlier : List Str, escapeNewlines (earlier.flatMap (· ++ ['\n'])) =
      earlier.flatMap fun line => escapeNewlines (line ++ ['\n']) := by
    intro earlier
    induction earlier with
    | nil => rfl
    | cons line earlier ih => rw [List.flatMap_cons, escapeNewlines_append, ih, List.flatMap_cons]
  rw [SacctRecord.line, SacctRecord.text, escapeNewlines_append, escaped,
    escapeNewlines_oneLine (show '\n' ∉ r.finalLine from r.lastLine),
    SacctRecord.fragments, List.append_assoc]

/-! ### Reassembly -/

/-- The delimiters of a record are those of its lines. -/
theorem SacctRecord.count_eq (r : SacctRecord d k) :
    (r.earlier.map d.count).sum + d.count r.finalLine = k := by
  have general : ∀ earlier : List Str, d.count (earlier.flatMap (· ++ ['\n']) ++ r.finalLine) =
      (earlier.map d.count).sum + d.count r.finalLine := by
    intro earlier
    induction earlier with
    | nil => simp
    | cons line earlier ih =>
      rw [List.flatMap_cons, List.append_assoc, List.append_assoc, List.singleton_append, d.count_newline, ih]
      simp [Nat.add_assoc]
  rw [← general]
  exact r.delimiters

theorem SacctRecord.finalLine_pos (r : SacctRecord d k) : 1 ≤ d.count r.finalLine := d.count_pos r.front r.lastField

theorem Delimiter.count_line (d : Delimiter) (line : Str) : d.count (line ++ ['\n']) = d.count line := by
  have whole := d.count_newline line []
  simpa [Delimiter.count, countLoop] using whole

/-- Lines that do not complete a record go to the buffer. -/
theorem sacctLinesLoop_buffer (d : Delimiter) {k : Nat} {pieces rest : List Str} (prevLine : Str) {n : Nat}
    (bound : n + (pieces.map d.count).sum < k) :
    sacctLinesLoop d k prevLine n (pieces.map (· ++ ['\n']) ++ rest) =
      sacctLinesLoop d k (prevLine ++ pieces.flatMap fun line => escapeNewlines (line ++ ['\n']))
        (n + (pieces.map d.count).sum) rest := by
  induction pieces generalizing prevLine n with
  | nil => simp
  | cons line pieces ih =>
    rw [List.map_cons, List.sum_cons] at bound
    have later := ih (prevLine ++ escapeNewlines (line ++ ['\n'])) (n := n + d.count line) (by omega)
    rw [List.map_cons, List.cons_append, sacctLinesLoop]
    simp only [d.count_line]
    rw [if_pos (by omega), if_neg (by omega), if_neg (by omega), later]
    simp [Nat.add_assoc]

/-- What the loop does with one record, from a buffer without delimiters: it
yields one line, and forgets the buffer or adds to it. -/
theorem sacctLinesLoop_record (r : SacctRecord d k) (prevLine : Str) (rest : List Str) :
    sacctLinesLoop d k prevLine 0 (r.earlier.map (· ++ ['\n']) ++ (r.finalLine ++ ['\n']) :: rest) =
      if d.count r.finalLine = k then
        .cons (r.finalLine ++ ['\n']) (sacctLinesLoop d k (prevLine ++ r.fragments) 0 rest)
      else .cons (prevLine ++ r.line) (sacctLinesLoop d k [] 0 rest) := by
  have total := r.count_eq
  have positive := r.finalLine_pos
  rw [sacctLinesLoop_buffer d prevLine (by omega), Nat.zero_add, sacctLinesLoop]
  simp only [d.count_line]
  by_cases all : d.count r.finalLine = k
  · have noneBefore : (r.earlier.map d.count).sum = 0 := by omega
    rw [if_pos all, if_neg (by omega), noneBefore, SacctRecord.fragments]
  · rw [if_neg all, if_pos (by omega), if_pos total, r.line_eq, SacctRecord.fragments, List.append_assoc]

/-- A record whose delimiters are not all on the last of its several lines. -/
def SacctRecord.Joins (r : SacctRecord d k) : Prop := r.earlier ≠ [] → d.count r.finalLine < k

theorem SacctRecord.finalLine_le (r : SacctRecord d k) : d.count r.finalLine ≤ k := by
  have total := r.count_eq
  omega

theorem SacctRecord.joins_iff (r : SacctRecord d k) :
    r.Joins ↔ (d.count r.finalLine = k → r.fragments = []) := by
  have bound := r.finalLine_le
  constructor
  · intro joins all
    by_cases single : r.earlier = []
    · simp [SacctRecord.fragments, single]
    · have less := joins single
      omega
  · intro none several
    by_contra notLess
    obtain ⟨line, others, earlier⟩ := List.exists_cons_of_ne_nil several
    have empty := none (by omega)
    simp [SacctRecord.fragments, earlier, escapeNewlines] at empty

theorem physicalLines_records (records : List (SacctRecord d k)) :
    physicalLines (records.flatMap fun r => r.text ++ ['\n']) =
      records.flatMap fun r => r.earlier.map (· ++ ['\n']) ++ [r.finalLine ++ ['\n']] := by
  induction records with
  | nil => rfl
  | cons r records ih =>
    rw [List.flatMap_cons, List.append_assoc, List.singleton_append, physicalLines_record, ih]
    simp

theorem SacctScan.cons_eq_iff {line line' prevLine : Str} {lines : List Str} {scan : SacctScan} :
    SacctScan.cons line scan = ⟨⟨line' :: lines, none⟩, prevLine⟩ ↔
      line = line' ∧ scan = ⟨⟨lines, none⟩, prevLine⟩ := by
  obtain ⟨⟨yields, raises⟩, kept⟩ := scan
  simp [SacctScan.cons, Generated.cons, and_assoc]

/-- From an empty buffer every record becomes its line exactly when each joins. -/
theorem sacctLinesLoop_records_iff (records : List (SacctRecord d k)) :
    sacctLinesLoop d k [] 0 (records.flatMap fun r => r.earlier.map (· ++ ['\n']) ++ [r.finalLine ++ ['\n']]) =
        ⟨⟨records.map SacctRecord.line, none⟩, []⟩ ↔ ∀ r ∈ records, r.Joins := by
  induction records with
  | nil => simp [sacctLinesLoop, Generated.done]
  | cons r records ih =>
    rw [List.flatMap_cons, List.append_assoc, List.singleton_append, sacctLinesLoop_record, List.map_cons,
      List.forall_mem_cons, List.nil_append, List.nil_append, r.joins_iff]
    by_cases all : d.count r.finalLine = k
    · rw [if_pos all, SacctScan.cons_eq_iff]
      by_cases kept : r.fragments = []
      · have same : r.finalLine ++ ['\n'] = r.line := by rw [r.line_eq, kept, List.nil_append]
        rw [kept, ih]
        simp [same]
      · refine iff_of_false ?_ fun joins => kept (joins.1 all)
        rintro ⟨same, -⟩
        rw [r.line_eq] at same
        exact kept (List.self_eq_append_left.mp same)
    · rw [if_neg all, SacctScan.cons_eq_iff, ih]
      simp [all]

/-- Every record is yielded as its line, and nothing stays in the buffer,
exactly when no record of several lines has all its delimiters on the last one. -/
theorem getSacctLines_records_iff (d : Delimiter) (header : Str) (oneLine : '\n' ∉ header)
    (records : List (SacctRecord d (d.count header))) :
    (getSacctLines d (rawOutput header records) =
        ⟨⟨(header ++ ['\n']) :: records.map SacctRecord.line, none⟩, []⟩ ↔
      ∀ r ∈ records, r.earlier ≠ [] → d.count r.finalLine < d.count header) ∧
    getProcessSacctLines d (some (rawOutput header records)) = getSacctLines d (rawOutput header records) := by
  refine ⟨?_, rfl⟩
  rw [getSacctLines, rawOutput, physicalLines_cons oneLine, physicalLines_records]
  simp only [d.count_line]
  rw [SacctScan.cons_eq_iff, sacctLinesLoop_records_iff]
  simp [SacctRecord.Joins]

/-- The delimiter of the tests. -/
def pipe : Delimiter := ⟨['|'], by decide, by decide⟩

def sampleHeader : Str := "Id|Name|End".toList

/-- A record on one line, and one whose second field holds a newline. -/
def sampleRecords : List (SacctRecord pipe (pipe.count sampleHeader)) :=
  [⟨[], "7|a".toList, "1".toList, by decide, by decide, by decide⟩,
    ⟨["8|b".toList], "c".toList, "2".toList, by decide, by decide, by decide⟩]

theorem getSacctLines_joined :
    rawOutput sampleHeader sampleRecords = "Id|Name|End\n7|a|1\n8|b\nc|2\n".toList ∧
    getSacctLines pipe (rawOutput sampleHeader sampleRecords) =
      ⟨⟨["Id|Name|End\n".toList, "7|a|1\n".toList, "8|b\\nc|2\n".toList], none⟩, []⟩ :=
  ⟨by decide, (getSacctLines_records_iff pipe sampleHeader (by decide) sampleRecords).1.mpr (by decide)⟩

/-- A record with a newline before its only delimiter. -/
def brokenRecord : SacctRecord pipe (pipe.count "A|B".toList) :=
  ⟨["x".toList], "y".toList, "z".toList, by decide, by decide, by decide⟩

/-- The fragment `x` is lost: it stays in the buffer. -/
theorem getSacctLines_lost :
    getSacctLines pipe (rawOutput "A|B".toList [brokenRecord]) =
        ⟨⟨["A|B\n".toList, "y|z\n".toList], none⟩, "x\\n".toList⟩ ∧
      brokenRecord.line = "x\\ny|z\n".toList := by
  decide

end GpuTelemetry
