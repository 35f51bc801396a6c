import GpuTelemetry.HostnameInList
import GpuTelemetry.LastWrite

namespace GpuTelemetry

/-! ### The text of a job -/

/-- The word `key=value`. -/
def keyed (key value : Str) : Str := key ++ '=' :: value

/-- A non-empty text without whitespace. -/
def IsWord (w : Str) : Prop := w ≠ [] ∧ ∀ c ∈ w, isGoSpace c = false

/-- The keys `AttributeGPU2SlurmMetadata` reads besides those of hosts and GPUs. -/
def attributeKeys : List Str :=
  ["UserId", "QOS", "JobName", "ArrayJobId", "ArrayTaskId", "Account", "Partition", "NumNodes"].map String.toList

/-- A word of a job's text other than its identity, its hosts and its GPUs. -/
structure Attribute where
  text : Str
  isWord : IsWord text
  ordinary : (splitFirst '=' text).1 ∉ ["NodeList", "JobId", "GRES"].map String.toList
  valued : (splitFirst '=' text).1 ∈ attributeKeys → ∃ value, (splitFirst '=' text).2 = some value ∧
    ((splitFirst '=' text).1 = "UserId".toList → '(' ∈ value)

/-- An entry of a GRES index list: an index, or a range of them. The loop over
a range ends only below the largest `int`. -/
inductive IndexEntry
  | index (n : Nat) (fits : (n : Int) < maxInt)
  | range (first last : Nat) (ordered : first ≤ last) (fits : (last : Int) < maxInt)

def IndexEntry.text : IndexEntry → Str
  | .index n _ => decimal n
  | .range first last _ _ => decimal first ++ '-' :: decimal last

/-- The GPU indices an entry stands for. -/
def IndexEntry.expand : IndexEntry → List Str
  | .index n _ => [decimal n]
  | .range first last _ _ => (List.range' first (last + 1 - first)).map decimal

/-- A group `gpu:<type>:<n>(IDX:<indices>)`; without indices it ends in `(IDX:N/A)`. -/
structure GresGroup where
  name : Str
  solid : ∀ c ∈ name, isGoSpace c = false
  noParen : '(' ∉ name
  entries : List IndexEntry

def GresGroup.indexText (g : GresGroup) : Str :=
  if g.entries = [] then "N/A".toList else [','].intercalate (g.entries.map IndexEntry.text)

def GresGroup.text (g : GresGroup) : Str := g.name ++ '(' :: ("IDX:".toList ++ (g.indexText ++ [')']))

def GresGroup.indices (g : GresGroup) : List Str := g.entries.flatMap IndexEntry.expand

def gresGroupsText (groups : List GresGroup) : Str := [','].intercalate (groups.map GresGroup.text)

/-- A detail line `Nodes=<hostlist> ... GRES=<groups>`. -/
structure Detail where
  nodes : List NodeExpr
  between : List Attribute
  groups : List GresGroup

def Detail.words (d : Detail) : List Str :=
  (keyed "Nodes".toList (nodelistText d.nodes)) :: (d.between.map Attribute.text ++
    [keyed "GRES".toList (gresGroupsText d.groups)])

inductive JobLine
  | attributes (line : List Attribute)
  | detail (d : Detail)

def JobLine.words : JobLine → List Str
  | .attributes line => line.map Attribute.text
  | .detail d => d.words

/-- What `scontrol show job` prints of one job. -/
structure JobBlock where
  jobId : Str
  solidId : ∀ c ∈ jobId, isGoSpace c = false
  heading : List Attribute
  before : List JobLine
  nodeList : Str
  solidNodes : ∀ c ∈ nodeList, isGoSpace c = false
  after : List JobLine

def JobBlock.lines (b : JobBlock) : List (List Str) :=
  ((keyed "JobId".toList b.jobId) :: b.heading.map Attribute.text) :: (b.before.map JobLine.words ++
    [keyed "NodeList".toList b.nodeList] :: b.after.map JobLine.words)

/-- Lines are indented, and their words separated by a space. -/
def lineText (words : List Str) : Str := "   ".toList ++ [' '].intercalate words

def JobBlock.text (b : JobBlock) : Str := ['\n'].intercalate (b.lines.map lineText)

def JobLine.details : JobLine → List Detail
  | .attributes _ => []
  | .detail d => [d]

def JobBlock.details (b : JobBlock) : List Detail := (b.before ++ b.after).flatMap JobLine.details

/-- The job holds a GPU on the host: the GPU is in the indices of a detail line
whose hosts contain it. -/
def JobBlock.Holds (b : JobBlock) (host gpu : Str) : Prop :=
  ∃ d ∈ b.details, host ∈ d.nodes.flatMap NodeExpr.expand ∧ ∃ g ∈ d.groups, gpu ∈ g.indices

/-- The indices of the first group of a detail line, the only ones that are read. -/
def firstIndices : List GresGroup → List Str
  | [] => []
  | g :: _ => g.indices

def Detail.listed (d : Detail) : List Str := firstIndices d.groups

def JobBlock.listed (b : JobBlock) : List Str := b.details.flatMap Detail.listed

/-! ### GRES indices -/

theorem decimal_digits (n : Nat) : ∀ c ∈ decimal n, c.isDigit = true := fun _ member => decimal_isDigit member

theorem hyphen_not_mem_decimal (n : Nat) : '-' ∉ decimal n := not_mem_decimal (by decide) n

theorem atoi_decimal {n : Nat} (fits : (n : Int) ≤ maxInt) : atoi (decimal n) = some (n : Int) := by
  have read := atoi_of_digits (decimal_ne_nil n) (decimal_digits n) (by rwa [intOfDigits_decimal])
  rwa [intOfDigits_decimal] at read

theorem itoa_natCast (n : Nat) : itoa (n : Int) = decimal n := by
  simp [itoa, intText, show ¬(n : Int) < 0 by omega]

theorem gresIndexEntry_text (e : IndexEntry) : gresIndexEntry e.text = e.expand := by
  cases e with
  | index n fits =>
    simp only [gresIndexEntry, IndexEntry.text, IndexEntry.expand, hyphen_not_mem_decimal, if_false,
      atoi_decimal fits.le]
  | range first last ordered fits =>
    have bounds : (decimal first ++ '-' :: decimal last).splitOn '-' = [decimal first, decimal last] := by
      rw [List.splitOn_append_cons_self_of_not_mem (hyphen_not_mem_decimal first),
        List.splitOn_eq_singleton (hyphen_not_mem_decimal last)]
    have hyphen : '-' ∈ decimal first ++ '-' :: decimal last := by simp
    have firstFits : (first : Int) ≤ maxInt := by omega
    have count : ((last : Int) + 1 - (first : Int)).toNat = last + 1 - first := by omega
    simp only [gresIndexEntry, IndexEntry.text, IndexEntry.expand, hyphen, if_true, bounds, List.getD_cons_zero,
      List.getD_cons_succ, atoi_decimal firstFits, atoi_decimal fits.le, count, List.range'_eq_map_range,
      List.map_map]
    refine List.map_congr_left fun k _ => ?_
    rw [← Nat.cast_add, itoa_natCast]
    rfl

def isIndexChar (c : Char) : Bool := c.isDigit || c == '-' || c == ',' || c == 'N' || c == '/' || c == 'A'

theorem IndexEntry.text_chars (e : IndexEntry) : ∀ c ∈ e.text, c.isDigit = true ∨ c = '-' := by
  intro c member
  cases e with
  | index n _ => exact .inl (decimal_digits n c member)
  | range first last _ _ =>
    simp only [IndexEntry.text, List.mem_append, List.mem_cons] at member
    rcases member with inFirst | rfl | inLast
    · exact .inl (decimal_digits first c inFirst)
    · exact .inr rfl
    · exact .inl (decimal_digits last c inLast)

theorem IndexEntry.text_no_comma (e : IndexEntry) : ',' ∉ e.text := by
  intro member
  rcases e.text_chars _ member with digit | same
  · exact absurd digit (by decide)
  · exact absurd same (by decide)

theorem mem_intercalate {sep c : Char} {parts : List Str} (member : c ∈ [sep].intercalate parts) :
    c = sep ∨ ∃ part ∈ parts, c ∈ part := by
  induction parts with
  | nil => simp at member
  | cons part parts ih =>
    cases parts with
    | nil => exact .inr ⟨part, by simp, by simpa using member⟩
    | cons next parts =>
      rw [List.intercalate_cons_of_ne_nil (by simp), List.append_assoc, List.mem_append, List.mem_append] at member
      rcases member with inPart | isSep | inLater
      · exact .inr ⟨part, by simp, inPart⟩
      · exact .inl (List.mem_singleton.mp isSep)
      · rcases ih inLater with isSep | ⟨other, inParts, inOther⟩
        · exact .inl isSep
        · exact .inr ⟨other, by simp [List.mem_cons.mp inParts], inOther⟩

theorem GresGroup.indexText_chars (g : GresGroup) : ∀ c ∈ g.indexText, isIndexChar c = true := by
  intro c member
  unfold GresGroup.indexText at member
  split at member
  · revert c
    decide
  · rcases mem_intercalate member with rfl | ⟨text, inTexts, inText⟩
    · rfl
    · obtain ⟨e, _, rfl⟩ := List.mem_map.mp inTexts
      rcases e.text_chars c inText with digit | rfl
      · simp [isIndexChar, digit]
      · rfl

theorem GresGroup.read_indices (g : GresGroup) : (g.indexText.splitOn ',').flatMap gresIndexEntry = g.indices := by
  unfold GresGroup.indexText GresGroup.indices
  split
  · rename_i none
    rw [none]
    decide
  · rename_i nonempty
    rw [List.splitOn_intercalate ',' (by simpa using fun e _ => e.text_no_comma) (by simpa using nonempty),
      List.flatMap_map]
    simp only [gresIndexEntry_text]

theorem parenthesised_skip {pre s : Str} (noParen : '(' ∉ pre) : parenthesised (pre ++ s) = parenthesised s := by
  induction pre with
  | nil => rfl
  | cons c pre ih =>
    have notParen : c ≠ '(' := fun same => noParen (by simp [same])
    simp only [List.cons_append, parenthesised, notParen, false_and, if_false]
    exact ih fun member => noParen (by simp [member])

theorem splitFirst_append {sep : Char} {key : Str} (value : Str) (absent : sep ∉ key) :
    splitFirst sep (key ++ sep :: value) = (key, some value) := by
  have within : ∀ c ∈ key, decide (c ≠ sep) = true := by
    intro c member
    simpa using fun same : c = sep => absent (same ▸ member)
  obtain ⟨taken, dropped⟩ := takeWhile_run_cons sep value within (by simp)
  simp only [splitFirst, taken, dropped]

theorem splitFirst_keyed {key : Str} (value : Str) (noEquals : '=' ∉ key) :
    splitFirst '=' (keyed key value) = (key, some value) :=
  splitFirst_append value noEquals

/-- What is read is the index list of the first pair of parentheses. -/
theorem parseGRES_first {name indexText : Str} (rest : Str) (noParen : '(' ∉ name) (noClosing : ')' ∉ indexText) :
    parseGRES (name ++ '(' :: (("IDX:".toList ++ indexText) ++ ')' :: rest)) =
      .ok ((indexText.splitOn ',').flatMap gresIndexEntry) := by
  have within : ∀ c ∈ "IDX:".toList ++ indexText, decide (c ≠ ')') = true := by
    intro c member
    rcases List.mem_append.mp member with inKey | inIndices
    · have notClosing : ∀ d ∈ "IDX:".toList, decide (d ≠ ')') = true := by decide
      exact notClosing c inKey
    · simpa using fun same : c = ')' => noClosing (same ▸ inIndices)
  obtain ⟨taken, -⟩ := takeWhile_run_cons ')' rest within (by decide)
  have group : parenthesised (name ++ '(' :: (("IDX:".toList ++ indexText) ++ ')' :: rest)) =
      some ("IDX:".toList ++ indexText) := by
    rw [parenthesised_skip noParen, parenthesised, taken]
    simp
  have noColon : ':' ∉ "IDX".toList := by decide
  have parts : splitFirst ':' ("IDX:".toList ++ indexText) = ("IDX".toList, some indexText) :=
    splitFirst_append indexText noColon
  simp only [parseGRES, group, parts, secondPart]

/-- Only the first group of a GRES text is read. -/
theorem parseGRES_groups (groups : List GresGroup) :
    parseGRES (gresGroupsText groups) = .ok (firstIndices groups) := by
  cases groups with
  | nil => rfl
  | cons g groups =>
    obtain ⟨rest, text⟩ : ∃ rest, gresGroupsText (g :: groups) =
        g.name ++ '(' :: (("IDX:".toList ++ g.indexText) ++ ')' :: rest) := by
      cases groups with
      | nil => exact ⟨[], by simp [gresGroupsText, GresGroup.text]⟩
      | cons next groups =>
        exact ⟨',' :: gresGroupsText (next :: groups), by simp [gresGroupsText, GresGroup.text]⟩
    have noClosing : ')' ∉ g.indexText := fun member => absurd (g.indexText_chars _ member) (by decide)
    rw [text, parseGRES_first rest g.noParen noClosing, g.read_indices, firstIndices]

/-! ### The words of a job -/

theorem fields_append (s rest : Str) {c : Char} (space : isGoSpace c = true) :
    fields (s ++ c :: rest) = fields s ++ fields rest := by
  rw [fields, List.splitOnP_append_cons _ _ space, List.filter_append]
  rfl

theorem fields_intercalate {sep : Char} (space : isGoSpace sep = true) (parts : List Str) :
    fields ([sep].intercalate parts) = parts.flatMap fields := by
  induction parts with
  | nil => rfl
  | cons part parts ih =>
    cases parts with
    | nil => simp
    | cons next parts =>
      rw [List.intercalate_cons_of_ne_nil (by simp), List.append_assoc, List.singleton_append,
        fields_append part _ space, ih]
      rfl

theorem fields_word {w : Str} (isWord : IsWord w) : fields w = [w] := by
  have single : w.splitOnP isGoSpace = [w] := List.splitOnP_eq_singleton isWord.2
  simp [fields, single, isWord.1]

theorem fields_lineText (words : List Str) : fields (lineText words) = words.flatMap fields := by
  have indented : lineText words = [] ++ ' ' :: ([] ++ ' ' :: ([] ++ ' ' :: [' '].intercalate words)) := rfl
  have space : isGoSpace ' ' = true := by decide
  rw [indented, fields_append _ _ space, fields_append _ _ space, fields_append _ _ space, fields_intercalate space]
  rfl

theorem flatMap_fields {words : List Str} (each : ∀ w ∈ words, IsWord w) : words.flatMap fields = words := by
  induction words with
  | nil => rfl
  | cons w words ih =>
    rw [List.flatMap_cons, fields_word (each w (by simp)), ih fun other member => each other (by simp [member]),
      List.singleton_append]

/-- A newline separates words like a space does. -/
theorem jobWords_eq_fields (jobMetadata : Str) : jobWords jobMetadata = fields jobMetadata := by
  have space : isGoSpace '\n' = true := by decide
  rw [jobWords, ← fields_intercalate space, List.intercalate_splitOn]

theorem jobWords_lines (lines : List (List Str)) :
    jobWords (['\n'].intercalate (lines.map lineText)) = lines.flatten.flatMap fields := by
  have space : isGoSpace '\n' = true := by decide
  rw [jobWords_eq_fields, fields_intercalate space, List.flatMap_map]
  simp only [fields_lineText, List.flatMap_def, List.map_flatten, List.flatten_flatten, List.map_map]
  rfl

theorem isNodelistChar_not_goSpace {c : Char} (listed : isNodelistChar c = true) : isGoSpace c = false := by
  have solid := isNodelistChar_not_space listed
  simp only [isSpace, isGoSpace, List.contains_eq_mem, List.mem_cons, List.not_mem_nil, or_false,
    decide_eq_false_iff_not, not_or] at solid ⊢
  simp [solid]

theorem nodelistText_solid (exprs : List NodeExpr) : ∀ c ∈ nodelistText exprs, isGoSpace c = false := by
  intro c member
  rcases mem_intercalate member with rfl | ⟨text, inTexts, inText⟩
  · decide
  · obtain ⟨e, _, rfl⟩ := List.mem_map.mp inTexts
    exact isNodelistChar_not_goSpace (e.text_chars c inText)

theorem isIndexChar_not_goSpace {c : Char} (listed : isIndexChar c = true) : isGoSpace c = false := by
  simp only [isIndexChar, Bool.or_eq_true, beq_iff_eq, or_assoc] at listed
  rcases listed with digit | rfl | rfl | rfl | rfl | rfl
  · exact isNodelistChar_not_goSpace (by simp [isNodelistChar, isHostChar, Char.isAlphanum, digit])
  all_goals decide

theorem gresGroupsText_solid (groups : List GresGroup) : ∀ c ∈ gresGroupsText groups, isGoSpace c = false := by
  intro c member
  rcases mem_intercalate member with rfl | ⟨text, inTexts, inText⟩
  · decide
  · obtain ⟨g, _, rfl⟩ := List.mem_map.mp inTexts
    have constant : ∀ d ∈ '(' :: ("IDX:".toList ++ [')']), isGoSpace d = false := by decide
    simp only [GresGroup.text, List.mem_append, List.mem_cons, List.not_mem_nil, or_false] at inText constant
    rcases inText with inName | rfl | inKey | inIndices | rfl
    · exact g.solid c inName
    · decide
    · exact constant c (.inr (.inl inKey))
    · exact isIndexChar_not_goSpace (g.indexText_chars c inIndices)
    · decide

theorem isWord_keyed {key value : Str} (solidKey : ∀ c ∈ key, isGoSpace c = false)
    (solidValue : ∀ c ∈ value, isGoSpace c = false) : IsWord (keyed key value) := by
  refine ⟨by simp [keyed], fun c member => ?_⟩
  simp only [keyed, List.mem_append, List.mem_cons] at member
  rcases member with inKey | rfl | inValue
  · exact solidKey c inKey
  · decide
  · exact solidValue c inValue

theorem attributes_areWords (line : List Attribute) : ∀ w ∈ line.map Attribute.text, IsWord w := by
  intro w member
  obtain ⟨a, _, rfl⟩ := List.mem_map.mp member
  exact a.isWord

theorem JobLine.areWords (line : JobLine) : ∀ w ∈ line.words, IsWord w := by
  cases line with
  | attributes line => exact attributes_areWords line
  | detail d =>
    intro w member
    simp only [JobLine.words, Detail.words, List.mem_cons, List.mem_append, List.not_mem_nil, or_false] at member
    rcases member with rfl | inBetween | rfl
    · exact isWord_keyed (by decide) (nodelistText_solid d.nodes)
    · exact attributes_areWords d.between w inBetween
    · exact isWord_keyed (by decide) (gresGroupsText_solid d.groups)

/-- The words of a block in reading order. -/
def JobBlock.words (b : JobBlock) : List Str :=
  (keyed "JobId".toList b.jobId) :: (b.heading.map Attribute.text ++ b.before.flatMap JobLine.words ++
    (keyed "NodeList".toList b.nodeList) :: b.after.flatMap JobLine.words)

theorem JobBlock.areWords (b : JobBlock) : ∀ w ∈ b.words, IsWord w := by
  have lines : ∀ lines : List JobLine, ∀ w ∈ lines.flatMap JobLine.words, IsWord w := by
    intro lines w member
    obtain ⟨line, _, inLine⟩ := List.mem_flatMap.mp member
    exact line.areWords w inLine
  intro w member
  simp only [JobBlock.words, List.mem_cons, List.mem_append, or_assoc] at member
  rcases member with rfl | inHeading | inBefore | rfl | inAfter
  · exact isWord_keyed (by decide) b.solidId
  · exact attributes_areWords b.heading w inHeading
  · exact lines b.before w inBefore
  · exact isWord_keyed (by decide) b.solidNodes
  · exact lines b.after w inAfter

theorem jobWords_block (b : JobBlock) : jobWords b.text = b.words := by
  have flat : b.lines.flatten = b.words := by simp [JobBlock.lines, JobBlock.words, List.flatMap_def]
  rw [JobBlock.text, jobWords_lines, flat, flatMap_fields b.areWords]

/-! ### Reading the words -/

/-- Reading the words adds the indices to the job and leaves its identity. -/
def Collects (words indices : List Str) : Prop :=
  ∀ job : JobFields, ∃ job', words.foldlM readField job = .ok job' ∧
    job'.gresIndex = job.gresIndex ++ indices ∧ job'.allJobID = job.allJobID

theorem Collects.nil : Collects [] [] := fun job => ⟨job, rfl, by simp, rfl⟩

theorem Collects.append {words words' indices indices' : List Str} (first : Collects words indices)
    (later : Collects words' indices') : Collects (words ++ words') (indices ++ indices') := by
  intro job
  obtain ⟨mid, run, gathered, same⟩ := first job
  obtain ⟨job', run', gathered', same'⟩ := later mid
  refine ⟨job', ?_, by simp [gathered, gathered'], same'.trans same⟩
  rw [List.foldlM_append, run]
  exact run'

theorem Collects.flatMap {α : Type} {xs : List α} {words indices : α → List Str}
    (each : ∀ x ∈ xs, Collects (words x) (indices x)) : Collects (xs.flatMap words) (xs.flatMap indices) := by
  induction xs with
  | nil => exact .nil
  | cons x xs ih =>
    rw [List.flatMap_cons, List.flatMap_cons]
    exact (each x (by simp)).append (ih fun y member => each y (by simp [member]))

theorem Collects.of_step {w : Str} {indices : List Str} (step : ∀ job, ∃ job', readField job w = .ok job' ∧
    job'.gresIndex = job.gresIndex ++ indices ∧ job'.allJobID = job.allJobID) : Collects [w] indices := by
  intro job
  obtain ⟨job', run, kept⟩ := step job
  exact ⟨job', by rw [List.foldlM_cons, run]; rfl, kept⟩

theorem readField_unread {w : Str} (unknown : (splitFirst '=' w).1 ∉ attributeKeys)
    (notJob : (splitFirst '=' w).1 ≠ "JobId".toList) (notGres : (splitFirst '=' w).1 ≠ "GRES".toList)
    (job : JobFields) : readField job w = .ok job := by
  simp only [attributeKeys, List.map_cons, List.map_nil, List.mem_cons, List.not_mem_nil, or_false, not_or] at unknown
  simp only [readField, unknown, notJob, notGres, if_false]

theorem collects_attribute (a : Attribute) : Collects [a.text] [] := by
  refine .of_step fun job => ?_
  have ordinary := a.ordinary
  simp only [List.map_cons, List.map_nil, List.mem_cons, List.not_mem_nil, or_false, not_or] at ordinary
  obtain ⟨-, notJob, notGres⟩ := ordinary
  by_cases known : (splitFirst '=' a.text).1 ∈ attributeKeys
  · obtain ⟨value, valued, user⟩ := a.valued known
    simp only [readField, valued, secondPart, notJob, notGres, if_false, Except.bind, Except.map, List.append_nil]
    by_cases isUser : (splitFirst '=' a.text).1 = "UserId".toList
    · rw [if_pos isUser, if_pos (user isUser)]
      exact ⟨_, rfl, rfl, rfl⟩
    · rw [if_neg isUser]
      by_cases isTask : (splitFirst '=' a.text).1 = "ArrayTaskId".toList
      · rw [isTask]
        cases atoi value <;> exact ⟨_, rfl, rfl, rfl⟩
      · rw [if_neg isTask]
        repeat (split; exact ⟨_, rfl, rfl, rfl⟩)
        exact ⟨_, rfl, rfl, rfl⟩
  · exact ⟨job, readField_unread known notJob notGres job, by simp, rfl⟩

theorem collects_attributes (line : List Attribute) : Collects (line.map Attribute.text) [] := by
  have all : Collects (line.flatMap fun a => [a.text]) (line.flatMap fun _ => []) :=
    .flatMap fun a _ => collects_attribute a
  rwa [List.flatMap_eq_nil_iff.mpr fun _ _ => rfl, ← List.map_eq_flatMap] at all

/-- A word whose key is none of those that are read. -/
theorem collects_unread {key value : Str} (noEquals : '=' ∉ key)
    (unread : key ∉ attributeKeys ∧ key ≠ "JobId".toList ∧ key ≠ "GRES".toList) :
    Collects [keyed key value] [] := by
  refine .of_step fun job => ⟨job, ?_, by simp, rfl⟩
  obtain ⟨unknown, notJob, notGres⟩ := unread
  have same : (splitFirst '=' (keyed key value)).1 = key := by rw [splitFirst_keyed value noEquals]
  exact readField_unread (by rwa [same]) (by rwa [same]) (by rwa [same]) job

theorem collects_gres (groups : List GresGroup) :
    Collects [keyed "GRES".toList (gresGroupsText groups)] (firstIndices groups) := by
  have parts := splitFirst_keyed (gresGroupsText groups) (show '=' ∉ "GRES".toList by decide)
  refine .of_step fun job => ⟨{ job with gresIndex := job.gresIndex ++ firstIndices groups }, ?_, rfl, rfl⟩
  simp only [readField, parts, secondPart, Except.bind, parseGRES_groups, Except.map]
  simp

theorem collects_line (line : JobLine) : Collects line.words (line.details.flatMap Detail.listed) := by
  cases line with
  | attributes line => exact collects_attributes line
  | detail d =>
    have nodes : Collects [keyed "Nodes".toList (nodelistText d.nodes)] [] :=
      collects_unread (by decide) (by decide)
    have all := (nodes.append (collects_attributes d.between)).append (collects_gres d.groups)
    simpa [JobLine.words, JobLine.details, Detail.words, Detail.listed] using all

/-- What is collected from the words of a block. -/
def JobBlock.fields (b : JobBlock) : JobFields :=
  match b.words.foldlM readField JobFields.empty with
  | .ok job => job
  | .error _ => JobFields.empty

theorem JobBlock.collects (b : JobBlock) : b.words.foldlM readField JobFields.empty = .ok b.fields ∧
    b.fields.gresIndex = b.listed ∧ b.fields.metadata.JobID = b.jobId := by
  have identity : readField JobFields.empty (keyed "JobId".toList b.jobId) =
      .ok { JobFields.empty with allJobID := [b.jobId] } := by
    have parts := splitFirst_keyed b.jobId (show '=' ∉ "JobId".toList by decide)
    simp only [readField, parts, secondPart, Except.map]
    rfl
  have nodes : Collects [keyed "NodeList".toList b.nodeList] [] :=
    collects_unread (by decide) (by decide)
  have lines : ∀ lines : List JobLine, Collects (lines.flatMap JobLine.words)
      (lines.flatMap fun line => line.details.flatMap Detail.listed) :=
    fun lines => .flatMap fun line _ => collects_line line
  have rest := ((collects_attributes b.heading).append (lines b.before)).append (nodes.append (lines b.after))
  obtain ⟨job, run, gathered, same⟩ := rest { JobFields.empty with allJobID := [b.jobId] }
  have whole : b.words.foldlM readField JobFields.empty = .ok job := by
    rw [JobBlock.words, List.foldlM_cons, identity]
    exact run
  have fields : b.fields = job := by rw [JobBlock.fields, whole]
  rw [fields]
  refine ⟨whole, ?_, ?_⟩
  · simp [gathered, JobFields.empty, JobBlock.listed, JobBlock.details, List.flatMap_assoc]
  · simp [JobFields.metadata, same, stringifySet]

theorem hostListOfWords_skip {words rest : List Str}
    (silent : ∀ w ∈ words, (splitFirst '=' w).1 ≠ "NodeList".toList) :
    hostListOfWords (words ++ rest) = hostListOfWords rest := by
  induction words with
  | nil => rfl
  | cons w words ih =>
    simp only [List.cons_append, hostListOfWords, if_neg (silent w (by simp))]
    exact ih fun other member => silent other (by simp [member])

theorem silent_keyed {key value : Str} (noEquals : '=' ∉ key) (other : key ≠ "NodeList".toList) :
    (splitFirst '=' (keyed key value)).1 ≠ "NodeList".toList := by
  rwa [splitFirst_keyed value noEquals]

theorem attributes_silent (line : List Attribute) :
    ∀ w ∈ line.map Attribute.text, (splitFirst '=' w).1 ≠ "NodeList".toList := by
  intro w member
  obtain ⟨a, _, rfl⟩ := List.mem_map.mp member
  have ordinary := a.ordinary
  simp only [List.map_cons, List.mem_cons, not_or] at ordinary
  exact ordinary.1

theorem JobLine.silent (line : JobLine) : ∀ w ∈ line.words, (splitFirst '=' w).1 ≠ "NodeList".toList := by
  cases line with
  | attributes line => exact attributes_silent line
  | detail d =>
    intro w member
    simp only [JobLine.words, Detail.words, List.mem_cons, List.mem_append, List.not_mem_nil, or_false] at member
    rcases member with rfl | inBetween | rfl
    · exact silent_keyed (by decide) (by decide)
    · exact attributes_silent d.between w inBetween
    · exact silent_keyed (by decide) (by decide)

theorem getHostList_block (b : JobBlock) : getHostList b.text = .ok b.nodeList := by
  have silent : ∀ w ∈ keyed "JobId".toList b.jobId :: (b.heading.map Attribute.text ++
      b.before.flatMap JobLine.words), (splitFirst '=' w).1 ≠ "NodeList".toList := by
    intro w member
    rcases List.mem_cons.mp member with rfl | inLater
    · exact silent_keyed (by decide) (by decide)
    · rcases List.mem_append.mp inLater with inHeading | inBefore
      · exact attributes_silent b.heading w inHeading
      · obtain ⟨line, _, inLine⟩ := List.mem_flatMap.mp inBefore
        exact line.silent w inLine
  have parts := splitFirst_keyed b.nodeList (show '=' ∉ "NodeList".toList by decide)
  rw [getHostList, jobWords_block, JobBlock.words, ← List.cons_append, hostListOfWords_skip silent]
  simp only [hostListOfWords, parts, if_true, secondPart]

/-! ### The map -/

/-- The job is attributed to the host: its node list is taken to contain it. -/
def JobBlock.Attributed (b : JobBlock) (host : Str) : Prop := hostnameInList host b.nodeList = true

instance (b : JobBlock) (host : Str) : Decidable (b.Attributed host) :=
  inferInstanceAs (Decidable (_ = true))

/-- Where the Python parser accepts the node list, the host is the list itself or is counted in its leading group. -/
theorem JobBlock.attributed_iff {b : JobBlock} {hosts : List Str}
    (accepted : nodelistParser b.nodeList = .ok (some hosts, [])) (host : Hostname) :
    b.Attributed host.chars ↔ b.nodeList = host.chars ∨ Counted b.nodeList host.chars :=
  hostnameInList_iff accepted host

/-- For each job attributed to the host in turn, its metadata under all the
indices it lists. -/
def attributedWrites (host : Str) (blocks : List JobBlock) : List (List Str × SlurmMetadata) :=
  (blocks.filter fun b => decide (b.Attributed host)).map fun b => (b.listed, b.fields.metadata)

theorem attributeJob_block (host : Str) (b : JobBlock) (m : GpuMap) :
    attributeJob host m b.text =
      .ok (if b.Attributed host then writeKeys m b.listed b.fields.metadata else m) := by
  obtain ⟨run, listed, -⟩ := b.collects
  rw [attributeJob, getHostList_block, jobWords_block, run, ← listed]
  by_cases attributed : b.Attributed host
  · rw [if_pos attributed]
    exact if_pos attributed
  · rw [if_neg attributed]
    exact if_neg attributed

theorem attribute_blocks (host : Str) (blocks : List JobBlock) (m : GpuMap) :
    attributeGPU2SlurmMetadata (blocks.map JobBlock.text) host m =
      .ok (writeAll m (attributedWrites host blocks)) := by
  induction blocks generalizing m with
  | nil => rfl
  | cons b blocks ih =>
    rw [List.map_cons, attributeGPU2SlurmMetadata, List.foldlM_cons, attributeJob_block]
    refine (ih _).trans ?_
    by_cases attributed : b.Attributed host
    · have first : attributedWrites host (b :: blocks) =
          (b.listed, b.fields.metadata) :: attributedWrites host blocks := by simp [attributedWrites, attributed]
      rw [if_pos attributed, first]
      rfl
    · have first : attributedWrites host (b :: blocks) = attributedWrites host blocks := by
        simp [attributedWrites, attributed]
      rw [if_neg attributed, first]

/-- An index goes to the last attributed job that lists it. -/
theorem attributed_last {host gpu : Str} (earlier : List JobBlock) {later : List JobBlock} {b : JobBlock}
    (attributed : b.Attributed host) (listed : gpu ∈ b.listed)
    (quiet : ∀ b' ∈ later, b'.Attributed host → gpu ∉ b'.listed) :
    writeAll (fun _ => none) (attributedWrites host (earlier ++ b :: later)) gpu = some b.fields.metadata := by
  have split : attributedWrites host (earlier ++ b :: later) =
      attributedWrites host earlier ++ (b.listed, b.fields.metadata) :: attributedWrites host later := by
    simp [attributedWrites, attributed]
  rw [split]
  refine writeAll_last listed (fun write member => ?_) _
  obtain ⟨b', inLater, rfl⟩ := List.mem_map.mp member
  obtain ⟨inBlocks, attributed'⟩ := List.mem_filter.mp inLater
  exact quiet b' inBlocks (by simpa using attributed')

theorem attributed_none {host gpu : Str} {blocks : List JobBlock}
    (quiet : ∀ b ∈ blocks, b.Attributed host → gpu ∉ b.listed) :
    writeAll (fun _ => none) (attributedWrites host blocks) gpu = none := by
  refine writeAll_quiet (fun write member => ?_) _
  obtain ⟨b, inAttributed, rfl⟩ := List.mem_map.mp member
  obtain ⟨inBlocks, attributed⟩ := List.mem_filter.mp inAttributed
  exact quiet b inBlocks (by simpa using attributed)

/-- The map gives a GPU to a job exactly when the job holds it on the host. -/
def AttributesHeld (host : Str) (blocks : List JobBlock) (gpus : GpuMap) : Prop :=
  ∀ gpu id, (∃ job, gpus gpu = some job ∧ job.JobID = id) ↔ ∃ b ∈ blocks, b.jobId = id ∧ b.Holds host gpu

/-- No two jobs hold one GPU on the host. -/
def Exclusive (host : Str) (blocks : List JobBlock) : Prop :=
  ∀ b ∈ blocks, ∀ b' ∈ blocks, ∀ gpu, b.Holds host gpu → b'.Holds host gpu → b.jobId = b'.jobId

/-- The map is right exactly when every GPU held on the host is listed by an
attributed job, and no job has the last word on a GPU it does not hold there. -/
theorem gpu_attribution_iff (host : Str) (blocks : List JobBlock) (exclusive : Exclusive host blocks) :
    ∃ gpus, attributeGPU2SlurmMetadata (blocks.map JobBlock.text) host (fun _ => none) = .ok gpus ∧
      (AttributesHeld host blocks gpus ↔
        (∀ b ∈ blocks, ∀ gpu, b.Holds host gpu → ∃ b' ∈ blocks, b'.Attributed host ∧ gpu ∈ b'.listed) ∧
        ∀ earlier b later, blocks = earlier ++ b :: later → b.Attributed host → ∀ gpu ∈ b.listed,
          (∀ b' ∈ later, b'.Attributed host → gpu ∉ b'.listed) →
            ∃ b' ∈ blocks, b'.jobId = b.jobId ∧ b'.Holds host gpu) := by
  refine ⟨_, attribute_blocks host blocks _, ?_⟩
  constructor
  · intro held
    constructor
    · intro b inBlocks gpu holds
      obtain ⟨job, found, -⟩ := (held gpu b.jobId).mpr ⟨b, inBlocks, rfl, holds⟩
      by_contra unlisted
      have quiet : ∀ b' ∈ blocks, b'.Attributed host → gpu ∉ b'.listed :=
        fun b' member attributed listed => unlisted ⟨b', member, attributed, listed⟩
      rw [attributed_none quiet] at found
      simp at found
    · rintro earlier b later rfl attributed gpu listed quiet
      exact (held gpu b.jobId).mp ⟨b.fields.metadata, attributed_last earlier attributed listed quiet, b.collects.2.2⟩
  · rintro ⟨found, owned⟩ gpu id
    by_cases lists : ∃ b ∈ blocks, b.Attributed host ∧ gpu ∈ b.listed
    · obtain ⟨earlier, b, later, rfl, ⟨attributed, listed⟩, silent⟩ := exists_last lists
      have quiet : ∀ b' ∈ later, b'.Attributed host → gpu ∉ b'.listed :=
        fun b' member attributed' listed' => silent b' member ⟨attributed', listed'⟩
      obtain ⟨owner, inBlocks, sameId, holds⟩ := owned earlier b later rfl attributed gpu listed quiet
      rw [attributed_last earlier attributed listed quiet]
      constructor
      · rintro ⟨job, found', rfl⟩
        rw [← Option.some.inj found', b.collects.2.2]
        exact ⟨owner, inBlocks, sameId, holds⟩
      · rintro ⟨b', member, rfl, holds'⟩
        refine ⟨_, rfl, ?_⟩
        rw [b.collects.2.2, ← sameId]
        exact exclusive owner inBlocks b' member gpu holds holds'
    · have quiet : ∀ b ∈ blocks, b.Attributed host → gpu ∉ b.listed :=
        fun b member attributed listed => lists ⟨b, member, attributed, listed⟩
      rw [attributed_none quiet]
      refine iff_of_false (by simp) ?_
      rintro ⟨b, member, -, holds⟩
      exact lists (found b member gpu holds)

/-- A detail line with one node and one GPU. -/
def oneGpu (host : Hostname) (gpu : Nat) (fits : (gpu : Int) < maxInt) : JobLine :=
  .detail ⟨[.host host], [], [⟨"gpu:ampere:1".toList, by decide, by decide, [.index gpu fits]⟩]⟩

def node2 : Hostname := ⟨"n2".toList, by decide, by decide, by decide⟩

/-- A job with one GPU of one node. -/
def oneGpuJob (jobId : Str) (solidId : ∀ c ∈ jobId, isGoSpace c = false) (gpu : Nat) (fits : (gpu : Int) < maxInt) :
    JobBlock :=
  ⟨jobId, solidId, [], [], "n1".toList, by decide, [oneGpu node1 gpu fits]⟩

theorem oneGpuJob_holds {jobId : Str} {solidId : ∀ c ∈ jobId, isGoSpace c = false} {gpu : Nat}
    {fits : (gpu : Int) < maxInt} (index : Str) :
    (oneGpuJob jobId solidId gpu fits).Holds "n1".toList index ↔ index = decimal gpu := by
  have details : (oneGpuJob jobId solidId gpu fits).details = [⟨[.host node1], [],
      [⟨"gpu:ampere:1".toList, by decide, by decide, [.index gpu fits]⟩]⟩] := rfl
  simp [JobBlock.Holds, details, node1, NodeExpr.expand, GresGroup.indices, IndexEntry.expand]

theorem oneGpuJob_attributed {jobId : Str} {solidId : ∀ c ∈ jobId, isGoSpace c = false} {gpu : Nat}
    {fits : (gpu : Int) < maxInt} : (oneGpuJob jobId solidId gpu fits).Attributed "n1".toList := by
  show hostnameInList "n1".toList "n1".toList = true
  decide

/-- A job on one node. -/
def localJob : JobBlock := oneGpuJob "7".toList (by decide) 0 (by decide)

/-- Another job on this node. -/
def neighbourJob : JobBlock := oneGpuJob "8".toList (by decide) 1 (by decide)

/-- Two jobs with different GPUs of one node. -/
theorem gpu_attribution_local : Exclusive "n1".toList [localJob, neighbourJob] ∧
    (localJob.Holds "n1".toList "0".toList ∧ neighbourJob.Holds "n1".toList "1".toList) ∧
    ∃ gpus, attributeGPU2SlurmMetadata [localJob.text, neighbourJob.text] "n1".toList (fun _ => none) = .ok gpus ∧
      AttributesHeld "n1".toList [localJob, neighbourJob] gpus := by
  have zero : decimal 0 = "0".toList := by decide
  have one : decimal 1 = "1".toList := by decide
  have local_holds : ∀ gpu, localJob.Holds "n1".toList gpu ↔ gpu = "0".toList := by
    rw [← zero]
    exact oneGpuJob_holds
  have neighbour_holds : ∀ gpu, neighbourJob.Holds "n1".toList gpu ↔ gpu = "1".toList := by
    rw [← one]
    exact oneGpuJob_holds
  have cases : ∀ b ∈ [localJob, neighbourJob], b = localJob ∨ b = neighbourJob := fun b member => by simpa using member
  have exclusive : Exclusive "n1".toList [localJob, neighbourJob] := by
    intro b inBlocks b' inBlocks' gpu holds holds'
    rcases cases b inBlocks with rfl | rfl <;> rcases cases b' inBlocks' with rfl | rfl
    · rfl
    · rw [local_holds] at holds
      rw [neighbour_holds, holds] at holds'
      exact absurd holds' (by decide)
    · rw [neighbour_holds] at holds
      rw [local_holds, holds] at holds'
      exact absurd holds' (by decide)
    · rfl
  obtain ⟨gpus, run, exact_iff⟩ := gpu_attribution_iff "n1".toList [localJob, neighbourJob] exclusive
  have own : ∀ b ∈ [localJob, neighbourJob], b.Attributed "n1".toList ∧
      ∀ gpu, gpu ∈ b.listed ↔ b.Holds "n1".toList gpu := by
    intro b member
    rcases cases b member with rfl | rfl
    · exact ⟨oneGpuJob_attributed, fun gpu => List.mem_singleton.trans (oneGpuJob_holds gpu).symm⟩
    · exact ⟨oneGpuJob_attributed, fun gpu => List.mem_singleton.trans (oneGpuJob_holds gpu).symm⟩
  refine ⟨exclusive, ⟨(local_holds _).mpr rfl, (neighbour_holds _).mpr rfl⟩, gpus, run, exact_iff.mpr ⟨?_, ?_⟩⟩
  · exact fun b inBlocks gpu held => ⟨b, inBlocks, (own b inBlocks).1, ((own b inBlocks).2 gpu).mpr held⟩
  · intro earlier b later split _ gpu inListed _
    have inBlocks : b ∈ [localJob, neighbourJob] := by simp [split]
    exact ⟨b, inBlocks, rfl, ((own b inBlocks).2 gpu).mp inListed⟩

/-- A job with one GPU on each of two nodes. -/
def spreadJob : JobBlock :=
  ⟨"7".toList, by decide, [], [], "n[1-2]".toList, by decide,
    [oneGpu node1 0 (by decide), oneGpu node2 1 (by decide)]⟩

/-- The GPU a job holds on another node is attributed to this one. -/
theorem gpu_attribution_spread :
    spreadJob.text = ("   JobId=7\n   NodeList=n[1-2]\n   Nodes=n1 GRES=gpu:ampere:1(IDX:0)\n" ++
      "   Nodes=n2 GRES=gpu:ampere:1(IDX:1)").toList ∧
    ¬∃ gpus, attributeGPU2SlurmMetadata [spreadJob.text] "n1".toList (fun _ => none) = .ok gpus ∧
      AttributesHeld "n1".toList [spreadJob] gpus := by
  refine ⟨by decide, ?_⟩
  rintro ⟨gpus, run, held⟩
  have runs := attribute_blocks "n1".toList [spreadJob] fun _ => none
  obtain rfl := Except.ok.inj (runs.symm.trans run)
  have attributed : spreadJob.Attributed "n1".toList := by decide
  have listed : "1".toList ∈ spreadJob.listed := by decide
  have found : writeAll (fun _ => none) (attributedWrites "n1".toList [spreadJob]) "1".toList =
      some spreadJob.fields.metadata := attributed_last [] attributed listed (by simp)
  obtain ⟨b, inBlocks, -, holds⟩ := (held "1".toList "7".toList).mp ⟨_, found, spreadJob.collects.2.2⟩
  rw [List.mem_singleton.mp inBlocks] at holds
  revert holds
  unfold JobBlock.Holds
  decide

end GpuTelemetry
