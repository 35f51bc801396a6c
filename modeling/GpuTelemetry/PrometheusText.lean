import GpuTelemetry.Prometheus
import GpuTelemetry.PyStrings

namespace GpuTelemetry

/-! ### The parser -/

def isNameStart (c : Char) : Bool := c.isAlpha || c = '_' || c = ':'

def isNameChar (c : Char) : Bool := c.isAlphanum || c = '_' || c = ':'

/-- The metric name at the start of a line, and what follows it. -/
def metricNameOf (line : Str) : Option (Str × Str) :=
  if line.head?.any isNameStart then some (line.takeWhile isNameChar, line.dropWhile isNameChar) else none

/-- `\s+(\S+)`. -/
def valueAfterSpace (s : Str) : Option Str :=
  if s.takeWhile isSpace = [] then none
  else
    let value := (s.dropWhile isSpace).takeWhile fun c => !isSpace c
    if value = [] then none else some value

/-- A line with labels: its name, the text of the labels and that of the value. -/
def labelledLine (line : Str) : Option (Str × Str × Str) :=
  match metricNameOf line with
  | some (name, '\x7b' :: rest) =>
    match rest.dropWhile fun c => c ≠ '\x7d' with
    | '\x7d' :: after => (valueAfterSpace after).map fun value => (name, rest.takeWhile fun c => c ≠ '\x7d', value)
    | _ => none
  | _ => none

/-- A line without labels. -/
def bareLine (line : Str) : Option (Str × Str × Str) :=
  match metricNameOf line with
  | some (name, rest) => (valueAfterSpace rest).map fun value => (name, [], value)
  | none => none

section

variable (otherWord : Char → Bool)

/-- `\w`. -/
def isWordChar (c : Char) : Bool := if c.toNat < 128 then c.isAlphanum || c = '_' else otherWord c

/-- `(\w+)="([^"]*)"` at the start of a text, and what follows it. -/
def matchLabel (s : Str) : Option ((Str × Str) × Str) :=
  if s.takeWhile (isWordChar otherWord) = [] then none
  else
    match s.dropWhile (isWordChar otherWord) with
    | '=' :: '\x22' :: rest =>
      match rest.dropWhile fun c => c ≠ '\x22' with
      | _ :: after => some ((s.takeWhile (isWordChar otherWord), rest.takeWhile fun c => c ≠ '\x22'), after)
      | [] => none
    | _ => none

/-- `re.finditer` for labels; each match and each step to the next character
makes the text shorter. -/
def findLabels : Nat → Str → List (Str × Str)
  | 0, _ => []
  | fuel + 1, s =>
    match matchLabel otherWord s with
    | some (label, rest) => label :: findLabels fuel rest
    | none =>
      match s with
      | [] => []
      | _ :: s => findLabels fuel s

variable {F : Type} (readFloat : Str → Option F)

/-- The sample of a line. -/
def parseLine (line : Str) : Option (Str × MetricSample F) :=
  let line := strip line
  if line = [] ∨ line.head? = some '#' then none
  else
    match (labelledLine line).or (bareLine line) with
    | none => none
    | some (name, labelsStr, valueStr) =>
      (readFloat valueStr).map fun value => (name,
        dictUpdate [] (findLabels otherWord labelsStr.length labelsStr), value)

/-- `parse`. -/
def parse (text : Str) : MetricSamples F :=
  (splitlines text).foldl (fun result line =>
    match parseLine otherWord readFloat line with
    | none => result
    | some (name, sample) => dictModify name (fun samples => samples.getD [] ++ [sample]) result) []

end

/-! ### The text format -/

structure MetricName where
  chars : Str
  start : chars.head?.any isNameStart = true
  valid : ∀ c ∈ chars, isNameChar c = true

structure LabelName where
  chars : Str
  nonempty : chars ≠ []
  valid : ∀ c ∈ chars, (c.isAlphanum || c = '_') = true

/-- How values are written, and that `float` reads them back. -/
structure ValueFormat (F : Type) where
  render : F → Str
  readFloat : Str → Option F
  nonempty : ∀ value, render value ≠ []
  solid : ∀ value, ∀ c ∈ render value, isSpace c = false
  readFloat_render : ∀ value, readFloat (render value) = some value

/-- A sample with a name; the names of its labels are distinct. -/
structure ExposedSample (F : Type) where
  name : MetricName
  labels : List (LabelName × Str)
  value : F
  distinct : (labels.map fun label => label.1.chars).Nodup

/-- The escapes of a label value. -/
def escapeValue (value : Str) : Str :=
  value.flatMap fun c => if c = '\\' then "\\\\".toList else if c = '\x22' then "\\\"".toList
    else if c = '\n' then "\\n".toList else [c]

def renderLabel (label : LabelName × Str) : Str := label.1.chars ++ "=\"".toList ++ escapeValue label.2 ++ "\"".toList

/-- The line of a sample. -/
def renderSample {F : Type} (format : ValueFormat F) (sample : ExposedSample F) : Str :=
  sample.name.chars ++
    (if sample.labels = [] then []
      else "\x7b".toList ++ ",".toList.intercalate (sample.labels.map renderLabel) ++ "\x7d".toList) ++
    " ".toList ++ format.render sample.value

/-- The text of a list of samples. -/
def renderSamples {F : Type} (format : ValueFormat F) (samples : List (ExposedSample F)) : Str :=
  samples.flatMap fun sample => renderSample format sample ++ "\n".toList

/-- What the parser should return for a sample. -/
def ExposedSample.sample {F : Type} (sample : ExposedSample F) : MetricSample F :=
  (sample.labels.map fun label => (label.1.chars, label.2), sample.value)

/-- The same value under the same labels. -/
def SameSample {F : Type} (a b : MetricSample F) : Prop := (∀ label, dictGet a.1 label = dictGet b.1 label) ∧ a.2 = b.2

/-- Decoding undoes encoding: under each name there are its samples, in order. -/
def Decodes {F : Type} (otherWord : Char → Bool) (format : ValueFormat F) (samples : List (ExposedSample F)) : Prop :=
  ∀ name : Str, List.Forall₂ SameSample
    ((dictGet (parse otherWord format.readFloat (renderSamples format samples)) name).getD [])
    ((samples.filter fun sample => sample.name.chars = name).map ExposedSample.sample)

/-- No brace that closes labels, no quote, no backslash and no end of a line. -/
def PlainValue (value : Str) : Prop :=
  ∀ c ∈ value, c ≠ '\x7d' ∧ c ≠ '\x22' ∧ c ≠ '\\' ∧ isLineBreak c = false

/-! ### What the parser can return -/

section

variable {otherWord : Char → Bool} {F : Type} {readFloat : Str → Option F}

theorem mem_dictUpdate {κ ν : Type} [DecidableEq κ] {d items : List (κ × ν)} {entry : κ × ν}
    (member : entry ∈ dictUpdate d items) : entry ∈ d ∨ entry ∈ items := by
  induction items generalizing d with
  | nil => exact .inl member
  | cons item items ih =>
    have step : dictUpdate d (item :: items) = dictUpdate (dictSet item.1 item.2 d) items := rfl
    rw [step] at member
    rcases ih member with set | later
    · rcases mem_dictModify set with old | ⟨_, -, new⟩
      · exact .inl old
      · exact .inr (by rw [new]; exact List.mem_cons_self)
    · exact .inr (List.mem_cons_of_mem _ later)

theorem mem_matchLabel {s rest : Str} {label : Str × Str} (found : matchLabel otherWord s = some (label, rest)) :
    (∀ c ∈ label.2, c ∈ s ∧ c ≠ '\x22') ∧ rest ⊆ s := by
  unfold matchLabel at found
  split at found
  · cases found
  split at found
  · rename_i value atEquals
    have inside : value ⊆ s := by
      intro c member
      refine (List.dropWhile_sublist (isWordChar otherWord)).subset ?_
      rw [atEquals]
      exact List.mem_cons_of_mem _ (List.mem_cons_of_mem _ member)
    split at found
    · rename_i quote after atQuote
      obtain ⟨rfl, rfl⟩ := Prod.mk.inj (Option.some.inj found)
      refine ⟨fun c member => ⟨inside ((List.takeWhile_sublist _).subset member), ?_⟩, fun c member => ?_⟩
      · simpa using List.mem_takeWhile_imp member
      · have suffix := List.dropWhile_sublist (fun c => decide (c ≠ '\x22')) (l := value)
        rw [atQuote] at suffix
        exact inside (suffix.subset (List.mem_cons_of_mem _ member))
    · cases found
  · cases found

theorem mem_findLabels {fuel : Nat} {s : Str} {label : Str × Str} (found : label ∈ findLabels otherWord fuel s) :
    ∀ c ∈ label.2, c ∈ s ∧ c ≠ '\x22' := by
  induction fuel generalizing s with
  | zero => cases found
  | succ fuel ih =>
    unfold findLabels at found
    split at found
    · rename_i first rest matched
      have known := mem_matchLabel matched
      rcases List.mem_cons.mp found with rfl | later
      · exact known.1
      · intro c member
        have inRest := ih later c member
        exact ⟨known.2 inRest.1, inRest.2⟩
    · cases s with
      | nil => cases found
      | cons d s =>
        intro c member
        have inRest := ih found c member
        exact ⟨List.mem_cons_of_mem _ inRest.1, inRest.2⟩

theorem mem_labelledLine {line : Str} {found : Str × Str × Str} (isFound : labelledLine line = some found) :
    ∀ c ∈ found.2.1, c ∈ line ∧ c ≠ '\x7d' := by
  unfold labelledLine at isFound
  split at isFound
  · rename_i name rest named
    have inside : rest ⊆ line := by
      intro c member
      unfold metricNameOf at named
      split at named
      · have atBrace := (Prod.mk.inj (Option.some.inj named)).2
        refine (List.dropWhile_sublist isNameChar).subset ?_
        rw [atBrace]
        exact List.mem_cons_of_mem _ member
      · cases named
    split at isFound
    · obtain ⟨value, -, rfl⟩ := Option.map_eq_some_iff.mp isFound
      refine fun c member => ⟨inside ((List.takeWhile_sublist _).subset member), ?_⟩
      simpa using List.mem_takeWhile_imp member
    · cases isFound
  · cases isFound

/-- No label value that is returned has a quote, a closing brace or an end of a line. -/
theorem parseLine_labels {line name : Str} {sample : MetricSample F} (unbroken : ∀ c ∈ line, isLineBreak c = false)
    (parsed : parseLine otherWord readFloat line = some (name, sample)) :
    ∀ label ∈ sample.1, ∀ c ∈ label.2, c ≠ '\x7d' ∧ c ≠ '\x22' ∧ isLineBreak c = false := by
  unfold parseLine at parsed
  dsimp only at parsed
  split at parsed
  · cases parsed
  split at parsed
  · cases parsed
  rename_i name' labelsStr valueStr found
  obtain ⟨value, -, same⟩ := Option.map_eq_some_iff.mp parsed
  obtain ⟨rfl, rfl⟩ := Prod.mk.inj same
  intro label member c inValue
  have inLabels : label ∈ findLabels otherWord labelsStr.length labelsStr :=
    (mem_dictUpdate member).resolve_left List.not_mem_nil
  have known := mem_findLabels inLabels c inValue
  have inLine : c ∈ strip line ∧ c ≠ '\x7d' := by
    rcases Option.or_eq_some_iff.mp found with labelled | ⟨-, bare⟩
    · exact mem_labelledLine labelled c known.1
    · unfold bareLine at bare
      split at bare
      · obtain ⟨_, -, same⟩ := Option.map_eq_some_iff.mp bare
        have empty : labelsStr = [] := (Prod.mk.inj (Prod.mk.inj same).2).1.symm
        rw [empty] at known
        exact absurd known.1 List.not_mem_nil
      · cases bare
  exact ⟨inLine.2, known.2, unbroken c (strip_subset line inLine.1)⟩

end

theorem dictGet_parse_step {F : Type} (otherWord : Char → Bool) (readFloat : Str → Option F) (name : Str)
    (lines : List Str) (result : MetricSamples F) :
    (dictGet (lines.foldl (fun result line =>
      match parseLine otherWord readFloat line with
      | none => result
      | some (name, sample) => dictModify name (fun samples => samples.getD [] ++ [sample]) result) result) name).getD
        [] = (dictGet result name).getD [] ++ lines.filterMap fun line =>
          (parseLine otherWord readFloat line).bind fun parsed => if parsed.1 = name then some parsed.2 else none := by
  induction lines generalizing result with
  | nil => simp
  | cons line lines ih =>
    rw [List.foldl_cons, ih, List.filterMap_cons]
    cases parseLine otherWord readFloat line with
    | none => rfl
    | some parsed =>
      obtain ⟨name', sample⟩ := parsed
      have found := lookup_dictModify name' name (fun samples => samples.getD [] ++ [sample]) result
      rw [← dictGet, ← dictGet, ← dictGet] at found
      dsimp only [Option.bind_some]
      rw [found]
      by_cases same : name = name'
      · subst same
        simp
      · rw [if_neg same, if_neg (Ne.symm same)]

/-- The samples under a name come from its lines, in order. -/
theorem dictGet_parse {F : Type} (otherWord : Char → Bool) (readFloat : Str → Option F) (text name : Str) :
    (dictGet (parse otherWord readFloat text) name).getD [] = (splitlines text).filterMap fun line =>
      (parseLine otherWord readFloat line).bind fun parsed => if parsed.1 = name then some parsed.2 else none :=
  dictGet_parse_step otherWord readFloat name (splitlines text) []

/-! ### What it makes of a rendered sample -/

/-- A label value that the parser can return. -/
def ReturnedValue (value : Str) : Prop := ∀ c ∈ value, c ≠ '\x7d' ∧ c ≠ '\x22' ∧ isLineBreak c = false

theorem LabelName.isWord (otherWord : Char → Bool) (name : LabelName) :
    ∀ c ∈ name.chars, isWordChar otherWord c = true := by
  intro c member
  have valid := name.valid c member
  have small : c.toNat < 128 := by
    rcases (Bool.or_eq_true _ _).mp valid with alphanum | underscore
    · exact (isAlphanum_range alphanum).2
    · rw [of_decide_eq_true underscore]
      decide
  rw [isWordChar, if_pos small]
  exact valid

theorem escapeValue_returned {value : Str} (returned : ReturnedValue value) : ReturnedValue (escapeValue value) := by
  intro c member
  obtain ⟨d, inValue, inEscape⟩ := List.mem_flatMap.mp member
  obtain ⟨noBrace, noQuote, noBreak⟩ := returned d inValue
  have notNewline : d ≠ '\n' := fun newline => by rw [newline] at noBreak; exact absurd noBreak (by decide)
  rw [if_neg noQuote, if_neg notNewline] at inEscape
  split at inEscape
  · have backslash : c = '\\' := by simpa using inEscape
    rw [backslash]
    decide
  · obtain rfl := List.mem_singleton.mp inEscape
    exact ⟨noBrace, noQuote, noBreak⟩

theorem matchLabel_render (otherWord : Char → Bool) {label : LabelName × Str} (returned : ReturnedValue label.2)
    (rest : Str) :
    matchLabel otherWord (renderLabel label ++ rest) = some ((label.1.chars, escapeValue label.2), rest) := by
  have shape : renderLabel label ++ rest =
      label.1.chars ++ '=' :: '\x22' :: (escapeValue label.2 ++ '\x22' :: rest) := by
    simp [renderLabel]
  obtain ⟨taken, dropped⟩ := takeWhile_run_cons '=' ('\x22' :: (escapeValue label.2 ++ '\x22' :: rest))
    (label.1.isWord otherWord) (rfl : isWordChar otherWord '=' = false)
  obtain ⟨value, after⟩ := takeWhile_run_cons (p := fun c => decide (c ≠ '\x22')) '\x22' rest
    (fun c member => by simpa using (escapeValue_returned returned c member).2.1) (by decide)
  rw [shape, matchLabel, taken, dropped, if_neg label.1.nonempty]
  simp only [value, after]

/-- The text of the labels, between the braces. -/
def renderLabels (labels : List (LabelName × Str)) : Str := ",".toList.intercalate (labels.map renderLabel)

theorem renderLabels_cons (label : LabelName × Str) (labels : List (LabelName × Str)) :
    renderLabels (label :: labels) =
      renderLabel label ++ if labels = [] then [] else ',' :: renderLabels labels := by
  cases labels with
  | nil => simp [renderLabels]
  | cons next labels => simp [renderLabels, List.intercalate]

theorem findLabels_match {otherWord : Char → Bool} {s rest : Str} {label : Str × Str}
    (matched : matchLabel otherWord s = some (label, rest)) (fuel : Nat) :
    findLabels otherWord (fuel + 1) s = label :: findLabels otherWord fuel rest := by
  rw [findLabels.eq_def]
  simp only [matched]

theorem findLabels_skip {otherWord : Char → Bool} {c : Char} {s : Str}
    (unmatched : matchLabel otherWord (c :: s) = none) (fuel : Nat) :
    findLabels otherWord (fuel + 1) (c :: s) = findLabels otherWord fuel s := by
  rw [findLabels.eq_def]
  simp only [unmatched]

theorem findLabels_render (otherWord : Char → Bool) {labels : List (LabelName × Str)}
    (returned : ∀ label ∈ labels, ReturnedValue label.2) {fuel : Nat} (enough : (renderLabels labels).length ≤ fuel) :
    findLabels otherWord fuel (renderLabels labels) =
      labels.map fun label => (label.1.chars, escapeValue label.2) := by
  have nothing : ∀ fuel, findLabels otherWord fuel [] = [] := by
    intro fuel
    cases fuel <;> rfl
  induction labels generalizing fuel with
  | nil => exact nothing fuel
  | cons label labels ih =>
    have matched := matchLabel_render otherWord (returned label List.mem_cons_self)
    rw [renderLabels_cons] at enough ⊢
    have long : 4 ≤ (renderLabel label).length := by
      have positive := List.length_pos_iff.mpr label.1.nonempty
      simp [renderLabel]
      omega
    rw [List.length_append] at enough
    obtain ⟨fuel, rfl⟩ := Nat.exists_eq_add_of_lt (show 0 < fuel by omega)
    rw [Nat.zero_add, findLabels_match (matched _), List.map_cons]
    refine congrArg _ ?_
    split
    · rename_i none
      rw [none]
      exact nothing fuel
    · rename_i some
      rw [if_neg some, List.length_cons] at enough
      obtain ⟨fuel, rfl⟩ := Nat.exists_eq_add_of_lt (show 0 < fuel by omega)
      have noWord : ¬ isWordChar otherWord ',' = true := Bool.false_ne_true
      have comma : matchLabel otherWord (',' :: renderLabels labels) = none := by
        rw [matchLabel, if_pos (List.takeWhile_cons_of_neg noWord)]
      rw [Nat.zero_add, findLabels_skip comma]
      exact ih (fun label member => returned label (List.mem_cons_of_mem _ member)) (by omega)

theorem MetricName.split (name : MetricName) {c : Char} (ends : isNameChar c = false) (rest : Str) :
    metricNameOf (name.chars ++ c :: rest) = some (name.chars, c :: rest) := by
  have start : (name.chars ++ c :: rest).head?.any isNameStart = true := by
    cases chars : name.chars with
    | nil => have start := name.start; rw [chars] at start; cases start
    | cons first chars => have start := name.start; rw [chars] at start; exact start
  obtain ⟨taken, dropped⟩ := takeWhile_run_cons c rest name.valid ends
  rw [metricNameOf, if_pos start, taken, dropped]

theorem valueAfterSpace_render {F : Type} (format : ValueFormat F) (value : F) :
    valueAfterSpace (' ' :: format.render value) = some (format.render value) := by
  obtain ⟨first, rest, shape⟩ := List.exists_cons_of_ne_nil (format.nonempty value)
  have solid : ∀ c ∈ format.render value, (!isSpace c) = true := by
    intro c member
    rw [format.solid value c member]
    rfl
  have firstSolid : ¬ isSpace first = true := by
    rw [format.solid value first (by rw [shape]; exact List.mem_cons_self)]
    exact Bool.false_ne_true
  have space : isSpace ' ' = true := rfl
  have taken : (' ' :: format.render value).takeWhile isSpace ≠ [] := by
    rw [List.takeWhile_cons_of_pos space]
    exact List.cons_ne_nil _ _
  have dropped : (' ' :: format.render value).dropWhile isSpace = format.render value := by
    rw [List.dropWhile_cons_of_pos space, shape, List.dropWhile_cons_of_neg firstSolid]
  have run : (format.render value).takeWhile (fun c => !isSpace c) = format.render value :=
    List.takeWhile_eq_self_iff.mpr solid
  rw [valueAfterSpace, if_neg taken, dropped]
  simp only [run, if_neg (format.nonempty value)]

theorem isNameChar_solid {c : Char} (name : isNameChar c = true) : isSpace c = false ∧ c ≠ '\x7d' := by
  have range : 48 ≤ c.toNat ∧ c.toNat < 128 := by
    rcases (Bool.or_eq_true _ _).mp name with word | colon
    · rcases (Bool.or_eq_true _ _).mp word with alphanum | underscore
      · exact isAlphanum_range alphanum
      · rw [of_decide_eq_true underscore]
        decide
    · rw [of_decide_eq_true colon]
      decide
  constructor
  · rw [Bool.eq_false_iff]
    intro space
    have outside := isSpace_code space
    omega
  · rintro rfl
    exact absurd name (by decide)

theorem LabelName.isNameChar (name : LabelName) : ∀ c ∈ name.chars, GpuTelemetry.isNameChar c = true :=
  fun c member => (Bool.or_eq_true _ _).mpr (.inl (name.valid c member))

theorem renderLabels_inside {labels : List (LabelName × Str)} (returned : ∀ label ∈ labels, ReturnedValue label.2) :
    ∀ c ∈ renderLabels labels, c ≠ '\x7d' ∧ isLineBreak c = false := by
  have around : ∀ c ∈ "=\"".toList, c ≠ '\x7d' ∧ isLineBreak c = false := by decide
  induction labels with
  | nil => simp [renderLabels]
  | cons label labels ih =>
    intro c member
    rw [renderLabels_cons] at member
    rcases List.mem_append.mp member with inLabel | later
    · simp only [renderLabel, List.mem_append] at inLabel
      rcases inLabel with ((inName | equals) | inValue) | quote
      · have solid := isNameChar_solid (label.1.isNameChar c inName)
        exact ⟨solid.2, not_isLineBreak solid.1⟩
      · exact around c equals
      · have known := escapeValue_returned (returned label List.mem_cons_self) c inValue
        exact ⟨known.1, known.2.2⟩
      · exact around c (List.mem_cons_of_mem _ quote)
    · split at later
      · cases later
      · rcases List.mem_cons.mp later with rfl | inRest
        · decide
        · exact ih (fun label member => returned label (List.mem_cons_of_mem _ member)) c inRest

/-- The sample that the parser makes of a rendered one. -/
def ExposedSample.escaped {F : Type} (sample : ExposedSample F) : MetricSample F :=
  (dictUpdate [] (sample.labels.map fun label => (label.1.chars, escapeValue label.2)), sample.value)

theorem renderSample_ends {F : Type} (format : ValueFormat F) (sample : ExposedSample F) :
    strip (renderSample format sample) = renderSample format sample ∧ renderSample format sample ≠ [] ∧
      (renderSample format sample).head? ≠ some '#' := by
  obtain ⟨first, rest, shape⟩ : ∃ first rest, sample.name.chars = first :: rest := by
    cases chars : sample.name.chars with
    | nil => have start := sample.name.start; rw [chars] at start; cases start
    | cons first rest => exact ⟨first, rest, rfl⟩
  have head : (renderSample format sample).head? = some first := by rw [renderSample, shape]; rfl
  have last : (renderSample format sample).getLast? = (format.render sample.value).getLast? := by
    rw [renderSample, List.getLast?_append_of_ne_nil _ (format.nonempty sample.value)]
  have isName : isNameChar first = true := sample.name.valid first (by rw [shape]; exact List.mem_cons_self)
  refine ⟨strip_of_ends ?_ ?_, ?_, ?_⟩
  · intro c atHead
    obtain rfl : first = c := Option.some.inj (head.symm.trans atHead)
    exact (isNameChar_solid isName).1
  · intro c atLast
    rw [last] at atLast
    exact format.solid sample.value c (List.mem_of_getLast? atLast)
  · intro empty
    rw [empty] at head
    cases head
  · rw [head]
    rintro hash
    rw [Option.some.inj hash] at isName
    exact absurd isName (by decide)

theorem parseLine_renderSample {F : Type} (otherWord : Char → Bool) (format : ValueFormat F) {sample : ExposedSample F}
    (returned : ∀ label ∈ sample.labels, ReturnedValue label.2) :
    parseLine otherWord format.readFloat (renderSample format sample) = some (sample.name.chars, sample.escaped) := by
  obtain ⟨stripped, nonempty, noComment⟩ := renderSample_ends format sample
  rw [parseLine, stripped, if_neg (not_or.mpr ⟨nonempty, noComment⟩)]
  have found : (labelledLine (renderSample format sample)).or (bareLine (renderSample format sample)) =
      some (sample.name.chars, renderLabels sample.labels, format.render sample.value) := by
    by_cases bare : sample.labels = []
    · have shape : renderSample format sample = sample.name.chars ++ ' ' :: format.render sample.value := by
        simp [renderSample, bare]
      have named := sample.name.split (rfl : isNameChar ' ' = false) (format.render sample.value)
      rw [← shape] at named
      have unlabelled : labelledLine (renderSample format sample) = none := by
        rw [labelledLine, named]
        rfl
      rw [unlabelled, bareLine, named, Option.none_or]
      simp only [valueAfterSpace_render, bare]
      rfl
    · have shape : renderSample format sample = sample.name.chars ++
          '\x7b' :: (renderLabels sample.labels ++ '\x7d' :: ' ' :: format.render sample.value) := by
        simp [renderSample, bare, renderLabels]
      have named := sample.name.split (rfl : isNameChar '\x7b' = false)
        (renderLabels sample.labels ++ '\x7d' :: ' ' :: format.render sample.value)
      rw [← shape] at named
      obtain ⟨taken, dropped⟩ := takeWhile_run_cons (p := fun c => decide (c ≠ '\x7d')) '\x7d'
        (' ' :: format.render sample.value) (fun c member => by simpa using (renderLabels_inside returned c member).1)
        (by decide)
      rw [labelledLine, named]
      simp only [taken, dropped, valueAfterSpace_render]
      rfl
  rw [found]
  simp only [format.readFloat_render, Option.map_some, findLabels_render otherWord returned le_rfl]
  rfl

theorem renderSample_unbroken {F : Type} (format : ValueFormat F) {sample : ExposedSample F}
    (returned : ∀ label ∈ sample.labels, ReturnedValue label.2) :
    ∀ c ∈ renderSample format sample, isLineBreak c = false := by
  have marks : ∀ c ∈ "\x7b\x7d ".toList, isLineBreak c = false := by decide
  intro c member
  simp only [renderSample, List.mem_append] at member
  rcases member with ((inName | inLabels) | space) | inValue
  · exact not_isLineBreak (isNameChar_solid (sample.name.valid c inName)).1
  · split at inLabels
    · cases inLabels
    · simp only [List.mem_append] at inLabels
      rcases inLabels with (opened | inside) | closed
      · exact marks c (by simp_all)
      · exact (renderLabels_inside returned c inside).2
      · exact marks c (by simp_all)
  · exact marks c (by simp_all)
  · exact not_isLineBreak (format.solid sample.value c inValue)

/-- What is returned under a name where all label values can be. -/
theorem parse_renderSamples {F : Type} (otherWord : Char → Bool) (format : ValueFormat F)
    {samples : List (ExposedSample F)} (returned : ∀ sample ∈ samples, ∀ label ∈ sample.labels, ReturnedValue label.2)
    (name : Str) :
    (dictGet (parse otherWord format.readFloat (renderSamples format samples)) name).getD [] =
      (samples.filter fun sample => sample.name.chars = name).map ExposedSample.escaped := by
  have lines : splitlines (renderSamples format samples) = samples.map (renderSample format) := by
    have shape : renderSamples format samples =
        (samples.map (renderSample format)).flatMap fun line => line ++ "\n".toList := by
      rw [renderSamples, List.flatMap_map]
    rw [shape]
    refine splitlines_lines fun line member => ?_
    obtain ⟨sample, inSamples, rfl⟩ := List.mem_map.mp member
    exact renderSample_unbroken format (returned sample inSamples)
  rw [dictGet_parse, lines]
  clear lines
  induction samples with
  | nil => rfl
  | cons sample samples ih =>
    have parsed := parseLine_renderSample otherWord format (returned sample List.mem_cons_self)
    have later := ih fun sample member => returned sample (List.mem_cons_of_mem _ member)
    rw [List.map_cons, List.filterMap_cons, parsed, Option.bind_some, later]
    by_cases same : sample.name.chars = name
    · rw [if_pos same, List.filter_cons_of_pos (by simpa using same), List.map_cons]
    · rw [if_neg same, List.filter_cons_of_neg (by simpa using same)]

/-- A value is its own escaped form exactly when it has no backslash. -/
theorem escapeValue_eq_iff {value : Str} (returned : ReturnedValue value) :
    escapeValue value = value ↔ '\\' ∉ value := by
  induction value with
  | nil => simp [escapeValue]
  | cons c value ih =>
    obtain ⟨-, noQuote, noBreak⟩ := returned c List.mem_cons_self
    have notNewline : c ≠ '\n' := fun newline => by rw [newline] at noBreak; exact absurd noBreak (by decide)
    have later := ih fun d member => returned d (List.mem_cons_of_mem _ member)
    have step : escapeValue (c :: value) = (if c = '\\' then "\\\\".toList else [c]) ++ escapeValue value := by
      simp only [escapeValue, List.flatMap_cons, if_neg noQuote, if_neg notNewline]
    have atLeast : ∀ text : Str, text.length ≤ (escapeValue text).length := by
      intro text
      induction text with
      | nil => exact le_rfl
      | cons d text shorter =>
        rw [escapeValue, List.flatMap_cons, List.length_append, List.length_cons, ← escapeValue]
        have one : 1 ≤ (if d = '\\' then "\\\\".toList else if d = '\x22' then "\\\"".toList
            else if d = '\n' then "\\n".toList else [d]).length := by
          split
          · decide
          · split
            · decide
            · split <;> simp
        omega
    rw [step]
    by_cases backslash : c = '\\'
    · rw [if_pos backslash]
      refine iff_of_false (fun same => ?_) (by simp [backslash])
      have long := congrArg List.length same
      have within := atLeast value
      rw [List.length_append, List.length_cons] at long
      have two : "\\\\".toList.length = 2 := rfl
      omega
    · rw [if_neg backslash, List.singleton_append, List.cons_inj_right, later, List.mem_cons, not_or]
      exact (and_iff_right (Ne.symm backslash)).symm

theorem exists_of_forall₂ {α β : Type} {R : α → β → Prop} {as : List α} {bs : List β} (related : List.Forall₂ R as bs)
    {b : β} (member : b ∈ bs) : ∃ a ∈ as, R a b := by
  induction related with
  | nil => cases member
  | @cons a b' as bs here _ ih =>
    rcases List.mem_cons.mp member with rfl | later
    · exact ⟨a, List.mem_cons_self, here⟩
    · obtain ⟨a', inRest, there⟩ := ih later
      exact ⟨a', List.mem_cons_of_mem _ inRest, there⟩

/-- Values that come back are values that the parser can return. -/
theorem Decodes.returned {F : Type} {otherWord : Char → Bool} {format : ValueFormat F}
    {samples : List (ExposedSample F)} (decodes : Decodes otherWord format samples) :
    ∀ sample ∈ samples, ∀ label ∈ sample.labels, ReturnedValue label.2 := by
  intro sample inSamples label inLabels
  have related := decodes sample.name.chars
  rw [dictGet_parse] at related
  have expected : sample.sample ∈ (samples.filter fun other => other.name.chars = sample.name.chars).map
      ExposedSample.sample :=
    List.mem_map_of_mem (List.mem_filter.mpr ⟨inSamples, by simp⟩)
  obtain ⟨parsed, inParsed, sameLabels, -⟩ := exists_of_forall₂ related expected
  obtain ⟨line, inLines, fromLine⟩ := List.mem_filterMap.mp inParsed
  obtain ⟨⟨name, parsed'⟩, parsedLine, same⟩ := Option.bind_eq_some_iff.mp fromLine
  have isParsed : parsed' = parsed := by
    split at same
    · exact Option.some.inj same
    · cases same
  subst isParsed
  have keys : (sample.sample.1.map Prod.fst).Nodup := by
    simpa [ExposedSample.sample, Function.comp_def] using sample.distinct
  have atLabel : dictGet sample.sample.1 label.1.chars = some label.2 :=
    dictGet_of_mem keys (List.mem_map.mpr ⟨label, inLabels, rfl⟩)
  rw [← sameLabels] at atLabel
  exact parseLine_labels (fun c member => (mem_of_mem_splitlines inLines c member).2) parsedLine _
    (mem_of_dictGet atLabel)

/-- A sample comes back as it was exactly when no label value has a backslash. -/
theorem sameSample_escaped_iff {F : Type} {sample : ExposedSample F}
    (returned : ∀ label ∈ sample.labels, ReturnedValue label.2) :
    SameSample sample.escaped sample.sample ↔ ∀ label ∈ sample.labels, '\\' ∉ label.2 := by
  have keys : ∀ f : Str → Str,
      ((sample.labels.map fun label => (label.1.chars, f label.2)).map Prod.fst).Nodup := by
    intro f
    simpa [Function.comp_def] using sample.distinct
  have lookup : ∀ key, dictGet sample.escaped.1 key =
      dictGet (sample.labels.map fun label => (label.1.chars, escapeValue label.2)) key := by
    intro key
    rw [ExposedSample.escaped, dictGet_dictUpdate (keys escapeValue)]
    exact Option.or_none
  have unchanged : SameSample sample.escaped sample.sample ↔
      ∀ label ∈ sample.labels, escapeValue label.2 = label.2 := by
    constructor
    · rintro ⟨sameLabels, -⟩ label member
      have escaped : dictGet sample.escaped.1 label.1.chars = some (escapeValue label.2) := by
        rw [lookup]
        exact dictGet_of_mem (keys escapeValue) (List.mem_map.mpr ⟨label, member, rfl⟩)
      have original : dictGet sample.sample.1 label.1.chars = some label.2 :=
        dictGet_of_mem (keys id) (List.mem_map.mpr ⟨label, member, rfl⟩)
      exact Option.some.inj (escaped.symm.trans ((sameLabels _).trans original))
    · intro same
      refine ⟨fun key => ?_, rfl⟩
      have equal : (sample.labels.map fun label => (label.1.chars, escapeValue label.2)) = sample.sample.1 :=
        List.map_congr_left fun label member => by rw [same label member]
      rw [lookup, equal]
  rw [unchanged]
  exact forall₂_congr fun label member => escapeValue_eq_iff (returned label member)

/-- Decoding undoes encoding exactly when all label values are plain. -/
theorem parse_decodes_iff {F : Type} (otherWord : Char → Bool) (format : ValueFormat F)
    (samples : List (ExposedSample F)) :
    Decodes otherWord format samples ↔ ∀ sample ∈ samples, ∀ label ∈ sample.labels, PlainValue label.2 := by
  have plain_iff : ∀ value, PlainValue value ↔ ReturnedValue value ∧ '\\' ∉ value := by
    intro value
    constructor
    · intro plain
      exact ⟨fun c member => ⟨(plain c member).1, (plain c member).2.1, (plain c member).2.2.2⟩,
        fun member => (plain _ member).2.2.1 rfl⟩
    · rintro ⟨returned, noBackslash⟩ c member
      obtain ⟨noBrace, noQuote, noBreak⟩ := returned c member
      exact ⟨noBrace, noQuote, fun backslash => noBackslash (backslash ▸ member), noBreak⟩
  have onReturned : (∀ sample ∈ samples, ∀ label ∈ sample.labels, ReturnedValue label.2) →
      (Decodes otherWord format samples ↔ ∀ sample ∈ samples, ∀ label ∈ sample.labels, '\\' ∉ label.2) := by
    intro returned
    have related : ∀ name : Str, List.Forall₂ SameSample
        ((dictGet (parse otherWord format.readFloat (renderSamples format samples)) name).getD [])
        ((samples.filter fun sample => sample.name.chars = name).map ExposedSample.sample) ↔
        ∀ sample ∈ samples, sample.name.chars = name → ∀ label ∈ sample.labels, '\\' ∉ label.2 := by
      intro name
      rw [parse_renderSamples otherWord format returned, List.forall₂_map_left_iff, List.forall₂_map_right_iff,
        List.forall₂_same]
      constructor
      · intro same sample member named
        exact (sameSample_escaped_iff (returned sample member)).mp
          (same sample (List.mem_filter.mpr ⟨member, by simpa using named⟩))
      · intro noBackslash sample member
        obtain ⟨inSamples, named⟩ := List.mem_filter.mp member
        exact (sameSample_escaped_iff (returned sample inSamples)).mpr
          (noBackslash sample inSamples (by simpa using named))
    constructor
    · exact fun decodes sample member => (related sample.name.chars).mp (decodes _) sample member rfl
    · exact fun noBackslash name => (related name).mpr fun sample member _ => noBackslash sample member
  constructor
  · intro decodes sample member label inLabels
    exact (plain_iff _).mpr ⟨decodes.returned sample member label inLabels,
      (onReturned decodes.returned).mp decodes sample member label inLabels⟩
  · intro plain
    have returned : ∀ sample ∈ samples, ∀ label ∈ sample.labels, ReturnedValue label.2 :=
      fun sample member label inLabels => ((plain_iff _).mp (plain sample member label inLabels)).1
    exact (onReturned returned).mpr fun sample member label inLabels =>
      ((plain_iff _).mp (plain sample member label inLabels)).2

/-- Natural numbers as their decimal numerals. -/
def decimalFormat : ValueFormat Nat where
  render := decimal
  readFloat text := if text ≠ [] ∧ text.all Char.isDigit then some (intOfDigits text) else none
  nonempty := decimal_ne_nil
  solid value c member := by
    have digit : isNameChar c = true := by
      simp [isNameChar, Char.isAlphanum, decimal_isDigit member]
    exact (isNameChar_solid digit).1
  readFloat_render value := by
    have digits : (decimal value).all Char.isDigit = true := List.all_eq_true.mpr fun c member => decimal_isDigit member
    rw [if_pos ⟨decimal_ne_nil value, digits⟩, intOfDigits_decimal]

/-- A metric with one label and the value 1. -/
def labelledSample (value : Str) : ExposedSample Nat where
  name := ⟨"up".toList, rfl, by decide⟩
  labels := [(⟨"path".toList, by decide, by decide⟩, value)]
  value := 1
  distinct := List.nodup_singleton _

/-- A line with a closing brace in a label value is dropped, and a backslash
comes back doubled. -/
theorem parse_decodesNot :
    (parse (fun _ => false) decimalFormat.readFloat
          (renderSamples decimalFormat [labelledSample "/a\x7d".toList]) = [] ∧
        ¬ Decodes (fun _ => false) decimalFormat [labelledSample "/a\x7d".toList]) ∧
      parse (fun _ => false) decimalFormat.readFloat (renderSamples decimalFormat [labelledSample "C:\\a".toList]) =
          [("up".toList, [([("path".toList, "C:\\\\a".toList)], 1)])] ∧
        ¬ Decodes (fun _ => false) decimalFormat [labelledSample "C:\\a".toList] := by
  refine ⟨⟨rfl, fun decodes => ?_⟩, rfl, fun decodes => ?_⟩
  · have length := (decodes "up".toList).length_eq
    revert length
    decide +kernel
  · have doubled : ∀ parsed ∈ (dictGet (parse (fun _ => false) decimalFormat.readFloat
        (renderSamples decimalFormat [labelledSample "C:\\a".toList])) "up".toList).getD [],
        dictGet parsed.1 "path".toList ≠ some "C:\\a".toList := by decide +kernel
    obtain ⟨parsed, member, same, -⟩ := exists_of_forall₂ (decodes "up".toList) List.mem_cons_self
    exact doubled parsed member (same "path".toList)

end GpuTelemetry
