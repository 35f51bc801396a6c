import GpuTelemetry.PyStrings

/-! Texts cut into words at the characters of a class, and into lines at the
newlines. Nothing here mentions a particular program. -/

namespace GpuTelemetry

variable {p : Char → Bool}

/-- The words between the separators. -/
def wordsBy (p : Char → Bool) (s : Str) : List Str := (s.splitOnP p).filter fun word => word ≠ []

@[simp] theorem wordsBy_nil : wordsBy p [] = [] := by
  rw [wordsBy, List.splitOnP_nil]
  rfl

theorem wordsBy_separator {c : Char} (separates : p c = true) (s : Str) : wordsBy p (c :: s) = wordsBy p s := by
  rw [wordsBy, List.splitOnP_cons_eq_if_modifyHead, if_pos separates, List.filter_cons_of_neg (by simp)]
  rfl

theorem wordsBy_blanks_append {blanks : Str} (blank : ∀ c ∈ blanks, p c = true) (s : Str) :
    wordsBy p (blanks ++ s) = wordsBy p s := by
  induction blanks with
  | nil => rfl
  | cons c blanks ih =>
    rw [List.forall_mem_cons] at blank
    rw [List.cons_append, wordsBy_separator blank.1, ih blank.2]

theorem wordsBy_word {word : Str} (solid : ∀ c ∈ word, p c = false) (nonempty : word ≠ []) :
    wordsBy p word = [word] := by
  rw [wordsBy, List.splitOnP_eq_singleton solid, List.filter_cons_of_pos (by simpa using nonempty)]
  rfl

/-- A word up to the next separator. -/
theorem wordsBy_word_append {word : Str} (solid : ∀ c ∈ word, p c = false) (nonempty : word ≠ []) {c : Char}
    (separates : p c = true) (s : Str) : wordsBy p (word ++ c :: s) = word :: wordsBy p s := by
  rw [wordsBy, List.splitOnP_append_cons_of_forall_mem solid c separates,
    List.filter_cons_of_pos (by simpa using nonempty)]
  rfl

/-- A word, and words that each follow some separators. -/
theorem wordsBy_joined {first : Str} {later : List (Str × Str)} (solid : ∀ c ∈ first, p c = false)
    (nonempty : first ≠ []) (words : ∀ next ∈ later, next.1 ≠ [] ∧ (∀ c ∈ next.1, p c = true) ∧
      next.2 ≠ [] ∧ ∀ c ∈ next.2, p c = false) :
    wordsBy p (first ++ later.flatMap fun next => next.1 ++ next.2) = first :: later.map Prod.snd := by
  induction later generalizing first with
  | nil => simpa using wordsBy_word solid nonempty
  | cons next later ih =>
    obtain ⟨separators, word⟩ := next
    obtain ⟨⟨someBlank, blank, someLetter, letters⟩, rest⟩ := List.forall_mem_cons.mp words
    cases separators with
    | nil => exact absurd rfl someBlank
    | cons c separators =>
      obtain ⟨separates, blanks⟩ := List.forall_mem_cons.mp blank
      rw [List.flatMap_cons, List.append_assoc, List.cons_append, wordsBy_word_append solid nonempty separates,
        wordsBy_blanks_append blanks, ih letters someLetter rest, List.map_cons]

/-- Separators written as another separator leave the words as they are. -/
theorem wordsBy_map {f : Char → Char} {q : Char → Bool} (separates : ∀ c, p (f c) = q c)
    (keeps : ∀ c, q c = false → f c = c) (s : Str) : wordsBy p (s.map f) = wordsBy q s := by
  have parts : (s.map f).splitOnP p = s.splitOnP q := by
    induction s with
    | nil => rfl
    | cons c s ih =>
      rw [List.map_cons, List.splitOnP_cons_eq_if_modifyHead, List.splitOnP_cons_eq_if_modifyHead, separates, ih]
      cases separator : q c with
      | true => rfl
      | false => rw [keeps c separator]
  rw [wordsBy, parts, wordsBy]

theorem mem_of_mem_wordsBy {s word : Str} (member : word ∈ wordsBy p s) : ∀ c ∈ word, c ∈ s ∧ p c = false :=
  mem_of_mem_splitOnP (List.mem_filter.mp member).1

/-- The word of a number, or no text, has only characters of the text. -/
theorem mem_of_mem_getD_wordsBy {s : Str} {i : Nat} {c : Char} (member : c ∈ (wordsBy p s).getD i []) : c ∈ s := by
  rw [List.getD_eq_getElem?_getD] at member
  cases found : (wordsBy p s)[i]? with
  | none => simp [found] at member
  | some word =>
    rw [found] at member
    exact (mem_of_mem_wordsBy (List.mem_of_getElem? found) c member).1

/-- The lines of a text. A newline at its end starts no further line. -/
def unixLines (text : Str) : List Str := dropEmptyLast (text.splitOnP (· = '\n'))

/-- Lines as text, each with its newline. -/
def linesText (lines : List Str) : Str := lines.flatMap fun line => line ++ ['\n']

theorem unixLines_linesText {lines : List Str} (unbroken : ∀ line ∈ lines, '\n' ∉ line) :
    unixLines (linesText lines) = lines := by
  have split : (linesText lines).splitOnP (· = '\n') = lines ++ [[]] :=
    splitOnP_lines (by decide) fun line member c inLine => decide_eq_false fun newline =>
      unbroken line member (newline ▸ inLine)
  rw [unixLines, split, dropEmptyLast_append]

/-- Without white space at the ends, so that nothing is stripped. -/
structure SolidEnds (s : Str) : Prop where
  nonempty : s ≠ []
  head : ∀ c ∈ s.head?, isSpace c = false
  last : ∀ c ∈ s.getLast?, isSpace c = false

theorem SolidEnds.of_solid {s : Str} (nonempty : s ≠ []) (solid : ∀ c ∈ s, isSpace c = false) : SolidEnds s :=
  ⟨nonempty, fun c member => solid c (List.mem_of_mem_head? member),
    fun c member => solid c (List.mem_of_mem_getLast? member)⟩

theorem SolidEnds.around {a b : Str} (first : SolidEnds a) (second : SolidEnds b) (middle : Str) :
    SolidEnds (a ++ (middle ++ b)) where
  nonempty := by simp [first.nonempty]
  head := by
    rw [List.head?_append_of_ne_nil _ first.nonempty]
    exact first.head
  last := by
    rw [← List.append_assoc, List.getLast?_append_of_ne_nil _ second.nonempty]
    exact second.last

/-- A text that starts and ends with a word. -/
theorem SolidEnds.joined {first : Str} {later : List (Str × Str)} (solid : SolidEnds first)
    (words : ∀ next ∈ later, SolidEnds next.2) : SolidEnds (first ++ later.flatMap fun next => next.1 ++ next.2) := by
  induction later generalizing first with
  | nil => simpa using solid
  | cons next later ih =>
    obtain ⟨here, rest⟩ := List.forall_mem_cons.mp words
    rw [List.flatMap_cons, List.append_assoc next.1]
    exact solid.around (ih here rest) next.1

theorem SolidEnds.strip_eq {s : Str} (solid : SolidEnds s) : strip s = s := strip_of_ends solid.head solid.last

theorem SolidEnds.strip_newline {s : Str} (solid : SolidEnds s) : strip (s ++ ['\n']) = s := by
  have left : (s ++ ['\n']).dropWhile isSpace = s ++ ['\n'] := by
    cases s with
    | nil => exact absurd rfl solid.nonempty
    | cons c s => exact List.dropWhile_cons_of_neg (by simp [solid.head c rfl])
  rw [strip, left, List.rdropWhile_concat_pos _ _ _ (by decide), List.rdropWhile_eq_self_iff]
  intro nonempty
  simp [solid.last _ (List.getLast?_eq_some_getLast nonempty)]

/-- Stripped of its last newline, a text is its lines with newlines between them. -/
theorem strip_linesText {lines : List Str} (solid : ∀ line ∈ lines, SolidEnds line) :
    strip (linesText lines) = ['\n'].intercalate lines := by
  have joined : ∀ line rest, (∀ next ∈ line :: rest, SolidEnds next) →
      linesText (line :: rest) = ['\n'].intercalate (line :: rest) ++ ['\n'] ∧
        SolidEnds (['\n'].intercalate (line :: rest)) := by
    intro line rest ends
    induction rest generalizing line with
    | nil => simpa [linesText] using ends
    | cons next rest ih =>
      obtain ⟨here, later⟩ := List.forall_mem_cons.mp ends
      obtain ⟨text, solidText⟩ := ih next later
      have step : linesText (line :: next :: rest) = line ++ ['\n'] ++ linesText (next :: rest) := rfl
      rw [step, text, List.intercalate_cons_cons, List.append_assoc line, List.append_assoc line]
      exact ⟨by simp, here.around solidText ['\n']⟩
  cases lines with
  | nil => rfl
  | cons line rest =>
    obtain ⟨text, solidText⟩ := joined line rest solid
    rw [text, solidText.strip_newline]

end GpuTelemetry
