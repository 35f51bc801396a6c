import GpuTelemetry.Nodelist

namespace GpuTelemetry

/-- A non-empty run of decimal digits. -/
structure Numeral where
  chars : Str
  nonempty : chars ≠ []
  digits : ∀ c ∈ chars, c.isDigit = true

def Numeral.value (n : Numeral) : Nat := intOfDigits n.chars

/-- An element of a bracket group: a number, or a range that does not run backwards. -/
inductive RangeElement
  | number (n : Numeral)
  | range (start stop : Numeral) (ordered : start.value ≤ stop.value)

def RangeElement.text : RangeElement → Str
  | .number n => n.chars
  | .range start stop _ => start.chars ++ '-' :: stop.chars

/-- A number stands for itself as written, a range for its numbers padded to
the width its start is written with. -/
def RangeElement.expand : RangeElement → List Str
  | .number n => [n.chars]
  | .range start stop _ =>
    (List.range' start.value (stop.value + 1 - start.value)).map fun i =>
      zfill start.chars.length (decimal i)

/-- A name followed by one bracket group. -/
structure Group where
  name : Str
  hostChars : ∀ c ∈ name, isHostChar c = true
  first : RangeElement
  others : List RangeElement

def Group.bracket (g : Group) : Str :=
  '[' :: (g.first.text ++ (g.others.flatMap (fun e => ',' :: e.text) ++ [']']))

def Group.text (g : Group) : Str := g.name ++ g.bracket

def Group.elements (g : Group) : List Str := g.first.expand ++ g.others.flatMap RangeElement.expand

def Group.expand (g : Group) : List Str := g.elements.map fun suffix => g.name ++ suffix

def groupsText (groups : List Group) : Str := groups.flatMap Group.text

/-- The cartesian product of the groups, the first one varying slowest. -/
def expandGroups : List Group → List Str
  | [] => [[]]
  | g :: groups => g.expand.flatMap fun pre => (expandGroups groups).map fun rest => pre ++ rest

/-- A hostname: alphanumeric at both ends, alphanumerics or hyphens between. -/
structure Hostname where
  chars : Str
  startsAlphanumeric : chars.head?.any Char.isAlphanum = true
  endsAlphanumeric : chars.getLast?.any Char.isAlphanum = true
  hostChars : ∀ c ∈ chars, isHostChar c = true

/-- A node expression as the docstrings describe it. The first name of a range
expression is empty or a hostname prefix. -/
inductive NodeExpr
  | host (h : Hostname)
  | ranges (first : Group) (later : List Group)
      (prefixed : first.name = [] ∨ first.name.head?.any Char.isAlphanum = true)

def NodeExpr.text : NodeExpr → Str
  | .host h => h.chars
  | .ranges first later _ => groupsText (first :: later)

def NodeExpr.expand : NodeExpr → List Str
  | .host h => [h.chars]
  | .ranges first later _ => expandGroups (first :: later)

/-- Hostnames of two characters or more, and range expressions that begin with a name. -/
def NodeExpr.Regular : NodeExpr → Prop
  | .host h => 2 ≤ h.chars.length
  | .ranges first _ _ => first.name ≠ []

def nodelistText (exprs : List NodeExpr) : Str := [','].intercalate (exprs.map NodeExpr.text)

/-! ### Elements of a bracket group -/

theorem restOfLine_of_line {s : Str} (line : '\n' ∉ s) : restOfLine s = some s := by
  have all : s.takeWhile (· ≠ '\n') = s := by
    rw [List.takeWhile_eq_self_iff]
    intro c member
    simpa using fun same : c = '\n' => line (same ▸ member)
  simp only [restOfLine, all, true_or, if_true]

theorem singleNumberPattern_of_run {s run rest : Str} (taken : s.takeWhile Char.isDigit = run)
    (dropped : s.dropWhile Char.isDigit = rest) (nonempty : run ≠ []) (line : '\n' ∉ rest) :
    ∃ zeroes number, singleNumberPattern s = some (zeroes, number, rest) ∧ zeroes ++ number = run := by
  have atLine := restOfLine_of_line line
  by_cases allZero : run.dropWhile (· = '0') = []
  · refine ⟨run.dropLast, ['0'], by simp [singleNumberPattern, taken, dropped, nonempty, atLine, allZero], ?_⟩
    have lastZero : run.getLast nonempty = '0' := by
      have every := List.dropWhile_eq_nil_iff.mp allZero (run.getLast nonempty) (List.getLast_mem nonempty)
      simpa using every
    rw [← lastZero]
    exact List.dropLast_append_getLast nonempty
  · exact ⟨run.takeWhile (· = '0'), run.dropWhile (· = '0'),
      by simp [singleNumberPattern, taken, dropped, nonempty, atLine, allZero], List.takeWhile_append_dropWhile⟩

theorem Numeral.singleNumberPattern_self (n : Numeral) :
    ∃ zeroes number, singleNumberPattern n.chars = some (zeroes, number, []) ∧ zeroes ++ number = n.chars := by
  have ends := takeWhile_run (p := Char.isDigit) [] n.digits (by simp)
  rw [List.append_nil] at ends
  exact singleNumberPattern_of_run ends.1 ends.2 n.nonempty (by simp)

/-- An element is read up to the comma or bracket behind it. -/
theorem rangeExpressionElement_complete (e : RangeElement) {c : Char} {rest : Str}
    (delimiter : c = ',' ∨ c = ']') (line : '\n' ∉ c :: rest) :
    rangeExpressionElement (e.text ++ c :: rest) = .ok (some e.expand, c :: rest) := by
  have notDigit : c.isDigit = false := by rcases delimiter with rfl | rfl <;> rfl
  have notHyphen : c ≠ '-' := by rcases delimiter with rfl | rfl <;> decide
  cases e with
  | number n =>
    obtain ⟨taken, dropped⟩ := takeWhile_run_cons c rest n.digits notDigit
    have noRange : rangePattern (n.chars ++ c :: rest) = none := by
      unfold rangePattern
      rw [dropped]
      split
      · rename_i same
        exact absurd (List.cons.inj same).1 notHyphen
      · rfl
    obtain ⟨zeroes, number, single, whole⟩ := singleNumberPattern_of_run taken dropped n.nonempty line
    simp only [rangeExpressionElement, RangeElement.text, RangeElement.expand, noRange, single, whole]
  | range start stop ordered =>
    obtain ⟨takenStart, droppedStart⟩ :=
      takeWhile_run_cons (p := Char.isDigit) '-' (stop.chars ++ c :: rest) start.digits rfl
    obtain ⟨takenStop, droppedStop⟩ := takeWhile_run_cons c rest stop.digits notDigit
    have range : rangePattern (start.chars ++ '-' :: (stop.chars ++ c :: rest)) =
        some (start.chars, stop.chars, c :: rest) := by
      simp [rangePattern, takenStart, droppedStart, takenStop, droppedStop, start.nonempty, stop.nonempty,
        restOfLine_of_line line]
    obtain ⟨zeroes, number, single, whole⟩ := start.singleNumberPattern_self
    have inOrder : ¬ intOfDigits stop.chars < intOfDigits start.chars := not_lt.mpr ordered
    have width : zeroes.length + number.length = start.chars.length := by rw [← whole, List.length_append]
    simp only [rangeExpressionElement, RangeElement.text, RangeElement.expand, List.append_assoc,
      List.cons_append, range, if_neg inOrder, single, width, paddedRange, Numeral.value]

/-- What the range pattern finds is two numerals with a hyphen between them. -/
theorem rangePattern_sound {s : Str} {found : Str × Str × Str} (line : '\n' ∉ s)
    (pattern : rangePattern s = some found) : ∃ (start stop : Numeral) (rest : Str),
      found = (start.chars, stop.chars, rest) ∧ s = start.chars ++ '-' :: (stop.chars ++ rest) := by
  obtain ⟨whole, within, -⟩ := split_run Char.isDigit s
  unfold rangePattern at pattern
  split at pattern
  · rename_i after dropped
    rw [dropped] at whole
    obtain ⟨wholeAfter, withinAfter, -⟩ := split_run Char.isDigit after
    have lineAfter : '\n' ∉ after := fun member =>
      not_mem_of_append_right (whole ▸ line) (List.mem_cons_of_mem _ member)
    split at pattern
    · simp at pattern
    · rename_i nonempty
      obtain ⟨someStart, someStop⟩ := not_or.mp nonempty
      rw [restOfLine_of_line (not_mem_of_append_right (wholeAfter ▸ lineAfter)), Option.map_some,
        Option.some.injEq] at pattern
      refine ⟨⟨_, someStart, within⟩, ⟨_, someStop, withinAfter⟩, _, pattern.symm, ?_⟩
      rw [← wholeAfter]
      exact whole
  · simp at pattern

/-- What the element parser accepts is the text of an element. -/
theorem rangeExpressionElement_sound {s rest : Str} {parsed : List Str} (line : '\n' ∉ s)
    (run : rangeExpressionElement s = .ok (some parsed, rest)) :
    ∃ e : RangeElement, s = e.text ++ rest ∧ parsed = e.expand := by
  unfold rangeExpressionElement at run
  cases pattern : rangePattern s with
  | none =>
    obtain ⟨whole, within, -⟩ := split_run Char.isDigit s
    have lineRest : '\n' ∉ s.dropWhile Char.isDigit := not_mem_of_append_right (whole ▸ line)
    simp only [pattern] at run
    by_cases empty : s.takeWhile Char.isDigit = []
    · simp [singleNumberPattern, empty] at run
    · obtain ⟨zeroes, number, single, joined⟩ := singleNumberPattern_of_run rfl rfl empty lineRest
      simp only [single, joined, Except.ok.injEq, Prod.mk.injEq, Option.some.injEq] at run
      obtain ⟨rfl, rfl⟩ := run
      exact ⟨.number ⟨_, empty, within⟩, whole, rfl⟩
  | some found =>
    obtain ⟨start, stop, behind, rfl, whole⟩ := rangePattern_sound line pattern
    obtain ⟨zeroes, number, single, joined⟩ := start.singleNumberPattern_self
    have width : zeroes.length + number.length = start.chars.length := by rw [← joined, List.length_append]
    simp only [pattern] at run
    split at run
    · simp at run
    · rename_i ordered
      simp only [single, width, Except.ok.injEq, Prod.mk.injEq, Option.some.injEq] at run
      obtain ⟨rfl, rfl⟩ := run
      refine ⟨.range start stop (not_lt.mp ordered), ?_, rfl⟩
      simpa only [RangeElement.text, List.append_assoc, List.cons_append] using whole

theorem restOfLine_length {s rest : Str} (found : restOfLine s = some rest) : rest.length ≤ s.length := by
  unfold restOfLine at found
  dsimp only at found
  split at found
  · rw [← Option.some.inj found]
    exact (List.takeWhile_prefix _).length_le
  · simp at found

theorem dropWhile_length_lt {p : Char → Bool} {s : Str} (nonempty : s.takeWhile p ≠ []) :
    (s.dropWhile p).length < s.length := by
  have total := congrArg List.length (split_run p s).1
  have positive := List.length_pos_of_ne_nil nonempty
  rw [List.length_append] at total
  omega

theorem singleNumberPattern_length {s zeroes number rest : Str}
    (found : singleNumberPattern s = some (zeroes, number, rest)) : rest.length < s.length := by
  unfold singleNumberPattern at found
  dsimp only at found
  split at found
  · simp at found
  · rename_i nonempty
    obtain ⟨line, atLine, value⟩ := Option.map_eq_some_iff.mp found
    have less := (restOfLine_length atLine).trans_lt (dropWhile_length_lt nonempty)
    split at value <;> simp only [Prod.mk.injEq] at value <;> rw [← value.2.2] <;> exact less

theorem rangePattern_length {s start stop rest : Str}
    (found : rangePattern s = some (start, stop, rest)) : rest.length < s.length := by
  unfold rangePattern at found
  split at found
  · rename_i after dropped
    split at found
    · simp at found
    · rename_i nonempty
      obtain ⟨line, atLine, value⟩ := Option.map_eq_some_iff.mp found
      simp only [Prod.mk.injEq] at value
      have first := dropWhile_length_lt (not_or.mp nonempty).1
      have second := (restOfLine_length atLine).trans_lt (dropWhile_length_lt (not_or.mp nonempty).2)
      rw [dropped, List.length_cons] at first
      rw [← value.2.2]
      omega
  · simp at found

theorem rangeExpressionElement_shortens : Shortens rangeExpressionElement := by
  intro s parsed rest run
  unfold rangeExpressionElement at run
  split at run
  · split at run
    · simp at run
    · rename_i single
      simp only [Except.ok.injEq, Prod.mk.injEq] at run
      rw [← run.2]
      exact singleNumberPattern_length single
  · rename_i range
    split at run
    · simp at run
    · split at run
      · simp at run
      · simp only [Except.ok.injEq, Prod.mk.injEq] at run
        rw [← run.2]
        exact rangePattern_length range

theorem commaElement_shortens : Shortens commaElement := by
  refine chain_shortens (beginsWith_shortens (by decide)).discardResult ?_
  intro p member
  rw [List.mem_singleton.mp member]
  exact rangeExpressionElement_shortens.noLonger

/-! ### Bracket groups -/

/-- The characters of documented node lists, none of which is whitespace. -/
def isNodelistChar (c : Char) : Bool := isHostChar c || c == ',' || c == '[' || c == ']'

theorem isNodelistChar_not_space {c : Char} (listed : isNodelistChar c = true) : isSpace c = false := by
  have codes : (48 ≤ c.toNat ∧ c.toNat ≤ 57) ∨ (65 ≤ c.toNat ∧ c.toNat ≤ 90) ∨
      (97 ≤ c.toNat ∧ c.toNat ≤ 122) ∨ c.toNat = 45 ∨ c.toNat = 44 ∨ c.toNat = 91 ∨ c.toNat = 93 := by
    simp only [isNodelistChar, isHostChar, isAlphanum_codes, Bool.or_eq_true, Bool.and_eq_true, decide_eq_true_eq,
      beq_iff_eq] at listed
    rcases listed with (((((letter | letter) | digit) | rfl) | rfl) | rfl) | rfl
    · exact .inr (.inl ⟨letter.1, letter.2⟩)
    · exact .inr (.inr (.inl ⟨letter.1, letter.2⟩))
    · exact .inl ⟨digit.1, digit.2⟩
    all_goals decide
  simp only [isSpace, List.contains_eq_mem, decide_eq_false_iff_not, List.mem_cons, List.not_mem_nil, or_false]
  omega

theorem isDigit_isHostChar {c : Char} (digit : c.isDigit = true) : isHostChar c = true := by
  simp [isHostChar, Char.isAlphanum, digit]

theorem RangeElement.text_hostChars (e : RangeElement) : ∀ c ∈ e.text, isHostChar c = true := by
  intro c member
  cases e with
  | number n => exact isDigit_isHostChar (n.digits c member)
  | range start stop _ =>
    rcases List.mem_append.mp member with inStart | inStop
    · exact isDigit_isHostChar (start.digits c inStart)
    · rcases List.mem_cons.mp inStop with rfl | inStop
      · rfl
      · exact isDigit_isHostChar (stop.digits c inStop)

/-- The text of the elements after the first one. -/
abbrev laterElements (others : List RangeElement) : Str := others.flatMap fun e => ',' :: e.text

theorem laterElements_head (others : List RangeElement) (rest : Str) :
    ∃ c tail, laterElements others ++ ']' :: rest = c :: tail ∧ (c = ',' ∨ c = ']') := by
  cases others with
  | nil => exact ⟨']', rest, rfl, .inr rfl⟩
  | cons e others =>
    exact ⟨',', e.text ++ (laterElements others ++ ']' :: rest), by simp, .inl rfl⟩

theorem laterElements_chars (others : List RangeElement) : ∀ c ∈ laterElements others, isNodelistChar c = true := by
  intro c member
  obtain ⟨e, _, inText⟩ := List.mem_flatMap.mp member
  rcases List.mem_cons.mp inText with rfl | inText
  · rfl
  · simp [isNodelistChar, e.text_hostChars c inText]

theorem not_newline_of_chars {s : Str} (chars : ∀ c ∈ s, isNodelistChar c = true) : '\n' ∉ s :=
  fun member => absurd (chars _ member) (by decide)

theorem laterElements_line {others : List RangeElement} {rest : Str} (line : '\n' ∉ rest) :
    '\n' ∉ laterElements others ++ ']' :: rest := by
  intro member
  rcases List.mem_append.mp member with inElements | inRest
  · exact not_newline_of_chars (laterElements_chars others) inElements
  · rcases List.mem_cons.mp inRest with impossible | inRest
    · exact absurd impossible (by decide)
    · exact line inRest

theorem commaElement_complete (e : RangeElement) {c : Char} {rest : Str} (delimiter : c = ',' ∨ c = ']')
    (line : '\n' ∉ c :: rest) :
    commaElement (',' :: (e.text ++ c :: rest)) = .ok (some e.expand, c :: rest) := by
  have element := rangeExpressionElement_complete e delimiter line
  rw [commaElement, chain, chainLoop_step (discardResult_char _ _), chainLoop_step element]
  rfl

theorem commaElement_stop (rest : Str) : commaElement (']' :: rest) = .ok (none, ']' :: rest) := by
  have stopped : (discardResult (beginsWith [',']) : Parser Str) (']' :: rest) = .ok (none, ']' :: rest) := by
    simp [discardResult, beginsWith_head_ne]
  rw [commaElement, chain, chainLoop_fail stopped]

theorem commaElement_iterates (others : List RangeElement) {rest : Str} (line : '\n' ∉ rest) :
    Iterates commaElement (laterElements others ++ ']' :: rest) (others.flatMap RangeElement.expand)
      (']' :: rest) := by
  induction others with
  | nil => exact .stop (commaElement_stop rest)
  | cons e others ih =>
    obtain ⟨c, tail, next, delimiter⟩ := laterElements_head others rest
    have lineNext : '\n' ∉ c :: tail := next ▸ laterElements_line line
    have first := commaElement_complete e delimiter lineNext
    rw [← next] at first
    have start : laterElements (e :: others) ++ ']' :: rest =
        ',' :: (e.text ++ (laterElements others ++ ']' :: rest)) := by simp
    rw [start]
    exact .step first ih

theorem rangeExpression_complete (g : Group) {rest : Str} (line : '\n' ∉ rest) :
    rangeExpression (g.bracket ++ rest) = .ok (some g.elements, rest) := by
  obtain ⟨c, tail, next, delimiter⟩ := laterElements_head g.others rest
  have start : g.bracket ++ rest = '[' :: (g.first.text ++ (laterElements g.others ++ ']' :: rest)) := by
    simp [Group.bracket]
  have lineNext : '\n' ∉ c :: tail := next ▸ laterElements_line line
  have first := rangeExpressionElement_complete g.first delimiter lineNext
  rw [← next] at first
  have later := (atLeastZero_iff commaElement_shortens).mpr (commaElement_iterates g.others line)
  rw [start, rangeExpression, chain, chainLoop_step (discardResult_char _ _), chainLoop_step first,
    chainLoop_step later, chainLoop_step (discardResult_char _ _)]
  simp [chainLoop, Group.elements]

/-! ### Names and products of groups -/

theorem Numeral.value_range_ne_nil {start stop : Nat} (ordered : start ≤ stop) :
    List.range' start (stop + 1 - start) ≠ [] := by
  rw [Ne, List.range'_eq_nil_iff]
  omega

theorem RangeElement.expand_ne_nil (e : RangeElement) : e.expand ≠ [] := by
  cases e with
  | number n => simp [RangeElement.expand]
  | range start stop ordered =>
    simpa only [RangeElement.expand, ne_eq, List.map_eq_nil_iff] using Numeral.value_range_ne_nil ordered

theorem Group.elements_ne_nil (g : Group) : g.elements ≠ [] :=
  List.append_ne_nil_of_left_ne_nil g.first.expand_ne_nil _

theorem expandGroups_ne_nil (groups : List Group) : expandGroups groups ≠ [] := by
  induction groups with
  | nil => simp [expandGroups]
  | cons g groups ih =>
    obtain ⟨suffix, suffixes, elements⟩ := List.exists_cons_of_ne_nil g.elements_ne_nil
    obtain ⟨rest, others, later⟩ := List.exists_cons_of_ne_nil ih
    simp [expandGroups, Group.expand, elements, later]

theorem NodeExpr.expand_ne_nil (e : NodeExpr) : e.expand ≠ [] := by
  cases e with
  | host h => simp [NodeExpr.expand]
  | ranges first later _ => exact expandGroups_ne_nil (first :: later)

/-- What the recursion over the later groups returns: nothing at the end of the text. -/
def laterExpansion (groups : List Group) : List Str := if groups = [] then [] else expandGroups groups

theorem product_expand (g : Group) (rest : List Str) :
    ((g.elements.product rest).map fun pair => g.name ++ pair.1 ++ pair.2) =
      g.expand.flatMap fun pre => rest.map fun later => pre ++ later := by
  simp [List.product, Group.expand, List.map_flatMap, List.flatMap_map, Function.comp_def]

theorem combineRest_groups (g : Group) (groups : List Group) (unparsed : Str) :
    combineRest (g.name :: g.elements) (laterExpansion groups) unparsed =
      .ok (some (expandGroups (g :: groups)), unparsed) := by
  cases groups with
  | nil => simp [combineRest, laterExpansion, expandGroups, Group.expand, List.map_eq_flatMap]
  | cons next groups =>
    have nonempty := expandGroups_ne_nil (next :: groups)
    simp only [combineRest, laterExpansion, reduceCtorEq, if_false, if_neg nonempty, product_expand]
    rfl

theorem bracket_chars (g : Group) : ∀ c ∈ g.bracket, isNodelistChar c = true := by
  intro c member
  rcases List.mem_cons.mp member with rfl | member
  · rfl
  rcases List.mem_append.mp member with inFirst | member
  · simp [isNodelistChar, g.first.text_hostChars c inFirst]
  rcases List.mem_append.mp member with inOthers | atEnd
  · exact laterElements_chars g.others c inOthers
  · rw [List.mem_singleton.mp atEnd]
    rfl

theorem groupsText_chars (groups : List Group) : ∀ c ∈ groupsText groups, isNodelistChar c = true := by
  intro c member
  obtain ⟨g, _, inGroup⟩ := List.mem_flatMap.mp member
  rcases List.mem_append.mp inGroup with inName | inBracket
  · simp [isNodelistChar, g.hostChars c inName]
  · exact bracket_chars g c inBracket

theorem groupsText_cons (g : Group) (groups : List Group) :
    groupsText (g :: groups) = g.name ++ (g.bracket ++ groupsText groups) := by
  simp [groupsText, Group.text]

theorem partialHostname_complete (name : Str) {rest : Str} (hostChars : ∀ c ∈ name, isHostChar c = true)
    (line : '\n' ∉ rest) : partialHostname (name ++ '[' :: rest) = .ok (some [name], '[' :: rest) := by
  obtain ⟨taken, dropped⟩ := takeWhile_run_cons '[' rest hostChars rfl
  have lineCons : '\n' ∉ '[' :: rest := by simpa using line
  simp only [partialHostname, taken, dropped, restOfLine_of_line lineCons]

theorem Group.bracket_append (g : Group) (rest : Str) : ∃ inner, g.bracket ++ rest = '[' :: inner :=
  ⟨_, rfl⟩

theorem laterGroup_complete (g : Group) {rest : Str} (line : '\n' ∉ rest) :
    chain partialHostname [rangeExpression] (g.name ++ (g.bracket ++ rest)) =
      .ok (some (g.name :: g.elements), rest) := by
  obtain ⟨inner, bracket⟩ := g.bracket_append rest
  have lineInner : '\n' ∉ g.bracket ++ rest := by
    simp only [List.mem_append, not_or]
    exact ⟨not_newline_of_chars (bracket_chars g), line⟩
  have name := partialHostname_complete g.name g.hostChars
    (fun member => lineInner (bracket ▸ List.mem_cons_of_mem _ member))
  rw [← bracket] at name
  rw [chain, chainLoop_step name, chainLoop_step (rangeExpression_complete g line)]
  rfl

theorem laterGroups_complete (groups : List Group) :
    ∀ fuel, groups.length < fuel → laterGroups fuel (groupsText groups) = .ok (some (laterExpansion groups), []) := by
  induction groups with
  | nil =>
    intro fuel bound
    cases fuel with
    | zero => omega
    | succ fuel => rfl
  | cons g groups ih =>
    intro fuel bound
    cases fuel with
    | zero => omega
    | succ fuel =>
      have line := not_newline_of_chars (groupsText_chars groups)
      have nonempty : groupsText (g :: groups) ≠ [] := by simp [groupsText_cons, Group.bracket]
      have later := ih fuel (by simpa using bound)
      rw [laterGroups, if_neg nonempty, groupsText_cons, laterGroup_complete g line]
      simp only [later, combineRest_groups]
      simp [laterExpansion]

theorem groupsText_length (groups : List Group) : groups.length ≤ (groupsText groups).length := by
  induction groups with
  | nil => simp
  | cons g groups ih =>
    rw [groupsText_cons]
    simp only [Group.bracket, List.length_cons, List.length_append]
    omega

theorem withoutFinalNewline_of_line {s : Str} (line : '\n' ∉ s) : withoutFinalNewline s = s := by
  refine if_neg fun last => line ?_
  exact List.mem_of_getLast? last

theorem not_newline_of_hostChars {s : Str} (hostChars : ∀ c ∈ s, isHostChar c = true) : '\n' ∉ s :=
  fun member => absurd (hostChars _ member) (by decide)

theorem matchesPrefix_iff {s : Str} :
    matchesPrefix s = true ↔ s.head?.any Char.isAlphanum = true ∧ ∀ c ∈ s, isHostChar c = true := by
  simp [matchesPrefix]

/-- Up to its first bracket a range expression is read as the prefix at once. -/
theorem hostnamePrefix_complete {name rest : Str} (hostChars : ∀ c ∈ name, isHostChar c = true)
    (starts : name.head?.any Char.isAlphanum = true) (line : '\n' ∉ rest) :
    hostnamePrefix (name ++ '[' :: rest) = .ok (some [name], '[' :: rest) := by
  have nonempty : name ≠ [] := by
    rintro rfl
    simp at starts
  have notBracket : ∀ c ∈ name, decide (c ≠ '[') = true := by
    intro c member
    have allowed := hostChars c member
    simp only [decide_eq_true_eq]
    rintro rfl
    exact absurd allowed (by decide)
  obtain ⟨taken, dropped⟩ := takeWhile_run_cons '[' rest notBracket (by decide)
  have first : hostnameStartEndChar (name ++ '[' :: rest) = .ok (some [name], '[' :: rest) := by
    have notNil : name ++ '[' :: rest ≠ [] := by simp
    have found : '[' ∈ name ++ '[' :: rest ∧ name ≠ [] := ⟨by simp, nonempty⟩
    have matched : matchesPrefix (withoutFinalNewline name) = true := by
      rw [withoutFinalNewline_of_line (not_newline_of_hostChars hostChars)]
      exact matchesPrefix_iff.mpr ⟨starts, hostChars⟩
    unfold hostnameStartEndChar
    rw [if_neg notNil]
    simp only [taken, dropped]
    rw [if_pos found, if_pos matched]
  have second := partialHostname_complete [] (by simp) line
  rw [List.nil_append] at second
  simp only [hostnamePrefix, chain, chainLoop_step first, chainLoop_step second]
  simp [chainLoop]

theorem nodeRangeExpression_complete {first : Group} {later : List Group}
    (starts : first.name.head?.any Char.isAlphanum = true) :
    nodeRangeExpression (groupsText (first :: later)) = .ok (some (expandGroups (first :: later)), []) := by
  have line := not_newline_of_chars (groupsText_chars later)
  obtain ⟨inner, bracket⟩ := first.bracket_append (groupsText later)
  have lineInner : '\n' ∉ inner := fun member =>
    not_newline_of_chars (groupsText_chars (first :: later)) (by
      rw [groupsText_cons, bracket]
      simp [member])
  have pre := hostnamePrefix_complete first.hostChars starts lineInner
  rw [← bracket] at pre
  have fuel := groupsText_length later
  rw [nodeRangeExpression, groupsText_cons, chain, chainLoop_step pre,
    chainLoop_step (rangeExpression_complete first line)]
  simp only [chainLoop, List.nil_append, List.cons_append,
    laterGroups_complete later ((groupsText later).length + 1) (by omega), combineRest_groups]

theorem Hostname.nonempty (h : Hostname) : h.chars ≠ [] := by
  intro empty
  have starts := h.startsAlphanumeric
  simp [empty] at starts

/-- A hostname runs out before a bracket is found. -/
theorem nodeRangeExpression_host (h : Hostname) :
    nodeRangeExpression h.chars = .ok (none, h.chars) := by
  have noBracket : '[' ∉ h.chars := fun member => absurd (h.hostChars _ member) (by decide)
  obtain ⟨c, rest, chars⟩ := List.exists_cons_of_ne_nil h.nonempty
  have starts : c.isAlphanum = true := by simpa [chars] using h.startsAlphanumeric
  have hostChars : ∀ d ∈ rest, isHostChar d = true := fun d member => h.hostChars d (by simp [chars, member])
  have line := not_newline_of_hostChars hostChars
  rw [chars] at noBracket ⊢
  have first : hostnameStartEndChar (c :: rest) = .ok (some [[c]], rest) := by
    simp [hostnameStartEndChar, noBracket, starts, restOfLine_of_line line]
  have ends := takeWhile_run [] hostChars (by simp)
  rw [List.append_nil] at ends
  have second : partialHostname rest = .ok (some [rest], []) := by
    have atEnd := restOfLine_of_line (s := []) (by simp)
    simp only [partialHostname, ends, atEnd]
  have pre : hostnamePrefix (c :: rest) = .ok (some [c :: rest], []) := by
    simp only [hostnamePrefix, chain, chainLoop_step first, chainLoop_step second]
    simp [chainLoop]
  have none : rangeExpression [] = .ok (none, []) := rfl
  rw [nodeRangeExpression, chain, chainLoop_step pre, chainLoop_fail none]

theorem matchesSingleNode_iff {s : Str} :
    matchesSingleNode s = true ↔ 2 ≤ s.length ∧ s.head?.any Char.isAlphanum = true ∧
      s.getLast?.any Char.isAlphanum = true ∧ ∀ c ∈ s, isHostChar c = true := by
  simp [matchesSingleNode, and_assoc]

theorem singleNode_host (h : Hostname) (long : 2 ≤ h.chars.length) :
    singleNode h.chars = .ok (some [h.chars], []) := by
  have whole := withoutFinalNewline_of_line (not_newline_of_hostChars h.hostChars)
  have matched := matchesSingleNode_iff.mpr ⟨long, h.startsAlphanumeric, h.endsAlphanumeric, h.hostChars⟩
  simp [singleNode, whole, matched]

/-- Each regular node expression is parsed to its expansion, with nothing left over. -/
theorem nodeExpr_complete {e : NodeExpr} (regular : e.Regular) :
    firstOf [nodeRangeExpression, singleNode] e.text = .ok (some e.expand, []) := by
  cases e with
  | host h =>
    simp only [firstOf, NodeExpr.text, nodeRangeExpression_host, singleNode_host h regular, NodeExpr.expand]
  | ranges first later prefixed =>
    have starts := prefixed.resolve_left regular
    simp only [firstOf, NodeExpr.text, nodeRangeExpression_complete starts, NodeExpr.expand]

/-! ### Splitting at outer commas -/

/-- Reading a text moves the loop between two bracket levels without a split. -/
def Passes (level level' : Int) (text : Str) : Prop :=
  ∀ s current, splitOuterCommasLoop (text ++ s) level current = splitOuterCommasLoop s level' (current ++ text)

theorem Passes.append {a b c : Int} {left right : Str} (first : Passes a b left) (second : Passes b c right) :
    Passes a c (left ++ right) := by
  intro s current
  rw [List.append_assoc, first, second, List.append_assoc]

theorem passes_opening (level : Int) : Passes level (level + 1) ['['] := by
  intro s current
  simp [splitOuterCommasLoop]

theorem passes_closing (level : Int) : Passes level (level - 1) [']'] := by
  intro s current
  simp [splitOuterCommasLoop]

theorem passes_hostChars (level : Int) {text : Str} (hostChars : ∀ c ∈ text, isHostChar c = true) :
    Passes level level text := by
  induction text with
  | nil => intro s current; simp
  | cons c text ih =>
    have allowed := hostChars c (by simp)
    have notOpening : c ≠ '[' := by rintro rfl; exact absurd allowed (by decide)
    have notClosing : c ≠ ']' := by rintro rfl; exact absurd allowed (by decide)
    have notComma : c ≠ ',' := by rintro rfl; exact absurd allowed (by decide)
    intro s current
    have later := ih (fun d member => hostChars d (by simp [member])) s (current ++ [c])
    simpa [splitOuterCommasLoop, notOpening, notClosing, notComma] using later

/-- Inside brackets a comma does not split. -/
theorem passes_innerComma {level : Int} (inside : level ≠ 0) : Passes level level [','] := by
  intro s current
  simp [splitOuterCommasLoop, inside]

theorem passes_laterElements {level : Int} (inside : level ≠ 0) (others : List RangeElement) :
    Passes level level (laterElements others) := by
  induction others with
  | nil => intro s current; simp
  | cons e others ih =>
    have element : Passes level level (',' :: e.text) :=
      (passes_innerComma inside).append (passes_hostChars level e.text_hostChars)
    simpa using element.append ih

theorem Group.passes (g : Group) : Passes 0 0 g.text := by
  have inner : Passes 1 1 (g.first.text ++ laterElements g.others) :=
    (passes_hostChars 1 g.first.text_hostChars).append (passes_laterElements (by decide) g.others)
  have bracket : Passes 0 0 (['['] ++ (g.first.text ++ laterElements g.others) ++ [']']) :=
    ((passes_opening 0).append inner).append (passes_closing 1)
  have whole := (passes_hostChars 0 g.hostChars).append bracket
  simpa [Group.text, Group.bracket] using whole

theorem NodeExpr.passes (e : NodeExpr) : Passes 0 0 e.text := by
  cases e with
  | host h => exact passes_hostChars 0 h.hostChars
  | ranges first later _ =>
    have all : ∀ groups : List Group, Passes 0 0 (groupsText groups) := by
      intro groups
      induction groups with
      | nil => intro s current; simp [groupsText]
      | cons g groups ih => simpa [groupsText] using g.passes.append ih
    exact all (first :: later)

theorem NodeExpr.text_chars (e : NodeExpr) : ∀ c ∈ e.text, isNodelistChar c = true := by
  cases e with
  | host h =>
    intro c member
    simp [isNodelistChar, h.hostChars c member]
  | ranges first later _ => exact groupsText_chars (first :: later)

theorem NodeExpr.text_ne_nil (e : NodeExpr) : e.text ≠ [] := by
  cases e with
  | host h => exact h.nonempty
  | ranges first later _ => simp [NodeExpr.text, groupsText_cons, Group.bracket]

theorem NodeExpr.strip_text (e : NodeExpr) : strip e.text = e.text :=
  strip_of_no_space fun c member => isNodelistChar_not_space (e.text_chars c member)

theorem outerParts_nodelistText {exprs : List NodeExpr} (nonempty : exprs ≠ []) :
    outerParts (nodelistText exprs) = exprs.map NodeExpr.text := by
  obtain ⟨e, others, rfl⟩ := List.exists_cons_of_ne_nil nonempty
  unfold outerParts nodelistText
  induction others generalizing e with
  | nil =>
    have one := e.passes [] []
    rw [List.append_nil, List.nil_append] at one
    simp [one, splitOuterCommasLoop, e.strip_text]
  | cons next others ih =>
    have step := e.passes (',' :: [','].intercalate ((next :: others).map NodeExpr.text)) []
    have text : [','].intercalate ((e :: next :: others).map NodeExpr.text) =
        e.text ++ ',' :: [','].intercalate ((next :: others).map NodeExpr.text) := by simp
    have later := ih next (by simp)
    rw [text, step, List.nil_append]
    simp only [splitOuterCommasLoop, Char.reduceEq, if_false, true_and, if_true, e.strip_text, later]
    rfl

theorem splitOuterCommas_nodelistText {exprs : List NodeExpr} (nonempty : exprs ≠ []) :
    splitOuterCommas (nodelistText exprs) = exprs.map NodeExpr.text := by
  rw [splitOuterCommas, outerParts_nodelistText nonempty, List.filter_eq_self]
  intro text member
  obtain ⟨e, _, rfl⟩ := List.mem_map.mp member
  simpa using e.text_ne_nil

/-! ### Node lists -/

theorem nodelistLoop_complete {exprs : List NodeExpr} (regular : ∀ e ∈ exprs, e.Regular) (s : Str)
    (result : List Str) : nodelistLoop s (exprs.map NodeExpr.text) result =
      .ok (some (result ++ exprs.flatMap NodeExpr.expand), []) := by
  induction exprs generalizing result with
  | nil => simp [nodelistLoop]
  | cons e exprs ih =>
    have first := nodeExpr_complete (regular e (by simp))
    have later := ih (fun other member => regular other (by simp [member])) (result ++ e.expand)
    simp only [List.map_cons, nodelistLoop, first, if_true, later, List.flatMap_cons, List.append_assoc]

theorem nodelistText_ne_nil {exprs : List NodeExpr} (nonempty : exprs ≠ []) : nodelistText exprs ≠ [] := by
  intro empty
  have parts := outerParts_nodelistText nonempty
  obtain ⟨e, others, rfl⟩ := List.exists_cons_of_ne_nil nonempty
  rw [empty] at parts
  exact e.text_ne_nil (List.cons.inj parts).1.symm

/-- Every list of regular node expressions is parsed to the concatenation of
their expansions, in order, and nothing is left over. -/
theorem nodelistParser_expands (exprs : List NodeExpr) (nonempty : exprs ≠ [])
    (regular : ∀ e ∈ exprs, e.Regular) :
    nodelistParser (nodelistText exprs) = .ok (some (exprs.flatMap NodeExpr.expand), []) := by
  rw [nodelistParser, if_neg (nodelistText_ne_nil nonempty), splitOuterCommas_nodelistText nonempty,
    nodelistLoop_complete regular, List.nil_append]

def node1 : Hostname := ⟨"n1".toList, by decide, by decide, by decide⟩

/-- The expressions `n1` and `a[08-10][3]`. -/
def sampleExprs : List NodeExpr :=
  [.host node1,
    .ranges
      ⟨"a".toList, by decide, .range ⟨"08".toList, by decide, by decide⟩ ⟨"10".toList, by decide, by decide⟩
        (by decide), []⟩
      [⟨[], by decide, .number ⟨"3".toList, by decide, by decide⟩, []⟩] (by decide)]

theorem nodelistParser_expands_sample :
    nodelistText sampleExprs = "n1,a[08-10][3]".toList ∧
    nodelistParser (nodelistText sampleExprs) =
      .ok (some ["n1".toList, "a083".toList, "a093".toList, "a103".toList], []) :=
  ⟨by decide, nodelistParser_expands sampleExprs (by decide) (by simp [sampleExprs, node1, NodeExpr.Regular])⟩

end GpuTelemetry
