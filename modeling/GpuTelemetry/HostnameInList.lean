import GpuTelemetry.NodelistNames
import GpuTelemetry.SlurmHelpers

namespace GpuTelemetry

/-! ### Numbers the shelper reads -/

theorem atoi_of_digits {run : Str} (nonempty : run ≠ []) (digits : ∀ c ∈ run, c.isDigit = true)
    (bound : (intOfDigits run : Int) ≤ maxInt) : atoi run = some (intOfDigits run : Int) := by
  obtain ⟨c, rest, rfl⟩ := List.exists_cons_of_ne_nil nonempty
  have unsigned : signAndDigits (c :: rest) = (false, c :: rest) := by
    have digit := digits c (by simp)
    unfold signAndDigits
    split
    · rename_i same
      simp [(List.cons.inj same).1, show Char.isDigit '-' = false by decide] at digit
    · rename_i same
      simp [(List.cons.inj same).1, show Char.isDigit '+' = false by decide] at digit
    · rfl
  have all : (c :: rest).all Char.isDigit = true := List.all_eq_true.mpr digits
  have lower : -maxInt - 1 ≤ (intOfDigits (c :: rest) : Int) := by
    have nonnegative : -maxInt - 1 ≤ 0 := by decide
    omega
  simp only [atoi, unsigned, all, List.cons_ne_nil, Bool.true_eq_false, or_self, if_false, Bool.false_eq_true]
  rw [if_pos ⟨lower, bound⟩]

theorem signAndDigits_digits {run : Str} (digits : ∀ c ∈ run, c.isDigit = true) :
    signAndDigits run = (false, run) := by
  unfold signAndDigits
  split
  · exact absurd (digits '-' List.mem_cons_self) (by decide)
  · exact absurd (digits '+' List.mem_cons_self) (by decide)
  · rfl

theorem atoi_large {run : Str} (digits : ∀ c ∈ run, c.isDigit = true) (large : maxInt < (intOfDigits run : Int)) :
    atoi run = none := by
  simp only [atoi, signAndDigits_digits digits, Bool.false_eq_true, if_false]
  split
  · rfl
  · exact if_neg fun fits => absurd fits.2 (not_le.mpr large)

/-- A text with a bracket is no number. -/
theorem atoi_bracket {t : Str} (bracket : ']' ∈ t) : atoi t = none := by
  have inDigits : ']' ∈ (signAndDigits t).2 := by
    unfold signAndDigits
    split
    · exact List.mem_of_ne_of_mem (by decide) bracket
    · exact List.mem_of_ne_of_mem (by decide) bracket
    · exact bracket
  have notAll : (signAndDigits t).2.all Char.isDigit = false := by
    rw [List.all_eq_false]
    exact ⟨']', inDigits, by decide⟩
  simp [atoi, notAll]

/-! ### The scan of a bracket group -/

/-- The number is one of an element's. -/
def RangeElement.lists : RangeElement → Int → Prop
  | .number n, v => v = n.value
  | .range start stop _, v => start.value ≤ v ∧ v ≤ stop.value

def RangeElement.largest : RangeElement → Nat
  | .number n => n.value
  | .range _ stop _ => stop.value

/-- The numbers of an element fit an `int`. -/
def RangeElement.Fits (e : RangeElement) : Prop := (e.largest : Int) ≤ maxInt

instance decidableFits (e : RangeElement) : Decidable e.Fits :=
  inferInstanceAs (Decidable ((e.largest : Int) ≤ maxInt))

theorem RangeElement.text_no_comma (e : RangeElement) : ',' ∉ e.text :=
  fun member => absurd (e.text_hostChars _ member) (by decide)

theorem Numeral.no_hyphen (n : Numeral) : '-' ∉ n.chars :=
  fun member => absurd (n.digits _ member) (by decide)

/-- The first piece of a split goes on behind a character that is not the separator. -/
theorem splitOn_first_piece {sep c : Char} {front : Str} (absent : sep ∉ front) (other : c ≠ sep) (more : Str) :
    ∃ piece later, (front ++ c :: more).splitOn sep = (front ++ c :: piece) :: later := by
  by_cases separated : sep ∈ more
  · obtain ⟨before, after, rfl, absent'⟩ := List.eq_append_cons_of_mem separated
    have noSeparator : sep ∉ front ++ c :: before := by
      simp only [List.mem_append, List.mem_cons, not_or]
      exact ⟨absent, Ne.symm other, absent'⟩
    refine ⟨before, after.splitOn sep, ?_⟩
    rw [← List.splitOn_append_cons_self_of_not_mem noSeparator, List.append_assoc, List.cons_append]
  · have noSeparator : sep ∉ front ++ c :: more := by
      simp only [List.mem_append, List.mem_cons, not_or]
      exact ⟨absent, Ne.symm other, separated⟩
    exact ⟨more, [], List.splitOn_eq_singleton noSeparator⟩

/-- An element whose numbers fit is compared with, and the scan goes on. -/
theorem hostNumInRanges_fits {e : RangeElement} (fits : e.Fits) (v : Int) (ranges : List Str) :
    hostNumInRanges v (e.text :: ranges) = true ↔ e.lists v ∨ hostNumInRanges v ranges = true := by
  cases e with
  | number n =>
    have number : atoi n.chars = some (n.value : Int) := atoi_of_digits n.nonempty n.digits fits
    simp only [hostNumInRanges, RangeElement.text, n.no_hyphen, if_false, number, Bool.or_eq_true, decide_eq_true_eq,
      RangeElement.lists]
  | range start stop ordered =>
    have numberStop : atoi stop.chars = some (stop.value : Int) := atoi_of_digits stop.nonempty stop.digits fits
    have numberStart : atoi start.chars = some (start.value : Int) :=
      atoi_of_digits start.nonempty start.digits ((Int.ofNat_le.mpr ordered).trans fits)
    have bounds : (start.chars ++ '-' :: stop.chars).splitOn '-' = [start.chars, stop.chars] := by
      rw [List.splitOn_append_cons_self_of_not_mem start.no_hyphen, List.splitOn_eq_singleton stop.no_hyphen]
    have hyphen : '-' ∈ start.chars ++ '-' :: stop.chars := by simp
    simp only [hostNumInRanges, RangeElement.text, hyphen, if_true, bounds, List.getD_cons_zero, List.getD_cons_succ,
      numberStart, numberStop, Bool.or_eq_true, decide_eq_true_eq, RangeElement.lists]

/-- An element with a number that does not fit ends the scan. -/
theorem hostNumInRanges_large {e : RangeElement} (large : ¬e.Fits) (v : Int) (ranges : List Str) :
    hostNumInRanges v (e.text :: ranges) = false := by
  cases e with
  | number n =>
    have number : atoi n.chars = none := atoi_large n.digits (not_le.mp large)
    simp only [hostNumInRanges, RangeElement.text, n.no_hyphen, if_false, number]
  | range start stop ordered =>
    have numberStop : atoi stop.chars = none := atoi_large stop.digits (not_le.mp large)
    have bounds : (start.chars ++ '-' :: stop.chars).splitOn '-' = [start.chars, stop.chars] := by
      rw [List.splitOn_append_cons_self_of_not_mem start.no_hyphen, List.splitOn_eq_singleton stop.no_hyphen]
    have hyphen : '-' ∈ start.chars ++ '-' :: stop.chars := by simp
    simp only [hostNumInRanges, RangeElement.text, hyphen, if_true, bounds, List.getD_cons_zero, List.getD_cons_succ,
      numberStop]
    cases atoi start.chars <;> rfl

/-- So does an element with a closing bracket behind it. -/
theorem hostNumInRanges_closed (e : RangeElement) (more : Str) (v : Int) (ranges : List Str) :
    hostNumInRanges v ((e.text ++ ']' :: more) :: ranges) = false := by
  cases e with
  | number n =>
    have bracket : ∀ rest, atoi (n.chars ++ ']' :: rest) = none := fun rest => atoi_bracket (by simp)
    by_cases hyphen : '-' ∈ n.chars ++ ']' :: more
    · obtain ⟨piece, later, bounds⟩ := splitOn_first_piece (c := ']') n.no_hyphen (by decide) more
      simp only [hostNumInRanges, RangeElement.text, hyphen, if_true, bounds, List.getD_cons_zero, bracket]
    · simp only [hostNumInRanges, RangeElement.text, hyphen, if_false, bracket]
  | range start stop ordered =>
    obtain ⟨piece, later, bounds⟩ := splitOn_first_piece (c := ']') stop.no_hyphen (by decide) more
    have whole : (start.chars ++ '-' :: (stop.chars ++ ']' :: more)).splitOn '-' =
        start.chars :: (stop.chars ++ ']' :: piece) :: later := by
      rw [List.splitOn_append_cons_self_of_not_mem start.no_hyphen, bounds]
    have hyphen : '-' ∈ start.chars ++ '-' :: (stop.chars ++ ']' :: more) := by simp
    have bracket : atoi (stop.chars ++ ']' :: piece) = none := atoi_bracket (by simp)
    simp only [hostNumInRanges, RangeElement.text, List.append_assoc, List.cons_append, hyphen, if_true, whole,
      List.getD_cons_zero, List.getD_cons_succ, bracket]
    cases atoi start.chars <;> rfl

/-- The scan finds a number in the elements up to the first that does not fit. -/
theorem hostNumInRanges_iff (elements : List RangeElement) {v : Int} {others : List Str}
    (stops : hostNumInRanges v others = false) :
    hostNumInRanges v (elements.map RangeElement.text ++ others) = true ↔
      ∃ e ∈ elements.takeWhile fun e => e.Fits, e.lists v := by
  induction elements with
  | nil => simp [stops]
  | cons e elements ih =>
    rw [List.map_cons, List.cons_append]
    by_cases fits : e.Fits
    · rw [hostNumInRanges_fits fits, ih]
      simp [fits]
    · rw [hostNumInRanges_large fits]
      simp [fits]

/-! ### The bracket group the shelper reads -/

def Group.elementList (g : Group) : List RangeElement := g.first :: g.others

/-- A list that begins with a bracket group behind letters and hyphens, and
ends in a bracket. -/
structure LeadingGroup (l : Str) where
  group : Group
  more : Str
  text : l = group.text ++ more
  named : group.name ≠ []
  letters : ∀ c ∈ group.name, isPrefixChar c = true
  line : '\n' ∉ more
  closed : more = [] ∨ more.getLast? = some ']'

/-- The elements of the group that are compared with: not the last one when
there is more behind the group, and none from the first that does not fit on. -/
def LeadingGroup.read {l : Str} (lead : LeadingGroup l) : List RangeElement :=
  (if lead.more = [] then lead.group.elementList else lead.group.elementList.dropLast).takeWhile fun e => e.Fits

/-- The text is the name of the leading group and a number that is read in it. -/
def Counted (l h : Str) : Prop :=
  ∃ (lead : LeadingGroup l) (t : Str) (v : Int),
    h = lead.group.name ++ t ∧ atoi t = some v ∧ ∃ e ∈ lead.read, e.lists v

theorem hostlistPattern_eq_some_iff {l pre ranges : Str} : hostlistPattern l = some (pre, ranges) ↔
    l = pre ++ '[' :: (ranges ++ [']']) ∧ pre ≠ [] ∧ (∀ c ∈ pre, isPrefixChar c = true) ∧ ranges ≠ [] ∧
      '\n' ∉ ranges := by
  constructor
  · intro pattern
    obtain ⟨whole, letters, -⟩ := split_run isPrefixChar l
    unfold hostlistPattern at pattern
    split at pattern
    · rename_i rest dropped
      split at pattern
      · rename_i found
        obtain ⟨named, last, someRange, line⟩ := found
        cases pattern
        have closing := List.dropLast_append_getLast? ']' last
        refine ⟨?_, named, letters, someRange, line⟩
        rw [closing, ← dropped]
        exact whole
      · cases pattern
    · cases pattern
  · rintro ⟨rfl, named, letters, someRange, line⟩
    obtain ⟨taken, dropped⟩ := takeWhile_run_cons '[' (ranges ++ [']']) letters (by decide)
    simp [hostlistPattern, taken, dropped, named, someRange, line]

/-- The texts of the elements, each but the last with its comma. -/
theorem Group.elements_text (g : Group) : ∃ (front : List RangeElement) (last : RangeElement),
    g.elementList = front ++ [last] ∧
      g.bracket = '[' :: (front.flatMap (fun e => e.text ++ [',']) ++ (last.text ++ [']'])) := by
  have general : ∀ (others : List RangeElement) (e : RangeElement), ∃ front last,
      e :: others = front ++ [last] ∧
        e.text ++ laterElements others = front.flatMap (fun e => e.text ++ [',']) ++ last.text := by
    intro others
    induction others with
    | nil => exact fun e => ⟨[], e, rfl, by simp⟩
    | cons next others ih =>
      intro e
      obtain ⟨front, last, list, texts⟩ := ih next
      refine ⟨e :: front, last, by rw [list, List.cons_append], ?_⟩
      rw [List.flatMap_cons, List.append_assoc, ← texts]
      simp
  obtain ⟨front, last, list, texts⟩ := general g.others g.first
  refine ⟨front, last, list, ?_⟩
  rw [Group.bracket, ← List.append_assoc, texts, List.append_assoc]

theorem splitOn_elements (front : List RangeElement) (rest : Str) :
    (front.flatMap (fun e => e.text ++ [',']) ++ rest).splitOn ',' =
      front.map RangeElement.text ++ rest.splitOn ',' := by
  induction front with
  | nil => rfl
  | cons e front ih =>
    rw [List.flatMap_cons, List.append_assoc, List.append_assoc, List.singleton_append,
      List.splitOn_append_cons_self_of_not_mem e.text_no_comma, ih, List.map_cons, List.cons_append]

/-- What the expression finds in a list with a leading group. -/
theorem LeadingGroup.pattern {l : Str} (lead : LeadingGroup l) : ∃ ranges,
    hostlistPattern l = some (lead.group.name, ranges) ∧
      ∀ v, hostNumInRanges v (ranges.splitOn ',') = true ↔ ∃ e ∈ lead.read, e.lists v := by
  obtain ⟨front, last, list, bracket⟩ := lead.group.elements_text
  have line : '\n' ∉ lead.group.bracket := not_newline_of_chars (bracket_chars lead.group)
  have someLast : last.text ≠ [] := by
    cases last with
    | number n => exact n.nonempty
    | range start stop _ => simp [RangeElement.text]
  have noLine : '\n' ∉ front.flatMap (fun e => e.text ++ [',']) ++ last.text := by
    rw [bracket] at line
    intro member
    refine line (List.mem_cons_of_mem _ ?_)
    rw [← List.append_assoc]
    exact List.mem_append_left _ member
  rcases lead.closed with whole | ends
  · refine ⟨front.flatMap (fun e => e.text ++ [',']) ++ last.text, hostlistPattern_eq_some_iff.mpr
      ⟨lead.text.trans ?_, lead.named, lead.letters, by simp [someLast], noLine⟩, fun v => ?_⟩
    · rw [whole, Group.text, bracket]
      simp
    · have texts : front.map RangeElement.text ++ [last.text] = lead.group.elementList.map RangeElement.text ++ [] := by
        rw [list]
        simp
      rw [splitOn_elements, List.splitOn_eq_singleton last.text_no_comma, texts, hostNumInRanges_iff _ rfl,
        LeadingGroup.read, if_pos whole]
  · have closing := List.dropLast_append_getLast? ']' ends
    have someMore : lead.more ≠ [] := by
      intro empty
      simp [empty] at ends
    have innerLine : '\n' ∉ lead.more.dropLast := fun member => lead.line ((List.dropLast_sublist _).subset member)
    generalize lead.more.dropLast = inner at closing innerLine
    obtain ⟨piece, later, split⟩ := splitOn_first_piece (c := ']') last.text_no_comma (by decide) inner
    refine ⟨front.flatMap (fun e => e.text ++ [',']) ++ (last.text ++ ']' :: inner), hostlistPattern_eq_some_iff.mpr
      ⟨lead.text.trans ?_, lead.named, lead.letters, by simp, ?_⟩, fun v => ?_⟩
    · rw [← closing, Group.text, bracket]
      simp
    · rw [← List.append_assoc, List.mem_append, not_or]
      exact ⟨noLine, by simpa using innerLine⟩
    · have fronts : lead.group.elementList.dropLast = front := by rw [list, List.dropLast_concat]
      rw [splitOn_elements, split, hostNumInRanges_iff _ (hostNumInRanges_closed last piece v later),
        LeadingGroup.read, if_neg someMore, fronts]

theorem LeadingGroup.bracket {l : Str} (lead : LeadingGroup l) : '[' ∈ l := by
  rw [lead.text]
  simp [Group.text, Group.bracket]

theorem Group.text_line (g : Group) : '\n' ∉ g.text := by
  rw [Group.text, List.mem_append, not_or]
  exact ⟨not_newline_of_hostChars g.hostChars, not_newline_of_chars (bracket_chars g)⟩

theorem LeadingGroup.text_line {l : Str} (lead : LeadingGroup l) : '\n' ∉ l := by
  rw [lead.text, List.mem_append, not_or]
  exact ⟨lead.group.text_line, lead.line⟩

theorem LeadingGroup.hostnameInList_iff {l : Str} (lead : LeadingGroup l) (h : Str) : hostnameInList h l = true ↔
    ∃ t v, h = lead.group.name ++ t ∧ atoi t = some v ∧ ∃ e ∈ lead.read, e.lists v := by
  obtain ⟨ranges, pattern, scan⟩ := lead.pattern
  simp only [hostnameInList, lead.bracket, not_true_eq_false, if_false, pattern]
  constructor
  · intro contained
    split at contained
    · rename_i isPrefix
      obtain ⟨t, rfl⟩ := List.isPrefixOf_iff_prefix.mp isPrefix
      rw [List.drop_left] at contained
      split at contained
      · cases contained
      · rename_i v number
        exact ⟨t, v, rfl, number, (scan v).mp contained⟩
    · cases contained
  · rintro ⟨t, v, rfl, number, listed⟩
    have isPrefix : lead.group.name.isPrefixOf (lead.group.name ++ t) = true := by simp [List.isPrefixOf_iff_prefix]
    simpa [isPrefix, number] using (scan v).mpr listed

/-- The first part is what stands before the first outer comma, stripped. -/
theorem splitOuterCommasLoop_first (s : Str) (level : Int) (current : Str) :
    ∃ taken others, taken <+: s ∧ splitOuterCommasLoop s level current = strip (current ++ taken) :: others := by
  induction s generalizing level current with
  | nil => exact ⟨[], [], List.prefix_rfl, by simp [splitOuterCommasLoop]⟩
  | cons c s ih =>
    have further : ∀ level', ∃ taken others, taken <+: c :: s ∧
        splitOuterCommasLoop s level' (current ++ [c]) = strip (current ++ taken) :: others := by
      intro level'
      obtain ⟨taken, others, within, loop⟩ := ih level' (current ++ [c])
      exact ⟨c :: taken, others, List.cons_prefix_cons.mpr ⟨rfl, within⟩, by rw [loop, List.append_assoc]; rfl⟩
    unfold splitOuterCommasLoop
    split
    · exact further _
    · split
      · exact further _
      · split
        · exact ⟨[], _, List.nil_prefix, by rw [List.append_nil]⟩
        · exact further _

theorem isHostChar_of_prefixChar {c : Char} (letter : isPrefixChar c = true) : isHostChar c = true := by
  rw [isPrefixChar, Bool.or_eq_true] at letter
  rw [isHostChar, Char.isAlphanum, Bool.or_eq_true, Bool.or_eq_true]
  exact letter.imp_left .inl

/-- The name before the first bracket is determined by the text. -/
theorem name_eq_of_bracket {name name' rest rest' : Str} (hostChars : ∀ c ∈ name, isHostChar c = true)
    (hostChars' : ∀ c ∈ name', isHostChar c = true) (same : name ++ '[' :: rest = name' ++ '[' :: rest') :
    name = name' := by
  have notBracket : ∀ name : Str, (∀ c ∈ name, isHostChar c = true) → ∀ c ∈ name, decide (c ≠ '[') = true := by
    intro name chars c member
    have allowed := chars c member
    rw [decide_eq_true_eq]
    rintro rfl
    exact absurd allowed (by decide)
  have taken := congrArg (List.takeWhile fun c => decide (c ≠ '[')) same
  rwa [(takeWhile_run_cons '[' _ (notBracket name hostChars) (by decide)).1,
    (takeWhile_run_cons '[' _ (notBracket name' hostChars') (by decide)).1] at taken

/-- Behind a name and a bracket a list goes on in the same part. -/
theorem exists_bracketPart {name : Str} (named : name ≠ []) (hostChars : ∀ c ∈ name, isHostChar c = true)
    (rest : Str) :
    ∃ part ∈ splitOuterCommas (name ++ '[' :: rest), part <+: name ++ '[' :: rest ∧ '[' ∈ part := by
  obtain ⟨taken, others, within, loop⟩ := splitOuterCommasLoop_first rest 1 (name ++ ['['])
  have passes := (passes_hostChars 0 hostChars).append (passes_opening 0) rest []
  have whole : outerParts (name ++ '[' :: rest) = strip (name ++ '[' :: taken) :: others := by
    rw [outerParts]
    simpa using passes.trans loop
  have noSpace : (name ++ '[' :: taken).dropWhile isSpace = name ++ '[' :: taken := by
    obtain ⟨c, name, rfl⟩ := List.exists_cons_of_ne_nil named
    have solid := isNodelistChar_not_space (c := c) (by simp [isNodelistChar, hostChars c List.mem_cons_self])
    exact List.dropWhile_cons_of_neg (by simp [solid])
  have partPrefix : strip (name ++ '[' :: taken) <+: name ++ '[' :: taken := by
    rw [strip, noSpace]
    exact List.rdropWhile_prefix _ _
  have bracket : '[' ∈ strip (name ++ '[' :: taken) := mem_strip (by simp) (by decide)
  refine ⟨strip (name ++ '[' :: taken), mem_splitOuterCommas.mpr ⟨?_, List.ne_nil_of_mem bracket⟩, ?_, bracket⟩
  · rw [whole]
    exact List.mem_cons_self
  · exact partPrefix.trans (List.prefix_append_right_inj name |>.mpr (List.cons_prefix_cons.mpr ⟨rfl, within⟩))

/-- An accepted list in which the shelper finds a group begins with a node
expression, whose first group that is. -/
theorem exists_leadingGroup {l pre ranges : Str} {hosts : List Str}
    (accepted : nodelistParser l = .ok (some hosts, [])) (pattern : hostlistPattern l = some (pre, ranges)) :
    Nonempty (LeadingGroup l) := by
  obtain ⟨text, named, letters, someRange, line⟩ := hostlistPattern_eq_some_iff.mp pattern
  have hostChars : ∀ c ∈ pre, isHostChar c = true := fun c member => isHostChar_of_prefixChar (letters c member)
  have textLine : '\n' ∉ l := by
    rw [text]
    simp [not_newline_of_hostChars hostChars, line]
  -- the first part begins with the name and its bracket
  obtain ⟨part, inParts, inText, bracket⟩ := exists_bracketPart named hostChars (ranges ++ [']'])
  rw [← text] at inParts inText
  -- and is a range expression
  obtain ⟨parsed, run, -⟩ := (mem_accepted accepted).1 part inParts
  obtain ⟨e, -, rfl, -, -⟩ := nodeExpr_sound (fun newline => textLine (inText.subset newline)) run
  cases e with
  | host host => exact absurd bracket host.no_bracket
  | ranges first later prefixed =>
    obtain ⟨behind, rest⟩ := inText
    have start : first.name ++ '[' :: ((first.bracket ++ groupsText later ++ behind).tail) =
        pre ++ '[' :: (ranges ++ [']']) := by
      rw [← text, ← rest, NodeExpr.text, groupsText_cons]
      simp [Group.bracket]
    have names : first.name = pre := name_eq_of_bracket first.hostChars hostChars start
    refine ⟨⟨first, groupsText later ++ behind, ?_, names ▸ named, names ▸ letters, ?_, ?_⟩⟩
    · rw [← rest, NodeExpr.text, groupsText_cons, Group.text]
      simp
    · intro newline
      refine textLine ?_
      rw [← rest, NodeExpr.text, groupsText_cons]
      simp only [List.mem_append] at newline ⊢
      tauto
    · rw [or_iff_not_imp_left]
      intro someMore
      have last : l.getLast? = some ']' := by
        rw [text, ← List.cons_append, ← List.append_assoc, List.getLast?_concat]
      rw [← rest, NodeExpr.text, groupsText_cons, ← List.append_assoc, List.append_assoc,
        List.getLast?_append_of_ne_nil _ someMore] at last
      exact last

/-! ### Agreement with the node list parser -/

theorem hostnameInList_plain {h l : Str} (noBracket : '[' ∉ l) (nonempty : l ≠ []) :
    hostnameInList h l = true ↔ l = h := by
  unfold hostnameInList
  rw [if_pos noBracket]
  by_cases empty : h = []
  · simp [empty, nonempty]
  · rw [if_neg empty, beq_iff_eq]

/-- The shelper's answer on a hostname and an accepted list. -/
theorem hostnameInList_iff {l : Str} {hosts : List Str} (accepted : nodelistParser l = .ok (some hosts, []))
    (h : Hostname) : hostnameInList h.chars l = true ↔ l = h.chars ∨ Counted l h.chars := by
  by_cases bracket : '[' ∈ l
  · have other : l ≠ h.chars := fun same => h.no_bracket (same ▸ bracket)
    rw [or_iff_right other]
    constructor
    · intro contained
      cases pattern : hostlistPattern l with
      | none => simp [hostnameInList, bracket, pattern] at contained
      | some found =>
        obtain ⟨pre, ranges⟩ := found
        obtain ⟨lead⟩ := exists_leadingGroup accepted pattern
        exact ⟨lead, (lead.hostnameInList_iff h.chars).mp contained⟩
    · rintro ⟨lead, counted⟩
      exact (lead.hostnameInList_iff h.chars).mpr counted
  · have uncounted : ¬Counted l h.chars := fun ⟨lead, _⟩ => bracket lead.bracket
    rw [or_iff_left uncounted]
    exact hostnameInList_plain bracket (accepted_ne_nil accepted)

theorem splitOuterCommas_host (h : Hostname) : splitOuterCommas h.chars = [h.chars] := by
  have noComma : ',' ∉ h.chars := fun member => absurd (h.hostChars _ member) (by decide)
  have solid : ∀ c ∈ h.chars, isSpace c = false := fun c member =>
    isNodelistChar_not_space (by simp [isNodelistChar, h.hostChars c member])
  simp [splitOuterCommas, outerParts_no_comma noComma, strip_of_no_space solid, h.nonempty]

/-- A single hostname stands for itself. -/
theorem named_host_iff (h : Hostname) (name : Str) : Named h.chars name ↔ name = h.chars := by
  constructor
  · rintro ⟨e, inParts, member⟩
    rw [splitOuterCommas_host, List.mem_singleton] at inParts
    cases e with
    | host host => exact (List.mem_singleton.mp member).trans inParts
    | ranges first later _ =>
      refine absurd ?_ h.no_bracket
      rw [← inParts, NodeExpr.text, groupsText_cons]
      simp [Group.bracket]
  · rintro rfl
    exact ⟨.host h, by rw [splitOuterCommas_host]; exact List.mem_singleton_self _, List.mem_singleton_self _⟩

/-- With a number that is read, the leading group has names of any length. -/
theorem LeadingGroup.counted_longer {l : Str} (lead : LeadingGroup l) {h : Hostname} {t : Str} {v : Int}
    (name : h.chars = lead.group.name ++ t) (listed : ∃ e ∈ lead.read, e.lists v) (fits : v ≤ maxInt) (k : Nat) :
    ∃ h' : Hostname, Counted l h'.chars ∧ k ≤ h'.chars.length := by
  have positive : 0 ≤ v := by
    obtain ⟨e, -, lists⟩ := listed
    cases e with
    | number n =>
      simp only [RangeElement.lists] at lists
      omega
    | range start stop _ =>
      simp only [RangeElement.lists] at lists
      omega
  obtain ⟨n, rfl⟩ : ∃ n : ℕ, v = n := ⟨v.toNat, by omega⟩
  have digits := zfill_isDigits k n
  have length := length_zfill k (decimal n)
  have value : intOfDigits (zfill k (decimal n)) = n := by simp [zfill]
  have someDigit : zfill k (decimal n) ≠ [] := by simp [zfill, decimal_ne_nil]
  have number : atoi (zfill k (decimal n)) = some (n : Int) := by
    have read := atoi_of_digits someDigit digits (by rw [value]; exact fits)
    rwa [value] at read
  generalize zfill k (decimal n) = run at digits length someDigit number
  have starts : (lead.group.name ++ run).head?.any Char.isAlphanum = true := by
    have first := h.startsAlphanumeric
    obtain ⟨c, rest, nameEq⟩ := List.exists_cons_of_ne_nil lead.named
    rw [name, nameEq] at first
    rw [nameEq]
    exact first
  have ends : (lead.group.name ++ run).getLast?.any Char.isAlphanum = true := by
    rw [List.getLast?_append_of_ne_nil _ someDigit, List.getLast?_eq_some_getLast someDigit]
    exact any_isAlphanum_of_digit (digits _ (List.getLast_mem someDigit))
  have hostChars : ∀ c ∈ lead.group.name ++ run, isHostChar c = true := by
    intro c member
    rcases List.mem_append.mp member with inName | inRun
    · exact lead.group.hostChars c inName
    · exact isDigit_isHostChar (digits c inRun)
  refine ⟨⟨lead.group.name ++ run, starts, ends, hostChars⟩, ⟨lead, run, n, rfl, number, listed⟩, ?_⟩
  show k ≤ (lead.group.name ++ run).length
  rw [List.length_append, length]
  omega

theorem atoi_le {t : Str} {v : Int} (number : atoi t = some v) : v ≤ maxInt := by
  simp only [atoi] at number
  split at number
  · cases number
  · rw [Option.ite_none_right_eq_some, Option.some.injEq] at number
    rw [← number.2]
    exact number.1.2

/-- The two readings of a list give the same hostnames exactly when it is one
hostname, or each of its parts has a newline. -/
theorem readings_agree_iff {l : Str} {hosts : List Str} (accepted : nodelistParser l = .ok (some hosts, [])) :
    (∀ h : Hostname, l = h.chars ∨ Counted l h.chars ↔ Named l h.chars) ↔
      (∃ h : Hostname, l = h.chars) ∨ ∀ part ∈ splitOuterCommas l, '\n' ∈ part := by
  constructor
  · intro agree
    rw [or_iff_not_imp_right]
    intro someLine
    push Not at someLine
    obtain ⟨part, inParts, line⟩ := someLine
    obtain ⟨parsed, run, -⟩ := (mem_accepted accepted).1 part inParts
    obtain ⟨e, regular, rfl, -, -⟩ := nodeExpr_sound line run
    obtain ⟨name, names, expand⟩ := List.exists_cons_of_ne_nil e.expand_ne_nil
    have inExpand : name ∈ e.expand := expand ▸ List.mem_cons_self
    obtain ⟨h, rfl⟩ := NodeExpr.expand_hostname regular inExpand
    rcases (agree h).mpr ⟨e, inParts, inExpand⟩ with same | ⟨lead, t, v, nameEq, number, listed⟩
    · exact ⟨h, same⟩
    · obtain ⟨long, counted, length⟩ := lead.counted_longer nameEq listed (atoi_le number) (hosts.flatten.length + 1)
      have inHosts := (mem_hosts_iff accepted long.line).mpr ((agree long).mp (.inr counted))
      have short := (List.sublist_flatten_of_mem inHosts).length_le
      omega
  · rintro (⟨host, rfl⟩ | newlines) h
    · have uncounted : ¬Counted host.chars h.chars := fun ⟨lead, _⟩ => host.no_bracket lead.bracket
      rw [or_iff_left uncounted, named_host_iff]
      exact eq_comm
    · refine iff_of_false ?_ ?_
      · rintro (rfl | ⟨lead, -⟩)
        · exact h.line (newlines h.chars (by rw [splitOuterCommas_host]; exact List.mem_singleton_self _))
        · obtain ⟨part, inOuter, inPart⟩ := mem_outerParts lead.bracket (by decide) (by decide)
          have inParts := mem_splitOuterCommas.mpr ⟨inOuter, List.ne_nil_of_mem inPart⟩
          exact lead.text_line (outerParts_subset inOuter (newlines part inParts))
      · rintro ⟨e, inParts, -⟩
        exact e.text_line (newlines e.text inParts)

/-! ### Lists of one bracket group -/

/-- The width an element pads its numbers to. -/
def RangeElement.width : RangeElement → Nat
  | .number n => n.chars.length
  | .range start _ _ => start.chars.length

/-- An element stands for its numbers, each in digits and padded to its width. -/
theorem RangeElement.mem_expand_iff (e : RangeElement) {t : Str} (someDigit : t ≠ []) : t ∈ e.expand ↔
    (∀ c ∈ t, c.isDigit = true) ∧ e.lists (intOfDigits t) ∧
      t.length = max e.width (decimal (intOfDigits t)).length := by
  cases e with
  | number n =>
    have short : (decimal n.value).length ≤ n.chars.length :=
      (Nat.length_toDigits_le_iff (by decide) (List.length_pos_of_ne_nil n.nonempty)).mpr (intOfDigits_lt n.digits)
    simp only [RangeElement.expand, List.mem_singleton, RangeElement.lists, RangeElement.width, Int.ofNat_inj]
    constructor
    · rintro rfl
      exact ⟨n.digits, rfl, (max_eq_left short).symm⟩
    · rintro ⟨digits, value, length⟩
      rw [value, max_eq_left short] at length
      exact digits_ext digits n.digits length value
  | range start stop ordered =>
    simp only [RangeElement.expand, List.mem_map, List.mem_range'_1, RangeElement.lists, RangeElement.width]
    constructor
    · rintro ⟨i, within, rfl⟩
      have value : intOfDigits (zfill start.chars.length (decimal i)) = i := by simp [zfill]
      rw [value, length_zfill]
      exact ⟨zfill_isDigits _ i, by omega, rfl⟩
    · rintro ⟨digits, within, length⟩
      exact ⟨intOfDigits t, by omega, ((eq_zfill_iff digits rfl).mpr length).symm⟩

/-- Where a number that the group lists is behind its name, it is written in
digits and padded as by an element that lists it. -/
def Group.Padded (g : Group) (h : Str) : Prop :=
  ∀ t v, h = g.name ++ t → atoi t = some v → (∃ e ∈ g.elementList, e.lists v) →
    (∀ c ∈ t, c.isDigit = true) ∧ ∃ e ∈ g.elementList, e.lists v ∧ t.length = max e.width (decimal v.toNat).length

theorem Group.mem_expand_iff (g : Group) (h : Str) : h ∈ g.expand ↔
    ∃ t, h = g.name ++ t ∧ ∃ e ∈ g.elementList, t ∈ e.expand := by
  constructor
  · intro member
    obtain ⟨t, inElements, rfl⟩ := List.mem_map.mp member
    exact ⟨t, rfl, Group.mem_elements.mp inElements⟩
  · rintro ⟨t, rfl, inElements⟩
    exact List.mem_map_of_mem (Group.mem_elements.mpr inElements)

theorem Group.text_ne_nil (g : Group) : g.text ≠ [] := by simp [Group.text, Group.bracket]

/-- The text of a group is one part. -/
theorem splitOuterCommas_group (g : Group) : splitOuterCommas g.text = [g.text] := by
  have solid : strip g.text = g.text := by
    refine strip_of_no_space fun c member => isNodelistChar_not_space ?_
    rcases List.mem_append.mp member with inName | inBracket
    · simp [isNodelistChar, g.hostChars c inName]
    · exact bracket_chars g c inBracket
  have loop := g.passes [] []
  rw [List.append_nil, List.nil_append] at loop
  simp [splitOuterCommas, outerParts, loop, splitOuterCommasLoop, solid, g.text_ne_nil]

/-- A group with the text of a regular expression starts as the names of these do. -/
theorem Group.starts_of_regular {g : Group} (named : g.name ≠ []) {e : NodeExpr} (regular : e.Regular)
    (text : e.text = g.text) : g.name.head?.any Char.isAlphanum = true := by
  cases e with
  | host host =>
    refine absurd ?_ host.no_bracket
    rw [show host.chars = g.text from text]
    simp [Group.text, Group.bracket]
  | ranges first later prefixed =>
    have named' : first.name ≠ [] := regular
    have heads := congrArg List.head? text
    rw [NodeExpr.text, groupsText_cons, Group.text, List.head?_append_of_ne_nil _ named,
      List.head?_append_of_ne_nil _ named'] at heads
    rw [← heads]
    exact prefixed.resolve_left named'

/-- An accepted list of one group stands for what the group does. -/
theorem named_group_iff {g : Group} {hosts : List Str} (named : g.name ≠ [])
    (accepted : nodelistParser g.text = .ok (some hosts, [])) (h : Str) : Named g.text h ↔ h ∈ g.expand := by
  have single : ∀ e : NodeExpr, e.text ∈ splitOuterCommas g.text ↔ e.text = g.text := fun e => by
    rw [splitOuterCommas_group, List.mem_singleton]
  obtain ⟨parsed, run, -⟩ := (mem_accepted accepted).1 g.text (by
    rw [splitOuterCommas_group]
    exact List.mem_singleton_self _)
  obtain ⟨e, regular, text, -, -⟩ := nodeExpr_sound g.text_line run
  have starts := Group.starts_of_regular named regular text.symm
  have whole : (NodeExpr.ranges g [] (.inr starts)).text = g.text := by
    simp [NodeExpr.text, groupsText]
  have complete := nodeExpr_complete (e := .ranges g [] (.inr starts)) named
  have expand : (NodeExpr.ranges g [] (.inr starts)).expand = g.expand := by simp [NodeExpr.expand, expandGroups]
  rw [whole, expand] at complete
  constructor
  · rintro ⟨other, inParts, member⟩
    have sameText := (single other).mp inParts
    have isRegular : other.Regular := by
      rw [other.regular_iff, sameText, text, ← e.regular_iff]
      exact regular
    have same := complete.symm.trans (sameText ▸ nodeExpr_complete isRegular)
    simp only [Except.ok.injEq, Prod.mk.injEq, Option.some.injEq, and_true] at same
    exact same ▸ member
  · intro member
    exact ⟨.ranges g [] (.inr starts), (single _).mpr whole, by rwa [expand]⟩

theorem RangeElement.le_largest (e : RangeElement) {v : Int} (lists : e.lists v) : v ≤ e.largest := by
  cases e with
  | number n => exact le_of_eq lists
  | range start stop _ => exact lists.2

/-- Digits that are read as a number are read as their value. -/
theorem eq_of_atoi {t : Str} {v : Int} (digits : ∀ c ∈ t, c.isDigit = true) (number : atoi t = some v) :
    t ≠ [] ∧ v = intOfDigits t := by
  have someDigit : t ≠ [] := by
    rintro rfl
    simp [atoi, signAndDigits] at number
  refine ⟨someDigit, ?_⟩
  by_cases bound : (intOfDigits t : Int) ≤ maxInt
  · rw [atoi_of_digits someDigit digits bound] at number
    exact (Option.some.inj number).symm
  · rw [atoi_large digits (not_le.mp bound)] at number
    cases number

/-- On a list of one group whose numbers fit, the two agree on a hostname exactly
when its number, if it is listed, is padded. -/
theorem LeadingGroup.agrees_iff {l : Str} {hosts : List Str} (lead : LeadingGroup l) (whole : lead.more = [])
    (fits : ∀ e ∈ lead.group.elementList, e.Fits) (accepted : nodelistParser l = .ok (some hosts, []))
    (h : Hostname) : (hostnameInList h.chars l = true ↔ h.chars ∈ hosts) ↔ lead.group.Padded h.chars := by
  have text : l = lead.group.text := lead.text.trans (by rw [whole, List.append_nil])
  have read : lead.read = lead.group.elementList := by
    rw [LeadingGroup.read, if_pos whole, List.takeWhile_eq_self_iff]
    exact fun e member => decide_eq_true (fits e member)
  have names : Named l h.chars ↔ h.chars ∈ lead.group.expand := by
    have groupAccepted := accepted
    rw [text] at groupAccepted
    have named := named_group_iff lead.named groupAccepted h.chars
    rwa [← text] at named
  rw [lead.hostnameInList_iff, read, mem_hosts_iff accepted h.line, names, Group.mem_expand_iff]
  constructor
  · intro agree t v name number listed
    obtain ⟨t', name', e, inGroup, member⟩ := agree.mp ⟨t, v, name, number, listed⟩
    obtain rfl : t = t' := List.append_cancel_left (name.symm.trans name')
    obtain ⟨someDigit, -⟩ := RangeElement.expand_digits member
    obtain ⟨digits, lists, length⟩ := (e.mem_expand_iff someDigit).mp member
    obtain ⟨-, rfl⟩ := eq_of_atoi digits number
    exact ⟨digits, e, inGroup, lists, length⟩
  · intro padded
    constructor
    · rintro ⟨t, v, name, number, listed⟩
      obtain ⟨digits, e, inGroup, lists, length⟩ := padded t v name number listed
      obtain ⟨someDigit, rfl⟩ := eq_of_atoi digits number
      exact ⟨t, name, e, inGroup, (e.mem_expand_iff someDigit).mpr ⟨digits, lists, length⟩⟩
    · rintro ⟨t, name, e, inGroup, member⟩
      obtain ⟨someDigit, -⟩ := RangeElement.expand_digits member
      obtain ⟨digits, lists, -⟩ := (e.mem_expand_iff someDigit).mp member
      have bound : (intOfDigits t : Int) ≤ maxInt := (e.le_largest lists).trans (fits e inGroup)
      exact ⟨t, intOfDigits t, name, atoi_of_digits someDigit digits bound, e, inGroup, lists⟩

/-- The shelper and the node list parser agree on every hostname of an accepted
list exactly when the list is one hostname, or each of its parts has a newline, as
when it has no part. On one hostname they agree exactly when it is both or neither
of the list itself or a number counted in its leading group, and of the names the
list stands for; in a list of one group whose numbers fit, when its number is padded
as the group pads it. -/
theorem hostnameInList_agrees_iff (l : Str) (hosts : List Str)
    (accepted : nodelistParser l = .ok (some hosts, [])) :
    ((∀ h : Hostname, hostnameInList h.chars l = true ↔ h.chars ∈ hosts) ↔
      (∃ h : Hostname, l = h.chars) ∨ ∀ part ∈ splitOuterCommas l, '\n' ∈ part) ∧
    (∀ h : Hostname, (hostnameInList h.chars l = true ↔ h.chars ∈ hosts) ↔
      (l = h.chars ∨ Counted l h.chars ↔ Named l h.chars)) ∧
    ∀ lead : LeadingGroup l, lead.more = [] → (∀ e ∈ lead.group.elementList, e.Fits) → ∀ h : Hostname,
      (hostnameInList h.chars l = true ↔ h.chars ∈ hosts) ↔ lead.group.Padded h.chars := by
  have readings : ∀ h : Hostname, (hostnameInList h.chars l = true ↔ h.chars ∈ hosts) ↔
      (l = h.chars ∨ Counted l h.chars ↔ Named l h.chars) := by
    intro h
    rw [hostnameInList_iff accepted, mem_hosts_iff accepted h.line]
  refine ⟨?_, readings, fun lead whole fits h => lead.agrees_iff whole fits accepted h⟩
  rw [← readings_agree_iff accepted]
  exact forall_congr' readings

/-- With the group `n[08-10]`, a padded name is found on both sides, one without its zero only by the shelper. -/
theorem hostnameInList_agrees_padded :
    nodelistParser "n[08-10]".toList = .ok (some ["n08".toList, "n09".toList, "n10".toList], []) ∧
      ∃ lead : LeadingGroup "n[08-10]".toList, lead.group.Padded "n08".toList ∧ ¬lead.group.Padded "n8".toList := by
  let group : Group := ⟨"n".toList, by decide, .range ⟨"08".toList, by decide, by decide⟩
    ⟨"10".toList, by decide, by decide⟩ (by decide), []⟩
  let lead : LeadingGroup "n[08-10]".toList := ⟨group, [], by decide, by decide, by decide, by decide, .inl rfl⟩
  have agrees := fun h => (hostnameInList_agrees_iff "n[08-10]".toList
    ["n08".toList, "n09".toList, "n10".toList] (by decide)).2.2 lead rfl (by decide) h
  refine ⟨by decide, lead, (agrees ⟨"n08".toList, by decide, by decide, by decide⟩).mp (by decide), fun padded => ?_⟩
  exact absurd ((agrees ⟨"n8".toList, by decide, by decide, by decide⟩).mpr padded) (by decide)

/-- A digit in the prefix, a comma outside brackets and a zero too few each
separate the two. -/
theorem hostnameInList_disagrees :
    (nodelistParser "h100-193-[039,041]".toList =
        .ok (some ["h100-193-039".toList, "h100-193-041".toList], []) ∧
      hostnameInList "h100-193-039".toList "h100-193-[039,041]".toList = false) ∧
    (nodelistParser "a1,b2".toList = .ok (some ["a1".toList, "b2".toList], []) ∧
      hostnameInList "a1".toList "a1,b2".toList = false) ∧
    (nodelistParser "n[08-10]".toList = .ok (some ["n08".toList, "n09".toList, "n10".toList], []) ∧
      hostnameInList "n8".toList "n[08-10]".toList = true) := by
  decide

end GpuTelemetry
