import GpuTelemetry.NodelistRests
import Mathlib.Data.List.Forall2

namespace GpuTelemetry

/-! ### What any accepted node list consists of -/

/-- An accepted list is the concatenation of what its parts are parsed to. -/
theorem nodelistLoop_ok {s rest : Str} {parts result hosts : List Str}
    (run : nodelistLoop s parts result = .ok (some hosts, rest)) :
    ∃ found : List (List Str), hosts = result ++ found.flatten ∧
      List.Forall₂ (fun part parsed => firstOf [nodeRangeExpression, singleNode] part = .ok (some parsed, []))
        parts found := by
  induction parts generalizing result with
  | nil =>
    simp only [nodelistLoop, Except.ok.injEq, Prod.mk.injEq, Option.some.injEq] at run
    exact ⟨[], by simp [run.1], .nil⟩
  | cons part parts ih =>
    unfold nodelistLoop at run
    split at run
    · simp at run
    · simp at run
    · rename_i parsed leftover atPart
      split at run
      · rename_i whole
        subst whole
        obtain ⟨found, rfl, each⟩ := ih run
        exact ⟨parsed :: found, by simp, .cons atPart each⟩
      · simp at run

theorem exists_related {α β : Type} {R : α → β → Prop} {xs : List α} {ys : List β} (each : List.Forall₂ R xs ys)
    {x : α} (member : x ∈ xs) : ∃ y ∈ ys, R x y := by
  induction each with
  | nil => simp at member
  | @cons x' y xs ys atHead _ ih =>
    rcases List.mem_cons.mp member with rfl | inTail
    · exact ⟨y, by simp, atHead⟩
    · obtain ⟨y', inYs, related⟩ := ih inTail
      exact ⟨y', by simp [inYs], related⟩

theorem accepted_ne_nil {l : Str} {hosts : List Str} (accepted : nodelistParser l = .ok (some hosts, [])) :
    l ≠ [] := by
  rintro rfl
  simp [nodelistParser] at accepted

/-- The hosts of an accepted list are those of its parts. -/
theorem mem_accepted {l : Str} {hosts : List Str} (accepted : nodelistParser l = .ok (some hosts, [])) :
    (∀ part ∈ splitOuterCommas l, ∃ parsed, firstOf [nodeRangeExpression, singleNode] part = .ok (some parsed, []) ∧
      parsed ⊆ hosts) ∧
    ∀ host ∈ hosts, ∃ part ∈ splitOuterCommas l, ∃ parsed,
      firstOf [nodeRangeExpression, singleNode] part = .ok (some parsed, []) ∧ host ∈ parsed := by
  rw [nodelistParser, if_neg (accepted_ne_nil accepted)] at accepted
  obtain ⟨found, rfl, each⟩ := nodelistLoop_ok accepted
  rw [List.nil_append]
  constructor
  · intro part member
    obtain ⟨parsed, inFound, atPart⟩ := exists_related each member
    exact ⟨parsed, atPart, (List.sublist_flatten_of_mem inFound).subset⟩
  · intro host member
    obtain ⟨parsed, inFound, inParsed⟩ := List.mem_flatten.mp member
    obtain ⟨part, inParts, atPart⟩ := exists_related each.flip inFound
    exact ⟨part, inParts, parsed, atPart, inParsed⟩

theorem mem_strip {c : Char} {t : Str} (member : c ∈ t) (solid : isSpace c = false) : c ∈ strip t := by
  have left : c ∈ t.dropWhile isSpace := by
    rw [← List.takeWhile_append_dropWhile (p := isSpace) (l := t)] at member
    refine (List.mem_append.mp member).resolve_left fun inSpace => ?_
    simp [List.mem_takeWhile_imp inSpace] at solid
  rw [strip, List.rdropWhile, List.mem_reverse]
  have right := List.mem_reverse.mpr left
  rw [← List.takeWhile_append_dropWhile (p := isSpace) (l := (t.dropWhile isSpace).reverse)] at right
  refine (List.mem_append.mp right).resolve_left fun inSpace => ?_
  simp [List.mem_takeWhile_imp inSpace] at solid

/-- The characters of the text other than whitespace and commas are in its parts. -/
theorem mem_outerParts {s : Str} {c : Char} (member : c ∈ s) (solid : isSpace c = false) (notComma : c ≠ ',') :
    ∃ part ∈ outerParts s, c ∈ part := by
  have general : ∀ (s : Str) (level : Int) (current : Str), c ∈ current ++ s →
      ∃ part ∈ splitOuterCommasLoop s level current, c ∈ part := by
    intro s
    induction s with
    | nil =>
      intro level current inText
      exact ⟨strip current, by simp [splitOuterCommasLoop], mem_strip (by simpa using inText) solid⟩
    | cons d s ih =>
      intro level current inText
      have moved : c ∈ (current ++ [d]) ++ s := by simpa using inText
      unfold splitOuterCommasLoop
      split
      · exact ih _ _ moved
      · split
        · exact ih _ _ moved
        · split
          · rename_i split
            rcases List.mem_append.mp inText with inCurrent | inLater
            · exact ⟨strip current, by simp, mem_strip inCurrent solid⟩
            · have later : c ∈ [] ++ s := by simpa [split.1, notComma] using inLater
              obtain ⟨part, inParts, inPart⟩ := ih level [] later
              exact ⟨part, by simp [inParts], inPart⟩
          · exact ih _ _ moved
  exact general s 0 [] (by simpa using member)

/-- A part holds only characters of the text. -/
theorem outerParts_subset {s part : Str} (member : part ∈ outerParts s) : part ⊆ s := by
  have general : ∀ (s : Str) (level : Int) (current : Str), part ∈ splitOuterCommasLoop s level current →
      part ⊆ current ++ s := by
    intro s
    induction s with
    | nil =>
      intro level current inParts
      rw [List.mem_singleton.mp inParts, List.append_nil]
      exact strip_subset current
    | cons c s ih =>
      intro level current inParts
      have moved : current ++ c :: s = (current ++ [c]) ++ s := by simp
      unfold splitOuterCommasLoop at inParts
      split at inParts
      · exact moved ▸ ih _ _ inParts
      · split at inParts
        · exact moved ▸ ih _ _ inParts
        · split at inParts
          · rcases List.mem_cons.mp inParts with rfl | inLater
            · exact List.Subset.trans (strip_subset current) (List.subset_append_left _ _)
            · intro d inPart
              have inText := ih _ _ inLater inPart
              simp only [List.nil_append] at inText
              simp [inText]
          · exact moved ▸ ih _ _ inParts
  exact general s 0 [] member

theorem outerParts_no_comma {s : Str} (noComma : ',' ∉ s) : outerParts s = [strip s] := by
  have general : ∀ (s : Str) (level : Int) (current : Str), ',' ∉ s →
      splitOuterCommasLoop s level current = [strip (current ++ s)] := by
    intro s
    induction s with
    | nil => intro level current _; simp [splitOuterCommasLoop]
    | cons c s ih =>
      intro level current absent
      have notComma : c ≠ ',' := fun same => absent (by simp [same])
      have later : ',' ∉ s := fun member => absent (by simp [member])
      simp only [splitOuterCommasLoop, ih _ _ later, notComma, false_and, if_false, List.append_assoc,
        List.singleton_append, ite_self]
  exact general s 0 [] noComma

/-- A part is stripped, and so does not end in a newline. -/
theorem outerParts_last {s part : Str} (member : part ∈ outerParts s) : part.getLast? ≠ some '\n' := by
  have stripped : ∀ t : Str, (strip t).getLast? ≠ some '\n' := by
    intro t last
    have nonempty : strip t ≠ [] := fun empty => by simp [empty] at last
    have solid : ¬isSpace ((strip t).getLast nonempty) = true := List.rdropWhile_last_not isSpace _ nonempty
    rw [List.getLast?_eq_some_getLast nonempty, Option.some.injEq] at last
    rw [last] at solid
    exact solid (by decide)
  have general : ∀ (s : Str) (level : Int) (current : Str), part ∈ splitOuterCommasLoop s level current →
      part.getLast? ≠ some '\n' := by
    intro s
    induction s with
    | nil =>
      intro level current inParts
      rw [List.mem_singleton.mp inParts]
      exact stripped current
    | cons c s ih =>
      intro level current inParts
      unfold splitOuterCommasLoop at inParts
      split at inParts
      · exact ih _ _ inParts
      · split at inParts
        · exact ih _ _ inParts
        · split at inParts
          · rcases List.mem_cons.mp inParts with rfl | inLater
            · exact stripped current
            · exact ih _ _ inLater
          · exact ih _ _ inParts
  exact general s 0 [] member

/-! ### Parts with a newline -/

theorem restOfLine_some {s rest : Str} (found : restOfLine s = some rest) (last : s.getLast? ≠ some '\n') :
    '\n' ∉ s := by
  unfold restOfLine at found
  dsimp only at found
  split at found
  · rename_i ends
    rcases ends with whole | newline
    · rw [whole]
      exact fun member => by simpa using List.mem_takeWhile_imp member
    · exact absurd (by rw [newline, List.getLast?_concat]) last
  · cases found

/-- With a bracket behind it, the start of a name is all that stands before the bracket. -/
theorem hostnameStartEndChar_bracketed {s rest : Str} {parsed : List Str} (bracket : '[' ∈ rest)
    (run : hostnameStartEndChar s = .ok (some parsed, rest)) :
    ∃ pre inner, parsed = [pre] ∧ rest = '[' :: inner ∧ s = pre ++ '[' :: inner := by
  have inText := (hostnameStartEndChar_rest run).subset bracket
  obtain ⟨whole, -, ends⟩ := split_run (fun c => decide (c ≠ '[')) s
  cases s with
  | nil => cases run
  | cons c s =>
    unfold hostnameStartEndChar at run
    rw [if_neg (List.cons_ne_nil c s)] at run
    dsimp only at run
    split at run
    · split at run
      · cases run
        obtain ⟨d, inner, atBracket⟩ := List.exists_cons_of_ne_nil (List.ne_nil_of_mem bracket)
        have opening : d = '[' := by simpa using ends d (by rw [atBracket]; rfl)
        rw [opening] at atBracket
        exact ⟨_, inner, rfl, atBracket, by rwa [atBracket] at whole⟩
      · cases run
    · rename_i noName
      have opening : c = '[' := by
        by_contra other
        refine noName ⟨inText, ?_⟩
        rw [List.takeWhile_cons_of_pos (by simpa using other)]
        exact List.cons_ne_nil c _
      rw [opening] at run
      simp [show Char.isAlphanum '[' = false by decide] at run

/-- The name of a range expression reaches to its first bracket, a newline in
front of that included. -/
theorem hostnamePrefix_newline {s rest : Str} {parsed : List Str} (last : s.getLast? ≠ some '\n')
    (newline : '\n' ∈ s) (bracket : '[' ∈ rest) (run : hostnamePrefix s = .ok (some parsed, rest)) :
    ∃ pre, parsed = [pre] ∧ '\n' ∈ pre := by
  unfold hostnamePrefix at run
  split at run
  · cases run
  · cases run
  · rename_i both after found
    cases run
    obtain ⟨_, mid, first, later⟩ := chainLoop_ok found
    obtain ⟨_, mid', second, final⟩ := chainLoop_ok later
    obtain ⟨rfl, rfl⟩ := chainLoop_done final
    obtain ⟨pre, inner, rfl, rfl, rfl⟩ :=
      hostnameStartEndChar_bracketed ((partialHostname_obeys.rest_of _ _ _ second).subset bracket) first
    have stops : ('[' :: inner).dropWhile isHostChar = '[' :: inner := List.dropWhile_cons_of_neg (by decide)
    unfold partialHostname at second
    rw [stops] at second
    split at second
    · cases second
    · rename_i atLine
      cases second
      rw [List.getLast?_append_of_ne_nil _ (List.cons_ne_nil _ _)] at last
      have inPrefix := (List.mem_append.mp newline).resolve_right (restOfLine_some atLine last)
      exact ⟨_, rfl, by simp [inPrefix]⟩

theorem combineRest_prefix {c : Char} {pre : Str} {suffixes parsedRest parsed : List Str} {unparsed rest : Str}
    (inPrefix : c ∈ pre) (run : combineRest (pre :: suffixes) parsedRest unparsed = .ok (some parsed, rest)) :
    ∀ host ∈ parsed, c ∈ host := by
  unfold combineRest at run
  dsimp only at run
  split at run <;> cases run <;>
  · intro host member
    obtain ⟨_, -, rfl⟩ := List.mem_map.mp member
    simp [inPrefix]

theorem rangeExpression_bracket {s rest : Str} {parsed : List Str}
    (run : rangeExpression s = .ok (some parsed, rest)) : '[' ∈ s := by
  obtain ⟨_, mid, opening, -⟩ := chainLoop_ok run
  obtain ⟨rfl, _, bracket⟩ := discardResult_eq_ok opening
  obtain ⟨-, rfl⟩ := beginsWith_eq_ok bracket
  simp

/-- What a part with a newline is parsed to has the newline. -/
theorem nodeExpr_newline {part : Str} {parsed : List Str} (last : part.getLast? ≠ some '\n') (newline : '\n' ∈ part)
    (run : firstOf [nodeRangeExpression, singleNode] part = .ok (some parsed, [])) :
    ∀ host ∈ parsed, '\n' ∈ host := by
  obtain ⟨p, member, found⟩ := firstOf_ok run
  simp only [List.mem_cons, List.not_mem_nil, or_false] at member
  rcases member with rfl | rfl
  · unfold nodeRangeExpression at found
    split at found
    · cases found
    · cases found
    · rename_i atGroup
      obtain ⟨_, mid, first, later⟩ := chainLoop_ok atGroup
      obtain ⟨_, mid', second, final⟩ := chainLoop_ok later
      obtain ⟨pre, rfl, inPrefix⟩ := hostnamePrefix_newline last newline (rangeExpression_bracket second) first
      obtain ⟨rfl, rfl⟩ := chainLoop_done final
      split at found
      · cases found
      · cases found
      · exact combineRest_prefix inPrefix found
  · unfold singleNode at found
    have whole : withoutFinalNewline part = part := if_neg last
    rw [whole] at found
    split at found
    · rename_i matched
      exact absurd ((matchesSingleNode_iff.mp matched).2.2.2 _ newline) (by decide)
    · cases found

/-! ### The names a list stands for -/

/-- The text is a name that a node expression of the list stands for. -/
def Named (l h : Str) : Prop := ∃ e : NodeExpr, e.text ∈ splitOuterCommas l ∧ h ∈ e.expand

theorem NodeExpr.text_line (e : NodeExpr) : '\n' ∉ e.text := not_newline_of_chars e.text_chars

/-- The parser's hosts without a newline are the names of the node expressions. -/
theorem mem_hosts_iff {l h : Str} {hosts : List Str} (accepted : nodelistParser l = .ok (some hosts, []))
    (line : '\n' ∉ h) : h ∈ hosts ↔ Named l h := by
  obtain ⟨each, only⟩ := mem_accepted accepted
  constructor
  · intro member
    obtain ⟨part, inParts, parsed, run, inParsed⟩ := only h member
    by_cases newline : '\n' ∈ part
    · exact absurd (nodeExpr_newline (outerParts_last (mem_splitOuterCommas.mp inParts).1) newline run h inParsed) line
    · obtain ⟨e, -, rfl, rfl, -⟩ := nodeExpr_sound newline run
      exact ⟨e, inParts, inParsed⟩
  · rintro ⟨e, inParts, inExpand⟩
    obtain ⟨parsed, run, subset⟩ := each e.text inParts
    obtain ⟨e', regular, sameText, -, -⟩ := nodeExpr_sound e.text_line run
    have isRegular : e.Regular := by
      rw [e.regular_iff, sameText, ← e'.regular_iff]
      exact regular
    have same := run.symm.trans (nodeExpr_complete isRegular)
    simp only [Except.ok.injEq, Prod.mk.injEq, Option.some.injEq, and_true] at same
    exact subset (same ▸ inExpand)

/-- What an element stands for is numerals. -/
theorem RangeElement.expand_digits {e : RangeElement} {t : Str} (member : t ∈ e.expand) :
    t ≠ [] ∧ ∀ c ∈ t, c.isDigit = true := by
  cases e with
  | number n =>
    rw [List.mem_singleton.mp member]
    exact ⟨n.nonempty, n.digits⟩
  | range start stop ordered =>
    obtain ⟨i, -, rfl⟩ := List.mem_map.mp member
    exact ⟨by simp [zfill, decimal_ne_nil], zfill_isDigits _ i⟩

theorem Group.mem_elements {g : Group} {t : Str} : t ∈ g.elements ↔ ∃ e ∈ g.first :: g.others, t ∈ e.expand := by
  simp [Group.elements]

/-- What groups stand for are host characters, the last of them a digit. -/
theorem expandGroups_chars {groups : List Group} {h : Str} (member : h ∈ expandGroups groups) :
    (∀ c ∈ h, isHostChar c = true) ∧ (groups ≠ [] → h.getLast?.any Char.isDigit = true) := by
  induction groups generalizing h with
  | nil =>
    rw [List.mem_singleton.mp member]
    simp
  | cons g groups ih =>
    obtain ⟨pre, inExpand, inRest⟩ := List.mem_flatMap.mp member
    obtain ⟨rest, inLater, rfl⟩ := List.mem_map.mp inRest
    obtain ⟨t, inElements, rfl⟩ := List.mem_map.mp inExpand
    obtain ⟨e, -, inElement⟩ := Group.mem_elements.mp inElements
    obtain ⟨nonempty, digits⟩ := RangeElement.expand_digits inElement
    obtain ⟨chars, ends⟩ := ih inLater
    constructor
    · intro c inHost
      rcases List.mem_append.mp inHost with inPre | inRest
      · rcases List.mem_append.mp inPre with inName | inSuffix
        · exact g.hostChars c inName
        · exact isDigit_isHostChar (digits c inSuffix)
      · exact chars c inRest
    · intro _
      cases groups with
      | nil =>
        rw [List.mem_singleton.mp inLater, List.append_nil, List.getLast?_append_of_ne_nil _ nonempty,
          List.getLast?_eq_some_getLast nonempty]
        exact digits _ (List.getLast_mem nonempty)
      | cons next groups =>
        have last := ends (List.cons_ne_nil next groups)
        have someRest : rest ≠ [] := by
          rintro rfl
          simp at last
        rwa [List.getLast?_append_of_ne_nil _ someRest]

theorem any_isAlphanum_of_digit {last : Option Char} (digit : last.any Char.isDigit = true) :
    last.any Char.isAlphanum = true := by
  cases last with
  | none => simp at digit
  | some c =>
    have isDigit : c.isDigit = true := digit
    simp [Char.isAlphanum, isDigit]

/-- A regular node expression stands for hostnames. -/
theorem NodeExpr.expand_hostname {e : NodeExpr} (regular : e.Regular) {h : Str} (member : h ∈ e.expand) :
    ∃ host : Hostname, host.chars = h := by
  cases e with
  | host host => exact ⟨host, (List.mem_singleton.mp member).symm⟩
  | ranges first later prefixed =>
    obtain ⟨chars, ends⟩ := expandGroups_chars member
    have starts : h.head?.any Char.isAlphanum = true := by
      obtain ⟨pre, inExpand, inRest⟩ := List.mem_flatMap.mp member
      obtain ⟨rest, -, rfl⟩ := List.mem_map.mp inRest
      obtain ⟨t, -, rfl⟩ := List.mem_map.mp inExpand
      have named := prefixed.resolve_left regular
      obtain ⟨c, name, nameEq⟩ := List.exists_cons_of_ne_nil (show first.name ≠ [] from regular)
      rw [nameEq] at named ⊢
      exact named
    exact ⟨⟨h, starts, any_isAlphanum_of_digit (ends (List.cons_ne_nil first later)), chars⟩, rfl⟩

theorem Hostname.line (h : Hostname) : '\n' ∉ h.chars := not_newline_of_hostChars h.hostChars

theorem Hostname.no_bracket (h : Hostname) : '[' ∉ h.chars := fun member => absurd (h.hostChars _ member) (by decide)

end GpuTelemetry
