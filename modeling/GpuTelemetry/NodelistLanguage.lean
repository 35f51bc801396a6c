import GpuTelemetry.NodelistExpansion

namespace GpuTelemetry

/-! ### No parser of a node list raises -/

theorem rangeExpressionElement_returns : Returns rangeExpressionElement := by
  intro s
  unfold rangeExpressionElement
  split
  · split <;> exact ⟨_, rfl⟩
  · split
    · exact ⟨_, rfl⟩
    · split <;> exact ⟨_, rfl⟩

theorem commaElement_returns : Returns commaElement := by
  refine chain_returns fun p member => ?_
  simp only [List.mem_cons, List.not_mem_nil, or_false] at member
  rcases member with rfl | rfl
  · exact (beginsWith_returns _).discardResult
  · exact rangeExpressionElement_returns

theorem rangeExpression_returns : Returns rangeExpression := by
  refine chain_returns fun p member => ?_
  simp only [List.mem_cons, List.not_mem_nil, or_false] at member
  rcases member with rfl | rfl | rfl | rfl
  · exact (beginsWith_returns _).discardResult
  · exact rangeExpressionElement_returns
  · exact atLeastZero_returns commaElement_returns commaElement_shortens
  · exact (beginsWith_returns _).discardResult

theorem rangeExpression_shortens : Shortens rangeExpression := by
  refine chain_shortens (beginsWith_shortens (by decide)).discardResult fun p member => ?_
  simp only [List.mem_cons, List.not_mem_nil, or_false] at member
  rcases member with rfl | rfl | rfl
  · exact rangeExpressionElement_shortens.noLonger
  · exact atLeastZero_noLonger commaElement_shortens fun s rest => chain_unchanged
  · exact (beginsWith_shortens (by decide)).discardResult.noLonger

theorem partialHostname_returns : Returns partialHostname := by
  intro s
  unfold partialHostname
  split <;> exact ⟨_, rfl⟩

theorem partialHostname_noLonger : NoLonger partialHostname := by
  intro s parsed rest run
  unfold partialHostname at run
  split at run
  · simp at run
  · rename_i found
    simp only [Except.ok.injEq, Prod.mk.injEq] at run
    rw [← run.2]
    exact (restOfLine_length found).trans (List.length_dropWhile_le _ _)

theorem hostnameStartEndChar_returns : Returns hostnameStartEndChar := by
  intro s
  unfold hostnameStartEndChar
  split
  · exact ⟨_, rfl⟩
  · dsimp only
    split
    · split <;> exact ⟨_, rfl⟩
    · split
      · exact ⟨_, rfl⟩
      · split
        · split <;> exact ⟨_, rfl⟩
        · exact ⟨_, rfl⟩

theorem hostnamePrefix_returns : Returns hostnamePrefix := by
  intro s
  have both : Returns (chain hostnameStartEndChar [partialHostname]) := by
    refine chain_returns fun p member => ?_
    simp only [List.mem_cons, List.not_mem_nil, or_false] at member
    rcases member with rfl | rfl
    · exact hostnameStartEndChar_returns
    · exact partialHostname_returns
  obtain ⟨⟨parsed, rest⟩, run⟩ := both s
  cases parsed with
  | none => exact ⟨(none, s), by simp [hostnamePrefix, run]⟩
  | some parsed => exact ⟨(some [parsed.flatten], rest), by simp [hostnamePrefix, run]⟩

/-- Unpacking `prefix, *suffixes` cannot fail: the name parser yields one result. -/
theorem combineRest_returns (pre : Str) (parsed parsedRest : List Str) (unparsed : Str) :
    ∃ out, combineRest (pre :: parsed) parsedRest unparsed = .ok out := by
  unfold combineRest
  dsimp only
  split <;> exact ⟨_, rfl⟩

theorem namedGroup_cons {p : Parser Str} (single : ∀ s parsed rest, p s = .ok (some parsed, rest) →
      ∃ name, parsed = [name]) {s rest : Str} {parsed : List Str}
    (run : chain p [rangeExpression] s = .ok (some parsed, rest)) :
    ∃ name suffixes, parsed = name :: suffixes := by
  obtain ⟨found, mid, first, later⟩ := chainLoop_ok run
  obtain ⟨name, rfl⟩ := single _ _ _ first
  obtain ⟨more, grown⟩ := chainLoop_extends later
  exact ⟨name, more, by simpa using grown⟩

theorem partialHostname_single {s rest : Str} {parsed : List Str}
    (run : partialHostname s = .ok (some parsed, rest)) : ∃ name, parsed = [name] := by
  unfold partialHostname at run
  split at run
  · simp at run
  · simp only [Except.ok.injEq, Prod.mk.injEq, Option.some.injEq] at run
    exact ⟨_, run.1.symm⟩

theorem hostnamePrefix_single {s rest : Str} {parsed : List Str}
    (run : hostnamePrefix s = .ok (some parsed, rest)) : ∃ name, parsed = [name] := by
  unfold hostnamePrefix at run
  split at run
  · simp at run
  · simp at run
  · simp only [Except.ok.injEq, Prod.mk.injEq, Option.some.injEq] at run
    exact ⟨_, run.1.symm⟩

theorem laterGroup_shorter {s rest : Str} {parsed : List Str}
    (run : chain partialHostname [rangeExpression] s = .ok (some parsed, rest)) : rest.length < s.length := by
  obtain ⟨found, mid, first, later⟩ := chainLoop_ok run
  obtain ⟨found', mid', second, final⟩ := chainLoop_ok later
  rw [← (chainLoop_done final).2]
  exact (rangeExpression_shortens _ _ _ second).trans_le (partialHostname_noLonger _ _ _ first)

theorem laterGroup_returns : Returns (chain partialHostname [rangeExpression]) := by
  refine chain_returns fun p member => ?_
  simp only [List.mem_cons, List.not_mem_nil, or_false] at member
  rcases member with rfl | rfl
  · exact partialHostname_returns
  · exact rangeExpression_returns

theorem laterGroups_returns : ∀ fuel s, s.length < fuel → ∃ out, laterGroups fuel s = .ok out := by
  intro fuel
  induction fuel with
  | zero => intro s bound; omega
  | succ fuel ih =>
    intro s bound
    unfold laterGroups
    split
    · exact ⟨_, rfl⟩
    · obtain ⟨⟨parsed, rest⟩, run⟩ := laterGroup_returns s
      cases parsed with
      | none => exact ⟨(none, s), by simp [run]⟩
      | some parsed =>
        have less := laterGroup_shorter run
        obtain ⟨name, suffixes, rfl⟩ := namedGroup_cons (fun _ _ _ => partialHostname_single) run
        obtain ⟨⟨parsedRest, unparsed⟩, later⟩ := ih rest (by omega)
        cases parsedRest with
        | none => exact ⟨(none, s), by simp [run, later]⟩
        | some parsedRest =>
          obtain ⟨out, combined⟩ := combineRest_returns name suffixes parsedRest unparsed
          exact ⟨out, by simp [run, later, combined]⟩

theorem nodeRangeExpression_returns : Returns nodeRangeExpression := by
  intro s
  have both : Returns (chain hostnamePrefix [rangeExpression]) := by
    refine chain_returns fun p member => ?_
    simp only [List.mem_cons, List.not_mem_nil, or_false] at member
    rcases member with rfl | rfl
    · exact hostnamePrefix_returns
    · exact rangeExpression_returns
  obtain ⟨⟨parsed, rest⟩, run⟩ := both s
  cases parsed with
  | none => exact ⟨(none, s), by simp [nodeRangeExpression, run]⟩
  | some parsed =>
    obtain ⟨name, suffixes, rfl⟩ := namedGroup_cons (fun _ _ _ => hostnamePrefix_single) run
    obtain ⟨⟨parsedRest, unparsed⟩, later⟩ := laterGroups_returns (rest.length + 1) rest (by omega)
    cases parsedRest with
    | none => exact ⟨(none, s), by simp [nodeRangeExpression, run, later]⟩
    | some parsedRest =>
      obtain ⟨out, combined⟩ := combineRest_returns name suffixes parsedRest unparsed
      exact ⟨out, by simp [nodeRangeExpression, run, later, combined]⟩

theorem singleNode_returns : Returns singleNode := by
  intro s
  unfold singleNode
  split <;> exact ⟨_, rfl⟩

theorem nodeExpr_returns : Returns (firstOf [nodeRangeExpression, singleNode]) := by
  refine firstOf_returns fun p member => ?_
  simp only [List.mem_cons, List.not_mem_nil, or_false] at member
  rcases member with rfl | rfl
  · exact nodeRangeExpression_returns
  · exact singleNode_returns

/-! ### What is accepted has the documented form -/

theorem commaElement_sound {s rest : Str} {parsed : List Str} (line : '\n' ∉ s)
    (run : commaElement s = .ok (some parsed, rest)) :
    ∃ e : RangeElement, s = ',' :: (e.text ++ rest) ∧ parsed = e.expand := by
  obtain ⟨found, mid, first, later⟩ := chainLoop_ok run
  obtain ⟨rfl, skipped, comma⟩ := discardResult_eq_ok first
  obtain ⟨-, rfl⟩ := beginsWith_eq_ok comma
  obtain ⟨found', mid', second, final⟩ := chainLoop_ok later
  obtain ⟨rfl, rfl⟩ := chainLoop_done final
  obtain ⟨e, text, expansion⟩ := rangeExpressionElement_sound (not_mem_of_append_right line) second
  exact ⟨e, by simp [text], by simpa using expansion⟩

theorem commaElement_iterates_sound {s rest : Str} {parsed : List Str} (line : '\n' ∉ s)
    (iterates : Iterates commaElement s parsed rest) :
    ∃ others : List RangeElement, s = laterElements others ++ rest ∧
      parsed = others.flatMap RangeElement.expand := by
  induction iterates with
  | stop run => exact ⟨[], by simp [chain_unchanged run], rfl⟩
  | step run _ ih =>
    obtain ⟨e, text, expansion⟩ := commaElement_sound line run
    have lineMid := line
    rw [text] at lineMid
    obtain ⟨others, later, more⟩ := ih (not_mem_of_append_right (fun member => lineMid (List.mem_cons_of_mem _ member)))
    exact ⟨e :: others, by simp [text, later], by simp [expansion, more]⟩

theorem rangeExpression_sound {s rest : Str} {parsed : List Str} (line : '\n' ∉ s)
    (run : rangeExpression s = .ok (some parsed, rest)) (name : Str)
    (hostChars : ∀ c ∈ name, isHostChar c = true) :
    ∃ g : Group, g.name = name ∧ s = g.bracket ++ rest ∧ parsed = g.elements := by
  obtain ⟨_, mid, opening, afterOpening⟩ := chainLoop_ok run
  obtain ⟨rfl, _, bracket⟩ := discardResult_eq_ok opening
  obtain ⟨-, rfl⟩ := beginsWith_eq_ok bracket
  obtain ⟨_, mid', atFirst, afterFirst⟩ := chainLoop_ok afterOpening
  have lineMid := not_mem_of_append_right line
  obtain ⟨first, firstText, rfl⟩ := rangeExpressionElement_sound lineMid atFirst
  obtain ⟨_, afterMid, atOthers, afterOthers⟩ := chainLoop_ok afterFirst
  have iterates := (atLeastZero_iff commaElement_shortens).mp atOthers
  rw [firstText] at lineMid
  obtain ⟨others, othersText, rfl⟩ := commaElement_iterates_sound (not_mem_of_append_right lineMid) iterates
  obtain ⟨_, afterClosing, closing, final⟩ := chainLoop_ok afterOthers
  obtain ⟨rfl, _, bracket'⟩ := discardResult_eq_ok closing
  obtain ⟨-, rfl⟩ := beginsWith_eq_ok bracket'
  obtain ⟨rfl, rfl⟩ := chainLoop_done final
  exact ⟨⟨name, hostChars, first, others⟩, rfl, by simp [Group.bracket, firstText, othersText],
    by simp [Group.elements]⟩

theorem partialHostname_sound {s rest : Str} {parsed : List Str} (line : '\n' ∉ s)
    (run : partialHostname s = .ok (some parsed, rest)) :
    ∃ name, parsed = [name] ∧ s = name ++ rest ∧ ∀ c ∈ name, isHostChar c = true := by
  obtain ⟨whole, within, -⟩ := split_run isHostChar s
  have lineRest : '\n' ∉ s.dropWhile isHostChar := not_mem_of_append_right (whole ▸ line)
  simp only [partialHostname, restOfLine_of_line lineRest, Except.ok.injEq, Prod.mk.injEq,
    Option.some.injEq] at run
  obtain ⟨rfl, rfl⟩ := run
  exact ⟨_, rfl, whole, within⟩

/-- A prefix is either everything before the first bracket, or one character. -/
theorem hostnameStartEndChar_sound {s rest : Str} {parsed : List Str} (line : '\n' ∉ s)
    (run : hostnameStartEndChar s = .ok (some parsed, rest)) :
    ∃ pre, parsed = [pre] ∧ s = pre ++ rest ∧ pre.head?.any Char.isAlphanum = true ∧
      ∀ c ∈ pre, isHostChar c = true := by
  unfold hostnameStartEndChar at run
  split at run
  · simp at run
  · dsimp only at run
    split at run
    · split at run
      · rename_i matched
        obtain ⟨whole, -, -⟩ := split_run (fun c => decide (c ≠ '[')) s
        have linePre : '\n' ∉ s.takeWhile (fun c => decide (c ≠ '[')) := not_mem_of_append_left (whole ▸ line)
        rw [withoutFinalNewline_of_line linePre] at matched
        obtain ⟨starts, hostChars⟩ := matchesPrefix_iff.mp matched
        simp only [Except.ok.injEq, Prod.mk.injEq, Option.some.injEq] at run
        obtain ⟨rfl, rfl⟩ := run
        exact ⟨_, rfl, whole, starts, hostChars⟩
      · simp at run
    · split at run
      · simp at run
      · rename_i c s' _ _
        have lineRest : '\n' ∉ s' := fun member => line (List.mem_cons_of_mem _ member)
        split at run
        · rename_i alphanumeric
          simp only [restOfLine_of_line lineRest, Except.ok.injEq, Prod.mk.injEq, Option.some.injEq] at run
          obtain ⟨rfl, rfl⟩ := run
          exact ⟨[c], rfl, rfl, by simpa using alphanumeric, by simp [isHostChar, alphanumeric]⟩
        · simp at run

theorem hostnamePrefix_sound {s rest : Str} {parsed : List Str} (line : '\n' ∉ s)
    (run : hostnamePrefix s = .ok (some parsed, rest)) :
    ∃ pre, parsed = [pre] ∧ s = pre ++ rest ∧ pre.head?.any Char.isAlphanum = true ∧
      ∀ c ∈ pre, isHostChar c = true := by
  unfold hostnamePrefix at run
  split at run
  · simp at run
  · simp at run
  · rename_i both after found
    simp only [Except.ok.injEq, Prod.mk.injEq, Option.some.injEq] at run
    obtain ⟨rfl, rfl⟩ := run
    obtain ⟨_, mid, first, later⟩ := chainLoop_ok found
    obtain ⟨pre, rfl, rfl, starts, hostChars⟩ := hostnameStartEndChar_sound line first
    obtain ⟨_, mid', second, final⟩ := chainLoop_ok later
    obtain ⟨name, rfl, rfl, moreChars⟩ := partialHostname_sound (not_mem_of_append_right line) second
    obtain ⟨rfl, rfl⟩ := chainLoop_done final
    refine ⟨pre ++ name, by simp, by simp, ?_, ?_⟩
    · cases pre with
      | nil => simp at starts
      | cons c pre => simpa using starts
    · intro c member
      rcases List.mem_append.mp member with inPre | inName
      · exact hostChars c inPre
      · exact moreChars c inName

theorem laterGroups_sound {fuel : Nat} {s rest : Str} {parsed : List Str} (line : '\n' ∉ s)
    (run : laterGroups fuel s = .ok (some parsed, rest)) :
    ∃ groups, s = groupsText groups ∧ parsed = laterExpansion groups ∧ rest = [] := by
  induction fuel generalizing s parsed rest with
  | zero => simp [laterGroups] at run
  | succ fuel ih =>
    unfold laterGroups at run
    split at run
    · rename_i empty
      simp only [Except.ok.injEq, Prod.mk.injEq, Option.some.injEq] at run
      exact ⟨[], empty, run.1.symm, run.2.symm⟩
    · split at run
      · simp at run
      · simp at run
      · rename_i atGroup
        obtain ⟨_, mid, first, later⟩ := chainLoop_ok atGroup
        obtain ⟨name, rfl, rfl, hostChars⟩ := partialHostname_sound line first
        obtain ⟨_, mid', second, final⟩ := chainLoop_ok later
        have lineMid := not_mem_of_append_right line
        obtain ⟨g, rfl, rfl, rfl⟩ := rangeExpression_sound lineMid second name hostChars
        obtain ⟨rfl, rfl⟩ := chainLoop_done final
        split at run
        · simp at run
        · simp at run
        · rename_i atLater
          obtain ⟨groups, rfl, rfl, rfl⟩ := ih (not_mem_of_append_right lineMid) atLater
          have combined := combineRest_groups g groups []
          simp only [List.nil_append, List.cons_append] at run
          rw [combined] at run
          simp only [Except.ok.injEq, Prod.mk.injEq, Option.some.injEq] at run
          obtain ⟨rfl, rfl⟩ := run
          exact ⟨g :: groups, (groupsText_cons g groups).symm, by simp [laterExpansion], rfl⟩

theorem nodeRangeExpression_sound {s rest : Str} {parsed : List Str} (line : '\n' ∉ s)
    (run : nodeRangeExpression s = .ok (some parsed, rest)) :
    ∃ e : NodeExpr, e.Regular ∧ s = e.text ∧ parsed = e.expand ∧ rest = [] := by
  unfold nodeRangeExpression at run
  split at run
  · simp at run
  · simp at run
  · rename_i atGroup
    obtain ⟨_, mid, first, later⟩ := chainLoop_ok atGroup
    obtain ⟨pre, rfl, rfl, starts, hostChars⟩ := hostnamePrefix_sound line first
    obtain ⟨_, mid', second, final⟩ := chainLoop_ok later
    have lineMid := not_mem_of_append_right line
    obtain ⟨g, rfl, rfl, rfl⟩ := rangeExpression_sound lineMid second pre hostChars
    obtain ⟨rfl, rfl⟩ := chainLoop_done final
    split at run
    · simp at run
    · simp at run
    · rename_i atLater
      obtain ⟨groups, rfl, rfl, rfl⟩ := laterGroups_sound (not_mem_of_append_right lineMid) atLater
      have combined := combineRest_groups g groups []
      simp only [List.nil_append, List.cons_append] at run
      rw [combined] at run
      simp only [Except.ok.injEq, Prod.mk.injEq, Option.some.injEq] at run
      obtain ⟨rfl, rfl⟩ := run
      refine ⟨.ranges g groups (.inr starts), ?_, (groupsText_cons g groups).symm, rfl, rfl⟩
      intro empty
      simp [empty] at starts

theorem singleNode_sound {s rest : Str} {parsed : List Str} (line : '\n' ∉ s)
    (run : singleNode s = .ok (some parsed, rest)) :
    ∃ e : NodeExpr, e.Regular ∧ s = e.text ∧ parsed = e.expand ∧ rest = [] := by
  rw [singleNode, withoutFinalNewline_of_line line] at run
  split at run
  · rename_i matched
    obtain ⟨long, starts, ends, hostChars⟩ := matchesSingleNode_iff.mp matched
    simp only [Except.ok.injEq, Prod.mk.injEq, Option.some.injEq] at run
    exact ⟨.host ⟨s, starts, ends, hostChars⟩, long, rfl, run.1.symm, run.2.symm⟩
  · simp at run

theorem nodeExpr_sound {s rest : Str} {parsed : List Str} (line : '\n' ∉ s)
    (run : firstOf [nodeRangeExpression, singleNode] s = .ok (some parsed, rest)) :
    ∃ e : NodeExpr, e.Regular ∧ s = e.text ∧ parsed = e.expand ∧ rest = [] := by
  obtain ⟨p, member, found⟩ := firstOf_ok run
  simp only [List.mem_cons, List.not_mem_nil, or_false] at member
  rcases member with rfl | rfl
  · exact nodeRangeExpression_sound line found
  · exact singleNode_sound line found

/-! ### The accepted language -/

/-- A part the parser accepts has the form of a regular node expression, and
every other part is given up without an exception. -/
theorem nodeExpr_cases {part : Str} (line : '\n' ∉ part) :
    (∃ e : NodeExpr, e.Regular ∧ part = e.text) ∨
      (¬∃ e : NodeExpr, e.Regular ∧ part = e.text) ∧
        ∃ rest, firstOf [nodeRangeExpression, singleNode] part = .ok (none, rest) := by
  by_cases regular : ∃ e : NodeExpr, e.Regular ∧ part = e.text
  · exact .inl regular
  · refine .inr ⟨regular, ?_⟩
    obtain ⟨⟨parsed, rest⟩, run⟩ := nodeExpr_returns part
    cases parsed with
    | none => exact ⟨rest, run⟩
    | some parsed =>
      obtain ⟨e, isRegular, text, -, -⟩ := nodeExpr_sound line run
      exact absurd ⟨e, isRegular, text⟩ regular

/-- One part that is not a regular node expression fails the whole list. -/
theorem nodelistLoop_reject {parts : List Str} (lines : ∀ part ∈ parts, '\n' ∉ part)
    (irregular : ∃ part ∈ parts, ¬∃ e : NodeExpr, e.Regular ∧ part = e.text) (s : Str) (result : List Str) :
    nodelistLoop s parts result = .ok (none, s) := by
  induction parts generalizing result with
  | nil => simp at irregular
  | cons part parts ih =>
    have later := ih (fun other member => lines other (by simp [member]))
    rcases nodeExpr_cases (lines part (by simp)) with ⟨e, regular, rfl⟩ | ⟨_, rest, failed⟩
    · obtain ⟨other, member, notRegular⟩ := irregular
      have inParts : other ∈ parts := by
        rcases List.mem_cons.mp member with rfl | inParts
        · exact absurd ⟨e, regular, rfl⟩ notRegular
        · exact inParts
      simp only [nodelistLoop, nodeExpr_complete regular, if_true]
      exact later ⟨other, inParts, notRegular⟩ _
    · simp only [nodelistLoop, failed]

/-- The parts joined by commas are the text, when no part was stripped. -/
theorem outerParts_join {s : Str} (solid : ∀ c ∈ s, isSpace c = false) :
    [','].intercalate (outerParts s) = s ∧ outerParts s ≠ [] ∧
      ∀ part ∈ outerParts s, ∀ c ∈ part, isSpace c = false := by
  have general : ∀ (s : Str) (level : Int) (current : Str), (∀ c ∈ current ++ s, isSpace c = false) →
      [','].intercalate (splitOuterCommasLoop s level current) = current ++ s ∧
        splitOuterCommasLoop s level current ≠ [] ∧
        ∀ part ∈ splitOuterCommasLoop s level current, ∀ c ∈ part, isSpace c = false := by
    intro s
    induction s with
    | nil =>
      intro level current solid
      rw [List.append_nil] at solid
      simpa [splitOuterCommasLoop, strip_of_no_space solid] using solid
    | cons c s ih =>
      intro level current solid
      have moved : ∀ d ∈ (current ++ [c]) ++ s, isSpace d = false := by simpa using solid
      have whole : (current ++ [c]) ++ s = current ++ c :: s := by simp
      unfold splitOuterCommasLoop
      split
      · simpa [whole] using ih (level + 1) (current ++ [c]) moved
      · split
        · simpa [whole] using ih (level - 1) (current ++ [c]) moved
        · split
          · rename_i split
            have solidCurrent : ∀ d ∈ current, isSpace d = false := fun d member => solid d (by simp [member])
            obtain ⟨joined, nonempty, parts⟩ := ih level [] fun d member => solid d (by
              simp only [List.nil_append] at member
              simp [member])
            refine ⟨?_, by simp, ?_⟩
            · rw [List.intercalate_cons_of_ne_nil nonempty, joined, strip_of_no_space solidCurrent, split.1]
              simp
            · intro part member
              rcases List.mem_cons.mp member with rfl | inLater
              · rw [strip_of_no_space solidCurrent]
                exact solidCurrent
              · exact parts part inLater
          · simpa [whole] using ih level (current ++ [c]) moved
  exact general s 0 [] (by simpa using solid)

/-- A node expression of the documentation. -/
def IsNodeExpr (part : Str) : Prop := ∃ e : NodeExpr, part = e.text

/-- A non-empty comma separated list of documented node expressions. -/
def Documented (s : Str) : Prop := ∃ exprs : List NodeExpr, exprs ≠ [] ∧ s = nodelistText exprs

/-- A hostname of one character, or a range expression without a first name. -/
def Irregular (part : Str) : Prop := part.length = 1 ∨ part.head? = some '['

theorem NodeExpr.regular_iff (e : NodeExpr) : e.Regular ↔ ¬Irregular e.text := by
  cases e with
  | host h =>
    have positive := List.length_pos_of_ne_nil h.nonempty
    have noBracket : h.chars.head? ≠ some '[' := by
      intro atHead
      exact absurd (h.hostChars '[' (List.mem_of_head? atHead)) (by decide)
    simp only [NodeExpr.Regular, Irregular, NodeExpr.text, noBracket, or_false]
    omega
  | ranges first later prefixed =>
    have text := groupsText_cons first later
    simp only [NodeExpr.Regular, Irregular, NodeExpr.text, text]
    cases name : first.name with
    | nil => simp [Group.bracket]
    | cons c name =>
      have noBracket : c ≠ '[' := by
        rintro rfl
        exact absurd (first.hostChars '[' (by simp [name])) (by decide)
      simp [Group.bracket, noBracket]

/-- Texts that are each the text of some expression come from a list of expressions. -/
theorem exists_map_text {P : NodeExpr → Prop} {texts : List Str}
    (each : ∀ part ∈ texts, ∃ e : NodeExpr, P e ∧ part = e.text) :
    ∃ exprs : List NodeExpr, (∀ e ∈ exprs, P e) ∧ texts = exprs.map NodeExpr.text := by
  induction texts with
  | nil => exact ⟨[], by simp, rfl⟩
  | cons text texts ih =>
    obtain ⟨e, holds, rfl⟩ := each text (by simp)
    obtain ⟨exprs, others, rfl⟩ := ih fun part member => each part (by simp [member])
    exact ⟨e :: exprs, by simpa using ⟨holds, others⟩, by simp⟩

theorem documented_iff {s : Str} (solid : ∀ c ∈ s, isSpace c = false) :
    Documented s ↔ ∀ part ∈ outerParts s, IsNodeExpr part := by
  constructor
  · rintro ⟨exprs, nonempty, rfl⟩ part member
    rw [outerParts_nodelistText nonempty] at member
    obtain ⟨e, _, rfl⟩ := List.mem_map.mp member
    exact ⟨e, rfl⟩
  · intro all
    obtain ⟨joined, nonempty, -⟩ := outerParts_join solid
    obtain ⟨exprs, -, texts⟩ := exists_map_text (P := fun _ => True) fun part member =>
      (all part member).imp fun e text => ⟨trivial, text⟩
    refine ⟨exprs, ?_, by rw [nodelistText, ← texts, joined]⟩
    rintro rfl
    exact nonempty (by simpa using texts)

/-- The whole behaviour on a text without whitespace: it is accepted exactly
when its non-empty parts are all regular node expressions. -/
theorem nodelistParser_solid {s : Str} (solid : ∀ c ∈ s, isSpace c = false) (nonempty : s ≠ []) :
    (∃ exprs : List NodeExpr, (∀ e ∈ exprs, e.Regular) ∧ splitOuterCommas s = exprs.map NodeExpr.text ∧
        nodelistParser s = .ok (some (exprs.flatMap NodeExpr.expand), [])) ∨
      (∃ part ∈ splitOuterCommas s, ¬∃ e : NodeExpr, e.Regular ∧ part = e.text) ∧
        nodelistParser s = .ok (none, s) := by
  obtain ⟨-, -, parts⟩ := outerParts_join solid
  have lines : ∀ part ∈ splitOuterCommas s, '\n' ∉ part := fun part member newline =>
    absurd (parts part (List.mem_of_mem_filter member) '\n' newline) (by decide)
  by_cases all : ∀ part ∈ splitOuterCommas s, ∃ e : NodeExpr, e.Regular ∧ part = e.text
  · left
    obtain ⟨exprs, regular, texts⟩ := exists_map_text all
    refine ⟨exprs, regular, texts, ?_⟩
    rw [nodelistParser, if_neg nonempty, texts, nodelistLoop_complete regular, List.nil_append]
  · right
    obtain ⟨part, irregular⟩ := not_forall.mp all
    obtain ⟨member, notRegular⟩ := Classical.not_imp.mp irregular
    exact ⟨⟨part, member, notRegular⟩, by
      rw [nodelistParser, if_neg nonempty, nodelistLoop_reject lines ⟨part, member, notRegular⟩]⟩

/-- What the documentation promises of one string: acceptance with a non-empty
expansion when it is documented, and `(None, input)` otherwise. -/
def MeetsGrammar (s : Str) : Prop :=
  (Documented s → ∃ hosts, nodelistParser s = .ok (some hosts, []) ∧ hosts ≠ []) ∧
    (¬Documented s → nodelistParser s = .ok (none, s))

/-! ### Where the documented language is met -/

theorem IsNodeExpr.ne_nil {part : Str} (isExpr : IsNodeExpr part) : part ≠ [] := by
  obtain ⟨e, rfl⟩ := isExpr
  exact e.text_ne_nil

theorem isRegular_iff {part : Str} :
    (∃ e : NodeExpr, e.Regular ∧ part = e.text) ↔ IsNodeExpr part ∧ ¬Irregular part := by
  constructor
  · rintro ⟨e, regular, rfl⟩
    exact ⟨⟨e, rfl⟩, e.regular_iff.mp regular⟩
  · rintro ⟨⟨e, rfl⟩, notIrregular⟩
    exact ⟨e, e.regular_iff.mpr notIrregular, rfl⟩

theorem mem_splitOuterCommas {s part : Str} : part ∈ splitOuterCommas s ↔ part ∈ outerParts s ∧ part ≠ [] := by
  simp [splitOuterCommas]

/-- A text without whitespace is accepted exactly when it is not empty and each
of its non-empty parts is a regular node expression. -/
theorem nodelistParser_accepts_iff {s : Str} (solid : ∀ c ∈ s, isSpace c = false) (nonempty : s ≠ []) :
    (∃ hosts, nodelistParser s = .ok (some hosts, [])) ↔
      ∀ part ∈ outerParts s, part ≠ [] → IsNodeExpr part ∧ ¬Irregular part := by
  have parts : (∀ part ∈ outerParts s, part ≠ [] → IsNodeExpr part ∧ ¬Irregular part) ↔
      ∀ part ∈ splitOuterCommas s, ∃ e : NodeExpr, e.Regular ∧ part = e.text := by
    simp only [mem_splitOuterCommas, isRegular_iff, and_imp]
  rw [parts]
  rcases nodelistParser_solid solid nonempty with ⟨exprs, regular, texts, run⟩ | ⟨⟨part, member, notRegular⟩, run⟩
  · refine iff_of_true ⟨_, run⟩ fun part member => ?_
    rw [texts] at member
    obtain ⟨e, inExprs, rfl⟩ := List.mem_map.mp member
    exact ⟨e, regular e inExprs, rfl⟩
  · exact iff_of_false (by simp [run]) fun all => notRegular (all part member)

/-- A rejected text is given back whole. -/
theorem nodelistParser_reject {s : Str} (solid : ∀ c ∈ s, isSpace c = false)
    (rejected : ¬∃ hosts, nodelistParser s = .ok (some hosts, [])) : nodelistParser s = .ok (none, s) := by
  by_cases nonempty : s = []
  · simp [nodelistParser, nonempty]
  · rcases nodelistParser_solid solid nonempty with ⟨exprs, -, -, run⟩ | ⟨-, run⟩
    · exact absurd ⟨_, run⟩ rejected
    · exact run

/-- A documented list that is accepted has a non-empty expansion. -/
theorem nodelistParser_hosts_ne_nil {s : Str} (solid : ∀ c ∈ s, isSpace c = false) (documented : Documented s)
    {hosts : List Str} (run : nodelistParser s = .ok (some hosts, [])) : hosts ≠ [] := by
  obtain ⟨written, someExpr, rfl⟩ := documented
  rcases nodelistParser_solid solid (nodelistText_ne_nil someExpr) with ⟨exprs, -, texts, run'⟩ | ⟨-, run'⟩
  · rw [splitOuterCommas_nodelistText someExpr] at texts
    have accepted := run.symm.trans run'
    simp only [Except.ok.injEq, Prod.mk.injEq, Option.some.injEq, and_true] at accepted
    obtain ⟨e, others, rfl⟩ : ∃ e others, exprs = e :: others := by
      refine List.exists_cons_of_ne_nil ?_
      rintro rfl
      exact someExpr (by simpa using texts)
    simp [accepted, e.expand_ne_nil]
  · simp [run'] at run

theorem meetsGrammar_iff {s : Str} (solid : ∀ c ∈ s, isSpace c = false) :
    MeetsGrammar s ↔ ((∃ hosts, nodelistParser s = .ok (some hosts, [])) ↔ Documented s) := by
  constructor
  · rintro ⟨accepts, rejects⟩
    refine ⟨?_, fun documented => (accepts documented).imp fun _ found => found.1⟩
    rintro ⟨hosts, run⟩
    by_contra undocumented
    simp [rejects undocumented] at run
  · intro same
    refine ⟨fun documented => ?_, fun undocumented => nodelistParser_reject solid (mt same.mp undocumented)⟩
    obtain ⟨hosts, run⟩ := same.mpr documented
    exact ⟨hosts, run, nodelistParser_hosts_ne_nil solid documented run⟩

/-- The documented language is met on a text unless all its non-empty parts are
node expressions and either some part is irregular or some part is empty, but
not both. -/
theorem nodelistParser_meets_grammar_iff (s : Str) (solid : ∀ c ∈ s, isSpace c = false) :
    MeetsGrammar s ↔ s = [] ∨ (∃ part ∈ outerParts s, part ≠ [] ∧ ¬IsNodeExpr part) ∨
      ((∃ part ∈ outerParts s, Irregular part) ↔ [] ∈ outerParts s) := by
  rw [meetsGrammar_iff solid, documented_iff solid]
  by_cases nonempty : s = []
  · subst nonempty
    have noExpr : ¬∀ part ∈ outerParts [], IsNodeExpr part := fun all =>
      (all [] (by decide)).ne_nil rfl
    simp [nodelistParser, noExpr]
  rw [nodelistParser_accepts_iff solid nonempty]
  by_cases foreign : ∃ part ∈ outerParts s, part ≠ [] ∧ ¬IsNodeExpr part
  · obtain ⟨part, member, someText, notExpr⟩ := foreign
    refine iff_of_true (iff_of_false ?_ ?_) (.inr (.inl ⟨part, member, someText, notExpr⟩))
    · exact fun all => notExpr (all part member someText).1
    · exact fun all => notExpr (all part member)
  have isExpr : ∀ part ∈ outerParts s, part ≠ [] → IsNodeExpr part := by
    intro part member someText
    by_contra notExpr
    exact foreign ⟨part, member, someText, notExpr⟩
  have accepts : (∀ part ∈ outerParts s, part ≠ [] → IsNodeExpr part ∧ ¬Irregular part) ↔
      ¬∃ part ∈ outerParts s, Irregular part := by
    constructor
    · rintro all ⟨part, member, irregular⟩
      have someText : part ≠ [] := by
        rintro rfl
        simp [Irregular] at irregular
      exact (all part member someText).2 irregular
    · exact fun none part member someText =>
        ⟨isExpr part member someText, fun irregular => none ⟨part, member, irregular⟩⟩
  have documented : (∀ part ∈ outerParts s, IsNodeExpr part) ↔ [] ∉ outerParts s := by
    constructor
    · exact fun all empty => (all [] empty).ne_nil rfl
    · exact fun noEmpty part member => isExpr part member fun empty => noEmpty (empty ▸ member)
  rw [accepts, documented, not_iff_not]
  simp [nonempty, foreign]

theorem nodelistParser_meets_grammar_sample : (∀ c ∈ "n1,n2".toList, isSpace c = false) ∧
    MeetsGrammar "n1,n2".toList := by
  have parts : outerParts "n1,n2".toList = ["n1".toList, "n2".toList] := by decide
  refine ⟨by decide, (nodelistParser_meets_grammar_iff "n1,n2".toList (by decide)).mpr (.inr (.inr ?_))⟩
  rw [parts]
  exact iff_of_false (by simp [Irregular]) (by decide)

/-- A hostname of one character and a range expression without a first name are
rejected, and a list of separators is accepted with an empty expansion. -/
theorem nodelistParser_breaks_grammar :
    ¬MeetsGrammar "a".toList ∧ ¬MeetsGrammar "[1-2]".toList ∧ ¬MeetsGrammar ",".toList := by
  have rejects : ∀ {s : Str}, Documented s → nodelistParser s = .ok (none, s) → ¬MeetsGrammar s := by
    rintro s documented run ⟨accepts, -⟩
    obtain ⟨hosts, accepted, -⟩ := accepts documented
    simp [run] at accepted
  refine ⟨rejects ⟨[.host ⟨"a".toList, by decide, by decide, by decide⟩], by simp, by decide⟩ (by decide),
    rejects ⟨[.ranges ⟨[], by decide, .range ⟨"1".toList, by decide, by decide⟩ ⟨"2".toList, by decide, by decide⟩
      (by decide), []⟩ [] (.inl rfl)], by simp, by decide⟩ (by decide), ?_⟩
  have undocumented : ¬Documented ",".toList := by
    intro documented
    exact ((documented_iff (by decide)).mp documented [] (by decide)).ne_nil rfl
  rintro ⟨-, rejects⟩
  exact absurd (rejects undocumented) (by decide)

end GpuTelemetry
