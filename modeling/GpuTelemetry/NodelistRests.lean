import GpuTelemetry.NodelistLanguage
import GpuTelemetry.ParserLaws

namespace GpuTelemetry

/-- A suffix of the input, or of the input without its final newline, which
`(.*)$` drops. -/
def LineSuffix (t s : Str) : Prop :=
  t <:+ s ∨ ∃ line, s = line ++ ['\n'] ∧ t <:+ line ∧ '\n' ∉ t

theorem lineSuffix_restRelation : RestRelation LineSuffix where
  of_suffix suffix := .inl suffix
  trans := by
    rintro t u s (suffix | ⟨line, rfl, within, absent⟩) (⟨pre, rfl⟩ | ⟨whole, rfl, behind, noNewline⟩)
    · exact .inl (suffix.trans (List.suffix_append pre u))
    · exact .inr ⟨whole, rfl, suffix.trans behind, fun member => noNewline (suffix.subset member)⟩
    · exact .inr ⟨pre ++ line, by simp, within.trans (List.suffix_append pre line), absent⟩
    · exact absurd (List.mem_append_right line (List.mem_singleton_self '\n')) noNewline

theorem LineSuffix.subset {t s : Str} (rest : LineSuffix t s) : t ⊆ s := by
  rcases rest with suffix | ⟨line, rfl, within, -⟩
  · exact suffix.subset
  · exact List.Subset.trans within.subset (List.subset_append_left line _)

theorem LineSuffix.trans_suffix {t u s : Str} (rest : LineSuffix t u) (suffix : u <:+ s) : LineSuffix t s :=
  lineSuffix_restRelation.trans rest (.inl suffix)

theorem restOfLine_lineSuffix {s rest : Str} (found : restOfLine s = some rest) : LineSuffix rest s := by
  have noNewline : '\n' ∉ s.takeWhile (· ≠ '\n') := fun member => by simpa using List.mem_takeWhile_imp member
  unfold restOfLine at found
  dsimp only at found
  split at found
  · rename_i ends
    rw [← Option.some.inj found]
    rcases ends with whole | newline
    · rw [← whole]
      exact .inl List.suffix_rfl
    · exact .inr ⟨_, newline, List.suffix_rfl, noNewline⟩
  · cases found

theorem singleNumberPattern_lineSuffix {s zeroes number rest : Str}
    (found : singleNumberPattern s = some (zeroes, number, rest)) : LineSuffix rest s := by
  unfold singleNumberPattern at found
  dsimp only at found
  split at found
  · cases found
  · obtain ⟨line, atLine, value⟩ := Option.map_eq_some_iff.mp found
    have behind := (restOfLine_lineSuffix atLine).trans_suffix (List.dropWhile_suffix _)
    split at value <;> simp only [Prod.mk.injEq] at value <;> rw [← value.2.2] <;> exact behind

theorem rangePattern_lineSuffix {s start stop rest : Str}
    (found : rangePattern s = some (start, stop, rest)) : LineSuffix rest s := by
  unfold rangePattern at found
  split at found
  · rename_i after dropped
    split at found
    · cases found
    · obtain ⟨line, atLine, value⟩ := Option.map_eq_some_iff.mp found
      simp only [Prod.mk.injEq] at value
      have afterHyphen : after <:+ s :=
        (List.suffix_cons '-' after).trans (dropped ▸ List.dropWhile_suffix Char.isDigit)
      rw [← value.2.2]
      exact (restOfLine_lineSuffix atLine).trans_suffix ((List.dropWhile_suffix _).trans afterHyphen)
  · cases found

theorem rangeExpressionElement_obeys : Obeys LineSuffix rangeExpressionElement := by
  constructor
  · intro s rest run
    unfold rangeExpressionElement at run
    split at run
    · split at run <;> cases run
      rfl
    · split at run
      · cases run
        rfl
      · split at run <;> cases run
        rfl
  · intro s parsed rest run
    unfold rangeExpressionElement at run
    split at run
    · split at run
      · cases run
      · rename_i single
        cases run
        exact singleNumberPattern_lineSuffix single
    · rename_i range
      split at run
      · cases run
      · split at run <;> cases run
        exact rangePattern_lineSuffix range

theorem partialHostname_obeys : Obeys LineSuffix partialHostname := by
  constructor
  · intro s rest run
    unfold partialHostname at run
    split at run <;> cases run
    rfl
  · intro s parsed rest run
    unfold partialHostname at run
    split at run
    · cases run
    · rename_i found
      cases run
      exact (restOfLine_lineSuffix found).trans_suffix (List.dropWhile_suffix _)

theorem hostnameStartEndChar_unchanged {s rest : Str} (run : hostnameStartEndChar s = .ok (none, rest)) :
    rest = s := by
  unfold hostnameStartEndChar at run
  split at run
  · cases run
    rfl
  · dsimp only at run
    split at run
    · split at run <;> cases run
      rfl
    · split at run
      · cases run
        rfl
      · split at run
        · split at run <;> cases run
          rfl
        · cases run
          rfl

theorem hostnameStartEndChar_rest {s rest : Str} {parsed : List Str}
    (run : hostnameStartEndChar s = .ok (some parsed, rest)) : LineSuffix rest s := by
  unfold hostnameStartEndChar at run
  split at run
  · cases run
  · dsimp only at run
    split at run
    · split at run <;> cases run
      exact .inl (List.dropWhile_suffix _)
    · split at run
      · cases run
      · split at run
        · split at run
          · cases run
          · rename_i found
            cases run
            exact (restOfLine_lineSuffix found).trans_suffix (List.suffix_cons _ _)
        · cases run

theorem hostnameStartEndChar_obeys : Obeys LineSuffix hostnameStartEndChar where
  unchanged _ _ := hostnameStartEndChar_unchanged
  rest_of _ _ _ := hostnameStartEndChar_rest

theorem hostnamePair_obeys : Obeys LineSuffix (chain hostnameStartEndChar [partialHostname]) := by
  refine chain_obeys lineSuffix_restRelation fun p member => ?_
  simp only [List.mem_cons, List.not_mem_nil, or_false] at member
  rcases member with rfl | rfl
  · exact hostnameStartEndChar_obeys
  · exact partialHostname_obeys

theorem hostnamePrefix_obeys : Obeys LineSuffix hostnamePrefix := by
  constructor
  · intro s rest run
    unfold hostnamePrefix at run
    split at run <;> cases run
    rfl
  · intro s parsed rest run
    unfold hostnamePrefix at run
    split at run
    · cases run
    · cases run
    · rename_i found
      cases run
      exact hostnamePair_obeys.rest_of _ _ _ found

theorem discardChar_obeys (c : Char) :
    Obeys LineSuffix (discardResult (beginsWith [c]) : Parser Str) :=
  (beginsWith_obeys lineSuffix_restRelation [c]).discardResult

theorem commaElement_obeys : Obeys LineSuffix commaElement := by
  refine chain_obeys lineSuffix_restRelation fun p member => ?_
  simp only [List.mem_cons, List.not_mem_nil, or_false] at member
  rcases member with rfl | rfl
  · exact discardChar_obeys ','
  · exact rangeExpressionElement_obeys

theorem rangeExpression_obeys : Obeys LineSuffix rangeExpression := by
  refine chain_obeys lineSuffix_restRelation fun p member => ?_
  simp only [List.mem_cons, List.not_mem_nil, or_false] at member
  rcases member with rfl | rfl | rfl | rfl
  · exact discardChar_obeys '['
  · exact rangeExpressionElement_obeys
  · exact commaElement_obeys.atLeastZero lineSuffix_restRelation
  · exact discardChar_obeys ']'

theorem namedGroup_obeys {name : Parser Str} (obeys : Obeys LineSuffix name) :
    Obeys LineSuffix (chain name [rangeExpression]) := by
  refine chain_obeys lineSuffix_restRelation fun p member => ?_
  simp only [List.mem_cons, List.not_mem_nil, or_false] at member
  rcases member with rfl | rfl
  · exact obeys
  · exact rangeExpression_obeys

theorem combineRest_ok {parsed parsedRest : List Str} {found : Option (List Str)} {unparsed rest : Str}
    (run : combineRest parsed parsedRest unparsed = .ok (found, rest)) : rest = unparsed ∧ found ≠ none := by
  unfold combineRest at run
  split at run
  · cases run
  · split at run <;> cases run <;> exact ⟨rfl, Option.some_ne_none _⟩

theorem laterGroups_unchanged {fuel : Nat} {s rest : Str} (run : laterGroups fuel s = .ok (none, rest)) :
    rest = s := by
  cases fuel with
  | zero => cases run
  | succ fuel =>
    unfold laterGroups at run
    split at run
    · cases run
    · split at run
      · cases run
      · cases run
        rfl
      · split at run
        · cases run
        · cases run
          rfl
        · exact absurd rfl (combineRest_ok run).2

/-- The recursion over the bracket groups reads its input to the end. -/
theorem laterGroups_atEnd {fuel : Nat} {s rest : Str} {parsed : List Str}
    (run : laterGroups fuel s = .ok (some parsed, rest)) : rest = [] := by
  induction fuel generalizing s parsed rest with
  | zero => cases run
  | succ fuel ih =>
    unfold laterGroups at run
    split at run
    · cases run
      rfl
    · split at run
      · cases run
      · cases run
      · split at run
        · cases run
        · cases run
        · rename_i later
          rw [(combineRest_ok run).1]
          exact ih later

theorem laterGroups_obeys (fuel : Nat) : Obeys LineSuffix (laterGroups fuel) where
  unchanged _ _ := laterGroups_unchanged
  rest_of _ _ _ run := .inl (laterGroups_atEnd run ▸ List.nil_suffix)

theorem nodeRangeExpression_obeys : Obeys LineSuffix nodeRangeExpression := by
  constructor
  · intro s rest run
    unfold nodeRangeExpression at run
    split at run
    · cases run
    · cases run
      rfl
    · split at run
      · cases run
      · cases run
        rfl
      · exact absurd rfl (combineRest_ok run).2
  · intro s parsed rest run
    unfold nodeRangeExpression at run
    split at run
    · cases run
    · cases run
    · rename_i group
      split at run
      · cases run
      · cases run
      · rename_i later
        rw [(combineRest_ok run).1]
        have behind := (laterGroups_obeys _).rest_of _ _ _ later
        exact lineSuffix_restRelation.trans behind ((namedGroup_obeys hostnamePrefix_obeys).rest_of _ _ _ group)

theorem singleNode_obeys : Obeys LineSuffix singleNode := by
  constructor
  · intro s rest run
    unfold singleNode at run
    split at run <;> cases run
    rfl
  · intro s parsed rest run
    unfold singleNode at run
    split at run <;> cases run
    exact .inl List.nil_suffix

theorem nodeExpr_obeys : Obeys LineSuffix (firstOf [nodeRangeExpression, singleNode]) := by
  refine firstOf_obeys fun p member => ?_
  simp only [List.mem_cons, List.not_mem_nil, or_false] at member
  rcases member with rfl | rfl
  · exact nodeRangeExpression_obeys
  · exact singleNode_obeys

end GpuTelemetry
