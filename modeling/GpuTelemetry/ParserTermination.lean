import GpuTelemetry.AtLeastOne
import GpuTelemetry.Gres
import GpuTelemetry.NodelistRests

namespace GpuTelemetry

theorem typeSegment_obeys : Obeys (· <:+ ·) typeSegment := by
  refine chain_obeys suffix_restRelation fun p member => ?_
  simp only [List.mem_cons, List.not_mem_nil, or_false] at member
  rcases member with rfl | rfl
  · exact (suffix_restRelation.oneOf_obeys _).atLeastOne suffix_restRelation
  · exact beginsWith_obeys suffix_restRelation _

/-- What precedes the count in a GRES string, with its results. -/
abbrev gresHead : Parser Str := chain (beginsWith "gpu:".toList) [atLeastZero typeSegment]

theorem gresHead_obeys : Obeys (· <:+ ·) gresHead := by
  refine chain_obeys suffix_restRelation fun p member => ?_
  simp only [List.mem_cons, List.not_mem_nil, or_false] at member
  rcases member with rfl | rfl
  · exact beginsWith_obeys suffix_restRelation _
  · exact typeSegment_obeys.atLeastZero suffix_restRelation

theorem gresParser_obeys : Obeys (· <:+ ·) gresParser := by
  refine chain_obeys suffix_restRelation fun p member => ?_
  simp only [List.mem_cons, List.not_mem_nil, or_false] at member
  rcases member with rfl | rfl
  · exact gresHead_obeys.discardResult
  · exact (suffix_restRelation.oneOf_obeys _).atLeastOne suffix_restRelation

/-- The parsers that are built in `parse_gres`, from the inside out. -/
def gresParsers : List (Parser Str) :=
  [oneOf (asciiLetters ++ digits), atLeastOne (oneOf (asciiLetters ++ digits)), beginsWith ":".toList, typeSegment,
    atLeastZero typeSegment, beginsWith "gpu:".toList, gresHead, discardResult gresHead, oneOf digits,
    atLeastOne (oneOf digits), gresParser]

/-- The parsers that are built for a part of a node list, from the inside out. -/
def nodelistParsers : List (Parser Str) :=
  [discardResult (beginsWith ['[']), discardResult (beginsWith [',']), discardResult (beginsWith [']']),
    rangeExpressionElement, commaElement, atLeastZero commaElement, rangeExpression, partialHostname,
    hostnameStartEndChar, chain hostnameStartEndChar [partialHostname], hostnamePrefix,
    chain partialHostname [rangeExpression], chain hostnamePrefix [rangeExpression], nodeRangeExpression, singleNode,
    firstOf [nodeRangeExpression, singleNode]]

/-- The parsers given to `at_least_zero` and `at_least_one`. -/
def repeatedParsers : List (Parser Str) :=
  [oneOf (asciiLetters ++ digits), typeSegment, oneOf digits, commaElement]

theorem gresParsers_obey : ∀ p ∈ gresParsers, Obeys (· <:+ ·) p := by
  have letters := suffix_restRelation.oneOf_obeys (asciiLetters ++ digits)
  have count := suffix_restRelation.oneOf_obeys digits
  intro p member
  simp only [gresParsers, List.mem_cons, List.not_mem_nil, or_false] at member
  rcases member with rfl | rfl | rfl | rfl | rfl | rfl | rfl | rfl | rfl | rfl | rfl
  · exact letters
  · exact letters.atLeastOne suffix_restRelation
  · exact beginsWith_obeys suffix_restRelation _
  · exact typeSegment_obeys
  · exact typeSegment_obeys.atLeastZero suffix_restRelation
  · exact beginsWith_obeys suffix_restRelation _
  · exact gresHead_obeys
  · exact gresHead_obeys.discardResult
  · exact count
  · exact count.atLeastOne suffix_restRelation
  · exact gresParser_obeys

theorem nodelistParsers_obey : ∀ p ∈ nodelistParsers, Obeys LineSuffix p := by
  intro p member
  simp only [nodelistParsers, List.mem_cons, List.not_mem_nil, or_false] at member
  rcases member with rfl | rfl | rfl | rfl | rfl | rfl | rfl | rfl | rfl | rfl | rfl | rfl | rfl | rfl | rfl | rfl
  · exact discardChar_obeys '['
  · exact discardChar_obeys ','
  · exact discardChar_obeys ']'
  · exact rangeExpressionElement_obeys
  · exact commaElement_obeys
  · exact commaElement_obeys.atLeastZero lineSuffix_restRelation
  · exact rangeExpression_obeys
  · exact partialHostname_obeys
  · exact hostnameStartEndChar_obeys
  · exact hostnamePair_obeys
  · exact hostnamePrefix_obeys
  · exact namedGroup_obeys partialHostname_obeys
  · exact namedGroup_obeys hostnamePrefix_obeys
  · exact nodeRangeExpression_obeys
  · exact singleNode_obeys
  · exact nodeExpr_obeys

/-! ### Every recursion ends -/

theorem oneOf_returns (cs : Str) : Returns (oneOf cs) := by
  refine firstOf_returns fun p member => ?_
  obtain ⟨c, -, rfl⟩ := List.mem_map.mp member
  exact beginsWith_returns [c]

theorem oneOf_consuming (cs : Str) : Consuming (oneOf cs) where
  returns := oneOf_returns cs
  shortens := oneOf_shortens cs
  unchanged := oneOf_unchanged cs

theorem Consuming.atLeastZero_returns {α : Type} {p : Parser α} (consuming : Consuming p) : Returns (atLeastZero p) :=
  GpuTelemetry.atLeastZero_returns consuming.returns consuming.shortens

theorem Consuming.atLeastOne_returns {α : Type} {p : Parser α} (consuming : Consuming p) : Returns (atLeastOne p) := by
  intro s
  obtain ⟨parsed, rest, iterates⟩ := consuming.iterates s
  cases parsed with
  | nil => exact ⟨_, iterates.atLeastOne_none consuming.shortens⟩
  | cons a parsed => exact ⟨_, iterates.atLeastOne_some consuming.shortens (List.cons_ne_nil a parsed)⟩

theorem typeSegment_consuming : Consuming typeSegment where
  returns := by
    refine chain_returns fun p member => ?_
    simp only [List.mem_cons, List.not_mem_nil, or_false] at member
    rcases member with rfl | rfl
    · exact (oneOf_consuming _).atLeastOne_returns
    · exact beginsWith_returns _
  shortens := typeSegment_shortens
  unchanged _ _ := chain_unchanged

theorem commaElement_consuming : Consuming commaElement where
  returns := commaElement_returns
  shortens := commaElement_shortens
  unchanged _ _ := chain_unchanged

theorem repeatedParsers_consuming : ∀ p ∈ repeatedParsers, Consuming p := by
  intro p member
  simp only [repeatedParsers, List.mem_cons, List.not_mem_nil, or_false] at member
  rcases member with rfl | rfl | rfl | rfl
  · exact oneOf_consuming _
  · exact typeSegment_consuming
  · exact oneOf_consuming _
  · exact commaElement_consuming

theorem gresParser_returns : Returns gresParser := by
  have head : Returns gresHead := by
    refine chain_returns fun p member => ?_
    simp only [List.mem_cons, List.not_mem_nil, or_false] at member
    rcases member with rfl | rfl
    · exact beginsWith_returns _
    · exact typeSegment_consuming.atLeastZero_returns
  refine chain_returns fun p member => ?_
  simp only [List.mem_cons, List.not_mem_nil, or_false] at member
  rcases member with rfl | rfl
  · exact head.discardResult
  · exact (oneOf_consuming digits).atLeastOne_returns

/-- A repetition runs its parser no more often than its input has characters,
and once more to see it fail. -/
theorem Consuming.loop_settles {α : Type} {p : Parser α} (consuming : Consuming p) (s : Str) :
    ∃ out, ∀ fuel, s.length < fuel → atLeastZeroLoop p fuel s = .ok out := by
  obtain ⟨parsed, rest, iterates⟩ := consuming.iterates s
  exact ⟨(parsed, rest), iterates.loop consuming.shortens⟩

theorem laterGroups_fuel {fuel fuel' : Nat} {s : Str} (enough : s.length < fuel) (enough' : s.length < fuel') :
    laterGroups fuel s = laterGroups fuel' s := by
  induction fuel generalizing fuel' s with
  | zero => omega
  | succ fuel ih =>
    obtain ⟨fuel', rfl⟩ : ∃ k, fuel' = k + 1 := ⟨fuel' - 1, by omega⟩
    unfold laterGroups
    split
    · rfl
    · split
      · rfl
      · rfl
      · rename_i group
        have less := laterGroup_shorter group
        rw [ih (by omega : _ < fuel) (by omega : _ < fuel')]

theorem laterGroups_settles (s : Str) : ∃ out, ∀ fuel, s.length < fuel → laterGroups fuel s = .ok out := by
  obtain ⟨out, run⟩ := laterGroups_returns (s.length + 1) s (by omega)
  exact ⟨out, fun fuel enough => (laterGroups_fuel enough (by omega)).trans run⟩

/-- The recursions of the parsers at one input. The interpreter cuts none of them off. -/
structure RecursionsEnd (s : Str) : Prop where
  gres : ∃ out, gresParser s = .ok out
  range : ∃ out, rangeExpression s = .ok out
  nodeRange : ∃ out, nodeRangeExpression s = .ok out
  repeated_shorter : ∀ p ∈ repeatedParsers, ∀ parsed rest, p s = .ok (some parsed, rest) → rest.length < s.length
  repeated_settles : ∀ p ∈ repeatedParsers, ∃ out, ∀ fuel, s.length < fuel → atLeastZeroLoop p fuel s = .ok out
  later_shorter : ∀ parsed rest, chain partialHostname [rangeExpression] s = .ok (some parsed, rest) →
    rest.length < s.length
  later_settles : ∃ out, ∀ fuel, s.length < fuel → laterGroups fuel s = .ok out

theorem recursionsEnd (s : Str) : RecursionsEnd s where
  gres := gresParser_returns s
  range := rangeExpression_returns s
  nodeRange := nodeRangeExpression_returns s
  repeated_shorter p member := (repeatedParsers_consuming p member).shortens s
  repeated_settles p member := (repeatedParsers_consuming p member).loop_settles s
  later_shorter _ _ := laterGroup_shorter
  later_settles := laterGroups_settles s

/-- The combinators keep the law of their parsers, the parsers of GRES strings
and of node lists obey it, and the recursions end on every string. -/
theorem parsers_terminate (s : Str) :
    CombinatorsObey (· <:+ ·) ∧ CombinatorsObey LineSuffix ∧ (∀ p ∈ gresParsers, Obeys (· <:+ ·) p) ∧
      (∀ p ∈ nodelistParsers, Obeys LineSuffix p) ∧ (∀ fuel, Obeys LineSuffix (laterGroups fuel)) ∧
      RecursionsEnd s :=
  ⟨suffix_restRelation.combinatorsObey, lineSuffix_restRelation.combinatorsObey, gresParsers_obey,
    nodelistParsers_obey, laterGroups_obeys, recursionsEnd s⟩

/-- The repetition inside the brackets drops a final newline. -/
theorem atLeastZero_drops_newline :
    atLeastZero commaElement ",1]\n".toList = .ok (some ["1".toList], "]".toList) ∧
      ¬"]".toList <:+ ",1]\n".toList ∧ ¬Obeys (· <:+ ·) (atLeastZero commaElement) := by
  have run : atLeastZero commaElement ",1]\n".toList = .ok (some ["1".toList], "]".toList) := by decide +kernel
  have noSuffix : ¬"]".toList <:+ ",1]\n".toList := by decide
  exact ⟨run, noSuffix, fun obeys => noSuffix (obeys.rest_of _ _ _ run)⟩

end GpuTelemetry
