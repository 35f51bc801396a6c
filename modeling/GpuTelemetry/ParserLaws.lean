import GpuTelemetry.Combinators

namespace GpuTelemetry

/-- How the rest of a parser is related to its input: at least every suffix of
the input is, and so is the rest of a rest. -/
structure RestRelation (R : Str → Str → Prop) : Prop where
  of_suffix : ∀ {t s}, t <:+ s → R t s
  trans : ∀ {t u s}, R t u → R u s → R t s

/-- A parser gives its input back on failure, and on success a rest of it. -/
structure Obeys {α : Type} (R : Str → Str → Prop) (parser : Parser α) : Prop where
  unchanged : ∀ s rest, parser s = .ok (none, rest) → rest = s
  rest_of : ∀ s parsed rest, parser s = .ok (some parsed, rest) → R rest s

/-- Every combinator obeys the law when the parsers that it is given do. -/
structure CombinatorsObey (R : Str → Str → Prop) : Prop where
  beginsWith : ∀ pre, Obeys R (beginsWith pre)
  discardResult : ∀ {α β : Type} (p : Parser α), Obeys R p → Obeys R (discardResult p : Parser β)
  atLeastZero : ∀ {α : Type} (p : Parser α), Obeys R p → Obeys R (atLeastZero p)
  firstOf : ∀ {α : Type} (ps : List (Parser α)), (∀ p ∈ ps, Obeys R p) → Obeys R (firstOf ps)
  atLeastOne : ∀ {α : Type} (p : Parser α), Obeys R p → Obeys R (atLeastOne p)
  chain : ∀ {α : Type} (p : Parser α) (ps : List (Parser α)),
    (∀ q ∈ p :: ps, Obeys R q) → Obeys R (chain p ps)

variable {α β : Type} {R : Str → Str → Prop}

theorem RestRelation.refl (rests : RestRelation R) (s : Str) : R s s :=
  rests.of_suffix List.suffix_rfl

theorem beginsWith_obeys (rests : RestRelation R) (pre : Str) : Obeys R (beginsWith pre) where
  unchanged _ _ := beginsWith_unchanged
  rest_of s parsed rest run := by
    obtain ⟨-, rfl⟩ := beginsWith_eq_ok run
    exact rests.of_suffix (List.suffix_append pre rest)

theorem Obeys.discardResult {p : Parser α} (obeys : Obeys R p) : Obeys R (discardResult p : Parser β) where
  unchanged _ _ := discardResult_unchanged
  rest_of s parsed rest run := by
    obtain ⟨-, found, inner⟩ := discardResult_eq_ok run
    exact obeys.rest_of s found rest inner

theorem Obeys.atLeastZero {p : Parser α} (obeys : Obeys R p) (rests : RestRelation R) : Obeys R (atLeastZero p) where
  unchanged s rest run := by
    obtain ⟨found, impossible, -⟩ := atLeastZero_ok run
    cases impossible
  rest_of s parsed rest run := by
    obtain ⟨found, -, iterates⟩ := atLeastZero_ok run
    exact iterates.rest rests.refl rests.trans obeys.unchanged obeys.rest_of

theorem Obeys.atLeastOne {p : Parser α} (obeys : Obeys R p) (rests : RestRelation R) : Obeys R (atLeastOne p) where
  unchanged s rest run := by
    unfold GpuTelemetry.atLeastOne at run
    split at run
    · cases run
    · cases run
    · cases run
      rfl
  rest_of s parsed rest run := by
    unfold GpuTelemetry.atLeastOne at run
    split at run
    · cases run
    · rename_i repeats
      cases run
      exact (obeys.atLeastZero rests).rest_of _ _ _ repeats
    · cases run

theorem firstOf_unchanged {parsers : List (Parser α)} {s rest : Str}
    (run : firstOf parsers s = .ok (none, rest)) : rest = s := by
  induction parsers with
  | nil =>
    cases run
    rfl
  | cons p ps ih =>
    unfold firstOf at run
    split at run
    · cases run
    · cases run
    · exact ih run

theorem firstOf_obeys {parsers : List (Parser α)} (each : ∀ p ∈ parsers, Obeys R p) : Obeys R (firstOf parsers) where
  unchanged _ _ := firstOf_unchanged
  rest_of s parsed rest run := by
    obtain ⟨p, member, found⟩ := firstOf_ok run
    exact (each p member).rest_of s parsed rest found

theorem chain_obeys {first : Parser α} {parsers : List (Parser α)} (rests : RestRelation R)
    (each : ∀ p ∈ first :: parsers, Obeys R p) : Obeys R (chain first parsers) where
  unchanged _ _ := chain_unchanged
  rest_of _ _ _ run := chainLoop_rest rests.refl rests.trans (fun p member => (each p member).rest_of) run

/-- The law is closed under every combinator, whatever relation the rests are in. -/
theorem RestRelation.combinatorsObey (rests : RestRelation R) : CombinatorsObey R where
  beginsWith := beginsWith_obeys rests
  discardResult _ obeys := obeys.discardResult
  atLeastZero _ obeys := obeys.atLeastZero rests
  firstOf _ each := firstOf_obeys each
  atLeastOne _ obeys := obeys.atLeastOne rests
  chain _ _ each := chain_obeys rests each

theorem suffix_restRelation : RestRelation (· <:+ ·) where
  of_suffix suffix := suffix
  trans := List.IsSuffix.trans

theorem RestRelation.oneOf_obeys (rests : RestRelation R) (cs : Str) : Obeys R (oneOf cs) := by
  refine firstOf_obeys fun p member => ?_
  obtain ⟨c, -, rfl⟩ := List.mem_map.mp member
  exact beginsWith_obeys rests [c]

end GpuTelemetry
