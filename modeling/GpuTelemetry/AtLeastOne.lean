import GpuTelemetry.Combinators

namespace GpuTelemetry

variable {α : Type}

/-- A parser that does not raise, shortens what it parses and gives back what it
cannot parse. -/
structure Consuming (parser : Parser α) : Prop where
  returns : Returns parser
  shortens : Shortens parser
  unchanged : ∀ s rest, parser s = .ok (none, rest) → rest = s

def Fails (parser : Parser α) (s : Str) : Prop := ∃ rest, parser s = .ok (none, rest)

/-- `at_least_one` fails with the parser, and otherwise goes on behind its first run. -/
structure RunsAtLeastOnce (parser : Parser α) (s : Str) : Prop where
  fails_iff : Fails (atLeastOne parser) s ↔ Fails parser s
  goes_on : ∀ parsed rest, parser s = .ok (some parsed, rest) → ∃ parsed' rest',
    atLeastZero parser rest = .ok (some parsed', rest') ∧ atLeastOne parser s = .ok (some (parsed ++ parsed'), rest')

/-- The strings that the parser comes to, each of which is left by the run before. -/
inductive Reaches (parser : Parser α) : Str → Str → Prop
  | here {s} : Reaches parser s s
  | step {s mid t parsed} : parser s = .ok (some parsed, mid) → Reaches parser mid t → Reaches parser s t

/-- Some run of the parser has a result. -/
def HasResult (parser : Parser α) (s : Str) : Prop :=
  ∃ t parsed rest, Reaches parser s t ∧ parser t = .ok (some parsed, rest) ∧ parsed ≠ []

variable {parser : Parser α} {s rest : Str}

theorem hasResult_of_fails (run : parser s = .ok (none, rest)) : ¬HasResult parser s := by
  rintro ⟨t, parsed, after, reaches, runs, -⟩
  cases reaches with
  | here =>
    rw [run] at runs
    cases runs
  | step first _ =>
    rw [run] at first
    cases first

theorem hasResult_step {parsed : List α} {mid : Str} (run : parser s = .ok (some parsed, mid)) :
    HasResult parser s ↔ parsed ≠ [] ∨ HasResult parser mid := by
  constructor
  · rintro ⟨t, found, after, reaches, runs, nonempty⟩
    cases reaches with
    | here =>
      rw [run] at runs
      cases runs
      exact .inl nonempty
    | step first later =>
      rw [run] at first
      cases first
      exact .inr ⟨t, found, after, later, runs, nonempty⟩
  · rintro (nonempty | ⟨t, found, after, reaches, runs, nonempty⟩)
    · exact ⟨s, parsed, mid, .here, run, nonempty⟩
    · exact ⟨t, found, after, .step run reaches, runs, nonempty⟩

/-- The aggregated result is empty when no run has a result. -/
theorem Iterates.ne_nil_iff {parsed : List α} (iterates : Iterates parser s parsed rest) :
    parsed ≠ [] ↔ HasResult parser s := by
  induction iterates with
  | stop run => exact iff_of_false (fun nonempty => nonempty rfl) (hasResult_of_fails run)
  | step run _ ih => rw [hasResult_step run, ← ih, ne_eq, List.append_eq_nil_iff, not_and_or]

theorem Consuming.iterates (consuming : Consuming parser) (s : Str) : ∃ parsed rest, Iterates parser s parsed rest := by
  obtain ⟨⟨found, rest⟩, run⟩ := atLeastZero_returns consuming.returns consuming.shortens s
  unfold atLeastZero at run
  split at run
  · cases run
  · rename_i parsed after loop
    exact ⟨parsed, after, .of_loop loop⟩

theorem Iterates.atLeastOne_some {parsed : List α} (iterates : Iterates parser s parsed rest)
    (shortens : Shortens parser) (nonempty : parsed ≠ []) : atLeastOne parser s = .ok (some parsed, rest) := by
  rw [atLeastOne, (atLeastZero_iff shortens).mpr iterates]
  cases parsed with
  | nil => exact absurd rfl nonempty
  | cons a parsed => rfl

theorem Iterates.atLeastOne_none (iterates : Iterates parser s [] rest) (shortens : Shortens parser) :
    atLeastOne parser s = .ok (none, s) := by
  rw [atLeastOne, (atLeastZero_iff shortens).mpr iterates]

/-- The repetition does what its name says exactly on the strings on which the
parser fails or some of its runs has a result. -/
theorem runsAtLeastOnce_iff (consuming : Consuming parser) (s : Str) :
    RunsAtLeastOnce parser s ↔ Fails parser s ∨ HasResult parser s := by
  obtain ⟨⟨first, mid⟩, run⟩ := consuming.returns s
  cases first with
  | none =>
    have fails : atLeastOne parser s = .ok (none, s) := (Iterates.stop run).atLeastOne_none consuming.shortens
    refine iff_of_true ⟨iff_of_true ⟨s, fails⟩ ⟨mid, run⟩, fun parsed rest succeeds => ?_⟩ (.inl ⟨mid, run⟩)
    rw [run] at succeeds
    cases succeeds
  | some parsed =>
    obtain ⟨parsed', rest, later⟩ := consuming.iterates mid
    have repeats := (atLeastZero_iff consuming.shortens).mpr later
    have iterates : Iterates parser s (parsed ++ parsed') rest := .step run later
    have succeeds : ¬Fails parser s := by
      rintro ⟨other, fails⟩
      rw [run] at fails
      cases fails
    rw [or_iff_right succeeds, ← iterates.ne_nil_iff]
    constructor
    · intro once empty
      rw [empty] at iterates
      exact succeeds (once.fails_iff.mp ⟨s, iterates.atLeastOne_none consuming.shortens⟩)
    · intro nonempty
      have found := iterates.atLeastOne_some consuming.shortens nonempty
      refine ⟨iff_of_false ?_ succeeds, fun parsed₀ rest₀ run₀ => ?_⟩
      · rintro ⟨other, fails⟩
        rw [found] at fails
        cases fails
      · rw [run] at run₀
        cases run₀
        exact ⟨parsed', rest, repeats, found⟩

/-- A run with a result is enough. -/
theorem runsAtLeastOnce_iff_letter :
    RunsAtLeastOnce (beginsWith ['a']) ['a', 'b'] ↔
      Fails (beginsWith ['a']) ['a', 'b'] ∨ HasResult (beginsWith ['a']) ['a', 'b'] :=
  runsAtLeastOnce_iff ⟨beginsWith_returns ['a'], beginsWith_shortens (by decide), fun _ _ => beginsWith_unchanged⟩ _

/-- A parser that discards its results succeeds, and its repetition fails. -/
theorem atLeastOne_fails_discarded :
    let parser : Parser Str := discardResult (beginsWith ['a'])
    Consuming parser ∧ parser ['a', 'b'] = .ok (some [], ['b']) ∧
      atLeastOne parser ['a', 'b'] = .ok (none, ['a', 'b']) ∧ ¬RunsAtLeastOnce parser ['a', 'b'] := by
  intro parser
  have consuming : Consuming parser := by
    refine ⟨(beginsWith_returns ['a']).discardResult, (beginsWith_shortens (by decide)).discardResult, ?_⟩
    exact fun _ _ => discardResult_unchanged
  refine ⟨consuming, rfl, rfl, fun once => ?_⟩
  obtain ⟨rest, fails⟩ := once.fails_iff.mp ⟨_, rfl⟩
  cases fails

end GpuTelemetry
