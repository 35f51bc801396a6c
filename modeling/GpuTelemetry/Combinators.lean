import GpuTelemetry.Exceptions

namespace GpuTelemetry

/-- A parser maps a string to the parsed results, or to `none` on failure,
together with the unconsumed rest. The outer `Except` holds what it raises. -/
abbrev ParseResult (α : Type) := Option (List α) × Str
abbrev Parser (α : Type) := Str → Except PyError (ParseResult α)

variable {α β : Type}

def beginsWith (pre : Str) : Parser Str := fun s =>
  if pre.isPrefixOf s then .ok (some [pre], s.drop pre.length) else .ok (none, s)

def discardResult (parser : Parser α) : Parser β := fun s =>
  match parser s with
  | .error e => .error e
  | .ok (none, _) => .ok (none, s)
  | .ok (some _, rest) => .ok (some [], rest)

/-- The recursion of `at_least_zero`. A parser that shortens the text never uses
up the fuel of `atLeastZero`; the interpreter's own limit on recursion is left out. -/
def atLeastZeroLoop (parser : Parser α) : Nat → Str → Except PyError (List α × Str)
  | 0, _ => .error .recursionError
  | fuel + 1, s =>
    match parser s with
    | .error e => .error e
    | .ok (none, rest) => .ok ([], rest)
    | .ok (some parsed, rest) =>
      match atLeastZeroLoop parser fuel rest with
      | .error e => .error e
      | .ok (parsed', rest') => .ok (parsed ++ parsed', rest')

def atLeastZero (parser : Parser α) : Parser α := fun s =>
  match atLeastZeroLoop parser (s.length + 1) s with
  | .error e => .error e
  | .ok (parsed, rest) => .ok (some parsed, rest)

def firstOf : List (Parser α) → Parser α
  | [], s => .ok (none, s)
  | parser :: parsers, s =>
    match parser s with
    | .error e => .error e
    | .ok (some parsed, rest) => .ok (some parsed, rest)
    | .ok (none, _) => firstOf parsers s

def atLeastOne (parser : Parser α) : Parser α := fun s =>
  match atLeastZero parser s with
  | .error e => .error e
  | .ok (some (a :: parsed), rest) => .ok (some (a :: parsed), rest)
  | .ok (_, _) => .ok (none, s)

/-- The loop of `chain` over the parsers, from the input `s` it falls back to. -/
def chainLoop (s : Str) : List (Parser α) → List α → Str → Except PyError (ParseResult α)
  | [], acc, rest => .ok (some acc, rest)
  | parser :: parsers, acc, rest =>
    match parser rest with
    | .error e => .error e
    | .ok (none, _) => .ok (none, s)
    | .ok (some parsed, rest') => chainLoop s parsers (acc ++ parsed) rest'

/-- `chain` reads `parsers[0]` first, so its list of parsers is not empty. -/
def chain (first : Parser α) (parsers : List (Parser α)) : Parser α := fun s =>
  chainLoop s (first :: parsers) [] s

theorem chainLoop_step {p : Parser α} {ps : List (Parser α)} {s rest rest' : Str} {acc parsed : List α}
    (run : p rest = .ok (some parsed, rest')) :
    chainLoop s (p :: ps) acc rest = chainLoop s ps (acc ++ parsed) rest' := by
  simp [chainLoop, run]

theorem chainLoop_fail {p : Parser α} {ps : List (Parser α)} {s rest rest' : Str} {acc : List α}
    (run : p rest = .ok (none, rest')) : chainLoop s (p :: ps) acc rest = .ok (none, s) := by
  simp [chainLoop, run]

theorem discardResult_ok {p : Parser α} {s rest : Str} {parsed : List α}
    (run : p s = .ok (some parsed, rest)) :
    (discardResult p : Parser β) s = .ok (some [], rest) := by
  simp [discardResult, run]

theorem chainLoop_ok {p : Parser α} {ps : List (Parser α)} {s rest after : Str} {acc parsed : List α}
    (run : chainLoop s (p :: ps) acc rest = .ok (some parsed, after)) :
    ∃ found mid, p rest = .ok (some found, mid) ∧ chainLoop s ps (acc ++ found) mid = .ok (some parsed, after) := by
  unfold chainLoop at run
  split at run
  · simp at run
  · simp at run
  · rename_i found mid first
    exact ⟨found, mid, first, run⟩

theorem chainLoop_done {s rest after : Str} {acc parsed : List α}
    (run : chainLoop s [] acc rest = .ok (some parsed, after)) : acc = parsed ∧ rest = after := by
  simpa [chainLoop] using run

theorem discardResult_eq_ok {p : Parser α} {s rest : Str} {parsed : List β}
    (run : (discardResult p : Parser β) s = .ok (some parsed, rest)) :
    parsed = [] ∧ ∃ found, p s = .ok (some found, rest) := by
  unfold discardResult at run
  split at run
  · simp at run
  · simp at run
  · rename_i found after inner
    simp only [Except.ok.injEq, Prod.mk.injEq, Option.some.injEq] at run
    obtain ⟨rfl, rfl⟩ := run
    exact ⟨rfl, found, inner⟩

/-- The parser of the comprehension `first_of([begins_with(c) for c in cs])`. -/
def oneOf (cs : Str) : Parser Str := firstOf (cs.map fun c => beginsWith [c])

@[simp] theorem beginsWith_append (pre rest : Str) :
    beginsWith pre (pre ++ rest) = .ok (some [pre], rest) := by
  simp [beginsWith, List.isPrefixOf_iff_prefix]

theorem discardResult_char (c : Char) (rest : Str) :
    (discardResult (beginsWith [c]) : Parser β) (c :: rest) = .ok (some [], rest) :=
  discardResult_ok (beginsWith_append [c] rest)

theorem beginsWith_eq_ok {pre s rest : Str} {parsed : List Str}
    (run : beginsWith pre s = .ok (some parsed, rest)) : parsed = [pre] ∧ s = pre ++ rest := by
  unfold beginsWith at run
  split at run
  · rename_i isPrefix
    obtain ⟨tail, rfl⟩ := List.isPrefixOf_iff_prefix.mp isPrefix
    simp only [List.drop_left, Except.ok.injEq, Prod.mk.injEq, Option.some.injEq] at run
    exact ⟨run.1.symm, by rw [run.2]⟩
  · simp at run

theorem beginsWith_unchanged {pre s rest : Str} (run : beginsWith pre s = .ok (none, rest)) : rest = s := by
  unfold beginsWith at run
  split at run
  · cases run
  · cases run
    rfl

theorem discardResult_unchanged {p : Parser α} {s rest : Str}
    (run : (discardResult p : Parser β) s = .ok (none, rest)) : rest = s := by
  unfold discardResult at run
  split at run
  · cases run
  · cases run
    rfl
  · cases run

theorem beginsWith_head_ne {c d : Char} {s : Str} (different : d ≠ c) :
    beginsWith [c] (d :: s) = .ok (none, d :: s) := by
  simp [beginsWith, different.symm]

@[simp] theorem oneOf_nil (cs : Str) : oneOf cs [] = .ok (none, []) := by
  induction cs with
  | nil => rfl
  | cons c cs ih => simpa [oneOf, firstOf, beginsWith] using ih

theorem oneOf_cons (cs : Str) (c : Char) (s : Str) :
    oneOf cs (c :: s) = .ok (if c ∈ cs then (some [[c]], s) else (none, c :: s)) := by
  induction cs with
  | nil => rfl
  | cons d cs ih =>
    by_cases same : c = d
    · subst same
      simp [oneOf, firstOf, beginsWith]
    · simp only [oneOf, List.map_cons, firstOf, beginsWith_head_ne same]
      simpa [oneOf, same] using ih

/-- A parser whose every success consumes something. -/
def Shortens (parser : Parser α) : Prop :=
  ∀ s parsed rest, parser s = .ok (some parsed, rest) → rest.length < s.length

theorem Shortens.discardResult {parser : Parser α} (shortens : Shortens parser) :
    Shortens (discardResult parser : Parser β) := by
  intro s parsed rest run
  obtain ⟨-, found, inner⟩ := discardResult_eq_ok run
  exact shortens s _ _ inner

theorem beginsWith_shortens {pre : Str} (nonempty : pre ≠ []) : Shortens (beginsWith pre) := by
  intro s parsed rest run
  obtain ⟨-, rfl⟩ := beginsWith_eq_ok run
  have positive := List.length_pos_of_ne_nil nonempty
  simp only [List.length_append]
  omega

/-- What `at_least_zero` does: parse until the first failure. -/
inductive Iterates (parser : Parser α) : Str → List α → Str → Prop
  | stop {s rest} : parser s = .ok (none, rest) → Iterates parser s [] rest
  | step {s mid rest parsed parsed'} : parser s = .ok (some parsed, mid) →
      Iterates parser mid parsed' rest → Iterates parser s (parsed ++ parsed') rest

theorem Iterates.loop {parser : Parser α} (shortens : Shortens parser) {s rest : Str}
    {parsed : List α} (iterates : Iterates parser s parsed rest) :
    ∀ fuel, s.length < fuel → atLeastZeroLoop parser fuel s = .ok (parsed, rest) := by
  induction iterates with
  | stop run =>
    intro fuel bound
    cases fuel with
    | zero => omega
    | succ fuel => simp [atLeastZeroLoop, run]
  | @step s mid rest parsed parsed' run _ ih =>
    intro fuel bound
    have less := shortens s _ _ run
    cases fuel with
    | zero => omega
    | succ fuel => simp [atLeastZeroLoop, run, ih fuel (by omega)]

theorem Iterates.of_loop {parser : Parser α} {fuel : Nat} {s rest : Str} {parsed : List α}
    (run : atLeastZeroLoop parser fuel s = .ok (parsed, rest)) : Iterates parser s parsed rest := by
  induction fuel generalizing s parsed rest with
  | zero => simp [atLeastZeroLoop] at run
  | succ fuel ih =>
    unfold atLeastZeroLoop at run
    split at run
    · simp at run
    · rename_i stopped
      simp only [Except.ok.injEq, Prod.mk.injEq] at run
      obtain ⟨rfl, rfl⟩ := run
      exact .stop stopped
    · rename_i first mid stepped
      split at run
      · simp at run
      · rename_i later after loop
        simp only [Except.ok.injEq, Prod.mk.injEq] at run
        obtain ⟨rfl, rfl⟩ := run
        exact .step stepped (ih loop)

theorem atLeastZero_ok {parser : Parser α} {s rest : Str} {parsed : Option (List α)}
    (run : atLeastZero parser s = .ok (parsed, rest)) :
    ∃ found, parsed = some found ∧ Iterates parser s found rest := by
  unfold atLeastZero at run
  split at run
  · cases run
  · rename_i found after loop
    cases run
    exact ⟨found, rfl, .of_loop loop⟩

/-- The recursion limit is never met by a parser that consumes on success. -/
theorem atLeastZero_iff {parser : Parser α} (shortens : Shortens parser) {s rest : Str}
    {parsed : List α} :
    atLeastZero parser s = .ok (some parsed, rest) ↔ Iterates parser s parsed rest := by
  constructor
  · intro run
    obtain ⟨found, same, iterates⟩ := atLeastZero_ok run
    cases same
    exact iterates
  · intro iterates
    simp [atLeastZero, iterates.loop shortens (s.length + 1) (by omega)]

/-- A relation that the parser has between its input and its rest, its runs one
after the other have too. -/
theorem Iterates.rest {parser : Parser α} {R : Str → Str → Prop} (refl : ∀ s, R s s)
    (trans : ∀ {t u s}, R t u → R u s → R t s) (unchanged : ∀ s rest, parser s = .ok (none, rest) → rest = s)
    (each : ∀ s parsed rest, parser s = .ok (some parsed, rest) → R rest s) {s rest : Str} {parsed : List α}
    (iterates : Iterates parser s parsed rest) : R rest s := by
  induction iterates with
  | stop run =>
    rw [unchanged _ _ run]
    exact refl _
  | step run _ ih => exact trans ih (each _ _ _ run)

theorem Iterates.length_le {parser : Parser α} (shortens : Shortens parser) {s rest : Str}
    {parsed : List α} (unchanged : ∀ s rest, parser s = .ok (none, rest) → rest = s)
    (iterates : Iterates parser s parsed rest) : rest.length ≤ s.length :=
  iterates.rest (R := fun t s => t.length ≤ s.length) (fun _ => Nat.le_refl _) Nat.le_trans unchanged
    fun s parsed rest run => (shortens s parsed rest run).le

theorem atLeastOne_shortens {parser : Parser α} (shortens : Shortens parser)
    (unchanged : ∀ s rest, parser s = .ok (none, rest) → rest = s) : Shortens (atLeastOne parser) := by
  intro s parsed rest run
  unfold atLeastOne at run
  split at run
  · simp at run
  · rename_i first later after loop
    simp only [Except.ok.injEq, Prod.mk.injEq] at run
    obtain ⟨-, rfl⟩ := run
    have all := (atLeastZero_iff shortens).mp loop
    generalize total : first :: later = parsedAll at all
    cases all with
    | stop => simp at total
    | step stepped iterates =>
      exact (iterates.length_le shortens unchanged).trans_lt (shortens _ _ _ stepped)
  · simp at run

/-- A parser whose success never gives back more than it was given. -/
def NoLonger (parser : Parser α) : Prop :=
  ∀ s parsed rest, parser s = .ok (some parsed, rest) → rest.length ≤ s.length

theorem Shortens.noLonger {parser : Parser α} (shortens : Shortens parser) : NoLonger parser :=
  fun s parsed rest run => (shortens s parsed rest run).le

theorem atLeastZero_noLonger {parser : Parser α} (shortens : Shortens parser)
    (unchanged : ∀ s rest, parser s = .ok (none, rest) → rest = s) : NoLonger (atLeastZero parser) :=
  fun _ _ _ run => ((atLeastZero_iff shortens).mp run).length_le shortens unchanged

/-- A relation that every parser of a chain has between its input and its rest,
the chain has too. -/
theorem chainLoop_rest {R : Str → Str → Prop} (refl : ∀ s, R s s) (trans : ∀ {t u s}, R t u → R u s → R t s)
    {parsers : List (Parser α)} (each : ∀ p ∈ parsers, ∀ s parsed rest, p s = .ok (some parsed, rest) → R rest s)
    {s s' rest : Str} {acc parsed : List α} (run : chainLoop s parsers acc s' = .ok (some parsed, rest)) :
    R rest s' := by
  induction parsers generalizing acc s' with
  | nil =>
    rw [(chainLoop_done run).2]
    exact refl rest
  | cons p ps ih =>
    obtain ⟨found, mid, first, later⟩ := chainLoop_ok run
    have behind : R rest mid := ih (fun q member => each q (by simp [member])) later
    exact trans behind (each p (by simp) _ _ _ first)

theorem chain_shortens {first : Parser α} {parsers : List (Parser α)} (head : Shortens first)
    (tail : ∀ p ∈ parsers, NoLonger p) : Shortens (chain first parsers) := by
  intro s parsed rest run
  obtain ⟨found, mid, atFirst, later⟩ := chainLoop_ok run
  have within : rest.length ≤ mid.length :=
    chainLoop_rest (R := fun t s => t.length ≤ s.length) (fun _ => Nat.le_refl _) Nat.le_trans tail later
  exact within.trans_lt (head _ _ _ atFirst)

theorem chainLoop_unchanged {parsers : List (Parser α)} {s s' rest : Str} {acc : List α}
    (run : chainLoop s parsers acc s' = .ok (none, rest)) : rest = s := by
  induction parsers generalizing acc s' with
  | nil => simp [chainLoop] at run
  | cons p ps ih =>
    unfold chainLoop at run
    split at run
    · simp at run
    · simpa using run.symm
    · exact ih run

theorem chain_unchanged {first : Parser α} {parsers : List (Parser α)} {s rest : Str}
    (run : chain first parsers s = .ok (none, rest)) : rest = s :=
  chainLoop_unchanged run

/-- The results of a chain begin with those of its earlier parsers. -/
theorem chainLoop_extends {parsers : List (Parser α)} {s s' rest : Str} {acc parsed : List α}
    (run : chainLoop s parsers acc s' = .ok (some parsed, rest)) : ∃ more, parsed = acc ++ more := by
  induction parsers generalizing acc s' with
  | nil => exact ⟨[], by simp [(chainLoop_done run).1]⟩
  | cons p ps ih =>
    obtain ⟨found, mid, -, later⟩ := chainLoop_ok run
    obtain ⟨more, grown⟩ := ih later
    exact ⟨found ++ more, by rw [grown, List.append_assoc]⟩

/-- A parser that never raises. -/
def Returns (parser : Parser α) : Prop := ∀ s, ∃ out, parser s = .ok out

theorem beginsWith_returns (pre : Str) : Returns (beginsWith pre) := by
  intro s
  unfold beginsWith
  split <;> exact ⟨_, rfl⟩

theorem Returns.discardResult {parser : Parser α} (returns : Returns parser) :
    Returns (discardResult parser : Parser β) := by
  intro s
  obtain ⟨⟨parsed, rest⟩, run⟩ := returns s
  cases parsed with
  | none => exact ⟨(none, s), by simp [GpuTelemetry.discardResult, run]⟩
  | some parsed => exact ⟨_, discardResult_ok run⟩

theorem chain_returns {first : Parser α} {parsers : List (Parser α)}
    (returns : ∀ p ∈ first :: parsers, Returns p) : Returns (chain first parsers) := by
  intro s
  have general : ∀ (ps : List (Parser α)), (∀ p ∈ ps, Returns p) → ∀ (acc : List α) (s' : Str),
      ∃ out, chainLoop s ps acc s' = .ok out := by
    intro ps
    induction ps with
    | nil => intro _ acc s'; exact ⟨_, rfl⟩
    | cons p ps ih =>
      intro each acc s'
      obtain ⟨⟨parsed, rest⟩, run⟩ := each p (by simp) s'
      cases parsed with
      | none => exact ⟨_, chainLoop_fail run⟩
      | some parsed =>
        rw [chainLoop_step run]
        exact ih (fun q member => each q (by simp [member])) _ _
  exact general _ returns _ _

theorem atLeastZero_returns {parser : Parser α} (returns : Returns parser) (shortens : Shortens parser) :
    Returns (atLeastZero parser) := by
  have loop : ∀ fuel s, s.length < fuel → ∃ out, atLeastZeroLoop parser fuel s = .ok out := by
    intro fuel
    induction fuel with
    | zero => intro s bound; omega
    | succ fuel ih =>
      intro s bound
      obtain ⟨⟨parsed, rest⟩, run⟩ := returns s
      cases parsed with
      | none => exact ⟨([], rest), by simp [atLeastZeroLoop, run]⟩
      | some parsed =>
        have less := shortens s parsed rest run
        obtain ⟨⟨later, after⟩, loop⟩ := ih rest (by omega)
        exact ⟨(parsed ++ later, after), by simp [atLeastZeroLoop, run, loop]⟩
  intro s
  obtain ⟨out, run⟩ := loop (s.length + 1) s (by omega)
  exact ⟨(some out.1, out.2), by simp [atLeastZero, run]⟩

theorem firstOf_returns {parsers : List (Parser α)} (returns : ∀ p ∈ parsers, Returns p) :
    Returns (firstOf parsers) := by
  intro s
  induction parsers with
  | nil => exact ⟨(none, s), rfl⟩
  | cons p ps ih =>
    obtain ⟨⟨parsed, rest⟩, run⟩ := returns p (by simp) s
    cases parsed with
    | none =>
      obtain ⟨out, later⟩ := ih fun q member => returns q (by simp [member])
      exact ⟨out, by simp [firstOf, run, later]⟩
    | some parsed => exact ⟨(some parsed, rest), by simp [firstOf, run]⟩

theorem firstOf_ok {parsers : List (Parser α)} {s rest : Str} {parsed : List α}
    (run : firstOf parsers s = .ok (some parsed, rest)) : ∃ p ∈ parsers, p s = .ok (some parsed, rest) := by
  induction parsers with
  | nil => simp [firstOf] at run
  | cons p ps ih =>
    unfold firstOf at run
    split at run
    · simp at run
    · rename_i found
      exact ⟨p, by simp, found.trans run⟩
    · obtain ⟨q, member, found⟩ := ih run
      exact ⟨q, by simp [member], found⟩

theorem oneOf_unchanged (cs s rest : Str) (run : oneOf cs s = .ok (none, rest)) : rest = s := by
  cases s with
  | nil => simpa using run.symm
  | cons c s =>
    rw [oneOf_cons] at run
    split at run
    · simp at run
    · simpa using run.symm

theorem oneOf_shortens (cs : Str) : Shortens (oneOf cs) := by
  intro s parsed rest run
  cases s with
  | nil => simp at run
  | cons c s =>
    rw [oneOf_cons] at run
    split at run
    · simp only [Except.ok.injEq, Prod.mk.injEq] at run
      simp [← run.2]
    · simp at run

theorem oneOf_iterates {cs run rest : Str} (within : ∀ c ∈ run, c ∈ cs)
    (ends : ∀ c ∈ rest.head?, c ∉ cs) :
    Iterates (oneOf cs) (run ++ rest) (run.map fun c => [c]) rest := by
  induction run with
  | nil =>
    cases rest with
    | nil => exact .stop (oneOf_nil cs)
    | cons c rest => exact .stop (by simp [oneOf_cons, ends c (by simp)])
  | cons c run ih =>
    have member := within c (by simp)
    have first : oneOf cs (c :: run ++ rest) = .ok (some [[c]], run ++ rest) := by simp [oneOf_cons, member]
    exact .step first (ih fun d inRun => within d (by simp [inRun]))

theorem atLeastOne_oneOf {cs rest : Str} {c : Char} {run : Str} (within : ∀ d ∈ c :: run, d ∈ cs)
    (ends : ∀ d ∈ rest.head?, d ∉ cs) :
    atLeastOne (oneOf cs) (c :: run ++ rest) = .ok (some ((c :: run).map fun d => [d]), rest) := by
  have iterates := oneOf_iterates within ends
  unfold atLeastOne
  rw [(atLeastZero_iff (oneOf_shortens cs)).mpr iterates]
  rfl

end GpuTelemetry
