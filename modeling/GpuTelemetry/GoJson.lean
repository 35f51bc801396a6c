import GpuTelemetry.Json

/-! The `encoding/json` package of Go, as far as it decodes values and encodes
strings and objects. Nothing here mentions a particular program. -/

namespace GpuTelemetry

inductive GoJson
  | null
  | boolean (value : Bool)
  | number (literal : Str)
  | string (text : Str)
  | array (items : List GoJson)
  | object (entries : List (Str × GoJson))

/-! ### Decoding -/

/-- Half of a surrogate pair alone becomes U+FFFD. -/
def goRune (code : Nat) : Char := if code.isValidChar then Char.ofNat code else '\uFFFD'

/-- A string, after its opening quote. -/
def goString (s : Str) : Option (Str × Str) :=
  match scanCodes s with
  | .ok (codes, rest) => some ((joinSurrogates codes).map goRune, rest)
  | .error _ => none

/-- At least one digit. -/
def goDigits (s : Str) : Option Str :=
  if s.takeWhile Char.isDigit = [] then none else some (s.dropWhile Char.isDigit)

def goExponent : Str → Option Str
  | c :: s =>
    if c = 'e' ∨ c = 'E' then
      match s with
      | '+' :: s => goDigits s
      | '-' :: s => goDigits s
      | s => goDigits s
    else some (c :: s)
  | [] => some []

def goFraction : Str → Option Str
  | '.' :: s => (goDigits s).bind goExponent
  | s => goExponent s

/-- What follows a number, whose sign has been read. -/
def goUnsigned : Str → Option Str
  | '0' :: s => goFraction s
  | s => (goDigits s).bind goFraction

def goNumber (s : Str) : Option (GoJson × Str) :=
  let rest := match s with
    | '-' :: s => goUnsigned s
    | s => goUnsigned s
  rest.map fun rest => (.number (s.take (s.length - rest.length)), rest)

def goScalar (s : Str) : Option (GoJson × Str) :=
  match s with
  | '"' :: s => (goString s).map fun scanned => (.string scanned.1, scanned.2)
  | s =>
    if "null".toList.isPrefixOf s then some (.null, s.drop 4)
    else if "true".toList.isPrefixOf s then some (.boolean true, s.drop 4)
    else if "false".toList.isPrefixOf s then some (.boolean false, s.drop 5)
    else goNumber s

/-- The items of an array, up to the bracket that closes it. -/
def goItems (value : Str → Option (GoJson × Str)) : Nat → Str → Option (List GoJson × Str)
  | 0, _ => none
  | fuel + 1, s =>
    match value s with
    | none => none
    | some (item, after) =>
      match skipSpace after with
      | ']' :: rest => some ([item], rest)
      | ',' :: rest => (goItems value fuel (skipSpace rest)).map fun scanned => (item :: scanned.1, scanned.2)
      | _ => none

/-- A key with its value, and what follows them. -/
def goEntry (value : Str → Option (GoJson × Str)) (s : Str) : Option ((Str × GoJson) × Str) :=
  match s with
  | '"' :: s =>
    match goString s with
    | none => none
    | some (key, afterKey) =>
      match skipSpace afterKey with
      | ':' :: s => (value (skipSpace s)).map fun scanned => ((key, scanned.1), skipSpace scanned.2)
      | _ => none
  | _ => none

/-- The entries of an object, up to the bracket that closes it. -/
def goEntries (value : Str → Option (GoJson × Str)) : Nat → Str → Option (List (Str × GoJson) × Str)
  | 0, _ => none
  | fuel + 1, s =>
    match goEntry value s with
    | some (entry, '\x7d' :: rest) => some ([entry], rest)
    | some (entry, ',' :: rest) =>
      (goEntries value fuel (skipSpace rest)).map fun scanned => (entry :: scanned.1, scanned.2)
    | _ => none

/-- A value that is nested at most so deep. -/
def goValue : Nat → Str → Option (GoJson × Str)
  | 0, s => goScalar s
  | depth + 1, s =>
    match s with
    | '[' :: rest =>
      match skipSpace rest with
      | ']' :: rest => some (.array [], rest)
      | s => (goItems (goValue depth) (s.length + 1) s).map fun scanned => (.array scanned.1, scanned.2)
    | '\x7b' :: rest =>
      match skipSpace rest with
      | '\x7d' :: rest => some (.object [], rest)
      | s => (goEntries (goValue depth) (s.length + 1) s).map fun scanned => (.object scanned.1, scanned.2)
    | s => goScalar s

def maxNestingDepth : Nat := 10000

/-- The only value of a text. -/
def goDocument (s : Str) : Option GoJson :=
  match goValue maxNestingDepth (skipSpace s) with
  | some (value, rest) => if skipSpace rest = [] then some value else none
  | none => none

/-! ### Encoding -/

def hexLower (n : Nat) : Char := "0123456789abcdef".toList.getD n '0'

/-- A character of a string. Those of HTML are escaped, too. -/
def goEscape (c : Char) : Str :=
  if c = '"' then ['\\', '"']
  else if c = '\\' then ['\\', '\\']
  else if c = '\x08' then ['\\', 'b']
  else if c = '\x0c' then ['\\', 'f']
  else if c = '\n' then ['\\', 'n']
  else if c = '\r' then ['\\', 'r']
  else if c = '\t' then ['\\', 't']
  else if c.toNat < 0x20 ∨ c = '<' ∨ c = '>' ∨ c = '&' then
    ['\\', 'u', '0', '0', hexLower (c.toNat / 16), hexLower (c.toNat % 16)]
  else if c = '\u2028' ∨ c = '\u2029' then ['\\', 'u', '2', '0', '2', hexLower (c.toNat % 16)]
  else [c]

def goQuoted (s : Str) : Str := '"' :: (s.flatMap goEscape ++ ['"'])

def entryText (entry : Str × Str) : Str := goQuoted entry.1 ++ ':' :: entry.2

def entriesText (entries : List (Str × Str)) : Str := [','].intercalate (entries.map entryText)

/-- An object, by its keys and the texts of its values. -/
def goObject (entries : List (Str × Str)) : Str := '\x7b' :: (entriesText entries ++ ['\x7d'])

/-! ### Decoding what was encoded -/

theorem goRune_toNat (c : Char) : goRune c.toNat = c := by
  have valid : c.toNat.isValidChar := c.valid
  rw [goRune, if_pos valid]
  exact Char.ofNat_toNat c

/-- No character is half of a surrogate pair. -/
theorem joinSurrogates_codePoints (s : Str) : joinSurrogates (codePoints s) = codePoints s := by
  induction s with
  | nil => rfl
  | cons high s ih =>
    have whole : ¬(0xD800 ≤ high.toNat ∧ high.toNat ≤ 0xDBFF) := by
      have valid : high.toNat.isValidChar := high.valid
      unfold Nat.isValidChar at valid
      omega
    cases s with
    | nil => rfl
    | cons low s =>
      show (if _ then _ else high.toNat :: joinSurrogates (codePoints (low :: s))) = _
      rw [if_neg (by tauto), ih]
      rfl

theorem hexCode_control : ∀ n < 0x40, hexCode ['0', '0', hexLower (n / 16), hexLower (n % 16)] = some n := by
  decide

theorem scanCodes_simple {e : Char} {code : Nat} (escape : simpleEscape e = some code) (other : e ≠ 'u') (s : Str) :
    scanCodes ('\\' :: e :: s) = (scanCodes s).map fun scanned => (code :: scanned.1, scanned.2) := by
  rw [scanCodes.eq_def]
  simp only [Char.reduceEq, if_false, if_true, if_neg other, escape]

theorem scanCodes_unicode {a b c d : Char} {code : Nat} (hex : hexCode [a, b, c, d] = some code) (s : Str) :
    scanCodes ('\\' :: 'u' :: a :: b :: c :: d :: s) =
      (scanCodes s).map fun scanned => (code :: scanned.1, scanned.2) := by
  rw [scanCodes.eq_def]
  simp only [Char.reduceEq, if_false, if_true, hex]

theorem scanCodes_plain {c : Char} (noQuote : c ≠ '"') (noBackslash : c ≠ '\\') (noControl : ¬c.toNat < 0x20)
    (s : Str) :
    scanCodes (c :: s) = (scanCodes s).map fun scanned => (c.toNat :: scanned.1, scanned.2) := by
  rw [scanCodes.eq_def]
  simp only [if_neg noQuote, if_neg noBackslash, if_neg noControl]

theorem scanCodes_escape (c : Char) (s : Str) :
    scanCodes (goEscape c ++ s) = (scanCodes s).map fun scanned => (c.toNat :: scanned.1, scanned.2) := by
  by_cases quote : c = '"'
  · subst quote
    exact scanCodes_simple (by decide) (by decide) s
  by_cases backslash : c = '\\'
  · subst backslash
    exact scanCodes_simple (by decide) (by decide) s
  by_cases simple : c = '\x08' ∨ c = '\x0c' ∨ c = '\n' ∨ c = '\r' ∨ c = '\t'
  · rcases simple with rfl | rfl | rfl | rfl | rfl
    all_goals exact scanCodes_simple (by decide) (by decide) s
  obtain ⟨b, f, n, r, t⟩ : c ≠ '\x08' ∧ c ≠ '\x0c' ∧ c ≠ '\n' ∧ c ≠ '\r' ∧ c ≠ '\t' := by simpa using simple
  by_cases escaped : c.toNat < 0x20 ∨ c = '<' ∨ c = '>' ∨ c = '&'
  · have escape : goEscape c = ['\\', 'u', '0', '0', hexLower (c.toNat / 16), hexLower (c.toNat % 16)] := by
      simp only [goEscape, quote, backslash, b, f, n, r, t, if_false, if_pos escaped]
    have small : c.toNat < 0x40 := by
      rcases escaped with control | rfl | rfl | rfl
      · omega
      all_goals decide
    rw [escape]
    exact scanCodes_unicode (hexCode_control c.toNat small) s
  by_cases separator : c = '\u2028' ∨ c = '\u2029'
  · have escape : goEscape c = ['\\', 'u', '2', '0', '2', hexLower (c.toNat % 16)] := by
      simp only [goEscape, quote, backslash, b, f, n, r, t, if_false, if_neg escaped, if_pos separator]
    rw [escape]
    rcases separator with rfl | rfl
    all_goals exact scanCodes_unicode (by decide) s
  · have escape : goEscape c = [c] := by
      simp only [goEscape, quote, backslash, b, f, n, r, t, if_false, if_neg escaped, if_neg separator]
    rw [escape]
    exact scanCodes_plain quote backslash (fun control => escaped (.inl control)) s

theorem scanCodes_flatMap (s rest : Str) :
    scanCodes (s.flatMap goEscape ++ '"' :: rest) = .ok (codePoints s, rest) := by
  induction s with
  | nil =>
    rw [List.flatMap_nil, List.nil_append, scanCodes.eq_def]
    rfl
  | cons c s ih =>
    rw [List.flatMap_cons, List.append_assoc, scanCodes_escape, ih]
    rfl

theorem goString_quoted (s rest : Str) : goString (s.flatMap goEscape ++ '"' :: rest) = some (s, rest) := by
  have runes : (codePoints s).map goRune = s := by
    rw [codePoints, List.map_map]
    exact List.map_id'' goRune_toNat s
  rw [goString, scanCodes_flatMap]
  dsimp only
  rw [joinSurrogates_codePoints, runes]

theorem goQuoted_append (s rest : Str) : goQuoted s ++ rest = '"' :: (s.flatMap goEscape ++ '"' :: rest) := by
  simp [goQuoted]

theorem goValue_quoted (depth : Nat) (s rest : Str) :
    goValue depth (goQuoted s ++ rest) = some (.string s, rest) := by
  rw [goQuoted_append]
  have scalar : goScalar ('"' :: (s.flatMap goEscape ++ '"' :: rest)) = some (.string s, rest) := by
    simp only [goScalar, goString_quoted, Option.map_some]
  cases depth with
  | zero => exact scalar
  | succ depth => exact scalar

/-- A text that decodes to a value, whatever follows. -/
structure Encodes (depth : Nat) (text : Str) (value : GoJson) : Prop where
  solid : ∃ c s, text = c :: s ∧ isJsonSpace c = false
  decodes : ∀ rest, goValue depth (text ++ rest) = some (value, rest)

theorem skipSpace_of_head {c : Char} (solid : isJsonSpace c = false) (s : Str) : skipSpace (c :: s) = c :: s :=
  List.dropWhile_cons_of_neg (by simp [solid])

theorem Encodes.skipSpace_eq {depth : Nat} {text : Str} {value : GoJson} (encodes : Encodes depth text value)
    (rest : Str) : skipSpace (text ++ rest) = text ++ rest := by
  obtain ⟨c, s, rfl, solid⟩ := encodes.solid
  exact skipSpace_of_head solid (s ++ rest)

theorem Encodes.quoted (depth : Nat) (s : Str) : Encodes depth (goQuoted s) (.string s) :=
  ⟨⟨'"', _, rfl, by decide⟩, goValue_quoted depth s⟩

theorem goEntry_text {depth : Nat} {key text : Str} {value : GoJson} (encodes : Encodes depth text value)
    (rest : Str) : goEntry (goValue depth) (entryText (key, text) ++ rest) = some ((key, value), skipSpace rest) := by
  have whole : entryText (key, text) ++ rest = '"' :: (key.flatMap goEscape ++ '"' :: ':' :: (text ++ rest)) := by
    simp [entryText, goQuoted]
  rw [whole]
  simp only [goEntry, goString_quoted, skipSpace_of_head (show isJsonSpace ':' = false by decide), encodes.skipSpace_eq,
    encodes.decodes, Option.map_some]

theorem entriesText_cons_cons (entry next : Str × Str) (entries : List (Str × Str)) :
    entriesText (entry :: next :: entries) = entryText entry ++ ',' :: entriesText (next :: entries) := by
  simp [entriesText, List.intercalate_cons_cons]

theorem entriesText_head (entry : Str × Str) (entries : List (Str × Str)) :
    ∃ s, entriesText (entry :: entries) = '"' :: s := by
  cases entries with
  | nil => exact ⟨_, by simp only [entriesText, List.map_singleton, List.intercalate_singleton]; rfl⟩
  | cons next entries => exact ⟨_, entriesText_cons_cons entry next entries⟩

theorem length_le_entriesText (entries : List (Str × Str)) : entries.length ≤ (entriesText entries).length := by
  induction entries with
  | nil => exact Nat.zero_le _
  | cons entry entries ih =>
    cases entries with
    | nil =>
      obtain ⟨s, head⟩ := entriesText_head entry []
      simp [head]
    | cons next entries =>
      rw [entriesText_cons_cons]
      simp only [List.length_cons, List.length_append] at ih ⊢
      omega

variable {β : Type} {depth : Nat} {text : β → Str} {value : β → GoJson}

theorem goEntries_text {items : List (Str × β)} (encodes : ∀ item ∈ items, Encodes depth (text item.2) (value item.2))
    (nonempty : items ≠ []) {fuel : Nat} (enough : items.length ≤ fuel) (rest : Str) :
    goEntries (goValue depth) fuel (entriesText (items.map fun item => (item.1, text item.2)) ++ '\x7d' :: rest) =
      some (items.map fun item => (item.1, value item.2), rest) := by
  induction items generalizing fuel with
  | nil => exact absurd rfl nonempty
  | cons item items ih =>
    have first := encodes item List.mem_cons_self
    cases fuel with
    | zero => exact absurd enough (Nat.not_succ_le_zero _)
    | succ fuel =>
      cases items with
      | nil =>
        have alone : entriesText [(item.1, text item.2)] = entryText (item.1, text item.2) := by simp [entriesText]
        rw [List.map_singleton, alone, goEntries, goEntry_text first, skipSpace_of_head (by decide)]
        rfl
      | cons next items =>
        have later := ih (fun item member => encodes item (.tail _ member)) (List.cons_ne_nil _ _)
          (Nat.le_of_succ_le_succ enough)
        obtain ⟨s, head⟩ := entriesText_head (next.1, text next.2) (items.map fun item => (item.1, text item.2))
        rw [List.map_cons, head] at later
        rw [List.map_cons, List.map_cons, entriesText_cons_cons, head, List.append_assoc, goEntries,
          goEntry_text first, List.cons_append, skipSpace_of_head (by decide)]
        show Option.map _ (goEntries (goValue depth) fuel (skipSpace ('"' :: (s ++ '\x7d' :: rest)))) = _
        rw [skipSpace_of_head (by decide), ← List.cons_append, later]
        rfl

/-- An object of values that decode decodes to the object of these. -/
theorem Encodes.object (text : β → Str) (value : β → GoJson) {items : List (Str × β)}
    (encodes : ∀ item ∈ items, Encodes depth (text item.2) (value item.2)) :
    Encodes (depth + 1) (goObject (items.map fun item => (item.1, text item.2)))
      (.object (items.map fun item => (item.1, value item.2))) := by
  refine ⟨⟨'\x7b', _, rfl, by decide⟩, fun rest => ?_⟩
  cases items with
  | nil =>
    show goValue (depth + 1) ('\x7b' :: '\x7d' :: rest) = some (.object [], rest)
    rw [goValue, skipSpace_of_head (by decide)]
    rfl
  | cons item items =>
    obtain ⟨s, head⟩ := entriesText_head (item.1, text item.2) (items.map fun item => (item.1, text item.2))
    have whole : goObject ((item :: items).map fun item => (item.1, text item.2)) ++ rest =
        '\x7b' :: (entriesText ((item :: items).map fun item => (item.1, text item.2)) ++ '\x7d' :: rest) := by
      simp [goObject]
    have count := length_le_entriesText ((item :: items).map fun item => (item.1, text item.2))
    have enough : (item :: items).length ≤
        (entriesText ((item :: items).map fun item => (item.1, text item.2)) ++ '\x7d' :: rest).length + 1 := by
      rw [List.length_map] at count
      rw [List.length_append]
      omega
    have inside := goEntries_text encodes (List.cons_ne_nil _ _) enough rest
    rw [List.map_cons, head] at inside whole
    rw [List.map_cons, whole, goValue, List.cons_append, skipSpace_of_head (by decide)]
    show Option.map _ (goEntries _ _ _) = _
    rw [← List.cons_append, inside]
    rfl

/-- What follows the text of a value is rejected unless it is blank. -/
theorem Encodes.document {text : Str} {value : GoJson} (encodes : Encodes maxNestingDepth text value) (rest : Str) :
    goDocument (text ++ rest) = if skipSpace rest = [] then some value else none := by
  rw [goDocument, encodes.skipSpace_eq, encodes.decodes]

end GpuTelemetry
