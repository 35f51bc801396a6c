import GpuTelemetry.Dicts
import GpuTelemetry.FallibleFolds
import GpuTelemetry.PyStrings
import Mathlib.Data.List.Infix

/-! The decoder of the `json` module. -/

namespace GpuTelemetry

/-- A Python string as its code points. An escape in a JSON string can give half
of a surrogate pair, which is no character. -/
abbrev PyStr := List Nat

def codePoints (s : Str) : PyStr := s.map Char.toNat

/-- What `json.loads` returns. The entries of a dictionary have distinct keys. -/
inductive Json
  | null
  | bool (value : Bool)
  | int (value : Int)
  | float (value : Float)
  | str (value : PyStr)
  | arr (items : List Json)
  | obj (entries : List (PyStr × Json))

/-- A `JSONDecodeError` with its message, or another exception that a conversion raises. -/
abbrev Decoded (α : Type) := Except PyError α

def decodeError {α : Type} (msg : String) : Decoded α := .error (.jsonDecodeError msg.toList)

def isJsonSpace (c : Char) : Bool := " \t\n\r".toList.contains c

def skipSpace (s : Str) : Str := s.dropWhile isJsonSpace

/-! ### Strings -/

def hexDigit (c : Char) : Option Nat :=
  if c.isDigit then some (c.toNat - 48)
  else if 'a' ≤ c ∧ c ≤ 'f' then some (c.toNat - 87)
  else if 'A' ≤ c ∧ c ≤ 'F' then some (c.toNat - 55)
  else none

def hexCode (ds : Str) : Option Nat := (ds.mapM hexDigit).map fun values => values.foldl (fun n d => 16 * n + d) 0

/-- The character after a backslash, other than `u`. -/
def simpleEscape (c : Char) : Option Nat :=
  ([('"', 34), ('\\', 92), ('/', 47), ('b', 8), ('f', 12), ('n', 10), ('r', 13), ('t', 9)] : List (Char × Nat)).lookup c

/-- The code points of a string up to the quote that closes it, each escape as
one of them. -/
def scanCodes : Str → Decoded (PyStr × Str)
  | [] => decodeError "Unterminated string starting at"
  | c :: s =>
    if c = '"' then .ok ([], s)
    else if c = '\\' then
      match s with
      | [] => decodeError "Unterminated string starting at"
      | e :: s =>
        if e = 'u' then
          match s with
          | a :: b :: c :: d :: s =>
            match hexCode [a, b, c, d] with
            | none => decodeError "Invalid \\uXXXX escape"
            | some code => (scanCodes s).map fun scanned => (code :: scanned.1, scanned.2)
          | _ => decodeError "Invalid \\uXXXX escape"
        else
          match simpleEscape e with
          | none => decodeError "Invalid \\escape: "
          | some code => (scanCodes s).map fun scanned => (code :: scanned.1, scanned.2)
    else if c.toNat < 0x20 then decodeError "Invalid control character at"
    else (scanCodes s).map fun scanned => (c.toNat :: scanned.1, scanned.2)

/-- Two halves of a surrogate pair become the character that they stand for. -/
def joinSurrogates : PyStr → PyStr
  | [] => []
  | high :: codes =>
    match codes with
    | [] => [high]
    | low :: rest =>
      if 0xD800 ≤ high ∧ high ≤ 0xDBFF ∧ 0xDC00 ≤ low ∧ low ≤ 0xDFFF then
        (0x10000 + (high - 0xD800) * 0x400 + (low - 0xDC00)) :: joinSurrogates rest
      else high :: joinSurrogates (low :: rest)

/-- A string, after its opening quote. -/
def scanString (s : Str) : Decoded (PyStr × Str) :=
  (scanCodes s).map fun scanned => (joinSurrogates scanned.1, scanned.2)

/-! ### Numbers -/

/-- The digits after a point, if it is followed by one. -/
def scanFraction : Str → Option Str × Str
  | '.' :: s => if s.takeWhile Char.isDigit = [] then (none, '.' :: s)
      else (some (s.takeWhile Char.isDigit), s.dropWhile Char.isDigit)
  | s => (none, s)

/-- The sign and the digits of an exponent. -/
def exponentDigits : Str → Option (Bool × Str × Str)
  | '-' :: s => if s.takeWhile Char.isDigit = [] then none
      else some (true, s.takeWhile Char.isDigit, s.dropWhile Char.isDigit)
  | '+' :: s => if s.takeWhile Char.isDigit = [] then none
      else some (false, s.takeWhile Char.isDigit, s.dropWhile Char.isDigit)
  | s => if s.takeWhile Char.isDigit = [] then none
      else some (false, s.takeWhile Char.isDigit, s.dropWhile Char.isDigit)

def scanExponent (s : Str) : Option Int × Str :=
  match s with
  | [] => (none, s)
  | e :: rest =>
    if e = 'e' ∨ e = 'E' then
      match exponentDigits rest with
      | none => (none, s)
      | some (negative, ds, rest) =>
        let value : Int := intOfDigits ds
        (some (if negative then -value else value), rest)
    else (none, s)

/-- The float nearest to `mantissa * 10 ^ exponent`. -/
def decimalFloat (negative : Bool) (mantissa : Nat) (exponent : Int) : Float :=
  let value := Float.ofScientific mantissa (exponent < 0) exponent.natAbs
  if negative then -value else value

variable (py : Interpreter)

/-- A number, after its sign. -/
def scanUnsigned (negative : Bool) (s : Str) : Decoded (Json × Str) :=
  let whole := if s.head? = some '0' then ['0'] else s.takeWhile Char.isDigit
  if whole = [] then decodeError "Expecting value"
  else
    let (fraction, afterFraction) := scanFraction (s.drop whole.length)
    let (exponent, rest) := scanExponent afterFraction
    if fraction = none ∧ exponent = none then
      if py.exceeds whole.length then .error (.valueError "Exceeds the limit for integer string conversion".toList)
      else
        let value : Int := intOfDigits whole
        .ok (.int (if negative then -value else value), rest)
    else
      let decimals := fraction.getD []
      .ok (.float (decimalFloat negative (intOfDigits (whole ++ decimals)) (exponent.getD 0 - decimals.length)), rest)

/-! ### Values -/

/-- The items of a list, up to the bracket that closes it. -/
def scanItems (scan : Str → Decoded (Json × Str)) : Nat → Str → Decoded (List Json × Str)
  | 0, _ => decodeError "Expecting value"
  | fuel + 1, s =>
    match scan s with
    | .error e => .error e
    | .ok (item, after) =>
      match skipSpace after with
      | ']' :: rest => .ok ([item], rest)
      | ',' :: rest => (scanItems scan fuel (skipSpace rest)).map fun scanned => (item :: scanned.1, scanned.2)
      | _ => decodeError "Expecting ',' delimiter"

/-- The entries of a dictionary, up to the bracket that closes it. -/
def scanEntries (scan : Str → Decoded (Json × Str)) : Nat → Str → Decoded (List (PyStr × Json) × Str)
  | 0, _ => decodeError "Expecting property name enclosed in double quotes"
  | fuel + 1, s =>
    match s with
    | '"' :: s =>
      match scanString s with
      | .error e => .error e
      | .ok (key, afterKey) =>
        match skipSpace afterKey with
        | ':' :: s =>
          match scan (skipSpace s) with
          | .error e => .error e
          | .ok (value, after) =>
            match skipSpace after with
            | '\x7d' :: rest => .ok ([(key, value)], rest)
            | ',' :: rest =>
              (scanEntries scan fuel (skipSpace rest)).map fun scanned => ((key, value) :: scanned.1, scanned.2)
            | _ => decodeError "Expecting ',' delimiter"
        | _ => decodeError "Expecting ':' delimiter"
    | _ => decodeError "Expecting property name enclosed in double quotes"

/-- A value that is no list and no dictionary. -/
def scanScalar (s : Str) : Decoded (Json × Str) :=
  match s with
  | [] => decodeError "Expecting value"
  | c :: rest =>
    if c = '"' then (scanString rest).map fun scanned => (.str scanned.1, scanned.2)
    else if "null".toList.isPrefixOf s then .ok (.null, s.drop 4)
    else if "true".toList.isPrefixOf s then .ok (.bool true, s.drop 4)
    else if "false".toList.isPrefixOf s then .ok (.bool false, s.drop 5)
    else if "NaN".toList.isPrefixOf s then .ok (.float (0 / 0), s.drop 3)
    else if "Infinity".toList.isPrefixOf s then .ok (.float (1 / 0), s.drop 8)
    else if "-Infinity".toList.isPrefixOf s then .ok (.float (-1 / 0), s.drop 9)
    else if c = '-' then scanUnsigned py true rest
    else scanUnsigned py false s

/-- `scan_once`. Each list and dictionary goes one level deeper, and the
recursion has a limit. -/
def scanOnce : Nat → Str → Decoded (Json × Str)
  | 0, s =>
    match s with
    | '[' :: _ | '\x7b' :: _ => .error .recursionError
    | s => scanScalar py s
  | depth + 1, s =>
    match s with
    | '[' :: rest =>
      match skipSpace rest with
      | ']' :: rest => .ok (.arr [], rest)
      | s => (scanItems (scanOnce depth) (s.length + 1) s).map fun scanned => (.arr scanned.1, scanned.2)
    | '\x7b' :: rest =>
      match skipSpace rest with
      | '\x7d' :: rest => .ok (.obj [], rest)
      | s => (scanEntries (scanOnce depth) (s.length + 1) s).map fun scanned =>
          (.obj (dictUpdate [] scanned.1), scanned.2)
    | s => scanScalar py s

/-- `json.loads`, with the depth that the recursion may still reach. -/
def jsonLoads (depth : Nat) (s : Str) : Decoded Json :=
  if s.head? = some '\uFEFF' then decodeError "Unexpected UTF-8 BOM (decode using utf-8-sig)"
  else
    match scanOnce py depth (skipSpace s) with
    | .error e => .error e
    | .ok (value, rest) => if skipSpace rest = [] then .ok value else decodeError "Extra data"

/-! ### The fuel of the loops -/

theorem scanCodes_shorter {s : Str} {scanned : PyStr × Str} (run : scanCodes s = .ok scanned) :
    scanned.2.length < s.length := by
  fun_induction scanCodes s generalizing scanned with
  | case1 => cases run
  | case2 s =>
    obtain rfl : ([], s) = scanned := Except.ok.inj run
    simp
  | case3 => cases run
  | case4 => cases run
  | case5 a b c d s code _ _ ih =>
    obtain ⟨later, scannedLater, rfl⟩ := map_returned run
    have shorter := ih scannedLater
    simp only [List.length_cons]
    omega
  | case6 => cases run
  | case7 => cases run
  | case8 e s _ code _ _ ih =>
    obtain ⟨later, scannedLater, rfl⟩ := map_returned run
    have shorter := ih scannedLater
    simp only [List.length_cons]
    omega
  | case9 => cases run
  | case10 c s _ _ _ ih =>
    obtain ⟨later, scannedLater, rfl⟩ := map_returned run
    have shorter := ih scannedLater
    simp only [List.length_cons]
    omega

theorem scanString_shorter {s : Str} {scanned : PyStr × Str} (run : scanString s = .ok scanned) :
    scanned.2.length < s.length := by
  obtain ⟨codes, scannedCodes, rfl⟩ := map_returned run
  exact (scanCodes_shorter scannedCodes :)

theorem scanFraction_le (s : Str) : (scanFraction s).2.length ≤ s.length := by
  unfold scanFraction
  split
  · split
    · exact le_rfl
    · exact (List.dropWhile_suffix _).length_le.trans (by simp)
  · exact le_rfl

theorem scanExponent_le (s : Str) : (scanExponent s).2.length ≤ s.length := by
  have after : ∀ rest found, exponentDigits rest = some found → found.2.2.length ≤ rest.length := by
    intro rest found isFound
    unfold exponentDigits at isFound
    split at isFound
    all_goals
      split at isFound
      · cases isFound
      · obtain rfl := Option.some.inj isFound
        exact (List.dropWhile_suffix _).length_le.trans (by simp)
  unfold scanExponent
  split
  · exact le_rfl
  · rename_i e rest
    split
    · cases digits : exponentDigits rest with
      | none => exact le_rfl
      | some found => exact (after rest found digits).trans (by simp)
    · exact le_rfl

theorem scanUnsigned_shorter {negative : Bool} {s : Str} {scanned : Json × Str}
    (run : scanUnsigned py negative s = .ok scanned) : scanned.2.length < s.length := by
  unfold scanUnsigned at run
  generalize wholeIs : (if s.head? = some '0' then ['0'] else s.takeWhile Char.isDigit) = whole at run
  dsimp only at run
  by_cases empty : whole = []
  · rw [if_pos empty] at run
    cases run
  have within : whole.length ≤ s.length := by
    rw [← wholeIs]
    split
    · rename_i zero
      cases s with
      | nil => simp at zero
      | cons c s => simp
    · exact (List.takeWhile_prefix _).length_le
  have positive : 0 < whole.length := List.length_pos_iff.mpr empty
  have rest := (scanExponent_le (scanFraction (s.drop whole.length)).2).trans (scanFraction_le (s.drop whole.length))
  rw [List.length_drop] at rest
  rw [if_neg empty] at run
  split at run
  · split at run
    · cases run
    · obtain rfl := Except.ok.inj run
      dsimp only
      omega
  · obtain rfl := Except.ok.inj run
    dsimp only
    omega

theorem skipSpace_le (s : Str) : (skipSpace s).length ≤ s.length := (List.dropWhile_suffix _).length_le

theorem skipSpace_cons_shorter {s rest : Str} {c : Char} (skipped : skipSpace s = c :: rest) :
    rest.length < s.length := by
  have within := skipSpace_le s
  rw [skipped, List.length_cons] at within
  omega

section

variable {scan : Str → Decoded (Json × Str)}
  (shorter : ∀ s scanned, scan s = .ok scanned → scanned.2.length < s.length)

include shorter in
theorem scanItems_shorter {fuel : Nat} {s : Str} {scanned : List Json × Str}
    (run : scanItems scan fuel s = .ok scanned) : scanned.2.length < s.length := by
  induction fuel generalizing s scanned with
  | zero => cases run
  | succ fuel ih =>
    rw [scanItems] at run
    cases first : scan s with
    | error e => rw [first] at run; cases run
    | ok scannedItem =>
      obtain ⟨item, after⟩ := scannedItem
      have before := shorter s _ first
      rw [first] at run
      dsimp only at run before
      split at run
      · rename_i rest atEnd
        obtain rfl := Except.ok.inj run
        exact (skipSpace_cons_shorter atEnd).trans before
      · rename_i rest atComma
        obtain ⟨later, scannedLater, rfl⟩ := map_returned run
        have within := skipSpace_le rest
        have afterComma := skipSpace_cons_shorter atComma
        have further := ih scannedLater
        dsimp only
        omega
      · cases run

include shorter in
/-- Fuel for the whole text is enough. -/
theorem scanItems_fuel {fuel fuel' : Nat} {s : Str} (enough : s.length < fuel) (enough' : s.length < fuel') :
    scanItems scan fuel s = scanItems scan fuel' s := by
  induction fuel generalizing fuel' s with
  | zero => exact absurd enough (Nat.not_lt_zero _)
  | succ fuel ih =>
    cases fuel' with
    | zero => exact absurd enough' (Nat.not_lt_zero _)
    | succ fuel' =>
      rw [scanItems, scanItems]
      cases first : scan s with
      | error e => rfl
      | ok scannedItem =>
        obtain ⟨item, after⟩ := scannedItem
        have before := shorter s _ first
        dsimp only at before ⊢
        split
        · rfl
        · rename_i rest atComma
          have within := skipSpace_le rest
          have afterComma := skipSpace_cons_shorter atComma
          have same : scanItems scan fuel (skipSpace rest) = scanItems scan fuel' (skipSpace rest) :=
            ih (by omega) (by omega)
          rw [same]
        · rfl

include shorter in
theorem scanEntries_shorter {fuel : Nat} {s : Str} {scanned : List (PyStr × Json) × Str}
    (run : scanEntries scan fuel s = .ok scanned) : scanned.2.length < s.length := by
  induction fuel generalizing s scanned with
  | zero => cases run
  | succ fuel ih =>
    unfold scanEntries at run
    split at run
    swap
    · cases run
    rename_i s
    cases scannedString : scanString s with
    | error e => rw [scannedString] at run; cases run
    | ok scannedKey =>
      obtain ⟨key, afterKey⟩ := scannedKey
      have beforeKey := scanString_shorter scannedString
      rw [scannedString] at run
      dsimp only at run beforeKey
      split at run
      swap
      · cases run
      rename_i afterColon atColon
      have colon := skipSpace_cons_shorter atColon
      have space := skipSpace_le afterColon
      cases scannedValue : scan (skipSpace afterColon) with
      | error e => rw [scannedValue] at run; cases run
      | ok found =>
        obtain ⟨value, after⟩ := found
        have before := shorter _ _ scannedValue
        rw [scannedValue] at run
        dsimp only at run before
        rw [List.length_cons]
        split at run
        · rename_i rest atEnd
          obtain rfl := Except.ok.inj run
          have ends := skipSpace_cons_shorter atEnd
          dsimp only
          omega
        · rename_i rest atComma
          obtain ⟨later, scannedLater, rfl⟩ := map_returned run
          have within := skipSpace_le rest
          have afterComma := skipSpace_cons_shorter atComma
          have further := ih scannedLater
          dsimp only
          omega
        · cases run

include shorter in
/-- Fuel for the whole text is enough. -/
theorem scanEntries_fuel {fuel fuel' : Nat} {s : Str} (enough : s.length < fuel) (enough' : s.length < fuel') :
    scanEntries scan fuel s = scanEntries scan fuel' s := by
  induction fuel generalizing fuel' s with
  | zero => exact absurd enough (Nat.not_lt_zero _)
  | succ fuel ih =>
    cases fuel' with
    | zero => exact absurd enough' (Nat.not_lt_zero _)
    | succ fuel' =>
      unfold scanEntries
      split
      swap
      · rfl
      rename_i s
      rw [List.length_cons] at enough enough'
      cases scannedString : scanString s with
      | error e => rfl
      | ok scannedKey =>
        obtain ⟨key, afterKey⟩ := scannedKey
        have beforeKey := scanString_shorter scannedString
        dsimp only at beforeKey ⊢
        split
        swap
        · rfl
        rename_i afterColon atColon
        have colon := skipSpace_cons_shorter atColon
        have space := skipSpace_le afterColon
        cases scannedValue : scan (skipSpace afterColon) with
        | error e => rfl
        | ok found =>
          obtain ⟨value, after⟩ := found
          have before := shorter _ _ scannedValue
          dsimp only at before ⊢
          split
          · rfl
          · rename_i rest atComma
            have within := skipSpace_le rest
            have afterComma := skipSpace_cons_shorter atComma
            have same : scanEntries scan fuel (skipSpace rest) = scanEntries scan fuel' (skipSpace rest) :=
              ih (by omega) (by omega)
            rw [same]
          · rfl

end

theorem scanScalar_shorter {s : Str} {scanned : Json × Str} (run : scanScalar py s = .ok scanned) :
    scanned.2.length < s.length := by
  unfold scanScalar at run
  split at run
  · cases run
  rename_i c rest
  have dropped : ∀ n, 0 < n → ((c :: rest).drop n).length < (c :: rest).length := by
    intro n positive
    rw [List.length_drop, List.length_cons]
    omega
  split at run
  · obtain ⟨found, scannedString, rfl⟩ := map_returned run
    exact (scanString_shorter scannedString).trans (by simp)
  iterate 6
    split at run
    · obtain rfl := Except.ok.inj run
      exact dropped _ (by decide)
  split at run
  · exact (scanUnsigned_shorter py run).trans (by simp)
  · exact scanUnsigned_shorter py run

/-- A value takes at least one character, so the fuel of the loops never runs out. -/
theorem scanOnce_shorter {depth : Nat} {s : Str} {scanned : Json × Str} (run : scanOnce py depth s = .ok scanned) :
    scanned.2.length < s.length := by
  induction depth generalizing s scanned with
  | zero =>
    unfold scanOnce at run
    split at run
    · cases run
    · cases run
    · exact scanScalar_shorter py run
  | succ depth ih =>
    unfold scanOnce at run
    split at run
    · rename_i rest
      rw [List.length_cons]
      split at run
      · rename_i atEnd
        obtain rfl := Except.ok.inj run
        exact (skipSpace_cons_shorter atEnd).trans (Nat.lt_succ_self _)
      · obtain ⟨found, scannedItems, rfl⟩ := map_returned run
        have shorter := scanItems_shorter (fun s scanned => ih) scannedItems
        have within := skipSpace_le rest
        dsimp only
        omega
    · rename_i rest
      rw [List.length_cons]
      split at run
      · rename_i atEnd
        obtain rfl := Except.ok.inj run
        exact (skipSpace_cons_shorter atEnd).trans (Nat.lt_succ_self _)
      · obtain ⟨found, scannedEntries, rfl⟩ := map_returned run
        have shorter := scanEntries_shorter (fun s scanned => ih) scannedEntries
        have within := skipSpace_le rest
        dsimp only
        omega
    · exact scanScalar_shorter py run

/-! ### Operations on decoded values -/

namespace Json

/-- The name of the type. -/
def typeName : Json → Str
  | .null => "NoneType".toList
  | .bool _ => "bool".toList
  | .int _ => "int".toList
  | .float _ => "float".toList
  | .str _ => "str".toList
  | .arr _ => "list".toList
  | .obj _ => "dict".toList

def truthy : Json → Bool
  | .null => false
  | .bool value => value
  | .int value => value ≠ 0
  | .float value => !(value == 0)
  | .str value => value ≠ []
  | .arr items => !items.isEmpty
  | .obj entries => !entries.isEmpty

/-- `==` with a string. -/
def isStr (text : PyStr) : Json → Bool
  | .str value => value = text
  | _ => false

/-- A dictionary, a list or a string. -/
def isContainer : Json → Bool
  | .obj _ | .arr _ | .str _ => true
  | _ => false

/-- What a container has under a key, as a list or a string has it. -/
def mentions (value : Json) (text : PyStr) : Bool :=
  match value with
  | .obj entries => (dictGet entries text).isSome
  | .arr items => items.any (isStr text)
  | .str value => occursIn text value
  | _ => false

/-- The entry of a dictionary. -/
def entryOf (value : Json) (key : PyStr) : Option Json :=
  match value with
  | .obj entries => dictGet entries key
  | _ => none

/-- What an iteration goes through. -/
def elements : Json → List Json
  | .obj entries => entries.map fun entry => .str entry.1
  | .arr items => items
  | .str value => value.map fun code => .str [code]
  | _ => []

/-- `text in value`. -/
def contains (value : Json) (text : String) : Except PyError Bool :=
  if value.isContainer then .ok (value.mentions (codePoints text.toList))
  else .error (.typeError ("argument of type '".toList ++ value.typeName ++ "' is not iterable".toList))

/-- `value[key]`. -/
def item (value : Json) (key : String) : Except PyError Json :=
  match value with
  | .obj entries =>
    match dictGet entries (codePoints key.toList) with
    | none => .error (.keyError ("'".toList ++ key.toList ++ "'".toList))
    | some found => .ok found
  | .arr _ => .error (.typeError "list indices must be integers or slices, not str".toList)
  | .str _ => .error (.typeError "string indices must be integers, not 'str'".toList)
  | _ => .error (.typeError ("'".toList ++ value.typeName ++ "' object is not subscriptable".toList))

/-- `value.get(key)`. -/
def get (value : Json) (key : String) : Except PyError (Option Json) :=
  match value with
  | .obj entries => .ok (dictGet entries (codePoints key.toList))
  | _ => .error (.attributeError ("'".toList ++ value.typeName ++ "' object has no attribute 'get'".toList))

/-- `value[0]`. -/
def first (value : Json) : Except PyError Json :=
  match value with
  | .arr (item :: _) => .ok item
  | .arr [] => .error (.indexError "list index out of range".toList)
  | .str (code :: _) => .ok (.str [code])
  | .str [] => .error (.indexError "string index out of range".toList)
  | .obj _ => .error (.keyError "0".toList)
  | _ => .error (.typeError ("'".toList ++ value.typeName ++ "' object is not subscriptable".toList))

/-- `len(value)`. -/
def len (value : Json) : Except PyError Nat :=
  if value.isContainer then .ok value.elements.length
  else .error (.typeError ("object of type '".toList ++ value.typeName ++ "' has no len()".toList))

/-- The values that a `for` loop goes through. -/
def iterate (value : Json) : Except PyError (List Json) :=
  if value.isContainer then .ok value.elements
  else .error (.typeError ("'".toList ++ value.typeName ++ "' object is not iterable".toList))

theorem contains_eq {value : Json} (container : value.isContainer = true) (text : String) :
    value.contains text = .ok (value.mentions (codePoints text.toList)) :=
  if_pos container

theorem iterate_eq {value : Json} (container : value.isContainer = true) : value.iterate = .ok value.elements :=
  if_pos container

theorem item_eq {value : Json} {key : String} {found : Json}
    (entry : value.entryOf (codePoints key.toList) = some found) : value.item key = .ok found := by
  cases value with
  | obj entries =>
    have here : dictGet entries (codePoints key.toList) = some found := entry
    simp [item, here]
  | _ => simp [entryOf] at entry

theorem item_error {value : Json} {key : String} (missing : value.entryOf (codePoints key.toList) = none) :
    ∃ e, value.item key = .error e := by
  cases value with
  | obj entries =>
    have here : dictGet entries (codePoints key.toList) = none := missing
    exact ⟨_, by simp only [item, here]; rfl⟩
  | _ => exact ⟨_, rfl⟩

end Json

end GpuTelemetry
