import GpuTelemetry.Combinators
import Mathlib.Data.List.ProdSigma

namespace GpuTelemetry

/-- The loop of `split_outer_commas`: the text still to read, the bracket
level, and the text read since the last split. -/
def splitOuterCommasLoop : Str → Int → Str → List Str
  | [], _, current => [strip current]
  | c :: s, bracketLevel, current =>
    if c = '[' then splitOuterCommasLoop s (bracketLevel + 1) (current ++ [c])
    else if c = ']' then splitOuterCommasLoop s (bracketLevel - 1) (current ++ [c])
    else if c = ',' ∧ bracketLevel = 0 then strip current :: splitOuterCommasLoop s bracketLevel []
    else splitOuterCommasLoop s bracketLevel (current ++ [c])

/-- The stripped parts, empty ones included. -/
def outerParts (s : Str) : List Str := splitOuterCommasLoop s 0 []

def splitOuterCommas (s : Str) : List Str := (outerParts s).filter (· ≠ [])

/-- The expression `(.*)$`: the rest of the line, if at most one newline ends it. -/
def restOfLine (s : Str) : Option Str :=
  let line := s.takeWhile (· ≠ '\n')
  if s = line ∨ s = line ++ ['\n'] then some line else none

/-- `$` also matches before a final newline. -/
def withoutFinalNewline (s : Str) : Str := if s.getLast? = some '\n' then s.dropLast else s

def isHostChar (c : Char) : Bool := c.isAlphanum || c == '-'

/-- `^([A-Za-z0-9])([A-Za-z0-9\-])*([A-Za-z0-9])$` -/
def matchesSingleNode (s : Str) : Bool :=
  2 ≤ s.length && s.head?.any Char.isAlphanum && s.getLast?.any Char.isAlphanum && s.all isHostChar

def singleNode : Parser Str := fun s =>
  if matchesSingleNode (withoutFinalNewline s) then .ok (some [withoutFinalNewline s], [])
  else .ok (none, s)

/-- `^[A-Za-z0-9][A-Za-z0-9\-]*$` -/
def matchesPrefix (s : Str) : Bool := s.head?.any Char.isAlphanum && s.all isHostChar

def hostnameStartEndChar : Parser Str := fun s =>
  if s = [] then .ok (none, s)
  else
    let pre := s.takeWhile (· ≠ '[')
    if '[' ∈ s ∧ pre ≠ [] then
      if matchesPrefix (withoutFinalNewline pre) then .ok (some [pre], s.dropWhile (· ≠ '['))
      else .ok (none, s)
    else
      match s with
      | [] => .ok (none, s)
      | c :: s' =>
        if c.isAlphanum then
          match restOfLine s' with
          | none => .ok (none, s)
          | some rest => .ok (some [[c]], rest)
        else .ok (none, s)

def partialHostname : Parser Str := fun s =>
  match restOfLine (s.dropWhile isHostChar) with
  | none => .ok (none, s)
  | some rest => .ok (some [s.takeWhile isHostChar], rest)

def hostnamePrefix : Parser Str := fun s =>
  match chain hostnameStartEndChar [partialHostname] s with
  | .error e => .error e
  | .ok (none, _) => .ok (none, s)
  | .ok (some parsed, rest) => .ok (some [parsed.flatten], rest)

/-- `^([0-9]+)-([0-9]+)(.*)$` -/
def rangePattern (s : Str) : Option (Str × Str × Str) :=
  match s.dropWhile Char.isDigit with
  | '-' :: after =>
    if s.takeWhile Char.isDigit = [] ∨ after.takeWhile Char.isDigit = [] then none
    else (restOfLine (after.dropWhile Char.isDigit)).map fun rest =>
      (s.takeWhile Char.isDigit, after.takeWhile Char.isDigit, rest)
  | _ => none

/-- `^(0*)([0-9]+)(.*)$`, where the second group keeps at least one digit. -/
def singleNumberPattern (s : Str) : Option (Str × Str × Str) :=
  let run := s.takeWhile Char.isDigit
  if run = [] then none
  else (restOfLine (s.dropWhile Char.isDigit)).map fun rest =>
    if run.dropWhile (· = '0') = [] then (run.dropLast, ['0'], rest)
    else (run.takeWhile (· = '0'), run.dropWhile (· = '0'), rest)

/-- The numbers `start..stop`, each printed with the format `{num:0<width>d}`. -/
def paddedRange (width start stop : Nat) : List Str :=
  (List.range' start (stop + 1 - start)).map fun i => zfill width (decimal i)

def rangeExpressionElement : Parser Str := fun s =>
  match rangePattern s with
  | none =>
    match singleNumberPattern s with
    | none => .ok (none, s)
    | some (zeroes, number, rest) => .ok (some [zeroes ++ number], rest)
  | some (start, stop, rest) =>
    if intOfDigits stop < intOfDigits start then .ok (none, s)
    else
      match singleNumberPattern start with
      | none => .ok (none, s)
      | some (leadingZeroes, remainingDigits, _) =>
        .ok (some (paddedRange (leadingZeroes.length + remainingDigits.length)
          (intOfDigits start) (intOfDigits stop)), rest)

/-- The parser that `range_expression` repeats. -/
abbrev commaElement : Parser Str := chain (discardResult (beginsWith [','])) [rangeExpressionElement]

def rangeExpression : Parser Str :=
  chain (discardResult (beginsWith ['[']))
    [rangeExpressionElement, atLeastZero commaElement, discardResult (beginsWith [']'])]

/-- The common end of both parsers of `node_range_expression`: put the prefix in
front of its suffixes, and those in front of everything parsed after them. -/
def combineRest (parsed parsedRest : List Str) (unparsed : Str) : Except PyError (ParseResult Str) :=
  match parsed with
  | [] => .error (.valueError "not enough values to unpack (expected at least 1, got 0)".toList)
  | pre :: suffixes =>
    if parsedRest = [] then .ok (some (suffixes.map fun suffix => pre ++ suffix), unparsed)
    else .ok (some ((suffixes.product parsedRest).map fun pair => pre ++ pair.1 ++ pair.2), unparsed)

/-- The recursion `parser_` over the later bracket groups. -/
def laterGroups : Nat → Parser Str
  | 0, _ => .error .recursionError
  | fuel + 1, s =>
    if s = [] then .ok (some [], [])
    else
      match chain partialHostname [rangeExpression] s with
      | .error e => .error e
      | .ok (none, _) => .ok (none, s)
      | .ok (some parsed, rest) =>
        match laterGroups fuel rest with
        | .error e => .error e
        | .ok (none, _) => .ok (none, s)
        | .ok (some parsedRest, unparsed) => combineRest parsed parsedRest unparsed

def nodeRangeExpression : Parser Str := fun s =>
  match chain hostnamePrefix [rangeExpression] s with
  | .error e => .error e
  | .ok (none, _) => .ok (none, s)
  | .ok (some parsed, rest) =>
    match laterGroups (rest.length + 1) rest with
    | .error e => .error e
    | .ok (none, _) => .ok (none, s)
    | .ok (some parsedRest, unparsed) => combineRest parsed parsedRest unparsed

/-- The loop of `nodelist_parser` over the parts of its input `s`. -/
def nodelistLoop (s : Str) : List Str → List Str → Except PyError (ParseResult Str)
  | [], result => .ok (some result, [])
  | part :: parts, result =>
    match firstOf [nodeRangeExpression, singleNode] part with
    | .error e => .error e
    | .ok (none, _) => .ok (none, s)
    | .ok (some parsed, leftover) =>
      if leftover = [] then nodelistLoop s parts (result ++ parsed) else .ok (none, s)

/-- The interpreter's limits, on recursion and on the digits `int` takes, are left out. -/
def nodelistParser : Parser Str := fun s =>
  if s = [] then .ok (none, s) else nodelistLoop s (splitOuterCommas s) []

def nodelist : Parser Str := nodelistParser

end GpuTelemetry
