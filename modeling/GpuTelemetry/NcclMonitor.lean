import GpuTelemetry.ChunkedReading
import GpuTelemetry.Json
import Mathlib.Data.List.Sort

namespace GpuTelemetry

/-- `NCCLCollectiveMetrics`; the type and the rank are whatever the record has. -/
structure NCCLCollectiveMetrics (F : Type) where
  collectiveType : Json
  rank : Json
  messageSizeBytes : Option F
  bandwidthBytesPerSec : Option F
  busBandwidthBytesPerSec : Option F
  durationUs : Option F
  isStraggler : Option Int

/-- A record without what the detection of stragglers adds to it. -/
def NCCLCollectiveMetrics.measured {F : Type} (m : NCCLCollectiveMetrics F) : NCCLCollectiveMetrics F :=
  { m with isStraggler := none }

/-- A decoded value as the key of a dictionary; numbers that are equal are one key. -/
inductive DictKey
  | none
  | text (value : PyStr)
  | int (value : Int)
  | float (value : Float)
  deriving DecidableEq

/-- The integer that a float is equal to. -/
def floatInteger (x : Float) : Option Int :=
  match x.toModel.unpack with
  | .zero _ => some 0
  | .finite sign m e _ =>
    let magnitude : Option Nat :=
      if 0 ≤ e then some (m * 2 ^ e.toNat) else if m % 2 ^ (-e).toNat = 0 then some (m / 2 ^ (-e).toNat) else none
    magnitude.map fun n => match sign with
      | .negative => -(n : Int)
      | .positive => n
  | _ => none

/-- The key of a value that has a hash. -/
def dictKey : Json → Except PyError DictKey
  | .null => .ok .none
  | .bool value => .ok (.int (if value then 1 else 0))
  | .int value => .ok (.int value)
  | .float value =>
    match floatInteger value with
    | some n => .ok (.int n)
    | none => .ok (.float value)
  | .str value => .ok (.text value)
  | .arr _ => .error (.typeError "unhashable type: 'list'".toList)
  | .obj _ => .error (.typeError "unhashable type: 'dict'".toList)

/-- A value is not `None`. -/
def isSomething : Json → Bool
  | .null => false
  | _ => true

section

variable {F : Type} [Mul F] [OfNat F 1000000000] [OfNat F 1000] (float : Json → Except PyError F)

/-- `float` of a field, if the record has it. -/
def fieldFloat (obj : Json) (field : String) : Except PyError (Option F) := do
  if ← obj.contains field then
    let value ← float (← obj.item field)
    return some value
  else return none

/-- The fields of a record. -/
def recordFields (obj : Json) : Except PyError (NCCLCollectiveMetrics F) := do
  let collective := (← obj.get "collective").getD .null
  let collectiveType ← if collective.truthy then pure collective else pure ((← obj.get "type").getD .null)
  let rank := (← obj.get "rank").getD .null
  let size ← fieldFloat float obj "size"
  let algBw ← fieldFloat float obj "alg_bw"
  let busBw ← fieldFloat float obj "bus_bw"
  let timeUs ← fieldFloat float obj "time_us"
  let durationUs ← match timeUs with
    | some timeUs => pure (some timeUs)
    | none => do pure ((← fieldFloat float obj "time_ms").map fun timeMs => timeMs * 1000)
  return {
    collectiveType := collectiveType
    rank := rank
    messageSizeBytes := size
    bandwidthBytesPerSec := algBw.map fun bw => bw * 1000000000
    busBandwidthBytesPerSec := busBw.map fun bw => bw * 1000000000
    durationUs := durationUs
    isStraggler := none }

/-- `_parse_record`. -/
def parseRecord (obj : Json) : Except PyError (Option (NCCLCollectiveMetrics F)) :=
  match recordFields float obj with
  | .ok record => .ok (some record)
  | .error (.keyError _) | .error (.valueError _) | .error (.typeError _) => .ok none
  | .error e => .error e

variable (py : Interpreter) (depth : Nat)

/-- The record of a line. -/
def lineRecords (line : Str) : Except PyError (List (NCCLCollectiveMetrics F)) :=
  let line := strip line
  if line = [] then .ok []
  else
    match (jsonLoads py depth line).bind (parseRecord float) with
    | .ok (some m) => .ok [m]
    | .ok none => .ok []
    | .error (.jsonDecodeError _) => .ok []
    | .error e => .error e

/-- The characters that end a line of a text file. -/
def isNewline (c : Char) : Bool := c = '\n' || c = '\r'

/-- The lines of a text file, without their ends. -/
def fileLines (text : Str) : List Str := dropEmptyLast ((joinCrLf text).splitOnP isNewline)

end

/-! ### Stragglers -/

section

variable {F : Type} [Add F] [Sub F] [Mul F] [Div F] [LT F] [DecidableLT F] [OfNat F 2] [OfNat F 1000]

/-- `statistics.median`. -/
def median (values : List F) : Except PyError F :=
  let sorted := values.insertionSort fun a b => ¬ b < a
  let n := sorted.length
  match sorted[n / 2]?, sorted[n / 2 - 1]? with
  | some upper, some lower => .ok (if n % 2 = 1 then upper else (lower + upper) / 2)
  | _, _ => .error (.valueError "no median for empty data".toList)

/-- The ranks and durations by collective type. -/
abbrev DurationsByType (F : Type) := List (DictKey × List (Json × F))

def addDuration (durations : DurationsByType F) (m : NCCLCollectiveMetrics F) : Except PyError (DurationsByType F) :=
  match m.durationUs with
  | some durationUs =>
    if m.collectiveType.truthy && isSomething m.rank then do
      let key ← dictKey m.collectiveType
      return dictModify key (fun ranks => ranks.getD [] ++ [(m.rank, durationUs)]) durations
    else .ok durations
  | none => .ok durations

/-- Whether the last duration of a rank is far above the median. -/
abbrev StragglerRanks := List ((DictKey × DictKey) × Bool)

def flagType (thresholdUs : F) (flags : StragglerRanks) (entry : DictKey × List (Json × F)) :
    Except PyError StragglerRanks := do
  let (ctype, rankDurations) := entry
  if rankDurations.length < 2 then return flags
  let medianUs ← median (rankDurations.map Prod.snd)
  rankDurations.foldlM (fun flags (rank, dur) => do
    let key ← dictKey rank
    return dictSet (ctype, key) (decide (thresholdUs < dur - medianUs)) flags) flags

def annotateRecord (flags : StragglerRanks) (m : NCCLCollectiveMetrics F) :
    Except PyError (NCCLCollectiveMetrics F) := do
  if m.collectiveType.truthy && isSomething m.rank then
    let ctype ← dictKey m.collectiveType
    let rank ← dictKey m.rank
    return { m with isStraggler := some (if dictGet flags (ctype, rank) = some true then 1 else 0) }
  else return m

/-- The annotation of the records of one call. -/
def annotateStragglers (thresholdMs : F) (records : List (NCCLCollectiveMetrics F)) :
    Except PyError (List (NCCLCollectiveMetrics F)) := do
  let durationsByType ← records.foldlM addDuration []
  let flags ← durationsByType.foldlM (flagType (thresholdMs * 1000)) []
  records.mapM (annotateRecord flags)

end

/-! ### One call -/

/-- What a call finds at the path of the log. -/
inductive LogFile
  | missing
  | unreadable
  | readable (bytes : ByteArray)

/-- The text from a position on. -/
def readFrom (bytes : ByteArray) (position : Nat) : Except PyError Str :=
  match (bytes.extract position bytes.size).utf8Decode? with
  | some chars => .ok chars.toList
  | none => .error .unicodeDecodeError

variable {F : Type} [Add F] [Sub F] [Mul F] [Div F] [LT F] [DecidableLT F] [OfNat F 2] [OfNat F 1000]
  [OfNat F 1000000000] (float : Json → Except PyError F) (py : Interpreter) (depth : Nat)

/-- `tail_and_parse`. -/
def tailAndParse (stragglerThresholdMs : F) (log : LogFile) (filePosition : Nat) :
    Except PyError (List (NCCLCollectiveMetrics F) × Nat) :=
  match log with
  | .missing | .unreadable => .ok ([], filePosition)
  | .readable bytes => do
    let text ← readFrom bytes filePosition
    let records ← collect (lineRecords float py depth) (fileLines text)
    let newPosition := max filePosition bytes.size
    if records.isEmpty then return ([], newPosition)
    let records ← annotateStragglers stragglerThresholdMs records
    return (records, newPosition)

end GpuTelemetry
