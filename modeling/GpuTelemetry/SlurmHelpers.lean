import GpuTelemetry.Text
import Mathlib.Data.Char
import Mathlib.Data.List.Lex
import Mathlib.Data.List.Sort

namespace GpuTelemetry

/-- The run-time panics of the modelled Go code. -/
inductive GoPanic
  | indexOutOfRange
  | sliceOutOfRange
  deriving DecidableEq, Repr

/-- The largest value of `int`. -/
def maxInt : Int := 2 ^ 63 - 1

/-- The sign `strconv.Atoi` reads, and the digits behind it. -/
def signAndDigits : Str → Bool × Str
  | '-' :: s => (true, s)
  | '+' :: s => (false, s)
  | s => (false, s)

/-- `strconv.Atoi`: a decimal number with an optional sign that fits an `int`. -/
def atoi (s : Str) : Option Int :=
  let (negative, run) := signAndDigits s
  if run = [] ∨ run.all Char.isDigit = false then none
  else
    let n : Int := if negative then -(intOfDigits run : Int) else intOfDigits run
    if -maxInt - 1 ≤ n ∧ n ≤ maxInt then some n else none

/-- `strconv.Itoa`. -/
def itoa (n : Int) : Str := intText n

/-- `unicode.IsSpace`. -/
def isGoSpace (c : Char) : Bool :=
  [0x9, 0xA, 0xB, 0xC, 0xD, 0x20, 0x85, 0xA0, 0x1680, 0x2000, 0x2001, 0x2002, 0x2003, 0x2004, 0x2005,
    0x2006, 0x2007, 0x2008, 0x2009, 0x200A, 0x2028, 0x2029, 0x202F, 0x205F, 0x3000].contains c.toNat

/-- `strings.Fields`. -/
def fields (s : Str) : List Str := (s.splitOnP isGoSpace).filter (· ≠ [])

/-- `strings.SplitN(s, sep, 2)` for a separator of one character: what is
before it, and what is behind it when there is one. -/
def splitFirst (sep : Char) (s : Str) : Str × Option Str :=
  (s.takeWhile (· ≠ sep),
    match s.dropWhile (· ≠ sep) with
    | [] => none
    | _ :: rest => some rest)

/-- The index `[1]` into the parts of a split. -/
def secondPart : Option Str → Except GoPanic Str
  | none => .error .indexOutOfRange
  | some part => .ok part

/-- The group of the first match of `\(([^)]+)\)`. -/
def parenthesised : Str → Option Str
  | [] => none
  | c :: s =>
    if c = '(' ∧ s.takeWhile (· ≠ ')') ≠ [] ∧ ')' ∈ s then some (s.takeWhile (· ≠ ')'))
    else parenthesised s

/-- The indices one entry of a GRES index list stands for. -/
def gresIndexEntry (index : Str) : List Str :=
  if '-' ∈ index then
    let indexRange := index.splitOn '-'
    match atoi (indexRange.getD 0 []), atoi (indexRange.getD 1 []) with
    | some st, some stop => (List.range (stop + 1 - st).toNat).map fun (k : Nat) => itoa (st + k)
    | _, _ => []
  else
    match atoi index with
    | some _ => [index]
    | none => []

def parseGRES (gresOut : Str) : Except GoPanic (List Str) :=
  match parenthesised gresOut with
  | none => .ok []
  | some indicesKey =>
    match secondPart (splitFirst ':' indicesKey).2 with
    | .error panic => .error panic
    | .ok indexString => .ok ((indexString.splitOn ',').flatMap gresIndexEntry)

/-- `stringifySet` on a set kept as a list without repetitions. -/
def stringifySet (set : List Str) : Str := [','].intercalate (set.insertionSort (· ≤ ·))

structure SlurmMetadata where
  JobID : Str
  JobName : Str
  QOS : Str
  User : Str
  Partition : Str
  Account : Str
  NumNodes : Str
  ArrayJobID : Str
  ArrayTaskID : Str
  deriving DecidableEq, Repr

/-- What `AttributeGPU2SlurmMetadata` collects from the words of one job. -/
structure JobFields where
  gresIndex : List Str
  allUsers : List Str
  allJobID : List Str
  allJobName : List Str
  allQOS : List Str
  allArrayJobID : List Str
  allArrayTaskID : List Str
  allAccount : List Str
  allPartition : List Str
  allNumNodes : List Str

def JobFields.empty : JobFields := ⟨[], [], [], [], [], [], [], [], [], []⟩

def readField (job : JobFields) (data : Str) : Except GoPanic JobFields :=
  let parts := splitFirst '=' data
  if parts.1 = "UserId".toList then
    (secondPart parts.2).bind fun part =>
      if '(' ∈ part then .ok { job with allUsers := job.allUsers.insert (part.takeWhile (· ≠ '(')) }
      else .error .sliceOutOfRange
  else if parts.1 = "JobId".toList then
    (secondPart parts.2).map fun part => { job with allJobID := job.allJobID.insert part }
  else if parts.1 = "QOS".toList then
    (secondPart parts.2).map fun part => { job with allQOS := job.allQOS.insert part }
  else if parts.1 = "JobName".toList then
    (secondPart parts.2).map fun part => { job with allJobName := job.allJobName.insert part }
  else if parts.1 = "ArrayJobId".toList then
    (secondPart parts.2).map fun part => { job with allArrayJobID := job.allArrayJobID.insert part }
  else if parts.1 = "ArrayTaskId".toList then
    -- a task id that is no number belongs to the main job of an array
    (secondPart parts.2).map fun part =>
      if (atoi part).isNone then job else { job with allArrayTaskID := job.allArrayTaskID.insert part }
  else if parts.1 = "Account".toList then
    (secondPart parts.2).map fun part => { job with allAccount := job.allAccount.insert part }
  else if parts.1 = "Partition".toList then
    (secondPart parts.2).map fun part => { job with allPartition := job.allPartition.insert part }
  else if parts.1 = "NumNodes".toList then
    (secondPart parts.2).map fun part => { job with allNumNodes := job.allNumNodes.insert part }
  else if parts.1 = "GRES".toList then
    (secondPart parts.2).bind fun part =>
      (parseGRES part).map fun indices => { job with gresIndex := job.gresIndex ++ indices }
  else .ok job

/-- The words of a job's text in the order of the loops over lines and fields. -/
def jobWords (jobMetadata : Str) : List Str := (jobMetadata.splitOn '\n').flatMap fields

def hostListOfWords : List Str → Except GoPanic Str
  | [] => .ok []
  | data :: words =>
    let parts := splitFirst '=' data
    if parts.1 = "NodeList".toList then secondPart parts.2 else hostListOfWords words

def getHostList (jobMetadata : Str) : Except GoPanic Str := hostListOfWords (jobWords jobMetadata)

/-- The characters of `[a-zA-Z-]`. -/
def isPrefixChar (c : Char) : Bool := c.isAlpha || c == '-'

/-- The groups of `^([a-zA-Z-]+)\[(.+)\]$`, whose dot excludes a newline. -/
def hostlistPattern (hostlist : Str) : Option (Str × Str) :=
  match hostlist.dropWhile isPrefixChar with
  | '[' :: rest =>
    if hostlist.takeWhile isPrefixChar ≠ [] ∧ rest.getLast? = some ']' ∧ rest.dropLast ≠ [] ∧
        '\n' ∉ rest.dropLast then
      some (hostlist.takeWhile isPrefixChar, rest.dropLast)
    else none
  | _ => none

/-- The loop over the ranges. An entry that is not a number ends it. -/
def hostNumInRanges (hostNum : Int) : List Str → Bool
  | [] => false
  | r :: ranges =>
    if '-' ∈ r then
      let bounds := r.splitOn '-'
      match atoi (bounds.getD 0 []), atoi (bounds.getD 1 []) with
      | some start, some stop => decide (start ≤ hostNum ∧ hostNum ≤ stop) || hostNumInRanges hostNum ranges
      | _, _ => false
    else
      match atoi r with
      | some index => decide (hostNum = index) || hostNumInRanges hostNum ranges
      | none => false

def hostnameInList (hostname hostlist : Str) : Bool :=
  if '[' ∉ hostlist then
    if hostname = [] then false else hostlist == hostname
  else
    match hostlistPattern hostlist with
    | none => false
    | some (pre, rangesStr) =>
      if pre.isPrefixOf hostname then
        match atoi (hostname.drop pre.length) with
        | none => false
        | some hostNum => hostNumInRanges hostNum (rangesStr.splitOn ',')
      else false

/-- The map from GPU indices to the metadata of the job that holds them. -/
abbrev GpuMap := Str → Option SlurmMetadata

def JobFields.metadata (job : JobFields) : SlurmMetadata where
  JobID := stringifySet job.allJobID
  JobName := stringifySet job.allJobName
  QOS := stringifySet job.allQOS
  User := stringifySet job.allUsers
  Partition := stringifySet job.allPartition
  Account := stringifySet job.allAccount
  NumNodes := stringifySet job.allNumNodes
  ArrayJobID := stringifySet job.allArrayJobID
  ArrayTaskID := stringifySet job.allArrayTaskID

/-- The body of the loop over the jobs. -/
def attributeJob (hostname : Str) (gpu2Slurm : GpuMap) (jm : Str) : Except GoPanic GpuMap := do
  let hostlist ← getHostList jm
  if hostnameInList hostname hostlist then
    let job ← (jobWords jm).foldlM readField JobFields.empty
    .ok (job.gresIndex.foldl (fun m gpu => Function.update m gpu (some job.metadata)) gpu2Slurm)
  else .ok gpu2Slurm

def attributeGPU2SlurmMetadata (jobMetadata : List Str) (hostname : Str) (gpu2Slurm : GpuMap) :
    Except GoPanic GpuMap :=
  jobMetadata.foldlM (attributeJob hostname) gpu2Slurm

end GpuTelemetry
