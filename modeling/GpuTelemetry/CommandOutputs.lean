import GpuTelemetry.FallibleFolds
import GpuTelemetry.PyFloats
import GpuTelemetry.PyStrings
import GpuTelemetry.RunningProcs
import Mathlib.Algebra.BigOperators.Group.List.Basic

namespace GpuTelemetry

/-- The return code of a command. -/
structure ReturnCode where
  value : Int
  bounded : value.natAbs < 2 ^ 32

/-- An option of the type `click.IntRange(0, 100)`. -/
structure PercentageOption where
  value : Int
  atLeast : 0 ≤ value
  atMost : value ≤ 100

/-- An option of the type `click.INT`, which `int` has read. -/
structure IntOption (py : Interpreter) where
  value : Int
  printable : Printable py value

variable (py : Interpreter)

theorem ReturnCode.printable (code : ReturnCode) : Printable py code.value :=
  printable_of_lt py (code.bounded.trans (by decide))

theorem PercentageOption.printable (option : PercentageOption) : Printable py option.value := by
  obtain ⟨value, atLeast, atMost⟩ := option
  exact printable_of_lt py (lt_of_le_of_lt (show value.natAbs ≤ 100 by omega) (by decide))

/-! ### The states of the nodes -/

section

variable (reprFloat : Float → Str)

/-- One line of the output; nothing where it raises. -/
def addStateLine (counts : Int × Int) (line : Str) : Option (Int × Int) := do
  let (totalStateCnt, badStateCnt) := counts
  let word ← (splitWords line).head?
  let stateCnt ← pyIntOfWord py word
  return (totalStateCnt + stateCnt,
    if occursIn "DOWN".toList line || occursIn "DRAIN".toList line then badStateCnt + stateCnt else badStateCnt)

/-- The message on a fraction above a threshold. -/
def badStateMessage (totalStateCnt badStateCnt : Int) (fraction : Float) (kind : String) (threshold : Int) :
    Except PyError Str := do
  let bad ← formatInt py badStateCnt
  let total ← formatInt py totalStateCnt
  let percentage ← formatInt py threshold
  return bad ++ " / ".toList ++ total ++ " = ".toList ++ reprFloat fraction ++
    "% of nodes are in bad slurm state. ".toList ++ kind.toList ++ " threshold is ".toList ++ percentage ++ "%.".toList

def badStateFraction (badStateCnt totalStateCnt : Int) : Float := quotient badStateCnt totalStateCnt * 100

def processClusterState (output : Str) (errorCode : Int) (criticalThr warningThr : PercentageOption) :
    Except PyError (ExitCode × Str) := do
  if 0 < errorCode then
    let code ← formatInt py errorCode
    return (.WARN, "scontrol show node command failed to execute. error_code: ".toList ++ code ++
      ", output: ".toList ++ output)
  match (splitlines output).foldlM (addStateLine py) (0, 0) with
  | none => return (.WARN, "scontrol show node command returned invalid output. output: ".toList ++ output)
  | some (totalStateCnt, badStateCnt) =>
    let badState ← trueDiv badStateCnt totalStateCnt
    let fraction := badState * 100
    if Float.ofInt criticalThr.value < fraction then
      let msg ← badStateMessage py reprFloat totalStateCnt badStateCnt fraction "Critical" criticalThr.value
      return (.CRITICAL, msg)
    else if Float.ofInt warningThr.value < fraction then
      let msg ← badStateMessage py reprFloat totalStateCnt badStateCnt fraction "Warning" warningThr.value
      return (.WARN, msg)
    else
      let critical ← formatInt py criticalThr.value
      let warning ← formatInt py warningThr.value
      return (.OK, "Nodes in bad state are below the critial and warning thresholds of ".toList ++ critical ++
        "% and ".toList ++ warning ++ "% respectively.".toList)

/-- What a line counts, and how much of that is in a bad state. -/
def stateCounts (line : Str) : Option (Int × Int) :=
  ((splitWords line).head?.bind (pyIntOfWord py)).map fun stateCnt =>
    (stateCnt, if occursIn "DOWN".toList line || occursIn "DRAIN".toList line then stateCnt else 0)

/-- The command failed, a line has no count, or there are nodes, the quotient of
the counts is a float, and a message on them can be printed. -/
def ClusterStateReturns (output : Str) (errorCode : Int) (criticalThr warningThr : PercentageOption) : Prop :=
  0 < errorCode ∨ ∀ counts, (splitlines output).mapM (stateCounts py) = some counts →
    let total := (counts.map Prod.fst).sum
    let bad := (counts.map Prod.snd).sum
    total ≠ 0 ∧ bad.natAbs < total.natAbs * quotientLimit ∧
      (Float.ofInt criticalThr.value < badStateFraction bad total ∨
          Float.ofInt warningThr.value < badStateFraction bad total →
        Printable py bad ∧ Printable py total)

theorem foldlM_addStateLine (lines : List Str) (total bad : Int) :
    lines.foldlM (addStateLine py) (total, bad) = (lines.mapM (stateCounts py)).map fun counts =>
      (total + (counts.map Prod.fst).sum, bad + (counts.map Prod.snd).sum) := by
  induction lines generalizing total bad with
  | nil => simp
  | cons line lines ih =>
    rw [List.foldlM_cons, List.mapM_cons]
    have step : addStateLine py (total, bad) line =
        (stateCounts py line).map fun counts => (total + counts.1, bad + counts.2) := by
      simp only [addStateLine, stateCounts]
      cases (splitWords line).head? with
      | none => rfl
      | some word =>
        cases read : pyIntOfWord py word with
        | none => simp [read]
        | some stateCnt =>
          simp only [Option.bind_eq_bind, Option.bind_some, read, Option.map_some]
          split <;> simp
    rw [step]
    cases stateCounts py line with
    | none => rfl
    | some counts =>
      rw [Option.map_some, Option.bind_eq_bind, Option.bind_some, ih]
      cases lines.mapM (stateCounts py) with
      | none => rfl
      | some rest => simp [add_assoc]

theorem badStateMessage_returns_iff (total bad : Int) (fraction : Float) (kind : String)
    (threshold : PercentageOption) :
    (∃ msg, badStateMessage py reprFloat total bad fraction kind threshold.value = .ok msg) ↔
      Printable py bad ∧ Printable py total := by
  unfold badStateMessage
  rw [formatInt_eq py (threshold.printable py)]
  by_cases badShort : Printable py bad
  · by_cases totalShort : Printable py total
    · rw [formatInt_eq py badShort, formatInt_eq py totalShort]
      exact iff_of_true ⟨_, rfl⟩ ⟨badShort, totalShort⟩
    · rw [formatInt_eq py badShort, formatInt_error py totalShort]
      exact iff_of_false (fun ⟨_, run⟩ => nomatch run) fun short => totalShort short.2
  · rw [formatInt_error py badShort]
    exact iff_of_false (fun ⟨_, run⟩ => nomatch run) fun short => badShort short.1

theorem processClusterState_returns_iff (output : Str) (errorCode : ReturnCode)
    (criticalThr warningThr : PercentageOption) :
    (∃ result, processClusterState py reprFloat output errorCode.value criticalThr warningThr = .ok result) ↔
      ClusterStateReturns py output errorCode.value criticalThr warningThr := by
  unfold processClusterState ClusterStateReturns
  by_cases failed : 0 < errorCode.value
  · rw [if_pos failed, formatInt_eq py (errorCode.printable py)]
    exact iff_of_true ⟨_, rfl⟩ (.inl failed)
  rw [if_neg failed, foldlM_addStateLine, or_iff_right failed]
  cases (splitlines output).mapM (stateCounts py) with
  | none => exact iff_of_true ⟨_, rfl⟩ fun _ isSome => nomatch isSome
  | some counts =>
    simp only [Option.map_some, zero_add, Option.some.injEq, forall_eq']
    generalize (counts.map Prod.fst).sum = total
    generalize (counts.map Prod.snd).sum = bad
    by_cases divides : total ≠ 0 ∧ bad.natAbs < total.natAbs * quotientLimit
    swap
    · obtain ⟨e, raised⟩ := trueDiv_error divides
      rw [raised]
      exact iff_of_false (fun ⟨_, run⟩ => nomatch run) fun returns => divides ⟨returns.1, returns.2.1⟩
    rw [trueDiv_eq divides.1 divides.2, and_iff_right divides.1, and_iff_right divides.2]
    dsimp only [bind, Except.bind]
    rw [show quotient bad total * 100 = badStateFraction bad total from rfl]
    by_cases critical : Float.ofInt criticalThr.value < badStateFraction bad total
    · have printed := badStateMessage_returns_iff py reprFloat total bad (badStateFraction bad total) "Critical"
        criticalThr
      rw [if_pos critical, imp_iff_right (.inl critical), ← printed]
      exact returns_bind_iff (f := fun msg => (ExitCode.CRITICAL, msg))
    by_cases warning : Float.ofInt warningThr.value < badStateFraction bad total
    · have printed := badStateMessage_returns_iff py reprFloat total bad (badStateFraction bad total) "Warning"
        warningThr
      rw [if_neg critical, if_pos warning, imp_iff_right (.inr warning), ← printed]
      exact returns_bind_iff (f := fun msg => (ExitCode.WARN, msg))
    · rw [if_neg critical, if_neg warning, formatInt_eq py (criticalThr.printable py),
        formatInt_eq py (warningThr.printable py)]
      exact iff_of_true ⟨_, rfl⟩ fun exceeded => absurd exceeded (not_or.mpr ⟨critical, warning⟩)

end

/-! ### The size of the memory -/

/-- `int` of the i-th word. -/
def wordNumber (words : List Str) (i : Nat) : Except PyError Int :=
  match words[i]? with
  | none => .error (.indexError "list index out of range".toList)
  | some word =>
    match pyIntOfWord py word with
    | none => .error (.valueError "invalid literal for int() with base 10".toList)
    | some n => .ok n

/-- The two numbers at the start of a line. -/
def readMemLine (line : Str) : Except PyError (Int × Int) := do
  let splitLine := splitWords (strip line)
  let d ← wordNumber py splitLine 0
  let size ← wordNumber py splitLine 1
  return (d, size)

/-- The loop over the lines; nothing where it returns from a `ValueError`. -/
def memLoop : List Str → Int → Int → Except PyError (Option (Int × Int))
  | [], procDimms, procTotalSize => .ok (some (procDimms, procTotalSize))
  | line :: lines, procDimms, procTotalSize =>
    match readMemLine py line with
    | .ok (d, size) => memLoop lines (procDimms + d) (procTotalSize + d * size)
    | .error (.valueError _) => .ok none
    | .error e => .error e

def processMemInfo (output : Str) (errorCode dimms totalSize : Int) : Except PyError (ExitCode × Str) := do
  if 0 < errorCode ∨ output.length = 0 then
    let code ← formatInt py errorCode
    return (.WARN, "dmidecode command FAILED to execute. error_code: ".toList ++ code ++ " output: ".toList ++ output ++
      "\n".toList)
  match ← memLoop py ((strip output).splitOn '\n') 0 0 with
  | none => return (.WARN, "Invalid output returned: ".toList ++ output)
  | some (procDimms, procTotalSize) =>
    let expectedDimms ← formatInt py dimms
    let expectedSize ← formatInt py totalSize
    if dimms = procDimms ∧ procTotalSize = totalSize then
      return (.OK, "Memory size as expected. DIMMs: ".toList ++ expectedDimms ++ " and Total size: ".toList ++
        expectedSize ++ " GB".toList)
    else
      let foundDimms ← formatInt py procDimms
      let foundSize ← formatInt py procTotalSize
      return (.CRITICAL, "Memory size not as expected. Expected DIMMs/Total size GB: ".toList ++ expectedDimms ++
        "/".toList ++ expectedSize ++ " and found ".toList ++ foundDimms ++ "/".toList ++ foundSize ++ ".".toList)

/-- The two numbers of a line that has them. -/
def memSizes (line : Str) : Option (Int × Int) :=
  match splitWords (strip line) with
  | first :: second :: _ =>
    (pyIntOfWord py first).bind fun d => (pyIntOfWord py second).map fun size => (d, size)
  | _ => none

/-- One of the first two words is no number. -/
def HasBadNumber (line : Str) : Prop := ∃ word ∈ (splitWords (strip line)).take 2, pyIntOfWord py word = none

/-- A line with a bad number comes before every line that is too short. -/
def BadNumberFirst (lines : List Str) : Prop :=
  ∃ earlier line later, lines = earlier ++ line :: later ∧ (∀ l ∈ earlier, (memSizes py l).isSome) ∧
    HasBadNumber py line

/-- The command failed, or a bad number comes before any line that is too short,
or no line is too short and the numbers that are not as expected can be printed. -/
def MemInfoReturns (output : Str) (errorCode dimms totalSize : Int) : Prop :=
  let lines := (strip output).splitOn '\n'
  let sizes := lines.filterMap (memSizes py)
  let procDimms := (sizes.map Prod.fst).sum
  let procTotalSize := (sizes.map fun size => size.1 * size.2).sum
  0 < errorCode ∨ output = [] ∨ BadNumberFirst py lines ∨
    (∀ l ∈ lines, (memSizes py l).isSome) ∧
      (¬ (dimms = procDimms ∧ procTotalSize = totalSize) → Printable py procDimms ∧ Printable py procTotalSize)

/-- A line gives its two numbers, or a `ValueError` for a bad number, or else it
is too short. -/
theorem readMemLine_cases (line : Str) :
    (∃ sizes, readMemLine py line = .ok sizes ∧ memSizes py line = some sizes ∧ ¬ HasBadNumber py line) ∨
      (∃ msg, readMemLine py line = .error (.valueError msg) ∧ memSizes py line = none ∧ HasBadNumber py line) ∨
      ∃ msg, readMemLine py line = .error (.indexError msg) ∧ memSizes py line = none ∧ ¬ HasBadNumber py line := by
  unfold readMemLine memSizes HasBadNumber
  cases splitWords (strip line) with
  | nil => exact .inr (.inr ⟨_, rfl, rfl, by simp⟩)
  | cons first rest =>
    cases readFirst : pyIntOfWord py first with
    | none =>
      refine .inr (.inl ⟨"invalid literal for int() with base 10".toList, ?_, ?_, first, by simp, readFirst⟩)
      · simp [wordNumber, readFirst, bind, Except.bind]
      · cases rest <;> simp [readFirst]
    | some d =>
      cases rest with
      | nil =>
        refine .inr (.inr ⟨"list index out of range".toList, ?_, rfl, by simp [readFirst]⟩)
        simp [wordNumber, readFirst, bind, Except.bind]
      | cons second rest =>
        cases readSecond : pyIntOfWord py second with
        | none =>
          refine .inr (.inl ⟨"invalid literal for int() with base 10".toList, ?_, by simp [readFirst, readSecond],
            second, by simp, readSecond⟩)
          simp [wordNumber, readFirst, readSecond, bind, Except.bind]
        | some size =>
          refine .inl ⟨(d, size), ?_, by simp [readFirst, readSecond], by simp [readFirst, readSecond]⟩
          simp [wordNumber, readFirst, readSecond, bind, Except.bind, pure, Except.pure]

theorem badNumberFirst_cons (line : Str) (lines : List Str) :
    BadNumberFirst py (line :: lines) ↔
      HasBadNumber py line ∨ (memSizes py line).isSome ∧ BadNumberFirst py lines := by
  constructor
  · rintro ⟨earlier, bad, later, split, good, isBad⟩
    cases earlier with
    | nil =>
      obtain rfl : line = bad := (List.cons.inj split).1
      exact .inl isBad
    | cons first earlier =>
      obtain ⟨rfl, rest⟩ := List.cons.inj split
      exact .inr ⟨good line (by simp), earlier, bad, later, rest, fun l member => good l (by simp [member]), isBad⟩
  · rintro (isBad | ⟨good, earlier, bad, later, rfl, rest, isBad⟩)
    · exact ⟨[], line, lines, rfl, by simp, isBad⟩
    · exact ⟨line :: earlier, bad, later, rfl, by simpa [good] using rest, isBad⟩

/-- How the loop over the lines ends. -/
theorem memLoop_cases (lines : List Str) (procDimms procTotalSize : Int) :
    (memLoop py lines procDimms procTotalSize = .ok (some
        (procDimms + ((lines.filterMap (memSizes py)).map Prod.fst).sum,
          procTotalSize + ((lines.filterMap (memSizes py)).map fun size => size.1 * size.2).sum)) ∧
      (∀ l ∈ lines, (memSizes py l).isSome) ∧ ¬ BadNumberFirst py lines) ∨
    (memLoop py lines procDimms procTotalSize = .ok none ∧ BadNumberFirst py lines) ∨
    (∃ e, memLoop py lines procDimms procTotalSize = .error e) ∧ (¬ ∀ l ∈ lines, (memSizes py l).isSome) ∧
      ¬ BadNumberFirst py lines := by
  induction lines generalizing procDimms procTotalSize with
  | nil => exact .inl ⟨by simp [memLoop], by simp, fun ⟨earlier, _, _, split, _⟩ => by simp at split⟩
  | cons line lines ih =>
    rw [badNumberFirst_cons, List.forall_mem_cons, memLoop]
    obtain ⟨⟨d, size⟩, run, sizes, noBad⟩ | ⟨msg, run, sizes, bad⟩ | ⟨msg, run, sizes, noBad⟩ :=
      readMemLine_cases py line
    · have whole : (line :: lines).filterMap (memSizes py) = (d, size) :: lines.filterMap (memSizes py) :=
        List.filterMap_cons_some sizes
      rw [run, whole, sizes]
      simp only [List.map_cons, List.sum_cons, ← add_assoc, Option.isSome_some, true_and, noBad, false_or]
      exact ih (procDimms + d) (procTotalSize + d * size)
    · rw [run]
      exact .inr (.inl ⟨rfl, .inl bad⟩)
    · rw [run, sizes]
      refine .inr (.inr ⟨⟨_, rfl⟩, ?_, not_or.mpr ⟨noBad, ?_⟩⟩)
      · exact fun good => nomatch good.1
      · exact fun good => nomatch good.1

theorem processMemInfo_returns_iff (output : Str) (errorCode : ReturnCode) (dimms totalSize : IntOption py) :
    (∃ result, processMemInfo py output errorCode.value dimms.value totalSize.value = .ok result) ↔
      MemInfoReturns py output errorCode.value dimms.value totalSize.value := by
  unfold processMemInfo MemInfoReturns
  by_cases failed : 0 < errorCode.value ∨ output.length = 0
  · rw [if_pos failed, formatInt_eq py (errorCode.printable py)]
    refine iff_of_true ⟨_, rfl⟩ ?_
    exact failed.imp_right fun empty => .inl (List.length_eq_zero_iff.mp empty)
  obtain ⟨succeeded, nonempty⟩ := not_or.mp failed
  rw [if_neg failed, or_iff_right succeeded, or_iff_right (fun empty => nonempty (by rw [empty]; rfl))]
  obtain ⟨run, good, noBad⟩ | ⟨run, bad⟩ | ⟨⟨e, run⟩, short, noBad⟩ :=
    memLoop_cases py ((strip output).splitOn '\n') 0 0
  · rw [run, or_iff_right noBad, and_iff_right good]
    simp only [zero_add]
    generalize ((((strip output).splitOn '\n').filterMap (memSizes py)).map Prod.fst).sum = procDimms
    generalize ((((strip output).splitOn '\n').filterMap (memSizes py)).map fun size => size.1 * size.2).sum =
      procTotalSize
    rw [formatInt_eq py dimms.printable, formatInt_eq py totalSize.printable]
    dsimp only [bind, Except.bind]
    by_cases expected : dimms.value = procDimms ∧ procTotalSize = totalSize.value
    · rw [if_pos expected]
      exact iff_of_true ⟨_, rfl⟩ fun unexpected => absurd expected unexpected
    rw [if_neg expected, imp_iff_right expected]
    by_cases dimmsShort : Printable py procDimms
    · by_cases sizeShort : Printable py procTotalSize
      · rw [formatInt_eq py dimmsShort, formatInt_eq py sizeShort]
        exact iff_of_true ⟨_, rfl⟩ ⟨dimmsShort, sizeShort⟩
      · rw [formatInt_eq py dimmsShort, formatInt_error py sizeShort]
        exact iff_of_false (fun ⟨_, run⟩ => nomatch run) fun short => sizeShort short.2
    · rw [formatInt_error py dimmsShort]
      exact iff_of_false (fun ⟨_, run⟩ => nomatch run) fun short => dimmsShort short.1
  · rw [run]
    exact iff_of_true ⟨_, rfl⟩ (.inl bad)
  · rw [run]
    exact iff_of_false (fun ⟨_, run⟩ => nomatch run) (not_or.mpr ⟨noBad, fun good => short good.1⟩)

end GpuTelemetry
