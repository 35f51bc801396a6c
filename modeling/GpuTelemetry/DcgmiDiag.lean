import GpuTelemetry.CommandOutputs
import GpuTelemetry.Json

namespace GpuTelemetry

/-- `NON_FATAL_ERRORS`. -/
def nonFatalErrors : List Int := [205]

/-- `__lt__`: unknown comes before the others. -/
def ExitCode.lt (self other : ExitCode) : Bool :=
  if self = .UNKNOWN then true else if other = .UNKNOWN then false else decide (self.value < other.value)

/-- The status of the first result, as DCGM 3.x reports it. -/
def getResultStatus (test : Json) : Except PyError Json := do
  let hasResults ←
    if ((← test.get "results").getD .null).truthy then pure (decide (0 < (← (← test.item "results").len)))
    else pure false
  if hasResults then
    let result ← (← test.item "results").first
    return (← result.get "status").getD (.str [])
  else return .str []

/-- The status of a test. -/
def getTestStatus (test : Json) : Except PyError Json := do
  let summarised ←
    if ← test.contains "test_summary" then (← test.item "test_summary").contains "status" else pure false
  if summarised then (← test.item "test_summary").item "status"
  else getResultStatus test

section

variable (py : Interpreter) (depth : Nat) (formatOther : Json → Except PyError PyStr)

/-- A decoded value in an f-string. -/
def formatValue : Json → Except PyError PyStr
  | .str value => .ok value
  | value => formatOther value

/-- One round of the loop over the tests. -/
def addTest (excludeCategory : List Str) (state : ExitCode × PyStr) (test : Json) :
    Except PyError (ExitCode × PyStr) := do
  let (exitCode, msg) := state
  let name ← test.item "name"
  if excludeCategory.any fun category => name.isStr (codePoints category) then return state
  let status ← getTestStatus test
  if status.isStr (codePoints "Fail".toList) then
    let text ← formatValue formatOther name
    return (.CRITICAL, msg ++ text ++ codePoints " failed.\n".toList)
  else if status.isStr (codePoints "Warn".toList) then
    let text ← formatValue formatOther name
    return (if exitCode.lt .WARN then .WARN else exitCode, msg ++ text ++ codePoints " warning.\n".toList)
  else return state

/-- One round of the loop over the categories. -/
def addCategory (excludeCategory : List Str) (state : ExitCode × PyStr) (category : Json) :
    Except PyError (ExitCode × PyStr) := do
  (← (← category.item "tests").iterate).foldlM (addTest formatOther excludeCategory) state

/-- The key that the version of DCGM uses. -/
def diagKey (outputDict : Json) : Except PyError (Option String) := do
  if ← outputDict.contains "DCGM GPU Diagnostic" then return some "DCGM GPU Diagnostic"
  else if ← outputDict.contains "DCGM Diagnostic" then return some "DCGM Diagnostic"
  else return none

def dcgmiFailed : ExitCode × PyStr := (.WARN, codePoints "dcgmi diag FAILED to execute.\n".toList)

/-- What is made of the diagnostic. -/
def processDiag (diag : Json) (excludeCategory : List Str) : Except PyError (ExitCode × PyStr) := do
  if !(← diag.contains "test_categories") then return dcgmiFailed
  let categories ← diag.item "test_categories"
  let (exitCode, msg) ← (← categories.iterate).foldlM (addCategory formatOther excludeCategory) (.OK, [])
  return (exitCode, if exitCode = .OK then codePoints "All checks passed.\n".toList else msg)

/-- What is made of the decoded output. -/
def processDiagDict (outputDict : Json) (excludeCategory : List Str) : Except PyError (ExitCode × PyStr) := do
  let key ← diagKey outputDict
  if (← outputDict.len) = 0 then return dcgmiFailed
  match key with
  | none => return dcgmiFailed
  | some key =>
    let diag ← outputDict.item key
    processDiag formatOther diag excludeCategory

def processDcgmiDiagOutput (output : Str) (errorCode : Int) (excludeCategory : List Str) :
    Except PyError (ExitCode × PyStr) := do
  if 0 < errorCode ∧ errorCode ∉ nonFatalErrors then
    let code ← formatInt py errorCode
    return (.WARN, codePoints ("dcgmi diag command FAILED to execute. error_code: ".toList ++ code ++
      " output: ".toList ++ output ++ ".\n".toList))
  if output.length = 0 then return dcgmiFailed
  let outputDict ← jsonLoads py depth output
  processDiagDict formatOther outputDict excludeCategory

/-! ### When it returns -/

/-- The status of a test where its parts are as expected. -/
def resultStatus (test : Json) : Option Json :=
  match test.entryOf (codePoints "results".toList) with
  | none => some (.str [])
  | some results =>
    if results.truthy then
      match results with
      | .arr (.obj entries :: _) => some ((dictGet entries (codePoints "status".toList)).getD (.str []))
      | _ => none
    else some (.str [])

def testStatus (test : Json) : Option Json :=
  match test.entryOf (codePoints "test_summary".toList) with
  | none => resultStatus test
  | some summary =>
    if summary.isContainer then
      if summary.mentions (codePoints "status".toList) then summary.entryOf (codePoints "status".toList)
      else resultStatus test
    else none

/-- A test has a name and, unless it is excluded, a status; a name that is
reported can be printed. -/
def TestReadable (excludeCategory : List Str) (test : Json) : Prop :=
  ∃ name, test.entryOf (codePoints "name".toList) = some name ∧
    ((excludeCategory.any fun category => name.isStr (codePoints category)) = true ∨
      ∃ status, testStatus test = some status ∧
        (status.isStr (codePoints "Fail".toList) = true ∨ status.isStr (codePoints "Warn".toList) = true →
          ∃ text, formatValue formatOther name = .ok text))

/-- A dictionary whose tests can be gone through and read. -/
def CategoryReadable (excludeCategory : List Str) (category : Json) : Prop :=
  ∃ tests, category.entryOf (codePoints "tests".toList) = some tests ∧ tests.isContainer = true ∧
    ∀ test ∈ tests.elements, TestReadable formatOther excludeCategory test

/-- The diagnostic has no categories, or ones that can be gone through and read. -/
def DiagReadable (excludeCategory : List Str) (diag : Json) : Prop :=
  diag.isContainer = true ∧ (diag.mentions (codePoints "test_categories".toList) = true →
    ∃ categories, diag.entryOf (codePoints "test_categories".toList) = some categories ∧
      categories.isContainer = true ∧
      ∀ category ∈ categories.elements, CategoryReadable formatOther excludeCategory category)

/-- The first of the two keys that the output mentions. -/
def mentionedKey (outputDict : Json) : Option String :=
  ["DCGM GPU Diagnostic", "DCGM Diagnostic"].find? fun key => outputDict.mentions (codePoints key.toList)

/-- The output is a dictionary, a list or a string, and if it mentions one of the
keys then it is a dictionary whose diagnostic can be read. -/
def OutputReadable (excludeCategory : List Str) (outputDict : Json) : Prop :=
  outputDict.isContainer = true ∧ ∀ key, mentionedKey outputDict = some key →
    ∃ diag, outputDict.entryOf (codePoints key.toList) = some diag ∧ DiagReadable formatOther excludeCategory diag

/-- The command failed or printed nothing, or what it printed is a JSON document
that can be read. -/
def DcgmiDiagReturns (output : Str) (errorCode : Int) (excludeCategory : List Str) : Prop :=
  (0 < errorCode ∧ errorCode ∉ nonFatalErrors) ∨ output = [] ∨
    ∃ outputDict, jsonLoads py depth output = .ok outputDict ∧ OutputReadable formatOther excludeCategory outputDict

/-- What a computation returns, as another one says. -/
def Follows {α : Type} (run : Except PyError α) (value : Option α) : Prop :=
  match value with
  | some a => run = .ok a
  | none => ∃ e, run = .error e

theorem getResultStatus_follows (entries : List (PyStr × Json)) :
    Follows (getResultStatus (.obj entries)) (resultStatus (.obj entries)) := by
  unfold getResultStatus resultStatus
  simp only [Json.get, Json.item, Json.entryOf]
  cases dictGet entries (codePoints "results".toList) with
  | none => rfl
  | some results =>
    simp only [bind, Except.bind, Option.getD_some]
    by_cases filled : results.truthy = true
    swap
    · simp only [if_neg filled]
      rfl
    simp only [if_pos filled]
    cases results with
    | null => simp [Json.truthy] at filled
    | bool _ | int _ | float _ => exact ⟨_, rfl⟩
    | str text =>
      cases text with
      | nil => simp [Json.truthy] at filled
      | cons code text => exact ⟨_, rfl⟩
    | obj entries =>
      cases entries with
      | nil => simp [Json.truthy] at filled
      | cons entry entries => exact ⟨_, rfl⟩
    | arr items =>
      cases items with
      | nil => simp [Json.truthy] at filled
      | cons first items => cases first <;> first | rfl | exact ⟨_, rfl⟩

theorem getTestStatus_follows (entries : List (PyStr × Json)) :
    Follows (getTestStatus (.obj entries)) (testStatus (.obj entries)) := by
  unfold getTestStatus testStatus
  have mentioned : (Json.obj entries).mentions (codePoints "test_summary".toList) =
      ((Json.obj entries).entryOf (codePoints "test_summary".toList)).isSome := rfl
  rw [Json.contains_eq rfl, mentioned]
  cases entry : (Json.obj entries).entryOf (codePoints "test_summary".toList) with
  | none => exact getResultStatus_follows entries
  | some summary =>
    rw [Json.item_eq entry]
    simp only [bind, Except.bind, Option.isSome_some, if_true]
    by_cases container : summary.isContainer = true
    · rw [Json.contains_eq container, if_pos container]
      by_cases hasStatus : summary.mentions (codePoints "status".toList) = true
      · simp only [if_pos hasStatus]
        cases atStatus : summary.entryOf (codePoints "status".toList) with
        | none => exact Json.item_error atStatus
        | some status => exact Json.item_eq atStatus
      · simp only [if_neg hasStatus]
        exact getResultStatus_follows entries
    · rw [Json.contains, if_neg container, if_neg container]
      exact ⟨_, rfl⟩

theorem addTest_returns_iff (excludeCategory : List Str) (state : ExitCode × PyStr) (test : Json) :
    (∃ next, addTest formatOther excludeCategory state test = .ok next) ↔
      TestReadable formatOther excludeCategory test := by
  obtain ⟨exitCode, msg⟩ := state
  unfold addTest TestReadable
  cases named : test.entryOf (codePoints "name".toList) with
  | none =>
    obtain ⟨e, raised⟩ := Json.item_error named
    rw [raised]
    exact iff_of_false (fun ⟨_, run⟩ => nomatch run) fun ⟨_, isSome, _⟩ => nomatch isSome
  | some name =>
    rw [Json.item_eq named]
    simp only [Option.some.injEq, exists_eq_left', bind, Except.bind]
    by_cases excluded : (excludeCategory.any fun category => name.isStr (codePoints category)) = true
    · rw [if_pos excluded]
      exact iff_of_true ⟨_, rfl⟩ (.inl excluded)
    rw [if_neg excluded, or_iff_right excluded]
    cases test with
    | obj entries =>
      have follows := getTestStatus_follows entries
      cases found : testStatus (.obj entries) with
      | none =>
        rw [found] at follows
        obtain ⟨e, raised⟩ := follows
        rw [raised]
        exact iff_of_false (fun ⟨_, run⟩ => nomatch run) fun ⟨_, isSome, _⟩ => nomatch isSome
      | some status =>
        rw [found] at follows
        rw [show getTestStatus (.obj entries) = .ok status from follows]
        simp only [Option.some.injEq, exists_eq_left']
        by_cases failed : status.isStr (codePoints "Fail".toList) = true
        · rw [if_pos failed, imp_iff_right (.inl failed)]
          exact returns_bind_iff
            (f := fun text => (ExitCode.CRITICAL, msg ++ text ++ codePoints " failed.\n".toList))
        rw [if_neg failed, or_iff_right failed]
        by_cases warned : status.isStr (codePoints "Warn".toList) = true
        · rw [if_pos warned, imp_iff_right warned]
          exact returns_bind_iff (f := fun text =>
            (if exitCode.lt .WARN then .WARN else exitCode, msg ++ text ++ codePoints " warning.\n".toList))
        · rw [if_neg warned]
          exact iff_of_true ⟨_, rfl⟩ fun isWarned => absurd isWarned warned
    | _ => simp [Json.entryOf] at named

theorem addCategory_returns_iff (excludeCategory : List Str) (state : ExitCode × PyStr) (category : Json) :
    (∃ next, addCategory formatOther excludeCategory state category = .ok next) ↔
      CategoryReadable formatOther excludeCategory category := by
  unfold addCategory CategoryReadable
  cases entry : category.entryOf (codePoints "tests".toList) with
  | none =>
    obtain ⟨e, raised⟩ := Json.item_error entry
    rw [raised]
    exact iff_of_false (fun ⟨_, run⟩ => nomatch run) fun ⟨_, isSome, _⟩ => nomatch isSome
  | some tests =>
    rw [Json.item_eq entry]
    simp only [Option.some.injEq, exists_eq_left', bind, Except.bind]
    by_cases container : tests.isContainer = true
    · rw [Json.iterate_eq container, and_iff_right container]
      exact foldlM_returns_iff (addTest_returns_iff formatOther excludeCategory) tests.elements state
    · rw [Json.iterate, if_neg container]
      exact iff_of_false (fun ⟨_, run⟩ => nomatch run) fun readable => container readable.1

theorem diagKey_eq {outputDict : Json} (container : outputDict.isContainer = true) :
    diagKey outputDict = .ok (mentionedKey outputDict) := by
  unfold diagKey mentionedKey
  rw [Json.contains_eq container, Json.contains_eq container, List.find?_cons, List.find?_cons]
  simp only [bind, Except.bind]
  cases outputDict.mentions (codePoints "DCGM GPU Diagnostic".toList) with
  | true => rfl
  | false => cases outputDict.mentions (codePoints "DCGM Diagnostic".toList) <;> rfl

theorem elements_of_mentions {value : Json} {text : PyStr} (nonempty : text ≠ [])
    (mentioned : value.mentions text = true) : value.elements.length ≠ 0 := by
  cases value with
  | obj entries => cases entries with
    | nil => simp [Json.mentions, dictGet] at mentioned
    | cons entry entries => simp [Json.elements]
  | arr items => cases items with
    | nil => simp [Json.mentions] at mentioned
    | cons item items => simp [Json.elements]
  | str value => cases value with
    | nil => simp [Json.mentions, occursIn, nonempty] at mentioned
    | cons code value => simp [Json.elements]
  | _ => simp [Json.mentions] at mentioned

theorem processDiag_returns_iff (excludeCategory : List Str) (diag : Json) :
    (∃ result, processDiag formatOther diag excludeCategory = .ok result) ↔
      DiagReadable formatOther excludeCategory diag := by
  unfold processDiag DiagReadable
  by_cases container : diag.isContainer = true
  swap
  · rw [Json.contains, if_neg container]
    exact iff_of_false (fun ⟨_, run⟩ => nomatch run) fun readable => container readable.1
  rw [Json.contains_eq container, and_iff_right container]
  simp only [bind, Except.bind]
  by_cases mentioned : diag.mentions (codePoints "test_categories".toList) = true
  swap
  · rw [if_pos (by simpa using mentioned)]
    exact iff_of_true ⟨_, rfl⟩ fun isMentioned => absurd isMentioned mentioned
  rw [if_neg (by simpa using mentioned), imp_iff_right mentioned]
  cases entry : diag.entryOf (codePoints "test_categories".toList) with
  | none =>
    obtain ⟨e, raised⟩ := Json.item_error entry
    rw [raised]
    exact iff_of_false (fun ⟨_, run⟩ => nomatch run) fun ⟨_, isSome, _⟩ => nomatch isSome
  | some categories =>
    rw [Json.item_eq entry]
    simp only [Option.some.injEq, exists_eq_left']
    by_cases iterable : categories.isContainer = true
    · rw [Json.iterate_eq iterable, and_iff_right iterable]
      have folded := foldlM_returns_iff (addCategory_returns_iff formatOther excludeCategory) categories.elements
        (ExitCode.OK, [])
      rw [← folded]
      exact returns_bind_iff (f := fun state : ExitCode × PyStr =>
        (state.1, if state.1 = .OK then codePoints "All checks passed.\n".toList else state.2))
    · rw [Json.iterate, if_neg iterable]
      exact iff_of_false (fun ⟨_, run⟩ => nomatch run) fun readable => iterable readable.1

theorem processDiagDict_returns_iff (excludeCategory : List Str) (outputDict : Json) :
    (∃ result, processDiagDict formatOther outputDict excludeCategory = .ok result) ↔
      OutputReadable formatOther excludeCategory outputDict := by
  unfold processDiagDict OutputReadable
  by_cases container : outputDict.isContainer = true
  swap
  · have raised : ∃ e, diagKey outputDict = .error e := ⟨_, by rw [diagKey, Json.contains, if_neg container]; rfl⟩
    obtain ⟨e, raised⟩ := raised
    rw [raised]
    exact iff_of_false (fun ⟨_, run⟩ => nomatch run) fun readable => container readable.1
  have length : outputDict.len = .ok outputDict.elements.length := if_pos container
  rw [diagKey_eq container, length, and_iff_right container]
  simp only [bind, Except.bind]
  cases mentioned : mentionedKey outputDict with
  | none =>
    refine iff_of_true ?_ fun key isSome => nomatch isSome
    split
    · exact ⟨_, rfl⟩
    · exact ⟨_, rfl⟩
  | some key =>
    have filled : outputDict.elements.length ≠ 0 := by
      have isKey := List.mem_of_find?_eq_some mentioned
      have here : outputDict.mentions (codePoints key.toList) = true := by simpa using List.find?_some mentioned
      refine elements_of_mentions ?_ here
      simp only [List.mem_cons, List.not_mem_nil, or_false] at isKey
      rcases isKey with rfl | rfl <;> decide
    rw [if_neg filled]
    simp only [Option.some.injEq, forall_eq']
    cases atKey : outputDict.entryOf (codePoints key.toList) with
    | none =>
      obtain ⟨e, raised⟩ := Json.item_error atKey
      rw [raised]
      exact iff_of_false (fun ⟨_, run⟩ => nomatch run) fun ⟨_, isSome, _⟩ => nomatch isSome
    | some diag =>
      rw [Json.item_eq atKey]
      simp only [Option.some.injEq, exists_eq_left']
      exact processDiag_returns_iff formatOther excludeCategory diag

theorem processDcgmiDiagOutput_returns_iff (output : Str) (errorCode : ReturnCode) (excludeCategory : List Str) :
    (∃ result, processDcgmiDiagOutput py depth formatOther output errorCode.value excludeCategory = .ok result) ↔
      DcgmiDiagReturns py depth formatOther output errorCode.value excludeCategory := by
  unfold processDcgmiDiagOutput DcgmiDiagReturns
  by_cases failed : 0 < errorCode.value ∧ errorCode.value ∉ nonFatalErrors
  · rw [if_pos failed, formatInt_eq py (errorCode.printable py)]
    exact iff_of_true ⟨_, rfl⟩ (.inl failed)
  rw [if_neg failed, or_iff_right failed]
  by_cases empty : output.length = 0
  · rw [if_pos empty]
    exact iff_of_true ⟨_, rfl⟩ (.inl (List.length_eq_zero_iff.mp empty))
  rw [if_neg empty, or_iff_right fun isEmpty => empty (List.length_eq_zero_iff.mpr isEmpty)]
  cases loaded : jsonLoads py depth output with
  | error e => exact iff_of_false (fun ⟨_, run⟩ => nomatch run) fun ⟨_, isOk, _⟩ => nomatch isOk
  | ok outputDict =>
    simp only [Except.ok.injEq, exists_eq_left']
    exact processDiagDict_returns_iff formatOther excludeCategory outputDict

end

/-- Each of the three processors returns exactly when its output can be read. -/
theorem processors_return_iff (py : Interpreter) (errorCode : ReturnCode) (output : Str) :
    (∀ (reprFloat : Float → Str) (criticalThr warningThr : PercentageOption),
      (∃ result, processClusterState py reprFloat output errorCode.value criticalThr warningThr = .ok result) ↔
        ClusterStateReturns py output errorCode.value criticalThr warningThr) ∧
      (∀ dimms totalSize : IntOption py,
        (∃ result, processMemInfo py output errorCode.value dimms.value totalSize.value = .ok result) ↔
          MemInfoReturns py output errorCode.value dimms.value totalSize.value) ∧
      ∀ (depth : Nat) (formatOther : Json → Except PyError PyStr) (excludeCategory : List Str),
        (∃ result, processDcgmiDiagOutput py depth formatOther output errorCode.value excludeCategory = .ok result) ↔
          DcgmiDiagReturns py depth formatOther output errorCode.value excludeCategory :=
  ⟨fun reprFloat criticalThr warningThr =>
      processClusterState_returns_iff py reprFloat output errorCode criticalThr warningThr,
    fun dimms totalSize => processMemInfo_returns_iff py output errorCode dimms totalSize,
    fun depth formatOther excludeCategory =>
      processDcgmiDiagOutput_returns_iff py depth formatOther output errorCode excludeCategory⟩

/-- On successful commands: no node at all, a blank line, and a text that is no
JSON document. -/
theorem processors_raise :
    let py : Interpreter := ⟨fun _ => none, some 4300, by decide⟩
    processClusterState py (fun _ => []) [] 0 ⟨25, by decide, by decide⟩ ⟨15, by decide, by decide⟩ =
        .error (.zeroDivisionError "division by zero".toList) ∧
      processMemInfo py " ".toList 0 16 1024 = .error (.indexError "list index out of range".toList) ∧
      processDcgmiDiagOutput py 1000 (fun _ => .ok []) "Error".toList 0 [] =
        .error (.jsonDecodeError "Expecting value".toList) := by
  refine ⟨?_, ?_, ?_⟩
  · rfl
  · rfl
  · rfl

end GpuTelemetry
