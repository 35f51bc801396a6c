import GpuTelemetry.DcgmiDiag

namespace GpuTelemetry

/-! ### Reports -/

def failStatus : PyStr := codePoints "Fail".toList
def warnStatus : PyStr := codePoints "Warn".toList

/-- A test of a report, with its status on each GPU. -/
structure DiagTest where
  name : PyStr
  statuses : List PyStr

inductive DcgmVersion
  | v3
  | v4
  deriving DecidableEq

/-- A report: the tests of its categories. -/
structure DiagReport where
  version : DcgmVersion
  categories : List (List DiagTest)

/-- A dictionary with this text under the key. -/
def hasText (json : Json) (key : String) (text : PyStr) : Bool :=
  (json.entryOf (codePoints key.toList)).any (Json.isStr text)

/-- Items that fit the members of a list one by one. -/
def fitItems {α : Type} (fits : Json → α → Bool) : List Json → List α → Bool
  | [], [] => true
  | item :: items, a :: as => fits item a && fitItems fits items as
  | _, _ => false

/-- A dictionary with a list under the key that fits this one. -/
def hasItems {α : Type} (fits : Json → α → Bool) (json : Json) (key : String) (as : List α) : Bool :=
  match json.entryOf (codePoints key.toList) with
  | some (.arr items) => fitItems fits items as
  | _ => false

/-- A status that stands for those of all GPUs, as the summary of DCGM 4.x does. -/
def aggregates (statuses : List PyStr) (status : PyStr) : Bool :=
  decide (status = failStatus ↔ failStatus ∈ statuses) &&
    decide (status = warnStatus ↔ warnStatus ∈ statuses ∧ failStatus ∉ statuses)

/-- A summary with such a status. -/
def isSummary (statuses : List PyStr) (summary : Json) : Bool :=
  match summary.entryOf (codePoints "status".toList) with
  | some (.str status) => aggregates statuses status
  | _ => false

/-- DCGM 3.x lists a result for each GPU, DCGM 4.x adds a summary of them. -/
def isTest (version : DcgmVersion) (json : Json) (test : DiagTest) : Bool :=
  hasText json "name" test.name &&
    match version with
    | .v3 => (json.entryOf (codePoints "test_summary".toList)).isNone &&
        hasItems (fun result status => hasText result "status" status) json "results" test.statuses
    | .v4 => (json.entryOf (codePoints "test_summary".toList)).any (isSummary test.statuses)

def isCategory (version : DcgmVersion) (json : Json) (tests : List DiagTest) : Bool :=
  hasItems (isTest version) json "tests" tests

/-- What stands under the key of the version. -/
def diagnosticOf (version : DcgmVersion) (json : Json) : Option Json :=
  match version, json.entryOf (codePoints "DCGM GPU Diagnostic".toList) with
  | .v3, diag => diag
  | .v4, none => json.entryOf (codePoints "DCGM Diagnostic".toList)
  | .v4, some _ => none

def isReport (json : Json) (report : DiagReport) : Bool :=
  (diagnosticOf report.version json).any fun diag =>
    hasItems (isCategory report.version) diag "test_categories" report.categories

theorem hasText_iff {json : Json} {key : String} {text : PyStr} :
    hasText json key text = true ↔ json.entryOf (codePoints key.toList) = some (.str text) := by
  rw [hasText, Option.any_eq_true]
  constructor
  · rintro ⟨value, found, isText⟩
    cases value with
    | str value => rw [found, of_decide_eq_true isText]
    | _ => cases isText
  · intro found
    exact ⟨_, found, decide_eq_true rfl⟩

theorem isSummary_iff {statuses : List PyStr} {summary : Json} :
    isSummary statuses summary = true ↔ ∃ status, summary.entryOf (codePoints "status".toList) = some (.str status) ∧
      aggregates statuses status = true := by
  rw [isSummary]
  split
  · rename_i status found
    simp only [found, Option.some.injEq, Json.str.injEq, exists_eq_left']
  · rename_i other
    refine iff_of_false (by simp) ?_
    rintro ⟨status, found, -⟩
    exact other status found

theorem fitItems_iff {α : Type} {fits : Json → α → Bool} {items : List Json} {as : List α} :
    fitItems fits items as = true ↔ List.Forall₂ (fun item a => fits item a = true) items as := by
  induction items generalizing as with
  | nil => cases as <;> simp [fitItems]
  | cons item items ih => cases as <;> simp [fitItems, ih]

theorem hasItems_iff {α : Type} {fits : Json → α → Bool} {json : Json} {key : String} {as : List α} :
    hasItems fits json key as = true ↔ ∃ items, json.entryOf (codePoints key.toList) = some (.arr items) ∧
      List.Forall₂ (fun item a => fits item a = true) items as := by
  rw [hasItems]
  split
  · rename_i items found
    simp only [found, Option.some.injEq, Json.arr.injEq, exists_eq_left', fitItems_iff]
  · rename_i other
    refine iff_of_false (by simp) ?_
    rintro ⟨items, found, -⟩
    exact other items found

def DiagTest.Excluded (excludeCategory : List Str) (test : DiagTest) : Prop :=
  ∃ category ∈ excludeCategory, test.name = codePoints category

instance (excludeCategory : List Str) (test : DiagTest) : Decidable (test.Excluded excludeCategory) :=
  inferInstanceAs (Decidable (∃ category ∈ excludeCategory, _))

/-- The tests that count. -/
def DiagReport.included (report : DiagReport) (excludeCategory : List Str) : List DiagTest :=
  report.categories.flatten.filter fun test => ¬test.Excluded excludeCategory

/-- Critical where something failed, else a warning where something warned. -/
def severity (statuses : List PyStr) : ExitCode :=
  if failStatus ∈ statuses then .CRITICAL else if warnStatus ∈ statuses then .WARN else .OK

/-- What the report says of all GPUs. -/
def DiagReport.severity (report : DiagReport) (excludeCategory : List Str) : ExitCode :=
  GpuTelemetry.severity ((report.included excludeCategory).flatMap DiagTest.statuses)

/-! ### What is read of it -/

/-- The status that stands for a test. -/
def IsRead (version : DcgmVersion) (test : DiagTest) (status : PyStr) : Prop :=
  match version with
  | .v3 => status = test.statuses.headD []
  | .v4 => aggregates test.statuses status

theorem getTestStatus_test {version : DcgmVersion} {json : Json} {test : DiagTest}
    (fits : isTest version json test = true) :
    ∃ status, getTestStatus json = .ok (.str status) ∧ IsRead version test status := by
  obtain ⟨name, gpuStatuses⟩ := test
  unfold isTest at fits
  rw [Bool.and_eq_true, hasText_iff] at fits
  obtain ⟨named, shape⟩ := fits
  cases json with
  | obj entries =>
    have follows := getTestStatus_follows entries
    cases version with
    | v3 =>
      obtain ⟨noSummary, results⟩ := (Bool.and_eq_true _ _).mp shape
      obtain ⟨items, atResults, statuses⟩ := hasItems_iff.mp results
      rw [testStatus, Option.isNone_iff_eq_none.mp noSummary, resultStatus, atResults] at follows
      refine ⟨_, ?_, rfl⟩
      cases statuses with
      | nil => exact follows
      | @cons item status items statuses first rest =>
        cases item with
        | obj entries =>
          have atStatus : dictGet entries (codePoints "status".toList) = some (.str status) := hasText_iff.mp first
          simp only [Json.truthy, List.isEmpty_cons, Bool.not_false, if_true, atStatus, Option.getD_some] at follows
          exact follows
        | _ => cases first
    | v4 =>
      obtain ⟨summary, atSummary, summarises⟩ := (Option.any_eq_true _ _).mp shape
      obtain ⟨status, atStatus, stands⟩ := isSummary_iff.mp summarises
      refine ⟨status, ?_, stands⟩
      cases summary with
      | obj summaryEntries =>
        have found : dictGet summaryEntries (codePoints "status".toList) = some (.str status) := atStatus
        have mentioned : (Json.obj summaryEntries).mentions (codePoints "status".toList) = true :=
          Option.isSome_iff_exists.mpr ⟨_, found⟩
        rw [testStatus, atSummary] at follows
        simp only [Json.isContainer, if_true, mentioned, atStatus] at follows
        exact follows
      | _ => simp [Json.entryOf] at atStatus
  | _ => simp [Json.entryOf] at named

theorem severity_append (statuses : List PyStr) (status : PyStr) :
    severity (statuses ++ [status]) =
      if status = failStatus then .CRITICAL
      else if status = warnStatus then if (severity statuses).lt .WARN then .WARN else severity statuses
      else severity statuses := by
  unfold severity
  by_cases fail : status = failStatus
  · simp [fail]
  · rw [if_neg fail]
    simp only [List.mem_append, List.mem_singleton, or_iff_left (Ne.symm fail)]
    by_cases failed : failStatus ∈ statuses
    · simp [failed, ExitCode.lt, ExitCode.value]
    · rw [if_neg failed, if_neg failed]
      by_cases warn : status = warnStatus
      · rw [if_pos warn, if_pos (.inr warn.symm)]
        by_cases warned : warnStatus ∈ statuses
        · simp [warned, ExitCode.lt, ExitCode.value]
        · simp [warned, ExitCode.lt, ExitCode.value]
      · simp only [if_neg warn, or_iff_left (Ne.symm warn)]

section

variable (formatOther : Json → Except PyError PyStr) (excludeCategory : List Str) {version : DcgmVersion}

theorem addTest_severity {json : Json} {test : DiagTest} (fits : isTest version json test = true) :
    ∃ read, IsRead version test read ∧ ∀ seen msg, ∃ msg',
      addTest formatOther excludeCategory (severity seen, msg) json =
        .ok (severity (if test.Excluded excludeCategory then seen else seen ++ [read]), msg') := by
  obtain ⟨read, status, isRead⟩ := getTestStatus_test fits
  refine ⟨read, isRead, fun seen msg => ?_⟩
  have excluded : (excludeCategory.any fun category => (Json.str test.name).isStr (codePoints category)) = true ↔
      test.Excluded excludeCategory := by
    rw [List.any_eq_true]
    simp only [Json.isStr, decide_eq_true_eq]
    rfl
  have named : json.entryOf (codePoints "name".toList) = some (.str test.name) := by
    unfold isTest at fits
    exact hasText_iff.mp ((Bool.and_eq_true _ _).mp fits).1
  unfold addTest
  rw [Json.item_eq named, status]
  simp only [bind, Except.bind]
  by_cases skipped : test.Excluded excludeCategory
  · rw [if_pos (excluded.mpr skipped), if_pos skipped]
    exact ⟨msg, rfl⟩
  · rw [if_neg (mt excluded.mp skipped), if_neg skipped, severity_append]
    have isFail : (Json.str read).isStr (codePoints "Fail".toList) = decide (read = failStatus) := rfl
    have isWarn : (Json.str read).isStr (codePoints "Warn".toList) = decide (read = warnStatus) := rfl
    rw [isFail, isWarn]
    by_cases fail : read = failStatus
    · rw [if_pos (decide_eq_true fail), if_pos fail]
      exact ⟨_, rfl⟩
    rw [if_neg (by simpa using fail), if_neg fail]
    by_cases warn : read = warnStatus
    · rw [if_pos (decide_eq_true warn), if_pos warn]
      exact ⟨_, rfl⟩
    · rw [if_neg (by simpa using warn), if_neg warn]
      exact ⟨msg, rfl⟩

/-- What is read of the tests of a category, without the excluded ones. -/
theorem addTests_severity {items : List Json} {tests : List DiagTest}
    (areTests : List.Forall₂ (fun item test => isTest version item test = true) items tests) :
    ∃ reads, List.Forall₂ (IsRead version) (tests.filter fun test => ¬test.Excluded excludeCategory) reads ∧
      ∀ seen msg, ∃ msg', items.foldlM (addTest formatOther excludeCategory) (severity seen, msg) =
        .ok (severity (seen ++ reads), msg') := by
  induction areTests with
  | nil => exact ⟨[], .nil, fun seen msg => ⟨msg, by rw [List.append_nil]; rfl⟩⟩
  | @cons json test items tests fits areTests ih =>
    obtain ⟨read, isRead, step⟩ := addTest_severity formatOther excludeCategory fits
    obtain ⟨reads, areRead, run⟩ := ih
    by_cases excluded : test.Excluded excludeCategory
    · refine ⟨reads, by rwa [List.filter_cons_of_neg (by simpa using excluded)], fun seen msg => ?_⟩
      obtain ⟨next, stepped⟩ := step seen msg
      rw [if_pos excluded] at stepped
      rw [List.foldlM_cons, stepped]
      exact run seen next
    · refine ⟨read :: reads, ?_, fun seen msg => ?_⟩
      · rw [List.filter_cons_of_pos (by simpa using excluded)]
        exact .cons isRead areRead
      · obtain ⟨next, stepped⟩ := step seen msg
        rw [if_neg excluded] at stepped
        have shift : seen ++ read :: reads = seen ++ [read] ++ reads := by simp
        rw [List.foldlM_cons, stepped, shift]
        exact run _ next

theorem addCategories_severity {items : List Json} {categories : List (List DiagTest)}
    (areCategories : List.Forall₂ (fun item tests => isCategory version item tests = true) items categories) :
    ∃ reads, List.Forall₂ (IsRead version) (categories.flatten.filter fun test => ¬test.Excluded excludeCategory)
        reads ∧
      ∀ seen msg, ∃ msg', items.foldlM (addCategory formatOther excludeCategory) (severity seen, msg) =
        .ok (severity (seen ++ reads), msg') := by
  induction areCategories with
  | nil => exact ⟨[], .nil, fun seen msg => ⟨msg, by rw [List.append_nil]; rfl⟩⟩
  | @cons json tests items categories fits areCategories ih =>
    obtain ⟨testItems, atTests, areTests⟩ := hasItems_iff.mp fits
    obtain ⟨reads, areRead, step⟩ := addTests_severity formatOther excludeCategory areTests
    obtain ⟨later, laterRead, run⟩ := ih
    refine ⟨reads ++ later, ?_, fun seen msg => ?_⟩
    · rw [List.flatten_cons, List.filter_append]
      exact List.rel_append areRead laterRead
    · obtain ⟨next, stepped⟩ := step seen msg
      have category : addCategory formatOther excludeCategory (severity seen, msg) json =
          .ok (severity (seen ++ reads), next) := by
        unfold addCategory
        rw [Json.item_eq atTests]
        exact stepped
      rw [List.foldlM_cons, category, ← List.append_assoc]
      exact run _ next

theorem processDiag_severity {version : DcgmVersion} {diag : Json} {items : List Json}
    {categories : List (List DiagTest)}
    (atCategories : diag.entryOf (codePoints "test_categories".toList) = some (.arr items))
    (areCategories : List.Forall₂ (fun item tests => isCategory version item tests = true) items categories) :
    ∃ reads, List.Forall₂ (IsRead version) (categories.flatten.filter fun test => ¬test.Excluded excludeCategory)
        reads ∧
      ∃ msg, processDiag formatOther diag excludeCategory = .ok (severity reads, msg) := by
  obtain ⟨reads, areRead, run⟩ := addCategories_severity formatOther excludeCategory areCategories
  obtain ⟨msg, folded⟩ := run [] []
  refine ⟨reads, areRead, ?_⟩
  cases diag with
  | obj entries =>
    have contained : (Json.obj entries).contains "test_categories" = .ok true := by
      rw [Json.contains_eq rfl]
      exact congrArg _ (Option.isSome_iff_exists.mpr ⟨_, atCategories⟩)
    have start : severity [] = .OK := by decide
    rw [start] at folded
    have iterated : (Json.arr items).iterate = .ok items := rfl
    unfold processDiag
    rw [contained, Json.item_eq atCategories]
    simp only [bind, Except.bind, iterated, Bool.not_true, Bool.false_eq_true, if_false]
    rw [folded]
    exact ⟨_, rfl⟩
  | _ => simp [Json.entryOf] at atCategories

theorem mentionedKey_diagnostic {json diag : Json} (found : diagnosticOf version json = some diag) :
    ∃ key, mentionedKey json = some key ∧ json.entryOf (codePoints key.toList) = some diag := by
  cases json with
  | obj entries =>
    have mentions : ∀ key : String, (Json.obj entries).mentions (codePoints key.toList) =
        ((Json.obj entries).entryOf (codePoints key.toList)).isSome := fun _ => rfl
    unfold mentionedKey
    unfold diagnosticOf at found
    rw [List.find?_cons, List.find?_cons, mentions, mentions]
    split at found
    · rw [found]
      exact ⟨_, rfl, found⟩
    · rename_i absent
      rw [absent, found]
      exact ⟨_, rfl, found⟩
    · cases found
  | _ => cases version <;> simp [diagnosticOf, Json.entryOf] at found

theorem processDiagDict_severity {json : Json} {report : DiagReport} (fits : isReport json report = true) :
    ∃ reads, List.Forall₂ (IsRead report.version) (report.included excludeCategory) reads ∧
      ∃ msg, processDiagDict formatOther json excludeCategory = .ok (severity reads, msg) := by
  obtain ⟨diag, found, categories⟩ := (Option.any_eq_true _ _).mp fits
  obtain ⟨items, atCategories, areCategories⟩ := hasItems_iff.mp categories
  obtain ⟨reads, areRead, msg, run⟩ := processDiag_severity formatOther excludeCategory atCategories areCategories
  refine ⟨reads, areRead, msg, ?_⟩
  obtain ⟨key, isKey, atKey⟩ := mentionedKey_diagnostic found
  cases json with
  | obj entries =>
    have filled : (Json.obj entries).elements.length ≠ 0 := by
      refine elements_of_mentions ?_ (Option.isSome_iff_exists.mpr ⟨_, atKey⟩)
      have known := List.mem_of_find?_eq_some isKey
      simp only [List.mem_cons, List.not_mem_nil, or_false] at known
      rcases known with rfl | rfl <;> decide
    have length : (Json.obj entries).len = .ok (Json.obj entries).elements.length := rfl
    unfold processDiagDict
    rw [diagKey_eq rfl, isKey, length]
    simp only [bind, Except.bind, if_neg filled, Json.item_eq atKey]
    exact run
  | _ => simp [Json.entryOf] at atKey

end

/-! ### When the worst status is read -/

section

variable (excludeCategory : List Str)

/-- What failed is read somewhere, and what warned if nothing failed: DCGM 3.x
is only asked for the status on the first GPU. -/
def DiagReport.WorstIsRead (report : DiagReport) : Prop :=
  report.version = .v3 →
    ((∃ test ∈ report.included excludeCategory, failStatus ∈ test.statuses) →
      ∃ test ∈ report.included excludeCategory, test.statuses.head? = some failStatus) ∧
    ((∀ test ∈ report.included excludeCategory, failStatus ∉ test.statuses) →
      (∃ test ∈ report.included excludeCategory, warnStatus ∈ test.statuses) →
        ∃ test ∈ report.included excludeCategory, test.statuses.head? = some warnStatus)

theorem severity_eq_iff (statuses statuses' : List PyStr) :
    severity statuses = severity statuses' ↔
      (failStatus ∈ statuses ↔ failStatus ∈ statuses') ∧
        (failStatus ∉ statuses' → (warnStatus ∈ statuses ↔ warnStatus ∈ statuses')) := by
  unfold severity
  by_cases fail : failStatus ∈ statuses <;> by_cases fail' : failStatus ∈ statuses' <;>
    by_cases warn : warnStatus ∈ statuses <;> by_cases warn' : warnStatus ∈ statuses' <;>
      simp [fail, fail', warn, warn']

theorem mem_reads {version : DcgmVersion} {tests : List DiagTest} {reads : List PyStr}
    (areRead : List.Forall₂ (IsRead version) tests reads) {status : PyStr} {p : DiagTest → Prop}
    (same : ∀ test read, IsRead version test read → (read = status ↔ p test)) :
    status ∈ reads ↔ ∃ test ∈ tests, p test := by
  induction areRead with
  | nil => simp
  | @cons test read tests reads isRead areRead ih =>
    rw [List.mem_cons, List.exists_mem_cons_iff, ih, @eq_comm _ status read, same test read isRead]

theorem headD_eq_iff {statuses : List PyStr} {status : PyStr} (nonempty : status ≠ []) :
    statuses.headD [] = status ↔ statuses.head? = some status := by
  cases statuses with
  | nil => simp [Ne.symm nonempty]
  | cons first rest => simp

theorem severity_reads_iff {report : DiagReport} {reads : List PyStr}
    (areRead : List.Forall₂ (IsRead report.version) (report.included excludeCategory) reads) :
    severity reads = report.severity excludeCategory ↔ report.WorstIsRead excludeCategory := by
  rw [DiagReport.severity, severity_eq_iff, List.mem_flatMap, List.mem_flatMap, DiagReport.WorstIsRead]
  generalize report.included excludeCategory = tests at areRead
  generalize report.version = version at areRead
  cases version with
  | v3 =>
    have fails := mem_reads areRead fun test read (isRead : read = test.statuses.headD []) =>
      (isRead ▸ headD_eq_iff (by decide) : read = failStatus ↔ test.statuses.head? = some failStatus)
    have warns := mem_reads areRead fun test read (isRead : read = test.statuses.headD []) =>
      (isRead ▸ headD_eq_iff (by decide) : read = warnStatus ↔ test.statuses.head? = some warnStatus)
    have within : ∀ status, (∃ test ∈ tests, test.statuses.head? = some status) → ∃ test ∈ tests,
        status ∈ test.statuses := fun status ⟨test, member, first⟩ => ⟨test, member, List.mem_of_head? first⟩
    rw [fails, warns, imp_iff_right rfl]
    constructor
    · rintro ⟨fail, warn⟩
      exact ⟨fail.mpr, fun none => (warn fun ⟨test, member, failed⟩ => none test member failed).mpr⟩
    · rintro ⟨fail, warn⟩
      refine ⟨⟨within _, fail⟩, fun none => ⟨within _, warn fun test member failed => none ⟨test, member, failed⟩⟩⟩
  | v4 =>
    have fails := mem_reads areRead fun test read (isRead : aggregates test.statuses read = true) =>
      of_decide_eq_true ((Bool.and_eq_true _ _).mp isRead).1
    have warns := mem_reads areRead fun test read (isRead : aggregates test.statuses read = true) =>
      of_decide_eq_true ((Bool.and_eq_true _ _).mp isRead).2
    rw [fails, warns]
    refine iff_of_true ⟨Iff.rfl, fun none => ⟨?_, ?_⟩⟩ (fun isV3 => nomatch isV3)
    · rintro ⟨test, member, warned, -⟩
      exact ⟨test, member, warned⟩
    · rintro ⟨test, member, warned⟩
      exact ⟨test, member, warned, fun failed => none ⟨test, member, failed⟩⟩

end

/-- A report is answered with the code of its worst result exactly when that result is one of those that are read. -/
theorem processDcgmiDiagOutput_severity_iff (py : Interpreter) (depth : Nat) (formatOther : Json → Except PyError PyStr)
    (output : Str) (errorCode : Int) (excludeCategory : List Str) (json : Json) (report : DiagReport)
    (ran : ¬(0 < errorCode ∧ errorCode ∉ nonFatalErrors)) (loaded : jsonLoads py depth output = .ok json)
    (fits : isReport json report = true) :
    (∃ msg, processDcgmiDiagOutput py depth formatOther output errorCode excludeCategory =
        .ok (report.severity excludeCategory, msg)) ↔
      report.WorstIsRead excludeCategory := by
  obtain ⟨reads, areRead, msg, run⟩ := processDiagDict_severity formatOther excludeCategory fits
  have returned : processDcgmiDiagOutput py depth formatOther output errorCode excludeCategory =
      .ok (severity reads, msg) := by
    have some : output.length ≠ 0 := by
      rw [ne_eq, List.length_eq_zero_iff]
      rintro rfl
      cases depth <;> cases loaded
    unfold processDcgmiDiagOutput
    rw [if_neg ran, if_neg some, loaded]
    exact run
  rw [returned, ← severity_reads_iff excludeCategory areRead]
  simp [Prod.ext_iff]

/-- A memory test that passed on the first GPU and failed on the second. -/
def secondGpuFails : DiagReport :=
  ⟨.v3, [[⟨codePoints "Memory".toList, [codePoints "Pass".toList, failStatus]⟩]]⟩

def secondGpuFailsOutput : Str :=
  ("\x7b\"DCGM GPU Diagnostic\": \x7b\"test_categories\": [\x7b\"category\": \"Hardware\", \"tests\": [" ++
    "\x7b\"name\": \"Memory\", \"results\": [\x7b\"gpu_ids\": \"0\", \"status\": \"Pass\"\x7d, " ++
    "\x7b\"gpu_ids\": \"1\", \"status\": \"Fail\"\x7d]\x7d]\x7d]\x7d\x7d").toList

theorem secondGpuFails_ok :
    let py : Interpreter := ⟨fun _ => none, some 4300, by decide⟩
    (jsonLoads py 1000 secondGpuFailsOutput).toOption.any (isReport · secondGpuFails) = true ∧
      secondGpuFails.severity [] = .CRITICAL ∧
      processDcgmiDiagOutput py 1000 (fun _ => .ok []) secondGpuFailsOutput 0 [] =
        .ok (.OK, codePoints "All checks passed.\n".toList) :=
  ⟨by decide +kernel, by decide, by decide +kernel⟩

/-- The same test in the other format, with a warning of the second GPU, beside a test of another category. -/
def secondGpuWarns : DiagReport :=
  ⟨.v4, [[⟨codePoints "Memory".toList, [codePoints "Pass".toList, warnStatus]⟩],
    [⟨codePoints "PCIe".toList, [codePoints "Pass".toList]⟩]]⟩

def secondGpuWarnsOutput : Str :=
  ("\x7b\"DCGM Diagnostic\": \x7b\"test_categories\": [\x7b\"category\": \"Hardware\", \"tests\": [" ++
    "\x7b\"name\": \"Memory\", \"results\": [\x7b\"entity_id\": 0, \"status\": \"Pass\"\x7d, " ++
    "\x7b\"entity_id\": 1, \"status\": \"Warn\"\x7d], \"test_summary\": \x7b\"status\": \"Warn\"\x7d" ++
    "\x7d]\x7d, \x7b\"category\": \"Integration\", \"tests\": [\x7b\"name\": \"PCIe\", " ++
    "\"results\": [\x7b\"entity_id\": 0, \"status\": \"Pass\"\x7d], " ++
    "\"test_summary\": \x7b\"status\": \"Pass\"\x7d\x7d]\x7d]\x7d\x7d").toList

theorem processDcgmiDiagOutput_severity_warns :
    let py : Interpreter := ⟨fun _ => none, some 4300, by decide⟩
    ∃ json, jsonLoads py 1000 secondGpuWarnsOutput = .ok json ∧ isReport json secondGpuWarns = true ∧
      ((∃ msg, processDcgmiDiagOutput py 1000 (fun _ => .ok []) secondGpuWarnsOutput 205 [] =
          .ok (secondGpuWarns.severity [], msg)) ↔
        secondGpuWarns.WorstIsRead []) := by
  intro py
  have fits : (jsonLoads py 1000 secondGpuWarnsOutput).toOption.any (isReport · secondGpuWarns) = true := by
    decide +kernel
  obtain ⟨json, isJson, isReported⟩ := (Option.any_eq_true _ _).mp fits
  have loaded : jsonLoads py 1000 secondGpuWarnsOutput = .ok json := by
    cases result : jsonLoads py 1000 secondGpuWarnsOutput with
    | error e =>
      rw [result] at isJson
      cases isJson
    | ok value =>
      rw [result] at isJson
      exact congrArg _ (Option.some.inj isJson)
  exact ⟨json, loaded, isReported, processDcgmiDiagOutput_severity_iff py 1000 _ _ _ _ json _ (by decide) loaded
    isReported⟩

end GpuTelemetry
