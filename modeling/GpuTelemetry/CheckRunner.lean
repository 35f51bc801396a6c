import GpuTelemetry.ContextManagers
import GpuTelemetry.Dicts
import GpuTelemetry.PyStrings
import GpuTelemetry.RunningProcs

namespace GpuTelemetry

/-! ### The contexts of a health check -/

inductive CheckType
  | prolog
  | epilog
  | nagios
  | app
  deriving DecidableEq

/-- How a check ends: by `sys.exit`, or with another exception. -/
inductive CheckExit
  | systemExit (status : Nat)
  | raised (e : PyError)

/-- `HealthCheckLog`. The times are of any type. -/
structure HealthCheckLog (τ : Type) where
  node : Str
  gpuNodeId : Option Str
  cluster : Str
  derivedCluster : Str
  healthCheck : Str
  type : CheckType
  result : Nat
  msg : Str
  jobId : Int
  startTime : τ
  endTime : τ

/-- What a check does, with the variables of its body. -/
structure CheckState (τ κ : Type) where
  locals : κ
  records : List (HealthCheckLog τ)
  printed : List Str
  errors : List Str

variable {τ κ : Type}

/-- A sink that has been constructed. -/
structure CheckSink (τ : Type) where
  write : HealthCheckLog τ → Except PyError Unit
  shutdown : Option (Except PyError Unit)

/-- The fields of a `TelemetryContext` that its checks share, with the
environment that it meets on exit. -/
structure Telemetry (τ : Type) where
  cluster : Str
  derivedCluster : Str
  type : CheckType
  node : Str
  gpuNodeId : Option Str
  slurmJobId : Option Str
  startTime : τ
  endTime : τ
  sink : Except PyError (CheckSink τ)

variable (py : Interpreter)

/-- `int` of a text. -/
def pyIntOfText (s : Str) : Except PyError Int :=
  match pyIntOfWord py (strip s) with
  | some n => .ok n
  | none => .error (.valueError ("invalid literal for int() with base 10: '".toList ++ s ++ "'".toList))

def missingJobId : Str := "SLURM_JOB_ID is not set for prolog/epilog check.".toList

/-- `sink_impl.write` in its `try`. -/
def CheckSink.publish (sink : CheckSink τ) (record : HealthCheckLog τ) (s : CheckState τ κ) : CheckState τ κ :=
  match sink.write record with
  | .ok () => { s with records := s.records ++ [record] }
  | .error _ => { s with errors := s.errors ++ ["Telemetry failed with exception.".toList] }

namespace Telemetry

/-- The job id, and whether it is missed. -/
def jobId (telemetry : Telemetry τ) : Except PyError (Int × Bool) :=
  if telemetry.type = .prolog ∨ telemetry.type = .epilog then
    match telemetry.slurmJobId with
    | some text => (pyIntOfText py text).map fun id => (id, false)
    | none => .ok (0, true)
  else .ok (0, false)

def record (telemetry : Telemetry τ) (name : Str) (exitCode : ExitCode) (msg : Str) (jobId : Int) :
    HealthCheckLog τ where
  node := telemetry.node
  gpuNodeId := telemetry.gpuNodeId
  cluster := telemetry.cluster
  derivedCluster := telemetry.derivedCluster
  healthCheck := name
  type := telemetry.type
  result := exitCode.value
  msg := msg
  jobId := jobId
  startTime := telemetry.startTime
  endTime := telemetry.endTime

/-- The note on a missing job id, in the log and in the message. -/
def noteMissing (missed : Bool) (s : CheckState τ κ) : CheckState τ κ :=
  if missed then { s with errors := s.errors ++ [missingJobId] } else s

def notedMsg (missed : Bool) (msg : Str) : Str := if missed then msg ++ '\n' :: missingJobId else msg

/-- `TelemetryContext.__exit__`, which does not look at the exception. -/
def exit (telemetry : Telemetry τ) (name : Str) (getExitCodeMsg : κ → ExitCode × Str) (s : CheckState τ κ) :
    Except CheckExit Unit × CheckState τ κ :=
  let (exitCode, msg) := getExitCodeMsg s.locals
  match telemetry.jobId py with
  | .error e => (.error (.raised e), s)
  | .ok (jobId, missed) =>
    match telemetry.sink with
    | .error e => (.error (.raised e), noteMissing missed s)
    | .ok sink =>
      let s := sink.publish (telemetry.record name exitCode (notedMsg missed msg) jobId) (noteMissing missed s)
      match sink.shutdown with
      | some (.error e) => (.error (.raised e), s)
      | _ => (.ok (), s)

/-- `TelemetryContext`. -/
def context (telemetry : Telemetry τ) (name : Str) (getExitCodeMsg : κ → ExitCode × Str) :
    ContextManager (CheckState τ κ) CheckExit where
  enter s := (.ok (), s)
  exit _ := telemetry.exit py name getExitCodeMsg

end Telemetry

def ExitCode.word : ExitCode → Str
  | .OK => "OK - ".toList
  | .WARN => "WARNING - ".toList
  | .CRITICAL => "CRITICAL - ".toList
  | .UNKNOWN => "UNKNOWN - ".toList

/-- The line that `OutputContext` prints, if it prints one. -/
def outputLine (type : CheckType) (name : Str) (verboseOut : Bool) (exitCode : ExitCode) (msg : Str) : List Str :=
  if verboseOut ∨ type = .nagios ∨ type = .app then
    [exitCode.word ++ name ++ if (verboseOut ∨ type = .app) ∧ msg ≠ [] then ". ".toList ++ msg else []]
  else []

def abnormalExit : Str := "WARNING - check did not exit normally".toList

/-- `OutputContext`. -/
def outputContext (type : CheckType) (name : Str) (getExitCodeMsg : κ → ExitCode × Str) (verboseOut : Bool) :
    ContextManager (CheckState τ κ) CheckExit where
  enter s := (.ok (), s)
  exit raised s :=
    match raised with
    | some (.raised _) => (.ok (), { s with printed := s.printed ++ [abnormalExit] })
    | _ =>
      let (exitCode, msg) := getExitCodeMsg s.locals
      (.ok (), { s with printed := s.printed ++ outputLine type name verboseOut exitCode msg })

/-! ### The killswitches -/

/-- A value of a TOML file; of those that are no tables and no truth values, the name of their type. -/
inductive TomlValue
  | table (entries : List (Str × TomlValue))
  | boolean (value : Bool)
  | other (typeName : Str)

def TomlValue.typeName : TomlValue → Str
  | .table _ => "dict".toList
  | .boolean _ => "bool".toList
  | .other typeName => typeName

/-- A getter of `FeatureValueHealthChecksFeatures`, with what `load_config` returns or raises. -/
def featureValue (loadConfig : Except PyError (List (Str × TomlValue))) (feature : Str) : Except PyError Bool :=
  match loadConfig with
  | .error _ => .ok false
  | .ok features =>
    match (dictGet features "HealthChecksFeatures".toList).getD (.table []) with
    | .table entries =>
      match (dictGet entries feature).getD (.boolean false) with
      | .boolean value => .ok value
      | value => .error (.typeError ("Expected bool value for HealthChecksFeatures.".toList ++ feature ++
          ", got ".toList ++ value.typeName ++ " instead.".toList))
    | value => .error (.attributeError ("'".toList ++ value.typeName ++ "' object has no attribute 'get'".toList))

/-! ### The commands of one check -/

structure CommandOut where
  stdout : Str
  returncode : Int

/-- What running a command raises. -/
inductive CommandError
  | timeoutExpired
  | other

def handleSubprocessException : CommandError → CommandOut
  | .timeoutExpired => ⟨"Error command timeout because of timeout setting.\n".toList, 128⟩
  | .other => ⟨"Error: Unknown subprocess exception was raised.\n".toList, 2⟩

def commandOut : Except CommandError CommandOut → CommandOut
  | .ok out => out
  | .error e => handleSubprocessException e

/-- A body that sets the code and the message and exits with the code. -/
def sysExit (exitCode : ExitCode) (msg : Str) (s : CheckState τ (ExitCode × Str)) :
    Except CheckExit Unit × CheckState τ (ExitCode × Str) :=
  (.error (.systemExit exitCode.value), { s with locals := (exitCode, msg) })

/-- The body of the commands that run one command and read its output. -/
def commandBody (disabled : Except PyError Bool) (name : Str) (command : Except CommandError CommandOut)
    (process : CommandOut → Except PyError (ExitCode × Str)) (s : CheckState τ (ExitCode × Str)) :
    Except CheckExit Unit × CheckState τ (ExitCode × Str) :=
  match disabled with
  | .error e => (.error (.raised e), s)
  | .ok true => sysExit .OK (name ++ " is disabled by killswitch.".toList) s
  | .ok false =>
    match process (commandOut command) with
    | .error e => (.error (.raised e), s)
    | .ok (exitCode, msg) => sysExit exitCode msg s

/-- What a command starts with. -/
def CheckState.start : CheckState τ (ExitCode × Str) := ⟨(.UNKNOWN, []), [], [], []⟩

/-- The two contexts of a command around its body. -/
def runCheck (telemetry : Telemetry τ) (name : Str) (verboseOut : Bool)
    (body : CheckState τ (ExitCode × Str) → Except CheckExit Unit × CheckState τ (ExitCode × Str)) :
    Except CheckExit Unit × CheckState τ (ExitCode × Str) :=
  (telemetry.context py name id).within ((outputContext telemetry.type name id verboseOut).within body) .start

/-! ### Leaving the contexts -/

/-- What `OutputContext` prints of a body that ended so. -/
def endLines (type : CheckType) (name : Str) (verboseOut : Bool) (ended : CheckExit) (exitCode : ExitCode) (msg : Str) :
    List Str :=
  match ended with
  | .raised _ => [abnormalExit]
  | .systemExit _ => outputLine type name verboseOut exitCode msg

theorem outputContext_leave (type : CheckType) (name : Str) (getExitCodeMsg : κ → ExitCode × Str) (verboseOut : Bool)
    (ended : CheckExit) (s : CheckState τ κ) :
    (outputContext type name getExitCodeMsg verboseOut).leave (.error ended, s) = ((.error ended : Except _ Unit),
      { s with printed := s.printed ++
          endLines type name verboseOut ended (getExitCodeMsg s.locals).1 (getExitCodeMsg s.locals).2 }) := by
  cases ended <;> exact ContextManager.leave_left rfl

namespace Telemetry

/-- The record of a check, if its exit gets as far as writing it and the sink takes it. -/
def written (telemetry : Telemetry τ) (name : Str) (exitCode : ExitCode) (msg : Str) : Option (HealthCheckLog τ) :=
  match telemetry.jobId py, telemetry.sink with
  | .ok (jobId, missed), .ok sink =>
    match sink.write (telemetry.record name exitCode (notedMsg missed msg) jobId) with
    | .ok () => some (telemetry.record name exitCode (notedMsg missed msg) jobId)
    | .error _ => none
  | _, _ => none

theorem written_code {telemetry : Telemetry τ} {name : Str} {exitCode : ExitCode} {msg : Str}
    {record : HealthCheckLog τ} (member : record ∈ telemetry.written py name exitCode msg) :
    record.result = exitCode.value ∧ record.healthCheck = name := by
  unfold written at member
  split at member
  · split at member
    · cases Option.some.inj member
      exact ⟨rfl, rfl⟩
    · cases member
  · cases member

/-- The exit ends without an exception: the job id can be read, and the sink be constructed and shut down. -/
def Exits (telemetry : Telemetry τ) : Prop :=
  (∃ id, telemetry.jobId py = .ok id) ∧ ∃ sink, telemetry.sink = .ok sink ∧ ∀ e, sink.shutdown ≠ some (.error e)

/-- What the exit does to the state: it writes at most one record, of the code that it is given. -/
structure Exited (telemetry : Telemetry τ) (name : Str) (exitCode : ExitCode) (msg : Str) (s s' : CheckState τ κ) :
    Prop where
  locals : s'.locals = s.locals
  printed : s'.printed = s.printed
  records : s'.records = s.records ++ (telemetry.written py name exitCode msg).toList

theorem exited_unwritten {telemetry : Telemetry τ} {name : Str} {exitCode : ExitCode} {msg : Str}
    (unwritten : telemetry.written py name exitCode msg = none) (missed : Bool) (s : CheckState τ κ) :
    telemetry.Exited py name exitCode msg s (noteMissing missed s) := by
  cases missed <;> exact ⟨rfl, rfl, by simp [noteMissing, unwritten]⟩

theorem exited_published {telemetry : Telemetry τ} {name : Str} {exitCode : ExitCode} {msg : Str} {jobId : Int}
    {missed : Bool} {sink : CheckSink τ} (known : telemetry.jobId py = .ok (jobId, missed))
    (made : telemetry.sink = .ok sink) (s : CheckState τ κ) :
    telemetry.Exited py name exitCode msg s
      (sink.publish (telemetry.record name exitCode (notedMsg missed msg) jobId) (noteMissing missed s)) := by
  have written : telemetry.written py name exitCode msg =
      match sink.write (telemetry.record name exitCode (notedMsg missed msg) jobId) with
      | .ok () => some (telemetry.record name exitCode (notedMsg missed msg) jobId)
      | .error _ => none := by
    simp only [Telemetry.written, known, made]
  generalize telemetry.record name exitCode (notedMsg missed msg) jobId = record at written ⊢
  rw [CheckSink.publish]
  cases wrote : sink.write record with
  | ok =>
    rw [wrote] at written
    cases missed <;> exact ⟨rfl, rfl, by simp [noteMissing, written]⟩
  | error e =>
    rw [wrote] at written
    cases missed <;> exact ⟨rfl, rfl, by simp [noteMissing, written]⟩

theorem exit_cases (telemetry : Telemetry τ) (name : Str) (getExitCodeMsg : κ → ExitCode × Str) (s : CheckState τ κ) :
    ∃ s', telemetry.Exited py name (getExitCodeMsg s.locals).1 (getExitCodeMsg s.locals).2 s s' ∧
      (telemetry.Exits py ∧ telemetry.exit py name getExitCodeMsg s = (.ok (), s') ∨
        ¬telemetry.Exits py ∧ ∃ e, telemetry.exit py name getExitCodeMsg s = (.error (.raised e), s')) := by
  unfold exit
  generalize getExitCodeMsg s.locals = codeMsg
  cases jobId : telemetry.jobId py with
  | error e =>
    have unwritten : telemetry.written py name codeMsg.1 codeMsg.2 = none := by simp only [written, jobId]
    exact ⟨s, exited_unwritten py unwritten false s, .inr ⟨by simp [Exits, jobId], e, rfl⟩⟩
  | ok id =>
    cases made : telemetry.sink with
    | error e =>
      have unwritten : telemetry.written py name codeMsg.1 codeMsg.2 = none := by simp only [written, jobId, made]
      exact ⟨_, exited_unwritten py unwritten id.2 s, .inr ⟨by simp [Exits, made], e, rfl⟩⟩
    | ok sink =>
      have ends : telemetry.Exits py ↔ ∀ e, sink.shutdown ≠ some (.error e) := by simp [Exits, jobId, made]
      refine ⟨_, exited_published py jobId made s, ?_⟩
      dsimp only
      cases shutdown : sink.shutdown with
      | none => exact .inl ⟨ends.mpr (by simp [shutdown]), rfl⟩
      | some down =>
        cases down with
        | ok => exact .inl ⟨ends.mpr (by simp [shutdown]), rfl⟩
        | error e => exact .inr ⟨by simp [ends, shutdown], e, rfl⟩

/-- Leaving the context: the outcome stays unless the exit raises. -/
theorem leave_cases (telemetry : Telemetry τ) (name : Str) (getExitCodeMsg : κ → ExitCode × Str)
    (result : Except CheckExit Unit × CheckState τ κ) :
    ∃ s', telemetry.Exited py name (getExitCodeMsg result.2.locals).1 (getExitCodeMsg result.2.locals).2 result.2 s' ∧
      (telemetry.Exits py ∧ (telemetry.context py name getExitCodeMsg).leave result = (result.1, s') ∨
        ¬telemetry.Exits py ∧ ∃ e, (telemetry.context py name getExitCodeMsg).leave result =
          (.error (.raised e), s')) := by
  obtain ⟨s', exited, ⟨exits, left⟩ | ⟨fails, e, raised⟩⟩ := telemetry.exit_cases py name getExitCodeMsg result.2
  · exact ⟨s', exited, .inl ⟨exits, ContextManager.leave_left left⟩⟩
  · exact ⟨s', exited, .inr ⟨fails, e, ContextManager.leave_raised raised⟩⟩

end Telemetry

/-! ### The reports of a command -/

/-- A body comes to a code and a message and exits with the code, or raises before it has set them. -/
def Ends (body : CheckState τ (ExitCode × Str) → Except CheckExit Unit × CheckState τ (ExitCode × Str)) :
    Except PyError (ExitCode × Str) → Prop
  | .ok (exitCode, msg) => body .start = (.error (.systemExit exitCode.value), ⟨(exitCode, msg), [], [], []⟩)
  | .error e => body .start = (.error (.raised e), .start)

/-- The exit status, the record and the line, where there are any, speak of one code. -/
structure OneCode (name : Str) (exitCode : ExitCode) (result : Except CheckExit Unit × CheckState τ (ExitCode × Str)) :
    Prop where
  status : result.1 = .error (.systemExit exitCode.value)
  record : ∀ record ∈ result.2.records, record.result = exitCode.value ∧ record.healthCheck = name
  line : ∀ line ∈ result.2.printed, exitCode.word ++ name <+: line

/-- What a command reports, by what its body comes to. -/
structure CommandReports (telemetry : Telemetry τ) (name : Str) (verboseOut : Bool)
    (ending : Except PyError (ExitCode × Str)) (result : Except CheckExit Unit × CheckState τ (ExitCode × Str)) :
    Prop where
  /-- A code: the record and the line have it, and so has the status if the telemetry ends. -/
  coded : ∀ exitCode msg, ending = .ok (exitCode, msg) →
    result.2.records = (telemetry.written py name exitCode msg).toList ∧
      result.2.printed = outputLine telemetry.type name verboseOut exitCode msg ∧
      (telemetry.Exits py → result.1 = .error (.systemExit exitCode.value))
  /-- An exception: it is recorded as unknown and printed as a warning. -/
  raised : ∀ e, ending = .error e →
    result.2.records = (telemetry.written py name .UNKNOWN []).toList ∧ result.2.printed = [abnormalExit] ∧
      (telemetry.Exits py → result.1 = .error (.raised e))
  /-- The exception of the telemetry takes the place of what the body ended with. -/
  failed : ¬telemetry.Exits py → ∃ e, result.1 = .error (.raised e)
  oneCode : ∀ exitCode, OneCode name exitCode result ↔ telemetry.Exits py ∧ ∃ msg, ending = .ok (exitCode, msg)

theorem ExitCode.value_injective {exitCode exitCode' : ExitCode} (same : exitCode.value = exitCode'.value) :
    exitCode = exitCode' := by
  cases exitCode <;> cases exitCode' <;> first | rfl | cases same

theorem outputLine_word {type : CheckType} {name : Str} {verboseOut : Bool} {exitCode : ExitCode} {msg line : Str}
    (member : line ∈ outputLine type name verboseOut exitCode msg) : exitCode.word ++ name <+: line := by
  unfold outputLine at member
  split at member
  · rw [List.mem_singleton.mp member]
    exact List.prefix_append _ _
  · cases member

/-- The contexts around a body of which the line that is printed and the state are known. -/
theorem runCheck_leave {body : CheckState τ (ExitCode × Str) → Except CheckExit Unit × CheckState τ (ExitCode × Str)}
    {ended : CheckExit} {exitCode : ExitCode} {msg : Str}
    (ends : body .start = (.error ended, ⟨(exitCode, msg), [], [], []⟩)) (telemetry : Telemetry τ) (name : Str)
    (verboseOut : Bool) :
    let result := runCheck py telemetry name verboseOut body
    result.2.records = (telemetry.written py name exitCode msg).toList ∧
      result.2.printed = endLines telemetry.type name verboseOut ended exitCode msg ∧
      (telemetry.Exits py → result.1 = .error ended) ∧ (¬telemetry.Exits py → ∃ e, result.1 = .error (.raised e)) := by
  have inside : (outputContext telemetry.type name id verboseOut).within body .start =
      (.error ended, ⟨(exitCode, msg), [], endLines telemetry.type name verboseOut ended exitCode msg, []⟩) := by
    rw [ContextManager.within_entered rfl, ends, outputContext_leave]
    rfl
  have outside : runCheck py telemetry name verboseOut body = (telemetry.context py name id).leave
      (.error ended, ⟨(exitCode, msg), [], endLines telemetry.type name verboseOut ended exitCode msg, []⟩) := by
    rw [runCheck, ContextManager.within_entered rfl, inside]
  obtain ⟨s', exited, outcome⟩ := telemetry.leave_cases py name id
    (.error ended, ⟨(exitCode, msg), [], endLines telemetry.type name verboseOut ended exitCode msg, []⟩)
  rw [← outside] at outcome
  rcases outcome with ⟨exits, left⟩ | ⟨fails, e, raised⟩
  · rw [left]
    exact ⟨exited.records, exited.printed, fun _ => rfl, fun fails => absurd exits fails⟩
  · rw [raised]
    exact ⟨exited.records, exited.printed, fun exits => absurd exits fails, fun _ => ⟨e, rfl⟩⟩

/-- A command that ends with a code has ended its telemetry. -/
theorem exits_of_status {telemetry : Telemetry τ} {ended : Except CheckExit Unit} {status : Nat}
    (fails : ¬telemetry.Exits py → ∃ e, ended = .error (.raised e)) (coded : ended = .error (.systemExit status)) :
    telemetry.Exits py := by
  by_contra fail
  obtain ⟨e, raised⟩ := fails fail
  rw [raised] at coded
  cases coded

theorem runCheck_reports {body : CheckState τ (ExitCode × Str) → Except CheckExit Unit × CheckState τ (ExitCode × Str)}
    {ending : Except PyError (ExitCode × Str)} (ends : Ends body ending) (telemetry : Telemetry τ) (name : Str)
    (verboseOut : Bool) :
    CommandReports py telemetry name verboseOut ending (runCheck py telemetry name verboseOut body) := by
  cases ending with
  | error e =>
    obtain ⟨records, printed, exits, fails⟩ := runCheck_leave py ends telemetry name verboseOut
    refine ⟨fun _ _ coded => (nomatch coded), fun e' same => ?_, fails,
      fun exitCode => ⟨fun one => ?_, fun coded => ?_⟩⟩
    · obtain rfl := Except.error.inj same
      exact ⟨records, printed, exits⟩
    · have status := one.status
      rw [exits (exits_of_status py fails status)] at status
      cases status
    · obtain ⟨-, msg, coded⟩ := coded
      cases coded
  | ok result =>
    obtain ⟨exitCode, msg⟩ := result
    obtain ⟨records, printed, exits, fails⟩ := runCheck_leave py ends telemetry name verboseOut
    refine ⟨fun exitCode' msg' same => ?_, fun _ raised => (nomatch raised), fails,
      fun exitCode' => ⟨fun one => ?_, fun coded => ?_⟩⟩
    · obtain ⟨rfl, rfl⟩ := Prod.mk.inj (Except.ok.inj same)
      exact ⟨records, printed, exits⟩
    · have status := one.status
      have ended := exits_of_status py fails status
      rw [exits ended] at status
      have same := ExitCode.value_injective (CheckExit.systemExit.inj (Except.error.inj status))
      exact ⟨ended, msg, same ▸ rfl⟩
    · obtain ⟨ended, msg', same⟩ := coded
      obtain ⟨rfl, rfl⟩ := Prod.mk.inj (Except.ok.inj same)
      refine ⟨exits ended, fun record member => ?_, fun line member => ?_⟩
      · rw [records] at member
        exact Telemetry.written_code py (Option.mem_toList.mp member)
      · rw [printed] at member
        exact outputLine_word member

/-- What the body of a command comes to. -/
def commandEnd (disabled : Except PyError Bool) (name : Str) (command : Except CommandError CommandOut)
    (process : CommandOut → Except PyError (ExitCode × Str)) : Except PyError (ExitCode × Str) :=
  match disabled with
  | .error e => .error e
  | .ok true => .ok (.OK, name ++ " is disabled by killswitch.".toList)
  | .ok false => process (commandOut command)

theorem commandBody_ends (disabled : Except PyError Bool) (name : Str) (command : Except CommandError CommandOut)
    (process : CommandOut → Except PyError (ExitCode × Str)) :
    @Ends τ (commandBody disabled name command process) (commandEnd disabled name command process) := by
  unfold commandBody commandEnd
  cases disabled with
  | error e => rfl
  | ok off =>
    cases off with
    | true => rfl
    | false => cases process (commandOut command) <;> rfl

/-- What a command that runs one check reports, whatever the killswitches, the
command and the sink do. Status, record and line have one code exactly where
the body comes to it and the telemetry ends. -/
theorem command_reports (telemetry : Telemetry τ) (name : Str) (verboseOut : Bool)
    (loadConfig : Except PyError (List (Str × TomlValue))) (feature : Str)
    (command : Except CommandError CommandOut) (process : CommandOut → Except PyError (ExitCode × Str)) :
    CommandReports py telemetry name verboseOut (commandEnd (featureValue loadConfig feature) name command process)
      (runCheck py telemetry name verboseOut (commandBody (featureValue loadConfig feature) name command process)) :=
  runCheck_reports py (commandBody_ends _ name command process) telemetry name verboseOut

end GpuTelemetry
