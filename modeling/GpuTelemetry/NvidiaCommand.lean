import GpuTelemetry.CheckRunner
import GpuTelemetry.NvidiaDevices

namespace GpuTelemetry

/-! ### The checks that do not only go through the devices -/

/-- An entry of `nvidia_check`: its id, the name of the check, and what calling it does. -/
structure NvidiaCheck where
  checkId : Str
  name : Str
  run : Except PyError (ExitCode × Str)

variable (floats : FloatText) (convertBytes : Int → Float) (disabled : Str → Except PyError Bool)

/-- The variables of the command: the code and message of all checks, and those of the current one. -/
structure NvidiaLocals where
  overall : ExitCode × Str
  current : ExitCode × Str

variable {τ : Type} (py : Interpreter) (telemetry : Str → Telemetry τ)

def nvidiaSmi : Str := "nvidia smi".toList

/-- `check_nvidia_smi` when the telemetry of the devices cannot be had. -/
def checkNvidiaSmiInit (verboseOut : Bool) (e : DeviceTelemetryException) :
    Except CheckExit Unit × CheckState τ (ExitCode × Str) :=
  runCheck py (telemetry nvidiaSmi) nvidiaSmi verboseOut
    (sysExit (handleDeviceTelemetryException e).1 (handleDeviceTelemetryException e).2)

/-- Without the telemetry of the devices, the check says what the exception stands for and ends with its code. -/
theorem checkNvidiaSmiInit_reports (verboseOut : Bool) {e : DeviceTelemetryException} {exitCode : ExitCode} {msg : Str}
    (handled : handleDeviceTelemetryException e = (exitCode, msg)) :
    let result := checkNvidiaSmiInit py telemetry verboseOut e
    result.2.records = ((telemetry nvidiaSmi).written py nvidiaSmi exitCode msg).toList ∧
      result.2.printed =
        endLines (telemetry nvidiaSmi).type nvidiaSmi verboseOut (.systemExit exitCode.value) exitCode msg ∧
      ((telemetry nvidiaSmi).Exits py → result.1 = .error (.systemExit exitCode.value)) := by
  obtain ⟨records, printed, exits, -⟩ := runCheck_leave py
    (show sysExit exitCode msg .start = (.error (.systemExit exitCode.value), ⟨(exitCode, msg), [], [], []⟩) from rfl)
    (telemetry nvidiaSmi) nvidiaSmi verboseOut
  rw [checkNvidiaSmiInit, handled]
  exact ⟨records, printed, exits⟩

/-! ### One check of the command -/

namespace NvidiaCheck

/-- The code and the message at the end of a check. -/
def report (entry : NvidiaCheck) : ExitCode × Str :=
  match entry.run with
  | .ok result => result
  | .error _ => (.UNKNOWN, [])

/-- The record of a check, if its telemetry writes one. -/
def written (entry : NvidiaCheck) : List (HealthCheckLog τ) :=
  ((telemetry entry.checkId).written py entry.name entry.report.1 entry.report.2).toList

/-- A check that returns, and whose telemetry does not raise. -/
def Ends (entry : NvidiaCheck) : Prop :=
  (∃ result, entry.run = .ok result) ∧ (telemetry entry.checkId).Exits py

end NvidiaCheck

/-- The checks that are asked for, in the order of the table. -/
def selected (check : List Str) (entries : List NvidiaCheck) : List NvidiaCheck :=
  entries.filter fun entry => entry.checkId ∈ check

/-- How the loop ends: past all checks, or at the first one that does not end. -/
inductive LoopEnd (entries : List NvidiaCheck) (s : CheckState τ NvidiaLocals) :
    Except CheckExit Unit × CheckState τ NvidiaLocals → Prop
  | finished {s' : CheckState τ NvidiaLocals} (ends : ∀ entry ∈ entries, entry.Ends py telemetry)
      (records : s'.records = s.records ++ entries.flatMap (NvidiaCheck.written py telemetry))
      (printed : s'.printed = s.printed)
      (code : s'.locals.overall.1 = joinFrom s.locals.overall.1 (entries.map fun entry => entry.report.1))
      (msg : s'.locals.overall.2 = s.locals.overall.2 ++ entries.flatMap fun entry => entry.report.2) :
      LoopEnd entries s (.ok (), s')
  | stopped {s' : CheckState τ NvidiaLocals} {e : PyError} {front back : List NvidiaCheck} {entry : NvidiaCheck}
      (split : entries = front ++ entry :: back) (before : ∀ entry ∈ front, entry.Ends py telemetry)
      (fails : ¬entry.Ends py telemetry)
      (records : s'.records = s.records ++ (front ++ [entry]).flatMap (NvidiaCheck.written py telemetry))
      (printed : s'.printed = s.printed) : LoopEnd entries s (.error (.raised e), s')

theorem LoopEnd.cons {entry : NvidiaCheck} {entries : List NvidiaCheck} {s s' : CheckState τ NvidiaLocals}
    {result : Except CheckExit Unit × CheckState τ NvidiaLocals} (ends : entry.Ends py telemetry)
    (records : s'.records = s.records ++ entry.written py telemetry) (printed : s'.printed = s.printed)
    (overall : s'.locals.overall =
      (max s.locals.overall.1 entry.report.1, s.locals.overall.2 ++ entry.report.2))
    (later : LoopEnd py telemetry entries s' result) : LoopEnd py telemetry (entry :: entries) s result := by
  cases later with
  | finished allEnd laterRecords laterPrinted code msg =>
    refine .finished (List.forall_mem_cons.mpr ⟨ends, allEnd⟩) ?_ (laterPrinted.trans printed) ?_ ?_
    · rw [laterRecords, records, List.flatMap_cons, List.append_assoc]
    · rw [code, overall]
      rfl
    · rw [msg, overall, List.flatMap_cons, List.append_assoc]
  | @stopped _ _ front back last split before fails laterRecords laterPrinted =>
    have whole : entry :: entries = (entry :: front) ++ last :: back := congrArg (entry :: ·) split
    refine .stopped whole (List.forall_mem_cons.mpr ⟨ends, before⟩) fails ?_ (laterPrinted.trans printed)
    rw [laterRecords, records, List.cons_append, List.flatMap_cons, List.append_assoc]

/-- The code of the command, and its message. -/
def overallCode (entries : List NvidiaCheck) : ExitCode := joinFrom .UNKNOWN (entries.map fun entry => entry.report.1)

def overallMsg (entries : List NvidiaCheck) : Str := entries.flatMap fun entry => entry.report.2

/-- What the command reports of the checks that are asked for. -/
inductive NvidiaReports (type : CheckType) (verboseOut : Bool) (entries : List NvidiaCheck) :
    Except PyError Bool → Except CheckExit Unit × CheckState τ NvidiaLocals → Prop
  | disabled {s : CheckState τ NvidiaLocals} (records : s.records = [])
      (printed : s.printed =
        outputLine type nvidiaSmi verboseOut .OK (nvidiaSmi ++ " is disabled by killswitch.".toList)) :
      NvidiaReports type verboseOut entries (.ok true) (.error (.systemExit 0), s)
  | unconfigured {e : PyError} {s : CheckState τ NvidiaLocals} (records : s.records = [])
      (printed : s.printed = [abnormalExit]) :
      NvidiaReports type verboseOut entries (.error e) (.error (.raised e), s)
  | finished {s : CheckState τ NvidiaLocals} (ends : ∀ entry ∈ entries, entry.Ends py telemetry)
      (records : s.records = entries.flatMap (NvidiaCheck.written py telemetry))
      (printed : s.printed = outputLine type nvidiaSmi verboseOut (overallCode entries) (overallMsg entries)) :
      NvidiaReports type verboseOut entries (.ok false) (.error (.systemExit (overallCode entries).value), s)
  | stopped {e : PyError} {s : CheckState τ NvidiaLocals} {front back : List NvidiaCheck} {entry : NvidiaCheck}
      (split : entries = front ++ entry :: back) (before : ∀ entry ∈ front, entry.Ends py telemetry)
      (fails : ¬entry.Ends py telemetry)
      (records : s.records = (front ++ [entry]).flatMap (NvidiaCheck.written py telemetry))
      (printed : s.printed = [abnormalExit]) :
      NvidiaReports type verboseOut entries (.ok false) (.error (.raised e), s)

/-- A record stands for the check that it names, with its code. -/
theorem written_sublist (entries : List NvidiaCheck) :
    ((entries.flatMap (NvidiaCheck.written py telemetry)).map fun record => (record.healthCheck, record.result)).Sublist
      (entries.map fun entry => (entry.name, entry.report.1.value)) := by
  induction entries with
  | nil => exact .slnil
  | cons entry entries ih =>
    rw [List.flatMap_cons, List.map_append, List.map_cons]
    unfold NvidiaCheck.written
    cases one : (telemetry entry.checkId).written py entry.name entry.report.1 entry.report.2 with
    | none => exact ih.cons _
    | some record =>
      obtain ⟨code, name⟩ := Telemetry.written_code py (Option.mem_def.mpr one)
      have same : (record.healthCheck, record.result) = (entry.name, entry.report.1.value) := by rw [code, name]
      exact same ▸ ih.cons_cons _

theorem NvidiaReports.sublist {type : CheckType} {verboseOut : Bool} {entries : List NvidiaCheck}
    {disabledAll : Except PyError Bool} {result : Except CheckExit Unit × CheckState τ NvidiaLocals}
    (reports : NvidiaReports py telemetry type verboseOut entries disabledAll result) :
    (result.2.records.map fun record => (record.healthCheck, record.result)).Sublist
      (entries.map fun entry => (entry.name, entry.report.1.value)) := by
  cases reports with
  | disabled records => simp [records]
  | unconfigured records => simp [records]
  | finished _ records =>
    dsimp only
    rw [records]
    exact written_sublist py telemetry entries
  | @stopped _ _ front back entry split _ _ records =>
    have whole : entries = (front ++ [entry]) ++ back := by simp [split]
    dsimp only
    rw [records, whole, List.map_append]
    exact (written_sublist py telemetry (front ++ [entry])).trans (List.sublist_append_left _ _)

end GpuTelemetry
