import GpuTelemetry.Exceptions

namespace GpuTelemetry

/-! ### Exit codes -/

inductive ExitCode
  | OK
  | WARN
  | CRITICAL
  | UNKNOWN
  deriving DecidableEq

/-- The value of the enumeration. -/
def ExitCode.value : ExitCode → Nat
  | .OK => 0
  | .WARN => 1
  | .CRITICAL => 2
  | .UNKNOWN => 3

/-- `__gt__`: unknown comes before the others. -/
def ExitCode.gt (self other : ExitCode) : Bool :=
  if self = .UNKNOWN then false else if other = .UNKNOWN then true else decide (other.value < self.value)

/-- The errors of NVML that are known by name, and any other one. -/
inductive NVMLError
  | UNINITIALIZED
  | INVALID_ARGUMENT
  | NOT_SUPPORTED
  | NO_PERMISSION
  | ALREADY_INITIALIZED
  | NOT_FOUND
  | INSUFFICIENT_SIZE
  | INSUFFICIENT_POWER
  | DRIVER_NOT_LOADED
  | TIMEOUT
  | IRQ_ISSUE
  | LIBRARY_NOT_FOUND
  | FUNCTION_NOT_FOUND
  | CORRUPTED_INFOROM
  | GPU_IS_LOST
  | RESET_REQUIRED
  | OPERATING_SYSTEM
  | LIB_RM_VERSION_MISMATCH
  | MEMORY
  | UNKNOWN
  | undocumented (value : Int)

/-- A `DeviceTelemetryException`: its text, and its cause when that is an error of NVML. -/
structure DeviceTelemetryException where
  text : Str
  cause : Option NVMLError

/-- The entry of `error_exit_codes`. -/
def errorExitCode : NVMLError → Option (ExitCode × String)
  | .UNINITIALIZED => some (.WARN, "pynvml error: Uinitialized.\n")
  | .INVALID_ARGUMENT => some (.WARN, "pynvml error: Invalid Argument.\n")
  | .NOT_SUPPORTED => some (.WARN, "pynvml error: Not Supported.\n")
  | .NO_PERMISSION => some (.WARN, "pynvml error: Insufficient Permissions.\n")
  | .ALREADY_INITIALIZED => some (.WARN, "pynvml error: Already Initialized.\n")
  | .NOT_FOUND => some (.WARN, "pynvml error: Not Found.\n")
  | .INSUFFICIENT_SIZE => some (.WARN, "pynvml error: Insufficient Size.\n")
  | .INSUFFICIENT_POWER => some (.WARN, "pynvml error: Insufficient External Power.\n")
  | .DRIVER_NOT_LOADED => some (.WARN, "pynvml error: Driver Not Loaded.\n")
  | .TIMEOUT => some (.WARN, "Timeout.\n")
  | .IRQ_ISSUE => some (.WARN, "pynvml error: Interrupt Request Issue.\n")
  | .LIBRARY_NOT_FOUND => some (.WARN, "pynvml error: NVML Shared Library Not Found.\n")
  | .FUNCTION_NOT_FOUND => some (.WARN, "pynvml error: Function Not Found.\n")
  | .CORRUPTED_INFOROM => some (.CRITICAL, "pynvml error: Corrupted infoROM.\n")
  | .GPU_IS_LOST => some (.CRITICAL, "GPU is lost.\n")
  | .RESET_REQUIRED => some (.CRITICAL, "pynvml error: GPU requires restart.\n")
  | .OPERATING_SYSTEM => some (.WARN, "pynvml error: The operating system has blocked the request.\n")
  | .LIB_RM_VERSION_MISMATCH => some (.WARN, "pynvml error: RM has detected an NVML/RM version mismatch.\n")
  | .MEMORY => some (.WARN, "pynvml error: Insufficient Memory.\n")
  | .UNKNOWN => some (.WARN, "pynvml error: Unknown Error.\n")
  | .undocumented _ => none

def handleDeviceTelemetryException (e : DeviceTelemetryException) : ExitCode × Str :=
  match e.cause with
  | none => (.CRITICAL, "Unknown instance of DeviceTelemetryException".toList)
  | some cause =>
    match errorExitCode cause with
    | some (code, msg) => (code, msg.toList)
    | none => (.CRITICAL, "Undocumented error ".toList ++ e.text)

/-! ### The scan over the devices -/

structure ProcessInfo where
  pid : Int

inductive KillResult
  | killed
  | noSuchProcess
  | accessDenied

/-- What the telemetry and the operating system answer. The questions of a scan
are told apart by the attempt and the position of the device. -/
structure ProcessTable where
  getComputeProcesses : Nat → Nat → Int → Except DeviceTelemetryException (List ProcessInfo)
  pidExists : Nat → Nat → Int → Bool
  openProcess : Int → Except PyError Unit
  kill : Int → KillResult
  alive : List Int → List Int

/-- `str` of a list of numbers. -/
def listText (items : List Int) : Str := '[' :: (", ".toList.intercalate (items.map intText) ++ [']'])

/-- What the loop over the devices carries. -/
structure ScanState where
  pids : List ProcessInfo
  exitCode : ExitCode
  msg : Str

variable (table : ProcessTable)

/-- One round of the loop over the devices: a device that answers overwrites
the processes, one that does not leaves them. -/
def scanDevice (attempt : Nat) (state : ScanState) (device : Int × Nat) : ScanState :=
  let (index, position) := device
  match table.getComputeProcesses attempt position index with
  | .error e =>
    let (errorCode, errorMsg) := handleDeviceTelemetryException e
    { state with
      exitCode := if errorCode.gt state.exitCode then errorCode else state.exitCode
      msg := state.msg ++ "running_procs check: GPU ".toList ++ intText index ++ ": ".toList ++ errorMsg }
  | .ok pids =>
    if pids.isEmpty then { state with pids := pids }
    else
      let procPids := pids.map ProcessInfo.pid
      let nonExistentPids := procPids.filter fun pid => !table.pidExists attempt position pid
      let msg := state.msg ++ "running_procs check: attempt #".toList ++ intText attempt ++ ": GPU ".toList ++
        intText index ++ " is occupied by ".toList ++ intText pids.length ++ " other processes. pids: ".toList ++
        listText procPids ++ "\n".toList
      { pids := pids
        exitCode := if nonExistentPids.length < pids.length then .CRITICAL else state.exitCode
        msg :=
          if nonExistentPids.isEmpty then msg
          else msg ++ "running_procs check: attempt #".toList ++ intText attempt ++
            ": found pids that are non existent but still occupy GPUs ".toList ++ listText nonExistentPids ++
            "\n".toList }

def attemptCheckRunningProcs (attempt : Nat) (devices : List Int) (msg : Str) : ScanState :=
  devices.zipIdx.foldl (scanDevice table attempt) ⟨[], .OK, msg⟩

/-- The first loop of `kill_processes`; false when access is denied. -/
def killEach : List Int → Bool
  | [] => true
  | pid :: pids =>
    match table.kill pid with
    | .killed | .noSuchProcess => killEach pids
    | .accessDenied => false

def killProcesses (pids : List Int) (attempt : Nat) (devices : List Int) (msg : Str) : Except PyError (Bool × Str) := do
  pids.forM table.openProcess
  if killEach table pids then
    let scan := attemptCheckRunningProcs table attempt devices msg
    .ok ((table.alive pids).isEmpty && scan.exitCode = .OK, scan.msg)
  else .ok (false, msg)

/-! ### The check -/

/-- `time.sleep` of a whole number of seconds: nanoseconds are counted in 64 bits. -/
def sleepError (seconds : Int) : Option PyError :=
  if seconds < -9223372036 ∨ 9223372036 < seconds then
    some (.overflowError "timestamp too large to convert to C PyTime_t".toList)
  else if seconds < 0 then some (.valueError "sleep length must be non-negative".toList)
  else none

/-- What the loop over the attempts leaves: the exception of a sleep, the last
state, and the attempts that were made. -/
structure AttemptsState where
  raised : Option PyError
  pids : List ProcessInfo
  exitCode : ExitCode
  msg : Str
  attempts : List Nat

def AttemptsState.cons (attempt : Nat) (later : AttemptsState) : AttemptsState :=
  { later with attempts := attempt :: later.attempts }

/-- The loop over the attempts, by the attempts that are left. -/
def attemptLoop (devices : List Int) (retryCount retryInterval : Int) :
    Nat → Nat → List ProcessInfo → ExitCode → Str → AttemptsState
  | 0, _, pids, exitCode, msg => ⟨none, pids, exitCode, msg, []⟩
  | left + 1, attempt, _, exitCode, msg =>
    let scan := attemptCheckRunningProcs table attempt devices msg
    if scan.exitCode = .OK then
      ⟨none, scan.pids, if attempt = 0 then .OK else .WARN, scan.msg, [attempt]⟩
    else if attempt = retryCount - 1 then
      .cons attempt (attemptLoop devices retryCount retryInterval left (attempt + 1) scan.pids scan.exitCode scan.msg)
    else
      match sleepError retryInterval with
      | some e => ⟨some e, scan.pids, exitCode, scan.msg, [attempt]⟩
      | none =>
        .cons attempt (attemptLoop devices retryCount retryInterval left (attempt + 1) scan.pids exitCode scan.msg)

/-- What `get_gpu_devices` may raise: an exception of the telemetry is caught. -/
inductive DevicesError
  | telemetry (e : DeviceTelemetryException)
  | python (e : PyError)

/-- The check: what it returns or raises, the attempts it made, and what it
passed to `kill_processes`, if it called it. -/
structure KillCheck where
  result : Except PyError (ExitCode × Str)
  attempts : List Nat
  passed : Option (List Int)

def noOtherProcess (devices : List Int) : Str :=
  "running_procs check: No other process is occupying any of the following GPUs: ".toList ++ listText devices ++
    ".\n".toList

/-- The end of the check, with the code and the message so far. -/
def finishCheck (devices : List Int) (exitCode : ExitCode) (msg : Str) : ExitCode × Str :=
  (exitCode, if exitCode = .OK then msg ++ noOtherProcess devices else msg)

/-- The branch that force kills. -/
def forceKill (devices : List Int) (retryCount : Int) (pids : List ProcessInfo) (msg : Str) :
    Except PyError (ExitCode × Str) := do
  let procPids := pids.map ProcessInfo.pid
  let msg := msg ++ "running_procs check: force killed pids: ".toList ++ listText procPids ++ "\n".toList
  let (isKilled, msg) ← killProcesses table procPids retryCount.toNat devices msg
  if isKilled then
    .ok (finishCheck devices .OK
      (msg ++ "running_procs check: pids are successfully killed: ".toList ++ listText procPids ++ "\n".toList))
  else
    .ok (finishCheck devices .CRITICAL
      (msg ++ "running_procs check: pids are not killed: ".toList ++ listText procPids ++ "\n".toList))

def checkAndKillRunningProcs (disabled : Bool) (gpuDevices : Except DevicesError (List Int))
    (retryCount retryInterval : Int) (forceKillProcess : Bool) : KillCheck :=
  if disabled then ⟨.ok (.OK, "nvidia smi running_procs is disabled by killswitch.".toList), [], none⟩
  else
    match gpuDevices with
    | .error (.telemetry e) => ⟨.ok (handleDeviceTelemetryException e), [], none⟩
    | .error (.python e) => ⟨.error e, [], none⟩
    | .ok devices =>
      if devices.isEmpty then ⟨.ok (.OK, "running_procs check: No GPU devices were found.".toList), [], none⟩
      else
        let state := attemptLoop table devices retryCount retryInterval retryCount.toNat 0 [] .OK []
        match state.raised with
        | some e => ⟨.error e, state.attempts, none⟩
        | none =>
          if forceKillProcess && !state.pids.isEmpty then
            ⟨forceKill table devices retryCount state.pids state.msg, state.attempts,
              some (state.pids.map ProcessInfo.pid)⟩
          else ⟨.ok (finishCheck devices state.exitCode state.msg), state.attempts, none⟩

/-! ### What one attempt finds -/

/-- The answers of the devices in one attempt. -/
def answers (devices : List Int) (attempt : Nat) : List (Except DeviceTelemetryException (List ProcessInfo)) :=
  devices.zipIdx.map fun device => table.getComputeProcesses attempt device.2 device.1

/-- The pids of all devices that answered. -/
def foundPids (devices : List Int) (attempt : Nat) : List Int :=
  ((answers table devices attempt).filterMap Except.toOption).flatten.map ProcessInfo.pid

/-- The pids of the last device that answered. -/
def lastAnswer (devices : List Int) (attempt : Nat) : List Int :=
  (((answers table devices attempt).filterMap Except.toOption).getLastD []).map ProcessInfo.pid

theorem foldl_scanDevice_pids (attempt : Nat) (devices : List (Int × Nat)) (state : ScanState) :
    (devices.foldl (scanDevice table attempt) state).pids =
      ((devices.map fun device => table.getComputeProcesses attempt device.2 device.1).filterMap
        Except.toOption).getLastD state.pids := by
  induction devices generalizing state with
  | nil => rfl
  | cons device devices ih =>
    rw [List.foldl_cons, ih, List.map_cons, List.filterMap_cons]
    cases answer : table.getComputeProcesses attempt device.2 device.1 with
    | error e =>
      have kept : (scanDevice table attempt state device).pids = state.pids := by simp only [scanDevice, answer]
      rw [kept]
      rfl
    | ok pids =>
      have taken : (scanDevice table attempt state device).pids = pids := by
        simp only [scanDevice, answer]
        split <;> rfl
      rw [taken, Except.toOption]
      simp only [List.getLastD_cons]

/-- The processes of an attempt are those of the last device that answered. -/
theorem attemptCheckRunningProcs_pids (attempt : Nat) (devices : List Int) (msg : Str) :
    (attemptCheckRunningProcs table attempt devices msg).pids.map ProcessInfo.pid = lastAnswer table devices attempt :=
  congrArg (List.map ProcessInfo.pid) (foldl_scanDevice_pids table attempt devices.zipIdx _)

/-- The code of an attempt does not depend on the message so far. -/
theorem foldl_scanDevice_exitCode (attempt : Nat) (devices : List (Int × Nat)) (pids : List ProcessInfo)
    (exitCode : ExitCode) (msg msg' : Str) :
    (devices.foldl (scanDevice table attempt) ⟨pids, exitCode, msg⟩).exitCode =
      (devices.foldl (scanDevice table attempt) ⟨pids, exitCode, msg'⟩).exitCode := by
  induction devices generalizing pids exitCode msg msg' with
  | nil => rfl
  | cons device devices ih =>
    rw [List.foldl_cons, List.foldl_cons]
    unfold scanDevice
    dsimp only
    split
    · exact ih _ _ _ _
    · split
      · exact ih _ _ _ _
      · exact ih _ _ _ _

/-- The code of an attempt. -/
def attemptCode (devices : List Int) (attempt : Nat) : ExitCode :=
  (attemptCheckRunningProcs table attempt devices []).exitCode

theorem attemptCheckRunningProcs_exitCode (attempt : Nat) (devices : List Int) (msg : Str) :
    (attemptCheckRunningProcs table attempt devices msg).exitCode = attemptCode table devices attempt :=
  foldl_scanDevice_exitCode table attempt devices.zipIdx _ _ _ _

/-! ### The last attempt -/

/-- The attempt after which the loop does not go on: one without findings, the
last one, or one whose sleep raises. -/
def lastAttempt (devices : List Int) (retryCount retryInterval : Int) : Nat → Nat → Option Nat
  | 0, _ => none
  | left + 1, attempt =>
    if attemptCode table devices attempt = .OK ∨ attempt = retryCount - 1 ∨ sleepError retryInterval ≠ none then
      some attempt
    else lastAttempt devices retryCount retryInterval left (attempt + 1)

/-- The sleep behind an attempt raises. -/
def Interrupted (devices : List Int) (retryCount retryInterval : Int) (attempt : Nat) : Prop :=
  attemptCode table devices attempt ≠ .OK ∧ (attempt : Int) ≠ retryCount - 1 ∧ sleepError retryInterval ≠ none

theorem lastAttempt_isSome (devices : List Int) {retryCount : Int} (retryInterval : Int) {left attempt : Nat}
    (positive : 0 < left) (count : (attempt + left : Int) = retryCount) :
    ∃ last, lastAttempt table devices retryCount retryInterval left attempt = some last := by
  induction left generalizing attempt with
  | zero => omega
  | succ left ih =>
    unfold lastAttempt
    split
    · exact ⟨attempt, rfl⟩
    · rename_i goesOn
      have notLast : ¬ (attempt : Int) = retryCount - 1 := fun same => goesOn (.inr (.inl same))
      exact ih (by omega) (by omega)

/-- What the loop does with an attempt: it ends there, or goes on with the next one. -/
theorem attemptLoop_step (devices : List Int) {retryCount : Int} (retryInterval : Int) {left attempt : Nat}
    (count : (attempt + (left + 1 : Nat) : Int) = retryCount) (pids : List ProcessInfo) (exitCode : ExitCode)
    (msg : Str) :
    let scan := attemptCheckRunningProcs table attempt devices msg
    let state := attemptLoop table devices retryCount retryInterval (left + 1) attempt pids exitCode msg
    (lastAttempt table devices retryCount retryInterval (left + 1) attempt = some attempt ∧
        state.attempts = [attempt] ∧ state.pids = scan.pids ∧
        (state.raised ≠ none ↔ Interrupted table devices retryCount retryInterval attempt) ∧
        (state.raised = none → state.exitCode =
          if attemptCode table devices attempt = .OK then if attempt = 0 then .OK else .WARN
          else attemptCode table devices attempt)) ∨
      (0 < left ∧
        lastAttempt table devices retryCount retryInterval (left + 1) attempt =
          lastAttempt table devices retryCount retryInterval left (attempt + 1) ∧
        state = .cons attempt
          (attemptLoop table devices retryCount retryInterval left (attempt + 1) scan.pids exitCode scan.msg)) := by
  have code := attemptCheckRunningProcs_exitCode table attempt devices msg
  simp only [attemptLoop, lastAttempt, Interrupted, code]
  by_cases passed : attemptCode table devices attempt = .OK
  · rw [if_pos passed, if_pos (.inl passed), if_pos passed]
    exact .inl ⟨rfl, rfl, rfl, by simp [passed], fun _ => rfl⟩
  · rw [if_neg passed, if_neg passed]
    by_cases exhausted : (attempt : Int) = retryCount - 1
    · -- no attempt is left
      obtain rfl : left = 0 := by omega
      rw [if_pos exhausted, if_pos (.inr (.inl exhausted))]
      exact .inl ⟨rfl, rfl, rfl, by simp [exhausted, attemptLoop, AttemptsState.cons], fun _ => rfl⟩
    · rw [if_neg exhausted]
      cases slept : sleepError retryInterval with
      | some e =>
        rw [if_pos (.inr (.inr (by simp)))]
        exact .inl ⟨rfl, rfl, rfl, by simp [passed, exhausted], fun raised => nomatch raised⟩
      | none =>
        rw [if_neg (by simp [passed, exhausted])]
        exact .inr ⟨by omega, rfl, rfl⟩

/-- The loop ends with the processes of its last attempt. -/
theorem attemptLoop_last (devices : List Int) {retryCount : Int} (retryInterval : Int) {left attempt : Nat}
    (count : (attempt + left : Int) = retryCount) (pids : List ProcessInfo) (exitCode : ExitCode) (msg : Str) :
    (attemptLoop table devices retryCount retryInterval left attempt pids exitCode msg).attempts.getLast? =
        lastAttempt table devices retryCount retryInterval left attempt ∧
      ∀ last ∈ lastAttempt table devices retryCount retryInterval left attempt,
        (attemptLoop table devices retryCount retryInterval left attempt pids exitCode msg).pids.map ProcessInfo.pid =
            lastAnswer table devices last ∧
          ((attemptLoop table devices retryCount retryInterval left attempt pids exitCode msg).raised ≠ none ↔
            Interrupted table devices retryCount retryInterval last) := by
  induction left generalizing attempt pids exitCode msg with
  | zero => exact ⟨rfl, by simp [lastAttempt]⟩
  | succ left ih =>
    rcases attemptLoop_step table devices retryInterval count pids exitCode msg with
      ⟨isLast, attempts, found, raised, -⟩ | ⟨positive, goesOn, state⟩
    · rw [isLast, attempts, found]
      refine ⟨rfl, fun last same => ?_⟩
      obtain rfl : attempt = last := by simpa using same
      exact ⟨attemptCheckRunningProcs_pids table attempt devices msg, raised⟩
    · have next : ((attempt + 1 : Nat) + left : Int) = retryCount := by omega
      obtain ⟨atEnd, later⟩ := ih next (attemptCheckRunningProcs table attempt devices msg).pids exitCode
        (attemptCheckRunningProcs table attempt devices msg).msg
      obtain ⟨last, isLast⟩ := lastAttempt_isSome table devices retryInterval positive next
      rw [goesOn, state]
      refine ⟨?_, later⟩
      rw [AttemptsState.cons, List.getLast?_cons, atEnd, isLast]
      rfl

/-- What the last attempt found is with the last device that answered, and no
sleep stops the check before it kills. -/
def LastAnswerComplete (devices : List Int) (retryCount retryInterval : Int) : Prop :=
  ∀ last ∈ lastAttempt table devices retryCount retryInterval retryCount.toNat 0,
    ∀ pid ∈ foundPids table devices last,
      pid ∈ lastAnswer table devices last ∧ ¬ Interrupted table devices retryCount retryInterval last

/-- What the check passes on, by the state that the attempts leave. -/
theorem checkAndKillRunningProcs_state {devices : List Int} (some : devices ≠ []) (retryCount retryInterval : Int) :
    let state := attemptLoop table devices retryCount retryInterval retryCount.toNat 0 [] .OK []
    let check := checkAndKillRunningProcs table false (.ok devices) retryCount retryInterval true
    check.attempts = state.attempts ∧
      check.passed = if state.raised = none ∧ state.pids ≠ [] then .some (state.pids.map ProcessInfo.pid)
        else none := by
  have scans : devices.isEmpty = false := by simpa using some
  simp only [checkAndKillRunningProcs, scans]
  generalize attemptLoop table devices retryCount retryInterval retryCount.toNat 0 [] .OK [] = state
  cases raised : state.raised with
  | some e => simp
  | none => by_cases empty : state.pids = [] <;> simp [empty]

theorem attemptLoop_start (devices : List Int) (retryCount retryInterval : Int) :
    let state := attemptLoop table devices retryCount retryInterval retryCount.toNat 0 [] .OK []
    state.attempts.getLast? = lastAttempt table devices retryCount retryInterval retryCount.toNat 0 ∧
      ∀ last ∈ lastAttempt table devices retryCount retryInterval retryCount.toNat 0,
        state.pids.map ProcessInfo.pid = lastAnswer table devices last ∧
          (state.raised ≠ none ↔ Interrupted table devices retryCount retryInterval last) := by
  rcases Int.le_total retryCount 0 with negative | positive
  · have zero : retryCount.toNat = 0 := by omega
    rw [zero]
    exact ⟨rfl, by simp [lastAttempt]⟩
  · exact attemptLoop_last table devices retryInterval (by omega) [] .OK []

/-- Every pid that the last attempt found is passed on to be killed exactly when
the last device that answered has them all, and no sleep raises before. -/
theorem checkAndKillRunningProcs_passes_iff (disabled : Bool) (gpuDevices : Except DevicesError (List Int))
    (retryCount retryInterval : Int) :
    (∀ devices, gpuDevices = .ok devices →
        ∀ last ∈ (checkAndKillRunningProcs table disabled gpuDevices retryCount retryInterval true).attempts.getLast?,
        ∀ pid ∈ foundPids table devices last,
          ∃ passed ∈ (checkAndKillRunningProcs table disabled gpuDevices retryCount retryInterval true).passed,
            pid ∈ passed) ↔
      (disabled = false → ∀ devices, gpuDevices = .ok devices →
        LastAnswerComplete table devices retryCount retryInterval) := by
  cases disabled with
  | true => simp [checkAndKillRunningProcs]
  | false =>
    cases gpuDevices with
    | error e => simp
    | ok devices =>
      simp only [Except.ok.injEq, forall_eq', true_imp_iff, LastAnswerComplete]
      by_cases none : devices = []
      · subst none
        simp [foundPids, answers]
      · obtain ⟨attempts, passed⟩ := checkAndKillRunningProcs_state table none retryCount retryInterval
        obtain ⟨atEnd, outcome⟩ := attemptLoop_start table devices retryCount retryInterval
        rw [attempts, atEnd, passed]
        refine forall_congr' fun last => forall_congr' fun isLast => forall_congr' fun pid => forall_congr'
          fun found => ?_
        obtain ⟨answered, interrupted⟩ := outcome last isLast
        generalize attemptLoop table devices retryCount retryInterval retryCount.toNat 0 [] .OK [] = state at *
        rw [← answered]
        by_cases raises : state.raised = .none
        · have goesOn : ¬ Interrupted table devices retryCount retryInterval last :=
            fun stops => interrupted.mpr stops raises
          by_cases empty : state.pids = []
          · simp [empty]
          · simp [raises, empty, goesOn]
        · have stops : Interrupted table devices retryCount retryInterval last := interrupted.mp raises
          simp [raises, stops]

/-- Two devices, process 7 on the first one; all processes can be killed. -/
def firstDeviceBusy : ProcessTable where
  getComputeProcesses _ _ device := .ok (if device = 0 then [⟨7⟩] else [])
  pidExists _ _ _ := true
  openProcess _ := .ok ()
  kill _ := .killed
  alive _ := []

/-- The idle second device hides the process: nothing is killed, and the check fails. -/
theorem checkAndKillRunningProcs_overwritten :
    (checkAndKillRunningProcs firstDeviceBusy false (.ok [0, 1]) 3 3 true).attempts = [0, 1, 2] ∧
      foundPids firstDeviceBusy [0, 1] 2 = [7] ∧
      (checkAndKillRunningProcs firstDeviceBusy false (.ok [0, 1]) 3 3 true).passed = none ∧
      (checkAndKillRunningProcs firstDeviceBusy false (.ok [1, 0]) 3 3 true).passed = some [7] := by
  refine ⟨?_, ?_, ?_, ?_⟩ <;> decide

end GpuTelemetry
