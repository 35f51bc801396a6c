import GpuTelemetry.FallibleFolds
import GpuTelemetry.RunningProcs

namespace GpuTelemetry

variable (table : ProcessTable)

/-! ### What an inspection tells -/

/-- A device shows a process that exists. -/
def ShowsLive (attempt : Nat) (device : Int × Nat) : Prop :=
  ∃ pids, table.getComputeProcesses attempt device.2 device.1 = .ok pids ∧
    ∃ p ∈ pids, table.pidExists attempt device.2 p.pid = true

/-- No device shows a process that exists. -/
def NoLiveProcess (devices : List Int) (attempt : Nat) : Prop :=
  ∀ device ∈ devices.zipIdx, ¬ ShowsLive table attempt device

theorem not_gt_critical (code : ExitCode) : code.gt .CRITICAL = false := by
  cases code <;> rfl

theorem scanDevice_critical {attempt : Nat} {state : ScanState} {device : Int × Nat}
    (critical : state.exitCode = .CRITICAL ∨ ShowsLive table attempt device) :
    (scanDevice table attempt state device).exitCode = .CRITICAL := by
  unfold scanDevice
  dsimp only
  cases answer : table.getComputeProcesses attempt device.2 device.1 with
  | error e =>
    have before : state.exitCode = .CRITICAL := by
      refine critical.resolve_right ?_
      rintro ⟨pids, shown, -⟩
      rw [answer] at shown
      cases shown
    simp [before, not_gt_critical]
  | ok pids =>
    rcases critical with before | ⟨pids', shown, p, member, alive⟩
    · dsimp only
      split
      · exact before
      · simp [before]
    · rw [answer] at shown
      obtain rfl := Except.ok.inj shown
      have occupied : pids.isEmpty = false := by simpa using List.ne_nil_of_mem member
      have someExists : ((pids.map ProcessInfo.pid).filter fun pid => !table.pidExists attempt device.2 pid).length <
          pids.length := by
        have fewer := List.length_filter_lt_length_iff_exists
          (p := fun pid => !table.pidExists attempt device.2 pid) (l := pids.map ProcessInfo.pid) |>.mpr
            ⟨p.pid, List.mem_map.mpr ⟨p, member, rfl⟩, by simp [alive]⟩
        rwa [List.length_map] at fewer
      dsimp only
      rw [if_neg (by rw [occupied]; exact Bool.false_ne_true)]
      exact if_pos someExists

/-- A device with a live process makes the inspection critical. -/
theorem foldl_scanDevice_critical {attempt : Nat} {devices : List (Int × Nat)} {state : ScanState}
    (critical : state.exitCode = .CRITICAL ∨ ∃ device ∈ devices, ShowsLive table attempt device) :
    (devices.foldl (scanDevice table attempt) state).exitCode = .CRITICAL := by
  induction devices generalizing state with
  | nil => exact critical.resolve_right (by simp)
  | cons device devices ih =>
    rw [List.foldl_cons]
    rcases critical with before | ⟨live, member, shows⟩
    · exact ih (.inl (scanDevice_critical table (.inl before)))
    · rcases List.mem_cons.mp member with rfl | later
      · exact ih (.inl (scanDevice_critical table (.inr shows)))
      · exact ih (.inr ⟨live, later, shows⟩)

theorem noLiveProcess_of_code {devices : List Int} {attempt : Nat}
    (code : attemptCode table devices attempt ≠ .CRITICAL) :
    NoLiveProcess table devices attempt := fun device member shows =>
  code (foldl_scanDevice_critical table (.inr ⟨device, member, shows⟩))

/-! ### The code of the check -/

/-- The code that the loop over the attempts leaves after its last one. -/
def codeAfter (devices : List Int) (last : Nat) : ExitCode :=
  if attemptCode table devices last = .OK then if last = 0 then .OK else .WARN else attemptCode table devices last

theorem attemptLoop_exitCode (devices : List Int) {retryCount : Int} (retryInterval : Int) {left attempt : Nat}
    (count : (attempt + left : Int) = retryCount) (pids : List ProcessInfo) (exitCode : ExitCode) (msg : Str) :
    (attemptLoop table devices retryCount retryInterval left attempt pids exitCode msg).raised = none →
      ∀ last ∈ lastAttempt table devices retryCount retryInterval left attempt,
        (attemptLoop table devices retryCount retryInterval left attempt pids exitCode msg).exitCode =
          codeAfter table devices last := by
  induction left generalizing attempt pids exitCode msg with
  | zero => exact fun _ last isLast => nomatch isLast
  | succ left ih =>
    rcases attemptLoop_step table devices retryInterval count pids exitCode msg with
      ⟨isLast, -, -, -, code⟩ | ⟨-, goesOn, state⟩
    · rw [isLast]
      intro raised last same
      obtain rfl : attempt = last := by simpa using same
      exact code raised
    · rw [goesOn, state]
      exact ih (by omega) _ _ _

/-- The inspection that `kill_processes` makes, if it comes to one. -/
def killInspections (pids : List Int) (attempt : Nat) : List Nat :=
  if (pids.forM table.openProcess).isOk && killEach table pids then [attempt] else []

/-- The inspections of the devices that the check makes, in order. -/
def inspections (devices : List Int) (retryCount retryInterval : Int) (forceKillProcess : Bool) : List Nat :=
  let check := checkAndKillRunningProcs table false (.ok devices) retryCount retryInterval forceKillProcess
  check.attempts ++ (check.passed.map fun pids => killInspections table pids retryCount.toNat).getD []

/-- A check that returns OK or WARN made an inspection, and the last one reported
OK, or found no live process. -/
def NeverClears (devices : List Int) (retryCount retryInterval : Int) (forceKillProcess : Bool) : Prop :=
  ∀ code msg,
    (checkAndKillRunningProcs table false (.ok devices) retryCount retryInterval forceKillProcess).result =
        .ok (code, msg) →
      (code = .OK → ∃ last ∈ (inspections table devices retryCount retryInterval forceKillProcess).getLast?,
        attemptCode table devices last = .OK) ∧
      (code = .WARN → ∃ last ∈ (inspections table devices retryCount retryInterval forceKillProcess).getLast?,
        NoLiveProcess table devices last)

/-- Processes that are reported as killed have been inspected without findings. -/
theorem killProcesses_killed {pids devices : List Int} {attempt : Nat} {msg msg' : Str}
    (run : killProcesses table pids attempt devices msg = .ok (true, msg')) :
    killInspections table pids attempt = [attempt] ∧ attemptCode table devices attempt = .OK := by
  obtain ⟨opened, isOpened, later⟩ := bind_returned run
  dsimp only at later
  rw [killInspections, isOpened]
  cases granted : killEach table pids with
  | false =>
    rw [granted] at later
    cases later
  | true =>
    rw [granted, if_pos rfl] at later
    have cleared := (Prod.mk.inj (Except.ok.inj later)).1
    rw [Bool.and_eq_true, decide_eq_true_eq, attemptCheckRunningProcs_exitCode] at cleared
    exact ⟨rfl, cleared.2⟩

/-- A killing that clears the node has seen an inspection without findings. -/
theorem forceKill_returned {devices : List Int} {retryCount : Int} {pids : List ProcessInfo} {msg msg' : Str}
    {code : ExitCode} (run : forceKill table devices retryCount pids msg = .ok (code, msg')) :
    (code = .OK ∧ killInspections table (pids.map ProcessInfo.pid) retryCount.toNat = [retryCount.toNat] ∧
      attemptCode table devices retryCount.toNat = .OK) ∨ code = .CRITICAL := by
  obtain ⟨⟨isKilled, killMsg⟩, killing, later⟩ := bind_returned run
  cases isKilled with
  | true => exact .inl ⟨(Prod.mk.inj (Except.ok.inj later)).1.symm, killProcesses_killed table killing⟩
  | false => exact .inr (Prod.mk.inj (Except.ok.inj later)).1.symm

theorem codeAfter_OK {devices : List Int} {last : Nat} (code : codeAfter table devices last = .OK) :
    attemptCode table devices last = .OK := by
  by_contra failed
  rw [codeAfter, if_neg failed] at code
  exact failed code

theorem codeAfter_WARN {devices : List Int} {last : Nat} (code : codeAfter table devices last = .WARN) :
    attemptCode table devices last ≠ .CRITICAL := by
  intro critical
  rw [codeAfter, critical] at code
  cases code

/-- Without an attempt the check ends with the code it starts from. -/
theorem checkAndKillRunningProcs_unattempted {devices : List Int} (some : devices ≠ []) {retryCount : Int}
    (none : ¬1 ≤ retryCount) (retryInterval : Int) (forceKillProcess : Bool) :
    checkAndKillRunningProcs table false (.ok devices) retryCount retryInterval forceKillProcess =
      ⟨.ok (finishCheck devices .OK []), [], .none⟩ := by
  have scans : devices.isEmpty = false := by simpa using some
  have zero : retryCount.toNat = 0 := by omega
  simp [checkAndKillRunningProcs, scans, zero, attemptLoop]

theorem neverClears_of_attempts {devices : List Int} (some : devices ≠ []) {retryCount : Int}
    (positive : 1 ≤ retryCount) (retryInterval : Int) (forceKillProcess : Bool) :
    NeverClears table devices retryCount retryInterval forceKillProcess := by
  have scans : devices.isEmpty = false := by simpa using some
  intro code msg returned
  have count : ((0 : Nat) + retryCount.toNat : Int) = retryCount := by omega
  obtain ⟨last, isLast⟩ := lastAttempt_isSome table devices retryInterval (by omega : 0 < retryCount.toNat) count
  obtain ⟨atEnd, -⟩ := attemptLoop_start table devices retryCount retryInterval
  have after := attemptLoop_exitCode table devices retryInterval count [] .OK []
  unfold inspections
  unfold checkAndKillRunningProcs at returned ⊢
  simp only [Bool.false_eq_true, if_false, scans] at returned ⊢
  generalize attemptLoop table devices retryCount retryInterval retryCount.toNat 0 [] .OK [] = state at *
  cases raised : state.raised with
  | some e =>
    rw [raised] at returned
    cases returned
  | none =>
    rw [raised] at returned
    dsimp only at returned ⊢
    cases killing : (forceKillProcess && !state.pids.isEmpty) with
    | true =>
      simp only [killing, if_true] at returned ⊢
      rcases forceKill_returned table returned with ⟨rfl, inspected, passed⟩ | rfl
      · refine ⟨fun _ => ⟨retryCount.toNat, ?_, passed⟩, fun isWarn => nomatch isWarn⟩
        simp [inspected]
      · exact ⟨fun isOk => (nomatch isOk), fun isWarn => (nomatch isWarn)⟩
    | false =>
      simp only [killing, Bool.false_eq_true, if_false] at returned ⊢
      have isCode : codeAfter table devices last = code := by
        rw [← after raised last isLast]
        exact (Prod.mk.inj (Except.ok.inj returned)).1
      have lastInspection : last ∈ (state.attempts ++ []).getLast? := by
        rw [List.append_nil, atEnd]
        exact isLast
      refine ⟨fun isOk => ⟨last, lastInspection, ?_⟩, fun isWarn => ⟨last, lastInspection, ?_⟩⟩
      · exact codeAfter_OK table (isCode.trans isOk)
      · exact noLiveProcess_of_code table (codeAfter_WARN table (isCode.trans isWarn))

/-- The check of a node with devices never clears it unseen exactly when it may
make an attempt. -/
theorem checkAndKillRunningProcs_neverClears_iff {devices : List Int} (some : devices ≠ [])
    (retryCount retryInterval : Int) (forceKillProcess : Bool) :
    NeverClears table devices retryCount retryInterval forceKillProcess ↔ 1 ≤ retryCount := by
  refine ⟨fun never => ?_, fun positive => neverClears_of_attempts table some positive retryInterval forceKillProcess⟩
  by_contra none
  have check := checkAndKillRunningProcs_unattempted table some none retryInterval forceKillProcess
  obtain ⟨last, isLast, -⟩ := (never .OK _ (by rw [check]; rfl)).1 rfl
  rw [inspections, check] at isLast
  cases isLast

theorem checkAndKillRunningProcs_neverClears_busy : NeverClears firstDeviceBusy [0, 1] 3 3 true :=
  (checkAndKillRunningProcs_neverClears_iff firstDeviceBusy (by decide) 3 3 true).mpr (by decide)

/-- Without retries the occupied device is reported as free. -/
theorem checkAndKillRunningProcs_clears_unseen :
    (checkAndKillRunningProcs firstDeviceBusy false (.ok [0]) 0 3 false).result =
        .ok (.OK, noOtherProcess [0]) ∧
      inspections firstDeviceBusy [0] 0 3 false = [] ∧
      attemptCode firstDeviceBusy [0] 0 = .CRITICAL ∧
      ¬ NeverClears firstDeviceBusy [0] 0 3 false := by
  refine ⟨rfl, rfl, by decide, fun never => ?_⟩
  obtain ⟨last, isLast, -⟩ := (never .OK _ rfl).1 rfl
  cases isLast

end GpuTelemetry
