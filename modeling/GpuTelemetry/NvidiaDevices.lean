import GpuTelemetry.Joins
import GpuTelemetry.RunningProcs
import Mathlib.Order.Lattice

namespace GpuTelemetry

/-! ### The order of the exit codes -/

/-- The place of a code in the order of `__gt__`. -/
def ExitCode.rank : ExitCode → Nat
  | .UNKNOWN => 0
  | .OK => 1
  | .WARN => 2
  | .CRITICAL => 3

theorem ExitCode.rank_injective : Function.Injective ExitCode.rank := by
  intro a b same
  cases a <;> cases b <;> first | rfl | cases same

instance : LinearOrder ExitCode := LinearOrder.lift' ExitCode.rank ExitCode.rank_injective

theorem ExitCode.gt_iff (a b : ExitCode) : a.gt b = true ↔ b < a := by
  show _ ↔ b.rank < a.rank
  cases a <;> cases b <;> decide

/-- `if error_code > exit_code: exit_code = error_code`. -/
theorem ExitCode.raise_eq_max (a b : ExitCode) : (if b.gt a then b else a) = max a b := by
  by_cases above : a < b
  · rw [if_pos ((ExitCode.gt_iff b a).mpr above), max_eq_right above.le]
  · rw [if_neg (mt (ExitCode.gt_iff b a).mp above), max_eq_left (not_lt.mp above)]

theorem ExitCode.le_critical (a : ExitCode) : a ≤ .CRITICAL := by
  show a.rank ≤ ExitCode.CRITICAL.rank
  cases a <;> decide

/-- An error of the telemetry is at least a warning. -/
theorem handleDeviceTelemetryException_warns (e : DeviceTelemetryException) :
    ExitCode.WARN ≤ (handleDeviceTelemetryException e).1 := by
  show ExitCode.WARN.rank ≤ (handleDeviceTelemetryException e).1.rank
  obtain ⟨text, cause⟩ := e
  cases cause with
  | none => simp [handleDeviceTelemetryException, ExitCode.rank]
  | some cause => cases cause <;> simp [handleDeviceTelemetryException, errorExitCode, ExitCode.rank]

/-! ### The checks that go through the devices -/

/-- A check of each device: the start of its lines on errors, the line on a
reading that it does not accept, and the message when all is well. -/
structure DeviceCheck (ρ : Type) where
  label : Str
  failure : Int → ρ → Option Str
  passed : Str

variable {ρ : Type}

/-- One round of the loop over the devices. -/
def deviceRound (check : DeviceCheck ρ) (read : Int → Except DeviceTelemetryException ρ) (state : ExitCode × Str)
    (device : Int) : ExitCode × Str :=
  match read device with
  | .error e =>
    let (errorCode, errorMsg) := handleDeviceTelemetryException e
    (if errorCode.gt state.1 then errorCode else state.1,
      state.2 ++ check.label ++ ": GPU ".toList ++ intText device ++ ": ".toList ++ errorMsg)
  | .ok reading =>
    match check.failure device reading with
    | some line => (.CRITICAL, state.2 ++ line)
    | none => state

/-- The loop over the devices, and the message after it. -/
def deviceLoop (check : DeviceCheck ρ) (read : Int → Except DeviceTelemetryException ρ) (devices : List Int) :
    ExitCode × Str :=
  let (exitCode, msg) := devices.foldl (deviceRound check read) (.OK, [])
  (exitCode, if exitCode = .OK then check.passed else msg)

def critical : Str := "exit_code: ExitCode.CRITICAL".toList

/-- What a device adds: the code it calls for, and its line. -/
def DeviceCheck.finding (check : DeviceCheck ρ) (read : Int → Except DeviceTelemetryException ρ) (device : Int) :
    Option (ExitCode × Str) :=
  match read device with
  | .error e => some ((handleDeviceTelemetryException e).1, check.label ++ ": GPU ".toList ++ intText device ++
      ": ".toList ++ (handleDeviceTelemetryException e).2)
  | .ok reading => (check.failure device reading).map fun line => (.CRITICAL, line)

variable {check : DeviceCheck ρ} {read : Int → Except DeviceTelemetryException ρ}

theorem deviceRound_eq (state : ExitCode × Str) (device : Int) :
    deviceRound check read state device =
      match check.finding read device with
      | some (code, line) => (max state.1 code, state.2 ++ line)
      | none => state := by
  unfold deviceRound DeviceCheck.finding
  cases read device with
  | error e =>
    simp only [ExitCode.raise_eq_max, List.append_assoc]
  | ok reading =>
    dsimp only
    cases check.failure device reading with
    | none => rfl
    | some line => simp [max_eq_right (ExitCode.le_critical state.1)]

theorem foldl_deviceRound (devices : List Int) (state : ExitCode × Str) :
    devices.foldl (deviceRound check read) state =
      (joinFrom state.1 ((devices.filterMap (check.finding read)).map Prod.fst),
        state.2 ++ (devices.filterMap (check.finding read)).flatMap Prod.snd) := by
  induction devices generalizing state with
  | nil => simp [joinFrom]
  | cons device devices ih =>
    rw [List.foldl_cons, ih, deviceRound_eq]
    cases found : check.finding read device with
    | none => simp [found]
    | some finding => simp [found, joinFrom]

/-- What a device adds is at least a warning. -/
theorem DeviceCheck.finding_warns {device : Int} {finding : ExitCode × Str}
    (found : check.finding read device = some finding) : ExitCode.WARN ≤ finding.1 := by
  unfold DeviceCheck.finding at found
  cases reading : read device with
  | error e =>
    rw [reading] at found
    cases Option.some.inj found
    exact handleDeviceTelemetryException_warns e
  | ok value =>
    rw [reading] at found
    obtain ⟨line, -, rfl⟩ := Option.map_eq_some_iff.mp found
    exact ExitCode.le_critical _

/-- The code of a check that has asked the devices. -/
def devicesCode (check : DeviceCheck ρ) (read : Int → Except DeviceTelemetryException ρ) (devices : List Int) :
    ExitCode :=
  joinFrom .OK ((devices.filterMap (check.finding read)).map Prod.fst)

theorem le_devicesCode_iff {devices : List Int} {code : ExitCode} (bad : .OK < code) :
    code ≤ devicesCode check read devices ↔
      ∃ device ∈ devices, ∃ finding ∈ check.finding read device, code ≤ finding.1 := by
  rw [devicesCode, le_joinFrom_iff, List.exists_mem_cons_iff, or_iff_right (not_le.mpr bad)]
  constructor
  · rintro ⟨_, member, below⟩
    obtain ⟨finding, inList, rfl⟩ := List.mem_map.mp member
    obtain ⟨device, inRange, found⟩ := List.mem_filterMap.mp inList
    exact ⟨device, inRange, finding, found, below⟩
  · rintro ⟨device, inRange, finding, found, below⟩
    exact ⟨finding.1, List.mem_map_of_mem (List.mem_filterMap.mpr ⟨device, inRange, found⟩), below⟩

theorem ok_le_devicesCode (devices : List Int) : .OK ≤ devicesCode check read devices :=
  le_joinFrom List.mem_cons_self

theorem ExitCode.ok_lt_iff (code : ExitCode) : .OK < code ↔ .WARN ≤ code := by
  show ExitCode.OK.rank < code.rank ↔ ExitCode.WARN.rank ≤ code.rank
  cases code <;> decide

theorem devicesCode_ok_iff (devices : List Int) :
    devicesCode check read devices = .OK ↔ ∀ device ∈ devices, check.finding read device = none := by
  have warns := (ExitCode.ok_lt_iff .WARN).mpr le_rfl
  constructor
  · intro ok device inRange
    by_contra some
    obtain ⟨finding, found⟩ := Option.ne_none_iff_exists'.mp some
    have above := (le_devicesCode_iff warns).mpr ⟨device, inRange, finding, found, DeviceCheck.finding_warns found⟩
    rw [ok] at above
    exact absurd warns (not_lt.mpr above)
  · intro clear
    by_contra bad
    have above := (ExitCode.ok_lt_iff _).mp (lt_of_le_of_ne (ok_le_devicesCode devices) (Ne.symm bad))
    obtain ⟨device, inRange, finding, found, -⟩ := (le_devicesCode_iff warns).mp above
    rw [clear device inRange] at found
    cases found

/-- The code and the message of a check that goes through the devices. -/
structure DeviceVerdict (check : DeviceCheck ρ) (read : Int → Except DeviceTelemetryException ρ) (devices : List Int)
    (result : ExitCode × Str) : Prop where
  passes : result.1 = .OK ↔ ∀ device ∈ devices, check.finding read device = none
  atLeast : ∀ code, .OK < code →
    (code ≤ result.1 ↔ ∃ device ∈ devices, ∃ finding ∈ check.finding read device, code ≤ finding.1)
  known : result.1 ≠ .UNKNOWN
  message : result.2 = if result.1 = .OK then check.passed
    else (devices.filterMap (check.finding read)).flatMap Prod.snd

/-- The verdict of the loop is that of the worst device, and no device hides another one. -/
theorem deviceLoop_verdict (check : DeviceCheck ρ) (read : Int → Except DeviceTelemetryException ρ)
    (devices : List Int) : DeviceVerdict check read devices (deviceLoop check read devices) := by
  have loop : devices.foldl (deviceRound check read) (.OK, []) =
      (devicesCode check read devices, (devices.filterMap (check.finding read)).flatMap Prod.snd) :=
    foldl_deviceRound _ _
  rw [deviceLoop, loop]
  refine ⟨devicesCode_ok_iff devices, fun code bad => le_devicesCode_iff bad, fun unknown => ?_, rfl⟩
  have above : .OK ≤ devicesCode check read devices := ok_le_devicesCode devices
  rw [show devicesCode check read devices = .UNKNOWN from unknown] at above
  exact absurd above (by show ¬ExitCode.OK.rank ≤ ExitCode.UNKNOWN.rank; decide)

end GpuTelemetry
