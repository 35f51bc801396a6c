import GpuTelemetry.Decorators
import GpuTelemetry.MaxFields
import Mathlib.Algebra.Order.Ring.Unbundled.Rat
import Mathlib.Data.Char
import Mathlib.Data.List.Lex
import Mathlib.Data.Sum.Order

namespace GpuTelemetry

/-- A number or a text in a field. -/
abbrev Scalar := ℚ ⊕ₗ Str

/-- The names of the fields of `DeviceMetrics`, none of which is a dict or a list. -/
def deviceMetricsFields : List String :=
  ["mem_util", "mem_used_percent", "gpu_util", "temperature", "power_draw", "power_used_percent",
    "retired_pages_count_single_bit", "retired_pages_count_double_bit", "mem_used_bytes", "mem_total_bytes",
    "mem_free_bytes", "clock_graphics_mhz", "clock_memory_mhz", "nvlink_tx_bandwidth", "nvlink_rx_bandwidth",
    "ecc_errors_volatile_correctable", "ecc_errors_volatile_uncorrectable", "throttle_reason", "power_state",
    "pcie_rx_bytes", "pcie_tx_bytes", "fan_speed_percent", "enc_util", "dec_util", "xid_errors",
    "pcie_replay_count", "total_energy_mj", "throttle_power_software", "throttle_temp_hardware",
    "throttle_temp_software", "throttle_syncboost", "mem_unified_used_bytes", "mem_unified_total_bytes",
    "gpu_architecture"]

def deviceMetricsKinds (_ : Fin deviceMetricsFields.length) : FieldKind := .number

variable {names : List String} {kinds : Fin names.length → FieldKind} {Handle : Type}

abbrev Metrics (names : List String) := FieldValues names (FieldValue Str Scalar)

/-- `metrics.gpu_util`. -/
def gpuUtil (metrics : Metrics names) : Option ℚ :=
  match metrics.fields.lookup "gpu_util" with
  | some (.number v) => (ofLex v).getLeft?
  | _ => none

structure JobInfo where
  jobId : Int
  jobUser : Option Str
  jobGpus : Option Str
  jobNumGpus : Option Int
  jobNumCpus : Option Int
  jobName : Option Str
  jobNumNodes : Option Int
  jobPartition : Option Str
  jobCpusPerGpu : Option ℚ

/-- `JobInfo()`: no job. -/
def JobInfo.unknown : JobInfo := ⟨-1, none, none, none, none, none, none, none, none⟩

structure DevicePlusJobMetrics (names : List String) where
  gpuId : Nat
  hostname : Str
  metrics : Metrics names
  job : JobInfo

/-- `IndexedDeviceMetrics`; the identity attributes differ between vendors. -/
structure IndexedDeviceMetrics (names : List String) where
  gpuIndex : Nat
  identity : List (String × Option Str)
  metrics : Metrics names

structure HostMetrics where
  maxGpuUtil : ℚ
  minGpuUtil : ℚ
  avgGpuUtil : ℚ
  ramUtil : ℚ

def computeHostLevelMetrics (metrics : List (Metrics names)) (ramUtil : ℚ) : HostMetrics where
  maxGpuUtil := ((metrics.filterMap gpuUtil).filter (· ≠ 0)).max?.getD 0
  minGpuUtil := ((metrics.filterMap gpuUtil).filter (· ≠ 0)).min?.getD 0
  avgGpuUtil :=
    let gpuUtils := (metrics.filterMap gpuUtil).filter (· ≠ 0)
    if 0 < gpuUtils.length then gpuUtils.sum / gpuUtils.length else 0
  ramUtil := ramUtil

/-- A write to the sink: what a device did, or the gauges of all devices and the host. -/
inductive SinkWrite (names : List String)
  | log (ts : Int) (message : DevicePlusJobMetrics names)
  | metric (ts : Int) (devices : List (IndexedDeviceMetrics names)) (host : HostMetrics)
      (gpuK8sLabels : List (Nat × List (String × Str)))

/-- What one round of the main loop meets outside of it. The clock is read at
the start and before each pass over the devices, and a pass ends with a sleep
of the collect interval, which is at least one. -/
structure Surroundings (names : List String) (kinds : Fin names.length → FieldKind) (Handle : Type) where
  deviceCount : Nat
  hostname : Str
  identity : Nat → List (String × Option Str)
  /-- What the call for a device does in a pass. -/
  getDeviceByIndex : Nat → Nat → Except PyError Handle
  /-- It divides the power draw by the enforced limit, which may be zero. -/
  getDeviceMetricsBasic : Handle → Except PyError (Sample Str Scalar kinds)
  /-- The undecorated function. -/
  retrieveJobOnGpu : Handle → Except PyError (Option JobInfo)
  ramUtil : Except PyError ℚ
  gpuK8sLabels : List (Nat × List (String × Str))
  pushInterval : Nat
  collectInterval : Nat
  startTime : Int
  /-- What the clock shows before a pass. -/
  monotonic : Nat → Int
  unixtime : Int
  collectPositive : 1 ≤ collectInterval
  sleeps : ∀ pass, monotonic pass + collectInterval ≤ monotonic (pass + 1)

/-- What the round has logged and written so far. -/
structure Output (names : List String) where
  logged : List PyError
  writes : List (SinkWrite names)

def Output.logException (e : PyError) (out : Output names) : Output names := { out with logged := out.logged ++ [e] }

/-- What the round keeps for a device. -/
structure DeviceState (names : List String) where
  accumulator : Accumulator (Metrics names)
  job : JobInfo

namespace Surroundings

variable (env : Surroundings names kinds Handle)

/-- The guard of the collection loop before a pass. -/
def InWindow (pass : Nat) : Prop := env.monotonic pass - env.startTime < env.pushInterval

instance (pass : Nat) : Decidable (env.InWindow pass) :=
  inferInstanceAs (Decidable (_ < (env.pushInterval : Int)))

/-- The body of the loop over the devices. -/
def sampleDevice (pass index : Nat) (device : DeviceState names) : Effect (Output names) (DeviceState names) :=
  fun out =>
  match logError Output.logException none
      (fun out => ((env.getDeviceByIndex pass index).map some, out)) out with
  | (.error e, out) => (.error e, out)
  | (.ok none, out) => (.ok device, out)
  | (.ok (some handle), out) =>
    match env.getDeviceMetricsBasic handle with
    | .error e => (.error e, out)
    | .ok metrics =>
      match device.accumulator.tell maxFields metrics.fields with
      | .error e => (.error e, out)
      | .ok accumulator =>
        match logError Output.logException none (fun out => (env.retrieveJobOnGpu handle, out)) out with
        | (.error e, out) => (.error e, out)
        | (.ok maybeJobInfo, out) => (.ok ⟨accumulator, maybeJobInfo.getD device.job⟩, out)

/-- The loop over the devices from an index on. -/
def samplePass (pass : Nat) : Nat → List (DeviceState names) → Effect (Output names) (List (DeviceState names))
  | _, [], out => (.ok [], out)
  | index, device :: devices, out =>
    match env.sampleDevice pass index device out with
    | (.error e, out) => (.error e, out)
    | (.ok device, out) =>
      match samplePass pass (index + 1) devices out with
      | (.error e, out) => (.error e, out)
      | (.ok devices, out) => (.ok (device :: devices), out)

/-- The collection loop from a pass on. -/
def collect (pass : Nat) (devices : List (DeviceState names)) : Effect (Output names) (List (DeviceState names)) :=
  fun out =>
  if _inWindow : env.InWindow pass then
    match env.samplePass pass 0 devices out with
    | (.error e, out) => (.error e, out)
    | (.ok devices, out) => collect (pass + 1) devices out
  else (.ok devices, out)
termination_by (env.startTime + env.pushInterval - env.monotonic pass).toNat
decreasing_by
  have later := env.sleeps pass
  have positive := env.collectPositive
  unfold InWindow at _inWindow
  omega

/-- The loop over what the accumulators answer, from an index on. -/
def publishDevices (logTime : Int) :
    Nat → List (DeviceState names) → Effect (Output names) (List (IndexedDeviceMetrics names))
  | _, [], out => (.ok [], out)
  | index, device :: devices, out =>
    match device.accumulator.ask with
    | .error e => (.error e, out)
    | .ok metrics =>
      let record := SinkWrite.log logTime ⟨index, env.hostname, metrics, device.job⟩
      match publishDevices logTime (index + 1) devices { out with writes := out.writes ++ [record] } with
      | (.error e, out) => (.error e, out)
      | (.ok indexed, out) => (.ok (⟨index, env.identity index, metrics⟩ :: indexed), out)

/-- One round of the main loop up to the `METRIC` write. -/
def pushWindow : Effect (Output names) Unit := fun out =>
  match env.collect 0 (List.replicate env.deviceCount ⟨.new, .unknown⟩) out with
  | (.error e, out) => (.error e, out)
  | (.ok devices, out) =>
    match env.publishDevices env.unixtime 0 devices out with
    | (.error e, out) => (.error e, out)
    | (.ok indexed, out) =>
      match devices.mapM fun device => device.accumulator.ask with
      | .error e => (.error e, out)
      | .ok metrics =>
        match env.ramUtil with
        | .error e => (.error e, out)
        | .ok ramUtil =>
          let hostLevelMetrics := computeHostLevelMetrics metrics ramUtil
          let record := SinkWrite.metric env.unixtime indexed hostLevelMetrics env.gpuK8sLabels
          (.ok (), { out with writes := out.writes ++ [record] })

/-! ### The passes of a window -/

theorem monotonic_grows (pass later : Nat) : env.monotonic pass + later ≤ env.monotonic (pass + later) := by
  induction later with
  | zero => simp
  | succ later ih =>
    have next := env.sleeps (pass + later)
    have positive := env.collectPositive
    rw [Nat.add_assoc] at next
    omega

theorem window_ends : ∃ pass, ¬env.InWindow pass := by
  refine ⟨(env.startTime + env.pushInterval - env.monotonic 0).toNat, ?_⟩
  have grown := env.monotonic_grows 0 (env.startTime + env.pushInterval - env.monotonic 0).toNat
  unfold InWindow
  rw [Nat.zero_add] at grown
  omega

/-- The number of passes before the guard fails. -/
def passCount : Nat := Nat.find env.window_ends

theorem inWindow_iff {pass : Nat} : env.InWindow pass ↔ pass < env.passCount := by
  rw [passCount, Nat.lt_find_iff]
  constructor
  · intro inside earlier before
    rw [not_not]
    have grown := env.monotonic_grows earlier (pass - earlier)
    rw [Nat.add_sub_cancel' before] at grown
    unfold InWindow at inside ⊢
    omega
  · intro all
    exact not_not.mp (all pass le_rfl)

/-! ### What the accumulators hold -/

/-- The sample of a device in a pass. -/
def sample (pass index : Nat) : Except PyError (Sample Str Scalar kinds) :=
  (env.getDeviceByIndex pass index).bind env.getDeviceMetricsBasic

/-- What the sample of a device in a pass raises where the device is reached. -/
def sampleRaises (pass index : Nat) : Option PyError :=
  (env.getDeviceByIndex pass index).toOption.bind fun handle =>
    match env.getDeviceMetricsBasic handle with
    | .error e => some e
    | .ok _ => none

/-- What the first sample of the window that raises does raise. -/
def windowRaises : Option PyError :=
  (List.range' 0 env.passCount).findSome? fun pass => (List.range' 0 env.deviceCount).findSome? (env.sampleRaises pass)

/-- The samples of a device in the passes before one. -/
def samples (index pass : Nat) : List (Sample Str Scalar kinds) :=
  (List.range pass).filterMap fun earlier => (env.sample earlier index).toOption

/-- The accumulator of a device was told its samples of the passes before one. -/
def Sampled (pass index : Nat) (device : DeviceState names) : Prop :=
  ((env.samples index pass).map Sample.fields).foldlM (Accumulator.tell maxFields) .new = .ok device.accumulator

/-- So were the accumulators of the devices from an index on. -/
def SampledFrom (pass : Nat) : Nat → List (DeviceState names) → Prop
  | _, [] => True
  | index, device :: devices => env.Sampled pass index device ∧ SampledFrom pass (index + 1) devices

variable {env}

theorem samples_succ (index pass : Nat) :
    env.samples index (pass + 1) = env.samples index pass ++ (env.sample pass index).toOption.toList := by
  rw [samples, List.range_succ, List.filterMap_append]
  rfl

/-- A part of the collection writes nothing. It raises the given exception, or
returns something with a property. -/
inductive Quiet {α : Type} (part : Effect (Output names) α) (out : Output names) (post : α → Prop) :
    Option PyError → Prop
  | raises (e : PyError) (out' : Output names) (run : part out = (.error e, out')) (quiet : out'.writes = out.writes) :
    Quiet part out post (some e)
  | returns (value : α) (out' : Output names) (run : part out = (.ok value, out')) (quiet : out'.writes = out.writes)
    (holds : post value) : Quiet part out post none

/-- A pass tells a device its sample, if there is one. -/
theorem sampleDevice_spec {pass index : Nat} {device : DeviceState names} (out : Output names)
    (sampled : env.Sampled pass index device) :
    Quiet (env.sampleDevice pass index device) out (env.Sampled (pass + 1) index) (env.sampleRaises pass index) := by
  cases call : env.getDeviceByIndex pass index with
  | error e =>
    have unsampled : env.sample pass index = .error e := by rw [sample, call]; rfl
    have told : env.Sampled (pass + 1) index device := by
      rw [Sampled, samples_succ, unsampled]
      exact (congrArg _ (congrArg _ (List.append_nil _))).trans sampled
    rw [sampleRaises, call]
    refine .returns device (out.logException e) ?_ rfl told
    simp only [sampleDevice, logError, Except.map, call]
  | ok handle =>
    cases read : env.getDeviceMetricsBasic handle with
    | error e =>
      simp only [sampleRaises, call, Except.toOption, Option.bind_some, read]
      refine .raises e out ?_ rfl
      simp only [sampleDevice, logError, Except.map, call, read]
    | ok metrics =>
      have isSample : env.sample pass index = .ok metrics := by rw [sample, call]; exact read
      obtain ⟨acc, told, -⟩ := tellAll_returns (env.samples index pass ++ [metrics])
      have step : device.accumulator.tell maxFields metrics.fields = .ok acc := by
        rw [List.map_append, List.foldlM_append, sampled] at told
        exact (bind_pure _).symm.trans told
      have later : ∀ job, env.Sampled (pass + 1) index ⟨acc, job⟩ := by
        intro job
        rw [Sampled, samples_succ, isSample]
        exact told
      simp only [sampleRaises, call, Except.toOption, Option.bind_some, read]
      cases job : env.retrieveJobOnGpu handle with
      | error e =>
        refine .returns ⟨acc, device.job⟩ (out.logException e) ?_ rfl (later _)
        simp only [sampleDevice, logError, Except.map, call, read, step, job, Option.getD_none]
      | ok maybeJobInfo =>
        refine .returns ⟨acc, maybeJobInfo.getD device.job⟩ out ?_ rfl (later _)
        simp only [sampleDevice, logError, Except.map, call, read, step, job]

theorem samplePass_spec {pass index : Nat} {devices : List (DeviceState names)} (out : Output names)
    (sampled : env.SampledFrom pass index devices) :
    Quiet (env.samplePass pass index devices) out
      (fun devices' => env.SampledFrom (pass + 1) index devices' ∧ devices'.length = devices.length)
      ((List.range' index devices.length).findSome? (env.sampleRaises pass)) := by
  induction devices generalizing index out with
  | nil => exact .returns [] out rfl rfl ⟨trivial, rfl⟩
  | cons device devices ih =>
    have first := sampleDevice_spec out sampled.1
    rw [List.length_cons, List.range'_succ, List.findSome?_cons]
    generalize env.sampleRaises pass index = raised at first
    cases first with
    | raises e out' run quiet => exact .raises e out' (by rw [samplePass, run]) quiet
    | returns device' out' run quiet holds =>
      have rest := ih out' sampled.2
      dsimp only
      generalize (List.range' (index + 1) devices.length).findSome? (env.sampleRaises pass) = raised at rest
      cases rest with
      | raises e out'' run' quiet' =>
        refine .raises e out'' ?_ (quiet'.trans quiet)
        rw [samplePass, run]
        dsimp only
        rw [run']
      | returns devices' out'' run' quiet' later =>
        refine .returns (device' :: devices') out'' ?_ (quiet'.trans quiet) ⟨⟨holds, later.1⟩, congrArg (· + 1) later.2⟩
        rw [samplePass, run]
        dsimp only
        rw [run']

/-- The collection returns after the last pass of the window, unless a sample raises before. -/
theorem collect_spec {pass left : Nat} {devices : List (DeviceState names)} (out : Output names)
    (whole : env.passCount = pass + left) (sampled : env.SampledFrom pass 0 devices) :
    Quiet (env.collect pass devices) out
      (fun devices' => env.SampledFrom env.passCount 0 devices' ∧ devices'.length = devices.length)
      ((List.range' pass left).findSome? fun pass =>
        (List.range' 0 devices.length).findSome? (env.sampleRaises pass)) := by
  induction left generalizing pass devices out with
  | zero =>
    have beyond : ¬env.InWindow pass := by
      rw [inWindow_iff]
      omega
    rw [whole]
    refine .returns devices out ?_ rfl ⟨sampled, rfl⟩
    rw [collect, dif_neg beyond]
  | succ left ih =>
    have inside : env.InWindow pass := env.inWindow_iff.mpr (by omega)
    have first := samplePass_spec out sampled
    rw [List.range'_succ, List.findSome?_cons]
    generalize (List.range' 0 devices.length).findSome? (env.sampleRaises pass) = raised at first
    cases first with
    | raises e out' run quiet => exact .raises e out' (by rw [collect, dif_pos inside, run]) quiet
    | returns devices' out' run quiet holds =>
      have rest := ih out' (by omega) holds.1
      rw [holds.2] at rest
      dsimp only
      generalize List.findSome? _ (List.range' (pass + 1) left) = raised at rest
      cases rest with
      | raises e out'' run' quiet' =>
        refine .raises e out'' ?_ (quiet'.trans quiet)
        rw [collect, dif_pos inside, run]
        exact run'
      | returns devices'' out'' run' quiet' later =>
        refine .returns devices'' out'' ?_ (quiet'.trans quiet) later
        rw [collect, dif_pos inside, run]
        exact run'

/-! ### What is published -/

theorem Sampled.ask {pass index : Nat} {device : DeviceState names} (sampled : env.Sampled pass index device) :
    device.accumulator.ask = accumulate maxFields ((env.samples index pass).map Sample.fields) := by
  rw [accumulate, sampled]
  rfl

theorem Sampled.ask_returns {pass index : Nat} {device : DeviceState names} (sampled : env.Sampled pass index device)
    (nonempty : env.samples index pass ≠ []) : ∃ metrics, device.accumulator.ask = .ok metrics := by
  obtain ⟨out, returned, -⟩ := accumulate_isPeak nonempty
  exact ⟨out.fields, sampled.ask.trans returned⟩

theorem Sampled.ask_raises {pass index : Nat} {device : DeviceState names} (sampled : env.Sampled pass index device)
    (empty : env.samples index pass = []) :
    device.accumulator.ask = .error (.valueError "Must be told at least one value".toList) := by
  rw [sampled.ask, empty]
  rfl

/-- The records of a device: its samples of a number of passes, accumulated. -/
def HasRecords (env : Surroundings names kinds Handle) (pass : Nat) (writes : List (SinkWrite names))
    (indexed : List (IndexedDeviceMetrics names)) (index : Nat) : Prop :=
  ∃ metrics, accumulate maxFields ((env.samples index pass).map Sample.fields) = .ok metrics ∧
    (∃ job, .log env.unixtime ⟨index, env.hostname, metrics, job⟩ ∈ writes) ∧
    ⟨index, env.identity index, metrics⟩ ∈ indexed

theorem publishDevices_returns {pass index : Nat} {devices : List (DeviceState names)} (out : Output names)
    (sampled : env.SampledFrom pass index devices)
    (nonempty : ∀ i, index ≤ i → i < index + devices.length → env.samples i pass ≠ []) :
    ∃ indexed out', env.publishDevices env.unixtime index devices out = (.ok indexed, out') ∧
      out.writes ⊆ out'.writes ∧
      (∀ i, index ≤ i → i < index + devices.length → env.HasRecords pass out'.writes indexed i) ∧
      ∃ metrics, (devices.mapM fun device => device.accumulator.ask) = .ok metrics := by
  induction devices generalizing index out with
  | nil =>
    refine ⟨[], out, rfl, List.Subset.refl _, fun i from' before => ?_, [], rfl⟩
    exact absurd before (by simpa using from')
  | cons device devices ih =>
    rw [List.length_cons] at nonempty
    obtain ⟨metrics, asked⟩ := sampled.1.ask_returns (nonempty index le_rfl (by omega))
    let record := SinkWrite.log env.unixtime ⟨index, env.hostname, metrics, device.job⟩
    obtain ⟨indexed, out', rest, kept, later, answers, answered⟩ := ih { out with writes := out.writes ++ [record] }
      sampled.2 fun i from' before => nonempty i (by omega) (by omega)
    refine ⟨⟨index, env.identity index, metrics⟩ :: indexed, out', ?_, ?_, ?_, metrics :: answers, ?_⟩
    · rw [publishDevices, asked]
      dsimp only
      rw [rest]
    · exact fun write member => kept (List.mem_append_left _ member)
    · intro i from' before
      rw [List.length_cons] at before
      by_cases here : i = index
      · subst here
        have written : record ∈ out'.writes := kept (List.mem_append_right _ (List.mem_singleton_self _))
        exact ⟨metrics, sampled.1.ask.symm.trans asked, ⟨device.job, written⟩, List.mem_cons_self⟩
      · obtain ⟨m, value, written, listed⟩ := later i (by omega) (by omega)
        exact ⟨m, value, written, List.mem_cons_of_mem _ listed⟩
    · rw [List.mapM_cons, asked, answered]
      rfl

/-- The loop ends at the first device without a sample. -/
theorem publishDevices_raises {pass index i : Nat} {devices : List (DeviceState names)} (out : Output names)
    (sampled : env.SampledFrom pass index devices) (inside : index ≤ i ∧ i < index + devices.length)
    (unsampled : env.samples i pass = []) :
    ∃ out', env.publishDevices env.unixtime index devices out =
      (.error (.valueError "Must be told at least one value".toList), out') := by
  induction devices generalizing index out with
  | nil => exact absurd inside.2 (by simpa using inside.1)
  | cons device devices ih =>
    rw [List.length_cons] at inside
    by_cases empty : env.samples index pass = []
    · refine ⟨out, ?_⟩
      rw [publishDevices, sampled.1.ask_raises empty]
    · obtain ⟨metrics, asked⟩ := sampled.1.ask_returns empty
      have past : index ≠ i := fun here => empty (here ▸ unsampled)
      let record := SinkWrite.log env.unixtime ⟨index, env.hostname, metrics, device.job⟩
      obtain ⟨out', rest⟩ := ih { out with writes := out.writes ++ [record] } sampled.2 (by omega)
      refine ⟨out', ?_⟩
      rw [publishDevices, asked]
      dsimp only
      rw [rest]

theorem sampledFrom_replicate (index count : Nat) :
    env.SampledFrom 0 index (List.replicate count ⟨.new, .unknown⟩) := by
  induction count generalizing index with
  | zero => trivial
  | succ count ih => exact ⟨rfl, ih (index + 1)⟩

theorem samples_ne_nil_iff {index : Nat} :
    env.samples index env.passCount ≠ [] ↔ ∃ pass, env.InWindow pass ∧ (env.sample pass index).isOk := by
  rw [samples, ne_eq, List.filterMap_eq_nil_iff]
  push Not
  refine exists_congr fun pass => ?_
  rw [List.mem_range, inWindow_iff]
  cases env.sample pass index <;> simp [Except.toOption, Except.isOk, Except.toBool]

theorem sampleRaises_eq_none_iff {pass index : Nat} : env.sampleRaises pass index = none ↔
    ∀ handle, env.getDeviceByIndex pass index = .ok handle → (env.getDeviceMetricsBasic handle).isOk := by
  unfold sampleRaises
  cases env.getDeviceByIndex pass index with
  | error e => exact ⟨fun _ handle reached => (nomatch reached), fun _ => rfl⟩
  | ok handle =>
    cases read : env.getDeviceMetricsBasic handle <;> simp [Except.toOption, Except.isOk, Except.toBool, read]

theorem windowRaises_eq_none_iff : env.windowRaises = none ↔ ∀ pass, env.InWindow pass → ∀ index < env.deviceCount,
    ∀ handle, env.getDeviceByIndex pass index = .ok handle → (env.getDeviceMetricsBasic handle).isOk := by
  simp only [windowRaises, List.findSome?_eq_none_iff, sampleRaises_eq_none_iff, inWindow_iff, List.mem_range'_1,
    Nat.zero_le, true_and, Nat.zero_add]

/-- Where no sample raises, a device that is reached has one. -/
theorem sample_isOk {pass index : Nat} (fine : env.sampleRaises pass index = none) :
    (env.sample pass index).isOk = (env.getDeviceByIndex pass index).isOk := by
  have read := sampleRaises_eq_none_iff.mp fine
  unfold sample
  cases call : env.getDeviceByIndex pass index with
  | error e => rfl
  | ok handle => exact read handle call

theorem sampled_iff {index : Nat} (fine : env.windowRaises = none) (inside : index < env.deviceCount) :
    env.samples index env.passCount ≠ [] ↔ ∃ pass, env.InWindow pass ∧ (env.getDeviceByIndex pass index).isOk := by
  rw [samples_ne_nil_iff]
  refine exists_congr fun pass => and_congr_right fun inWindow => ?_
  rw [sample_isOk (sampleRaises_eq_none_iff.mpr (windowRaises_eq_none_iff.mp fine pass inWindow index inside))]

/-- What the collection of a window does. -/
theorem collect_window (env : Surroundings names kinds Handle) (out : Output names) :
    Quiet (env.collect 0 (List.replicate env.deviceCount ⟨.new, .unknown⟩)) out
      (fun devices => env.SampledFrom env.passCount 0 devices ∧ devices.length = env.deviceCount)
      env.windowRaises := by
  have sampled : env.SampledFrom 0 0 (List.replicate env.deviceCount ⟨.new, .unknown⟩) := sampledFrom_replicate 0 _
  have spec := collect_spec out (Nat.zero_add _).symm sampled
  rw [List.length_replicate] at spec
  exact spec

theorem collect_returns {env : Surroundings names kinds Handle} (fine : env.windowRaises = none) (out : Output names) :
    ∃ devices out', env.collect 0 (List.replicate env.deviceCount ⟨.new, .unknown⟩) out = (.ok devices, out') ∧
      env.SampledFrom env.passCount 0 devices ∧ devices.length = env.deviceCount ∧ out'.writes = out.writes := by
  have spec := env.collect_window out
  rw [fine] at spec
  cases spec with
  | returns devices out' run quiet holds => exact ⟨devices, out', run, holds.1, holds.2, quiet⟩

/-- A sample that raises ends the round. -/
theorem pushWindow_sample_raises {env : Surroundings names kinds Handle} {e : PyError}
    (raises : env.windowRaises = some e) (out : Output names) : (env.pushWindow out).1 = .error e := by
  have spec := env.collect_window out
  rw [raises] at spec
  cases spec with
  | raises e out' run quiet => rw [pushWindow, run]

/-- A device without a sample in the window: its accumulator raises. -/
theorem pushWindow_raises {env : Surroundings names kinds Handle} {index : Nat} (inside : index < env.deviceCount)
    (fine : env.windowRaises = none)
    (failed : ∀ pass, env.InWindow pass → ¬(env.getDeviceByIndex pass index).isOk) (out : Output names) :
    (env.pushWindow out).1 = .error (.valueError "Must be told at least one value".toList) := by
  obtain ⟨devices, out', run, sampled, length, -⟩ := collect_returns fine out
  have unsampled : env.samples index env.passCount = [] := by
    by_contra nonempty
    obtain ⟨pass, inWindow, ok⟩ := (sampled_iff fine inside).mp nonempty
    exact failed pass inWindow ok
  obtain ⟨out'', raised⟩ := publishDevices_raises out' sampled ⟨Nat.zero_le _, by omega⟩ unsampled
  rw [pushWindow, run]
  dsimp only
  rw [raised]

/-- Every device has its records where each has a sample. The gauges follow
unless the RAM cannot be read. -/
theorem pushWindow_answers {env : Surroundings names kinds Handle} (fine : env.windowRaises = none)
    (all : ∀ index < env.deviceCount, ∃ pass, env.InWindow pass ∧ (env.getDeviceByIndex pass index).isOk)
    (out : Output names) :
    ∃ indexed, ∃ metrics : List (Metrics names), ∃ out',
      (∀ e, env.ramUtil = .error e → env.pushWindow out = (.error e, out')) ∧
      (∀ ram, env.ramUtil = .ok ram → env.pushWindow out = (.ok (), { out' with writes := out'.writes ++
        [.metric env.unixtime indexed (computeHostLevelMetrics metrics ram) env.gpuK8sLabels] })) ∧
      ∀ index < env.deviceCount, env.HasRecords env.passCount out'.writes indexed index := by
  obtain ⟨devices, out', run, sampled, length, -⟩ := collect_returns fine out
  obtain ⟨indexed, out'', published, -, records, metrics, answered⟩ := publishDevices_returns out' sampled
    fun i _ before => (sampled_iff fine (by omega)).mpr (all i (by omega))
  refine ⟨indexed, metrics, out'', fun e raises => ?_, fun ram read => ?_, fun index inside =>
    records index (Nat.zero_le _) (by omega)⟩
  · rw [pushWindow, run]
    dsimp only
    rw [published]
    dsimp only
    rw [answered, raises]
  · rw [pushWindow, run]
    dsimp only
    rw [published]
    dsimp only
    rw [answered, read]

/-- The window completes, with the records of every device that had a sample in it. -/
structure Publishes (env : Surroundings names kinds Handle) : Prop where
  completes : (env.pushWindow ⟨[], []⟩).1 = .ok ()
  records : ∀ index < env.deviceCount, (∃ pass, env.InWindow pass ∧ (env.getDeviceByIndex pass index).isOk) →
    ∃ indexed host, .metric env.unixtime indexed host env.gpuK8sLabels ∈ (env.pushWindow ⟨[], []⟩).2.writes ∧
      env.HasRecords env.passCount (env.pushWindow ⟨[], []⟩).2.writes indexed index

/-- The window publishes its devices exactly when each of them is reached in
it, no sample raises and the RAM can be read. -/
theorem pushWindow_publishes_iff (env : Surroundings names kinds Handle) :
    env.Publishes ↔
      (∀ index < env.deviceCount, ∃ pass, env.InWindow pass ∧ (env.getDeviceByIndex pass index).isOk) ∧
      (∀ pass, env.InWindow pass → ∀ index < env.deviceCount, ∀ handle,
        env.getDeviceByIndex pass index = .ok handle → (env.getDeviceMetricsBasic handle).isOk) ∧
      env.ramUtil.isOk := by
  rw [← windowRaises_eq_none_iff]
  constructor
  · intro published
    have completes := published.completes
    have fine : env.windowRaises = none := by
      by_contra raises
      obtain ⟨e, raises⟩ := Option.ne_none_iff_exists'.mp raises
      rw [pushWindow_sample_raises raises] at completes
      cases completes
    have all : ∀ index < env.deviceCount, ∃ pass, env.InWindow pass ∧ (env.getDeviceByIndex pass index).isOk := by
      intro index inside
      by_contra never
      rw [pushWindow_raises inside fine fun pass inWindow ok => never ⟨pass, inWindow, ok⟩] at completes
      cases completes
    refine ⟨all, fine, ?_⟩
    obtain ⟨indexed, metrics, out', raised, -, -⟩ := pushWindow_answers fine all ⟨[], []⟩
    cases read : env.ramUtil with
    | error e =>
      rw [raised e read] at completes
      cases completes
    | ok ram => rfl
  · intro conditions
    obtain ⟨all, fine, read⟩ := conditions
    obtain ⟨indexed, metrics, out', -, window, records⟩ := pushWindow_answers fine all ⟨[], []⟩
    cases value : env.ramUtil with
    | error e =>
      rw [value] at read
      cases read
    | ok ram =>
      have run := window ram value
      refine ⟨by rw [run], fun index inside _ => ⟨indexed, computeHostLevelMetrics metrics ram, ?_, ?_⟩⟩
      · rw [run]
        exact List.mem_append_right _ (List.mem_singleton_self _)
      · obtain ⟨m, value, ⟨job, written⟩, listed⟩ := records index inside
        rw [run]
        exact ⟨m, value, ⟨job, List.mem_append_left _ written⟩, listed⟩

end Surroundings

/-- A sample of the NVML monitor without any value. -/
def emptyMetrics : Sample Str Scalar deviceMetricsKinds where
  fields := .constant _ .none
  ofKind index := by
    let values := FieldValues.constant deviceMetricsFields (FieldValue.none : FieldValue Str Scalar)
    have same : values.get index = .none := by simp [values, FieldValues.get, FieldValues.constant]
    rw [same]
    exact .none _

/-- Two devices of the NVML monitor. The first cannot be reached. -/
def firstDeviceLost : Surroundings deviceMetricsFields deviceMetricsKinds Unit where
  deviceCount := 2
  hostname := "node1".toList
  identity _ := [("gpu_uuid", none), ("gpu_model", none)]
  getDeviceByIndex _ index := if index = 0 then .error (.exception "GPU is lost".toList) else .ok ()
  getDeviceMetricsBasic _ := .ok emptyMetrics
  retrieveJobOnGpu _ := .ok none
  ramUtil := .ok 0
  gpuK8sLabels := []
  pushInterval := 60
  collectInterval := 10
  startTime := 0
  monotonic pass := 10 * pass
  unixtime := 0
  collectPositive := by decide
  sleeps pass := by omega

/-- The second device has a sample in every pass, but nothing is published. -/
theorem pushWindow_blocked :
    (∀ pass, (firstDeviceLost.getDeviceByIndex pass 1).isOk) ∧
      (firstDeviceLost.pushWindow ⟨[], []⟩).1 = .error (.valueError "Must be told at least one value".toList) ∧
      ¬firstDeviceLost.Publishes := by
  have failed : ∀ pass, firstDeviceLost.InWindow pass → ¬(firstDeviceLost.getDeviceByIndex pass 0).isOk :=
    fun pass _ => Bool.false_ne_true
  have fine : firstDeviceLost.windowRaises = none :=
    Surroundings.windowRaises_eq_none_iff.mpr fun pass _ index _ handle _ => rfl
  have inside : 0 < firstDeviceLost.deviceCount := Nat.zero_lt_two
  have raised := Surroundings.pushWindow_raises inside fine failed ⟨[], []⟩
  refine ⟨fun pass => rfl, raised, fun published => ?_⟩
  rw [published.completes] at raised
  cases raised

end GpuTelemetry
