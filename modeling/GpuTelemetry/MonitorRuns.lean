import GpuTelemetry.DeviceWindow
import GpuTelemetry.RefusedWrites

namespace GpuTelemetry

variable {names : List String} {kinds : Fin names.length → FieldKind} {Handle : Type}

/-- A write to a sink of which the n-th may raise. -/
def writeTo (sink : Nat → Option PyError) (record : SinkWrite names) : Effect (Output names) Unit := fun out =>
  (match sink out.writes.length with
    | some e => .error e
    | none => .ok (), { out with writes := out.writes ++ [record] })

namespace Surroundings

variable (sink : Nat → Option PyError) (env : Surroundings names kinds Handle)

/-- The loop over what the accumulators answer, with a sink that may raise. -/
def writeDevices : Nat → List (DeviceState names) → Effect (Output names) (List (IndexedDeviceMetrics names))
  | _, [], out => (.ok [], out)
  | index, device :: devices, out =>
    match device.accumulator.ask with
    | .error e => (.error e, out)
    | .ok metrics =>
      match writeTo sink (.log env.unixtime ⟨index, env.hostname, metrics, device.job⟩) out with
      | (.error e, out) => (.error e, out)
      | (.ok (), out) =>
        match writeDevices (index + 1) devices out with
        | (.error e, out) => (.error e, out)
        | (.ok indexed, out) => (.ok (⟨index, env.identity index, metrics⟩ :: indexed), out)

/-- One round of the main loop. -/
def writeRound : Effect (Output names) Unit := fun out =>
  match env.collect 0 (List.replicate env.deviceCount ⟨.new, .unknown⟩) out with
  | (.error e, out) => (.error e, out)
  | (.ok devices, out) =>
    match env.writeDevices sink 0 devices out with
    | (.error e, out) => (.error e, out)
    | (.ok indexed, out) =>
      match devices.mapM fun device => device.accumulator.ask with
      | .error e => (.error e, out)
      | .ok metrics =>
        match env.ramUtil with
        | .error e => (.error e, out)
        | .ok ramUtil =>
          let hostLevelMetrics := computeHostLevelMetrics metrics ramUtil
          writeTo sink (.metric env.unixtime indexed hostLevelMetrics env.gpuK8sLabels) out

end Surroundings

namespace Surroundings

variable (env : Surroundings names kinds Handle)

/-- With a sink that takes everything this is the loop over the devices of `pushWindow`. -/
theorem writeDevices_taken (index : Nat) (devices : List (DeviceState names)) (out : Output names) :
    env.writeDevices (fun _ => none) index devices out = env.publishDevices env.unixtime index devices out := by
  induction devices generalizing index out with
  | nil => rfl
  | cons device devices ih =>
    rw [writeDevices, publishDevices]
    cases device.accumulator.ask with
    | error e => rfl
    | ok metrics =>
      simp only [writeTo]
      rewrite [ih]
      rfl

theorem writeRound_taken : env.writeRound (fun _ => none) = env.pushWindow := by
  funext out
  unfold writeRound pushWindow
  simp only [writeDevices_taken]
  rfl

/-! ### What a round has to write -/

/-- What has been read of the jobs of a device in the passes before one. -/
def jobsSeen (index pass : Nat) : List JobInfo :=
  (List.range pass).filterMap fun earlier =>
    (env.getDeviceByIndex earlier index).toOption.bind fun handle => (env.retrieveJobOnGpu handle).toOption.join

/-- A device has a sample in the window. -/
def Reached (index : Nat) : Prop := ∃ pass < env.passCount, (env.sample pass index).isOk

instance (index : Nat) : Decidable (env.Reached index) :=
  inferInstanceAs (Decidable (∃ pass < env.passCount, (env.sample pass index).isOk))

/-- The samples of a device in the window, accumulated. -/
def peak (index : Nat) : Metrics names :=
  (accumulate maxFields ((env.samples index env.passCount).map Sample.fields)).toOption.getD (.constant names .none)

/-- The job that was read last in the window. -/
def lastJob (index : Nat) : JobInfo := (env.jobsSeen index env.passCount).getLast?.getD .unknown

def deviceLog (index : Nat) : SinkWrite names :=
  .log env.unixtime ⟨index, env.hostname, env.peak index, env.lastJob index⟩

def indexed (index : Nat) : IndexedDeviceMetrics names := ⟨index, env.identity index, env.peak index⟩

/-- Every device has a sample in the window. -/
def Complete : Prop := ∀ index < env.deviceCount, env.Reached index

instance : Decidable env.Complete := inferInstanceAs (Decidable (∀ index < env.deviceCount, env.Reached index))

/-- The host's values in a round that ends. -/
def hostMetrics : HostMetrics :=
  computeHostLevelMetrics ((List.range env.deviceCount).map env.peak) (env.ramUtil.toOption.getD 0)

/-- The gauges of all devices and of the host. -/
def gauges : SinkWrite names :=
  .metric env.unixtime ((List.range env.deviceCount).map env.indexed) env.hostMetrics env.gpuK8sLabels

/-- How a round ends with a sink that takes everything: with the first sample
that raises, at a device without one, or with the reading of the RAM. -/
def ending : Except PyError Unit :=
  match env.windowRaises with
  | some e => .error e
  | none =>
    if env.Complete then env.ramUtil.map fun _ => () else .error (.valueError "Must be told at least one value".toList)

/-- The round ends with its `METRIC` write. -/
def Completed : Prop := env.windowRaises = none ∧ env.Complete ∧ env.ramUtil.isOk

instance : Decidable env.Completed :=
  inferInstanceAs (Decidable (env.windowRaises = none ∧ env.Complete ∧ env.ramUtil.isOk))

/-- The writes of a round that the sink takes. -/
def records : List (SinkWrite names) :=
  match env.windowRaises with
  | some _ => []
  | none =>
    ((List.range env.deviceCount).takeWhile fun index => env.Reached index).map env.deviceLog ++
      if env.Completed then [env.gauges] else []

end Surroundings

/-- The writes of a run, round after round. -/
def runRecords (rounds : Nat → Surroundings names kinds Handle) : Nat → Nat → List (SinkWrite names)
  | _, 0 => []
  | round, count + 1 =>
    (rounds round).records ++ if (rounds round).Completed then runRecords rounds (round + 1) count else []

namespace Surroundings

variable {sink : Nat → Option PyError} {env : Surroundings names kinds Handle} {pass index : Nat}
  {device device' : DeviceState names} {devices devices' : List (DeviceState names)} {out out' : Output names}

/-! ### What the collection leaves for a device -/

/-- The last job that was read stays. -/
def JobKept (env : Surroundings names kinds Handle) (pass index : Nat) (device : DeviceState names) : Prop :=
  device.job = (env.jobsSeen index pass).getLast?.getD .unknown

theorem jobsSeen_succ : env.jobsSeen index (pass + 1) = env.jobsSeen index pass ++
    ((env.getDeviceByIndex pass index).toOption.bind fun handle =>
      (env.retrieveJobOnGpu handle).toOption.join).toList := by
  rw [jobsSeen, List.range_succ, List.filterMap_append]
  rfl

theorem JobKept.next (kept : env.JobKept pass index device) (seen : Option JobInfo)
    (same : ((env.getDeviceByIndex pass index).toOption.bind fun handle =>
      (env.retrieveJobOnGpu handle).toOption.join) = seen)
    (job : device'.job = seen.getD device.job) : env.JobKept (pass + 1) index device' := by
  rw [JobKept, jobsSeen_succ, same, job]
  cases seen with
  | none => exact (kept.trans (by simp))
  | some job => simp

theorem SampledFrom.get {i : Nat} (sampled : env.SampledFrom pass index devices) (found : devices[i]? = some device) :
    env.Sampled pass (index + i) device := by
  induction devices generalizing index i with
  | nil => cases found
  | cons first devices ih =>
    cases i with
    | zero =>
      obtain rfl := Option.some.inj found
      exact sampled.1
    | succ i =>
      rw [Nat.add_comm i 1, ← Nat.add_assoc]
      exact ih sampled.2 found

theorem reached_iff : env.Reached index ↔ env.samples index env.passCount ≠ [] := by
  rw [samples_ne_nil_iff]
  simp only [Reached, inWindow_iff]

/-- The records of the devices from an index on, up to the first that has not answered. -/
def logs (env : Surroundings names kinds Handle) (index count : Nat) : List (SinkWrite names) :=
  ((List.range' index count).takeWhile fun i => env.Reached i).map env.deviceLog

/-- What the loop over the devices returns where the sink takes everything. -/
def answers (env : Surroundings names kinds Handle) (index count : Nat) :
    Except PyError (List (IndexedDeviceMetrics names)) :=
  if ∀ i ∈ List.range' index count, env.Reached i then .ok ((List.range' index count).map env.indexed)
  else .error (.valueError "Must be told at least one value".toList)

theorem records_eq (fine : env.windowRaises = none) :
    env.records = env.logs 0 env.deviceCount ++ if env.Completed then [env.gauges] else [] := by
  rw [records, fine, logs, List.range_eq_range']

theorem Completed.ending (completed : env.Completed) : env.ending = .ok () := by
  obtain ⟨fine, complete, read⟩ := completed
  rw [Surroundings.ending, fine]
  dsimp only
  rw [if_pos complete]
  cases value : env.ramUtil with
  | error e =>
    rw [value] at read
    cases read
  | ok ram => rfl

end Surroundings

/-! ### What a run writes -/

variable {sink : Nat → Option PyError} {rounds : Nat → Surroundings names kinds Handle}

end GpuTelemetry
