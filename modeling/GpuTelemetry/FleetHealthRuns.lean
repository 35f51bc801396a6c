import GpuTelemetry.FleetHealth
import GpuTelemetry.RefusedWrites

namespace GpuTelemetry

/-! ### The loop of the fleet health monitor -/

/-- What the NVML calls for a GPU do in a round. -/
structure DeviceCalls where
  /-- The handle, of which the UUID and the name are read. -/
  handle : Except PyError (Str × Str)
  /-- The value of the field of the last error code, if there is one. -/
  fieldValues : Except PyError (Option Int)
  sbe : Except PyError Int
  dbe : Except PyError Int
  temperature : Except PyError ℚ
  rowRemapperHistogram : Except PyError Int
  genCurrent : Except PyError Int
  genMax : Except PyError Int
  widthCurrent : Except PyError Int
  widthMax : Except PyError Int
  /-- What the clock shows in `observe`. -/
  now : ℚ

namespace DeviceCalls

variable (calls : DeviceCalls)

/-- A value of 0 is no error. -/
def xid : Option Int := (calls.fieldValues.toOption.join).filter (· ≠ 0)

/-- The counts are read one after the other, and neither is kept when one cannot be read. -/
def eccErrors : Option (Int × Int) := (calls.sbe.bind fun sbe => calls.dbe.map fun dbe => (sbe, dbe)).toOption

/-- So are the values of the PCIe link. -/
def pcieLink : Option (Int × Int × Int × Int) :=
  (calls.genCurrent.bind fun genCurrent => calls.genMax.bind fun genMax => calls.widthCurrent.bind fun widthCurrent =>
    calls.widthMax.map fun widthMax => (genCurrent, genMax, widthCurrent, widthMax)).toOption

def observation (gpuIndex : Nat) : ObserveCall where
  now := calls.now
  gpuIndex := gpuIndex
  xid := calls.xid
  sbeTotal := calls.eccErrors.map Prod.fst
  dbeTotal := calls.eccErrors.map Prod.snd
  temperature := calls.temperature.toOption
  rowRemapAvail := calls.rowRemapperHistogram.toOption

end DeviceCalls

/-- The body of the loop over the GPUs. -/
def collectGpu (tracker : FleetHealthTracker) (gpuIndex : Nat) (calls : DeviceCalls) :
    FleetHealthTracker × Option GPUFleetHealthMetrics :=
  match calls.handle with
  | .error _ => (tracker, none)
  | .ok (uuid, model) =>
    let tracker := tracker.observe (calls.observation gpuIndex)
    let link := calls.pcieLink
    (tracker, (tracker.compute gpuIndex (some uuid) (some model) (link.map fun l => l.1) (link.map fun l => l.2.1)
      (link.map fun l => l.2.2.1) (link.map fun l => l.2.2.2)).toOption)

/-- The loop over the GPUs. -/
def collectGpus (calls : Nat → DeviceCalls) :
    List Nat → FleetHealthTracker → FleetHealthTracker × List GPUFleetHealthMetrics
  | [], tracker => (tracker, [])
  | gpuIndex :: gpus, tracker =>
    let (tracker, metrics) := collectGpu tracker gpuIndex (calls gpuIndex)
    let (tracker, metricsList) := collectGpus calls gpus tracker
    (tracker, metrics.toList ++ metricsList)

/-- The main loop from a round on, for a number of rounds. -/
def fleetLoop (sink : Nat → Option PyError) (gpus : List Nat) (calls : Nat → Nat → DeviceCalls) :
    Nat → Nat → FleetHealthTracker → Effect (List (List GPUFleetHealthMetrics)) Unit
  | _, 0, _, written => (.ok (), written)
  | round, count + 1, tracker, written =>
    let (tracker, metricsList) := collectGpus (calls round) gpus tracker
    if metricsList = [] then fleetLoop sink gpus calls (round + 1) count tracker written
    else
      match sink written.length with
      | some e => (.error e, written ++ [metricsList])
      | none => fleetLoop sink gpus calls (round + 1) count tracker (written ++ [metricsList])

/-! ### The rounds of a run -/

variable (window : ℚ) (gpus : List Nat) (calls : Nat → Nat → DeviceCalls)

/-- The tracker before a round. -/
def fleetState : Nat → FleetHealthTracker
  | 0 => .new window
  | round + 1 => (collectGpus (calls round) gpus (fleetState round)).1

/-- What a round has to write. -/
def fleetMetrics (round : Nat) : List GPUFleetHealthMetrics :=
  (collectGpus (calls round) gpus (fleetState window gpus calls round)).2

/-- What a run has to write. -/
def fleetWrites (round count : Nat) : List (List GPUFleetHealthMetrics) :=
  ((List.range' round count).map (fleetMetrics window gpus calls)).filter (· ≠ [])

variable {window gpus calls}

theorem fleetLoop_eq (window : ℚ) (gpus : List Nat) (calls : Nat → Nat → DeviceCalls) (sink : Nat → Option PyError)
    (round count : Nat) (written : List (List GPUFleetHealthMetrics)) :
    fleetLoop sink gpus calls round count (fleetState window gpus calls round) written =
      handOver sink (fleetWrites window gpus calls round count) written := by
  induction count generalizing round written with
  | zero => rfl
  | succ count ih =>
    have next : (collectGpus (calls round) gpus (fleetState window gpus calls round)).1 =
        fleetState window gpus calls (round + 1) := rfl
    have here : (collectGpus (calls round) gpus (fleetState window gpus calls round)).2 =
        fleetMetrics window gpus calls round := rfl
    rw [fleetLoop, fleetWrites, List.range'_succ, List.map_cons]
    simp only [next, here, ih]
    by_cases empty : fleetMetrics window gpus calls round = []
    · rw [if_pos empty, List.filter_cons_of_neg (by simpa using empty)]
      rfl
    · rw [if_neg empty, List.filter_cons_of_pos (by simpa using empty), handOver]
      cases sink written.length <;> rfl

/-! ### One GPU of a run -/

variable {tracker tracker' : FleetHealthTracker} {gpuIndex other : Nat} {deviceCalls : DeviceCalls}

/-- Trackers that are the same for a GPU. -/
structure SameFor (gpuIndex : Nat) (tracker tracker' : FleetHealthTracker) : Prop where
  window : tracker.window = tracker'.window
  get : tracker.get gpuIndex = tracker'.get gpuIndex

theorem collectGpu_same (deviceCalls : DeviceCalls) (same : SameFor gpuIndex tracker tracker') :
    SameFor gpuIndex (collectGpu tracker gpuIndex deviceCalls).1 (collectGpu tracker' gpuIndex deviceCalls).1 ∧
      (collectGpu tracker gpuIndex deviceCalls).2 = (collectGpu tracker' gpuIndex deviceCalls).2 := by
  unfold collectGpu
  cases deviceCalls.handle with
  | error e => exact ⟨same, rfl⟩
  | ok identity =>
    have observed : SameFor gpuIndex (tracker.observe (deviceCalls.observation gpuIndex))
        (tracker'.observe (deviceCalls.observation gpuIndex)) := by
      refine ⟨same.window, ?_⟩
      rw [observe_get, observe_get, same.get, same.window]
    refine ⟨observed, ?_⟩
    dsimp only
    rw [FleetHealthTracker.compute, FleetHealthTracker.compute, observed.get, observed.window]

theorem collectGpu_other (tracker : FleetHealthTracker) (deviceCalls : DeviceCalls) (different : gpuIndex ≠ other) :
    SameFor gpuIndex (collectGpu tracker other deviceCalls).1 tracker := by
  unfold collectGpu
  cases deviceCalls.handle with
  | error e => exact ⟨rfl, rfl⟩
  | ok identity =>
    refine ⟨rfl, ?_⟩
    have notThis : (gpuIndex : Int) ≠ (deviceCalls.observation other).gpuIndex := fun same =>
      different (Int.ofNat.inj same)
    dsimp only
    rw [observe_get, if_neg notThis]

theorem compute_gpuIndex {i : Int} {uuid model : Option Str} {a b c d : Option Int} {metrics : GPUFleetHealthMetrics}
    (computed : tracker.compute i uuid model a b c d = .ok metrics) : metrics.gpuIndex = i := by
  rw [FleetHealthTracker.compute] at computed
  cases rate : xidRate tracker.window (tracker.get i).xidEvents with
  | error e => simp [rate, bind, Except.bind] at computed
  | ok rate' =>
    simp only [rate, bind, Except.bind, Except.ok.injEq] at computed
    rw [← computed]

theorem collectGpu_gpuIndex {metrics : GPUFleetHealthMetrics}
    (member : metrics ∈ (collectGpu tracker other deviceCalls).2) : metrics.gpuIndex = other := by
  unfold collectGpu at member
  split at member
  · cases member
  · rename_i uuid model handle
    dsimp only at member
    generalize computed : FleetHealthTracker.compute _ _ _ _ _ _ _ _ = result at member
    cases result with
    | error e => cases member
    | ok metrics => exact Option.some.inj member ▸ compute_gpuIndex computed

/-- What a round says of a GPU. -/
def reportsOn (gpuIndex : Nat) (metricsList : List GPUFleetHealthMetrics) : List GPUFleetHealthMetrics :=
  metricsList.filter fun metrics => metrics.gpuIndex = (gpuIndex : Int)

theorem reportsOn_entry (entry : Option GPUFleetHealthMetrics) (metricsList : List GPUFleetHealthMetrics)
    (named : ∀ metrics ∈ entry, metrics.gpuIndex = (other : Int)) :
    reportsOn gpuIndex (entry.toList ++ metricsList) =
      (if gpuIndex = other then entry.toList else []) ++ reportsOn gpuIndex metricsList := by
  rw [reportsOn, List.filter_append]
  congr 1
  cases entry with
  | none => simp
  | some metrics =>
    rw [Option.toList_some, List.filter_cons, named metrics rfl]
    by_cases here : gpuIndex = other
    · simp [here]
    · simp [here, Ne.symm here]

/-- A round does nothing for a GPU that it does not come to. -/
theorem collectGpus_other (calls : Nat → DeviceCalls) (tracker : FleetHealthTracker) (absent : gpuIndex ∉ gpus) :
    SameFor gpuIndex (collectGpus calls gpus tracker).1 tracker ∧
      reportsOn gpuIndex (collectGpus calls gpus tracker).2 = [] := by
  induction gpus generalizing tracker with
  | nil => exact ⟨⟨rfl, rfl⟩, rfl⟩
  | cons first gpus ih =>
    rw [List.mem_cons, not_or] at absent
    obtain ⟨rest, silent⟩ := ih (collectGpu tracker first (calls first)).1 absent.2
    have untouched := collectGpu_other tracker (calls first) absent.1
    rw [collectGpus]
    dsimp only
    rw [reportsOn_entry _ _ fun _ => collectGpu_gpuIndex, if_neg absent.1, silent]
    exact ⟨⟨rest.window.trans untouched.window, rest.get.trans untouched.get⟩, rfl⟩

/-- A round does for a GPU what it does for that GPU alone. -/
theorem collectGpus_alone (calls : Nat → DeviceCalls) (distinct : gpus.Nodup) (member : gpuIndex ∈ gpus)
    (same : SameFor gpuIndex tracker tracker') :
    SameFor gpuIndex (collectGpus calls gpus tracker).1 (collectGpu tracker' gpuIndex (calls gpuIndex)).1 ∧
      reportsOn gpuIndex (collectGpus calls gpus tracker).2 =
        (collectGpu tracker' gpuIndex (calls gpuIndex)).2.toList := by
  induction gpus generalizing tracker with
  | nil => cases member
  | cons first gpus ih =>
    rw [List.nodup_cons] at distinct
    rw [collectGpus]
    dsimp only
    rw [reportsOn_entry _ _ fun _ => collectGpu_gpuIndex]
    rcases List.mem_cons.mp member with rfl | later
    · obtain ⟨here, metrics⟩ := collectGpu_same (calls gpuIndex) same
      obtain ⟨rest, silent⟩ := collectGpus_other calls (collectGpu tracker gpuIndex (calls gpuIndex)).1 distinct.1
      rw [if_pos rfl, silent, List.append_nil, metrics]
      exact ⟨⟨rest.window.trans here.window, rest.get.trans here.get⟩, rfl⟩
    · have different : gpuIndex ≠ first := fun same => distinct.1 (same ▸ later)
      have untouched := collectGpu_other tracker (calls first) different
      rw [if_neg different, List.nil_append]
      exact ih distinct.2 later ⟨untouched.window.trans same.window, untouched.get.trans same.get⟩

theorem fleetState_alone (window : ℚ) (calls : Nat → Nat → DeviceCalls) (distinct : gpus.Nodup)
    (member : gpuIndex ∈ gpus) (round : Nat) :
    SameFor gpuIndex (fleetState window gpus calls round) (fleetState window [gpuIndex] calls round) := by
  induction round with
  | zero => exact ⟨rfl, rfl⟩
  | succ round ih => exact (collectGpus_alone (calls round) distinct member ih).1

/-- What a run writes and what it is made of. -/
structure FleetRun (sink : Nat → Option PyError) (window : ℚ) (gpuCount : Nat) (calls : Nat → Nat → DeviceCalls)
    (count : Nat) : Prop where
  accepted : (∀ i < (fleetWrites window (List.range gpuCount) calls 0 count).length, sink i = none) →
    fleetLoop sink (List.range gpuCount) calls 0 count (.new window) [] =
      (.ok (), fleetWrites window (List.range gpuCount) calls 0 count)
  /-- The first write that raises is the last one. -/
  refused : ∀ i e, i < (fleetWrites window (List.range gpuCount) calls 0 count).length → sink i = some e →
    (∀ j < i, sink j = none) → fleetLoop sink (List.range gpuCount) calls 0 count (.new window) [] =
      (.error e, (fleetWrites window (List.range gpuCount) calls 0 count).take (i + 1))
  /-- A round says of a GPU what a run for that GPU alone says in it. -/
  alone : ∀ round, ∀ gpuIndex < gpuCount,
    reportsOn gpuIndex (fleetMetrics window (List.range gpuCount) calls round) =
      fleetMetrics window [gpuIndex] calls round

/-- Nothing that a GPU or a call for it does changes what a run says of another
GPU, and only a write can end the run. -/
theorem fleetLoop_isolates (sink : Nat → Option PyError) (window : ℚ) (gpuCount : Nat)
    (calls : Nat → Nat → DeviceCalls) (count : Nat) : FleetRun sink window gpuCount calls count where
  accepted taken := by
    have run := fleetLoop_eq window (List.range gpuCount) calls sink 0 count []
    exact run.trans (handOver_accepted (by simpa using taken))
  refused i e before refuses earlier := by
    have run := fleetLoop_eq window (List.range gpuCount) calls sink 0 count []
    exact run.trans (handOver_refused before (by simpa using refuses) (by simpa using earlier))
  alone round gpuIndex inside := by
    have state := fleetState_alone window calls List.nodup_range (List.mem_range.mpr inside) round
    have metrics := (collectGpus_alone (calls round) List.nodup_range (List.mem_range.mpr inside) state).2
    exact metrics.trans (List.append_nil _).symm

end GpuTelemetry
