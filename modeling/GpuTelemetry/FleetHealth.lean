import GpuTelemetry.Dicts
import GpuTelemetry.Exceptions
import GpuTelemetry.SlidingWindow
import Mathlib.Data.Rat.Cast.Order

namespace GpuTelemetry

/-- A time and a value. Floats are taken as the rational numbers they stand for. -/
abbrev Observation := ℚ × ℚ

/-- `_GPUWindow`. -/
structure GPUWindow where
  xidEvents : List Observation
  sbeCounts : List Observation
  temperatures : List Observation
  lastXid : Option Int
  lastDbeTotal : Int
  lastRowRemapAvailable : Option Int

def GPUWindow.new : GPUWindow := ⟨[], [], [], none, 0, none⟩

structure FleetHealthTracker where
  window : ℚ
  gpus : List (Int × GPUWindow)

def FleetHealthTracker.new (windowSeconds : ℚ) : FleetHealthTracker := ⟨windowSeconds, []⟩

/-- `_get`, which also enters a new window for a GPU it does not know yet. -/
def FleetHealthTracker.get (tracker : FleetHealthTracker) (gpuIndex : Int) : GPUWindow :=
  (dictGet tracker.gpus gpuIndex).getD .new

/-- A call of `observe`, and the time it reads from the clock. -/
structure ObserveCall where
  now : ℚ
  gpuIndex : Int
  xid : Option Int
  sbeTotal : Option Int
  dbeTotal : Option Int
  temperature : Option ℚ
  rowRemapAvail : Option Int

/-- The error codes are kept when they change. -/
def GPUWindow.addXid (w : GPUWindow) (now : ℚ) : Option Int → GPUWindow
  | none => w
  | some xid =>
    if xid ≠ 0 then
      if some xid ≠ w.lastXid then { w with xidEvents := w.xidEvents ++ [(now, (xid : ℚ))], lastXid := some xid } else w
    else w

/-- `observe` on the window of its GPU: the error codes are trimmed every time,
the counts and the temperatures only with a reading. -/
def GPUWindow.observe (window : ℚ) (w : GPUWindow) (call : ObserveCall) : GPUWindow :=
  let w := w.addXid call.now call.xid
  { w with
    xidEvents := trim window call.now w.xidEvents
    sbeCounts := record window w.sbeCounts call.now (call.sbeTotal.map Int.cast)
    lastDbeTotal := call.dbeTotal.getD w.lastDbeTotal
    temperatures := record window w.temperatures call.now call.temperature
    lastRowRemapAvailable := call.rowRemapAvail.or w.lastRowRemapAvailable }

def FleetHealthTracker.observe (tracker : FleetHealthTracker) (call : ObserveCall) : FleetHealthTracker :=
  { tracker with
    gpus := dictModify call.gpuIndex (fun w => (w.getD .new).observe tracker.window call) tracker.gpus }

def FleetHealthTracker.observeAll (tracker : FleetHealthTracker) (calls : List ObserveCall) : FleetHealthTracker :=
  calls.foldl FleetHealthTracker.observe tracker

/-! ### What is computed from a window -/

structure GPUFleetHealthMetrics where
  gpuIndex : Int
  gpuUuid : Option Str
  gpuModel : Option Str
  xidLastErrorCode : Option Int
  xidErrorRate : Option ℚ
  eccSbeRate : Option ℚ
  eccDbeTotal : Option Int
  rowRemapAvailable : Option Int
  pcieLinkGenCurrent : Option Int
  pcieLinkWidthCurrent : Option Int
  pcieLinkDowntraining : Option Int
  thermalRampRate : Option ℚ
  healthScore : ℚ

/-- The change from the oldest entry to the newest, per unit of time. -/
def changeRate (seconds : ℚ) (buf : List Observation) : Option ℚ :=
  match buf with
  | oldest :: newer :: later =>
    let newest := (newer :: later).getLast (List.cons_ne_nil _ _)
    let elapsed := (newest.1 - oldest.1) / seconds
    if 0 < elapsed then some ((newest.2 - oldest.2) / elapsed) else none
  | _ => none

/-- Events per hour over the window. -/
def xidRate (window : ℚ) (xidEvents : List Observation) : Except PyError (Option ℚ) :=
  if xidEvents = [] then .ok none
  else if window / 3600 = 0 then .error (.zeroDivisionError "float division by zero".toList)
  else .ok (some (xidEvents.length / (window / 3600)))

/-- A link below its best generation or width. -/
def pcieDowntraining : Option Int → Option Int → Option Int → Option Int → Option Int
  | some genCurrent, some genMax, some widthCurrent, some widthMax =>
    some (if genCurrent < genMax ∨ widthCurrent < widthMax then 1 else 0)
  | some genCurrent, some genMax, _, _ => some (if genCurrent < genMax then 1 else 0)
  | _, _, _, _ => none

def healthScore (w : GPUWindow) (pcieDowntraining : Option Int) (sbeRate xidRate thermalRamp : Option ℚ) : ℚ :=
  let score : ℚ := 100
  let score := if pcieDowntraining.getD 0 ≠ 0 then score - 10 else score
  let score := match sbeRate with
    | some rate => score - 20 * min 1 (rate / 10)
    | none => score
  let score := if 0 < w.lastDbeTotal then score - 30 else score
  let score := if w.lastRowRemapAvailable = some 0 then score - 15 else score
  let score := match xidRate with
    | some rate => score - 15 * min 1 (rate / 5)
    | none => score
  let score := match thermalRamp with
    | some ramp => if 2 < ramp then score - 10 else score
    | none => score
  max 0 score

def FleetHealthTracker.compute (tracker : FleetHealthTracker) (gpuIndex : Int) (gpuUuid gpuModel : Option Str)
    (pcieGenCurrent pcieGenMax pcieWidthCurrent pcieWidthMax : Option Int) : Except PyError GPUFleetHealthMetrics := do
  let w := tracker.get gpuIndex
  let xidRate ← xidRate tracker.window w.xidEvents
  let sbeRate := (changeRate 3600 w.sbeCounts).map (max 0)
  let thermalRamp := changeRate 60 w.temperatures
  let downtraining := pcieDowntraining pcieGenCurrent pcieGenMax pcieWidthCurrent pcieWidthMax
  .ok
    { gpuIndex := gpuIndex
      gpuUuid := gpuUuid
      gpuModel := gpuModel
      xidLastErrorCode := w.lastXid
      xidErrorRate := xidRate
      eccSbeRate := sbeRate
      eccDbeTotal := if 0 < w.lastDbeTotal then some w.lastDbeTotal else none
      rowRemapAvailable := w.lastRowRemapAvailable
      pcieLinkGenCurrent := pcieGenCurrent
      pcieLinkWidthCurrent := pcieWidthCurrent
      pcieLinkDowntraining := downtraining
      thermalRampRate := thermalRamp
      healthScore := healthScore w downtraining sbeRate xidRate thermalRamp }

/-! ### The window of one GPU over a run -/

/-- The calls for a GPU. -/
def callsOf (gpuIndex : Int) (calls : List ObserveCall) : List ObserveCall :=
  calls.filter fun call => call.gpuIndex = gpuIndex

theorem observe_get (tracker : FleetHealthTracker) (call : ObserveCall) (gpuIndex : Int) :
    (tracker.observe call).get gpuIndex =
      if gpuIndex = call.gpuIndex then (tracker.get gpuIndex).observe tracker.window call
      else tracker.get gpuIndex := by
  rw [FleetHealthTracker.get, FleetHealthTracker.observe, dictGet, lookup_dictModify]
  split
  · rename_i same
    subst same
    rfl
  · rfl

/-- A call changes the window of its GPU only. -/
theorem observeAll_get (tracker : FleetHealthTracker) (calls : List ObserveCall) (gpuIndex : Int) :
    (tracker.observeAll calls).get gpuIndex =
      (callsOf gpuIndex calls).foldl (GPUWindow.observe tracker.window) (tracker.get gpuIndex) := by
  induction calls generalizing tracker with
  | nil => rfl
  | cons call calls ih =>
    have later : (tracker.observeAll (call :: calls)).get gpuIndex =
        (callsOf gpuIndex calls).foldl (GPUWindow.observe tracker.window) ((tracker.observe call).get gpuIndex) :=
      ih (tracker.observe call)
    rw [later, observe_get, callsOf, callsOf]
    by_cases same : call.gpuIndex = gpuIndex
    · rw [List.filter_cons_of_pos (by simpa using same), if_pos same.symm, List.foldl_cons]
    · rw [List.filter_cons_of_neg (by simpa using same), if_neg (Ne.symm same)]

/-- The observed counts and temperatures of a GPU. -/
def sbeHistory (gpuIndex : Int) (calls : List ObserveCall) : List (ℚ × Option ℚ) :=
  (callsOf gpuIndex calls).map fun call => (call.now, call.sbeTotal.map Int.cast)

def temperatureHistory (gpuIndex : Int) (calls : List ObserveCall) : List (ℚ × Option ℚ) :=
  (callsOf gpuIndex calls).map fun call => (call.now, call.temperature)

theorem GPUWindow.addXid_others (w : GPUWindow) (now : ℚ) (xid : Option Int) :
    (w.addXid now xid).sbeCounts = w.sbeCounts ∧ (w.addXid now xid).temperatures = w.temperatures := by
  unfold GPUWindow.addXid
  split
  · exact ⟨rfl, rfl⟩
  · split
    · split <;> exact ⟨rfl, rfl⟩
    · exact ⟨rfl, rfl⟩

theorem foldl_observe_buffers (window : ℚ) (calls : List ObserveCall) (w : GPUWindow) :
    (calls.foldl (GPUWindow.observe window) w).sbeCounts =
        (calls.map fun call => (call.now, call.sbeTotal.map Int.cast)).foldl
          (fun buf observed => record window buf observed.1 observed.2) w.sbeCounts ∧
      (calls.foldl (GPUWindow.observe window) w).temperatures =
        (calls.map fun call => (call.now, call.temperature)).foldl
          (fun buf observed => record window buf observed.1 observed.2) w.temperatures := by
  induction calls generalizing w with
  | nil => exact ⟨rfl, rfl⟩
  | cons call calls ih =>
    obtain ⟨sbe, temperatures⟩ := w.addXid_others call.now call.xid
    have step : (w.observe window call).sbeCounts = record window w.sbeCounts call.now (call.sbeTotal.map Int.cast) ∧
        (w.observe window call).temperatures = record window w.temperatures call.now call.temperature :=
      ⟨congrArg (record window · call.now _) sbe, congrArg (record window · call.now _) temperatures⟩
    have later := ih (w.observe window call)
    rw [step.1, step.2] at later
    exact later

/-- Both buffers hold what was inside the window at the last reading. -/
theorem observeAll_buffers (window : ℚ) {calls : List ObserveCall}
    (clock : (calls.map ObserveCall.now).Pairwise (· ≤ ·))
    (gpuIndex : Int) :
    (((FleetHealthTracker.new window).observeAll calls).get gpuIndex).sbeCounts =
        atLastReading window (readings (sbeHistory gpuIndex calls)) ∧
      (((FleetHealthTracker.new window).observeAll calls).get gpuIndex).temperatures =
        atLastReading window (readings (temperatureHistory gpuIndex calls)) := by
  have times : ((callsOf gpuIndex calls).map ObserveCall.now).Pairwise (· ≤ ·) :=
    clock.sublist (List.filter_sublist.map _)
  have start : (FleetHealthTracker.new window).get gpuIndex = .new := rfl
  obtain ⟨sbe, temperatures⟩ := foldl_observe_buffers window (callsOf gpuIndex calls) .new
  rw [observeAll_get, start]
  refine ⟨sbe.trans (recordAll_eq window ?_), temperatures.trans (recordAll_eq window ?_)⟩
  · rw [List.map_map]
    exact times
  · rw [List.map_map]
    exact times

theorem GPUWindow.addXid_inTimeOrder (w : GPUWindow) {now : ℚ} (xid : Option Int) (ordered : InTimeOrder w.xidEvents)
    (past : ∀ entry ∈ w.xidEvents, entry.1 ≤ now) :
    InTimeOrder (w.addXid now xid).xidEvents ∧ ∀ entry ∈ (w.addXid now xid).xidEvents, entry.1 ≤ now := by
  unfold GPUWindow.addXid
  split
  · exact ⟨ordered, past⟩
  · split
    · split
      · refine ⟨ordered.snoc past _, fun entry member => ?_⟩
        rcases List.mem_append.mp member with old | new
        · exact past entry old
        · rw [List.mem_singleton.mp new]
      · exact ⟨ordered, past⟩
    · exact ⟨ordered, past⟩

/-- The error codes are in time order and inside the window of the last call. -/
theorem foldl_observe_xidEvents (window : ℚ) {calls : List ObserveCall}
    (clock : (calls.map ObserveCall.now).Pairwise (· ≤ ·)) :
    InTimeOrder (calls.foldl (GPUWindow.observe window) .new).xidEvents ∧
      ∀ last ∈ calls.getLast?, ∀ entry ∈ (calls.foldl (GPUWindow.observe window) .new).xidEvents,
        last.now - window ≤ entry.1 ∧ entry.1 ≤ last.now := by
  induction calls using List.reverseRecOn with
  | nil => exact ⟨List.Pairwise.nil, by simp⟩
  | append_singleton calls call ih =>
    rw [List.map_append, List.pairwise_append] at clock
    obtain ⟨earlier, -, before⟩ := clock
    obtain ⟨ordered, inside⟩ := ih earlier
    rw [List.foldl_append, List.foldl_cons, List.foldl_nil]
    generalize run : calls.foldl (GPUWindow.observe window) .new = w at ordered inside
    have past : ∀ entry ∈ w.xidEvents, entry.1 ≤ call.now := by
      intro entry member
      cases atLast : calls.getLast? with
      | none =>
        rw [List.getLast?_eq_none_iff.mp atLast] at run
        simp [← run, GPUWindow.new] at member
      | some last =>
        have inCalls : last.now ∈ calls.map ObserveCall.now := List.mem_map_of_mem (List.mem_of_getLast? atLast)
        exact (inside last atLast entry member).2.trans (before _ inCalls _ (by simp))
    have added := w.addXid_inTimeOrder call.xid ordered past
    have kept : (w.observe window call).xidEvents = recent window call.now (w.addXid call.now call.xid).xidEvents :=
      trim_eq_recent added.1 window call.now
    rw [kept]
    refine ⟨added.1.recent _ _, fun last isLast entry member => ?_⟩
    obtain rfl : call = last := by simpa using isLast
    obtain ⟨inBuffer, fresh⟩ := mem_recent.mp member
    exact ⟨fresh, added.2 entry inBuffer⟩

/-- The buffers of a GPU are in time order and inside the window that ends now. -/
structure GPUWindow.InWindow (w : GPUWindow) (window now : ℚ) : Prop where
  xidInside : ∀ entry ∈ w.xidEvents, now - window ≤ entry.1
  sbeInside : ∀ entry ∈ w.sbeCounts, now - window ≤ entry.1
  temperaturesInside : ∀ entry ∈ w.temperatures, now - window ≤ entry.1
  xidOrdered : InTimeOrder w.xidEvents
  sbeOrdered : InTimeOrder w.sbeCounts
  temperaturesOrdered : InTimeOrder w.temperatures

/-- A call without a count comes while the counts inside the window at the last
count still are, and so for the temperatures. -/
structure ReadingsInWindow (window : ℚ) (earlier : List ObserveCall) (call : ObserveCall) : Prop where
  sbe : call.sbeTotal = none → StillInside window (readings (sbeHistory call.gpuIndex earlier)) call.now
  temperature :
    call.temperature = none → StillInside window (readings (temperatureHistory call.gpuIndex earlier)) call.now

/-- A reading at the time itself leaves nothing old behind. -/
theorem stillInside_snoc_iff (window now : ℚ) (history : List (ℚ × Option ℚ)) (value : Option ℚ) :
    StillInside window (readings (history ++ [(now, value)])) now ↔
      (value = none → StillInside window (readings history) now) := by
  rw [readings_snoc]
  cases value with
  | none => simp
  | some value => simp [StillInside]

theorem observe_inWindow_iff (window : ℚ) (earlier : List ObserveCall) (call : ObserveCall)
    (clock : ((earlier ++ [call]).map ObserveCall.now).Pairwise (· ≤ ·)) :
    (((FleetHealthTracker.new window).observeAll (earlier ++ [call])).get call.gpuIndex).InWindow window call.now ↔
      ReadingsInWindow window earlier call := by
  have own : callsOf call.gpuIndex (earlier ++ [call]) = callsOf call.gpuIndex earlier ++ [call] := by
    simp [callsOf]
  have times : ((callsOf call.gpuIndex (earlier ++ [call])).map ObserveCall.now).Pairwise (· ≤ ·) :=
    clock.sublist (List.filter_sublist.map _)
  obtain ⟨sbe, temperatures⟩ := observeAll_buffers window clock call.gpuIndex
  obtain ⟨xidOrdered, xidInside⟩ := foldl_observe_xidEvents window times
  have start : ((FleetHealthTracker.new window).observeAll (earlier ++ [call])).get call.gpuIndex =
      (callsOf call.gpuIndex (earlier ++ [call])).foldl (GPUWindow.observe window) .new := observeAll_get _ _ _
  have sbeTimes : ((sbeHistory call.gpuIndex (earlier ++ [call])).map Prod.fst).Pairwise (· ≤ ·) := by
    rw [sbeHistory, List.map_map]
    exact times
  have temperatureTimes : ((temperatureHistory call.gpuIndex (earlier ++ [call])).map Prod.fst).Pairwise (· ≤ ·) := by
    rw [temperatureHistory, List.map_map]
    exact times
  have sbeInside := stillInside_snoc_iff window call.now (sbeHistory call.gpuIndex earlier)
    (call.sbeTotal.map Int.cast)
  have temperaturesInside :=
    stillInside_snoc_iff window call.now (temperatureHistory call.gpuIndex earlier) call.temperature
  have sbeSnoc : sbeHistory call.gpuIndex (earlier ++ [call]) =
      sbeHistory call.gpuIndex earlier ++ [(call.now, call.sbeTotal.map Int.cast)] := by
    simp [sbeHistory, own]
  have temperatureSnoc : temperatureHistory call.gpuIndex (earlier ++ [call]) =
      temperatureHistory call.gpuIndex earlier ++ [(call.now, call.temperature)] := by
    simp [temperatureHistory, own]
  rw [← sbeSnoc, ← atLastReading_inside_iff, ← sbe, Option.map_eq_none_iff] at sbeInside
  rw [← temperatureSnoc, ← atLastReading_inside_iff, ← temperatures] at temperaturesInside
  constructor
  · intro inWindow
    exact ⟨sbeInside.mp inWindow.sbeInside, temperaturesInside.mp inWindow.temperaturesInside⟩
  · intro still
    refine ⟨?_, sbeInside.mpr still.sbe, temperaturesInside.mpr still.temperature, ?_, ?_, ?_⟩
    · rw [start]
      exact fun entry member => (xidInside call (by simp [own]) entry member).1
    · rw [start]
      exact xidOrdered
    · rw [sbe]
      exact atLastReading_inTimeOrder window (readings_inTimeOrder sbeTimes)
    · rw [temperatures]
      exact atLastReading_inTimeOrder window (readings_inTimeOrder temperatureTimes)

/-- Over a run with a clock that never goes back, the buffers of a GPU are in
time order and inside the window after each of its observations exactly when
every observation without a reading comes before the readings get too old. -/
theorem observeAll_inWindow_iff (window : ℚ) (calls : List ObserveCall)
    (clock : (calls.map ObserveCall.now).Pairwise (· ≤ ·)) :
    (∀ earlier call later, calls = earlier ++ call :: later →
        (((FleetHealthTracker.new window).observeAll (earlier ++ [call])).get call.gpuIndex).InWindow window call.now) ↔
      ∀ earlier call later, calls = earlier ++ call :: later → ReadingsInWindow window earlier call := by
  have each : ∀ earlier call later, calls = earlier ++ call :: later →
      ((((FleetHealthTracker.new window).observeAll (earlier ++ [call])).get call.gpuIndex).InWindow window call.now ↔
        ReadingsInWindow window earlier call) := by
    intro earlier call later split
    have whole : calls = (earlier ++ [call]) ++ later := by rw [split, List.append_cons]
    rw [whole] at clock
    exact observe_inWindow_iff window earlier call (clock.sublist ((List.sublist_append_left _ _).map _))
  constructor
  · exact fun inWindow earlier call later split => (each earlier call later split).mp
      (inWindow earlier call later split)
  · exact fun still earlier call later split => (each earlier call later split).mpr (still earlier call later split)

/-- A call of `observe` with a temperature, or with nothing. -/
def temperatureCall (now : ℚ) (temperature : Option ℚ) : ObserveCall where
  now := now
  gpuIndex := 0
  xid := none
  sbeTotal := none
  dbeTotal := none
  temperature := temperature
  rowRemapAvail := none

/-- Within a minute a missing temperature changes nothing. -/
theorem observeAll_inWindow_minute :
    (((FleetHealthTracker.new 60).observeAll [temperatureCall 0 (some 40), temperatureCall 30 none]).get 0).InWindow
      60 30 := by
  have inTime : ∀ earlier call later, [temperatureCall 0 (some 40), temperatureCall 30 none] =
      earlier ++ call :: later →
      ReadingsInWindow 60 earlier call := by
    intro earlier call later split
    match earlier with
    | [] =>
      obtain ⟨rfl, -⟩ := List.cons.inj split
      exact ⟨fun _ => by decide, fun _ => by decide⟩
    | [first] =>
      obtain ⟨rfl, rest⟩ := List.cons.inj split
      obtain ⟨rfl, -⟩ := List.cons.inj rest
      exact ⟨fun _ => by decide +kernel, fun _ => by decide +kernel⟩
    | first :: second :: others => simp at split
  exact (observeAll_inWindow_iff 60 [temperatureCall 0 (some 40), temperatureCall 30 none] (by decide)).mpr inTime
    [temperatureCall 0 (some 40)] (temperatureCall 30 none) [] rfl

/-- Two temperatures, and a reading that fails a quarter of an hour later. -/
def staleCalls : List ObserveCall :=
  [temperatureCall 0 (some 40), temperatureCall 30 (some 50), temperatureCall 930 none]

/-- Both temperatures are still there, and a rate is computed from them. -/
theorem observeAll_stale :
    (staleCalls.map ObserveCall.now).Pairwise (· ≤ ·) ∧
    ¬ (((FleetHealthTracker.new 60).observeAll staleCalls).get 0).InWindow 60 930 ∧
      changeRate 60 (((FleetHealthTracker.new 60).observeAll staleCalls).get 0).temperatures = some 20 := by
  have kept : (((FleetHealthTracker.new 60).observeAll staleCalls).get 0).temperatures = [(0, 40), (30, 50)] := by
    decide +kernel
  refine ⟨by decide, fun inWindow => ?_, ?_⟩
  · have old := inWindow.temperaturesInside (0, 40) (by rw [kept]; simp)
    norm_num at old
  · rw [kept]
    norm_num [changeRate]

end GpuTelemetry
