import GpuTelemetry.FleetHealth
import Mathlib.Algebra.Order.Field.Basic
import Mathlib.Tactic.Linarith
import Mathlib.Tactic.Positivity

namespace GpuTelemetry

/-- What `compute` is told of the PCIe link of the GPU. -/
structure PcieReading where
  genCurrent : Option Int
  genMax : Option Int
  widthCurrent : Option Int
  widthMax : Option Int

def PcieReading.downtraining (reading : PcieReading) : Option Int :=
  pcieDowntraining reading.genCurrent reading.genMax reading.widthCurrent reading.widthMax

/-- The generation is below the best one, or, where both are known, the width. -/
inductive PcieReading.Downgraded : PcieReading → Prop
  | gen {current best widthCurrent widthMax} : current < best →
      Downgraded ⟨some current, some best, widthCurrent, widthMax⟩
  | width {genCurrent genMax current best} : current < best →
      Downgraded ⟨some genCurrent, some genMax, some current, some best⟩

theorem PcieReading.Downgraded.downtraining {reading : PcieReading} (downgraded : reading.Downgraded) :
    reading.downtraining = some 1 := by
  cases downgraded with
  | @gen current best widthCurrent widthMax below =>
    cases widthCurrent with
    | none => exact congrArg some (if_pos below)
    | some width =>
      cases widthMax with
      | none => exact congrArg some (if_pos below)
      | some best => exact congrArg some (if_pos (.inl below))
  | width below => exact congrArg some (if_pos (.inr below))

/-! ### The penalties -/

def pciePenalty (downtraining : Option Int) : ℚ := if downtraining.getD 0 ≠ 0 then 10 else 0

def dbePenalty (dbeTotal : Int) : ℚ := if 0 < dbeTotal then 30 else 0

def remapPenalty (rowRemapAvailable : Option Int) : ℚ := if rowRemapAvailable = some 0 then 15 else 0

def thermalPenalty : Option ℚ → ℚ
  | some ramp => if 2 < ramp then 10 else 0
  | none => 0

/-- A penalty that grows with a rate up to a limit. -/
def ratePenalty (weight limit : ℚ) : Option ℚ → ℚ
  | some rate => weight * min 1 (rate / limit)
  | none => 0

variable {w w' : GPUWindow}

/-- A deduction under a condition. -/
theorem ite_sub_eq (p : Prop) [Decidable p] (score amount : ℚ) :
    (if p then score - amount else score) = score - if p then amount else 0 := by
  split
  · rfl
  · exact (sub_zero score).symm

theorem healthScore_eq (w : GPUWindow) (downtraining : Option Int) (sbeRate xidRate thermalRamp : Option ℚ) :
    healthScore w downtraining sbeRate xidRate thermalRamp =
      max 0 (100 - (pciePenalty downtraining + ratePenalty 20 10 sbeRate + dbePenalty w.lastDbeTotal +
        remapPenalty w.lastRowRemapAvailable + ratePenalty 15 5 xidRate + thermalPenalty thermalRamp)) := by
  -- each step of the score is a deduction once the readings are known or not
  cases sbeRate <;> cases xidRate <;> cases thermalRamp <;>
    simp only [healthScore, ite_sub_eq, pciePenalty, ratePenalty, dbePenalty, remapPenalty, thermalPenalty] <;>
    ring_nf

theorem pciePenalty_nonneg (downtraining : Option Int) : 0 ≤ pciePenalty downtraining := by
  unfold pciePenalty
  split <;> norm_num

theorem dbePenalty_nonneg (dbeTotal : Int) : 0 ≤ dbePenalty dbeTotal := by
  unfold dbePenalty
  split <;> norm_num

theorem remapPenalty_nonneg (rowRemapAvailable : Option Int) : 0 ≤ remapPenalty rowRemapAvailable := by
  unfold remapPenalty
  split <;> norm_num

theorem thermalPenalty_nonneg (thermalRamp : Option ℚ) : 0 ≤ thermalPenalty thermalRamp := by
  unfold thermalPenalty
  split
  · split <;> norm_num
  · exact le_rfl

/-- The rates of two states in order: the greater one may also be the only one. -/
inductive RateLE : Option ℚ → Option ℚ → Prop
  | absent {rate} : (∀ r ∈ rate, 0 ≤ r) → RateLE none rate
  | known {r r'} : 0 ≤ r → r ≤ r' → RateLE (some r) (some r')

section

variable {weight limit : ℚ} (weighs : 0 ≤ weight) (positive : 0 < limit)
include weighs positive

theorem ratePenalty_nonneg {rate : Option ℚ} (nonneg : ∀ r ∈ rate, 0 ≤ r) : 0 ≤ ratePenalty weight limit rate := by
  cases rate with
  | none => exact le_rfl
  | some r => exact mul_nonneg weighs (le_min zero_le_one (div_nonneg (nonneg r rfl) positive.le))

theorem ratePenalty_mono {rate rate' : Option ℚ} (le : RateLE rate rate') :
    ratePenalty weight limit rate ≤ ratePenalty weight limit rate' := by
  cases le with
  | absent nonneg => exact ratePenalty_nonneg weighs positive nonneg
  | known _ less =>
    have smaller := div_le_div_of_nonneg_right less positive.le
    exact mul_le_mul_of_nonneg_left (min_le_min le_rfl smaller) weighs

end

/-! ### The rates of a window -/

/-- The SBE rate of `compute`. -/
def sbeRateOf (sbeCounts : List Observation) : Option ℚ := (changeRate 3600 sbeCounts).map (max 0)

theorem sbeRateOf_nonneg (sbeCounts : List Observation) : ∀ r ∈ sbeRateOf sbeCounts, 0 ≤ r := by
  intro r member
  obtain ⟨rate, -, rfl⟩ := Option.mem_map.mp member
  exact le_max_left 0 rate

/-- The rate of a buffer with an oldest and a newest entry. -/
theorem changeRate_eq (seconds : ℚ) (oldest : Observation) (between : List Observation) (time value : ℚ) :
    changeRate seconds (oldest :: (between ++ [(time, value)])) =
      if 0 < (time - oldest.1) / seconds then some ((value - oldest.2) / ((time - oldest.1) / seconds)) else none := by
  cases between with
  | nil => rfl
  | cons newer later =>
    have newest : (newer :: (later ++ [(time, value)])).getLast (List.cons_ne_nil _ _) = (time, value) :=
      List.getLast_append_singleton (newer :: later)
    rw [List.cons_append, changeRate, newest]

/-- The rate does not fall when the newest count is larger. -/
theorem sbeRateOf_newest (earlier : List Observation) (time : ℚ) {value value' : ℚ} (larger : value ≤ value') :
    RateLE (sbeRateOf (earlier ++ [(time, value)])) (sbeRateOf (earlier ++ [(time, value')])) := by
  cases earlier with
  | nil => exact .absent nofun
  | cons oldest between =>
    rw [sbeRateOf, sbeRateOf, List.cons_append, List.cons_append, changeRate_eq, changeRate_eq]
    split
    · rename_i elapsed
      have grows : (value - oldest.2) / ((time - oldest.1) / 3600) ≤ (value' - oldest.2) / ((time - oldest.1) / 3600) :=
        div_le_div_of_nonneg_right (sub_le_sub_right larger _) elapsed.le
      exact .known (le_max_left _ _) (max_le_max le_rfl grows)
    · exact .absent nofun

/-- The XID rate of `compute` for a window that has a length. -/
def xidRateOf (window : ℚ) (xidEvents : List Observation) : Option ℚ :=
  if xidEvents = [] then none else some (xidEvents.length / (window / 3600))

section

variable {window : ℚ} (positive : 0 < window)
include positive

theorem xidRate_eq (xidEvents : List Observation) : xidRate window xidEvents = .ok (xidRateOf window xidEvents) := by
  unfold xidRate xidRateOf
  have hours : window / 3600 ≠ 0 := (div_pos positive (by norm_num)).ne'
  rw [if_neg hours]
  split <;> rfl

theorem eventRate_nonneg (n : Nat) : 0 ≤ (n : ℚ) / (window / 3600) :=
  div_nonneg n.cast_nonneg (div_pos positive (by norm_num)).le

theorem xidRateOf_nonneg (xidEvents : List Observation) : ∀ r ∈ xidRateOf window xidEvents, 0 ≤ r := by
  intro r member
  unfold xidRateOf at member
  split at member
  · cases member
  · rw [← Option.some.inj member]
    exact eventRate_nonneg positive _

theorem xidRateOf_insert (before after : List Observation) (event : Observation) :
    RateLE (xidRateOf window (before ++ after)) (xidRateOf window (before ++ event :: after)) := by
  have nonempty : before ++ event :: after ≠ [] := List.append_ne_nil_of_right_ne_nil _ (List.cons_ne_nil _ _)
  rw [xidRateOf, xidRateOf, if_neg nonempty]
  split
  · refine .absent fun r member => ?_
    rw [← Option.some.inj member]
    exact eventRate_nonneg positive _
  · have more : ((before ++ after).length : ℚ) ≤ (before ++ event :: after).length := by
      rw [Nat.cast_le, List.length_append, List.length_append, List.length_cons]
      omega
    have hours : 0 ≤ window / 3600 := (div_pos positive (by norm_num)).le
    exact .known (eventRate_nonneg positive _) (div_le_div_of_nonneg_right more hours)

end

/-! ### The score -/

/-- The penalties of a window and a PCIe reading. -/
def penalty (window : ℚ) (w : GPUWindow) (reading : PcieReading) : ℚ :=
  pciePenalty reading.downtraining + ratePenalty 20 10 (sbeRateOf w.sbeCounts) + dbePenalty w.lastDbeTotal +
    remapPenalty w.lastRowRemapAvailable + ratePenalty 15 5 (xidRateOf window w.xidEvents) +
    thermalPenalty (changeRate 60 w.temperatures)

/-- `compute` on a PCIe reading. -/
def FleetHealthTracker.computeReading (tracker : FleetHealthTracker) (gpuIndex : Int) (gpuUuid gpuModel : Option Str)
    (reading : PcieReading) : Except PyError GPUFleetHealthMetrics :=
  tracker.compute gpuIndex gpuUuid gpuModel reading.genCurrent reading.genMax reading.widthCurrent reading.widthMax

theorem computeReading_score {tracker : FleetHealthTracker} (positive : 0 < tracker.window) (gpuIndex : Int)
    (gpuUuid gpuModel : Option Str) (reading : PcieReading) :
    ∃ metrics, tracker.computeReading gpuIndex gpuUuid gpuModel reading = .ok metrics ∧
      metrics.healthScore = max 0 (100 - penalty tracker.window (tracker.get gpuIndex) reading) := by
  simp only [FleetHealthTracker.computeReading, FleetHealthTracker.compute, xidRate_eq positive]
  exact ⟨_, rfl, healthScore_eq _ _ _ _ _⟩

theorem penalty_nonneg {window : ℚ} (positive : 0 < window) (w : GPUWindow) (reading : PcieReading) :
    0 ≤ penalty window w reading := by
  have pcie := pciePenalty_nonneg reading.downtraining
  have sbe := ratePenalty_nonneg (by norm_num : (0 : ℚ) ≤ 20) (by norm_num : (0 : ℚ) < 10)
    (sbeRateOf_nonneg w.sbeCounts)
  have dbe := dbePenalty_nonneg w.lastDbeTotal
  have remap := remapPenalty_nonneg w.lastRowRemapAvailable
  have xid := ratePenalty_nonneg (by norm_num : (0 : ℚ) ≤ 15) (by norm_num : (0 : ℚ) < 5)
    (xidRateOf_nonneg positive w.xidEvents)
  have thermal := thermalPenalty_nonneg (changeRate 60 w.temperatures)
  unfold penalty
  linarith

/-- A window with its PCIe reading, and the same with a fault added. -/
inductive Worsens : GPUWindow → PcieReading → GPUWindow → PcieReading → Prop
  | xid {w reading before after event lastXid} : w.xidEvents = before ++ after →
      Worsens w reading { w with xidEvents := before ++ event :: after, lastXid := lastXid } reading
  | sbe {w reading earlier time value value'} : w.sbeCounts = earlier ++ [(time, value)] → value ≤ value' →
      Worsens w reading { w with sbeCounts := earlier ++ [(time, value')] } reading
  | dbe {w reading total} : 0 < total → Worsens w reading { w with lastDbeTotal := total } reading
  | remap {w reading} : Worsens w reading { w with lastRowRemapAvailable := some 0 } reading
  | pcie {w reading reading'} : reading'.Downgraded → Worsens w reading w reading'

/-- A fault adds to its penalty and leaves the others. -/
theorem Worsens.penalty_le {window : ℚ} (positive : 0 < window) {reading reading' : PcieReading}
    (worsens : Worsens w reading w' reading') : penalty window w reading ≤ penalty window w' reading' := by
  unfold penalty
  cases worsens with
  | @xid before after event lastXid events =>
    have more := ratePenalty_mono (by norm_num : (0 : ℚ) ≤ 15) (by norm_num : (0 : ℚ) < 5)
      (xidRateOf_insert positive before after event)
    rw [events]
    dsimp only
    linarith
  | @sbe earlier time value value' counts larger =>
    have more := ratePenalty_mono (by norm_num : (0 : ℚ) ≤ 20) (by norm_num : (0 : ℚ) < 10)
      (sbeRateOf_newest earlier time larger)
    rw [counts]
    dsimp only
    linarith
  | @dbe total present =>
    have most : dbePenalty w.lastDbeTotal ≤ dbePenalty total := by
      unfold dbePenalty
      rw [if_pos present]
      split <;> norm_num
    dsimp only
    linarith
  | remap =>
    have most : remapPenalty w.lastRowRemapAvailable ≤ remapPenalty (some 0) := by
      unfold remapPenalty
      rw [if_pos rfl]
      split <;> norm_num
    dsimp only
    linarith
  | pcie downgraded =>
    have most : pciePenalty reading.downtraining ≤ pciePenalty reading'.downtraining := by
      rw [downgraded.downtraining]
      unfold pciePenalty
      rw [if_pos (by decide : (some (1 : Int)).getD 0 ≠ 0)]
      split <;> norm_num
    linarith

/-- The score is between 0 and 100, and a fault that is added does not raise it. -/
structure ScoreBounded (tracker : FleetHealthTracker) (gpuIndex : Int) (gpuUuid gpuModel : Option Str)
    (reading : PcieReading) (metrics : GPUFleetHealthMetrics) : Prop where
  nonneg : 0 ≤ metrics.healthScore
  le_hundred : metrics.healthScore ≤ 100
  antitone : ∀ (tracker' : FleetHealthTracker) (reading' : PcieReading), tracker'.window = tracker.window →
    Worsens (tracker.get gpuIndex) reading (tracker'.get gpuIndex) reading' →
    ∃ metrics', tracker'.computeReading gpuIndex gpuUuid gpuModel reading' = .ok metrics' ∧
      metrics'.healthScore ≤ metrics.healthScore

/-- For every tracker whose window has a length, and so for every one that is
reached by observations. -/
theorem computeReading_bounded (tracker : FleetHealthTracker) (positive : 0 < tracker.window) (gpuIndex : Int)
    (gpuUuid gpuModel : Option Str) (reading : PcieReading) :
    ∃ metrics, tracker.computeReading gpuIndex gpuUuid gpuModel reading = .ok metrics ∧
      ScoreBounded tracker gpuIndex gpuUuid gpuModel reading metrics := by
  obtain ⟨metrics, run, score⟩ := computeReading_score positive gpuIndex gpuUuid gpuModel reading
  have nonneg := penalty_nonneg positive (tracker.get gpuIndex) reading
  refine ⟨metrics, run, ?_, ?_, fun tracker' reading' same worsens => ?_⟩
  · rw [score]
    exact le_max_left _ _
  · rw [score]
    exact max_le (by norm_num) (by linarith)
  · obtain ⟨metrics', run', score'⟩ :=
      computeReading_score (same ▸ positive : 0 < tracker'.window) gpuIndex gpuUuid gpuModel reading'
    have more := worsens.penalty_le positive
    refine ⟨metrics', run', ?_⟩
    rw [score, score', same]
    exact max_le_max le_rfl (by linarith)

/-- A GPU with two counts a minute apart. -/
theorem computeReading_bounded_minute :
    let call (now : ℚ) (sbeTotal : Int) : ObserveCall := ⟨now, 0, some 79, some sbeTotal, some 0, none, none⟩
    let tracker := (FleetHealthTracker.new 300).observeAll [call 0 1, call 60 4]
    let reading : PcieReading := ⟨some 5, some 5, some 16, some 16⟩
    0 < tracker.window ∧ ∃ metrics, tracker.computeReading 0 none none reading = .ok metrics ∧
      ScoreBounded tracker 0 none none reading metrics := by
  intro call tracker reading
  have positive : 0 < tracker.window := by decide +kernel
  exact ⟨positive, computeReading_bounded tracker positive 0 none none reading⟩

end GpuTelemetry
