import GpuTelemetry.Sinfo
import Mathlib.Algebra.BigOperators.Ring.List
import Mathlib.Algebra.Order.BigOperators.Group.List
import Mathlib.Algebra.Order.Field.Basic
import Mathlib.Algebra.Order.Ring.Rat
import Mathlib.Tactic.Linarith
import Mathlib.Tactic.Ring

namespace GpuTelemetry

/-! ### Sums with weights -/

section Weights

variable {ι : Type}

end Weights

/-! ### The average over a window -/

/-- The start and the end of a job, where both can be read. -/
def jobTimes (runtime : PyRuntime) (job : SacctMetrics) : Option (Int × Int) :=
  match runtime.fromIsoFormat job.start, runtime.fromIsoFormat job.endText with
  | some jobStartTime, some jobEndTime => some (jobStartTime, jobEndTime)
  | _, _ => none

/-- The difference that the code weighs a job with. -/
def secsWithinInterval (runtime : PyRuntime) (startTime endTime : AwareDatetime) (job : SacctMetrics) : ℚ :=
  match jobTimes runtime job with
  | some (jobStart, jobEnd) => totalSeconds (min jobEnd endTime.instant - max jobStart startTime.instant)
  | none => 0

section Window

variable (runtime : PyRuntime) (startTime endTime : AwareDatetime) (jobs : List SacctMetrics)

end Window

end GpuTelemetry
