import GpuTelemetry.KillSuccess
import GpuTelemetry.NvidiaCommand

namespace GpuTelemetry

/-! ### What makes a check pass -/

/-- The versions are all the expected one. Where none is expected they are all
the same, past empty ones at the start. -/
def VbiosConsistent (expectedVbios : Str) (versions : List Str) : Prop :=
  if expectedVbios = [] then ∃ expected, ∀ version ∈ versions.dropWhile List.isEmpty, version = expected
  else ∀ version ∈ versions, version = expectedVbios

variable (floats : FloatText) (convertBytes : Int → Float) (disabled : Str → Except PyError Bool)

theorem VbiosConsistent.nil (expectedVbios : Str) : VbiosConsistent expectedVbios [] := by
  unfold VbiosConsistent
  split <;> simp

/-- A check returns the code OK. -/
def NvidiaCheck.Passes (entry : NvidiaCheck) : Prop := ∃ msg, entry.run = .ok (.OK, msg)

/-- A check that returns knows its code. -/
def NvidiaCheck.Known (entry : NvidiaCheck) : Prop := ∀ result, entry.run = .ok result → .OK ≤ result.1

end GpuTelemetry
