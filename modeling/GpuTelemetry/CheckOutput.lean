import GpuTelemetry.Dicts
import GpuTelemetry.RunningProcs

namespace GpuTelemetry

/-- `d[key]`. -/
def dictItem {ν : Type} (d : List (Str × ν)) (key : Str) : Except PyError ν :=
  match dictGet d key with
  | some value => .ok value
  | none => .error (.keyError ("'".toList ++ key ++ "'".toList))

theorem dictItem_returns {ν : Type} {d : List (Str × ν)} {key : Str} (present : key ∈ d.map Prod.fst) :
    ∃ value, dictItem d key = .ok value := by
  obtain ⟨value, found⟩ := exists_dictGet present
  exact ⟨value, by rw [dictItem, found]⟩

theorem dictItem_of_mem {ν : Type} {d : List (Str × ν)} (distinct : (d.map Prod.fst).Nodup) {key : Str} {value : ν}
    (member : (key, value) ∈ d) : dictItem d key = .ok value := by
  rw [dictItem, dictGet_of_mem distinct member]

/-- The value of a metric. -/
inductive MetricValue
  | number (value : Int)
  | text (value : Str)
  deriving DecidableEq

/-- `Metric`. -/
structure CheckMetric where
  name : Str
  value : MetricValue
  units : Str
  metricWarn : Option Str
  metricCrit : Option Str
  metricMax : Option Str
  metricMin : Option Str
  deriving DecidableEq

/-- `Metric(name, value)`. -/
def CheckMetric.plain (name : Str) (value : MetricValue) : CheckMetric := ⟨name, value, [], none, none, none, none⟩

structure CheckOutput where
  checkName : Str
  checkStatus : ExitCode
  shortOut : Str
  longOut : List Str
  shortMetrics : List CheckMetric
  longMetrics : List (List CheckMetric)
  deriving DecidableEq

/-- A value that may be absent, in a text. -/
def formatOptional (value : Option Str) : Str := value.getD "None".toList

/-- `CheckOutput(check_name)`. -/
def CheckOutput.named (checkName : Str) : CheckOutput := ⟨checkName, .UNKNOWN, [], [], [], []⟩

end GpuTelemetry
