import GpuTelemetry.Dicts
import GpuTelemetry.Text
import Mathlib.Algebra.Order.Ring.Rat
import Mathlib.Data.List.Sort
import Mathlib.Order.WithBot

namespace GpuTelemetry

abbrev Labels := List (Str × Str)

/-- The labels and the value of a sample. -/
abbrev MetricSample (F : Type) := Labels × F

/-- The samples by metric name, in the order of the names. -/
abbrev MetricSamples (F : Type) := List (Str × List (MetricSample F))

/-- `samples.get(name, [])`. -/
def samplesOf {F : Type} (samples : MetricSamples F) (name : String) : List (MetricSample F) :=
  (dictGet samples name.toList).getD []

/-- The value of the first sample. -/
def readFirst {F : Type} (samples : MetricSamples F) (name : String) : Option F :=
  ((samplesOf samples name).head?).map Prod.snd

/-- `int` of a float: towards zero. -/
def pyTrunc (value : ℚ) : Int := if value < 0 then -(-value).floor else value.floor

/-! ### Histograms -/

/-- The buckets of a histogram and its total count. `readBound` is `float` on
the text of a bound. -/
def extractHistogram (readBound : Str → Option (WithTop ℚ)) (samples : MetricSamples ℚ) (metricBase : String) :
    List (WithTop ℚ × ℚ) × ℚ :=
  ((samplesOf samples (metricBase ++ "_bucket")).filterMap fun sample =>
      (readBound ((dictGet sample.1 "le".toList).getD [])).map fun le => (le, sample.2),
    (readFirst samples (metricBase ++ "_count")).getD 0)

/-- The loop of `histogram_quantile`, with the bucket before. -/
def quantileLoop (target : ℚ) : ℚ → ℚ → List (ℚ × ℚ) → Option ℚ
  | _, _, [] => none
  | prevLe, prevCount, (le, cumCount) :: finite =>
    if target ≤ cumCount then
      if cumCount = prevCount then some prevLe
      else some (prevLe + (le - prevLe) * (target - prevCount) / (cumCount - prevCount))
    else quantileLoop target le cumCount finite

/-- The order of pairs. -/
def pairLe (a b : ℚ × ℚ) : Bool := decide (a.1 < b.1 ∨ a.1 = b.1 ∧ a.2 ≤ b.2)

def histogramQuantile (buckets : List (WithTop ℚ × ℚ)) (count quantile : ℚ) : Option ℚ :=
  if count = 0 then none
  else
    let finite := (buckets.filterMap fun bucket => match bucket.1 with
      | ⊤ => none
      | (le : ℚ) => some (le, bucket.2)).insertionSort fun a b => pairLe a b = true
    match finite.getLast? with
    | none => none
    | some largest => (quantileLoop (quantile * count) 0 0 finite).or (some largest.1)

/-- A quantile of a histogram in the samples, if it has buckets. -/
def quantileOf (readBound : Str → Option (WithTop ℚ)) (samples : MetricSamples ℚ) (metricBase : String)
    (quantile : ℚ) : Option ℚ :=
  let (buckets, count) := extractHistogram readBound samples metricBase
  if buckets = [] then none else histogramQuantile buckets count quantile

end GpuTelemetry
