import GpuTelemetry.HistogramQuantile
import Mathlib.Data.List.Dedup

namespace GpuTelemetry

/-! ### Histograms of several label sets -/

section

variable (readBound : Str → Option (WithTop ℚ))

/-- A bucket of a series: its bound, as it is written and as it is read, and its count. -/
structure SeriesBucket where
  boundText : Str
  bound : WithTop ℚ
  reads : readBound boundText = some bound
  cumulative : ℚ

/-- The histogram of one label set. -/
structure HistogramSeries where
  labels : Labels
  noBound : "le".toList ∉ labels.map Prod.fst
  buckets : List (SeriesBucket readBound)
  count : ℚ
  distinct : (buckets.map SeriesBucket.bound).Nodup
  infinite : ⊤ ∈ buckets.map SeriesBucket.bound
  rising : ∀ a ∈ buckets, ∀ b ∈ buckets, a.bound ≤ b.bound → a.cumulative ≤ b.cumulative
  counted : ∀ b ∈ buckets, b.cumulative ≤ count

end

variable {readBound : Str → Option (WithTop ℚ)}

def SeriesBucket.pair (b : SeriesBucket readBound) : WithTop ℚ × ℚ := (b.bound, b.cumulative)

def HistogramSeries.pairs (s : HistogramSeries readBound) : List (WithTop ℚ × ℚ) := s.buckets.map SeriesBucket.pair

/-- The samples of the buckets of a series. -/
def HistogramSeries.bucketSamples (s : HistogramSeries readBound) : List (MetricSample ℚ) :=
  s.buckets.map fun b => (s.labels ++ [("le".toList, b.boundText)], b.cumulative)

/-- The sample of the count of a series. -/
def HistogramSeries.countSample (s : HistogramSeries readBound) : MetricSample ℚ := (s.labels, s.count)

/-- The buckets of the sum over the label sets: what they count up to each bound. -/
def summedBuckets (series : List (HistogramSeries readBound)) : List (WithTop ℚ × ℚ) :=
  let pairs := series.flatMap HistogramSeries.pairs
  (pairs.map Prod.fst).dedup.map fun le => (le, ((pairs.filter fun pair => pair.1 = le).map Prod.snd).sum)

def summedCount (series : List (HistogramSeries readBound)) : ℚ := (series.map HistogramSeries.count).sum

/-- Buckets and a count describe one histogram, with the quantiles of the sum
over the label sets. -/
structure DescribesSum (series : List (HistogramSeries readBound)) (buckets : List (WithTop ℚ × ℚ)) (count : ℚ) :
    Prop where
  onePerBound : (buckets.map Prod.fst).Nodup
  rising : ∀ a ∈ buckets, ∀ b ∈ buckets, a.1 ≤ b.1 → a.2 ≤ b.2
  counted : ∀ b ∈ buckets, b.2 ≤ count
  quantiles : ∀ quantile,
    histogramQuantile buckets count quantile = histogramQuantile (summedBuckets series) (summedCount series) quantile

/-! ### What is extracted -/

theorem HistogramSeries.read_bucketSamples (s : HistogramSeries readBound) :
    s.bucketSamples.filterMap (fun sample =>
      (readBound ((dictGet sample.1 "le".toList).getD [])).map fun le => (le, sample.2)) = s.pairs := by
  unfold HistogramSeries.bucketSamples HistogramSeries.pairs
  induction s.buckets with
  | nil => rfl
  | cons b buckets ih =>
    have bound : dictGet (s.labels ++ [("le".toList, b.boundText)]) "le".toList = some b.boundText := by
      rw [dictGet_append, dictGet_eq_none s.noBound, dictGet_cons, if_pos rfl]
      rfl
    rw [List.map_cons, List.filterMap_cons, bound, Option.getD_some, b.reads, ih]
    rfl

/-- The buckets of all series are mixed. -/
theorem extractHistogram_buckets {samples : MetricSamples ℚ} {metricBase : String}
    {series : List (HistogramSeries readBound)}
    (inOrder : (samplesOf samples (metricBase ++ "_bucket")).Perm (series.flatMap HistogramSeries.bucketSamples)) :
    (extractHistogram readBound samples metricBase).1.Perm (series.flatMap HistogramSeries.pairs) := by
  have mixed := inOrder.filterMap fun sample =>
    (readBound ((dictGet sample.1 "le".toList).getD [])).map fun le => (le, sample.2)
  rw [List.filterMap_flatMap] at mixed
  simp only [HistogramSeries.read_bucketSamples] at mixed
  exact mixed

theorem HistogramSeries.pairs_bounds (s : HistogramSeries readBound) :
    s.pairs.map Prod.fst = s.buckets.map SeriesBucket.bound := by
  simp [HistogramSeries.pairs, SeriesBucket.pair]

/-- Under distinct keys, the entries with the key of an entry are that entry. -/
theorem filter_key {κ ν : Type} [DecidableEq κ] {entries : List (κ × ν)} (distinct : (entries.map Prod.fst).Nodup)
    {entry : κ × ν} (member : entry ∈ entries) : (entries.filter fun other => other.1 = entry.1) = [entry] := by
  induction entries with
  | nil => cases member
  | cons first entries ih =>
    rw [List.map_cons, List.nodup_cons] at distinct
    obtain ⟨absent, others⟩ := distinct
    rcases List.mem_cons.mp member with rfl | inOthers
    · have quiet : (entries.filter fun other => other.1 = entry.1) = [] := by
        refine List.filter_eq_nil_iff.mpr fun other inEntries same => absent ?_
        exact List.mem_map.mpr ⟨other, inEntries, of_decide_eq_true same⟩
      rw [List.filter_cons, if_pos (by simp), quiet]
    · have differs : ¬ first.1 = entry.1 := fun same => absent (same ▸ List.mem_map.mpr ⟨entry, inOthers, rfl⟩)
      rw [List.filter_cons, if_neg (by simpa using differs), ih others inOthers]

/-- The sum over one label set is its histogram. -/
theorem summedBuckets_one (s : HistogramSeries readBound) : summedBuckets [s] = s.pairs := by
  have distinct : (s.pairs.map Prod.fst).Nodup := s.pairs_bounds ▸ s.distinct
  have all : [s].flatMap HistogramSeries.pairs = s.pairs := by simp
  have each : ∀ pair ∈ s.pairs,
      (pair.1, ((s.pairs.filter fun other => other.1 = pair.1).map Prod.snd).sum) = pair := by
    intro pair member
    rw [filter_key distinct member]
    simp
  rw [summedBuckets, all, List.Nodup.dedup distinct, List.map_map]
  exact (List.map_congr_left each).trans (List.map_id _)

theorem extractHistogram_one {samples : MetricSamples ℚ} {metricBase : String} {s : HistogramSeries readBound}
    (counts : (samplesOf samples (metricBase ++ "_count")).Perm [s.countSample]) :
    (extractHistogram readBound samples metricBase).2 = s.count := by
  have single := List.perm_singleton.mp counts
  rw [extractHistogram, readFirst, single]
  rfl

/-- Two label sets have a bucket without a bound each. -/
theorem not_nodup_bounds (s t : HistogramSeries readBound) (series : List (HistogramSeries readBound)) :
    ¬ (((s :: t :: series).flatMap HistogramSeries.pairs).map Prod.fst).Nodup := by
  intro distinct
  rw [List.flatMap_cons, List.flatMap_cons, List.map_append, List.map_append, List.nodup_append] at distinct
  have inFirst : ⊤ ∈ s.pairs.map Prod.fst := s.pairs_bounds ▸ s.infinite
  have inSecond : ⊤ ∈ t.pairs.map Prod.fst := t.pairs_bounds ▸ t.infinite
  exact distinct.2.2 ⊤ inFirst ⊤ (List.mem_append_left _ inSecond) rfl

/-- What is extracted describes the histogram summed over the label sets exactly
when there is at most one label set. -/
theorem extractHistogram_describes_iff {samples : MetricSamples ℚ} {metricBase : String}
    {series : List (HistogramSeries readBound)}
    (bucketSamples : (samplesOf samples (metricBase ++ "_bucket")).Perm (series.flatMap HistogramSeries.bucketSamples))
    (countSamples : (samplesOf samples (metricBase ++ "_count")).Perm (series.map HistogramSeries.countSample)) :
    DescribesSum series (extractHistogram readBound samples metricBase).1
        (extractHistogram readBound samples metricBase).2 ↔ series.length ≤ 1 := by
  have mixed := extractHistogram_buckets bucketSamples
  match series with
  | [] =>
    have none : (extractHistogram readBound samples metricBase).1 = [] := List.perm_nil.mp mixed
    have zero : (extractHistogram readBound samples metricBase).2 = 0 := by
      rw [extractHistogram, readFirst, List.perm_nil.mp countSamples]
      rfl
    rw [none, zero]
    exact iff_of_true ⟨List.nodup_nil, by simp, by simp, fun _ => rfl⟩ (by simp)
  | [s] =>
    have pairs : (extractHistogram readBound samples metricBase).1.Perm s.pairs := by simpa using mixed
    rw [extractHistogram_one countSamples]
    refine iff_of_true ⟨?_, ?_, ?_, fun quantile => ?_⟩ (by simp)
    · exact (pairs.map Prod.fst).nodup_iff.mpr (s.pairs_bounds ▸ s.distinct)
    · intro a inA b inB le
      obtain ⟨a', inA', rfl⟩ := List.mem_map.mp (pairs.mem_iff.mp inA)
      obtain ⟨b', inB', rfl⟩ := List.mem_map.mp (pairs.mem_iff.mp inB)
      exact s.rising a' inA' b' inB' le
    · intro b inB
      obtain ⟨b', inB', rfl⟩ := List.mem_map.mp (pairs.mem_iff.mp inB)
      exact s.counted b' inB'
    · have total : summedCount [s] = s.count := by simp [summedCount]
      rw [summedBuckets_one, total, histogramQuantile_perm pairs]
  | s :: t :: series =>
    refine iff_of_false (fun describes => ?_) (by simp)
    exact not_nodup_bounds s t series ((mixed.map Prod.fst).nodup_iff.mp describes.onePerBound)

/-! ### Two models -/

/-- `float` on the bounds of the samples below. -/
def shortBound (text : Str) : Option (WithTop ℚ) :=
  if text = "+Inf".toList then some ⊤
  else if text = "1".toList then some ((1 : ℚ) : WithTop ℚ)
  else if text = "2".toList then some ((2 : ℚ) : WithTop ℚ)
  else none

/-- One request of the first model, below 1 second. -/
def firstModel : HistogramSeries shortBound where
  labels := [("model_name".toList, "a".toList)]
  noBound := by decide
  buckets := [⟨"1".toList, ((1 : ℚ) : WithTop ℚ), rfl, 1⟩, ⟨"2".toList, ((2 : ℚ) : WithTop ℚ), rfl, 1⟩,
    ⟨"+Inf".toList, ⊤, rfl, 1⟩]
  count := 1
  distinct := by decide +kernel
  infinite := by decide +kernel
  rising := by decide +kernel
  counted := by decide +kernel

/-- Nine requests of the second model, between 1 and 2 seconds. -/
def secondModel : HistogramSeries shortBound where
  labels := [("model_name".toList, "b".toList)]
  noBound := by decide
  buckets := [⟨"1".toList, ((1 : ℚ) : WithTop ℚ), rfl, 0⟩, ⟨"2".toList, ((2 : ℚ) : WithTop ℚ), rfl, 9⟩,
    ⟨"+Inf".toList, ⊤, rfl, 9⟩]
  count := 9
  distinct := by decide +kernel
  infinite := by decide +kernel
  rising := by decide +kernel
  counted := by decide +kernel

/-- The samples of a histogram as they are exposed. -/
def exposedHistogram (metricBase : String) (series : List (HistogramSeries shortBound)) : MetricSamples ℚ :=
  [((metricBase ++ "_bucket").toList, series.flatMap HistogramSeries.bucketSamples),
    ((metricBase ++ "_count").toList, series.map HistogramSeries.countSample)]

theorem extractHistogram_one_model :
    DescribesSum [firstModel] (extractHistogram shortBound (exposedHistogram "ttft" [firstModel]) "ttft").1
      (extractHistogram shortBound (exposedHistogram "ttft" [firstModel]) "ttft").2 :=
  (extractHistogram_describes_iff (.refl _) (.refl _)).mpr (by decide)

/-- The 99th percentile of ten requests is read off the one request of the first model. -/
theorem extractHistogram_two_models :
    samplesOf (exposedHistogram "ttft" [firstModel, secondModel]) "ttft_bucket" =
        [firstModel, secondModel].flatMap HistogramSeries.bucketSamples ∧
      samplesOf (exposedHistogram "ttft" [firstModel, secondModel]) "ttft_count" =
        [firstModel, secondModel].map HistogramSeries.countSample ∧
      quantileOf shortBound (exposedHistogram "ttft" [firstModel, secondModel]) "ttft" (99 / 100) = some 1 ∧
      histogramQuantile (summedBuckets [firstModel, secondModel]) (summedCount [firstModel, secondModel]) (99 / 100) =
        some (179 / 90) ∧
      ¬ DescribesSum [firstModel, secondModel]
        (extractHistogram shortBound (exposedHistogram "ttft" [firstModel, secondModel]) "ttft").1
        (extractHistogram shortBound (exposedHistogram "ttft" [firstModel, secondModel]) "ttft").2 := by
  refine ⟨by decide +kernel, by decide +kernel, by decide +kernel, by decide +kernel, fun describes => ?_⟩
  have one := describes.onePerBound
  revert one
  decide +kernel

end GpuTelemetry
