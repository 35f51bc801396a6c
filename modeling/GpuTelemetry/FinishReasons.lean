import GpuTelemetry.VllmMonitor

namespace GpuTelemetry

/-! ### Requests by the reason they finished

The numbers of requests are whole ones, which are not rounded. -/

/-- The reasons with a counter. -/
def finishReasons : Finset Str := {"stop".toList, "length".toList, "abort".toList}

/-- The series of the finished requests, by their reasons. -/
def finishedSeries (samples : MetricSamples ℚ) : List (MetricSample ℚ) :=
  samplesOf samples "vllm:request_success_total"

def reasonOf (sample : MetricSample ℚ) : Str := finishReason sample.1

/-- The series that are followed by another one with the same reason. -/
def replacedSeries (samples : MetricSamples ℚ) : List (MetricSample ℚ) :=
  overwritten reasonOf (finishedSeries samples)

theorem sumRounded_id (values : List ℚ) : sumRounded id values = values.sum := (List.sum_eq_foldl).symm

/-- The counters of the reasons are what stays of the series. -/
theorem requests_by_reason (samples : MetricSamples ℚ) :
    (readCounters id samples).requestStop + (readCounters id samples).requestLength +
        (readCounters id samples).requestAbort =
      ∑ reason ∈ finishReasons, (lastOf reasonOf Prod.snd (finishedSeries samples) reason).getD 0 := by
  have stop := readCounters_field id samples .requestStop
  have length := readCounters_field id samples .requestLength
  have aborted := readCounters_field id samples .requestAbort
  simp only [VllmCounter.field, VllmCounter.observe] at stop length aborted
  have distinct : "stop".toList ∉ ({"length".toList, "abort".toList} : Finset Str) ∧
      "length".toList ∉ ({"abort".toList} : Finset Str) := by decide
  rw [finishReasons, Finset.sum_insert distinct.1, Finset.sum_insert distinct.2, Finset.sum_singleton, stop, length,
    aborted, add_assoc]
  rfl

theorem requestSuccess_eq (samples : MetricSamples ℚ) :
    (readCounters id samples).requestSuccess = ((finishedSeries samples).map Prod.snd).sum := by
  have total := readCounters_field id samples .requestSuccess
  simp only [VllmCounter.field, VllmCounter.observe, summed_getD, sumRounded_id] at total
  exact total

/-- The counters of the reasons add up to that of all requests exactly when the
series replaced by a later one with the same reason add up to nothing. -/
theorem scrapeVllm_conserves_iff (readBound : Str → Option (WithTop ℚ)) (samples : MetricSamples ℚ)
    (prevCounters : Option CounterState) (intervalSeconds : ℚ)
    (known : ∀ sample ∈ finishedSeries samples, reasonOf sample ∈ finishReasons) :
    (scrapeVllm id readBound (some samples) prevCounters intervalSeconds).2.requestStop +
        (scrapeVllm id readBound (some samples) prevCounters intervalSeconds).2.requestLength +
        (scrapeVllm id readBound (some samples) prevCounters intervalSeconds).2.requestAbort =
        (scrapeVllm id readBound (some samples) prevCounters intervalSeconds).2.requestSuccess ↔
      ((replacedSeries samples).map Prod.snd).sum = 0 := by
  have total := sum_last_add_overwritten reasonOf Prod.snd known
  have counters : (scrapeVllm id readBound (some samples) prevCounters intervalSeconds).2 = readCounters id samples :=
    rfl
  rw [counters, requests_by_reason, requestSuccess_eq, ← total, left_eq_add]
  rfl

/-- Requests of one model, one series for each reason. -/
def oneModel : MetricSamples ℚ :=
  [("vllm:request_success_total".toList,
    [([("finished_reason".toList, "stop".toList)], 3), ([("finish_reason".toList, "length".toList)], 2)])]

theorem scrapeVllm_conserves_one :
    (scrapeVllm id (fun _ => none) (some oneModel) none 10).2.requestStop +
        (scrapeVllm id (fun _ => none) (some oneModel) none 10).2.requestLength +
        (scrapeVllm id (fun _ => none) (some oneModel) none 10).2.requestAbort =
      (scrapeVllm id (fun _ => none) (some oneModel) none 10).2.requestSuccess :=
  (scrapeVllm_conserves_iff (fun _ => none) oneModel none 10 (by decide)).mpr (by decide +kernel)

/-- Two models that finished requests for the same reason. -/
def twoModels : MetricSamples ℚ :=
  [("vllm:request_success_total".toList,
    [([("model_name".toList, "a".toList), ("finished_reason".toList, "stop".toList)], 3),
      ([("model_name".toList, "b".toList), ("finished_reason".toList, "stop".toList)], 4)])]

/-- Only the requests of the second model are counted as stopped. -/
theorem scrapeVllm_loses_model :
    (∀ sample ∈ finishedSeries twoModels, reasonOf sample ∈ finishReasons) ∧
      (scrapeVllm id (fun _ => none) (some twoModels) none 10).2.requestStop = 4 ∧
      (scrapeVllm id (fun _ => none) (some twoModels) none 10).2.requestLength = 0 ∧
      (scrapeVllm id (fun _ => none) (some twoModels) none 10).2.requestAbort = 0 ∧
      (scrapeVllm id (fun _ => none) (some twoModels) none 10).2.requestSuccess = 7 ∧
      (4 : ℚ) + 0 + 0 ≠ 7 := by
  decide +kernel

end GpuTelemetry
