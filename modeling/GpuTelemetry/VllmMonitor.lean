import GpuTelemetry.CounterRates
import GpuTelemetry.LastWrite
import GpuTelemetry.Prometheus

namespace GpuTelemetry

structure VllmMetrics where
  promptTokensPerSec : Option ℚ
  generationTokensPerSec : Option ℚ
  e2eLatencyP50 : Option ℚ
  e2eLatencyP95 : Option ℚ
  e2eLatencyP99 : Option ℚ
  ttftP50 : Option ℚ
  ttftP95 : Option ℚ
  gpuCacheUsage : Option ℚ
  cpuCacheUsage : Option ℚ
  requestsRunning : Option Int
  requestsWaiting : Option Int
  requestsSwapped : Option Int
  itlP50 : Option ℚ
  itlP95 : Option ℚ
  itlP99 : Option ℚ
  prefillDurationP50 : Option ℚ
  prefillDurationP95 : Option ℚ
  decodeDurationP50 : Option ℚ
  decodeDurationP95 : Option ℚ
  cacheHitRate : Option ℚ
  cacheEvictionsPerSec : Option ℚ
  specDecodeAcceptanceRate : Option ℚ
  specDecodeEfficiency : Option ℚ
  requestsSuccessPerSec : Option ℚ
  requestsFinishedStopPerSec : Option ℚ
  requestsFinishedLengthPerSec : Option ℚ
  requestsFinishedAbortPerSec : Option ℚ
  preemptionsPerSec : Option ℚ
  loraActiveCount : Option Int
  modelName : Option Str

/-- `VllmMetrics()`. -/
def VllmMetrics.empty : VllmMetrics where
  promptTokensPerSec := none
  generationTokensPerSec := none
  e2eLatencyP50 := none
  e2eLatencyP95 := none
  e2eLatencyP99 := none
  ttftP50 := none
  ttftP95 := none
  gpuCacheUsage := none
  cpuCacheUsage := none
  requestsRunning := none
  requestsWaiting := none
  requestsSwapped := none
  itlP50 := none
  itlP95 := none
  itlP99 := none
  prefillDurationP50 := none
  prefillDurationP95 := none
  decodeDurationP50 := none
  decodeDurationP95 := none
  cacheHitRate := none
  cacheEvictionsPerSec := none
  specDecodeAcceptanceRate := none
  specDecodeEfficiency := none
  requestsSuccessPerSec := none
  requestsFinishedStopPerSec := none
  requestsFinishedLengthPerSec := none
  requestsFinishedAbortPerSec := none
  preemptionsPerSec := none
  loraActiveCount := none
  modelName := none

/-- The counters that a scrape leaves for the next one. The dictionary of the
source has these keys in every state that a scrape returns. -/
structure CounterState where
  promptTokens : ℚ
  generationTokens : ℚ
  prefixCacheHits : ℚ
  prefixCacheQueries : ℚ
  specAccepted : ℚ
  specDraft : ℚ
  specDrafts : ℚ
  preemptions : ℚ
  requestSuccess : ℚ
  requestStop : ℚ
  requestLength : ℚ
  requestAbort : ℚ
  cacheEvictions : ℚ

def emptyCounterState : CounterState := ⟨0, 0, 0, 0, 0, 0, 0, 0, 0, 0, 0, 0, 0⟩

def readCounter (samples : MetricSamples ℚ) (name : String) : Option ℚ := readFirst samples name

def readGauge (samples : MetricSamples ℚ) (name : String) : Option ℚ := readFirst samples name

/-! The results of additions, subtractions and divisions of counters are
rounded as the numbers of the interpreter are; the quantiles are exact here. -/

def counterRate (round : ℚ → ℚ) (current prev : Option ℚ) (interval : ℚ) : Option ℚ :=
  match current, prev with
  | some current, some prev =>
    if interval ≤ 0 then none
    else
      let delta := round (current - prev)
      if delta < 0 then none else some (round (delta / interval))
  | _, _ => none

def counterRatio (round : ℚ → ℚ) (numeratorCurrent numeratorPrev denominatorCurrent denominatorPrev : Option ℚ) :
    Option ℚ :=
  match numeratorCurrent, numeratorPrev, denominatorCurrent, denominatorPrev with
  | some numeratorCurrent, some numeratorPrev, some denominatorCurrent, some denominatorPrev =>
    let numDelta := round (numeratorCurrent - numeratorPrev)
    let denDelta := round (denominatorCurrent - denominatorPrev)
    if denDelta ≤ 0 ∨ numDelta < 0 then none else some (min 1 (round (numDelta / denDelta)))
  | _, _, _, _ => none

/-- The reason label of a finished request, under its two names. -/
def finishReason (labels : Labels) : Str :=
  (dictGet labels "finished_reason".toList).getD ((dictGet labels "finish_reason".toList).getD [])

/-- One round of the loop over the successful requests. -/
def addRequestSuccess (round : ℚ → ℚ) (cs : CounterState) (sample : MetricSample ℚ) : CounterState :=
  let (labels, value) := sample
  let cs :=
    if finishReason labels = "stop".toList then { cs with requestStop := value }
    else if finishReason labels = "length".toList then { cs with requestLength := value }
    else if finishReason labels = "abort".toList then { cs with requestAbort := value }
    else cs
  { cs with requestSuccess := round (cs.requestSuccess + value) }

/-- The counters of a scrape, those that are not shown as 0. -/
def readCounters (round : ℚ → ℚ) (samples : MetricSamples ℚ) : CounterState :=
  (samplesOf samples "vllm:request_success_total").foldl (addRequestSuccess round)
    { emptyCounterState with
      promptTokens := (readCounter samples "vllm:prompt_tokens_total").getD 0
      generationTokens := (readCounter samples "vllm:generation_tokens_total").getD 0
      prefixCacheHits := (readCounter samples "vllm:prefix_cache_hits_total").getD 0
      prefixCacheQueries := (readCounter samples "vllm:prefix_cache_queries_total").getD 0
      cacheEvictions := (readCounter samples "vllm:prefix_cache_evictions_total").getD 0
      specAccepted := (readCounter samples "vllm:spec_decode_num_accepted_tokens_total").getD 0
      specDraft := (readCounter samples "vllm:spec_decode_num_draft_tokens_total").getD 0
      specDrafts := (readCounter samples "vllm:spec_decode_num_drafts").getD 0
      preemptions := (readCounter samples "vllm:num_preemptions_total").getD 0 }

/-- What is set from the counters when there are earlier ones. -/
def addCounterRates (round : ℚ → ℚ) (samples : MetricSamples ℚ) (cs prev : CounterState) (interval : ℚ)
    (metrics : VllmMetrics) : VllmMetrics :=
  let rate (field : CounterState → ℚ) := counterRate round (some (field cs)) (some (field prev)) interval
  let ratio (numerator denominator : CounterState → ℚ) :=
    counterRatio round (some (numerator cs)) (some (numerator prev)) (some (denominator cs)) (some (denominator prev))
  let acceptedDelta := round (cs.specAccepted - prev.specAccepted)
  let draftsDelta := round (cs.specDrafts - prev.specDrafts)
  { metrics with
    promptTokensPerSec := rate CounterState.promptTokens
    generationTokensPerSec := rate CounterState.generationTokens
    cacheHitRate := (ratio CounterState.prefixCacheHits CounterState.prefixCacheQueries).or
      (readGauge samples "vllm:gpu_prefix_cache_hit_rate")
    cacheEvictionsPerSec := rate CounterState.cacheEvictions
    specDecodeAcceptanceRate := ratio CounterState.specAccepted CounterState.specDraft
    specDecodeEfficiency :=
      if 0 < draftsDelta ∧ 0 ≤ acceptedDelta then some (round (1 + round (acceptedDelta / draftsDelta))) else none
    preemptionsPerSec := rate CounterState.preemptions
    requestsSuccessPerSec := rate CounterState.requestSuccess
    requestsFinishedStopPerSec := rate CounterState.requestStop
    requestsFinishedLengthPerSec := rate CounterState.requestLength
    requestsFinishedAbortPerSec := rate CounterState.requestAbort }

/-- The model name on the first sample of the running requests. -/
def vllmModelName (samples : MetricSamples ℚ) : Option Str :=
  match (samplesOf samples "vllm:num_requests_running").head? with
  | some (labels, _) => (dictGet labels "model_name".toList).filter fun name => name ≠ []
  | none => none

/-- What does not depend on an earlier scrape. -/
def readVllmMetrics (readBound : Str → Option (WithTop ℚ)) (samples : MetricSamples ℚ) : VllmMetrics :=
  let quantile := quantileOf readBound samples
  { VllmMetrics.empty with
    modelName := vllmModelName samples
    requestsRunning := (readFirst samples "vllm:num_requests_running").map pyTrunc
    requestsWaiting := (readFirst samples "vllm:num_requests_waiting").map pyTrunc
    requestsSwapped := (readFirst samples "vllm:num_requests_swapped").map pyTrunc
    gpuCacheUsage :=
      (((dictGet samples "vllm:gpu_cache_usage_perc".toList).getD
        (samplesOf samples "vllm:kv_cache_usage_perc")).head?).map Prod.snd
    cpuCacheUsage := readFirst samples "vllm:cpu_cache_usage_perc"
    e2eLatencyP50 := quantile "vllm:e2e_request_latency_seconds" (1 / 2)
    e2eLatencyP95 := quantile "vllm:e2e_request_latency_seconds" (95 / 100)
    e2eLatencyP99 := quantile "vllm:e2e_request_latency_seconds" (99 / 100)
    ttftP50 := quantile "vllm:time_to_first_token_seconds" (1 / 2)
    ttftP95 := quantile "vllm:time_to_first_token_seconds" (95 / 100)
    itlP50 := quantile "vllm:time_per_output_token_seconds" (1 / 2)
    itlP95 := quantile "vllm:time_per_output_token_seconds" (95 / 100)
    itlP99 := quantile "vllm:time_per_output_token_seconds" (99 / 100)
    prefillDurationP50 := quantile "vllm:request_prefill_time_seconds" (1 / 2)
    prefillDurationP95 := quantile "vllm:request_prefill_time_seconds" (95 / 100)
    decodeDurationP50 := quantile "vllm:request_decode_time_seconds" (1 / 2)
    decodeDurationP95 := quantile "vllm:request_decode_time_seconds" (95 / 100)
    loraActiveCount := (readFirst samples "vllm:lora_requests_running").map pyTrunc }

/-- `scrape_vllm`, on what `prometheus.scrape` returns, or nothing when it raises. -/
def scrapeVllm (round : ℚ → ℚ) (readBound : Str → Option (WithTop ℚ)) (scraped : Option (MetricSamples ℚ))
    (prevCounters : Option CounterState) (intervalSeconds : ℚ) : VllmMetrics × CounterState :=
  match scraped with
  | none => (.empty, prevCounters.getD emptyCounterState)
  | some samples =>
    let cs := readCounters round samples
    let metrics := readVllmMetrics readBound samples
    (match prevCounters with
      | none => metrics
      | some prev => addCounterRates round samples cs prev intervalSeconds metrics, cs)

/-! ### Its counters -/

/-- The counters whose rates are reported. -/
inductive VllmCounter
  | promptTokens
  | generationTokens
  | cacheEvictions
  | preemptions
  | requestSuccess
  | requestStop
  | requestLength
  | requestAbort

/-- The last value with a reason. -/
def lastFinished (samples : MetricSamples ℚ) (reason : String) : Option ℚ :=
  ((samplesOf samples "vllm:request_success_total").filterMap fun sample =>
    if finishReason sample.1 = reason.toList then some sample.2 else none).getLast?

/-- The sum of the values, if there are any. -/
def summed (round : ℚ → ℚ) (values : List ℚ) : Option ℚ := if values = [] then none else some (sumRounded round values)

/-- The value of a counter that the samples show. -/
def VllmCounter.observe (round : ℚ → ℚ) (samples : MetricSamples ℚ) : VllmCounter → Option ℚ
  | .promptTokens => readCounter samples "vllm:prompt_tokens_total"
  | .generationTokens => readCounter samples "vllm:generation_tokens_total"
  | .cacheEvictions => readCounter samples "vllm:prefix_cache_evictions_total"
  | .preemptions => readCounter samples "vllm:num_preemptions_total"
  | .requestSuccess => summed round ((samplesOf samples "vllm:request_success_total").map Prod.snd)
  | .requestStop => lastFinished samples "stop"
  | .requestLength => lastFinished samples "length"
  | .requestAbort => lastFinished samples "abort"

def VllmCounter.rate (metrics : VllmMetrics) : VllmCounter → Option ℚ
  | .promptTokens => metrics.promptTokensPerSec
  | .generationTokens => metrics.generationTokensPerSec
  | .cacheEvictions => metrics.cacheEvictionsPerSec
  | .preemptions => metrics.preemptionsPerSec
  | .requestSuccess => metrics.requestsSuccessPerSec
  | .requestStop => metrics.requestsFinishedStopPerSec
  | .requestLength => metrics.requestsFinishedLengthPerSec
  | .requestAbort => metrics.requestsFinishedAbortPerSec

def VllmCounter.field (cs : CounterState) : VllmCounter → ℚ
  | .promptTokens => cs.promptTokens
  | .generationTokens => cs.generationTokens
  | .cacheEvictions => cs.cacheEvictions
  | .preemptions => cs.preemptions
  | .requestSuccess => cs.requestSuccess
  | .requestStop => cs.requestStop
  | .requestLength => cs.requestLength
  | .requestAbort => cs.requestAbort

/-- A scrape and the length of its interval. -/
abbrev ScrapeInput := Option (MetricSamples ℚ) × ℚ

/-- What a scrape tells of a counter that every report has. -/
def readingOf (observe : MetricSamples ℚ → Option ℚ) (input : ScrapeInput) : Scrape ℚ :=
  ⟨match input.1 with
    | none => .failed
    | some samples => .read (observe samples), input.2⟩

theorem counterRate_eq (round : ℚ → ℚ) (value : Option ℚ) (prev interval : ℚ) :
    counterRate round (some (value.getD 0)) (some prev) interval =
      rateOf round (some prev) ⟨.read value, interval⟩ := by
  simp only [counterRate, rateOf, perSecond]
  by_cases positive : interval ≤ 0
  · rw [if_pos positive, if_pos (.inr positive)]
  · rw [if_neg positive]
    by_cases reset : round (value.getD 0 - prev) < 0
    · rw [if_pos reset, if_pos (.inl reset)]
    · rw [if_neg reset, if_neg (not_or.mpr ⟨reset, positive⟩)]

/-- A monitor follows a counter if it takes the rate of what it stores now and
stored before, and stores what it read, or after a failed scrape what it had. -/
theorem followsCounter_of_counterRate {State Metrics : Type} (round : ℚ → ℚ)
    (scrape : Option (MetricSamples ℚ) → Option State → ℚ → Metrics × State) (observe : MetricSamples ℚ → Option ℚ)
    (rate : Metrics → Option ℚ) (stored : State → ℚ)
    (failed : ∀ prev interval, rate (scrape none prev interval).1 = none ∧
      stored (scrape none prev interval).2 = (prev.map stored).getD 0)
    (read : ∀ samples prev interval, stored (scrape (some samples) prev interval).2 = (observe samples).getD 0)
    (compared : ∀ samples prev interval, rate (scrape (some samples) prev interval).1 =
      counterRate round (some (stored (scrape (some samples) prev interval).2)) (prev.map stored) interval) :
    FollowsCounter (fun (input : ScrapeInput) prev => scrape input.1 prev input.2) round
      ⟨readingOf observe, rate, stored⟩ where
  rate_eq input prev := by
    obtain ⟨scraped, interval⟩ := input
    cases scraped with
    | none => exact (failed prev interval).1
    | some samples =>
      have rates := compared samples prev interval
      rw [read] at rates
      refine rates.trans ?_
      cases prev with
      | none => rfl
      | some prev => exact counterRate_eq round (observe samples) (stored prev) interval
  stored_eq input prev := by
    obtain ⟨scraped, interval⟩ := input
    cases scraped with
    | none => exact congrArg some (failed prev interval).2
    | some samples => exact congrArg some (read samples prev interval)

theorem summed_getD (round : ℚ → ℚ) (values : List ℚ) : (summed round values).getD 0 = sumRounded round values := by
  unfold summed
  split
  · rename_i none
    rw [none]
    rfl
  · rfl

/-- What one round of the loop over the successful requests sets. -/
theorem addRequestSuccess_fields (round : ℚ → ℚ) (cs : CounterState) (labels : Labels) (value : ℚ) :
    (addRequestSuccess round cs (labels, value)).requestSuccess = round (cs.requestSuccess + value) ∧
      (addRequestSuccess round cs (labels, value)).requestStop =
        (if finishReason labels = "stop".toList then some value else none).getD cs.requestStop ∧
      (addRequestSuccess round cs (labels, value)).requestLength =
        (if finishReason labels = "length".toList then some value else none).getD cs.requestLength ∧
      (addRequestSuccess round cs (labels, value)).requestAbort =
        (if finishReason labels = "abort".toList then some value else none).getD cs.requestAbort := by
  have distinct : "stop".toList ≠ "length".toList ∧ "stop".toList ≠ "abort".toList ∧
      "length".toList ≠ "abort".toList := by decide
  obtain ⟨stopLength, stopAbort, lengthAbort⟩ := distinct
  by_cases stop : finishReason labels = "stop".toList
  · have step : addRequestSuccess round cs (labels, value) =
        { cs with requestStop := value, requestSuccess := round (cs.requestSuccess + value) } := by
      simp only [addRequestSuccess, if_pos stop]
    rw [step, stop, if_pos rfl, if_neg stopLength, if_neg stopAbort]
    exact ⟨rfl, rfl, rfl, rfl⟩
  · rw [if_neg stop]
    by_cases length : finishReason labels = "length".toList
    · have step : addRequestSuccess round cs (labels, value) =
          { cs with requestLength := value, requestSuccess := round (cs.requestSuccess + value) } := by
        simp only [addRequestSuccess, if_neg stop, if_pos length]
      rw [step, length, if_pos rfl, if_neg lengthAbort]
      exact ⟨rfl, rfl, rfl, rfl⟩
    · rw [if_neg length]
      by_cases aborted : finishReason labels = "abort".toList
      · have step : addRequestSuccess round cs (labels, value) =
            { cs with requestAbort := value, requestSuccess := round (cs.requestSuccess + value) } := by
          simp only [addRequestSuccess, if_neg stop, if_neg length, if_pos aborted]
        rw [step, if_pos aborted]
        exact ⟨rfl, rfl, rfl, rfl⟩
      · have step : addRequestSuccess round cs (labels, value) =
            { cs with requestSuccess := round (cs.requestSuccess + value) } := by
          simp only [addRequestSuccess, if_neg stop, if_neg length, if_neg aborted]
        rw [step, if_neg aborted]
        exact ⟨rfl, rfl, rfl, rfl⟩

theorem addRequestSuccess_others (round : ℚ → ℚ) (cs : CounterState) (sample : MetricSample ℚ) :
    (addRequestSuccess round cs sample).promptTokens = cs.promptTokens ∧
      (addRequestSuccess round cs sample).generationTokens = cs.generationTokens ∧
      (addRequestSuccess round cs sample).cacheEvictions = cs.cacheEvictions ∧
      (addRequestSuccess round cs sample).preemptions = cs.preemptions := by
  unfold addRequestSuccess
  dsimp only
  split
  · exact ⟨rfl, rfl, rfl, rfl⟩
  · split
    · exact ⟨rfl, rfl, rfl, rfl⟩
    · split <;> exact ⟨rfl, rfl, rfl, rfl⟩

/-- Every counter that is read is the observed value, or 0. -/
theorem readCounters_field (round : ℚ → ℚ) (samples : MetricSamples ℚ) (counter : VllmCounter) :
    counter.field (readCounters round samples) = (counter.observe round samples).getD 0 := by
  have kept : ∀ (field : CounterState → ℚ), (∀ cs sample, field (addRequestSuccess round cs sample) = field cs) →
      ∀ (requests : List (MetricSample ℚ)) (cs : CounterState),
        field (requests.foldl (addRequestSuccess round) cs) = field cs := by
    intro field same requests
    induction requests with
    | nil => exact fun _ => rfl
    | cons sample requests ih => exact fun cs => (ih _).trans (same cs sample)
  have added : ∀ (requests : List (MetricSample ℚ)) (cs : CounterState),
      (requests.foldl (addRequestSuccess round) cs).requestSuccess =
        (requests.map Prod.snd).foldl (fun total value => round (total + value)) cs.requestSuccess := by
    intro requests
    induction requests with
    | nil => exact fun cs => rfl
    | cons sample requests ih =>
      intro cs
      rw [List.foldl_cons, ih, (addRequestSuccess_fields round cs sample.1 sample.2).1, List.map_cons, List.foldl_cons]
  cases counter with
  | promptTokens => exact kept _ (fun cs sample => (addRequestSuccess_others round cs sample).1) _ _
  | generationTokens => exact kept _ (fun cs sample => (addRequestSuccess_others round cs sample).2.1) _ _
  | cacheEvictions => exact kept _ (fun cs sample => (addRequestSuccess_others round cs sample).2.2.1) _ _
  | preemptions => exact kept _ (fun cs sample => (addRequestSuccess_others round cs sample).2.2.2) _ _
  | requestSuccess =>
    refine (added _ _).trans ?_
    rw [VllmCounter.observe, summed_getD]
    rfl
  | requestStop =>
    exact foldl_last (g := CounterState.requestStop)
      (fun cs (sample : MetricSample ℚ) _ => (addRequestSuccess_fields round cs sample.1 sample.2).2.1) _
  | requestLength =>
    exact foldl_last (g := CounterState.requestLength)
      (fun cs (sample : MetricSample ℚ) _ => (addRequestSuccess_fields round cs sample.1 sample.2).2.2.1) _
  | requestAbort =>
    exact foldl_last (g := CounterState.requestAbort)
      (fun cs (sample : MetricSample ℚ) _ => (addRequestSuccess_fields round cs sample.1 sample.2).2.2.2) _

/-- A counter of the monitor. -/
def VllmCounter.toCounter (round : ℚ → ℚ) (counter : VllmCounter) :
    Counter ScrapeInput CounterState VllmMetrics ℚ where
  read := readingOf fun samples => counter.observe round samples
  rate metrics := counter.rate metrics
  stored cs := counter.field cs

/-- The monitor treats its counters alike. -/
theorem VllmCounter.follows (round : ℚ → ℚ) (readBound : Str → Option (WithTop ℚ)) (counter : VllmCounter) :
    FollowsCounter (fun (input : ScrapeInput) prev => scrapeVllm round readBound input.1 prev input.2) round
      (counter.toCounter round) := by
  refine followsCounter_of_counterRate round (scrapeVllm round readBound) _ _ _ (fun prev interval => ?_)
    (fun samples _ _ => readCounters_field round samples counter) fun samples prev interval => ?_
  · cases prev <;> cases counter <;> exact ⟨rfl, rfl⟩
  · cases prev <;> cases counter <;> rfl

end GpuTelemetry
