import GpuTelemetry.VllmMonitor

namespace GpuTelemetry

structure SglangMetrics where
  sglangPromptTokensPerSec : Option ℚ
  sglangGenerationTokensPerSec : Option ℚ
  sglangCacheHitRate : Option ℚ
  sglangItlP50 : Option ℚ
  sglangItlP95 : Option ℚ
  sglangTtftP50 : Option ℚ
  sglangTtftP95 : Option ℚ
  sglangE2eLatencyP50 : Option ℚ
  sglangE2eLatencyP95 : Option ℚ
  sglangE2eLatencyP99 : Option ℚ
  sglangRequestsRunning : Option Int
  sglangRequestsWaiting : Option Int
  modelName : Option Str

/-- `SGLangMetrics()`. -/
def SglangMetrics.empty : SglangMetrics where
  sglangPromptTokensPerSec := none
  sglangGenerationTokensPerSec := none
  sglangCacheHitRate := none
  sglangItlP50 := none
  sglangItlP95 := none
  sglangTtftP50 := none
  sglangTtftP95 := none
  sglangE2eLatencyP50 := none
  sglangE2eLatencyP95 := none
  sglangE2eLatencyP99 := none
  sglangRequestsRunning := none
  sglangRequestsWaiting := none
  modelName := none

structure SglangState where
  promptTokens : ℚ
  generationTokens : ℚ

/-- `_empty_state`. -/
def sglangEmptyState : SglangState := ⟨0, 0⟩

/-- `_rate`, the same as for vLLM. -/
def sglangRate (round : ℚ → ℚ) (current prev : Option ℚ) (interval : ℚ) : Option ℚ :=
  counterRate round current prev interval

/-- The samples under names without colons; of two names that become the same
the later one stays. -/
def normalizeNames (samples : MetricSamples ℚ) : MetricSamples ℚ :=
  dictUpdate [] (samples.map fun (name, values) => (name.map fun c => if c = ':' then '_' else c, values))

/-- The model name on the first sample of the running requests, or where that
metric is missing on the first sample of the prompt tokens. -/
def sglangModelName (samples : MetricSamples ℚ) : Option Str :=
  let named := (dictGet samples "sglang_num_running_reqs".toList).getD (samplesOf samples "sglang_prompt_tokens_total")
  match named.head? with
  | some (labels, _) =>
    ((dictGet labels "model_name".toList).filter fun name => name ≠ []).or
      ((dictGet labels "model".toList).filter fun name => name ≠ [])
  | none => none

/-- The counters of a scrape, those that are not shown as 0. -/
def readSglangState (samples : MetricSamples ℚ) : SglangState where
  promptTokens := (readFirst samples "sglang_prompt_tokens_total").getD 0
  generationTokens := (readFirst samples "sglang_generation_tokens_total").getD 0

/-- What does not depend on an earlier scrape. -/
def readSglangMetrics (readBound : Str → Option (WithTop ℚ)) (samples : MetricSamples ℚ) : SglangMetrics :=
  let quantile := quantileOf readBound samples
  { SglangMetrics.empty with
    sglangCacheHitRate := readFirst samples "sglang_cache_hit_rate"
    sglangRequestsRunning := (readFirst samples "sglang_num_running_reqs").map pyTrunc
    sglangRequestsWaiting :=
      ((readFirst samples "sglang_num_queue_reqs").or (readFirst samples "sglang_num_waiting_reqs")).map pyTrunc
    modelName := sglangModelName samples
    sglangItlP50 := quantile "sglang_time_per_output_token_seconds" (1 / 2)
    sglangItlP95 := quantile "sglang_time_per_output_token_seconds" (95 / 100)
    sglangTtftP50 := quantile "sglang_time_to_first_token_seconds" (1 / 2)
    sglangTtftP95 := quantile "sglang_time_to_first_token_seconds" (95 / 100)
    sglangE2eLatencyP50 := quantile "sglang_e2e_request_latency_seconds" (1 / 2)
    sglangE2eLatencyP95 := quantile "sglang_e2e_request_latency_seconds" (95 / 100)
    sglangE2eLatencyP99 := quantile "sglang_e2e_request_latency_seconds" (99 / 100) }

/-- `scrape_sglang`, on what `prometheus.scrape` returns, or nothing when it raises. -/
def scrapeSglang (round : ℚ → ℚ) (readBound : Str → Option (WithTop ℚ)) (scraped : Option (MetricSamples ℚ))
    (prevState : Option SglangState) (intervalSeconds : ℚ) : SglangMetrics × SglangState :=
  match scraped with
  | none => (.empty, prevState.getD sglangEmptyState)
  | some samples =>
    let samples := normalizeNames samples
    let metrics := readSglangMetrics readBound samples
    let cs := readSglangState samples
    (match prevState with
      | none => metrics
      | some prev =>
        { metrics with
          sglangPromptTokensPerSec := sglangRate round (some cs.promptTokens) (some prev.promptTokens) intervalSeconds
          sglangGenerationTokensPerSec :=
            sglangRate round (some cs.generationTokens) (some prev.generationTokens) intervalSeconds }, cs)

/-! ### Its counters -/

inductive SglangCounter
  | promptTokens
  | generationTokens

/-- The value of a counter that the samples show. -/
def SglangCounter.observe (samples : MetricSamples ℚ) : SglangCounter → Option ℚ
  | .promptTokens => readFirst (normalizeNames samples) "sglang_prompt_tokens_total"
  | .generationTokens => readFirst (normalizeNames samples) "sglang_generation_tokens_total"

def SglangCounter.rate (metrics : SglangMetrics) : SglangCounter → Option ℚ
  | .promptTokens => metrics.sglangPromptTokensPerSec
  | .generationTokens => metrics.sglangGenerationTokensPerSec

def SglangCounter.field (cs : SglangState) : SglangCounter → ℚ
  | .promptTokens => cs.promptTokens
  | .generationTokens => cs.generationTokens

theorem readSglangState_field (samples : MetricSamples ℚ) (counter : SglangCounter) :
    counter.field (readSglangState (normalizeNames samples)) = (counter.observe samples).getD 0 := by
  cases counter <;> rfl

/-- A counter of the monitor. -/
def SglangCounter.toCounter (counter : SglangCounter) : Counter ScrapeInput SglangState SglangMetrics ℚ where
  read := readingOf fun samples => counter.observe samples
  rate metrics := counter.rate metrics
  stored cs := counter.field cs

/-- The monitor treats both counters alike. -/
theorem SglangCounter.follows (round : ℚ → ℚ) (readBound : Str → Option (WithTop ℚ)) (counter : SglangCounter) :
    FollowsCounter (fun (input : ScrapeInput) prev => scrapeSglang round readBound input.1 prev input.2) round
      counter.toCounter := by
  refine followsCounter_of_counterRate round (scrapeSglang round readBound) _ _ _ (fun prev interval => ?_)
    (fun samples _ _ => readSglangState_field samples counter) fun samples prev interval => ?_
  · cases prev <;> cases counter <;> exact ⟨rfl, rfl⟩
  · cases prev <;> cases counter <;> rfl

end GpuTelemetry
