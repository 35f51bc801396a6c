import GpuTelemetry.SglangMonitor
import GpuTelemetry.TritonMonitor

namespace GpuTelemetry

/-- In a run of any of the three monitors, whatever the arithmetic rounds to,
the rates of a counter come from observed values and sum up to its change
exactly when every scrape is comparable with those before. -/
theorem counterRates_telescope_iff (round : ℚ → ℚ) (readBound : Str → Option (WithTop ℚ)) (run : List ScrapeInput) :
    (∀ counter : VllmCounter,
      let reading := (counter.toCounter round).read
      Telescopes (fun input prev => scrapeVllm round readBound input.1 prev input.2) round (counter.toCounter round)
          run ↔
        ∀ earlier i later, run = earlier ++ i :: later → Comparable round (earlier.map reading) (reading i)) ∧
      (∀ counter : SglangCounter,
        let reading := counter.toCounter.read
        Telescopes (fun input prev => scrapeSglang round readBound input.1 prev input.2) round counter.toCounter run ↔
          ∀ earlier i later, run = earlier ++ i :: later → Comparable round (earlier.map reading) (reading i)) ∧
      ∀ (key : ModelKey) (counter : TritonCounter),
        let reading := (counter.toCounter round key).read
        Telescopes (fun input prev => scrapeTriton round input.1 prev input.2) round (counter.toCounter round key) run ↔
          ∀ earlier i later, run = earlier ++ i :: later → Comparable round (earlier.map reading) (reading i) :=
  ⟨fun counter => (counter.follows round readBound).telescopes_iff run,
    fun counter => (counter.follows round readBound).telescopes_iff run,
    fun key counter => (counter.follows round key).telescopes_iff run⟩

/-- After a failed first scrape the counters that are then shown, 1000 here,
are compared with 0: each monitor reports a rate though there is only one
observed value. -/
theorem failedFirst_reportsRate :
    let vllm : List ScrapeInput := [(none, 30), (some [("vllm:prompt_tokens_total".toList, [([], 1000)])], 30)]
    let sglang : List ScrapeInput := [(none, 30), (some [("sglang:prompt_tokens_total".toList, [([], 1000)])], 30)]
    let triton : List ScrapeInput :=
      [(none, 30), (some [("nv_inference_request_success".toList, [([("model".toList, "m".toList)], 1000)])], 30)]
    let vllmCounter := VllmCounter.promptTokens.toCounter binary64
    let sglangCounter := SglangCounter.promptTokens.toCounter
    let tritonCounter := TritonCounter.requestSuccess.toCounter binary64 ("m".toList, "1".toList)
    (observed (vllm.map vllmCounter.read) = [1000] ∧
        ¬ Telescopes (fun input prev => scrapeVllm binary64 (fun _ => none) input.1 prev input.2) binary64
          vllmCounter vllm) ∧
      (observed (sglang.map sglangCounter.read) = [1000] ∧
        ¬ Telescopes (fun input prev => scrapeSglang binary64 (fun _ => none) input.1 prev input.2) binary64
          sglangCounter sglang) ∧
      observed (triton.map tritonCounter.read) = [1000] ∧
        ¬ Telescopes (fun input prev => scrapeTriton binary64 input.1 prev input.2) binary64 tritonCounter triton := by
  refine ⟨⟨by decide +kernel, fun telescopes => ?_⟩, ⟨by decide +kernel, fun telescopes => ?_⟩, by decide +kernel,
    fun telescopes => ?_⟩
  · obtain ⟨first, second, atLast, -⟩ :=
      (telescopes.each [_] _ [] rfl).fromObserved (4691249611844267 / 140737488355328) (by decide +kernel)
    cases atLast
  · obtain ⟨first, second, atLast, -⟩ :=
      (telescopes.each [_] _ [] rfl).fromObserved (4691249611844267 / 140737488355328) (by decide +kernel)
    cases atLast
  · obtain ⟨first, second, atLast, -⟩ :=
      (telescopes.each [_] _ [] rfl).fromObserved (4691249611844267 / 140737488355328) (by decide +kernel)
    cases atLast

end GpuTelemetry
