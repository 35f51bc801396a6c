/-! The name tables of the exporters. -/

namespace GpuTelemetry

def fieldToOtelName : List (String × String) := [
  ("gpu_util", "gpu.utilization"), ("mem_util", "gpu.memory.utilization"),
  ("mem_used_percent", "gpu.memory.used.percent"), ("temperature", "gpu.temperature"),
  ("power_draw", "gpu.power.draw"), ("power_used_percent", "gpu.power.utilization"),
  ("retired_pages_count_single_bit", "gpu.row_remap.count"),
  ("retired_pages_count_double_bit", "gpu.row_remap.count"),
  ("xgmi_link_bandwidth", "gpu.interconnect.throughput"), ("ecc_per_block", "gpu.ecc.errors"),
  ("junction_temperature", "gpu.temperature"), ("hbm_temperature", "gpu.temperature"),
  ("network_rx_bandwidth", "gpu.interconnect.throughput"),
  ("network_tx_bandwidth", "gpu.interconnect.throughput"), ("rows_replaced", "gpu.row_remap.count"),
  ("rows_pending", "gpu.row_remap.pending"), ("mem_used_bytes", "gpu.memory.used"),
  ("mem_total_bytes", "gpu.memory.total"), ("mem_free_bytes", "gpu.memory.free"),
  ("clock_graphics_mhz", "gpu.clock.frequency"), ("clock_memory_mhz", "gpu.clock.frequency"),
  ("nvlink_tx_bandwidth", "gpu.interconnect.throughput"), ("nvlink_rx_bandwidth", "gpu.interconnect.throughput"),
  ("ecc_errors_volatile_correctable", "gpu.ecc.errors"), ("ecc_errors_volatile_uncorrectable", "gpu.ecc.errors"),
  ("throttle_reason", "gpu.throttle.reason"), ("power_state", "gpu.power.state"),
  ("pcie_rx_bytes", "gpu.pcie.throughput"), ("pcie_tx_bytes", "gpu.pcie.throughput"),
  ("fan_speed_percent", "gpu.fan.speed"), ("enc_util", "gpu.encode.utilization"),
  ("dec_util", "gpu.decode.utilization"), ("xid_errors", "gpu.xid.errors"),
  ("pcie_replay_count", "gpu.pcie.replay.count"), ("total_energy_mj", "gpu.energy.consumption"),
  ("throttle_power_software", "gpu.throttle.reason"), ("throttle_temp_hardware", "gpu.throttle.reason"),
  ("throttle_temp_software", "gpu.throttle.reason"), ("throttle_syncboost", "gpu.throttle.reason"),
  ("sm_active", "gpu.sm.active"), ("dram_active", "gpu.dram.active"),
  ("gr_engine_active", "gpu.gr_engine.active"), ("tensor_active", "gpu.pipe.tensor.active"),
  ("fp64_active", "gpu.pipe.fp64.active"), ("fp32_active", "gpu.pipe.fp32.active"),
  ("fp16_active", "gpu.pipe.fp16.active"), ("sm_occupancy", "gpu.sm.occupancy"),
  ("nvlink_tx_bytes", "gpu.interconnect.throughput"), ("nvlink_rx_bytes", "gpu.interconnect.throughput"),
  ("prof_pcie_tx_bytes", "gpu.pcie.throughput"), ("prof_pcie_rx_bytes", "gpu.pcie.throughput"),
  ("prompt_tokens_per_sec", "vllm.prompt.throughput"),
  ("generation_tokens_per_sec", "vllm.generation.throughput"), ("e2e_latency_p50", "vllm.request.latency"),
  ("e2e_latency_p95", "vllm.request.latency"), ("e2e_latency_p99", "vllm.request.latency"),
  ("ttft_p50", "vllm.ttft"), ("ttft_p95", "vllm.ttft"), ("gpu_cache_usage", "vllm.cache.usage"),
  ("cpu_cache_usage", "vllm.cache.usage"), ("requests_running", "vllm.requests.running"),
  ("requests_waiting", "vllm.requests.waiting"), ("requests_swapped", "vllm.requests.swapped"),
  ("itl_p50", "vllm.itl"), ("itl_p95", "vllm.itl"), ("itl_p99", "vllm.itl"),
  ("prefill_duration_p50", "vllm.prefill.duration"), ("prefill_duration_p95", "vllm.prefill.duration"),
  ("decode_duration_p50", "vllm.decode.duration"), ("decode_duration_p95", "vllm.decode.duration"),
  ("cache_hit_rate", "vllm.cache.hit_rate"), ("cache_evictions_per_sec", "vllm.cache.evictions"),
  ("spec_decode_acceptance_rate", "vllm.spec_decode.acceptance_rate"),
  ("spec_decode_efficiency", "vllm.spec_decode.efficiency"),
  ("requests_success_per_sec", "vllm.requests.success"),
  ("requests_finished_stop_per_sec", "vllm.requests.finished"),
  ("requests_finished_length_per_sec", "vllm.requests.finished"),
  ("requests_finished_abort_per_sec", "vllm.requests.finished"),
  ("preemptions_per_sec", "vllm.scheduler.preemptions"), ("lora_active_count", "vllm.lora.active_count"),
  ("requests_total", "nim.requests.total"), ("requests_failed", "nim.requests.failed"),
  ("request_latency_p50", "nim.request.latency"), ("request_latency_p99", "nim.request.latency"),
  ("batch_size_avg", "nim.batch.size"), ("queue_depth", "nim.queue.depth"),
  ("kv_cache_usage", "nim.kv_cache.usage"), ("nim_itl_p50", "nim.itl"), ("nim_itl_p95", "nim.itl"),
  ("mem_unified_used_bytes", "gpu.memory.unified.used"), ("mem_unified_total_bytes", "gpu.memory.unified.total"),
  ("mfu", "training.mfu"), ("tflops", "training.tflops"), ("step_time", "training.step_time"),
  ("gradient_norm", "training.gradient.norm"), ("gradient_nan_count", "training.gradient.nan_count"),
  ("gradient_clip_rate", "training.gradient.clip_rate"), ("training_loss", "training.loss"),
  ("dataloader_wait", "training.dataloader.wait"),
  ("checkpoint_save_duration", "training.checkpoint.save_duration"),
  ("checkpoint_save_bandwidth", "training.checkpoint.save_bandwidth"),
  ("checkpoint_restore_duration", "training.checkpoint.restore_duration"),
  ("bandwidth_bytes_per_sec", "nccl.collective.bandwidth"),
  ("bus_bandwidth_bytes_per_sec", "nccl.collective.bus_bandwidth"), ("duration_us", "nccl.collective.duration"),
  ("message_size_bytes", "nccl.collective.message_size"), ("is_straggler", "nccl.rank.straggler"),
  ("cost_per_gpu_hour", "gpu.cost.per_gpu_hour"), ("cost_rate_per_sec", "gpu.cost.rate"),
  ("cost_per_prompt_token", "gpu.cost.per_prompt_token"),
  ("cost_per_generation_token", "gpu.cost.per_generation_token"),
  ("tokens_per_watt", "gpu.efficiency.tokens_per_watt"), ("joules_per_token", "gpu.efficiency.joules_per_token"),
  ("is_idle", "gpu.idle"), ("idle_cost_rate_per_sec", "gpu.cost.idle_rate"),
  ("co2_grams_per_kwh", "gpu.energy.co2_intensity"), ("co2_rate_grams_per_sec", "gpu.energy.co2_rate"),
  ("xid_last_error_code", "gpu.xid.last_error_code"), ("xid_error_rate", "gpu.xid.error_rate"),
  ("ecc_sbe_rate", "gpu.ecc.sbe_rate"), ("ecc_dbe_total", "gpu.ecc.dbe_total"),
  ("row_remap_available", "gpu.row_remap.available"), ("pcie_link_gen_current", "gpu.pcie.link.gen.current"),
  ("pcie_link_width_current", "gpu.pcie.link.width.current"),
  ("pcie_link_downtraining", "gpu.pcie.link.downtraining"), ("thermal_ramp_rate", "gpu.thermal.ramp_rate"),
  ("health_score", "gpu.health.score"), ("triton_requests_success_per_sec", "triton.requests.success"),
  ("triton_requests_failed_per_sec", "triton.requests.failed"),
  ("triton_avg_request_latency_us", "triton.request.latency"),
  ("triton_avg_queue_latency_us", "triton.queue.latency"),
  ("triton_avg_compute_input_latency_us", "triton.compute.input_latency"),
  ("triton_avg_compute_infer_latency_us", "triton.compute.latency"),
  ("triton_avg_compute_output_latency_us", "triton.compute.output_latency"),
  ("triton_queue_depth", "triton.queue.depth"), ("triton_avg_batch_size", "triton.batch.size"),
  ("sglang_prompt_tokens_per_sec", "sglang.prompt.throughput"),
  ("sglang_generation_tokens_per_sec", "sglang.generation.throughput"),
  ("sglang_cache_hit_rate", "sglang.cache.hit_rate"), ("sglang_itl_p50", "sglang.itl"),
  ("sglang_itl_p95", "sglang.itl"), ("sglang_ttft_p50", "sglang.ttft"), ("sglang_ttft_p95", "sglang.ttft"),
  ("sglang_e2e_latency_p50", "sglang.request.latency"), ("sglang_e2e_latency_p95", "sglang.request.latency"),
  ("sglang_e2e_latency_p99", "sglang.request.latency"), ("sglang_requests_running", "sglang.requests.running"),
  ("sglang_requests_waiting", "sglang.requests.waiting"), ("tgi_request_latency_p50", "tgi.request.latency"),
  ("tgi_request_latency_p95", "tgi.request.latency"), ("tgi_request_latency_p99", "tgi.request.latency"),
  ("tgi_queue_latency_p50", "tgi.queue.latency"), ("tgi_queue_latency_p95", "tgi.queue.latency"),
  ("tgi_inference_latency_p50", "tgi.inference.latency"), ("tgi_inference_latency_p95", "tgi.inference.latency"),
  ("tgi_tpot_p50", "tgi.tpot"), ("tgi_tpot_p95", "tgi.tpot"), ("tgi_batch_size_p50", "tgi.batch.size"),
  ("tgi_batch_size_p95", "tgi.batch.size"), ("tgi_batch_forward_duration_p50", "tgi.batch.forward_duration"),
  ("tgi_batch_forward_duration_p95", "tgi.batch.forward_duration"),
  ("tgi_input_tokens_p50", "tgi.request.input_tokens"), ("tgi_input_tokens_p95", "tgi.request.input_tokens"),
  ("tgi_output_tokens_p50", "tgi.request.output_tokens"), ("tgi_output_tokens_p95", "tgi.request.output_tokens"),
  ("max_gpu_util", "gpu.utilization.max"), ("min_gpu_util", "gpu.utilization.min"),
  ("avg_gpu_util", "gpu.utilization.avg"), ("ram_util", "host.memory.utilization")]

def fieldDataPointAttributes : List (String × List (String × String)) := [
  ("temperature", [("gpu.temperature.sensor", "edge")]),
  ("junction_temperature", [("gpu.temperature.sensor", "hotspot")]),
  ("hbm_temperature", [("gpu.temperature.sensor", "memory")]),
  ("retired_pages_count_single_bit", [("gpu.ecc.error_type", "correctable")]),
  ("retired_pages_count_double_bit", [("gpu.ecc.error_type", "uncorrectable")]),
  ("gpu_util", [("gpu.task.type", "compute")]), ("mem_util", [("gpu.task.type", "memory_controller")]),
  ("network_rx_bandwidth", [("gpu.interconnect.direction", "receive")]),
  ("network_tx_bandwidth", [("gpu.interconnect.direction", "transmit")]),
  ("xgmi_link_bandwidth", [("gpu.interconnect.type", "xgmi")]),
  ("rows_replaced", [("gpu.row_remap.state", "replaced")]),
  ("rows_pending", [("gpu.row_remap.state", "pending")]),
  ("clock_graphics_mhz", [("gpu.clock.type", "graphics")]), ("clock_memory_mhz", [("gpu.clock.type", "memory")]),
  ("nvlink_tx_bandwidth", [("gpu.interconnect.type", "nvlink"), ("gpu.interconnect.direction", "transmit")]),
  ("nvlink_rx_bandwidth", [("gpu.interconnect.type", "nvlink"), ("gpu.interconnect.direction", "receive")]),
  ("ecc_errors_volatile_correctable", [("gpu.ecc.error_type", "correctable"), ("gpu.ecc.count_type", "volatile")]),
  ("ecc_errors_volatile_uncorrectable", [("gpu.ecc.error_type", "uncorrectable"), ("gpu.ecc.count_type", "volatile")]),
  ("pcie_rx_bytes", [("gpu.interconnect.type", "pcie"), ("gpu.interconnect.direction", "receive")]),
  ("pcie_tx_bytes", [("gpu.interconnect.type", "pcie"), ("gpu.interconnect.direction", "transmit")]),
  ("enc_util", [("gpu.task.type", "encoder")]), ("dec_util", [("gpu.task.type", "decoder")]),
  ("throttle_power_software", [("gpu.throttle.cause", "power_software")]),
  ("throttle_temp_hardware", [("gpu.throttle.cause", "temp_hardware")]),
  ("throttle_temp_software", [("gpu.throttle.cause", "temp_software")]),
  ("throttle_syncboost", [("gpu.throttle.cause", "syncboost")]),
  ("nvlink_tx_bytes", [("gpu.interconnect.type", "nvlink"), ("gpu.interconnect.direction", "transmit"),
    ("gpu.interconnect.source", "dcgm_profiling")]),
  ("nvlink_rx_bytes", [("gpu.interconnect.type", "nvlink"), ("gpu.interconnect.direction", "receive"),
    ("gpu.interconnect.source", "dcgm_profiling")]),
  ("prof_pcie_tx_bytes", [("gpu.interconnect.type", "pcie"), ("gpu.interconnect.direction", "transmit"),
    ("gpu.interconnect.source", "dcgm_profiling")]),
  ("prof_pcie_rx_bytes", [("gpu.interconnect.type", "pcie"), ("gpu.interconnect.direction", "receive"),
    ("gpu.interconnect.source", "dcgm_profiling")]),
  ("e2e_latency_p50", [("quantile", "p50")]), ("e2e_latency_p95", [("quantile", "p95")]),
  ("e2e_latency_p99", [("quantile", "p99")]), ("ttft_p50", [("quantile", "p50")]),
  ("ttft_p95", [("quantile", "p95")]), ("gpu_cache_usage", [("cache.type", "gpu")]),
  ("cpu_cache_usage", [("cache.type", "cpu")]), ("itl_p50", [("quantile", "p50")]),
  ("itl_p95", [("quantile", "p95")]), ("itl_p99", [("quantile", "p99")]),
  ("prefill_duration_p50", [("quantile", "p50")]), ("prefill_duration_p95", [("quantile", "p95")]),
  ("decode_duration_p50", [("quantile", "p50")]), ("decode_duration_p95", [("quantile", "p95")]),
  ("requests_finished_stop_per_sec", [("finish_reason", "stop")]),
  ("requests_finished_length_per_sec", [("finish_reason", "length")]),
  ("requests_finished_abort_per_sec", [("finish_reason", "abort")]),
  ("request_latency_p50", [("quantile", "p50")]), ("request_latency_p99", [("quantile", "p99")]),
  ("nim_itl_p50", [("quantile", "p50")]), ("nim_itl_p95", [("quantile", "p95")]),
  ("sglang_itl_p50", [("quantile", "p50")]), ("sglang_itl_p95", [("quantile", "p95")]),
  ("sglang_ttft_p50", [("quantile", "p50")]), ("sglang_ttft_p95", [("quantile", "p95")]),
  ("sglang_e2e_latency_p50", [("quantile", "p50")]), ("sglang_e2e_latency_p95", [("quantile", "p95")]),
  ("sglang_e2e_latency_p99", [("quantile", "p99")]), ("tgi_request_latency_p50", [("quantile", "p50")]),
  ("tgi_request_latency_p95", [("quantile", "p95")]), ("tgi_request_latency_p99", [("quantile", "p99")]),
  ("tgi_queue_latency_p50", [("quantile", "p50")]), ("tgi_queue_latency_p95", [("quantile", "p95")]),
  ("tgi_inference_latency_p50", [("quantile", "p50")]), ("tgi_inference_latency_p95", [("quantile", "p95")]),
  ("tgi_tpot_p50", [("quantile", "p50")]), ("tgi_tpot_p95", [("quantile", "p95")]),
  ("tgi_batch_size_p50", [("quantile", "p50")]), ("tgi_batch_size_p95", [("quantile", "p95")]),
  ("tgi_batch_forward_duration_p50", [("quantile", "p50")]),
  ("tgi_batch_forward_duration_p95", [("quantile", "p95")]), ("tgi_input_tokens_p50", [("quantile", "p50")]),
  ("tgi_input_tokens_p95", [("quantile", "p95")]), ("tgi_output_tokens_p50", [("quantile", "p50")]),
  ("tgi_output_tokens_p95", [("quantile", "p95")])]

def fieldToGenaiName : List (String × String) := [
  ("prompt_tokens_per_sec", "gen_ai.client.token.usage"),
  ("generation_tokens_per_sec", "gen_ai.client.token.usage"),
  ("sglang_prompt_tokens_per_sec", "gen_ai.client.token.usage"),
  ("sglang_generation_tokens_per_sec", "gen_ai.client.token.usage"),
  ("e2e_latency_p50", "gen_ai.server.request.duration"), ("e2e_latency_p95", "gen_ai.server.request.duration"),
  ("e2e_latency_p99", "gen_ai.server.request.duration"),
  ("sglang_e2e_latency_p50", "gen_ai.server.request.duration"),
  ("sglang_e2e_latency_p95", "gen_ai.server.request.duration"),
  ("sglang_e2e_latency_p99", "gen_ai.server.request.duration"),
  ("tgi_request_latency_p50", "gen_ai.server.request.duration"),
  ("tgi_request_latency_p95", "gen_ai.server.request.duration"),
  ("tgi_request_latency_p99", "gen_ai.server.request.duration"),
  ("ttft_p50", "gen_ai.server.time_to_first_token"), ("ttft_p95", "gen_ai.server.time_to_first_token"),
  ("sglang_ttft_p50", "gen_ai.server.time_to_first_token"),
  ("sglang_ttft_p95", "gen_ai.server.time_to_first_token"), ("itl_p50", "gen_ai.server.time_per_output_token"),
  ("itl_p95", "gen_ai.server.time_per_output_token"), ("itl_p99", "gen_ai.server.time_per_output_token"),
  ("sglang_itl_p50", "gen_ai.server.time_per_output_token"),
  ("sglang_itl_p95", "gen_ai.server.time_per_output_token"),
  ("tgi_tpot_p50", "gen_ai.server.time_per_output_token"),
  ("tgi_tpot_p95", "gen_ai.server.time_per_output_token"),
  ("gpu_cache_usage", "gen_ai.server.cache.utilization"), ("cpu_cache_usage", "gen_ai.server.cache.utilization"),
  ("cache_hit_rate", "gen_ai.server.cache.hit_rate"), ("sglang_cache_hit_rate", "gen_ai.server.cache.hit_rate")]

def genaiDataPointAttributes : List (String × List (String × String)) := [
  ("prompt_tokens_per_sec", [("gen_ai.token.type", "input")]),
  ("generation_tokens_per_sec", [("gen_ai.token.type", "output")]),
  ("sglang_prompt_tokens_per_sec", [("gen_ai.token.type", "input")]),
  ("sglang_generation_tokens_per_sec", [("gen_ai.token.type", "output")]),
  ("e2e_latency_p50", [("quantile", "p50")]), ("e2e_latency_p95", [("quantile", "p95")]),
  ("e2e_latency_p99", [("quantile", "p99")]), ("sglang_e2e_latency_p50", [("quantile", "p50")]),
  ("sglang_e2e_latency_p95", [("quantile", "p95")]), ("sglang_e2e_latency_p99", [("quantile", "p99")]),
  ("tgi_request_latency_p50", [("quantile", "p50")]), ("tgi_request_latency_p95", [("quantile", "p95")]),
  ("tgi_request_latency_p99", [("quantile", "p99")]), ("ttft_p50", [("quantile", "p50")]),
  ("ttft_p95", [("quantile", "p95")]), ("sglang_ttft_p50", [("quantile", "p50")]),
  ("sglang_ttft_p95", [("quantile", "p95")]), ("itl_p50", [("quantile", "p50")]),
  ("itl_p95", [("quantile", "p95")]), ("itl_p99", [("quantile", "p99")]),
  ("sglang_itl_p50", [("quantile", "p50")]), ("sglang_itl_p95", [("quantile", "p95")]),
  ("tgi_tpot_p50", [("quantile", "p50")]), ("tgi_tpot_p95", [("quantile", "p95")]),
  ("gpu_cache_usage", [("gen_ai.cache.type", "gpu")]), ("cpu_cache_usage", [("gen_ai.cache.type", "cpu")])]

/-- The canonical name of a field, `gpu.<field>` when it has none. -/
def getOtelName (fieldName : String) : String := (fieldToOtelName.lookup fieldName).getD ("gpu." ++ fieldName)

def getDataPointAttributes (fieldName : String) : List (String × String) :=
  (fieldDataPointAttributes.lookup fieldName).getD []

end GpuTelemetry
