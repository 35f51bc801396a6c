import GpuTelemetry.VllmMonitor

namespace GpuTelemetry

/-- Name and version of a model. -/
abbrev ModelKey := Str × Str

/-- `_COUNTER_FIELDS`. -/
inductive TritonField
  | requestSuccess
  | requestFailure
  | requestDurationUs
  | queueDurationUs
  | computeInputDurationUs
  | computeInferDurationUs
  | computeOutputDurationUs
  | execCount
  | inferenceCount
  deriving DecidableEq

abbrev CounterSnapshot := TritonField → ℚ

abbrev TritonCounterState := List (ModelKey × CounterSnapshot)

structure TritonMetrics where
  modelName : Str
  modelVersion : Str
  tritonRequestsSuccessPerSec : Option ℚ
  tritonRequestsFailedPerSec : Option ℚ
  tritonAvgRequestLatencyUs : Option ℚ
  tritonAvgQueueLatencyUs : Option ℚ
  tritonAvgComputeInputLatencyUs : Option ℚ
  tritonAvgComputeInferLatencyUs : Option ℚ
  tritonAvgComputeOutputLatencyUs : Option ℚ
  tritonQueueDepth : Option Int
  tritonAvgBatchSize : Option ℚ

def emptySnapshot : CounterSnapshot := fun _ => 0

/-- `_rate`. -/
def tritonRate (round : ℚ → ℚ) (current prev interval : ℚ) : Option ℚ :=
  let delta := round (current - prev)
  if delta < 0 ∨ interval ≤ 0 then none else some (round (delta / interval))

def latencyAvg (round : ℚ → ℚ) (durationCurrent durationPrev requestsCurrent requestsPrev : ℚ) : Option ℚ :=
  let durDelta := round (durationCurrent - durationPrev)
  let reqDelta := round (requestsCurrent - requestsPrev)
  if reqDelta ≤ 0 ∨ durDelta < 0 then none else some (round (durDelta / reqDelta))

/-- The model of a sample. -/
def modelKey (labels : Labels) : ModelKey :=
  ((dictGet labels "model".toList).getD [], (dictGet labels "version".toList).getD "1".toList)

/-- The metric that a field sums up. -/
def TritonField.metricName : TritonField → String
  | .requestSuccess => "nv_inference_request_success"
  | .requestFailure => "nv_inference_request_failure"
  | .requestDurationUs => "nv_inference_request_duration_us"
  | .queueDurationUs => "nv_inference_queue_duration_us"
  | .computeInputDurationUs => "nv_inference_compute_input_duration_us"
  | .computeInferDurationUs => "nv_inference_compute_infer_duration_us"
  | .computeOutputDurationUs => "nv_inference_compute_output_duration_us"
  | .execCount => "nv_inference_exec_count"
  | .inferenceCount => "nv_inference_count"

/-- The fields in the order in which they are added. -/
def counterFields : List TritonField :=
  [.requestSuccess, .requestFailure, .requestDurationUs, .queueDurationUs, .computeInputDurationUs,
    .computeInferDurationUs, .computeOutputDurationUs, .execCount, .inferenceCount]

/-- One round of the loop of `_add`. -/
def addSample (round : ℚ → ℚ) (field : TritonField) (state : TritonCounterState) (sample : MetricSample ℚ) :
    TritonCounterState :=
  dictModify (modelKey sample.1) (fun snap =>
    let snap := snap.getD emptySnapshot
    Function.update snap field (round (snap field + sample.2))) state

/-- `_add`. -/
def addMetric (round : ℚ → ℚ) (samples : MetricSamples ℚ) (state : TritonCounterState) (field : TritonField) :
    TritonCounterState :=
  (samplesOf samples field.metricName).foldl (addSample round field) state

/-- The counters of a scrape, by model. -/
def readTritonState (round : ℚ → ℚ) (samples : MetricSamples ℚ) : TritonCounterState :=
  counterFields.foldl (addMetric round samples) []

def queueDepths (samples : MetricSamples ℚ) : List (ModelKey × Int) :=
  (samplesOf samples "nv_inference_pending_request_count").foldl (fun depths sample =>
    dictSet (modelKey sample.1) (pyTrunc sample.2) depths) []

/-- The metrics of one model. -/
def tritonMetrics (round : ℚ → ℚ) (samples : MetricSamples ℚ) (prevState : Option TritonCounterState)
    (intervalSeconds : ℚ) (key : ModelKey) (snap : CounterSnapshot) : TritonMetrics :=
  let prev := (dictGet (prevState.getD []) key).getD emptySnapshot
  let metrics : TritonMetrics :=
    { modelName := key.1
      modelVersion := key.2
      tritonRequestsSuccessPerSec := none
      tritonRequestsFailedPerSec := none
      tritonAvgRequestLatencyUs := none
      tritonAvgQueueLatencyUs := none
      tritonAvgComputeInputLatencyUs := none
      tritonAvgComputeInferLatencyUs := none
      tritonAvgComputeOutputLatencyUs := none
      tritonQueueDepth := dictGet (queueDepths samples) key
      tritonAvgBatchSize := none }
  match prevState with
  | none => metrics
  | some _ =>
    let average (duration : TritonField) :=
      latencyAvg round (snap duration) (prev duration) (snap .requestSuccess) (prev .requestSuccess)
    let inferDelta := round (snap .inferenceCount - prev .inferenceCount)
    let execDelta := round (snap .execCount - prev .execCount)
    { metrics with
      tritonRequestsSuccessPerSec := tritonRate round (snap .requestSuccess) (prev .requestSuccess) intervalSeconds
      tritonRequestsFailedPerSec := tritonRate round (snap .requestFailure) (prev .requestFailure) intervalSeconds
      tritonAvgRequestLatencyUs := average .requestDurationUs
      tritonAvgQueueLatencyUs := average .queueDurationUs
      tritonAvgComputeInputLatencyUs := average .computeInputDurationUs
      tritonAvgComputeInferLatencyUs := average .computeInferDurationUs
      tritonAvgComputeOutputLatencyUs := average .computeOutputDurationUs
      tritonAvgBatchSize := if 0 < execDelta ∧ 0 ≤ inferDelta then some (round (inferDelta / execDelta)) else none }

/-- `scrape_triton`, on what `prometheus.scrape` returns, or nothing when it raises. -/
def scrapeTriton (round : ℚ → ℚ) (scraped : Option (MetricSamples ℚ)) (prevState : Option TritonCounterState)
    (intervalSeconds : ℚ) : List TritonMetrics × TritonCounterState :=
  match scraped with
  | none => ([], prevState.getD [])
  | some samples =>
    let currentState := readTritonState round samples
    (currentState.map fun (key, snap) => tritonMetrics round samples prevState intervalSeconds key snap, currentState)

/-! ### Its counters -/

/-- The counters whose rates are reported. -/
inductive TritonCounter
  | requestSuccess
  | requestFailure

def TritonCounter.field : TritonCounter → TritonField
  | .requestSuccess => .requestSuccess
  | .requestFailure => .requestFailure

/-- The rate in the report on a model. -/
def TritonCounter.rate (key : ModelKey) (counter : TritonCounter) (reports : List TritonMetrics) : Option ℚ :=
  (reports.find? fun metrics => (metrics.modelName, metrics.modelVersion) = key).bind fun metrics =>
    match counter with
    | .requestSuccess => metrics.tritonRequestsSuccessPerSec
    | .requestFailure => metrics.tritonRequestsFailedPerSec

/-- The values that the samples show for a model. -/
def modelValues (samples : MetricSamples ℚ) (field : TritonField) (key : ModelKey) : List ℚ :=
  ((samplesOf samples field.metricName).filter fun sample => modelKey sample.1 = key).map Prod.snd

/-- What a scrape tells of a counter of a model; there is no report on a model
that none of the metrics has. -/
def tritonReading (round : ℚ → ℚ) (key : ModelKey) (counter : TritonCounter) (input : ScrapeInput) : Scrape ℚ :=
  ⟨match input.1 with
    | none => .failed
    | some samples =>
      if ∀ field ∈ counterFields, modelValues samples field key = [] then .absent
      else .read (summed round (modelValues samples counter.field key)), input.2⟩

/-- The snapshot of a model, empty where there is none. -/
def snapshotOf (state : TritonCounterState) (key : ModelKey) : CounterSnapshot :=
  (dictGet state key).getD emptySnapshot

theorem dictGet_addSample (round : ℚ → ℚ) (field : TritonField) (state : TritonCounterState) (sample : MetricSample ℚ)
    (key : ModelKey) :
    dictGet (addSample round field state sample) key =
      if modelKey sample.1 = key then
        some (Function.update (snapshotOf state key) field (round (snapshotOf state key field + sample.2)))
      else dictGet state key := by
  rw [addSample, dictGet, lookup_dictModify]
  by_cases same : modelKey sample.1 = key
  · subst same
    rw [if_pos rfl, if_pos rfl]
    rfl
  · rw [if_neg (Ne.symm same), if_neg same]
    rfl

/-- What one metric adds to the snapshot of a model. -/
theorem snapshotOf_addMetric (round : ℚ → ℚ) (samples : MetricSamples ℚ) (state : TritonCounterState)
    (field f : TritonField) (key : ModelKey) :
    snapshotOf (addMetric round samples state field) key f =
      if field = f then
        (modelValues samples f key).foldl (fun total value => round (total + value)) (snapshotOf state key f)
      else snapshotOf state key f := by
  have general : ∀ (items : List (MetricSample ℚ)) (state : TritonCounterState),
      snapshotOf (items.foldl (addSample round field) state) key f =
        if field = f then ((items.filter fun sample => modelKey sample.1 = key).map Prod.snd).foldl
          (fun total value => round (total + value)) (snapshotOf state key f)
        else snapshotOf state key f := by
    intro items
    induction items with
    | nil => exact fun state => (ite_self _).symm
    | cons sample items ih =>
      intro state
      rw [List.foldl_cons, ih, snapshotOf, dictGet_addSample]
      by_cases same : modelKey sample.1 = key
      · rw [if_pos same, Option.getD_some, List.filter_cons_of_pos (by simpa using same), List.map_cons,
          List.foldl_cons]
        by_cases here : field = f
        · subst here
          rw [Function.update_self, if_pos rfl, if_pos rfl]
        · rw [Function.update_of_ne (Ne.symm here), if_neg here, if_neg here]
      · rw [if_neg same, List.filter_cons_of_neg (by simpa using same)]
        rfl
  rw [addMetric, general, modelValues]
  by_cases here : field = f
  · rw [here]
  · rw [if_neg here, if_neg here]

/-- Every field of a snapshot is the sum of the values of its metric. -/
theorem snapshotOf_readTritonState (round : ℚ → ℚ) (samples : MetricSamples ℚ) (key : ModelKey) (f : TritonField) :
    snapshotOf (readTritonState round samples) key f = sumRounded round (modelValues samples f key) := by
  have general : ∀ (fields : List TritonField) (state : TritonCounterState), fields.Nodup →
      snapshotOf (fields.foldl (addMetric round samples) state) key f =
        if f ∈ fields then
          (modelValues samples f key).foldl (fun total value => round (total + value)) (snapshotOf state key f)
        else snapshotOf state key f := by
    intro fields
    induction fields with
    | nil => exact fun state _ => rfl
    | cons field fields ih =>
      intro state distinct
      obtain ⟨fresh, rest⟩ := List.nodup_cons.mp distinct
      rw [List.foldl_cons, ih _ rest, snapshotOf_addMetric]
      by_cases here : field = f
      · subst here
        rw [if_neg fresh, if_pos rfl, if_pos List.mem_cons_self]
      · rw [if_neg here]
        simp only [List.mem_cons, Ne.symm here, false_or]
  have all : f ∈ counterFields := by cases f <;> decide
  rw [readTritonState, general _ _ (by decide), if_pos all]
  rfl

/-- There is a report on the models that some metric has. -/
theorem dictGet_readTritonState_eq_none (round : ℚ → ℚ) (samples : MetricSamples ℚ) (key : ModelKey) :
    dictGet (readTritonState round samples) key = none ↔
      ∀ field ∈ counterFields, modelValues samples field key = [] := by
  have byMetric : ∀ (field : TritonField) (items : List (MetricSample ℚ)) (state : TritonCounterState),
      dictGet (items.foldl (addSample round field) state) key = none ↔
        dictGet state key = none ∧ ((items.filter fun sample => modelKey sample.1 = key).map Prod.snd) = [] := by
    intro field items
    induction items with
    | nil => simp
    | cons sample items ih =>
      intro state
      rw [List.foldl_cons, ih, dictGet_addSample]
      by_cases same : modelKey sample.1 = key
      · simp [same]
      · simp [same]
  have general : ∀ (fields : List TritonField) (state : TritonCounterState),
      dictGet (fields.foldl (addMetric round samples) state) key = none ↔
        dictGet state key = none ∧ ∀ field ∈ fields, modelValues samples field key = [] := by
    intro fields
    induction fields with
    | nil => simp
    | cons field fields ih =>
      intro state
      rw [List.foldl_cons, ih, addMetric, byMetric, List.forall_mem_cons, and_assoc]
      rfl
  rw [readTritonState, general]
  exact and_iff_right rfl

theorem find?_key (state : TritonCounterState) (key : ModelKey) :
    (state.find? fun entry => entry.1 = key) = (dictGet state key).map fun snap => (key, snap) := by
  induction state with
  | nil => rfl
  | cons entry state ih =>
    obtain ⟨k, snap⟩ := entry
    rw [dictGet_cons]
    by_cases same : k = key
    · simp [same]
    · simp [same, Ne.symm same, ih]

theorem tritonRate_eq (round : ℚ → ℚ) (values : List ℚ) (prev interval : ℚ) :
    tritonRate round (sumRounded round values) prev interval =
      rateOf round (some prev) ⟨.read (summed round values), interval⟩ := by
  simp only [tritonRate, rateOf, perSecond, summed_getD]

/-- The rate of a counter in what a successful scrape reports. -/
theorem tritonRate_report (round : ℚ → ℚ) (samples : MetricSamples ℚ) (prevState : Option TritonCounterState)
    (interval : ℚ) (key : ModelKey) (counter : TritonCounter) :
    counter.rate key (scrapeTriton round (some samples) prevState interval).1 =
      rateOf round (prevState.map fun prev => snapshotOf prev key counter.field)
        (tritonReading round key counter (some samples, interval)) := by
  have found : counter.rate key (scrapeTriton round (some samples) prevState interval).1 =
      (dictGet (readTritonState round samples) key).bind fun snap =>
        match prevState with
        | none => none
        | some prev => tritonRate round (snap counter.field) (snapshotOf prev key counter.field) interval := by
    have isKey : ((fun metrics : TritonMetrics => decide ((metrics.modelName, metrics.modelVersion) = key)) ∘
        fun entry : ModelKey × CounterSnapshot => tritonMetrics round samples prevState interval entry.1 entry.2) =
        fun entry => decide (entry.1 = key) := by
      funext entry
      cases prevState <;> rfl
    rw [TritonCounter.rate, scrapeTriton, List.find?_map, isKey, find?_key]
    cases dictGet (readTritonState round samples) key with
    | none => rfl
    | some snap => cases prevState <;> cases counter <;> rfl
  rw [found, tritonReading]
  dsimp only
  by_cases missing : ∀ field ∈ counterFields, modelValues samples field key = []
  · rw [if_pos missing, (dictGet_readTritonState_eq_none round samples key).mpr missing]
    cases prevState <;> rfl
  · obtain ⟨snap, atKey⟩ := Option.ne_none_iff_exists'.mp
      (mt (dictGet_readTritonState_eq_none round samples key).mp missing)
    have summedField : snap counter.field = sumRounded round (modelValues samples counter.field key) := by
      rw [← snapshotOf_readTritonState, snapshotOf, atKey]
      rfl
    rw [if_neg missing, atKey]
    cases prevState with
    | none => rfl
    | some prev =>
      rw [Option.bind_some, summedField]
      exact tritonRate_eq _ _ _ _

/-- A counter of a model. -/
def TritonCounter.toCounter (round : ℚ → ℚ) (key : ModelKey) (counter : TritonCounter) :
    Counter ScrapeInput TritonCounterState (List TritonMetrics) ℚ where
  read := tritonReading round key counter
  rate := counter.rate key
  stored state := snapshotOf state key counter.field

/-- The monitor treats the counters of every model alike. -/
theorem TritonCounter.follows (round : ℚ → ℚ) (key : ModelKey) (counter : TritonCounter) :
    FollowsCounter (fun (input : ScrapeInput) prev => scrapeTriton round input.1 prev input.2) round
      (counter.toCounter round key) where
  rate_eq input prev := by
    obtain ⟨scraped, interval⟩ := input
    cases scraped with
    | none => rfl
    | some samples => exact tritonRate_report round samples prev interval key counter
  stored_eq input prev := by
    obtain ⟨scraped, interval⟩ := input
    cases scraped with
    | none => cases prev <;> rfl
    | some samples =>
      have field := snapshotOf_readTritonState round samples key counter.field
      show some (snapshotOf (readTritonState round samples) key counter.field) =
        remember _ (tritonReading round key counter (some samples, interval)).reading
      rw [tritonReading]
      dsimp only
      by_cases missing : ∀ field ∈ counterFields, modelValues samples field key = []
      · have nothing : modelValues samples counter.field key = [] := missing _ (by cases counter <;> decide)
        rw [nothing] at field
        rw [if_pos missing]
        exact congrArg some field
      · rw [← summed_getD] at field
        rw [if_neg missing]
        exact congrArg some field

end GpuTelemetry
