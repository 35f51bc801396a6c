import GpuTelemetry.Prometheus
import GpuTelemetry.PyStrings
import Mathlib.Data.List.Dedup
import Mathlib.Data.List.Perm.Subperm

namespace GpuTelemetry

/-- The profiling fields of `DcgmProfilingMetrics`. -/
inductive DcgmField
  | smActive
  | dramActive
  | grEngineActive
  | tensorActive
  | fp64Active
  | fp32Active
  | fp16Active
  | smOccupancy
  | nvlinkTxBytes
  | nvlinkRxBytes
  | profPcieTxBytes
  | profPcieRxBytes
  deriving DecidableEq

/-- `_DCGM_FIELD_MAP`. -/
def dcgmFieldMap : List (String × DcgmField) :=
  [("DCGM_FI_PROF_SM_ACTIVE", .smActive),
    ("DCGM_FI_PROF_DRAM_ACTIVE", .dramActive),
    ("DCGM_FI_PROF_GR_ENGINE_ACTIVE", .grEngineActive),
    ("DCGM_FI_PROF_PIPE_TENSOR_ACTIVE", .tensorActive),
    ("DCGM_FI_PROF_PIPE_FP64_ACTIVE", .fp64Active),
    ("DCGM_FI_PROF_PIPE_FP32_ACTIVE", .fp32Active),
    ("DCGM_FI_PROF_PIPE_FP16_ACTIVE", .fp16Active),
    ("DCGM_FI_PROF_SM_OCCUPANCY", .smOccupancy),
    ("DCGM_FI_PROF_NVLINK_TX_BYTES", .nvlinkTxBytes),
    ("DCGM_FI_PROF_NVLINK_RX_BYTES", .nvlinkRxBytes),
    ("DCGM_FI_PROF_PCIE_TX_BYTES", .profPcieTxBytes),
    ("DCGM_FI_PROF_PCIE_RX_BYTES", .profPcieRxBytes)]

structure DcgmProfilingMetrics (F : Type) where
  gpuIndex : Option Int
  gpuUuid : Option Str
  gpuModel : Option Str
  smActive : Option F
  dramActive : Option F
  grEngineActive : Option F
  tensorActive : Option F
  fp64Active : Option F
  fp32Active : Option F
  fp16Active : Option F
  smOccupancy : Option F
  nvlinkTxBytes : Option F
  nvlinkRxBytes : Option F
  profPcieTxBytes : Option F
  profPcieRxBytes : Option F
  migEnabled : Option Bool
  migInstanceId : Option Str
  deriving DecidableEq

variable {F : Type}

def DcgmField.value (metrics : DcgmProfilingMetrics F) : DcgmField → Option F
  | .smActive => metrics.smActive
  | .dramActive => metrics.dramActive
  | .grEngineActive => metrics.grEngineActive
  | .tensorActive => metrics.tensorActive
  | .fp64Active => metrics.fp64Active
  | .fp32Active => metrics.fp32Active
  | .fp16Active => metrics.fp16Active
  | .smOccupancy => metrics.smOccupancy
  | .nvlinkTxBytes => metrics.nvlinkTxBytes
  | .nvlinkRxBytes => metrics.nvlinkRxBytes
  | .profPcieTxBytes => metrics.profPcieTxBytes
  | .profPcieRxBytes => metrics.profPcieRxBytes

/-- The index of the GPU of a sample. -/
def gpuLabel (labels : Labels) : Str := (dictGet labels "gpu".toList).getD "0".toList

/-- The MIG instance of a sample, under its two names; the first one counts if it is not empty. -/
def migLabel (labels : Labels) : Option Str :=
  ((dictGet labels "GPU_I_ID".toList).filter fun id => id ≠ []).or (dictGet labels "gpu_instance_id".toList)

/-- What the loops over the samples fill, by the index of the GPU. -/
structure DcgmTables (F : Type) where
  gpuFields : List (Str × List (DcgmField × F))
  gpuUuid : List (Str × Str)
  gpuModel : List (Str × Str)
  gpuMigInstance : List (Str × Str)

/-- A value set under a key, if there is one. -/
def setIfPresent (key : Str) (value : Option Str) (d : List (Str × Str)) : List (Str × Str) :=
  match value with
  | some value => dictSet key value d
  | none => d

/-- The body of the loops, for a sample of a field. -/
def addDcgmSample (tables : DcgmTables F) (fieldName : DcgmField) (sample : MetricSample F) : DcgmTables F :=
  let (labels, value) := sample
  let gpuIdx := gpuLabel labels
  { gpuFields := dictModify gpuIdx (fun fields => dictSet fieldName value (fields.getD [])) tables.gpuFields
    gpuUuid := setIfPresent gpuIdx (dictGet labels "UUID".toList) tables.gpuUuid
    gpuModel := setIfPresent gpuIdx (dictGet labels "modelName".toList) tables.gpuModel
    gpuMigInstance := setIfPresent gpuIdx (migLabel labels) tables.gpuMigInstance }

/-- The loops over the metrics and their samples. -/
def dcgmTables (samples : MetricSamples F) : DcgmTables F :=
  dcgmFieldMap.foldl (fun tables entry =>
    (samplesOf samples entry.1).foldl (fun tables sample => addDcgmSample tables entry.2 sample) tables)
      ⟨[], [], [], []⟩

section

variable (py : Interpreter)

/-- The record of a GPU and its fields. -/
def dcgmRecord (tables : DcgmTables F) (gpuIdx : Str) (fieldValues : List (DcgmField × F)) :
    DcgmProfilingMetrics F where
  gpuIndex := pyIntOfWord py (strip gpuIdx)
  gpuUuid := dictGet tables.gpuUuid gpuIdx
  gpuModel := dictGet tables.gpuModel gpuIdx
  smActive := dictGet fieldValues .smActive
  dramActive := dictGet fieldValues .dramActive
  grEngineActive := dictGet fieldValues .grEngineActive
  tensorActive := dictGet fieldValues .tensorActive
  fp64Active := dictGet fieldValues .fp64Active
  fp32Active := dictGet fieldValues .fp32Active
  fp16Active := dictGet fieldValues .fp16Active
  smOccupancy := dictGet fieldValues .smOccupancy
  nvlinkTxBytes := dictGet fieldValues .nvlinkTxBytes
  nvlinkRxBytes := dictGet fieldValues .nvlinkRxBytes
  profPcieTxBytes := dictGet fieldValues .profPcieTxBytes
  profPcieRxBytes := dictGet fieldValues .profPcieRxBytes
  migEnabled := some (dictGet tables.gpuMigInstance gpuIdx).isSome
  migInstanceId := dictGet tables.gpuMigInstance gpuIdx

/-- `scrape_dcgm`, on what `prometheus.scrape` returns, or nothing when it raises. -/
def scrapeDcgm (scraped : Option (MetricSamples F)) : List (DcgmProfilingMetrics F) :=
  match scraped with
  | none => []
  | some samples =>
    let tables := dcgmTables samples
    tables.gpuFields.map fun entry => dcgmRecord py tables entry.1 entry.2

end

/-! ### Samples by GPU and MIG instance -/

/-- A sample of a profiling metric. -/
structure DcgmObservation (F : Type) where
  field : DcgmField
  labels : Labels
  value : F

def DcgmObservation.gpu (o : DcgmObservation F) : Str := gpuLabel o.labels

def DcgmObservation.mig (o : DcgmObservation F) : Option Str := migLabel o.labels

/-- The GPU and the MIG instance. -/
def DcgmObservation.pair (o : DcgmObservation F) : Str × Option Str := (o.gpu, o.mig)

/-- The samples in the order of the loops. -/
def dcgmObservations (samples : MetricSamples F) : List (DcgmObservation F) :=
  dcgmFieldMap.flatMap fun entry => (samplesOf samples entry.1).map fun sample => ⟨entry.2, sample.1, sample.2⟩

/-- One record for each pair of a GPU and a MIG instance, which has the values of
the samples of its pair. -/
def RecordPerInstance (py : Interpreter) (samples : MetricSamples F) (records : List (DcgmProfilingMetrics F)) : Prop :=
  ∃ recordOf : Str × Option Str → DcgmProfilingMetrics F,
    records.Perm (((dcgmObservations samples).map DcgmObservation.pair).dedup.map recordOf) ∧
      ∀ o ∈ dcgmObservations samples,
        (recordOf o.pair).gpuIndex = pyIntOfWord py (strip o.gpu) ∧ (recordOf o.pair).migInstanceId = o.mig ∧
          o.field.value (recordOf o.pair) = some o.value

/-- Each GPU has one MIG instance, and each of its fields one value. -/
def OneInstancePerGpu (samples : MetricSamples F) : Prop :=
  ∀ o ∈ dcgmObservations samples, ∀ o' ∈ dcgmObservations samples, o.gpu = o'.gpu →
    o.mig = o'.mig ∧ (o.field = o'.field → o.value = o'.value)

/-! ### What the loops fill -/

/-- One value under each of the keys that have one. -/
theorem foldl_setIfPresent (key : DcgmObservation F → Str) (value : DcgmObservation F → Option Str)
    (observations : List (DcgmObservation F)) (d : List (Str × Str)) :
    observations.foldl (fun d o => setIfPresent (key o) (value o) d) d =
      dictUpdate d (observations.filterMap fun o => (value o).map fun v => (key o, v)) := by
  induction observations generalizing d with
  | nil => rfl
  | cons o observations ih =>
    rw [List.foldl_cons, ih, List.filterMap_cons]
    cases value o with
    | none => rfl
    | some v => rfl

/-- The loops go through the samples one after the other. -/
theorem dcgmTables_eq (samples : MetricSamples F) :
    dcgmTables samples =
      (dcgmObservations samples).foldl (fun tables o => addDcgmSample tables o.field (o.labels, o.value))
        ⟨[], [], [], []⟩ := by
  unfold dcgmTables dcgmObservations
  generalize (⟨[], [], [], []⟩ : DcgmTables F) = tables
  induction dcgmFieldMap generalizing tables with
  | nil => rfl
  | cons entry entries ih =>
    rw [List.foldl_cons, List.flatMap_cons, List.foldl_append, ih, List.foldl_map]

theorem gpuFields_eq (samples : MetricSamples F) :
    (dcgmTables samples).gpuFields =
      dictOfDicts [] ((dcgmObservations samples).map fun o => (o.gpu, o.field, o.value)) := by
  rw [dcgmTables_eq, dictOfDicts, List.foldl_map]
  exact (List.foldl_hom DcgmTables.gpuFields fun _ _ => rfl).symm

theorem gpuMigInstance_eq (samples : MetricSamples F) :
    (dcgmTables samples).gpuMigInstance =
      dictUpdate [] ((dcgmObservations samples).filterMap fun o => o.mig.map fun id => (o.gpu, id)) := by
  rw [dcgmTables_eq, ← foldl_setIfPresent]
  exact (List.foldl_hom DcgmTables.gpuMigInstance fun _ _ => rfl).symm

theorem gpuFields_keys_nodup (samples : MetricSamples F) : ((dcgmTables samples).gpuFields.map Prod.fst).Nodup :=
  gpuFields_eq samples ▸ dictOfDicts_keys_nodup (d := []) List.nodup_nil _

theorem mem_gpuFields_keys {samples : MetricSamples F} {gpu : Str} :
    gpu ∈ (dcgmTables samples).gpuFields.map Prod.fst ↔ ∃ o ∈ dcgmObservations samples, o.gpu = gpu := by
  simp [gpuFields_eq, dictOfDicts_keys]

section

variable {samples : MetricSamples F} (single : OneInstancePerGpu samples) {o : DcgmObservation F}
  (member : o ∈ dcgmObservations samples)

include single member

/-- The only value of a field of a GPU is in the table. -/
theorem dictGetNested_gpuFields : dictGetNested (dcgmTables samples).gpuFields o.gpu o.field = some o.value := by
  have start : ∀ gpu field, dictGetNested ([] : List (Str × List (DcgmField × F))) gpu field =
      dictGet ([] : List ((Str × DcgmField) × F)) (gpu, field) := fun _ _ => rfl
  rw [gpuFields_eq, dictGetNested_dictOfDicts start, List.map_map]
  refine dictGet_dictUpdate_agree _ (List.mem_map.mpr ⟨o, member, rfl⟩) fun item inItems sameKey => ?_
  obtain ⟨o', inSamples, rfl⟩ := List.mem_map.mp inItems
  obtain ⟨sameGpu, sameField⟩ := Prod.mk.inj sameKey
  exact (single o' inSamples o member sameGpu).2 sameField

/-- The only MIG instance of a GPU is in the table. -/
theorem dictGet_gpuMigInstance : dictGet (dcgmTables samples).gpuMigInstance o.gpu = o.mig := by
  have inTable : ∀ item ∈ (dcgmObservations samples).filterMap fun o => o.mig.map fun id => (o.gpu, id),
      item.1 = o.gpu → o.mig = some item.2 := by
    intro item inItems sameGpu
    obtain ⟨o', inSamples, isItem⟩ := List.mem_filterMap.mp inItems
    obtain ⟨id, hasId, rfl⟩ := Option.map_eq_some_iff.mp isItem
    rw [← (single o' inSamples o member sameGpu).1, hasId]
  rw [gpuMigInstance_eq]
  cases mig : o.mig with
  | none =>
    refine dictGet_dictUpdate_quiet _ fun item inItems sameGpu => ?_
    have shown := inTable item inItems sameGpu
    rw [mig] at shown
    cases shown
  | some id =>
    refine dictGet_dictUpdate_agree _ (List.mem_filterMap.mpr ⟨o, member, by rw [mig]; rfl⟩)
      fun item inItems sameGpu => ?_
    have shown := inTable item inItems sameGpu
    rw [mig] at shown
    exact (Option.some.inj shown).symm

end

/-! ### One record for each instance -/

/-- The record of a GPU. -/
def gpuRecord (py : Interpreter) (samples : MetricSamples F) (gpu : Str) : DcgmProfilingMetrics F :=
  dcgmRecord py (dcgmTables samples) gpu ((dictGet (dcgmTables samples).gpuFields gpu).getD [])

theorem scrapeDcgm_eq (py : Interpreter) (samples : MetricSamples F) :
    scrapeDcgm py (some samples) = ((dcgmTables samples).gpuFields.map Prod.fst).map (gpuRecord py samples) := by
  rw [List.map_map]
  refine List.map_congr_left fun entry member => ?_
  have found : dictGet (dcgmTables samples).gpuFields entry.1 = some entry.2 :=
    dictGet_of_mem (gpuFields_keys_nodup samples) member
  rw [Function.comp_apply, gpuRecord, found, Option.getD_some]

theorem value_gpuRecord (py : Interpreter) (samples : MetricSamples F) (gpu : Str) (field : DcgmField) :
    field.value (gpuRecord py samples gpu) = dictGetNested (dcgmTables samples).gpuFields gpu field := by
  unfold gpuRecord dictGetNested
  cases dictGet (dcgmTables samples).gpuFields gpu with
  | none => cases field <;> rfl
  | some fieldValues => cases field <;> rfl

/-- A list of first components without repetitions, as long as the list of pairs
without repetitions, belongs to pairs that the first component determines. -/
theorem functional_of_length {α β : Type} [DecidableEq α] [DecidableEq β] {pairs : List (α × β)} {keys : List α}
    (distinct : keys.Nodup) (complete : ∀ k ∈ keys, ∃ p ∈ pairs, p.1 = k)
    (length : pairs.dedup.length = keys.length) {p p' : α × β} (member : p ∈ pairs) (member' : p' ∈ pairs)
    (same : p.1 = p'.1) : p = p' := by
  have covered : keys ⊆ pairs.dedup.map Prod.fst := by
    intro k inKeys
    obtain ⟨p, inPairs, rfl⟩ := complete k inKeys
    exact List.mem_map.mpr ⟨p, List.mem_dedup.mpr inPairs, rfl⟩
  have order : keys.Perm (pairs.dedup.map Prod.fst) :=
    (List.subperm_of_subset distinct covered).perm_of_length_le (by rw [List.length_map, length])
  exact List.inj_on_of_nodup_map (order.nodup_iff.mp distinct) (List.mem_dedup.mpr member) (List.mem_dedup.mpr member')
    same

/-- Pairs that the first component determines, by their first components. -/
theorem perm_of_functional {α β : Type} [DecidableEq α] [DecidableEq β] {pairs : List (α × β)} {keys : List α}
    (distinct : keys.Nodup) (members : ∀ k, k ∈ keys ↔ ∃ p ∈ pairs, p.1 = k)
    (functional : ∀ p ∈ pairs, ∀ p' ∈ pairs, p.1 = p'.1 → p = p') : keys.Perm (pairs.dedup.map Prod.fst) := by
  have nodup : (pairs.dedup.map Prod.fst).Nodup :=
    List.Nodup.map_on (fun p inPairs p' inPairs' =>
      functional p (List.mem_dedup.mp inPairs) p' (List.mem_dedup.mp inPairs')) (List.nodup_dedup pairs)
  refine (List.perm_ext_iff_of_nodup distinct nodup).mpr fun k => ?_
  rw [members k]
  simp

/-- One record for each pair of a GPU and a MIG instance is returned exactly when
no GPU has samples of two instances or two values of one field. -/
theorem scrapeDcgm_instances_iff (py : Interpreter) (samples : MetricSamples F) :
    RecordPerInstance py samples (scrapeDcgm py (some samples)) ↔ OneInstancePerGpu samples := by
  have distinct := gpuFields_keys_nodup samples
  have members : ∀ gpu, gpu ∈ (dcgmTables samples).gpuFields.map Prod.fst ↔
      ∃ p ∈ (dcgmObservations samples).map DcgmObservation.pair, p.1 = gpu := by
    intro gpu
    rw [mem_gpuFields_keys]
    simp [DcgmObservation.pair]
  constructor
  · rintro ⟨recordOf, records, each⟩ o member o' member' sameGpu
    have length := records.length_eq.symm
    rw [scrapeDcgm_eq, List.length_map, List.length_map] at length
    have samePair : o.pair = o'.pair :=
      functional_of_length distinct (fun gpu => (members gpu).mp) length (List.mem_map.mpr ⟨o, member, rfl⟩)
        (List.mem_map.mpr ⟨o', member', rfl⟩) sameGpu
    refine ⟨(Prod.mk.inj samePair).2, fun sameField => ?_⟩
    have value := (each o member).2.2
    have value' := (each o' member').2.2
    rw [samePair, sameField, value'] at value
    exact (Option.some.inj value).symm
  · intro single
    have functional : ∀ p ∈ (dcgmObservations samples).map DcgmObservation.pair,
        ∀ p' ∈ (dcgmObservations samples).map DcgmObservation.pair, p.1 = p'.1 → p = p' := by
      intro p inPairs p' inPairs' sameGpu
      obtain ⟨o, member, rfl⟩ := List.mem_map.mp inPairs
      obtain ⟨o', member', rfl⟩ := List.mem_map.mp inPairs'
      exact Prod.ext sameGpu (single o member o' member' sameGpu).1
    refine ⟨fun p => gpuRecord py samples p.1, ?_, fun o member => ⟨rfl, ?_, ?_⟩⟩
    · rw [scrapeDcgm_eq]
      have order := (perm_of_functional distinct members functional).map (gpuRecord py samples)
      rw [List.map_map (l := List.dedup _)] at order
      exact order
    · exact dictGet_gpuMigInstance single member
    · rw [value_gpuRecord]
      exact dictGetNested_gpuFields single member

/-- A GPU with two MIG instances. -/
def twoInstances : MetricSamples ℚ :=
  [("DCGM_FI_PROF_SM_ACTIVE".toList,
    [([("gpu".toList, "0".toList), ("GPU_I_ID".toList, "1".toList)], 1 / 4),
      ([("gpu".toList, "0".toList), ("GPU_I_ID".toList, "2".toList)], 3 / 4)])]

/-- The value of the second instance overwrites that of the first. -/
theorem scrapeDcgm_overwrites :
    let py : Interpreter := ⟨fun _ => none, some 4300, by decide⟩
    (scrapeDcgm py (some twoInstances)).map
        (fun metrics => (metrics.gpuIndex, metrics.migInstanceId, metrics.smActive)) =
        [(some 0, some "2".toList, some (3 / 4 : ℚ))] ∧
      ((dcgmObservations twoInstances).map DcgmObservation.pair).dedup.length = 2 ∧
      ¬ RecordPerInstance py twoInstances (scrapeDcgm py (some twoInstances)) := by
  intro py
  refine ⟨by decide +kernel, by decide +kernel, ?_⟩
  rintro ⟨recordOf, records, -⟩
  have length := records.length_eq
  rw [List.length_map] at length
  revert length
  decide +kernel

end GpuTelemetry
