import GpuTelemetry.Attributes

namespace GpuTelemetry

variable {ω : Type}

/-- The values of every field over all GPUs. -/
structure SlurmMetadataList where
  JobID : List Str
  JobName : List Str
  QOS : List Str
  User : List Str
  Partition : List Str
  Account : List Str
  NumNodes : List Str
  ArrayJobID : List Str
  ArrayTaskID : List Str

/-- `setToSlice` on a set kept as a list without repetitions. -/
def setToSlice (set : List Str) : List Str := set.insertionSort (· ≤ ·)

/-- One of the sets that the loop of `GetGPUData` fills. -/
def allValues (gpu2Slurm : Dict Str SlurmMetadata) (field : SlurmMetadata → Str) : List Str :=
  gpu2Slurm.entries.foldl (fun set entry => set.insert (field entry.2)) []

def getGPUData (gpu2Slurm : Dict Str SlurmMetadata) : SlurmMetadataList where
  JobID := setToSlice (allValues gpu2Slurm SlurmMetadata.JobID)
  JobName := setToSlice (allValues gpu2Slurm SlurmMetadata.JobName)
  QOS := setToSlice (allValues gpu2Slurm SlurmMetadata.QOS)
  User := setToSlice (allValues gpu2Slurm SlurmMetadata.User)
  Partition := setToSlice (allValues gpu2Slurm SlurmMetadata.Partition)
  Account := setToSlice (allValues gpu2Slurm SlurmMetadata.Account)
  NumNodes := setToSlice (allValues gpu2Slurm SlurmMetadata.NumNodes)
  ArrayJobID := setToSlice (allValues gpu2Slurm SlurmMetadata.ArrayJobID)
  ArrayTaskID := setToSlice (allValues gpu2Slurm SlurmMetadata.ArrayTaskID)

/-! ### Attributes -/

/-- The names of the attributes. -/
def slurmColumnNames : List Str :=
  ["job_id", "job_name", "qos", "array_job_id", "array_task_id", "username", "partition", "account",
    "num_nodes"].map String.toList

/-- The `columnMap` of `AddSlurmMetadataStr`. -/
def slurmColumns (slurmMetadata : SlurmMetadata) : List (Str × Str) :=
  [("job_id".toList, slurmMetadata.JobID),
    ("job_name".toList, slurmMetadata.JobName),
    ("qos".toList, slurmMetadata.QOS),
    ("array_job_id".toList, slurmMetadata.ArrayJobID),
    ("array_task_id".toList, slurmMetadata.ArrayTaskID),
    ("username".toList, slurmMetadata.User),
    ("partition".toList, slurmMetadata.Partition),
    ("account".toList, slurmMetadata.Account),
    ("num_nodes".toList, slurmMetadata.NumNodes)]

/-- The `columnMap` of `AddSlurmMetadataSlice`. -/
def slurmListColumns (allGPUData : SlurmMetadataList) : List (Str × List Str) :=
  [("job_id".toList, allGPUData.JobID),
    ("job_name".toList, allGPUData.JobName),
    ("qos".toList, allGPUData.QOS),
    ("array_job_id".toList, allGPUData.ArrayJobID),
    ("array_task_id".toList, allGPUData.ArrayTaskID),
    ("username".toList, allGPUData.User),
    ("partition".toList, allGPUData.Partition),
    ("account".toList, allGPUData.Account),
    ("num_nodes".toList, allGPUData.NumNodes)]

def aggregateSlurmJobIDs (attributes : AttributeMap ω) (slurmJobIDs : List Str) : AttributeMap ω :=
  let joinedSlurmJobIDs := [','].intercalate slurmJobIDs
  if joinedSlurmJobIDs ≠ [] then putStr attributes "job_id".toList joinedSlurmJobIDs else attributes

/-- The columns are put one by one, here in the order of the literal. -/
def addSlurmMetadataStr (attributes : AttributeMap ω) (slurmMetadata : SlurmMetadata) : AttributeMap ω :=
  (slurmColumns slurmMetadata).foldl (fun attrs column => putStr attrs column.1 column.2) attributes

def addSlurmMetadataSlice (attributes : AttributeMap ω) (allGPUData : SlurmMetadataList) : AttributeMap ω :=
  (slurmListColumns allGPUData).foldl (fun attrs column => putSlice attrs column.1 column.2) attributes

/-! ### Metrics -/

/-- The loop that the four functions for data points share. -/
def aggregateSlurm (datapoints : List (AttributeMap ω)) (gpuToSlurm : Dict Str SlurmMetadata) : List (AttributeMap ω) :=
  datapoints.map (enrichIndexed gpuIndex AttributeValue.getStr gpuToSlurm addSlurmMetadataStr fun attrs =>
    addSlurmMetadataSlice attrs (getGPUData gpuToSlurm))

def aggregateSlurmToGaugeOrSum (datapoints : List (AttributeMap ω)) (gpuToSlurm : Dict Str SlurmMetadata) :
    List (AttributeMap ω) := aggregateSlurm datapoints gpuToSlurm

def aggregateSlurmToHistogram (datapoints : List (AttributeMap ω)) (gpuToSlurm : Dict Str SlurmMetadata) :
    List (AttributeMap ω) := aggregateSlurm datapoints gpuToSlurm

def aggregateSlurmToExponentialHistogram (datapoints : List (AttributeMap ω)) (gpuToSlurm : Dict Str SlurmMetadata) :
    List (AttributeMap ω) := aggregateSlurm datapoints gpuToSlurm

def aggregateSlurmToSummary (datapoints : List (AttributeMap ω)) (gpuToSlurm : Dict Str SlurmMetadata) :
    List (AttributeMap ω) := aggregateSlurm datapoints gpuToSlurm

/-- The `switch` on the type of a metric. -/
def slurmMetric (gpu2Slurm : Dict Str SlurmMetadata) : Metric ω → Metric ω
  | .gauge datapoints => .gauge (aggregateSlurmToGaugeOrSum datapoints gpu2Slurm)
  | .sum datapoints => .sum (aggregateSlurmToGaugeOrSum datapoints gpu2Slurm)
  | .histogram datapoints => .histogram (aggregateSlurmToHistogram datapoints gpu2Slurm)
  | .exponentialHistogram datapoints =>
    .exponentialHistogram (aggregateSlurmToExponentialHistogram datapoints gpu2Slurm)
  | .summary datapoints => .summary (aggregateSlurmToSummary datapoints gpu2Slurm)
  | .empty => .empty

/-- `processMetrics` with the map that `GetGPU2Slurm` returns, also beside an error. -/
def slurmProcessMetrics (gpu2Slurm : Dict Str SlurmMetadata) (metrics : List (ResourceRecords ω (Metric ω))) :
    List (ResourceRecords ω (Metric ω)) :=
  metrics.map fun resource => resource.mapRecords (slurmMetric gpu2Slurm)

/-! ### Traces and logs -/

/-- `aggregateGPUSpecificSlurmMetadata` of the traces. -/
def aggregateSpanSlurmMetadata (gpuToSlurmMetadata : Dict Str SlurmMetadata) (span : AttributeMap ω) : AttributeMap ω :=
  enrichIndexed gpuIndex AttributeValue.getStr gpuToSlurmMetadata addSlurmMetadataStr id span

def slurmProcessTraces (gpu2Slurm : Dict Str SlurmMetadata) (slurmJobIDs : List Str)
    (traces : List (ResourceRecords ω (AttributeMap ω))) : List (ResourceRecords ω (AttributeMap ω)) :=
  traces.map fun resource =>
    { resource with attributes := aggregateSlurmJobIDs resource.attributes slurmJobIDs }.mapRecords
      (aggregateSpanSlurmMetadata gpu2Slurm)

/-- `aggregateGPUSpecificSlurmMetadata` of the logs. That the text of the value is taken before it is known
whether there is one is left out. -/
def aggregateLogSlurmMetadata (rendering : Rendering ω) (gpuToSlurmMetadata : Dict Str SlurmMetadata)
    (log : AttributeMap ω) : AttributeMap ω :=
  enrichIndexed logGpuIndex rendering.asString gpuToSlurmMetadata addSlurmMetadataStr id log

def slurmProcessLogs (rendering : Rendering ω) (gpuToSlurmMetadata : Dict Str SlurmMetadata) (slurmJobIDs : List Str)
    (logs : List (ResourceRecords ω (AttributeMap ω))) : List (ResourceRecords ω (AttributeMap ω)) :=
  logs.map fun resource =>
    { resource with attributes := aggregateSlurmJobIDs resource.attributes slurmJobIDs }.mapRecords
      (aggregateLogSlurmMetadata rendering gpuToSlurmMetadata)

/-! ### What is written -/

/-- What the metadata of a job writes. -/
def slurmEntry (slurmMetadata : SlurmMetadata) (name : Str) : Option (AttributeValue ω) :=
  (dictGet (slurmColumns slurmMetadata) name).map AttributeValue.str

theorem slurmColumnNames_nodup : slurmColumnNames.Nodup := by decide

/-- Whatever the order of the columns, each name holds its column's value. -/
theorem foldl_putStr_slurmColumns_get {columns : List (Str × Str)} {slurmMetadata : SlurmMetadata}
    (order : columns.Perm (slurmColumns slurmMetadata)) (attributes : AttributeMap ω) (name : Str) :
    dictGet (columns.foldl (fun attrs column => putStr attrs column.1 column.2) attributes) name =
      (slurmEntry slurmMetadata name).or (dictGet attributes name) := by
  have distinct : (columns.map Prod.fst).Nodup := (order.map Prod.fst).nodup_iff.mpr slurmColumnNames_nodup
  rw [foldl_putStr_get distinct, dictGet_perm order distinct]
  rfl

theorem addSlurmMetadataStr_get (attributes : AttributeMap ω) (slurmMetadata : SlurmMetadata) (name : Str) :
    dictGet (addSlurmMetadataStr attributes slurmMetadata) name =
      (slurmEntry slurmMetadata name).or (dictGet attributes name) :=
  foldl_putStr_slurmColumns_get (List.Perm.refl _) attributes name

/-- The metadata can be read off what it writes. -/
theorem slurmEntry_injective {slurmMetadata slurmMetadata' : SlurmMetadata}
    (same : ∀ name, slurmEntry (ω := ω) slurmMetadata name = slurmEntry slurmMetadata' name) :
    slurmMetadata = slurmMetadata' := by
  have columns : slurmColumns slurmMetadata = slurmColumns slurmMetadata' :=
    eq_of_dictGet rfl slurmColumnNames_nodup fun name =>
      Option.map_injective (fun s s' eq => AttributeValue.str.inj eq) (same name)
  cases slurmMetadata
  cases slurmMetadata'
  simp only [slurmColumns, List.cons.injEq, Prod.mk.injEq, true_and, and_true] at columns
  simp only [columns]

theorem slurmEntry_index (slurmMetadata : SlurmMetadata) {name : Str} (isIndex : name ∈ [gpuIndex, logGpuIndex]) :
    slurmEntry (ω := ω) slurmMetadata name = none := by
  have apart : ∀ name ∈ [gpuIndex, logGpuIndex], name ∉ slurmColumnNames := by decide
  rw [slurmEntry, dictGet_eq_none (apart name isIndex)]
  rfl

/-- What a GPU's job writes, if it has one. -/
def slurmWritten (found : Option SlurmMetadata) (name : Str) : Option (AttributeValue ω) :=
  found.bind fun slurmMetadata => slurmEntry slurmMetadata name

theorem slurmWritten_eq_iff {found found' : Option SlurmMetadata} :
    (∀ name, slurmWritten (ω := ω) found name = slurmWritten found' name) ↔ found = found' := by
  have some_ne_none : ∀ slurmMetadata, ¬∀ name,
      slurmWritten (ω := ω) (some slurmMetadata) name = slurmWritten none name := by
    intro slurmMetadata same
    have jobID := same "job_id".toList
    rw [slurmWritten, Option.bind_some, slurmEntry, slurmColumns, dictGet_cons, if_pos rfl] at jobID
    cases jobID
  constructor
  · intro same
    rcases found with _ | slurmMetadata <;> rcases found' with _ | slurmMetadata'
    · rfl
    · exact absurd (fun name => (same name).symm) (some_ne_none slurmMetadata')
    · exact absurd same (some_ne_none slurmMetadata)
    · exact congrArg some (slurmEntry_injective same)
  · rintro rfl name
    rfl

/-! ### The three paths -/

def SlurmPathsAgree (rendering : Rendering ω) (gpu2Slurm : Dict Str SlurmMetadata) (slurmJobIDs : List Str)
    (index : AttributeValue ω) : Prop :=
  PathsAgree (slurmProcessMetrics gpu2Slurm) (slurmProcessTraces gpu2Slurm slurmJobIDs)
    (slurmProcessLogs rendering gpu2Slurm slurmJobIDs) index

theorem slurmMetric_dataPoints (gpu2Slurm : Dict Str SlurmMetadata) (metric : Metric ω) :
    (slurmMetric gpu2Slurm metric).dataPoints = aggregateSlurm metric.dataPoints gpu2Slurm := by
  cases metric <;> rfl

/-- The paths agree when the index leads to the same job as a string and as text. -/
theorem slurmPathsAgree_iff (rendering : Rendering ω) (gpu2Slurm : Dict Str SlurmMetadata) (slurmJobIDs : List Str)
    (index : AttributeValue ω) : SlurmPathsAgree rendering gpu2Slurm slurmJobIDs index ↔
      gpu2Slurm.get index.getStr = gpu2Slurm.get (rendering.asString index) := by
  have points : IndexWrites (enrichIndexed gpuIndex AttributeValue.getStr gpu2Slurm addSlurmMetadataStr fun attrs =>
      addSlurmMetadataSlice attrs (getGPUData gpu2Slurm)) gpuIndex index
        (slurmWritten (gpu2Slurm.get index.getStr)) := indexWrites_enrichIndexed addSlurmMetadataStr_get
  have spans : IndexWrites (aggregateSpanSlurmMetadata gpu2Slurm) gpuIndex index
      (slurmWritten (gpu2Slurm.get index.getStr)) := indexWrites_enrichIndexed addSlurmMetadataStr_get
  have records : IndexWrites (aggregateLogSlurmMetadata rendering gpu2Slurm) logGpuIndex index
      (slurmWritten (gpu2Slurm.get (rendering.asString index))) := indexWrites_enrichIndexed addSlurmMetadataStr_get
  refine Iff.trans (pathsAgree_iff (fun batch => ?_) (fun batch => ?_) (fun batch => ?_) fun name isIndex => ?_)
    slurmWritten_eq_iff
  · refine batchDataPoints_forall₂ (forall₂_map (fun resource => ?_) batch)
    refine mapRecords_forall₂ (fun metric => ?_) resource
    rw [slurmMetric_dataPoints]
    exact forall₂_map (fun attrs => points attrs) metric.dataPoints
  · refine batchRecords_forall₂ (forall₂_map (fun resource => ?_) batch)
    exact mapRecords_forall₂ (fun attrs => spans attrs) _
  · refine batchRecords_forall₂ (forall₂_map (fun resource => ?_) batch)
    exact mapRecords_forall₂ (fun attrs => records attrs) _
  · simp only [slurmWritten, slurmEntry_index _ isIndex, Option.bind_fun_none, and_self]

end GpuTelemetry
