import GpuTelemetry.GpuDataOrder
import GpuTelemetry.Overlays
import GpuTelemetry.ProcessorPaths

namespace GpuTelemetry

variable {ω μ ρ β : Type}

/-! ### The processors of a pipeline -/

/-- What a processor fetches for a batch. -/
inductive Fetched
  | slurm (gpu2Slurm : Dict Str SlurmMetadata) (slurmJobIDs : List Str)
  | k8s (fetched : Except Str (Dict Str K8sMetadata))

def Fetched.isSlurm : Fetched → Bool
  | .slurm .. => true
  | .k8s _ => false

/-- One run of a processor on a batch, with the orders in which its loops run through the map that it fetched. Those
of `slurmprocessor` do not show (`getGPUData_perm`, `foldl_putStr_slurmColumns_get`). -/
inductive ProcessorRun
  | slurm (gpu2Slurm : Dict Str SlurmMetadata) (slurmJobIDs : List Str)
  | k8s (fetched : Except Str (Dict Str K8sMetadata)) (orders : MapOrders (fetchedMap fetched))

namespace ProcessorRun

def fetched : ProcessorRun → Fetched
  | .slurm gpu2Slurm slurmJobIDs => .slurm gpu2Slurm slurmJobIDs
  | .k8s fetched _ => .k8s fetched

def processMetrics : ProcessorRun → List (ResourceRecords ω (Metric ω)) → List (ResourceRecords ω (Metric ω))
  | .slurm gpu2Slurm _ => slurmProcessMetrics gpu2Slurm
  | .k8s fetched orders => k8sProcessMetrics fetched orders

def processTraces :
    ProcessorRun → List (ResourceRecords ω (AttributeMap ω)) → List (ResourceRecords ω (AttributeMap ω))
  | .slurm gpu2Slurm slurmJobIDs => slurmProcessTraces gpu2Slurm slurmJobIDs
  | .k8s fetched orders => k8sProcessTraces fetched orders

def processLogs (rendering : Rendering ω) :
    ProcessorRun → List (ResourceRecords ω (AttributeMap ω)) → List (ResourceRecords ω (AttributeMap ω))
  | .slurm gpu2Slurm slurmJobIDs => slurmProcessLogs rendering gpu2Slurm slurmJobIDs
  | .k8s fetched orders => k8sProcessLogs rendering fetched orders

end ProcessorRun

/-- A batch goes through the processors one by one. -/
def throughProcessors (process : ProcessorRun → β → β) (runs : List ProcessorRun) (batch : β) : β :=
  runs.foldl (fun batch run => process run batch) batch

/-! ### What a batch shows -/

/-- `metric.Type()`. -/
def Metric.type : Metric ω → Nat
  | .empty => 0
  | .gauge _ => 1
  | .sum _ => 2
  | .histogram _ => 3
  | .exponentialHistogram _ => 4
  | .summary _ => 5

/-- What a view shows of the values under all names. -/
def attributesShown (view : AttributeValue ω → β) (attrs : AttributeMap ω) : Str → Option β :=
  fun name => (dictGet attrs name).map view

def Metric.shown (view : AttributeValue ω → β) (metric : Metric ω) : Nat × List (Str → Option β) :=
  (metric.type, metric.dataPoints.map (attributesShown view))

/-- What is shown of every resource and of every record, in its place. -/
def batchShown {γ : Type} (view : AttributeValue ω → β) (shown : ρ → γ) (batch : List (ResourceRecords ω ρ)) :
    List ((Str → Option β) × List (List γ)) :=
  batch.map fun resource =>
    (attributesShown view resource.attributes, resource.scopes.map fun scope => scope.map shown)

/-- A value without the order of its list. -/
def AttributeValue.unordered : AttributeValue ω → AttributeValue ω
  | .slice values => .slice (setToSlice values)
  | value => value

/-! ### What each processor writes -/

/-- What `enrichIndexed` does to the values. -/
def indexOverlay (index : Str) (text : AttributeValue ω → Str) (gpu2X : Dict Str μ)
    (entry : μ → Str → Option (AttributeValue ω)) (absent : Str → Option (AttributeValue ω)) :
    Overlay Str (AttributeValue ω) where
  reads := index
  writes value name :=
    match value with
    | some value => (gpu2X.get (text value)).bind fun metadata => entry metadata name
    | none => absent name

/-- What is written whatever is there. -/
def plainOverlay (written : Str → Option (AttributeValue ω)) : Overlay Str (AttributeValue ω) where
  reads := gpuIndex
  writes _ := written

theorem enrichIndexed_overlay {index : Str} {text : AttributeValue ω → Str} {gpu2X : Dict Str μ}
    {add : AttributeMap ω → μ → AttributeMap ω} {missing : AttributeMap ω → AttributeMap ω}
    {entry : μ → Str → Option (AttributeValue ω)} {absent : Str → Option (AttributeValue ω)}
    (adds : ∀ attrs metadata name, dictGet (add attrs metadata) name =
      (entry metadata name).or (dictGet attrs name))
    (misses : ∀ attrs name, dictGet (missing attrs) name = (absent name).or (dictGet attrs name))
    (attrs : AttributeMap ω) : dictGet (enrichIndexed index text gpu2X add missing attrs) =
      (indexOverlay index text gpu2X entry absent).apply (dictGet attrs) := by
  funext name
  unfold enrichIndexed Overlay.apply indexOverlay
  dsimp only
  rcases dictGet attrs index with _ | value
  · exact misses attrs name
  · dsimp only
    rcases gpu2X.get (text value) with _ | metadata
    · rfl
    · exact adds attrs metadata name

/-- The lists that `AddSlurmMetadataSlice` writes. -/
def slurmLists (gpu2Slurm : Dict Str SlurmMetadata) (name : Str) : Option (AttributeValue ω) :=
  (dictGet (slurmListColumns (getGPUData gpu2Slurm)) name).map AttributeValue.slice

theorem addSlurmMetadataSlice_get (gpu2Slurm : Dict Str SlurmMetadata) (attrs : AttributeMap ω) (name : Str) :
    dictGet (addSlurmMetadataSlice attrs (getGPUData gpu2Slurm)) name =
      (slurmLists gpu2Slurm name).or (dictGet attrs name) := by
  have distinct : ((slurmListColumns (getGPUData gpu2Slurm)).map Prod.fst).Nodup := slurmColumnNames_nodup
  exact foldl_put_get putSlice_get distinct attrs name

/-- What `AggregateSlurmJobIDs` writes. -/
def slurmJobIDsWritten (slurmJobIDs : List Str) (name : Str) : Option (AttributeValue ω) :=
  if name = "job_id".toList then (nonEmpty ([','].intercalate slurmJobIDs)).map AttributeValue.str else none

theorem putNonEmpty_get (attrs : AttributeMap ω) (key text name : Str) : dictGet (putNonEmpty attrs key text) name =
    (if name = key then (nonEmpty text).map AttributeValue.str else none).or (dictGet attrs name) := by
  unfold putNonEmpty nonEmpty
  split
  · rw [putStr_get]
    split <;> rfl
  · split <;> rfl

theorem aggregateSlurmJobIDs_get (slurmJobIDs : List Str) (attrs : AttributeMap ω) (name : Str) :
    dictGet (aggregateSlurmJobIDs attrs slurmJobIDs) name =
      (slurmJobIDsWritten slurmJobIDs name).or (dictGet attrs name) :=
  putNonEmpty_get attrs _ _ name

/-- What `AddCloudAttrs` writes. -/
def cloudWritten (cloud : Str × Str) (name : Str) : Option (AttributeValue ω) :=
  (if name = "cloud.region".toList then (nonEmpty cloud.2).map AttributeValue.str else none).or
    (if name = "cloud.availability_zone".toList then (nonEmpty cloud.1).map AttributeValue.str else none)

theorem addCloudAttrs_get (cloud : Str × Str) (attrs : AttributeMap ω) (name : Str) :
    dictGet (addCloudAttrs attrs cloud) name = (cloudWritten cloud name).or (dictGet attrs name) := by
  rw [addCloudAttrs, putNonEmpty_get, putNonEmpty_get, cloudWritten, Option.or_assoc]

/-- The columns of `AddK8sMetadataSlice`. -/
def k8sListColumns (list : K8sMetadataList) : List (Str × List Str) :=
  [("k8s.pod.name".toList, list.PodName),
    ("k8s.namespace.name".toList, list.Namespace),
    ("k8s.node.name".toList, list.NodeName),
    ("k8s.container.name".toList, list.ContainerName),
    ("k8s.job.name".toList, list.JobName),
    ("k8s.statefulset.name".toList, list.StatefulSetName),
    ("k8s.deployment.name".toList, list.DeploymentName),
    ("k8s.owner.kind".toList, list.CustomOwnerKind),
    ("k8s.owner.name".toList, list.CustomOwnerName)]

/-- The lists that `AddK8sMetadataSlice` writes. -/
def k8sLists (list : K8sMetadataList) (name : Str) : Option (AttributeValue ω) :=
  (dictGet ((k8sListColumns list).filter fun column => column.2 ≠ []) name).map AttributeValue.slice

theorem foldl_putStrSlice (columns : List (Str × List Str)) (attrs : AttributeMap ω) :
    columns.foldl (fun attrs column => putStrSlice attrs column.1 column.2) attrs =
      (columns.filter fun column => column.2 ≠ []).foldl (fun attrs column => putSlice attrs column.1 column.2)
        attrs := by
  induction columns generalizing attrs with
  | nil => rfl
  | cons column rest ih =>
    rw [List.foldl_cons, ih, putStrSlice]
    by_cases empty : column.2 = []
    · rw [if_pos empty, List.filter_cons_of_neg (by simp [empty])]
    · rw [if_neg empty, List.filter_cons_of_pos (by simp [empty]), List.foldl_cons]

theorem addK8sMetadataSlice_get (list : K8sMetadataList) (attrs : AttributeMap ω) (name : Str) :
    dictGet (addK8sMetadataSlice attrs list) name = (k8sLists list name).or (dictGet attrs name) := by
  have names : (k8sListColumns list).map Prod.fst = k8sColumnNames := rfl
  have distinct : (((k8sListColumns list).filter fun column => column.2 ≠ []).map Prod.fst).Nodup :=
    (names ▸ k8sColumnNames_nodup).sublist (List.filter_sublist.map Prod.fst)
  have slices : addK8sMetadataSlice attrs list =
      (k8sListColumns list).foldl (fun attrs column => putStrSlice attrs column.1 column.2) attrs := rfl
  rw [slices, foldl_putStrSlice, foldl_put_get putSlice_get distinct]
  rfl

/-- Lists that differ in their order show the same without it. -/
theorem k8sLists_unordered (list : K8sMetadataList) (name : Str) :
    (k8sLists (ω := ω) list name).map AttributeValue.unordered = k8sLists list.sorted name := by
  have empty (values : List Str) : setToSlice values = [] ↔ values = [] := by
    rw [← List.length_eq_zero_iff, ← List.length_eq_zero_iff, setToSlice, List.length_insertionSort]
  have columns : (k8sListColumns list.sorted).filter (fun column => column.2 ≠ []) =
      ((k8sListColumns list).filter fun column => column.2 ≠ []).map fun column => (column.1, setToSlice column.2) := by
    have sorted : k8sListColumns list.sorted =
        (k8sListColumns list).map fun column => (column.1, setToSlice column.2) := rfl
    rw [sorted, List.filter_map]
    congr 1
    refine List.filter_congr fun column _ => ?_
    simp [empty]
  rw [k8sLists, k8sLists, columns, dictGet_mapValues, Option.map_map, Option.map_map]
  rfl

/-- What `k8sprocessor` writes to a resource with spans or log records. -/
def resourceWritten (cloud lists : Dict Str K8sMetadata) (name : Str) : Option (AttributeValue ω) :=
  (k8sLists (getK8sGPUData lists) name).or (cloudWritten (extractCloudInfo cloud) name)

theorem addResourceMetadata_get (cloud lists : Dict Str K8sMetadata) (attrs : AttributeMap ω) (name : Str) :
    dictGet (addResourceMetadata cloud lists attrs) name =
      (resourceWritten cloud lists name).or (dictGet attrs name) := by
  rw [addResourceMetadata, addK8sMetadataSlice_get, addCloudAttrs_get, resourceWritten, Option.or_assoc]

namespace ProcessorRun

/-- What a processor does to the data point at a place. -/
def enrichPoint (place : List Nat) : ProcessorRun → AttributeMap ω → AttributeMap ω
  | .slurm gpu2Slurm _ =>
    enrichIndexed gpuIndex AttributeValue.getStr gpu2Slurm addSlurmMetadataStr fun attrs =>
      addSlurmMetadataSlice attrs (getGPUData gpu2Slurm)
  | .k8s fetched orders => enrichAttrMap (fetchedMap fetched) (orders.lists place)

def pointOverlay (place : List Nat) : ProcessorRun → Overlay Str (AttributeValue ω)
  | .slurm gpu2Slurm _ => indexOverlay gpuIndex AttributeValue.getStr gpu2Slurm slurmEntry (slurmLists gpu2Slurm)
  | .k8s fetched orders =>
    indexOverlay gpuIndex AttributeValue.getStr (fetchedMap fetched) k8sEntry
      (k8sLists (getK8sGPUData (orders.lists place)))

/-- What a processor does to a span. -/
def enrichSpan : ProcessorRun → AttributeMap ω → AttributeMap ω
  | .slurm gpu2Slurm _ => aggregateSpanSlurmMetadata gpu2Slurm
  | .k8s fetched _ => GpuTelemetry.enrichSpan (fetchedMap fetched)

def spanOverlay : ProcessorRun → Overlay Str (AttributeValue ω)
  | .slurm gpu2Slurm _ => indexOverlay gpuIndex AttributeValue.getStr gpu2Slurm slurmEntry fun _ => none
  | .k8s fetched _ => indexOverlay gpuIndex AttributeValue.getStr (fetchedMap fetched) k8sEntry fun _ => none

/-- What a processor does to a log record. -/
def enrichLog (rendering : Rendering ω) : ProcessorRun → AttributeMap ω → AttributeMap ω
  | .slurm gpu2Slurm _ => aggregateLogSlurmMetadata rendering gpu2Slurm
  | .k8s fetched _ => enrichLogRecord rendering (fetchedMap fetched)

def logOverlay (rendering : Rendering ω) : ProcessorRun → Overlay Str (AttributeValue ω)
  | .slurm gpu2Slurm _ => indexOverlay logGpuIndex rendering.asString gpu2Slurm slurmEntry fun _ => none
  | .k8s fetched _ => indexOverlay logGpuIndex rendering.asString (fetchedMap fetched) k8sEntry fun _ => none

/-- What a processor does to a resource with metrics. -/
def enrichMetricResource : ProcessorRun → AttributeMap ω → AttributeMap ω
  | .slurm .. => id
  | .k8s _ orders => fun attrs => addCloudAttrs attrs (extractCloudInfo orders.cloud)

def metricResourceOverlay : ProcessorRun → Overlay Str (AttributeValue ω)
  | .slurm .. => plainOverlay fun _ => none
  | .k8s _ orders => plainOverlay (cloudWritten (extractCloudInfo orders.cloud))

/-- What a processor does to the resource at a place, with spans or log records. -/
def enrichResource (i : Nat) : ProcessorRun → AttributeMap ω → AttributeMap ω
  | .slurm _ slurmJobIDs => fun attrs => aggregateSlurmJobIDs attrs slurmJobIDs
  | .k8s _ orders => addResourceMetadata orders.cloud (orders.lists [i])

def resourceOverlay (i : Nat) : ProcessorRun → Overlay Str (AttributeValue ω)
  | .slurm _ slurmJobIDs => plainOverlay (slurmJobIDsWritten slurmJobIDs)
  | .k8s _ orders => plainOverlay (resourceWritten orders.cloud (orders.lists [i]))

theorem enrichPoint_overlay (place : List Nat) (run : ProcessorRun) (attrs : AttributeMap ω) :
    dictGet (run.enrichPoint place attrs) = (run.pointOverlay place).apply (dictGet attrs) := by
  cases run with
  | slurm gpu2Slurm _ =>
    exact enrichIndexed_overlay addSlurmMetadataStr_get (addSlurmMetadataSlice_get gpu2Slurm) attrs
  | k8s fetched orders =>
    exact enrichIndexed_overlay addK8sMetadata_get (addK8sMetadataSlice_get _) attrs

theorem enrichSpan_overlay (run : ProcessorRun) (attrs : AttributeMap ω) :
    dictGet (run.enrichSpan attrs) = run.spanOverlay.apply (dictGet attrs) := by
  cases run with
  | slurm gpu2Slurm _ => exact enrichIndexed_overlay addSlurmMetadataStr_get (fun _ _ => rfl) attrs
  | k8s fetched _ => exact enrichIndexed_overlay addK8sMetadata_get (fun _ _ => rfl) attrs

theorem enrichLog_overlay (rendering : Rendering ω) (run : ProcessorRun) (attrs : AttributeMap ω) :
    dictGet (run.enrichLog rendering attrs) = (run.logOverlay rendering).apply (dictGet attrs) := by
  cases run with
  | slurm gpu2Slurm _ => exact enrichIndexed_overlay addSlurmMetadataStr_get (fun _ _ => rfl) attrs
  | k8s fetched _ => exact enrichIndexed_overlay addK8sMetadata_get (fun _ _ => rfl) attrs

theorem enrichMetricResource_overlay (run : ProcessorRun) (attrs : AttributeMap ω) :
    dictGet (run.enrichMetricResource attrs) = run.metricResourceOverlay.apply (dictGet attrs) := by
  cases run with
  | slurm gpu2Slurm _ => rfl
  | k8s _ orders => exact funext (addCloudAttrs_get _ attrs)

theorem enrichResource_overlay (i : Nat) (run : ProcessorRun) (attrs : AttributeMap ω) :
    dictGet (run.enrichResource i attrs) = (run.resourceOverlay i).apply (dictGet attrs) := by
  cases run with
  | slurm _ slurmJobIDs => exact funext (aggregateSlurmJobIDs_get slurmJobIDs attrs)
  | k8s _ orders => exact funext (addResourceMetadata_get _ _ attrs)

/-! ### The names that each processor writes -/

end ProcessorRun

def cloudNames : List Str := ["cloud.availability_zone", "cloud.region"].map String.toList

/-- The names that `k8sprocessor` writes. -/
def K8sName (name : Str) : Prop := name ∈ k8sColumnNames ++ cloudNames ∨ labelPrefix <+: name

/-- The first letters tell the names apart. -/
theorem K8sName.head {name : Str} (isName : K8sName name) : name.head? = some 'k' ∨ name.head? = some 'c' := by
  have columns : ∀ name ∈ k8sColumnNames ++ cloudNames, name.head? = some 'k' ∨ name.head? = some 'c' := by decide
  rcases isName with column | ⟨label, rfl⟩
  · exact columns name column
  · exact Or.inl rfl

theorem K8sName.apart {name : Str} (isName : K8sName name) : name ∉ slurmColumnNames ++ [gpuIndex, logGpuIndex] := by
  have columns : ∀ name ∈ slurmColumnNames ++ [gpuIndex, logGpuIndex],
      ¬(name.head? = some 'k' ∨ name.head? = some 'c') := by decide
  exact fun member => columns name member isName.head

theorem slurmColumnNames_apart {name : Str} (column : name ∈ slurmColumnNames) : name ∉ [gpuIndex, logGpuIndex] := by
  have heads : ∀ name ∈ [gpuIndex, logGpuIndex], name.head? = some 'g' := by decide
  have columns : ∀ name ∈ slurmColumnNames, name.head? ≠ some 'g' := by decide
  exact fun member => columns name column (heads name member)

theorem name_of_dictGet_ne_none {β γ : Type} {d : List (Str × β)} {f : β → γ} {name : Str}
    (found : (dictGet d name).map f ≠ none) : name ∈ d.map Prod.fst := by
  by_contra absent
  rw [dictGet_eq_none absent] at found
  exact found rfl

theorem slurmEntry_name {slurmMetadata : SlurmMetadata} {name : Str}
    (written : slurmEntry (ω := ω) slurmMetadata name ≠ none) : name ∈ slurmColumnNames :=
  name_of_dictGet_ne_none written

theorem slurmLists_name {gpu2Slurm : Dict Str SlurmMetadata} {name : Str}
    (written : slurmLists (ω := ω) gpu2Slurm name ≠ none) : name ∈ slurmColumnNames :=
  name_of_dictGet_ne_none written

theorem slurmJobIDsWritten_name {slurmJobIDs : List Str} {name : Str}
    (written : slurmJobIDsWritten (ω := ω) slurmJobIDs name ≠ none) : name ∈ slurmColumnNames := by
  unfold slurmJobIDsWritten at written
  split at written
  · rename_i isJobID
    rw [isJobID]
    exact List.mem_cons_self
  · exact absurd rfl written

theorem k8sEntry_name {metadata : K8sMetadata} {name : Str} (written : k8sEntry (ω := ω) metadata name ≠ none) :
    K8sName name := by
  by_cases column : name ∈ k8sColumnNames
  · exact Or.inl (List.mem_append_left _ column)
  · rw [k8sEntry, k8sEntries_other column] at written
    have member := name_of_dictGet_ne_none written
    rw [labelColumns, List.map_map, List.mem_map] at member
    obtain ⟨label, -, rfl⟩ := member
    exact Or.inr (List.prefix_append _ _)

theorem k8sLists_name {list : K8sMetadataList} {name : Str} (written : k8sLists (ω := ω) list name ≠ none) :
    K8sName name := by
  have member := name_of_dictGet_ne_none written
  have column : name ∈ (k8sListColumns list).map Prod.fst := (List.filter_sublist.map Prod.fst).subset member
  exact Or.inl (List.mem_append_left _ column)

theorem cloudWritten_name {cloud : Str × Str} {name : Str} (written : cloudWritten (ω := ω) cloud name ≠ none) :
    K8sName name := by
  unfold cloudWritten at written
  split at written
  · rename_i region
    exact Or.inl (List.mem_append_right _ (by rw [region]; exact List.mem_cons_of_mem _ List.mem_cons_self))
  · split at written
    · rename_i zone
      exact Or.inl (List.mem_append_right _ (by rw [zone]; exact List.mem_cons_self))
    · exact absurd rfl written

theorem resourceWritten_name {cloud lists : Dict Str K8sMetadata} {name : Str}
    (written : resourceWritten (ω := ω) cloud lists name ≠ none) : K8sName name := by
  unfold resourceWritten at written
  rcases found : k8sLists (ω := ω) (getK8sGPUData lists) name with _ | value
  · rw [found, Option.none_or] at written
    exact cloudWritten_name written
  · exact k8sLists_name (by rw [found]; exact Option.some_ne_none value)

theorem indexOverlay_name {P : Str → Prop} {index : Str} {text : AttributeValue ω → Str} {gpu2X : Dict Str μ}
    {entry : μ → Str → Option (AttributeValue ω)} {absent : Str → Option (AttributeValue ω)}
    (entries : ∀ metadata name, entry metadata name ≠ none → P name) (absents : ∀ name, absent name ≠ none → P name)
    (value : Option (AttributeValue ω)) (name : Str)
    (written : (indexOverlay index text gpu2X entry absent).writes value name ≠ none) : P name := by
  rcases value with _ | value
  · exact absents name written
  · rw [indexOverlay] at written
    dsimp only at written
    rcases found : gpu2X.get (text value) with _ | metadata
    · rw [found] at written
      exact absurd rfl written
    · rw [found] at written
      exact entries metadata name written

/-- The processor that may write a name. -/
def owner (name : Str) (run : ProcessorRun) : Bool := decide (name ∈ slurmColumnNames) == run.fetched.isSlurm

/-- A run whose order shows in the order of lists only. -/
def ProcessorRun.PodsAlike : ProcessorRun → Prop
  | .slurm .. => True
  | .k8s fetched _ => AlikePods (fetchedMap fetched)

/-- Overlays that read an index and write the names of their own processors. With the same map they write the same,
up to the order of lists. -/
structure ProcessorOverlays (overlay : ProcessorRun → Overlay Str (AttributeValue ω)) : Prop where
  separated : Overlay.Separated overlay owner
  again : ∀ run again, again.fetched = run.fetched → run.PodsAlike →
    (overlay again).Alike AttributeValue.unordered (overlay run)

theorem processorOverlays_of {overlay : ProcessorRun → Overlay Str (AttributeValue ω)}
    (reads : ∀ run, (overlay run).reads ∈ [gpuIndex, logGpuIndex])
    (slurm : ∀ gpu2Slurm slurmJobIDs value name,
      (overlay (.slurm gpu2Slurm slurmJobIDs)).writes value name ≠ none → name ∈ slurmColumnNames)
    (k8s : ∀ fetched orders value name, (overlay (.k8s fetched orders)).writes value name ≠ none → K8sName name)
    (alike : ∀ fetched orders orders', AlikePods (fetchedMap fetched) →
      (overlay (.k8s fetched orders')).Alike AttributeValue.unordered (overlay (.k8s fetched orders))) :
    ProcessorOverlays overlay where
  separated := {
    quiet := fun run other value => by
      by_contra written
      cases run with
      | slurm gpu2Slurm slurmJobIDs => exact slurmColumnNames_apart (slurm _ _ _ _ written) (reads other)
      | k8s fetched orders => exact (k8s _ _ _ _ written).apart (List.mem_append_right _ (reads other))
    silent := fun name run notOwner value => by
      by_contra written
      cases run with
      | slurm gpu2Slurm slurmJobIDs =>
        simp [owner, ProcessorRun.fetched, Fetched.isSlurm, slurm _ _ _ _ written] at notOwner
      | k8s fetched orders =>
        have other : name ∉ slurmColumnNames := fun column =>
          (k8s _ _ _ _ written).apart (List.mem_append_left _ column)
        simp [owner, ProcessorRun.fetched, Fetched.isSlurm, other] at notOwner }
  again := fun run again same podsAlike => by
    cases run with
    | slurm gpu2Slurm slurmJobIDs =>
      cases again with
      | slurm gpu2Slurm' slurmJobIDs' =>
        cases same
        exact Overlay.Alike.refl _ _
      | k8s fetched orders => cases same
    | k8s fetched orders =>
      cases again with
      | slurm gpu2Slurm slurmJobIDs => cases same
      | k8s fetched' orders' =>
        cases same
        exact alike fetched orders orders' podsAlike

theorem indexOverlay_alike {index : Str} {text : AttributeValue ω → Str} {gpu2X : Dict Str μ}
    {entry : μ → Str → Option (AttributeValue ω)} {absent absent' : Str → Option (AttributeValue ω)}
    {view : AttributeValue ω → β} (same : ∀ name, (absent name).map view = (absent' name).map view) :
    (indexOverlay index text gpu2X entry absent).Alike view (indexOverlay index text gpu2X entry absent') where
  reads := rfl
  writes := fun value name => by
    cases value with
    | none => exact same name
    | some value => rfl

/-- The lists of a map in two orders. -/
theorem AlikePods.k8sLists_alike {gpu2k8s lists lists' : Dict Str K8sMetadata} (alike : AlikePods gpu2k8s)
    (order : gpu2k8s.entries.Perm lists.entries) (order' : gpu2k8s.entries.Perm lists'.entries) (name : Str) :
    (k8sLists (ω := ω) (getK8sGPUData lists') name).map AttributeValue.unordered =
      (k8sLists (getK8sGPUData lists) name).map AttributeValue.unordered := by
  rw [k8sLists_unordered, k8sLists_unordered, ← alike.getK8sGPUData_sorted order, ← alike.getK8sGPUData_sorted order']

theorem AlikePods.cloud_alike {gpu2k8s : Dict Str K8sMetadata} (alike : AlikePods gpu2k8s)
    (orders orders' : MapOrders gpu2k8s) : extractCloudInfo orders'.cloud = extractCloudInfo orders.cloud :=
  (alike.extractCloudInfo_eq orders'.cloud_perm).symm.trans (alike.extractCloudInfo_eq orders.cloud_perm)

theorem pointOverlay_overlays (place : List Nat) : ProcessorOverlays (ProcessorRun.pointOverlay (ω := ω) place) := by
  refine processorOverlays_of (fun run => ?_) (fun gpu2Slurm _ => ?_) (fun fetched _ => ?_)
    fun fetched orders orders' alike => ?_
  · cases run <;> exact List.mem_cons_self
  · exact indexOverlay_name (fun _ _ => slurmEntry_name) fun _ => slurmLists_name
  · exact indexOverlay_name (fun _ _ => k8sEntry_name) fun _ => k8sLists_name
  · exact indexOverlay_alike (alike.k8sLists_alike (orders.lists_perm place) (orders'.lists_perm place))

theorem spanOverlay_overlays : ProcessorOverlays (ProcessorRun.spanOverlay (ω := ω)) := by
  refine processorOverlays_of (fun run => ?_) (fun gpu2Slurm _ => ?_) (fun fetched _ => ?_) fun _ _ _ _ => ?_
  · cases run <;> exact List.mem_cons_self
  · exact indexOverlay_name (fun _ _ => slurmEntry_name) fun _ written => absurd rfl written
  · exact indexOverlay_name (fun _ _ => k8sEntry_name) fun _ written => absurd rfl written
  · exact Overlay.Alike.refl _ _

theorem logOverlay_overlays (rendering : Rendering ω) : ProcessorOverlays (ProcessorRun.logOverlay rendering) := by
  refine processorOverlays_of (fun run => ?_) (fun gpu2Slurm _ => ?_) (fun fetched _ => ?_) fun _ _ _ _ => ?_
  · cases run <;> exact List.mem_cons_of_mem _ List.mem_cons_self
  · exact indexOverlay_name (fun _ _ => slurmEntry_name) fun _ written => absurd rfl written
  · exact indexOverlay_name (fun _ _ => k8sEntry_name) fun _ written => absurd rfl written
  · exact Overlay.Alike.refl _ _

theorem metricResourceOverlay_overlays : ProcessorOverlays (ProcessorRun.metricResourceOverlay (ω := ω)) := by
  refine processorOverlays_of (fun run => ?_) (fun _ _ _ _ written => ?_) (fun _ _ _ _ written => ?_)
    fun fetched orders orders' alike => ⟨rfl, fun value name => ?_⟩
  · cases run <;> exact List.mem_cons_self
  · exact absurd rfl written
  · exact cloudWritten_name written
  · show (cloudWritten (extractCloudInfo orders'.cloud) name).map AttributeValue.unordered = _
    rw [alike.cloud_alike orders orders']
    rfl

theorem resourceOverlay_overlays (i : Nat) : ProcessorOverlays (ProcessorRun.resourceOverlay (ω := ω) i) := by
  refine processorOverlays_of (fun run => ?_) (fun _ _ _ _ written => ?_) (fun _ _ _ _ written => ?_)
    fun fetched orders orders' alike => ⟨rfl, fun value name => ?_⟩
  · cases run <;> exact List.mem_cons_self
  · exact slurmJobIDsWritten_name written
  · exact resourceWritten_name written
  · show (resourceWritten orders'.cloud (orders'.lists [i]) name).map AttributeValue.unordered =
      (resourceWritten orders.cloud (orders.lists [i]) name).map AttributeValue.unordered
    rw [resourceWritten, resourceWritten, Option.map_or, Option.map_or, alike.cloud_alike orders orders',
      alike.k8sLists_alike (orders.lists_perm [i]) (orders'.lists_perm [i])]

/-! ### Whole pipelines -/

/-- Records that are enriched one processor after another show what the overlays do. -/
theorem foldl_overlay {enrich : ProcessorRun → AttributeMap ω → AttributeMap ω}
    {overlay : ProcessorRun → Overlay Str (AttributeValue ω)}
    (overlays : ∀ run attrs, dictGet (enrich run attrs) = (overlay run).apply (dictGet attrs))
    (runs : List ProcessorRun) (attrs : AttributeMap ω) :
    dictGet (runs.foldl (fun attrs run => enrich run attrs) attrs) = Overlay.run overlay runs (dictGet attrs) := by
  induction runs generalizing attrs with
  | nil => rfl
  | cons run rest ih => exact (ih (enrich run attrs)).trans (by rw [overlays]; rfl)

/-- A batch in which every resource and every record is changed by itself, as its place says. -/
def mapBatch (resource : Nat → AttributeMap ω → AttributeMap ω) (record : List Nat → ρ → ρ)
    (batch : List (ResourceRecords ω ρ)) : List (ResourceRecords ω ρ) :=
  batch.mapIdx fun i entry =>
    ⟨resource i entry.attributes, entry.scopes.mapIdx fun j scope => scope.mapIdx fun k r => record [i, j, k] r⟩

theorem mapIdx_const {α γ : Type} (f : α → γ) (list : List α) : (list.mapIdx fun _ => f) = list.map f := by
  induction list with
  | nil => rfl
  | cons a rest ih => rw [List.mapIdx_cons, List.map_cons, ih]

theorem map_mapIdx {α γ δ : Type} (g : γ → δ) (f : Nat → α → γ) (list : List α) :
    (list.mapIdx f).map g = list.mapIdx fun i a => g (f i a) := by
  rw [← mapIdx_const, List.mapIdx_mapIdx]
  rfl

/-- The processors work on each resource and on each record by itself. -/
theorem throughProcessors_mapBatch {process : ProcessorRun → List (ResourceRecords ω ρ) → List (ResourceRecords ω ρ)}
    {resource : ProcessorRun → Nat → AttributeMap ω → AttributeMap ω} {record : ProcessorRun → List Nat → ρ → ρ}
    (maps : ∀ run batch, process run batch = mapBatch (resource run) (record run) batch) (runs : List ProcessorRun)
    (batch : List (ResourceRecords ω ρ)) : throughProcessors process runs batch =
      mapBatch (fun i attrs => runs.foldl (fun attrs run => resource run i attrs) attrs)
        (fun place r => runs.foldl (fun r run => record run place r) r) batch := by
  induction runs generalizing batch with
  | nil => simp [throughProcessors, mapBatch, mapIdx_const]
  | cons run rest ih =>
    refine (ih (process run batch)).trans ?_
    rw [maps, mapBatch, mapBatch, mapBatch, List.mapIdx_mapIdx]
    refine congrArg (fun f => batch.mapIdx f) (funext fun i => funext fun entry => ?_)
    simp [Function.comp_def]

/-- Two pipelines whose resources and records end up showing the same. -/
theorem batchShown_congr {γ : Type} {view : AttributeValue ω → β} {shown : ρ → γ}
    {process : ProcessorRun → List (ResourceRecords ω ρ) → List (ResourceRecords ω ρ)}
    {resource : ProcessorRun → Nat → AttributeMap ω → AttributeMap ω} {record : ProcessorRun → List Nat → ρ → ρ}
    (maps : ∀ run batch, process run batch = mapBatch (resource run) (record run) batch)
    {runs runs' : List ProcessorRun}
    (resources : ∀ i attrs, attributesShown view (runs.foldl (fun attrs run => resource run i attrs) attrs) =
      attributesShown view (runs'.foldl (fun attrs run => resource run i attrs) attrs))
    (records : ∀ place r, shown (runs.foldl (fun r run => record run place r) r) =
      shown (runs'.foldl (fun r run => record run place r) r))
    (batch : List (ResourceRecords ω ρ)) :
    batchShown view shown (throughProcessors process runs batch) =
      batchShown view shown (throughProcessors process runs' batch) := by
  rw [throughProcessors_mapBatch maps, throughProcessors_mapBatch maps, batchShown, batchShown, mapBatch, mapBatch,
    map_mapIdx, map_mapIdx]
  refine congrArg (fun f => batch.mapIdx f) (funext fun i => funext fun entry => ?_)
  simp [resources, records, map_mapIdx]

/-- What a processor does to the metric at a place. -/
def ProcessorRun.processMetric (place : List Nat) : ProcessorRun → Metric ω → Metric ω
  | .slurm gpu2Slurm _ => slurmMetric gpu2Slurm
  | .k8s fetched orders => k8sMetric (fetchedMap fetched) fun l => orders.lists (place ++ [l])

theorem processMetric_type (place : List Nat) (runs : List ProcessorRun) (metric : Metric ω) :
    (runs.foldl (fun metric run => run.processMetric place metric) metric).type = metric.type := by
  induction runs generalizing metric with
  | nil => rfl
  | cons run rest ih =>
    refine (ih (run.processMetric place metric)).trans ?_
    cases run <;> cases metric <;> rfl

theorem processMetric_dataPoints (place : List Nat) (runs : List ProcessorRun) (metric : Metric ω) :
    (runs.foldl (fun metric run => run.processMetric place metric) metric).dataPoints =
      metric.dataPoints.mapIdx fun l attrs =>
        runs.foldl (fun attrs run => run.enrichPoint (place ++ [l]) attrs) attrs := by
  induction runs generalizing metric with
  | nil =>
    show metric.dataPoints = metric.dataPoints.mapIdx fun _ attrs => attrs
    rw [mapIdx_const, List.map_id']
  | cons run rest ih =>
    have points : (run.processMetric place metric).dataPoints =
        metric.dataPoints.mapIdx fun l attrs => run.enrichPoint (place ++ [l]) attrs := by
      cases run with
      | slurm gpu2Slurm _ => exact (slurmMetric_dataPoints gpu2Slurm metric).trans (mapIdx_const _ _).symm
      | k8s fetched orders => exact k8sMetric_dataPoints _ _ metric
    refine (ih (run.processMetric place metric)).trans ?_
    rw [points, List.mapIdx_mapIdx]
    rfl

theorem processMetrics_map (run : ProcessorRun) (batch : List (ResourceRecords ω (Metric ω))) :
    run.processMetrics batch =
      mapBatch (fun _ => run.enrichMetricResource) (fun place => run.processMetric place) batch := by
  cases run with
  | slurm gpu2Slurm _ => simp only [mapBatch, ProcessorRun.processMetric, mapIdx_const]; rfl
  | k8s fetched orders => rfl

theorem processTraces_map (run : ProcessorRun) (batch : List (ResourceRecords ω (AttributeMap ω))) :
    run.processTraces batch = mapBatch (fun i => run.enrichResource i) (fun _ => run.enrichSpan) batch := by
  cases run with
  | slurm gpu2Slurm _ => simp only [mapBatch, ProcessorRun.enrichResource, mapIdx_const]; rfl
  | k8s fetched orders => simp only [mapBatch, mapIdx_const]; rfl

theorem processLogs_map (rendering : Rendering ω) (run : ProcessorRun)
    (batch : List (ResourceRecords ω (AttributeMap ω))) : run.processLogs rendering batch =
      mapBatch (fun i => run.enrichResource i) (fun _ => run.enrichLog rendering) batch := by
  cases run with
  | slurm gpu2Slurm _ => simp only [mapBatch, ProcessorRun.enrichResource, mapIdx_const]; rfl
  | k8s fetched orders => simp only [mapBatch, mapIdx_const]; rfl

/-- A view shows every batch alike after one pipeline and after the other. -/
structure SameBatches (view : AttributeValue ω → β) (rendering : Rendering ω) (runs runs' : List ProcessorRun) :
    Prop where
  metrics : ∀ batch : List (ResourceRecords ω (Metric ω)),
    batchShown view (Metric.shown view) (throughProcessors ProcessorRun.processMetrics runs batch) =
      batchShown view (Metric.shown view) (throughProcessors ProcessorRun.processMetrics runs' batch)
  traces : ∀ batch : List (ResourceRecords ω (AttributeMap ω)),
    batchShown view (attributesShown view) (throughProcessors ProcessorRun.processTraces runs batch) =
      batchShown view (attributesShown view) (throughProcessors ProcessorRun.processTraces runs' batch)
  logs : ∀ batch : List (ResourceRecords ω (AttributeMap ω)),
    batchShown view (attributesShown view) (throughProcessors (ProcessorRun.processLogs rendering) runs batch) =
      batchShown view (attributesShown view) (throughProcessors (ProcessorRun.processLogs rendering) runs' batch)

/-- It is enough that a view shows alike what the overlays of the processors do. -/
theorem sameBatches_of_overlays {view : AttributeValue ω → β} {runs runs' : List ProcessorRun}
    (same : ∀ overlay : ProcessorRun → Overlay Str (AttributeValue ω), ProcessorOverlays overlay →
      ∀ m key, (Overlay.run overlay runs m key).map view = (Overlay.run overlay runs' m key).map view)
    (rendering : Rendering ω) : SameBatches view rendering runs runs' := by
  have shown {enrich : ProcessorRun → AttributeMap ω → AttributeMap ω}
      {overlay : ProcessorRun → Overlay Str (AttributeValue ω)} (overlays : ProcessorOverlays overlay)
      (enriches : ∀ run attrs, dictGet (enrich run attrs) = (overlay run).apply (dictGet attrs))
      (attrs : AttributeMap ω) : attributesShown view (runs.foldl (fun attrs run => enrich run attrs) attrs) =
        attributesShown view (runs'.foldl (fun attrs run => enrich run attrs) attrs) := by
    funext name
    rw [attributesShown, attributesShown, foldl_overlay enriches, foldl_overlay enriches]
    exact same overlay overlays (dictGet attrs) name
  refine ⟨batchShown_congr processMetrics_map (fun _ => ?_) fun place metric => ?_,
    batchShown_congr processTraces_map (fun i => ?_) fun _ => ?_,
    batchShown_congr (processLogs_map rendering) (fun i => ?_) fun _ => ?_⟩
  · exact shown metricResourceOverlay_overlays ProcessorRun.enrichMetricResource_overlay
  · unfold Metric.shown
    rw [processMetric_type, processMetric_type, processMetric_dataPoints, processMetric_dataPoints, map_mapIdx,
      map_mapIdx]
    refine congrArg (fun f => (metric.type, metric.dataPoints.mapIdx f)) (funext fun l => funext fun attrs => ?_)
    exact shown (pointOverlay_overlays (place ++ [l])) (ProcessorRun.enrichPoint_overlay (place ++ [l])) attrs
  · exact shown (resourceOverlay_overlays i) (ProcessorRun.enrichResource_overlay i)
  · exact shown spanOverlay_overlays ProcessorRun.enrichSpan_overlay
  · exact shown (resourceOverlay_overlays i) (ProcessorRun.enrichResource_overlay i)
  · exact shown (logOverlay_overlays rendering) (ProcessorRun.enrichLog_overlay rendering)

/-! ### The two processors in any order -/

theorem filter_owner (runs : List ProcessorRun) (name : Str) :
    runs.filter (owner name) =
      if name ∈ slurmColumnNames then runs.filter (fun run => run.fetched.isSlurm)
      else runs.filter fun run => !run.fetched.isSlurm := by
  split <;> rename_i column <;> refine List.filter_congr fun run _ => ?_ <;> simp [owner, column]

/-- Two lists are put together as the images of their elements say. -/
theorem exists_interleaving {α γ : Type} (f : α → γ) (p : γ → Bool) {ys : List γ} {yes no : List α}
    (isYes : yes.map f = ys.filter p) (isNo : no.map f = ys.filter fun y => !p y) :
    ∃ xs : List α, xs.map f = ys ∧ xs.filter (fun x => p (f x)) = yes ∧ xs.filter (fun x => !p (f x)) = no := by
  induction ys generalizing yes no with
  | nil => exact ⟨[], rfl, (List.map_eq_nil_iff.mp isYes).symm, (List.map_eq_nil_iff.mp isNo).symm⟩
  | cons y ys ih =>
    rcases side : p y with _ | _
    · rw [List.filter_cons_of_neg (by simp [side])] at isYes
      rw [List.filter_cons_of_pos (by simp [side])] at isNo
      obtain ⟨x, rest, rfl, isY, isRest⟩ := List.map_eq_cons_iff.mp isNo
      obtain ⟨xs, images, yesIs, noIs⟩ := ih isYes isRest
      exact ⟨x :: xs, by rw [List.map_cons, isY, images], by simp [isY, side, yesIs], by simp [isY, side, noIs]⟩
    · rw [List.filter_cons_of_pos side] at isYes
      rw [List.filter_cons_of_neg (by simp [side])] at isNo
      obtain ⟨x, rest, rfl, isY, isRest⟩ := List.map_eq_cons_iff.mp isYes
      obtain ⟨xs, images, yesIs, noIs⟩ := ih isRest isNo
      exact ⟨x :: xs, by rw [List.map_cons, isY, images], by simp [isY, side, yesIs], by simp [isY, side, noIs]⟩

/-- The order in which the two processors stand does not matter. In another pipeline, in which the runs of each
processor fetch the same one after another, every batch may become what it becomes in this one: in some orders of
the maps, it shows the same. -/
theorem pipelines_interleave (rendering : Rendering ω) (runs : List ProcessorRun) (fetched : List Fetched)
    (slurm : (runs.map ProcessorRun.fetched).filter Fetched.isSlurm = fetched.filter Fetched.isSlurm)
    (k8s : ((runs.map ProcessorRun.fetched).filter fun one => !one.isSlurm) = fetched.filter fun one => !one.isSlurm) :
    ∃ runs' : List ProcessorRun, runs'.map ProcessorRun.fetched = fetched ∧ SameBatches id rendering runs runs' := by
  rw [List.filter_map] at slurm k8s
  obtain ⟨runs', fetches, slurm', k8s'⟩ := exists_interleaving ProcessorRun.fetched Fetched.isSlurm slurm k8s
  refine ⟨runs', fetches, sameBatches_of_overlays (fun overlay overlays m key => ?_) rendering⟩
  rw [overlays.separated.run_eq fun name => ?_]
  rw [filter_owner, filter_owner, slurm', k8s']
  rfl

/-- The map in the other order for the lists of every second place. -/
def twoPodsOrders : MapOrders twoPods where
  cloud := twoPodsReversed
  lists := fun place => if place.sum % 2 = 0 then twoPods else twoPodsReversed
  cloud_perm := List.Perm.swap _ _ _
  lists_perm := fun place => by
    split
    · exact List.Perm.refl _
    · exact List.Perm.swap _ _ _

/-- A job and two pods on two GPUs. -/
theorem pipelines_interleave_pair : ∃ runs' : List ProcessorRun,
    runs'.map ProcessorRun.fetched = [.k8s (.ok twoPods), .slurm gpu0Job ["7".toList]] ∧
      SameBatches id plainRendering [.slurm gpu0Job ["7".toList], .k8s (.ok twoPods) twoPodsOrders] runs' :=
  pipelines_interleave plainRendering [.slurm gpu0Job ["7".toList], .k8s (.ok twoPods) twoPodsOrders]
    [.k8s (.ok twoPods), .slurm gpu0Job ["7".toList]] rfl rfl

/-- A processor that runs once more with what it fetched before changes nothing, with runs of the other one
in between. If it runs through the map in other orders, lists may change theirs. -/
theorem pipelines_again (rendering : Rendering ω) (before between after : List ProcessorRun) (run again : ProcessorRun)
    (same : again.fetched = run.fetched) (alike : run.PodsAlike)
    (others : ∀ other ∈ between, other.fetched.isSlurm ≠ run.fetched.isSlurm) :
    SameBatches AttributeValue.unordered rendering (before ++ run :: (between ++ again :: after))
      (before ++ run :: (between ++ after)) := by
  refine sameBatches_of_overlays (fun overlay overlays m key => ?_) rendering
  refine overlays.separated.run_again_view (overlays.again run again same alike)
    (fun other member name owned => ?_) m key
  have isOther := others other member
  unfold owner at owned ⊢
  rw [beq_iff_eq] at owned
  rw [owned, beq_eq_false_iff_ne]
  exact isOther.symm

theorem twoPods_alike : AlikePods twoPods where
  owners := fun a inA b inB same => by
    have distinct : (twoPods.entries.map fun entry => entry.2.key).Nodup := by decide
    have one : a = b := List.inj_on_of_nodup_map distinct inA inB same
    rw [one]
    exact K8sMetadata.lists_eq_iff.mp rfl
  cloud := by decide

theorem pipelines_again_pair :
    SameBatches AttributeValue.unordered plainRendering
      [.k8s (.ok twoPods) (.same twoPods), .slurm gpu0Job ["7".toList], .k8s (.ok twoPods) twoPodsOrders]
      [.k8s (.ok twoPods) (.same twoPods), .slurm gpu0Job ["7".toList]] :=
  pipelines_again plainRendering [] [.slurm gpu0Job ["7".toList]] [] (.k8s (.ok twoPods) (.same twoPods))
    (.k8s (.ok twoPods) twoPodsOrders) rfl twoPods_alike fun other member => by
      rw [List.mem_singleton.mp member]
      exact Bool.false_ne_true.symm

end GpuTelemetry
