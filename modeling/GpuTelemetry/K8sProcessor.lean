import GpuTelemetry.Attributes
import GpuTelemetry.K8sGpuMap

namespace GpuTelemetry

variable {ω : Type}

/-- The names over all GPUs of a node. -/
structure K8sMetadataList where
  PodName : List Str
  Namespace : List Str
  NodeName : List Str
  ContainerName : List Str
  JobName : List Str
  StatefulSetName : List Str
  DeploymentName : List Str
  CustomOwnerKind : List Str
  CustomOwnerName : List Str

/-- A text that is left out when it is empty. -/
def nonEmpty (s : Str) : Option Str := if s ≠ [] then some s else none

/-- One round of the loop of `GetGPUData`: a pod is only taken the first time. -/
def addGPUData (state : K8sMetadataList × List Str) (metadata : K8sMetadata) : K8sMetadataList × List Str :=
  let (result, seen) := state
  let key := metadata.Namespace ++ "/".toList ++ metadata.PodName
  if seen.contains key then state
  else
    ({ PodName := result.PodName ++ [metadata.PodName]
       Namespace := result.Namespace ++ [metadata.Namespace]
       NodeName := result.NodeName ++ [metadata.NodeName]
       ContainerName := result.ContainerName ++ [metadata.ContainerName]
       JobName := result.JobName ++ (nonEmpty metadata.JobName).toList
       StatefulSetName := result.StatefulSetName ++ (nonEmpty metadata.StatefulSetName).toList
       DeploymentName := result.DeploymentName ++ (nonEmpty metadata.DeploymentName).toList
       CustomOwnerKind := result.CustomOwnerKind ++ (nonEmpty metadata.CustomOwnerKind).toList
       CustomOwnerName :=
        result.CustomOwnerName ++ if metadata.CustomOwnerKind ≠ [] then [metadata.CustomOwnerName] else [] },
      key :: seen)

/-- `GetGPUData` with the entries in the order in which the loop meets them. -/
def getK8sGPUData (gpu2k8s : Dict Str K8sMetadata) : K8sMetadataList :=
  (gpu2k8s.entries.foldl (fun state entry => addGPUData state entry.2) (⟨[], [], [], [], [], [], [], [], []⟩, [])).1

/-! ### Attributes -/

/-- A text that is only put when it is not empty. -/
def putNonEmpty (attributes : AttributeMap ω) (name text : Str) : AttributeMap ω :=
  if text ≠ [] then putStr attributes name text else attributes

def labelPrefix : Str := "k8s.pod.label.".toList

/-- The labels are put one by one, here in the order of the entries. -/
def addK8sMetadata (attributes : AttributeMap ω) (metadata : K8sMetadata) : AttributeMap ω :=
  let attributes := putStr attributes "k8s.pod.name".toList metadata.PodName
  let attributes := putStr attributes "k8s.namespace.name".toList metadata.Namespace
  let attributes := putStr attributes "k8s.node.name".toList metadata.NodeName
  let attributes := putStr attributes "k8s.container.name".toList metadata.ContainerName
  let attributes := putNonEmpty attributes "k8s.job.name".toList metadata.JobName
  let attributes := putNonEmpty attributes "k8s.statefulset.name".toList metadata.StatefulSetName
  let attributes := putNonEmpty attributes "k8s.deployment.name".toList metadata.DeploymentName
  let attributes :=
    if metadata.CustomOwnerKind ≠ [] then
      putStr (putStr attributes "k8s.owner.kind".toList metadata.CustomOwnerKind) "k8s.owner.name".toList
        metadata.CustomOwnerName
    else attributes
  metadata.Labels.entries.foldl (fun attributes label => putStr attributes (labelPrefix ++ label.1) label.2) attributes

def putStrSlice (attributes : AttributeMap ω) (key : Str) (values : List Str) : AttributeMap ω :=
  if values = [] then attributes else putSlice attributes key values

def addK8sMetadataSlice (attributes : AttributeMap ω) (list : K8sMetadataList) : AttributeMap ω :=
  [("k8s.pod.name".toList, list.PodName),
    ("k8s.namespace.name".toList, list.Namespace),
    ("k8s.node.name".toList, list.NodeName),
    ("k8s.container.name".toList, list.ContainerName),
    ("k8s.job.name".toList, list.JobName),
    ("k8s.statefulset.name".toList, list.StatefulSetName),
    ("k8s.deployment.name".toList, list.DeploymentName),
    ("k8s.owner.kind".toList, list.CustomOwnerKind),
    ("k8s.owner.name".toList, list.CustomOwnerName)].foldl
      (fun attributes column => putStrSlice attributes column.1 column.2) attributes

/-- The zone and the region of the first GPU that the loop meets. -/
def extractCloudInfo (gpu2k8s : Dict Str K8sMetadata) : Str × Str :=
  match gpu2k8s.entries with
  | (_, metadata) :: _ => (metadata.CloudZone, metadata.CloudRegion)
  | [] => ([], [])

def addCloudAttrs (attrs : AttributeMap ω) (cloud : Str × Str) : AttributeMap ω :=
  putNonEmpty (putNonEmpty attrs "cloud.availability_zone".toList cloud.1) "cloud.region".toList cloud.2

/-! ### The three paths -/

/-- The map a processor works with, empty after an error. -/
def fetchedMap (fetched : Except Str (Dict Str K8sMetadata)) : Dict Str K8sMetadata :=
  match fetched with
  | .ok gpu2k8s => gpu2k8s
  | .error _ => .empty

/-- The orders in which the loops run through the map. Go takes a new one for each loop: one for the zone and the
region of a batch, and one for the lists at every place of the batch that gets lists. -/
structure MapOrders (gpu2k8s : Dict Str K8sMetadata) where
  cloud : Dict Str K8sMetadata
  lists : List Nat → Dict Str K8sMetadata
  cloud_perm : gpu2k8s.entries.Perm cloud.entries
  lists_perm : ∀ place, gpu2k8s.entries.Perm (lists place).entries

/-- The order of the entries, each time. -/
def MapOrders.same (gpu2k8s : Dict Str K8sMetadata) : MapOrders gpu2k8s :=
  ⟨gpu2k8s, fun _ => gpu2k8s, List.Perm.refl _, fun _ => List.Perm.refl _⟩

/-- A data point without an index gets the lists, here in the order `lists` of the map. -/
def enrichAttrMap (gpu2k8s lists : Dict Str K8sMetadata) (attrs : AttributeMap ω) : AttributeMap ω :=
  enrichIndexed gpuIndex AttributeValue.getStr gpu2k8s addK8sMetadata
    (fun attrs => addK8sMetadataSlice attrs (getK8sGPUData lists)) attrs

def enrichNumberDataPoints (datapoints : List (AttributeMap ω)) (gpu2k8s : Dict Str K8sMetadata)
    (lists : Nat → Dict Str K8sMetadata) : List (AttributeMap ω) :=
  datapoints.mapIdx fun l attrs => enrichAttrMap gpu2k8s (lists l) attrs

/-- The `switch` on the type of a metric. -/
def k8sMetric (gpu2k8s : Dict Str K8sMetadata) (lists : Nat → Dict Str K8sMetadata) : Metric ω → Metric ω
  | .gauge datapoints => .gauge (enrichNumberDataPoints datapoints gpu2k8s lists)
  | .sum datapoints => .sum (enrichNumberDataPoints datapoints gpu2k8s lists)
  | .histogram datapoints => .histogram (datapoints.mapIdx fun l attrs => enrichAttrMap gpu2k8s (lists l) attrs)
  | .exponentialHistogram datapoints =>
    .exponentialHistogram (datapoints.mapIdx fun l attrs => enrichAttrMap gpu2k8s (lists l) attrs)
  | .summary datapoints => .summary (datapoints.mapIdx fun l attrs => enrichAttrMap gpu2k8s (lists l) attrs)
  | .empty => .empty

def k8sProcessMetrics (fetched : Except Str (Dict Str K8sMetadata)) (orders : MapOrders (fetchedMap fetched))
    (metrics : List (ResourceRecords ω (Metric ω))) : List (ResourceRecords ω (Metric ω)) :=
  metrics.mapIdx fun i resource =>
    { resource with attributes := addCloudAttrs resource.attributes (extractCloudInfo orders.cloud) }.mapRecordsIdx
      fun j k => k8sMetric (fetchedMap fetched) fun l => orders.lists [i, j, k, l]

/-- The body of the loop over the spans. -/
def enrichSpan (gpu2k8s : Dict Str K8sMetadata) (span : AttributeMap ω) : AttributeMap ω :=
  enrichIndexed gpuIndex AttributeValue.getStr gpu2k8s addK8sMetadata id span

/-- The attributes of a resource that traces and logs come from. -/
def addResourceMetadata (cloud lists : Dict Str K8sMetadata) (attributes : AttributeMap ω) : AttributeMap ω :=
  addK8sMetadataSlice (addCloudAttrs attributes (extractCloudInfo cloud)) (getK8sGPUData lists)

def k8sProcessTraces (fetched : Except Str (Dict Str K8sMetadata)) (orders : MapOrders (fetchedMap fetched))
    (traces : List (ResourceRecords ω (AttributeMap ω))) : List (ResourceRecords ω (AttributeMap ω)) :=
  traces.mapIdx fun i resource =>
    { resource with attributes := addResourceMetadata orders.cloud (orders.lists [i]) resource.attributes }.mapRecords
      (enrichSpan (fetchedMap fetched))

def enrichLogRecord (rendering : Rendering ω) (gpu2k8s : Dict Str K8sMetadata) (logRecord : AttributeMap ω) :
    AttributeMap ω :=
  enrichIndexed logGpuIndex rendering.asString gpu2k8s addK8sMetadata id logRecord

def k8sProcessLogs (rendering : Rendering ω) (fetched : Except Str (Dict Str K8sMetadata))
    (orders : MapOrders (fetchedMap fetched)) (logs : List (ResourceRecords ω (AttributeMap ω))) :
    List (ResourceRecords ω (AttributeMap ω)) :=
  logs.mapIdx fun i resource =>
    { resource with attributes := addResourceMetadata orders.cloud (orders.lists [i]) resource.attributes }.mapRecords
      (enrichLogRecord rendering (fetchedMap fetched))

/-! ### What is written -/

def k8sColumnNames : List Str :=
  ["k8s.pod.name", "k8s.namespace.name", "k8s.node.name", "k8s.container.name", "k8s.job.name",
    "k8s.statefulset.name", "k8s.deployment.name", "k8s.owner.kind", "k8s.owner.name"].map String.toList

/-- The attributes that a pod may have, apart from its labels. -/
def k8sColumns (metadata : K8sMetadata) : List (Str × Option Str) :=
  [("k8s.pod.name".toList, some metadata.PodName),
    ("k8s.namespace.name".toList, some metadata.Namespace),
    ("k8s.node.name".toList, some metadata.NodeName),
    ("k8s.container.name".toList, some metadata.ContainerName),
    ("k8s.job.name".toList, nonEmpty metadata.JobName),
    ("k8s.statefulset.name".toList, nonEmpty metadata.StatefulSetName),
    ("k8s.deployment.name".toList, nonEmpty metadata.DeploymentName),
    ("k8s.owner.kind".toList, nonEmpty metadata.CustomOwnerKind),
    ("k8s.owner.name".toList, if metadata.CustomOwnerKind ≠ [] then some metadata.CustomOwnerName else none)]

def labelColumns (metadata : K8sMetadata) : List (Str × Str) :=
  metadata.Labels.entries.map fun label => (labelPrefix ++ label.1, label.2)

def k8sEntries (metadata : K8sMetadata) : List (Str × Str) := present (k8sColumns metadata) ++ labelColumns metadata

/-- What the metadata of a pod writes. -/
def k8sEntry (metadata : K8sMetadata) (name : Str) : Option (AttributeValue ω) :=
  (dictGet (k8sEntries metadata) name).map AttributeValue.str

/-- The metadata show the same in the attributes. -/
structure SameAttributes (metadata metadata' : K8sMetadata) : Prop where
  podName : metadata.PodName = metadata'.PodName
  namespaceName : metadata.Namespace = metadata'.Namespace
  nodeName : metadata.NodeName = metadata'.NodeName
  containerName : metadata.ContainerName = metadata'.ContainerName
  jobName : metadata.JobName = metadata'.JobName
  statefulSetName : metadata.StatefulSetName = metadata'.StatefulSetName
  deploymentName : metadata.DeploymentName = metadata'.DeploymentName
  customOwnerKind : metadata.CustomOwnerKind = metadata'.CustomOwnerKind
  customOwnerName : metadata.CustomOwnerKind ≠ [] → metadata.CustomOwnerName = metadata'.CustomOwnerName
  labels : ∀ label, metadata.Labels.get label = metadata'.Labels.get label

theorem foldl_present_nonEmpty (name text : Str) (columns : List (Str × Option Str)) (rest : List (Str × Str))
    (attributes : AttributeMap ω) :
    (present ((name, nonEmpty text) :: columns) ++ rest).foldl (fun attrs entry => putStr attrs entry.1 entry.2)
        attributes =
      (present columns ++ rest).foldl (fun attrs entry => putStr attrs entry.1 entry.2)
        (putNonEmpty attributes name text) := by
  unfold nonEmpty putNonEmpty
  by_cases filled : text ≠ []
  · rw [if_pos filled, if_pos filled]
    rfl
  · rw [if_neg filled, if_neg filled]
    rfl

theorem foldl_present_some (name text : Str) (columns : List (Str × Option Str)) (rest : List (Str × Str))
    (attributes : AttributeMap ω) :
    (present ((name, some text) :: columns) ++ rest).foldl (fun attrs entry => putStr attrs entry.1 entry.2)
        attributes =
      (present columns ++ rest).foldl (fun attrs entry => putStr attrs entry.1 entry.2)
        (putStr attributes name text) := rfl

theorem addK8sMetadata_eq (attributes : AttributeMap ω) (metadata : K8sMetadata) : addK8sMetadata attributes metadata =
    (k8sEntries metadata).foldl (fun attrs entry => putStr attrs entry.1 entry.2) attributes := by
  unfold addK8sMetadata k8sEntries k8sColumns
  rw [foldl_present_some, foldl_present_some, foldl_present_some, foldl_present_some, foldl_present_nonEmpty,
    foldl_present_nonEmpty, foldl_present_nonEmpty]
  by_cases owned : metadata.CustomOwnerKind ≠ []
  · simp only [nonEmpty, if_pos owned]
    rw [foldl_present_some, foldl_present_some, labelColumns, present, List.filterMap_nil, List.nil_append,
      List.foldl_map]
  · simp only [nonEmpty, if_neg owned]
    rw [labelColumns, List.foldl_append, List.foldl_map]
    rfl

/-! The names -/

theorem k8sColumnNames_nodup : k8sColumnNames.Nodup := by decide

theorem label_not_column (label : Str) : labelPrefix ++ label ∉ k8sColumnNames := by
  have apart : ∀ name ∈ k8sColumnNames, ¬labelPrefix <+: name := by decide
  exact fun member => apart _ member (List.prefix_append _ _)

theorem labelColumns_other {name : Str} (other : ∀ label, name ≠ labelPrefix ++ label) (metadata : K8sMetadata) :
    dictGet (labelColumns metadata) name = none := by
  refine dictGet_eq_none fun member => ?_
  rw [labelColumns, List.map_map, List.mem_map] at member
  obtain ⟨label, -, isName⟩ := member
  exact other label.1 isName.symm

theorem labelColumns_get (metadata : K8sMetadata) (label : Str) :
    dictGet (labelColumns metadata) (labelPrefix ++ label) = metadata.Labels.get label :=
  dictGet_mapKeys (List.append_right_injective labelPrefix) _ label

theorem k8sEntries_column {name : Str} (column : name ∈ k8sColumnNames) (metadata : K8sMetadata) :
    dictGet (k8sEntries metadata) name = dictGet (present (k8sColumns metadata)) name := by
  have other : ∀ label, name ≠ labelPrefix ++ label := fun label same => label_not_column label (same ▸ column)
  rw [k8sEntries, dictGet_append, labelColumns_other other, Option.or_none]

theorem present_k8sColumns_other {name : Str} (other : name ∉ k8sColumnNames) (metadata : K8sMetadata) :
    dictGet (present (k8sColumns metadata)) name = none :=
  dictGet_eq_none fun member => other ((present_keys_sublist (k8sColumns metadata)).subset member)

theorem k8sEntries_other {name : Str} (other : name ∉ k8sColumnNames) (metadata : K8sMetadata) :
    dictGet (k8sEntries metadata) name = dictGet (labelColumns metadata) name := by
  rw [k8sEntries, dictGet_append, present_k8sColumns_other other, Option.none_or]

theorem k8sEntries_nodup (metadata : K8sMetadata) : ((k8sEntries metadata).map Prod.fst).Nodup := by
  rw [k8sEntries, List.map_append, List.nodup_append]
  refine ⟨k8sColumnNames_nodup.sublist (present_keys_sublist (k8sColumns metadata)), ?_, ?_⟩
  · have keys : (labelColumns metadata).map Prod.fst =
        (metadata.Labels.entries.map Prod.fst).map (labelPrefix ++ ·) := by simp [labelColumns]
    rw [keys]
    exact metadata.Labels.distinct.map (List.append_right_injective labelPrefix)
  · intro name inColumns name' inLabels same
    have column : name ∈ k8sColumnNames := (present_keys_sublist (k8sColumns metadata)).subset inColumns
    rw [labelColumns, List.map_map, List.mem_map] at inLabels
    obtain ⟨label, -, isName⟩ := inLabels
    have isColumn : labelPrefix ++ label.1 = name := isName.trans same.symm
    exact label_not_column label.1 (isColumn ▸ column)

theorem addK8sMetadata_get (attributes : AttributeMap ω) (metadata : K8sMetadata) (name : Str) :
    dictGet (addK8sMetadata attributes metadata) name =
      (k8sEntry metadata name).or (dictGet attributes name) := by
  rw [addK8sMetadata_eq, foldl_putStr_get (k8sEntries_nodup metadata)]
  rfl

/-! What two pods write -/

theorem nonEmpty_injective : Function.Injective nonEmpty := by
  intro s s' same
  unfold nonEmpty at same
  by_cases filled : s ≠ [] <;> by_cases filled' : s' ≠ []
  · simpa [filled, filled'] using same
  · simp [filled, filled'] at same
  · simp [filled, filled'] at same
  · rw [not_not.mp filled, not_not.mp filled']

theorem k8sColumns_eq_iff {metadata metadata' : K8sMetadata} :
    k8sColumns metadata = k8sColumns metadata' ∧ (∀ label, metadata.Labels.get label = metadata'.Labels.get label) ↔
      SameAttributes metadata metadata' := by
  constructor
  · rintro ⟨columns, labels⟩
    simp only [k8sColumns, List.cons.injEq, Prod.mk.injEq, true_and, and_true, Option.some.injEq,
      nonEmpty_injective.eq_iff] at columns
    obtain ⟨pod, ns, node, container, job, stateful, deployment, kind, owner⟩ := columns
    refine ⟨pod, ns, node, container, job, stateful, deployment, kind, fun owned => ?_, labels⟩
    rw [if_pos owned, if_pos (kind ▸ owned)] at owner
    exact Option.some.inj owner
  · intro same
    refine ⟨?_, same.labels⟩
    have owner : (if metadata.CustomOwnerKind ≠ [] then some metadata.CustomOwnerName else none) =
        if metadata'.CustomOwnerKind ≠ [] then some metadata'.CustomOwnerName else none := by
      rw [← same.customOwnerKind]
      split
      · rename_i owned
        rw [same.customOwnerName owned]
      · rfl
    rw [k8sColumns, k8sColumns, owner, same.podName, same.namespaceName, same.nodeName, same.containerName,
      same.jobName, same.statefulSetName, same.deploymentName, same.customOwnerKind]

/-- What a pod writes tells its metadata apart, as far as they show. -/
theorem k8sEntry_eq_iff {metadata metadata' : K8sMetadata} :
    (∀ name, k8sEntry (ω := ω) metadata name = k8sEntry metadata' name) ↔ SameAttributes metadata metadata' := by
  have texts : (∀ name, k8sEntry (ω := ω) metadata name = k8sEntry metadata' name) ↔
      ∀ name, dictGet (k8sEntries metadata) name = dictGet (k8sEntries metadata') name :=
    forall_congr' fun name => (Option.map_injective fun _ _ same => AttributeValue.str.inj same).eq_iff
  rw [texts, ← k8sColumns_eq_iff]
  constructor
  · intro same
    refine ⟨eq_of_dictGet_present rfl k8sColumnNames_nodup fun name => ?_, fun label => ?_⟩
    · by_cases column : name ∈ k8sColumnNames
      · rw [← k8sEntries_column column, ← k8sEntries_column column, same]
      · rw [present_k8sColumns_other column, present_k8sColumns_other column]
    · rw [← labelColumns_get, ← labelColumns_get, ← k8sEntries_other (label_not_column label),
        ← k8sEntries_other (label_not_column label), same]
  · rintro ⟨columns, labels⟩ name
    by_cases isLabel : ∃ label, name = labelPrefix ++ label
    · obtain ⟨label, rfl⟩ := isLabel
      rw [k8sEntries_other (label_not_column label), k8sEntries_other (label_not_column label), labelColumns_get,
        labelColumns_get, labels]
    · have other : ∀ label, name ≠ labelPrefix ++ label := not_exists.mp isLabel
      rw [k8sEntries, k8sEntries, dictGet_append, dictGet_append, labelColumns_other other,
        labelColumns_other other, columns]

theorem k8sEntry_index (metadata : K8sMetadata) {name : Str} (isIndex : name ∈ [gpuIndex, logGpuIndex]) :
    k8sEntry (ω := ω) metadata name = none := by
  have apart : ∀ name ∈ [gpuIndex, logGpuIndex], name ∉ k8sColumnNames ∧ ¬labelPrefix <+: name := by decide
  have other : ∀ label, name ≠ labelPrefix ++ label := fun label same =>
    (apart name isIndex).2 (same ▸ List.prefix_append _ _)
  rw [k8sEntry, k8sEntries_other (apart name isIndex).1, labelColumns_other other]
  rfl

/-- What a GPU's pod writes, if it has one. -/
def k8sWritten (found : Option K8sMetadata) (name : Str) : Option (AttributeValue ω) :=
  found.bind fun metadata => k8sEntry metadata name

theorem k8sWritten_eq_iff {found found' : Option K8sMetadata} :
    (∀ name, k8sWritten (ω := ω) found name = k8sWritten found' name) ↔ Option.Rel SameAttributes found found' := by
  have some_ne_none : ∀ metadata, ¬∀ name, k8sWritten (ω := ω) (some metadata) name = k8sWritten none name := by
    intro metadata same
    have podName := same "k8s.pod.name".toList
    rw [k8sWritten, Option.bind_some, k8sEntry, k8sEntries_column (by decide), k8sColumns] at podName
    cases podName
  rcases found with _ | metadata <;> rcases found' with _ | metadata'
  · exact iff_of_true (fun _ => rfl) .none
  · exact iff_of_false (fun same => some_ne_none metadata' fun name => (same name).symm) (by rintro ⟨⟩)
  · exact iff_of_false (some_ne_none metadata) (by rintro ⟨⟩)
  · rw [Option.rel_some_some]
    exact k8sEntry_eq_iff

/-! The paths -/

/-- The paths agree in whatever orders they run through the map. -/
def K8sPathsAgree (rendering : Rendering ω) (gpu2k8s : Dict Str K8sMetadata) (index : AttributeValue ω) : Prop :=
  ∀ metrics traces logs : MapOrders gpu2k8s, PathsAgree (k8sProcessMetrics (.ok gpu2k8s) metrics)
    (k8sProcessTraces (.ok gpu2k8s) traces) (k8sProcessLogs rendering (.ok gpu2k8s) logs) index

theorem k8sMetric_dataPoints (gpu2k8s : Dict Str K8sMetadata) (lists : Nat → Dict Str K8sMetadata)
    (metric : Metric ω) : (k8sMetric gpu2k8s lists metric).dataPoints =
      metric.dataPoints.mapIdx fun l attrs => enrichAttrMap gpu2k8s (lists l) attrs := by
  cases metric <;> rfl

/-- The paths agree when the index leads to pods that show the same as a string and
as text. -/
theorem k8sPathsAgree_iff (rendering : Rendering ω) (gpu2k8s : Dict Str K8sMetadata) (index : AttributeValue ω) :
    K8sPathsAgree rendering gpu2k8s index ↔
      Option.Rel SameAttributes (gpu2k8s.get index.getStr) (gpu2k8s.get (rendering.asString index)) := by
  have points (lists : Dict Str K8sMetadata) : IndexWrites (enrichAttrMap gpu2k8s lists) gpuIndex index
      (k8sWritten (gpu2k8s.get index.getStr)) := indexWrites_enrichIndexed addK8sMetadata_get
  have spans : IndexWrites (enrichSpan gpu2k8s) gpuIndex index (k8sWritten (gpu2k8s.get index.getStr)) :=
    indexWrites_enrichIndexed addK8sMetadata_get
  have records : IndexWrites (enrichLogRecord rendering gpu2k8s) logGpuIndex index
      (k8sWritten (gpu2k8s.get (rendering.asString index))) := indexWrites_enrichIndexed addK8sMetadata_get
  have each (metrics traces logs : MapOrders gpu2k8s) : PathsAgree (k8sProcessMetrics (.ok gpu2k8s) metrics)
      (k8sProcessTraces (.ok gpu2k8s) traces) (k8sProcessLogs rendering (.ok gpu2k8s) logs) index ↔
        Option.Rel SameAttributes (gpu2k8s.get index.getStr) (gpu2k8s.get (rendering.asString index)) := by
    refine Iff.trans (pathsAgree_iff (fun batch => ?_) (fun batch => ?_) (fun batch => ?_) fun name isIndex => ?_)
      k8sWritten_eq_iff
    · refine batchDataPoints_forall₂ (forall₂_mapIdx (fun i resource => ?_) batch)
      refine mapRecordsIdx_forall₂ (fun j k metric => ?_) _
      rw [k8sMetric_dataPoints]
      exact forall₂_mapIdx (fun l attrs => points (metrics.lists [i, j, k, l]) attrs) metric.dataPoints
    · refine batchRecords_forall₂ (forall₂_mapIdx (fun i resource => ?_) batch)
      exact mapRecords_forall₂ (fun attrs => spans attrs) _
    · refine batchRecords_forall₂ (forall₂_mapIdx (fun i resource => ?_) batch)
      exact mapRecords_forall₂ (fun attrs => records attrs) _
    · simp only [k8sWritten, k8sEntry_index _ isIndex, Option.bind_fun_none, and_self]
  constructor
  · intro agree
    exact (each _ _ _).mp (agree (.same gpu2k8s) (.same gpu2k8s) (.same gpu2k8s))
  · intro related metrics traces logs
    exact (each metrics traces logs).mpr related

end GpuTelemetry
