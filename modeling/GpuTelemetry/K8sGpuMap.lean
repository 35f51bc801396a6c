import GpuTelemetry.Gres
import GpuTelemetry.Dicts
import GpuTelemetry.LastWrite
import GpuTelemetry.Numbering
import Mathlib.Data.List.Find

namespace GpuTelemetry

/-! ### Pods -/

/-- A resource quantity: the text the API prints of it, and its `Value()`. A
text that is a plain number stands for that number. -/
structure Quantity where
  text : Str
  value : Nat
  canonical : ∀ c ∈ text, c.isDigit = true ∨ c ∈ "numkMGTPEie.".toList
  plain : ∀ n, pyInt text = .ok n → n = value

structure OwnerReference where
  kind : Str
  name : Str
  controller : Option Bool

/-- A container with its resource requests and limits, which may be absent. -/
structure Container where
  name : Str
  requests : Option (List (Str × Quantity))
  limits : Option (List (Str × Quantity))

/-- A pod. Absent lists are empty ones. -/
structure Pod where
  name : Str
  namespaceName : Str
  labels : Dict Str Str
  ownerReferences : List OwnerReference
  containers : List Container

/-- The calls to the API server, which may fail. -/
structure K8sApi where
  listPods : Str → Except Str (List Pod)
  nodeLabels : Str → Except Str (List (Str × Str))
  replicaSetOwners : Str → Str → Except Str (List OwnerReference)

/-- The field selector both mappings list the pods with. -/
def runningOnNode (nodeName : Str) : Str := "spec.nodeName=".toList ++ nodeName ++ ",status.phase=Running".toList

/-! ### The Python mapping -/

def gpuResourceTypes : List Str := ["nvidia.com/gpu", "amd.com/gpu"].map String.toList

/-- The `for` loop of `_resolve_deployment`, which ends at the first name. -/
def resolveDeployment (api : K8sApi) (namespaceName : Str) (pod : Pod) : Option Str :=
  pod.ownerReferences.findSome? fun ref =>
    let deployment :=
      if ref.kind = "ReplicaSet".toList then
        match api.replicaSetOwners namespaceName ref.name with
        | .ok owners => (owners.find? fun rsRef => rsRef.kind = "Deployment".toList).map OwnerReference.name
        | .error _ => none
      else none
    deployment.orElse fun _ => if ref.kind = "Deployment".toList then some ref.name else none

def podJobName (pod : Pod) : Option Str :=
  (pod.ownerReferences.find? fun ref => ref.kind = "Job".toList).map OwnerReference.name

/-- `int(limits.get(rtype, 0))`, where a text that is no number counts for nothing. -/
def limitCount (container : Container) (rtype : Str) : Nat :=
  match dictGet (container.limits.getD []) rtype with
  | none => 0
  | some quantity =>
    match pyInt quantity.text with
    | .ok n => n
    | .error _ => 0

def podGpuCount (pod : Pod) : Nat :=
  pod.containers.foldl (fun count container =>
    gpuResourceTypes.foldl (fun count rtype => count + limitCount container rtype) count) 0

/-- An entry that is left out when its value is empty or missing. -/
def optionalAttribute (key : String) (value : Option Str) : List (Str × Str) :=
  match value with
  | some (c :: s) => [(key.toList, c :: s)]
  | _ => []

def podAttributes (api : K8sApi) (pod : Pod) : List (Str × Str) :=
  [("k8s.namespace.name".toList, pod.namespaceName), ("k8s.pod.name".toList, pod.name)] ++
    optionalAttribute "k8s.deployment.name" (resolveDeployment api pod.namespaceName pod) ++
    optionalAttribute "k8s.job.name" (podJobName pod)

/-- One round of the loop over the pods: the map and the next ordinal. -/
def mapPod (api : K8sApi) (state : (Nat → Option (List (Str × Str))) × Nat) (pod : Pod) :
    (Nat → Option (List (Str × Str))) × Nat :=
  let gpuCount := podGpuCount pod
  if gpuCount = 0 then state
  else
    ((List.range gpuCount).foldl (fun result i => Function.update result (state.2 + i) (some (podAttributes api pod)))
      state.1, state.2 + gpuCount)

/-- The mapping, empty without a client or a list of pods. -/
def getGpuK8sMapping (client : Except Str K8sApi) (nodeName : Str) : Nat → Option (List (Str × Str)) :=
  match client with
  | .error _ => fun _ => none
  | .ok api =>
    match api.listPods (runningOnNode nodeName) with
    | .error _ => fun _ => none
    | .ok pods => (pods.foldl (mapPod api) (fun _ => none, 0)).1

/-! ### The Go mapping -/

def gpuResourceKeys : List Str :=
  ["nvidia.com/gpu", "amd.com/gpu", "habana.ai/gaudi", "habana.ai/gaudi2", "habana.ai/gaudi3"].map String.toList

def defaultLabelAllowList : List Str :=
  ["app", "app.kubernetes.io/name", "app.kubernetes.io/instance", "app.kubernetes.io/version",
    "app.kubernetes.io/component", "app.kubernetes.io/part-of", "app.kubernetes.io/managed-by", "ray.io/cluster",
    "ray.io/node-type", "ray.io/group", "ray.io/is-ray-node"].map String.toList

structure K8sMetadata where
  PodName : Str
  Namespace : Str
  NodeName : Str
  ContainerName : Str
  Labels : Dict Str Str
  JobName : Str
  StatefulSetName : Str
  DeploymentName : Str
  CustomOwnerKind : Str
  CustomOwnerName : Str
  CloudZone : Str
  CloudRegion : Str

def buildLabelFilter (allowList : List Str) : List Str := if allowList = [] then defaultLabelAllowList else allowList

def filterLabels (labels : Dict Str Str) (allowed : List Str) : Dict Str Str :=
  labels.filter fun label => allowed.contains label.1

/-- What `resolveOwnerRefs` returns. -/
structure PodOwners where
  jobName : Str
  statefulSetName : Str
  deploymentName : Str
  customOwnerKind : Str
  customOwnerName : Str

/-- One round of the loop over the owner references. -/
def resolveOwnerRef (api : K8sApi) (namespaceName : Str) (owners : PodOwners) (ref : OwnerReference) : PodOwners :=
  if ref.controller ≠ some true then owners
  else if ref.kind = "Job".toList then { owners with jobName := ref.name }
  else if ref.kind = "StatefulSet".toList then { owners with statefulSetName := ref.name }
  else if ref.kind = "ReplicaSet".toList then
    match api.replicaSetOwners namespaceName ref.name with
    | .error _ => owners
    | .ok rsOwners =>
      match rsOwners.find? fun rsRef => rsRef.controller = some true ∧ rsRef.kind = "Deployment".toList with
      | some rsRef => { owners with deploymentName := rsRef.name }
      | none => owners
  else { owners with customOwnerKind := ref.kind, customOwnerName := ref.name }

def resolveOwnerRefs (api : K8sApi) (pod : Pod) : PodOwners :=
  pod.ownerReferences.foldl (resolveOwnerRef api pod.namespaceName) ⟨[], [], [], [], []⟩

/-- The units of a resource that a container requests. -/
def requestedValue (container : Container) (key : Str) : Nat :=
  match dictGet (container.requests.getD []) key with
  | some quantity => quantity.value
  | none => 0

def gpuRequestCount (container : Container) : Nat :=
  match container.requests with
  | none => 0
  | some _ => gpuResourceKeys.foldl (fun total key => total + requestedValue container key) 0

/-- What the metadata of every GPU of a node shares. -/
structure NodeSettings where
  nodeName : Str
  allowedLabels : List Str
  cloudZone : Str
  cloudRegion : Str

def containerMetadata (settings : NodeSettings) (pod : Pod) (owners : PodOwners) (container : Container) :
    K8sMetadata where
  PodName := pod.name
  Namespace := pod.namespaceName
  NodeName := settings.nodeName
  ContainerName := container.name
  Labels := filterLabels pod.labels settings.allowedLabels
  JobName := owners.jobName
  StatefulSetName := owners.statefulSetName
  DeploymentName := owners.deploymentName
  CustomOwnerKind := owners.customOwnerKind
  CustomOwnerName := owners.customOwnerName
  CloudZone := settings.cloudZone
  CloudRegion := settings.cloudRegion

/-- One round of the loop over the containers of a pod: the map, whose keys are
printed ordinals, and the next ordinal. -/
def mapContainer (settings : NodeSettings) (pod : Pod) (owners : PodOwners)
    (state : (Str → Option K8sMetadata) × Nat) (container : Container) : (Str → Option K8sMetadata) × Nat :=
  let gpuCount := gpuRequestCount container
  if gpuCount = 0 then state
  else
    let metadata := containerMetadata settings pod owners container
    (List.range gpuCount).foldl (fun state _ =>
      (Function.update state.1 (decimal state.2) (some metadata), state.2 + 1)) state

def mapContainers (api : K8sApi) (settings : NodeSettings) (state : (Str → Option K8sMetadata) × Nat) (pod : Pod) :
    (Str → Option K8sMetadata) × Nat :=
  pod.containers.foldl (mapContainer settings pod (resolveOwnerRefs api pod)) state

/-- The settings of a node. Without its labels the cloud attributes stay empty. -/
def nodeSettings (api : K8sApi) (nodeName : Str) (labelAllowList : List Str) : NodeSettings where
  nodeName := nodeName
  allowedLabels := buildLabelFilter labelAllowList
  cloudZone :=
    match api.nodeLabels nodeName with
    | .ok labels => (dictGet labels "topology.kubernetes.io/zone".toList).getD []
    | .error _ => []
  cloudRegion :=
    match api.nodeLabels nodeName with
    | .ok labels => (dictGet labels "topology.kubernetes.io/region".toList).getD []
    | .error _ => []

def buildGPU2K8s (api : K8sApi) (nodeName : Str) (labelAllowList : List Str) :
    Except Str (Str → Option K8sMetadata) :=
  match api.listPods (runningOnNode nodeName) with
  | .error err => .error ("k8shelper: failed to list pods on node ".toList ++ nodeName ++ ": ".toList ++ err)
  | .ok pods =>
    .ok (pods.foldl (mapContainers api (nodeSettings api nodeName labelAllowList)) (fun _ => none, 0)).1

/-! ### Agreement -/

/-- Both mappings say the same of a GPU. A name that is left out is empty. -/
structure SameWorkload (attrs : List (Str × Str)) (metadata : K8sMetadata) : Prop where
  namespaceName : dictGet attrs "k8s.namespace.name".toList = some metadata.Namespace
  podName : dictGet attrs "k8s.pod.name".toList = some metadata.PodName
  jobName : (dictGet attrs "k8s.job.name".toList).getD [] = metadata.JobName
  deploymentName : (dictGet attrs "k8s.deployment.name".toList).getD [] = metadata.DeploymentName

/-- The mappings have the same GPUs and say the same of each. -/
def MappingsAgree (attrs : Nat → Option (List (Str × Str))) (gpu2k8s : Str → Option K8sMetadata) : Prop :=
  (∀ ordinal, Option.Rel SameWorkload (attrs ordinal) (gpu2k8s (decimal ordinal))) ∧
    ∀ key, (∀ ordinal, key ≠ decimal ordinal) → gpu2k8s key = none

/-- The container requests what it is limited to, of every kind of GPU. -/
def EqualResources (container : Container) : Prop :=
  ∀ key ∈ gpuResourceKeys, dictGet (container.requests.getD []) key = dictGet (container.limits.getD []) key

/-- The quantity of a kind of GPU is 0, or of a kind that both count and printed as a number. -/
def CountedKind (container : Container) (key : Str) : Prop :=
  ∀ quantity, dictGet (container.limits.getD []) key = some quantity → quantity.value ≠ 0 →
    key ∈ gpuResourceTypes ∧ ∃ n, pyInt quantity.text = .ok n

def UsesGpu (pod : Pod) : Prop :=
  ∃ container ∈ pod.containers, ∃ key ∈ gpuResourceKeys, ∃ quantity,
    dictGet (container.limits.getD []) key = some quantity ∧ quantity.value ≠ 0

/-! ### Counts -/

/-- What the Python mapping counts of a kind of GPU. -/
def countedLimit (container : Container) (key : Str) : Nat :=
  if gpuResourceTypes.contains key then limitCount container key else 0

theorem foldl_add_eq_sum {ι : Type} (f : ι → Nat) (xs : List ι) (start : Nat) :
    xs.foldl (fun total x => total + f x) start = start + (xs.map f).sum := by
  induction xs generalizing start with
  | nil => rfl
  | cons x xs ih => rw [List.foldl_cons, ih, List.map_cons, List.sum_cons, Nat.add_assoc]

theorem countedLimits_sum (container : Container) :
    (gpuResourceKeys.map (countedLimit container)).sum = (gpuResourceTypes.map (limitCount container)).sum := by
  have split : gpuResourceKeys = gpuResourceTypes ++
      ["habana.ai/gaudi", "habana.ai/gaudi2", "habana.ai/gaudi3"].map String.toList := rfl
  have counted : gpuResourceTypes.map (countedLimit container) = gpuResourceTypes.map (limitCount container) :=
    List.map_congr_left fun key member => if_pos (List.contains_iff_mem.mpr member)
  have other : ∀ key ∈ ["habana.ai/gaudi", "habana.ai/gaudi2", "habana.ai/gaudi3"].map String.toList,
      key ∉ gpuResourceTypes := by decide
  have ignored : ∀ n ∈ (["habana.ai/gaudi", "habana.ai/gaudi2", "habana.ai/gaudi3"].map String.toList).map
      (countedLimit container), n = 0 := by
    intro n inCounts
    obtain ⟨key, inKeys, rfl⟩ := List.mem_map.mp inCounts
    exact if_neg fun counts => other key inKeys (List.contains_iff_mem.mp counts)
  rw [split, List.map_append, List.sum_append, counted, List.sum_eq_zero ignored, Nat.add_zero]

theorem podGpuCount_eq (pod : Pod) :
    podGpuCount pod = (pod.containers.map fun c => (gpuResourceKeys.map (countedLimit c)).sum).sum := by
  simp only [podGpuCount, foldl_add_eq_sum, countedLimits_sum, Nat.zero_add]

theorem gpuRequestCount_eq (container : Container) :
    gpuRequestCount container = (gpuResourceKeys.map (requestedValue container)).sum := by
  unfold gpuRequestCount
  cases requests : container.requests with
  | none =>
    refine (List.sum_eq_zero fun n inValues => ?_).symm
    obtain ⟨key, -, rfl⟩ := List.mem_map.mp inValues
    rw [requestedValue, requests]
    rfl
  | some _ => rw [foldl_add_eq_sum, Nat.zero_add]

theorem countedLimit_spec {container : Container} (equal : EqualResources container) {key : Str}
    (member : key ∈ gpuResourceKeys) : countedLimit container key ≤ requestedValue container key ∧
      (countedLimit container key = requestedValue container key ↔ CountedKind container key) := by
  unfold countedLimit requestedValue limitCount CountedKind
  simp only [List.contains_iff_mem]
  rw [equal key member]
  cases dictGet (container.limits.getD []) key with
  | none => simp
  | some quantity =>
    simp only [Option.some.injEq, forall_eq']
    by_cases kind : key ∈ gpuResourceTypes
    · simp only [kind, if_true, true_and]
      cases number : pyInt quantity.text with
      | error e => simp [eq_comm]
      | ok n => simp [quantity.plain n number]
    · simp [kind, eq_comm]

/-- The Python mapping never counts more of a container than the Go mapping. -/
theorem countedLimits_le {container : Container} (equal : EqualResources container) :
    (gpuResourceKeys.map (countedLimit container)).sum ≤ gpuRequestCount container := by
  rw [gpuRequestCount_eq]
  exact List.sum_le_sum fun key inKeys => (countedLimit_spec equal inKeys).1

theorem countedLimits_eq_iff {container : Container} (equal : EqualResources container) :
    (gpuResourceKeys.map (countedLimit container)).sum = gpuRequestCount container ↔
      ∀ key ∈ gpuResourceKeys, CountedKind container key := by
  rw [gpuRequestCount_eq, sum_map_eq_iff fun key inKeys => (countedLimit_spec equal inKeys).1]
  exact forall₂_congr fun key inKeys => (countedLimit_spec equal inKeys).2

theorem podGpuCount_le {pod : Pod} (equal : ∀ c ∈ pod.containers, EqualResources c) :
    podGpuCount pod ≤ (pod.containers.map gpuRequestCount).sum := by
  rw [podGpuCount_eq]
  exact List.sum_le_sum fun c member => countedLimits_le (equal c member)

/-- The counts of a pod agree exactly when every quantity is counted. -/
theorem podGpuCount_eq_iff {pod : Pod} (equal : ∀ c ∈ pod.containers, EqualResources c) :
    podGpuCount pod = (pod.containers.map gpuRequestCount).sum ↔
      ∀ c ∈ pod.containers, ∀ key ∈ gpuResourceKeys, CountedKind c key := by
  rw [podGpuCount_eq, sum_map_eq_iff fun c member => countedLimits_le (equal c member)]
  exact forall₂_congr fun c member => countedLimits_eq_iff (equal c member)

theorem gpuRequestCount_pos_iff {container : Container} (equal : EqualResources container) :
    0 < gpuRequestCount container ↔ ∃ key ∈ gpuResourceKeys, ∃ quantity,
      dictGet (container.limits.getD []) key = some quantity ∧ quantity.value ≠ 0 := by
  have value : ∀ key ∈ gpuResourceKeys, (0 < requestedValue container key ↔ ∃ quantity,
      dictGet (container.limits.getD []) key = some quantity ∧ quantity.value ≠ 0) := by
    intro key member
    rw [requestedValue, equal key member]
    cases dictGet (container.limits.getD []) key <;> simp [Nat.pos_iff_ne_zero]
  rw [gpuRequestCount_eq, List.sum_pos_iff_exists_pos_nat]
  simp only [List.mem_map, exists_exists_and_eq_and]
  exact exists_congr fun key => and_congr_right fun member => value key member

theorem usesGpu_iff {pod : Pod} (equal : ∀ c ∈ pod.containers, EqualResources c) :
    UsesGpu pod ↔ ∃ c ∈ pod.containers, 0 < gpuRequestCount c :=
  exists_congr fun c => and_congr_right fun member => (gpuRequestCount_pos_iff (equal c member)).symm

/-! ### Owners -/

/-- The names of the owners of kind `Job`. -/
def jobOwners (pod : Pod) : List Str :=
  (pod.ownerReferences.filter fun ref => ref.kind = "Job".toList).map OwnerReference.name

/-- The Deployment that owns the ReplicaSet of a reference. -/
def replicaSetDeployment (api : K8sApi) (namespaceName : Str) (ref : OwnerReference) : Option Str :=
  if ref.kind = "ReplicaSet".toList then
    match api.replicaSetOwners namespaceName ref.name with
    | .ok owners => (owners.find? fun rsRef => rsRef.kind = "Deployment".toList).map OwnerReference.name
    | .error _ => none
  else none

/-- The Deployments behind a pod's ReplicaSets, and those with its direct owners. -/
def replicaSetDeployments (api : K8sApi) (pod : Pod) : List Str :=
  pod.ownerReferences.filterMap (replicaSetDeployment api pod.namespaceName)

def allDeployments (api : K8sApi) (pod : Pod) : List Str :=
  pod.ownerReferences.filterMap fun ref =>
    (replicaSetDeployment api pod.namespaceName ref).orElse fun _ =>
      if ref.kind = "Deployment".toList then some ref.name else none

/-- Every reference, of the pod and of the ReplicaSets it names, has its controller set. -/
def Controlled (api : K8sApi) (pod : Pod) : Prop :=
  ∀ ref ∈ pod.ownerReferences, ref.controller = some true ∧
    ∀ owners, api.replicaSetOwners pod.namespaceName ref.name = .ok owners →
      ∀ rsRef ∈ owners, rsRef.controller = some true

/-- The first and the last Job have the same name, and so have the first of all
Deployments and the last behind a ReplicaSet. -/
def OwnersAgree (api : K8sApi) (pod : Pod) : Prop :=
  (jobOwners pod).head?.getD [] = (jobOwners pod).getLast?.getD [] ∧
    (allDeployments api pod).head?.getD [] = (replicaSetDeployments api pod).getLast?.getD []

theorem podJobName_eq (pod : Pod) : podJobName pod = (jobOwners pod).head? := by
  rw [podJobName, jobOwners, List.head?_map, List.head?_filter]

theorem resolveDeployment_eq (api : K8sApi) (pod : Pod) :
    resolveDeployment api pod.namespaceName pod = (allDeployments api pod).head? := by
  rw [resolveDeployment, allDeployments, List.head?_filterMap]
  rfl

theorem resolveOwnerRef_jobName {ref : OwnerReference} (controlled : ref.controller = some true) (api : K8sApi)
    (namespaceName : Str) (owners : PodOwners) : (resolveOwnerRef api namespaceName owners ref).jobName =
      (if ref.kind = "Job".toList then some ref.name else none).getD owners.jobName := by
  rw [resolveOwnerRef, if_neg (not_not.mpr controlled)]
  by_cases isJob : ref.kind = "Job".toList
  · rw [if_pos isJob, if_pos isJob]
    rfl
  · rw [if_neg isJob, if_neg isJob, Option.getD_none]
    split
    · rfl
    · split
      · cases api.replicaSetOwners namespaceName ref.name with
        | error _ => rfl
        | ok rsOwners =>
          dsimp only
          cases rsOwners.find? fun rsRef => rsRef.controller = some true ∧ rsRef.kind = "Deployment".toList <;> rfl
      · rfl

theorem resolveOwnerRefs_jobName {api : K8sApi} {pod : Pod} (controlled : Controlled api pod) :
    (resolveOwnerRefs api pod).jobName = (jobOwners pod).getLast?.getD [] := by
  have names : jobOwners pod = pod.ownerReferences.filterMap fun ref =>
      if ref.kind = "Job".toList then some ref.name else none := by
    rw [jobOwners, ← List.filterMap_eq_map, List.filterMap_filter]
    simp only [decide_eq_true_eq, Function.comp_apply]
  rw [names, resolveOwnerRefs]
  exact foldl_last (g := PodOwners.jobName) (fun owners ref member =>
    resolveOwnerRef_jobName (controlled ref member).1 api pod.namespaceName owners) _

theorem resolveOwnerRef_deploymentName {ref : OwnerReference} (controlled : ref.controller = some true)
    {api : K8sApi} {namespaceName : Str} (rsControlled : ∀ rsOwners,
      api.replicaSetOwners namespaceName ref.name = .ok rsOwners → ∀ rsRef ∈ rsOwners, rsRef.controller = some true)
    (owners : PodOwners) : (resolveOwnerRef api namespaceName owners ref).deploymentName =
      (replicaSetDeployment api namespaceName ref).getD owners.deploymentName := by
  rw [resolveOwnerRef, if_neg (not_not.mpr controlled), replicaSetDeployment]
  by_cases isSet : ref.kind = "ReplicaSet".toList
  · have notJob : ref.kind ≠ "Job".toList := by
      rw [isSet]
      decide
    have notStateful : ref.kind ≠ "StatefulSet".toList := by
      rw [isSet]
      decide
    rw [if_neg notJob, if_neg notStateful, if_pos isSet, if_pos isSet]
    cases read : api.replicaSetOwners namespaceName ref.name with
    | error _ => rfl
    | ok rsOwners =>
      have same : (rsOwners.find? fun rsRef => rsRef.controller = some true ∧ rsRef.kind = "Deployment".toList) =
          rsOwners.find? fun rsRef => rsRef.kind = "Deployment".toList :=
        List.find?_congr fun rsRef member => by
          simp only [rsControlled rsOwners read rsRef member, true_and]
      dsimp only
      rw [same]
      cases rsOwners.find? fun rsRef => rsRef.kind = "Deployment".toList <;> rfl
  · rw [if_neg isSet, if_neg isSet, Option.getD_none]
    split
    · rfl
    · split <;> rfl

theorem resolveOwnerRefs_deploymentName {api : K8sApi} {pod : Pod} (controlled : Controlled api pod) :
    (resolveOwnerRefs api pod).deploymentName = (replicaSetDeployments api pod).getLast?.getD [] := by
  rw [replicaSetDeployments, resolveOwnerRefs]
  exact foldl_last (g := PodOwners.deploymentName) (fun owners ref member =>
    resolveOwnerRef_deploymentName (controlled ref member).1 (controlled ref member).2 owners) _

theorem optionalAttribute_same (key : String) (value : Option Str) :
    (dictGet (optionalAttribute key value) key.toList).getD [] = value.getD [] := by
  rcases value with _ | (_ | ⟨c, s⟩)
  · rfl
  · rfl
  · rw [optionalAttribute, dictGet_cons, if_pos rfl]

theorem optionalAttribute_other {key : String} {other : Str} (differ : other ≠ key.toList) (value : Option Str) :
    dictGet (optionalAttribute key value) other = none := by
  rcases value with _ | (_ | ⟨c, s⟩)
  · rfl
  · rfl
  · rw [optionalAttribute, dictGet_cons, if_neg differ]
    rfl

/-- The names in a pod's attributes. -/
theorem podAttributes_get (api : K8sApi) (pod : Pod) :
    dictGet (podAttributes api pod) "k8s.namespace.name".toList = some pod.namespaceName ∧
    dictGet (podAttributes api pod) "k8s.pod.name".toList = some pod.name ∧
    (dictGet (podAttributes api pod) "k8s.job.name".toList).getD [] = (jobOwners pod).head?.getD [] ∧
    (dictGet (podAttributes api pod) "k8s.deployment.name".toList).getD [] =
      (allDeployments api pod).head?.getD [] := by
  have names : ∀ key ∈ ["k8s.job.name", "k8s.deployment.name"].map String.toList,
      dictGet [("k8s.namespace.name".toList, pod.namespaceName), ("k8s.pod.name".toList, pod.name)] key = none := by
    intro key member
    have apart : ∀ key ∈ ["k8s.job.name", "k8s.deployment.name"].map String.toList,
        key ∉ ["k8s.namespace.name", "k8s.pod.name"].map String.toList := by decide
    exact dictGet_eq_none (apart key member)
  have noDeployment : dictGet (optionalAttribute "k8s.deployment.name" (allDeployments api pod).head?)
      "k8s.job.name".toList = none := optionalAttribute_other (by decide) _
  have noJob : dictGet (optionalAttribute "k8s.job.name" (jobOwners pod).head?)
      "k8s.deployment.name".toList = none := optionalAttribute_other (by decide) _
  rw [podAttributes, podJobName_eq, resolveDeployment_eq]
  simp only [dictGet_append]
  refine ⟨?_, ?_, ?_, ?_⟩
  · rw [dictGet_cons, if_pos rfl]
    rfl
  · rw [dictGet_cons, if_neg (by decide), dictGet_cons, if_pos rfl]
    rfl
  · rw [names _ (by decide), noDeployment, Option.none_or, Option.none_or, optionalAttribute_same]
  · rw [names _ (by decide), noJob, Option.none_or, Option.or_none, optionalAttribute_same]

/-- The mappings say the same of a pod's GPUs exactly when they resolve its owners alike. -/
theorem sameWorkload_iff {api : K8sApi} {pod : Pod} (controlled : Controlled api pod) (settings : NodeSettings)
    (container : Container) : SameWorkload (podAttributes api pod)
      (containerMetadata settings pod (resolveOwnerRefs api pod) container) ↔ OwnersAgree api pod := by
  obtain ⟨isNamespace, isPod, isJob, isDeployment⟩ := podAttributes_get api pod
  have jobs := resolveOwnerRefs_jobName controlled
  have deployments := resolveOwnerRefs_deploymentName controlled
  constructor
  · intro same
    exact ⟨isJob.symm.trans (same.jobName.trans jobs), isDeployment.symm.trans (same.deploymentName.trans deployments)⟩
  · rintro ⟨sameJob, sameDeployment⟩
    exact ⟨isNamespace, isPod, isJob.trans (sameJob.trans jobs.symm),
      isDeployment.trans (sameDeployment.trans deployments.symm)⟩

/-! ### Ordinals -/

theorem mapPod_numbers (api : K8sApi) (state : (Nat → Option (List (Str × Str))) × Nat)
    (xs : List (List (Str × Str))) (pod : Pod) (numbered : Numbered id state xs) :
    Numbered id (mapPod api state pod) (xs ++ List.replicate (podGpuCount pod) (podAttributes api pod)) := by
  unfold mapPod
  by_cases none : podGpuCount pod = 0
  · simpa [none] using numbered
  · simp only [none, if_false, numbered.next]
    exact ⟨numbered.numbers.replicate Function.injective_id _ _, by simp⟩

theorem mapContainer_numbers (settings : NodeSettings) (pod : Pod) (owners : PodOwners)
    (state : (Str → Option K8sMetadata) × Nat) (xs : List K8sMetadata) (container : Container)
    (numbered : Numbered decimal state xs) : Numbered decimal (mapContainer settings pod owners state container)
      (xs ++ List.replicate (gpuRequestCount container) (containerMetadata settings pod owners container)) := by
  unfold mapContainer
  by_cases none : gpuRequestCount container = 0
  · simpa [none] using numbered
  · rw [if_neg none]
    exact numbered.replicate decimal_injective _ _

theorem mapContainers_numbers (api : K8sApi) (settings : NodeSettings) (state : (Str → Option K8sMetadata) × Nat)
    (xs : List K8sMetadata) (pod : Pod) (numbered : Numbered decimal state xs) :
    Numbered decimal (mapContainers api settings state pod) (xs ++ pod.containers.flatMap fun container =>
      List.replicate (gpuRequestCount container)
        (containerMetadata settings pod (resolveOwnerRefs api pod) container)) :=
  .foldl (mapContainer_numbers settings pod (resolveOwnerRefs api pod)) pod.containers numbered

theorem getGpuK8sMapping_numbers {api : K8sApi} {nodeName : Str} {pods : List Pod}
    (listed : api.listPods (runningOnNode nodeName) = .ok pods) :
    Numbers id (getGpuK8sMapping (.ok api) nodeName)
      (pods.flatMap fun pod => List.replicate (podGpuCount pod) (podAttributes api pod)) := by
  have numbered := Numbered.foldl (mapPod_numbers api) pods (.start id)
  simpa only [getGpuK8sMapping, listed, List.nil_append] using numbered.numbers

theorem containerCopies_ne_nil_iff {pod : Pod} {metadata : Container → K8sMetadata} :
    (pod.containers.flatMap fun container => List.replicate (gpuRequestCount container) (metadata container)) ≠ [] ↔
      ∃ container ∈ pod.containers, 0 < gpuRequestCount container := by
  simp [List.flatMap_eq_nil_iff, Nat.pos_iff_ne_zero]

/-- The mappings agree exactly when every quantity of a GPU is counted and the
owners of the pods with GPUs are resolved alike. -/
theorem k8s_mappings_agree_iff (api : K8sApi) (nodeName : Str) (labelAllowList : List Str) (pods : List Pod)
    (listed : api.listPods (runningOnNode nodeName) = .ok pods)
    (equal : ∀ pod ∈ pods, ∀ container ∈ pod.containers, EqualResources container)
    (controlled : ∀ pod ∈ pods, Controlled api pod) :
    ∃ gpu2k8s, buildGPU2K8s api nodeName labelAllowList = .ok gpu2k8s ∧
      (MappingsAgree (getGpuK8sMapping (.ok api) nodeName) gpu2k8s ↔ ∀ pod ∈ pods,
        (∀ container ∈ pod.containers, ∀ key ∈ gpuResourceKeys, CountedKind container key) ∧
          (UsesGpu pod → OwnersAgree api pod)) := by
  have numbered := Numbered.foldl (mapContainers_numbers api (nodeSettings api nodeName labelAllowList)) pods
    (.start decimal)
  have python := getGpuK8sMapping_numbers listed
  refine ⟨_, by rw [buildGPU2K8s, listed], ?_⟩
  have go := numbered.numbers
  rw [List.nil_append] at go
  have lists : MappingsAgree (getGpuK8sMapping (.ok api) nodeName)
      (pods.foldl (mapContainers api (nodeSettings api nodeName labelAllowList)) (fun _ => none, 0)).1 ↔
        List.Forall₂ SameWorkload _ _ := (and_iff_left go.elsewhere).trans (python.agree_iff go)
  have lengths : ∀ pod : Pod, (pod.containers.flatMap fun container => List.replicate (gpuRequestCount container)
      (containerMetadata (nodeSettings api nodeName labelAllowList) pod (resolveOwnerRefs api pod) container)).length =
        (pod.containers.map gpuRequestCount).sum := by
    intro pod
    simp [List.length_flatMap]
  rw [lists, forall₂_flatMap_iff fun pod member => by
    rw [List.length_replicate, lengths]
    exact podGpuCount_le (equal pod member)]
  refine forall₂_congr fun pod member => ?_
  have alike : ∀ metadata ∈ pod.containers.flatMap fun container => List.replicate (gpuRequestCount container)
      (containerMetadata (nodeSettings api nodeName labelAllowList) pod (resolveOwnerRefs api pod) container),
        SameWorkload (podAttributes api pod) metadata ↔ OwnersAgree api pod := by
    intro metadata inMetadata
    obtain ⟨container, -, inCopies⟩ := List.mem_flatMap.mp inMetadata
    rw [List.eq_of_mem_replicate inCopies]
    exact sameWorkload_iff (controlled pod member) _ container
  rw [forall₂_replicate_iff alike, lengths, podGpuCount_eq_iff (equal pod member), containerCopies_ne_nil_iff,
    usesGpu_iff (equal pod member)]

theorem pyInt_decimal (n : Nat) : pyInt (decimal n) = .ok n := by
  have digits : (decimal n).all Char.isDigit = true := List.all_eq_true.mpr fun c member => decimal_isDigit member
  rw [pyInt, if_pos ⟨decimal_ne_nil n, digits⟩, intOfDigits_decimal]

/-- So many units of a resource. -/
def gpuUnits (count : Nat) : Quantity where
  text := decimal count
  value := count
  canonical c member := .inl (decimal_isDigit member)
  plain n read := by
    rw [pyInt_decimal] at read
    exact (Except.ok.inj read).symm

/-- A running pod with GPUs of a kind, which a ReplicaSet controls. -/
def gpuPod (name kind : String) (count : Nat) : Pod where
  name := name.toList
  namespaceName := "ml".toList
  labels := .empty
  ownerReferences := [⟨"ReplicaSet".toList, name.toList ++ "-rs".toList, some true⟩]
  containers :=
    [⟨"main".toList, some [(kind.toList, gpuUnits count)], some [(kind.toList, gpuUnits count)]⟩]

/-- A node on which only those pods run. -/
def podsApi (pods : List Pod) : K8sApi where
  listPods := fun _ => .ok pods
  nodeLabels := fun _ => .error "nodes is forbidden".toList
  replicaSetOwners := fun _ name => .ok [⟨"Deployment".toList, "deployed-".toList ++ name, some true⟩]

theorem gpuPod_equal (name kind : String) (count : Nat) :
    ∀ container ∈ (gpuPod name kind count).containers, EqualResources container := by
  intro container inPod key _
  rw [List.mem_singleton.mp inPod]

theorem gpuPod_controlled (pods : List Pod) (name kind : String) (count : Nat) :
    Controlled (podsApi pods) (gpuPod name kind count) := by
  intro ref inPod
  rw [List.mem_singleton.mp inPod]
  refine ⟨rfl, fun owners read rsRef inOwners => ?_⟩
  rw [← Except.ok.inj read] at inOwners
  rw [List.mem_singleton.mp inOwners]

theorem gpuPod_agrees (pods : List Pod) (name : String) (count : Nat) :
    (∀ container ∈ (gpuPod name "nvidia.com/gpu" count).containers, ∀ key ∈ gpuResourceKeys,
      CountedKind container key) ∧
      OwnersAgree (podsApi pods) (gpuPod name "nvidia.com/gpu" count) := by
  refine ⟨fun container inPod key _ quantity found nonzero => ?_, rfl, rfl⟩
  rw [List.mem_singleton.mp inPod] at found
  have isKey := List.mem_singleton.mp (mem_of_dictGet found)
  rw [(Prod.mk.inj isKey).1, (Prod.mk.inj isKey).2]
  exact ⟨by decide, count, pyInt_decimal count⟩

/-- Two pods, with two GPUs and with one. -/
def trainAndServe : List Pod := [gpuPod "train-0" "nvidia.com/gpu" 2, gpuPod "serve-0" "nvidia.com/gpu" 1]

theorem mem_trainAndServe {pod : Pod} (member : pod ∈ trainAndServe) :
    ∃ name count, pod = gpuPod name "nvidia.com/gpu" count := by
  rcases List.mem_cons.mp member with train | others
  · exact ⟨_, _, train⟩
  · exact ⟨_, _, List.mem_singleton.mp others⟩

theorem k8s_mappings_agree_nvidia : ∃ gpu2k8s,
    buildGPU2K8s (podsApi trainAndServe) "node-1".toList [] = .ok gpu2k8s ∧
      MappingsAgree (getGpuK8sMapping (.ok (podsApi trainAndServe)) "node-1".toList) gpu2k8s := by
  have equal : ∀ pod ∈ trainAndServe, ∀ container ∈ pod.containers, EqualResources container := by
    intro pod member
    obtain ⟨name, count, rfl⟩ := mem_trainAndServe member
    exact gpuPod_equal name "nvidia.com/gpu" count
  have controlled : ∀ pod ∈ trainAndServe, Controlled (podsApi trainAndServe) pod := by
    intro pod member
    obtain ⟨name, count, rfl⟩ := mem_trainAndServe member
    exact gpuPod_controlled trainAndServe name "nvidia.com/gpu" count
  obtain ⟨gpu2k8s, built, agree⟩ :=
    k8s_mappings_agree_iff (podsApi trainAndServe) "node-1".toList [] trainAndServe rfl equal controlled
  refine ⟨gpu2k8s, built, agree.mpr fun pod member => ?_⟩
  obtain ⟨name, count, rfl⟩ := mem_trainAndServe member
  obtain ⟨counted, owners⟩ := gpuPod_agrees trainAndServe name count
  exact ⟨counted, fun _ => owners⟩

/-- A pod with a Gaudi. -/
def gaudiPods : List Pod := [gpuPod "train-0" "habana.ai/gaudi" 1]

/-- Only the Go mapping has the Gaudi of a pod. -/
theorem k8s_mappings_differ_gaudi :
    (podsApi gaudiPods).listPods (runningOnNode "node-1".toList) = .ok gaudiPods ∧
      (∀ pod ∈ gaudiPods, ∀ container ∈ pod.containers, EqualResources container) ∧
      (∀ pod ∈ gaudiPods, Controlled (podsApi gaudiPods) pod) ∧
      ∀ gpu2k8s, buildGPU2K8s (podsApi gaudiPods) "node-1".toList [] = .ok gpu2k8s →
        ¬MappingsAgree (getGpuK8sMapping (.ok (podsApi gaudiPods)) "node-1".toList) gpu2k8s := by
  refine ⟨rfl, fun pod member => ?_, fun pod member => ?_, fun gpu2k8s built agree => ?_⟩
  · exact List.mem_singleton.mp member ▸ gpuPod_equal _ _ _
  · exact List.mem_singleton.mp member ▸ gpuPod_controlled _ _ _ _
  have unmapped : getGpuK8sMapping (.ok (podsApi gaudiPods)) "node-1".toList 0 = none := by decide
  have mapped : (buildGPU2K8s (podsApi gaudiPods) "node-1".toList []).toOption.bind
      (fun gpu2k8s => (gpu2k8s (decimal 0)).map K8sMetadata.PodName) = some "train-0".toList := by decide
  have related := agree.1 0
  rw [built] at mapped
  rw [unmapped] at related
  obtain ⟨metadata, found, -⟩ := Option.map_eq_some_iff.mp mapped
  rw [found] at related
  cases related

end GpuTelemetry
