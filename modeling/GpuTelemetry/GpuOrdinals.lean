import GpuTelemetry.K8sProcessor

namespace GpuTelemetry

/-- The containers of the pods, in pod order and container order. -/
def podContainers (pods : List Pod) : List (Pod × Container) :=
  pods.flatMap fun pod => pod.containers.map fun container => (pod, container)

def requestCount (entry : Pod × Container) : Nat := gpuRequestCount entry.2

/-- The metadata of the GPUs of a container. -/
def entryMetadata (api : K8sApi) (settings : NodeSettings) (entry : Pod × Container) : K8sMetadata :=
  containerMetadata settings entry.1 (resolveOwnerRefs api entry.1) entry.2

/-- The number of GPUs that the containers request. -/
def requestedGpus (pods : List Pod) : Nat := ((podContainers pods).map requestCount).sum

/-- The ordinals are numbered through, each container has a block of them, and
all of them carry the zone and the region of the node. -/
structure OrdinalBlocks (api : K8sApi) (settings : NodeSettings) (pods : List Pod)
    (gpu2k8s : Str → Option K8sMetadata) : Prop where
  keys : ∀ key, (gpu2k8s key).isSome ↔ ∃ n < requestedGpus pods, key = decimal n
  block : ∀ earlier entry later, podContainers pods = earlier ++ entry :: later → ∀ j < requestCount entry,
    gpu2k8s (decimal ((earlier.map requestCount).sum + j)) = some (entryMetadata api settings entry)
  cloud : ∀ key metadata, gpu2k8s key = some metadata →
    metadata.CloudZone = settings.cloudZone ∧ metadata.CloudRegion = settings.cloudRegion
  extracted : ∀ entries : Dict Str K8sMetadata, (∀ key, entries.get key = gpu2k8s key) →
    extractCloudInfo entries = if requestedGpus pods = 0 then ([], []) else (settings.cloudZone, settings.cloudRegion)

variable {api : K8sApi} {settings : NodeSettings} {pods : List Pod} {gpu2k8s : Str → Option K8sMetadata}

/-- What the loops over the pods and their containers number. -/
theorem mapContainers_blocks (api : K8sApi) (settings : NodeSettings) (pods : List Pod) :
    Numbers decimal (pods.foldl (mapContainers api settings) (fun _ => none, 0)).1
      (blocksOf requestCount (entryMetadata api settings) (podContainers pods)) := by
  have numbered := Numbered.foldl (mapContainers_numbers api settings) pods (.start decimal)
  have blocks : blocksOf requestCount (entryMetadata api settings) (podContainers pods) =
      pods.flatMap fun pod => pod.containers.flatMap fun container =>
        List.replicate (gpuRequestCount container)
          (containerMetadata settings pod (resolveOwnerRefs api pod) container) := by
    rw [blocksOf, podContainers, List.flatMap_assoc]
    simp only [List.flatMap_map]
    rfl
  rw [blocks]
  exact numbered.numbers

theorem blocks_cloud {metadata : K8sMetadata}
    (member : metadata ∈ blocksOf requestCount (entryMetadata api settings) (podContainers pods)) :
    metadata.CloudZone = settings.cloudZone ∧ metadata.CloudRegion = settings.cloudRegion := by
  obtain ⟨entry, -, inBlock⟩ := List.mem_flatMap.mp member
  rw [List.eq_of_mem_replicate inBlock]
  exact ⟨rfl, rfl⟩

/-- The loop over the map ends at its first entry, whichever that is. -/
theorem extractCloudInfo_eq {keys : Str → Prop} (used : ∀ key, (gpu2k8s key).isSome ↔ keys key)
    (cloud : ∀ key metadata, gpu2k8s key = some metadata →
      metadata.CloudZone = settings.cloudZone ∧ metadata.CloudRegion = settings.cloudRegion)
    (entries : Dict Str K8sMetadata) (same : ∀ key, entries.get key = gpu2k8s key) :
    (∃ key, keys key) ∧ extractCloudInfo entries = (settings.cloudZone, settings.cloudRegion) ∨
      (¬∃ key, keys key) ∧ extractCloudInfo entries = ([], []) := by
  obtain ⟨list, distinct⟩ := entries
  cases list with
  | nil =>
    refine .inr ⟨?_, rfl⟩
    rintro ⟨key, isUsed⟩
    have present := (used key).mpr isUsed
    rw [← same key] at present
    cases present
  | cons first rest =>
    obtain ⟨key, metadata⟩ := first
    have found : gpu2k8s key = some metadata := (same key).symm.trans (dictGet_of_mem distinct List.mem_cons_self)
    obtain ⟨zone, region⟩ := cloud key metadata found
    refine .inl ⟨⟨key, (used key).mp (by rw [found]; rfl)⟩, ?_⟩
    rw [← zone, ← region]
    rfl

/-- The map of a node whose pods are listed. -/
theorem buildGPU2K8s_blocks (api : K8sApi) (nodeName : Str) (labelAllowList : List Str) (pods : List Pod)
    (listed : api.listPods (runningOnNode nodeName) = .ok pods) :
    ∃ gpu2k8s, buildGPU2K8s api nodeName labelAllowList = .ok gpu2k8s ∧
      OrdinalBlocks api (nodeSettings api nodeName labelAllowList) pods gpu2k8s := by
  refine ⟨_, by rw [buildGPU2K8s, listed], ?_⟩
  have numbers := mapContainers_blocks api (nodeSettings api nodeName labelAllowList) pods
  have keys := numbers.isSome_iff
  rw [blocksOf_length] at keys
  have cloud := fun key metadata found => blocks_cloud (@Numbers.mem_of_some _ _ _ _ _ numbers key metadata found)
  refine ⟨keys, ?_, cloud, fun entries same => ?_⟩
  · intro earlier entry later split j inside
    rw [numbers.at_key, split]
    exact blocksOf_getElem? requestCount _ earlier entry later inside
  · have positive : (∃ key, ∃ n < requestedGpus pods, key = decimal n) ↔ requestedGpus pods ≠ 0 := by
      constructor
      · rintro ⟨key, n, inside, -⟩
        omega
      · exact fun some => ⟨decimal 0, 0, by omega, rfl⟩
    rcases extractCloudInfo_eq keys cloud entries same with ⟨used, extracted⟩ | ⟨unused, extracted⟩
    · rw [extracted, if_neg (positive.mp used)]
    · rw [extracted, if_pos (not_not.mp (mt positive.mpr unused))]

/-- A node with two pods, behind one without a GPU. -/
theorem buildGPU2K8s_blocks_nvidia : ∃ gpu2k8s,
    buildGPU2K8s (podsApi (gpuPod "proxy" "nvidia.com/gpu" 0 :: trainAndServe)) "node-1".toList [] = .ok gpu2k8s ∧
      OrdinalBlocks (podsApi (gpuPod "proxy" "nvidia.com/gpu" 0 :: trainAndServe))
        (nodeSettings (podsApi (gpuPod "proxy" "nvidia.com/gpu" 0 :: trainAndServe)) "node-1".toList [])
        (gpuPod "proxy" "nvidia.com/gpu" 0 :: trainAndServe) gpu2k8s :=
  buildGPU2K8s_blocks (podsApi (gpuPod "proxy" "nvidia.com/gpu" 0 :: trainAndServe)) "node-1".toList []
    (gpuPod "proxy" "nvidia.com/gpu" 0 :: trainAndServe) rfl

end GpuTelemetry
