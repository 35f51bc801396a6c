import GpuTelemetry.SlurmProcessor
import GpuTelemetry.K8sProcessor

namespace GpuTelemetry

/-! ### Sorted sets -/

theorem mem_allValues {gpu2Slurm : Dict Str SlurmMetadata} {field : SlurmMetadata → Str} {value : Str} :
    value ∈ allValues gpu2Slurm field ↔ ∃ entry ∈ gpu2Slurm.entries, field entry.2 = value := by
  have general : ∀ (entries : List (Str × SlurmMetadata)) (set : List Str),
      value ∈ entries.foldl (fun set entry => set.insert (field entry.2)) set ↔
        value ∈ set ∨ ∃ entry ∈ entries, field entry.2 = value := by
    intro entries
    induction entries with
    | nil => simp
    | cons entry entries ih =>
      intro set
      rw [List.foldl_cons, ih, List.mem_insert_iff]
      simp only [List.exists_mem_cons_iff, eq_comm (a := value)]
      tauto
  simpa [allValues] using general gpu2Slurm.entries []

theorem allValues_nodup (gpu2Slurm : Dict Str SlurmMetadata) (field : SlurmMetadata → Str) :
    (allValues gpu2Slurm field).Nodup := by
  have general : ∀ (entries : List (Str × SlurmMetadata)) (set : List Str), set.Nodup →
      (entries.foldl (fun set entry => set.insert (field entry.2)) set).Nodup := by
    intro entries
    induction entries with
    | nil => exact fun _ distinct => distinct
    | cons entry entries ih => exact fun set distinct => ih _ distinct.insert
  exact general gpu2Slurm.entries [] List.nodup_nil

/-- The order in which a set was filled does not show in its slice. -/
theorem setToSlice_perm {set set' : List Str} (same : set.Perm set') : setToSlice set = setToSlice set' := by
  refine List.Perm.eq_of_pairwise' (List.pairwise_insertionSort _ _) (List.pairwise_insertionSort _ _) ?_
  exact ((List.perm_insertionSort _ set).trans same).trans (List.perm_insertionSort _ set').symm

/-- The Slurm lists do not depend on the order of the map. -/
theorem getGPUData_perm {gpu2Slurm gpu2Slurm' : Dict Str SlurmMetadata}
    (order : gpu2Slurm.entries.Perm gpu2Slurm'.entries) : getGPUData gpu2Slurm = getGPUData gpu2Slurm' := by
  have column : ∀ field : SlurmMetadata → Str,
      setToSlice (allValues gpu2Slurm field) = setToSlice (allValues gpu2Slurm' field) := by
    intro field
    refine setToSlice_perm ((List.perm_ext_iff_of_nodup (allValues_nodup _ _) (allValues_nodup _ _)).mpr
      fun value => ?_)
    rw [mem_allValues, mem_allValues]
    simp only [order.mem_iff]
  simp only [getGPUData, column]

/-! ### Lists in the order of the map -/

/-- Two GPUs with the same pod, container and owners. -/
structure K8sMetadata.SameOwners (a b : K8sMetadata) : Prop where
  podName : a.PodName = b.PodName
  namespaceName : a.Namespace = b.Namespace
  nodeName : a.NodeName = b.NodeName
  containerName : a.ContainerName = b.ContainerName
  jobName : a.JobName = b.JobName
  statefulSetName : a.StatefulSetName = b.StatefulSetName
  deploymentName : a.DeploymentName = b.DeploymentName
  customOwnerKind : a.CustomOwnerKind = b.CustomOwnerKind
  customOwnerName : a.CustomOwnerKind ≠ [] → a.CustomOwnerName = b.CustomOwnerName

/-- The lists of a single GPU. -/
def K8sMetadata.lists (metadata : K8sMetadata) : K8sMetadataList where
  PodName := [metadata.PodName]
  Namespace := [metadata.Namespace]
  NodeName := [metadata.NodeName]
  ContainerName := [metadata.ContainerName]
  JobName := (nonEmpty metadata.JobName).toList
  StatefulSetName := (nonEmpty metadata.StatefulSetName).toList
  DeploymentName := (nonEmpty metadata.DeploymentName).toList
  CustomOwnerKind := (nonEmpty metadata.CustomOwnerKind).toList
  CustomOwnerName := if metadata.CustomOwnerKind ≠ [] then [metadata.CustomOwnerName] else []

/-- The key by which a pod is remembered. -/
def K8sMetadata.key (metadata : K8sMetadata) : Str := metadata.Namespace ++ "/".toList ++ metadata.PodName

theorem addGPUData_first (metadata : K8sMetadata) :
    addGPUData (⟨[], [], [], [], [], [], [], [], []⟩, []) metadata = (metadata.lists, [metadata.key]) := rfl

theorem addGPUData_again {metadata : K8sMetadata} {key : Str} (again : metadata.key = key) (result : K8sMetadataList) :
    addGPUData (result, [key]) metadata = (result, [key]) := by
  have seen : [key].contains metadata.key = true := by rw [again, List.contains_iff_mem, List.mem_singleton]
  exact if_pos seen

/-- GPUs of one pod give the lists of the first one. -/
theorem foldl_addGPUData_again {key : Str} {entries : List (Str × K8sMetadata)}
    (one : ∀ entry ∈ entries, entry.2.key = key) (result : K8sMetadataList) :
    entries.foldl (fun state entry => addGPUData state entry.2) (result, [key]) = (result, [key]) := by
  induction entries with
  | nil => rfl
  | cons entry entries ih =>
    rw [List.foldl_cons, addGPUData_again (one entry (by simp)), ih fun other member => one other (by simp [member])]

theorem getK8sGPUData_onePod {gpu2k8s : Dict Str K8sMetadata} {entry : Str × K8sMetadata}
    {others : List (Str × K8sMetadata)} (first : gpu2k8s.entries = entry :: others)
    (one : ∀ other ∈ others, other.2.key = entry.2.key) : getK8sGPUData gpu2k8s = entry.2.lists := by
  rw [getK8sGPUData, first, List.foldl_cons, addGPUData_first, foldl_addGPUData_again one]

theorem nonEmpty_toList_injective : Function.Injective fun s : Str => (nonEmpty s).toList := by
  intro a b same
  by_cases emptyA : a = [] <;> by_cases emptyB : b = [] <;> simp_all [nonEmpty]

theorem K8sMetadata.lists_eq_iff {a b : K8sMetadata} : a.lists = b.lists ↔ a.SameOwners b := by
  constructor
  · intro same
    have kind : a.CustomOwnerKind = b.CustomOwnerKind :=
      nonEmpty_toList_injective (congrArg K8sMetadataList.CustomOwnerKind same)
    exact {
      podName := List.singleton_inj.mp (congrArg K8sMetadataList.PodName same)
      namespaceName := List.singleton_inj.mp (congrArg K8sMetadataList.Namespace same)
      nodeName := List.singleton_inj.mp (congrArg K8sMetadataList.NodeName same)
      containerName := List.singleton_inj.mp (congrArg K8sMetadataList.ContainerName same)
      jobName := nonEmpty_toList_injective (congrArg K8sMetadataList.JobName same)
      statefulSetName := nonEmpty_toList_injective (congrArg K8sMetadataList.StatefulSetName same)
      deploymentName := nonEmpty_toList_injective (congrArg K8sMetadataList.DeploymentName same)
      customOwnerKind := kind
      customOwnerName := fun custom => by
        have names := congrArg K8sMetadataList.CustomOwnerName same
        simpa [K8sMetadata.lists, ← kind, custom] using names }
  · rintro ⟨podName, namespaceName, nodeName, containerName, jobName, statefulSetName, deploymentName, kind, name⟩
    by_cases custom : a.CustomOwnerKind = []
    · simp [K8sMetadata.lists, podName, namespaceName, nodeName, containerName, jobName, statefulSetName,
        deploymentName, ← kind, custom]
    · simp [K8sMetadata.lists, podName, namespaceName, nodeName, containerName, jobName, statefulSetName,
        deploymentName, ← kind, custom, name custom]

/-- The first GPU of the loop heads the lists of its pod. -/
theorem foldl_addGPUData_heads (entries : List (Str × K8sMetadata)) {state : K8sMetadataList × List Str}
    {metadata : K8sMetadata} (heads : state.1.PodName.head? = some metadata.PodName ∧
      state.1.Namespace.head? = some metadata.Namespace ∧ state.1.NodeName.head? = some metadata.NodeName ∧
      state.1.ContainerName.head? = some metadata.ContainerName) :
    let final := (entries.foldl (fun state entry => addGPUData state entry.2) state).1
    final.PodName.head? = some metadata.PodName ∧ final.Namespace.head? = some metadata.Namespace ∧
      final.NodeName.head? = some metadata.NodeName ∧ final.ContainerName.head? = some metadata.ContainerName := by
  induction entries generalizing state with
  | nil => exact heads
  | cons entry entries ih =>
    rw [List.foldl_cons]
    refine ih ?_
    obtain ⟨result, seen⟩ := state
    unfold addGPUData
    dsimp only at heads ⊢
    split
    · exact heads
    · simp [List.head?_append, heads]

/-- The iteration may begin with any entry. -/
theorem Dict.begin_with {κ ν : Type} (d : Dict κ ν) {entry : κ × ν} (member : entry ∈ d.entries) :
    ∃ (d' : Dict κ ν) (others : List (κ × ν)), d.entries.Perm d'.entries ∧ d'.entries = entry :: others ∧
      ∀ other ∈ others, other ∈ d.entries := by
  obtain ⟨front, back, split⟩ := List.append_of_mem member
  have order : d.entries.Perm (entry :: (front ++ back)) := by
    rw [split]
    exact List.perm_middle
  exact ⟨⟨entry :: (front ++ back), (order.map Prod.fst).nodup_iff.mp d.distinct⟩, front ++ back, order, rfl,
    fun other inOthers => order.mem_iff.mpr (List.mem_cons_of_mem entry inOthers)⟩

/-- If the order of the map does not matter, it gives what any of its GPUs gives alone. -/
theorem getK8sGPUData_of_ordered {gpu2k8s : Dict Str K8sMetadata}
    (ordered : ∀ gpu2k8s' : Dict Str K8sMetadata, gpu2k8s.entries.Perm gpu2k8s'.entries →
      getK8sGPUData gpu2k8s' = getK8sGPUData gpu2k8s) :
    ∀ entry ∈ gpu2k8s.entries, getK8sGPUData gpu2k8s = entry.2.lists := by
  have begun : ∀ entry ∈ gpu2k8s.entries, (getK8sGPUData gpu2k8s).PodName.head? = some entry.2.PodName ∧
      (getK8sGPUData gpu2k8s).Namespace.head? = some entry.2.Namespace ∧
      (getK8sGPUData gpu2k8s).NodeName.head? = some entry.2.NodeName ∧
      (getK8sGPUData gpu2k8s).ContainerName.head? = some entry.2.ContainerName := by
    intro entry member
    obtain ⟨gpu2k8s', others, order, first, -⟩ := gpu2k8s.begin_with member
    rw [← ordered gpu2k8s' order, getK8sGPUData, first, List.foldl_cons, addGPUData_first]
    exact foldl_addGPUData_heads others ⟨rfl, rfl, rfl, rfl⟩
  -- the heads agree, so there is one pod, and each order gives the lists of its first GPU
  have onePod : ∀ a ∈ gpu2k8s.entries, ∀ b ∈ gpu2k8s.entries, a.2.key = b.2.key := by
    intro a inA b inB
    obtain ⟨podA, spaceA, -⟩ := begun a inA
    obtain ⟨podB, spaceB, -⟩ := begun b inB
    rw [K8sMetadata.key, K8sMetadata.key, Option.some.inj (podA.symm.trans podB),
      Option.some.inj (spaceA.symm.trans spaceB)]
  intro entry member
  obtain ⟨gpu2k8s', others, order, first, inMap⟩ := gpu2k8s.begin_with member
  rw [← ordered gpu2k8s' order]
  exact getK8sGPUData_onePod first fun other inOthers => onePod other (inMap other inOthers) entry member

/-- With the same owners everywhere, any order gives what any of the GPUs gives alone. -/
theorem getK8sGPUData_of_sameOwners {gpu2k8s : Dict Str K8sMetadata}
    (same : ∀ a ∈ gpu2k8s.entries, ∀ b ∈ gpu2k8s.entries, a.2.SameOwners b.2) {gpu2k8s' : Dict Str K8sMetadata}
    (order : gpu2k8s.entries.Perm gpu2k8s'.entries) {entry : Str × K8sMetadata} (member : entry ∈ gpu2k8s.entries) :
    getK8sGPUData gpu2k8s' = entry.2.lists := by
  cases first : gpu2k8s'.entries with
  | nil =>
    rw [first] at order
    simp [order.eq_nil] at member
  | cons head others =>
    have inMap : ∀ other ∈ head :: others, other ∈ gpu2k8s.entries := fun other inOthers =>
      order.mem_iff.mpr (first ▸ inOthers)
    have head_same := same head (inMap head (by simp)) entry member
    rw [← K8sMetadata.lists_eq_iff.mpr head_same]
    refine getK8sGPUData_onePod first fun other inOthers => ?_
    have other_same := same other (inMap other (by simp [inOthers])) head (inMap head (by simp))
    rw [K8sMetadata.key, K8sMetadata.key, other_same.podName, other_same.namespaceName]

/-- The lists are the same in every order of the map, and hold every container
and owner name, exactly when all GPUs of the map have the same pod, container
and owners. -/
theorem getK8sGPUData_iff (gpu2k8s : Dict Str K8sMetadata) :
    ((∀ gpu2k8s' : Dict Str K8sMetadata, gpu2k8s.entries.Perm gpu2k8s'.entries →
          getK8sGPUData gpu2k8s' = getK8sGPUData gpu2k8s) ∧
        ∀ entry ∈ gpu2k8s.entries, entry.2.ContainerName ∈ (getK8sGPUData gpu2k8s).ContainerName ∧
          (entry.2.JobName ≠ [] → entry.2.JobName ∈ (getK8sGPUData gpu2k8s).JobName) ∧
          (entry.2.StatefulSetName ≠ [] → entry.2.StatefulSetName ∈ (getK8sGPUData gpu2k8s).StatefulSetName) ∧
          (entry.2.DeploymentName ≠ [] → entry.2.DeploymentName ∈ (getK8sGPUData gpu2k8s).DeploymentName)) ↔
      ∀ a ∈ gpu2k8s.entries, ∀ b ∈ gpu2k8s.entries, a.2.SameOwners b.2 := by
  constructor
  · rintro ⟨ordered, -⟩
    have alone := getK8sGPUData_of_ordered ordered
    intro a inA b inB
    exact K8sMetadata.lists_eq_iff.mp ((alone a inA).symm.trans (alone b inB))
  · intro same
    refine ⟨fun gpu2k8s' order => ?_, fun entry member => ?_⟩
    · cases entries : gpu2k8s.entries with
      | nil =>
        have none : gpu2k8s'.entries = [] := by
          rw [entries] at order
          exact order.nil_eq.symm
        rw [getK8sGPUData, getK8sGPUData, entries, none]
      | cons entry others =>
        have member : entry ∈ gpu2k8s.entries := by simp [entries]
        rw [getK8sGPUData_of_sameOwners same order member, getK8sGPUData_of_sameOwners same (List.Perm.refl _) member]
    · rw [getK8sGPUData_of_sameOwners same (List.Perm.refl _) member]
      simp only [K8sMetadata.lists, List.mem_singleton, nonEmpty]
      refine ⟨trivial, fun named => ?_, fun named => ?_, fun named => ?_⟩ <;> simp [named]

/-- A GPU of a container in a pod, without owners. -/
def plainMetadata (podName containerName : String) : K8sMetadata where
  PodName := podName.toList
  Namespace := "ml".toList
  NodeName := "gpu-node-1".toList
  ContainerName := containerName.toList
  Labels := .empty
  JobName := []
  StatefulSetName := []
  DeploymentName := []
  CustomOwnerKind := []
  CustomOwnerName := []
  CloudZone := []
  CloudRegion := []

def twoPods : Dict Str K8sMetadata :=
  ⟨[("0".toList, plainMetadata "a" "main"), ("1".toList, plainMetadata "b" "main")], by decide⟩

def twoPodsReversed : Dict Str K8sMetadata :=
  ⟨[("1".toList, plainMetadata "b" "main"), ("0".toList, plainMetadata "a" "main")], by decide⟩

def twoContainers : Dict Str K8sMetadata :=
  ⟨[("0".toList, plainMetadata "a" "main"), ("1".toList, plainMetadata "a" "sidecar")], by decide⟩

/-- Two pods come in the order of the map, and of two containers of one pod the
second is missing. -/
theorem getK8sGPUData_unordered :
    twoPods.entries.Perm twoPodsReversed.entries ∧ getK8sGPUData twoPods ≠ getK8sGPUData twoPodsReversed ∧
      "sidecar".toList ∉ (getK8sGPUData twoContainers).ContainerName := by
  refine ⟨List.Perm.swap _ _ _, fun same => ?_, by decide⟩
  have pods := congrArg K8sMetadataList.PodName same
  revert pods
  decide

/-! ### Several pods -/

/-- In a map that is alike, the GPUs of a pod have the same owners and container, and all GPUs the same zone and
region. -/
structure AlikePods (gpu2k8s : Dict Str K8sMetadata) : Prop where
  owners : ∀ a ∈ gpu2k8s.entries, ∀ b ∈ gpu2k8s.entries, a.2.key = b.2.key → a.2.SameOwners b.2
  cloud : ∀ a ∈ gpu2k8s.entries, ∀ b ∈ gpu2k8s.entries,
    a.2.CloudZone = b.2.CloudZone ∧ a.2.CloudRegion = b.2.CloudRegion

namespace K8sMetadataList

def empty : K8sMetadataList := ⟨[], [], [], [], [], [], [], [], []⟩

def append (list list' : K8sMetadataList) : K8sMetadataList where
  PodName := list.PodName ++ list'.PodName
  Namespace := list.Namespace ++ list'.Namespace
  NodeName := list.NodeName ++ list'.NodeName
  ContainerName := list.ContainerName ++ list'.ContainerName
  JobName := list.JobName ++ list'.JobName
  StatefulSetName := list.StatefulSetName ++ list'.StatefulSetName
  DeploymentName := list.DeploymentName ++ list'.DeploymentName
  CustomOwnerKind := list.CustomOwnerKind ++ list'.CustomOwnerKind
  CustomOwnerName := list.CustomOwnerName ++ list'.CustomOwnerName

/-- The lists without their order. -/
def sorted (list : K8sMetadataList) : K8sMetadataList where
  PodName := setToSlice list.PodName
  Namespace := setToSlice list.Namespace
  NodeName := setToSlice list.NodeName
  ContainerName := setToSlice list.ContainerName
  JobName := setToSlice list.JobName
  StatefulSetName := setToSlice list.StatefulSetName
  DeploymentName := setToSlice list.DeploymentName
  CustomOwnerKind := setToSlice list.CustomOwnerKind
  CustomOwnerName := setToSlice list.CustomOwnerName

theorem foldl_append_column {column : K8sMetadataList → List Str}
    (appends : ∀ list list', column (append list list') = column list ++ column list') (rows : List K8sMetadataList)
    (list : K8sMetadataList) : column (rows.foldl append list) = column list ++ rows.flatMap column := by
  induction rows generalizing list with
  | nil => exact (List.append_nil _).symm
  | cons row rows ih => rw [List.foldl_cons, ih, appends, List.flatMap_cons, List.append_assoc]

end K8sMetadataList

/-- The GPUs at which the loop takes a pod. -/
def podGPUs (seen : List Str) : List (Str × K8sMetadata) → List K8sMetadata
  | [] => []
  | entry :: entries =>
    if seen.contains entry.2.key then podGPUs seen entries else entry.2 :: podGPUs (entry.2.key :: seen) entries

theorem foldl_addGPUData_eq (entries : List (Str × K8sMetadata)) (result : K8sMetadataList) (seen : List Str) :
    (entries.foldl (fun state entry => addGPUData state entry.2) (result, seen)).1 =
      ((podGPUs seen entries).map K8sMetadata.lists).foldl K8sMetadataList.append result := by
  induction entries generalizing result seen with
  | nil => rfl
  | cons entry entries ih =>
    have round : addGPUData (result, seen) entry.2 =
        if seen.contains entry.2.key then (result, seen)
        else (result.append entry.2.lists, entry.2.key :: seen) := rfl
    rw [List.foldl_cons, round, podGPUs]
    split
    · exact ih result seen
    · exact ih _ _

theorem podGPUs_subset {seen : List Str} {entries : List (Str × K8sMetadata)} {metadata : K8sMetadata}
    (member : metadata ∈ podGPUs seen entries) : ∃ entry ∈ entries, entry.2 = metadata := by
  induction entries generalizing seen with
  | nil => exact absurd member List.not_mem_nil
  | cons entry entries ih =>
    rw [podGPUs] at member
    split at member
    · obtain ⟨other, inEntries, isMetadata⟩ := ih member
      exact ⟨other, List.mem_cons_of_mem _ inEntries, isMetadata⟩
    · rcases List.mem_cons.mp member with isFirst | later
      · exact ⟨entry, List.mem_cons_self, isFirst.symm⟩
      · obtain ⟨other, inEntries, isMetadata⟩ := ih later
        exact ⟨other, List.mem_cons_of_mem _ inEntries, isMetadata⟩

theorem mem_podGPUs_key {seen : List Str} {entries : List (Str × K8sMetadata)} {key : Str} :
    key ∈ (podGPUs seen entries).map K8sMetadata.key ↔ key ∉ seen ∧ ∃ entry ∈ entries, entry.2.key = key := by
  induction entries generalizing seen with
  | nil => simp [podGPUs]
  | cons entry entries ih =>
    rw [podGPUs, List.exists_mem_cons_iff]
    by_cases isSeen : entry.2.key ∈ seen
    · rw [if_pos (List.contains_iff_mem.mpr isSeen), ih]
      refine and_congr_right fun unseen => (or_iff_right fun same => ?_).symm
      exact unseen (same ▸ isSeen)
    · rw [if_neg fun contains => isSeen (List.contains_iff_mem.mp contains), List.map_cons, List.mem_cons, ih,
        List.mem_cons]
      by_cases same : key = entry.2.key
      · simp [same, isSeen]
      · simp [same, Ne.symm same]

theorem podGPUs_nodup (seen : List Str) (entries : List (Str × K8sMetadata)) :
    ((podGPUs seen entries).map K8sMetadata.key).Nodup := by
  induction entries generalizing seen with
  | nil => exact List.nodup_nil
  | cons entry entries ih =>
    rw [podGPUs]
    split
    · exact ih seen
    · rw [List.map_cons, List.nodup_cons]
      exact ⟨fun member => (mem_podGPUs_key.mp member).1 List.mem_cons_self, ih _⟩

namespace AlikePods

variable {gpu2k8s gpu2k8s' : Dict Str K8sMetadata}

/-- The key of a pod tells what it adds to the lists. -/
theorem lists_of_key (alike : AlikePods gpu2k8s) :
    ∃ rows : Str → K8sMetadataList, ∀ entry ∈ gpu2k8s.entries, entry.2.lists = rows entry.2.key := by
  classical
  refine ⟨fun key => if held : ∃ entry ∈ gpu2k8s.entries, entry.2.key = key then held.choose.2.lists else .empty,
    fun entry member => ?_⟩
  have held : ∃ other ∈ gpu2k8s.entries, other.2.key = entry.2.key := ⟨entry, member, rfl⟩
  have same := alike.owners entry member held.choose held.choose_spec.1 held.choose_spec.2.symm
  dsimp only
  rw [dif_pos held]
  exact K8sMetadata.lists_eq_iff.mpr same

/-- In another order, the pods are the same. -/
theorem rows_perm (alike : AlikePods gpu2k8s) (order : gpu2k8s.entries.Perm gpu2k8s'.entries) :
    ((podGPUs [] gpu2k8s.entries).map K8sMetadata.lists).Perm
      ((podGPUs [] gpu2k8s'.entries).map K8sMetadata.lists) := by
  obtain ⟨rows, ofKey⟩ := alike.lists_of_key
  have byKey (entries : List (Str × K8sMetadata)) (inMap : ∀ entry ∈ entries, entry ∈ gpu2k8s.entries) :
      (podGPUs [] entries).map K8sMetadata.lists = ((podGPUs [] entries).map K8sMetadata.key).map rows := by
    rw [List.map_map]
    refine List.map_congr_left fun metadata member => ?_
    obtain ⟨entry, inEntries, rfl⟩ := podGPUs_subset member
    exact ofKey entry (inMap entry inEntries)
  have keys : ((podGPUs [] gpu2k8s.entries).map K8sMetadata.key).Perm
      ((podGPUs [] gpu2k8s'.entries).map K8sMetadata.key) := by
    refine (List.perm_ext_iff_of_nodup (podGPUs_nodup _ _) (podGPUs_nodup _ _)).mpr fun key => ?_
    rw [mem_podGPUs_key, mem_podGPUs_key]
    simp only [order.mem_iff]
  rw [byKey _ fun _ member => member, byKey _ fun _ member => order.mem_iff.mpr member]
  exact keys.map rows

theorem column_perm (alike : AlikePods gpu2k8s) (order : gpu2k8s.entries.Perm gpu2k8s'.entries)
    {column : K8sMetadataList → List Str}
    (appends : ∀ list list', column (K8sMetadataList.append list list') = column list ++ column list') :
    (column (getK8sGPUData gpu2k8s)).Perm (column (getK8sGPUData gpu2k8s')) := by
  rw [getK8sGPUData, getK8sGPUData, foldl_addGPUData_eq, foldl_addGPUData_eq,
    K8sMetadataList.foldl_append_column appends, K8sMetadataList.foldl_append_column appends]
  exact ((alike.rows_perm order).flatMap_right column).append_left _

/-- In any order of the map the lists are the same, apart from their own order. -/
theorem getK8sGPUData_sorted (alike : AlikePods gpu2k8s) (order : gpu2k8s.entries.Perm gpu2k8s'.entries) :
    (getK8sGPUData gpu2k8s).sorted = (getK8sGPUData gpu2k8s').sorted := by
  have same (column : K8sMetadataList → List Str)
      (appends : ∀ list list', column (K8sMetadataList.append list list') = column list ++ column list') :
      setToSlice (column (getK8sGPUData gpu2k8s)) = setToSlice (column (getK8sGPUData gpu2k8s')) :=
    setToSlice_perm (alike.column_perm order appends)
  simp only [K8sMetadataList.sorted, K8sMetadataList.mk.injEq]
  exact ⟨same K8sMetadataList.PodName fun _ _ => rfl, same K8sMetadataList.Namespace fun _ _ => rfl,
    same K8sMetadataList.NodeName fun _ _ => rfl, same K8sMetadataList.ContainerName fun _ _ => rfl,
    same K8sMetadataList.JobName fun _ _ => rfl, same K8sMetadataList.StatefulSetName fun _ _ => rfl,
    same K8sMetadataList.DeploymentName fun _ _ => rfl, same K8sMetadataList.CustomOwnerKind fun _ _ => rfl,
    same K8sMetadataList.CustomOwnerName fun _ _ => rfl⟩

/-- Any GPU tells the zone and the region. -/
theorem extractCloudInfo_eq (alike : AlikePods gpu2k8s) (order : gpu2k8s.entries.Perm gpu2k8s'.entries) :
    extractCloudInfo gpu2k8s = extractCloudInfo gpu2k8s' := by
  unfold extractCloudInfo
  rcases first : gpu2k8s.entries with _ | ⟨a, others⟩
  · rw [first] at order
    rw [order.nil_eq.symm]
  · rcases first' : gpu2k8s'.entries with _ | ⟨b, others'⟩
    · rw [first'] at order
      rw [order.eq_nil] at first
      cases first
    · have inMap : b ∈ gpu2k8s.entries := order.mem_iff.mpr (by rw [first']; exact List.mem_cons_self)
      obtain ⟨zone, region⟩ := alike.cloud a (by rw [first]; exact List.mem_cons_self) b inMap
      exact Prod.ext zone region

end AlikePods

end GpuTelemetry
