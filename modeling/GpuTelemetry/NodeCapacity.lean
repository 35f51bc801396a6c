import GpuTelemetry.NodeStates

namespace GpuTelemetry

/-! ### Down and running states -/

/-- The tables of down and of running states overlap in one word, of which one
table has only the beginning. -/
theorem down_and_running_iff (state : Str) :
    (startsWithAny nodeDownStates state ∧ startsWithAny nodeRunningJobStates state) ↔ "failing".toList <+: state := by
  simp only [startsWithAny, List.any_eq_true, List.isPrefixOf_iff_prefix]
  have tables : ∀ down ∈ nodeDownStates, ∀ running ∈ nodeRunningJobStates, (down <+: running ∨ running <+: down) →
      running = "failing".toList := by decide
  constructor
  · rintro ⟨⟨down, isDown, startsDown⟩, running, isRunning, startsRunning⟩
    rw [← tables down isDown running isRunning (List.prefix_or_prefix_of_prefix startsDown startsRunning)]
    exact startsRunning
  · intro failing
    have fail : "fail".toList <+: "failing".toList := by decide
    exact ⟨⟨_, by decide, fail.trans failing⟩, _, by decide, failing⟩

/-! ### The two totals over the same nodes -/

/-- A node that allocates no more than it has. -/
def SinfoNode.Fits (node : SinfoNode) : Prop :=
  0 ≤ node.totalCpus ∧ node.allocCpus ≤ node.totalCpus ∧ ∃ totalGpus allocGpus,
    extractGpusFromGres node.gres = .ok totalGpus ∧ parseGres node.gresUsed = .ok allocGpus ∧ allocGpus ≤ totalGpus

structure CapacityConsistent (data : SinfoCpusGpus Int) (allocCpus allocGpus : Int) : Prop where
  cpusUp : allocCpus ≤ data.value "total_cpus_up"
  gpusUp : allocGpus ≤ data.value "total_gpus_up"
  cpusAvail : data.value "total_cpus_up" + data.value "total_cpus_down" = data.value "total_cpus_avail"
  gpusAvail : data.value "total_gpus_up" + data.value "total_gpus_down" = data.value "total_gpus_avail"

/-- What a node with these totals does to the capacities. -/
def addCapacity (data : SinfoCpusGpus Int) (down : Bool) (cpus gpus : Int) : SinfoCpusGpus Int :=
  let data :=
    if down then (data.modify "total_cpus_down" (· + cpus)).modify "total_gpus_down" (· + gpus)
    else (data.modify "total_cpus_up" (· + cpus)).modify "total_gpus_up" (· + gpus)
  (data.modify "total_cpus_avail" (· + cpus)).modify "total_gpus_avail" (· + gpus)

theorem value_addCapacity (data : SinfoCpusGpus Int) (down : Bool) (cpus gpus : Int) :
    let data' := addCapacity data down cpus gpus
    data'.value "total_cpus_up" = data.value "total_cpus_up" + (if down then 0 else cpus) ∧
      data'.value "total_gpus_up" = data.value "total_gpus_up" + (if down then 0 else gpus) ∧
      data'.value "total_cpus_down" = data.value "total_cpus_down" + (if down then cpus else 0) ∧
      data'.value "total_gpus_down" = data.value "total_gpus_down" + (if down then gpus else 0) ∧
      data'.value "total_cpus_avail" = data.value "total_cpus_avail" + cpus ∧
      data'.value "total_gpus_avail" = data.value "total_gpus_avail" + gpus := by
  have distinct : sinfoCpusGpusFields.Nodup := by decide
  cases down
  · simp (disch := decide) [addCapacity, FieldValues.value_modify distinct]
  · simp (disch := decide) [addCapacity, FieldValues.value_modify distinct]

/-- One node of each of the two loops. A node that is up adds to what is up
what it adds to what is allocated, or more. -/
theorem CapacityConsistent.step {data : SinfoCpusGpus Int} {allocCpus allocGpus cpus gpus cpusUsed gpusUsed : Int}
    (consistent : CapacityConsistent data allocCpus allocGpus) (down running : Bool) (apart : ¬(down ∧ running))
    (cpusPositive : 0 ≤ cpus) (gpusPositive : 0 ≤ gpus) (cpusFit : cpusUsed ≤ cpus) (gpusFit : gpusUsed ≤ gpus) :
    CapacityConsistent (addCapacity data down cpus gpus) (if running then allocCpus + cpusUsed else allocCpus)
      (if running then allocGpus + gpusUsed else allocGpus) := by
  obtain ⟨cpusUp, gpusUp, cpusDown, gpusDown, cpusAvail, gpusAvail⟩ := value_addCapacity data down cpus gpus
  obtain ⟨upCpus, upGpus, availCpus, availGpus⟩ := consistent
  constructor
  · rw [cpusUp]
    cases down <;> cases running <;> simp at apart ⊢ <;> omega
  · rw [gpusUp]
    cases down <;> cases running <;> simp at apart ⊢ <;> omega
  · rw [cpusUp, cpusDown, cpusAvail]
    cases down <;> simp <;> omega
  · rw [gpusUp, gpusDown, gpusAvail]
    cases down <;> simp <;> omega

/-- The loop body of `compute_total_cpus_gpus`. -/
def countCapacity (data : SinfoCpusGpus Int) (node : SinfoNode) : Except PyError (SinfoCpusGpus Int) := do
  let totalGpus ← extractGpusFromGres node.gres
  return addCapacity data (startsWithAny nodeDownStates node.state) node.totalCpus totalGpus

/-- The loop body of `compute_total_allocated_cpus_gpus`. -/
def countAllocated (alloc : Int × Int × Int) (node : SinfoNode) : Except PyError (Int × Int × Int) :=
  if startsWithAny nodeRunningJobStates node.state then do
    let gpus ← parseGres node.gresUsed
    return (alloc.1 + node.allocCpus, alloc.2.1 + gpus, alloc.2.2 + 1)
  else return alloc

theorem capacity_run {nodes : List SinfoNode} (fits : ∀ node ∈ nodes, node.Fits)
    (apart : ∀ node ∈ nodes, ¬(startsWithAny nodeDownStates node.state ∧ startsWithAny nodeRunningJobStates node.state))
    {data : SinfoCpusGpus Int} {alloc : Int × Int × Int} (consistent : CapacityConsistent data alloc.1 alloc.2.1) :
    ∃ data' alloc', nodes.foldlM countCapacity data = .ok data' ∧ nodes.foldlM countAllocated alloc = .ok alloc' ∧
      CapacityConsistent data' alloc'.1 alloc'.2.1 := by
  induction nodes generalizing data alloc with
  | nil => exact ⟨data, alloc, rfl, rfl, consistent⟩
  | cons node nodes ih =>
    rw [List.forall_mem_cons] at fits apart
    obtain ⟨positive, cpusFit, totalGpus, allocGpus, total, used, gpusFit⟩ := fits.1
    have step := consistent.step _ _ apart.1 positive totalGpus.cast_nonneg cpusFit (Int.ofNat_le.mpr gpusFit)
    have counted : countCapacity data node =
        .ok (addCapacity data (startsWithAny nodeDownStates node.state) node.totalCpus totalGpus) := by
      rw [countCapacity, total]
      rfl
    rw [List.foldlM_cons, List.foldlM_cons, counted]
    by_cases running : startsWithAny nodeRunningJobStates node.state
    · have allocated : countAllocated alloc node =
          .ok (alloc.1 + node.allocCpus, alloc.2.1 + allocGpus, alloc.2.2 + 1) := by
        rw [countAllocated, if_pos running, used]
        rfl
      rw [allocated]
      rw [if_pos running, if_pos running] at step
      exact ih fits.2 apart.2 step
    · have idle : countAllocated alloc node = .ok alloc := by
        rw [countAllocated, if_neg running]
        rfl
      rw [idle]
      rw [if_neg running, if_neg running] at step
      exact ih fits.2 apart.2 step

/-- No node is counted as running jobs and as down. -/
def NodesApart (nodes : List SinfoNode) : Prop :=
  ∀ node ∈ uniqueNodes nodes,
    ¬(startsWithAny nodeDownStates node.state ∧ startsWithAny nodeRunningJobStates node.state)

/-- What is allocated is also up exactly when no node is failing, by the last of its rows. -/
theorem allocated_le_up_iff (nodes : List SinfoNode) (fits : ∀ node ∈ nodes, node.Fits) :
    (∃ data alloc, computeTotalCpusGpus nodes = .ok data ∧ computeTotalAllocatedCpusGpus nodes = .ok alloc ∧
        CapacityConsistent data alloc.1 alloc.2.1 ∧ NodesApart nodes) ↔
      ∀ name, ∀ node ∈ lastRow nodes name, ¬"failing".toList <+: node.state := by
  constructor
  · rintro ⟨-, -, -, -, -, apart⟩ name node last failing
    have member : node ∈ uniqueNodes nodes := mem_uniqueNodes.mpr ((mem_lastRow last).2 ▸ last)
    exact apart node member ((down_and_running_iff node.state).mpr failing)
  · intro free
    have apart : NodesApart nodes := by
      intro node member both
      exact free node.name node (mem_uniqueNodes.mp member) ((down_and_running_iff node.state).mp both)
    have start : CapacityConsistent (.constant _ 0) 0 0 := by
      constructor <;> simp [FieldValues.value_constant]
    obtain ⟨data, alloc, total, used, consistent⟩ :=
      @capacity_run _ (fun node member => fits node (mem_of_mem_uniqueNodes member)) apart _ (0, 0, 0) start
    exact ⟨data, alloc, total, used, consistent, apart⟩

/-- A failing node that still runs jobs: its 3 CPUs and 2 GPUs are allocated and none is up. -/
theorem failing_node_not_up :
    let node : SinfoNode := ⟨"n1".toList, "gpu:4".toList, "gpu:2".toList, 8, 3, "failing".toList, []⟩
    node.Fits ∧
      (computeTotalCpusGpus [node]).map (fun data => (data.value "total_cpus_up", data.value "total_gpus_up")) =
        .ok (0, 0) ∧
      computeTotalAllocatedCpusGpus [node] = .ok (3, 2, 1) :=
  ⟨⟨by decide, by decide, 4, 2, rfl, rfl, by decide⟩, rfl, rfl⟩

/-- Two nodes, one of them in two partitions. -/
theorem allocated_le_up_iff_idle :
    let nodes : List SinfoNode := [⟨"n1".toList, "gpu:4".toList, "gpu:2".toList, 8, 3, "mixed*".toList, "a".toList⟩,
      ⟨"n2".toList, "gpu:4".toList, "gpu:0".toList, 8, 0, "idle".toList, "a".toList⟩,
      ⟨"n1".toList, "gpu:4".toList, "gpu:2".toList, 8, 3, "mixed*".toList, "b".toList⟩]
    (∀ row ∈ nodes, row.Fits) ∧
      ((∃ data alloc, computeTotalCpusGpus nodes = .ok data ∧ computeTotalAllocatedCpusGpus nodes = .ok alloc ∧
          CapacityConsistent data alloc.1 alloc.2.1 ∧ NodesApart nodes) ↔
        ∀ name, ∀ row ∈ lastRow nodes name, ¬"failing".toList <+: row.state) := by
  intro nodes
  have fits : ∀ row ∈ nodes, row.Fits := by
    intro row member
    simp only [nodes, List.mem_cons, List.not_mem_nil, or_false] at member
    rcases member with rfl | rfl | rfl
    · exact ⟨by decide, by decide, 4, 2, rfl, rfl, by decide⟩
    · exact ⟨by decide, by decide, 4, 0, rfl, rfl, by decide⟩
    · exact ⟨by decide, by decide, 4, 2, rfl, rfl, by decide⟩
  exact ⟨fits, allocated_le_up_iff nodes fits⟩

end GpuTelemetry
