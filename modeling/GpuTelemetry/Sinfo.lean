import GpuTelemetry.Dicts
import GpuTelemetry.Gres
import Mathlib.Algebra.BigOperators.Group.List.Basic
import Mathlib.Data.List.Dedup
import Mathlib.Data.Rat.Defs

namespace GpuTelemetry

/-! ### States -/

def failedJobStates : List Str :=
  ["boot_fail", "bf", "cancelled", "ca", "deadline", "dl", "failed", "f", "node_fail", "nf", "out_of_memory", "oom",
    "preempted", "pr", "timeout", "to"].map String.toList

def pendingJobStates : List Str := ["pending", "pd", "requeued", "rq", "suspended", "s"].map String.toList

def runningJobStates : List Str := ["running", "r"].map String.toList

def nodeStates : List Str :=
  ["allocated", "allocated+", "blocked", "completing", "down", "drained", "draining", "fail", "failing", "future",
    "idle", "inval", "maint", "reboot_issued", "reboot_requested", "mixed", "perfctrs", "planned", "power_down",
    "powered_down", "powering_down", "powering_up", "reserved", "unknown"].map String.toList

def nodeDownStates : List Str :=
  ["drained", "down", "maint", "powered_down", "powering_down", "powering_up", "fail", "future", "inval",
    "perfctrs"].map String.toList

def nodeRunningJobStates : List Str :=
  ["allocated", "allocated+", "mixed", "draining", "completing", "failing"].map String.toList

/-- `str.lower` on ASCII. No other character lowers into a part of the words
that the results are compared with. -/
def lower (s : Str) : Str := s.map Char.toLower

/-- `any(s.startswith(p) for p in prefixes)`. -/
def startsWithAny (prefixes : List Str) (s : Str) : Bool := prefixes.any fun p => p.isPrefixOf s

/-! ### Jobs -/

/-- A `SacctMetrics`. A job's seconds and all means and variances are exact here.
A job has no seconds where `instantiate_dataclass` missed the column. -/
structure SacctMetrics where
  waitingTime : Option ℚ
  user : Str
  account : Str
  allocCPUS : Int
  reqNodes : Int
  submit : Str
  start : Str
  endText : Str
  state : Str
  allocNodes : Int
  allocGPUS : Int
  reqGPUS : Int
  runTimeSeconds : Option ℚ
  suspendedSeconds : Option ℚ

/-- An aware `datetime`: its instant in microseconds, and its text. -/
structure AwareDatetime where
  instant : Int
  text : Str

/-- What the standard library knows of Unicode and of the system's timezone:
`str.isnumeric` of a character, and the instant `tz_aware_fromisoformat` reads. -/
structure PyRuntime where
  isNumericChar : Char → Bool
  fromIsoFormat : Str → Option Int

/-- `timedelta.total_seconds` of a number of microseconds. -/
def totalSeconds (microseconds : Int) : ℚ := microseconds / 1000000

def computeMeanAndVariance (values : List (Option ℚ)) (key : Str) : Except PyError (ℚ × ℚ) :=
  let values := values.filterMap id
  let numJobs := values.length
  if numJobs = 0 then
    .error (.valueError ("No jobs in given sequence had at least one with the key '".toList ++ key ++ "'".toList))
  else
    let meanValue := values.sum / numJobs
    let varValue := (values.map fun x => (x - meanValue) ^ 2).sum
    .ok (meanValue, if 1 < numJobs then varValue / (numJobs - 1) else 0)

def computeResourcesPending (jobs : List SacctMetrics) : Int × Int × Int :=
  let pending := jobs.filter fun job => lower job.state ∈ pendingJobStates
  (pending.length, (pending.map SacctMetrics.reqGPUS).sum, (pending.map SacctMetrics.reqNodes).sum)

def runningJobs (jobs : List SacctMetrics) : List SacctMetrics :=
  jobs.filter fun job => lower job.state ∈ runningJobStates

def computeFailedJobs (jobs : List SacctMetrics) : Int :=
  jobs.countP fun job => startsWithAny failedJobStates (lower job.state)

def computeRunningAndPendingUsers (jobs : List SacctMetrics) : Int :=
  ((jobs.filter fun job => lower job.state ∈ pendingJobStates ∨ lower job.state ∈ runningJobStates).map
    SacctMetrics.user).dedup.length

def computeJobsWithoutUser (runtime : PyRuntime) (jobs : List SacctMetrics) : Int :=
  jobs.countP fun job => !job.user.isEmpty && job.user.all runtime.isNumericChar

/-- A job whose `Submit` or `Start` cannot be read keeps its waiting time. -/
def computeWaitTimeDistribution (runtime : PyRuntime) (jobs : List SacctMetrics) : Except PyError (ℚ × ℚ) :=
  let waitingTimes := jobs.map fun job =>
    match runtime.fromIsoFormat job.submit, runtime.fromIsoFormat job.start with
    | some submitTime, some startTime => some (totalSeconds (startTime - submitTime))
    | _, _ => job.waitingTime
  computeMeanAndVariance waitingTimes "WaitingTime".toList

/-- `none` where `log_error` catches the division by zero. -/
def computePercentJobsDistributedTraining (jobs : List SacctMetrics) : Option ℚ :=
  if jobs.isEmpty then none else some ((jobs.countP fun job => 1 < job.allocNodes : ℚ) / jobs.length)

def computeJobRuntimeDistribution (jobs : List SacctMetrics) : Option (ℚ × ℚ) :=
  (computeMeanAndVariance (jobs.map SacctMetrics.runTimeSeconds) "RunTimeSeconds".toList).toOption

def computeDistributionJobsPerUser (jobs : List SacctMetrics) : Option (ℚ × ℚ) :=
  let jobsPerUser := groupByKey SacctMetrics.user jobs
  (computeMeanAndVariance (jobsPerUser.map fun group => some (group.2.length : ℚ)) "NumberJobs".toList).toOption

def computeAvgTimeJobSuspended (jobs : List SacctMetrics) : Option (ℚ × ℚ) :=
  (computeMeanAndVariance (jobs.map SacctMetrics.suspendedSeconds) "SuspendedSeconds".toList).toOption

def computeNumberOfActiveUsers (jobs : List SacctMetrics) : Int := (jobs.map SacctMetrics.user).dedup.length

/-- The running totals of `compute_avg_allocated_cpus_gpus`. -/
structure WeightedUsage where
  totalTime : ℚ
  cpuUsage : ℚ
  gpuUsage : ℚ

def computeAvgAllocatedCpusGpus (runtime : PyRuntime) (startTime endTime : AwareDatetime)
    (jobs : List SacctMetrics) : Except PyError (ℚ × ℚ) :=
  if endTime.instant ≤ startTime.instant then
    .error (.valueError ("End time ".toList ++ endTime.text ++ " must be after start time ".toList ++ startTime.text))
  else
    let usage := jobs.foldl (fun (usage : WeightedUsage) job =>
      match runtime.fromIsoFormat job.start, runtime.fromIsoFormat job.endText with
      | some jobStartTime, some jobEndTime =>
        let secsWithinInterval :=
          totalSeconds (min jobEndTime endTime.instant - max jobStartTime startTime.instant)
        ⟨usage.totalTime + secsWithinInterval, usage.cpuUsage + secsWithinInterval * job.allocCPUS,
          usage.gpuUsage + secsWithinInterval * job.allocGPUS⟩
      | _, _ => usage) ⟨0, 0, 0⟩
    if 0 < usage.totalTime then .ok (usage.cpuUsage / usage.totalTime, usage.gpuUsage / usage.totalTime)
    else .ok (usage.cpuUsage, usage.gpuUsage)

def computeAllocatedResources (jobs : List SacctMetrics) : Int × Int × Int :=
  ((jobs.map SacctMetrics.allocCPUS).sum, (jobs.map SacctMetrics.allocGPUS).sum,
    (jobs.map SacctMetrics.allocNodes).sum)

structure SLURMLogAccountMetrics where
  derivedCluster : Str
  pre : Str
  account : Str
  totalGpusAlloc : Int
  totalCpusAlloc : Int
  totalNodesAlloc : Int
  jobRuntimeMean : Option ℚ
  jobRuntimeVariance : Option ℚ
  activeUsers : Option Int
  jobsDistTrainingPercent : Option ℚ

/-- The loop over the accounts. The mean and variance of an account whose
distribution fails are those of the account before it. -/
def accountLogs (derivedCluster : Str) (jobRuntimeMean jobRuntimeVariance : Option ℚ) :
    List (Str × List SacctMetrics) → List SLURMLogAccountMetrics
  | [] => []
  | (account, jobs) :: rest =>
    if account = [] then accountLogs derivedCluster jobRuntimeMean jobRuntimeVariance rest
    else
      let (jobRuntimeMean, jobRuntimeVariance) := match computeJobRuntimeDistribution jobs with
        | some (mean, variance) => (some mean, some variance)
        | none => (jobRuntimeMean, jobRuntimeVariance)
      let (totalCpusAlloc, totalGpusAlloc, totalNodesAlloc) := computeAllocatedResources jobs
      ⟨derivedCluster, "l9gpu.".toList ++ account ++ ".".toList, account, totalGpusAlloc, totalCpusAlloc,
        totalNodesAlloc, jobRuntimeMean, jobRuntimeVariance, some (computeNumberOfActiveUsers jobs),
        computePercentJobsDistributedTraining jobs⟩ ::
        accountLogs derivedCluster jobRuntimeMean jobRuntimeVariance rest

def computePerAccountSlurmLog (jobs : List SacctMetrics) (derivedCluster : Str) : List SLURMLogAccountMetrics :=
  accountLogs derivedCluster none none (groupByKey SacctMetrics.account jobs)

/-! ### Nodes -/

structure SinfoNode where
  name : Str
  gres : Str
  gresUsed : Str
  totalCpus : Int
  allocCpus : Int
  state : Str
  partition : Str

/-- `{node.name: node for node in sinfo.nodes}.values()`. -/
def uniqueNodes (nodes : List SinfoNode) : List SinfoNode :=
  (dictUpdate [] (nodes.map fun node => (node.name, node))).map Prod.snd

def computeDownNodes (nodes : List SinfoNode) : Int :=
  ((nodes.filter fun node => startsWithAny nodeDownStates node.state).map SinfoNode.name).dedup.length

def sinfoCpusGpusFields : List String :=
  ["total_cpus_avail", "total_gpus_avail", "total_cpus_up", "total_gpus_up", "total_cpus_down",
    "total_gpus_down"]

abbrev SinfoCpusGpus := FieldValues sinfoCpusGpusFields

def computeTotalCpusGpus (nodes : List SinfoNode) : Except PyError (SinfoCpusGpus Int) :=
  (uniqueNodes nodes).foldlM (fun data node => do
    let totalGpus ← extractGpusFromGres node.gres
    let data :=
      if startsWithAny nodeDownStates node.state then
        (data.modify "total_cpus_down" (· + node.totalCpus)).modify "total_gpus_down" (· + totalGpus)
      else (data.modify "total_cpus_up" (· + node.totalCpus)).modify "total_gpus_up" (· + totalGpus)
    return (data.modify "total_cpus_avail" (· + node.totalCpus)).modify "total_gpus_avail"
      (· + totalGpus)) (.constant _ 0)

/-- The total number of cpus, gpus and nodes allocated. -/
def computeTotalAllocatedCpusGpus (nodes : List SinfoNode) : Except PyError (Int × Int × Int) :=
  (uniqueNodes nodes).foldlM (fun (allocCpus, allocGpus, allocNodes) node =>
    if startsWithAny nodeRunningJobStates node.state then do
      let gpus ← parseGres node.gresUsed
      return (allocCpus + node.allocCpus, allocGpus + gpus, allocNodes + 1)
    else return (allocCpus, allocGpus, allocNodes)) (0, 0, 0)

def sinfoNodeStatesFields : List String :=
  ["nodes_allocated", "nodes_completing", "nodes_down", "nodes_drained", "nodes_draining", "nodes_fail",
    "nodes_failing", "nodes_future", "nodes_idle", "nodes_inval", "nodes_maint", "nodes_reboot_issued",
    "nodes_reboot_requested", "nodes_mixed", "nodes_perfctrs", "nodes_planned", "nodes_power_down",
    "nodes_powered_down", "nodes_powering_down", "nodes_powering_up", "nodes_reserved", "nodes_unknown",
    "nodes_not_responding", "nodes_unknown_state", "nodes_total"]

abbrev SinfoNodeStates := FieldValues sinfoNodeStatesFields

/-- The body of the loop of `compute_node_states`. A state without a counter of
its own, though it is one of `NODE_STATES`, fails in `getattr`. -/
def countNodeState (sinfoStates : SinfoNodeStates Int) (node : SinfoNode) : Except PyError (SinfoNodeStates Int) := do
  let sinfoStates :=
    if node.state.getLast? = some '*' then sinfoStates.modify "nodes_not_responding" (· + 1) else sinfoStates
  let bare := node.state.rdropWhile fun c => "*~#!%$@^-".toList.contains c
  let state := "nodes_" ++ String.ofList bare
  let sinfoStates ←
    if bare ∉ nodeStates then .ok (sinfoStates.modify "nodes_unknown_state" (· + 1))
    else if state ∉ sinfoNodeStatesFields then
      .error (.attributeError ("'SinfoNodeStates' object has no attribute '".toList ++ state.toList ++ "'".toList))
    else .ok (sinfoStates.modify state (· + 1))
  return sinfoStates.modify "nodes_total" (· + 1)

def computeNodeStates (nodes : List SinfoNode) : Except PyError (SinfoNodeStates (Option Int)) :=
  if nodes.isEmpty then .ok (.constant _ none)
  else do
    let sinfoStates ← (uniqueNodes nodes).foldlM countNodeState (.constant _ 0)
    return sinfoStates.map some

end GpuTelemetry
