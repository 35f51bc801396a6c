import GpuTelemetry.OtelGauges
import GpuTelemetry.Sinfo

namespace GpuTelemetry

/-! ### Derived clusters -/

def derivedClusterForHeterogeneousClusterV1 (partition cluster : Str) : Str :=
  if partition ≠ [] then cluster ++ ".".toList ++ partition else cluster

/-- The partition `get_derived_cluster` reads from its data. -/
def partitionOf (data : List (String × Str)) : Str :=
  match data.lookup "PARTITION" with
  | some partition => (partition.dropWhile (· = '*')).rdropWhile (· = '*')
  | none =>
    match data.lookup "Partition" with
    | some partition =>
      match partition, data.lookup "NodeList" with
      | [], some nodelist => nodelist.takeWhile (· ≠ '-')
      | _, _ => partition
    | none =>
      match data.lookup "PartitionName" with
      | some partition => partition
      | none => ((data.lookup "Node").getD []).takeWhile (· ≠ '-')

/-- `get_derived_cluster`. With `get_partition_from_qos` the data is that of a
QoS, whose name is given. -/
def getDerivedCluster (data : List (String × Str)) (heterogeneousClusterV1 : Bool) (cluster : Str)
    (qosName : Option Str) : Str :=
  if heterogeneousClusterV1 then
    let partition := match qosName with
      | some name => name.takeWhile (· ≠ '_')
      | none => partitionOf data
    let cluster := ((data.lookup "cluster").orElse fun _ => (data.lookup "CLUSTER").orElse fun _ =>
      data.lookup "Cluster").getD cluster
    derivedClusterForHeterogeneousClusterV1 partition cluster
  else cluster

/-! ### Messages -/

def sdiagFields : List String :=
  ["server_thread_count", "agent_queue_size", "agent_count", "agent_thread_count", "dbd_agent_queue_size",
    "schedule_cycle_max", "schedule_cycle_mean", "schedule_cycle_sum", "schedule_cycle_total",
    "schedule_cycle_per_minute", "schedule_queue_length", "sdiag_jobs_submitted", "sdiag_jobs_started",
    "sdiag_jobs_completed", "sdiag_jobs_canceled", "sdiag_jobs_failed", "sdiag_jobs_pending", "sdiag_jobs_running",
    "bf_backfilled_jobs", "bf_cycle_mean", "bf_cycle_sum", "bf_cycle_max", "bf_queue_len"]

abbrev Sdiag := FieldValues sdiagFields (Option Int)

/-- The fields of a `SLURMLog` that come from the jobs. -/
structure JobMetrics where
  activeUsers : Option Int
  runningAndPendingUsers : Option Int
  avgCpusAllocPerJob : Option ℚ
  avgGpusAllocPerJob : Option ℚ
  jobsPerUserMean : Option ℚ
  jobsPerUserVariance : Option ℚ
  jobRuntimeMean : Option ℚ
  jobRuntimeVariance : Option ℚ
  jobSuspendedMean : Option ℚ
  jobSuspendedVariance : Option ℚ
  jobWaitTimeMean : Option ℚ
  jobWaitTimeVariance : Option ℚ
  jobsDistTrainingPercent : Option ℚ
  jobsPending : Option Int
  gpusPending : Option Int
  nodesPending : Option Int
  jobsFailed : Option Int
  jobsRunning : Option Int
  jobsWithoutUser : Option Int

def JobMetrics.unknown : JobMetrics :=
  ⟨none, none, none, none, none, none, none, none, none, none, none, none, none, none, none, none, none, none, none⟩

structure SLURMLog where
  derivedCluster : Str
  sdiag : Sdiag
  nodeStates : SinfoNodeStates (Option Int)
  cpusGpus : SinfoCpusGpus (Option Int)
  cluster : Str
  runawayJobs : Option Int
  jobs : JobMetrics
  totalCpusAlloc : Int
  totalDownNodes : Option Int
  totalGpusAlloc : Int
  totalNodesAlloc : Int

inductive SlurmMessage
  | account (log : SLURMLogAccountMetrics)
  | cluster (log : SLURMLog)

def intValue (n : Int) : PyValue := .number (.int n)

def optIntValue : Option Int → PyValue
  | some n => intValue n
  | none => .none

def optFloatValue : Option ℚ → PyValue
  | some q => .number (.float q)
  | none => .none

def SLURMLogAccountMetrics.message (log : SLURMLogAccountMetrics) : DataclassInstance where
  fields := [
    ("derived_cluster", .str log.derivedCluster),
    ("prefix", .str log.pre),
    ("account", .str log.account),
    ("total_gpus_alloc", intValue log.totalGpusAlloc),
    ("total_cpus_alloc", intValue log.totalCpusAlloc),
    ("total_nodes_alloc", intValue log.totalNodesAlloc),
    ("job_runtime_mean", optFloatValue log.jobRuntimeMean),
    ("job_runtime_variance", optFloatValue log.jobRuntimeVariance),
    ("active_users", optIntValue log.activeUsers),
    ("jobs_dist_training_percent", optFloatValue log.jobsDistTrainingPercent)]

def optIntFields {names : List String} (values : FieldValues names (Option Int)) : List (String × PyValue) :=
  (values.map optIntValue).fields

/-- The fields of the bases come first, those of the last base before all others. -/
def SLURMLog.message (log : SLURMLog) : DataclassInstance where
  fields := [("derived_cluster", .str log.derivedCluster)] ++ optIntFields log.sdiag ++
    optIntFields log.nodeStates ++ optIntFields log.cpusGpus ++ [
    ("cluster", .str log.cluster),
    ("active_users", optIntValue log.jobs.activeUsers),
    ("running_and_pending_users", optIntValue log.jobs.runningAndPendingUsers),
    ("runaway_jobs", optIntValue log.runawayJobs),
    ("avg_cpus_alloc_per_job", optFloatValue log.jobs.avgCpusAllocPerJob),
    ("avg_gpus_alloc_per_job", optFloatValue log.jobs.avgGpusAllocPerJob),
    ("jobs_per_user_mean", optFloatValue log.jobs.jobsPerUserMean),
    ("jobs_per_user_variance", optFloatValue log.jobs.jobsPerUserVariance),
    ("job_runtime_mean", optFloatValue log.jobs.jobRuntimeMean),
    ("job_runtime_variance", optFloatValue log.jobs.jobRuntimeVariance),
    ("job_suspended_mean", optFloatValue log.jobs.jobSuspendedMean),
    ("job_suspended_variance", optFloatValue log.jobs.jobSuspendedVariance),
    ("job_wait_time_mean", optFloatValue log.jobs.jobWaitTimeMean),
    ("job_wait_time_variance", optFloatValue log.jobs.jobWaitTimeVariance),
    ("jobs_dist_training_percent", optFloatValue log.jobs.jobsDistTrainingPercent),
    ("jobs_pending", optIntValue log.jobs.jobsPending),
    ("gpus_pending", optIntValue log.jobs.gpusPending),
    ("nodes_pending", optIntValue log.jobs.nodesPending),
    ("jobs_failed", optIntValue log.jobs.jobsFailed),
    ("jobs_running", optIntValue log.jobs.jobsRunning),
    ("jobs_without_user", optIntValue log.jobs.jobsWithoutUser),
    ("total_cpus_alloc", intValue log.totalCpusAlloc),
    ("total_down_nodes", optIntValue log.totalDownNodes),
    ("total_gpus_alloc", intValue log.totalGpusAlloc),
    ("total_nodes_alloc", intValue log.totalNodesAlloc)]

def SlurmMessage.message : SlurmMessage → DataclassInstance
  | .account log => log.message
  | .cluster log => log.message

/-! ### `get_slurm_log` -/

/-- The metrics of the jobs that run, added to those of all jobs. -/
def runningJobMetrics (runtime : PyRuntime) (startTime endTime : AwareDatetime) (jobs : List SacctMetrics)
    (metrics : JobMetrics) : JobMetrics :=
  let avgAlloc := (computeAvgAllocatedCpusGpus runtime startTime endTime jobs).toOption
  let waitTime := (computeWaitTimeDistribution runtime jobs).toOption
  let jobRuntime := computeJobRuntimeDistribution jobs
  let jobsPerUser := computeDistributionJobsPerUser jobs
  let suspended := computeAvgTimeJobSuspended jobs
  { metrics with
    avgCpusAllocPerJob := avgAlloc.map Prod.fst
    avgGpusAllocPerJob := avgAlloc.map Prod.snd
    jobWaitTimeMean := waitTime.map Prod.fst
    jobWaitTimeVariance := waitTime.map Prod.snd
    activeUsers := some (computeNumberOfActiveUsers jobs)
    jobsDistTrainingPercent := computePercentJobsDistributedTraining jobs
    jobRuntimeMean := jobRuntime.map Prod.fst
    jobRuntimeVariance := jobRuntime.map Prod.snd
    jobsPerUserMean := jobsPerUser.map Prod.fst
    jobsPerUserVariance := jobsPerUser.map Prod.snd
    jobSuspendedMean := suspended.map Prod.fst
    jobSuspendedVariance := suspended.map Prod.snd }

/-- The account logs and the metrics of some jobs. -/
def jobSummary (runtime : PyRuntime) (startTime endTime : AwareDatetime) (derivedCluster : Str)
    (jobs : List SacctMetrics) : List SLURMLogAccountMetrics × JobMetrics :=
  if jobs.isEmpty then ([], .unknown)
  else
    let (jobsPending, gpusPending, nodesPending) := computeResourcesPending jobs
    let running := runningJobs jobs
    let metrics := { JobMetrics.unknown with
      jobsPending := some jobsPending
      gpusPending := some gpusPending
      nodesPending := some nodesPending
      jobsFailed := some (computeFailedJobs jobs)
      jobsWithoutUser := some (computeJobsWithoutUser runtime jobs)
      runningAndPendingUsers := some (computeRunningAndPendingUsers jobs)
      jobsRunning := some running.length }
    if 0 < running.length then
      (computePerAccountSlurmLog running derivedCluster, runningJobMetrics runtime startTime endTime running metrics)
    else ([], metrics)

/-- `get_slurm_log`, given what `parse_slurm_jobs` returns or raises. -/
def getSlurmLog (runtime : PyRuntime) (nodes : List SinfoNode) (sdiag : Sdiag) (startTime endTime : AwareDatetime)
    (cluster derivedCluster : Str) (parsedJobs : Except PyError (List SacctMetrics)) : Generated SlurmMessage :=
  let totalDownNodes := computeDownNodes nodes
  match computeNodeStates nodes with
  | .error e => ⟨[], some e⟩
  | .ok nodeStates =>
    let cpusGpus := match computeTotalCpusGpus nodes with
      | .ok totals => totals.map some
      | .error _ => .constant _ none
    match computeTotalAllocatedCpusGpus nodes with
    | .error e => ⟨[], some e⟩
    | .ok (totalCpusAlloc, totalGpusAlloc, totalNodesAlloc) =>
      match parsedJobs with
      | .error e => ⟨[], some e⟩
      | .ok jobs =>
        let (accounts, metrics) := jobSummary runtime startTime endTime derivedCluster jobs
        ⟨accounts.map .account ++ [.cluster ⟨derivedCluster, sdiag, nodeStates, cpusGpus, cluster, none, metrics,
          totalCpusAlloc, some totalDownNodes, totalGpusAlloc, totalNodesAlloc⟩], none⟩

/-! ### `collect_slurm` -/

/-- What one call of `get_slurm_log` summarises: a partition, or the cluster. -/
structure Scope where
  partition : Option Str
  nodes : List SinfoNode
  derivedCluster : Str

def collectScopes (nodes : List SinfoNode) (cluster : Str) (heterogeneousClusterV1 : Bool) : List Scope :=
  (if heterogeneousClusterV1 then
    ((groupByKey SinfoNode.partition nodes).filter fun group => group.1 ≠ []).map fun group =>
      ⟨some group.1, group.2,
        getDerivedCluster [("Partition", group.1)] heterogeneousClusterV1 cluster none⟩
  else []) ++ [⟨none, nodes, cluster⟩]

/-- `yield from` one generator and then from another. -/
def Generated.andThen {α : Type} (first later : Generated α) : Generated α :=
  match first.raises with
  | some _ => first
  | none => ⟨first.yields ++ later.yields, later.raises⟩

/-- `collect_slurm`, given `sinfo`, `sdiag`, the window, and what
`parse_slurm_jobs` gives for each partition and for the cluster. -/
def collectSlurm (runtime : PyRuntime) (nodes : List SinfoNode) (sdiag : Sdiag) (startTime endTime : AwareDatetime)
    (cluster : Str) (heterogeneousClusterV1 : Bool)
    (parseSlurmJobs : Option Str → Except PyError (List SacctMetrics)) : Generated SlurmMessage :=
  ((collectScopes nodes cluster heterogeneousClusterV1).map fun scope =>
    getSlurmLog runtime scope.nodes sdiag startTime endTime cluster scope.derivedCluster
      (parseSlurmJobs scope.partition)).foldr Generated.andThen .done

/-! ### The fields of the messages -/

def slurmLogFields : List String :=
  ["derived_cluster"] ++ sdiagFields ++ sinfoNodeStatesFields ++ sinfoCpusGpusFields ++
    ["cluster", "active_users", "running_and_pending_users", "runaway_jobs", "avg_cpus_alloc_per_job",
      "avg_gpus_alloc_per_job", "jobs_per_user_mean", "jobs_per_user_variance", "job_runtime_mean",
      "job_runtime_variance", "job_suspended_mean", "job_suspended_variance", "job_wait_time_mean",
      "job_wait_time_variance", "jobs_dist_training_percent", "jobs_pending", "gpus_pending", "nodes_pending",
      "jobs_failed", "jobs_running", "jobs_without_user", "total_cpus_alloc", "total_down_nodes", "total_gpus_alloc",
      "total_nodes_alloc"]

def accountLogFields : List String :=
  ["derived_cluster", "prefix", "account", "total_gpus_alloc", "total_cpus_alloc", "total_nodes_alloc",
    "job_runtime_mean", "job_runtime_variance", "active_users", "jobs_dist_training_percent"]

theorem optIntFields_names {names : List String} (values : FieldValues names (Option Int)) :
    (optIntFields values).map Prod.fst = names :=
  FieldValues.fields_names _

theorem SLURMLog.message_names (log : SLURMLog) : log.message.fields.map Prod.fst = slurmLogFields := by
  simp only [SLURMLog.message, List.map_append, optIntFields_names]
  rfl

theorem SLURMLogAccountMetrics.message_names (log : SLURMLogAccountMetrics) :
    log.message.fields.map Prod.fst = accountLogFields := rfl

theorem slurmLogFields_nodup : slurmLogFields.Nodup := by decide +kernel

/-- No exporter table has a field of a `SLURMLog`. -/
theorem slurmLogFields_unnamed : ∀ name ∈ slurmLogFields, Unnamed name := by decide +kernel

theorem slurmLogFields_plain : ∀ name ∈ attributeFields, name ∉ slurmLogFields := by decide +kernel

theorem accountLogFields_plain : ∀ name ∈ attributeFields, name ∉ accountLogFields := by decide +kernel

theorem account_not_mem_slurmLogFields : "account" ∉ slurmLogFields := by decide +kernel

/-! ### Messages that differ share a series -/

theorem SlurmMessage.plain (m : SlurmMessage) : ∀ name ∈ attributeFields, name ∉ m.message.fields.map Prod.fst := by
  cases m with
  | account log => exact accountLogFields_plain
  | cluster log =>
    rw [SlurmMessage.message, log.message_names]
    exact slurmLogFields_plain

theorem SlurmMessage.total_gpus (m : SlurmMessage) : ∃ x, ("total_gpus_alloc", .number x) ∈ m.message.fields := by
  cases m with
  | account log => exact ⟨.int log.totalGpusAlloc, by simp [message, SLURMLogAccountMetrics.message, intValue]⟩
  | cluster log => exact ⟨.int log.totalGpusAlloc, by simp [message, SLURMLog.message, intValue]⟩

def SlurmMessage.derivedCluster : SlurmMessage → Str
  | .account log => log.derivedCluster
  | .cluster log => log.derivedCluster

theorem SlurmMessage.getattr_derivedCluster (m : SlurmMessage) :
    m.message.getattr "derived_cluster" = .str m.derivedCluster := by
  cases m with
  | account log => simp [message, derivedCluster, SLURMLogAccountMetrics.message, DataclassInstance.getattr]
  | cluster log => simp [message, derivedCluster, SLURMLog.message, DataclassInstance.getattr]

theorem SLURMLogAccountMetrics.getattr_account (log : SLURMLogAccountMetrics) :
    log.message.getattr "account" = .str log.account := by
  simp [message, DataclassInstance.getattr, List.lookup_cons]

theorem SLURMLog.getattr_account (log : SLURMLog) : log.message.getattr "account" = .none := by
  refine DataclassInstance.getattr_absent ?_
  rw [log.message_names]
  exact account_not_mem_slurmLogFields

/-- Whatever they are, two messages share the series of `total_gpus_alloc`. -/
theorem not_identify_of_differ {otel : Otel} {params : SinkAdditionalParams} {messages : List SlurmMessage}
    {m n : SlurmMessage} (first : m ∈ messages) (second : n ∈ messages)
    (differ : m.message.DifferInIdentity n.message) :
    ¬SeriesIdentifyMessages otel params (messages.map SlurmMessage.message) := by
  intro identify
  obtain ⟨x, inFirst⟩ := m.total_gpus
  obtain ⟨y, inSecond⟩ := n.total_gpus
  obtain ⟨s, writtenFirst, t, writtenSecond, same⟩ :=
    share_series otel params (slurmLogFields_unnamed "total_gpus_alloc" (by simp [slurmLogFields])) inFirst inSecond
      m.plain n.plain
  exact identify.separate _ (List.mem_map_of_mem first) _ (List.mem_map_of_mem second) differ s writtenFirst t
    writtenSecond same

theorem identify_of_none (otel : Otel) (params : SinkAdditionalParams) :
    SeriesIdentifyMessages otel params (([] : List SlurmMessage).map SlurmMessage.message) :=
  ⟨fun _ member => absurd member List.not_mem_nil, fun _ member => absurd member List.not_mem_nil⟩

theorem identify_of_log (otel : Otel) (params : SinkAdditionalParams) (log : SLURMLog) :
    SeriesIdentifyMessages otel params ([SlurmMessage.cluster log].map SlurmMessage.message) := by
  refine seriesIdentify_single otel params ?_ ?_
  · rw [SlurmMessage.message, log.message_names]
    exact slurmLogFields_nodup
  · rw [SlurmMessage.message, log.message_names]
    exact slurmLogFields_unnamed

/-! ### The messages of one summary -/

section

variable (otel : Otel) (params : SinkAdditionalParams) (runtime : PyRuntime) (nodes : List SinfoNode) (sdiag : Sdiag)
  (startTime endTime : AwareDatetime) (cluster derivedCluster : Str) (heterogeneousClusterV1 : Bool)
  (parseSlurmJobs : Option Str → Except PyError (List SacctMetrics))

theorem accountLogs_spec (mean variance : Option ℚ) (groups : List (Str × List SacctMetrics)) :
    (∀ log ∈ accountLogs derivedCluster mean variance groups, log.account ≠ []) ∧
      (accountLogs derivedCluster mean variance groups = [] ↔ ∀ account ∈ groups.map Prod.fst, account = []) := by
  induction groups generalizing mean variance with
  | nil => simp [accountLogs]
  | cons group groups ih =>
    obtain ⟨account, jobs⟩ := group
    unfold accountLogs
    by_cases empty : account = []
    · simpa [empty] using ih mean variance
    · rw [if_neg empty]
      refine ⟨?_, by simp [empty]⟩
      intro log member
      rcases List.mem_cons.mp member with rfl | later
      · exact empty
      · exact (ih _ _).1 log later

/-- No running job has an account. -/
def NoAccounts (parsedJobs : Except PyError (List SacctMetrics)) : Prop :=
  ∀ jobs, parsedJobs = .ok jobs → ∀ job ∈ runningJobs jobs, job.account = []

theorem jobSummary_accounts (jobs : List SacctMetrics) :
    (∀ log ∈ (jobSummary runtime startTime endTime derivedCluster jobs).1, log.account ≠ []) ∧
      ((jobSummary runtime startTime endTime derivedCluster jobs).1 = [] ↔
        ∀ job ∈ runningJobs jobs, job.account = []) := by
  unfold jobSummary
  by_cases noJobs : jobs.isEmpty
  · rw [if_pos noJobs, List.isEmpty_iff.mp noJobs]
    simp [runningJobs]
  · rw [if_neg noJobs]
    dsimp only
    by_cases someRun : 0 < (runningJobs jobs).length
    · rw [if_pos someRun]
      obtain ⟨named, empty⟩ := accountLogs_spec derivedCluster none none
        (groupByKey SacctMetrics.account (runningJobs jobs))
      refine ⟨named, ?_⟩
      rw [computePerAccountSlurmLog, empty]
      constructor
      · exact fun all job member => all _ (mem_groupByKey_keys.mpr ⟨job, member, rfl⟩)
      · intro all account member
        obtain ⟨job, running, rfl⟩ := mem_groupByKey_keys.mp member
        exact all job running
    · rw [if_neg someRun]
      have none : runningJobs jobs = [] := List.length_eq_zero_iff.mp (by omega)
      simp [none]

/-- What `get_slurm_log` raises, if anything, always before its first message. -/
def summaryError (nodes : List SinfoNode) (parsedJobs : Except PyError (List SacctMetrics)) : Option PyError :=
  match computeNodeStates nodes, computeTotalAllocatedCpusGpus nodes, parsedJobs with
  | .error e, _, _ => some e
  | .ok _, .error e, _ => some e
  | .ok _, .ok _, .error e => some e
  | .ok _, .ok _, .ok _ => none

theorem getSlurmLog_raises (parsedJobs : Except PyError (List SacctMetrics)) {e : PyError}
    (raised : summaryError nodes parsedJobs = some e) :
    getSlurmLog runtime nodes sdiag startTime endTime cluster derivedCluster parsedJobs = ⟨[], some e⟩ := by
  unfold summaryError at raised
  unfold getSlurmLog
  cases states : computeNodeStates nodes with
  | error _ =>
    simp only [states, Option.some.injEq] at raised ⊢
    rw [raised]
  | ok nodeStates =>
    cases allocated : computeTotalAllocatedCpusGpus nodes with
    | error _ =>
      simp only [states, allocated, Option.some.injEq] at raised ⊢
      rw [raised]
    | ok totals =>
      cases parsedJobs with
      | error _ =>
        simp only [states, allocated, Option.some.injEq] at raised ⊢
        rw [raised]
      | ok jobs => simp [states, allocated] at raised

/-- When nothing is raised, the log comes after those of the accounts. -/
theorem getSlurmLog_returns (parsedJobs : Except PyError (List SacctMetrics))
    (returns : summaryError nodes parsedJobs = none) :
    ∃ accounts log, getSlurmLog runtime nodes sdiag startTime endTime cluster derivedCluster parsedJobs =
        ⟨accounts.map .account ++ [.cluster log], none⟩ ∧
      log.derivedCluster = derivedCluster ∧ (∀ account ∈ accounts, account.account ≠ []) ∧
      (accounts = [] ↔ NoAccounts parsedJobs) := by
  unfold summaryError at returns
  unfold getSlurmLog
  cases states : computeNodeStates nodes with
  | error _ => simp [states] at returns
  | ok nodeStates =>
    cases allocated : computeTotalAllocatedCpusGpus nodes with
    | error _ => simp [states, allocated] at returns
    | ok totals =>
      cases parsedJobs with
      | error _ => simp [states, allocated] at returns
      | ok jobs =>
        obtain ⟨named, empty⟩ := jobSummary_accounts runtime startTime endTime derivedCluster jobs
        refine ⟨(jobSummary runtime startTime endTime derivedCluster jobs).1, _, rfl, rfl, named, ?_⟩
        rw [empty, NoAccounts]
        simp

/-! ### The messages of a collection -/

theorem andThen_yields {α : Type} {generators : List (Generated α)}
    (quiet : ∀ g ∈ generators, g.raises ≠ none → g.yields = []) :
    (generators.foldr Generated.andThen .done).yields =
      (generators.takeWhile fun g => g.raises.isNone).flatMap Generated.yields := by
  induction generators with
  | nil => rfl
  | cons g generators ih =>
    have later := ih fun h member => quiet h (by simp [member])
    rw [List.foldr_cons, Generated.andThen, List.takeWhile_cons]
    cases raised : g.raises with
    | none => simp [later]
    | some e => simpa using quiet g (by simp) (by simp [raised])

/-- The scopes that `collect_slurm` summarises, those before the first that raises. -/
def summarisedScopes (nodes : List SinfoNode) (cluster : Str) (heterogeneousClusterV1 : Bool)
    (parseSlurmJobs : Option Str → Except PyError (List SacctMetrics)) : List Scope :=
  (collectScopes nodes cluster heterogeneousClusterV1).takeWhile fun scope =>
    (summaryError scope.nodes (parseSlurmJobs scope.partition)).isNone

theorem collectSlurm_yields :
    (collectSlurm runtime nodes sdiag startTime endTime cluster heterogeneousClusterV1 parseSlurmJobs).yields =
      (summarisedScopes nodes cluster heterogeneousClusterV1 parseSlurmJobs).flatMap fun scope =>
        (getSlurmLog runtime scope.nodes sdiag startTime endTime cluster scope.derivedCluster
          (parseSlurmJobs scope.partition)).yields := by
  have raises : ∀ scope : Scope, (getSlurmLog runtime scope.nodes sdiag startTime endTime cluster
      scope.derivedCluster (parseSlurmJobs scope.partition)).raises =
        summaryError scope.nodes (parseSlurmJobs scope.partition) := by
    intro scope
    cases raised : summaryError scope.nodes (parseSlurmJobs scope.partition) with
    | some e => rw [getSlurmLog_raises _ _ _ _ _ _ _ _ raised]
    | none =>
      obtain ⟨accounts, log, run, -⟩ := getSlurmLog_returns runtime scope.nodes sdiag startTime endTime cluster
        scope.derivedCluster _ raised
      rw [run]
  rw [collectSlurm, andThen_yields, List.takeWhile_map, List.flatMap_map, summarisedScopes]
  · simp only [Function.comp_def, raises]
  · intro g member raised
    obtain ⟨scope, -, rfl⟩ := List.mem_map.mp member
    rw [raises] at raised
    obtain ⟨e, error⟩ := Option.ne_none_iff_exists'.mp raised
    rw [getSlurmLog_raises _ _ _ _ _ _ _ _ error]

theorem getDerivedCluster_partition {partition : Str} (named : partition ≠ []) :
    getDerivedCluster [("Partition", partition)] true cluster none = cluster ++ ".".toList ++ partition := by
  have read : partitionOf [("Partition", partition)] = partition := by simp [partitionOf, List.lookup_cons]
  simp [getDerivedCluster, read, derivedClusterForHeterogeneousClusterV1, named, List.lookup_cons]

theorem collectScopes_distinct :
    ((collectScopes nodes cluster heterogeneousClusterV1).map Scope.derivedCluster).Nodup := by
  unfold collectScopes
  cases heterogeneousClusterV1 with
  | false => simp
  | true =>
    rw [if_pos rfl, List.map_append, List.map_map]
    have groups : (((groupByKey SinfoNode.partition nodes).filter fun group => group.1 ≠ []).map Prod.fst).Nodup :=
      (groupByKey_keys_nodup SinfoNode.partition nodes).sublist (List.filter_sublist.map Prod.fst)
    have named : ∀ group ∈ (groupByKey SinfoNode.partition nodes).filter fun group => group.1 ≠ [], group.1 ≠ [] := by
      intro group member
      simpa using (List.mem_filter.mp member).2
    generalize (groupByKey SinfoNode.partition nodes).filter (fun group => group.1 ≠ []) = partitions at groups named
    have clusters : partitions.map (Scope.derivedCluster ∘ fun group =>
        (⟨some group.1, group.2, getDerivedCluster [("Partition", group.1)] true cluster none⟩ : Scope)) =
        (partitions.map Prod.fst).map fun partition => cluster ++ ".".toList ++ partition := by
      rw [List.map_map]
      exact List.map_congr_left fun group member => getDerivedCluster_partition cluster (named group member)
    rw [clusters, List.nodup_append]
    refine ⟨groups.map fun p q same => List.append_cancel_left same, by simp, ?_⟩
    intro derived inPartitions other inCluster same
    obtain ⟨partition, -, rfl⟩ := List.mem_map.mp inPartitions
    rw [List.map_singleton, List.mem_singleton] at inCluster
    have lengths := congrArg List.length (same.trans inCluster)
    simp at lengths

theorem summarisedScopes_distinct :
    ((summarisedScopes nodes cluster heterogeneousClusterV1 parseSlurmJobs).map Scope.derivedCluster).Nodup :=
  (collectScopes_distinct nodes cluster heterogeneousClusterV1).sublist ((List.takeWhile_sublist _).map _)

/-! ### When the series identify the messages -/

theorem getSlurmLog_identify_iff (parsedJobs : Except PyError (List SacctMetrics)) :
    SeriesIdentifyMessages otel params ((getSlurmLog runtime nodes sdiag startTime endTime cluster derivedCluster
        parsedJobs).yields.map SlurmMessage.message) ↔
      summaryError nodes parsedJobs ≠ none ∨ NoAccounts parsedJobs := by
  cases raised : summaryError nodes parsedJobs with
  | some e =>
    rw [getSlurmLog_raises _ _ _ _ _ _ _ _ raised]
    exact iff_of_true (identify_of_none otel params) (.inl (by simp))
  | none =>
    obtain ⟨accounts, log, run, -, named, empty⟩ :=
      getSlurmLog_returns runtime nodes sdiag startTime endTime cluster derivedCluster parsedJobs raised
    rw [run]
    constructor
    · intro identify
      refine .inr (empty.mp ?_)
      by_contra some
      obtain ⟨account, member⟩ := List.exists_mem_of_ne_nil accounts some
      refine not_identify_of_differ (m := .account account) (n := .cluster log) ?_ ?_ (.inl ?_) identify
      · exact List.mem_append_left _ (List.mem_map_of_mem member)
      · exact List.mem_append_right _ (List.mem_singleton_self _)
      · rw [SlurmMessage.message, SlurmMessage.message, account.getattr_account, log.getattr_account]
        simp
    · intro condition
      have noAccounts := empty.mpr (condition.resolve_left (by simp))
      rw [noAccounts]
      exact identify_of_log otel params log

/-- A summarised scope yields its log last. -/
theorem scope_log (scope : Scope)
    (member : scope ∈ summarisedScopes nodes cluster heterogeneousClusterV1 parseSlurmJobs) :
    summaryError scope.nodes (parseSlurmJobs scope.partition) = none ∧
      ∃ log : SLURMLog, log.derivedCluster = scope.derivedCluster ∧ SlurmMessage.cluster log ∈
        (getSlurmLog runtime scope.nodes sdiag startTime endTime cluster scope.derivedCluster
          (parseSlurmJobs scope.partition)).yields := by
  have returns : summaryError scope.nodes (parseSlurmJobs scope.partition) = none := by
    simpa using List.mem_takeWhile_imp member
  obtain ⟨accounts, log, run, derived, -⟩ := getSlurmLog_returns runtime scope.nodes sdiag startTime endTime cluster
    scope.derivedCluster _ returns
  refine ⟨returns, log, derived, ?_⟩
  rw [run]
  exact List.mem_append_right _ (List.mem_singleton_self _)

theorem collectSlurm_identify_iff :
    SeriesIdentifyMessages otel params ((collectSlurm runtime nodes sdiag startTime endTime cluster
        heterogeneousClusterV1 parseSlurmJobs).yields.map SlurmMessage.message) ↔
      (summarisedScopes nodes cluster heterogeneousClusterV1 parseSlurmJobs).length ≤ 1 ∧
        ∀ scope ∈ summarisedScopes nodes cluster heterogeneousClusterV1 parseSlurmJobs,
          NoAccounts (parseSlurmJobs scope.partition) := by
  rw [collectSlurm_yields]
  have distinct := summarisedScopes_distinct nodes cluster heterogeneousClusterV1 parseSlurmJobs
  have logs := scope_log runtime nodes sdiag startTime endTime cluster heterogeneousClusterV1 parseSlurmJobs
  generalize summarisedScopes nodes cluster heterogeneousClusterV1 parseSlurmJobs = scopes at distinct logs ⊢
  match scopes with
  | [] => exact iff_of_true (identify_of_none otel params) (by simp)
  | [scope] =>
    obtain ⟨returns, -⟩ := logs scope (by simp)
    rw [List.flatMap_singleton, getSlurmLog_identify_iff]
    simp [returns]
  | first :: second :: rest =>
    -- the logs of two scopes differ in their derived clusters
    obtain ⟨-, firstLog, firstCluster, firstMember⟩ := logs first (by simp)
    obtain ⟨-, secondLog, secondCluster, secondMember⟩ := logs second (by simp)
    refine iff_of_false (not_identify_of_differ (m := .cluster firstLog) (n := .cluster secondLog) ?_ ?_ (.inr ?_))
      (by simp)
    · exact List.mem_flatMap.mpr ⟨first, by simp, firstMember⟩
    · exact List.mem_flatMap.mpr ⟨second, by simp, secondMember⟩
    · rw [SlurmMessage.getattr_derivedCluster, SlurmMessage.getattr_derivedCluster]
      simp only [SlurmMessage.derivedCluster, firstCluster, secondCluster, ne_eq, PyValue.str.injEq]
      rw [List.map_cons, List.map_cons, List.nodup_cons] at distinct
      exact fun same => distinct.1 (by simp [same])

end

/-- The messages of `get_slurm_log` are told apart exactly when there are no
account logs; those of `collect_slurm` when it summarises at most one scope, and
that without account logs. -/
theorem slurmSeries_identify_iff (otel : Otel) (params : SinkAdditionalParams) (runtime : PyRuntime)
    (nodes : List SinfoNode) (sdiag : Sdiag) (startTime endTime : AwareDatetime) (cluster derivedCluster : Str)
    (heterogeneousClusterV1 : Bool) (parseSlurmJobs : Option Str → Except PyError (List SacctMetrics))
    (partition : Option Str) :
    (SeriesIdentifyMessages otel params ((getSlurmLog runtime nodes sdiag startTime endTime cluster derivedCluster
        (parseSlurmJobs partition)).yields.map SlurmMessage.message) ↔
      summaryError nodes (parseSlurmJobs partition) ≠ none ∨ NoAccounts (parseSlurmJobs partition)) ∧
    (SeriesIdentifyMessages otel params ((collectSlurm runtime nodes sdiag startTime endTime cluster
        heterogeneousClusterV1 parseSlurmJobs).yields.map SlurmMessage.message) ↔
      (summarisedScopes nodes cluster heterogeneousClusterV1 parseSlurmJobs).length ≤ 1 ∧
        ∀ scope ∈ summarisedScopes nodes cluster heterogeneousClusterV1 parseSlurmJobs,
          NoAccounts (parseSlurmJobs scope.partition)) :=
  ⟨getSlurmLog_identify_iff otel params runtime nodes sdiag startTime endTime cluster derivedCluster _,
    collectSlurm_identify_iff otel params runtime nodes sdiag startTime endTime cluster heterogeneousClusterV1 _⟩

/-- Two jobs that run in the accounts `a` and `b`: three messages, one series of
`total_gpus_alloc`. -/
theorem slurmSeries_confused :
    let runtime : PyRuntime := ⟨Char.isDigit, fun _ => none⟩
    let job : Str → Int → SacctMetrics := fun account gpus =>
      ⟨none, "u".toList, account, 8, 1, [], [], [], "RUNNING".toList, 1, gpus, gpus, some 60, some 0⟩
    let jobs := [job "a".toList 2, job "b".toList 4]
    let messages := (getSlurmLog runtime [] (.constant _ none) ⟨0, []⟩ ⟨300000000, []⟩ "c".toList "c".toList
      (.ok jobs)).yields.map SlurmMessage.message
    messages.length = 3 ∧ ¬SeriesIdentifyMessages ⟨[], fun _ => []⟩ ⟨none, false⟩ messages := by
  intro runtime job jobs messages
  have runs : job "a".toList 2 ∈ runningJobs jobs := List.mem_filter.mpr ⟨List.mem_cons_self, by decide⟩
  refine ⟨by decide, ?_⟩
  rw [getSlurmLog_identify_iff]
  rintro (raised | noAccounts)
  · exact raised rfl
  · exact absurd (noAccounts jobs rfl _ runs) (by decide)

end GpuTelemetry
