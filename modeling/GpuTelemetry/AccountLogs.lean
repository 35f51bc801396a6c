import GpuTelemetry.Sinfo
import Mathlib.Algebra.Order.BigOperators.Group.List

namespace GpuTelemetry

/-! ### The logs of the accounts -/

/-- The log of an account's jobs, with this mean and variance of their run times. -/
def accountLog (derivedCluster account : Str) (jobs : List SacctMetrics) (mean variance : Option ℚ) :
    SLURMLogAccountMetrics :=
  let (totalCpusAlloc, totalGpusAlloc, totalNodesAlloc) := computeAllocatedResources jobs
  ⟨derivedCluster, "l9gpu.".toList ++ account ++ ".".toList, account, totalGpusAlloc, totalCpusAlloc,
    totalNodesAlloc, mean, variance, some (computeNumberOfActiveUsers jobs),
    computePercentJobsDistributedTraining jobs⟩

/-- The mean and the variance that an account logs after those of the account before it. -/
def carriedRuntime (jobs : List SacctMetrics) (mean variance : Option ℚ) : Option ℚ × Option ℚ :=
  match computeJobRuntimeDistribution jobs with
  | some (mean, variance) => (some mean, some variance)
  | none => (mean, variance)

variable (derivedCluster : Str)

@[simp] theorem accountLog_account (account : Str) (jobs : List SacctMetrics) (mean variance : Option ℚ) :
    (accountLog derivedCluster account jobs mean variance).account = account :=
  rfl

@[simp] theorem accountLog_jobRuntimeMean (account : Str) (jobs : List SacctMetrics) (mean variance : Option ℚ) :
    (accountLog derivedCluster account jobs mean variance).jobRuntimeMean = mean :=
  rfl

theorem accountLogs_cons (mean variance : Option ℚ) (account : Str) (jobs : List SacctMetrics)
    (groups : List (Str × List SacctMetrics)) (named : account ≠ []) :
    accountLogs derivedCluster mean variance ((account, jobs) :: groups) =
      let (mean, variance) := carriedRuntime jobs mean variance
      accountLog derivedCluster account jobs mean variance :: accountLogs derivedCluster mean variance groups := by
  rw [accountLogs, if_neg named, carriedRuntime]
  cases computeJobRuntimeDistribution jobs <;> rfl

theorem accountLogs_unnamed (mean variance : Option ℚ) (jobs : List SacctMetrics)
    (groups : List (Str × List SacctMetrics)) :
    accountLogs derivedCluster mean variance (([], jobs) :: groups) =
      accountLogs derivedCluster mean variance groups := by
  rw [accountLogs, if_pos rfl]

/-- Whether a job of the group has a run time. -/
def HasRunTime (jobs : List SacctMetrics) : Prop := ∃ job ∈ jobs, job.runTimeSeconds ≠ none

theorem computeJobRuntimeDistribution_eq_none {jobs : List SacctMetrics} :
    computeJobRuntimeDistribution jobs = none ↔ ¬HasRunTime jobs := by
  have length : (jobs.map SacctMetrics.runTimeSeconds).filterMap id = [] ↔ ¬HasRunTime jobs := by
    simp [HasRunTime, List.filterMap_eq_nil_iff]
  rw [← length, computeJobRuntimeDistribution, computeMeanAndVariance, ← List.length_eq_zero_iff]
  dsimp only
  split
  · exact iff_of_true rfl ‹_›
  · exact iff_of_false (Option.some_ne_none _) ‹_›

theorem carriedRuntime_timed {jobs : List SacctMetrics} (timed : HasRunTime jobs) (mean variance : Option ℚ) :
    carriedRuntime jobs mean variance = carriedRuntime jobs none none := by
  unfold carriedRuntime
  cases distribution : computeJobRuntimeDistribution jobs with
  | none => exact absurd timed (computeJobRuntimeDistribution_eq_none.mp distribution)
  | some => rfl

/-- The log of an account from its jobs alone. -/
def ownLog (account : Str) (jobs : List SacctMetrics) : SLURMLogAccountMetrics :=
  let (mean, variance) := carriedRuntime jobs none none
  accountLog derivedCluster account jobs mean variance

/-- The logs of an account whose jobs have a run time are from its jobs alone. -/
theorem accountLogs_filter {account : Str} (named : account ≠ []) (mean variance : Option ℚ)
    {groups : List (Str × List SacctMetrics)} (timed : ∀ group ∈ groups, group.1 = account → HasRunTime group.2) :
    ((accountLogs derivedCluster mean variance groups).filter fun log => log.account = account) =
      (groups.filter fun group => group.1 = account).map fun group => ownLog derivedCluster account group.2 := by
  induction groups generalizing mean variance with
  | nil => rfl
  | cons group groups ih =>
    obtain ⟨key, jobs⟩ := group
    rw [List.forall_mem_cons] at timed
    by_cases same : key = account
    · obtain rfl := same
      rw [accountLogs_cons _ _ _ _ _ _ named, carriedRuntime_timed (timed.1 rfl), List.filter_cons_of_pos (by simp),
        List.filter_cons_of_pos (by simp), ih _ _ timed.2]
      rfl
    · rw [List.filter_cons_of_neg (by simpa using same)]
      by_cases empty : key = []
      · rw [empty, accountLogs_unnamed]
        exact ih _ _ timed.2
      · rw [accountLogs_cons _ _ _ _ _ _ empty, List.filter_cons_of_neg (by simp [same])]
        exact ih _ _ timed.2

/-- Each log is of its own group, up to the mean and the variance. -/
theorem accountLogs_groups (mean variance : Option ℚ) (groups : List (Str × List SacctMetrics)) :
    List.Forall₂ (fun (log : SLURMLogAccountMetrics) (group : Str × List SacctMetrics) =>
      ∃ mean variance, log = accountLog derivedCluster group.1 group.2 mean variance)
      (accountLogs derivedCluster mean variance groups) (groups.filter fun group => group.1 ≠ []) := by
  induction groups generalizing mean variance with
  | nil => exact .nil
  | cons group groups ih =>
    obtain ⟨account, jobs⟩ := group
    by_cases named : account = []
    · obtain rfl := named
      rw [accountLogs_unnamed, List.filter_cons_of_neg (by simp)]
      exact ih _ _
    · rw [accountLogs_cons _ _ _ _ _ _ named, List.filter_cons_of_pos (by simpa)]
      exact .cons ⟨_, _, rfl⟩ (ih _ _)

/-! ### What the logs add up to -/

/-- One log for each account with a name, and the totals of their jobs. -/
structure AccountLogsComplete (jobs : List SacctMetrics) (logs : List SLURMLogAccountMetrics) : Prop where
  distinct : (logs.map SLURMLogAccountMetrics.account).Nodup
  accounts : ∀ account, account ∈ logs.map SLURMLogAccountMetrics.account ↔
    account ≠ [] ∧ ∃ job ∈ jobs, job.account = account
  totals : ((logs.map SLURMLogAccountMetrics.totalCpusAlloc).sum, (logs.map SLURMLogAccountMetrics.totalGpusAlloc).sum,
    (logs.map SLURMLogAccountMetrics.totalNodesAlloc).sum) =
      computeAllocatedResources (jobs.filter fun job => job.account ≠ [])

/-- The accounts that have a log. -/
def namedAccounts (jobs : List SacctMetrics) : List Str :=
  ((groupByKey SacctMetrics.account jobs).map Prod.fst).filter fun account => account ≠ []

def accountJobs (jobs : List SacctMetrics) (account : Str) : List SacctMetrics :=
  jobs.filter fun job => job.account = account

theorem namedGroups_eq (jobs : List SacctMetrics) :
    ((groupByKey SacctMetrics.account jobs).filter fun group => group.1 ≠ []) =
      (namedAccounts jobs).map fun account => (account, accountJobs jobs account) := by
  rw [groupByKey_eq, List.filter_map]
  rfl

theorem mem_namedAccounts {jobs : List SacctMetrics} {account : Str} :
    account ∈ namedAccounts jobs ↔ account ≠ [] ∧ ∃ job ∈ jobs, job.account = account := by
  rw [namedAccounts, List.mem_filter, mem_groupByKey_keys, decide_eq_true_iff, and_comm]

theorem namedAccounts_nodup (jobs : List SacctMetrics) : (namedAccounts jobs).Nodup :=
  (groupByKey_keys_nodup SacctMetrics.account jobs).filter _

theorem sum_namedAccounts (f : SacctMetrics → Int) (jobs : List SacctMetrics) :
    ((namedAccounts jobs).map fun account => ((accountJobs jobs account).map f).sum).sum =
      ((jobs.filter fun job => job.account ≠ []).map f).sum := by
  have groups := (flatMap_groups_perm SacctMetrics.account jobs (namedAccounts_nodup jobs)).map f
  have total : (((namedAccounts jobs).flatMap (accountJobs jobs)).map f).sum =
      ((namedAccounts jobs).map fun account => ((accountJobs jobs account).map f).sum).sum := by
    rw [List.map_flatMap, List.flatMap, List.sum_flatten, List.map_map]
    rfl
  rw [← total]
  refine groups.sum_eq.trans (congrArg (fun kept : List SacctMetrics => (kept.map f).sum) ?_)
  refine List.filter_congr fun job member => ?_
  rw [decide_eq_decide, mem_namedAccounts]
  exact and_iff_left ⟨job, member, rfl⟩

/-- What each log takes from the jobs of its account. -/
theorem map_computePerAccountSlurmLog {β : Type} (jobs : List SacctMetrics) {f : SLURMLogAccountMetrics → β}
    {g : Str → List SacctMetrics → β}
    (same : ∀ account jobs mean variance, f (accountLog derivedCluster account jobs mean variance) = g account jobs) :
    (computePerAccountSlurmLog jobs derivedCluster).map f =
      (namedAccounts jobs).map fun account => g account (accountJobs jobs account) := by
  have logs := accountLogs_groups derivedCluster none none (groupByKey SacctMetrics.account jobs)
  rw [namedGroups_eq, List.forall₂_map_right_iff] at logs
  refine List.forall₂_eq_eq_eq ▸ List.forall₂_map_left_iff.mpr (List.forall₂_map_right_iff.mpr (logs.imp ?_))
  rintro log account ⟨mean, variance, rfl⟩
  exact same _ _ _ _

theorem computePerAccountSlurmLog_complete (jobs : List SacctMetrics) :
    AccountLogsComplete jobs (computePerAccountSlurmLog jobs derivedCluster) := by
  have accounts : (computePerAccountSlurmLog jobs derivedCluster).map SLURMLogAccountMetrics.account =
      namedAccounts jobs :=
    (map_computePerAccountSlurmLog derivedCluster jobs fun _ _ _ _ => rfl).trans (List.map_id _)
  refine ⟨accounts ▸ namedAccounts_nodup jobs, fun account => accounts ▸ mem_namedAccounts, ?_⟩
  rw [map_computePerAccountSlurmLog derivedCluster jobs fun _ _ _ _ => rfl,
    map_computePerAccountSlurmLog derivedCluster jobs fun _ _ _ _ => rfl,
    map_computePerAccountSlurmLog derivedCluster jobs fun _ _ _ _ => rfl]
  exact congrArg₂ Prod.mk (sum_namedAccounts SacctMetrics.allocCPUS jobs)
    (congrArg₂ Prod.mk (sum_namedAccounts SacctMetrics.allocGPUS jobs)
      (sum_namedAccounts SacctMetrics.allocNodes jobs))

/-! ### What a log depends on -/

/-- The logs of each account are the same whatever the jobs of the others. -/
def LogsDependOnOwnJobs (jobs : List SacctMetrics) : Prop :=
  ∀ jobs', ∀ account ≠ [], accountJobs jobs' account = accountJobs jobs account →
    ((computePerAccountSlurmLog jobs' derivedCluster).filter fun log => log.account = account) =
      (computePerAccountSlurmLog jobs derivedCluster).filter fun log => log.account = account

theorem computePerAccountSlurmLog_filter {account : Str} (named : account ≠ []) {jobs : List SacctMetrics}
    (timed : accountJobs jobs account ≠ [] → HasRunTime (accountJobs jobs account)) :
    ((computePerAccountSlurmLog jobs derivedCluster).filter fun log => log.account = account) =
      if accountJobs jobs account = [] then [] else [ownLog derivedCluster account (accountJobs jobs account)] := by
  have keys : (((groupByKey SacctMetrics.account jobs).map Prod.fst).filter fun key => key = account) =
      if accountJobs jobs account = [] then [] else [account] := by
    have member : account ∈ (groupByKey SacctMetrics.account jobs).map Prod.fst ↔ accountJobs jobs account ≠ [] := by
      rw [mem_groupByKey_keys, accountJobs, ne_eq, List.filter_eq_nil_iff]
      simp
    rw [List.filter_eq, (groupByKey_keys_nodup SacctMetrics.account jobs).count]
    by_cases none : accountJobs jobs account = []
    · rw [if_pos none, if_neg fun isKey => member.mp isKey none]
      rfl
    · rw [if_neg none, if_pos (member.mpr none)]
      rfl
  have groups : ((groupByKey SacctMetrics.account jobs).filter fun group => group.1 = account) =
      if accountJobs jobs account = [] then [] else [(account, accountJobs jobs account)] := by
    rw [groupByKey_eq, List.filter_map]
    refine (congrArg (List.map _) keys).trans ?_
    split <;> rfl
  rw [computePerAccountSlurmLog, accountLogs_filter derivedCluster named, groups]
  · split <;> rfl
  · intro group isGroup isAccount
    have kept : group ∈ (groupByKey SacctMetrics.account jobs).filter fun group => group.1 = account :=
      List.mem_filter.mpr ⟨isGroup, decide_eq_true isAccount⟩
    rw [groups] at kept
    split at kept
    · exact absurd kept List.not_mem_nil
    · rename_i some
      rw [List.mem_singleton.mp kept]
      exact timed some

theorem groupInto_second {key : SacctMetrics → Str} {first k : Str} (other : first ≠ k) (before : List SacctMetrics)
    {items : List SacctMetrics} (same : ∀ item ∈ items, key item = k) (group : List SacctMetrics) :
    groupInto key [(first, before), (k, group)] items = [(first, before), (k, group ++ items)] := by
  induction items generalizing group with
  | nil => simp [groupInto]
  | cons item items ih =>
    rw [List.forall_mem_cons] at same
    have step : groupInto key [(first, before), (k, group)] (item :: items) =
        groupInto key (dictModify (key item) (fun old => old.getD [] ++ [item]) [(first, before), (k, group)]) items :=
      rfl
    rw [step, same.1, dictModify, if_neg other, dictModify, if_pos rfl]
    simpa using ih same.2 (group ++ [item])

/-- A group whose account comes after another one. -/
theorem groupByKey_second (key : SacctMetrics → Str) {first : SacctMetrics} {k : Str} (other : key first ≠ k)
    {items : List SacctMetrics} (same : ∀ item ∈ items, key item = k) (nonempty : items ≠ []) :
    groupByKey key (first :: items) = [(key first, [first]), (k, items)] := by
  obtain ⟨item, items, rfl⟩ := List.exists_cons_of_ne_nil nonempty
  rw [List.forall_mem_cons] at same
  have start : groupByKey key (first :: item :: items) =
      groupInto key (dictModify (key item) (fun old => old.getD [] ++ [item]) [(key first, [first])]) items := rfl
  rw [start, same.1, dictModify, if_neg other, dictModify]
  exact groupInto_second other [first] same.2 [item]

/-- A job of another account that runs this long. -/
def otherJob (account : Str) (seconds : ℚ) : SacctMetrics :=
  ⟨none, [], 'x' :: account, 0, 0, [], [], [], [], 0, 0, 0, some seconds, none⟩

theorem leaked_log {account : Str} (named : account ≠ []) {jobs : List SacctMetrics}
    (ofAccount : ∀ job ∈ jobs, job.account = account) (nonempty : jobs ≠ []) (untimed : ¬HasRunTime jobs)
    (seconds : ℚ) :
    ((computePerAccountSlurmLog (otherJob account seconds :: jobs) derivedCluster).filter fun log =>
        log.account = account) =
      [accountLog derivedCluster account jobs (some seconds) (some 0)] := by
  have other : (otherJob account seconds).account ≠ account := List.cons_ne_self _ _
  have ran : carriedRuntime [otherJob account seconds] none none = (some seconds, some 0) := by
    simp [carriedRuntime, computeJobRuntimeDistribution, computeMeanAndVariance, otherJob, Except.toOption]
  have carried : carriedRuntime jobs (some seconds) (some 0) = (some seconds, some 0) := by
    rw [carriedRuntime, computeJobRuntimeDistribution_eq_none.mpr untimed]
  rw [computePerAccountSlurmLog, groupByKey_second SacctMetrics.account other ofAccount nonempty,
    accountLogs_cons _ _ _ (otherJob account seconds).account _ _ (List.cons_ne_nil _ _), ran]
  dsimp only
  rw [accountLogs_cons _ _ _ _ _ _ named, carried]
  simp [accountLogs, other]

/-- There is a log for each account, of its own jobs only, exactly when each account has a job with a run time. -/
theorem computePerAccountSlurmLog_iff (jobs : List SacctMetrics) :
    (AccountLogsComplete jobs (computePerAccountSlurmLog jobs derivedCluster) ∧
        LogsDependOnOwnJobs derivedCluster jobs) ↔
      ∀ job ∈ jobs, job.account ≠ [] → HasRunTime (accountJobs jobs job.account) := by
  constructor
  · rintro ⟨-, independent⟩ job member named
    by_contra untimed
    have nonempty : accountJobs jobs job.account ≠ [] :=
      List.ne_nil_of_mem (List.mem_filter.mpr ⟨member, decide_eq_true rfl⟩)
    have ofAccount : ∀ other ∈ accountJobs jobs job.account, other.account = job.account :=
      fun other kept => of_decide_eq_true (List.mem_filter.mp kept).2
    have leaked : ∀ seconds, (computePerAccountSlurmLog jobs derivedCluster).filter
        (fun log => log.account = job.account) =
          [accountLog derivedCluster job.account (accountJobs jobs job.account) (some seconds) (some 0)] := by
      intro seconds
      rw [← leaked_log derivedCluster named ofAccount nonempty untimed seconds]
      refine (independent _ job.account named ?_).symm
      rw [accountJobs, List.filter_cons_of_neg (by simp [otherJob])]
      exact List.filter_eq_self.mpr fun other kept => decide_eq_true (ofAccount other kept)
    have means := congrArg (List.map SLURMLogAccountMetrics.jobRuntimeMean) ((leaked 0).symm.trans (leaked 1))
    simp at means
  · intro timed
    refine ⟨computePerAccountSlurmLog_complete derivedCluster jobs, ?_⟩
    intro jobs' account named same
    have ran : accountJobs jobs account ≠ [] → HasRunTime (accountJobs jobs account) := by
      intro nonempty
      obtain ⟨job, kept⟩ := List.exists_mem_of_ne_nil _ nonempty
      obtain ⟨member, isAccount⟩ := List.mem_filter.mp kept
      rw [decide_eq_true_iff] at isAccount
      exact isAccount ▸ timed job member (isAccount ▸ named)
    rw [computePerAccountSlurmLog_filter derivedCluster named ran,
      computePerAccountSlurmLog_filter derivedCluster named (same ▸ ran), same]

/-- The jobs of `b` have no run time, and log that of `a`. -/
theorem runtime_leaks_between_accounts :
    let job : String → Option ℚ → SacctMetrics := fun account runTime =>
      ⟨none, "u".toList, account.toList, 8, 1, [], [], [], "RUNNING".toList, 1, 2, 2, runTime, some 0⟩
    let means := fun jobs => (computePerAccountSlurmLog jobs []).map fun log => (log.account, log.jobRuntimeMean)
    means [job "a" (some 60), job "b" none] = [("a".toList, some 60), ("b".toList, some 60)] ∧
      means [job "a" (some 120), job "b" none] = [("a".toList, some 120), ("b".toList, some 120)] ∧
      ¬LogsDependOnOwnJobs [] [job "a" (some 60), job "b" none] := by
  refine ⟨by decide +kernel, by decide +kernel, fun independent => ?_⟩
  let longer : SacctMetrics :=
    ⟨none, "u".toList, "a".toList, 8, 1, [], [], [], "RUNNING".toList, 1, 2, 2, some 120, some 0⟩
  let untimed : SacctMetrics :=
    ⟨none, "u".toList, "b".toList, 8, 1, [], [], [], "RUNNING".toList, 1, 2, 2, none, some 0⟩
  have same := independent [longer, untimed] "b".toList (by decide) rfl
  exact absurd (congrArg (List.map SLURMLogAccountMetrics.jobRuntimeMean) same) (by decide +kernel)

end GpuTelemetry
