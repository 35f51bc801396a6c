import GpuTelemetry.KillOutcomes

namespace GpuTelemetry

/-! ### Processes that exit in between -/

/-- When processes exist, and when they may not be killed. The moments are the
steps of `kill_processes`: a process that is gone stays gone. -/
structure ProcessHistory where
  alive : Nat → Int → Bool
  gone : ∀ moment pid, alive (moment + 1) pid = true → alive moment pid = true
  denied : Nat → Int → Bool

/-- The exception of psutil for a process that is gone. -/
def noSuchProcess (pid : Int) : PyError :=
  .exception ("process PID not found (pid=".toList ++ intText pid ++ ")".toList)

namespace ProcessHistory

variable (history : ProcessHistory)

/-- `psutil.Process(pid)`. -/
def openProcess (moment : Nat) (pid : Int) : Except PyError Unit :=
  if history.alive moment pid then .ok () else .error (noSuchProcess pid)

/-- `Process.kill()`. -/
def kill (moment : Nat) (pid : Int) : KillResult :=
  if history.alive moment pid then if history.denied moment pid then .accessDenied else .killed else .noSuchProcess

/-- The comprehension that builds the processes, one at each moment. -/
def openEach : Nat → List Int → Except PyError Unit
  | _, [] => .ok ()
  | moment, pid :: pids =>
    match history.openProcess moment pid with
    | .error e => .error e
    | .ok () => openEach (moment + 1) pids

/-- The loop over the kills: false when one is denied, and the pids that it came to. -/
def killFrom : Nat → List Int → Bool × List Int
  | _, [] => (true, [])
  | moment, pid :: pids =>
    match history.kill moment pid with
    | .killed | .noSuchProcess =>
      let (granted, tried) := killFrom (moment + 1) pids
      (granted, pid :: tried)
    | .accessDenied => (false, [pid])

end ProcessHistory

/-- What `kill_processes` returns or raises, and the pids it tried to kill. -/
structure KillRun where
  result : Except PyError (Bool × Str)
  tried : List Int

section

variable (history : ProcessHistory) (table : ProcessTable)

/-- `kill_processes`, while processes exit. The telemetry answers from the table. -/
def killProcessesAmid (pids : List Int) (attempt : Nat) (devices : List Int) (msg : Str) : KillRun :=
  match history.openEach 0 pids with
  | .error e => ⟨.error e, []⟩
  | .ok () =>
    let (granted, tried) := history.killFrom pids.length pids
    if granted then
      let alive := pids.filter (history.alive (2 * pids.length))
      let scan := attemptCheckRunningProcs table attempt devices msg
      ⟨.ok (alive.isEmpty && scan.exitCode = .OK, scan.msg), tried⟩
    else ⟨.ok (false, msg), tried⟩

/-- A kill is denied. -/
def KillDenied (pids : List Int) : Prop :=
  ∃ entry ∈ pids.zipIdx pids.length, history.kill entry.2 entry.1 = .accessDenied

/-- No exception, a kill of every process that exists when its turn comes, unless
one is denied, and success exactly when all are gone and the devices are free. -/
structure KillsOrReports (pids : List Int) (attempt : Nat) (devices : List Int) (msg : Str) : Prop where
  returns : ∃ outcome, (killProcessesAmid history table pids attempt devices msg).result = .ok outcome
  tries : ¬ KillDenied history pids → ∀ entry ∈ pids.zipIdx pids.length, history.alive entry.2 entry.1 = true →
    entry.1 ∈ (killProcessesAmid history table pids attempt devices msg).tried
  succeeds : ∀ killed msg', (killProcessesAmid history table pids attempt devices msg).result = .ok (killed, msg') →
    (killed = true ↔ ¬ KillDenied history pids ∧ (∀ pid ∈ pids, history.alive (2 * pids.length) pid = false) ∧
      attemptCode table devices attempt = .OK)

end

section

variable (history : ProcessHistory)

theorem openEach_eq_ok_iff (moment : Nat) (pids : List Int) :
    history.openEach moment pids = .ok () ↔ ∀ entry ∈ pids.zipIdx moment, history.alive entry.2 entry.1 = true := by
  induction pids generalizing moment with
  | nil => simp [ProcessHistory.openEach]
  | cons pid pids ih =>
    rw [ProcessHistory.openEach, ProcessHistory.openProcess, List.zipIdx_cons, List.forall_mem_cons]
    cases alive : history.alive moment pid with
    | true => simpa using ih (moment + 1)
    | false => simp

/-- The loop over the kills ends early only at a denial. -/
theorem killFrom_granted_iff (moment : Nat) (pids : List Int) :
    (history.killFrom moment pids).1 = true ↔
      ∀ entry ∈ pids.zipIdx moment, history.kill entry.2 entry.1 ≠ .accessDenied := by
  induction pids generalizing moment with
  | nil => simp [ProcessHistory.killFrom]
  | cons pid pids ih =>
    rw [ProcessHistory.killFrom, List.zipIdx_cons, List.forall_mem_cons]
    cases kill : history.kill moment pid with
    | killed => simpa using ih (moment + 1)
    | noSuchProcess => simpa using ih (moment + 1)
    | accessDenied => simp

theorem killFrom_tried {moment : Nat} {pids : List Int} (granted : (history.killFrom moment pids).1 = true) :
    (history.killFrom moment pids).2 = pids := by
  induction pids generalizing moment with
  | nil => rfl
  | cons pid pids ih =>
    rw [ProcessHistory.killFrom] at granted ⊢
    cases kill : history.kill moment pid with
    | killed => simpa [kill] using ih (by simpa [kill] using granted)
    | noSuchProcess => simpa [kill] using ih (by simpa [kill] using granted)
    | accessDenied => simp [kill] at granted

end

section

variable (history : ProcessHistory) (table : ProcessTable)

theorem killProcessesAmid_returns_iff (pids : List Int) (attempt : Nat) (devices : List Int) (msg : Str) :
    (∃ outcome, (killProcessesAmid history table pids attempt devices msg).result = .ok outcome) ↔
      history.openEach 0 pids = .ok () := by
  unfold killProcessesAmid
  cases opened : history.openEach 0 pids with
  | error e => simp
  | ok _ => cases granted : (history.killFrom pids.length pids).1 <;> simp [granted]

theorem not_killDenied_iff (pids : List Int) :
    ¬KillDenied history pids ↔ (history.killFrom pids.length pids).1 = true := by
  rw [killFrom_granted_iff]
  simp [KillDenied]

/-- A denied kill is reported as such. -/
theorem killsOrReports_denied {pids : List Int} (opened : history.openEach 0 pids = .ok ())
    (denied : (history.killFrom pids.length pids).1 = false) (attempt : Nat) (devices : List Int) (msg : Str) :
    KillsOrReports history table pids attempt devices msg := by
  have run : killProcessesAmid history table pids attempt devices msg =
      ⟨.ok (false, msg), (history.killFrom pids.length pids).2⟩ := by
    simp [killProcessesAmid, opened, denied]
  have isDenied : ¬¬KillDenied history pids := fun free =>
    Bool.false_ne_true (denied.symm.trans ((not_killDenied_iff history pids).mp free))
  refine ⟨⟨_, by rw [run]⟩, fun free => absurd free isDenied, fun killed msg' returned => ?_⟩
  rw [run] at returned
  obtain rfl : false = killed := (Prod.mk.inj (Except.ok.inj returned)).1
  exact iff_of_false Bool.false_ne_true fun all => isDenied all.1

/-- Otherwise every process is tried, and the result is of the re-inspection. -/
theorem killsOrReports_granted {pids : List Int} (opened : history.openEach 0 pids = .ok ())
    (granted : (history.killFrom pids.length pids).1 = true) (attempt : Nat) (devices : List Int) (msg : Str) :
    KillsOrReports history table pids attempt devices msg := by
  have tried := killFrom_tried history granted
  have run : killProcessesAmid history table pids attempt devices msg =
      ⟨.ok ((pids.filter (history.alive (2 * pids.length))).isEmpty && decide (attemptCode table devices attempt = .OK),
        (attemptCheckRunningProcs table attempt devices msg).msg), pids⟩ := by
    simp [killProcessesAmid, opened, granted, tried, attemptCheckRunningProcs_exitCode]
  have free : ¬KillDenied history pids := (not_killDenied_iff history pids).mpr granted
  refine ⟨⟨_, by rw [run]⟩, fun _ entry member _ => ?_, fun killed msg' returned => ?_⟩
  · rw [run]
    exact (List.mem_zipIdx member).2.2 ▸ List.getElem_mem _
  · rw [run] at returned
    obtain rfl := (Prod.mk.inj (Except.ok.inj returned)).1
    simp [free, List.isEmpty_iff, List.filter_eq_nil_iff]

/-- The killing does what its docstring says exactly when every process exists at
the moment its object is built. -/
theorem killProcessesAmid_iff (pids : List Int) (attempt : Nat) (devices : List Int) (msg : Str) :
    KillsOrReports history table pids attempt devices msg ↔
      ∀ entry ∈ pids.zipIdx, history.alive entry.2 entry.1 = true := by
  rw [← openEach_eq_ok_iff]
  constructor
  · exact fun does => (killProcessesAmid_returns_iff history table pids attempt devices msg).mp does.returns
  · intro opened
    cases granted : (history.killFrom pids.length pids).1 with
    | false => exact killsOrReports_denied history table opened granted attempt devices msg
    | true => exact killsOrReports_granted history table opened granted attempt devices msg

theorem alive_of_le {moment later : Nat} (before : moment ≤ later) {pid : Int}
    (alive : history.alive later pid = true) :
    history.alive moment pid = true := by
  induction later, before using Nat.le_induction with
  | base => exact alive
  | succ later _ ih => exact ih (history.gone later pid alive)

/-- No exception when all processes exist until the first kill. -/
theorem killProcessesAmid_returns {pids : List Int} (exist : ∀ pid ∈ pids, history.alive pids.length pid = true)
    (attempt : Nat) (devices : List Int) (msg : Str) :
    ∃ outcome, (killProcessesAmid history table pids attempt devices msg).result = .ok outcome := by
  rw [killProcessesAmid_returns_iff, openEach_eq_ok_iff]
  intro entry member
  obtain ⟨-, before, isPid⟩ := List.mem_zipIdx member
  exact alive_of_le history (by omega) (exist entry.1 (isPid ▸ List.getElem_mem _))

/-! ### The check on such processes -/

/-- The answers of the processes, for pids without repetitions. -/
def amidTable (pids : List Int) : ProcessTable :=
  { table with
    openProcess pid := history.openProcess (pids.idxOf pid) pid
    kill pid := history.kill (pids.length + pids.idxOf pid) pid
    alive procs := procs.filter (history.alive (2 * pids.length)) }

theorem forM_openEach {openProcess : Int → Except PyError Unit} {moment : Nat} {pids : List Int}
    (same : ∀ entry ∈ pids.zipIdx moment, openProcess entry.1 = history.openProcess entry.2 entry.1) :
    pids.forM openProcess = history.openEach moment pids := by
  induction pids generalizing moment with
  | nil => rfl
  | cons pid pids ih =>
    rw [List.zipIdx_cons, List.forall_mem_cons] at same
    have step : (pid :: pids).forM openProcess = (openProcess pid).bind fun _ => pids.forM openProcess := rfl
    rw [step, same.1, ProcessHistory.openEach]
    cases history.openProcess moment pid with
    | error e => rfl
    | ok _ => exact ih same.2

theorem killEach_killFrom {moment : Nat} {pids : List Int}
    (same : ∀ entry ∈ pids.zipIdx moment, table.kill entry.1 = history.kill entry.2 entry.1) :
    killEach table pids = (history.killFrom moment pids).1 := by
  induction pids generalizing moment with
  | nil => rfl
  | cons pid pids ih =>
    rw [List.zipIdx_cons, List.forall_mem_cons] at same
    rw [killEach, same.1, ProcessHistory.killFrom]
    cases history.kill moment pid with
    | killed => exact ih same.2
    | noSuchProcess => exact ih same.2
    | accessDenied => rfl

/-- On pids without repetitions, the killing of the check does the same. -/
theorem killProcesses_amidTable {pids : List Int} (distinct : pids.Nodup) (attempt : Nat) (devices : List Int)
    (msg : Str) :
    killProcesses (amidTable history table pids) pids attempt devices msg =
      (killProcessesAmid history table pids attempt devices msg).result := by
  have position : ∀ start, ∀ entry ∈ pids.zipIdx start, start + pids.idxOf entry.1 = entry.2 := by
    intro start entry member
    obtain ⟨after, before, isPid⟩ := List.mem_zipIdx member
    rw [isPid, distinct.idxOf_getElem]
    omega
  have opens : pids.forM (amidTable history table pids).openProcess = history.openEach 0 pids := by
    refine forM_openEach history fun entry member => ?_
    have here := position 0 entry member
    rw [Nat.zero_add] at here
    change history.openProcess (pids.idxOf entry.1) entry.1 = _
    rw [here]
  have kills : killEach (amidTable history table pids) pids = (history.killFrom pids.length pids).1 := by
    refine killEach_killFrom history _ fun entry member => ?_
    change history.kill (pids.length + pids.idxOf entry.1) entry.1 = _
    rw [position pids.length entry member]
  rw [killProcesses, opens, kills, killProcessesAmid]
  cases history.openEach 0 pids with
  | error e => rfl
  | ok _ => cases granted : (history.killFrom pids.length pids).1 <;> simp [granted] <;> rfl

end

/-- Process 7 is gone. -/
def allGone : ProcessHistory := ⟨fun _ _ => false, fun _ _ alive => alive, fun _ _ => false⟩

/-- The telemetry still shows process 7 on the device. -/
def zombieTable : ProcessTable :=
  amidTable allGone { firstDeviceBusy with pidExists := fun _ _ _ => false } [7]

/-- The inspection reports OK and hands over the zombie, and the check raises. -/
theorem killProcessesAmid_zombie :
    (attemptCheckRunningProcs zombieTable 0 [0] []).exitCode = .OK ∧
      (attemptCheckRunningProcs zombieTable 0 [0] []).pids.map ProcessInfo.pid = [7] ∧
      (killProcessesAmid allGone zombieTable [7] 3 [0] []).result =
        .error (.exception "process PID not found (pid=7)".toList) ∧
      (checkAndKillRunningProcs zombieTable false (.ok [0]) 3 3 true).result =
        .error (.exception "process PID not found (pid=7)".toList) ∧
      ¬ KillsOrReports allGone zombieTable [7] 3 [0] [] := by
  refine ⟨by decide, by decide, by decide, ?_, fun does => ?_⟩
  · rfl
  · obtain ⟨outcome, returned⟩ := does.returns
    cases returned

end GpuTelemetry
