import GpuTelemetry.Runs

namespace GpuTelemetry

/-! ### `publish_chunk` beside `reap_children` -/

/-- A child of `publish_chunk`, with what its `Popen` knows. -/
inductive Popen
  | running
  /-- It has ended, and nobody has taken its status. -/
  | zombie (status : Int)
  /-- `reap_children` has taken its status. -/
  | reaped (status : Int)
  /-- `Popen` has taken its status. -/
  | waited (status : Int)
  /-- `Popen` came after `reap_children`. -/
  | missed (status : Int)

namespace Popen

/-- `returncode`, which is 0 where `waitpid` found no child. -/
def returncode : Popen → Option Int
  | .waited status => some status
  | .missed _ => some 0
  | _ => none

/-- `_try_wait` and `poll`. -/
def tryWait : Popen → Popen
  | .zombie status => .waited status
  | .reaped status => .missed status
  | p => p

def Gone (p : Popen) : Prop := ∃ status, p = .waited status ∨ p = .missed status

/-- No failure can be seen. -/
def Silent (p : Popen) : Prop := p = .waited 0 ∨ ∃ status, p = .missed status

end Popen

/-- How `publish_chunk` ends. It only raises where a command cannot be started. -/
inductive ChunkEnd
  | published
  | sacctTimedOut
  | sacctFailed (code : Int)
  | publishTimedOut
  | publishFailed (code : Int)
  | raised

/-- Where `publish_chunk` is: in its `wait` calls, before its `terminate` calls and
at the ends of its `with` statements. -/
inductive ChunkAt
  | starting
  | sacctStarted
  | waitingSacct
  | stoppingPublish
  | stoppingSacct
  | waitingPublish
  | stoppingLate
  | leavingPublish (ending : ChunkEnd)
  | leavingSacct (ending : ChunkEnd)
  | ended (ending : ChunkEnd)

structure ChunkWorld where
  here : ChunkAt
  sacct : Option Popen
  publish : Option Popen

/-- What follows `sacct_proc.wait`. -/
def afterSacct (code : Int) : ChunkAt := if code ≠ 0 then .leavingPublish (.sacctFailed code) else .waitingPublish

/-- What follows `publish_proc.wait`. -/
def afterPublish (code : Int) : ChunkAt :=
  if code ≠ 0 then .leavingPublish (.publishFailed code) else .leavingPublish .published

/-- A child ends or is reaped by the handler of `SIGCHLD`, which may run between
any two calls. -/
inductive ChildStep : Popen → Popen → Prop
  | exits (status : Int) : ChildStep .running (.zombie status)
  | reaps (status : Int) : ChildStep (.zombie status) (.reaped status)

open ChunkAt in
/-- A step of a child, or one of `publish_chunk`. -/
inductive ChunkStep : ChunkWorld → ChunkWorld → Prop
  | sacctMoves {here s s' p} : ChildStep s s' → ChunkStep ⟨here, some s, p⟩ ⟨here, some s', p⟩
  | publishMoves {here s p p'} : ChildStep p p' → ChunkStep ⟨here, s, some p⟩ ⟨here, s, some p'⟩
  | noSacct {s p} : ChunkStep ⟨starting, s, p⟩ ⟨ended .raised, s, p⟩
  | startSacct {s p} : ChunkStep ⟨starting, s, p⟩ ⟨sacctStarted, some .running, p⟩
  | noPublish {s p} : ChunkStep ⟨sacctStarted, s, p⟩ ⟨leavingSacct .raised, s, p⟩
  | startPublish {s p} : ChunkStep ⟨sacctStarted, s, p⟩ ⟨waitingSacct, s, some .running⟩
  | waitSacct {s p code} : s.tryWait.returncode = some code →
      ChunkStep ⟨waitingSacct, some s, p⟩ ⟨afterSacct code, some s.tryWait, p⟩
  | sacctTimeout {p} : ChunkStep ⟨waitingSacct, some .running, p⟩ ⟨stoppingPublish, some .running, p⟩
  | terminatePublish {s p} : ChunkStep ⟨stoppingPublish, s, p⟩ ⟨stoppingSacct, s, p.map Popen.tryWait⟩
  | terminateSacct {s p} :
      ChunkStep ⟨stoppingSacct, s, p⟩ ⟨leavingPublish .sacctTimedOut, s.map Popen.tryWait, p⟩
  | waitPublish {s p code} : p.tryWait.returncode = some code →
      ChunkStep ⟨waitingPublish, s, some p⟩ ⟨afterPublish code, s, some p.tryWait⟩
  | publishTimeout {s} : ChunkStep ⟨waitingPublish, s, some .running⟩ ⟨stoppingLate, s, some .running⟩
  | terminateLate {s p} :
      ChunkStep ⟨stoppingLate, s, p⟩ ⟨leavingPublish .publishTimedOut, s, p.map Popen.tryWait⟩
  | leavePublish {ending s p code} : p.tryWait.returncode = some code →
      ChunkStep ⟨leavingPublish ending, s, some p⟩ ⟨leavingSacct ending, s, some p.tryWait⟩
  | leaveSacct {ending s p code} : s.tryWait.returncode = some code →
      ChunkStep ⟨leavingSacct ending, some s, p⟩ ⟨ended ending, some s.tryWait, p⟩

/-- The states that a call of `publish_chunk` can come to. -/
def ChunkReach (w : ChunkWorld) : Prop := Relation.ReflTransGen ChunkStep ⟨.starting, none, none⟩ w

/-! ### How a call can end -/

namespace Popen

variable {p : Popen}

theorem Silent.gone (silent : p.Silent) : p.Gone := by
  rcases silent with waited | ⟨status, missed⟩
  · exact ⟨0, .inl waited⟩
  · exact ⟨status, .inr missed⟩

theorem Gone.tryWait (gone : p.Gone) : p.tryWait = p := by
  obtain ⟨status, rfl | rfl⟩ := gone <;> rfl

/-- What a `Popen` that waits can see. -/
theorem gone_of_returncode {code : Int} (same : p.tryWait.returncode = some code) :
    p.tryWait.Gone ∧ (code = 0 → p.tryWait.Silent) ∧ (code ≠ 0 → p.tryWait = .waited code) := by
  cases p with
  | running => cases same
  | zombie status | waited status =>
    obtain rfl : status = code := Option.some.inj same
    exact ⟨⟨status, .inl rfl⟩, fun zero => .inl (zero ▸ rfl), fun _ => rfl⟩
  | reaped status | missed status =>
    obtain rfl : 0 = code := Option.some.inj same
    exact ⟨⟨status, .inr rfl⟩, fun _ => .inr ⟨status, rfl⟩, fun nonzero => absurd rfl nonzero⟩

theorem Silent.returncode (silent : p.Silent) : p.returncode = some 0 := by
  rcases silent with rfl | ⟨status, rfl⟩ <;> rfl

end Popen

/-- The kernel has nothing more to tell about a child whose `Popen` has its status. -/
theorem ChildStep.not_gone {p p' : Popen} (step : ChildStep p p') : ¬p.Gone := by
  rintro ⟨status, rfl | rfl⟩ <;> cases step

theorem ChildStep.not_silent {p p' : Popen} (step : ChildStep p p') : ¬∃ q, some p = some q ∧ q.Silent := by
  rintro ⟨q, same, silent⟩
  exact step.not_gone (Option.some.inj same ▸ silent.gone)

/-- What the ending of a call says about the children. -/
def ChunkEnd.Reports : ChunkEnd → Option Popen → Option Popen → Prop
  | .published, sacct, publish => (∃ s, sacct = some s ∧ s.Silent) ∧ ∃ p, publish = some p ∧ p.Silent
  | .sacctTimedOut, sacct, publish => sacct ≠ none ∧ publish ≠ none
  | .sacctFailed code, sacct, publish => code ≠ 0 ∧ sacct = some (.waited code) ∧ publish ≠ none
  | .publishTimedOut, sacct, publish => (∃ s, sacct = some s ∧ s.Silent) ∧ publish ≠ none
  | .publishFailed code, sacct, publish =>
    code ≠ 0 ∧ (∃ s, sacct = some s ∧ s.Silent) ∧ publish = some (.waited code)
  | .raised, _, publish => publish = none

variable {ending : ChunkEnd} {s s' p p' : Popen} {sacct publish : Option Popen}

theorem ChunkEnd.Reports.sacct_moves (reports : ending.Reports (some s) publish) (step : ChildStep s s') :
    ending.Reports (some s') publish := by
  cases ending with
  | published | publishTimedOut => exact absurd reports.1 step.not_silent
  | publishFailed => exact absurd reports.2.1 step.not_silent
  | sacctFailed code => exact absurd ⟨code, .inl (Option.some.inj reports.2.1)⟩ step.not_gone
  | sacctTimedOut => exact ⟨nofun, reports.2⟩
  | raised => exact reports

theorem ChunkEnd.Reports.publish_moves (reports : ending.Reports sacct (some p)) (step : ChildStep p p') :
    ending.Reports sacct (some p') := by
  cases ending with
  | published => exact absurd reports.2 step.not_silent
  | publishFailed code => exact absurd ⟨code, .inl (Option.some.inj reports.2.2)⟩ step.not_gone
  | sacctTimedOut => exact ⟨reports.1, nofun⟩
  | sacctFailed => exact ⟨reports.1, reports.2.1, nofun⟩
  | publishTimedOut => exact ⟨reports.1, nofun⟩
  | raised => exact (nomatch reports)

/-- Waiting for a child changes nothing that has been reported. -/
theorem ChunkEnd.Reports.sacct_waits (reports : ending.Reports (some s) publish) :
    ending.Reports (some s.tryWait) publish := by
  cases s with
  | zombie | reaped =>
    cases ending <;> simp_all [ChunkEnd.Reports, Popen.Silent]
  | _ => exact reports

theorem ChunkEnd.Reports.publish_waits (reports : ending.Reports sacct (some p)) :
    ending.Reports sacct (some p.tryWait) := by
  cases p with
  | zombie | reaped =>
    cases ending <;> simp_all [ChunkEnd.Reports, Popen.Silent]
  | _ => exact reports

/-- What is known about the children at each place. -/
def ChunkWorld.Invariant (w : ChunkWorld) : Prop :=
  match w.here with
  | .starting => w.sacct = none ∧ w.publish = none
  | .sacctStarted => w.sacct ≠ none ∧ w.publish = none
  | .waitingSacct | .stoppingPublish | .stoppingSacct => w.sacct ≠ none ∧ w.publish ≠ none
  | .waitingPublish | .stoppingLate => (∃ s, w.sacct = some s ∧ s.Silent) ∧ w.publish ≠ none
  | .leavingPublish ending => ending ≠ .raised ∧ ending.Reports w.sacct w.publish
  | .leavingSacct ending => ending.Reports w.sacct w.publish ∧ w.sacct ≠ none ∧ ∀ p ∈ w.publish, p.Gone
  | .ended ending => ending.Reports w.sacct w.publish ∧ (∀ s ∈ w.sacct, s.Gone) ∧ ∀ p ∈ w.publish, p.Gone

theorem ChunkWorld.Invariant.sacct_moves {here : ChunkAt} (inv : ChunkWorld.Invariant ⟨here, some s, publish⟩)
    (step : ChildStep s s') : ChunkWorld.Invariant ⟨here, some s', publish⟩ := by
  cases here with
  | starting => exact (nomatch inv.1)
  | sacctStarted | waitingSacct | stoppingPublish | stoppingSacct => exact ⟨nofun, inv.2⟩
  | waitingPublish | stoppingLate => exact absurd inv.1 step.not_silent
  | leavingPublish => exact ⟨inv.1, inv.2.sacct_moves step⟩
  | leavingSacct => exact ⟨inv.1.sacct_moves step, nofun, inv.2.2⟩
  | ended => exact absurd (inv.2.1 s rfl) step.not_gone

theorem ChunkWorld.Invariant.publish_moves {here : ChunkAt} (inv : ChunkWorld.Invariant ⟨here, sacct, some p⟩)
    (step : ChildStep p p') : ChunkWorld.Invariant ⟨here, sacct, some p'⟩ := by
  cases here with
  | starting | sacctStarted => exact (nomatch inv.2)
  | waitingSacct | stoppingPublish | stoppingSacct | waitingPublish | stoppingLate => exact ⟨inv.1, nofun⟩
  | leavingPublish => exact ⟨inv.1, inv.2.publish_moves step⟩
  | leavingSacct => exact absurd (inv.2.2 p rfl) step.not_gone
  | ended => exact absurd (inv.2.2 p rfl) step.not_gone

theorem ChunkEnd.Reports.sacct_started (reports : ending.Reports sacct publish) (notRaised : ending ≠ .raised) :
    sacct ≠ none := by
  cases ending with
  | published | publishTimedOut => exact fun none => (nomatch none ▸ reports.1)
  | publishFailed | sacctFailed => exact fun none => (nomatch none ▸ reports.2.1)
  | sacctTimedOut => exact reports.1
  | raised => exact absurd rfl notRaised

theorem ChunkEnd.Reports.publish_started (reports : ending.Reports sacct publish) (notRaised : ending ≠ .raised) :
    publish ≠ none := by
  cases ending with
  | published => exact fun none => (nomatch none ▸ reports.2)
  | publishFailed => exact fun none => (nomatch none ▸ reports.2.2)
  | publishTimedOut | sacctTimedOut => exact reports.2
  | sacctFailed => exact reports.2.2
  | raised => exact absurd rfl notRaised

theorem ChunkStep.invariant {w w' : ChunkWorld} (step : ChunkStep w w') (inv : w.Invariant) : w'.Invariant := by
  cases step with
  | sacctMoves step => exact inv.sacct_moves step
  | publishMoves step => exact inv.publish_moves step
  | noSacct =>
    obtain ⟨rfl, rfl⟩ := inv
    exact ⟨rfl, nofun, nofun⟩
  | startSacct => exact ⟨nofun, inv.2⟩
  | noPublish =>
    obtain ⟨started, rfl⟩ := inv
    exact ⟨rfl, started, nofun⟩
  | startPublish => exact ⟨inv.1, nofun⟩
  | @waitSacct s p code same =>
    obtain ⟨-, zero, nonzero⟩ := Popen.gone_of_returncode same
    by_cases ok : code = 0
    · subst ok
      exact ⟨⟨_, rfl, zero rfl⟩, inv.2⟩
    · simp only [afterSacct, ne_eq, ok, not_false_eq_true, if_true]
      exact ⟨nofun, ok, congrArg some (nonzero ok), inv.2⟩
  | sacctTimeout => exact ⟨nofun, inv.2⟩
  | terminatePublish => exact ⟨inv.1, by simpa using inv.2⟩
  | terminateSacct => exact ⟨nofun, by simpa using inv.1, inv.2⟩
  | @waitPublish s p code same =>
    obtain ⟨-, zero, nonzero⟩ := Popen.gone_of_returncode same
    by_cases ok : code = 0
    · subst ok
      exact ⟨nofun, inv.1, _, rfl, zero rfl⟩
    · simp only [afterPublish, ne_eq, ok, not_false_eq_true, if_true]
      exact ⟨nofun, ok, inv.1, congrArg some (nonzero ok)⟩
  | publishTimeout => exact ⟨inv.1, nofun⟩
  | terminateLate => exact ⟨nofun, inv.1, by simpa using inv.2⟩
  | @leavePublish ending s p code same =>
    exact ⟨inv.2.publish_waits, inv.2.sacct_started inv.1,
      fun q isP => Option.some.inj isP ▸ (Popen.gone_of_returncode same).1⟩
  | @leaveSacct ending s p code same =>
    exact ⟨inv.1.sacct_waits, fun q isS => Option.some.inj isS ▸ (Popen.gone_of_returncode same).1, inv.2.2⟩

theorem ChunkReach.invariant {w : ChunkWorld} (reach : ChunkReach w) : w.Invariant :=
  run_keeps (fun _ _ inv step => step.invariant inv) reach ⟨rfl, rfl⟩

/-! ### Every ending that reports the truth occurs -/

/-- `q` is what a wait for `p` can come to. -/
def Popen.Comes (p q : Popen) : Prop := q.Gone ∧ ∃ r, Relation.ReflTransGen ChildStep p r ∧ r.tryWait = q

theorem Popen.Gone.comes (gone : p.Gone) : p.Comes p := ⟨gone, p, .refl, gone.tryWait⟩

theorem Popen.Gone.comes_running (gone : p.Gone) : Popen.Comes .running p := by
  refine ⟨gone, ?_⟩
  obtain ⟨status, rfl | rfl⟩ := gone
  · exact ⟨.zombie status, .single (.exits status), rfl⟩
  · exact ⟨.reaped status, .head (.exits status) (.single (.reaps status)), rfl⟩

namespace ChunkReach

theorem sacct_runs {here : ChunkAt} (reach : ChunkReach ⟨here, some s, publish⟩)
    (run : Relation.ReflTransGen ChildStep s s') : ChunkReach ⟨here, some s', publish⟩ :=
  run_keeps (P := fun s => ChunkReach ⟨here, some s, publish⟩) (fun _ _ reach step => reach.tail (.sacctMoves step))
    run reach

theorem publish_runs {here : ChunkAt} (reach : ChunkReach ⟨here, sacct, some p⟩)
    (run : Relation.ReflTransGen ChildStep p p') : ChunkReach ⟨here, sacct, some p'⟩ :=
  run_keeps (P := fun p => ChunkReach ⟨here, sacct, some p⟩) (fun _ _ reach step => reach.tail (.publishMoves step))
    run reach

theorem leave_sacct (reach : ChunkReach ⟨.leavingSacct ending, some s, publish⟩) (comes : s.Comes s') :
    ChunkReach ⟨.ended ending, some s', publish⟩ := by
  obtain ⟨gone, r, run, rfl⟩ := comes
  obtain ⟨status, waited | missed⟩ := gone
  · exact (reach.sacct_runs run).tail (.leaveSacct (show r.tryWait.returncode = some status by rw [waited]; rfl))
  · exact (reach.sacct_runs run).tail (.leaveSacct (show r.tryWait.returncode = some 0 by rw [missed]; rfl))

theorem leave_publish (reach : ChunkReach ⟨.leavingPublish ending, sacct, some p⟩) (comes : p.Comes p') :
    ChunkReach ⟨.leavingSacct ending, sacct, some p'⟩ := by
  obtain ⟨gone, r, run, rfl⟩ := comes
  obtain ⟨status, waited | missed⟩ := gone
  · exact (reach.publish_runs run).tail (.leavePublish (show r.tryWait.returncode = some status by rw [waited]; rfl))
  · exact (reach.publish_runs run).tail (.leavePublish (show r.tryWait.returncode = some 0 by rw [missed]; rfl))

theorem started : ChunkReach ⟨.sacctStarted, some .running, none⟩ := .single .startSacct

theorem waiting_sacct : ChunkReach ⟨.waitingSacct, some .running, some .running⟩ := started.tail .startPublish

/-- A `sacct` without a visible failure. -/
theorem waiting_publish (silent : s.Silent) : ChunkReach ⟨.waitingPublish, some s, some .running⟩ := by
  obtain ⟨-, r, run, rfl⟩ := silent.gone.comes_running
  exact (waiting_sacct.sacct_runs run).tail (.waitSacct silent.returncode)

theorem sacct_failed {code : Int} (nonzero : code ≠ 0) :
    ChunkReach ⟨.leavingPublish (.sacctFailed code), some (.waited code), some .running⟩ := by
  have ended := waiting_sacct.sacct_runs (.single (.exits code))
  have left := ended.tail (.waitSacct (show (Popen.zombie code).tryWait.returncode = some code from rfl))
  rwa [afterSacct, if_pos nonzero] at left

theorem publish_ended {code : Int} (silent : s.Silent) (comes : Popen.Comes .running p)
    (same : p.returncode = some code) : ChunkReach ⟨afterPublish code, some s, some p⟩ := by
  obtain ⟨-, r, run, rfl⟩ := comes
  exact ((waiting_publish silent).publish_runs run).tail (.waitPublish same)

end ChunkReach

theorem ChunkEnd.Reports.reach (reports : ending.Reports sacct publish) (sacctGone : ∀ s ∈ sacct, s.Gone)
    (publishGone : ∀ p ∈ publish, p.Gone) : ChunkReach ⟨.ended ending, sacct, publish⟩ := by
  cases ending with
  | published =>
    obtain ⟨⟨s, rfl, silent⟩, p, rfl, fine⟩ := reports
    have ended := ChunkReach.publish_ended silent fine.gone.comes_running fine.returncode
    exact (ended.leave_publish fine.gone.comes).leave_sacct silent.gone.comes
  | sacctTimedOut =>
    obtain ⟨s, rfl⟩ := Option.ne_none_iff_exists'.mp reports.1
    obtain ⟨p, rfl⟩ := Option.ne_none_iff_exists'.mp reports.2
    have stopped := ((ChunkReach.waiting_sacct.tail .sacctTimeout).tail .terminatePublish).tail .terminateSacct
    exact (ChunkReach.leave_publish stopped (publishGone p rfl).comes_running).leave_sacct
      (sacctGone s rfl).comes_running
  | sacctFailed code =>
    obtain ⟨nonzero, rfl, present⟩ := reports
    obtain ⟨p, rfl⟩ := Option.ne_none_iff_exists'.mp present
    exact ((ChunkReach.sacct_failed nonzero).leave_publish (publishGone p rfl).comes_running).leave_sacct
      (sacctGone _ rfl).comes
  | publishTimedOut =>
    obtain ⟨⟨s, rfl, silent⟩, present⟩ := reports
    obtain ⟨p, rfl⟩ := Option.ne_none_iff_exists'.mp present
    have stopped := ((ChunkReach.waiting_publish silent).tail .publishTimeout).tail .terminateLate
    exact (ChunkReach.leave_publish stopped (publishGone p rfl).comes_running).leave_sacct silent.gone.comes
  | publishFailed code =>
    obtain ⟨nonzero, ⟨s, rfl, silent⟩, rfl⟩ := reports
    have gone := publishGone _ rfl
    have ended := ChunkReach.publish_ended silent gone.comes_running
      (show (Popen.waited code).returncode = some code from rfl)
    rw [afterPublish, if_pos nonzero] at ended
    exact (ended.leave_publish gone.comes).leave_sacct silent.gone.comes
  | raised =>
    obtain rfl : publish = none := reports
    cases sacct with
    | none => exact .single .noSacct
    | some s => exact ChunkReach.leave_sacct (ChunkReach.started.tail .noPublish) (sacctGone s rfl).comes_running

/-- What a call can say and what has become of its children, exactly. No child
is left, and no failure is made up; but a child that the handler has reaped first
counts as one that did well. -/
theorem publishChunk_ends_iff (ending : ChunkEnd) (sacct publish : Option Popen) :
    ChunkReach ⟨.ended ending, sacct, publish⟩ ↔
      ending.Reports sacct publish ∧ (∀ s ∈ sacct, s.Gone) ∧ ∀ p ∈ publish, p.Gone :=
  ⟨fun reach => reach.invariant, fun ⟨reports, sacctGone, publishGone⟩ => reports.reach sacctGone publishGone⟩

/-! ### Every call ends -/

/-- How many things can still happen to a child. -/
def Popen.left : Popen → Nat
  | running => 3
  | zombie _ => 2
  | reaped _ => 1
  | _ => 0

theorem ChildStep.left (step : ChildStep p p') : p'.left < p.left := by
  cases step <;> simp [Popen.left]

theorem Popen.left_tryWait : p.tryWait.left ≤ p.left := by
  cases p <;> simp [Popen.tryWait, Popen.left]

def Popen.leftOf (child : Option Popen) : Nat := child.elim 4 Popen.left

theorem Popen.leftOf_tryWait (child : Option Popen) : leftOf (child.map Popen.tryWait) ≤ leftOf child := by
  cases child with
  | none => simp
  | some p => exact p.left_tryWait

def ChunkAt.left : ChunkAt → Nat
  | starting => 7
  | sacctStarted => 6
  | waitingSacct => 5
  | stoppingPublish | waitingPublish => 4
  | stoppingSacct | stoppingLate => 3
  | leavingPublish _ => 2
  | leavingSacct _ => 1
  | ended _ => 0

/-- How many steps a call and its children have left, at most. -/
def ChunkWorld.left (w : ChunkWorld) : Nat := w.here.left + Popen.leftOf w.sacct + Popen.leftOf w.publish

theorem ChunkStep.left {w w' : ChunkWorld} (step : ChunkStep w w') (inv : w.Invariant) : w'.left < w.left := by
  cases step with
  | sacctMoves step =>
    have := step.left
    simp only [ChunkWorld.left, Popen.leftOf, Option.elim_some]
    omega
  | publishMoves step =>
    have := step.left
    simp only [ChunkWorld.left, Popen.leftOf, Option.elim_some]
    omega
  | startSacct =>
    obtain ⟨rfl, rfl⟩ := inv
    show 6 + 3 + 4 < 7 + 4 + 4
    omega
  | startPublish =>
    obtain ⟨-, rfl⟩ := inv
    simp only [ChunkWorld.left, ChunkAt.left, Popen.leftOf, Option.elim_some, Option.elim_none, Popen.left]
    omega
  | @waitSacct s p code same =>
    have := s.left_tryWait
    have : (afterSacct code).left < ChunkAt.left .waitingSacct := by
      unfold afterSacct
      split <;> simp [ChunkAt.left]
    simp only [ChunkWorld.left, Popen.leftOf, Option.elim_some]
    omega
  | @waitPublish s p code same =>
    have := p.left_tryWait
    have : (afterPublish code).left < ChunkAt.left .waitingPublish := by
      unfold afterPublish
      split <;> simp [ChunkAt.left]
    simp only [ChunkWorld.left, Popen.leftOf, Option.elim_some]
    omega
  | @terminatePublish s p | @terminateLate s p =>
    have := Popen.leftOf_tryWait p
    simp only [ChunkWorld.left, ChunkAt.left]
    omega
  | @terminateSacct s p =>
    have := Popen.leftOf_tryWait s
    simp only [ChunkWorld.left, ChunkAt.left]
    omega
  | @leavePublish _ s p =>
    have := p.left_tryWait
    simp only [ChunkWorld.left, ChunkAt.left, Popen.leftOf, Option.elim_some]
    omega
  | @leaveSacct _ s p =>
    have := s.left_tryWait
    simp only [ChunkWorld.left, ChunkAt.left, Popen.leftOf, Option.elim_some]
    omega
  | _ =>
    simp only [ChunkWorld.left, ChunkAt.left]
    omega

/-- A child ends, or its `Popen` can go on. -/
theorem Popen.can_act (p : Popen) : (∃ p', ChildStep p p') ∨ ∃ code, p.tryWait.returncode = some code := by
  cases p with
  | running => exact .inl ⟨.zombie 0, .exits 0⟩
  | zombie status | waited status => exact .inr ⟨status, rfl⟩
  | reaped | missed => exact .inr ⟨0, rfl⟩

theorem ChunkWorld.Invariant.stuck {w : ChunkWorld} (inv : w.Invariant) (stuck : Stuck ChunkStep w) :
    ∃ ending, w.here = .ended ending := by
  obtain ⟨here, sacct, publish⟩ := w
  cases here with
  | ended ending => exact ⟨ending, rfl⟩
  | starting => exact absurd .noSacct (stuck _)
  | sacctStarted => exact absurd .noPublish (stuck _)
  | stoppingPublish => exact absurd .terminatePublish (stuck _)
  | stoppingSacct => exact absurd .terminateSacct (stuck _)
  | stoppingLate => exact absurd .terminateLate (stuck _)
  | waitingSacct =>
    obtain ⟨s, rfl⟩ := Option.ne_none_iff_exists'.mp inv.1
    rcases s.can_act with ⟨s', step⟩ | ⟨code, same⟩
    · exact absurd (.sacctMoves step) (stuck _)
    · exact absurd (.waitSacct same) (stuck _)
  | waitingPublish =>
    obtain ⟨p, rfl⟩ := Option.ne_none_iff_exists'.mp inv.2
    rcases p.can_act with ⟨p', step⟩ | ⟨code, same⟩
    · exact absurd (.publishMoves step) (stuck _)
    · exact absurd (.waitPublish same) (stuck _)
  | leavingPublish ending =>
    obtain ⟨p, rfl⟩ := Option.ne_none_iff_exists'.mp (inv.2.publish_started inv.1)
    rcases p.can_act with ⟨p', step⟩ | ⟨code, same⟩
    · exact absurd (.publishMoves step) (stuck _)
    · exact absurd (.leavePublish same) (stuck _)
  | leavingSacct ending =>
    obtain ⟨s, rfl⟩ := Option.ne_none_iff_exists'.mp inv.2.1
    rcases s.can_act with ⟨s', step⟩ | ⟨code, same⟩
    · exact absurd (.sacctMoves step) (stuck _)
    · exact absurd (.leaveSacct same) (stuck _)

/-- Every run of a call and its children can be continued to an end of the call. -/
theorem publishChunk_ends {w : ChunkWorld} (reach : ChunkReach w) :
    ∃ ending sacct publish, Relation.ReflTransGen ChunkStep w ⟨.ended ending, sacct, publish⟩ := by
  obtain ⟨⟨here, sacct, publish⟩, run, stuck⟩ := run_ends (P := ChunkWorld.Invariant)
    (fun _ _ inv (step : ChunkStep _ _) => step.invariant inv) ChunkWorld.left (fun _ _ inv step => step.left inv)
    reach.invariant
  obtain ⟨ending, rfl⟩ := ChunkWorld.Invariant.stuck (ChunkReach.invariant (reach.trans run)) stuck
  exact ⟨ending, sacct, publish, run⟩

end GpuTelemetry
