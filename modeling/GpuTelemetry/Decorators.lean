import GpuTelemetry.Exceptions

namespace GpuTelemetry

variable {σ τ α : Type}

/-- The loop of `retry`. The `none` behind the schedule marks the last try. -/
def retryLoop (sleep : τ → σ → σ) (f : Effect σ α) : List (Option τ) → Effect σ α
  | [], s =>
    (.error (.assertionError ("Illegal state. There is always at least one try, so we must always enter the loop " ++
      "body which either returns, throws an exception, or continues iteration.").toList), s)
  | sleepSec :: retrySchedule, s =>
    match f s with
    | (.error .retry, s') =>
      match sleepSec with
      | none => (.error .outOfRetries, s')
      | some t => retryLoop sleep f retrySchedule (sleep t s')
    | out => out

def retry (sleep : τ → σ → σ) (retrySchedule : List τ) (f : Effect σ α) : Effect σ α :=
  retryLoop sleep f (retrySchedule.map some ++ [none])

/-- `islice(exponential_backoff(), retries)`. -/
def exponentialBackoff (retries : Nat) : List Nat := (List.range retries).map fun i => 10 * 2 ^ i

/-- `log_error`: every exception is logged, and `returnOnError` returned in its place. -/
def logError (log : PyError → σ → σ) (returnOnError : α) (f : Effect σ α) : Effect σ α := fun s =>
  match f s with
  | (.error e, s') => (.ok returnOnError, log e s')
  | (.ok a, s') => (.ok a, s')

/-- The tries of `f` along a schedule: until one does not ask for a retry, or
the schedule runs out. -/
inductive Retries (sleep : τ → σ → σ) (f : Effect σ α) : List τ → σ → Except PyError α × σ → Prop
  | settled {schedule s out s'} : f s = (out, s') → out ≠ .error .retry → Retries sleep f schedule s (out, s')
  | exhausted {s s'} : f s = (.error .retry, s') → Retries sleep f [] s (.error .outOfRetries, s')
  | again {t schedule s s' result} : f s = (.error .retry, s') → Retries sleep f schedule (sleep t s') result →
      Retries sleep f (t :: schedule) s result

theorem retryLoop_settled {sleep : τ → σ → σ} {f : Effect σ α} {sleepSec : Option τ} {schedule : List (Option τ)}
    {s s' : σ} {out : Except PyError α} (run : f s = (out, s')) (settled : out ≠ .error .retry) :
    retryLoop sleep f (sleepSec :: schedule) s = (out, s') := by
  rw [retryLoop, run]
  split
  · rename_i same
    exact absurd (congrArg Prod.fst same) settled
  · rfl

theorem Retries.run {sleep : τ → σ → σ} {f : Effect σ α} {schedule : List τ} {s : σ}
    {result : Except PyError α × σ} (tries : Retries sleep f schedule s result) :
    retry sleep schedule f s = result := by
  unfold retry
  induction tries with
  | @settled schedule s out s' run settled =>
    cases schedule with
    | nil => exact retryLoop_settled run settled
    | cons t schedule => exact retryLoop_settled run settled
  | exhausted run => simp [retryLoop, run]
  | again run _ ih =>
    rw [List.map_cons, List.cons_append, retryLoop, run]
    exact ih

theorem Retries.exists (sleep : τ → σ → σ) (f : Effect σ α) (schedule : List τ) (s : σ) :
    ∃ result, Retries sleep f schedule s result := by
  induction schedule generalizing s with
  | nil =>
    by_cases again : (f s).1 = .error .retry
    · exact ⟨_, .exhausted (Prod.ext again rfl)⟩
    · exact ⟨_, .settled rfl again⟩
  | cons t schedule ih =>
    by_cases again : (f s).1 = .error .retry
    · obtain ⟨result, later⟩ := ih (sleep t (f s).2)
      exact ⟨result, .again (Prod.ext again rfl) later⟩
    · exact ⟨_, .settled rfl again⟩

/-- The decorated function tries as described, and never reaches its assertion. -/
theorem retry_iff {sleep : τ → σ → σ} {f : Effect σ α} {schedule : List τ} {s : σ}
    {result : Except PyError α × σ} : retry sleep schedule f s = result ↔ Retries sleep f schedule s result := by
  constructor
  · intro run
    obtain ⟨result', tries⟩ := Retries.exists sleep f schedule s
    rw [← run, tries.run]
    exact tries
  · exact Retries.run

/-- A function that never asks for a retry is called once. -/
theorem retry_once {sleep : τ → σ → σ} {f : Effect σ α} {schedule : List τ} {s : σ}
    (settled : (f s).1 ≠ .error .retry) : retry sleep schedule f s = f s :=
  retry_iff.mpr (.settled rfl settled)

end GpuTelemetry
