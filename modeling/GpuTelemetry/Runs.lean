import Mathlib.Logic.Basic
import Mathlib.Logic.Relation

/-! Runs of a step relation: invariants, and runs that end. Nothing here
mentions a particular program. -/

namespace GpuTelemetry

variable {σ : Type} {Step : σ → σ → Prop}

/-- A state without a next one. -/
def Stuck (Step : σ → σ → Prop) (s : σ) : Prop := ∀ s', ¬Step s s'

theorem run_keeps {P : σ → Prop} (kept : ∀ s s', P s → Step s s' → P s') {s s' : σ}
    (run : Relation.ReflTransGen Step s s') (start : P s) : P s' := by
  induction run with
  | refl => exact start
  | tail _ step ih => exact kept _ _ ih step

/-- Where each step lowers a measure, every run can be continued until it is stuck. -/
theorem run_ends {P : σ → Prop} (kept : ∀ s s', P s → Step s s' → P s') (cost : σ → Nat)
    (lower : ∀ s s', P s → Step s s' → cost s' < cost s) {s : σ} (start : P s) :
    ∃ s', Relation.ReflTransGen Step s s' ∧ Stuck Step s' := by
  generalize bound : cost s = n
  induction n using Nat.strongRecOn generalizing s with
  | ind n ih =>
    by_cases stuck : Stuck Step s
    · exact ⟨s, .refl, stuck⟩
    · obtain ⟨next, step⟩ := Classical.not_forall_not.mp stuck
      obtain ⟨last, run, ended⟩ := ih (cost next) (bound ▸ lower s next start step) (kept s next start step) rfl
      exact ⟨last, .head step run, ended⟩

end GpuTelemetry
