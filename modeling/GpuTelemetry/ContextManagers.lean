/-! Python's `with` statement, for context managers that let exceptions
through. Nothing here mentions a particular program. -/

namespace GpuTelemetry

variable {σ ε α : Type}

/-- `exit` is given the exception that ended the body, if one did. -/
structure ContextManager (σ ε : Type) where
  enter : σ → Except ε Unit × σ
  exit : Option ε → σ → Except ε Unit × σ

/-- The exception that ended a body. -/
def raisedBy : Except ε α → Option ε
  | .ok _ => none
  | .error e => some e

namespace ContextManager

/-- Leaving the `with` statement after a body: an exception of `exit` takes the place of the outcome. -/
def leave (cm : ContextManager σ ε) (body : Except ε α × σ) : Except ε α × σ :=
  match cm.exit (raisedBy body.1) body.2 with
  | (.ok (), s) => (body.1, s)
  | (.error e, s) => (.error e, s)

/-- The `with` statement. Where `enter` raises, `exit` is not called. -/
def within (cm : ContextManager σ ε) (body : σ → Except ε α × σ) (s : σ) : Except ε α × σ :=
  match cm.enter s with
  | (.ok (), s) => cm.leave (body s)
  | (.error e, s) => (.error e, s)

variable {cm : ContextManager σ ε} {body : σ → Except ε α × σ} {s s' : σ}

theorem within_entered (entered : cm.enter s = (.ok (), s')) : cm.within body s = cm.leave (body s') := by
  rw [within, entered]

theorem leave_left {result : Except ε α × σ} (left : cm.exit (raisedBy result.1) result.2 = (.ok (), s)) :
    cm.leave result = (result.1, s) := by
  rw [leave, left]

theorem leave_raised {result : Except ε α × σ} {e : ε}
    (raised : cm.exit (raisedBy result.1) result.2 = (.error e, s)) : cm.leave result = (.error e, s) := by
  rw [leave, raised]

end ContextManager

end GpuTelemetry
