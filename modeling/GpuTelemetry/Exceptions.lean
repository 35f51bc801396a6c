import GpuTelemetry.Text

namespace GpuTelemetry

/-- The Python exceptions the modelled code raises or lets through. -/
inductive PyError
  | valueError (msg : Str)
  | assertionError (msg : Str)
  | attributeError (msg : Str)
  | exception (msg : Str)
  | recursionError
  | retry
  | outOfRetries
  | clickException (msg : Str)
  | usageError (msg : Str)
  | typeError (msg : Str)
  | keyError (msg : Str)
  | indexError (msg : Str)
  | overflowError (msg : Str)
  | zeroDivisionError (msg : Str)
  | jsonDecodeError (msg : Str)
  | unicodeDecodeError
  deriving DecidableEq, Repr

/-- `str` of an exception. -/
def PyError.text : PyError → Str
  | .valueError msg | .assertionError msg | .attributeError msg => msg
  | .exception msg | .clickException msg | .usageError msg => msg
  | .typeError msg | .keyError msg | .indexError msg | .overflowError msg | .zeroDivisionError msg => msg
  | .jsonDecodeError msg => msg
  | .unicodeDecodeError => "'utf-8' codec can't decode bytes".toList
  | .recursionError => "maximum recursion depth exceeded".toList
  | .retry | .outOfRetries => []

/-- A computation over a state that may raise. What it did to the state stays
when it raises. -/
abbrev Effect (σ α : Type) := σ → Except PyError α × σ

/-- What a generator yields, and the exception that ends it if it does not return. -/
structure Generated (α : Type) where
  yields : List α
  raises : Option PyError
  deriving DecidableEq, Repr

/-- A generator that has nothing more to yield. -/
def Generated.done {α : Type} : Generated α := ⟨[], none⟩

/-- A value yielded before what the rest of the generator does. -/
def Generated.cons {α : Type} (a : α) (later : Generated α) : Generated α := ⟨a :: later.yields, later.raises⟩

end GpuTelemetry
