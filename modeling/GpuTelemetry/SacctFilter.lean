import GpuTelemetry.Exceptions

namespace GpuTelemetry

/-- One second. Times and durations are counted in microseconds. -/
def second : Int := 1000000

/-- An interval whose absent bounds are open. -/
structure ClosedInterval where
  lower : Option Int
  upper : Option Int
  ordered : ∀ l ∈ lower, ∀ u ∈ upper, l ≤ u

def ClosedInterval.contains (interval : ClosedInterval) (x : Int) : Bool :=
  match interval.lower, interval.upper with
  | none, none => true
  | none, some upper => decide (x ≤ upper)
  | some lower, none => decide (lower ≤ x)
  | some lower, some upper => decide (lower ≤ x ∧ x ≤ upper)

structure BoundedClosedInterval where
  lower : Int
  upper : Int
  ordered : lower ≤ upper

/-- The constructor with its check; `str` prints a time in its zone. -/
def BoundedClosedInterval.create (str : Int → Str) (lower upper : Int) : Except PyError BoundedClosedInterval :=
  if ordered : lower ≤ upper then .ok ⟨lower, upper, ordered⟩
  else .error (.valueError ("Lower (".toList ++ str lower ++ ") must be less than or equal to upper (".toList ++
    str upper ++ ")".toList))

def BoundedClosedInterval.closed (interval : BoundedClosedInterval) : ClosedInterval where
  lower := some interval.lower
  upper := some interval.upper
  ordered := by
    intro l atLower u atUpper
    rw [← Option.some.inj atLower, ← Option.some.inj atUpper]
    exact interval.ordered

theorem BoundedClosedInterval.create_ok {str : Int → Str} {lower upper : Int} (ordered : lower ≤ upper) :
    BoundedClosedInterval.create str lower upper = .ok ⟨lower, upper, ordered⟩ :=
  dif_pos ordered

/-- The callables a filter is given, and the external `date` command behind
`get_datetime`. -/
structure LineReader where
  lineSplitter : Str → List Str
  lineFormatter : List Str → Except PyError (List Str)
  lineLastColumnSplitter : List Str → Except PyError (Str × Str)
  getDatetime : Str → Except PyError Int

/-- The line to print and its end time. -/
def LineReader.read (reader : LineReader) (stripped : Str) : Except PyError (Str × Int) := do
  let formattedLine ← reader.lineFormatter (reader.lineSplitter stripped)
  let (actualLine, stop) ← reader.lineLastColumnSplitter formattedLine
  let time ← reader.getDatetime stop
  .ok (actualLine, time)

def filterSacctLinesOneByOne (reader : LineReader) (interval : ClosedInterval) : List Str → Generated Str
  | [] => .done
  | line :: sacctIo =>
    if strip line = [] then filterSacctLinesOneByOne reader interval sacctIo
    else
      match reader.read (strip line) with
      | .error e => ⟨[], some e⟩
      | .ok (actualLine, time) =>
        if interval.contains time then .cons actualLine (filterSacctLinesOneByOne reader interval sacctIo)
        else filterSacctLinesOneByOne reader interval sacctIo

/-- Records that print as lines which can be read back. -/
structure Readable (reader : LineReader) {Record : Type} (line output : Record → Str) (stop : Record → Int)
    (r : Record) : Prop where
  nonblank : strip (line r) ≠ []
  read : reader.read (strip (line r)) = .ok (output r, stop r)

/-- The filter passes on the records that end in the interval, in order. -/
theorem filterSacctLinesOneByOne_records {reader : LineReader} {Record : Type} {line output : Record → Str}
    {stop : Record → Int} (interval : ClosedInterval) {raw : List Record}
    (readable : ∀ r ∈ raw, Readable reader line output stop r) :
    filterSacctLinesOneByOne reader interval (raw.map line) =
      ⟨(raw.filter fun r => interval.contains (stop r)).map output, none⟩ := by
  induction raw with
  | nil => rfl
  | cons r raw ih =>
    obtain ⟨nonblank, read⟩ := readable r (by simp)
    have later := ih fun other member => readable other (by simp [member])
    rw [List.map_cons, filterSacctLinesOneByOne, if_neg nonblank, read]
    by_cases inside : interval.contains (stop r) = true
    · simp only [inside, if_true, later, List.filter_cons, List.map_cons]
      rfl
    · simp only [inside, later, List.filter_cons]
      rfl

end GpuTelemetry
