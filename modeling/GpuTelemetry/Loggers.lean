import GpuTelemetry.Text

/-! Python's loggers by their dotted names: a record handed to one of them goes
to its handlers and to those of its parents. Nothing here mentions a particular
program. -/

namespace GpuTelemetry

/-- The loggers of a process, and the handlers in the order in which they were attached. -/
structure Loggers (η : Type) where
  names : List Str
  handlers : List (Str × η)

namespace Loggers

variable {η : Type}

def fresh : Loggers η := ⟨[], []⟩

def getLogger (name : Str) (loggers : Loggers η) : Loggers η :=
  if name ∈ loggers.names then loggers else { loggers with names := loggers.names ++ [name] }

def addHandler (name : Str) (handler : η) (loggers : Loggers η) : Loggers η :=
  { loggers with handlers := loggers.handlers ++ [(name, handler)] }

/-- The parents of a logger, the nearest first, from its name read backwards.
Where no logger has the name before a dot, the search goes on two places before
that dot. -/
def parentsFrom (names : List Str) : Str → List Str
  | [] | [_] => []
  | c :: d :: rest =>
    if c = '.' then
      if (d :: rest).reverse ∈ names then (d :: rest).reverse :: parentsFrom names (d :: rest)
      else parentsFrom names rest
    else parentsFrom names (d :: rest)

/-- A logger and its parents. -/
def lineage (names : List Str) (name : Str) : List Str := name :: parentsFrom names name.reverse

/-- The handlers of one logger. -/
def handlersOf (handlers : List (Str × η)) (name : Str) : List η :=
  (handlers.filter fun attached => attached.1 = name).map (·.2)

/-- Where a record handed to a logger goes. -/
def callHandlers (loggers : Loggers η) (name : Str) : List η :=
  (lineage loggers.names name).flatMap (handlersOf loggers.handlers)

@[simp] theorem addHandler_handlers (name : Str) (handler : η) (loggers : Loggers η) :
    (loggers.addHandler name handler).handlers = loggers.handlers ++ [(name, handler)] := rfl

@[simp] theorem addHandler_names (name : Str) (handler : η) (loggers : Loggers η) :
    (loggers.addHandler name handler).names = loggers.names := rfl

@[simp] theorem getLogger_handlers (name : Str) (loggers : Loggers η) :
    (loggers.getLogger name).handlers = loggers.handlers := by
  unfold getLogger
  split <;> rfl

theorem mem_getLogger {name other : Str} {loggers : Loggers η} :
    other ∈ (loggers.getLogger name).names ↔ other ∈ loggers.names ∨ other = name := by
  unfold getLogger
  split
  · rename_i known
    refine ⟨Or.inl, ?_⟩
    rintro (member | rfl)
    · exact member
    · exact known
  · simp

/-- Every parent is a logger, and its name with a dot after it starts the name. -/
theorem parentsFrom_dotted {names : List Str} {name parent : Str} (member : parent ∈ parentsFrom names name) :
    parent ∈ names ∧ ∃ rest, name.reverse = parent ++ '.' :: rest := by
  fun_induction parentsFrom names name with
  | case1 => simp at member
  | case2 => simp at member
  | case3 d rest known ih =>
    rcases List.mem_cons.mp member with rfl | member
    · exact ⟨known, [], by simp⟩
    · obtain ⟨isName, tail, same⟩ := ih member
      exact ⟨isName, tail ++ ['.'], by rw [List.reverse_cons, same]; simp⟩
  | case4 d rest unknown ih =>
    obtain ⟨isName, tail, same⟩ := ih member
    exact ⟨isName, tail ++ [d, '.'], by rw [List.reverse_cons, List.reverse_cons, same]; simp⟩
  | case5 c d rest noDot ih =>
    obtain ⟨isName, tail, same⟩ := ih member
    exact ⟨isName, tail ++ [c], by rw [List.reverse_cons, same]; simp⟩

theorem parentsFrom_shorter {names : List Str} {name parent : Str} (member : parent ∈ parentsFrom names name) :
    parent.length < name.length := by
  obtain ⟨-, rest, same⟩ := parentsFrom_dotted member
  have lengths := congrArg List.length same
  rw [List.length_reverse, List.length_append, List.length_cons] at lengths
  omega

theorem parentsFrom_nodup (names : List Str) (name : Str) : (parentsFrom names name).Nodup := by
  fun_induction parentsFrom names name with
  | case1 => exact List.nodup_nil
  | case2 => exact List.nodup_nil
  | case3 d rest known ih =>
    refine List.nodup_cons.mpr ⟨fun member => ?_, ih⟩
    have shorter := parentsFrom_shorter member
    rw [List.length_reverse] at shorter
    omega
  | case4 d rest unknown ih => exact ih
  | case5 c d rest noDot ih => exact ih

theorem lineage_nodup (names : List Str) (name : Str) : (lineage names name).Nodup := by
  refine List.nodup_cons.mpr ⟨fun member => ?_, parentsFrom_nodup _ _⟩
  have shorter := parentsFrom_shorter member
  rw [List.length_reverse] at shorter
  omega

theorem parentsFrom_congr {names others : List Str} (same : ∀ name, name ∈ names ↔ name ∈ others) (name : Str) :
    parentsFrom names name = parentsFrom others name := by
  fun_induction parentsFrom names name with
  | case1 => rw [parentsFrom]
  | case2 => rw [parentsFrom]
  | case3 d rest known ih => rw [parentsFrom, if_pos rfl, if_pos ((same _).mp known), ih]
  | case4 d rest unknown ih =>
    rw [parentsFrom, if_pos rfl, if_neg (fun known => unknown ((same _).mpr known)), ih]
  | case5 c d rest noDot ih => rw [parentsFrom, if_neg noDot, ih]

/-- The parents do not depend on the order in which the loggers were made. -/
theorem lineage_congr {names others : List Str} (same : ∀ name, name ∈ names ↔ name ∈ others) (name : Str) :
    lineage names name = lineage others name := by
  rw [lineage, lineage, parentsFrom_congr same]

/-- Of loggers that differ, the handlers together are those attached under one of their names. -/
theorem flatMap_handlersOf_perm (handlers : List (Str × η)) {names : List Str} (nodup : names.Nodup) :
    (names.flatMap (handlersOf handlers)).Perm ((handlers.filter fun attached => attached.1 ∈ names).map (·.2)) := by
  induction names with
  | nil => simp
  | cons name rest ih =>
    obtain ⟨notIn, nodup⟩ := List.nodup_cons.mp nodup
    have parts := List.filter_append_perm (fun attached : Str × η => attached.1 = name)
      (handlers.filter fun attached => attached.1 ∈ name :: rest)
    rw [List.filter_filter, List.filter_filter] at parts
    have own : (handlers.filter fun attached => (attached.1 = name : Bool) && (attached.1 ∈ name :: rest : Bool)) =
        handlers.filter fun attached => attached.1 = name := by
      refine List.filter_congr fun attached _ => ?_
      by_cases same : attached.1 = name
      · simp [same]
      · simp [same]
    have others : (handlers.filter fun attached => !(attached.1 = name : Bool) && (attached.1 ∈ name :: rest : Bool)) =
        handlers.filter fun attached => attached.1 ∈ rest := by
      refine List.filter_congr fun attached _ => ?_
      by_cases same : attached.1 = name
      · simp [same, notIn]
      · simp [same]
    rw [own, others] at parts
    rw [List.flatMap_cons]
    exact ((ih nodup).append_left _).trans (by simpa only [List.map_append, handlersOf] using parts.map (·.2))

end Loggers

end GpuTelemetry
