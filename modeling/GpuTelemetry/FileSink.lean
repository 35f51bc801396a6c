import GpuTelemetry.Exceptions
import GpuTelemetry.Loggers
import Mathlib.Data.List.Nodup

namespace GpuTelemetry

/-! ### The file sink -/

/-- `os.path.basename`. -/
def basename (path : Str) : Str := (path.reverse.takeWhile (· ≠ '/')).reverse

/-- `os.path.dirname`. -/
def dirname (path : Str) : Str :=
  let head := (path.reverse.dropWhile (· ≠ '/')).reverse
  if head.all (· = '/') then head else (head.reverse.dropWhile (· = '/')).reverse

/-- `os.path.join` with a name that has no slash. -/
def joinPath (dir name : Str) : Str :=
  if dir = [] ∨ dir.getLast? = some '/' then dir ++ name else dir ++ '/' :: name

/-- `DataIdentifier`. -/
inductive DataIdentifier
  | JOB
  | NODE
  | STATVFS
  | PURE
  | GENERIC
  deriving DecidableEq

def DataIdentifier.text : DataIdentifier → Str
  | .JOB => "DataIdentifier.JOB".toList
  | .NODE => "DataIdentifier.NODE".toList
  | .STATVFS => "DataIdentifier.STATVFS".toList
  | .PURE => "DataIdentifier.PURE".toList
  | .GENERIC => "DataIdentifier.GENERIC".toList

/-- What making a directory and opening a file to append to it come to. -/
structure FileSystem (φ : Type) where
  makedirs : Str → Except PyError Unit
  openAppend : Str → Except PyError φ

variable {φ : Type}

/-- `init_logger`, without a formatter and not for the standard output. -/
def initLogger (fs : FileSystem φ) (loggerName logDir logName : Str) (loggers : Loggers φ) :
    Except PyError Unit × Loggers φ :=
  let filePath := joinPath logDir logName
  match fs.makedirs (dirname filePath) with
  | .error e => (.error e, loggers)
  | .ok () =>
    match fs.openAppend filePath with
    | .error e => (.error e, loggers.getLogger loggerName)
    | .ok handler => (.ok (), (loggers.getLogger loggerName).addHandler loggerName handler)

/-- The parameters of `File`. -/
structure FilePaths where
  filePath : Option Str
  jobFilePath : Option Str
  nodeFilePath : Option Str

/-- The paths that are given, in the order in which `File` takes them. -/
def FilePaths.given (paths : FilePaths) : List (DataIdentifier × Str) :=
  (paths.filePath.map (DataIdentifier.GENERIC, ·)).toList ++ (paths.jobFilePath.map (DataIdentifier.JOB, ·)).toList ++
    (paths.nodeFilePath.map (DataIdentifier.NODE, ·)).toList

/-- `__name__`. -/
def fileModule : Str := "l9gpu.exporters.file".toList

def fileLoggerName (path : Str) : Str := fileModule ++ path

/-- A logger for each path, up to the first that fails. -/
def initLoggers (fs : FileSystem φ) : List (DataIdentifier × Str) → Loggers φ → Except PyError Unit × Loggers φ
  | [], loggers => (.ok (), loggers)
  | (_, path) :: rest, loggers =>
    match initLogger fs (fileLoggerName path) (dirname path) (basename path) loggers with
    | (.error e, loggers) => (.error e, loggers)
    | (.ok (), loggers) => initLoggers fs rest loggers

/-- `data_identifier_to_logger_map`, by the names of the loggers. -/
abbrev FileSink := List (DataIdentifier × Str)

def FilePaths.sink (paths : FilePaths) : FileSink :=
  paths.given.map fun (identifier, path) => (identifier, fileLoggerName path)

def missingFilePath : Str :=
  ("When using the file sink at least one file_path needs to be specified. " ++ "See l9gpu %collector% --help").toList

/-- `File.__init__`. -/
def initFile (fs : FileSystem φ) (paths : FilePaths) (loggers : Loggers φ) : Except PyError FileSink × Loggers φ :=
  if paths.given = [] then (.error (.exception missingFilePath), loggers)
  else
    match initLoggers fs paths.given loggers with
    | (.error e, loggers) => (.error e, loggers)
    | (.ok (), loggers) => (.ok paths.sink, loggers)

/-- The logger that `File.write` takes. -/
def FileSink.logger (sink : FileSink) : Option DataIdentifier → Except PyError Str
  | some identifier =>
    match sink.lookup identifier with
    | some name => .ok name
    | none =>
      .error (.assertionError ("data_identifier value is unsupported on file sink: ".toList ++ identifier.text))
  | none =>
    match sink.lookup .GENERIC with
    | some name => .ok name
    | none => .error (.keyError "<DataIdentifier.GENERIC: 5>".toList)

/-- The payloads that are handed over, each to all of the handlers, up to the
first that `json.dumps` refuses. -/
def infoAll (handlers : List φ) : List (Except PyError Str) → Except PyError Unit × List (φ × Str)
  | [] => (.ok (), [])
  | .error e :: _ => (.error e, [])
  | .ok line :: rest =>
    let (ended, emitted) := infoAll handlers rest
    (ended, handlers.map (·, line) ++ emitted)

/-- `File.write`, with the lines that the handlers are given. -/
def FileSink.write (sink : FileSink) (loggers : Loggers φ) (identifier : Option DataIdentifier)
    (payloads : List (Except PyError Str)) : Except PyError Unit × List (φ × Str) :=
  match sink.logger identifier with
  | .error e => (.error e, [])
  | .ok name => infoAll (loggers.callHandlers name) payloads

/-! ### What a process hands to its files -/

/-- A sink is constructed, or one writes. -/
inductive FileOp (φ : Type)
  | construct (fs : FileSystem φ) (paths : FilePaths)
  | write (sink : FileSink) (identifier : Option DataIdentifier) (payloads : List (Except PyError Str))

/-- The loggers of a process, and the lines that its handlers were given. -/
structure FileWorld (φ : Type) where
  loggers : Loggers φ
  emitted : List (φ × Str)

def FileOp.apply (w : FileWorld φ) : FileOp φ → FileWorld φ
  | .construct fs paths => { w with loggers := (initFile fs paths w.loggers).2 }
  | .write sink identifier payloads =>
    { w with emitted := w.emitted ++ (sink.write w.loggers identifier payloads).2 }

def runFileOps (ops : List (FileOp φ)) : FileWorld φ := ops.foldl FileOp.apply ⟨.fresh, []⟩

/-- The handler that `init_logger` makes for a path. -/
def openedFor (fs : FileSystem φ) (path : Str) : Except PyError φ := do
  fs.makedirs (dirname (joinPath (dirname path) (basename path)))
  fs.openAppend (joinPath (dirname path) (basename path))

/-- The loggers that are asked for. -/
def namedBy (fs : FileSystem φ) : List (DataIdentifier × Str) → List Str
  | [] => []
  | (_, path) :: rest =>
    match fs.makedirs (dirname (joinPath (dirname path) (basename path))) with
    | .error _ => []
    | .ok () => fileLoggerName path :: if (openedFor fs path).isOk then namedBy fs rest else []

/-- The handlers that are attached, under the names of their loggers. -/
def attachedBy (fs : FileSystem φ) : List (DataIdentifier × Str) → List (Str × φ)
  | [] => []
  | (_, path) :: rest =>
    match openedFor fs path with
    | .error _ => []
    | .ok handler => (fileLoggerName path, handler) :: attachedBy fs rest

def FileOp.named : FileOp φ → List Str
  | .construct fs paths => namedBy fs paths.given
  | .write .. => []

def FileOp.attached : FileOp φ → List (Str × φ)
  | .construct fs paths => attachedBy fs paths.given
  | .write .. => []

/-- The texts of the payloads before the first that `json.dumps` refuses. -/
def dumped : List (Except PyError Str) → List Str
  | .ok line :: rest => line :: dumped rest
  | _ => []

/-- Where the lines for a logger go after a history. -/
def destinations (history : List (FileOp φ)) (name : Str) : List φ :=
  (Loggers.lineage (history.flatMap FileOp.named) name).flatMap
    (Loggers.handlersOf (history.flatMap FileOp.attached))

theorem initLoggers_loggers (fs : FileSystem φ) (given : List (DataIdentifier × Str)) (loggers : Loggers φ) :
    (initLoggers fs given loggers).2.handlers = loggers.handlers ++ attachedBy fs given ∧
      ∀ name, name ∈ (initLoggers fs given loggers).2.names ↔ name ∈ loggers.names ∨ name ∈ namedBy fs given := by
  induction given generalizing loggers with
  | nil => simp [initLoggers, attachedBy, namedBy]
  | cons entry rest ih =>
    obtain ⟨identifier, path⟩ := entry
    rcases made : fs.makedirs (dirname (joinPath (dirname path) (basename path))) with e | ⟨⟩
    · simp [initLoggers, initLogger, attachedBy, namedBy, openedFor, made, Bind.bind, Except.bind]
    · rcases opened : fs.openAppend (joinPath (dirname path) (basename path)) with e | handler
      · simp [initLoggers, initLogger, attachedBy, namedBy, openedFor, made, opened, Bind.bind, Except.bind,
          Except.isOk, Except.toBool, Loggers.mem_getLogger]
      · obtain ⟨handlers, names⟩ :=
          ih ((loggers.getLogger (fileLoggerName path)).addHandler (fileLoggerName path) handler)
        refine ⟨?_, fun name => ?_⟩
        · simp [initLoggers, initLogger, attachedBy, openedFor, made, opened, Bind.bind, Except.bind, handlers]
        · simp [initLoggers, initLogger, namedBy, openedFor, made, opened, Bind.bind, Except.bind, Except.isOk,
            Except.toBool, names, Loggers.mem_getLogger, or_assoc]

theorem initFile_loggers (fs : FileSystem φ) (paths : FilePaths) (loggers : Loggers φ) :
    (initFile fs paths loggers).2.handlers = loggers.handlers ++ attachedBy fs paths.given ∧
      ∀ name, name ∈ (initFile fs paths loggers).2.names ↔
        name ∈ loggers.names ∨ name ∈ namedBy fs paths.given := by
  have inits := initLoggers_loggers fs paths.given loggers
  unfold initFile
  split
  · rename_i none
    simp [none, attachedBy, namedBy]
  · rcases same : initLoggers fs paths.given loggers with ⟨_ | _, after⟩
    · rwa [same] at inits
    · rwa [same] at inits

/-- One operation adds its own handlers and loggers. -/
theorem FileOp.apply_loggers (op : FileOp φ) (w : FileWorld φ) :
    (op.apply w).loggers.handlers = w.loggers.handlers ++ op.attached ∧
      ∀ name, name ∈ (op.apply w).loggers.names ↔ name ∈ w.loggers.names ∨ name ∈ op.named := by
  cases op with
  | construct fs paths => exact initFile_loggers fs paths w.loggers
  | write sink identifier payloads => simp [FileOp.apply, FileOp.attached, FileOp.named]

theorem runFileOps_snoc (history : List (FileOp φ)) (op : FileOp φ) :
    runFileOps (history ++ [op]) = op.apply (runFileOps history) := by
  rw [runFileOps, List.foldl_append]
  rfl

theorem runFileOps_loggers (history : List (FileOp φ)) :
    (runFileOps history).loggers.handlers = history.flatMap FileOp.attached ∧
      ∀ name, name ∈ (runFileOps history).loggers.names ↔ name ∈ history.flatMap FileOp.named := by
  induction history using List.reverseRecOn with
  | nil => simp [runFileOps, Loggers.fresh]
  | append_singleton history op ih =>
    obtain ⟨handlers, names⟩ := ih
    obtain ⟨stepHandlers, stepNames⟩ := op.apply_loggers (runFileOps history)
    rw [runFileOps_snoc, List.flatMap_append, List.flatMap_append, List.flatMap_singleton, List.flatMap_singleton]
    refine ⟨by rw [stepHandlers, handlers], fun name => ?_⟩
    rw [stepNames, names, List.mem_append]

theorem callHandlers_run (history : List (FileOp φ)) (name : Str) :
    (runFileOps history).loggers.callHandlers name = destinations history name := by
  obtain ⟨handlers, names⟩ := runFileOps_loggers history
  rw [Loggers.callHandlers, destinations, handlers, Loggers.lineage_congr names]

theorem dumped_line (line : Str) : dumped [.ok line] = [line] := rfl

theorem infoAll_emitted (handlers : List φ) (payloads : List (Except PyError Str)) :
    (infoAll handlers payloads).2 = (dumped payloads).flatMap fun line => handlers.map (·, line) := by
  fun_induction infoAll handlers payloads with
  | case1 => rfl
  | case2 e rest => rfl
  | case3 line rest ended emitted same ih => rw [dumped, List.flatMap_cons, ← ih, same]

/-- What a write emits. -/
theorem write_emitted {sink : FileSink} {loggers : Loggers φ} {identifier : Option DataIdentifier} {name : Str}
    (found : sink.logger identifier = .ok name) (payloads : List (Except PyError Str)) :
    (sink.write loggers identifier payloads).2 =
      (dumped payloads).flatMap fun line => (loggers.callHandlers name).map (·, line) := by
  rw [FileSink.write, found]
  exact infoAll_emitted _ _

theorem write_refused {sink : FileSink} {loggers : Loggers φ} {identifier : Option DataIdentifier} {e : PyError}
    (refused : sink.logger identifier = .error e) (payloads : List (Except PyError Str)) :
    (sink.write loggers identifier payloads).2 = [] := by
  rw [FileSink.write, refused]

theorem lookup_sink (paths : FilePaths) (identifier : DataIdentifier) :
    paths.sink.lookup identifier = (paths.given.lookup identifier).map fileLoggerName := by
  rw [FilePaths.sink]
  induction paths.given with
  | nil => rfl
  | cons entry rest ih =>
    rw [List.map_cons, List.lookup_cons, List.lookup_cons]
    split
    · rfl
    · exact ih

theorem sink_logger_cases (paths : FilePaths) (identifier : Option DataIdentifier) :
    (∃ path, paths.given.lookup (identifier.getD .GENERIC) = some path ∧
        paths.sink.logger identifier = .ok (fileLoggerName path)) ∨
      paths.given.lookup (identifier.getD .GENERIC) = none ∧ ∃ e, paths.sink.logger identifier = .error e := by
  cases identifier with
  | none =>
    rcases same : paths.given.lookup .GENERIC with _ | path
    · exact Or.inr ⟨same, by simp [FileSink.logger, lookup_sink, same]⟩
    · exact Or.inl ⟨path, same, by simp [FileSink.logger, lookup_sink, same]⟩
  | some identifier =>
    rcases same : paths.given.lookup identifier with _ | path
    · exact Or.inr ⟨same, by simp [FileSink.logger, lookup_sink, same]⟩
    · exact Or.inl ⟨path, same, by simp [FileSink.logger, lookup_sink, same]⟩

theorem given_keys_nodup (paths : FilePaths) : (paths.given.map (·.1)).Nodup := by
  obtain ⟨_ | _, _ | _, _ | _⟩ := paths <;> simp [FilePaths.given]

/-- Loggers that are all made have opened a file for each path. -/
theorem initLoggers_opened {fs : FileSystem φ} {given : List (DataIdentifier × Str)} {loggers : Loggers φ}
    (made : (initLoggers fs given loggers).1 = .ok ()) :
    (∀ entry ∈ given, ∃ handler, openedFor fs entry.2 = .ok handler) ∧
      namedBy fs given = given.map (fun entry => fileLoggerName entry.2) ∧
      attachedBy fs given =
        given.filterMap fun entry => (openedFor fs entry.2).toOption.map (fileLoggerName entry.2, ·) := by
  induction given generalizing loggers with
  | nil => simp [namedBy, attachedBy]
  | cons entry rest ih =>
    obtain ⟨identifier, path⟩ := entry
    unfold initLoggers initLogger at made
    rcases dir : fs.makedirs (dirname (joinPath (dirname path) (basename path))) with e | ⟨⟩
    · simp [dir] at made
    · rcases opened : fs.openAppend (joinPath (dirname path) (basename path)) with e | handler
      · simp [dir, opened] at made
      · have openedPath : openedFor fs path = .ok handler := by simp [openedFor, dir, opened, Bind.bind, Except.bind]
        simp only [dir, opened] at made
        obtain ⟨all, named, attached⟩ := ih made
        refine ⟨?_, ?_, ?_⟩
        · intro entry member
          rcases List.mem_cons.mp member with rfl | member
          · exact ⟨handler, openedPath⟩
          · exact all entry member
        · simp [namedBy, dir, openedPath, Except.isOk, Except.toBool, named]
        · simp [attachedBy, openedPath, Except.toOption, attached]

theorem initFile_opened {fs : FileSystem φ} {paths : FilePaths} {loggers : Loggers φ} {sink : FileSink}
    (constructed : (initFile fs paths loggers).1 = .ok sink) :
    sink = paths.sink ∧ (initLoggers fs paths.given loggers).1 = .ok () := by
  unfold initFile at constructed
  split at constructed
  · simp at constructed
  · rcases same : initLoggers fs paths.given loggers with ⟨_ | ⟨⟩, after⟩
    · simp [same] at constructed
    · rw [same] at constructed
      exact ⟨(Except.ok.inj constructed).symm, rfl⟩

theorem lookup_given_iff (paths : FilePaths) (identifier : DataIdentifier) (path : Str) :
    paths.given.lookup identifier = some path ↔ (identifier, path) ∈ paths.given := by
  rw [List.lookup_eq_some_iff]
  constructor
  · rintro ⟨before, after, same, -⟩
    rw [same]
    exact List.mem_append_right _ List.mem_cons_self
  · intro member
    obtain ⟨before, after, same⟩ := List.append_of_mem member
    refine ⟨before, after, same, fun entry earlier => ?_⟩
    have nodup := given_keys_nodup paths
    rw [same, List.map_append, List.map_cons] at nodup
    have differ := (List.nodup_append.mp nodup).2.2 entry.1 (List.mem_map_of_mem earlier) identifier List.mem_cons_self
    simpa using fun eq => differ eq.symm

/-- The entries whose handlers are given the lines for a path. -/
def FilePaths.heard (paths : FilePaths) (path : Str) : List (DataIdentifier × Str) :=
  paths.given.filter fun entry =>
    fileLoggerName entry.2 ∈
      Loggers.lineage (paths.given.map fun entry => fileLoggerName entry.2) (fileLoggerName path)

/-- No path is given for two kinds of data, and the logger of none is a parent of another's. -/
def FilePaths.Apart (paths : FilePaths) : Prop :=
  ∀ one ∈ paths.given, ∀ other ∈ paths.given, other ∈ paths.heard one.2 → other = one

theorem callHandlers_constructed {fs : FileSystem φ} {paths : FilePaths} {sink : FileSink}
    (constructed : (initFile fs paths .fresh).1 = .ok sink) (path : Str) :
    ((initFile fs paths .fresh).2.callHandlers (fileLoggerName path)).Perm
      ((paths.heard path).filterMap fun entry => (openedFor fs entry.2).toOption) := by
  obtain ⟨-, named, attached⟩ := initLoggers_opened (initFile_opened constructed).2
  obtain ⟨handlers, names⟩ := initFile_loggers fs paths .fresh
  have sameNames : ∀ name, name ∈ (initFile fs paths .fresh).2.names ↔
      name ∈ paths.given.map fun entry => fileLoggerName entry.2 := by
    intro name
    rw [names, named]
    simp [Loggers.fresh]
  rw [Loggers.callHandlers, Loggers.lineage_congr sameNames, handlers, attached]
  refine (Loggers.flatMap_handlersOf_perm _ (Loggers.lineage_nodup _ _)).trans (List.Perm.of_eq ?_)
  rw [FilePaths.heard, List.filterMap_filter, Loggers.fresh, List.nil_append, List.filter_filterMap,
    List.map_filterMap]
  refine List.filterMap_congr fun entry _ => ?_
  rcases openedFor fs entry.2 with e | handler
  · simp [Except.toOption]
  · by_cases heard : fileLoggerName entry.2 ∈
        Loggers.lineage (paths.given.map fun entry => fileLoggerName entry.2) (fileLoggerName path)
    · simp [Except.toOption, Option.filter, heard]
    · simp [Except.toOption, Option.filter, heard]

theorem heard_self {paths : FilePaths} {entry : DataIdentifier × Str} (member : entry ∈ paths.given) :
    entry ∈ paths.heard entry.2 :=
  List.mem_filter.mpr ⟨member, by simp [Loggers.lineage]⟩

theorem FilePaths.Apart.heard {paths : FilePaths} (apart : paths.Apart) {entry : DataIdentifier × Str}
    (member : entry ∈ paths.given) : paths.heard entry.2 = [entry] := by
  refine List.perm_singleton.mp ?_
  have nodup : (paths.heard entry.2).Nodup := (given_keys_nodup paths).of_map.filter _
  refine (List.perm_ext_iff_of_nodup nodup (List.nodup_singleton _)).mpr fun other => ?_
  rw [List.mem_singleton]
  refine ⟨fun heard => apart entry member other (List.mem_filter.mp heard).1 heard, ?_⟩
  rintro rfl
  exact heard_self member

theorem FilePaths.Apart.callHandlers {fs : FileSystem φ} {paths : FilePaths} {sink : FileSink}
    {entry : DataIdentifier × Str} {file : φ} (apart : paths.Apart)
    (constructed : (initFile fs paths .fresh).1 = .ok sink) (member : entry ∈ paths.given)
    (opened : openedFor fs entry.2 = .ok file) :
    (initFile fs paths .fresh).2.callHandlers (fileLoggerName entry.2) = [file] := by
  have called := callHandlers_constructed constructed entry.2
  rw [apart.heard member, List.filterMap_cons_some (by rw [opened]; rfl), List.filterMap_nil] at called
  exact List.perm_singleton.mp called

/-- A file system in which every file can be opened. -/
def everyFileOpens : FileSystem Str := ⟨fun _ => .ok (), fun path => .ok path⟩

/-- `TelemetryContext.__exit__` with the file sink, which it constructs anew for
the record of its check. -/
def exitCheck (paths : FilePaths) (w : FileWorld φ) (check : FileSystem φ × Except PyError Str) : FileWorld φ :=
  match initFile check.1 paths w.loggers with
  | (.error _, loggers) => { w with loggers := loggers }
  | (.ok sink, loggers) =>
    { loggers := loggers, emitted := w.emitted ++ (sink.write loggers none [check.2]).2 }

def exitChecks (paths : FilePaths) (checks : List (FileSystem φ × Except PyError Str)) : FileWorld φ :=
  checks.foldl (exitCheck paths) ⟨.fresh, []⟩

/-- The sinks that checks construct, or fail to. -/
def checkHistory (paths : FilePaths) (checks : List (FileSystem φ × Except PyError Str)) : List (FileOp φ) :=
  checks.map fun check => .construct check.1 paths

/-- Whether a `File` is constructed. -/
def FilePaths.opens (paths : FilePaths) (fs : FileSystem φ) : Bool :=
  !paths.given.isEmpty && paths.given.all fun entry => (openedFor fs entry.2).isOk

/-- The lines of a check after others: its sink takes its place among the ones before. -/
def checkLines (paths : FilePaths) (checks : List (FileSystem φ × Except PyError Str))
    (check : FileSystem φ × Except PyError Str) : List (φ × Str) :=
  match paths.filePath with
  | none => []
  | some path =>
    if paths.opens check.1 then
      (dumped [check.2]).flatMap fun line =>
        (destinations (checkHistory paths checks) (fileLoggerName path)).map (·, line)
    else []

theorem checkLines_given {paths : FilePaths} {path : Str} (given : paths.filePath = some path)
    (checks : List (FileSystem φ × Except PyError Str)) (check : FileSystem φ × Except PyError Str) :
    checkLines paths checks check =
      if paths.opens check.1 then
        (dumped [check.2]).flatMap fun line =>
          (destinations (checkHistory paths checks) (fileLoggerName path)).map (·, line)
      else [] := by
  rw [checkLines, given]

theorem initLoggers_made_iff (fs : FileSystem φ) (given : List (DataIdentifier × Str)) (loggers : Loggers φ) :
    (initLoggers fs given loggers).1 = .ok () ↔ ∀ entry ∈ given, (openedFor fs entry.2).isOk := by
  induction given generalizing loggers with
  | nil => simp [initLoggers]
  | cons entry rest ih =>
    obtain ⟨identifier, path⟩ := entry
    rcases dir : fs.makedirs (dirname (joinPath (dirname path) (basename path))) with e | ⟨⟩
    · simp [initLoggers, initLogger, openedFor, dir, Bind.bind, Except.bind, Except.isOk, Except.toBool]
    · rcases opened : fs.openAppend (joinPath (dirname path) (basename path)) with e | handler
      · simp [initLoggers, initLogger, openedFor, dir, opened, Bind.bind, Except.bind, Except.isOk, Except.toBool]
      · simp [initLoggers, initLogger, openedFor, dir, opened, Bind.bind, Except.bind, Except.isOk, Except.toBool, ih]

theorem opens_iff (fs : FileSystem φ) (paths : FilePaths) :
    paths.opens fs ↔ paths.given ≠ [] ∧ ∀ entry ∈ paths.given, (openedFor fs entry.2).isOk := by
  simp [FilePaths.opens]

theorem initFile_constructed {fs : FileSystem φ} {paths : FilePaths} (opens : paths.opens fs) (loggers : Loggers φ) :
    (initFile fs paths loggers).1 = .ok paths.sink := by
  obtain ⟨some, all⟩ := (opens_iff fs paths).mp opens
  have made := (initLoggers_made_iff fs paths.given loggers).mpr all
  rcases same : initLoggers fs paths.given loggers with ⟨result, after⟩
  rw [same] at made
  subst made
  rw [initFile, if_neg some, same]

theorem initFile_refused {fs : FileSystem φ} {paths : FilePaths} (refused : ¬paths.opens fs) (loggers : Loggers φ) :
    ∃ e, (initFile fs paths loggers).1 = .error e := by
  rcases same : (initFile fs paths loggers).1 with e | sink
  · exact ⟨e, rfl⟩
  · have made := (initLoggers_made_iff fs paths.given loggers).mp (initFile_opened same).2
    refine absurd ((opens_iff fs paths).mpr ⟨fun none => ?_, made⟩) refused
    rw [initFile, if_pos none] at same
    nomatch same

theorem exitCheck_loggers (paths : FilePaths) (w : FileWorld φ) (check : FileSystem φ × Except PyError Str) :
    (exitCheck paths w check).loggers = (initFile check.1 paths w.loggers).2 := by
  unfold exitCheck
  split <;> rename_i same <;> rw [same]

/-- A check writes when its sink constructs, and then to the loggers that it leaves. -/
theorem exitCheck_emitted (paths : FilePaths) (w : FileWorld φ) (check : FileSystem φ × Except PyError Str) :
    (exitCheck paths w check).emitted = w.emitted ++
      if paths.opens check.1 then (paths.sink.write (exitCheck paths w check).loggers none [check.2]).2 else [] := by
  rw [exitCheck_loggers]
  rcases same : initFile check.1 paths w.loggers with ⟨result, loggers⟩
  unfold exitCheck
  by_cases opens : paths.opens check.1
  · have constructed := initFile_constructed opens w.loggers
    rw [same] at constructed
    subst constructed
    rw [same, if_pos opens]
  · obtain ⟨e, refused⟩ := initFile_refused opens w.loggers
    rw [same] at refused
    subst refused
    rw [same, if_neg opens, List.append_nil]

theorem exitChecks_snoc (paths : FilePaths) (checks : List (FileSystem φ × Except PyError Str))
    (check : FileSystem φ × Except PyError Str) :
    exitChecks paths (checks ++ [check]) = exitCheck paths (exitChecks paths checks) check := by
  rw [exitChecks, List.foldl_append]
  rfl

theorem exitChecks_loggers (paths : FilePaths) (checks : List (FileSystem φ × Except PyError Str)) :
    (exitChecks paths checks).loggers = (runFileOps (checkHistory paths checks)).loggers := by
  induction checks using List.reverseRecOn with
  | nil => rfl
  | append_singleton checks check ih =>
    have history : checkHistory paths (checks ++ [check]) = checkHistory paths checks ++ [.construct check.1 paths] :=
      List.map_append
    rw [exitChecks_snoc, exitCheck_loggers, ih, history, runFileOps_snoc]
    rfl

theorem lookup_generic (paths : FilePaths) : paths.given.lookup .GENERIC = paths.filePath := by
  obtain ⟨_ | _, _ | _, _ | _⟩ := paths <;> rfl

theorem exitCheck_lines (paths : FilePaths) (checks : List (FileSystem φ × Except PyError Str))
    (check : FileSystem φ × Except PyError Str) :
    (exitChecks paths (checks ++ [check])).emitted =
      (exitChecks paths checks).emitted ++ checkLines paths (checks ++ [check]) check := by
  have loggers := exitChecks_loggers paths (checks ++ [check])
  rw [exitChecks_snoc] at loggers ⊢
  rw [exitCheck_emitted, loggers]
  refine congrArg _ ?_
  by_cases opens : paths.opens check.1
  · rw [if_pos opens]
    rcases sink_logger_cases paths none with ⟨path, given, found⟩ | ⟨absent, e, refused⟩
    · have filePath : paths.filePath = some path := (lookup_generic paths).symm.trans given
      rw [write_emitted found, callHandlers_run, checkLines_given filePath, if_pos opens]
    · have filePath : paths.filePath = none := (lookup_generic paths).symm.trans absent
      simp only [write_refused refused, checkLines, filePath]
  · rw [if_neg opens, checkLines]
    split
    · rfl
    · rw [if_neg opens]

/-- The record of a check is handed, line by line, to each of the handlers that
the checks so far have attached to the logger of its path or to a parent of it. -/
theorem exitChecks_lines (paths : FilePaths) (checks : List (FileSystem φ × Except PyError Str)) :
    (exitChecks paths checks).emitted =
      (checks.zipIdx 1).flatMap fun entry => checkLines paths (checks.take entry.2) entry.1 := by
  induction checks using List.reverseRecOn with
  | nil => rfl
  | append_singleton checks check ih =>
    rw [exitCheck_lines, ih, List.zipIdx_append, List.flatMap_append]
    have earlier : ∀ entry ∈ checks.zipIdx 1, (checks ++ [check]).take entry.2 = checks.take entry.2 := by
      intro entry member
      have bound := (List.mem_zipIdx member).2.1
      exact List.take_append_of_le_length (by omega)
    have last : (checks ++ [check]).take (1 + checks.length) = checks ++ [check] :=
      List.take_of_length_le (by rw [List.length_append, List.length_singleton]; omega)
    refine congrArg₂ _ (List.flatMap_congr fun entry member => by rw [earlier entry member]) ?_
    rw [List.zipIdx_singleton, List.flatMap_singleton, last]

/-- The handlers that one sink attaches for a path. -/
theorem FilePaths.Apart.attached {fs : FileSystem φ} {paths : FilePaths} {sink : FileSink}
    {entry : DataIdentifier × Str} {file : φ} (apart : paths.Apart)
    (constructed : (initFile fs paths .fresh).1 = .ok sink) (member : entry ∈ paths.given)
    (opened : openedFor fs entry.2 = .ok file) :
    ((attachedBy fs paths.given).filter fun attached =>
      attached.1 ∈ Loggers.lineage (namedBy fs paths.given) (fileLoggerName entry.2)).map (·.2) = [file] := by
  obtain ⟨handlers, names⟩ := initFile_loggers fs paths .fresh
  have sameNames : ∀ name, name ∈ (initFile fs paths .fresh).2.names ↔ name ∈ namedBy fs paths.given := by
    intro name
    rw [names]
    simp [Loggers.fresh]
  have called := apart.callHandlers constructed member opened
  rw [Loggers.callHandlers, Loggers.lineage_congr sameNames, handlers] at called
  have perm := Loggers.flatMap_handlersOf_perm (Loggers.fresh.handlers ++ attachedBy fs paths.given)
    (Loggers.lineage_nodup (namedBy fs paths.given) (fileLoggerName entry.2))
  rw [called] at perm
  exact List.singleton_perm.mp perm |>.symm

theorem destinations_repeated {fs : FileSystem φ} {paths : FilePaths} {sink : FileSink}
    {entry : DataIdentifier × Str} {file : φ} (constructed : (initFile fs paths .fresh).1 = .ok sink)
    (apart : paths.Apart) (member : entry ∈ paths.given) (opened : openedFor fs entry.2 = .ok file) (n : Nat) :
    destinations (List.replicate (n + 1) (.construct fs paths)) (fileLoggerName entry.2) =
      List.replicate (n + 1) file := by
  have sameNames : ∀ name, name ∈ (List.replicate (n + 1) (FileOp.construct fs paths)).flatMap FileOp.named ↔
      name ∈ namedBy fs paths.given := by
    intro name
    simp [FileOp.named]
  rw [destinations, Loggers.lineage_congr sameNames]
  refine List.perm_replicate.mp ((Loggers.flatMap_handlersOf_perm _ (Loggers.lineage_nodup _ _)).trans ?_)
  refine List.Perm.of_eq ?_
  rw [List.filter_flatMap, List.map_flatMap, List.flatMap_replicate, FileOp.attached,
    apart.attached constructed member opened, List.flatten_replicate_singleton]

/-- Where every check opens the same files, the record of the n-th is written n times. -/
theorem exitChecks_repeated {fs : FileSystem φ} {paths : FilePaths} {path : Str} {file : φ}
    (opens : paths.opens fs) (apart : paths.Apart) (given : paths.filePath = some path)
    (opened : openedFor fs path = .ok file) (records : List Str) :
    (exitChecks paths (records.map fun record => (fs, .ok record))).emitted =
      (records.zipIdx 1).flatMap fun entry => List.replicate entry.2 (file, entry.1) := by
  rw [exitChecks_lines, List.zipIdx_map, List.flatMap_map]
  refine List.flatMap_congr fun entry member => ?_
  have constructed := initFile_constructed opens .fresh
  have isGiven : (DataIdentifier.GENERIC, path) ∈ paths.given :=
    (lookup_given_iff paths _ _).mp ((lookup_generic paths).trans given)
  obtain ⟨atLeast, below, -⟩ := List.mem_zipIdx member
  obtain ⟨n, same⟩ := Nat.exists_eq_add_of_le' atLeast
  have history : checkHistory paths ((records.map fun record => (fs, .ok record)).take entry.2) =
      List.replicate (n + 1) (.construct fs paths) := by
    rw [checkHistory, List.eq_replicate_iff]
    refine ⟨by rw [List.length_map, List.length_take, List.length_map]; omega, fun op isOp => ?_⟩
    obtain ⟨check, isCheck, rfl⟩ := List.mem_map.mp isOp
    obtain ⟨record, -, rfl⟩ := List.mem_map.mp (List.mem_of_mem_take isCheck)
    rfl
  have files := destinations_repeated constructed apart isGiven opened n
  show checkLines paths ((records.map fun record => (fs, .ok record)).take entry.2) (fs, .ok entry.1) = _
  rw [checkLines_given given, if_pos opens, history, files, dumped_line, List.flatMap_singleton,
    List.map_replicate, same]

/-- The record of a check goes to each of the handlers that the checks so far have attached. Where every check opens
the same files, the record of the n-th is therefore written n times. -/
theorem exitChecks_emitted (paths : FilePaths) :
    (∀ checks : List (FileSystem φ × Except PyError Str), (exitChecks paths checks).emitted =
      (checks.zipIdx 1).flatMap fun entry => checkLines paths (checks.take entry.2) entry.1) ∧
    ∀ (fs : FileSystem φ) (path : Str) (file : φ), paths.opens fs → paths.Apart → paths.filePath = some path →
      openedFor fs path = .ok file → ∀ records : List Str,
        (exitChecks paths (records.map fun record => (fs, .ok record))).emitted =
          (records.zipIdx 1).flatMap fun entry => List.replicate entry.2 (file, entry.1) :=
  ⟨exitChecks_lines paths, fun _ _ _ opens apart given opened => exitChecks_repeated opens apart given opened⟩

/-- Three checks that log to one file. -/
theorem exitChecks_emitted_thrice :
    (exitChecks ⟨some "/var/log/checks.log".toList, none, none⟩
      (["ok".toList, "warn".toList, "ok".toList].map fun record => (everyFileOpens, .ok record))).emitted =
      ["ok", "warn", "warn", "ok", "ok", "ok"].map fun record => ("/var/log/checks.log".toList, record.toList) := by
  refine (exitChecks_emitted ⟨some "/var/log/checks.log".toList, none, none⟩).2 everyFileOpens
    "/var/log/checks.log".toList "/var/log/checks.log".toList (by decide) (fun one isOne other isOther _ => ?_) rfl
    (by decide) ["ok".toList, "warn".toList, "ok".toList]
  exact (List.mem_singleton.mp isOther).trans (List.mem_singleton.mp isOne).symm

end GpuTelemetry
