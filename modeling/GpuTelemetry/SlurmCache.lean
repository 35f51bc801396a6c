import GpuTelemetry.Runs
import GpuTelemetry.SlurmCacheFile

namespace GpuTelemetry

/-! ### What a call asks -/

/-- `GetHostname`. -/
def getHostname (osHostname : Except Str Str) : Except Str Str := osHostname.map (·.takeWhile (· ≠ '.'))

/-- The lines of a `bufio.Scanner`. -/
def scannedLines (s : Str) : List Str :=
  let lines := s.splitOn '\n'
  (if lines.getLast? = some [] then lines.dropLast else lines).map fun line =>
    if line.getLast? = some '\r' then line.dropLast else line

/-- One line of the pids: only the first pid of a job is kept. -/
def readPid (pidMappings : List (Str × Str)) (line : Str) : List (Str × Str) :=
  match fields line with
  | pid :: slurmJobID :: _ =>
    if slurmJobID ∈ pidMappings.map Prod.fst then pidMappings else pidMappings ++ [(slurmJobID, pid)]
  | _ => pidMappings

/-- `GetJob2Pid`: the jobs in the order in which their ids are listed. -/
def getJob2Pid (listpids : Except Str Str) : Except Str (List (Str × Str)) :=
  listpids.map fun output => (scannedLines output).tail.foldl readPid []

/-- How a call ends that does not return a map. -/
inductive CallFailure
  | returned (err : Str)
  | unreadable
  | panicked (panic : GoPanic)

/-- What a call of `GetGPU2Slurm` meets that asks slurmctld. -/
structure SlurmCall where
  osHostname : Except Str Str
  slurmdNodename : Str
  listpids : Except Str Str
  getJobMetadata : Str → Except Str (List Str)
  cacheDuration : Int

namespace SlurmCall

/-- The host whose GPUs are attributed, and the ids of its jobs. -/
def jobs (call : SlurmCall) : Except CallFailure (Str × List Str) :=
  match getHostname call.osHostname with
  | .error err => .error (.returned err)
  | .ok hostname =>
    match getJob2Pid call.listpids with
    | .error err => .error (.returned err)
    | .ok pidMappings =>
      .ok (if call.slurmdNodename ≠ [] then call.slurmdNodename else hostname, pidMappings.map Prod.fst)

/-- One job of the loop that asks slurmctld. -/
def attributeJobID (call : SlurmCall) (hostname : Str) (gpu2Slurm : GpuMap) (jobID : Str) : Except CallFailure GpuMap :=
  match call.getJobMetadata jobID with
  | .error err => .error (.returned err)
  | .ok jobMetadata =>
    match attributeGPU2SlurmMetadata jobMetadata hostname gpu2Slurm with
    | .error panic => .error (.panicked panic)
    | .ok gpus => .ok gpus

/-- What a call attributes that asks slurmctld itself. -/
def query (call : SlurmCall) : Except CallFailure GpuMap :=
  match call.jobs with
  | .error failure => .error failure
  | .ok (hostname, jobIDs) => jobIDs.foldlM (call.attributeJobID hostname) fun _ => none

end SlurmCall

/-! ### The cache file -/

structure CacheFile where
  content : Str
  modTime : Int

/-- Where a call is. -/
inductive CacheStage
  | starting
  | checking
  | reading (lookedAt modTime : Int)
  | querying
  | saving (gpu2Slurm : Dict Str SlurmMetadata)
  | writing (gpu2Slurm : Dict Str SlurmMetadata)
  | closing (gpu2Slurm : Dict Str SlurmMetadata)
  /-- With when it looked at the file and the change it saw, where it returns what is in the file. -/
  | ended (look : Option (Int × Int)) (result : Except CallFailure GpuMap)
  | killed

/-- What is returned of the content of the file. -/
def cachedResult (content : Str) : Except CallFailure GpuMap :=
  match unmarshalGpus content with
  | some gpus => .ok (dictGet gpus)
  | none => .error .unreadable

/-- A text that is written from the start of a file over what is there. -/
def overwrite (text old : Str) : Str := text ++ old.drop text.length

/-- A step of a call, at the time that it is. `older` compares an age with a
cache duration. The file is read as it is at one moment, and written whole or
not at all; between that it is truncated and the time that it is written, other
calls can come. -/
inductive CallStep (older : Int → Int → Bool) (call : SlurmCall) (now : Int) :
    CacheStage → Option CacheFile → CacheStage → Option CacheFile → Prop
  | lists {file : Option CacheFile} {jobs : Str × List Str} (listed : call.jobs = .ok jobs) :
      CallStep older call now .starting file .checking file
  | failsToList {file : Option CacheFile} {failure : CallFailure} (failed : call.jobs = .error failure) :
      CallStep older call now .starting file (.ended none (.error failure)) file
  | absent : CallStep older call now .checking none .querying none
  | failsToStat {file : Option CacheFile} {err : Str} :
      CallStep older call now .checking file (.ended none (.error (.returned err))) file
  | stale {file : CacheFile} (old : older (now - file.modTime) call.cacheDuration = true) :
      CallStep older call now .checking (some file) .querying (some file)
  | live {file : CacheFile} (young : older (now - file.modTime) call.cacheDuration = false) :
      CallStep older call now .checking (some file) (.reading now file.modTime) (some file)
  | failsToRead {file : Option CacheFile} {lookedAt modTime : Int} {err : Str} :
      CallStep older call now (.reading lookedAt modTime) file (.ended none (.error (.returned err))) file
  | readsNothing {file : CacheFile} {lookedAt modTime : Int} (empty : file.content = []) :
      CallStep older call now (.reading lookedAt modTime) (some file) .querying (some file)
  | reads {file : CacheFile} {lookedAt modTime : Int} (nonempty : file.content ≠ []) :
      CallStep older call now (.reading lookedAt modTime) (some file)
        (.ended (some (lookedAt, modTime)) (cachedResult file.content)) (some file)
  | failsToQuery {file : Option CacheFile} {failure : CallFailure} (failed : call.query = .error failure) :
      CallStep older call now .querying file (.ended none (.error failure)) file
  | queries {file : Option CacheFile} {gpu2Slurm : Dict Str SlurmMetadata} (answer : call.query = .ok gpu2Slurm.get) :
      CallStep older call now .querying file (.saving gpu2Slurm) file
  | failsToOpen {file : Option CacheFile} {gpu2Slurm : Dict Str SlurmMetadata} {err : Str} :
      CallStep older call now (.saving gpu2Slurm) file (.ended none (.error (.returned err))) file
  | truncates {file : Option CacheFile} {gpu2Slurm : Dict Str SlurmMetadata} :
      CallStep older call now (.saving gpu2Slurm) file (.writing gpu2Slurm) (some ⟨[], now⟩)
  | failsToWrite {file : Option CacheFile} {gpu2Slurm : Dict Str SlurmMetadata} {err : Str} :
      CallStep older call now (.writing gpu2Slurm) file (.ended none (.error (.returned err))) file
  | writes {file : CacheFile} {gpu2Slurm : Dict Str SlurmMetadata} :
      CallStep older call now (.writing gpu2Slurm) (some file) (.closing gpu2Slurm)
        (some ⟨overwrite (marshalGpus gpu2Slurm) file.content, now⟩)
  | failsToClose {file : Option CacheFile} {gpu2Slurm : Dict Str SlurmMetadata} {err : Str} :
      CallStep older call now (.closing gpu2Slurm) file (.ended none (.error (.returned err))) file
  | closes {file : Option CacheFile} {gpu2Slurm : Dict Str SlurmMetadata} :
      CallStep older call now (.closing gpu2Slurm) file (.ended none (.ok gpu2Slurm.get)) file

/-- A map that a call has written to the file. -/
structure CacheSave (ι : Type) where
  caller : ι
  gpu2Slurm : Dict Str SlurmMetadata
  savedAt : Int

/-- The calls of all processes with the file that they share, and what has been written to it. -/
structure CacheWorld (ι : Type) where
  now : Int
  file : Option CacheFile
  stage : ι → CacheStage
  saves : List (CacheSave ι)

def CacheWorld.initial (ι : Type) (now : Int) : CacheWorld ι := ⟨now, none, fun _ => .starting, []⟩

/-- What a call has written that has come so far by a step. -/
def writtenBy {ι : Type} (caller : ι) (now : Int) : CacheStage → List (CacheSave ι)
  | .closing gpu2Slurm => [⟨caller, gpu2Slurm, now⟩]
  | _ => []

def CacheStage.isWriting : CacheStage → Prop
  | .writing _ => True
  | _ => False

variable {ι : Type}

/-- A step of one of the calls, or the passing of time. With `overlap`, a call
can truncate the file while another one is about to write it. -/
inductive CacheStep [DecidableEq ι] (older : Int → Int → Bool) (overlap : Prop) (calls : ι → SlurmCall) :
    CacheWorld ι → CacheWorld ι → Prop
  | waits {s : CacheWorld ι} {now : Int} (later : s.now ≤ now) : CacheStep older overlap calls s { s with now := now }
  | acts {s : CacheWorld ι} {i : ι} {stage : CacheStage} {file : Option CacheFile}
      (step : CallStep older (calls i) s.now (s.stage i) s.file stage file)
      (alone : stage.isWriting → overlap ∨ ∀ j, ¬(s.stage j).isWriting) :
      CacheStep older overlap calls s
        ⟨s.now, file, Function.update s.stage i stage, s.saves ++ writtenBy i s.now stage⟩
  | kills {s : CacheWorld ι} {i : ι} (running : ∀ look result, s.stage i ≠ .ended look result) :
      CacheStep older overlap calls s { s with stage := Function.update s.stage i .killed }

/-! ### One text over another -/

/-- A text is empty or ends so. -/
def EndsIn (last : Char) (s : Str) : Prop := ∀ c ∈ s.getLast?, c = last

theorem EndsIn.drop {last : Char} {s : Str} (ends : EndsIn last s) (n : Nat) : EndsIn last (s.drop n) := by
  intro c member
  rw [List.getLast?_drop] at member
  split at member
  · cases member
  · exact ends c member

theorem EndsIn.append {last : Char} {s t : Str} (first : EndsIn last s) (second : EndsIn last t) :
    EndsIn last (s ++ t) := by
  intro c member
  rw [List.getLast?_append] at member
  cases final : t.getLast? with
  | none => exact first c (by simpa [final] using member)
  | some d => exact second c (by simpa [final] using member)

theorem marshalGpus_endsIn (gpu2Slurm : Dict Str SlurmMetadata) : EndsIn '\x7d' (marshalGpus gpu2Slurm) := by
  intro c member
  rw [marshalGpus, goObject, ← List.cons_append, List.getLast?_append] at member
  simpa using member.symm

/-- A rest that ends in a bracket is not blank. -/
theorem EndsIn.skipSpace_eq_nil_iff {s : Str} (ends : EndsIn '\x7d' s) : skipSpace s = [] ↔ s = [] := by
  constructor
  · intro blank
    by_contra nonempty
    have last := ends (s.getLast nonempty) (List.getLast?_eq_some_getLast nonempty)
    have space := List.dropWhile_eq_nil_iff.mp blank (s.getLast nonempty) (List.getLast_mem nonempty)
    rw [last] at space
    exact absurd space (by decide)
  · rintro rfl
    rfl

/-- A map is read from its whole text, and nothing from one with the rest of another one behind it. -/
theorem cachedResult_marshal (gpu2Slurm : Dict Str SlurmMetadata) {tail : Str} (ends : EndsIn '\x7d' tail) :
    cachedResult (marshalGpus gpu2Slurm ++ tail) = if tail = [] then .ok gpu2Slurm.get else .error .unreadable := by
  have entries : dictGet (sortedEntries gpu2Slurm) = gpu2Slurm.get := funext (dictGet_sortedEntries gpu2Slurm)
  rw [cachedResult, unmarshalGpus_marshal]
  by_cases whole : tail = []
  · rw [if_pos (ends.skipSpace_eq_nil_iff.mpr whole), if_pos whole, ← entries]
  · rw [if_neg (mt ends.skipSpace_eq_nil_iff.mp whole), if_neg whole]

/-! ### The steps -/

variable {older : Int → Int → Bool} {overlap : Prop} {calls : ι → SlurmCall} {call : SlurmCall} {now : Int}

/-- A step leaves the file alone, truncates it, or writes to it. -/
theorem CallStep.file_effect {stage stage' : CacheStage} {file file' : Option CacheFile}
    (step : CallStep older call now stage file stage' file') :
    (file' = file ∧ ¬stage'.isWriting ∧ ∀ gpu2Slurm, stage' ≠ .closing gpu2Slurm) ∨
      (∃ gpu2Slurm, stage' = .writing gpu2Slurm ∧ file' = some ⟨[], now⟩) ∨
      ∃ gpu2Slurm old, stage = .writing gpu2Slurm ∧ stage' = .closing gpu2Slurm ∧ file = some old ∧
        file' = some ⟨overwrite (marshalGpus gpu2Slurm) old.content, now⟩ := by
  cases step with
  | truncates => exact .inr (.inl ⟨_, rfl, rfl⟩)
  | writes => exact .inr (.inr ⟨_, _, rfl, rfl, rfl, rfl⟩)
  | _ => exact .inl ⟨rfl, id, fun _ same => nomatch same⟩

/-! ### The invariant -/

/-- A map was attributed by a call that saved it, no earlier than a change of
the file that was young enough when it was looked at. -/
def SavedSince (older : Int → Int → Bool) (calls : ι → SlurmCall) (saves : List (CacheSave ι)) (call : SlurmCall)
    (look : Int × Int) (gpus : GpuMap) : Prop :=
  older (look.1 - look.2) call.cacheDuration = false ∧
    ∃ save ∈ saves, save.gpu2Slurm.get = gpus ∧ (calls save.caller).query = .ok gpus ∧ look.2 ≤ save.savedAt

/-- What a call knows where it is. -/
def StageSound (older : Int → Int → Bool) (overlap : Prop) (calls : ι → SlurmCall) (saves : List (CacheSave ι))
    (file : Option CacheFile) (call : SlurmCall) : CacheStage → Prop
  | .reading lookedAt modTime => older (lookedAt - modTime) call.cacheDuration = false ∧
      ∃ f, file = some f ∧ modTime ≤ f.modTime
  | .saving gpu2Slurm | .writing gpu2Slurm | .closing gpu2Slurm => call.query = .ok gpu2Slurm.get
  | .ended none (.ok gpus) => call.query = .ok gpus
  | .ended (some look) (.ok gpus) => SavedSince older calls saves call look gpus
  | .ended none (.error .unreadable) => False
  | .ended (some _) (.error .unreadable) => overlap
  | _ => True

/-- The file is empty, or begins with the map that was saved last; what is left
of another one behind it comes from an overlap. -/
def ContentSound (overlap : Prop) (saves : List (CacheSave ι)) (f : CacheFile) : Prop :=
  f.content = [] ∨ ∃ save ∈ saves, save.savedAt = f.modTime ∧ ∃ tail, EndsIn '\x7d' tail ∧
    f.content = marshalGpus save.gpu2Slurm ++ tail ∧ (tail ≠ [] → overlap)

structure CacheInvariant (older : Int → Int → Bool) (overlap : Prop) (calls : ι → SlurmCall) (s : CacheWorld ι) :
    Prop where
  past : ∀ f ∈ s.file, f.modTime ≤ s.now
  genuine : ∀ save ∈ s.saves, (calls save.caller).query = .ok save.gpu2Slurm.get ∧ save.savedAt ≤ s.now
  content : ∀ f ∈ s.file, ContentSound overlap s.saves f
  alone : ¬overlap → ∀ i, (s.stage i).isWriting → (∀ f ∈ s.file, f.content = []) ∧
    ∀ j, (s.stage j).isWriting → j = i
  stages : ∀ i, StageSound older overlap calls s.saves s.file (calls i) (s.stage i)

theorem StageSound.mono {saves saves' : List (CacheSave ι)} {file file' : Option CacheFile} {stage : CacheStage}
    (sound : StageSound older overlap calls saves file call stage) (kept : saves ⊆ saves')
    (grows : ∀ f ∈ file, ∃ f' ∈ file', f.modTime ≤ f'.modTime) :
    StageSound older overlap calls saves' file' call stage := by
  cases stage with
  | reading lookedAt modTime =>
    obtain ⟨young, f, isFile, before⟩ := sound
    obtain ⟨f', isFile', after⟩ := grows f isFile
    exact ⟨young, f', isFile', before.trans after⟩
  | ended look result =>
    cases look with
    | none =>
      cases result with
      | ok gpus => exact sound
      | error failure => cases failure <;> exact sound
    | some look =>
      cases result with
      | ok gpus =>
        obtain ⟨young, save, member, rest⟩ := sound
        exact ⟨young, save, kept member, rest⟩
      | error failure => cases failure <;> exact sound
  | _ => exact sound

/-- What a call returns of the file has been saved there. -/
theorem ContentSound.result {saves : List (CacheSave ι)} {f : CacheFile} {lookedAt modTime : Int}
    (sound : ContentSound overlap saves f) (nonempty : f.content ≠ [])
    (genuine : ∀ save ∈ saves, (calls save.caller).query = .ok save.gpu2Slurm.get)
    (young : older (lookedAt - modTime) call.cacheDuration = false) (before : modTime ≤ f.modTime)
    (file : Option CacheFile) :
    StageSound older overlap calls saves file call (.ended (some (lookedAt, modTime)) (cachedResult f.content)) := by
  obtain ⟨save, member, savedAt, tail, ends, content, overlaps⟩ := sound.resolve_left nonempty
  rw [content, cachedResult_marshal _ ends]
  by_cases whole : tail = []
  · rw [if_pos whole]
    exact ⟨young, save, member, rfl, genuine save member, savedAt ▸ before⟩
  · rw [if_neg whole]
    exact overlaps whole

theorem SlurmCall.jobs_readable (call : SlurmCall) : call.jobs ≠ .error .unreadable := by
  unfold SlurmCall.jobs
  split
  · exact fun same => nomatch same
  · split <;> exact fun same => nomatch same

theorem SlurmCall.query_readable (call : SlurmCall) : call.query ≠ .error .unreadable := by
  have loop : ∀ hostname gpus jobIDs, List.foldlM (call.attributeJobID hostname) gpus jobIDs ≠
      (.error .unreadable : Except CallFailure GpuMap) := by
    intro hostname gpus jobIDs
    induction jobIDs generalizing gpus with
    | nil => exact fun same => nomatch same
    | cons jobID jobIDs ih =>
      rw [List.foldlM_cons]
      cases one : call.attributeJobID hostname gpus jobID with
      | ok gpus => exact ih gpus
      | error failure =>
        rintro ⟨⟩
        unfold SlurmCall.attributeJobID at one
        split at one
        · cases one
        · split at one <;> cases one
  unfold SlurmCall.query
  cases listed : call.jobs with
  | error failure =>
    rintro ⟨⟩
    exact call.jobs_readable listed
  | ok jobs => exact loop _ _ _

theorem stageSound_failed {saves : List (CacheSave ι)} {file : Option CacheFile} {failure : CallFailure}
    (readable : failure ≠ .unreadable) :
    StageSound older overlap calls saves file call (.ended none (.error failure)) := by
  cases failure with
  | unreadable => exact absurd rfl readable
  | _ => trivial

/-- The call that has made a step knows what it needs to. -/
theorem CallStep.stage_sound {saves : List (CacheSave ι)} {i : ι} {stage stage' : CacheStage}
    {file file' : Option CacheFile} (sound : StageSound older overlap calls saves file (calls i) stage)
    (content : ∀ f ∈ file, ContentSound overlap saves f)
    (genuine : ∀ save ∈ saves, (calls save.caller).query = .ok save.gpu2Slurm.get)
    (step : CallStep older (calls i) now stage file stage' file') :
    StageSound older overlap calls saves file' (calls i) stage' := by
  cases step with
  | live young => exact ⟨young, _, rfl, le_rfl⟩
  | reads nonempty =>
    obtain ⟨young, f, isFile, before⟩ := sound
    obtain rfl := Option.some.inj isFile
    exact (content _ rfl).result nonempty genuine young before _
  | failsToList failed => exact stageSound_failed fun same => (calls i).jobs_readable (same ▸ failed)
  | failsToQuery failed => exact stageSound_failed fun same => (calls i).query_readable (same ▸ failed)
  | queries answer => exact answer
  | truncates => exact sound
  | writes => exact sound
  | closes => exact sound
  | _ => trivial

theorem ContentSound.mono {saves saves' : List (CacheSave ι)} {f : CacheFile} (sound : ContentSound overlap saves f)
    (kept : saves ⊆ saves') : ContentSound overlap saves' f :=
  sound.imp_right fun ⟨save, member, rest⟩ => ⟨save, kept member, rest⟩

theorem ContentSound.endsIn {saves : List (CacheSave ι)} {f : CacheFile} (sound : ContentSound overlap saves f) :
    EndsIn '\x7d' f.content := by
  rcases sound with empty | ⟨save, -, -, tail, ends, content, -⟩
  · rw [empty]
    exact fun c member => nomatch member
  · rw [content]
    exact (marshalGpus_endsIn _).append ends

/-- A map that is written over another one. -/
theorem ContentSound.overwrite {saves : List (CacheSave ι)} {f : CacheFile} (sound : ContentSound overlap saves f)
    {save : CacheSave ι} (member : save ∈ saves) (overlaps : f.content ≠ [] → overlap) :
    ContentSound overlap saves ⟨overwrite (marshalGpus save.gpu2Slurm) f.content, save.savedAt⟩ := by
  refine .inr ⟨save, member, rfl, _, sound.endsIn.drop _, rfl, fun rest => overlaps fun empty => rest ?_⟩
  rw [empty, List.drop_nil]

variable [DecidableEq ι]

theorem isWriting_update {stages : ι → CacheStage} {i j : ι} {stage : CacheStage}
    (writes : (Function.update stages i stage j).isWriting) :
    j = i ∧ stage.isWriting ∨ j ≠ i ∧ (stages j).isWriting := by
  by_cases same : j = i
  · subst same
    exact .inl ⟨rfl, by simpa using writes⟩
  · exact .inr ⟨same, by simpa [Function.update_of_ne same] using writes⟩

theorem CacheInvariant.acts {s : CacheWorld ι} {i : ι} {stage : CacheStage} {file : Option CacheFile}
    (inv : CacheInvariant older overlap calls s)
    (step : CallStep older (calls i) s.now (s.stage i) s.file stage file)
    (alone : stage.isWriting → overlap ∨ ∀ j, ¬(s.stage j).isWriting) :
    CacheInvariant older overlap calls
      ⟨s.now, file, Function.update s.stage i stage, s.saves ++ writtenBy i s.now stage⟩ := by
  have kept : s.saves ⊆ s.saves ++ writtenBy i s.now stage := List.subset_append_left _ _
  have here := step.stage_sound (inv.stages i) inv.content fun save member => (inv.genuine save member).1
  have effect := step.file_effect
  have grows : ∀ f ∈ s.file, ∃ f' ∈ file, f.modTime ≤ f'.modTime := by
    intro f isFile
    rcases effect with ⟨rfl, -⟩ | ⟨_, -, rfl⟩ | ⟨_, _, -, -, -, rfl⟩
    · exact ⟨f, isFile, le_rfl⟩
    · exact ⟨_, rfl, inv.past f isFile⟩
    · exact ⟨_, rfl, inv.past f isFile⟩
  refine ⟨?_, ?_, ?_, ?_, ?_⟩
  · intro f isFile
    rcases effect with ⟨rfl, -⟩ | ⟨_, -, rfl⟩ | ⟨_, _, -, -, -, rfl⟩
    · exact inv.past f isFile
    · obtain rfl := Option.some.inj isFile
      exact le_rfl
    · obtain rfl := Option.some.inj isFile
      exact le_rfl
  · intro save member
    rcases List.mem_append.mp member with before | new
    · exact inv.genuine save before
    · cases stage with
      | closing gpu2Slurm =>
        obtain rfl := List.mem_singleton.mp new
        exact ⟨here, le_rfl⟩
      | _ => cases new
  · intro f isFile
    rcases effect with ⟨rfl, -⟩ | ⟨_, -, rfl⟩ | ⟨gpu2Slurm, old, writing, rfl, isOld, rfl⟩
    · exact (inv.content f isFile).mono kept
    · obtain rfl := Option.some.inj isFile
      exact .inl rfl
    · obtain rfl := Option.some.inj isFile
      have member : ⟨i, gpu2Slurm, s.now⟩ ∈ s.saves ++ writtenBy i s.now (.closing gpu2Slurm) :=
        List.mem_append_right _ (List.mem_singleton_self _)
      refine ((inv.content old isOld).mono kept).overwrite member fun nonempty => ?_
      by_contra apart
      exact nonempty ((inv.alone apart i (by rw [writing]; trivial)).1 old isOld)
  · intro apart j writes
    rcases effect with ⟨rfl, quiet, -⟩ | ⟨gpu2Slurm, rfl, rfl⟩ | ⟨_, _, writing, rfl, -, -⟩
    · obtain ⟨-, wrote⟩ := (isWriting_update writes).resolve_left fun both => quiet both.2
      refine ⟨(inv.alone apart j wrote).1, fun k writes => ?_⟩
      obtain ⟨-, wrote'⟩ := (isWriting_update writes).resolve_left fun both => quiet both.2
      exact (inv.alone apart j wrote).2 k wrote'
    · have nobody := (alone trivial).resolve_left apart
      have only : ∀ k, (Function.update s.stage i (.writing gpu2Slurm) k).isWriting → k = i := fun k writes =>
        ((isWriting_update writes).resolve_right fun both => nobody k both.2).1
      refine ⟨fun f isFile => ?_, fun k writes' => (only k writes').trans (only j writes).symm⟩
      obtain rfl := Option.some.inj isFile
      rfl
    · obtain ⟨different, wrote⟩ := (isWriting_update writes).resolve_left fun both => both.2
      exact absurd ((inv.alone apart i (by rw [writing]; trivial)).2 j wrote) different
  · intro j
    by_cases same : j = i
    · subst same
      simpa using here.mono kept fun f isFile => ⟨f, isFile, le_rfl⟩
    · simpa [Function.update_of_ne same] using (inv.stages j).mono kept grows

theorem CacheStep.invariant {s s' : CacheWorld ι} (inv : CacheInvariant older overlap calls s)
    (step : CacheStep older overlap calls s s') : CacheInvariant older overlap calls s' := by
  cases step with
  | waits later =>
    exact ⟨fun f isFile => (inv.past f isFile).trans later,
      fun save member => ⟨(inv.genuine save member).1, (inv.genuine save member).2.trans later⟩,
      inv.content, inv.alone, inv.stages⟩
  | acts step alone => exact inv.acts step alone
  | @kills i running =>
    have before : ∀ j, (Function.update s.stage i .killed j).isWriting → (s.stage j).isWriting := fun j writes =>
      ((isWriting_update writes).resolve_left fun both => both.2).2
    refine ⟨inv.past, inv.genuine, inv.content, fun apart j writes => ?_, fun j => ?_⟩
    · exact ⟨(inv.alone apart j (before j writes)).1,
        fun k writes' => (inv.alone apart j (before j writes)).2 k (before k writes')⟩
    · by_cases same : j = i
      · subst same
        simp [StageSound]
      · simpa [Function.update_of_ne same] using inv.stages j

def CacheReach (older : Int → Int → Bool) (overlap : Prop) (calls : ι → SlurmCall) (start : Int) (s : CacheWorld ι) :
    Prop :=
  Relation.ReflTransGen (CacheStep older overlap calls) (.initial ι start) s

theorem CacheReach.invariant {start : Int} {s : CacheWorld ι} (reach : CacheReach older overlap calls start s) :
    CacheInvariant older overlap calls s := by
  refine run_keeps (P := CacheInvariant older overlap calls) (fun _ _ inv step => CacheStep.invariant inv step) reach ?_
  exact ⟨fun _ isFile => (nomatch isFile), fun _ member => (nomatch member), fun _ isFile => (nomatch isFile),
    fun _ _ writes => writes.elim, fun _ => trivial⟩

/-- In the run the call has looked at the file at that time, and seen it changed last then. -/
def Looked (older : Int → Int → Bool) (overlap : Prop) (calls : ι → SlurmCall) (start : Int) (s : CacheWorld ι) (i : ι)
    (look : Int × Int) : Prop :=
  ∃ s₀ f, CacheReach older overlap calls start s₀ ∧ Relation.ReflTransGen (CacheStep older overlap calls) s₀ s ∧
    s₀.now = look.1 ∧ s₀.stage i = .checking ∧ s₀.file = some f ∧ f.modTime = look.2

/-- The look that a call is still reading after, or has returned by. -/
def CacheStage.look : CacheStage → Option (Int × Int)
  | .reading lookedAt modTime => some (lookedAt, modTime)
  | .ended look _ => look
  | _ => none

/-- What the calls return. -/
structure Attributed (older : Int → Int → Bool) (overlap : Prop) (calls : ι → SlurmCall) (start : Int)
    (s : CacheWorld ι) (i : ι) : Prop where
  /-- A call that did not take what is in the file asked for its map itself. -/
  asked : ∀ gpus, s.stage i = .ended none (.ok gpus) → (calls i).query = .ok gpus
  /-- What a call took from the file was asked for and saved by a call, no
  earlier than the change that it saw as it looked, which was young enough then. -/
  cached : ∀ look gpus, s.stage i = .ended (some look) (.ok gpus) →
    Looked older overlap calls start s i look ∧ SavedSince older calls s.saves (calls i) look gpus
  unreadable : ∀ look, s.stage i = .ended look (.error .unreadable) → overlap
  saved : ∀ save ∈ s.saves, (calls save.caller).query = .ok save.gpu2Slurm.get ∧ save.savedAt ≤ s.now

end GpuTelemetry
