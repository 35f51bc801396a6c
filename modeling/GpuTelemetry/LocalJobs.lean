import GpuTelemetry.LastWrite
import GpuTelemetry.ProcEnviron

namespace GpuTelemetry

/-- What the local reader asks the system: the processes under `/proc`, their
environ files, and the output of `ps -o user`. -/
structure ProcSystem where
  pidExists : Str → Bool
  readEnviron : Str → Except Str Str
  psUser : Str → Except Str Str

def getProcEnvStr (os : ProcSystem) (pid : Str) : Except Str Str :=
  if os.pidExists pid then os.readEnviron pid
  else .error ("getProcEnvStr error: PID ".toList ++ pid ++ " does not exist.\n".toList)

/-- `strings.TrimSpace`. -/
def trimSpace (s : Str) : Str := (s.dropWhile isGoSpace).rdropWhile isGoSpace

def getUser (os : ProcSystem) (pid : Str) : Str × Option Str :=
  match os.psUser pid with
  | .error err => ([], some err)
  | .ok output => (trimSpace output, none)

/-- `strings.Trim`. -/
def trimCutset (cutset s : Str) : Str := (s.dropWhile cutset.contains).rdropWhile cutset.contains

/-- The parts of a GPU list. -/
def splitGpus (gpusStr : Str) : List Str := (trimCutset ", ".toList gpusStr).splitOn ','

def getGPUsFromEnv (env : Str) : List Str :=
  match parseVarFromProcEnvStr env "SLURM_JOB_GPUS".toList with
  | .ok gpusStr => splitGpus gpusStr
  | .error _ => []

/-- The metadata of a local job: its id and its user, the other fields empty. -/
def localMetadata (slurmJobID user : Str) : SlurmMetadata where
  JobID := slurmJobID
  JobName := []
  QOS := []
  User := user
  Partition := []
  Account := []
  NumNodes := []
  ArrayJobID := []
  ArrayTaskID := []

/-- The loop over the jobs in the order of the map's iteration: the map that is
returned, and the error. -/
def gpu2SlurmLoop (os : ProcSystem) (gpu2Slurm : GpuMap) : List (Str × Str) → GpuMap × Option Str
  | [] => (gpu2Slurm, none)
  | (slurmJobID, pid) :: jobs =>
    match getProcEnvStr os pid with
    | .error err => (gpu2Slurm, some err)
    | .ok env =>
      match getGPUsFromEnv env with
      -- the error returned with the map is the one of the environment, which was read
      | [] => (gpu2Slurm, none)
      | gpus =>
        let slurm := localMetadata slurmJobID (getUser os pid).1
        gpu2SlurmLoop os (gpus.foldl (fun m gpu => Function.update m gpu (some slurm)) gpu2Slurm) jobs

def getGPU2SlurmFromPIDs (os : ProcSystem) (jobs : List (Str × Str)) : GpuMap × Option Str :=
  gpu2SlurmLoop os (fun _ => none) jobs

/-! ### Jobs and their environments -/

/-- A map from the ids of jobs to pids. -/
structure JobPids where
  entries : List (Str × Str)
  distinct : (entries.map Prod.fst).Nodup

/-- A system in which every environ file can be read. -/
def readableSystem (environ : Str → Environ) (psUser : Str → Except Str Str) : ProcSystem where
  pidExists _ := true
  readEnviron pid := .ok (environ pid).text
  psUser := psUser

def Environ.gpus (env : Environ) : Option Str := env.get "SLURM_JOB_GPUS".toList

/-- The text is one of the parts of the environment's GPU list. -/
def Environ.Lists (env : Environ) (gpu : Str) : Prop := ∃ value, env.gpus = some value ∧ gpu ∈ splitGpus value

/-- No GPU is listed by two jobs. -/
def DistinctGpus (environ : Str → Environ) (jobs : JobPids) : Prop :=
  ∀ job ∈ jobs.entries, ∀ job' ∈ jobs.entries, ∀ gpu, gpu ≠ [] →
    (environ job.2).Lists gpu → (environ job'.2).Lists gpu → job = job'

/-- In every order of the jobs the map is the same and has every GPU a job lists. -/
def CompleteInEveryOrder (environ : Str → Environ) (psUser : Str → Except Str Str) (jobs : JobPids) : Prop :=
  (∀ order order', order.Perm jobs.entries → order'.Perm jobs.entries →
    (getGPU2SlurmFromPIDs (readableSystem environ psUser) order).1 =
      (getGPU2SlurmFromPIDs (readableSystem environ psUser) order').1) ∧
  ∀ order, order.Perm jobs.entries → ∀ job ∈ jobs.entries, ∀ gpu, gpu ≠ [] → (environ job.2).Lists gpu →
    ∃ slurm, (getGPU2SlurmFromPIDs (readableSystem environ psUser) order).1 gpu = some slurm

/-- The job's environment has the variable, and its value has no `=`. -/
def Environ.GpusRead (env : Environ) : Prop := ∃ value, env.gpus = some value ∧ '=' ∉ value

/-! ### One environment -/

theorem getGPUsFromEnv_text (env : Environ) : getGPUsFromEnv env.text =
    ((dictGet env.plainPairs "SLURM_JOB_GPUS".toList).map splitGpus).getD [] := by
  rw [getGPUsFromEnv, ← parseVarFromProcEnvStr_text]
  cases parseVarFromProcEnvStr env.text "SLURM_JOB_GPUS".toList <;> rfl

theorem splitGpus_ne_nil (gpusStr : Str) : splitGpus gpusStr ≠ [] := List.splitOn_ne_nil _ _

theorem getGPUsFromEnv_found {env : Environ} {value : Str} (found : env.gpus = some value) (plain : '=' ∉ value) :
    getGPUsFromEnv env.text = splitGpus value := by
  rw [getGPUsFromEnv_text, (env.plainPairs_get_iff _ _).mpr ⟨found, plain⟩]
  rfl

theorem Environ.lists_iff {env : Environ} {value gpu : Str} (found : env.gpus = some value) :
    env.Lists gpu ↔ gpu ∈ splitGpus value := by
  refine ⟨?_, fun member => ⟨value, found, member⟩⟩
  rintro ⟨other, found', member⟩
  rw [found] at found'
  rwa [Option.some.inj found']

theorem mem_getGPUsFromEnv_iff {env : Environ} (read : env.GpusRead) (gpu : Str) :
    gpu ∈ getGPUsFromEnv env.text ↔ env.Lists gpu := by
  obtain ⟨value, found, plain⟩ := read
  rw [getGPUsFromEnv_found found plain, Environ.lists_iff found]

theorem getGPUsFromEnv_read {env : Environ} (read : env.GpusRead) : getGPUsFromEnv env.text ≠ [] := by
  obtain ⟨value, found, plain⟩ := read
  rw [getGPUsFromEnv_found found plain]
  exact splitGpus_ne_nil value

theorem getGPUsFromEnv_unread {env : Environ} (unread : ¬env.GpusRead) : getGPUsFromEnv env.text = [] := by
  rw [getGPUsFromEnv_text]
  cases found : dictGet env.plainPairs "SLURM_JOB_GPUS".toList with
  | none => rfl
  | some value => exact absurd ⟨value, (env.plainPairs_get_iff _ _).mp found⟩ unread

theorem mem_dropWhile {p : Char → Bool} {s : Str} {c : Char} (member : c ∈ s) (stays : p c = false) :
    c ∈ s.dropWhile p := by
  rw [← List.takeWhile_append_dropWhile (p := p) (l := s), List.mem_append] at member
  rcases member with inRun | inRest
  · have drops := List.mem_takeWhile_imp inRun
    rw [stays] at drops
    exact absurd drops (by decide)
  · exact inRest

theorem mem_trimCutset {cutset s : Str} {c : Char} (member : c ∈ s) (stays : c ∉ cutset) :
    c ∈ trimCutset cutset s := by
  have keeps : cutset.contains c = false := by simpa using stays
  have front := mem_dropWhile member keeps
  rw [trimCutset, List.rdropWhile, List.mem_reverse]
  exact mem_dropWhile (List.mem_reverse.mpr front) keeps

/-- A value with an `=` lists a GPU that is not read. -/
theorem splitGpus_equals {value : Str} (member : '=' ∈ value) : ∃ gpu ∈ splitGpus value, gpu ≠ [] := by
  have trimmed : '=' ∈ trimCutset ", ".toList value := mem_trimCutset member (by decide)
  have joined : [','].intercalate (splitGpus value) = trimCutset ", ".toList value := List.intercalate_splitOn ','
  rw [← joined] at trimmed
  rcases mem_intercalate trimmed with isComma | ⟨gpu, inParts, inGpu⟩
  · exact absurd isComma (by decide)
  · exact ⟨gpu, inParts, List.ne_nil_of_mem inGpu⟩

/-! ### The loop -/

variable {environ : Str → Environ} {psUser : Str → Except Str Str}

/-- What a job writes into the map. -/
def jobWrite (environ : Str → Environ) (psUser : Str → Except Str Str) (job : Str × Str) : List Str × SlurmMetadata :=
  (getGPUsFromEnv (environ job.2).text, localMetadata job.1 (getUser (readableSystem environ psUser) job.2).1)

theorem gpu2SlurmLoop_read {job : Str × Str} (read : (environ job.2).GpusRead) (gpu2Slurm : GpuMap)
    (jobs : List (Str × Str)) : gpu2SlurmLoop (readableSystem environ psUser) gpu2Slurm (job :: jobs) =
      gpu2SlurmLoop (readableSystem environ psUser)
        (writeKeys gpu2Slurm (jobWrite environ psUser job).1 (jobWrite environ psUser job).2) jobs := by
  have env : getProcEnvStr (readableSystem environ psUser) job.2 = .ok (environ job.2).text := rfl
  rw [gpu2SlurmLoop, env, jobWrite]
  cases gpus : getGPUsFromEnv (environ job.2).text with
  | nil => exact absurd gpus (getGPUsFromEnv_read read)
  | cons gpu gpus => simp only [gpus]; rfl

/-- A job whose list is not read ends the loop. -/
theorem gpu2SlurmLoop_unread {job : Str × Str} (unread : ¬(environ job.2).GpusRead) (gpu2Slurm : GpuMap)
    (jobs : List (Str × Str)) :
    gpu2SlurmLoop (readableSystem environ psUser) gpu2Slurm (job :: jobs) = (gpu2Slurm, none) := by
  have env : getProcEnvStr (readableSystem environ psUser) job.2 = .ok (environ job.2).text := rfl
  rw [gpu2SlurmLoop, env]
  simp only [getGPUsFromEnv_unread unread]

theorem gpu2SlurmLoop_allRead {jobs : List (Str × Str)} (read : ∀ job ∈ jobs, (environ job.2).GpusRead)
    (gpu2Slurm : GpuMap) : gpu2SlurmLoop (readableSystem environ psUser) gpu2Slurm jobs =
      (writeAll gpu2Slurm (jobs.map (jobWrite environ psUser)), none) := by
  induction jobs generalizing gpu2Slurm with
  | nil => rfl
  | cons job jobs ih =>
    rw [gpu2SlurmLoop_read (read job (by simp)), ih fun later member => read later (by simp [member])]
    rfl

/-- The loop takes no GPU out of the map. -/
theorem gpu2SlurmLoop_keeps (jobs : List (Str × Str)) {gpu2Slurm : GpuMap} {gpu : Str}
    (present : gpu2Slurm gpu ≠ none) :
    (gpu2SlurmLoop (readableSystem environ psUser) gpu2Slurm jobs).1 gpu ≠ none := by
  induction jobs generalizing gpu2Slurm with
  | nil => exact present
  | cons job jobs ih =>
    by_cases read : (environ job.2).GpusRead
    · rw [gpu2SlurmLoop_read read]
      refine ih ?_
      rw [writeKeys_apply]
      split
      · simp
      · exact present
    · rw [gpu2SlurmLoop_unread read]
      exact present

/-! ### All orders -/

/-- Every job has the variable and it is read, and at most one value lists an empty part. -/
def AllRead (environ : Str → Environ) (jobs : JobPids) : Prop :=
  (∀ job ∈ jobs.entries, (environ job.2).GpusRead) ∧
    ∀ job ∈ jobs.entries, ∀ job' ∈ jobs.entries, (environ job.2).Lists [] → (environ job'.2).Lists [] → job = job'

/-- A job can come first. -/
theorem exists_order_first {jobs : List (Str × Str)} {job : Str × Str} (member : job ∈ jobs) :
    ∃ rest, (job :: rest).Perm jobs := ⟨jobs.erase job, (List.perm_cons_erase member).symm⟩

theorem complete_of_none {jobs : JobPids} (undefined : ∀ job ∈ jobs.entries, (environ job.2).gpus = none) :
    CompleteInEveryOrder environ psUser jobs := by
  have empty : ∀ order : List (Str × Str), order.Perm jobs.entries →
      (getGPU2SlurmFromPIDs (readableSystem environ psUser) order).1 = fun _ => none := by
    intro order perm
    cases order with
    | nil => rfl
    | cons job order =>
      have unread : ¬(environ job.2).GpusRead := by
        rintro ⟨value, found, -⟩
        simp [undefined job (perm.subset (by simp))] at found
      rw [getGPU2SlurmFromPIDs, gpu2SlurmLoop_unread unread]
  refine ⟨fun order order' perm perm' => (empty order perm).trans (empty order' perm').symm, ?_⟩
  rintro order - job member gpu - ⟨value, found, -⟩
  simp [undefined job member] at found

theorem order_writes {jobs : JobPids} (read : ∀ job ∈ jobs.entries, (environ job.2).GpusRead)
    {order : List (Str × Str)} (perm : order.Perm jobs.entries) :
    (getGPU2SlurmFromPIDs (readableSystem environ psUser) order).1 =
      writeAll (fun _ => none) (order.map (jobWrite environ psUser)) := by
  rw [getGPU2SlurmFromPIDs, gpu2SlurmLoop_allRead fun job member => read job (perm.subset member)]

theorem AllRead.owner {jobs : JobPids} (all : AllRead environ jobs) (distinct : DistinctGpus environ jobs)
    {job job' : Str × Str} (member : job ∈ jobs.entries) (member' : job' ∈ jobs.entries) {gpu : Str}
    (lists : (environ job.2).Lists gpu) (lists' : (environ job'.2).Lists gpu) : job = job' := by
  by_cases empty : gpu = []
  · exact all.2 job member job' member' (empty ▸ lists) (empty ▸ lists')
  · exact distinct job member job' member' gpu empty lists lists'

/-- In every order, a listed GPU belongs to the job that lists it. -/
theorem AllRead.listed {jobs : JobPids} (all : AllRead environ jobs) (distinct : DistinctGpus environ jobs)
    {order : List (Str × Str)} (perm : order.Perm jobs.entries) {job : Str × Str} (member : job ∈ jobs.entries)
    {gpu : Str} (lists : (environ job.2).Lists gpu) :
    (getGPU2SlurmFromPIDs (readableSystem environ psUser) order).1 gpu = some (jobWrite environ psUser job).2 := by
  rw [order_writes all.1 perm]
  refine writeAll_only (List.mem_map_of_mem (perm.symm.subset member))
    ((mem_getGPUsFromEnv_iff (all.1 job member) gpu).mpr lists) (fun other inWrites writesKey => ?_) _
  obtain ⟨job', inOrder, rfl⟩ := List.mem_map.mp inWrites
  have member' := perm.subset inOrder
  have lists' := (mem_getGPUsFromEnv_iff (all.1 job' member') gpu).mp writesKey
  rw [all.owner distinct member' member lists' lists]

theorem AllRead.unlisted {jobs : JobPids} (all : AllRead environ jobs) {order : List (Str × Str)}
    (perm : order.Perm jobs.entries) {gpu : Str} (none : ¬∃ job ∈ jobs.entries, (environ job.2).Lists gpu) :
    (getGPU2SlurmFromPIDs (readableSystem environ psUser) order).1 gpu = .none := by
  rw [order_writes all.1 perm]
  refine writeAll_quiet (fun write inWrites writesKey => none ?_) _
  obtain ⟨job, inOrder, rfl⟩ := List.mem_map.mp inWrites
  have member := perm.subset inOrder
  exact ⟨job, member, (mem_getGPUsFromEnv_iff (all.1 job member) gpu).mp writesKey⟩

theorem complete_of_allRead {jobs : JobPids} (distinct : DistinctGpus environ jobs) (all : AllRead environ jobs) :
    CompleteInEveryOrder environ psUser jobs := by
  refine ⟨fun order order' perm perm' => ?_, fun order perm job member gpu _ lists => ?_⟩
  · funext gpu
    by_cases listed : ∃ job ∈ jobs.entries, (environ job.2).Lists gpu
    · obtain ⟨job, member, lists⟩ := listed
      rw [all.listed distinct perm member lists, all.listed distinct perm' member lists]
    · rw [all.unlisted perm listed, all.unlisted perm' listed]
  · exact ⟨_, all.listed distinct perm member lists⟩

theorem exists_order_last {jobs : List (Str × Str)} {job : Str × Str} (member : job ∈ jobs) :
    ∃ front, (front ++ [job]).Perm jobs := by
  obtain ⟨rest, perm⟩ := exists_order_first member
  exact ⟨rest, (List.perm_append_singleton job rest).trans perm⟩

/-- A job that comes last has the last word on what it lists. -/
theorem last_order {front : List (Str × Str)} {job : Str × Str} {gpu : Str}
    (read : ∀ other ∈ front ++ [job], (environ other.2).GpusRead) (lists : (environ job.2).Lists gpu) :
    (getGPU2SlurmFromPIDs (readableSystem environ psUser) (front ++ [job])).1 gpu =
      some (jobWrite environ psUser job).2 := by
  have listed := (mem_getGPUsFromEnv_iff (read job (by simp)) gpu).mpr lists
  rw [getGPU2SlurmFromPIDs, gpu2SlurmLoop_allRead read, List.map_append]
  exact writeAll_last (v := (jobWrite environ psUser job).2) listed (by simp) _

/-- A job whose list is not read, put first, hides every GPU. -/
theorem read_of_complete {jobs : JobPids} (complete : CompleteInEveryOrder environ psUser jobs)
    (defined : ∃ job ∈ jobs.entries, (environ job.2).gpus ≠ none) {job : Str × Str} (member : job ∈ jobs.entries) :
    (environ job.2).GpusRead := by
  obtain ⟨same, listed⟩ := complete
  by_contra unread
  obtain ⟨rest, first⟩ := exists_order_first member
  have empty : (getGPU2SlurmFromPIDs (readableSystem environ psUser) (job :: rest)).1 = fun _ => none := by
    rw [getGPU2SlurmFromPIDs, gpu2SlurmLoop_unread unread]
  obtain ⟨other, member', hasGpus⟩ := defined
  obtain ⟨value, found⟩ := Option.ne_none_iff_exists'.mp hasGpus
  by_cases plain : '=' ∈ value
  · obtain ⟨gpu, inParts, nonempty⟩ := splitGpus_equals plain
    obtain ⟨slurm, present⟩ := listed _ first other member' gpu nonempty ⟨value, found, inParts⟩
    simp [empty] at present
  · obtain ⟨gpu, inParts⟩ := List.exists_mem_of_ne_nil _ (splitGpus_ne_nil value)
    have otherRead : (environ other.2).GpusRead := ⟨value, found, plain⟩
    have written : gpu ∈ (jobWrite environ psUser other).1 :=
      (mem_getGPUsFromEnv_iff otherRead gpu).mpr ⟨value, found, inParts⟩
    obtain ⟨rest', first'⟩ := exists_order_first member'
    have kept : (getGPU2SlurmFromPIDs (readableSystem environ psUser) (other :: rest')).1 gpu ≠ none := by
      rw [getGPU2SlurmFromPIDs, gpu2SlurmLoop_read otherRead]
      refine gpu2SlurmLoop_keeps rest' ?_
      rw [writeKeys_apply, if_pos written]
      simp
    rw [same _ _ first' first, empty] at kept
    exact kept rfl

theorem allRead_of_complete {jobs : JobPids} (complete : CompleteInEveryOrder environ psUser jobs)
    (defined : ∃ job ∈ jobs.entries, (environ job.2).gpus ≠ none) : AllRead environ jobs := by
  have read : ∀ job ∈ jobs.entries, (environ job.2).GpusRead := fun job => read_of_complete complete defined
  refine ⟨read, fun job member job' member' blank blank' => ?_⟩
  obtain ⟨front, last⟩ := exists_order_last member
  obtain ⟨front', last'⟩ := exists_order_last member'
  have ends : (getGPU2SlurmFromPIDs (readableSystem environ psUser) (front ++ [job])).1 [] =
      some (jobWrite environ psUser job).2 := last_order (fun other inOrder => read other (last.subset inOrder)) blank
  have ends' : (getGPU2SlurmFromPIDs (readableSystem environ psUser) (front' ++ [job'])).1 [] =
      some (jobWrite environ psUser job').2 :=
    last_order (fun other inOrder => read other (last'.subset inOrder)) blank'
  rw [complete.1 _ _ last last', ends'] at ends
  have ids : job'.1 = job.1 := congrArg SlurmMetadata.JobID (Option.some.inj ends)
  exact List.inj_on_of_nodup_map jobs.distinct member member' ids.symm

/-- The map does not depend on the order and has every listed GPU exactly when
no job has the variable, or every list is read and at most one has an empty part. -/
theorem getGPU2SlurmFromPIDs_complete_iff (environ : Str → Environ) (psUser : Str → Except Str Str) (jobs : JobPids)
    (distinct : DistinctGpus environ jobs) : CompleteInEveryOrder environ psUser jobs ↔
      (∀ job ∈ jobs.entries, (environ job.2).gpus = none) ∨ AllRead environ jobs := by
  constructor
  · intro complete
    by_cases undefined : ∀ job ∈ jobs.entries, (environ job.2).gpus = none
    · exact .inl undefined
    · simp only [not_forall] at undefined
      obtain ⟨job, member, hasGpus⟩ := undefined
      exact .inr (allRead_of_complete complete ⟨job, member, hasGpus⟩)
  · rintro (undefined | all)
    · exact complete_of_none undefined
    · exact complete_of_allRead distinct all

/-- The environment of a job with these GPUs. -/
def gpuEnviron (gpus : Str) (plain : nul ∉ gpus) (bytes : ∀ c ∈ gpus, c.toNat < 256) : Environ where
  entries := [⟨"SLURM_JOB_GPUS".toList, gpus, by decide, plain, by decide, bytes⟩]
  distinct := List.nodup_singleton _

/-- Two jobs. -/
def twoJobs : JobPids where
  entries := [("7".toList, "100".toList), ("8".toList, "200".toList)]
  distinct := by decide

/-- The first job holds two GPUs, the second another. -/
def gpuEnvirons (pid : Str) : Environ :=
  if pid = "100".toList then gpuEnviron "0,1".toList (by decide) (by decide)
  else gpuEnviron "2".toList (by decide) (by decide)

theorem getGPU2SlurmFromPIDs_complete_two : DistinctGpus gpuEnvirons twoJobs ∧
    CompleteInEveryOrder gpuEnvirons (fun _ => .ok "alice\n".toList) twoJobs := by
  have first : (gpuEnvirons "100".toList).gpus = some "0,1".toList := by decide
  have second : (gpuEnvirons "200".toList).gpus = some "2".toList := by decide
  have apart : ∀ gpu, (gpuEnvirons "100".toList).Lists gpu → ¬ (gpuEnvirons "200".toList).Lists gpu := by
    intro gpu
    rw [Environ.lists_iff first, Environ.lists_iff second]
    intro inFirst inSecond
    have parts : ∀ gpu ∈ splitGpus "0,1".toList, gpu ∉ splitGpus "2".toList := by decide
    exact parts gpu inFirst inSecond
  have jobs : ∀ job ∈ twoJobs.entries, job = ("7".toList, "100".toList) ∨ job = ("8".toList, "200".toList) := by
    intro job member
    simpa [twoJobs] using member
  have distinct : DistinctGpus gpuEnvirons twoJobs := by
    intro job member job' member' gpu _ lists lists'
    rcases jobs job member with rfl | rfl <;> rcases jobs job' member' with rfl | rfl
    · rfl
    · exact absurd lists' (apart gpu lists)
    · exact absurd lists (apart gpu lists')
    · rfl
  refine ⟨distinct, (getGPU2SlurmFromPIDs_complete_iff gpuEnvirons _ twoJobs distinct).mpr (.inr ⟨?_, ?_⟩)⟩
  · intro job member
    rcases jobs job member with rfl | rfl
    · exact ⟨"0,1".toList, first, by decide⟩
    · exact ⟨"2".toList, second, by decide⟩
  · have noBlank : ∀ job ∈ twoJobs.entries, ¬ (gpuEnvirons job.2).Lists [] := by
      intro job member
      rcases jobs job member with rfl | rfl
      · rw [Environ.lists_iff first]
        decide
      · rw [Environ.lists_iff second]
        decide
    intro job member job' _ blank _
    exact absurd blank (noBlank job member)

/-- The first job holds two GPUs, the second none. -/
def twoEnvirons (pid : Str) : Environ :=
  if pid = "100".toList then gpuEnviron "0,1".toList (by decide) (by decide) else ⟨[], by decide⟩

/-- The job without GPUs, when it comes first, hides those of the other. -/
theorem getGPU2SlurmFromPIDs_stops : DistinctGpus twoEnvirons twoJobs ∧
    ¬CompleteInEveryOrder twoEnvirons (fun _ => .ok "alice\n".toList) twoJobs := by
  constructor
  · have holder : ∀ job ∈ twoJobs.entries, ∀ gpu, (twoEnvirons job.2).Lists gpu → job = ("7".toList, "100".toList) := by
      rintro job member gpu ⟨value, found, -⟩
      rcases List.mem_cons.mp member with rfl | later
      · rfl
      · have undefined : (twoEnvirons job.2).gpus = none := by
          rw [List.mem_singleton.mp later]
          decide
        simp [undefined] at found
    exact fun job member job' member' gpu _ lists lists' =>
      (holder job member gpu lists).trans (holder job' member' gpu lists').symm
  · rintro ⟨same, -⟩
    have orders := congrFun (same [("7".toList, "100".toList), ("8".toList, "200".toList)]
      [("8".toList, "200".toList), ("7".toList, "100".toList)] (List.Perm.refl _) (List.Perm.swap _ _ _)) "0".toList
    revert orders
    decide

end GpuTelemetry
