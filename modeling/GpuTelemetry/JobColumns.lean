import GpuTelemetry.FallibleFolds
import GpuTelemetry.GpuAttribution

namespace GpuTelemetry

/-! ### The columns of a job -/

/-- The sets `AttributeGPU2SlurmMetadata` collects, one for each field of the metadata. -/
inductive Column
  | user
  | jobID
  | qos
  | jobName
  | arrayJobID
  | arrayTaskID
  | account
  | partition
  | numNodes
  deriving DecidableEq

def Column.name : Column → String
  | .user => "UserId"
  | .jobID => "JobId"
  | .qos => "QOS"
  | .jobName => "JobName"
  | .arrayJobID => "ArrayJobId"
  | .arrayTaskID => "ArrayTaskId"
  | .account => "Account"
  | .partition => "Partition"
  | .numNodes => "NumNodes"

/-- The key of the words a column is read from. -/
def Column.key (c : Column) : Str := c.name.toList

def Column.set : Column → JobFields → List Str
  | .user, job => job.allUsers
  | .jobID, job => job.allJobID
  | .qos, job => job.allQOS
  | .jobName, job => job.allJobName
  | .arrayJobID, job => job.allArrayJobID
  | .arrayTaskID, job => job.allArrayTaskID
  | .account, job => job.allAccount
  | .partition, job => job.allPartition
  | .numNodes, job => job.allNumNodes

def Column.update (job : JobFields) (set : List Str) : Column → JobFields
  | .user => { job with allUsers := set }
  | .jobID => { job with allJobID := set }
  | .qos => { job with allQOS := set }
  | .jobName => { job with allJobName := set }
  | .arrayJobID => { job with allArrayJobID := set }
  | .arrayTaskID => { job with allArrayTaskID := set }
  | .account => { job with allAccount := set }
  | .partition => { job with allPartition := set }
  | .numNodes => { job with allNumNodes := set }

def Column.field : Column → SlurmMetadata → Str
  | .user, slurm => slurm.User
  | .jobID, slurm => slurm.JobID
  | .qos, slurm => slurm.QOS
  | .jobName, slurm => slurm.JobName
  | .arrayJobID, slurm => slurm.ArrayJobID
  | .arrayTaskID, slurm => slurm.ArrayTaskID
  | .account, slurm => slurm.Account
  | .partition, slurm => slurm.Partition
  | .numNodes, slurm => slurm.NumNodes

@[simp] theorem Column.set_update (job : JobFields) (set : List Str) (c other : Column) :
    other.set (c.update job set) = if other = c then set else other.set job := by
  cases c <;> cases other <;> rfl

@[simp] theorem Column.gresIndex_update (job : JobFields) (set : List Str) (c : Column) :
    (c.update job set).gresIndex = job.gresIndex := by
  cases c <;> rfl

theorem Column.field_metadata (job : JobFields) (c : Column) : c.field job.metadata = stringifySet (c.set job) := by
  cases c <;> rfl

theorem Column.set_empty (c : Column) : c.set JobFields.empty = [] := by
  cases c <;> rfl

theorem Column.key_injective {c other : Column} (same : c.key = other.key) : c = other := by
  revert same
  cases c <;> cases other <;> decide

theorem Column.key_ne_gres (c : Column) : c.key ≠ "GRES".toList := by
  cases c <;> decide

theorem Column.key_no_equals (c : Column) : '=' ∉ c.key := by
  cases c <;> decide

/-- What the value of a word adds to the column. -/
def Column.values (part : Str) : Column → List Str
  | .user => [part.takeWhile (· ≠ '(')]
  | .arrayTaskID => if (atoi part).isNone then [] else [part]
  | _ => [part]

/-- Putting values into a set, one after the other. -/
def insertAll (set values : List Str) : List Str := values.foldl (fun s v => s.insert v) set

/-! ### Reading one word -/

/-- The keys whose value `AttributeGPU2SlurmMetadata` takes. -/
def readKeys : List Str := "JobId".toList :: "GRES".toList :: attributeKeys

theorem mem_readKeys_iff {key : Str} : key ∈ readKeys ↔ key = "GRES".toList ∨ ∃ c : Column, key = c.key := by
  simp only [readKeys, attributeKeys, List.map_cons, List.map_nil, List.mem_cons, List.not_mem_nil, or_false]
  constructor
  · rintro (isJob | isGres | isUser | isQos | isName | isArray | isTask | isAccount | isPartition | isNodes)
    exacts [.inr ⟨.jobID, isJob⟩, .inl isGres, .inr ⟨.user, isUser⟩, .inr ⟨.qos, isQos⟩, .inr ⟨.jobName, isName⟩,
      .inr ⟨.arrayJobID, isArray⟩, .inr ⟨.arrayTaskID, isTask⟩, .inr ⟨.account, isAccount⟩,
      .inr ⟨.partition, isPartition⟩, .inr ⟨.numNodes, isNodes⟩]
  · rintro (isGres | ⟨c, isColumn⟩)
    · simp only [isGres, true_or, or_true]
    · cases c <;> simp only [isColumn, Column.key, Column.name, true_or, or_true]

theorem readField_column {w : Str} {c : Column} (key : (splitFirst '=' w).1 = c.key) (job : JobFields) :
    readField job w = (secondPart (splitFirst '=' w).2).bind fun part =>
      if c = .user ∧ '(' ∉ part then .error .sliceOutOfRange
      else .ok (c.update job (insertAll (c.set job) (c.values part))) := by
  unfold readField
  simp only [key]
  cases (splitFirst '=' w).2 with
  | none => cases c <;> simp [Column.key, Column.name, secondPart, Except.bind, Except.map]
  | some part =>
    cases c with
    | user => by_cases opened : '(' ∈ part <;>
        simp [Column.key, Column.name, secondPart, Except.bind, opened, Column.update, insertAll, Column.values,
          Column.set]
    | arrayTaskID => cases number : atoi part <;>
        simp [Column.key, Column.name, secondPart, Except.bind, Except.map, number, Column.update, insertAll,
          Column.values, Column.set]
    | _ =>
      simp [Column.key, Column.name, secondPart, Except.bind, Except.map, Column.update, insertAll, Column.values,
        Column.set]

theorem readField_gres {w : Str} (key : (splitFirst '=' w).1 = "GRES".toList) (job : JobFields) :
    readField job w = (secondPart (splitFirst '=' w).2).bind fun part =>
      (parseGRES part).map fun indices => { job with gresIndex := job.gresIndex ++ indices } := by
  simp [readField, key]

/-- What a word adds to the column. -/
def Column.adds (c : Column) (w : Str) : List Str :=
  if (splitFirst '=' w).1 = c.key then ((splitFirst '=' w).2.map c.values).getD [] else []

/-- The GPU indices a word adds. -/
def gresAdds (w : Str) : List Str :=
  if (splitFirst '=' w).1 = "GRES".toList then
    match (splitFirst '=' w).2.map parseGRES with
    | some (.ok indices) => indices
    | _ => []
  else []

theorem secondPart_returned {part : Option Str} {value : Str} (run : secondPart part = .ok value) :
    part = some value := by
  cases part with
  | none => simp [secondPart] at run
  | some part => rw [Except.ok.inj run]

/-- The job has become the other by what the word adds. -/
def Grows (job : JobFields) (w : Str) (job' : JobFields) : Prop :=
  (∀ c : Column, c.set job' = insertAll (c.set job) (c.adds w)) ∧ job'.gresIndex = job.gresIndex ++ gresAdds w

theorem grows_unread {w : Str} (unread : (splitFirst '=' w).1 ∉ readKeys) (job : JobFields) : Grows job w job := by
  refine ⟨fun c => ?_, ?_⟩
  · have other : (splitFirst '=' w).1 ≠ c.key := fun isColumn => unread (mem_readKeys_iff.mpr (.inr ⟨c, isColumn⟩))
    rw [Column.adds, if_neg other]
    rfl
  · have notGres : (splitFirst '=' w).1 ≠ "GRES".toList := fun isGres => unread (mem_readKeys_iff.mpr (.inl isGres))
    rw [gresAdds, if_neg notGres, List.append_nil]

theorem grows_gres {w value : Str} {indices : List Str} (parts : splitFirst '=' w = ("GRES".toList, some value))
    (parsed : parseGRES value = .ok indices) (job : JobFields) :
    Grows job w { job with gresIndex := job.gresIndex ++ indices } := by
  refine ⟨fun c => ?_, ?_⟩
  · rw [Column.adds, parts, if_neg c.key_ne_gres.symm]
    cases c <;> rfl
  · simp only [gresAdds, parts, if_true, Option.map_some, parsed]

theorem grows_column {w value : Str} {c : Column} (parts : splitFirst '=' w = (c.key, some value))
    (job : JobFields) : Grows job w (c.update job (insertAll (c.set job) (c.values value))) := by
  refine ⟨fun other => ?_, ?_⟩
  · rw [Column.set_update, Column.adds, parts]
    by_cases same : other = c
    · rw [if_pos same, same, if_pos rfl]
      rfl
    · rw [if_neg same, if_neg fun keys => same (Column.key_injective keys).symm]
      rfl
  · rw [Column.gresIndex_update, gresAdds, parts, if_neg c.key_ne_gres, List.append_nil]

/-- A word that is read adds its value to the job. -/
theorem readField_grows {job job' : JobFields} {w : Str} (run : readField job w = .ok job') : Grows job w job' := by
  by_cases known : (splitFirst '=' w).1 ∈ readKeys
  · rcases mem_readKeys_iff.mp known with isGres | ⟨c, isColumn⟩
    · rw [readField_gres isGres] at run
      obtain ⟨value, second, parsed⟩ := bind_returned run
      obtain ⟨indices, returned, rfl⟩ := map_returned parsed
      exact grows_gres (Prod.ext isGres (secondPart_returned second)) returned job
    · rw [readField_column isColumn] at run
      obtain ⟨value, second, stored⟩ := bind_returned run
      split at stored
      · simp at stored
      · rw [← Except.ok.inj stored]
        exact grows_column (Prod.ext isColumn (secondPart_returned second)) job
  · have unread := known
    simp only [readKeys, List.mem_cons, not_or] at unread
    rw [← Except.ok.inj ((readField_unread unread.2.2 unread.1 unread.2.1 job).symm.trans run)]
    exact grows_unread known job

/-! ### Reading all words -/

theorem readFields_set {words : List Str} {job job' : JobFields} (run : words.foldlM readField job = .ok job')
    (c : Column) : c.set job' = insertAll (c.set job) (words.flatMap c.adds) := by
  have view : c.set job' = words.foldl (fun s w => insertAll s (c.adds w)) (c.set job) :=
    foldlM_view (fun _ _ _ step => (readField_grows step).1 c) run
  rw [view, insertAll, List.foldl_flatMap]
  rfl

theorem readFields_gresIndex {words : List Str} {job job' : JobFields}
    (run : words.foldlM readField job = .ok job') : job'.gresIndex = job.gresIndex ++ words.flatMap gresAdds := by
  have view : job'.gresIndex = words.foldl (fun indices w => indices ++ gresAdds w) job.gresIndex :=
    foldlM_view (fun _ _ _ step => (readField_grows step).2) run
  rw [view, List.foldl_append_eq_append, List.flatMap_def]

end GpuTelemetry
