import GpuTelemetry.JobColumns

namespace GpuTelemetry

/-- A word on which no index and no slice is out of range: a key that is read
has a value, the one of `UserId` has an opening parenthesis, and the first
group in parentheses of a `GRES` value has a colon. -/
structure WordReadable (w : Str) : Prop where
  valued : (splitFirst '=' w).1 ∈ readKeys → '=' ∈ w
  opened : ∀ value, splitFirst '=' w = ("UserId".toList, some value) → '(' ∈ value
  indexed : ∀ value group, splitFirst '=' w = ("GRES".toList, some value) → parenthesised value = some group →
    ':' ∈ group

theorem splitFirst_none_iff {sep : Char} {s : Str} : (splitFirst sep s).2 = none ↔ sep ∉ s := by
  have absent : s.dropWhile (· ≠ sep) = [] ↔ sep ∉ s := by
    rw [List.dropWhile_eq_nil_iff]
    simp only [decide_eq_true_eq]
    exact ⟨fun all member => all sep member rfl, fun absent c member same => absent (same ▸ member)⟩
  rw [← absent, splitFirst]
  cases s.dropWhile (· ≠ sep) <;> simp

/-- `parseGRES` returns unless the group it finds has no colon. -/
theorem parseGRES_returns_iff (gresOut : Str) : (∃ indices, parseGRES gresOut = .ok indices) ↔
    ∀ group, parenthesised gresOut = some group → ':' ∈ group := by
  unfold parseGRES
  cases parenthesised gresOut with
  | none => simp
  | some group =>
    have colon := @splitFirst_none_iff ':' group
    cases part : (splitFirst ':' group).2 with
    | none => simpa [secondPart, part] using colon
    | some indexString => simpa [secondPart, part] using colon

theorem valued_of_part {w value : Str} (part : (splitFirst '=' w).2 = some value) : '=' ∈ w := by
  by_contra absent
  simp [splitFirst_none_iff.mpr absent] at part

theorem not_readable {w : Str} (known : (splitFirst '=' w).1 ∈ readKeys) (valueless : (splitFirst '=' w).2 = none) :
    ¬WordReadable w :=
  fun readable => splitFirst_none_iff.mp valueless (readable.valued known)

theorem readable_unread {w : Str} (unread : (splitFirst '=' w).1 ∉ readKeys) : WordReadable w where
  valued := fun known => absurd known unread
  opened := fun _ parts => absurd (mem_readKeys_iff.mpr (.inr ⟨.user, congrArg Prod.fst parts⟩)) unread
  indexed := fun _ _ parts => absurd (mem_readKeys_iff.mpr (.inl (congrArg Prod.fst parts))) unread

theorem readable_gres_iff {w value : Str} (parts : splitFirst '=' w = ("GRES".toList, some value)) :
    WordReadable w ↔ ∀ group, parenthesised value = some group → ':' ∈ group := by
  constructor
  · exact fun readable group => readable.indexed value group parts
  · intro indexed
    refine ⟨fun _ => valued_of_part (congrArg Prod.snd parts), fun other isUser => ?_, fun other group same => ?_⟩
    · rw [parts] at isUser
      exact absurd (Prod.mk.inj isUser).1 (by decide)
    · rw [parts] at same
      obtain rfl := Option.some.inj (Prod.mk.inj same).2
      exact indexed group

theorem readable_column_iff {w value : Str} {c : Column} (parts : splitFirst '=' w = (c.key, some value)) :
    WordReadable w ↔ (c = .user → '(' ∈ value) := by
  constructor
  · rintro readable rfl
    exact readable.opened value parts
  · intro opened
    refine ⟨fun _ => valued_of_part (congrArg Prod.snd parts), fun other isUser => ?_, fun other group isGres => ?_⟩
    · rw [parts] at isUser
      obtain ⟨keys, same⟩ := Prod.mk.inj isUser
      obtain rfl := Option.some.inj same
      exact opened (Column.key_injective keys)
    · rw [parts] at isGres
      exact absurd (Prod.mk.inj isGres).1 c.key_ne_gres

/-- Whether a word is read without a panic does not depend on the job so far. -/
theorem readField_returns_iff (job : JobFields) (w : Str) :
    (∃ job', readField job w = .ok job') ↔ WordReadable w := by
  by_cases known : (splitFirst '=' w).1 ∈ readKeys
  · cases part : (splitFirst '=' w).2 with
    | none =>
      refine iff_of_false ?_ (not_readable known part)
      rcases mem_readKeys_iff.mp known with isGres | ⟨c, isColumn⟩
      · rw [readField_gres isGres, part]
        simp [secondPart, Except.bind]
      · rw [readField_column isColumn, part]
        simp [secondPart, Except.bind]
    | some value =>
      rcases mem_readKeys_iff.mp known with isGres | ⟨c, isColumn⟩
      · rw [readable_gres_iff (Prod.ext isGres part), ← parseGRES_returns_iff, readField_gres isGres, part]
        simp only [secondPart, Except.bind]
        cases parseGRES value <;> simp [Except.map]
      · rw [readable_column_iff (Prod.ext isColumn part), readField_column isColumn, part]
        simp only [secondPart, Except.bind]
        by_cases unopened : c = .user ∧ '(' ∉ value
        · simp [unopened]
        · rw [if_neg unopened]
          simpa using unopened
  · have unread := known
    simp only [readKeys, List.mem_cons, not_or] at unread
    exact iff_of_true ⟨job, readField_unread unread.2.2 unread.1 unread.2.1 job⟩ (readable_unread known)

/-! ### Whole jobs -/

/-- The first word of the job whose key is `NodeList`. -/
def nodesWord (words : List Str) : Option Str :=
  words.find? fun w => decide ((splitFirst '=' w).1 = "NodeList".toList)

theorem nodesWord_append (words rest : List Str) : nodesWord (words ++ rest) = (nodesWord words).or (nodesWord rest) :=
  List.find?_append

theorem nodesWord_found {w : Str} (isNodes : (splitFirst '=' w).1 = "NodeList".toList) (words : List Str) :
    nodesWord (w :: words) = some w := by
  refine List.find?_cons_of_pos ?_
  rw [decide_eq_true_eq]
  exact isNodes

theorem nodesWord_none_iff {words : List Str} :
    nodesWord words = none ↔ ∀ w ∈ words, (splitFirst '=' w).1 ≠ "NodeList".toList := by
  simp only [nodesWord, List.find?_eq_none, decide_eq_true_eq, ne_eq]

/-- A job whose text is read without a panic: its node list has a value, and if
the host is in it then every word is readable. -/
def JobReadable (hostname jm : Str) : Prop :=
  ∀ w, nodesWord (jobWords jm) = some w → ∃ hostlist, (splitFirst '=' w).2 = some hostlist ∧
    (hostnameInList hostname hostlist = true → ∀ data ∈ jobWords jm, WordReadable data)

theorem getHostList_eq (jm : Str) : getHostList jm =
    match nodesWord (jobWords jm) with
    | none => .ok []
    | some w => secondPart (splitFirst '=' w).2 := by
  unfold getHostList
  induction jobWords jm with
  | nil => rfl
  | cons data words ih =>
    by_cases isNodes : (splitFirst '=' data).1 = "NodeList".toList
    · rw [hostListOfWords, if_pos isNodes, nodesWord_found isNodes]
    · have silent : nodesWord [data] = none :=
        nodesWord_none_iff.mpr fun w member => by rwa [List.mem_singleton.mp member]
      rw [hostListOfWords, if_neg isNodes, ← List.singleton_append, nodesWord_append, silent, Option.none_or]
      exact ih

theorem hostnameInList_nil (hostname : Str) : hostnameInList hostname [] = false := by
  cases hostname <;> rfl

theorem attributeJob_returns_iff (hostname : Str) (gpu2Slurm : GpuMap) (jm : Str) :
    (∃ next, attributeJob hostname gpu2Slurm jm = .ok next) ↔ JobReadable hostname jm := by
  have reads : (∃ job, (jobWords jm).foldlM readField JobFields.empty = .ok job) ↔
      ∀ data ∈ jobWords jm, WordReadable data := foldlM_returns_iff readField_returns_iff _ _
  unfold attributeJob JobReadable
  rw [getHostList_eq]
  cases nodesWord (jobWords jm) with
  | none =>
    refine iff_of_true ⟨gpu2Slurm, ?_⟩ (by simp)
    simp [bind, Except.bind, hostnameInList_nil]
  | some w =>
    simp only [Option.some.injEq, forall_eq']
    cases (splitFirst '=' w).2 with
    | none => simp [secondPart, bind, Except.bind]
    | some hostlist =>
      simp only [secondPart, bind, Except.bind, Option.some.injEq, exists_eq_left']
      by_cases contained : hostnameInList hostname hostlist = true
      · rw [← reads, if_pos contained]
        simp only [contained, forall_const]
        cases (jobWords jm).foldlM readField JobFields.empty <;> simp
      · simp [contained]

/-- `AttributeGPU2SlurmMetadata` returns exactly when every job is readable. -/
theorem attributeGPU2SlurmMetadata_returns_iff (jobMetadata : List Str) (hostname : Str) (gpu2Slurm : GpuMap) :
    (∃ gpus, attributeGPU2SlurmMetadata jobMetadata hostname gpu2Slurm = .ok gpus) ↔
      ∀ jm ∈ jobMetadata, JobReadable hostname jm :=
  foldlM_returns_iff (attributeJob_returns_iff hostname) jobMetadata gpu2Slurm

/-- A job whose name is `train JobId`. -/
def bareNameJob : Str := "JobId=7 JobName=train JobId\n   NodeList=n1".toList

theorem attributeGPU2SlurmMetadata_panics :
    ¬∃ gpus, attributeGPU2SlurmMetadata [bareNameJob] "n1".toList (fun _ => none) = .ok gpus := by
  rintro ⟨gpus, run⟩
  have words : jobWords bareNameJob =
      ["JobId=7", "JobName=train", "JobId", "NodeList=n1"].map String.toList := by decide
  have nodes : nodesWord (jobWords bareNameJob) = some "NodeList=n1".toList := by
    rw [words]
    decide
  have returns : ∃ next, attributeJob "n1".toList (fun _ => none) bareNameJob = .ok next := by
    rw [attributeGPU2SlurmMetadata, List.foldlM_cons] at run
    obtain ⟨next, first, -⟩ := bind_returned run
    exact ⟨next, first⟩
  obtain ⟨hostlist, value, readable⟩ := (attributeJob_returns_iff _ _ _).mp returns _ nodes
  obtain rfl : hostlist = "n1".toList := (Option.some.inj (value.symm.trans (by decide)))
  have bare : "JobId".toList ∈ jobWords bareNameJob := by
    rw [words]
    decide
  exact not_readable (by decide) (by decide) (readable (by decide) _ bare)

end GpuTelemetry
