import GpuTelemetry.AttributionPanics

namespace GpuTelemetry

/-! ### A block with a job name -/

/-- The block with the job's name at the end of its first line. -/
def JobBlock.namedLines (b : JobBlock) (name : Str) : List (List Str) :=
  ((keyed "JobId".toList b.jobId) :: (b.heading.map Attribute.text ++ [keyed "JobName".toList name])) ::
    (b.before.map JobLine.words ++ [keyed "NodeList".toList b.nodeList] :: b.after.map JobLine.words)

def JobBlock.namedText (b : JobBlock) (name : Str) : Str := ['\n'].intercalate ((b.namedLines name).map lineText)

/-- The words a job name puts behind its first. -/
def injected (name : Str) : List Str := fields (name.dropWhile fun c => !isGoSpace c)

/-- A word that reaches nothing but the name of the job. -/
structure Harmless (w : Str) : Prop where
  noNodes : (splitFirst '=' w).1 ≠ "NodeList".toList
  valued : (splitFirst '=' w).1 ∈ readKeys → '=' ∈ w
  noColumn : ∀ c : Column, (splitFirst '=' w).1 = c.key → c = .jobName ∨ c = .arrayTaskID
  noTask : ∀ value, splitFirst '=' w = ("ArrayTaskId".toList, some value) → atoi value = none
  noGpu : ∀ value, splitFirst '=' w = ("GRES".toList, some value) → parseGRES value = .ok []

def HarmlessName (name : Str) : Prop := ∀ w ∈ injected name, Harmless w

/-- The metadata but for the name of the job. -/
def SlurmMetadata.unnamed (slurm : SlurmMetadata) : SlurmMetadata := { slurm with JobName := [] }

/-- Both calls return, and their maps give the same GPUs the same metadata but
for the names of the jobs. -/
def SameAttribution (r r' : Except GoPanic GpuMap) : Prop :=
  ∃ gpus gpus', r = .ok gpus ∧ r' = .ok gpus' ∧
    ∀ gpu, (gpus gpu).map SlurmMetadata.unnamed = (gpus' gpu).map SlurmMetadata.unnamed

/-- The words of a block before its name, and behind it. -/
def JobBlock.firstWords (b : JobBlock) : List Str := (keyed "JobId".toList b.jobId) :: b.heading.map Attribute.text

def JobBlock.laterWords (b : JobBlock) : List Str :=
  b.before.flatMap JobLine.words ++ (keyed "NodeList".toList b.nodeList) :: b.after.flatMap JobLine.words

theorem JobBlock.words_eq (b : JobBlock) : b.words = b.firstWords ++ b.laterWords := by
  simp [JobBlock.words, JobBlock.firstWords, JobBlock.laterWords]

theorem fields_namedWord (name : Str) : fields (keyed "JobName".toList name) =
    keyed "JobName".toList (name.takeWhile fun c => !isGoSpace c) :: injected name := by
  have solid : ∀ c ∈ name.takeWhile fun c => !isGoSpace c, isGoSpace c = false := by
    intro c member
    simpa using List.mem_takeWhile_imp member
  have isWord : IsWord (keyed "JobName".toList (name.takeWhile fun c => !isGoSpace c)) :=
    isWord_keyed (by decide) solid
  have split : keyed "JobName".toList name =
      keyed "JobName".toList (name.takeWhile fun c => !isGoSpace c) ++ name.dropWhile fun c => !isGoSpace c := by
    simp [keyed]
  rw [split, injected]
  cases behind : name.dropWhile fun c => !isGoSpace c with
  | nil => rw [List.append_nil, fields_word isWord]; rfl
  | cons c rest =>
    have stopped := List.head?_dropWhile_not (fun c => !isGoSpace c) name
    rw [behind] at stopped
    have space : isGoSpace c = true := by simpa using stopped
    have skipped : fields (c :: rest) = fields rest := fields_append [] rest space
    rw [fields_append _ _ space, fields_word isWord, skipped]
    rfl

theorem jobWords_named (b : JobBlock) (name : Str) : jobWords (b.namedText name) = b.firstWords ++
    keyed "JobName".toList (name.takeWhile fun c => !isGoSpace c) :: (injected name ++ b.laterWords) := by
  have each : ∀ w ∈ b.words, IsWord w := b.areWords
  rw [JobBlock.words_eq, List.forall_mem_append] at each
  have flat : (b.namedLines name).flatten = b.firstWords ++ keyed "JobName".toList name :: b.laterWords := by
    simp [JobBlock.namedLines, JobBlock.firstWords, JobBlock.laterWords, List.flatMap_def]
  rw [JobBlock.namedText, jobWords_lines, flat, List.flatMap_append, List.flatMap_cons, flatMap_fields each.1,
    flatMap_fields each.2, fields_namedWord]
  simp

/-! ### What a name adds -/

theorem JobBlock.firstWords_silent (b : JobBlock) : nodesWord b.firstWords = none := by
  refine nodesWord_none_iff.mpr fun w member => ?_
  rcases List.mem_cons.mp member with rfl | inHeading
  · exact silent_keyed (by decide) (by decide)
  · exact attributes_silent b.heading w inHeading

theorem JobBlock.laterWords_nodes (b : JobBlock) :
    nodesWord b.laterWords = some (keyed "NodeList".toList b.nodeList) := by
  have before : nodesWord (b.before.flatMap JobLine.words) = none := by
    refine nodesWord_none_iff.mpr fun w member => ?_
    obtain ⟨line, _, inLine⟩ := List.mem_flatMap.mp member
    exact line.silent w inLine
  have isNodes : (splitFirst '=' (keyed "NodeList".toList b.nodeList)).1 = "NodeList".toList := by
    rw [splitFirst_keyed _ (by decide)]
  rw [JobBlock.laterWords, nodesWord_append, before, Option.none_or, nodesWord_found isNodes]

/-- The node list of a job is the one its name brings, if it brings one. -/
theorem getHostList_named (b : JobBlock) (name : Str) : getHostList (b.namedText name) =
    match nodesWord (injected name) with
    | none => .ok b.nodeList
    | some w => secondPart (splitFirst '=' w).2 := by
  have nameWord : nodesWord [keyed "JobName".toList (name.takeWhile fun c => !isGoSpace c)] = none :=
    nodesWord_none_iff.mpr fun w member => by
      rw [List.mem_singleton.mp member]
      exact silent_keyed (by decide) (by decide)
  have value : secondPart (splitFirst '=' (keyed "NodeList".toList b.nodeList)).2 = .ok b.nodeList := by
    rw [splitFirst_keyed _ (by decide)]
    rfl
  rw [getHostList_eq, jobWords_named, ← List.singleton_append, nodesWord_append, nodesWord_append, nodesWord_append,
    b.firstWords_silent, b.laterWords_nodes, nameWord, Option.none_or, Option.none_or]
  cases nodesWord (injected name) with
  | none => exact value
  | some w => rfl

theorem adds_keyed {key : Str} (value : Str) (noEquals : '=' ∉ key) (c : Column) :
    c.adds (keyed key value) = if key = c.key then c.values value else [] := by
  rw [Column.adds, splitFirst_keyed value noEquals]
  rfl

theorem gresAdds_keyed {key : Str} (value : Str) (noEquals : '=' ∉ key) (other : key ≠ "GRES".toList) :
    gresAdds (keyed key value) = [] := by
  rw [gresAdds, splitFirst_keyed value noEquals, if_neg other]

/-- What is read from a block with a name is what its own words and those of the name add. -/
theorem namedJob_sets {b : JobBlock} {name : Str} {job : JobFields}
    (run : (jobWords (b.namedText name)).foldlM readField JobFields.empty = .ok job) {c : Column}
    (other : c ≠ .jobName) : c.set job = insertAll [] (b.firstWords.flatMap c.adds ++
      ((injected name).flatMap c.adds ++ b.laterWords.flatMap c.adds)) := by
  have nameAdds : c.adds (keyed "JobName".toList (name.takeWhile fun c => !isGoSpace c)) = [] := by
    have notName : "JobName".toList ≠ c.key :=
      fun same => other (Column.key_injective (show c.key = Column.jobName.key from same.symm))
    rw [adds_keyed _ (by decide), if_neg notName]
  rw [readFields_set run, jobWords_named, Column.set_empty, List.flatMap_append, List.flatMap_cons, nameAdds,
    List.nil_append, List.flatMap_append]

theorem namedJob_gresIndex {b : JobBlock} {name : Str} {job : JobFields}
    (run : (jobWords (b.namedText name)).foldlM readField JobFields.empty = .ok job) :
    job.gresIndex = b.firstWords.flatMap gresAdds ++
      ((injected name).flatMap gresAdds ++ b.laterWords.flatMap gresAdds) := by
  have nameAdds : gresAdds (keyed "JobName".toList (name.takeWhile fun c => !isGoSpace c)) = [] :=
    gresAdds_keyed _ (by decide) (by decide)
  rw [readFields_gresIndex run, jobWords_named, List.flatMap_append, List.flatMap_cons, nameAdds, List.nil_append,
    List.flatMap_append]
  rfl

theorem JobBlock.fields_set (b : JobBlock) (c : Column) : c.set b.fields =
    insertAll [] (b.firstWords.flatMap c.adds ++ b.laterWords.flatMap c.adds) := by
  rw [readFields_set b.collects.1, b.words_eq, Column.set_empty, List.flatMap_append]

theorem JobBlock.listed_eq (b : JobBlock) :
    b.listed = b.firstWords.flatMap gresAdds ++ b.laterWords.flatMap gresAdds := by
  rw [← b.collects.2.1, readFields_gresIndex b.collects.1, b.words_eq, List.flatMap_append]
  rfl

/-! ### Harmless names -/

theorem Harmless.readable {w : Str} (harmless : Harmless w) : WordReadable w where
  valued := harmless.valued
  opened value parts := by
    have known := harmless.noColumn .user (congrArg Prod.fst parts)
    simp at known
  indexed value group parts := (parseGRES_returns_iff value).mp ⟨[], harmless.noGpu value parts⟩ group

theorem Harmless.adds {w : Str} (harmless : Harmless w) {c : Column} (other : c ≠ .jobName) : c.adds w = [] := by
  unfold Column.adds
  split
  · rename_i isColumn
    rcases harmless.noColumn c isColumn with same | rfl
    · exact absurd same other
    · cases part : (splitFirst '=' w).2 with
      | none => rfl
      | some value => simp [Column.values, harmless.noTask value (Prod.ext isColumn part)]
  · rfl

theorem Harmless.gresAdds {w : Str} (harmless : Harmless w) : gresAdds w = [] := by
  unfold GpuTelemetry.gresAdds
  split
  · rename_i isGres
    cases part : (splitFirst '=' w).2 with
    | none => rfl
    | some value => simp [harmless.noGpu value (Prod.ext isGres part)]
  · rfl

theorem adds_of_parts {w value : Str} {c : Column} (parts : splitFirst '=' w = (c.key, some value)) :
    c.adds w = c.values value := by
  rw [Column.adds, parts, if_pos rfl]
  rfl

theorem Column.values_nonempty {c : Column} (notTask : c ≠ .arrayTaskID) (value : Str) : ∃ v, v ∈ c.values value := by
  cases c with
  | arrayTaskID => exact absurd rfl notTask
  | user => exact ⟨_, List.mem_singleton_self _⟩
  | _ => exact ⟨value, List.mem_singleton_self _⟩

/-- A word that is not harmless names nodes, cannot be read, or adds something. -/
theorem harmful_word {w : Str} (harmful : ¬Harmless w) : (splitFirst '=' w).1 = "NodeList".toList ∨
    ¬WordReadable w ∨ (∃ c : Column, c ≠ .jobName ∧ ∃ v, v ∈ c.adds w) ∨ ∃ gpu, gpu ∈ gresAdds w := by
  by_contra quiet
  simp only [not_or, not_not, not_exists, not_and] at quiet
  obtain ⟨noNodes, readable, noColumn, noGpu⟩ := quiet
  refine harmful ⟨noNodes, readable.valued, fun c isColumn => ?_, fun value parts => ?_, fun value parts => ?_⟩
  · by_contra adding
    obtain ⟨notName, notTask⟩ := not_or.mp adding
    have valued := readable.valued (mem_readKeys_iff.mpr (.inr ⟨c, isColumn⟩))
    cases part : (splitFirst '=' w).2 with
    | none => exact splitFirst_none_iff.mp part valued
    | some value =>
      obtain ⟨v, member⟩ := Column.values_nonempty notTask value
      rw [← adds_of_parts (Prod.ext isColumn part)] at member
      exact noColumn c notName v member
  · by_contra number
    have adds : Column.arrayTaskID.adds w = [value] := by
      rw [adds_of_parts (show splitFirst '=' w = (Column.arrayTaskID.key, some value) from parts), Column.values,
        if_neg (by simpa using number)]
    exact noColumn .arrayTaskID (by decide) value (by simp [adds])
  · obtain ⟨indices, parsed⟩ := (parseGRES_returns_iff value).mpr ((readable_gres_iff parts).mp readable)
    have adds : gresAdds w = indices := by
      rw [gresAdds, parts, if_pos rfl, Option.map_some, parsed]
    rw [parsed, ← adds, List.eq_nil_iff_forall_not_mem.mpr noGpu]

theorem JobBlock.readable (b : JobBlock) : ∀ w ∈ b.words, WordReadable w :=
  (foldlM_returns_iff readField_returns_iff b.words JobFields.empty).mp ⟨_, b.collects.1⟩

theorem named_reads {b : JobBlock} {name : Str} (readable : ∀ w ∈ injected name, WordReadable w) :
    ∃ job, (jobWords (b.namedText name)).foldlM readField JobFields.empty = .ok job := by
  refine (foldlM_returns_iff readField_returns_iff _ _).mpr fun w member => ?_
  have own := b.readable
  rw [JobBlock.words_eq, List.forall_mem_append] at own
  rw [jobWords_named] at member
  simp only [List.mem_append, List.mem_cons] at member
  rcases member with inFirst | rfl | inName | inLater
  · exact own.1 w inFirst
  · exact (readable_column_iff (c := .jobName) (splitFirst_keyed _ (by decide))).mpr (by simp)
  · exact readable w inName
  · exact own.2 w inLater

theorem attribute_single (hostname text : Str) (gpu2Slurm : GpuMap) :
    attributeGPU2SlurmMetadata [text] hostname gpu2Slurm = attributeJob hostname gpu2Slurm text := by
  rw [attributeGPU2SlurmMetadata, List.foldlM_cons]
  cases attributeJob hostname gpu2Slurm text <;> rfl

/-- A name without a node list leaves the job on its hosts. -/
theorem named_attribution {b : JobBlock} {name : Str} {job : JobFields} (noNodes : nodesWord (injected name) = none)
    (run : (jobWords (b.namedText name)).foldlM readField JobFields.empty = .ok job) (hostname : Str)
    (gpu2Slurm : GpuMap) : attributeGPU2SlurmMetadata [b.namedText name] hostname gpu2Slurm =
      .ok (if b.Attributed hostname then writeKeys gpu2Slurm job.gresIndex job.metadata else gpu2Slurm) := by
  have nodes : getHostList (b.namedText name) = .ok b.nodeList := by rw [getHostList_named, noNodes]
  rw [attribute_single, attributeJob, nodes, run]
  by_cases attributed : b.Attributed hostname
  · rw [if_pos attributed]
    exact if_pos attributed
  · rw [if_neg attributed]
    exact if_neg attributed

theorem Column.field_unnamed {c : Column} (other : c ≠ .jobName) (slurm : SlurmMetadata) :
    c.field slurm.unnamed = c.field slurm := by
  cases c with
  | jobName => exact absurd rfl other
  | _ => rfl

theorem unnamed_eq_iff {slurm slurm' : SlurmMetadata} :
    slurm.unnamed = slurm'.unnamed ↔ ∀ c : Column, c ≠ .jobName → c.field slurm = c.field slurm' := by
  constructor
  · intro same c other
    rw [← Column.field_unnamed other slurm, same, Column.field_unnamed other]
  · intro fields
    obtain ⟨_, _, _, _, _, _, _, _, _⟩ := slurm
    obtain ⟨_, _, _, _, _, _, _, _, _⟩ := slurm'
    simp only [SlurmMetadata.unnamed, SlurmMetadata.mk.injEq, true_and]
    exact ⟨fields .jobID (by decide), fields .qos (by decide), fields .user (by decide), fields .partition (by decide),
      fields .account (by decide), fields .numNodes (by decide), fields .arrayJobID (by decide),
      fields .arrayTaskID (by decide)⟩

theorem SameAttribution.symm {r r' : Except GoPanic GpuMap} (same : SameAttribution r r') : SameAttribution r' r := by
  obtain ⟨gpus, gpus', first, second, agree⟩ := same
  exact ⟨gpus', gpus, second, first, fun gpu => (agree gpu).symm⟩

theorem SameAttribution.trans {r r' r'' : Except GoPanic GpuMap} (same : SameAttribution r r')
    (same' : SameAttribution r' r'') : SameAttribution r r'' := by
  obtain ⟨gpus, mid, first, second, agree⟩ := same
  obtain ⟨mid', gpus', second', third, agree'⟩ := same'
  obtain rfl := Except.ok.inj (second.symm.trans second')
  exact ⟨gpus, gpus', first, third, fun gpu => (agree gpu).trans (agree' gpu)⟩

/-- With a harmless name the block is attributed as without a name. -/
theorem harmless_attribution {name : Str} (harmless : HarmlessName name) (b : JobBlock) (hostname : Str)
    (gpu2Slurm : GpuMap) : SameAttribution (attributeGPU2SlurmMetadata [b.namedText name] hostname gpu2Slurm)
      (attributeGPU2SlurmMetadata [b.text] hostname gpu2Slurm) := by
  obtain ⟨job, run⟩ := @named_reads b name fun w member => (harmless w member).readable
  have noNodes : nodesWord (injected name) = none := nodesWord_none_iff.mpr fun w member => (harmless w member).noNodes
  have noGpu : (injected name).flatMap gresAdds = [] :=
    List.flatMap_eq_nil_iff.mpr fun w member => (harmless w member).gresAdds
  have sameGpus : job.gresIndex = b.listed := by
    rw [namedJob_gresIndex run, noGpu, List.nil_append, b.listed_eq]
  have sameSets : ∀ c : Column, c ≠ .jobName → c.set job = c.set b.fields := by
    intro c other
    have noValue : (injected name).flatMap c.adds = [] :=
      List.flatMap_eq_nil_iff.mpr fun w member => (harmless w member).adds other
    rw [namedJob_sets run other, noValue, List.nil_append, b.fields_set]
  have sameMetadata : job.metadata.unnamed = b.fields.metadata.unnamed := by
    rw [unnamed_eq_iff]
    intro c other
    rw [Column.field_metadata, Column.field_metadata, sameSets c other]
  refine ⟨_, _, named_attribution noNodes run hostname gpu2Slurm,
    (attribute_single _ _ _).trans (attributeJob_block hostname b gpu2Slurm), fun gpu => ?_⟩
  by_cases attributed : b.Attributed hostname
  · rw [if_pos attributed, if_pos attributed, writeKeys_apply, writeKeys_apply, sameGpus]
    by_cases listed : gpu ∈ b.listed
    · simp only [listed, if_true, Option.map_some, sameMetadata]
    · simp only [listed, if_false]
  · rw [if_neg attributed, if_neg attributed]

/-! ### Names that are not harmless -/

theorem mem_insertAll {set values : List Str} {v : Str} : v ∈ insertAll set values ↔ v ∈ set ∨ v ∈ values := by
  induction values generalizing set with
  | nil => simp [insertAll]
  | cons value values ih =>
    have step : insertAll set (value :: values) = insertAll (set.insert value) values := rfl
    rw [step, ih, List.mem_insert_iff, List.mem_cons]
    tauto

/-- A name takes no value away from the job. -/
theorem namedJob_keeps {b : JobBlock} {name v : Str} {job : JobFields}
    (run : (jobWords (b.namedText name)).foldlM readField JobFields.empty = .ok job) {c : Column}
    (other : c ≠ .jobName) (own : v ∈ c.set b.fields) : v ∈ c.set job := by
  rw [JobBlock.fields_set, mem_insertAll, List.mem_append] at own
  rw [namedJob_sets run other, mem_insertAll, List.mem_append, List.mem_append]
  rcases own with inEmpty | inFirst | inLater
  · exact .inl inEmpty
  · exact .inr (.inl inFirst)
  · exact .inr (.inr (.inr inLater))

theorem length_le_intercalate {u : Str} {parts : List Str} (member : u ∈ parts) :
    u.length ≤ ([','].intercalate parts).length := by
  induction parts with
  | nil => simp at member
  | cons part parts ih =>
    cases parts with
    | nil => simp [List.mem_singleton.mp member]
    | cons next parts =>
      rw [List.intercalate_cons_of_ne_nil (by simp)]
      simp only [List.length_append, List.length_singleton]
      rcases List.mem_cons.mp member with rfl | later
      · omega
      · have bound := ih later
        omega

/-- A set of more than one value is written longer than each of them. -/
theorem stringifySet_longer {set : List Str} {u v : Str} (member : u ∈ set) (other : v ∈ set) (differ : v ≠ u) :
    u.length < (stringifySet set).length := by
  have sorted : ∀ x, x ∈ set.insertionSort (· ≤ ·) ↔ x ∈ set := fun x => (List.perm_insertionSort _ set).mem_iff
  rw [← sorted] at member other
  unfold stringifySet
  generalize set.insertionSort (· ≤ ·) = parts at member other
  cases parts with
  | nil => simp at member
  | cons part parts =>
    cases parts with
    | nil => exact absurd ((List.mem_singleton.mp other).trans (List.mem_singleton.mp member).symm) differ
    | cons next parts =>
      rw [List.intercalate_cons_of_ne_nil (by simp)]
      simp only [List.length_append, List.length_singleton]
      rcases List.mem_cons.mp member with rfl | later
      · omega
      · have bound := length_le_intercalate later
        omega

theorem stringifySet_singleton (v : Str) : stringifySet [v] = v := by
  simp [stringifySet]

theorem decimal_solid (n : Nat) : ∀ c ∈ decimal n, isGoSpace c = false := fun c member =>
  isNodelistChar_not_goSpace (by simp [isNodelistChar, isHostChar, Char.isAlphanum, decimal_digits n c member])

theorem Column.key_solid (c : Column) : ∀ d ∈ c.key, isGoSpace d = false := by
  cases c <;> decide

theorem Column.key_ordinary {c : Column} (notJob : c ≠ .jobID) :
    c.key ∉ ["NodeList", "JobId", "GRES"].map String.toList := by
  revert notJob
  cases c <;> decide

/-- What `scontrol` prints of a number in the column: a user comes with an id. -/
def Column.valueText (c : Column) (k : Nat) : Str := if c = .user then decimal k ++ "(0)".toList else decimal k

theorem Column.valueText_solid (c : Column) (k : Nat) : ∀ d ∈ c.valueText k, isGoSpace d = false := by
  have suffix : ∀ d ∈ "(0)".toList, isGoSpace d = false := by decide
  intro d member
  unfold Column.valueText at member
  split at member
  · exact (List.mem_append.mp member).elim (decimal_solid k d) (suffix d)
  · exact decimal_solid k d member

/-- The word that gives a column the number as its value. -/
def columnAttribute (c : Column) (k : Nat) (notJob : c ≠ .jobID) : Attribute where
  text := keyed c.key (c.valueText k)
  isWord := isWord_keyed c.key_solid (c.valueText_solid k)
  ordinary := by
    rw [splitFirst_keyed _ c.key_no_equals]
    exact Column.key_ordinary notJob
  valued := by
    rw [splitFirst_keyed _ c.key_no_equals]
    refine fun _ => ⟨_, rfl, fun isUser => ?_⟩
    obtain rfl : c = .user := Column.key_injective isUser
    simp [Column.valueText]

theorem columnAttribute_adds (d : Column) {k : Nat} (fits : (k : Int) < maxInt) (notJob : d ≠ .jobID) (c : Column) :
    c.adds (columnAttribute d k notJob).text = if d = c then [decimal k] else [] := by
  rw [columnAttribute, adds_keyed _ d.key_no_equals]
  by_cases same : d = c
  · obtain rfl := same
    rw [if_pos rfl, if_pos rfl]
    have noParen : ∀ c ∈ decimal k, decide (c ≠ '(') = true := by
      intro c member
      simp only [decide_eq_true_eq]
      rintro rfl
      exact absurd (decimal_digits k _ member) (by decide)
    cases d with
    | jobID => exact absurd rfl notJob
    | user =>
      obtain ⟨taken, -⟩ := takeWhile_run_cons '(' "0)".toList noParen (by decide)
      exact congrArg (fun s => [s]) taken
    | arrayTaskID => simp [Column.valueText, Column.values, atoi_decimal fits.le]
    | _ => simp [Column.valueText, Column.values]
  · rw [if_neg same, if_neg fun keys => same (Column.key_injective keys)]

/-- A job whose columns and whose GPU are all the same number. -/
def probe (host : Str) (solid : ∀ c ∈ host, isGoSpace c = false) (k : Nat) (fits : (k : Int) < maxInt) : JobBlock where
  jobId := decimal k
  solidId := decimal_solid k
  heading := [columnAttribute .user k (by decide), columnAttribute .qos k (by decide),
    columnAttribute .arrayJobID k (by decide), columnAttribute .arrayTaskID k (by decide),
    columnAttribute .account k (by decide), columnAttribute .partition k (by decide),
    columnAttribute .numNodes k (by decide)]
  before := []
  nodeList := host
  solidNodes := solid
  after := [oneGpu node1 k fits]

theorem probe_listed (host : Str) (solid : ∀ c ∈ host, isGoSpace c = false) {k : Nat} (fits : (k : Int) < maxInt) :
    (probe host solid k fits).listed = [decimal k] := rfl

theorem probe_set (host : Str) (solid : ∀ c ∈ host, isGoSpace c = false) {k : Nat} (fits : (k : Int) < maxInt)
    {c : Column} (other : c ≠ .jobName) : c.set (probe host solid k fits).fields = [decimal k] := by
  have identity : c.adds (keyed "JobId".toList (decimal k)) = if c = .jobID then [decimal k] else [] := by
    rw [adds_keyed _ (by decide)]
    by_cases same : c = .jobID
    · obtain rfl := same
      rw [if_pos rfl]
      exact if_pos rfl
    · rw [if_neg same, if_neg fun keys => same (Column.key_injective keys.symm)]
  have first : (probe host solid k fits).firstWords.flatMap c.adds = [decimal k] := by
    simp only [JobBlock.firstWords, probe, List.map_cons, List.map_nil, List.flatMap_cons, List.flatMap_nil,
      identity, columnAttribute_adds _ fits]
    cases c with
    | jobName => exact absurd rfl other
    | _ => simp
  have later : (probe host solid k fits).laterWords.flatMap c.adds = [] := by
    have unread : ∀ key ∈ ["NodeList", "Nodes", "GRES"].map String.toList, ∀ value, '=' ∉ key →
        c.adds (keyed key value) = [] := by
      intro key member value noEquals
      rw [adds_keyed value noEquals, if_neg]
      rintro rfl
      revert member
      cases c <;> decide
    obtain ⟨nodes, gres, words⟩ : ∃ nodes gres, (probe host solid k fits).laterWords =
        [keyed "NodeList".toList host, keyed "Nodes".toList nodes, keyed "GRES".toList gres] := ⟨_, _, rfl⟩
    rw [words, List.flatMap_cons, List.flatMap_cons, List.flatMap_cons, unread _ (by decide) _ (by decide),
      unread _ (by decide) _ (by decide), unread _ (by decide) _ (by decide)]
    rfl
  rw [JobBlock.fields_set, first, later]
  rfl

theorem exists_other_number (v : Str) : ∃ k : Nat, (k : Int) < maxInt ∧ v ≠ decimal k := by
  by_cases zero : v = decimal 0
  · exact ⟨1, by decide, by rw [zero]; decide⟩
  · exact ⟨0, by decide, zero⟩

theorem hostlistPattern_nonempty {hostlist pre ranges : Str} (found : hostlistPattern hostlist = some (pre, ranges)) :
    pre ≠ [] := by
  unfold hostlistPattern at found
  split at found
  · split at found
    · rename_i shape
      obtain ⟨rfl, -⟩ := Prod.mk.inj (Option.some.inj found)
      exact shape.1
    · simp at found
  · simp at found

theorem letter_not_in_group {c : Char} {hostlist : Str} (bracket : '[' ∈ hostlist) :
    hostnameInList [c] hostlist = false := by
  rw [hostnameInList, if_neg (not_not.mpr bracket)]
  cases found : hostlistPattern hostlist with
  | none => rfl
  | some groups =>
    obtain ⟨pre, ranges⟩ := groups
    have positive : 0 < pre.length := List.length_pos_iff.mpr (hostlistPattern_nonempty found)
    have dropped : [c].drop pre.length = [] := List.drop_eq_nil_of_le positive
    have noNumber : atoi [] = none := rfl
    simp only [dropped, noNumber, ite_self]

/-- Every node list leaves some host out. -/
theorem exists_outside (hostlist : Str) : ∃ host : Str, (∀ c ∈ host, isGoSpace c = false) ∧
    hostnameInList host host = true ∧ hostnameInList host hostlist = false := by
  by_cases bracket : '[' ∈ hostlist
  · exact ⟨['a'], by decide, by decide, letter_not_in_group bracket⟩
  · have plain : ∀ c, hostlist ≠ [c] → hostnameInList [c] hostlist = false := by
      intro c differ
      rw [hostnameInList, if_pos bracket, if_neg (by simp)]
      exact beq_eq_false_iff_ne.mpr differ
    by_cases same : hostlist = ['a']
    · exact ⟨['b'], by decide, by decide, plain 'b' (by rw [same]; decide)⟩
    · exact ⟨['a'], by decide, by decide, plain 'a' same⟩

/-- What follows when the name brings no node list and changes nothing about a probe. -/
theorem probe_same {name host : Str} (noNodes : nodesWord (injected name) = none)
    {solid : ∀ c ∈ host, isGoSpace c = false} {k : Nat} {fits : (k : Int) < maxInt}
    (inList : hostnameInList host host = true)
    (same : SameAttribution (attributeGPU2SlurmMetadata [(probe host solid k fits).namedText name] host fun _ => none)
      (attributeGPU2SlurmMetadata [(probe host solid k fits).text] host fun _ => none)) :
    ∃ job, (jobWords ((probe host solid k fits).namedText name)).foldlM readField JobFields.empty = .ok job ∧
      (∀ gpu ∈ job.gresIndex, gpu = decimal k) ∧
        ∀ c : Column, c ≠ .jobName → stringifySet (c.set job) = decimal k := by
  obtain ⟨gpus, gpus', first, second, agree⟩ := same
  have attributed : (probe host solid k fits).Attributed host := inList
  rw [attribute_single, attributeJob_block, if_pos attributed, probe_listed] at second
  obtain rfl := Except.ok.inj second
  cases run : (jobWords ((probe host solid k fits).namedText name)).foldlM readField JobFields.empty with
  | error panic =>
    have nodes : getHostList ((probe host solid k fits).namedText name) = .ok host := by
      rw [getHostList_named, noNodes]
      rfl
    rw [attribute_single, attributeJob, nodes, run] at first
    simp [bind, Except.bind, inList] at first
  | ok job =>
    rw [named_attribution noNodes run, if_pos attributed] at first
    obtain rfl := Except.ok.inj first
    simp only [writeKeys_apply, List.mem_singleton] at agree
    refine ⟨job, rfl, fun gpu listed => ?_, fun c other => ?_⟩
    · by_contra differ
      have agreeGpu := agree gpu
      simp [listed, differ] at agreeGpu
    · have agreeProbe := agree (decimal k)
      by_cases listed : decimal k ∈ job.gresIndex
      · simp only [listed, if_true, Option.map_some, Option.some.injEq] at agreeProbe
        have sameField := unnamed_eq_iff.mp agreeProbe c other
        rw [Column.field_metadata, Column.field_metadata, probe_set host solid fits other] at sameField
        exact sameField.trans (stringifySet_singleton _)
      · simp [listed] at agreeProbe

/-- A name that brings a node list takes the job away from some host. -/
theorem nodes_attribution {name w : Str} (brings : nodesWord (injected name) = some w) :
    ∃ (b : JobBlock) (hostname : Str),
      ¬SameAttribution (attributeGPU2SlurmMetadata [b.namedText name] hostname fun _ => none)
        (attributeGPU2SlurmMetadata [b.text] hostname fun _ => none) := by
  obtain ⟨host, solid, inList, outside⟩ := exists_outside ((splitFirst '=' w).2.getD [])
  refine ⟨probe host solid 0 (by decide), host, ?_⟩
  rintro ⟨gpus, gpus', first, second, agree⟩
  have attributed : (probe host solid 0 (by decide)).Attributed host := inList
  rw [attribute_single] at first second
  rw [attributeJob_block, if_pos attributed, probe_listed] at second
  obtain rfl := Except.ok.inj second
  rw [attributeJob, getHostList_named, brings] at first
  cases value : (splitFirst '=' w).2 with
  | none => simp [value, secondPart, bind, Except.bind] at first
  | some hostlist =>
    rw [value, Option.getD_some] at outside
    have unchanged : gpus = fun _ => none := by
      simpa [value, secondPart, bind, Except.bind, outside] using first.symm
    have agreeProbe := agree (decimal 0)
    simp [unchanged, writeKeys_apply] at agreeProbe

/-- A name that is not harmless changes the attribution of some probe. -/
theorem harmful_attribution {name : Str} (harmful : ¬HarmlessName name) : ∃ (b : JobBlock) (hostname : Str),
    ¬SameAttribution (attributeGPU2SlurmMetadata [b.namedText name] hostname fun _ => none)
      (attributeGPU2SlurmMetadata [b.text] hostname fun _ => none) := by
  cases noNodes : nodesWord (injected name) with
  | some w => exact nodes_attribution noNodes
  | none =>
    simp only [HarmlessName, not_forall] at harmful
    obtain ⟨w, inName, bad⟩ := harmful
    have solid : ∀ c ∈ ['a'], isGoSpace c = false := by decide
    have inList : hostnameInList ['a'] ['a'] = true := by decide
    rcases harmful_word bad with isNodes | unread | ⟨c, other, v, adds⟩ | ⟨gpu, adds⟩
    · exact absurd isNodes (nodesWord_none_iff.mp noNodes w inName)
    · refine ⟨probe ['a'] solid 0 (by decide), ['a'], fun same => ?_⟩
      obtain ⟨job, run, -⟩ := probe_same noNodes inList same
      refine unread ((foldlM_returns_iff readField_returns_iff _ _).mp ⟨job, run⟩ w ?_)
      simp [jobWords_named, inName]
    · obtain ⟨k, fits, differ⟩ := exists_other_number v
      refine ⟨probe ['a'] solid k fits, ['a'], fun same => ?_⟩
      obtain ⟨job, run, -, written⟩ := probe_same noNodes inList same
      have sets := namedJob_sets run other
      have value : v ∈ c.set job := by
        rw [sets, mem_insertAll]
        simp only [List.mem_append, List.mem_flatMap]
        exact .inr (.inr (.inl ⟨w, inName, adds⟩))
      have own : decimal k ∈ c.set job := by
        refine namedJob_keeps run other ?_
        rw [probe_set ['a'] solid fits other]
        exact List.mem_singleton_self _
      have longer := stringifySet_longer own value differ
      rw [written c other] at longer
      exact lt_irrefl _ longer
    · obtain ⟨k, fits, differ⟩ := exists_other_number gpu
      refine ⟨probe ['a'] solid k fits, ['a'], fun same => differ ?_⟩
      obtain ⟨job, run, only, -⟩ := probe_same noNodes inList same
      refine only gpu ?_
      rw [namedJob_gresIndex run]
      simp only [List.mem_append, List.mem_flatMap]
      exact .inr (.inl ⟨w, inName, adds⟩)

/-- A name leaves the attribution of every block on every host what it is with
a harmless name exactly when it is harmless. -/
theorem jobName_keeps_attribution_iff (name other : Str) (harmless : HarmlessName other) :
    (∀ (b : JobBlock) (hostname : Str) (gpu2Slurm : GpuMap), SameAttribution
      (attributeGPU2SlurmMetadata [b.namedText name] hostname gpu2Slurm)
      (attributeGPU2SlurmMetadata [b.namedText other] hostname gpu2Slurm)) ↔ HarmlessName name := by
  constructor
  · intro keeps
    by_contra harmful
    obtain ⟨b, hostname, changed⟩ := harmful_attribution harmful
    exact changed ((keeps b hostname _).trans (harmless_attribution harmless b hostname _))
  · intro harmless' b hostname gpu2Slurm
    exact (harmless_attribution harmless' b hostname gpu2Slurm).trans
      (harmless_attribution harmless b hostname gpu2Slurm).symm

theorem jobName_keeps_attribution_train : HarmlessName "train".toList ∧
    ∀ (b : JobBlock) (hostname : Str) (gpu2Slurm : GpuMap), SameAttribution
      (attributeGPU2SlurmMetadata [b.namedText "train lr=0.1 run".toList] hostname gpu2Slurm)
      (attributeGPU2SlurmMetadata [b.namedText "train".toList] hostname gpu2Slurm) := by
  have plain : HarmlessName "train".toList := by
    have words : injected "train".toList = [] := by decide
    rw [HarmlessName, words]
    simp
  have words : injected "train lr=0.1 run".toList = ["lr=0.1", "run"].map String.toList := by decide
  refine ⟨plain, (jobName_keeps_attribution_iff "train lr=0.1 run".toList "train".toList plain).mpr fun w member => ?_⟩
  have other : (splitFirst '=' w).1 ∈ ["lr", "run"].map String.toList := by
    rw [words] at member
    revert w
    decide
  have unread : (splitFirst '=' w).1 ≠ "NodeList".toList ∧ (splitFirst '=' w).1 ∉ readKeys := by
    revert other
    generalize (splitFirst '=' w).1 = key
    revert key
    decide
  refine ⟨unread.1, fun known => absurd known unread.2, fun c isColumn => ?_, fun value parts => ?_,
    fun value parts => ?_⟩
  · exact absurd (mem_readKeys_iff.mpr (.inr ⟨c, isColumn⟩)) unread.2
  · exact absurd (mem_readKeys_iff.mpr (.inr ⟨.arrayTaskID, congrArg Prod.fst parts⟩)) unread.2
  · exact absurd (mem_readKeys_iff.mpr (.inl (congrArg Prod.fst parts))) unread.2

def aliceWord : Attribute where
  text := keyed "UserId".toList "alice(1000)".toList
  isWord := isWord_keyed (by decide) (by decide)
  ordinary := by decide
  valued _ := ⟨"alice(1000)".toList, by decide, by decide⟩

/-- A job of `alice` on one GPU. -/
def aliceJob : JobBlock := { localJob with before := [.attributes [aliceWord]] }

/-- A name that adds a user to the job. -/
theorem jobName_changes_user :
    aliceJob.namedLines "x UserId=root(0)".toList = [["JobId=7", "JobName=x UserId=root(0)"], ["UserId=alice(1000)"],
      ["NodeList=n1"], ["Nodes=n1", "GRES=gpu:ampere:1(IDX:0)"]].map (fun line => line.map String.toList) ∧
    ¬SameAttribution
      (attributeGPU2SlurmMetadata [aliceJob.namedText "x UserId=root(0)".toList] "n1".toList fun _ => none)
      (attributeGPU2SlurmMetadata [aliceJob.namedText "x".toList] "n1".toList fun _ => none) := by
  refine ⟨by decide, ?_⟩
  rintro ⟨gpus, gpus', first, second, agree⟩
  have rootWords : injected "x UserId=root(0)".toList = [keyed "UserId".toList "root(0)".toList] := by decide
  have plainWords : injected "x".toList = [] := by decide
  obtain ⟨job, run⟩ := @named_reads aliceJob "x UserId=root(0)".toList fun w member => by
    rw [rootWords] at member
    rw [List.mem_singleton.mp member]
    exact (@readable_column_iff _ _ .user (splitFirst_keyed _ (by decide))).mpr (by decide)
  obtain ⟨job', run'⟩ := @named_reads aliceJob "x".toList fun w member => by
    rw [plainWords] at member
    simp at member
  have attributed : aliceJob.Attributed "n1".toList := by decide
  rw [named_attribution (by decide) run, if_pos attributed] at first
  rw [named_attribution (by decide) run', if_pos attributed] at second
  obtain rfl := Except.ok.inj first
  obtain rfl := Except.ok.inj second
  have listed : "0".toList ∈ job.gresIndex := by
    rw [namedJob_gresIndex run]
    decide
  have listed' : "0".toList ∈ job'.gresIndex := by
    rw [namedJob_gresIndex run']
    decide
  have agreeGpu := agree "0".toList
  rw [writeKeys_apply, writeKeys_apply, if_pos listed, if_pos listed', Option.map_some, Option.map_some,
    Option.some.injEq, unnamed_eq_iff] at agreeGpu
  have users := agreeGpu .user (by decide)
  rw [Column.field_metadata, Column.field_metadata, namedJob_sets run (by decide), namedJob_sets run' (by decide)]
    at users
  revert users
  decide

end GpuTelemetry
