import GpuTelemetry.AutoEnums
import GpuTelemetry.CheckOutput
import GpuTelemetry.FallibleFolds

namespace GpuTelemetry

inductive BlockDeviceError
  | MISMAP
  | HEALTH_LOG_INVALID
  | SIZE_MISMATCH
  | SPARE_SPACE_LOW
  | LIFETIME_EXCEEDED
  | CRITERION_WARNING
  | LIFETIME_LOW
  | BAD_SMARTDATA
  | OK
  deriving DecidableEq

namespace BlockDeviceError

/-- The members with the values they are given; the others are `auto()`. -/
def declared : List (BlockDeviceError × Option Nat) :=
  [(.MISMAP, none), (.HEALTH_LOG_INVALID, none), (.SIZE_MISMATCH, none), (.SPARE_SPACE_LOW, none),
    (.LIFETIME_EXCEEDED, none), (.CRITERION_WARNING, some 100), (.LIFETIME_LOW, none), (.BAD_SMARTDATA, none),
    (.OK, some 200)]

def value (e : BlockDeviceError) : Nat := enumValue declared e

def name : BlockDeviceError → Str
  | .MISMAP => "MISMAP".toList
  | .HEALTH_LOG_INVALID => "HEALTH_LOG_INVALID".toList
  | .SIZE_MISMATCH => "SIZE_MISMATCH".toList
  | .SPARE_SPACE_LOW => "SPARE_SPACE_LOW".toList
  | .LIFETIME_EXCEEDED => "LIFETIME_EXCEEDED".toList
  | .CRITERION_WARNING => "CRITERION_WARNING".toList
  | .LIFETIME_LOW => "LIFETIME_LOW".toList
  | .BAD_SMARTDATA => "BAD_SMARTDATA".toList
  | .OK => "OK".toList

end BlockDeviceError

structure BlockDeviceData where
  name : Str
  model : Str
  serial : Str
  size : Int
  healthLogStatus : Bool
  readKbytes : Int
  writtenKbytes : Int
  hostReads : Int
  hostWrites : Int
  percentageUsed : Int
  spareAvailable : Int
  spareThreshold : Int

structure Disk where
  blockdev : Str
  size : Int

structure DisksManifest where
  disks : List (Str × Disk)
  distinct : (disks.map Prod.fst).Nodup

/-- What `smartctl` tells of a disk; the health log has its entries by name. -/
structure SmartData where
  modelName : Option Str
  serialNumber : Option Str
  nvmeTotalCapacity : Option Int
  nvmeSmartHealthInformationLog : Option (List (Str × Int))

/-- An issue of a disk and its text. -/
abbrev BlockdevIssue := BlockDeviceError × Str

def formatBlockdevIssues (issueList : List BlockdevIssue) : Str :=
  "; ".toList.intercalate (issueList.map fun issue => issue.1.name ++ ": ".toList ++ issue.2)

/-- The name and the serial number of a drive in the text of an issue. -/
def BlockDeviceData.title (bdData : BlockDeviceData) : Str :=
  bdData.name ++ " (".toList ++ bdData.serial ++ ")".toList

def sizeIssues (bdData : BlockDeviceData) (expected : Int) : List BlockdevIssue :=
  if bdData.size < expected then
    [(.SIZE_MISMATCH, bdData.title ++ " is undersized, size=".toList ++ intText bdData.size ++ " expected=".toList ++
      intText expected)]
  else []

def lifetimeIssues (bdData : BlockDeviceData) : List BlockdevIssue :=
  let text := bdData.title ++ " is ".toList ++ intText bdData.percentageUsed ++ "% used".toList
  if 100 < bdData.percentageUsed then [(.LIFETIME_EXCEEDED, text)]
  else if 80 < bdData.percentageUsed then [(.LIFETIME_LOW, text)]
  else []

def spareIssues (bdData : BlockDeviceData) : List BlockdevIssue :=
  if bdData.spareAvailable < bdData.spareThreshold then
    [(.SPARE_SPACE_LOW, bdData.title ++ " has low spare space, ".toList ++ intText bdData.spareAvailable ++
      " available, ".toList ++ intText bdData.spareThreshold ++ " threshold".toList)]
  else []

def smartdataIssues (bdData : BlockDeviceData) : List BlockdevIssue :=
  if bdData.readKbytes = 0 ∧ 100 < bdData.hostReads ∨ bdData.writtenKbytes = 0 ∧ 100 < bdData.hostWrites then
    [(.BAD_SMARTDATA, bdData.title ++
      " bytes read or written reports zero kb despite issued commands, suspected faulty disk reporting".toList)]
  else []

/-- `_enumerate_issues`. -/
def enumerateIssues (diskData : DisksManifest) (bdData : BlockDeviceData) : Except PyError (List BlockdevIssue) :=
  if !bdData.healthLogStatus then
    .ok [(.HEALTH_LOG_INVALID,
      "Unable to read health logs from drive ".toList ++ bdData.name ++ " (bd_data.serial)!".toList)]
  else
    (dictItem diskData.disks bdData.name).map fun disk =>
      sizeIssues bdData disk.size ++ lifetimeIssues bdData ++ spareIssues bdData ++ smartdataIssues bdData

/-- The names of the entries of a health log that are read. -/
def healthInfoKeys : List Str :=
  ["data_units_read", "data_units_written", "host_reads", "host_writes", "percentage_used", "available_spare",
    "available_spare_threshold"].map String.toList

/-- `_parse_smart_data`. -/
def parseSmartData (slotName : Str) (smartData : SmartData) : Except PyError BlockDeviceData := do
  -- `is not {}` compares with a dictionary made there and then, and is true of every log
  let healthLogExists := smartData.nvmeSmartHealthInformationLog.isSome
  let healthInfo := smartData.nvmeSmartHealthInformationLog.getD (healthInfoKeys.map fun key => (key, 0))
  let dataUnitsRead ← dictItem healthInfo "data_units_read".toList
  let dataUnitsWritten ← dictItem healthInfo "data_units_written".toList
  let hostReads ← dictItem healthInfo "host_reads".toList
  let hostWrites ← dictItem healthInfo "host_writes".toList
  let percentageUsed ← dictItem healthInfo "percentage_used".toList
  let spareAvailable ← dictItem healthInfo "available_spare".toList
  let spareThreshold ← dictItem healthInfo "available_spare_threshold".toList
  return {
    name := slotName
    model := smartData.modelName.getD []
    serial := smartData.serialNumber.getD []
    size := smartData.nvmeTotalCapacity.getD 0
    healthLogStatus := healthLogExists
    readKbytes := dataUnitsRead * 512
    writtenKbytes := dataUnitsWritten * 512
    hostReads := hostReads
    hostWrites := hostWrites
    percentageUsed := percentageUsed
    spareAvailable := spareAvailable
    spareThreshold := spareThreshold }

/-- `_blockdev_data_to_metrics`. -/
def blockdevDataToMetrics (bdData : BlockDeviceData) : List CheckMetric :=
  let called (suffix : String) := bdData.name ++ suffix.toList
  [.plain (called "_serial") (.text bdData.serial),
    .plain (called "_size") (.number bdData.size),
    .plain (called "_rkb") (.number bdData.readKbytes),
    .plain (called "_wkb") (.number bdData.writtenKbytes),
    .plain (called "_host_reads") (.number bdData.hostReads),
    .plain (called "_host_writes") (.number bdData.hostWrites),
    { CheckMetric.plain (called "_used") (.number bdData.percentageUsed) with
      units := "%".toList, metricWarn := some "80".toList, metricCrit := some "100".toList },
    { CheckMetric.plain (called "_spare") (.number bdData.spareAvailable) with
      units := "%".toList, metricCrit := some (intText bdData.spareThreshold ++ ":".toList) }]

/-- The issues by the name of the disk, of the disks that have any. -/
abbrev IssuesByDisk := List (Str × List BlockdevIssue)

def issuesByDisk (diskManifest : DisksManifest) (blockdataList : List BlockDeviceData) :
    Except PyError IssuesByDisk := do
  let items ← blockdataList.mapM fun blockdevData =>
    (enumerateIssues diskManifest blockdevData).map fun issues => (blockdevData.name, issues)
  return dictUpdate [] (items.filter fun item => item.2 ≠ [])

/-- The status that the lowest value of the issues stands for. -/
def blockdevStatus (flattenedIssues : List Nat) : ExitCode :=
  let mostCriticalIssueValue := lowest BlockDeviceError.OK.value flattenedIssues
  if mostCriticalIssueValue < BlockDeviceError.CRITERION_WARNING.value then .CRITICAL
  else if mostCriticalIssueValue < BlockDeviceError.OK.value then .CRITICAL
  else .OK

/-- The report on the disks and their issues. -/
def blockdevReport (diskCount : Nat) (blockdataList : List BlockDeviceData) (issues : IssuesByDisk) : CheckOutput :=
  { CheckOutput.named "check_blockdev".toList with
    shortMetrics :=
      [{ CheckMetric.plain "block_devices".toList (.number diskCount) with metricMin := some (decimal diskCount) }]
    longMetrics := blockdataList.map blockdevDataToMetrics
    longOut := issues.map fun item => formatBlockdevIssues item.2
    shortOut :=
      if issues = [] then []
      else "Block device(s) unhealthy: ".toList ++ ",".toList.intercalate (issues.map Prod.fst)
    checkStatus := blockdevStatus (issues.flatMap fun item => item.2.map fun issue => issue.1.value) }

/-- `process_check_blockdev`, on what `read_smartdata` returns for each disk. -/
def processCheckBlockdev (readSmartdata : Str × Disk → SmartData) (diskManifest : DisksManifest) :
    Except PyError CheckOutput := do
  let blockdataList ← diskManifest.disks.mapM fun entry => parseSmartData entry.1 (readSmartdata entry)
  let issues ← issuesByDisk diskManifest blockdataList
  return blockdevReport diskManifest.disks.length blockdataList issues

/-! ### What the report says of a disk -/

/-- The issues that are reported of a disk. -/
def issuesOfDisk (issues : IssuesByDisk) (name : Str) : List BlockdevIssue := (dictGet issues name).getD []

/-- The issues of the disks as they are reported. -/
def collectedIssues (readSmartdata : Str × Disk → SmartData) (diskManifest : DisksManifest) :
    Except PyError IssuesByDisk := do
  let blockdataList ← diskManifest.disks.mapM fun entry => parseSmartData entry.1 (readSmartdata entry)
  issuesByDisk diskManifest blockdataList

/-- The health log has every entry that is read. -/
def SmartData.Complete (smartData : SmartData) : Prop :=
  ∃ log, smartData.nvmeSmartHealthInformationLog = some log ∧ ∀ key ∈ healthInfoKeys, key ∈ log.map Prod.fst

/-- The health log is absent or empty. -/
def SmartData.NoLog (smartData : SmartData) : Prop :=
  smartData.nvmeSmartHealthInformationLog = none ∨ smartData.nvmeSmartHealthInformationLog = some []

/-- The issue comes before the warnings. -/
def BlockDeviceError.RankedCritical (e : BlockDeviceError) : Prop :=
  DeclaredBefore BlockDeviceError.declared e .CRITERION_WARNING

/-- The status and the issues that a report must have. -/
structure BlockdevVerdict (readSmartdata : Str × Disk → SmartData) (diskManifest : DisksManifest) (check : CheckOutput)
    (issues : IssuesByDisk) : Prop where
  reported : check.longOut = issues.map fun item => formatBlockdevIssues item.2
  invalid : ∀ entry ∈ diskManifest.disks,
    ((∃ text, (.HEALTH_LOG_INVALID, text) ∈ issuesOfDisk issues entry.1) ↔ (readSmartdata entry).NoLog)
  ok : check.checkStatus = .OK ↔ ∀ entry ∈ diskManifest.disks, issuesOfDisk issues entry.1 = []
  critical : (∃ entry ∈ diskManifest.disks, ∃ issue ∈ issuesOfDisk issues entry.1, issue.1.RankedCritical) →
    check.checkStatus = .CRITICAL

/-- The check returns such a report. -/
def ReportsDisks (readSmartdata : Str × Disk → SmartData) (diskManifest : DisksManifest) : Prop :=
  ∃ check issues, processCheckBlockdev readSmartdata diskManifest = .ok check ∧
    collectedIssues readSmartdata diskManifest = .ok issues ∧ BlockdevVerdict readSmartdata diskManifest check issues

/-! ### One disk -/

/-- A disk is read when its log is absent or complete. -/
theorem parseSmartData_returns (slotName : Str) {smartData : SmartData}
    (whole : smartData.nvmeSmartHealthInformationLog = none ∨ smartData.Complete) :
    ∃ bdData, parseSmartData slotName smartData = .ok bdData ∧ bdData.name = slotName ∧
      bdData.healthLogStatus = smartData.nvmeSmartHealthInformationLog.isSome := by
  have present : ∀ key ∈ healthInfoKeys, key ∈
      (smartData.nvmeSmartHealthInformationLog.getD (healthInfoKeys.map fun key => (key, 0))).map Prod.fst := by
    intro key isKey
    rcases whole with none | ⟨log, isLog, complete⟩
    · rw [none]
      simpa using isKey
    · rw [isLog]
      exact complete key isKey
  unfold parseSmartData
  generalize smartData.nvmeSmartHealthInformationLog.getD (healthInfoKeys.map fun key => (key, 0)) =
    healthInfo at present
  obtain ⟨dataUnitsRead, dataUnitsReadItem⟩ := dictItem_returns (present "data_units_read".toList (by decide))
  obtain ⟨dataUnitsWritten, dataUnitsWrittenItem⟩ := dictItem_returns (present "data_units_written".toList (by decide))
  obtain ⟨hostReads, hostReadsItem⟩ := dictItem_returns (present "host_reads".toList (by decide))
  obtain ⟨hostWrites, hostWritesItem⟩ := dictItem_returns (present "host_writes".toList (by decide))
  obtain ⟨percentageUsed, percentageUsedItem⟩ := dictItem_returns (present "percentage_used".toList (by decide))
  obtain ⟨spareAvailable, spareAvailableItem⟩ := dictItem_returns (present "available_spare".toList (by decide))
  obtain ⟨spareThreshold, spareThresholdItem⟩ :=
    dictItem_returns (present "available_spare_threshold".toList (by decide))
  simp only [dataUnitsReadItem, dataUnitsWrittenItem, hostReadsItem, hostWritesItem, percentageUsedItem,
    spareAvailableItem, spareThresholdItem, bind, Except.bind]
  exact ⟨_, rfl, rfl, rfl⟩

/-- An empty log raises. -/
theorem parseSmartData_empty (slotName : Str) {smartData : SmartData}
    (empty : smartData.nvmeSmartHealthInformationLog = some []) (bdData : BlockDeviceData) :
    parseSmartData slotName smartData ≠ .ok bdData := by
  unfold parseSmartData
  rw [empty]
  intro run
  cases run

/-- The kinds of issues that are looked for in a health log. -/
def logIssueKinds : List BlockDeviceError :=
  [.SIZE_MISMATCH, .LIFETIME_EXCEEDED, .LIFETIME_LOW, .SPARE_SPACE_LOW, .BAD_SMARTDATA]

theorem logIssue_kind {bdData : BlockDeviceData} {expected : Int} {issue : BlockdevIssue}
    (member : issue ∈ sizeIssues bdData expected ++ lifetimeIssues bdData ++ spareIssues bdData ++
      smartdataIssues bdData) : issue.1 ∈ logIssueKinds := by
  have single {p : Prop} [Decidable p] {kind : BlockDeviceError} {text : Str} (known : kind ∈ logIssueKinds)
      (inList : issue ∈ if p then [(kind, text)] else []) : issue.1 ∈ logIssueKinds := by
    split at inList
    · rwa [List.mem_singleton.mp inList]
    · cases inList
  rw [List.mem_append, List.mem_append, List.mem_append] at member
  rcases member with ((size | lifetime) | spare) | smartdata
  · exact single (by decide) size
  · unfold lifetimeIssues at lifetime
    dsimp only at lifetime
    split at lifetime
    · rw [List.mem_singleton.mp lifetime]
      exact show BlockDeviceError.LIFETIME_EXCEEDED ∈ logIssueKinds by decide
    · exact single (by decide) lifetime
  · exact single (by decide) spare
  · exact single (by decide) smartdata

/-- The issues of a disk in the manifest: the log cannot be read, or there are
issues of the other kinds. -/
theorem enumerateIssues_returns {diskManifest : DisksManifest} {bdData : BlockDeviceData}
    (known : bdData.name ∈ diskManifest.disks.map Prod.fst) :
    ∃ issues, enumerateIssues diskManifest bdData = .ok issues ∧
      ((∃ text, (.HEALTH_LOG_INVALID, text) ∈ issues) ↔ bdData.healthLogStatus = false) ∧
      ∀ issue ∈ issues, issue.1 ∈ .HEALTH_LOG_INVALID :: logIssueKinds := by
  unfold enumerateIssues
  cases bdData.healthLogStatus with
  | false =>
    refine ⟨_, rfl, iff_of_true ⟨_, List.mem_singleton.mpr rfl⟩ rfl, fun issue member => ?_⟩
    rw [List.mem_singleton.mp member]
    exact List.mem_cons_self
  | true =>
    obtain ⟨disk, found⟩ := dictItem_returns known
    rw [found]
    refine ⟨_, rfl, iff_of_false ?_ (by decide), fun issue member => List.mem_cons_of_mem _ (logIssue_kind member)⟩
    rintro ⟨text, member⟩
    exact absurd (logIssue_kind member) (show BlockDeviceError.HEALTH_LOG_INVALID ∉ logIssueKinds by decide)

/-! ### All disks -/

/-- The issues of the disks, one entry for each of the manifest. -/
def RelatesIssues (readSmartdata : Str × Disk → SmartData) (entry : Str × Disk)
    (item : Str × List BlockdevIssue) : Prop :=
  item.1 = entry.1 ∧
    ((∃ text, (.HEALTH_LOG_INVALID, text) ∈ item.2) ↔
      (readSmartdata entry).nvmeSmartHealthInformationLog.isSome = false) ∧
    ∀ issue ∈ item.2, issue.1 ∈ .HEALTH_LOG_INVALID :: logIssueKinds

/-- The issues of the disks that have any, by the names of the disks. -/
def keepIssues (items : List (Str × List BlockdevIssue)) : IssuesByDisk :=
  dictUpdate [] (items.filter fun item => item.2 ≠ [])

theorem keepIssues_eq {items : List (Str × List BlockdevIssue)} (distinct : (items.map Prod.fst).Nodup) :
    keepIssues items = items.filter fun item => item.2 ≠ [] := by
  have kept : ((items.filter fun item => item.2 ≠ []).map Prod.fst).Nodup :=
    distinct.sublist (List.filter_sublist.map Prod.fst)
  exact dictUpdate_of_new (by simpa using kept)

theorem issuesOfDisk_keepIssues {items : List (Str × List BlockdevIssue)} (distinct : (items.map Prod.fst).Nodup)
    {item : Str × List BlockdevIssue} (member : item ∈ items) : issuesOfDisk (keepIssues items) item.1 = item.2 := by
  have kept : ((items.filter fun item => item.2 ≠ []).map Prod.fst).Nodup :=
    distinct.sublist (List.filter_sublist.map Prod.fst)
  rw [keepIssues_eq distinct, issuesOfDisk]
  by_cases none : item.2 = []
  · rw [dictGet_eq_none, none]
    · rfl
    · rintro inKeys
      obtain ⟨other, inFilter, same⟩ := List.mem_map.mp inKeys
      obtain ⟨inItems, some⟩ := List.mem_filter.mp inFilter
      obtain rfl := List.inj_on_of_nodup_map distinct inItems member same
      exact absurd none (of_decide_eq_true some)
  · rw [dictGet_of_mem kept (List.mem_filter.mpr ⟨member, decide_eq_true none⟩)]
    rfl

/-- The check returns when every log is absent or complete. -/
theorem processCheckBlockdev_returns {readSmartdata : Str × Disk → SmartData} {diskManifest : DisksManifest}
    (whole : ∀ entry ∈ diskManifest.disks,
      (readSmartdata entry).nvmeSmartHealthInformationLog = none ∨ (readSmartdata entry).Complete) :
    ∃ blockdataList items,
      processCheckBlockdev readSmartdata diskManifest =
          .ok (blockdevReport diskManifest.disks.length blockdataList (keepIssues items)) ∧
        collectedIssues readSmartdata diskManifest = .ok (keepIssues items) ∧
        List.Forall₂ (RelatesIssues readSmartdata) diskManifest.disks items := by
  obtain ⟨blockdataList, reads, parsed⟩ := mapM_returns fun entry member =>
    parseSmartData_returns entry.1 (whole entry member)
  have enumerated : ∀ bdData ∈ blockdataList, ∃ item,
      (enumerateIssues diskManifest bdData).map (fun issues => (bdData.name, issues)) = .ok item ∧
        item.1 = bdData.name ∧ ((∃ text, (.HEALTH_LOG_INVALID, text) ∈ item.2) ↔ bdData.healthLogStatus = false) ∧
          ∀ issue ∈ item.2, issue.1 ∈ .HEALTH_LOG_INVALID :: logIssueKinds := by
    intro bdData member
    obtain ⟨entry, inDisks, named, -⟩ := (mem_of_forall₂ parsed).2 bdData member
    obtain ⟨issues, run, invalid, kinds⟩ := @enumerateIssues_returns diskManifest bdData
      (List.mem_map.mpr ⟨entry, inDisks, named.symm⟩)
    exact ⟨(bdData.name, issues), by rw [run]; rfl, rfl, invalid, kinds⟩
  obtain ⟨items, enumerates, ofEach⟩ := mapM_returns enumerated
  have issues : issuesByDisk diskManifest blockdataList = .ok (keepIssues items) := by
    rw [issuesByDisk, enumerates]
    rfl
  refine ⟨blockdataList, items, ?_, ?_, forall₂_through ?_ parsed ofEach⟩
  · rw [processCheckBlockdev, reads]
    simp only [bind, Except.bind, issues]
    rfl
  · rw [collectedIssues, reads]
    exact issues
  · rintro entry bdData item ⟨named, status⟩ ⟨sameName, invalid, kinds⟩
    exact ⟨sameName.trans named, by rw [invalid, status], kinds⟩

/-! ### The status -/

theorem logIssueKinds_value : ∀ kind ∈ .HEALTH_LOG_INVALID :: logIssueKinds,
    kind.value < BlockDeviceError.OK.value := by
  decide

theorem BlockDeviceError.value_lt_of_rankedCritical {e : BlockDeviceError} (ranked : e.RankedCritical) :
    e.value < BlockDeviceError.CRITERION_WARNING.value :=
  (enumValue_lt_iff (by decide) (by cases e <;> decide) (by decide)).mpr ranked

theorem blockdevStatus_ok_iff (flattenedIssues : List Nat) :
    blockdevStatus flattenedIssues = .OK ↔ ∀ v ∈ flattenedIssues, BlockDeviceError.OK.value ≤ v := by
  have warned := lowest_lt_iff (show BlockDeviceError.OK.value ≤ BlockDeviceError.OK.value from le_refl _)
    flattenedIssues
  unfold blockdevStatus
  dsimp only
  split
  · rename_i critical
    have below := lt_trans critical (show _ < BlockDeviceError.OK.value by decide)
    obtain ⟨v, member, less⟩ := warned.mp below
    exact iff_of_false (by decide) fun all => absurd (all v member) (not_le_of_gt less)
  · split
    · rename_i below
      obtain ⟨v, member, less⟩ := warned.mp below
      exact iff_of_false (by decide) fun all => absurd (all v member) (not_le_of_gt less)
    · rename_i above
      exact iff_of_true rfl fun v member => le_of_not_gt fun less => above (warned.mpr ⟨v, member, less⟩)

theorem blockdevStatus_critical {flattenedIssues : List Nat} {v : Nat} (member : v ∈ flattenedIssues)
    (less : v < BlockDeviceError.CRITERION_WARNING.value) : blockdevStatus flattenedIssues = .CRITICAL := by
  have below := (lowest_lt_iff
    (show BlockDeviceError.CRITERION_WARNING.value ≤ BlockDeviceError.OK.value by decide) flattenedIssues).mpr
    ⟨v, member, less⟩
  exact if_pos below

theorem noLog_iff {smartData : SmartData} (whole : smartData.nvmeSmartHealthInformationLog ≠ some []) :
    smartData.NoLog ↔ smartData.nvmeSmartHealthInformationLog.isSome = false := by
  rw [SmartData.NoLog, Option.isSome_eq_false_iff, Option.isNone_iff_eq_none]
  exact or_iff_left whole

section

variable {readSmartdata : Str × Disk → SmartData} {diskManifest : DisksManifest}
  {items : List (Str × List BlockdevIssue)}
  (related : List.Forall₂ (RelatesIssues readSmartdata) diskManifest.disks items)
include related

theorem related_distinct : (items.map Prod.fst).Nodup := by
  have keys : items.map Prod.fst = diskManifest.disks.map Prod.fst := by
    rw [← List.forall₂_eq_eq_eq, List.forall₂_map_left_iff, List.forall₂_map_right_iff]
    exact (related.imp fun _ _ relates => relates.1).flip
  rw [keys]
  exact diskManifest.distinct

/-- The issues that are reported of a disk of the manifest. -/
theorem issuesOfDisk_related {entry : Str × Disk} (member : entry ∈ diskManifest.disks) :
    ∃ item ∈ items, RelatesIssues readSmartdata entry item ∧ issuesOfDisk (keepIssues items) entry.1 = item.2 := by
  obtain ⟨item, inItems, relates⟩ := (mem_of_forall₂ related).1 entry member
  exact ⟨item, inItems, relates, by rw [← relates.1, issuesOfDisk_keepIssues (related_distinct related) inItems]⟩

theorem mem_blockdevValues {v : Nat} :
    v ∈ ((keepIssues items).flatMap fun item => item.2.map fun issue => issue.1.value) ↔
      ∃ entry ∈ diskManifest.disks, ∃ issue ∈ issuesOfDisk (keepIssues items) entry.1, issue.1.value = v := by
  have distinct := related_distinct related
  constructor
  · intro member
    obtain ⟨item, inKept, inValues⟩ := List.mem_flatMap.mp member
    obtain ⟨issue, inItem, isValue⟩ := List.mem_map.mp inValues
    rw [keepIssues_eq distinct] at inKept
    have inItems := List.mem_of_mem_filter inKept
    obtain ⟨entry, inDisks, relates⟩ := (mem_of_forall₂ related).2 item inItems
    refine ⟨entry, inDisks, issue, ?_, isValue⟩
    rwa [← relates.1, issuesOfDisk_keepIssues distinct inItems]
  · rintro ⟨entry, inDisks, issue, inIssues, isValue⟩
    obtain ⟨item, inItems, -, isItem⟩ := issuesOfDisk_related related inDisks
    rw [isItem] at inIssues
    have some : item.2 ≠ [] := List.ne_nil_of_mem inIssues
    rw [keepIssues_eq distinct]
    exact List.mem_flatMap.mpr ⟨item, List.mem_filter.mpr ⟨inItems, decide_eq_true some⟩,
      List.mem_map.mpr ⟨issue, inIssues, isValue⟩⟩

/-- The status is OK exactly when no disk has an issue. -/
theorem blockdevReport_ok_iff (diskCount : Nat) (blockdataList : List BlockDeviceData) :
    (blockdevReport diskCount blockdataList (keepIssues items)).checkStatus = .OK ↔
      ∀ entry ∈ diskManifest.disks, issuesOfDisk (keepIssues items) entry.1 = [] := by
  rw [blockdevReport, blockdevStatus_ok_iff]
  constructor
  · intro all entry member
    obtain ⟨item, -, relates, isItem⟩ := issuesOfDisk_related related member
    refine List.eq_nil_iff_forall_not_mem.mpr fun issue inIssues => ?_
    have above := all _ ((mem_blockdevValues related).mpr ⟨entry, member, issue, inIssues, rfl⟩)
    rw [isItem] at inIssues
    exact absurd (logIssueKinds_value _ (relates.2.2 issue inIssues)) (not_lt_of_ge above)
  · intro none v member
    obtain ⟨entry, inDisks, issue, inIssues, -⟩ := (mem_blockdevValues related).mp member
    rw [none entry inDisks] at inIssues
    exact absurd inIssues List.not_mem_nil

/-- A report on the issues of the disks, where each log is absent or is read. -/
theorem blockdevReport_verdict
    (noneEmpty : ∀ entry ∈ diskManifest.disks, (readSmartdata entry).nvmeSmartHealthInformationLog ≠ some [])
    (blockdataList : List BlockDeviceData) :
    BlockdevVerdict readSmartdata diskManifest
      (blockdevReport diskManifest.disks.length blockdataList (keepIssues items)) (keepIssues items) where
  reported := rfl
  invalid := by
    intro entry member
    obtain ⟨item, -, relates, isItem⟩ := issuesOfDisk_related related member
    rw [isItem, relates.2.1, noLog_iff (noneEmpty entry member)]
  ok := blockdevReport_ok_iff related _ blockdataList
  critical := by
    rintro ⟨entry, member, issue, inIssues, ranked⟩
    exact blockdevStatus_critical ((mem_blockdevValues related).mpr ⟨entry, member, issue, inIssues, rfl⟩)
      (BlockDeviceError.value_lt_of_rankedCritical ranked)

end

/-- The check does not raise and says what it must of the disks exactly when no
disk has an empty health log. -/
theorem processCheckBlockdev_reportsDisks_iff (readSmartdata : Str × Disk → SmartData) (diskManifest : DisksManifest)
    (whole : ∀ entry ∈ diskManifest.disks, (readSmartdata entry).NoLog ∨ (readSmartdata entry).Complete) :
    ReportsDisks readSmartdata diskManifest ↔
      ∀ entry ∈ diskManifest.disks, (readSmartdata entry).nvmeSmartHealthInformationLog ≠ some [] := by
  constructor
  · rintro ⟨check, issues, run, -, -⟩ entry member empty
    obtain ⟨blockdataList, reads, -⟩ := bind_returned run
    obtain ⟨bdData, parsed⟩ := returned_of_mapM reads entry member
    exact parseSmartData_empty entry.1 empty bdData parsed
  · intro noneEmpty
    obtain ⟨blockdataList, items, run, collected, related⟩ := @processCheckBlockdev_returns readSmartdata
      diskManifest fun entry member => by
        rcases whole entry member with (none | empty) | complete
        · exact .inl none
        · exact absurd empty (noneEmpty entry member)
        · exact .inr complete
    exact ⟨_, _, run, collected, blockdevReport_verdict related noneEmpty blockdataList⟩

/-- A disk that is half used, and one without a health log. -/
theorem processCheckBlockdev_reportsDisks_iff_complete :
    let diskManifest : DisksManifest :=
      ⟨[("slot0".toList, ⟨"nvme0n1".toList, 100⟩), ("slot1".toList, ⟨"nvme1n1".toList, 100⟩)], by decide⟩
    let log := healthInfoKeys.map fun key => (key, (50 : Int))
    let readSmartdata : Str × Disk → SmartData := fun entry =>
      ⟨none, none, some 100, if entry.1 = "slot0".toList then some log else none⟩
    ReportsDisks readSmartdata diskManifest ↔
      ∀ entry ∈ diskManifest.disks, (readSmartdata entry).nvmeSmartHealthInformationLog ≠ some [] := by
  intro diskManifest log readSmartdata
  refine processCheckBlockdev_reportsDisks_iff _ _ fun entry _ => ?_
  by_cases first : entry.1 = "slot0".toList
  · exact .inr ⟨log, if_pos first, by decide⟩
  · exact .inl (.inl (if_neg first))

/-- A disk with an empty health log: the check raises. -/
theorem processCheckBlockdev_raises_empty :
    let diskManifest : DisksManifest := ⟨[("slot0".toList, ⟨"nvme0n1".toList, 100⟩)], by decide⟩
    let readSmartdata : Str × Disk → SmartData := fun _ => ⟨none, none, some 100, some []⟩
    (∀ entry ∈ diskManifest.disks, (readSmartdata entry).NoLog ∨ (readSmartdata entry).Complete) ∧
      processCheckBlockdev readSmartdata diskManifest = .error (.keyError "'data_units_read'".toList) ∧
      ¬ReportsDisks readSmartdata diskManifest := by
  have raises : processCheckBlockdev (fun _ => ⟨none, none, some 100, some []⟩)
      ⟨[("slot0".toList, ⟨"nvme0n1".toList, 100⟩)], by decide⟩ = .error (.keyError "'data_units_read'".toList) := by
    rfl
  refine ⟨fun _ _ => .inl (.inr rfl), raises, ?_⟩
  rintro ⟨check, issues, run, -, -⟩
  rw [raises] at run
  cases run

end GpuTelemetry
