import GpuTelemetry.AutoEnums
import GpuTelemetry.CheckPci

namespace GpuTelemetry

inductive IBLinkIssue
  | MISBIND
  | MLX5_MISMATCH
  | MLX5_PROTOCOL_MISMATCH
  | LINK_RATE_MISMATCH
  | LINK_NOT_UP
  | LINK_BAD_STATE
  | LINK_OPERSTATE_DOWN
  | CRITERION_NOT_CRITICAL
  | LINK_IN_INIT
  | FIRMWARE_MISMATCH
  | CRITERION_NOT_WARNING
  | CRITERION_OK
  deriving DecidableEq

namespace IBLinkIssue

/-- The members with the values they are given; the others are `auto()`. -/
def declared : List (IBLinkIssue × Option Nat) :=
  [(.MISBIND, none), (.MLX5_MISMATCH, none), (.MLX5_PROTOCOL_MISMATCH, none), (.LINK_RATE_MISMATCH, none),
    (.LINK_NOT_UP, none), (.LINK_BAD_STATE, none), (.LINK_OPERSTATE_DOWN, none), (.CRITERION_NOT_CRITICAL, some 100),
    (.LINK_IN_INIT, none), (.FIRMWARE_MISMATCH, none), (.CRITERION_NOT_WARNING, some 200), (.CRITERION_OK, some 1000)]

def value (e : IBLinkIssue) : Nat := enumValue declared e

def name : IBLinkIssue → Str
  | .MISBIND => "MISBIND".toList
  | .MLX5_MISMATCH => "MLX5_MISMATCH".toList
  | .MLX5_PROTOCOL_MISMATCH => "MLX5_PROTOCOL_MISMATCH".toList
  | .LINK_RATE_MISMATCH => "LINK_RATE_MISMATCH".toList
  | .LINK_NOT_UP => "LINK_NOT_UP".toList
  | .LINK_BAD_STATE => "LINK_BAD_STATE".toList
  | .LINK_OPERSTATE_DOWN => "LINK_OPERSTATE_DOWN".toList
  | .CRITERION_NOT_CRITICAL => "CRITERION_NOT_CRITICAL".toList
  | .LINK_IN_INIT => "LINK_IN_INIT".toList
  | .FIRMWARE_MISMATCH => "FIRMWARE_MISMATCH".toList
  | .CRITERION_NOT_WARNING => "CRITERION_NOT_WARNING".toList
  | .CRITERION_OK => "CRITERION_OK".toList

end IBLinkIssue

structure IBLinkState where
  slotId : Str
  pciId : Str
  ibId : Str
  mlxId : Str
  desc : Option Str
  fwVersion : Option Str
  active : Option Bool
  linkState : Option Str
  linkType : Option Str
  linkRate : Option Str
  operstate : Option Bool

structure IBInterface where
  mlx : Str
  desc : Str

structure IBManifest where
  linkRate : Str
  firmwareVersion : List Str
  interfaces : List (Str × IBInterface)

/-- The manifest of a node; the `ib` section may be missing. -/
structure NodeManifest where
  pci : List (Str × PciDevice)
  ib : Option IBManifest
  distinct : (pci.map Prod.fst).Nodup

/-- The state that is read of a card is the state of that card. -/
structure IBLinkCheck where
  readCardstate : Str → PciDevice → IBLinkState
  reads : ∀ pciId pciInfo, (readCardstate pciId pciInfo).pciId = pciId

/-- An issue of a link and its text. -/
abbrev LinkIssue := IBLinkIssue × Str

/-- The issue that is added under a condition. -/
def issueWhen (condition : Bool) (issue : IBLinkIssue) (text : Str) : List LinkIssue :=
  if condition then [(issue, text)] else []

/-- The issues of a link that is bound to the device of its slot, in the order of the checks. -/
def linkIssues (devSlot : Str) (linkState : IBLinkState) (ibManifest : IBManifest) (ibintfSpec : IBInterface) :
    List LinkIssue :=
  let link := devSlot ++ "(".toList ++ linkState.ibId ++ ")".toList
  let isActive := linkState.active = some true
  let notUp := link ++ " is not up, link state is ".toList ++ formatOptional linkState.linkState
  issueWhen (ibintfSpec.mlx ≠ linkState.mlxId) .MLX5_MISMATCH
      (link ++ " is bound to ".toList ++ linkState.mlxId ++ ", expected ".toList ++ ibintfSpec.mlx) ++
    issueWhen (linkState.fwVersion ∉ ibManifest.firmwareVersion.map some) .FIRMWARE_MISMATCH
      (link ++ " has fw version ".toList ++ formatOptional linkState.fwVersion ++ ", expected [".toList ++
        ",".toList.intercalate ibManifest.firmwareVersion ++ "]".toList) ++
    issueWhen (linkState.linkType ≠ some "InfiniBand".toList) .MLX5_PROTOCOL_MISMATCH
      (link ++ " is not presenting as an InfiniBand link!".toList) ++
    issueWhen (¬isActive) .LINK_NOT_UP notUp ++
    issueWhen (linkState.linkState ≠ some "4: ACTIVE".toList)
      (if linkState.linkState = some "2: INIT".toList then .LINK_IN_INIT else .LINK_BAD_STATE) notUp ++
    issueWhen (isActive ∧ linkState.linkRate ≠ some ibManifest.linkRate) .LINK_RATE_MISMATCH
      (link ++ " has degraded link ".toList ++ formatOptional linkState.linkRate) ++
    issueWhen (linkState.linkState = some "4: ACTIVE".toList ∧ linkState.operstate ≠ some true) .LINK_OPERSTATE_DOWN
      (link ++ " is ACTIVE, but the logical interface is down(?!)".toList)

/-- `manifest["ib"]`. -/
def ibSection (manifest : NodeManifest) : Except PyError IBManifest :=
  match manifest.ib with
  | some ibManifest => .ok ibManifest
  | none => .error (.keyError "'ib'".toList)

def validateIb (linkState : IBLinkState) (manifest : NodeManifest) : Except PyError (List LinkIssue) := do
  let pciSpec ← dictItem manifest.pci linkState.pciId
  if !linkState.ibId.isSuffixOf pciSpec.dev then
    -- what else there is to read may be of another card
    return [(.MISBIND, pciSpec.slot ++ " is bound to ".toList ++ linkState.ibId ++ ", expected ".toList ++ pciSpec.dev)]
  let ibManifest ← ibSection manifest
  let ibintfSpec ← dictItem ibManifest.interfaces linkState.ibId
  return linkIssues pciSpec.slot linkState ibManifest ibintfSpec

def formatLinkIssues (perCardIssues : List LinkIssue) : Str :=
  "; ".toList.intercalate (perCardIssues.map fun issue => strip (issue.1.name ++ ": ".toList ++ issue.2))

/-- The InfiniBand devices of a node. -/
def ibDevices (monitoredDevices : NodeManifest) : List (Str × PciDevice) :=
  monitoredDevices.pci.filter fun entry => entry.2.type = some "ib".toList

/-- The status that the lowest value of the issues stands for. -/
def iblinkStatus (flattenIssues : List Nat) : ExitCode :=
  let lowestIssue := lowest IBLinkIssue.CRITERION_OK.value flattenIssues
  if IBLinkIssue.CRITERION_NOT_WARNING.value < lowestIssue then .OK
  else if IBLinkIssue.CRITERION_NOT_CRITICAL.value < lowestIssue then .WARN
  else .CRITICAL

/-- The report on the issues of the cards. -/
def iblinkReport (validation : List (List LinkIssue)) : CheckOutput :=
  let goodCards := validation.countP fun badResult => badResult = []
  { CheckOutput.named "check_iblink".toList with
    checkStatus := iblinkStatus (validation.flatten.map fun linkIssue => linkIssue.1.value)
    shortOut := "up: ".toList ++ decimal goodCards ++ ", down: ".toList ++
      intText ((validation.length : Int) - (goodCards : Int))
    longOut := (validation.map formatLinkIssues).filter fun issueMsg => issueMsg ≠ [] }

def processIblink (obj : IBLinkCheck) (monitoredDevices : NodeManifest) : Except PyError CheckOutput := do
  let cards := (ibDevices monitoredDevices).map fun entry => obj.readCardstate entry.1 entry.2
  let validation ← cards.mapM fun x => validateIb x monitoredDevices
  return iblinkReport validation

/-! ### What the report says of the cards -/

def IBLinkIssue.IsCritical (e : IBLinkIssue) : Prop := DeclaredBefore IBLinkIssue.declared e .CRITERION_NOT_CRITICAL

def IBLinkIssue.IsNonCritical (e : IBLinkIssue) : Prop :=
  DeclaredBefore IBLinkIssue.declared .CRITERION_NOT_CRITICAL e ∧
    DeclaredBefore IBLinkIssue.declared e .CRITERION_NOT_WARNING

instance (e : IBLinkIssue) : Decidable e.IsCritical := inferInstanceAs (Decidable (DeclaredBefore _ _ _))

instance (e : IBLinkIssue) : Decidable e.IsNonCritical := inferInstanceAs (Decidable (_ ∧ _))

/-- The status and the counts that a report must have, from the issues of each card. -/
structure IblinkVerdict (deviceCount : Nat) (validation : List (List LinkIssue)) (check : CheckOutput) : Prop where
  critical : check.checkStatus = .CRITICAL ↔ ∃ card ∈ validation, ∃ issue ∈ card, issue.1.IsCritical
  warn : check.checkStatus = .WARN ↔
    (∃ card ∈ validation, card ≠ []) ∧ ∀ card ∈ validation, ∀ issue ∈ card, issue.1.IsNonCritical
  ok : check.checkStatus = .OK ↔ ∀ card ∈ validation, card = []
  counts : ∃ up down, check.shortOut = "up: ".toList ++ decimal up ++ ", down: ".toList ++ decimal down ∧
    up = (validation.filter fun card => card = []).length ∧ up + down = deviceCount

/-! ### One card -/

/-- The kinds of issues that a card can have. -/
def linkIssueKinds : List IBLinkIssue :=
  [.MISBIND, .MLX5_MISMATCH, .FIRMWARE_MISMATCH, .MLX5_PROTOCOL_MISMATCH, .LINK_NOT_UP, .LINK_IN_INIT, .LINK_BAD_STATE,
    .LINK_RATE_MISMATCH, .LINK_OPERSTATE_DOWN]

theorem issueWhen_kind {condition : Bool} {kind : IBLinkIssue} {text : Str} (known : kind ∈ linkIssueKinds) :
    ∀ issue ∈ issueWhen condition kind text, issue.1 ∈ linkIssueKinds := by
  intro issue member
  unfold issueWhen at member
  split at member
  · rwa [List.mem_singleton.mp member]
  · cases member

theorem linkIssues_kind (devSlot : Str) (linkState : IBLinkState) (ibManifest : IBManifest) (ibintfSpec : IBInterface) :
    ∀ issue ∈ linkIssues devSlot linkState ibManifest ibintfSpec, issue.1 ∈ linkIssueKinds := by
  have downKind : (if linkState.linkState = some "2: INIT".toList then IBLinkIssue.LINK_IN_INIT else .LINK_BAD_STATE) ∈
      linkIssueKinds := by
    split <;> decide
  intro issue member
  simp only [linkIssues, List.mem_append] at member
  rcases member with (((((mismatch | firmware) | protocol) | notUp) | state) | rate) | operstate
  · exact issueWhen_kind (by decide) issue mismatch
  · exact issueWhen_kind (by decide) issue firmware
  · exact issueWhen_kind (by decide) issue protocol
  · exact issueWhen_kind (by decide) issue notUp
  · exact issueWhen_kind downKind issue state
  · exact issueWhen_kind (by decide) issue rate
  · exact issueWhen_kind (by decide) issue operstate

/-- A card in the manifest is validated when the interface that is looked up is described. -/
theorem validateIb_returns {monitoredDevices : NodeManifest} {linkState : IBLinkState} {pciSpec : PciDevice}
    (member : (linkState.pciId, pciSpec) ∈ monitoredDevices.pci)
    (described : linkState.ibId <:+ pciSpec.dev →
      ∃ ibManifest, monitoredDevices.ib = some ibManifest ∧ linkState.ibId ∈ ibManifest.interfaces.map Prod.fst) :
    ∃ issues, validateIb linkState monitoredDevices = .ok issues ∧ ∀ issue ∈ issues, issue.1 ∈ linkIssueKinds := by
  unfold validateIb
  rw [dictItem_of_mem monitoredDevices.distinct member]
  cases bound : linkState.ibId.isSuffixOf pciSpec.dev with
  | false =>
    refine ⟨[(.MISBIND, _)], by simp only [bind, Except.bind, bound]; rfl, fun issue isMisbind => ?_⟩
    rw [List.mem_singleton.mp isMisbind]
    exact List.mem_cons_self
  | true =>
    obtain ⟨ibManifest, isSection, inInterfaces⟩ := described (List.isSuffixOf_iff_suffix.mp bound)
    obtain ⟨ibintfSpec, found⟩ := dictItem_returns inInterfaces
    exact ⟨_, by simp only [bind, Except.bind, bound, ibSection, isSection, found]; rfl, linkIssues_kind _ _ _ _⟩

/-! ### The status -/

theorem linkIssueKinds_critical_iff : ∀ kind ∈ linkIssueKinds,
    (¬IBLinkIssue.CRITERION_NOT_CRITICAL.value < kind.value ↔ kind.IsCritical) ∧
      (IBLinkIssue.CRITERION_NOT_CRITICAL.value < kind.value ↔ kind.IsNonCritical) ∧
      ¬IBLinkIssue.CRITERION_NOT_WARNING.value < kind.value := by
  decide

theorem iblinkStatus_ok_iff (flattenIssues : List Nat) :
    iblinkStatus flattenIssues = .OK ↔ ∀ v ∈ flattenIssues, IBLinkIssue.CRITERION_NOT_WARNING.value < v := by
  have above := lt_lowest_iff
    (show IBLinkIssue.CRITERION_NOT_WARNING.value < IBLinkIssue.CRITERION_OK.value by decide) flattenIssues
  rw [← above, iblinkStatus]
  split
  · exact iff_of_true rfl ‹_›
  · split <;> exact iff_of_false (by decide) ‹_›

theorem iblinkStatus_critical_iff (flattenIssues : List Nat) :
    iblinkStatus flattenIssues = .CRITICAL ↔ ∃ v ∈ flattenIssues, ¬IBLinkIssue.CRITERION_NOT_CRITICAL.value < v := by
  have above := lt_lowest_iff
    (show IBLinkIssue.CRITERION_NOT_CRITICAL.value < IBLinkIssue.CRITERION_OK.value by decide) flattenIssues
  have order : IBLinkIssue.CRITERION_NOT_CRITICAL.value < IBLinkIssue.CRITERION_NOT_WARNING.value := by decide
  have some : (∃ v ∈ flattenIssues, ¬IBLinkIssue.CRITERION_NOT_CRITICAL.value < v) ↔
      ¬IBLinkIssue.CRITERION_NOT_CRITICAL.value < lowest IBLinkIssue.CRITERION_OK.value flattenIssues := by
    rw [above]
    push Not
    rfl
  rw [some, iblinkStatus]
  split
  · rename_i ok
    exact iff_of_false (by decide) (not_not.mpr (lt_trans order ok))
  · split
    · exact iff_of_false (by decide) (not_not.mpr ‹_›)
    · exact iff_of_true rfl ‹_›

/-- The other statuses leave the warning. -/
theorem iblinkStatus_warn_iff (flattenIssues : List Nat) :
    iblinkStatus flattenIssues = .WARN ↔
      iblinkStatus flattenIssues ≠ .CRITICAL ∧ iblinkStatus flattenIssues ≠ .OK := by
  unfold iblinkStatus
  dsimp only
  split
  · simp
  · split <;> simp

section

variable {validation : List (List LinkIssue)}

theorem mem_issueValues {v : Nat} : v ∈ validation.flatten.map (fun linkIssue => linkIssue.1.value) ↔
    ∃ card ∈ validation, ∃ issue ∈ card, issue.1.value = v := by
  simp only [List.mem_map, List.mem_flatten]
  constructor
  · rintro ⟨issue, ⟨card, inValidation, inCard⟩, isValue⟩
    exact ⟨card, inValidation, issue, inCard, isValue⟩
  · rintro ⟨card, inValidation, issue, inCard, isValue⟩
    exact ⟨issue, ⟨card, inValidation, inCard⟩, isValue⟩

variable (kinds : ∀ card ∈ validation, ∀ issue ∈ card, issue.1 ∈ linkIssueKinds)
include kinds

theorem iblinkReport_critical_iff : (iblinkReport validation).checkStatus = .CRITICAL ↔
    ∃ card ∈ validation, ∃ issue ∈ card, issue.1.IsCritical := by
  rw [iblinkReport, iblinkStatus_critical_iff]
  constructor
  · rintro ⟨v, member, low⟩
    obtain ⟨card, inValidation, issue, inCard, rfl⟩ := mem_issueValues.mp member
    exact ⟨card, inValidation, issue, inCard,
      (linkIssueKinds_critical_iff _ (kinds card inValidation issue inCard)).1.mp low⟩
  · rintro ⟨card, inValidation, issue, inCard, isCritical⟩
    exact ⟨_, mem_issueValues.mpr ⟨card, inValidation, issue, inCard, rfl⟩,
      (linkIssueKinds_critical_iff _ (kinds card inValidation issue inCard)).1.mpr isCritical⟩

theorem iblinkReport_ok_iff : (iblinkReport validation).checkStatus = .OK ↔ ∀ card ∈ validation, card = [] := by
  rw [iblinkReport, iblinkStatus_ok_iff]
  constructor
  · intro above card inValidation
    refine List.eq_nil_iff_forall_not_mem.mpr fun issue inCard => ?_
    exact (linkIssueKinds_critical_iff _ (kinds card inValidation issue inCard)).2.2
      (above _ (mem_issueValues.mpr ⟨card, inValidation, issue, inCard, rfl⟩))
  · intro none v member
    obtain ⟨card, inValidation, issue, inCard, -⟩ := mem_issueValues.mp member
    rw [none card inValidation] at inCard
    exact absurd inCard List.not_mem_nil

theorem iblinkReport_warn_iff : (iblinkReport validation).checkStatus = .WARN ↔
    (∃ card ∈ validation, card ≠ []) ∧ ∀ card ∈ validation, ∀ issue ∈ card, issue.1.IsNonCritical := by
  have critical := iblinkReport_critical_iff kinds
  have ok := iblinkReport_ok_iff kinds
  rw [iblinkReport] at critical ok ⊢
  rw [iblinkStatus_warn_iff, ne_eq, ne_eq, critical, ok, and_comm]
  push Not
  refine and_congr_right fun _ => forall₂_congr fun card inValidation => forall₂_congr fun issue inCard => ?_
  have kind := linkIssueKinds_critical_iff _ (kinds card inValidation issue inCard)
  rw [← kind.1, not_not, kind.2.1]

end

theorem iblinkReport_counts (validation : List (List LinkIssue)) :
    ∃ up down, (iblinkReport validation).shortOut = "up: ".toList ++ decimal up ++ ", down: ".toList ++ decimal down ∧
      up = (validation.filter fun card => card = []).length ∧ up + down = validation.length := by
  have bound : validation.countP (fun badResult => badResult = []) ≤ validation.length := List.countP_le_length
  refine ⟨_, validation.length - validation.countP fun badResult => badResult = [], ?_, List.countP_eq_length_filter,
    Nat.add_sub_cancel' bound⟩
  rw [iblinkReport]
  dsimp only
  rw [← Nat.cast_sub bound, intText, if_neg (not_lt_of_ge (Int.natCast_nonneg _)), Int.natAbs_natCast]

/-- Where the interfaces that are looked up are described, the check returns a
report with the right status and counts. -/
theorem processIblink_verdict (obj : IBLinkCheck) (monitoredDevices : NodeManifest)
    (described : ∀ entry ∈ ibDevices monitoredDevices, (obj.readCardstate entry.1 entry.2).ibId <:+ entry.2.dev →
      ∃ ibManifest, monitoredDevices.ib = some ibManifest ∧
        (obj.readCardstate entry.1 entry.2).ibId ∈ ibManifest.interfaces.map Prod.fst) :
    ∃ check validation, processIblink obj monitoredDevices = .ok check ∧
      List.Forall₂ (fun entry issues => validateIb (obj.readCardstate entry.1 entry.2) monitoredDevices = .ok issues)
        (ibDevices monitoredDevices) validation ∧
      IblinkVerdict (ibDevices monitoredDevices).length validation check := by
  have validates : ∀ linkState ∈ (ibDevices monitoredDevices).map fun entry => obj.readCardstate entry.1 entry.2,
      ∃ issues, validateIb linkState monitoredDevices = .ok issues ∧
        validateIb linkState monitoredDevices = .ok issues ∧ ∀ issue ∈ issues, issue.1 ∈ linkIssueKinds := by
    intro linkState member
    obtain ⟨entry, inDevices, rfl⟩ := List.mem_map.mp member
    have inPci : ((obj.readCardstate entry.1 entry.2).pciId, entry.2) ∈ monitoredDevices.pci := by
      rw [obj.reads]
      exact List.mem_of_mem_filter inDevices
    obtain ⟨issues, returns, kinds⟩ := validateIb_returns inPci (described entry inDevices)
    exact ⟨issues, returns, returns, kinds⟩
  obtain ⟨validation, run, related⟩ := mapM_returns validates
  have kinds : ∀ card ∈ validation, ∀ issue ∈ card, issue.1 ∈ linkIssueKinds := by
    intro card inValidation
    obtain ⟨_, -, -, known⟩ := (mem_of_forall₂ related).2 card inValidation
    exact known
  have each := List.forall₂_map_left_iff.mp (related.imp fun _ _ both => both.1)
  refine ⟨iblinkReport validation, validation, by rw [processIblink, run]; rfl, each, ?_⟩
  rw [each.length_eq]
  exact {
    critical := iblinkReport_critical_iff kinds
    warn := iblinkReport_warn_iff kinds
    ok := iblinkReport_ok_iff kinds
    counts := iblinkReport_counts validation }

/-- A card that is in the init state and one that is bound to another slot. -/
theorem processIblink_verdict_two :
    let device (slot dev : String) : PciDevice :=
      ⟨some "ib".toList, dev.toList, "0".toList, slot.toList, none, 16, none⟩
    let interface : IBInterface := ⟨"mlx5_0".toList, []⟩
    let monitoredDevices : NodeManifest := {
      pci := [("01:00.0".toList, device "s1" "/net/ib0"), ("02:00.0".toList, device "s2" "/net/ib1")]
      ib := some ⟨"400".toList, ["28".toList], [("ib0".toList, interface)]⟩
      distinct := by decide }
    let obj : IBLinkCheck := {
      readCardstate := fun pciId pciInfo => ⟨pciInfo.slot, pciId, "ib0".toList, "mlx5_0".toList, none, some "28".toList,
        some true, some "2: INIT".toList, some "InfiniBand".toList, some "400".toList, some false⟩
      reads := fun _ _ => rfl }
    (∀ entry ∈ ibDevices monitoredDevices, (obj.readCardstate entry.1 entry.2).ibId <:+ entry.2.dev →
      ∃ ibManifest, monitoredDevices.ib = some ibManifest ∧
        (obj.readCardstate entry.1 entry.2).ibId ∈ ibManifest.interfaces.map Prod.fst) ∧
    ∃ check validation, processIblink obj monitoredDevices = .ok check ∧
      List.Forall₂ (fun entry issues => validateIb (obj.readCardstate entry.1 entry.2) monitoredDevices = .ok issues)
        (ibDevices monitoredDevices) validation ∧
      IblinkVerdict (ibDevices monitoredDevices).length validation check := by
  intro device interface monitoredDevices obj
  have described : ∀ entry ∈ ibDevices monitoredDevices, (obj.readCardstate entry.1 entry.2).ibId <:+ entry.2.dev →
      ∃ ibManifest, monitoredDevices.ib = some ibManifest ∧
        (obj.readCardstate entry.1 entry.2).ibId ∈ ibManifest.interfaces.map Prod.fst :=
    fun _ _ _ => ⟨_, rfl, List.mem_cons_self⟩
  exact ⟨described, processIblink_verdict obj monitoredDevices described⟩

end GpuTelemetry
