import GpuTelemetry.CheckOutput
import GpuTelemetry.FallibleFolds
import GpuTelemetry.Sinfo

namespace GpuTelemetry

structure EthDevice where
  netdev : Str
  phys : Option Bool
  flags : List Str
  speed : Option Int
  mtu : Int

structure EthManifest where
  devices : List (Str × EthDevice)
  distinct : (devices.map Prod.fst).Nodup

/-- The manifest of a node; the `eth` section may be missing. -/
abbrev EthNodeManifest := Option EthManifest

/-- An entry of the netlink listing. Any of its keys may be missing. -/
structure NetlinkEntry where
  ifname : Option Str
  operstate : Option Str
  flags : Option (List Str)
  mtu : Option Int

/-- What the check asks the node for. -/
structure EthLinkCheck where
  queryNetlinkStats : Except PyError (List NetlinkEntry)
  getIntfIfcfg : Str → Except PyError (Option (List (Str × Str)))
  queryLinkSpeed : Str → Except PyError (Option Str)
  queryLinkPhysMacaddr : Str → Except PyError (Option Str)

/-- `node_manifest["eth"]`. -/
def ethSection (nodeManifest : EthNodeManifest) : Except PyError EthManifest :=
  match nodeManifest with
  | some ethManifest => .ok ethManifest
  | none => .error (.keyError "'eth'".toList)

/-- A key of a netlink entry. -/
def netlinkItem {α : Type} (key : String) (value : Option α) : Except PyError α :=
  match value with
  | some a => .ok a
  | none => .error (.keyError ("'".toList ++ key.toList ++ "'".toList))

/-- An interface in a text. -/
def interfaceText (device : Str) (intfSpec : EthDevice) : Str :=
  device ++ " (".toList ++ intfSpec.netdev ++ ")".toList

def CheckOutput.note (check : CheckOutput) (checkStatus : ExitCode) (msg : Str) : CheckOutput :=
  { check with checkStatus := checkStatus, longOut := check.longOut ++ [msg] }

def checkCfgMacaddrLoop (obj : EthLinkCheck) : List (Str × EthDevice) → CheckOutput → Except PyError CheckOutput
  | [], check => .ok check
  | (device, intfSpec) :: devices, check =>
    if intfSpec.phys ≠ some true then checkCfgMacaddrLoop obj devices check
    else
      (obj.getIntfIfcfg intfSpec.netdev).bind fun configs =>
        (obj.queryLinkPhysMacaddr intfSpec.netdev).bind fun macaddr =>
          match configs with
          | none => .ok { check with
              shortOut := "Missing interface ".toList ++ interfaceText device intfSpec ++ "!".toList
              checkStatus := .CRITICAL }
          | some configs =>
            (dictItem configs "HWADDR".toList).bind fun hwaddr =>
              if some (lower hwaddr) ≠ macaddr then
                checkCfgMacaddrLoop obj devices
                  { check.note .CRITICAL (interfaceText device intfSpec ++ " has bad cfg (expect: ".toList ++
                      lower hwaddr ++ ", actual: ".toList ++ formatOptional macaddr ++ ")!".toList) with
                    shortOut := "Mismatched interface/config mac addresses!".toList }
              else checkCfgMacaddrLoop obj devices check

def checkCfgMacaddr (obj : EthLinkCheck) (check : CheckOutput) (nodeManifest : EthNodeManifest) :
    Except PyError CheckOutput :=
  (ethSection nodeManifest).bind fun ethManifest => checkCfgMacaddrLoop obj ethManifest.devices check

def checkLinkSpeedStep (obj : EthLinkCheck) (check : CheckOutput) (entry : Str × EthDevice) :
    Except PyError CheckOutput :=
  match entry.2.speed with
  | none => .ok check
  | some speed =>
    (obj.queryLinkSpeed entry.2.netdev).map fun linkspeed =>
      let expected := intText speed
      if linkspeed ≠ some expected then
        { check.note .WARN (interfaceText entry.1 entry.2 ++ " is slower than expected (".toList ++
            formatOptional linkspeed ++ "Mbps vs ".toList ++ expected ++ "Mbps)".toList) with
          shortOut := "Links are down-speed".toList }
      else check

def checkLinkSpeed (obj : EthLinkCheck) (check : CheckOutput) (nodeManifest : EthNodeManifest) :
    Except PyError CheckOutput :=
  (ethSection nodeManifest).bind fun ethManifest => ethManifest.devices.foldlM (checkLinkSpeedStep obj) check

/-- `filter(lambda x: x["ifname"] == netdev, netlink_info)`. -/
def intfStates (netdev : Str) : List NetlinkEntry → Except PyError (List NetlinkEntry)
  | [] => .ok []
  | x :: netlinkInfo =>
    (netlinkItem "ifname" x.ifname).bind fun ifname =>
      (intfStates netdev netlinkInfo).map fun states => if ifname = netdev then x :: states else states

/-- `states[0]`. -/
def firstItem {α : Type} : List α → Except PyError α
  | [] => .error (.indexError "list index out of range".toList)
  | a :: _ => .ok a

def operstateCheck (check : CheckOutput) (entry : Str × EthDevice) (operstate : Str) : CheckOutput :=
  if operstate ≠ "UP".toList then check.note .CRITICAL (interfaceText entry.1 entry.2 ++ " is DOWN".toList) else check

/-- The flags of the state are read when there is a flag to look for. -/
def missingFlags (intfSpec : EthDevice) (intfState : NetlinkEntry) : Except PyError (List Str) :=
  if intfSpec.flags = [] then .ok []
  else (netlinkItem "flags" intfState.flags).map fun flags => intfSpec.flags.filter fun flag => flag ∉ flags

def flagsCheck (check : CheckOutput) (entry : Str × EthDevice) (missing : List Str) : CheckOutput :=
  if 0 < missing.length then
    check.note .CRITICAL (interfaceText entry.1 entry.2 ++ " has missing flag(s): ".toList ++
      ",".toList.intercalate missing)
  else check

def mtuCheck (check : CheckOutput) (entry : Str × EthDevice) (mtu : Int) : CheckOutput :=
  if mtu ≠ entry.2.mtu then
    check.note (if check.checkStatus ≠ .CRITICAL then .WARN else check.checkStatus)
      (interfaceText entry.1 entry.2 ++ " has bad mtu (".toList ++ intText mtu ++ " < ".toList ++
        intText entry.2.mtu ++ ")".toList)
  else check

def checkLinkStateStep (netlinkInfo : List NetlinkEntry) (check : CheckOutput) (entry : Str × EthDevice) :
    Except PyError CheckOutput := do
  let intfState ← firstItem (← intfStates entry.2.netdev netlinkInfo)
  let operstate ← netlinkItem "operstate" intfState.operstate
  let check := operstateCheck check entry operstate
  let missing ← missingFlags entry.2 intfState
  let check := flagsCheck check entry missing
  let mtu ← netlinkItem "mtu" intfState.mtu
  return mtuCheck check entry mtu

def checkLinkState (check : CheckOutput) (nodeManifest : EthNodeManifest) (netlinkInfo : List NetlinkEntry) :
    Except PyError CheckOutput :=
  (ethSection nodeManifest).bind fun ethManifest =>
    (ethManifest.devices.foldlM (checkLinkStateStep netlinkInfo) check).map fun check =>
      if check.checkStatus ≠ .OK then { check with shortOut := "Interfaces in bad states".toList } else check

def processEthlink (obj : EthLinkCheck) (nodeManifest : EthNodeManifest) : Except PyError CheckOutput := do
  if nodeManifest.isNone then
    return { CheckOutput.named "check_ethlink".toList with
      checkStatus := .OK
      shortOut := "No ethernet interface in manifest, skipping".toList }
  let out := { CheckOutput.named "check_ethlink".toList with checkStatus := .OK }
  let netlinkInfo ← obj.queryNetlinkStats
  let out ← checkCfgMacaddr obj out nodeManifest
  if out.checkStatus ≠ .OK then return out
  let out ← checkLinkState out nodeManifest netlinkInfo
  if out.checkStatus ≠ .OK then return out
  checkLinkSpeed obj out nodeManifest

/-! ### The first pass -/

variable {obj : EthLinkCheck} {netlinkInfo : List NetlinkEntry} {check : CheckOutput}

/-- An interface whose configuration names the address that it has. -/
def EthDevice.Bound (obj : EthLinkCheck) (intfSpec : EthDevice) : Prop :=
  ∃ configs hwaddr, obj.getIntfIfcfg intfSpec.netdev = .ok (some configs) ∧
    dictItem configs "HWADDR".toList = .ok hwaddr ∧
    obj.queryLinkPhysMacaddr intfSpec.netdev = .ok (some (lower hwaddr))

/-- What the loop of the first pass does at an interface that it inspects. -/
theorem checkCfgMacaddrLoop_step {device : Str} {intfSpec : EthDevice} {devices : List (Str × EthDevice)}
    {out : CheckOutput} (physical : intfSpec.phys = some true)
    (run : checkCfgMacaddrLoop obj ((device, intfSpec) :: devices) check = .ok out) :
    intfSpec.Bound obj ∧ checkCfgMacaddrLoop obj devices check = .ok out ∨
      ¬intfSpec.Bound obj ∧ (out.checkStatus = .CRITICAL ∨
        ∃ check', check'.checkStatus = .CRITICAL ∧ checkCfgMacaddrLoop obj devices check' = .ok out) := by
  rw [checkCfgMacaddrLoop, if_neg (not_not.mpr physical)] at run
  obtain ⟨configs, config, run⟩ := bind_returned run
  obtain ⟨macaddr, address, run⟩ := bind_returned run
  cases configs with
  | none =>
    refine .inr ⟨?_, .inl ?_⟩
    · rintro ⟨configs, hwaddr, found, -, -⟩
      rw [config] at found
      cases found
    · cases run
      rfl
  | some configs =>
    obtain ⟨hwaddr, item, run⟩ := bind_returned run
    by_cases same : some (lower hwaddr) = macaddr
    · rw [if_neg (not_not.mpr same)] at run
      exact .inl ⟨⟨configs, hwaddr, config, item, by rw [address, same]⟩, run⟩
    · rw [if_pos same] at run
      refine .inr ⟨?_, .inr ⟨_, rfl, run⟩⟩
      rintro ⟨configs', hwaddr', config', item', address'⟩
      rw [config] at config'
      cases config'
      rw [item] at item'
      cases item'
      rw [address] at address'
      cases address'
      exact same rfl

/-- The first pass does not take a status back. -/
theorem checkCfgMacaddrLoop_keeps {devices : List (Str × EthDevice)} {out : CheckOutput}
    (run : checkCfgMacaddrLoop obj devices check = .ok out) (ok : out.checkStatus = .OK) : check.checkStatus = .OK := by
  induction devices generalizing check with
  | nil =>
    cases run
    exact ok
  | cons entry devices ih =>
    obtain ⟨device, intfSpec⟩ := entry
    by_cases physical : intfSpec.phys = some true
    · rcases checkCfgMacaddrLoop_step physical run with ⟨-, later⟩ | ⟨-, critical | ⟨check', critical, later⟩⟩
      · exact ih later
      · rw [critical] at ok
        cases ok
      · rw [ih later] at critical
        cases critical
    · rw [checkCfgMacaddrLoop, if_pos physical] at run
      exact ih run

/-- The first pass returns OK when every physical interface is bound, and looks
at no other interface. -/
theorem checkCfgMacaddrLoop_ok_iff {devices : List (Str × EthDevice)} :
    (∃ out, checkCfgMacaddrLoop obj devices check = .ok out ∧ out.checkStatus = .OK) ↔
      check.checkStatus = .OK ∧ ∀ entry ∈ devices, entry.2.phys = some true → entry.2.Bound obj := by
  induction devices with
  | nil =>
    constructor
    · rintro ⟨out, run, ok⟩
      cases run
      exact ⟨ok, nofun⟩
    · rintro ⟨ok, -⟩
      exact ⟨check, rfl, ok⟩
  | cons entry devices ih =>
    obtain ⟨device, intfSpec⟩ := entry
    rw [List.forall_mem_cons, and_left_comm, ← ih]
    by_cases physical : intfSpec.phys = some true
    · constructor
      · rintro ⟨out, run, ok⟩
        rcases checkCfgMacaddrLoop_step physical run with ⟨bound, later⟩ | ⟨-, critical | ⟨check', critical, later⟩⟩
        · exact ⟨fun _ => bound, out, later, ok⟩
        · rw [critical] at ok
          cases ok
        · rw [checkCfgMacaddrLoop_keeps later ok] at critical
          cases critical
      · rintro ⟨bound, out, later, ok⟩
        obtain ⟨configs, hwaddr, config, item, address⟩ := bound physical
        refine ⟨out, ?_, ok⟩
        rw [checkCfgMacaddrLoop, if_neg (not_not.mpr physical), config, Except.bind, address, Except.bind]
        dsimp only
        rw [item, Except.bind, if_neg (not_not.mpr rfl)]
        exact later
    · rw [checkCfgMacaddrLoop, if_pos physical]
      exact ⟨fun found => ⟨fun isPhysical => absurd isPhysical physical, found⟩, And.right⟩

/-! ### The second pass -/

def Listed (netlinkInfo : List NetlinkEntry) (netdev : Str) : Prop := ∃ x ∈ netlinkInfo, x.ifname = some netdev

theorem netlinkItem_ne_indexError {α : Type} (key : String) (value : Option α) (msg : Str) :
    netlinkItem key value ≠ .error (.indexError msg) := by
  cases value <;> exact nofun

theorem intfStates_ne_indexError (netdev : Str) (netlinkInfo : List NetlinkEntry) (msg : Str) :
    intfStates netdev netlinkInfo ≠ .error (.indexError msg) := by
  induction netlinkInfo with
  | nil => exact nofun
  | cons x netlinkInfo ih => exact bind_ne_error (netlinkItem_ne_indexError _ _ _) fun _ _ => map_ne_error ih

/-- The match is empty exactly for an interface that is not listed. -/
theorem intfStates_eq_nil_iff {netdev : Str} {states : List NetlinkEntry}
    (run : intfStates netdev netlinkInfo = .ok states) : states = [] ↔ ¬Listed netlinkInfo netdev := by
  induction netlinkInfo generalizing states with
  | nil =>
    cases run
    exact iff_of_true rfl fun listed => nomatch listed
  | cons x netlinkInfo ih =>
    obtain ⟨ifname, item, run⟩ := bind_returned run
    obtain ⟨later, others, rfl⟩ := map_returned run
    have isName : x.ifname = some ifname := by
      cases known : x.ifname with
      | none => rw [known] at item; cases item
      | some name => rw [known] at item; cases item; rfl
    rw [Listed, List.exists_mem_cons_iff, isName, Option.some.injEq, not_or]
    by_cases same : ifname = netdev
    · rw [if_pos same]
      exact iff_of_false (List.cons_ne_nil x later) fun neither => neither.1 same
    · rw [if_neg same, ih others]
      exact (and_iff_right same).symm

/-- At a listed interface the match is not indexed in vain. -/
theorem checkLinkStateStep_ne_indexError {entry : Str × EthDevice} (listed : Listed netlinkInfo entry.2.netdev)
    (check : CheckOutput) (msg : Str) : checkLinkStateStep netlinkInfo check entry ≠ .error (.indexError msg) := by
  refine bind_ne_error (intfStates_ne_indexError _ _ msg) fun states run => ?_
  have nonempty : states ≠ [] := fun empty => (intfStates_eq_nil_iff run).mp empty listed
  obtain ⟨intfState, others, rfl⟩ := List.exists_cons_of_ne_nil nonempty
  refine bind_ne_error nofun fun _ _ => bind_ne_error (netlinkItem_ne_indexError _ _ _) fun _ _ => ?_
  refine bind_ne_error ?_ fun _ _ => bind_ne_error (netlinkItem_ne_indexError _ _ _) fun _ _ => nofun
  unfold missingFlags
  split
  · exact nofun
  · exact map_ne_error (netlinkItem_ne_indexError _ _ _)

/-- The step returns only at a listed interface. -/
theorem checkLinkStateStep_listed {entry : Str × EthDevice} {out : CheckOutput}
    (run : checkLinkStateStep netlinkInfo check entry = .ok out) : Listed netlinkInfo entry.2.netdev := by
  obtain ⟨states, found, run⟩ := bind_returned run
  obtain ⟨intfState, first, -⟩ := bind_returned run
  by_contra absent
  rw [(intfStates_eq_nil_iff found).mpr absent] at first
  cases first

/-- Once the first pass has returned OK, the second one does not index an empty
match, and it reports an interface that is not listed as critical. -/
structure ReportsAbsent (obj : EthLinkCheck) (check : CheckOutput) (ethManifest : EthManifest)
    (netlinkInfo : List NetlinkEntry) : Prop where
  never_empty : ∀ out, checkCfgMacaddr obj check (some ethManifest) = .ok out → out.checkStatus = .OK →
    ∀ msg, checkLinkState out (some ethManifest) netlinkInfo ≠ .error (.indexError msg)
  critical : ∀ out, checkCfgMacaddr obj check (some ethManifest) = .ok out → out.checkStatus = .OK →
    (∃ entry ∈ ethManifest.devices, ¬Listed netlinkInfo entry.2.netdev) →
    ∃ report, checkLinkState out (some ethManifest) netlinkInfo = .ok report ∧ report.checkStatus = .CRITICAL

/-- The second pass finds every interface exactly where the first pass did not
return OK or the listing has them all. -/
theorem reportsAbsent_iff (obj : EthLinkCheck) (check : CheckOutput) (ethManifest : EthManifest)
    (netlinkInfo : List NetlinkEntry) :
    ReportsAbsent obj check ethManifest netlinkInfo ↔
      (check.checkStatus = .OK → (∀ entry ∈ ethManifest.devices, entry.2.phys = some true → entry.2.Bound obj) →
        ∀ entry ∈ ethManifest.devices, Listed netlinkInfo entry.2.netdev) := by
  have passed_iff : (∃ out, checkCfgMacaddr obj check (some ethManifest) = .ok out ∧ out.checkStatus = .OK) ↔ _ :=
    checkCfgMacaddrLoop_ok_iff
  constructor
  · intro reports ok bound entry member
    obtain ⟨out, run, passed⟩ := passed_iff.mpr ⟨ok, bound⟩
    by_contra absent
    obtain ⟨report, returned, -⟩ := reports.critical out run passed ⟨entry, member, absent⟩
    obtain ⟨folded, steps, -⟩ := map_returned returned
    obtain ⟨acc, next, step⟩ := foldlM_steps steps entry member
    exact absent (checkLinkStateStep_listed step)
  · intro complete
    have listed : ∀ out, checkCfgMacaddr obj check (some ethManifest) = .ok out → out.checkStatus = .OK →
        ∀ entry ∈ ethManifest.devices, Listed netlinkInfo entry.2.netdev := by
      intro out run passed
      obtain ⟨ok, bound⟩ := passed_iff.mp ⟨out, run, passed⟩
      exact complete ok bound
    constructor
    · intro out run passed msg
      refine map_ne_error (foldlM_ne_error (fun entry member acc => ?_) out)
      exact checkLinkStateStep_ne_indexError (listed out run passed entry member) acc msg
    · rintro out run passed ⟨entry, member, absent⟩
      exact absurd (listed out run passed entry member) absent

/-- A bond that is gone: the first pass looks at physical interfaces only. -/
theorem checkLinkState_indexes_empty :
    let ethManifest : EthManifest :=
      ⟨[("bond".toList, ⟨"bond0".toList, none, ["UP".toList], none, 9000⟩)], by decide⟩
    let obj : EthLinkCheck := ⟨.ok [], fun _ => .ok none, fun _ => .ok none, fun _ => .ok none⟩
    let check : CheckOutput := { CheckOutput.named "check_ethlink".toList with checkStatus := .OK }
    checkCfgMacaddr obj check (some ethManifest) = .ok check ∧
      checkLinkState check (some ethManifest) [] = .error (.indexError "list index out of range".toList) ∧
      processEthlink obj (some ethManifest) = .error (.indexError "list index out of range".toList) ∧
      ¬ReportsAbsent obj check ethManifest [] := by
  intro ethManifest obj check
  have raises : checkLinkState check (some ethManifest) [] = .error (.indexError "list index out of range".toList) :=
    rfl
  exact ⟨rfl, raises, rfl, fun reports => reports.never_empty check rfl rfl _ raises⟩

end GpuTelemetry
