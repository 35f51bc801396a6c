import GpuTelemetry.CheckOutput
import GpuTelemetry.FallibleFolds

namespace GpuTelemetry

/-- A PCI device as it is read from `/sys`. -/
structure PciLink where
  pciSlot : Str
  linkSpeed : Option Str
  linkWidth : Option Int

def PciLink.linkExists (link : PciLink) : Bool := link.linkSpeed.isSome && link.linkWidth.isSome

/-- A PCI device of the manifest. -/
structure PciDevice where
  type : Option Str
  dev : Str
  zone : Str
  slot : Str
  linkSpeed : Option (List Str)
  linkWidth : Int
  topologyCritical : Option Bool

structure PciManifest where
  devices : List (Str × PciDevice)
  distinct : (devices.map Prod.fst).Nodup

/-- The link that is read of a slot carries that slot. -/
structure PciCheck where
  readPciLink : Str → PciLink
  reads : ∀ pciSlot, (readPciLink pciSlot).pciSlot = pciSlot

/-- `device.link_speed or [""]`. -/
def PciDevice.expectedSpeed (device : PciDevice) : List Str :=
  match device.linkSpeed with
  | none | some [] => [[]]
  | some speeds => speeds

/-- A link in a text. -/
def linkText (width speed : Str) : Str := "'x".toList ++ width ++ " @ ".toList ++ speed ++ "'".toList

/-- The check and the counters of the loop. -/
structure PciTally where
  check : CheckOutput
  passingCounter : Nat
  missingCounter : Nat
  degradedCounter : Nat

def PciTally.missing (tally : PciTally) (msg : Str) : PciTally :=
  { tally with
    check := { tally.check with checkStatus := .CRITICAL, longOut := tally.check.longOut ++ [msg] }
    missingCounter := tally.missingCounter + 1 }

def PciTally.degraded (tally : PciTally) (msg : Str) : PciTally :=
  { tally with
    check := { tally.check with checkStatus := .CRITICAL, longOut := tally.check.longOut ++ [msg] }
    degradedCounter := tally.degradedCounter + 1 }

def PciTally.passing (tally : PciTally) : PciTally := { tally with passingCounter := tally.passingCounter + 1 }

def missingText (device : PciDevice) (link : PciLink) : Str :=
  device.slot ++ " is not present at ".toList ++ link.pciSlot ++ ".".toList

def degradedText (device : PciDevice) (link : PciLink) : Str :=
  device.slot ++ " has degraded PCIe link (current: ".toList ++
    linkText (formatOptional (link.linkWidth.map intText)) (formatOptional link.linkSpeed) ++ ", expected: ".toList ++
    linkText (intText device.linkWidth) ("|".toList.intercalate device.expectedSpeed) ++ ").".toList

/-- The loop over the links. It ends at a missing device without which the
others may be numbered otherwise. -/
def checkPciLoop (devices : List (Str × PciDevice)) : List PciLink → PciTally → Except PyError PciTally
  | [], tally => .ok tally
  | link :: links, tally =>
    (dictItem devices link.pciSlot).bind fun device =>
      if !link.linkExists then
        if device.topologyCritical = some true then .ok (tally.missing (missingText device link))
        else checkPciLoop devices links (tally.missing (missingText device link))
      else if link.linkWidth ≠ some device.linkWidth ∨ !link.linkSpeed.any device.expectedSpeed.contains then
        checkPciLoop devices links (tally.degraded (degradedText device link))
      else checkPciLoop devices links tally.passing

/-- `Metric(name, value, metric_max=str(device_count))`. -/
def pciMetric (deviceCount : Nat) (name : String) (value : Int) : CheckMetric :=
  { CheckMetric.plain name.toList (.number value) with metricMax := some (decimal deviceCount) }

def pciReport (deviceCount : Nat) (tally : PciTally) : CheckOutput :=
  if tally.passingCounter = deviceCount then
    { tally.check with
      checkStatus := .OK
      shortOut := "PCIe Devices Good".toList
      shortMetrics := [pciMetric deviceCount "pass" tally.passingCounter] }
  else
    { tally.check with
      checkStatus := .CRITICAL
      shortOut := "PCIe Issues Detected".toList
      shortMetrics := [
        pciMetric deviceCount "pass" tally.passingCounter,
        pciMetric deviceCount "missing" tally.missingCounter,
        pciMetric deviceCount "degraded" tally.degradedCounter,
        pciMetric deviceCount "unknown"
          (deviceCount - (tally.passingCounter + tally.degradedCounter + tally.missingCounter))] }

def checkPciState (obj : PciCheck) (monitoredDevices : PciManifest) : Except PyError CheckOutput := do
  let pciDevLinks := monitoredDevices.devices.map fun entry => obj.readPciLink entry.1
  let tally ← checkPciLoop monitoredDevices.devices pciDevLinks ⟨CheckOutput.named "check_pci".toList, 0, 0, 0⟩
  return pciReport pciDevLinks.length tally

/-! ### The accounting -/

/-- A device that is present with its width and one of its speeds. -/
def PciLink.AsExpected (link : PciLink) (device : PciDevice) : Prop :=
  link.linkWidth = some device.linkWidth ∧ ∃ speed ∈ device.linkSpeed.getD [], link.linkSpeed = some speed

instance (link : PciLink) (device : PciDevice) : Decidable (link.AsExpected device) :=
  inferInstanceAs (Decidable (_ ∧ _))

theorem PciLink.AsExpected.linkExists {link : PciLink} {device : PciDevice} (expected : link.AsExpected device) :
    link.linkExists = true := by
  obtain ⟨width, speed, -, isSpeed⟩ := expected
  rw [PciLink.linkExists, width, isSpeed]
  rfl

/-- For a device that lists a speed, the comparisons of the loop. -/
theorem PciLink.asExpected_iff {link : PciLink} {device : PciDevice} (listed : device.linkSpeed.getD [] ≠ []) :
    link.AsExpected device ↔
      ¬(link.linkWidth ≠ some device.linkWidth ∨ !link.linkSpeed.any device.expectedSpeed.contains) := by
  have speeds : device.expectedSpeed = device.linkSpeed.getD [] := by
    rw [PciDevice.expectedSpeed]
    split
    · rename_i absent
      rw [absent] at listed
      exact absurd rfl listed
    · rename_i empty
      rw [empty] at listed
      exact absurd rfl listed
    · rename_i known
      rw [known]
      rfl
  rw [PciLink.AsExpected, speeds, not_or, not_not, Bool.not_eq_true', Bool.not_eq_false, Option.any_eq_true]
  simp only [List.contains_iff_mem, and_comm]

/-- A device of the manifest with the link that is read of it. -/
abbrev PciReading := PciDevice × PciLink

def PciReading.passes (reading : PciReading) : Bool := decide (reading.2.AsExpected reading.1)

def PciReading.isMissing (reading : PciReading) : Bool := !reading.2.linkExists

def PciReading.isDegraded (reading : PciReading) : Bool := !reading.passes && !reading.isMissing

/-- A missing device behind which no other one is inspected. -/
def PciReading.Stops (reading : PciReading) : Prop :=
  reading.1.topologyCritical = some true ∧ reading.isMissing = true

/-- How the inspected devices are counted. -/
structure PciCounted (inspected : List PciReading) (before after : PciTally) : Prop where
  passing : after.passingCounter = before.passingCounter + inspected.countP PciReading.passes
  missing : after.missingCounter = before.missingCounter + inspected.countP PciReading.isMissing
  degraded : after.degradedCounter = before.degradedCounter + inspected.countP PciReading.isDegraded

/-- One device more in front, which is counted first. -/
theorem PciCounted.cons {reading : PciReading} {inspected : List PciReading} {before between after : PciTally}
    (first : PciCounted [reading] before between) (later : PciCounted inspected between after) :
    PciCounted (reading :: inspected) before after := by
  rw [← List.singleton_append]
  constructor
  · rw [List.countP_append, later.passing, first.passing, Nat.add_assoc]
  · rw [List.countP_append, later.missing, first.missing, Nat.add_assoc]
  · rw [List.countP_append, later.degraded, first.degraded, Nat.add_assoc]

theorem PciReading.not_passes_of_missing {reading : PciReading} (missing : reading.isMissing = true) :
    reading.passes = false := by
  rw [PciReading.passes, decide_eq_false_iff_not]
  intro expected
  rw [PciReading.isMissing, expected.linkExists] at missing
  exact absurd missing Bool.false_ne_true

/-- Every reading is of one of the three kinds. -/
theorem pciReadings_length (inspected : List PciReading) :
    inspected.countP PciReading.passes + inspected.countP PciReading.isMissing +
      inspected.countP PciReading.isDegraded = inspected.length := by
  induction inspected with
  | nil => rfl
  | cons reading inspected ih =>
    rw [List.countP_cons, List.countP_cons, List.countP_cons, List.length_cons, ← ih]
    cases missing : reading.isMissing with
    | true =>
      have fails := PciReading.not_passes_of_missing missing
      simp only [PciReading.isDegraded, fails, missing, Bool.not_true, Bool.and_false, if_true, if_false,
        Bool.false_eq_true]
      omega
    | false =>
      cases passes : reading.passes with
      | true =>
        simp only [PciReading.isDegraded, passes, missing, Bool.not_true, Bool.false_and, if_true, if_false,
          Bool.false_eq_true]
        omega
      | false =>
        simp only [PciReading.isDegraded, passes, missing, Bool.not_false, Bool.and_true, if_true, if_false,
          Bool.false_eq_true]
        omega

variable {devices : List (Str × PciDevice)}

/-- The step of the loop: a device is counted as what it is, and the loop goes on
unless the device stops it. -/
theorem checkPciLoop_step {reading : PciReading} (found : dictItem devices reading.2.pciSlot = .ok reading.1)
    (listed : reading.1.linkSpeed.getD [] ≠ []) (links : List PciLink) (tally : PciTally) :
    ∃ next, PciCounted [reading] tally next ∧
      (checkPciLoop devices (reading.2 :: links) tally = .ok next ∧ reading.Stops ∨
        checkPciLoop devices (reading.2 :: links) tally = checkPciLoop devices links next) := by
  have expected := reading.2.asExpected_iff listed
  rw [checkPciLoop, found, Except.bind]
  cases present : reading.2.linkExists with
  | false =>
    have missing : reading.isMissing = true := by rw [PciReading.isMissing, present]; rfl
    have fails := PciReading.not_passes_of_missing missing
    refine ⟨tally.missing (missingText reading.1 reading.2), ⟨?_, ?_, ?_⟩, ?_⟩
    · simp [PciTally.missing, fails]
    · simp [PciTally.missing, missing]
    · simp [PciTally.missing, PciReading.isDegraded, missing]
    · by_cases critical : reading.1.topologyCritical = some true
      · exact .inl ⟨if_pos critical, critical, missing⟩
      · exact .inr (if_neg critical)
  | true =>
    have here : reading.isMissing = false := by rw [PciReading.isMissing, present]; rfl
    by_cases differs : reading.2.linkWidth ≠ some reading.1.linkWidth ∨
        !reading.2.linkSpeed.any reading.1.expectedSpeed.contains
    · have fails : reading.passes = false := by
        rw [PciReading.passes, decide_eq_false_iff_not, expected]
        exact not_not.mpr differs
      refine ⟨tally.degraded (degradedText reading.1 reading.2), ⟨?_, ?_, ?_⟩, .inr (if_pos differs)⟩
      · simp [PciTally.degraded, fails]
      · simp [PciTally.degraded, here]
      · simp [PciTally.degraded, PciReading.isDegraded, fails, here]
    · have passes : reading.passes = true := by
        rw [PciReading.passes, decide_eq_true_iff, expected]
        exact differs
      refine ⟨tally.passing, ⟨?_, ?_, ?_⟩, .inr (if_neg differs)⟩
      · simp [PciTally.passing, passes]
      · simp [PciTally.passing, here]
      · simp [PciTally.passing, PciReading.isDegraded, passes]

/-- The loop inspects the devices up to the first one that stops it, and counts those. -/
theorem checkPciLoop_counts (distinct : (devices.map Prod.fst).Nodup) {readings : List PciReading}
    (known : ∀ reading ∈ readings, (reading.2.pciSlot, reading.1) ∈ devices)
    (listed : ∀ reading ∈ readings, reading.1.linkSpeed.getD [] ≠ []) (tally : PciTally) :
    ∃ after inspected rest, checkPciLoop devices (readings.map Prod.snd) tally = .ok after ∧
      readings = inspected ++ rest ∧ PciCounted inspected tally after ∧
      (rest ≠ [] → ∃ reading ∈ inspected, reading.Stops) := by
  induction readings generalizing tally with
  | nil => exact ⟨tally, [], [], rfl, rfl, ⟨rfl, rfl, rfl⟩, fun nonempty => absurd rfl nonempty⟩
  | cons reading readings ih =>
    obtain ⟨inManifest, knownLater⟩ := List.forall_mem_cons.mp known
    obtain ⟨listedHere, listedLater⟩ := List.forall_mem_cons.mp listed
    obtain ⟨next, counted, stopped | goesOn⟩ :=
      checkPciLoop_step (dictItem_of_mem distinct inManifest) listedHere (readings.map Prod.snd) tally
    · exact ⟨next, [reading], readings, stopped.1, rfl, counted, fun _ => ⟨reading, by simp, stopped.2⟩⟩
    · obtain ⟨after, inspected, rest, run, split, later, stops⟩ := ih knownLater listedLater next
      have parts : reading :: readings = (reading :: inspected) ++ rest := congrArg (reading :: ·) split
      refine ⟨after, reading :: inspected, rest, goesOn.trans run, parts, counted.cons later, fun more => ?_⟩
      obtain ⟨other, member, stop⟩ := stops more
      exact ⟨other, by simp [member], stop⟩

/-- What the report says of the devices of a manifest. -/
structure PciVerdict (obj : PciCheck) (devices : List (Str × PciDevice)) (check : CheckOutput) : Prop where
  ok_iff : check.checkStatus = .OK ↔ ∀ entry ∈ devices, (obj.readPciLink entry.1).AsExpected entry.2
  otherwise : check.checkStatus ≠ .OK → check.checkStatus = .CRITICAL ∧ ∃ pass missing degraded unknown : Int,
    check.shortMetrics = [pciMetric devices.length "pass" pass, pciMetric devices.length "missing" missing,
      pciMetric devices.length "degraded" degraded, pciMetric devices.length "unknown" unknown] ∧
    pass + missing + degraded + unknown = devices.length ∧ 0 ≤ unknown ∧
    (0 < unknown → ∃ entry ∈ devices, entry.2.topologyCritical = some true ∧
      (obj.readPciLink entry.1).linkExists = false)

/-- The devices of a manifest with what is read of them. -/
def pciReadings (obj : PciCheck) (devices : List (Str × PciDevice)) : List PciReading :=
  devices.map fun entry => (entry.2, obj.readPciLink entry.1)

theorem forall_pciReadings {obj : PciCheck} {P : PciReading → Prop} :
    (∀ reading ∈ pciReadings obj devices, P reading) ↔ ∀ entry ∈ devices, P (entry.2, obj.readPciLink entry.1) :=
  List.forall_mem_map

section

variable {inspected rest : List PciReading} (stops : rest ≠ [] → ∃ reading ∈ inspected, reading.Stops)
include stops

/-- As many devices pass as there are exactly when all of them do: the device that
stops the loop does not. -/
theorem countP_passes_eq_iff : inspected.countP PciReading.passes = (inspected ++ rest).length ↔
    ∀ reading ∈ inspected ++ rest, reading.passes = true := by
  have bound : inspected.countP PciReading.passes ≤ inspected.length := List.countP_le_length
  rw [List.length_append]
  constructor
  · intro all
    have empty : rest = [] := List.length_eq_zero_iff.mp (by omega)
    rw [empty, List.append_nil]
    exact List.countP_eq_length.mp (by omega)
  · intro all
    have each : ∀ reading ∈ inspected, reading.passes = true := fun reading member => all reading (by simp [member])
    have empty : rest = [] := by
      by_contra nonempty
      obtain ⟨reading, member, -, missing⟩ := stops nonempty
      have fails := PciReading.not_passes_of_missing missing
      rw [each reading member] at fails
      cases fails
    rw [List.countP_eq_length.mpr each, empty]
    rfl

theorem pciReport_verdict {obj : PciCheck} (split : pciReadings obj devices = inspected ++ rest) {after : PciTally}
    (counted : PciCounted inspected ⟨CheckOutput.named "check_pci".toList, 0, 0, 0⟩ after) :
    PciVerdict obj devices (pciReport devices.length after) := by
  have total : devices.length = inspected.length + rest.length := by
    rw [← List.length_append, ← split, pciReadings, List.length_map]
  have kinds := pciReadings_length inspected
  obtain ⟨passing, missing, degraded⟩ := counted
  rw [Nat.zero_add] at passing missing degraded
  have pass_iff : after.passingCounter = devices.length ↔
      ∀ entry ∈ devices, (obj.readPciLink entry.1).AsExpected entry.2 := by
    rw [passing, total, ← List.length_append, countP_passes_eq_iff stops, ← split, forall_pciReadings]
    exact forall₂_congr fun entry _ => decide_eq_true_iff
  rw [pciReport]
  split
  · rename_i all
    exact ⟨iff_of_true rfl (pass_iff.mp all), fun notOk => absurd rfl notOk⟩
  · rename_i notAll
    have unknown : (devices.length : Int) - (after.passingCounter + after.degradedCounter + after.missingCounter) =
        rest.length := by omega
    refine ⟨iff_of_false ExitCode.noConfusion (mt pass_iff.mpr notAll), fun _ => ⟨rfl, _, _, _, _, rfl, ?_, ?_, ?_⟩⟩
    · omega
    · omega
    · intro positive
      have nonempty : rest ≠ [] := List.ne_nil_of_length_pos (by omega)
      obtain ⟨reading, member, critical, absent⟩ := stops nonempty
      have inReadings : reading ∈ pciReadings obj devices := by simp [split, member]
      obtain ⟨entry, inDevices, rfl⟩ := List.mem_map.mp inReadings
      exact ⟨entry, inDevices, critical, by simpa [PciReading.isMissing] using absent⟩

end

/-- For every manifest whose devices list a speed and all readings of their links. -/
theorem checkPciState_verdict (obj : PciCheck) (monitoredDevices : PciManifest)
    (listed : ∀ entry ∈ monitoredDevices.devices, entry.2.linkSpeed.getD [] ≠ []) :
    ∃ check, checkPciState obj monitoredDevices = .ok check ∧ PciVerdict obj monitoredDevices.devices check := by
  have links : monitoredDevices.devices.map (fun entry => obj.readPciLink entry.1) =
      (pciReadings obj monitoredDevices.devices).map Prod.snd := by
    rw [pciReadings, List.map_map]
    rfl
  have known : ∀ reading ∈ pciReadings obj monitoredDevices.devices,
      (reading.2.pciSlot, reading.1) ∈ monitoredDevices.devices :=
    forall_pciReadings.mpr fun entry member => by rwa [obj.reads]
  obtain ⟨after, inspected, rest, run, split, counted, stops⟩ :=
    checkPciLoop_counts monitoredDevices.distinct known (forall_pciReadings.mpr listed)
      ⟨CheckOutput.named "check_pci".toList, 0, 0, 0⟩
  refine ⟨pciReport monitoredDevices.devices.length after, ?_, pciReport_verdict stops split counted⟩
  rw [checkPciState, links, run, List.length_map, pciReadings, List.length_map]
  rfl

/-- Of three devices the critical one is missing, and the last one is not inspected. -/
theorem checkPciState_verdict_critical :
    let device (slot : String) (critical : Option Bool) : PciDevice :=
      ⟨none, [], [], slot.toList, some ["32 GT/s".toList], 16, critical⟩
    let monitoredDevices : PciManifest := {
      devices := [("01:00.0".toList, device "s1" none), ("02:00.0".toList, device "s2" (some true)),
        ("03:00.0".toList, device "s3" none)]
      distinct := by decide }
    let obj : PciCheck := {
      readPciLink := fun pciSlot =>
        if pciSlot = "02:00.0".toList then ⟨pciSlot, none, none⟩ else ⟨pciSlot, some "32 GT/s".toList, some 16⟩
      reads := fun pciSlot => by split <;> rfl }
    (∀ entry ∈ monitoredDevices.devices, entry.2.linkSpeed.getD [] ≠ []) ∧
    ∃ check, checkPciState obj monitoredDevices = .ok check ∧ PciVerdict obj monitoredDevices.devices check := by
  intro device monitoredDevices obj
  have listed : ∀ entry ∈ monitoredDevices.devices, entry.2.linkSpeed.getD [] ≠ [] := by decide
  exact ⟨listed, checkPciState_verdict obj monitoredDevices listed⟩

end GpuTelemetry
