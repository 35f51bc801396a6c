import GpuTelemetry.GoJson
import GpuTelemetry.SlurmHelpers
import Mathlib.Data.List.Sort

namespace GpuTelemetry

/-! ### The JSON of the attributed GPUs -/

/-- A field of `SlurmMetadata` under its name in JSON. -/
structure MetadataField where
  name : Str
  get : SlurmMetadata → Str
  set : Str → SlurmMetadata → SlurmMetadata

def metadataFields : List MetadataField :=
  [⟨"JobID".toList, SlurmMetadata.JobID, fun v slurm => { slurm with JobID := v }⟩,
    ⟨"JobName".toList, SlurmMetadata.JobName, fun v slurm => { slurm with JobName := v }⟩,
    ⟨"QOS".toList, SlurmMetadata.QOS, fun v slurm => { slurm with QOS := v }⟩,
    ⟨"User".toList, SlurmMetadata.User, fun v slurm => { slurm with User := v }⟩,
    ⟨"Partition".toList, SlurmMetadata.Partition, fun v slurm => { slurm with Partition := v }⟩,
    ⟨"Account".toList, SlurmMetadata.Account, fun v slurm => { slurm with Account := v }⟩,
    ⟨"NumNodes".toList, SlurmMetadata.NumNodes, fun v slurm => { slurm with NumNodes := v }⟩,
    ⟨"ArrayJobID".toList, SlurmMetadata.ArrayJobID, fun v slurm => { slurm with ArrayJobID := v }⟩,
    ⟨"ArrayTaskID".toList, SlurmMetadata.ArrayTaskID, fun v slurm => { slurm with ArrayTaskID := v }⟩]

def marshalMetadata (slurm : SlurmMetadata) : Str :=
  goObject (metadataFields.map fun field => (field.name, goQuoted (field.get slurm)))

/-- The entries of a map in the order of its keys. -/
def sortedEntries (gpu2Slurm : Dict Str SlurmMetadata) : List (Str × SlurmMetadata) :=
  gpu2Slurm.entries.insertionSort fun a b => a.1 ≤ b.1

/-- `json.Marshal` of the GPUs. -/
def marshalGpus (gpu2Slurm : Dict Str SlurmMetadata) : Str :=
  goObject ((sortedEntries gpu2Slurm).map fun entry => (entry.1, marshalMetadata entry.2))

/-- Letters that are equal under `foldName`: the long s and the Kelvin sign fold, too. -/
def foldRune (c : Char) : Char := if c = 'ſ' then 'S' else if c = '\u212a' then 'K' else c.toUpper

def foldName (name : Str) : Str := name.map foldRune

/-- The field of a key: of that name, or else of one that is equal to it under `foldName`. -/
def metadataField (key : Str) : Option MetadataField :=
  match metadataFields.find? (·.name = key) with
  | some field => some field
  | none => metadataFields.find? fun field => foldName field.name = foldName key

def zeroMetadata : SlurmMetadata := ⟨[], [], [], [], [], [], [], [], []⟩

/-- One entry of the object of a `SlurmMetadata`. -/
def setField (slurm : SlurmMetadata) (entry : Str × GoJson) : Option SlurmMetadata :=
  match metadataField entry.1 with
  | none => some slurm
  | some field =>
    match entry.2 with
    | .string text => some (field.set text slurm)
    | .null => some slurm
    | _ => none

def decodeMetadata : GoJson → Option SlurmMetadata
  | .null => some zeroMetadata
  | .object entries => entries.foldlM setField zeroMetadata
  | _ => none

def setGpu (gpus : List (Str × SlurmMetadata)) (entry : Str × GoJson) : Option (List (Str × SlurmMetadata)) :=
  (decodeMetadata entry.2).map fun slurm => dictSet entry.1 slurm gpus

/-- The GPUs of a JSON value. -/
def decodeGpus : GoJson → Option (List (Str × SlurmMetadata))
  | .null => some []
  | .object entries => entries.foldlM setGpu []
  | _ => none

/-- `json.Unmarshal` into an empty map. -/
def unmarshalGpus (data : Str) : Option (List (Str × SlurmMetadata)) := (goDocument data).bind decodeGpus

/-! ### Reading what was written -/

theorem decodeMetadata_fields (slurm : SlurmMetadata) :
    decodeMetadata (.object (metadataFields.map fun field => (field.name, .string (field.get slurm)))) = some slurm :=
  rfl

theorem marshalMetadata_encodes (depth : Nat) (slurm : SlurmMetadata) :
    Encodes (depth + 1) (marshalMetadata slurm)
      (.object (metadataFields.map fun field => (field.name, .string (field.get slurm)))) := by
  have fields : ∀ item ∈ metadataFields.map fun field => (field.name, field.get slurm),
      Encodes depth (goQuoted item.2) (.string item.2) := fun item _ => Encodes.quoted depth item.2
  have object := Encodes.object goQuoted GoJson.string fields
  rw [List.map_map, List.map_map] at object
  exact object

/-- The value that the text of the GPUs stands for. -/
def gpusValue (entries : List (Str × SlurmMetadata)) : GoJson :=
  .object (entries.map fun entry =>
    (entry.1, .object (metadataFields.map fun field => (field.name, .string (field.get entry.2)))))

theorem marshalGpus_encodes (depth : Nat) (gpu2Slurm : Dict Str SlurmMetadata) :
    Encodes (depth + 2) (marshalGpus gpu2Slurm)
      (gpusValue (sortedEntries gpu2Slurm)) :=
  Encodes.object marshalMetadata
    (fun slurm => .object (metadataFields.map fun field => (field.name, .string (field.get slurm))))
    fun entry _ => marshalMetadata_encodes depth entry.2

theorem decodeGpus_value {gpus entries : List (Str × SlurmMetadata)} :
    (entries.map fun entry => (entry.1, GoJson.object (metadataFields.map fun field =>
      (field.name, GoJson.string (field.get entry.2))))).foldlM setGpu gpus = some (dictUpdate gpus entries) := by
  induction entries generalizing gpus with
  | nil => rfl
  | cons entry entries ih =>
    rw [List.map_cons, List.foldlM_cons, setGpu, decodeMetadata_fields]
    exact ih

/-! ### The order of the keys -/

theorem sortedEntries_perm (gpu2Slurm : Dict Str SlurmMetadata) : (sortedEntries gpu2Slurm).Perm gpu2Slurm.entries :=
  List.perm_insertionSort _ _

theorem sortedEntries_nodup (gpu2Slurm : Dict Str SlurmMetadata) : ((sortedEntries gpu2Slurm).map Prod.fst).Nodup :=
  ((sortedEntries_perm gpu2Slurm).map Prod.fst).nodup_iff.mpr gpu2Slurm.distinct

theorem dictGet_sortedEntries (gpu2Slurm : Dict Str SlurmMetadata) (gpu : Str) :
    dictGet (sortedEntries gpu2Slurm) gpu = gpu2Slurm.get gpu :=
  dictGet_perm (sortedEntries_perm gpu2Slurm) (sortedEntries_nodup gpu2Slurm) gpu

theorem sortedEntries_sorted (gpu2Slurm : Dict Str SlurmMetadata) :
    ((sortedEntries gpu2Slurm).map Prod.fst).Pairwise (· ≤ ·) := by
  have total : Std.Total fun a b : Str × SlurmMetadata => a.1 ≤ b.1 := ⟨fun a b => le_total a.1 b.1⟩
  have trans : IsTrans (Str × SlurmMetadata) fun a b => a.1 ≤ b.1 := ⟨fun _ _ _ => le_trans⟩
  exact List.pairwise_map.mpr (List.pairwise_insertionSort _ _)

/-- Maps that agree have the same sorted entries, whatever the orders of their own. -/
theorem sortedEntries_congr {gpus gpus' : Dict Str SlurmMetadata} (same : ∀ gpu, gpus.get gpu = gpus'.get gpu) :
    sortedEntries gpus = sortedEntries gpus' := by
  have agree : ∀ gpu, dictGet (sortedEntries gpus) gpu = dictGet (sortedEntries gpus') gpu := fun gpu => by
    rw [dictGet_sortedEntries, dictGet_sortedEntries, same]
  have member : ∀ {entries : List (Str × SlurmMetadata)} {gpu : Str},
      gpu ∈ entries.map Prod.fst ↔ ∃ slurm, dictGet entries gpu = some slurm := by
    intro entries gpu
    constructor
    · exact exists_dictGet
    · intro ⟨slurm, found⟩
      exact List.mem_map.mpr ⟨_, mem_of_dictGet found, rfl⟩
  have keys : (sortedEntries gpus).map Prod.fst = (sortedEntries gpus').map Prod.fst := by
    refine List.Perm.eq_of_pairwise' (sortedEntries_sorted gpus) (sortedEntries_sorted gpus') ?_
    refine (List.perm_ext_iff_of_nodup (sortedEntries_nodup gpus) (sortedEntries_nodup gpus')).mpr fun gpu => ?_
    rw [member, member, agree]
  exact eq_of_dictGet keys (sortedEntries_nodup gpus) agree

/-! ### The round trip -/

theorem unmarshalGpus_marshal (gpu2Slurm : Dict Str SlurmMetadata) (tail : Str) :
    unmarshalGpus (marshalGpus gpu2Slurm ++ tail) =
      if skipSpace tail = [] then some (sortedEntries gpu2Slurm) else none := by
  rw [unmarshalGpus, Encodes.document (marshalGpus_encodes 9998 gpu2Slurm)]
  split
  · show List.foldlM setGpu [] _ = _
    rw [decodeGpus_value, dictUpdate_of_new (by simpa using sortedEntries_nodup gpu2Slurm), List.nil_append]
  · rfl

/-- The text of a map is read back as this map, whatever its order was and
whatever is in its strings, and it is not read at all if anything but blanks
follows it. -/
theorem marshalGpus_roundTrip (gpu2Slurm : Dict Str SlurmMetadata) :
    (∃ gpus, (∀ gpu, dictGet gpus gpu = gpu2Slurm.get gpu) ∧ ∀ tail,
      unmarshalGpus (marshalGpus gpu2Slurm ++ tail) = if skipSpace tail = [] then some gpus else none) ∧
    ∀ other : Dict Str SlurmMetadata,
      marshalGpus other = marshalGpus gpu2Slurm ↔ ∀ gpu, other.get gpu = gpu2Slurm.get gpu := by
  refine ⟨⟨sortedEntries gpu2Slurm, dictGet_sortedEntries gpu2Slurm, unmarshalGpus_marshal gpu2Slurm⟩, fun other => ?_⟩
  constructor
  · intro same gpu
    have blank : skipSpace [] = [] := rfl
    have read := unmarshalGpus_marshal other []
    rw [same, unmarshalGpus_marshal, if_pos blank, if_pos blank] at read
    rw [← dictGet_sortedEntries, ← dictGet_sortedEntries, Option.some.inj read]
  · intro same
    rw [marshalGpus, marshalGpus, sortedEntries_congr same]

end GpuTelemetry
