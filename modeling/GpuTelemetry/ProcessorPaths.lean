import GpuTelemetry.K8sProcessor
import GpuTelemetry.SlurmProcessor

namespace GpuTelemetry

variable {ω : Type}

theorem AttributeValue.getStr_of_isString {value : AttributeValue ω} (isString : value.IsString)
    (rendering : Rendering ω) : value.getStr = rendering.asString value := by
  cases value with
  | str s => exact (rendering.asString_str s).symm
  | int n => exact isString.elim
  | slice values => exact isString.elim
  | other value => exact isString.elim

theorem AttributeValue.getStr_of_not_isString {value : AttributeValue ω} (noString : ¬value.IsString) :
    value.getStr = [] := by
  cases value with
  | str s => exact absurd trivial noString
  | int n => rfl
  | slice values => rfl
  | other value => rfl

theorem SameAttributes.refl (metadata : K8sMetadata) : SameAttributes metadata metadata :=
  ⟨rfl, rfl, rfl, rfl, rfl, rfl, rfl, rfl, fun _ => rfl, fun _ => rfl⟩

/-- Metrics and traces are enriched as logs are exactly when the index is a string,
or the empty text and the text of the index lead to the same job and to pods that
show the same. -/
theorem processor_paths_agree_iff (rendering : Rendering ω) (gpu2Slurm : Dict Str SlurmMetadata)
    (slurmJobIDs : List Str) (gpu2k8s : Dict Str K8sMetadata) (index : AttributeValue ω) :
    SlurmPathsAgree rendering gpu2Slurm slurmJobIDs index ∧ K8sPathsAgree rendering gpu2k8s index ↔
      index.IsString ∨ gpu2Slurm.get [] = gpu2Slurm.get (rendering.asString index) ∧
        Option.Rel SameAttributes (gpu2k8s.get []) (gpu2k8s.get (rendering.asString index)) := by
  rw [slurmPathsAgree_iff, k8sPathsAgree_iff]
  by_cases isString : index.IsString
  · rw [AttributeValue.getStr_of_isString isString rendering]
    refine iff_of_true ⟨rfl, ?_⟩ (.inl isString)
    cases gpu2k8s.get (rendering.asString index) with
    | none => exact .none
    | some metadata => exact .some (.refl metadata)
  · rw [AttributeValue.getStr_of_not_isString isString, or_iff_right isString]

/-- Texts of strings and numbers, where no other values occur. -/
def plainRendering : Rendering Empty where
  asString := fun value =>
    match value with
    | .str s => s
    | .int n => itoa n
    | .slice values =>
      "[".toList ++ [','].intercalate (values.map fun s => "\"".toList ++ s ++ "\"".toList) ++ "]".toList
  asString_str := fun _ => rfl
  asString_int := fun _ => rfl

/-- A job and a pod that hold GPU 0. -/
def gpu0Job : Dict Str SlurmMetadata where
  entries := [("0".toList, ⟨"7".toList, "train".toList, [], "alice".toList, [], [], [], [], []⟩)]
  distinct := List.nodup_singleton _

def gpu0Pod : Dict Str K8sMetadata where
  entries := [("0".toList, ⟨"train-0".toList, "ml".toList, "node-1".toList, "main".toList, .empty, [], [], [], [], [],
    [], []⟩)]
  distinct := List.nodup_singleton _

/-- With the number 0 as index, only logs are enriched. -/
theorem processor_paths_disagree : ¬SlurmPathsAgree plainRendering gpu0Job [] (.int 0) ∧
    ¬K8sPathsAgree plainRendering gpu0Pod (.int 0) := by
  rw [slurmPathsAgree_iff, k8sPathsAgree_iff]
  constructor
  · decide
  · rintro ⟨⟩

end GpuTelemetry
