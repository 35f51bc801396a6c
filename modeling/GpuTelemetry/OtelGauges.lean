import GpuTelemetry.Dicts
import GpuTelemetry.LastWrite
import GpuTelemetry.MetricNames
import GpuTelemetry.Text
import Mathlib.Data.Finset.Dedup
import Mathlib.Data.Rat.Defs

namespace GpuTelemetry

/-! ### Messages -/

inductive Number
  | int (n : Int)
  | float (q : ℚ)
  | bool (b : Bool)
  deriving DecidableEq

/-- The number that decides equality with other numbers. -/
def Number.value : Number → ℚ
  | .int n => n
  | .float q => q
  | .bool b => if b then 1 else 0

/-- The value of a dataclass field. In a list or a dict, `none` stands for
whatever is not a number. -/
inductive PyValue
  | none
  | str (s : Str)
  | number (x : Number)
  | list (items : List (Option Number))
  | dict (items : List (Str × Option Number))
  | other
  deriving DecidableEq

/-- A dataclass instance as `fields` and `getattr` see it. -/
structure DataclassInstance where
  fields : List (String × PyValue)

/-- `getattr(message, name, None)`. -/
def DataclassInstance.getattr (message : DataclassInstance) (name : String) : PyValue :=
  (message.fields.lookup name).getD .none

/-! ### `Otel._write_metric` -/

structure SinkAdditionalParams where
  gpuK8sLabels : Option (List (Int × List (String × Str)))
  emitGenaiNamespace : Bool

/-- The part of an `Otel` that `_write_metric` reads, and `str` of the values
that are neither text nor integers. -/
structure Otel where
  resourceLabels : List (String × Str)
  strOther : PyValue → Str

def Otel.str (otel : Otel) : PyValue → Str
  | .str s => s
  | .number (.int n) => intText n
  | .number (.bool b) => if b then "True".toList else "False".toList
  | v => otel.strOther v

abbrev Attributes := List (String × PyValue)

/-- A value of a gauge: its series is the name with the set of attributes. -/
structure Setting where
  name : String
  attributes : Finset (String × PyValue)
  amount : Number

def Setting.series (s : Setting) : String × Finset (String × PyValue) := (s.name, s.attributes)

def identityFields : List String :=
  ["gpu_index", "gpu_uuid", "gpu_model", "mig_enabled", "mig_instance_id", "rank"]

def stringAttributeFields : List (String × String) :=
  [("model_name", "model.name"), ("model_version", "model.version"),
    ("collective_type", "nccl.collective.type")]

def intAttributeFields : List (String × String) :=
  [("rank", "nccl.rank"), ("mig_instance_id", "gpu.mig.instance_id")]

def textAttributes (attrs : List (String × Str)) : Attributes := attrs.map fun e => (e.1, .str e.2)

/-- The attributes of a name table. -/
def tableAttributes (attrs : List (String × String)) : Attributes := attrs.map fun e => (e.1, .str e.2.toList)

/-- An attribute for a field that is not `None`. -/
def setPresent (message : DataclassInstance) (attrField attrKey : String) (f : PyValue → PyValue)
    (attrs : Attributes) : Attributes :=
  match message.getattr attrField with
  | .none => attrs
  | v => dictSet attrKey (f v) attrs

/-- `params.gpu_k8s_labels.get(gpu_index, {})`. -/
def k8sLabels (params : SinkAdditionalParams) : PyValue → List (String × Str)
  | .number x => (((params.gpuK8sLabels.getD []).find? fun entry => (entry.1 : ℚ) = x.value).map Prod.snd).getD []
  | _ => []

def baseAttributes (otel : Otel) (params : SinkAdditionalParams) (message : DataclassInstance) (fieldName : String) :
    Attributes :=
  let text := fun v => PyValue.str (otel.str v)
  let attrs := tableAttributes (getDataPointAttributes fieldName)
  let attrs := setPresent message "gpu_index" "gpu.index" text attrs
  let attrs := setPresent message "gpu_uuid" "gpu.uuid" id attrs
  let attrs := setPresent message "gpu_model" "gpu.model" id attrs
  let attrs := (stringAttributeFields ++ intAttributeFields).foldl
    (fun attrs entry => setPresent message entry.1 entry.2 text attrs) attrs
  let attrs := setPresent message "mig_enabled" "gpu.mig.enabled"
    (fun v => .str ((otel.str v).map Char.toLower)) attrs
  let attrs := dictUpdate attrs (textAttributes otel.resourceLabels)
  dictUpdate attrs (textAttributes (k8sLabels params (message.getattr "gpu_index")))

def emitScalar (fieldName : String) (metricValue : Number) (baseAttrs : Attributes) (emitGenai : Bool) : List Setting :=
  ⟨getOtelName fieldName, baseAttrs.toFinset, metricValue⟩ ::
    match fieldToGenaiName.lookup fieldName with
    | some genaiName =>
      let genaiAttrs := dictUpdate baseAttrs (tableAttributes ((genaiDataPointAttributes.lookup fieldName).getD []))
      if emitGenai then [⟨genaiName, genaiAttrs.toFinset, metricValue⟩] else []
    | none => []

/-- The body of the loop over the fields of a message. -/
def writeField (otel : Otel) (params : SinkAdditionalParams) (message : DataclassInstance) (field : String × PyValue) :
    List Setting :=
  let fieldName := field.1
  let baseAttrs := baseAttributes otel params message fieldName
  if fieldName ∈ identityFields then []
  else
    match field.2 with
    | .none | .str _ | .other => []
    | .number x => emitScalar fieldName x baseAttrs params.emitGenaiNamespace
    | .list items => items.zipIdx.filterMap fun item => item.1.map fun x =>
        ⟨getOtelName fieldName,
          (dictSet "gpu.interconnect.link_index" (.str (decimal item.2)) baseAttrs).toFinset, x⟩
    | .dict items => items.filterMap fun item => item.2.map fun x =>
        ⟨getOtelName fieldName,
          (dictSet "gpu.ecc.memory_block" (.str (item.1.map Char.toLower)) baseAttrs).toFinset, x⟩

/-- The gauge values set for the messages, in order. -/
def writeMetric (otel : Otel) (params : SinkAdditionalParams) (messages : List DataclassInstance) : List Setting :=
  messages.flatMap fun message => message.fields.flatMap (writeField otel params message)

/-- What the gauges hold after some settings. -/
def gauges (settings : List Setting) : String × Finset (String × PyValue) → Option Number :=
  writeAll (fun _ => none) (settings.map fun s => ([s.series], s.amount))

/-- The series of a field of a message. -/
def fieldSeries (otel : Otel) (params : SinkAdditionalParams) (message : DataclassInstance) (fieldName : String) :
    String × Finset (String × PyValue) :=
  (getOtelName fieldName, (baseAttributes otel params message fieldName).toFinset)

/-! ### What the gauges tell about messages -/

def DataclassInstance.DifferInIdentity (message other : DataclassInstance) : Prop :=
  message.getattr "account" ≠ other.getattr "account" ∨
    message.getattr "derived_cluster" ≠ other.getattr "derived_cluster"

/-- Messages of different accounts or clusters set different series, and the
gauges hold every numeric field of every message. -/
structure SeriesIdentifyMessages (otel : Otel) (params : SinkAdditionalParams) (messages : List DataclassInstance) :
    Prop where
  separate : ∀ message ∈ messages, ∀ other ∈ messages, message.DifferInIdentity other →
    ∀ s ∈ writeMetric otel params [message], ∀ t ∈ writeMetric otel params [other], s.series ≠ t.series
  determined : ∀ message ∈ messages, ∀ name x, (name, PyValue.number x) ∈ message.fields →
    gauges (writeMetric otel params messages) (fieldSeries otel params message name) = some x

/-- A setting holds when every setting of its series has its amount. -/
theorem gauges_of_agreeing {settings : List Setting} {s : Setting} (member : s ∈ settings)
    (agree : ∀ t ∈ settings, t.series = s.series → t.amount = s.amount) :
    gauges settings s.series = some s.amount := by
  obtain ⟨earlier, last, later, whole, same, quiet⟩ := exists_last ⟨s, member, rfl⟩ (p := fun t => t.series = s.series)
  have amount := agree last (by rw [whole]; simp) same
  rw [gauges, whole, List.map_append, List.map_cons, ← amount]
  refine writeAll_last (by rw [same]; exact List.mem_singleton_self _) ?_ _
  intro write inLater
  obtain ⟨t, later, rfl⟩ := List.mem_map.mp inLater
  rw [List.mem_singleton]
  exact fun again => quiet t later again.symm

theorem DataclassInstance.getattr_absent {message : DataclassInstance} {name : String}
    (absent : name ∉ message.fields.map Prod.fst) :
    message.getattr name = .none := by
  rw [DataclassInstance.getattr, List.lookup_eq_none_iff.mpr]
  · rfl
  · intro field member
    rw [bne_iff_ne]
    rintro rfl
    exact absent (List.mem_map_of_mem member)

/-! ### Fields without names of their own -/

/-- A field that is written as the gauge `gpu.<field>` only. -/
def Unnamed (fieldName : String) : Prop :=
  fieldToOtelName.lookup fieldName = none ∧ fieldToGenaiName.lookup fieldName = none ∧ fieldName ∉ identityFields

instance (fieldName : String) : Decidable (Unnamed fieldName) :=
  inferInstanceAs (Decidable (_ = none ∧ _ = none ∧ fieldName ∉ identityFields))

theorem Unnamed.otelName {fieldName : String} (unnamed : Unnamed fieldName) :
    getOtelName fieldName = "gpu." ++ fieldName := by
  rw [getOtelName, unnamed.1, Option.getD_none]

theorem emitScalar_unnamed {fieldName : String} (unnamed : Unnamed fieldName) (metricValue : Number)
    (baseAttrs : Attributes) (emitGenai : Bool) :
    emitScalar fieldName metricValue baseAttrs emitGenai =
      [⟨getOtelName fieldName, baseAttrs.toFinset, metricValue⟩] := by
  rw [emitScalar, unnamed.2.1]

theorem writeField_number (otel : Otel) (params : SinkAdditionalParams) (message : DataclassInstance)
    {fieldName : String} (unnamed : Unnamed fieldName) (x : Number) :
    writeField otel params message (fieldName, .number x) =
      [⟨getOtelName fieldName, (baseAttributes otel params message fieldName).toFinset, x⟩] := by
  rw [writeField, if_neg unnamed.2.2]
  exact emitScalar_unnamed unnamed x _ _

theorem writeField_name {otel : Otel} {params : SinkAdditionalParams} {message : DataclassInstance}
    {field : String × PyValue} (unnamed : Unnamed field.1) {s : Setting}
    (member : s ∈ writeField otel params message field) :
    s.name = "gpu." ++ field.1 := by
  rw [← unnamed.otelName]
  rw [writeField, if_neg unnamed.2.2] at member
  split at member
  · simp at member
  · simp at member
  · simp at member
  · rw [emitScalar_unnamed unnamed, List.mem_singleton] at member
    rw [member]
  · obtain ⟨item, _, written⟩ := List.mem_filterMap.mp member
    obtain ⟨x, _, rfl⟩ := Option.map_eq_some_iff.mp written
    rfl
  · obtain ⟨item, _, written⟩ := List.mem_filterMap.mp member
    obtain ⟨x, _, rfl⟩ := Option.map_eq_some_iff.mp written
    rfl

/-- One message of such fields is determined by the gauges. -/
theorem seriesIdentify_single (otel : Otel) (params : SinkAdditionalParams) {message : DataclassInstance}
    (distinct : (message.fields.map Prod.fst).Nodup) (unnamed : ∀ name ∈ message.fields.map Prod.fst, Unnamed name) :
    SeriesIdentifyMessages otel params [message] := by
  have unnamedField : ∀ field ∈ message.fields, Unnamed field.1 :=
    fun field member => unnamed _ (List.mem_map_of_mem member)
  refine ⟨?_, ?_⟩
  · intro first inFirst second inSecond differ
    rw [List.mem_singleton] at inFirst inSecond
    rw [inFirst, inSecond] at differ
    rcases differ with account | cluster
    · exact absurd rfl account
    · exact absurd rfl cluster
  · intro first inFirst name x field
    rw [List.mem_singleton] at inFirst
    subst inFirst
    have settings : writeMetric otel params [first] = first.fields.flatMap (writeField otel params first) := by
      simp [writeMetric]
    have written := writeField_number otel params first (unnamedField _ field) x
    rw [settings]
    refine gauges_of_agreeing (s := ⟨getOtelName name, (baseAttributes otel params first name).toFinset, x⟩)
      (List.mem_flatMap.mpr ⟨_, field, by simp [written]⟩) ?_
    intro t member same
    obtain ⟨other, inFields, inOther⟩ := List.mem_flatMap.mp member
    -- the gauge names give the fields, which are named only once
    have names := writeField_name (unnamedField other inFields) inOther
    have sameName : t.name = getOtelName name := congrArg Prod.fst same
    rw [names, (unnamedField _ field).otelName] at sameName
    have sameField : other = (name, .number x) :=
      List.inj_on_of_nodup_map distinct inFields field (String.append_right_inj _ |>.mp sameName)
    rw [sameField, written, List.mem_singleton] at inOther
    rw [inOther]

/-- The attributes of a message without identity fields. -/
def plainAttributes (otel : Otel) (fieldName : String) : Attributes :=
  dictUpdate (tableAttributes (getDataPointAttributes fieldName)) (textAttributes otel.resourceLabels)

/-- The fields that become attributes of a message. -/
def attributeFields : List String :=
  ["gpu_index", "gpu_uuid", "gpu_model", "model_name", "model_version", "collective_type", "rank", "mig_instance_id",
    "mig_enabled"]

theorem baseAttributes_plain (otel : Otel) (params : SinkAdditionalParams) {message : DataclassInstance}
    (absent : ∀ name ∈ attributeFields, name ∉ message.fields.map Prod.fst) (fieldName : String) :
    baseAttributes otel params message fieldName = plainAttributes otel fieldName := by
  have none : ∀ name ∈ attributeFields, message.getattr name = .none :=
    fun name member => DataclassInstance.getattr_absent (absent name member)
  have skip : ∀ name ∈ attributeFields, ∀ attrKey f attrs, setPresent message name attrKey f attrs = attrs := by
    intro name member attrKey f attrs
    rw [setPresent, none name member]
  have index : message.getattr "gpu_index" = .none := none _ (by decide)
  have skipAll : ∀ attrs f, (stringAttributeFields ++ intAttributeFields).foldl
      (fun attrs entry => setPresent message entry.1 entry.2 f attrs) attrs = attrs := by
    intro attrs f
    simp only [stringAttributeFields, intAttributeFields, List.cons_append,
      List.nil_append, List.foldl_cons, List.foldl_nil]
    rw [skip _ (by decide), skip _ (by decide), skip _ (by decide), skip _ (by decide), skip _ (by decide)]
  rw [baseAttributes, plainAttributes, skip _ (by decide), skip _ (by decide), skip _ (by decide), skipAll,
    skip _ (by decide), index]
  rfl

/-- Two messages with the same numeric field and without identity fields share
its series. -/
theorem share_series (otel : Otel) (params : SinkAdditionalParams) {message other : DataclassInstance} {name : String}
    (unnamed : Unnamed name) {x y : Number} (first : (name, .number x) ∈ message.fields)
    (second : (name, .number y) ∈ other.fields)
    (absentFirst : ∀ name ∈ attributeFields, name ∉ message.fields.map Prod.fst)
    (absentSecond : ∀ name ∈ attributeFields, name ∉ other.fields.map Prod.fst) :
    ∃ s ∈ writeMetric otel params [message], ∃ t ∈ writeMetric otel params [other], s.series = t.series := by
  have written : ∀ {m : DataclassInstance} {z : Number}, (name, PyValue.number z) ∈ m.fields →
      (∀ name ∈ attributeFields, name ∉ m.fields.map Prod.fst) →
      ⟨getOtelName name, (plainAttributes otel name).toFinset, z⟩ ∈ writeMetric otel params [m] := by
    intro m z field absent
    rw [writeMetric, List.flatMap_singleton]
    refine List.mem_flatMap.mpr ⟨_, field, ?_⟩
    rw [writeField_number otel params m unnamed z, baseAttributes_plain otel params absent]
    exact List.mem_singleton_self _
  exact ⟨_, written first absentFirst, _, written second absentSecond, rfl⟩

end GpuTelemetry
