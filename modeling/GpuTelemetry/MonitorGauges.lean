import GpuTelemetry.K8sGpuMap
import GpuTelemetry.MonitorRuns
import GpuTelemetry.OtelGauges

namespace GpuTelemetry

variable {names : List String} {kinds : Fin names.length → FieldKind} {Handle : Type}

/-! ### The messages of a monitor -/

/-- Numbers are what they are as numbers of a gauge. -/
def Scalar.toNumber (v : Scalar) : Option Number := (ofLex v).getLeft?.map .float

def FieldValue.toPyValue : FieldValue Str Scalar → PyValue
  | .none => .none
  | .number v =>
    match ofLex v with
    | .inl q => .number (.float q)
    | .inr s => .str s
  | .dict items => .dict (items.map fun item => (item.1, item.2.bind Scalar.toNumber))
  | .list items => .list (items.map fun item => item.bind Scalar.toNumber)

def optionalText : Option Str → PyValue
  | some s => .str s
  | none => .none

def IndexedDeviceMetrics.message (device : IndexedDeviceMetrics names) : DataclassInstance where
  fields := device.metrics.fields.map (fun field => (field.1, field.2.toPyValue)) ++
    ("gpu_index", .number (.int device.gpuIndex)) :: device.identity.map fun field => (field.1, optionalText field.2)

def HostMetrics.message (host : HostMetrics) : DataclassInstance where
  fields := [("max_gpu_util", .number (.float host.maxGpuUtil)), ("min_gpu_util", .number (.float host.minGpuUtil)),
    ("avg_gpu_util", .number (.float host.avgGpuUtil)), ("ram_util", .number (.float host.ramUtil))]

/-- The parameters of a `METRIC` write. -/
def metricParams (gpuK8sLabels : List (Nat × List (String × Str))) : SinkAdditionalParams where
  gpuK8sLabels := some (gpuK8sLabels.map fun entry => ((entry.1 : Int), entry.2))
  emitGenaiNamespace := false

/-- What a write leaves at the gauges; a `LOG` write leaves nothing there. -/
def otelWrite (otel : Otel) : SinkWrite names → List Setting
  | .log _ _ => []
  | .metric _ devices host gpuK8sLabels =>
    writeMetric otel (metricParams gpuK8sLabels) (devices.map IndexedDeviceMetrics.message ++ [host.message])

/-! ### The attributes of a field -/

/-- The keys that a message gives to each of its fields. -/
def messageKeys : List String :=
  ["gpu.index", "gpu.uuid", "gpu.model", "model.name", "model.version", "nccl.collective.type", "nccl.rank",
    "gpu.mig.instance_id", "gpu.mig.enabled"]

/-- The keys of `_resource_labels` and of `get_gpu_k8s_mapping`. -/
def labelKeys : List String :=
  ["k8s.cluster.name", "host.name", "k8s.namespace.name", "k8s.pod.name", "k8s.deployment.name", "k8s.job.name"]

/-- `setPresent` as items of a dictionary. -/
def presentItems (message : DataclassInstance) (attrField attrKey : String) (f : PyValue → PyValue) : Attributes :=
  match message.getattr attrField with
  | .none => []
  | v => [(attrKey, f v)]

theorem setPresent_eq (message : DataclassInstance) (attrField attrKey : String) (f : PyValue → PyValue)
    (attrs : Attributes) :
    setPresent message attrField attrKey f attrs = dictUpdate attrs (presentItems message attrField attrKey f) := by
  unfold setPresent presentItems
  cases message.getattr attrField <;> rfl

/-- What a message and its labels give to each of its fields. -/
def sharedItems (otel : Otel) (params : SinkAdditionalParams) (message : DataclassInstance) : Attributes :=
  presentItems message "gpu_index" "gpu.index" (fun v => .str (otel.str v)) ++
    (presentItems message "gpu_uuid" "gpu.uuid" id ++ (presentItems message "gpu_model" "gpu.model" id ++
    ((stringAttributeFields ++ intAttributeFields).flatMap (fun entry =>
      presentItems message entry.1 entry.2 fun v => .str (otel.str v)) ++
    (presentItems message "mig_enabled" "gpu.mig.enabled" (fun v => .str ((otel.str v).map Char.toLower)) ++
    (textAttributes otel.resourceLabels ++ textAttributes (k8sLabels params (message.getattr "gpu_index")))))))

theorem foldl_setPresent (message : DataclassInstance) (f : PyValue → PyValue) (entries : List (String × String))
    (attrs : Attributes) :
    entries.foldl (fun attrs entry => setPresent message entry.1 entry.2 f attrs) attrs =
      dictUpdate attrs (entries.flatMap fun entry => presentItems message entry.1 entry.2 f) := by
  induction entries generalizing attrs with
  | nil => rfl
  | cons entry entries ih => rw [List.foldl_cons, ih, List.flatMap_cons, dictUpdate_append, setPresent_eq]

theorem baseAttributes_eq (otel : Otel) (params : SinkAdditionalParams) (message : DataclassInstance)
    (fieldName : String) :
    baseAttributes otel params message fieldName =
      dictUpdate (tableAttributes (getDataPointAttributes fieldName)) (sharedItems otel params message) := by
  simp only [baseAttributes, foldl_setPresent, sharedItems, dictUpdate_append]
  simp only [setPresent_eq]

theorem presentItems_key {message : DataclassInstance} {attrField attrKey : String} {f : PyValue → PyValue}
    {item : String × PyValue} (member : item ∈ presentItems message attrField attrKey f) : item.1 = attrKey := by
  unfold presentItems at member
  split at member
  · cases member
  · rw [List.mem_singleton.mp member]

/-- The labels have keys of their own. -/
def KnownLabels (otel : Otel) (params : SinkAdditionalParams) : Prop :=
  (∀ label ∈ otel.resourceLabels, label.1 ∈ labelKeys) ∧
    ∀ entry ∈ params.gpuK8sLabels.getD [], ∀ label ∈ entry.2, label.1 ∈ labelKeys

theorem textAttributes_key {labels : List (String × Str)} (known : ∀ label ∈ labels, label.1 ∈ labelKeys)
    {item : String × PyValue} (member : item ∈ textAttributes labels) : item.1 ∈ labelKeys := by
  obtain ⟨label, inLabels, rfl⟩ := List.mem_map.mp member
  exact known label inLabels

theorem k8sLabels_known {otel : Otel} {params : SinkAdditionalParams} (known : KnownLabels otel params) (v : PyValue) :
    ∀ label ∈ k8sLabels params v, label.1 ∈ labelKeys := by
  unfold k8sLabels
  split
  · rename_i x
    cases found : (params.gpuK8sLabels.getD []).find? fun entry => (entry.1 : ℚ) = x.value with
    | none => exact fun label member => (nomatch member)
    | some entry => exact known.2 entry (List.mem_of_find?_eq_some found)
  · exact fun label member => (nomatch member)

/-- `get_gpu_k8s_mapping` gives no other labels. -/
theorem podAttributes_known (api : K8sApi) (pod : Pod) :
    ∀ label ∈ podAttributes api pod, label.1 ∈ labelKeys.map String.toList := by
  have optional : ∀ key ∈ labelKeys, ∀ value, ∀ label ∈ optionalAttribute key value,
      label.1 ∈ labelKeys.map String.toList := by
    intro key member value label inValue
    unfold optionalAttribute at inValue
    split at inValue
    · rw [List.mem_singleton.mp inValue]
      exact List.mem_map_of_mem member
    · cases inValue
  intro label member
  simp only [podAttributes, List.mem_append, List.mem_cons, List.not_mem_nil, or_false] at member
  rcases member with ((rfl | rfl) | deployment) | job
  · exact List.mem_map_of_mem (by decide)
  · exact List.mem_map_of_mem (by decide)
  · exact optional _ (by decide) _ label deployment
  · exact optional _ (by decide) _ label job

/-- Labels as `get_gpu_k8s_mapping` gives them. -/
def Mapped (client : Except Str K8sApi) (nodeName : Str) (labels : List (Nat × List (String × Str))) : Prop :=
  ∀ entry ∈ labels, getGpuK8sMapping client nodeName entry.1 = some (entry.2.map fun label => (label.1.toList, label.2))

theorem getGpuK8sMapping_known {client : Except Str K8sApi} {nodeName : Str} {index : Nat} {attrs : List (Str × Str)}
    (found : getGpuK8sMapping client nodeName index = some attrs) : ∃ api pod, attrs = podAttributes api pod := by
  cases client with
  | error e => cases found
  | ok api =>
    cases listed : api.listPods (runningOnNode nodeName) with
    | error e =>
      rw [getGpuK8sMapping, listed] at found
      cases found
    | ok pods =>
      have member := (getGpuK8sMapping_numbers listed).mem_of_some found
      obtain ⟨pod, -, inCopies⟩ := List.mem_flatMap.mp member
      exact ⟨api, pod, List.eq_of_mem_replicate inCopies⟩

/-- The labels of a mapping meet what is asked of them. -/
theorem Mapped.known {client : Except Str K8sApi} {nodeName : Str} {labels : List (Nat × List (String × Str))}
    (mapped : Mapped client nodeName labels) {otel : Otel}
    (resource : ∀ label ∈ otel.resourceLabels, label.1 ∈ labelKeys) :
    KnownLabels otel (metricParams labels) := by
  refine ⟨resource, fun entry member label inEntry => ?_⟩
  obtain ⟨source, inLabels, rfl⟩ := List.mem_map.mp member
  obtain ⟨api, pod, attrs⟩ := getGpuK8sMapping_known (mapped source inLabels)
  have key := podAttributes_known api pod (label.1.toList, label.2) (attrs ▸ List.mem_map_of_mem inEntry)
  obtain ⟨known, isKnown, same⟩ := List.mem_map.mp key
  exact String.toList_injective same ▸ isKnown

/-- Behind the first item, which is the index of the device, are other keys. -/
theorem sharedItems_key {otel : Otel} {params : SinkAdditionalParams} (known : KnownLabels otel params)
    {message : DataclassInstance} {item : String × PyValue} (member : item ∈ sharedItems otel params message) :
    item ∈ presentItems message "gpu_index" "gpu.index" (fun v => .str (otel.str v)) ∨
      item.1 ∈ messageKeys.tail ++ labelKeys := by
  simp only [sharedItems, List.mem_append] at member
  rcases member with index | uuid | model | entry | mig | resource | labels
  · exact .inl index
  · exact .inr (by rw [presentItems_key uuid]; decide)
  · exact .inr (by rw [presentItems_key model]; decide)
  · obtain ⟨entry, inEntries, present⟩ := List.mem_flatMap.mp entry
    have keys : ∀ entry ∈ stringAttributeFields ++ intAttributeFields, entry.2 ∈ messageKeys.tail ++ labelKeys := by
      decide
    exact .inr (presentItems_key present ▸ keys entry inEntries)
  · exact .inr (by rw [presentItems_key mig]; decide)
  · exact .inr (List.mem_append_right _ (textAttributes_key known.1 resource))
  · exact .inr (List.mem_append_right _ (textAttributes_key (k8sLabels_known known _) labels))

/-! ### Series -/

theorem pointAttributes_known : ∀ entry ∈ fieldDataPointAttributes, (entry.2.map Prod.fst).Nodup ∧
    ∀ attr ∈ entry.2, attr.1 ∉ messageKeys ++ labelKeys := by
  decide +kernel

theorem getDataPointAttributes_known (fieldName : String) :
    ((getDataPointAttributes fieldName).map Prod.fst).Nodup ∧
      ∀ attr ∈ getDataPointAttributes fieldName, attr.1 ∉ messageKeys ++ labelKeys := by
  unfold getDataPointAttributes
  cases found : fieldDataPointAttributes.lookup fieldName with
  | none => exact ⟨List.nodup_nil, fun attr member => (nomatch member)⟩
  | some attrs => exact pointAttributes_known (fieldName, attrs) (mem_of_dictGet found)

theorem tableAttributes_keys (attrs : List (String × String)) :
    (tableAttributes attrs).map Prod.fst = attrs.map Prod.fst := by
  rw [tableAttributes, List.map_map]
  rfl

theorem baseAttributes_nodup (otel : Otel) (params : SinkAdditionalParams) (message : DataclassInstance)
    (fieldName : String) : ((baseAttributes otel params message fieldName).map Prod.fst).Nodup := by
  rw [baseAttributes_eq]
  exact (dictUpdate_keys _ (tableAttributes_keys _ ▸ (getDataPointAttributes_known fieldName).1)).1

/-- Equal sets of attributes are equal dictionaries. -/
theorem dictGet_of_toFinset_eq {d d' : Attributes} (distinct : (d.map Prod.fst).Nodup)
    (distinct' : (d'.map Prod.fst).Nodup) (same : d.toFinset = d'.toFinset) (key : String) :
    dictGet d key = dictGet d' key := by
  have members : ∀ entry, entry ∈ d ↔ entry ∈ d' := fun entry => by
    rw [← List.mem_toFinset, same, List.mem_toFinset]
  ext value
  constructor
  · exact fun found => dictGet_of_mem distinct' ((members _).mp (mem_of_dictGet found))
  · exact fun found => dictGet_of_mem distinct ((members _).mpr (mem_of_dictGet found))

variable {otel : Otel} {params params' : SinkAdditionalParams} {message message' : DataclassInstance}
  {f g : String}

/-- Two fields are told apart by the name of their gauge or by an attribute of their own. -/
def Apart (f g : String) : Prop :=
  getOtelName f ≠ getOtelName g ∨
    ∃ key ∈ (getDataPointAttributes f ++ getDataPointAttributes g).map Prod.fst,
      (getDataPointAttributes f).lookup key ≠ (getDataPointAttributes g).lookup key

instance (f g : String) : Decidable (Apart f g) := inferInstanceAs (Decidable (_ ∨ ∃ key ∈ _, _ ≠ _))

/-- An attribute of a field's own is not touched. -/
theorem baseAttributes_own (known : KnownLabels otel params) {key : String} (own : key ∉ messageKeys ++ labelKeys) :
    dictGet (baseAttributes otel params message f) key =
      (dictGet (getDataPointAttributes f) key).map fun v => .str v.toList := by
  rw [baseAttributes_eq, dictGet_dictUpdate_quiet, tableAttributes]
  · exact dictGet_mapValues (fun v : String => PyValue.str v.toList) _ _
  · rintro item member rfl
    rcases sharedItems_key known member with index | other
    · exact own (by rw [presentItems_key index]; decide)
    · rw [messageKeys, List.tail_cons] at other
      exact own (List.mem_cons_of_mem _ other)

theorem Apart.series_ne (apart : Apart f g) (known : KnownLabels otel params) (known' : KnownLabels otel params') :
    fieldSeries otel params message f ≠ fieldSeries otel params' message' g := by
  intro same
  obtain ⟨name, attributes⟩ := Prod.mk.inj same
  rcases apart with names | ⟨key, member, differ⟩
  · exact names name
  · have own : key ∉ messageKeys ++ labelKeys := by
      obtain ⟨attr, inAttrs, rfl⟩ := List.mem_map.mp member
      rcases List.mem_append.mp inAttrs with first | second
      · exact (getDataPointAttributes_known f).2 attr first
      · exact (getDataPointAttributes_known g).2 attr second
    have equal := dictGet_of_toFinset_eq (baseAttributes_nodup _ _ _ _) (baseAttributes_nodup _ _ _ _) attributes key
    rw [baseAttributes_own known own, baseAttributes_own known' own] at equal
    refine differ (Option.map_injective (fun v w sameText => ?_) equal)
    exact String.toList_injective (PyValue.str.inj sameText)

/-- The attribute of the index of the device. -/
theorem baseAttributes_index (known : KnownLabels otel params) :
    dictGet (baseAttributes otel params message f) "gpu.index" =
      match message.getattr "gpu_index" with
      | .none => none
      | v => some (.str (otel.str v)) := by
  have others : "gpu.index" ∉ messageKeys.tail ++ labelKeys := by decide
  rw [baseAttributes_eq]
  cases index : message.getattr "gpu_index" with
  | none =>
    rw [dictGet_dictUpdate_quiet, dictGet_eq_none]
    · rw [tableAttributes_keys]
      intro member
      obtain ⟨attr, inAttrs, key⟩ := List.mem_map.mp member
      exact (getDataPointAttributes_known f).2 attr inAttrs (key ▸ by decide)
    · intro item member key
      rcases sharedItems_key known member with isIndex | other
      · rw [presentItems, index] at isIndex
        cases isIndex
      · exact others (key ▸ other)
  | _ =>
    refine dictGet_dictUpdate_agree _
      (List.mem_append_left _ (by rw [presentItems, index]; exact List.mem_singleton_self _)) ?_
    intro item member key
    rcases sharedItems_key known member with isIndex | other
    · rw [presentItems, index] at isIndex
      rw [List.mem_singleton.mp isIndex]
    · exact absurd (key ▸ other) others

theorem series_index (known : KnownLabels otel params) (known' : KnownLabels otel params')
    (same : fieldSeries otel params message f = fieldSeries otel params' message' g) {i : Nat}
    (index : message.getattr "gpu_index" = .number (.int i)) :
    message'.getattr "gpu_index" ≠ .none ∧
      ∀ j : Nat, message'.getattr "gpu_index" = .number (.int j) → i = j := by
  have equal := dictGet_of_toFinset_eq (baseAttributes_nodup _ _ _ _) (baseAttributes_nodup _ _ _ _)
    (Prod.mk.inj same).2 "gpu.index"
  rw [baseAttributes_index known, baseAttributes_index known', index] at equal
  refine ⟨fun none => ?_, fun j index' => ?_⟩
  · rw [none] at equal
    cases equal
  · rw [index'] at equal
    have text : intText i = intText j := PyValue.str.inj (Option.some.inj equal)
    rw [intText, intText, if_neg (by omega), if_neg (by omega)] at text
    exact decimal_injective text

/-! ### What a write leaves -/

/-- Values that are written as one number or not at all. -/
def Single : PyValue → Prop
  | .list _ | .dict _ => False
  | _ => True

/-- A number of a message at the gauges. -/
def setting (otel : Otel) (params : SinkAdditionalParams) (message : DataclassInstance) (name : String) (x : Number) :
    Setting :=
  ⟨getOtelName name, (baseAttributes otel params message name).toFinset, x⟩

theorem emitScalar_primary (fieldName : String) (x : Number) (attrs : Attributes) :
    emitScalar fieldName x attrs false = [⟨getOtelName fieldName, attrs.toFinset, x⟩] := by
  unfold emitScalar
  cases fieldToGenaiName.lookup fieldName <;> rfl

theorem mem_writeField (primary : params.emitGenaiNamespace = false) {field : String × PyValue}
    (single : Single field.2) {s : Setting} :
    s ∈ writeField otel params message field ↔
      field.1 ∉ identityFields ∧ ∃ x, field.2 = .number x ∧ s = setting otel params message field.1 x := by
  unfold writeField
  by_cases identity : field.1 ∈ identityFields
  · simp [identity]
  · rw [if_neg identity, primary]
    cases value : field.2 with
    | number x =>
      dsimp only
      rw [emitScalar_primary, List.mem_singleton]
      simp [identity, setting]
    | list | dict => exact (by rw [value] at single; exact single.elim)
    | none | str | other => simp

theorem mem_writeMetric (primary : params.emitGenaiNamespace = false) {messages : List DataclassInstance}
    (single : ∀ message ∈ messages, ∀ field ∈ message.fields, Single field.2) {s : Setting} :
    s ∈ writeMetric otel params messages ↔ ∃ message ∈ messages, ∃ name x, name ∉ identityFields ∧
      (name, .number x) ∈ message.fields ∧ s = setting otel params message name x := by
  simp only [writeMetric, List.mem_flatMap]
  refine exists_congr fun message => and_congr_right fun inMessages => ?_
  constructor
  · rintro ⟨field, inFields, written⟩
    obtain ⟨identity, x, value, rfl⟩ := (mem_writeField primary (single message inMessages field inFields)).mp written
    exact ⟨field.1, x, identity, value ▸ inFields, rfl⟩
  · rintro ⟨name, x, identity, inFields, rfl⟩
    exact ⟨_, inFields, (mem_writeField primary (single message inMessages _ inFields)).mpr ⟨identity, x, rfl, rfl⟩⟩

theorem gauges_settled {before here later : List Setting} {s : Setting} (member : s ∈ here)
    (agree : ∀ t ∈ here, t.series = s.series → t.amount = s.amount)
    (quiet : ∀ t ∈ later, t.series ≠ s.series) : gauges (before ++ here ++ later) s.series = some s.amount := by
  obtain ⟨front, last, back, whole, same, silent⟩ := exists_last ⟨s, member, rfl⟩ (p := fun t => t.series = s.series)
  have amount := agree last (by rw [whole]; simp) same
  have split : before ++ here ++ later = (before ++ front) ++ last :: (back ++ later) := by
    rw [whole]
    simp
  rw [gauges, split, List.map_append, List.map_cons, ← amount]
  refine writeAll_last (by rw [same]; exact List.mem_singleton_self _) ?_ _
  intro write inLater
  obtain ⟨t, after, rfl⟩ := List.mem_map.mp inLater
  rw [List.mem_singleton]
  rcases List.mem_append.mp after with inBack | inLater
  · exact fun again => silent t inBack again.symm
  · exact fun again => quiet t inLater again.symm

/-! ### The messages of a round -/

def hostMetricsFields : List String := ["max_gpu_util", "min_gpu_util", "avg_gpu_util", "ram_util"]

/-- The fields of a device and of the host do not share a series. -/
theorem monitorFields_apart : (deviceMetricsFields ++ hostMetricsFields).Pairwise Apart := by decide +kernel

instance : Std.Symm Apart where
  symm f g apart := by
    rcases apart with names | ⟨key, member, differ⟩
    · exact .inl names.symm
    · refine .inr ⟨key, ?_, differ.symm⟩
      rw [List.map_append, List.mem_append] at member ⊢
      exact member.symm

theorem apart_of_ne (inFields : f ∈ deviceMetricsFields ++ hostMetricsFields)
    (inFields' : g ∈ deviceMetricsFields ++ hostMetricsFields) (different : f ≠ g) : Apart f g :=
  monitorFields_apart.forall inFields inFields' different

theorem monitorFields_nodup : (deviceMetricsFields ++ hostMetricsFields).Nodup := by decide +kernel

theorem monitorFields_plain :
    ∀ name ∈ deviceMetricsFields ++ hostMetricsFields, name ∉ identityFields ∧ name ≠ "gpu_index" := by
  decide +kernel

/-- What the NVML monitor fetches of a device at its start. -/
def KnownIdentity (identity : List (String × Option Str)) : Prop :=
  ∀ field ∈ identity, field.1 ∈ ["gpu_uuid", "gpu_model"]

variable {device : IndexedDeviceMetrics deviceMetricsFields}

theorem message_index : device.message.getattr "gpu_index" = .number (.int device.gpuIndex) := by
  have absent : "gpu_index" ∉ (device.metrics.fields.map fun field => (field.1, field.2.toPyValue)).map Prod.fst := by
    rw [List.map_map]
    show "gpu_index" ∉ device.metrics.fields.map Prod.fst
    rw [FieldValues.fields_names]
    exact fun member => (monitorFields_plain _ (List.mem_append_left _ member)).2 rfl
  show (dictGet _ "gpu_index").getD PyValue.none = _
  rw [IndexedDeviceMetrics.message, dictGet_append, dictGet_eq_none absent, dictGet_cons, if_pos rfl]
  rfl

theorem HostMetrics.message_index (host : HostMetrics) : host.message.getattr "gpu_index" = .none := by
  refine DataclassInstance.getattr_absent ?_
  show "gpu_index" ∉ hostMetricsFields
  decide

theorem message_number {name : String} {x : Number} (known : KnownIdentity device.identity)
    (metric : name ∉ identityFields) (member : (name, .number x) ∈ device.message.fields) :
    name ∈ deviceMetricsFields ∧
      (name, PyValue.number x) ∈ device.metrics.fields.map fun field => (field.1, field.2.toPyValue) := by
  rcases List.mem_append.mp member with inMetrics | inIdentity
  · obtain ⟨field, inFields, same⟩ := List.mem_map.mp inMetrics
    obtain rfl : field.1 = name := (Prod.mk.inj same).1
    refine ⟨?_, inMetrics⟩
    rw [← device.metrics.fields_names]
    exact List.mem_map_of_mem inFields
  · have identity : ("gpu_index" :: ["gpu_uuid", "gpu_model"]).all fun name => name ∈ identityFields := by decide
    rw [List.all_eq_true] at identity
    refine absurd (of_decide_eq_true (identity name ?_)) metric
    rcases List.mem_cons.mp inIdentity with index | text
    · exact (Prod.mk.inj index).1 ▸ List.mem_cons_self
    · obtain ⟨field, inFields, same⟩ := List.mem_map.mp text
      obtain rfl : field.1 = name := (Prod.mk.inj same).1
      exact List.mem_cons_of_mem _ (known field inFields)

theorem FieldValue.OfKind.single {value : FieldValue Str Scalar} (ofKind : value.OfKind .number) :
    Single value.toPyValue := by
  cases ofKind with
  | none => trivial
  | number v =>
    rw [FieldValue.toPyValue]
    cases ofLex v with
    | inl q => trivial
    | inr s => trivial

theorem message_single (scalars : ∀ i, (device.metrics.get i).OfKind .number) :
    ∀ field ∈ device.message.fields, Single field.2 := by
  intro field member
  rcases List.mem_append.mp member with inMetrics | inIdentity
  · obtain ⟨value, inFields, rfl⟩ := List.mem_map.mp inMetrics
    obtain ⟨i, inside, rfl⟩ := List.mem_iff_getElem.mp inFields
    have bound : i < deviceMetricsFields.length := by
      rw [FieldValues.fields, List.length_zip] at inside
      omega
    have here := (scalars ⟨i, bound⟩).single
    rw [FieldValues.get] at here
    simpa [FieldValues.fields] using here
  · rcases List.mem_cons.mp inIdentity with index | text
    · rw [index]
      trivial
    · obtain ⟨entry, -, rfl⟩ := List.mem_map.mp text
      show Single (optionalText entry.2)
      cases entry.2 <;> trivial

theorem HostMetrics.message_single (host : HostMetrics) : ∀ field ∈ host.message.fields, Single field.2 := by
  intro field member
  simp only [HostMetrics.message, List.mem_cons, List.not_mem_nil, or_false] at member
  rcases member with rfl | rfl | rfl | rfl <;> trivial

theorem HostMetrics.message_number {host : HostMetrics} {name : String} {x : Number}
    (member : (name, .number x) ∈ host.message.fields) : name ∈ hostMetricsFields :=
  List.mem_map_of_mem (f := Prod.fst) member

theorem HostMetrics.message_number_unique {host : HostMetrics} {name : String} {x y : Number}
    (first : (name, .number x) ∈ host.message.fields) (second : (name, .number y) ∈ host.message.fields) : x = y := by
  have distinct : (host.message.fields.map Prod.fst).Nodup := (List.nodup_append.mp monitorFields_nodup).2.1
  exact PyValue.number.inj (Prod.mk.inj (List.inj_on_of_nodup_map distinct first second rfl)).2

theorem FieldValue.toPyValue_number {value : FieldValue Str Scalar} {x : Number} (same : value.toPyValue = .number x) :
    ∃ q, value = .number (toLex (.inl q)) ∧ x = .float q := by
  cases value with
  | number v =>
    rw [FieldValue.toPyValue] at same
    cases text : ofLex v with
    | inl q =>
      rw [text] at same
      exact ⟨q, congrArg FieldValue.number text, (PyValue.number.inj same).symm⟩
    | inr s =>
      rw [text] at same
      cases same
  | _ => cases same

namespace Surroundings

variable (env : Surroundings deviceMetricsFields deviceMetricsKinds Handle)

/-- The peak of a metric of a device is a number. -/
def HasPeak (index : Nat) (name : String) (q : ℚ) : Prop :=
  (name, .number (toLex (.inl q))) ∈ (env.peak index).fields

def deviceSeries (otel : Otel) (index : Nat) (name : String) : String × Finset (String × PyValue) :=
  fieldSeries otel (metricParams env.gpuK8sLabels) (env.indexed index).message name

def hostSeries (otel : Otel) (name : String) : String × Finset (String × PyValue) :=
  fieldSeries otel (metricParams env.gpuK8sLabels) env.hostMetrics.message name

/-- What is read of pods and devices has keys of its own. -/
structure Known (otel : Otel) : Prop where
  labels : KnownLabels otel (metricParams env.gpuK8sLabels)
  identity : ∀ index, KnownIdentity (env.identity index)

variable {env} {name : String}

theorem number_mem_message {index : Nat} {x : Number} (known : KnownIdentity (env.identity index))
    (metric : name ∉ identityFields) :
    (name, .number x) ∈ (env.indexed index).message.fields ↔ ∃ q, x = .float q ∧ env.HasPeak index name q := by
  constructor
  · intro member
    obtain ⟨field, inFields, same⟩ := List.mem_map.mp (message_number known metric member).2
    obtain ⟨sameName, value⟩ := Prod.mk.inj same
    obtain ⟨q, isNumber, rfl⟩ := FieldValue.toPyValue_number value
    refine ⟨q, rfl, ?_⟩
    rw [HasPeak, ← sameName, ← isNumber]
    exact inFields
  · rintro ⟨q, rfl, peak⟩
    exact List.mem_append_left _ (List.mem_map.mpr ⟨_, peak, rfl⟩)

theorem HasPeak.name_mem {index : Nat} {q : ℚ} (peak : env.HasPeak index name q) : name ∈ deviceMetricsFields := by
  rw [← (env.peak index).fields_names]
  exact List.mem_map_of_mem (f := Prod.fst) peak

/-- A device has one value for a metric. -/
theorem HasPeak.unique {index : Nat} {q q' : ℚ} (peak : env.HasPeak index name q) (peak' : env.HasPeak index name q') :
    q = q' := by
  have distinct : ((env.peak index).fields.map Prod.fst).Nodup := by
    rw [FieldValues.fields_names]
    exact (List.nodup_append.mp monitorFields_nodup).1
  have same := (Prod.mk.inj (List.inj_on_of_nodup_map distinct peak peak' rfl)).2
  exact Sum.inl.inj (toLex.injective (FieldValue.number.inj same))

/-- What the `METRIC` write of a round leaves. -/
theorem mem_otelWrite_gauges {otel : Otel} (complete : env.Complete) (known : env.Known otel) {s : Setting} :
    s ∈ otelWrite otel env.gauges ↔
      (∃ index < env.deviceCount, ∃ name q, env.HasPeak index name q ∧
        s = setting otel (metricParams env.gpuK8sLabels) (env.indexed index).message name (.float q)) ∨
      ∃ name x, (name, .number x) ∈ env.hostMetrics.message.fields ∧
        s = setting otel (metricParams env.gpuK8sLabels) env.hostMetrics.message name x := by
  have single : ∀ message ∈ ((List.range env.deviceCount).map env.indexed).map IndexedDeviceMetrics.message ++
      [env.hostMetrics.message], ∀ field ∈ message.fields, Single field.2 := by
    intro message member
    rcases List.mem_append.mp member with inDevices | isHost
    · obtain ⟨device, inRange, rfl⟩ := List.mem_map.mp inDevices
      obtain ⟨index, inside, rfl⟩ := List.mem_map.mp inRange
      obtain ⟨peak, returned, -⟩ := accumulate_isPeak (reached_iff.mp (complete index (List.mem_range.mp inside)))
      refine message_single fun i => ?_
      have same : env.peak index = peak.fields := by rw [Surroundings.peak, returned]; rfl
      exact (show (env.indexed index).metrics = peak.fields from same) ▸ peak.ofKind i
    · rw [List.mem_singleton.mp isHost]
      exact env.hostMetrics.message_single
  rw [gauges, otelWrite, mem_writeMetric rfl single]
  constructor
  · rintro ⟨message, member, name, x, metric, field, rfl⟩
    rcases List.mem_append.mp member with inDevices | isHost
    · obtain ⟨device, inRange, rfl⟩ := List.mem_map.mp inDevices
      obtain ⟨index, inside, rfl⟩ := List.mem_map.mp inRange
      obtain ⟨q, rfl, peak⟩ := (number_mem_message (known.identity index) metric).mp field
      exact .inl ⟨index, List.mem_range.mp inside, name, q, peak, rfl⟩
    · obtain rfl := List.mem_singleton.mp isHost
      exact .inr ⟨name, x, field, rfl⟩
  · rintro (⟨index, inside, name, q, peak, rfl⟩ | ⟨name, x, field, rfl⟩)
    · have metric := (monitorFields_plain name (List.mem_append_left _ peak.name_mem)).1
      refine ⟨_, List.mem_append_left _ (List.mem_map_of_mem (List.mem_map_of_mem (List.mem_range.mpr inside))), name,
        .float q, metric, ?_, rfl⟩
      exact (number_mem_message (known.identity index) metric).mpr ⟨q, rfl, peak⟩
    · have metric := (monitorFields_plain name (List.mem_append_right _ (HostMetrics.message_number field))).1
      exact ⟨_, List.mem_append_right _ (List.mem_singleton_self _), name, x, metric, field, rfl⟩

variable {env' : Surroundings deviceMetricsFields deviceMetricsKinds Handle} {otel : Otel} {index index' : Nat}
  {name' : String}

theorem deviceSeries_inj (known : env.Known otel) (known' : env'.Known otel) (field : name ∈ deviceMetricsFields)
    (field' : name' ∈ deviceMetricsFields)
    (same : env.deviceSeries otel index name = env'.deviceSeries otel index' name') :
    name = name' ∧ index = index' := by
  constructor
  · by_contra different
    exact (apart_of_ne (List.mem_append_left _ field) (List.mem_append_left _ field') different).series_ne
      known.labels known'.labels same
  · exact (series_index known.labels known'.labels same message_index).2 index' message_index

theorem deviceSeries_ne_hostSeries (known : env.Known otel) (known' : env'.Known otel) :
    env.deviceSeries otel index name ≠ env'.hostSeries otel name' := fun same =>
  (series_index known.labels known'.labels same message_index).1 env'.hostMetrics.message_index

theorem hostSeries_inj (known : env.Known otel) (known' : env'.Known otel) (field : name ∈ hostMetricsFields)
    (field' : name' ∈ hostMetricsFields) (same : env.hostSeries otel name = env'.hostSeries otel name') :
    name = name' := by
  by_contra different
  exact (apart_of_ne (List.mem_append_right _ field) (List.mem_append_right _ field') different).series_ne
    known.labels known'.labels same

/-- What a round leaves at the gauge of a metric of a device is the peak of this device. -/
theorem deviceSeries_amount (complete : env.Complete) (known : env.Known otel) (known' : env'.Known otel)
    (field' : name' ∈ deviceMetricsFields) {s : Setting} (member : s ∈ otelWrite otel env.gauges)
    (same : s.series = env'.deviceSeries otel index' name') :
    index' < env.deviceCount ∧ env.deviceSeries otel index' name' = env'.deviceSeries otel index' name' ∧
      ∃ q, env.HasPeak index' name' q ∧ s.amount = .float q := by
  rcases (mem_otelWrite_gauges complete known).mp member with
    ⟨index, inside, name, q, peak, rfl⟩ | ⟨name, x, field, rfl⟩
  · obtain ⟨rfl, rfl⟩ := deviceSeries_inj known known' peak.name_mem field' same
    exact ⟨inside, same, q, peak, rfl⟩
  · exact absurd same.symm (deviceSeries_ne_hostSeries known' known)

theorem hostSeries_amount (complete : env.Complete) (known : env.Known otel) (known' : env'.Known otel)
    (field' : name' ∈ hostMetricsFields) {s : Setting} (member : s ∈ otelWrite otel env.gauges)
    (same : s.series = env'.hostSeries otel name') : (name', .number s.amount) ∈ env.hostMetrics.message.fields := by
  rcases (mem_otelWrite_gauges complete known).mp member with
    ⟨index, inside, name, q, peak, rfl⟩ | ⟨name, x, field, rfl⟩
  · exact absurd same (deviceSeries_ne_hostSeries known known')
  · obtain rfl := hostSeries_inj known known' (HostMetrics.message_number field) field' same
    exact field

theorem records_settings (env : Surroundings deviceMetricsFields deviceMetricsKinds Handle) (otel : Otel) :
    env.records.flatMap (otelWrite otel) = if env.Completed then otelWrite otel env.gauges else [] := by
  have logs : ∀ indices : List Nat, (indices.map env.deviceLog).flatMap (otelWrite otel) = [] := by
    intro indices
    rw [List.flatMap_eq_nil_iff]
    intro write member
    obtain ⟨index, -, rfl⟩ := List.mem_map.mp member
    rfl
  by_cases completed : env.Completed
  · rw [records_eq completed.1, if_pos completed, if_pos completed, List.flatMap_append, Surroundings.logs, logs]
    exact List.flatMap_singleton _ _
  · rw [if_neg completed, records]
    cases env.windowRaises with
    | some e => rfl
    | none =>
      dsimp only
      rw [if_neg completed, List.append_nil, logs]

end Surroundings

/-! ### The gauges after a run -/

variable {rounds : Nat → Surroundings deviceMetricsFields deviceMetricsKinds Handle}

/-- A round of a run that ends with its `METRIC` write. -/
def Executed (rounds : Nat → Surroundings deviceMetricsFields deviceMetricsKinds Handle) (count round : Nat) : Prop :=
  round < count ∧ ∀ earlier ≤ round, (rounds earlier).Completed

/-- What a run has set at the gauges. -/
def runSettings (otel : Otel) (rounds : Nat → Surroundings deviceMetricsFields deviceMetricsKinds Handle)
    (round count : Nat) : List Setting :=
  (runRecords rounds round count).flatMap (otelWrite otel)

theorem runSettings_succ (otel : Otel) (round count : Nat) :
    runSettings otel rounds round (count + 1) = if (rounds round).Completed then
      otelWrite otel (rounds round).gauges ++ runSettings otel rounds (round + 1) count else [] := by
  rw [runSettings, runRecords, List.flatMap_append, Surroundings.records_settings]
  by_cases complete : (rounds round).Completed
  · simp only [if_pos complete]
    rfl
  · simp only [if_neg complete]
    rfl

theorem mem_runSettings {round count : Nat} {s : Setting} (member : s ∈ runSettings otel rounds round count) :
    ∃ later, round ≤ later ∧ later < round + count ∧
      (∀ earlier, round ≤ earlier → earlier ≤ later → (rounds earlier).Completed) ∧
      s ∈ otelWrite otel (rounds later).gauges := by
  induction count generalizing round with
  | zero => cases member
  | succ count ih =>
    rw [runSettings_succ] at member
    split at member
    · rename_i complete
      rcases List.mem_append.mp member with here | after
      · exact ⟨round, le_rfl, by omega, fun earlier from' until' => le_antisymm until' from' ▸ complete, here⟩
      · obtain ⟨later, from', until', all, found⟩ := ih after
        refine ⟨later, by omega, by omega, fun earlier above below => ?_, found⟩
        rcases above.eq_or_lt with rfl | above
        · exact complete
        · exact all earlier above below
    · cases member

theorem runSettings_split (otel : Otel) {first count round : Nat} (from' : first ≤ round)
    (until' : round < first + count)
    (complete : ∀ earlier, first ≤ earlier → earlier ≤ round → (rounds earlier).Completed) :
    ∃ before, runSettings otel rounds first count = before ++ otelWrite otel (rounds round).gauges ++
      runSettings otel rounds (round + 1) (first + count - (round + 1)) := by
  induction count generalizing first with
  | zero => omega
  | succ count ih =>
    rw [runSettings_succ, if_pos (complete first le_rfl from')]
    rcases from'.eq_or_lt with rfl | above
    · refine ⟨[], ?_⟩
      rw [List.nil_append, show first + (count + 1) - (first + 1) = count by omega]
    · obtain ⟨before, split⟩ := ih above (by omega) fun earlier from' => complete earlier (by omega)
      refine ⟨otelWrite otel (rounds first).gauges ++ before, ?_⟩
      rw [split, show first + (count + 1) - (round + 1) = first + 1 + count - (round + 1) by omega]
      simp only [List.append_assoc]

/-- What the gauges hold after a run. -/
structure GaugesHold (otel : Otel) (rounds : Nat → Surroundings deviceMetricsFields deviceMetricsKinds Handle)
    (count : Nat) : Prop where
  /-- The peak of the last window in which the metric has had one under these attributes. -/
  devices : ∀ round index name q, Executed rounds count round → index < (rounds round).deviceCount →
    (rounds round).HasPeak index name q →
    (∀ later, round < later → Executed rounds count later → index < (rounds later).deviceCount →
      ∀ q', (rounds later).HasPeak index name q' →
      (rounds later).deviceSeries otel index name ≠ (rounds round).deviceSeries otel index name) →
    gauges (runSettings otel rounds 0 count) ((rounds round).deviceSeries otel index name) = some (.float q)
  /-- The host's values of the last window. -/
  host : ∀ round name x, Executed rounds count round → (∀ later, round < later → ¬Executed rounds count later) →
    (name, .number x) ∈ (rounds round).hostMetrics.message.fields →
    gauges (runSettings otel rounds 0 count) ((rounds round).hostSeries otel name) = some x

theorem gauges_of_round {count round : Nat} (executed : Executed rounds count round) {s : Setting}
    (member : s ∈ otelWrite otel (rounds round).gauges)
    (agree : ∀ t ∈ otelWrite otel (rounds round).gauges, t.series = s.series → t.amount = s.amount)
    (quiet : ∀ later, round < later → Executed rounds count later →
      ∀ t ∈ otelWrite otel (rounds later).gauges, t.series ≠ s.series) :
    gauges (runSettings otel rounds 0 count) s.series = some s.amount := by
  have inside : round < 0 + count := by simpa using executed.1
  obtain ⟨before, split⟩ := runSettings_split otel (Nat.zero_le round) inside fun earlier _ => executed.2 earlier
  rw [split]
  refine gauges_settled member agree fun t inLater => ?_
  obtain ⟨later, from', until', all, found⟩ := mem_runSettings inLater
  refine quiet later from' ⟨by have := executed.1; omega, fun earlier below => ?_⟩ t found
  by_cases above : round + 1 ≤ earlier
  · exact all earlier above below
  · exact executed.2 earlier (by omega)

/-- No device and no metric of a run overwrites another's gauge, so that each
gauge holds the last peak it was given. -/
theorem monitorGauges_hold (otel : Otel)
    (rounds : Nat → Surroundings deviceMetricsFields deviceMetricsKinds Handle) (count : Nat)
    (known : ∀ round, (rounds round).Known otel) : GaugesHold otel rounds count where
  devices round index name q executed inside peak quiet := by
    have complete := (executed.2 round le_rfl).2.1
    refine gauges_of_round (s := setting otel (metricParams (rounds round).gpuK8sLabels)
      ((rounds round).indexed index).message name (.float q)) executed
      ((Surroundings.mem_otelWrite_gauges complete (known round)).mpr (.inl ⟨index, inside, name, q, peak, rfl⟩))
      (fun t member same => ?_) fun later above executed' t member same => ?_
    · obtain ⟨-, -, q', peak', amount⟩ :=
        Surroundings.deviceSeries_amount complete (known round) (known round) peak.name_mem member same
      exact amount.trans (congrArg Number.float (peak'.unique peak))
    · have complete' := (executed'.2 later le_rfl).2.1
      obtain ⟨inside', again, q', peak', -⟩ :=
        Surroundings.deviceSeries_amount complete' (known later) (known round) peak.name_mem member same
      exact quiet later above executed' inside' q' peak' again
  host round name x executed last field := by
    have complete := (executed.2 round le_rfl).2.1
    refine gauges_of_round (s := setting otel (metricParams (rounds round).gpuK8sLabels)
      (rounds round).hostMetrics.message name x) executed
      ((Surroundings.mem_otelWrite_gauges complete (known round)).mpr (.inr ⟨name, x, field, rfl⟩))
      (fun t member same => ?_) fun later above executed' => absurd executed' (last later above)
    have field' := Surroundings.hostSeries_amount complete (known round) (known round)
      (HostMetrics.message_number field) member same
    exact HostMetrics.message_number_unique field' field

/-- A sample with the same value in every field. -/
def steadySample (q : ℚ) : Sample Str Scalar deviceMetricsKinds where
  fields := .constant _ (.number (toLex (.inl q)))
  ofKind := fun index => by simpa [FieldValues.get, FieldValues.constant] using .number _

/-- A round of one pass over the devices of two pods. The metrics of the first
device are `q`, and those of each next one are one more. -/
def steadyRound (q : ℚ) : Surroundings deviceMetricsFields deviceMetricsKinds Nat where
  deviceCount := 3
  hostname := "node1".toList
  identity index := [("gpu_uuid", some ("GPU-".toList ++ decimal index)), ("gpu_model", some "Tesla T4".toList)]
  getDeviceByIndex _ index := .ok index
  getDeviceMetricsBasic index := .ok (steadySample (q + index))
  retrieveJobOnGpu _ := .ok none
  ramUtil := .ok 0
  gpuK8sLabels := [(0, "train-0"), (1, "train-0"), (2, "serve-0")].map fun gpu =>
    (gpu.1, [("k8s.namespace.name", "ml".toList), ("k8s.pod.name", gpu.2.toList),
      ("k8s.deployment.name", "deployed-".toList ++ gpu.2.toList ++ "-rs".toList)])
  pushInterval := 15
  collectInterval := 15
  startTime := 0
  monotonic pass := 15 * pass
  unixtime := 0
  collectPositive := by omega
  sleeps pass := by omega

theorem steadyRound_passCount (q : ℚ) : (steadyRound q).passCount = 1 := by
  have first : (steadyRound q).InWindow 0 := by
    show (15 * (0 : Nat) - 0 : Int) < (15 : Nat)
    omega
  have second : ¬(steadyRound q).InWindow 1 := by
    show ¬(15 * (1 : Nat) - 0 : Int) < (15 : Nat)
    omega
  rw [Surroundings.inWindow_iff] at first second
  omega

theorem steadyRound_completed (q : ℚ) : (steadyRound q).Completed := by
  refine ⟨Surroundings.windowRaises_eq_none_iff.mpr fun pass _ index _ handle _ => rfl, fun index _ => ?_, rfl⟩
  exact ⟨0, by rw [steadyRound_passCount]; exact Nat.one_pos, rfl⟩

theorem steadyRound_hasPeak (q : ℚ) (index : Nat) : (steadyRound q).HasPeak index "gpu_util" (q + index) := by
  have peak : (steadyRound q).peak index = .constant _ (.number (toLex (.inl (q + index)))) := by
    rw [Surroundings.peak, steadyRound_passCount]
    rfl
  rw [Surroundings.HasPeak, peak, FieldValues.fields, FieldValues.constant, ← List.map_prod_left_eq_zip]
  exact List.mem_map_of_mem (by decide)

theorem steadyRound_mapped (q : ℚ) :
    Mapped (.ok (podsApi trainAndServe)) "node1".toList (steadyRound q).gpuK8sLabels := by
  intro entry member
  simp only [steadyRound, List.map_cons, List.map_nil, List.mem_cons, List.not_mem_nil, or_false] at member
  rcases member with first | second | third
  · rw [first]
    rfl
  · rw [second]
    rfl
  · rw [third]
    rfl

/-- After two windows the gauge of each device has the peak of the second one. -/
theorem monitorGauges_hold_steady :
    ([0, 1, 2].map fun index : Nat =>
      gauges (runSettings ⟨[("host.name", "node1".toList)], fun _ => []⟩ (fun round => steadyRound round) 0 2)
        ((steadyRound 1).deviceSeries ⟨[("host.name", "node1".toList)], fun _ => []⟩ index "gpu_util")) =
      [some (.float 1), some (.float 2), some (.float 3)] := by
  have known : ∀ round : Nat, (steadyRound round).Known ⟨[("host.name", "node1".toList)], fun _ => []⟩ := by
    refine fun round => ⟨(steadyRound_mapped round).known ?_, ?_⟩
    · intro label member
      rw [List.mem_singleton.mp member]
      decide
    · exact fun index field member => List.mem_map_of_mem (f := Prod.fst) member
  have hold :=
    monitorGauges_hold ⟨[("host.name", "node1".toList)], fun _ => []⟩ (fun round => steadyRound round) 2 known
  have each : ∀ index < 3,
      gauges (runSettings ⟨[("host.name", "node1".toList)], fun _ => []⟩ (fun round => steadyRound round) 0 2)
        ((steadyRound 1).deviceSeries ⟨[("host.name", "node1".toList)], fun _ => []⟩ index "gpu_util") =
          some (.float (1 + (index : Nat))) := by
    intro index inside
    refine hold.devices 1 index "gpu_util" (1 + (index : Nat)) ⟨by omega, fun earlier _ => ?_⟩ inside ?_ ?_
    · exact steadyRound_completed earlier
    · exact Nat.cast_one (R := ℚ) ▸ steadyRound_hasPeak _ index
    · intro later above executed
      exact absurd executed.1 (by omega)
  rw [List.map_cons, List.map_cons, List.map_cons, List.map_nil, each 0 (by omega), each 1 (by omega),
    each 2 (by omega)]
  norm_num

end GpuTelemetry
