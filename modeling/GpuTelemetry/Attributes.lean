import GpuTelemetry.Dicts
import GpuTelemetry.SlurmHelpers
import Mathlib.Data.List.Forall2

namespace GpuTelemetry

/-! Attribute maps, batches of records that have them, and records that are
enriched with what is known of the index they carry. -/

/-- The value of an attribute. Values of other kinds are only read as text. -/
inductive AttributeValue (ω : Type) where
  | str (s : Str)
  | int (n : Int)
  | slice (values : List Str)
  | other (value : ω)
  deriving DecidableEq

/-- A `pcommon.Map`, of which `Get`, `PutStr` and `PutEmptySlice` are used: what is put under a name
is found there (`putStr_get`, `putSlice_get`) and the other names stay. The names are looked up from the left. -/
abbrev AttributeMap (ω : Type) := List (Str × AttributeValue ω)

variable {ω μ ρ : Type}

/-- `Str()`, which is empty on a value that is no string. -/
def AttributeValue.getStr : AttributeValue ω → Str
  | .str s => s
  | _ => []

def AttributeValue.IsString : AttributeValue ω → Prop
  | .str _ => True
  | _ => False

/-- `AsString()`, which renders values of every kind. -/
structure Rendering (ω : Type) where
  asString : AttributeValue ω → Str
  asString_str : ∀ s, asString (.str s) = s
  asString_int : ∀ n, asString (.int n) = itoa n

def putStr (attrs : AttributeMap ω) (name text : Str) : AttributeMap ω := dictSet name (.str text) attrs

/-- A slice that is emptied and then filled. -/
def putSlice (attrs : AttributeMap ω) (name : Str) (values : List Str) : AttributeMap ω :=
  dictSet name (.slice values) attrs

theorem putStr_get (attrs : AttributeMap ω) (key text name : Str) :
    dictGet (putStr attrs key text) name = if name = key then some (.str text) else dictGet attrs name :=
  lookup_dictModify _ _ _ _

theorem putSlice_get (attrs : AttributeMap ω) (key : Str) (values : List Str) (name : Str) :
    dictGet (putSlice attrs key values) name = if name = key then some (.slice values) else dictGet attrs name :=
  lookup_dictModify _ _ _ _

/-- Values put one by one under distinct names replace what is there. -/
theorem foldl_put_get {β : Type} {put : AttributeMap ω → Str → β → AttributeMap ω} {wrap : β → AttributeValue ω}
    (puts : ∀ attrs key b name,
      dictGet (put attrs key b) name = if name = key then some (wrap b) else dictGet attrs name)
    {columns : List (Str × β)} (distinct : (columns.map Prod.fst).Nodup) (attrs : AttributeMap ω) (name : Str) :
    dictGet (columns.foldl (fun attrs column => put attrs column.1 column.2) attrs) name =
      ((dictGet columns name).map wrap).or (dictGet attrs name) := by
  induction columns generalizing attrs with
  | nil => rfl
  | cons column rest ih =>
    rw [List.map_cons, List.nodup_cons] at distinct
    rw [List.foldl_cons, ih distinct.2, puts, dictGet_cons]
    by_cases same : name = column.1
    · rw [same, if_pos rfl, if_pos rfl, dictGet_eq_none distinct.1]
      rfl
    · rw [if_neg same, if_neg same]

theorem foldl_putStr_get {columns : List (Str × Str)} (distinct : (columns.map Prod.fst).Nodup)
    (attrs : AttributeMap ω) (name : Str) :
    dictGet (columns.foldl (fun attrs column => putStr attrs column.1 column.2) attrs) name =
      ((dictGet columns name).map AttributeValue.str).or (dictGet attrs name) :=
  foldl_put_get putStr_get distinct attrs name

/-- The attribute that leads to a GPU in metrics and traces, and the one in logs. -/
def gpuIndex : Str := "gpu.index".toList

def logGpuIndex : Str := "gpu_id".toList

/-- A record with an index gets what is known of that index. The text of a
missing index is not used. -/
def enrichIndexed (index : Str) (text : AttributeValue ω → Str) (gpu2X : Dict Str μ)
    (add : AttributeMap ω → μ → AttributeMap ω) (missing : AttributeMap ω → AttributeMap ω) (attrs : AttributeMap ω) :
    AttributeMap ω :=
  match dictGet attrs index with
  | some value =>
    match gpu2X.get (text value) with
    | some metadata => add attrs metadata
    | none => attrs
  | none => missing attrs

/-! ### Batches -/

/-- The records of one resource, scope by scope. -/
structure ResourceRecords (ω ρ : Type) where
  attributes : AttributeMap ω
  scopes : List (List ρ)

/-- The loops over the scopes of a resource and their records. -/
def ResourceRecords.mapRecords (resource : ResourceRecords ω ρ) (f : ρ → ρ) : ResourceRecords ω ρ :=
  { resource with scopes := resource.scopes.map fun scope => scope.map f }

/-- The same where the rounds of the loops do not all do the same. -/
def ResourceRecords.mapRecordsIdx (resource : ResourceRecords ω ρ) (f : Nat → Nat → ρ → ρ) : ResourceRecords ω ρ :=
  { resource with scopes := resource.scopes.mapIdx fun j scope => scope.mapIdx (f j) }

/-- The records of a batch in the order of the loops. -/
def batchRecords (batch : List (ResourceRecords ω ρ)) : List ρ := batch.flatMap fun resource => resource.scopes.flatten

/-- A metric with the attributes of its data points. -/
inductive Metric (ω : Type) where
  | gauge (dataPoints : List (AttributeMap ω))
  | sum (dataPoints : List (AttributeMap ω))
  | histogram (dataPoints : List (AttributeMap ω))
  | exponentialHistogram (dataPoints : List (AttributeMap ω))
  | summary (dataPoints : List (AttributeMap ω))
  | empty

def Metric.dataPoints : Metric ω → List (AttributeMap ω)
  | .gauge dataPoints => dataPoints
  | .sum dataPoints => dataPoints
  | .histogram dataPoints => dataPoints
  | .exponentialHistogram dataPoints => dataPoints
  | .summary dataPoints => dataPoints
  | .empty => []

def batchDataPoints (batch : List (ResourceRecords ω (Metric ω))) : List (AttributeMap ω) :=
  (batchRecords batch).flatMap Metric.dataPoints

theorem forall₂_mapIdx {β γ : Type} {R : β → γ → Prop} {f : Nat → β → γ} (each : ∀ i b, R b (f i b)) (list : List β) :
    List.Forall₂ R list (list.mapIdx f) := by
  induction list generalizing f with
  | nil => exact List.Forall₂.nil
  | cons b rest ih =>
    rw [List.mapIdx_cons]
    exact List.Forall₂.cons (each 0 b) (ih fun i => each (i + 1))

theorem forall₂_map {β γ : Type} {R : β → γ → Prop} {f : β → γ} (each : ∀ b, R b (f b)) (list : List β) :
    List.Forall₂ R list (list.map f) := by
  rw [List.forall₂_map_right_iff, List.forall₂_same]
  exact fun b _ => each b

theorem mapRecords_forall₂ {R : ρ → ρ → Prop} {f : ρ → ρ} (each : ∀ r, R r (f r)) (resource : ResourceRecords ω ρ) :
    List.Forall₂ (List.Forall₂ R) resource.scopes (resource.mapRecords f).scopes :=
  forall₂_map (fun scope => forall₂_map each scope) resource.scopes

theorem mapRecordsIdx_forall₂ {R : ρ → ρ → Prop} {f : Nat → Nat → ρ → ρ} (each : ∀ j k r, R r (f j k r))
    (resource : ResourceRecords ω ρ) :
    List.Forall₂ (List.Forall₂ R) resource.scopes (resource.mapRecordsIdx f).scopes :=
  forall₂_mapIdx (fun j scope => forall₂_mapIdx (each j) scope) resource.scopes

/-- The records of the resources stand in the relation of their rounds. -/
theorem batchRecords_forall₂ {R : ρ → ρ → Prop} {batch batch' : List (ResourceRecords ω ρ)}
    (loops : List.Forall₂ (fun resource resource' =>
      List.Forall₂ (List.Forall₂ R) resource.scopes resource'.scopes) batch batch') :
    List.Forall₂ R (batchRecords batch) (batchRecords batch') :=
  List.rel_flatMap loops fun _ _ scopes => List.rel_flatten scopes

theorem batchDataPoints_forall₂ {R : AttributeMap ω → AttributeMap ω → Prop}
    {batch batch' : List (ResourceRecords ω (Metric ω))}
    (loops : List.Forall₂ (fun resource resource' => List.Forall₂ (List.Forall₂ fun metric metric' =>
      List.Forall₂ R metric.dataPoints metric'.dataPoints) resource.scopes resource'.scopes) batch batch') :
    List.Forall₂ R (batchDataPoints batch) (batchDataPoints batch') :=
  List.rel_flatMap (batchRecords_forall₂ loops) fun _ _ points => points

/-! ### What a record is enriched with -/

/-- The records with an index get what is written and keep the rest. -/
def Enriched (index : Str) (value : AttributeValue ω) (written : Str → Option (AttributeValue ω))
    (before after : List (AttributeMap ω)) : Prop :=
  List.Forall₂ (fun attrs attrs' => dictGet attrs index = some value →
    ∀ name, dictGet attrs' name = (written name).or (dictGet attrs name)) before after

/-- The same for the function that enriches a record. -/
def IndexWrites (enrich : AttributeMap ω → AttributeMap ω) (index : Str) (value : AttributeValue ω)
    (written : Str → Option (AttributeValue ω)) : Prop :=
  ∀ attrs, dictGet attrs index = some value →
    ∀ name, dictGet (enrich attrs) name = (written name).or (dictGet attrs name)

theorem indexWrites_enrichIndexed {index : Str} {text : AttributeValue ω → Str} {gpu2X : Dict Str μ}
    {add : AttributeMap ω → μ → AttributeMap ω} {missing : AttributeMap ω → AttributeMap ω} {value : AttributeValue ω}
    {entry : μ → Str → Option (AttributeValue ω)}
    (adds : ∀ attrs metadata name, dictGet (add attrs metadata) name =
      (entry metadata name).or (dictGet attrs name)) :
    IndexWrites (enrichIndexed index text gpu2X add missing) index value fun name =>
      (gpu2X.get (text value)).bind fun metadata => entry metadata name := by
  intro attrs carries name
  rw [enrichIndexed, carries]
  dsimp only
  cases gpu2X.get (text value) with
  | none => rfl
  | some metadata => exact adds attrs metadata name

/-- A record that carries nothing but its index shows what is written. -/
theorem Enriched.unique {index name : Str} {value : AttributeValue ω}
    {written written' : Str → Option (AttributeValue ω)} {after : List (AttributeMap ω)}
    (enriched : Enriched index value written [[(index, value)]] after)
    (enriched' : Enriched index value written' [[(index, value)]] after) (differ : name ≠ index) :
    written name = written' name := by
  have carries : dictGet [(index, value)] index = some value := by rw [dictGet_cons, if_pos rfl]
  have nothing : dictGet [(index, value)] name = none := by
    rw [dictGet_cons, if_neg differ]
    rfl
  obtain ⟨attrs, rest, writes, -, rfl⟩ := List.forall₂_cons_left_iff.mp enriched
  have writes' := (List.forall₂_cons.mp enriched').1
  have either := (writes carries name).symm.trans (writes' carries name)
  rwa [nothing, Option.or_none, Option.or_none] at either

/-- In all batches, what metrics, traces and logs that carry the index are enriched
with is the same. -/
def PathsAgree (metrics : List (ResourceRecords ω (Metric ω)) → List (ResourceRecords ω (Metric ω)))
    (traces logs : List (ResourceRecords ω (AttributeMap ω)) → List (ResourceRecords ω (AttributeMap ω)))
    (value : AttributeValue ω) : Prop :=
  ∃ written,
    (∀ batch, Enriched gpuIndex value written (batchDataPoints batch) (batchDataPoints (metrics batch))) ∧
    (∀ batch, Enriched gpuIndex value written (batchRecords batch) (batchRecords (traces batch))) ∧
    ∀ batch, Enriched logGpuIndex value written (batchRecords batch) (batchRecords (logs batch))

section Paths

variable {metrics : List (ResourceRecords ω (Metric ω)) → List (ResourceRecords ω (Metric ω))}
  {traces logs : List (ResourceRecords ω (AttributeMap ω)) → List (ResourceRecords ω (AttributeMap ω))}
  {value : AttributeValue ω} {written writtenLogs : Str → Option (AttributeValue ω)}

/-- Metrics and traces, which read the index in one way, and logs, which read it in
another, agree exactly when both ways lead to the same entries. -/
theorem pathsAgree_iff
    (enrichedMetrics : ∀ batch, Enriched gpuIndex value written (batchDataPoints batch)
      (batchDataPoints (metrics batch)))
    (enrichedTraces : ∀ batch, Enriched gpuIndex value written (batchRecords batch) (batchRecords (traces batch)))
    (enrichedLogs : ∀ batch, Enriched logGpuIndex value writtenLogs (batchRecords batch) (batchRecords (logs batch)))
    (quiet : ∀ name ∈ [gpuIndex, logGpuIndex], written name = none ∧ writtenLogs name = none) :
    PathsAgree metrics traces logs value ↔ ∀ name, written name = writtenLogs name := by
  constructor
  · rintro ⟨common, -, commonTraces, commonLogs⟩ name
    by_cases isIndex : name ∈ [gpuIndex, logGpuIndex]
    · exact (quiet name isIndex).1.trans (quiet name isIndex).2.symm
    · simp only [List.mem_cons, List.not_mem_nil, or_false, not_or] at isIndex
      have span := (enrichedTraces [⟨[], [[[(gpuIndex, value)]]]⟩]).unique
        (commonTraces [⟨[], [[[(gpuIndex, value)]]]⟩]) isIndex.1
      have log := (commonLogs [⟨[], [[[(logGpuIndex, value)]]]⟩]).unique
        (enrichedLogs [⟨[], [[[(logGpuIndex, value)]]]⟩]) isIndex.2
      exact span.trans log
  · intro same
    have alike : written = writtenLogs := funext same
    exact ⟨written, enrichedMetrics, enrichedTraces, alike ▸ enrichedLogs⟩

end Paths

end GpuTelemetry
