import GpuTelemetry.Dicts
import GpuTelemetry.Exceptions
import GpuTelemetry.Joins

namespace GpuTelemetry

/-! ### `Accumulator` -/

structure Accumulator (T : Type) where
  current : Option T

namespace Accumulator

variable {T : Type}

/-- `Accumulator(op)`. -/
def new : Accumulator T := ⟨none⟩

def tell (op : T → T → Except PyError T) (acc : Accumulator T) (value : T) : Except PyError (Accumulator T) :=
  match acc.current with
  | none => .ok ⟨some value⟩
  | some current => (op current value).map fun v => ⟨some v⟩

def ask (acc : Accumulator T) : Except PyError T :=
  match acc.current with
  | none => .error (.valueError "Must be told at least one value".toList)
  | some v => .ok v

end Accumulator

/-- What an accumulator answers after it was told some values. -/
def accumulate {T : Type} (op : T → T → Except PyError T) (values : List T) : Except PyError T :=
  (values.foldlM (Accumulator.tell op) .new).bind Accumulator.ask

/-! ### `max_fields` -/

variable {κ V : Type} [DecidableEq κ] [LinearOrder V]

/-- The value of a field of a dataclass of numbers. -/
inductive FieldValue (κ V : Type)
  | none
  | number (v : V)
  | dict (items : List (κ × Option V))
  | list (items : List (Option V))
  deriving DecidableEq

/-- The body of the loop over the items of the right dict. -/
def mergeItem (merged : List (κ × Option V)) (item : κ × Option V) : List (κ × Option V) :=
  match merged.lookup item.1, item.2 with
  | some (some m), some v => dictSet item.1 (some (max m v)) merged
  | _, some v => dictSet item.1 (some v) merged
  | _, none => merged

/-- The body of the loop over the entries of two lists. -/
def mergeEntry : Option V → Option V → Option V
  | none, ri => ri
  | some li, none => some li
  | some li, some ri => some (max li ri)

/-- The `kwargs` entry of one field; `max` of values of different shapes is a `TypeError`. -/
def maxField : FieldValue κ V → FieldValue κ V → Except PyError (FieldValue κ V)
  | .none, right => .ok right
  | left, .none => .ok left
  | .dict left, .dict right => .ok (.dict (right.foldl mergeItem left))
  | .list left, .list right =>
    if left.length = right.length then .ok (.list (List.zipWith mergeEntry left right)) else .ok (.list right)
  | .number left, .number right => .ok (.number (max left right))
  | _, _ => .error (.exception "'>' not supported between these values".toList)

/-- The loop over the fields. -/
def mergeValues {α ε : Type} (f : α → α → Except ε α) : List α → List α → Except ε (List α)
  | left :: lefts, right :: rights =>
    match f left right, mergeValues f lefts rights with
    | .error e, _ => .error e
    | .ok _, .error e => .error e
    | .ok value, .ok values => .ok (value :: values)
  | _, _ => .ok []

theorem mergeValues_length {α ε : Type} {f : α → α → Except ε α} {lefts rights values : List α}
    (merged : mergeValues f lefts rights = .ok values) : values.length = min lefts.length rights.length := by
  induction lefts generalizing rights values with
  | nil =>
    cases merged
    simp
  | cons left lefts ih =>
    cases rights with
    | nil =>
      cases merged
      simp
    | cons right rights =>
      rw [mergeValues] at merged
      split at merged
      · cases merged
      · cases merged
      · rename_i rest
        cases merged
        rw [List.length_cons, ih rest, List.length_cons, List.length_cons]
        omega

variable {names : List String}

/-- `max_fields` of a dataclass with these fields. -/
def maxFields (left right : FieldValues names (FieldValue κ V)) :
    Except PyError (FieldValues names (FieldValue κ V)) :=
  match merged : mergeValues maxField left.values right.values with
  | .error e => .error e
  | .ok kwargs => .ok ⟨kwargs, by rw [mergeValues_length merged, left.complete, right.complete, min_self]⟩

/-! ### What a field value tells -/

/-- The places of a field value that hold a number or `None`. -/
inductive Position (κ : Type)
  | whole
  | key (k : κ)
  | index (i : Nat)

namespace FieldValue

def entry : FieldValue κ V → Position κ → Option (Option V)
  | .number v, .whole => some (some v)
  | .dict items, .key k => items.lookup k
  | .list items, .index i => items[i]?
  | _, _ => Option.none

/-- The value seen at a position, if it is not `None`. -/
def seen (value : FieldValue κ V) (pos : Position κ) : Option V := (value.entry pos).join

/-- Whether there is a value, where it has entries, and what is seen there. -/
def contents (value : FieldValue κ V) : Prop × Set (Position κ) × (Position κ → WithBot V) :=
  (value ≠ .none, {pos | (value.entry pos).isSome}, fun pos => value.seen pos)

/-- `==`: the order of the keys of a dict does not count. -/
def Same : FieldValue κ V → FieldValue κ V → Prop
  | .none, .none => True
  | .number v, .number w => v = w
  | .dict items, .dict others => ∀ k, items.lookup k = others.lookup k
  | .list items, .list others => items = others
  | _, _ => False

end FieldValue

/-- The type of a field; a list has one length wherever it is not `None`. -/
inductive FieldKind
  | number
  | dict
  | list (length : Nat)

/-- Values of a kind. The keys of a dict are distinct and its values are numbers. -/
inductive FieldValue.OfKind : FieldKind → FieldValue κ V → Prop
  | none (kind) : OfKind kind .none
  | number (v) : OfKind .number (.number v)
  | dict {items} : (items.map Prod.fst).Nodup → (∀ item ∈ items, item.2.isSome) → OfKind .dict (.dict items)
  | list {n items} : items.length = n → OfKind (.list n) (.list items)

theorem sup_eq_mergeEntry (v w : WithBot V) : v ⊔ w = mergeEntry v w := by
  cases v with
  | bot => exact bot_sup_eq w
  | coe v =>
    cases w with
    | bot => exact sup_bot_eq (v : WithBot V)
    | coe w => rfl

/-! ### Dicts -/

theorem mergeItem_some (merged : List (κ × Option V)) (k : κ) (v : V) :
    mergeItem merged (k, some v) = dictSet k (mergeEntry (merged.lookup k).join (some v)) merged := by
  unfold mergeItem
  cases merged.lookup k with
  | none => rfl
  | some old => cases old <;> rfl

theorem lookup_mergeItem (merged : List (κ × Option V)) (k k' : κ) (v : V) :
    (mergeItem merged (k, some v)).lookup k' =
      if k' = k then some (mergeEntry (merged.lookup k).join (some v)) else merged.lookup k' := by
  rw [mergeItem_some, dictSet, lookup_dictModify]

/-- The merged dict holds under each key the larger of the values of both sides. -/
theorem lookup_foldl_mergeItem {items : List (κ × Option V)} (distinct : (items.map Prod.fst).Nodup)
    (numbers : ∀ item ∈ items, item.2.isSome) (merged : List (κ × Option V)) (k : κ) :
    (items.foldl mergeItem merged).lookup k =
      match items.lookup k with
      | none => merged.lookup k
      | some v => some (mergeEntry (merged.lookup k).join v) := by
  induction items generalizing merged with
  | nil => rfl
  | cons item items ih =>
    obtain ⟨k', v⟩ := item
    obtain ⟨v, rfl⟩ := Option.isSome_iff_exists.mp (numbers (k', v) List.mem_cons_self)
    rw [List.map_cons, List.nodup_cons] at distinct
    rw [List.foldl_cons, ih distinct.2 fun item member => numbers item (List.mem_cons_of_mem _ member),
      List.lookup_cons, lookup_mergeItem]
    by_cases here : k = k'
    · subst here
      have absent : items.lookup k = none := by
        rw [List.lookup_eq_none_iff]
        intro item member
        rw [bne_iff_ne]
        intro same
        have listed : item.1 ∈ items.map Prod.fst := List.mem_map_of_mem member
        rw [← same] at listed
        exact distinct.1 listed
      simp [absent]
    · simp [here, beq_eq_false_iff_ne.mpr here]

/-- The keys stay distinct, and the values numbers. -/
theorem foldl_mergeItem_ofKind {items merged : List (κ × Option V)} (distinct : (merged.map Prod.fst).Nodup)
    (old : ∀ item ∈ merged, item.2.isSome) (new : ∀ item ∈ items, item.2.isSome) :
    (FieldValue.dict (items.foldl mergeItem merged)).OfKind .dict := by
  induction items generalizing merged with
  | nil => exact .dict distinct old
  | cons item items ih =>
    obtain ⟨k, v⟩ := item
    obtain ⟨v, rfl⟩ := Option.isSome_iff_exists.mp (new (k, v) List.mem_cons_self)
    have later : ∀ item ∈ items, item.2.isSome := fun item member => new item (List.mem_cons_of_mem _ member)
    rw [List.foldl_cons, mergeItem_some]
    refine ih (dictModify_keys_nodup distinct) (fun item member => ?_) later
    rcases mem_dictModify member with before | ⟨before, -, rfl⟩
    · exact old item before
    · cases (merged.lookup k).join <;> rfl

/-! ### The operator as a join -/

theorem FieldValue.contents_eq_sup {value left right : FieldValue κ V}
    (present : value ≠ .none ↔ left ≠ .none ∨ right ≠ .none)
    (entries : ∀ pos, (value.entry pos).isSome ↔ (left.entry pos).isSome ∨ (right.entry pos).isSome)
    (seen : ∀ pos, value.seen pos = mergeEntry (left.seen pos) (right.seen pos)) :
    value.contents = left.contents ⊔ right.contents := by
  refine Prod.ext (propext present) (Prod.ext (Set.ext entries) (funext fun pos => ?_))
  exact (seen pos).trans (sup_eq_mergeEntry _ _).symm

theorem FieldValue.contents_none_sup (value : FieldValue κ V) :
    value.contents = (FieldValue.none : FieldValue κ V).contents ⊔ value.contents := by
  refine contents_eq_sup (by simp) (fun pos => ?_) fun pos => rfl
  simp [entry]

theorem FieldValue.contents_sup_none (value : FieldValue κ V) :
    value.contents = value.contents ⊔ (FieldValue.none : FieldValue κ V).contents := by
  rw [sup_comm]
  exact contents_none_sup value

theorem dict_contents {left right : List (κ × Option V)} (distinct : (right.map Prod.fst).Nodup)
    (numbers : ∀ item ∈ right, item.2.isSome) :
    (FieldValue.dict (right.foldl mergeItem left)).contents =
      (FieldValue.dict left).contents ⊔ (FieldValue.dict right).contents := by
  have under := fun k => lookup_foldl_mergeItem distinct numbers left k
  refine FieldValue.contents_eq_sup (by simp) (fun pos => ?_) fun pos => ?_
  · cases pos with
    | key k =>
      simp only [FieldValue.entry, under k]
      cases right.lookup k <;> simp
    | whole => simp [FieldValue.entry]
    | index i => simp [FieldValue.entry]
  · cases pos with
    | key k =>
      simp only [FieldValue.seen, FieldValue.entry, under k]
      cases right.lookup k with
      | none => cases (left.lookup k).join <;> rfl
      | some v => rfl
    | whole => rfl
    | index i => rfl

theorem list_contents {left right : List (Option V)} (same : left.length = right.length) :
    (FieldValue.list (List.zipWith mergeEntry left right) : FieldValue κ V).contents =
      (FieldValue.list left).contents ⊔ (FieldValue.list right).contents := by
  refine FieldValue.contents_eq_sup (by simp) (fun pos => ?_) fun pos => ?_
  · cases pos with
    | index i => simp [FieldValue.entry, same]
    | whole => simp [FieldValue.entry]
    | key k => simp [FieldValue.entry]
  · cases pos with
    | index i =>
      by_cases inside : i < right.length
      · simp [FieldValue.seen, FieldValue.entry, inside, same]
      · simp [FieldValue.seen, FieldValue.entry, inside, same]
        rfl
    | whole => rfl
    | key k => rfl

/-- Values of one kind are merged into the join of their contents. -/
theorem maxField_contents {kind : FieldKind} {left right : FieldValue κ V} (leftKind : left.OfKind kind)
    (rightKind : right.OfKind kind) :
    ∃ value, maxField left right = .ok value ∧ value.OfKind kind ∧
      value.contents = left.contents ⊔ right.contents := by
  cases leftKind with
  | none => exact ⟨right, by cases right <;> rfl, rightKind, right.contents_none_sup⟩
  | number v =>
    cases rightKind with
    | none => exact ⟨.number v, rfl, .number v, FieldValue.contents_sup_none _⟩
    | number w =>
      refine ⟨.number (max v w), rfl, .number _, FieldValue.contents_eq_sup (by simp) ?_ ?_⟩
      · intro pos
        cases pos <;> simp [FieldValue.entry]
      · intro pos
        cases pos <;> rfl
  | @dict items distinct numbers =>
    cases rightKind with
    | none => exact ⟨.dict items, rfl, .dict distinct numbers, FieldValue.contents_sup_none _⟩
    | @dict others distinct' numbers' =>
      exact ⟨_, rfl, foldl_mergeItem_ofKind distinct numbers numbers', dict_contents distinct' numbers'⟩
  | @list n items length =>
    cases rightKind with
    | none => exact ⟨.list items, rfl, .list length, FieldValue.contents_sup_none _⟩
    | @list _ others length' =>
      have same : items.length = others.length := length.trans length'.symm
      refine ⟨_, if_pos same, .list ?_, list_contents same⟩
      rw [List.length_zipWith, length, length', min_self]

theorem FieldValue.same_of_contents {kind : FieldKind} {value other : FieldValue κ V} (valueKind : value.OfKind kind)
    (otherKind : other.OfKind kind) (equal : value.contents = other.contents) : value.Same other := by
  have present : value ≠ .none ↔ other ≠ .none := iff_of_eq (congrArg Prod.fst equal)
  have entries : ∀ pos, (value.entry pos).isSome ↔ (other.entry pos).isSome := fun pos =>
    Set.ext_iff.mp (congrArg (fun c => c.2.1) equal) pos
  have seen : ∀ pos, value.seen pos = other.seen pos := congrFun (congrArg (fun c => c.2.2) equal)
  have cells : ∀ pos, value.entry pos = other.entry pos := by
    intro pos
    have present := entries pos
    have inside : (value.entry pos).join = (other.entry pos).join := seen pos
    cases left : value.entry pos <;> cases right : other.entry pos <;> simp_all
  cases valueKind with
  | none =>
    have absent : other = .none := by simpa using present
    rw [absent]
    exact trivial
  | number v =>
    cases otherKind with
    | none => simp at present
    | number w => simpa [FieldValue.entry, FieldValue.Same] using cells .whole
  | dict =>
    cases otherKind with
    | none => simp at present
    | dict => exact fun k => cells (.key k)
  | list =>
    cases otherKind with
    | none => simp at present
    | list => exact List.ext_getElem? fun i => cells (.index i)

/-! ### Samples of a dataclass -/

/-- An instance whose fields have their kinds. -/
structure Sample (κ V : Type) (kinds : Fin names.length → FieldKind) where
  fields : FieldValues names (FieldValue κ V)
  ofKind : ∀ i, (fields.get i).OfKind (kinds i)

variable {kinds : Fin names.length → FieldKind}

def Sample.contents (sample : Sample κ V kinds) (i : Fin names.length) :
    Prop × Set (Position κ) × (Position κ → WithBot V) :=
  (sample.fields.get i).contents

/-- `==` of two instances. -/
def FieldValues.Same (r s : FieldValues names (FieldValue κ V)) : Prop := ∀ i, (r.get i).Same (s.get i)

theorem Sample.same_of_contents {sample other : Sample κ V kinds} (equal : sample.contents = other.contents) :
    sample.fields.Same other.fields := fun i =>
  FieldValue.same_of_contents (sample.ofKind i) (other.ofKind i) (congrFun equal i)

/-- When every pair of values is merged, so are the lists. -/
theorem mergeValues_returns {α ε : Type} {f : α → α → Except ε α} {lefts rights : List α}
    (same : lefts.length = rights.length)
    (merges : ∀ i (left : i < lefts.length) (right : i < rights.length), ∃ value, f lefts[i] rights[i] = .ok value) :
    ∃ values, mergeValues f lefts rights = .ok values ∧
      ∀ i (left : i < lefts.length) (right : i < rights.length) (inside : i < values.length),
        f lefts[i] rights[i] = .ok values[i] := by
  induction lefts generalizing rights with
  | nil => exact ⟨[], rfl, fun i left => by simp at left⟩
  | cons left lefts ih =>
    cases rights with
    | nil => simp at same
    | cons right rights =>
      obtain ⟨value, first⟩ := merges 0 (by simp) (by simp)
      obtain ⟨values, rest, each⟩ := ih (Nat.succ.inj same) fun i inLeft inRight =>
        merges (i + 1) (Nat.succ_lt_succ inLeft) (Nat.succ_lt_succ inRight)
      refine ⟨value :: values, ?_, fun i inLeft inRight inside => ?_⟩
      · rw [mergeValues, rest]
        rw [show f left right = .ok value from first]
      · cases i with
        | zero => exact first
        | succ i => exact each i _ _ (Nat.lt_of_succ_lt_succ inside)

/-- When every field is merged, so are the instances. -/
theorem maxFields_returns {left right : FieldValues names (FieldValue κ V)}
    (merges : ∀ i, ∃ value, maxField (left.get i) (right.get i) = .ok value) :
    ∃ out, maxFields left right = .ok out ∧ ∀ i, maxField (left.get i) (right.get i) = .ok (out.get i) := by
  obtain ⟨values, merged, each⟩ := mergeValues_returns (left.complete.trans right.complete.symm)
    fun i inLeft _ => merges ⟨i, left.complete ▸ inLeft⟩
  unfold maxFields
  split
  · rename_i failed
    rw [merged] at failed
    cases failed
  · rename_i kwargs returned
    rw [merged] at returned
    cases returned
    exact ⟨_, rfl, fun i => each i _ _ _⟩

/-- On two samples `max_fields` returns the join of their contents. -/
theorem maxFields_contents (left right : Sample κ V kinds) :
    ∃ out : Sample κ V kinds, maxFields left.fields right.fields = .ok out.fields ∧
      out.contents = left.contents ⊔ right.contents := by
  have each := fun i => maxField_contents (left.ofKind i) (right.ofKind i)
  obtain ⟨out, returned, values⟩ := maxFields_returns fun i => (each i).imp fun value spec => spec.1
  have spec : ∀ i, (out.get i).OfKind (kinds i) ∧ (out.get i).contents = left.contents i ⊔ right.contents i := by
    intro i
    obtain ⟨value, merged, spec⟩ := each i
    rw [values i] at merged
    cases merged
    exact spec
  exact ⟨⟨out, fun i => (spec i).1⟩, returned, funext fun i => (spec i).2⟩

/-- More samples told to an accumulator are joined to what it holds. -/
theorem tellAll_contents (current : Sample κ V kinds) (later : List (Sample κ V kinds)) :
    ∃ out : Sample κ V kinds,
      (later.map Sample.fields).foldlM (Accumulator.tell maxFields) ⟨some current.fields⟩ = .ok ⟨some out.fields⟩ ∧
        out.contents = joinFrom current.contents (later.map Sample.contents) := by
  induction later generalizing current with
  | nil => exact ⟨current, rfl, rfl⟩
  | cons sample later ih =>
    obtain ⟨merged, returned, contents⟩ := maxFields_contents current sample
    obtain ⟨out, rest, joined⟩ := ih merged
    have step : Accumulator.tell maxFields ⟨some current.fields⟩ sample.fields = .ok ⟨some merged.fields⟩ := by
      simp only [Accumulator.tell, returned, Except.map]
    refine ⟨out, ?_, ?_⟩
    · rw [List.map_cons, List.foldlM_cons, step]
      exact rest
    · rw [joined, contents]
      rfl

/-- An accumulator can be told any samples, and holds something when there were some. -/
theorem tellAll_returns (samples : List (Sample κ V kinds)) :
    ∃ acc, (samples.map Sample.fields).foldlM (Accumulator.tell maxFields) .new = .ok acc ∧
      (acc.current = none ↔ samples = []) := by
  cases samples with
  | nil => exact ⟨.new, rfl, iff_of_true rfl rfl⟩
  | cons first later =>
    obtain ⟨out, told, -⟩ := tellAll_contents first later
    exact ⟨⟨some out.fields⟩, told, iff_of_false (by simp) (by simp)⟩

/-- The samples told to an accumulator add up to the join of their contents. -/
theorem accumulate_contents (first : Sample κ V kinds) (later : List (Sample κ V kinds)) :
    ∃ out : Sample κ V kinds,
      accumulate maxFields ((first :: later).map Sample.fields) = .ok out.fields ∧
        out.contents = joinFrom first.contents (later.map Sample.contents) := by
  obtain ⟨out, told, joined⟩ := tellAll_contents first later
  exact ⟨out, congrArg (fun run => run.bind Accumulator.ask) told, joined⟩

/-- What is seen in the values of some samples: the largest numbers, where there are any. -/
structure IsPeak (samples : List (FieldValue κ V)) (value : FieldValue κ V) : Prop where
  none_iff : value = .none ↔ ∀ sample ∈ samples, sample = .none
  entries : ∀ pos, (value.entry pos).isSome ↔ ∃ sample ∈ samples, (sample.entry pos).isSome
  maximum : ∀ pos, value.seen pos = (samples.filterMap fun sample => sample.seen pos).max?

theorem isPeak_of_contents {first value : FieldValue κ V} {later : List (FieldValue κ V)}
    (joined : value.contents = joinFrom first.contents (later.map FieldValue.contents)) :
    IsPeak (first :: later) value where
  none_iff := by
    have present := congrArg Prod.fst joined
    rw [map_joinFrom Prod.fst (fun _ _ => rfl), List.map_map] at present
    have exist : value ≠ .none ↔ ∃ sample ∈ first :: later, sample ≠ .none :=
      (iff_of_eq present).trans (joinFrom_prop (fun v : FieldValue κ V => v ≠ .none) first later)
    rw [← not_iff_not]
    refine exist.trans ?_
    push Not
    rfl
  entries pos := by
    let inside := fun c : Prop × Set (Position κ) × (Position κ → WithBot V) => pos ∈ c.2.1
    have same := congrArg inside joined
    rw [map_joinFrom inside (fun _ _ => rfl), List.map_map] at same
    exact (iff_of_eq same).trans
      (joinFrom_prop (fun v : FieldValue κ V => ((v.entry pos).isSome : Prop)) first later)
  maximum pos := by
    let seen := fun c : Prop × Set (Position κ) × (Position κ → WithBot V) => c.2.2 pos
    have same := congrArg seen joined
    rw [map_joinFrom seen (fun _ _ => rfl), List.map_map] at same
    exact same.trans (joinFrom_option (fun sample => sample.seen pos) first later)

/-- Two runs that both return, with related values. -/
inductive BothReturn {T : Type} (R : T → T → Prop) : Except PyError T → Except PyError T → Prop
  | intro {a b} : R a b → BothReturn R (.ok a) (.ok b)

theorem Sample.bothReturn {run run' : Except PyError (FieldValues names (FieldValue κ V))}
    {out out' : Sample κ V kinds} (returned : run = .ok out.fields) (returned' : run' = .ok out'.fields)
    (equal : out.contents = out'.contents) : BothReturn FieldValues.Same run run' := by
  rw [returned, returned']
  exact .intro (Sample.same_of_contents equal)

theorem maxFields_comm (a b : Sample κ V kinds) :
    BothReturn FieldValues.Same (maxFields a.fields b.fields) (maxFields b.fields a.fields) := by
  obtain ⟨out, returned, joined⟩ := maxFields_contents a b
  obtain ⟨out', returned', joined'⟩ := maxFields_contents b a
  exact Sample.bothReturn returned returned' (by rw [joined, joined', sup_comm])

theorem maxFields_assoc (a b c : Sample κ V kinds) :
    BothReturn FieldValues.Same ((maxFields a.fields b.fields).bind fun ab => maxFields ab c.fields)
      ((maxFields b.fields c.fields).bind fun bc => maxFields a.fields bc) := by
  obtain ⟨ab, returned, joined⟩ := maxFields_contents a b
  obtain ⟨bc, returned', joined'⟩ := maxFields_contents b c
  obtain ⟨left, leftReturned, leftJoined⟩ := maxFields_contents ab c
  obtain ⟨right, rightReturned, rightJoined⟩ := maxFields_contents a bc
  rw [returned, returned']
  exact Sample.bothReturn leftReturned rightReturned (by rw [leftJoined, rightJoined, joined, joined', sup_assoc])

theorem maxFields_idem (a : Sample κ V kinds) :
    BothReturn FieldValues.Same (maxFields a.fields a.fields) (.ok a.fields) := by
  obtain ⟨out, returned, joined⟩ := maxFields_contents a a
  exact Sample.bothReturn returned rfl (by rw [joined, sup_idem])

/-- Samples in another order, or repeated, add up to the same. -/
theorem accumulate_congr {samples others : List (Sample κ V kinds)} (nonempty : samples ≠ [])
    (same : ∀ sample, sample ∈ samples ↔ sample ∈ others) :
    BothReturn FieldValues.Same (accumulate maxFields (samples.map Sample.fields))
      (accumulate maxFields (others.map Sample.fields)) := by
  obtain ⟨first, later, rfl⟩ := List.exists_cons_of_ne_nil nonempty
  have alsoNonempty : others ≠ [] := List.ne_nil_of_mem ((same first).mp List.mem_cons_self)
  obtain ⟨first', later', rfl⟩ := List.exists_cons_of_ne_nil alsoNonempty
  obtain ⟨out, returned, joined⟩ := accumulate_contents first later
  obtain ⟨out', returned', joined'⟩ := accumulate_contents first' later'
  refine Sample.bothReturn returned returned' ?_
  rw [joined, joined']
  refine joinFrom_congr fun contents => ?_
  rw [← List.map_cons, ← List.map_cons, List.mem_map, List.mem_map]
  exact exists_congr fun sample => and_congr_left fun _ => same sample

/-- The answer holds the peak of each field. -/
theorem accumulate_isPeak {samples : List (Sample κ V kinds)} (nonempty : samples ≠ []) :
    ∃ out : Sample κ V kinds, accumulate maxFields (samples.map Sample.fields) = .ok out.fields ∧
      ∀ i, IsPeak (samples.map fun sample => sample.fields.get i) (out.fields.get i) := by
  obtain ⟨first, later, rfl⟩ := List.exists_cons_of_ne_nil nonempty
  obtain ⟨out, returned, joined⟩ := accumulate_contents first later
  refine ⟨out, returned, fun i => isPeak_of_contents ?_⟩
  have field := congrFun joined i
  rw [map_joinFrom (fun c : (i : Fin names.length) → _ => c i) (fun _ _ => rfl)] at field
  rw [List.map_map] at field ⊢
  exact field

/-- `max_fields` of a dataclass of numbers is a semilattice operation, so an
accumulator answers the same for every order and repetition of its samples:
the maximum of what was seen at each place of each field. -/
theorem maxFields_semilattice (kinds : Fin names.length → FieldKind) :
    (∀ a b : Sample κ V kinds,
      BothReturn FieldValues.Same (maxFields a.fields b.fields) (maxFields b.fields a.fields)) ∧
    (∀ a b c : Sample κ V kinds,
      BothReturn FieldValues.Same ((maxFields a.fields b.fields).bind fun ab => maxFields ab c.fields)
        ((maxFields b.fields c.fields).bind fun bc => maxFields a.fields bc)) ∧
    (∀ a : Sample κ V kinds, BothReturn FieldValues.Same (maxFields a.fields a.fields) (.ok a.fields)) ∧
    ∀ samples : List (Sample κ V kinds), samples ≠ [] →
      (∃ out : Sample κ V kinds, accumulate maxFields (samples.map Sample.fields) = .ok out.fields ∧
        ∀ i, IsPeak (samples.map fun sample => sample.fields.get i) (out.fields.get i)) ∧
      ∀ others : List (Sample κ V kinds), (∀ sample, sample ∈ samples ↔ sample ∈ others) →
        BothReturn FieldValues.Same (accumulate maxFields (samples.map Sample.fields))
          (accumulate maxFields (others.map Sample.fields)) :=
  ⟨maxFields_comm, maxFields_assoc, maxFields_idem,
    fun _ nonempty => ⟨accumulate_isPeak nonempty, fun _ same => accumulate_congr nonempty same⟩⟩

/-- A dataclass with one list field of three entries. -/
def linkBandwidth (items : List (Option Int)) (length : items.length = 3) :
    Sample Str Int (fun _ : Fin ["link_bandwidth"].length => .list 3) where
  fields := ⟨[.list items], rfl⟩
  ofKind
    | ⟨0, _⟩ => .list length

/-- Two samples with gaps, in both orders and with one of them repeated. -/
theorem maxFields_semilattice_links :
    accumulate maxFields ([linkBandwidth [some 100, none, some 30] rfl, linkBandwidth [some 80, some 90, none] rfl].map
        Sample.fields) = .ok (linkBandwidth [some 100, some 90, some 30] rfl).fields ∧
      BothReturn FieldValues.Same
        (accumulate maxFields ([linkBandwidth [some 100, none, some 30] rfl,
          linkBandwidth [some 80, some 90, none] rfl].map Sample.fields))
        (accumulate maxFields ([linkBandwidth [some 80, some 90, none] rfl,
          linkBandwidth [some 100, none, some 30] rfl, linkBandwidth [some 80, some 90, none] rfl].map
            Sample.fields)) :=
  ⟨rfl, ((maxFields_semilattice _).2.2.2 _ (List.cons_ne_nil _ _)).2 _ fun sample => by simp [or_comm]⟩

end GpuTelemetry
