import GpuTelemetry.Exceptions
import GpuTelemetry.KeyedTrees

/-! The flat dictionaries in which log messages are emitted: `asdict_recursive`
and `flatten_dict_factory`, under `dataclasses.asdict`. -/

namespace GpuTelemetry

inductive BaseType
  | str (s : Str)
  | int (n : Int)
  | float (x : Float)
  | bool (b : Bool)

abbrev Flattened := List (Str × BaseType)

/-- The attribute `name` of an object. -/
inductive NameAttribute
  | str (s : Str)
  | other (truthy : Bool) (typeName : Str)

/-- The objects that `asdict_recursive` tells apart. A dataclass or a model has
the attribute `name` that `getattr` finds, and a model what `model_dump` leaves
of it without that field. -/
inductive NonFlattened
  | none
  | base (value : BaseType)
  | list (items : List NonFlattened)
  | tuple (items : List NonFlattened)
  | dict (items : List (Str × NonFlattened))
  | dataclass (name : Option NameAttribute) (fields : List (Str × NonFlattened))
  | baseModel (name : Option NameAttribute) (dumped : NonFlattened)
  | other (hasName : Bool) (typeText : Str)

def nameKey : Str := "name".toList

def NonFlattened.isNone : NonFlattened → Bool
  | .none => true
  | _ => false

/-- `hasattr(value, "name") or (isinstance(value, dict) and "name" in value)` -/
def NonFlattened.hasName : NonFlattened → Bool
  | .dataclass name _ | .baseModel name _ => name.isSome
  | .dict items => items.any fun item => item.1 = nameKey
  | .other hasName _ => hasName
  | _ => false

inductive FlattenedOrBaseType
  | flat (items : Flattened)
  | base (value : BaseType)

/-- A dictionary updates the results, and any other value is set under the key. -/
def FlattenedOrBaseType.merge (key : Str) (results : Flattened) : FlattenedOrBaseType → Flattened
  | .flat items => dictUpdate results items
  | .base value => dictSet key value results

/-- `key += "." + name` for a name that is not empty. -/
def keyWithName (key : Str) : Option NameAttribute → Except PyError Str
  | some (.str s) => .ok (if s = [] then key else key ++ '.' :: s)
  | some (.other true typeName) =>
    .error (.typeError ("can only concatenate str (not \"".toList ++ typeName ++ "\") to str".toList))
  | some (.other false _) | none => .ok key

section
variable (str : NonFlattened → Str)

mutual

def asdictRecursive : NonFlattened → Str → Except PyError FlattenedOrBaseType
  | .dataclass name fields, key => do
    let key ← keyWithName key name
    return .flat (← asdictItems (· = nameKey) (fun _ => key) fields [])
  | .baseModel name dumped, key => do
    let key ← keyWithName key name
    return .flat ((← asdictRecursive dumped key).merge key [])
  | .dict items, key => do
    let key := match dictGet items nameKey with
      | some name => key ++ '.' :: str name
      | none => key
    -- the loop passes over the entry that the code deletes before it
    return .flat (← asdictItems (· = nameKey) (fun k => if key = [] then k else key ++ '.' :: k) items [])
  | .list items, key => return .flat (← asdictElements key 0 items [])
  | .tuple _, _ => .error (.typeError "Tuples are not supported for asdict_recursive.".toList)
  | .base value, _ => .ok (.base value)
  | .none, _ => .error (.typeError "<class 'NoneType'> is not supported for asdict_recursive.".toList)
  | .other _ typeText, _ => .error (.typeError (typeText ++ " is not supported for asdict_recursive.".toList))

/-- The loop over fields or entries: some keys are passed over, and so is `None`. -/
def asdictItems (skipped : Str → Bool) (newKey : Str → Str) :
    List (Str × NonFlattened) → Flattened → Except PyError Flattened
  | [], results => .ok results
  | (k, value) :: rest, results =>
    if skipped k || value.isNone then asdictItems skipped newKey rest results
    else do
      let flatResult ← asdictRecursive value (newKey k)
      asdictItems skipped newKey rest (flatResult.merge (newKey k) results)

/-- The loop over the elements of a list, from an index on. -/
def asdictElements (key : Str) : Nat → List NonFlattened → Flattened → Except PyError Flattened
  | _, [], results => .ok results
  | i, value :: rest, results =>
    if value.isNone then asdictElements key (i + 1) rest results
    else do
      let newKey := if value.hasName then key else key ++ '.' :: decimal i
      let flatResult ← asdictRecursive value newKey
      asdictElements key (i + 1) rest (flatResult.merge newKey results)

end

def flattenDictFactory (pairs : List (Str × NonFlattened)) : Except PyError Flattened :=
  asdictItems str (fun _ => false) id pairs []

end

def NonFlattened.ofFlattened (d : Flattened) : NonFlattened := .dict (d.map fun item => (item.1, .base item.2))

section
variable (dictFactory : List (Str × NonFlattened) → Except PyError Flattened)

mutual

/-- `dataclasses.asdict` below the top: nested instances become what the factory
makes of them, and containers are rebuilt. -/
def asdictInner : NonFlattened → Except PyError NonFlattened
  | .dataclass _ fields => do return .ofFlattened (← dictFactory (← asdictInnerItems fields))
  | .list items => return .list (← asdictInnerElements items)
  | .tuple items => return .tuple (← asdictInnerElements items)
  | .dict items => return .dict (← asdictInnerItems items)
  | .none => .ok .none
  | .base value => .ok (.base value)
  | .baseModel name dumped => .ok (.baseModel name dumped)
  | .other hasName typeText => .ok (.other hasName typeText)

def asdictInnerItems : List (Str × NonFlattened) → Except PyError (List (Str × NonFlattened))
  | [] => .ok []
  | (k, value) :: rest => do return (k, ← asdictInner value) :: (← asdictInnerItems rest)

def asdictInnerElements : List NonFlattened → Except PyError (List NonFlattened)
  | [] => .ok []
  | value :: rest => do return (← asdictInner value) :: (← asdictInnerElements rest)

end

def asdict : NonFlattened → Except PyError Flattened
  | .dataclass _ fields => do dictFactory (← asdictInnerItems dictFactory fields)
  | _ => .error (.typeError "asdict() should be called on dataclass instances".toList)

end

/-! ### Leaves -/

mutual

/-- Field names, dictionary keys and list indices lead to the leaves; `None` is none. -/
def NonFlattened.tree : NonFlattened → KeyedTree Str BaseType
  | .base value => .leaf value
  | .list items => .node (elementTrees 0 items)
  | .dict items => .node (entryTrees items)
  | .dataclass _ fields => .node (entryTrees fields)
  | _ => .node []

def entryTrees : List (Str × NonFlattened) → List (Str × KeyedTree Str BaseType)
  | [] => []
  | (k, value) :: rest => (k, value.tree) :: entryTrees rest

def elementTrees : Nat → List NonFlattened → List (Str × KeyedTree Str BaseType)
  | _, [] => []
  | i, value :: rest => (decimal i, value.tree) :: elementTrees (i + 1) rest

end

structure PlainKey (k : Str) : Prop where
  nonempty : k ≠ []
  dotFree : '.' ∉ k
  other : k ≠ nameKey

instance (k : Str) : Decidable (PlainKey k) :=
  decidable_of_iff (k ≠ [] ∧ '.' ∉ k ∧ k ≠ nameKey)
    ⟨fun ⟨nonempty, dotFree, other⟩ => ⟨nonempty, dotFree, other⟩,
      fun plain => ⟨plain.nonempty, plain.dotFree, plain.other⟩⟩

/-- Nested dataclasses, lists, dictionaries and scalars, with plain keys. -/
inductive Flattenable : NonFlattened → Prop
  | none : Flattenable .none
  | base (value : BaseType) : Flattenable (.base value)
  | list {items : List NonFlattened} (below : ∀ value ∈ items, Flattenable value) : Flattenable (.list items)
  | dict {items : List (Str × NonFlattened)} (distinct : (items.map Prod.fst).Nodup)
      (plain : ∀ item ∈ items, PlainKey item.1) (below : ∀ item ∈ items, Flattenable item.2) :
      Flattenable (.dict items)
  | dataclass (name : Option NameAttribute) {fields : List (Str × NonFlattened)}
      (distinct : (fields.map Prod.fst).Nodup) (plain : ∀ field ∈ fields, PlainKey field.1)
      (below : ∀ field ∈ fields, Flattenable field.2) : Flattenable (.dataclass name fields)

/-- The leaves under their dotted paths. -/
def NonFlattened.dottedLeaves (x : NonFlattened) : Flattened :=
  x.tree.leaves.map fun leaf => (['.'].intercalate leaf.1, leaf.2)

/-- The leaves under their dotted paths from a key. -/
def flatUnder (key : Str) (x : NonFlattened) : Flattened :=
  x.tree.leaves.map fun leaf => (underKey '.' key leaf.1, leaf.2)

theorem entryTrees_eq (items : List (Str × NonFlattened)) :
    entryTrees items = items.map fun item => (item.1, item.2.tree) := by
  induction items with
  | nil => rfl
  | cons item rest ih => rw [entryTrees, ih, List.map_cons]

theorem elementTrees_eq (i : Nat) (items : List NonFlattened) :
    elementTrees i items = (items.zipIdx i).map fun (value, j) => (decimal j, value.tree) := by
  induction items generalizing i with
  | nil => rfl
  | cons value rest ih => rw [elementTrees, ih, List.zipIdx_cons, List.map_cons]

theorem elementTrees_keys (i : Nat) (items : List NonFlattened) :
    (elementTrees i items).map Prod.fst = (List.range' i items.length).map decimal := by
  rw [elementTrees_eq, List.map_map, ← List.zipIdx_map_snd i items, List.map_map]
  rfl

theorem Flattenable.wellKeyed {x : NonFlattened} (plain : Flattenable x) :
    x.tree.WellKeyed fun k : Str => '.' ∉ k := by
  induction plain with
  | none => exact .node List.nodup_nil (by simp) (by simp)
  | base value => exact .leaf value
  | @list items below ih =>
    refine .node ?_ ?_ ?_
    · rw [elementTrees_keys]
      exact (List.nodup_range' _).map decimal_injective
    · rw [elementTrees_eq, List.forall_mem_map]
      exact fun element _ => not_mem_decimal (by decide) element.2
    · rw [elementTrees_eq, List.forall_mem_map]
      exact fun element member => ih element.1 (List.fst_mem_of_mem_zipIdx member)
  | @dict items distinct plain _ ih | @dataclass _ items distinct plain _ ih =>
    rw [NonFlattened.tree, entryTrees_eq]
    refine .node ?_ ?_ ?_
    · rwa [List.map_map]
    · rw [List.forall_mem_map]
      exact fun item member => (plain item member).dotFree
    · rw [List.forall_mem_map]
      exact ih

theorem flatUnder_entries (key : Str) (items : List (Str × NonFlattened)) :
    ((KeyedTree.node (entryTrees items)).leaves.map fun leaf => (underKey '.' key leaf.1, leaf.2)) =
      items.flatMap fun item => flatUnder (key ++ '.' :: item.1) item.2 := by
  rw [KeyedTree.leaves_underKey, entryTrees_eq, List.flatMap_map]
  rfl

theorem flatUnder_elements (key : Str) (i : Nat) (items : List NonFlattened) :
    ((KeyedTree.node (elementTrees i items)).leaves.map fun leaf => (underKey '.' key leaf.1, leaf.2)) =
      (items.zipIdx i).flatMap fun element => flatUnder (key ++ '.' :: decimal element.2) element.1 := by
  rw [KeyedTree.leaves_underKey, elementTrees_eq, List.flatMap_map]
  rfl

theorem dottedLeaves_dataclass (name : Option NameAttribute) (fields : List (Str × NonFlattened)) :
    (NonFlattened.dataclass name fields).dottedLeaves = fields.flatMap fun field => flatUnder field.1 field.2 := by
  rw [NonFlattened.dottedLeaves, NonFlattened.tree, KeyedTree.leaves_node, entryTrees_eq, List.flatMap_map,
    List.map_flatMap]
  refine List.flatMap_congr fun item _ => ?_
  rw [flatUnder, List.map_map]
  exact List.map_congr_left fun leaf _ => by rw [Function.comp_apply, underKey_eq_intercalate]

/-- What stands under a key has the dotted path behind that key. -/
theorem flatUnder_dataclass (key : Str) (name : Option NameAttribute) (fields : List (Str × NonFlattened)) :
    flatUnder key (.dataclass name fields) =
      (NonFlattened.dataclass name fields).dottedLeaves.map fun item => (key ++ '.' :: item.1, item.2) := by
  rw [dottedLeaves_dataclass, List.map_flatMap]
  refine (flatUnder_entries key fields).trans (List.flatMap_congr fun field _ => ?_)
  simp only [flatUnder, List.map_map]
  exact List.map_congr_left fun leaf _ => by simp [underKey]

/-- No two leaves share a dotted path. -/
theorem flatUnder_keys_nodup {x : NonFlattened} (plain : Flattenable x) (key : Str) :
    ((flatUnder key x).map Prod.fst).Nodup := by
  have well := plain.wellKeyed
  have paths : (flatUnder key x).map Prod.fst = (x.tree.leaves.map Prod.fst).map (underKey '.' key) := by
    rw [flatUnder, List.map_map, List.map_map]
    rfl
  rw [paths]
  refine List.Nodup.map_on (fun p inP q inQ same => ?_) well.paths_nodup
  obtain ⟨leaf, isLeaf, rfl⟩ := List.mem_map.mp inP
  obtain ⟨leaf', isLeaf', rfl⟩ := List.mem_map.mp inQ
  have behind : underKey '.' [] leaf.1 = underKey '.' [] leaf'.1 := List.append_cancel_left same
  rw [underKey_eq_intercalate, underKey_eq_intercalate] at behind
  refine (List.cons.inj (intercalate_injOn (List.cons_ne_nil _ _) (List.cons_ne_nil _ _) ?_ ?_ behind)).2
  · exact List.forall_mem_cons.mpr ⟨List.not_mem_nil, well.good_path leaf isLeaf⟩
  · exact List.forall_mem_cons.mpr ⟨List.not_mem_nil, well.good_path leaf' isLeaf'⟩

/-! ### Runs of the loops -/

section
variable {str : NonFlattened → Str}

/-- What `asdict` makes of a value, before the factory flattens it: it has no
name, and flattening it puts the leaves of the value under the key. -/
structure Prepared (str : NonFlattened → Str) (x y : NonFlattened) : Prop where
  isNone : y.isNone = x.isNone
  unnamed : y.hasName = false
  flattens : x.isNone = false → ∀ key ≠ [], ∃ r, asdictRecursive str y key = .ok r ∧
    ∀ results, r.merge key results = dictUpdate results (flatUnder key x)

theorem flatUnder_of_isNone {x : NonFlattened} (none : x.isNone = true) (key : Str) : flatUnder key x = [] := by
  cases x <;> first | rfl | cases none

theorem asdictItems_run {xs ys : List (Str × NonFlattened)} {skipped : Str → Bool} {newKey : Str → Str}
    (prepared : List.Forall₂ (fun x y => y.1 = x.1 ∧ Prepared str x.2 y.2) xs ys)
    (kept : ∀ x ∈ xs, skipped x.1 = false ∧ newKey x.1 ≠ []) (results : Flattened) :
    asdictItems str skipped newKey ys results =
      .ok (dictUpdate results (xs.flatMap fun x => flatUnder (newKey x.1) x.2)) := by
  induction prepared generalizing results with
  | nil => rfl
  | @cons x y xs ys first _ ih =>
    obtain ⟨k, value⟩ := x
    obtain ⟨_, value'⟩ := y
    obtain ⟨rfl, ready⟩ := first
    obtain ⟨⟨keep, nonempty⟩, keptLater⟩ := List.forall_mem_cons.mp kept
    rw [asdictItems, keep, Bool.false_or, ready.isNone, List.flatMap_cons, dictUpdate_append]
    cases none : value.isNone with
    | true =>
      rw [flatUnder_of_isNone none]
      exact ih keptLater results
    | false =>
      obtain ⟨r, flat, merge⟩ := ready.flattens none _ nonempty
      rw [flat, ← merge results]
      exact ih keptLater _

theorem asdictElements_run {xs ys : List NonFlattened} (prepared : List.Forall₂ (Prepared str) xs ys) (key : Str)
    (i : Nat) (results : Flattened) :
    asdictElements str key i ys results =
      .ok (dictUpdate results
        ((xs.zipIdx i).flatMap fun element => flatUnder (key ++ '.' :: decimal element.2) element.1)) := by
  induction prepared generalizing i results with
  | nil => rfl
  | @cons x y xs ys first _ ih =>
    rw [asdictElements, first.isNone, first.unnamed, List.zipIdx_cons, List.flatMap_cons, dictUpdate_append]
    cases none : x.isNone with
    | true =>
      rw [flatUnder_of_isNone none]
      exact ih (i + 1) results
    | false =>
      obtain ⟨r, flat, merge⟩ := first.flattens none (key ++ '.' :: decimal i) (by simp)
      simp only [Bool.false_eq_true, if_false]
      rw [flat, ← merge results]
      exact ih (i + 1) _

theorem Prepared.base (value : BaseType) : Prepared str (.base value) (.base value) where
  isNone := rfl
  unnamed := rfl
  flattens := fun _ key _ => ⟨.base value, rfl, fun results => by
    simp [FlattenedOrBaseType.merge, flatUnder, NonFlattened.tree, KeyedTree.leaves, dictUpdate]⟩

theorem PlainKey.not_name_of_dotted {k : Str} (plain : PlainKey k) (path : List Str) :
    underKey '.' k path ≠ nameKey := by
  intro same
  cases path with
  | nil => exact plain.other (by simpa using same)
  | cons k' path =>
    have dot : '.' ∈ nameKey := by
      rw [← same]
      simp [underKey]
    exact absurd dot (by decide)

theorem prepared_keys {xs ys : List (Str × NonFlattened)}
    (prepared : List.Forall₂ (fun x y => y.1 = x.1 ∧ Prepared str x.2 y.2) xs ys) :
    ys.map Prod.fst = xs.map Prod.fst := by
  induction prepared with
  | nil => rfl
  | cons first _ ih => rw [List.map_cons, List.map_cons, first.1, ih]

/-- The entries that a dictionary or a dataclass leaves for the loop. -/
theorem Prepared.dict {xs ys : List (Str × NonFlattened)} {x : NonFlattened} (some : x.isNone = false)
    (prepared : List.Forall₂ (fun x y => y.1 = x.1 ∧ Prepared str x.2 y.2) xs ys)
    (unnamed : nameKey ∉ xs.map Prod.fst)
    (under : ∀ key, flatUnder key x = xs.flatMap fun x => flatUnder (key ++ '.' :: x.1) x.2)
    (distinct : ∀ key, ((flatUnder key x).map Prod.fst).Nodup) : Prepared str x (.dict ys) where
  isNone := some.symm
  unnamed := by
    rw [← prepared_keys prepared] at unnamed
    refine List.any_eq_false.mpr fun y member isName => unnamed (List.mem_map.mpr ⟨y, member, ?_⟩)
    exact of_decide_eq_true isName
  flattens := by
    intro _ key nonempty
    have absent : dictGet ys nameKey = none := dictGet_eq_none (prepared_keys prepared ▸ unnamed)
    have kept : ∀ x ∈ xs, decide (x.1 = nameKey) = false ∧ key ++ '.' :: x.1 ≠ [] := fun x member =>
      ⟨decide_eq_false fun isName => unnamed (List.mem_map.mpr ⟨x, member, isName⟩), by simp⟩
    have run := @asdictItems_run str xs ys (fun k => decide (k = nameKey)) (fun k => key ++ '.' :: k) prepared kept []
    rw [← under key, dictUpdate_of_new (distinct key), List.nil_append] at run
    refine ⟨.flat (flatUnder key x), ?_, fun _ => rfl⟩
    rw [asdictRecursive, absent]
    simp only [nonempty, if_false]
    rw [run]
    rfl

theorem Prepared.list {xs ys : List NonFlattened} (prepared : List.Forall₂ (Prepared str) xs ys)
    (distinct : ∀ key, ((flatUnder key (.list xs)).map Prod.fst).Nodup) : Prepared str (.list xs) (.list ys) where
  isNone := rfl
  unnamed := rfl
  flattens := by
    intro _ key _
    have run := asdictElements_run prepared key 0 []
    rw [← flatUnder_elements] at run
    have all := dictUpdate_of_new (d := []) (distinct key)
    refine ⟨.flat (flatUnder key (.list xs)), ?_, fun _ => rfl⟩
    rw [asdictRecursive, run]
    exact congrArg (fun d => Except.ok (FlattenedOrBaseType.flat d)) all

theorem asdictInnerItems_returns {P : NonFlattened → NonFlattened → Prop}
    {dictFactory : List (Str × NonFlattened) → Except PyError Flattened} {items : List (Str × NonFlattened)}
    (below : ∀ item ∈ items, ∃ y, asdictInner dictFactory item.2 = .ok y ∧ P item.2 y) :
    ∃ ys, asdictInnerItems dictFactory items = .ok ys ∧
      List.Forall₂ (fun x y => y.1 = x.1 ∧ P x.2 y.2) items ys := by
  induction items with
  | nil => exact ⟨[], rfl, .nil⟩
  | cons item rest ih =>
    obtain ⟨⟨y, first, isY⟩, later⟩ := List.forall_mem_cons.mp below
    obtain ⟨ys, others, areYs⟩ := ih later
    refine ⟨(item.1, y) :: ys, ?_, .cons ⟨rfl, isY⟩ areYs⟩
    rw [asdictInnerItems, first, others]
    rfl

theorem asdictInnerElements_returns {P : NonFlattened → NonFlattened → Prop}
    {dictFactory : List (Str × NonFlattened) → Except PyError Flattened} {items : List NonFlattened}
    (below : ∀ value ∈ items, ∃ y, asdictInner dictFactory value = .ok y ∧ P value y) :
    ∃ ys, asdictInnerElements dictFactory items = .ok ys ∧ List.Forall₂ P items ys := by
  induction items with
  | nil => exact ⟨[], rfl, .nil⟩
  | cons value rest ih =>
    obtain ⟨⟨y, first, isY⟩, later⟩ := List.forall_mem_cons.mp below
    obtain ⟨ys, others, areYs⟩ := ih later
    refine ⟨y :: ys, ?_, .cons isY areYs⟩
    rw [asdictInnerElements, first, others]
    rfl

theorem dottedLeaves_keys_nodup {name : Option NameAttribute} {fields : List (Str × NonFlattened)}
    (plain : Flattenable (.dataclass name fields)) :
    ((NonFlattened.dataclass name fields).dottedLeaves.map Prod.fst).Nodup := by
  have under := flatUnder_keys_nodup plain []
  rw [flatUnder_dataclass, List.map_map] at under
  refine List.Nodup.of_map ([] ++ '.' :: ·) ?_
  rwa [List.map_map]

theorem nameKey_not_mem_dottedLeaves {name : Option NameAttribute} {fields : List (Str × NonFlattened)}
    (plain : ∀ field ∈ fields, PlainKey field.1) :
    nameKey ∉ (NonFlattened.dataclass name fields).dottedLeaves.map Prod.fst := by
  rw [dottedLeaves_dataclass, List.map_flatMap]
  intro member
  obtain ⟨field, isField, isKey⟩ := List.mem_flatMap.mp member
  obtain ⟨item, inField, same⟩ := List.mem_map.mp isKey
  obtain ⟨leaf, -, rfl⟩ := List.mem_map.mp inField
  exact (plain field isField).not_name_of_dotted leaf.1 same

/-- The factory flattens fields that are prepared to the leaves of the instance. -/
theorem flattenDictFactory_run {name : Option NameAttribute} {fields ys : List (Str × NonFlattened)}
    (plain : Flattenable (.dataclass name fields)) (keys : ∀ field ∈ fields, PlainKey field.1)
    (prepared : List.Forall₂ (fun x y => y.1 = x.1 ∧ Prepared str x.2 y.2) fields ys) :
    flattenDictFactory str ys = .ok (NonFlattened.dataclass name fields).dottedLeaves := by
  have run := @asdictItems_run str fields ys (fun _ => false) id prepared
    (fun field member => ⟨rfl, (keys field member).nonempty⟩) []
  have all : fields.flatMap (fun field => flatUnder (id field.1) field.2) =
      (NonFlattened.dataclass name fields).dottedLeaves := (dottedLeaves_dataclass name fields).symm
  rw [flattenDictFactory, run, all, dictUpdate_of_new (by exact dottedLeaves_keys_nodup plain), List.nil_append]

/-- `asdict` prepares every value for the factory of the instance around it. -/
theorem Flattenable.prepared {x : NonFlattened} (plain : Flattenable x) :
    ∃ y, asdictInner (flattenDictFactory str) x = .ok y ∧ Prepared str x y := by
  induction plain with
  | none => exact ⟨.none, rfl, rfl, rfl, fun some => absurd some (by decide)⟩
  | base value => exact ⟨.base value, rfl, .base value⟩
  | @list items below ih =>
    obtain ⟨ys, rebuilt, prepared⟩ := asdictInnerElements_returns ih
    refine ⟨.list ys, ?_, .list prepared (flatUnder_keys_nodup (.list below))⟩
    rw [asdictInner, rebuilt]
    rfl
  | @dict items distinct plain below ih =>
    obtain ⟨ys, rebuilt, prepared⟩ := asdictInnerItems_returns ih
    have unnamed : nameKey ∉ items.map Prod.fst := by
      intro member
      obtain ⟨item, isItem, isName⟩ := List.mem_map.mp member
      exact (plain item isItem).other isName
    refine ⟨.dict ys, ?_, .dict rfl prepared unnamed (fun key => flatUnder_entries key items)
      (flatUnder_keys_nodup (.dict distinct plain below))⟩
    rw [asdictInner, rebuilt]
    rfl
  | @dataclass name fields distinct plain below ih =>
    obtain ⟨ys, rebuilt, prepared⟩ := asdictInnerItems_returns ih
    have all : Flattenable (.dataclass name fields) := .dataclass name distinct plain below
    refine ⟨.ofFlattened (NonFlattened.dataclass name fields).dottedLeaves, ?_, .dict rfl
      (List.forall₂_same.mpr ?_) ?_ (fun key => ?_) (flatUnder_keys_nodup all)⟩
    · rw [asdictInner, rebuilt]
      exact congrArg (Except.map NonFlattened.ofFlattened) (flattenDictFactory_run all plain prepared)
    · rw [List.forall_mem_map]
      exact fun item _ => ⟨rfl, .base item.2⟩
    · rw [List.map_map]
      exact nameKey_not_mem_dottedLeaves plain
    · rw [flatUnder_dataclass, List.flatMap_map]
      simp only [flatUnder, NonFlattened.tree, KeyedTree.leaves, List.map_cons, List.map_nil, underKey_nil]
      exact List.map_eq_flatMap

theorem asdict_run {name : Option NameAttribute} {fields : List (Str × NonFlattened)}
    (plain : Flattenable (.dataclass name fields)) :
    asdict (flattenDictFactory str) (.dataclass name fields) = .ok
      (NonFlattened.dataclass name fields).dottedLeaves := by
  cases plain with
  | dataclass _ distinct keys below =>
    obtain ⟨ys, rebuilt, prepared⟩ := asdictInnerItems_returns fun field member => (below field member).prepared
    rw [asdict, rebuilt]
    exact flattenDictFactory_run (.dataclass name distinct keys below) keys prepared

end

/-- Every leaf of a dataclass instance is in the flat dictionary under its own
dotted path, and the dictionary has no other entry. -/
theorem asdict_flattenDictFactory (str : NonFlattened → Str) {name : Option NameAttribute}
    {fields : List (Str × NonFlattened)} (plain : Flattenable (.dataclass name fields)) :
    asdict (flattenDictFactory str) (.dataclass name fields) = .ok (NonFlattened.dataclass name fields).dottedLeaves ∧
      ((NonFlattened.dataclass name fields).dottedLeaves.map Prod.fst).Nodup :=
  ⟨asdict_run plain, dottedLeaves_keys_nodup plain⟩

/-- A nested instance, and a list with `None` and a dictionary in it. -/
def nestedMessage : NonFlattened := .dataclass none [
  ("gpu".toList, .dataclass none [("util".toList, .base (.int 7)), ("temperature".toList, .none)]),
  ("links".toList, .list [.base (.int 1), .none, .dict [("up".toList, .base (.bool true))]])]

theorem nestedMessage_flat : asdict (flattenDictFactory fun _ => []) nestedMessage = .ok
    [("gpu.util".toList, .int 7), ("links.0".toList, .int 1), ("links.2.up".toList, .bool true)] := by
  have gpu : Flattenable (.dataclass none [("util".toList, .base (.int 7)), ("temperature".toList, .none)]) :=
    .dataclass none (by decide) (by decide)
      (List.forall_mem_cons.mpr ⟨.base _, List.forall_mem_cons.mpr ⟨.none, by simp⟩⟩)
  have link : Flattenable (.dict [("up".toList, .base (.bool true))]) :=
    .dict (by decide) (by decide) (List.forall_mem_cons.mpr ⟨.base _, by simp⟩)
  have links : Flattenable (.list [.base (.int 1), .none, .dict [("up".toList, .base (.bool true))]]) :=
    .list (List.forall_mem_cons.mpr ⟨.base _, List.forall_mem_cons.mpr ⟨.none,
      List.forall_mem_cons.mpr ⟨link, by simp⟩⟩⟩)
  have plain : Flattenable nestedMessage :=
    .dataclass none (by decide) (by decide)
      (List.forall_mem_cons.mpr ⟨gpu, List.forall_mem_cons.mpr ⟨links, by simp⟩⟩)
  exact (asdict_flattenDictFactory _ plain).1

/-- The record of `Otel._write_log`: the time takes the place of a leaf under that key. -/
def writeLogExtra (str : NonFlattened → Str) (ts : Int) (message : NonFlattened) : Except PyError Flattened := do
  return dictSet "time".toList (.int ts) (← asdict (flattenDictFactory str) message)

theorem writeLogExtra_dictGet (str : NonFlattened → Str) (ts : Int) {name : Option NameAttribute}
    {fields : List (Str × NonFlattened)} (plain : Flattenable (.dataclass name fields)) :
    ∃ record, writeLogExtra str ts (.dataclass name fields) = .ok record ∧ ∀ key,
      dictGet record key = if key = "time".toList then some (.int ts)
        else dictGet (NonFlattened.dataclass name fields).dottedLeaves key := by
  refine ⟨dictSet "time".toList (.int ts) (NonFlattened.dataclass name fields).dottedLeaves, ?_,
    fun key => lookup_dictModify _ _ _ _⟩
  rw [writeLogExtra, asdict_run plain]
  rfl

end GpuTelemetry
