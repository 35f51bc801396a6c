import Mathlib.Data.List.Nodup

/-! Dictionaries as association lists, their keys in the order of their first
insertion, and records whose fields are read and set by name. Nothing here
mentions a particular program. -/

namespace GpuTelemetry

variable {κ ν : Type} [DecidableEq κ]

/-- The value under a key becomes a function of the old one. -/
def dictModify (key : κ) (f : Option ν → ν) : List (κ × ν) → List (κ × ν)
  | [] => [(key, f none)]
  | (k, v) :: rest => if k = key then (k, f (some v)) :: rest else (k, v) :: dictModify key f rest

def dictSet (key : κ) (value : ν) : List (κ × ν) → List (κ × ν) := dictModify key fun _ => value

def dictUpdate (d items : List (κ × ν)) : List (κ × ν) := items.foldl (fun d item => dictSet item.1 item.2 d) d

/-- Each item goes to the list of its key. -/
def groupInto (key : ν → κ) (d : List (κ × List ν)) (items : List ν) : List (κ × List ν) :=
  items.foldl (fun d item => dictModify (key item) (fun group => group.getD [] ++ [item]) d) d

def groupByKey (key : ν → κ) (items : List ν) : List (κ × List ν) := groupInto key [] items

/-- One value for each of the names. -/
structure FieldValues (names : List κ) (α : Type) where
  values : List α
  complete : values.length = names.length

namespace FieldValues

variable {α β : Type} {names : List κ}

def fields (r : FieldValues names α) : List (κ × α) := names.zip r.values

/-- A record with the same value everywhere. -/
def constant (names : List κ) (a : α) : FieldValues names α := ⟨names.map fun _ => a, List.length_map _⟩

/-- The value of the i-th field. -/
def get (r : FieldValues names α) (i : Fin names.length) : α := r.values.get (i.cast r.complete.symm)

def map (f : α → β) (r : FieldValues names α) : FieldValues names β :=
  ⟨r.values.map f, by rw [List.length_map, r.complete]⟩

def modify (r : FieldValues names α) (name : κ) (f : α → α) : FieldValues names α :=
  ⟨r.fields.map fun field => if field.1 = name then f field.2 else field.2, by simp [fields, r.complete]⟩

omit [DecidableEq κ] in
theorem fields_names (r : FieldValues names α) : r.fields.map Prod.fst = names :=
  List.map_fst_zip (Nat.le_of_eq r.complete.symm)

end FieldValues

theorem dictModify_keys (key : κ) (f : Option ν → ν) (d : List (κ × ν)) :
    (dictModify key f d).map Prod.fst = if key ∈ d.map Prod.fst then d.map Prod.fst else d.map Prod.fst ++ [key] := by
  induction d with
  | nil => simp [dictModify]
  | cons entry rest ih =>
    obtain ⟨k, v⟩ := entry
    rw [dictModify]
    by_cases same : k = key
    · simp [same]
    · rw [if_neg same, List.map_cons, ih]
      by_cases inTail : key ∈ rest.map Prod.fst
      · rw [if_pos inTail, if_pos (by simp [inTail]), List.map_cons]
      · rw [if_neg inTail, if_neg (by simpa [inTail] using Ne.symm same), List.map_cons, List.cons_append]

theorem dictModify_keys_nodup {key : κ} {f : Option ν → ν} {d : List (κ × ν)} (distinct : (d.map Prod.fst).Nodup) :
    ((dictModify key f d).map Prod.fst).Nodup := by
  rw [dictModify_keys]
  split
  · exact distinct
  · rename_i new
    exact List.nodup_append.mpr ⟨distinct, List.nodup_singleton _, by
      intro a inKeys b inNew same
      rw [List.mem_singleton] at inNew
      exact new (inNew ▸ same ▸ inKeys)⟩

theorem mem_dictModify_keys {key k : κ} {f : Option ν → ν} {d : List (κ × ν)} :
    k ∈ (dictModify key f d).map Prod.fst ↔ k = key ∨ k ∈ d.map Prod.fst := by
  rw [dictModify_keys]
  split
  · rename_i old
    constructor
    · exact .inr
    · intro either
      rcases either with rfl | member
      · exact old
      · exact member
  · rw [List.mem_append, List.mem_singleton, or_comm]

theorem lookup_dictModify (key k : κ) (f : Option ν → ν) (d : List (κ × ν)) :
    (dictModify key f d).lookup k = if k = key then some (f (d.lookup key)) else d.lookup k := by
  induction d with
  | nil =>
    by_cases same : k = key
    · simp [dictModify, same]
    · simp [dictModify, same, List.lookup_cons, beq_eq_false_iff_ne.mpr same]
  | cons entry rest ih =>
    obtain ⟨k', v⟩ := entry
    rw [dictModify]
    by_cases here : k' = key
    · subst here
      by_cases same : k = k'
      · simp [same]
      · simp [same, List.lookup_cons, beq_eq_false_iff_ne.mpr same]
    · have notHere : (key == k') = false := beq_eq_false_iff_ne.mpr (Ne.symm here)
      rw [if_neg here, List.lookup_cons, ih, List.lookup_cons, List.lookup_cons, notHere]
      by_cases first : k = k'
      · subst first
        simp [here]
      · simp [beq_eq_false_iff_ne.mpr first]

/-- What a change of one key leaves, and what it makes of the value that was there. -/
theorem mem_dictModify {key : κ} {f : Option ν → ν} {d : List (κ × ν)} {entry : κ × ν}
    (member : entry ∈ dictModify key f d) :
    entry ∈ d ∨ ∃ old : Option ν, (∀ value ∈ old, (key, value) ∈ d) ∧ entry = (key, f old) := by
  induction d with
  | nil => exact .inr ⟨none, by simp, List.mem_singleton.mp member⟩
  | cons first rest ih =>
    obtain ⟨k, v⟩ := first
    rw [dictModify] at member
    split at member
    · rename_i same
      rcases List.mem_cons.mp member with new | old
      · exact .inr ⟨some v, by simp [same], by rw [new, same]⟩
      · exact .inl (List.mem_cons_of_mem _ old)
    · rcases List.mem_cons.mp member with first | later
      · exact .inl (by rw [first]; exact List.mem_cons_self)
      · rcases ih later with old | ⟨old, before, new⟩
        · exact .inl (List.mem_cons_of_mem _ old)
        · exact .inr ⟨old, fun value known => List.mem_cons_of_mem _ (before value known), new⟩

theorem groupInto_keys {key : ν → κ} {items : List ν} (d : List (κ × List ν)) (distinct : (d.map Prod.fst).Nodup) :
    ((groupInto key d items).map Prod.fst).Nodup ∧
      ∀ k, k ∈ (groupInto key d items).map Prod.fst ↔ k ∈ d.map Prod.fst ∨ ∃ item ∈ items, key item = k := by
  induction items generalizing d with
  | nil => exact ⟨distinct, by simp [groupInto]⟩
  | cons item items ih =>
    have step : groupInto key d (item :: items) =
        groupInto key (dictModify (key item) (fun group => group.getD [] ++ [item]) d) items := rfl
    obtain ⟨nodup, member⟩ := ih _ (dictModify_keys_nodup distinct)
    rw [step]
    refine ⟨nodup, fun k => ?_⟩
    rw [member k, mem_dictModify_keys, List.exists_mem_cons_iff, @eq_comm _ k (key item), or_assoc, or_left_comm]

/-- The keys of the groups are the keys of the items, each once. -/
theorem groupByKey_keys_nodup (key : ν → κ) (items : List ν) : ((groupByKey key items).map Prod.fst).Nodup :=
  (groupInto_keys [] List.nodup_nil).1

theorem mem_groupByKey_keys {key : ν → κ} {items : List ν} {k : κ} :
    k ∈ (groupByKey key items).map Prod.fst ↔ ∃ item ∈ items, key item = k := by
  rw [groupByKey, (groupInto_keys [] List.nodup_nil).2 k]
  simp

/-- The value under a key. -/
def dictGet (d : List (κ × ν)) (key : κ) : Option ν := d.lookup key

theorem dictGet_cons (k key : κ) (v : ν) (d : List (κ × ν)) :
    dictGet ((k, v) :: d) key = if key = k then some v else dictGet d key := by
  rw [dictGet, List.lookup_cons]
  by_cases same : key = k
  · simp [same]
  · simp [same, beq_eq_false_iff_ne.mpr same, dictGet]

theorem dictGet_append (d d' : List (κ × ν)) (key : κ) : dictGet (d ++ d') key = (dictGet d key).or (dictGet d' key) :=
  List.lookup_append

theorem dictGet_eq_none {d : List (κ × ν)} {key : κ} (absent : key ∉ d.map Prod.fst) : dictGet d key = none := by
  refine List.lookup_eq_none_iff.mpr fun p member => ?_
  rw [bne_iff_ne]
  exact fun isKey => absent (List.mem_map.mpr ⟨p, member, isKey.symm⟩)

theorem exists_dictGet {d : List (κ × ν)} {key : κ} (present : key ∈ d.map Prod.fst) :
    ∃ value, dictGet d key = some value := by
  obtain ⟨entry, member, rfl⟩ := List.mem_map.mp present
  exact Option.isSome_iff_exists.mp (List.lookup_isSome_iff.mpr ⟨entry, member, beq_self_eq_true _⟩)

theorem mem_of_dictGet {d : List (κ × ν)} {key : κ} {value : ν} (found : dictGet d key = some value) :
    (key, value) ∈ d := by
  obtain ⟨before, after, rfl, -⟩ := List.lookup_eq_some_iff.mp found
  simp

theorem dictGet_of_mem {d : List (κ × ν)} (distinct : (d.map Prod.fst).Nodup) {key : κ} {value : ν}
    (member : (key, value) ∈ d) : dictGet d key = some value := by
  induction d with
  | nil => simp at member
  | cons entry rest ih =>
    obtain ⟨k, v⟩ := entry
    rw [List.map_cons, List.nodup_cons] at distinct
    rw [dictGet_cons]
    rcases List.mem_cons.mp member with same | later
    · obtain ⟨rfl, rfl⟩ := Prod.mk.inj same
      exact if_pos rfl
    · have inKeys : key ∈ rest.map Prod.fst := List.mem_map.mpr ⟨_, later, rfl⟩
      rw [if_neg fun same : key = k => distinct.1 (same ▸ inKeys)]
      exact ih distinct.2 later

/-- Distinct keys set one after the other hold their values, and nothing else changes. -/
theorem dictGet_dictUpdate {items : List (κ × ν)} (distinct : (items.map Prod.fst).Nodup) (d : List (κ × ν))
    (key : κ) : dictGet (dictUpdate d items) key = (dictGet items key).or (dictGet d key) := by
  induction items generalizing d with
  | nil => rfl
  | cons item items ih =>
    obtain ⟨k, v⟩ := item
    rw [List.map_cons, List.nodup_cons] at distinct
    have step : dictUpdate d ((k, v) :: items) = dictUpdate (dictSet k v d) items := rfl
    have set : dictGet (dictSet k v d) key = if key = k then some v else dictGet d key := lookup_dictModify _ _ _ _
    rw [step, ih distinct.2, set, dictGet_cons]
    by_cases same : key = k
    · obtain rfl := same
      rw [if_pos rfl, if_pos rfl, dictGet_eq_none distinct.1]
      rfl
    · rw [if_neg same, if_neg same]

/-- The items set one after the other: a key holds the last value that it is given. -/
theorem dictGet_dictUpdate_last (d items : List (κ × ν)) (key : κ) :
    dictGet (dictUpdate d items) key =
      ((items.filter fun item => item.1 = key).getLast?.map Prod.snd).or (dictGet d key) := by
  induction items generalizing d with
  | nil => rfl
  | cons item items ih =>
    obtain ⟨k, v⟩ := item
    have step : dictUpdate d ((k, v) :: items) = dictUpdate (dictSet k v d) items := rfl
    have set : dictGet (dictSet k v d) key = if key = k then some v else dictGet d key := lookup_dictModify _ _ _ _
    rw [step, ih, set]
    by_cases same : k = key
    · obtain rfl := same
      rw [if_pos rfl, List.filter_cons_of_pos (by simp), List.getLast?_cons]
      cases (items.filter fun item => item.1 = k).getLast? <;> rfl
    · rw [if_neg (Ne.symm same), List.filter_cons_of_neg (by simpa using same)]

/-- A key holds the value that all items give it. -/
theorem dictGet_dictUpdate_agree (d : List (κ × ν)) {items : List (κ × ν)} {key : κ} {v : ν} (member : (key, v) ∈ items)
    (agree : ∀ item ∈ items, item.1 = key → item.2 = v) : dictGet (dictUpdate d items) key = some v := by
  have inGroup : (key, v) ∈ items.filter fun item => item.1 = key := by simp [member]
  obtain ⟨front, last, parts⟩ := (List.eq_nil_or_concat _).resolve_left (List.ne_nil_of_mem inGroup)
  have isLast : last ∈ items ∧ last.1 = key := by
    have inItems : last ∈ items.filter fun item => item.1 = key := by simp [parts]
    simpa using inItems
  rw [dictGet_dictUpdate_last, parts, List.concat_eq_append, List.getLast?_concat, ← agree last isLast.1 isLast.2]
  rfl

/-- A key that no item has keeps its value. -/
theorem dictGet_dictUpdate_quiet (d : List (κ × ν)) {items : List (κ × ν)} {key : κ}
    (quiet : ∀ item ∈ items, item.1 ≠ key) : dictGet (dictUpdate d items) key = dictGet d key := by
  have none : (items.filter fun item => item.1 = key) = [] :=
    List.filter_eq_nil_iff.mpr fun item member => by simpa using quiet item member
  rw [dictGet_dictUpdate_last, none]
  rfl

theorem dictUpdate_append (d items items' : List (κ × ν)) :
    dictUpdate d (items ++ items') = dictUpdate (dictUpdate d items) items' :=
  List.foldl_append

theorem dictModify_of_new {key : κ} {f : Option ν → ν} {d : List (κ × ν)} (absent : key ∉ d.map Prod.fst) :
    dictModify key f d = d ++ [(key, f none)] := by
  induction d with
  | nil => rfl
  | cons entry rest ih =>
    obtain ⟨k, v⟩ := entry
    rw [List.map_cons, List.mem_cons, not_or] at absent
    rw [dictModify, if_neg (Ne.symm absent.1), ih absent.2, List.cons_append]

/-- Items under new and distinct keys are appended. -/
theorem dictUpdate_of_new {d items : List (κ × ν)} (distinct : ((d ++ items).map Prod.fst).Nodup) :
    dictUpdate d items = d ++ items := by
  induction items generalizing d with
  | nil => exact (List.append_nil d).symm
  | cons item items ih =>
    have absent : item.1 ∉ d.map Prod.fst := by
      rw [List.map_append, List.nodup_append] at distinct
      exact fun inKeys => distinct.2.2 _ inKeys _ List.mem_cons_self rfl
    have step : dictUpdate d (item :: items) = dictUpdate (dictSet item.1 item.2 d) items := rfl
    rw [step, dictSet, dictModify_of_new absent, ih (by simpa using distinct)]
    simp

theorem dictUpdate_keys {items : List (κ × ν)} (d : List (κ × ν)) (distinct : (d.map Prod.fst).Nodup) :
    ((dictUpdate d items).map Prod.fst).Nodup ∧
      ∀ k, k ∈ (dictUpdate d items).map Prod.fst ↔ k ∈ d.map Prod.fst ∨ k ∈ items.map Prod.fst := by
  induction items generalizing d with
  | nil => exact ⟨distinct, by simp [dictUpdate]⟩
  | cons item items ih =>
    have step : dictUpdate d (item :: items) = dictUpdate (dictSet item.1 item.2 d) items := rfl
    obtain ⟨nodup, member⟩ := ih (dictSet item.1 item.2 d) (dictModify_keys_nodup distinct)
    rw [step]
    refine ⟨nodup, fun k => ?_⟩
    rw [member k, dictSet, mem_dictModify_keys, List.map_cons, List.mem_cons, or_assoc, or_left_comm]

theorem dictGet_mapValues {ν' : Type} (f : ν → ν') (d : List (κ × ν)) (key : κ) :
    dictGet (d.map fun entry => (entry.1, f entry.2)) key = (dictGet d key).map f := by
  induction d with
  | nil => rfl
  | cons entry rest ih =>
    obtain ⟨k, v⟩ := entry
    rw [List.map_cons, dictGet_cons, dictGet_cons, ih]
    split <;> rfl

theorem dictGet_groupInto (key : ν → κ) (d : List (κ × List ν)) (items : List ν) (k : κ) :
    (dictGet (groupInto key d items) k).getD [] = (dictGet d k).getD [] ++ items.filter fun item => key item = k := by
  induction items generalizing d with
  | nil => simp [groupInto]
  | cons item items ih =>
    have step : groupInto key d (item :: items) =
        groupInto key (dictModify (key item) (fun group => group.getD [] ++ [item]) d) items := rfl
    rw [step, ih, dictGet, lookup_dictModify]
    by_cases same : key item = k
    · obtain rfl := same
      simp [dictGet]
    · rw [if_neg (Ne.symm same), List.filter_cons_of_neg (by simpa using same)]
      rfl

/-- The group of a key is what the items of that key are, in their order. -/
theorem groupByKey_eq (key : ν → κ) (items : List ν) :
    groupByKey key items =
      ((groupByKey key items).map Prod.fst).map fun k => (k, items.filter fun item => key item = k) := by
  rw [List.map_map]
  refine (List.map_id _).symm.trans (List.map_congr_left fun entry member => ?_)
  have got := dictGet_of_mem (groupByKey_keys_nodup key items) member
  have group := dictGet_groupInto key [] items entry.1
  rw [groupByKey] at got
  rw [got] at group
  exact Prod.ext rfl group

/-- The groups of distinct keys hold the items of these keys. -/
theorem flatMap_groups_perm (key : ν → κ) (items : List ν) {keys : List κ} (distinct : keys.Nodup) :
    (keys.flatMap fun k => items.filter fun item => key item = k).Perm (items.filter fun item => key item ∈ keys) := by
  induction keys with
  | nil => simp
  | cons k keys ih =>
    rw [List.nodup_cons] at distinct
    have parts := List.filter_append_perm (fun item => key item = k) (items.filter fun item => key item ∈ k :: keys)
    rw [List.filter_filter, List.filter_filter] at parts
    have first : (items.filter fun item => decide (key item = k) && decide (key item ∈ k :: keys)) =
        items.filter fun item => key item = k := by
      refine List.filter_congr fun item _ => ?_
      by_cases same : key item = k
      · simp [same]
      · simp [same]
    have others : (items.filter fun item => (!decide (key item = k)) && decide (key item ∈ k :: keys)) =
        items.filter fun item => key item ∈ keys := by
      refine List.filter_congr fun item _ => ?_
      by_cases same : key item = k
      · simp [same, distinct.1]
      · simp [same]
    rw [first, others] at parts
    exact ((ih distinct.2).append_left _).trans parts

section Nested

variable {κ' : Type} [DecidableEq κ']

/-- Values in the dictionary under an outer key, each under its inner key. -/
def dictOfDicts (d : List (κ × List (κ' × ν))) (entries : List (κ × κ' × ν)) : List (κ × List (κ' × ν)) :=
  entries.foldl (fun d entry => dictModify entry.1 (fun inner => dictSet entry.2.1 entry.2.2 (inner.getD [])) d) d

def dictGetNested (d : List (κ × List (κ' × ν))) (outer : κ) (inner : κ') : Option ν :=
  (dictGet d outer).bind fun d => dictGet d inner

theorem dictOfDicts_keys (d : List (κ × List (κ' × ν))) (entries : List (κ × κ' × ν)) (outer : κ) :
    outer ∈ (dictOfDicts d entries).map Prod.fst ↔ outer ∈ d.map Prod.fst ∨ ∃ entry ∈ entries, entry.1 = outer := by
  induction entries generalizing d with
  | nil => simp [dictOfDicts]
  | cons entry entries ih =>
    have step : dictOfDicts d (entry :: entries) =
        dictOfDicts (dictModify entry.1 (fun inner => dictSet entry.2.1 entry.2.2 (inner.getD [])) d) entries := rfl
    rw [step, ih, mem_dictModify_keys, List.exists_mem_cons_iff, @eq_comm _ outer entry.1, or_assoc, or_left_comm]

theorem dictOfDicts_keys_nodup {d : List (κ × List (κ' × ν))} (distinct : (d.map Prod.fst).Nodup)
    (entries : List (κ × κ' × ν)) : ((dictOfDicts d entries).map Prod.fst).Nodup := by
  induction entries generalizing d with
  | nil => exact distinct
  | cons entry entries ih => exact ih (dictModify_keys_nodup distinct)

/-- Nested keys are set as pairs of keys are. -/
theorem dictGetNested_dictOfDicts {d : List (κ × List (κ' × ν))} {flat : List ((κ × κ') × ν)}
    (same : ∀ outer inner, dictGetNested d outer inner = dictGet flat (outer, inner)) (entries : List (κ × κ' × ν))
    (outer : κ) (inner : κ') :
    dictGetNested (dictOfDicts d entries) outer inner =
      dictGet (dictUpdate flat (entries.map fun entry => ((entry.1, entry.2.1), entry.2.2))) (outer, inner) := by
  induction entries generalizing d flat with
  | nil => exact same outer inner
  | cons entry entries ih =>
    obtain ⟨k, k', v⟩ := entry
    refine ih fun a b => ?_
    have outerGet : dictGet (dictModify k (fun inner => dictSet k' v (inner.getD [])) d) a =
        if a = k then some (dictSet k' v ((dictGet d k).getD [])) else dictGet d a := lookup_dictModify _ _ _ _
    have innerGet : ∀ d : List (κ' × ν), dictGet (dictSet k' v d) b = if b = k' then some v else dictGet d b :=
      fun d => lookup_dictModify _ _ _ _
    have flatGet : dictGet (dictSet (k, k') v flat) (a, b) = if (a, b) = (k, k') then some v else dictGet flat (a, b) :=
      lookup_dictModify _ _ _ _
    have before := same a b
    rw [dictGetNested] at before
    rw [dictGetNested, outerGet, flatGet, ← before]
    by_cases first : a = k
    · subst first
      rw [if_pos rfl, Option.bind_some, innerGet]
      by_cases second : b = k'
      · simp [second]
      · rw [if_neg second, if_neg fun both => second (Prod.mk.inj both).2]
        cases dictGet d a <;> rfl
    · rw [if_neg first, if_neg fun both => first (Prod.mk.inj both).1]

/-- Entries with distinct pairs of keys are all there, and nothing else is. -/
theorem dictGetNested_eq_some_iff {entries : List (κ × κ' × ν)}
    (distinct : (entries.map fun entry => (entry.1, entry.2.1)).Nodup) (outer : κ) (inner : κ') (v : ν) :
    dictGetNested (dictOfDicts [] entries) outer inner = some v ↔ (outer, inner, v) ∈ entries := by
  have keys : ((entries.map fun entry => ((entry.1, entry.2.1), entry.2.2)).map Prod.fst).Nodup := by
    rwa [List.map_map]
  have start : ∀ a b, dictGetNested ([] : List (κ × List (κ' × ν))) a b = dictGet ([] : List ((κ × κ') × ν)) (a, b) :=
    fun _ _ => rfl
  rw [dictGetNested_dictOfDicts start, dictUpdate_of_new (by exact keys), List.nil_append]
  constructor
  · intro found
    obtain ⟨⟨k, k', v'⟩, member, same⟩ := List.mem_map.mp (mem_of_dictGet found)
    obtain ⟨⟨rfl, rfl⟩, rfl⟩ := (Prod.mk.inj same).imp_left Prod.mk.inj
    exact member
  · exact fun member => dictGet_of_mem keys (List.mem_map.mpr ⟨_, member, rfl⟩)

end Nested

theorem FieldValues.dictGet_modify {names : List κ} (r : FieldValues names ν) (name : κ) (f : ν → ν) (key : κ) :
    dictGet (r.modify name f).fields key = (dictGet r.fields key).map (if key = name then f else id) := by
  have fields : (r.modify name f).fields =
      r.fields.map fun field => (field.1, if field.1 = name then f field.2 else field.2) := by
    have zipped := List.zip_map' (f := Prod.fst) (g := fun field => if field.1 = name then f field.2 else field.2)
      (l := r.fields)
    rw [fields_names] at zipped
    exact zipped
  rw [fields]
  generalize r.fields = d
  induction d with
  | nil => rfl
  | cons entry rest ih =>
    obtain ⟨k, v⟩ := entry
    rw [List.map_cons, dictGet_cons, dictGet_cons, ih]
    by_cases here : key = k
    · rw [if_pos here, if_pos here, here]
      by_cases same : k = name
      · simp [same]
      · simp [same]
    · rw [if_neg here, if_neg here]

namespace FieldValues

/-- A number by the name of its field. -/
def value {names : List κ} (r : FieldValues names Int) (name : κ) : Int := (dictGet r.fields name).getD 0

theorem value_modify {names : List κ} (distinct : names.Nodup) {name : κ} (field : name ∈ names)
    (r : FieldValues names Int) (f : Int → Int) (key : κ) :
    (r.modify name f).value key = if key = name then f (r.value key) else r.value key := by
  rw [value, dictGet_modify, value]
  by_cases here : key = name
  · obtain rfl := here
    rw [← r.fields_names] at distinct field
    obtain ⟨⟨k, old⟩, member, rfl⟩ := List.mem_map.mp field
    rw [dictGet_of_mem distinct member]
    simp
  · simp [here]

theorem value_constant (names : List κ) (key : κ) : (constant names (0 : Int)).value key = 0 := by
  rw [value]
  cases got : dictGet (constant names (0 : Int)).fields key with
  | none => rfl
  | some old =>
    have member := (List.of_mem_zip (mem_of_dictGet got)).2
    rw [constant, List.mem_map] at member
    obtain ⟨_, -, rfl⟩ := member
    rfl

end FieldValues

theorem dictGet_mapKeys {κ' : Type} [DecidableEq κ'] {f : κ → κ'} (injective : Function.Injective f) (d : List (κ × ν))
    (key : κ) : dictGet (d.map fun entry => (f entry.1, entry.2)) (f key) = dictGet d key := by
  induction d with
  | nil => rfl
  | cons entry rest ih =>
    obtain ⟨k, v⟩ := entry
    rw [List.map_cons, dictGet_cons, dictGet_cons, ih]
    simp only [injective.eq_iff]

theorem dictGet_perm {d d' : List (κ × ν)} (order : d.Perm d') (distinct : (d.map Prod.fst).Nodup) (key : κ) :
    dictGet d key = dictGet d' key := by
  have distinct' : (d'.map Prod.fst).Nodup := (order.map Prod.fst).nodup_iff.mp distinct
  by_cases member : key ∈ d.map Prod.fst
  · obtain ⟨⟨k, v⟩, inDict, rfl⟩ := List.mem_map.mp member
    rw [dictGet_of_mem distinct inDict, dictGet_of_mem distinct' (order.subset inDict)]
  · have member' : key ∉ d'.map Prod.fst := fun inKeys => member ((order.map Prod.fst).symm.subset inKeys)
    rw [dictGet_eq_none member, dictGet_eq_none member']

/-- Two dictionaries with the same distinct keys and the same values under them. -/
theorem eq_of_dictGet {d d' : List (κ × ν)} (keys : d.map Prod.fst = d'.map Prod.fst)
    (distinct : (d.map Prod.fst).Nodup) (same : ∀ key, dictGet d key = dictGet d' key) : d = d' := by
  induction d generalizing d' with
  | nil => exact (List.map_eq_nil_iff.mp keys.symm).symm
  | cons entry rest ih =>
    obtain ⟨k, v⟩ := entry
    rcases d' with _ | ⟨⟨k', v'⟩, rest'⟩
    · simp at keys
    rw [List.map_cons, List.map_cons, List.cons.injEq] at keys
    obtain ⟨rfl : k = k', tails⟩ := keys
    rw [List.map_cons, List.nodup_cons] at distinct
    have first := same k
    rw [dictGet_cons, dictGet_cons, if_pos rfl, if_pos rfl, Option.some.injEq] at first
    obtain rfl := first
    congr 1
    refine ih tails distinct.2 fun key => ?_
    by_cases here : key = k
    · subst here
      rw [dictGet_eq_none distinct.1, dictGet_eq_none (tails ▸ distinct.1)]
    · simpa only [dictGet_cons, if_neg here] using same key

/-- The entries that are present. -/
def present (columns : List (κ × Option ν)) : List (κ × ν) :=
  columns.filterMap fun column => column.2.map fun value => (column.1, value)

omit [DecidableEq κ] in
theorem present_keys_sublist (columns : List (κ × Option ν)) :
    ((present columns).map Prod.fst).Sublist (columns.map Prod.fst) := by
  induction columns with
  | nil => exact List.Sublist.slnil
  | cons column columns ih =>
    obtain ⟨key, _ | value⟩ := column
    · exact ih.cons key
    · exact ih.cons_cons key

theorem dictGet_present {columns : List (κ × Option ν)} (distinct : (columns.map Prod.fst).Nodup) (key : κ) :
    dictGet (present columns) key = (dictGet columns key).join := by
  induction columns with
  | nil => rfl
  | cons column columns ih =>
    obtain ⟨k, value⟩ := column
    rw [List.map_cons, List.nodup_cons] at distinct
    have absent : dictGet (present columns) k = none :=
      dictGet_eq_none fun member => distinct.1 ((present_keys_sublist columns).subset member)
    rw [dictGet_cons]
    rcases value with _ | value
    · have skip : present ((k, none) :: columns) = present columns := rfl
      rw [skip]
      by_cases same : key = k
      · rw [if_pos same, same, absent]
        rfl
      · rw [if_neg same]
        exact ih distinct.2
    · have keep : present ((k, some value) :: columns) = (k, value) :: present columns := rfl
      rw [keep, dictGet_cons, ih distinct.2]
      split <;> rfl

/-- What is present tells columns of the same names apart. -/
theorem eq_of_dictGet_present {columns columns' : List (κ × Option ν)}
    (keys : columns.map Prod.fst = columns'.map Prod.fst) (distinct : (columns.map Prod.fst).Nodup)
    (same : ∀ key, dictGet (present columns) key = dictGet (present columns') key) : columns = columns' := by
  refine eq_of_dictGet keys distinct fun key => ?_
  by_cases member : key ∈ columns.map Prod.fst
  · obtain ⟨⟨k, value⟩, inColumns, rfl⟩ := List.mem_map.mp member
    obtain ⟨⟨k', value'⟩, inColumns', rfl : k' = k⟩ := List.mem_map.mp (keys ▸ member)
    have got := dictGet_of_mem distinct inColumns
    have got' := dictGet_of_mem (keys ▸ distinct) inColumns'
    have joined := same k'
    rw [dictGet_present distinct, dictGet_present (keys ▸ distinct), got, got'] at joined
    rw [got, got']
    exact congrArg some joined
  · rw [dictGet_eq_none member, dictGet_eq_none (keys ▸ member)]

/-- A dictionary in the order in which a loop meets its keys. -/
structure Dict (κ ν : Type) where
  entries : List (κ × ν)
  distinct : (entries.map Prod.fst).Nodup

namespace Dict

def empty : Dict κ ν := ⟨[], List.nodup_nil⟩

def get (d : Dict κ ν) (key : κ) : Option ν := dictGet d.entries key

def filter (d : Dict κ ν) (keep : κ × ν → Bool) : Dict κ ν :=
  ⟨d.entries.filter keep, d.distinct.sublist (List.filter_sublist.map Prod.fst)⟩

end Dict

end GpuTelemetry
