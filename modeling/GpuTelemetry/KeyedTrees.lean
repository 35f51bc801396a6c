import GpuTelemetry.Text
import GpuTelemetry.Dicts
import Mathlib.Data.List.Nodup

/-! Trees whose children stand under keys, their leaves with the keys that lead
to them, and keys joined by a separator. Nothing here mentions a particular
program. -/

namespace GpuTelemetry

variable {κ α : Type}

inductive KeyedTree (κ α : Type)
  | leaf (a : α)
  | node (children : List (κ × KeyedTree κ α))

namespace KeyedTree

mutual

/-- The leaves in order, each with its path from the root. -/
def leaves : KeyedTree κ α → List (List κ × α)
  | .leaf a => [([], a)]
  | .node children => childLeaves children

def childLeaves : List (κ × KeyedTree κ α) → List (List κ × α)
  | [] => []
  | (k, t) :: rest => (t.leaves.map fun leaf => (k :: leaf.1, leaf.2)) ++ childLeaves rest

end

/-- No two children of a node share a key, and every key is a good one. -/
inductive WellKeyed (Good : κ → Prop) : KeyedTree κ α → Prop
  | leaf (a : α) : WellKeyed Good (.leaf a)
  | node {children : List (κ × KeyedTree κ α)} (distinct : (children.map Prod.fst).Nodup)
      (good : ∀ child ∈ children, Good child.1) (below : ∀ child ∈ children, WellKeyed Good child.2) :
      WellKeyed Good (.node children)

theorem leaves_node (children : List (κ × KeyedTree κ α)) :
    (node children).leaves =
      children.flatMap fun child => child.2.leaves.map fun leaf => (child.1 :: leaf.1, leaf.2) := by
  rw [leaves]
  induction children with
  | nil => rfl
  | cons child rest ih =>
    rw [childLeaves, ih, List.flatMap_cons]

theorem WellKeyed.good_path {Good : κ → Prop} {t : KeyedTree κ α} (well : WellKeyed Good t) :
    ∀ leaf ∈ t.leaves, ∀ k ∈ leaf.1, Good k := by
  induction well with
  | leaf a => simp [leaves]
  | node _ good _ ih =>
    intro leaf member k onPath
    rw [leaves_node] at member
    obtain ⟨child, isChild, below⟩ := List.mem_flatMap.mp member
    obtain ⟨rest, inChild, rfl⟩ := List.mem_map.mp below
    rcases List.mem_cons.mp onPath with rfl | later
    · exact good child isChild
    · exact ih child isChild rest inChild k later

/-- Every leaf has a path of its own. -/
theorem WellKeyed.paths_nodup {Good : κ → Prop} {t : KeyedTree κ α} (well : WellKeyed Good t) :
    (t.leaves.map Prod.fst).Nodup := by
  induction well with
  | leaf a => simp [leaves]
  | @node children distinct _ _ ih =>
    rw [leaves_node, List.map_flatMap]
    refine List.nodup_flatMap.mpr ⟨fun child isChild => ?_, ?_⟩
    · rw [List.map_map]
      have inside := (ih child isChild).map (List.cons_injective (a := child.1))
      rwa [List.map_map] at inside
    · refine (List.pairwise_map.mp distinct).imp fun {c d} different => ?_
      change List.Disjoint _ _
      intro path inC inD
      simp only [List.map_map, List.mem_map] at inC inD
      obtain ⟨leaf, -, rfl⟩ := inC
      obtain ⟨leaf', -, same⟩ := inD
      exact different (List.cons.inj same).1.symm

end KeyedTree

/-- A key and the keys after it, each behind a separator. -/
def underKey (sep : α) (key : List α) (path : List (List α)) : List α := key ++ path.flatMap (sep :: ·)

@[simp] theorem underKey_nil (sep : α) (key : List α) : underKey sep key [] = key := by simp [underKey]

theorem underKey_cons (sep : α) (key k : List α) (path : List (List α)) :
    underKey sep key (k :: path) = underKey sep (key ++ sep :: k) path := by
  simp [underKey]

theorem underKey_eq_intercalate (sep : α) (key : List α) (path : List (List α)) :
    underKey sep key path = [sep].intercalate (key :: path) := by
  induction path generalizing key with
  | nil => simp
  | cons k path ih =>
    rw [underKey_cons, ih]
    cases path <;> simp

/-- The leaves of a node, under the keys of its children. -/
theorem KeyedTree.leaves_underKey {β : Type} (sep : α) (key : List α)
    (children : List (List α × KeyedTree (List α) β)) :
    ((node children).leaves.map fun leaf => (underKey sep key leaf.1, leaf.2)) =
      children.flatMap fun child =>
        child.2.leaves.map fun leaf => (underKey sep (key ++ sep :: child.1) leaf.1, leaf.2) := by
  rw [leaves_node, List.map_flatMap]
  refine List.flatMap_congr fun child _ => ?_
  rw [List.map_map]
  exact List.map_congr_left fun leaf _ => by rw [Function.comp_apply, underKey_cons]

/-- Keys without the separator can be read back from their join. -/
theorem intercalate_injOn [DecidableEq α] {sep : α} {path path' : List (List α)}
    (some : path ≠ []) (some' : path' ≠ []) (clean : ∀ k ∈ path, sep ∉ k) (clean' : ∀ k ∈ path', sep ∉ k)
    (same : [sep].intercalate path = [sep].intercalate path') : path = path' := by
  rw [← List.splitOn_intercalate sep clean some, same, List.splitOn_intercalate sep clean' some']

end GpuTelemetry
