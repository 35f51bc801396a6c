import GpuTelemetry.Sinfo
import Mathlib.Algebra.BigOperators.Ring.Finset

namespace GpuTelemetry

/-! ### The nodes that are counted -/

/-- The row of a node that its dictionary entry keeps. -/
def lastRow (nodes : List SinfoNode) (name : Str) : Option SinfoNode :=
  (nodes.filter fun node => node.name = name).getLast?

def nodeNames (nodes : List SinfoNode) : List Str := (nodes.map SinfoNode.name).dedup

theorem mem_lastRow {nodes : List SinfoNode} {name : Str} {node : SinfoNode} (last : lastRow nodes name = some node) :
    node ∈ nodes ∧ node.name = name := by
  have member := List.mem_of_getLast? last
  rw [List.mem_filter, decide_eq_true_iff] at member
  exact member

/-- The dictionary of `sinfo.nodes` by name, whose values are the unique nodes. -/
theorem uniqueNodes_dict (nodes : List SinfoNode) :
    ∃ d : List (Str × SinfoNode), uniqueNodes nodes = d.map Prod.snd ∧ (d.map Prod.fst).Perm (nodeNames nodes) ∧
      ∀ entry ∈ d, lastRow nodes entry.1 = some entry.2 := by
  let items := nodes.map fun node => (node.name, node)
  obtain ⟨distinct, member⟩ := @dictUpdate_keys _ _ _ items [] List.nodup_nil
  refine ⟨dictUpdate [] items, rfl, (List.perm_ext_iff_of_nodup distinct (List.nodup_dedup _)).mpr ?_, ?_⟩
  · intro name
    rw [member name, List.mem_dedup, List.map_map]
    simp [Function.comp_def]
  · intro entry inDict
    have got : dictGet (dictUpdate [] items) entry.1 = some entry.2 := dictGet_of_mem distinct inDict
    rw [dictGet_dictUpdate_last, List.filter_map, List.getLast?_map, Option.map_map] at got
    have none : dictGet ([] : List (Str × SinfoNode)) entry.1 = none := rfl
    rw [none, Option.or_none] at got
    simpa [lastRow, Function.comp_def] using got

theorem uniqueNodes_length (nodes : List SinfoNode) : (uniqueNodes nodes).length = (nodeNames nodes).length := by
  obtain ⟨d, values, names, -⟩ := uniqueNodes_dict nodes
  rw [values, List.length_map, ← names.length_eq, List.length_map]

theorem uniqueNodes_perm (nodes : List SinfoNode) :
    (uniqueNodes nodes).Perm ((nodeNames nodes).filterMap (lastRow nodes)) := by
  obtain ⟨d, values, names, rows⟩ := uniqueNodes_dict nodes
  have same : uniqueNodes nodes = (d.map Prod.fst).filterMap (lastRow nodes) := by
    have kept : d.filterMap (lastRow nodes ∘ Prod.fst) = d.filterMap (some ∘ Prod.snd) := List.filterMap_congr rows
    rw [values, List.filterMap_map, kept, List.filterMap_eq_map]
  rw [same]
  exact names.filterMap _

theorem mem_uniqueNodes {nodes : List SinfoNode} {node : SinfoNode} :
    node ∈ uniqueNodes nodes ↔ lastRow nodes node.name = some node := by
  rw [(uniqueNodes_perm nodes).mem_iff, List.mem_filterMap]
  constructor
  · rintro ⟨name, -, last⟩
    rwa [(mem_lastRow last).2]
  · intro last
    exact ⟨node.name, List.mem_dedup.mpr (List.mem_map_of_mem (mem_lastRow last).1), last⟩

theorem mem_of_mem_uniqueNodes {nodes : List SinfoNode} {node : SinfoNode} (member : node ∈ uniqueNodes nodes) :
    node ∈ nodes :=
  (mem_lastRow (mem_uniqueNodes.mp member)).1

theorem uniqueNodes_countP (nodes : List SinfoNode) (p : SinfoNode → Bool) :
    (uniqueNodes nodes).countP p = (nodeNames nodes).countP fun name => (lastRow nodes name).any p := by
  rw [(uniqueNodes_perm nodes).countP_eq, List.countP_filterMap]
  refine List.countP_congr fun name _ => ?_
  cases lastRow nodes name <;> rfl

/-! ### The counters that a node adds to -/

/-- A state without its trailing flags. -/
def bareState (state : Str) : Str := state.rdropWhile fun c => "*~#!%$@^-".toList.contains c

def stateCounter (state : Str) : String := "nodes_" ++ String.ofList (bareState state)

abbrev NotResponding (state : Str) : Prop := state.getLast? = some '*'

/-- A state of the table that no counter is named after. -/
def Uncounted (state : Str) : Prop := bareState state ∈ nodeStates ∧ stateCounter state ∉ sinfoNodeStatesFields

instance (state : Str) : Decidable (Uncounted state) := inferInstanceAs (Decidable (_ ∧ _))

def countersOf (state : Str) : List String :=
  (if NotResponding state then ["nodes_not_responding"] else []) ++
    [if bareState state ∉ nodeStates then "nodes_unknown_state" else stateCounter state, "nodes_total"]

def addCounters (counts : SinfoNodeStates Int) (names : List String) : SinfoNodeStates Int :=
  names.foldl (fun counts name => counts.modify name (· + 1)) counts

theorem addCounters_append (counts : SinfoNodeStates Int) (names names' : List String) :
    addCounters counts (names ++ names') = addCounters (addCounters counts names) names' :=
  List.foldl_append

theorem countNodeState_uncounted {node : SinfoNode} (uncounted : Uncounted node.state)
    (sinfoStates : SinfoNodeStates Int) : ∃ e, countNodeState sinfoStates node = .error e := by
  obtain ⟨known, unnamed⟩ := uncounted
  rw [bareState] at known
  rw [stateCounter, bareState] at unnamed
  unfold countNodeState
  simp only [not_not_intro known, unnamed, if_true, if_false, not_false_eq_true]
  exact ⟨_, rfl⟩

theorem countNodeState_counted {node : SinfoNode} (counted : ¬Uncounted node.state)
    (sinfoStates : SinfoNodeStates Int) :
    countNodeState sinfoStates node = .ok (addCounters sinfoStates (countersOf node.state)) := by
  unfold countNodeState countersOf
  rw [Uncounted, not_and, not_not, bareState, stateCounter, bareState] at counted
  rw [bareState, stateCounter, bareState]
  by_cases known : (node.state.rdropWhile fun c => "*~#!%$@^-".toList.contains c) ∈ nodeStates
  · simp only [not_not_intro known, not_not_intro (counted known), if_false]
    split <;> rfl
  · simp only [known, not_false_eq_true, if_true]
    split <;> rfl

theorem value_addCounters {names : List String} (fields : ∀ name ∈ names, name ∈ sinfoNodeStatesFields)
    (counts : SinfoNodeStates Int) (key : String) :
    (addCounters counts names).value key = counts.value key + names.count key := by
  induction names generalizing counts with
  | nil => simp [addCounters]
  | cons name names ih =>
    rw [List.forall_mem_cons] at fields
    have step : addCounters counts (name :: names) = addCounters (counts.modify name (· + 1)) names := rfl
    rw [step, ih fields.2, FieldValues.value_modify (by decide) fields.1, List.count_cons]
    by_cases here : key = name
    · simp [here, add_assoc, add_comm]
    · simp [here, Ne.symm here]

theorem countersOf_fields {state : Str} (counted : ¬Uncounted state) :
    ∀ name ∈ countersOf state, name ∈ sinfoNodeStatesFields := by
  intro name member
  rw [countersOf, List.mem_append, List.mem_cons, List.mem_singleton] at member
  rcases member with waiting | first | total
  · split at waiting
    · rw [List.mem_singleton.mp waiting]
      decide
    · exact absurd waiting List.not_mem_nil
  · rw [Uncounted, not_and, not_not] at counted
    rw [first]
    split
    · decide
    · rename_i known
      exact counted (not_not.mp known)
  · rw [total]
    decide

/-- A run of the loop returns unless it meets a state without a counter. -/
theorem countNodeStates_run {nodes : List SinfoNode} (counts : SinfoNodeStates Int)
    (counted : ∀ node ∈ nodes, ¬Uncounted node.state) :
    nodes.foldlM countNodeState counts =
      .ok (addCounters counts (nodes.flatMap fun node => countersOf node.state)) := by
  induction nodes generalizing counts with
  | nil => rfl
  | cons node nodes ih =>
    rw [List.forall_mem_cons] at counted
    rw [List.foldlM_cons, countNodeState_counted counted.1, List.flatMap_cons, addCounters_append]
    exact ih _ counted.2

theorem countNodeStates_raises {nodes : List SinfoNode} {node : SinfoNode} (member : node ∈ nodes)
    (uncounted : Uncounted node.state) (counts : SinfoNodeStates Int) :
    ∃ e, nodes.foldlM countNodeState counts = .error e := by
  induction nodes generalizing counts with
  | nil => exact absurd member List.not_mem_nil
  | cons first nodes ih =>
    rw [List.foldlM_cons]
    rcases List.mem_cons.mp member with rfl | later
    · obtain ⟨e, raised⟩ := countNodeState_uncounted uncounted counts
      rw [raised]
      exact ⟨e, rfl⟩
    · cases countNodeState counts first with
      | error e => exact ⟨e, rfl⟩
      | ok counts => exact ih later counts

/-! ### What the counters add up to -/

/-- The counters of the single states. -/
def perStateFields : List String :=
  sinfoNodeStatesFields.filter fun name => name ∉ ["nodes_not_responding", "nodes_unknown_state", "nodes_total"]

structure NodeStatesAddUp (nodes : List SinfoNode) (counts : SinfoNodeStates Int) : Prop where
  states : (perStateFields.map counts.value).sum + counts.value "nodes_unknown_state" =
    counts.value "nodes_total"
  total : counts.value "nodes_total" = (nodeNames nodes).length
  notResponding : counts.value "nodes_not_responding" =
    (nodeNames nodes).countP fun name => (lastRow nodes name).any fun node => NotResponding node.state

/-- Each node adds one to exactly one of the states and the unknown state. -/
theorem countersOf_shape {state : Str} (counted : ¬Uncounted state) :
    ∃ name ∈ "nodes_unknown_state" :: perStateFields,
      countersOf state = (if NotResponding state then ["nodes_not_responding"] else []) ++ [name, "nodes_total"] := by
  refine ⟨_, ?_, rfl⟩
  have perState : ∀ bare ∈ nodeStates, "nodes_" ++ String.ofList bare ∈ sinfoNodeStatesFields →
      "nodes_" ++ String.ofList bare ∈ perStateFields := by decide +kernel
  split
  · exact List.mem_cons_self
  · rename_i known
    rw [Uncounted, not_and, not_not] at counted
    exact List.mem_cons_of_mem _ (perState _ (not_not.mp known) (counted (not_not.mp known)))

theorem countersOf_counts {state : Str} (counted : ¬Uncounted state) :
    (perStateFields.map fun name => (countersOf state).count name).sum +
        (countersOf state).count "nodes_unknown_state" = 1 ∧
      (countersOf state).count "nodes_total" = 1 ∧
      (countersOf state).count "nodes_not_responding" = if NotResponding state then 1 else 0 := by
  obtain ⟨name, field, shape⟩ := countersOf_shape counted
  rw [shape]
  by_cases waiting : NotResponding state
  · rw [if_pos waiting, if_pos waiting]
    clear shape
    revert name
    decide +kernel
  · rw [if_neg waiting, if_neg waiting]
    clear shape
    revert name
    decide +kernel

theorem uncounted_iff (state : Str) :
    Uncounted state ↔ bareState state = "blocked".toList ∨ bareState state = "allocated+".toList := by
  have table : ∀ bare ∈ nodeStates, ("nodes_" ++ String.ofList bare ∉ sinfoNodeStatesFields ↔
      bare = "blocked".toList ∨ bare = "allocated+".toList) := by decide
  constructor
  · rintro ⟨known, unnamed⟩
    exact (table _ known).mp unnamed
  · intro which
    have known : bareState state ∈ nodeStates := by
      rcases which with blocked | allocated
      · rw [blocked]
        decide
      · rw [allocated]
        decide
    exact ⟨known, (table _ known).mpr which⟩

/-- The counters that the nodes touch, counted over all of them. -/
theorem countersOf_nodes {nodes : List SinfoNode} (counted : ∀ node ∈ nodes, ¬Uncounted node.state) :
    let touched := nodes.flatMap fun node => countersOf node.state
    (perStateFields.map fun name => touched.count name).sum + touched.count "nodes_unknown_state" = nodes.length ∧
      touched.count "nodes_total" = nodes.length ∧
      touched.count "nodes_not_responding" = nodes.countP fun node => NotResponding node.state := by
  induction nodes with
  | nil => exact ⟨by simp, rfl, rfl⟩
  | cons node nodes ih =>
    rw [List.forall_mem_cons] at counted
    obtain ⟨states, total, waiting⟩ := ih counted.2
    obtain ⟨state, one, flag⟩ := countersOf_counts counted.1
    simp only [List.flatMap_cons, List.count_append, List.sum_map_add, List.length_cons, List.countP_cons,
      decide_eq_true_eq]
    omega

theorem computeNodeStates_addUp {nodes : List SinfoNode} (nonempty : nodes ≠ [])
    (counted : ∀ node ∈ uniqueNodes nodes, ¬Uncounted node.state) :
    ∃ counts, computeNodeStates nodes = .ok (counts.map some) ∧ NodeStatesAddUp nodes counts := by
  let touched := (uniqueNodes nodes).flatMap fun node => countersOf node.state
  have fields : ∀ name ∈ touched, name ∈ sinfoNodeStatesFields := by
    intro name member
    obtain ⟨node, isNode, touches⟩ := List.mem_flatMap.mp member
    exact countersOf_fields (counted node isNode) name touches
  have value : (addCounters (.constant _ 0) touched).value = fun name => (touched.count name : Int) := by
    funext name
    rw [value_addCounters fields, FieldValues.value_constant, zero_add]
  obtain ⟨states, total, waiting⟩ := countersOf_nodes counted
  refine ⟨addCounters (.constant _ 0) touched, ?_, ?_, ?_, ?_⟩
  · rw [computeNodeStates, if_neg (by simpa using nonempty), countNodeStates_run _ counted]
    rfl
  · rw [value]
    beta_reduce
    rw [total, ← states, Nat.cast_add, Nat.cast_list_sum, List.map_map]
    rfl
  · rw [value]
    beta_reduce
    rw [total, uniqueNodes_length]
  · rw [value]
    beta_reduce
    rw [waiting, uniqueNodes_countP]

/-- The counts add up over the nodes exactly when no node is, by the last of its rows, in a state without a count. -/
theorem computeNodeStates_addUp_iff (nodes : List SinfoNode) (nonempty : nodes ≠ []) :
    (∃ counts, computeNodeStates nodes = .ok (counts.map some) ∧ NodeStatesAddUp nodes counts) ↔
      ∀ name, ∀ node ∈ lastRow nodes name,
        bareState node.state ≠ "blocked".toList ∧ bareState node.state ≠ "allocated+".toList := by
  have condition : (∀ name, ∀ node ∈ lastRow nodes name,
      bareState node.state ≠ "blocked".toList ∧ bareState node.state ≠ "allocated+".toList) ↔
      ∀ node ∈ uniqueNodes nodes, ¬Uncounted node.state := by
    constructor
    · intro free node member
      rw [uncounted_iff, not_or]
      exact free node.name node (mem_uniqueNodes.mp member)
    · intro counted name node last
      have member : node ∈ uniqueNodes nodes := mem_uniqueNodes.mpr ((mem_lastRow last).2 ▸ last)
      have free := counted node member
      rwa [uncounted_iff, not_or] at free
  rw [condition]
  constructor
  · rintro ⟨counts, returned, -⟩ node member uncounted
    obtain ⟨e, raised⟩ := countNodeStates_raises member uncounted (.constant _ 0)
    rw [computeNodeStates, if_neg (by simpa using nonempty), raised] at returned
    cases returned
  · exact computeNodeStates_addUp nonempty

theorem computeNodeStates_blocked :
    let node : SinfoNode := ⟨"n1".toList, [], [], 0, 0, "blocked".toList, []⟩
    node.state ∈ nodeStates ∧ computeNodeStates [node] =
      .error (.attributeError "'SinfoNodeStates' object has no attribute 'nodes_blocked'".toList) :=
  ⟨by decide, rfl⟩

/-- Three nodes, one of them in two partitions. -/
theorem computeNodeStates_addUp_iff_idle :
    let nodes : List SinfoNode := [⟨"n1".toList, [], [], 0, 0, "idle*".toList, "a".toList⟩,
      ⟨"n2".toList, [], [], 0, 0, "down".toList, "a".toList⟩, ⟨"n3".toList, [], [], 0, 0, "mixed".toList, "a".toList⟩,
      ⟨"n1".toList, [], [], 0, 0, "idle*".toList, "b".toList⟩]
    nodes ≠ [] ∧
      ((∃ counts, computeNodeStates nodes = .ok (counts.map some) ∧ NodeStatesAddUp nodes counts) ↔
        ∀ name, ∀ node ∈ lastRow nodes name,
          bareState node.state ≠ "blocked".toList ∧ bareState node.state ≠ "allocated+".toList) :=
  ⟨by simp, computeNodeStates_addUp_iff _ (by simp)⟩

end GpuTelemetry
