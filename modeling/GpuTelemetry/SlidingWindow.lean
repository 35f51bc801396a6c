import Mathlib.Algebra.Order.Group.Defs
import Mathlib.Algebra.Order.Group.Unbundled.Basic
import Mathlib.Data.List.Induction

namespace GpuTelemetry

variable {τ β : Type}

/-! ### Histories of readings -/

/-- The readings of a history, with their times. -/
def readings (history : List (τ × Option β)) : List (τ × β) :=
  history.filterMap fun observed => observed.2.map fun value => (observed.1, value)

theorem readings_snoc (history : List (τ × Option β)) (now : τ) (value : Option β) :
    readings (history ++ [(now, value)]) = readings history ++ (value.map fun value => (now, value)).toList := by
  cases value <;> simp [readings]

theorem mem_readings_time {history : List (τ × Option β)} {entry : τ × β} (member : entry ∈ readings history) :
    entry.1 ∈ history.map Prod.fst := by
  obtain ⟨observed, inHistory, isEntry⟩ := List.mem_filterMap.mp member
  obtain ⟨_, -, rfl⟩ := Option.map_eq_some_iff.mp isEntry
  exact List.mem_map_of_mem inHistory

variable [LinearOrder τ]

def InTimeOrder (buf : List (τ × β)) : Prop := buf.Pairwise fun a b => a.1 ≤ b.1

theorem InTimeOrder.snoc {buf : List (τ × β)} (ordered : InTimeOrder buf) {now : τ}
    (past : ∀ entry ∈ buf, entry.1 ≤ now) (value : β) : InTimeOrder (buf ++ [(now, value)]) := by
  refine List.pairwise_append.mpr ⟨ordered, List.pairwise_singleton _ _, fun entry member last isLast => ?_⟩
  rw [List.mem_singleton.mp isLast]
  exact past entry member

theorem readings_inTimeOrder {history : List (τ × Option β)} (clock : (history.map Prod.fst).Pairwise (· ≤ ·)) :
    InTimeOrder (readings history) := by
  refine List.Pairwise.filterMap _ (fun a b before entry isEntry entry' isEntry' => ?_) (List.pairwise_map.mp clock)
  obtain ⟨_, -, rfl⟩ := Option.map_eq_some_iff.mp isEntry
  obtain ⟨_, -, rfl⟩ := Option.map_eq_some_iff.mp isEntry'
  exact before

/-! ### The window -/

variable [AddCommGroup τ]

/-- Remove the oldest entries while they are older than the window. -/
def trim (window now : τ) (buf : List (τ × β)) : List (τ × β) :=
  buf.dropWhile fun entry => decide (window < now - entry.1)

/-- The entries inside the window. -/
def recent (window now : τ) (buf : List (τ × β)) : List (τ × β) :=
  buf.filter fun entry => decide (now - window ≤ entry.1)

@[simp] theorem mem_recent {window now : τ} {buf : List (τ × β)} {entry : τ × β} :
    entry ∈ recent window now buf ↔ entry ∈ buf ∧ now - window ≤ entry.1 := by
  simp [recent]

theorem InTimeOrder.recent {buf : List (τ × β)} (ordered : InTimeOrder buf) (window now : τ) :
    InTimeOrder (recent window now buf) :=
  ordered.sublist List.filter_sublist

/-- One observation of a buffer that is trimmed at readings only. -/
def record (window : τ) (buf : List (τ × β)) (now : τ) : Option β → List (τ × β)
  | none => buf
  | some value => trim window now (buf ++ [(now, value)])

def recordAll (window : τ) (history : List (τ × Option β)) : List (τ × β) :=
  history.foldl (fun buf observed => record window buf observed.1 observed.2) []

/-- Whatever was inside the window at the last reading still is. -/
def StillInside (window : τ) (past : List (τ × β)) (now : τ) : Prop :=
  ∀ last ∈ past.getLast?, ∀ entry ∈ past, last.1 - window ≤ entry.1 → now - window ≤ entry.1

instance (window : τ) (past : List (τ × β)) (now : τ) : Decidable (StillInside window past now) :=
  inferInstanceAs (Decidable (∀ last ∈ past.getLast?, ∀ entry ∈ past, last.1 - window ≤ entry.1 →
    now - window ≤ entry.1))

/-- What was inside the window at the last reading. -/
def atLastReading (window : τ) (past : List (τ × β)) : List (τ × β) :=
  match past.getLast? with
  | none => []
  | some last => recent window last.1 past

theorem atLastReading_inside_iff (window : τ) (past : List (τ × β)) (now : τ) :
    (∀ entry ∈ atLastReading window past, now - window ≤ entry.1) ↔ StillInside window past now := by
  unfold atLastReading StillInside
  cases past.getLast? with
  | none => simp
  | some last => simp

theorem atLastReading_inTimeOrder (window : τ) {past : List (τ × β)} (ordered : InTimeOrder past) :
    InTimeOrder (atLastReading window past) := by
  unfold atLastReading
  split
  · exact List.Pairwise.nil
  · exact ordered.recent _ _

variable [IsOrderedAddMonoid τ]

/-- In time order, removing from the left removes everything that is too old. -/
theorem trim_eq_recent {buf : List (τ × β)} (ordered : InTimeOrder buf) (window now : τ) :
    trim window now buf = recent window now buf := by
  induction buf with
  | nil => rfl
  | cons entry buf ih =>
    obtain ⟨first, rest⟩ := List.pairwise_cons.mp ordered
    by_cases old : window < now - entry.1
    · have outside : ¬ now - window ≤ entry.1 := not_le.mpr (lt_sub_comm.mp old)
      rw [trim, List.dropWhile_cons_of_pos (by simpa using old), recent,
        List.filter_cons_of_neg (by simpa using outside)]
      exact ih rest
    · have inside : now - window ≤ entry.1 := sub_le_comm.mp (not_lt.mp old)
      rw [trim, List.dropWhile_cons_of_neg (by simpa using old), recent]
      refine (List.filter_eq_self.mpr fun other member => ?_).symm
      rcases List.mem_cons.mp member with rfl | behind
      · simpa using inside
      · simpa using inside.trans (first other behind)

theorem recent_recent {last now : τ} (later : last ≤ now) (window : τ) (buf : List (τ × β)) :
    recent window now (recent window last buf) = recent window now buf := by
  rw [recent, recent, recent, List.filter_filter]
  refine List.filter_congr fun entry _ => ?_
  by_cases inside : now - window ≤ entry.1
  · simp [inside, (sub_le_sub_right later window).trans inside]
  · simp [inside]

/-- The buffer holds what was inside the window at the last reading. -/
theorem recordAll_eq (window : τ) {history : List (τ × Option β)} (clock : (history.map Prod.fst).Pairwise (· ≤ ·)) :
    recordAll window history = atLastReading window (readings history) := by
  induction history using List.reverseRecOn with
  | nil => rfl
  | append_singleton history observed ih =>
    obtain ⟨now, value⟩ := observed
    rw [List.map_append, List.pairwise_append] at clock
    obtain ⟨earlier, -, before⟩ := clock
    have past : ∀ entry ∈ readings history, entry.1 ≤ now :=
      fun entry member => before entry.1 (mem_readings_time member) now (by simp)
    have step : recordAll window (history ++ [(now, value)]) = record window (recordAll window history) now value := by
      rw [recordAll, List.foldl_append]
      rfl
    rw [step, ih earlier, readings_snoc]
    cases value with
    | none => simp [record]
    | some value =>
      have ordered := readings_inTimeOrder earlier
      simp only [record, Option.map_some, Option.toList_some, atLastReading, List.getLast?_append,
        List.getLast?_singleton,
        Option.some_or]
      cases last : (readings history).getLast? with
      | none =>
        rw [List.getLast?_eq_none_iff.mp last]
        exact trim_eq_recent (List.pairwise_singleton _ _) window now
      | some last' =>
        have inPast : last' ∈ readings history := List.mem_of_getLast? last
        have kept : InTimeOrder (recent window last'.1 (readings history) ++ [(now, value)]) :=
          (ordered.recent window last'.1).snoc (fun entry member => past entry (mem_recent.mp member).1) value
        have again := recent_recent (past last' inPast) window (readings history)
        dsimp only
        rw [trim_eq_recent kept]
        simp only [recent, List.filter_append] at again ⊢
        rw [again]

end GpuTelemetry
