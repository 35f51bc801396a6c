import GpuTelemetry.Exceptions

/-! Records handed over one by one to something that may refuse the n-th of
them. Nothing here mentions a particular program. -/

namespace GpuTelemetry

variable {R : Type} {refuses : Nat → Option PyError}

/-- Handing records over after those that have been, up to the first that is refused. -/
def handOver (refuses : Nat → Option PyError) : List R → Effect (List R) Unit
  | [], handed => (.ok (), handed)
  | record :: records, handed =>
    match refuses handed.length with
    | some e => (.error e, handed ++ [record])
    | none => handOver refuses records (handed ++ [record])

theorem handOver_accepted {records handed : List R}
    (accepted : ∀ i < records.length, refuses (handed.length + i) = none) :
    handOver refuses records handed = (.ok (), handed ++ records) := by
  induction records generalizing handed with
  | nil => rw [handOver, List.append_nil]
  | cons record records ih =>
    have here : refuses handed.length = none := accepted 0 (by simp)
    rw [handOver, here]
    dsimp only
    rw [ih fun i before => ?_, List.append_assoc]
    · rfl
    · have next := accepted (i + 1) (by simpa using before)
      rwa [List.length_append, List.length_singleton, Nat.add_assoc, Nat.add_comm 1 i]

theorem handOver_refused {records handed : List R} {i : Nat} {e : PyError} (before : i < records.length)
    (refused : refuses (handed.length + i) = some e) (accepted : ∀ j < i, refuses (handed.length + j) = none) :
    handOver refuses records handed = (.error e, handed ++ records.take (i + 1)) := by
  induction i generalizing records handed with
  | zero =>
    cases records with
    | nil => cases before
    | cons record records =>
      rw [handOver, show refuses handed.length = some e from refused]
      rfl
  | succ i ih =>
    cases records with
    | nil => cases before
    | cons record records =>
      have here : refuses handed.length = none := accepted 0 (Nat.succ_pos i)
      rw [handOver, here]
      dsimp only
      rw [ih (Nat.lt_of_succ_lt_succ before) ?_ fun j less => ?_, List.append_assoc]
      · rfl
      · rwa [List.length_append, List.length_singleton, Nat.add_assoc, Nat.add_comm 1 i]
      · have next := accepted (j + 1) (Nat.succ_lt_succ less)
        rwa [List.length_append, List.length_singleton, Nat.add_assoc, Nat.add_comm 1 j]

end GpuTelemetry
