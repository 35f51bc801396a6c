import Mathlib.Data.List.Infix

namespace GpuTelemetry

variable {α : Type}

section

variable (fits : List α → Prop) [DecidablePred fits]

/-- Fill the current chunk while it fits, then start the next one. -/
def greedyChunks : List α → List α → List (List α)
  | [], chunk => if chunk.isEmpty then [] else [chunk]
  | a :: items, chunk =>
    if fits (chunk ++ [a]) then greedyChunks items (chunk ++ [a]) else chunk :: greedyChunks items [a]

end

variable {fits : List α → Prop} [DecidablePred fits]

theorem greedyChunks_flatten (items chunk : List α) : (greedyChunks fits items chunk).flatten = chunk ++ items := by
  induction items generalizing chunk with
  | nil => cases chunk <;> simp [greedyChunks]
  | cons a items ih =>
    unfold greedyChunks
    split <;> simp [ih]

/-- With single items that fit, every chunk fits and holds something. -/
theorem greedyChunks_fit {items chunk : List α} (singles : ∀ a ∈ items, fits [a]) (current : chunk = [] ∨ fits chunk) :
    ∀ part ∈ greedyChunks fits items chunk, part ≠ [] ∧ fits part := by
  induction items generalizing chunk with
  | nil =>
    cases chunk with
    | nil => simp [greedyChunks]
    | cons a chunk => simpa [greedyChunks] using current
  | cons a items ih =>
    have single : fits [a] := singles a (by simp)
    have later := fun other member => singles other (List.mem_cons_of_mem a member)
    unfold greedyChunks
    split
    · rename_i more
      exact ih later (.inr more)
    · rename_i full
      have nonempty : chunk ≠ [] := fun empty => full (by simpa [empty] using single)
      rintro part (_ | ⟨_, member⟩)
      · exact ⟨nonempty, current.resolve_left nonempty⟩
      · exact ih later (.inr single) part member

theorem greedyChunks_ne_nil (items : List α) {chunk : List α} (nonempty : chunk ≠ []) :
    greedyChunks fits items chunk ≠ [] := by
  intro none
  have whole : (greedyChunks fits items chunk).flatten = chunk ++ items := greedyChunks_flatten items chunk
  rw [none, List.flatten_nil] at whole
  exact nonempty (List.append_eq_nil_iff.mp whole.symm).1

/-- No division into chunks that fit is shorter. The current chunk may have
begun later than the part it is compared with, after `earlier` items of it. -/
theorem greedyChunks_length_le (hereditary : ∀ {front part back : List α}, fits (front ++ part ++ back) → fits part)
    {items chunk earlier : List α} {parts : List (List α)} (each : ∀ part ∈ parts, fits part)
    (whole : parts.flatten = earlier ++ chunk ++ items) : (greedyChunks fits items chunk).length ≤ parts.length := by
  induction items generalizing chunk earlier parts with
  | nil =>
    cases chunk with
    | nil => simp [greedyChunks]
    | cons a chunk =>
      have some : parts ≠ [] := by
        rintro rfl
        simp at whole
      have positive : 1 ≤ parts.length := List.length_pos_of_ne_nil some
      simpa [greedyChunks] using positive
  | cons a items ih =>
    unfold greedyChunks
    split
    · exact ih each (by simpa using whole)
    · rename_i full
      cases parts with
      | nil => simp at whole
      | cons part parts =>
        rw [List.flatten_cons] at whole
        -- the first part does not reach the item that no longer fits
        obtain ⟨left, rest, split⟩ : ∃ left, part ++ left = earlier ++ chunk ∧ parts.flatten = left ++ a :: items := by
          rcases List.append_eq_append_iff.mp whole with ⟨left, ends, rest⟩ | ⟨surplus, ends, rest⟩
          · exact ⟨left, ends.symm, rest⟩
          · cases surplus with
            | nil => exact ⟨[], by simpa using ends, by simpa using rest.symm⟩
            | cons b surplus =>
              obtain ⟨rfl, -⟩ : a = b ∧ _ := by simpa using rest
              have inPart : fits (earlier ++ (chunk ++ [a]) ++ surplus) := by simpa [ends] using each part (by simp)
              exact absurd (hereditary inPart) full
        have behind : parts.flatten = left ++ [a] ++ items := by simpa using split
        have shorter := ih (fun other member => each other (List.mem_cons_of_mem part member)) behind
        simpa using shorter

end GpuTelemetry
