import GpuTelemetry.SacctLines

namespace GpuTelemetry

/-! ### Counting across a join -/

/-- Skipping more characters never finds more occurrences, and skipping at most
one occurrence further loses at most one. -/
theorem countLoop_skip {d : Str} (nonempty : d ≠ []) (s : Str) {i j : Nat} (further : i ≤ j) :
    countLoop d j s ≤ countLoop d i s ∧ (j ≤ i + d.length → countLoop d i s ≤ countLoop d j s + 1) := by
  have positive : 0 < d.length := List.length_pos_of_ne_nil nonempty
  induction s generalizing i j with
  | nil => simp [countLoop]
  | cons c s ih =>
    cases i with
    | succ i =>
      obtain ⟨j, rfl⟩ : ∃ j', j = j' + 1 := ⟨j - 1, by omega⟩
      have later := ih (by omega : i ≤ j)
      simp only [countLoop]
      exact ⟨later.1, fun near => later.2 (by omega)⟩
    | zero =>
      cases j with
      | zero => simp
      | succ j =>
        simp only [countLoop]
        split
        · -- the occurrence found here is the only one the further skip may lose
          rcases Nat.lt_or_ge (d.length - 1) j with beyond | inside
          · have least := (ih beyond.le).1
            exact ⟨by omega, fun near => by omega⟩
          · obtain ⟨least, most⟩ := ih inside
            have lost := most (by omega)
            exact ⟨by omega, fun _ => by omega⟩
        · have between := ih (Nat.zero_le j)
          exact ⟨between.1, fun near => between.2 (by omega)⟩

theorem countLoop_short {d : Str} (s : Str) (short : s.length < d.length) (skip : Nat) : countLoop d skip s = 0 := by
  induction s generalizing skip with
  | nil => rfl
  | cons c s ih =>
    rw [List.length_cons] at short
    cases skip with
    | succ skip => exact ih (by omega) skip
    | zero =>
      have notPrefix : ¬ d.isPrefixOf (c :: s) = true := by
        intro found
        have within := (List.isPrefixOf_iff_prefix.mp found).length_le
        rw [List.length_cons] at within
        omega
      simp only [countLoop, notPrefix]
      exact ih (by omega) 0

theorem countLoop_drop (d : Str) (s t : Str) {skip : Nat} (beyond : s.length ≤ skip) :
    countLoop d skip (s ++ t) = countLoop d (skip - s.length) t := by
  induction s generalizing skip with
  | nil => rfl
  | cons c s ih =>
    rw [List.length_cons] at beyond
    obtain ⟨skip, rfl⟩ : ∃ skip', skip = skip' + 1 := ⟨skip - 1, by omega⟩
    rw [List.cons_append, countLoop, ih (by omega), List.length_cons, Nat.add_sub_add_right]

/-- A join loses no occurrence: one that reaches over the border stands for at
most one behind it. -/
theorem countLoop_append {d : Str} (nonempty : d ≠ []) (s t : Str) {skip : Nat} (bound : skip ≤ s.length) :
    countLoop d skip s + countLoop d 0 t ≤ countLoop d skip (s ++ t) := by
  induction s generalizing skip with
  | nil =>
    have none : skip = 0 := by simpa using bound
    simp [none, countLoop]
  | cons c s ih =>
    rw [List.length_cons] at bound
    cases skip with
    | succ skip => exact ih (by omega)
    | zero =>
      simp only [List.cons_append, countLoop]
      by_cases here : d.isPrefixOf (c :: s) = true
      · have inside := List.isPrefixOf_iff_prefix.mp here
        have also : d.isPrefixOf (c :: (s ++ t)) = true :=
          List.isPrefixOf_iff_prefix.mpr (inside.trans (List.prefix_append (c :: s) t))
        have within := inside.length_le
        rw [List.length_cons] at within
        have later := ih (show d.length - 1 ≤ s.length by omega)
        rw [if_pos here, if_pos also]
        omega
      · rw [if_neg here]
        split
        · rename_i across
          -- the occurrence reaches into the second part, so the first is too short for one
          have short : (c :: s).length < d.length := by
            by_contra long
            have whole := List.isPrefixOf_iff_prefix.mp across
            exact here (List.isPrefixOf_iff_prefix.mpr
              (List.prefix_of_prefix_length_le whole (List.prefix_append (c :: s) t) (by omega)))
          rw [List.length_cons] at short
          have least := (countLoop_skip nonempty t (Nat.zero_le (d.length - 1 - s.length))).2 (by omega)
          rw [countLoop_short s (by omega) 0, countLoop_drop d s t (by omega)]
          omega
        · exact ih (Nat.zero_le _)

theorem Delimiter.count_append (d : Delimiter) (s t : Str) : d.count s + d.count t ≤ d.count (s ++ t) :=
  countLoop_append d.nonempty s t (Nat.zero_le _)

/-! ### The lines of a text -/

/-- The lines of a text: each ends in its only newline, but the last one may
end without one. -/
inductive TextLines : List Str → Prop
  | nil : TextLines []
  | last {line} : line ≠ [] → '\n' ∉ line → TextLines [line]
  | cons {line lines} : '\n' ∉ line → TextLines lines → TextLines ((line ++ ['\n']) :: lines)

theorem physicalLinesLoop_textLines (s : Str) {current : Str} (oneLine : '\n' ∉ current) :
    TextLines (physicalLinesLoop current s) := by
  induction s generalizing current with
  | nil =>
    unfold physicalLinesLoop
    split
    · exact .nil
    · rename_i nonempty
      exact .last nonempty oneLine
  | cons c s ih =>
    unfold physicalLinesLoop
    split
    · rename_i newline
      rw [newline]
      exact .cons oneLine (ih List.not_mem_nil)
    · rename_i notNewline
      exact ih (by simpa [oneLine] using Ne.symm notNewline)

theorem physicalLines_textLines (s : Str) : TextLines (physicalLines s) :=
  physicalLinesLoop_textLines s List.not_mem_nil

theorem physicalLines_last {line : Str} (nonempty : line ≠ []) (oneLine : '\n' ∉ line) :
    physicalLines line = [line] := by
  have gathered := physicalLinesLoop_append oneLine [] []
  rw [List.append_nil, List.nil_append] at gathered
  rw [physicalLines, gathered, physicalLinesLoop, if_neg nonempty]

/-- Splitting the lines' text gives the lines back. -/
theorem TextLines.physicalLines {lines : List Str} (form : TextLines lines) :
    physicalLines lines.flatten = lines := by
  induction form with
  | nil => rfl
  | last nonempty oneLine => simpa using physicalLines_last nonempty oneLine
  | @cons line lines oneLine _ ih =>
    have first := physicalLines_cons oneLine lines.flatten
    rw [List.flatten_cons, List.append_assoc, List.singleton_append, first, ih]

/-! ### A second scan -/

/-- Lines with all their delimiters pass unchanged. -/
theorem sacctLinesLoop_passes (d : Delimiter) {k : Nat} {lines : List Str} (full : ∀ line ∈ lines, k ≤ d.count line)
    (prevLine : Str) (n : Nat) : sacctLinesLoop d k prevLine n lines = ⟨⟨lines, none⟩, prevLine⟩ := by
  induction lines with
  | nil => rfl
  | cons line lines ih =>
    have here : k ≤ d.count line := full line (by simp)
    rw [sacctLinesLoop]
    simp only [if_neg (Nat.not_lt.mpr here), ih fun other member => full other (by simp [member]), SacctScan.cons,
      Generated.cons]

theorem escapeNewlines_line {line : Str} (oneLine : '\n' ∉ line) :
    escapeNewlines (line ++ ['\n']) = line ++ ['\\', 'n'] := by
  rw [escapeNewlines_append, escapeNewlines_oneLine oneLine]
  rfl

/-- What a scan that does not raise does with a line: it completes the buffer, the
buffer goes on, or the line is whole. -/
theorem sacctLinesLoop_step (d : Delimiter) {k n : Nat} {prevLine line : Str} {stdout : List Str}
    (finished : (sacctLinesLoop d k prevLine n (line :: stdout)).lines.raises = none) :
    (n + d.count line = k ∧ (sacctLinesLoop d k [] 0 stdout).lines.raises = none ∧
        sacctLinesLoop d k prevLine n (line :: stdout) = .cons (prevLine ++ line) (sacctLinesLoop d k [] 0 stdout)) ∨
      ((sacctLinesLoop d k (prevLine ++ escapeNewlines line) (n + d.count line) stdout).lines.raises = none ∧
        sacctLinesLoop d k prevLine n (line :: stdout) =
          sacctLinesLoop d k (prevLine ++ escapeNewlines line) (n + d.count line) stdout) ∨
      (k ≤ d.count line ∧ (sacctLinesLoop d k prevLine n stdout).lines.raises = none ∧
        sacctLinesLoop d k prevLine n (line :: stdout) = .cons line (sacctLinesLoop d k prevLine n stdout)) := by
  rw [sacctLinesLoop] at finished ⊢
  split at finished
  · rename_i few
    rw [if_pos few]
    split at finished
    · rename_i complete
      exact .inl ⟨complete, finished, if_pos complete⟩
    · rename_i incomplete
      rw [if_neg incomplete]
      split at finished
      · cases finished
      · rename_i fits
        exact .inr (.inl ⟨finished, if_neg fits⟩)
  · rename_i full
    exact .inr (.inr ⟨Nat.not_lt.mp full, finished, if_neg full⟩)

/-- What the scan yields behind the header are lines with all their delimiters:
the buffer is one line, with at least the delimiters that are tracked for it. -/
theorem sacctLinesLoop_lines (d : Delimiter) {k n : Nat} {prevLine : Str} {stdout : List Str}
    (form : TextLines stdout) (oneLine : '\n' ∉ prevLine) (tracked : n ≤ d.count prevLine)
    (finished : (sacctLinesLoop d k prevLine n stdout).lines.raises = none) :
    TextLines (sacctLinesLoop d k prevLine n stdout).lines.yields ∧
      ∀ line ∈ (sacctLinesLoop d k prevLine n stdout).lines.yields, k ≤ d.count line := by
  have none {buffer : Str} {m : Nat} : (sacctLinesLoop d k buffer m []).lines.yields = [] := rfl
  induction form generalizing n prevLine with
  | nil =>
    rw [none]
    exact ⟨.nil, List.forall_mem_nil _⟩
  | @last line nonempty single =>
    have joined := d.count_append prevLine line
    rcases sacctLinesLoop_step d finished with ⟨complete, -, run⟩ | ⟨-, run⟩ | ⟨full, -, run⟩
    · rw [run, SacctScan.cons, Generated.cons, none]
      exact ⟨.last (by simp [nonempty]) (by simp [oneLine, single]), List.forall_mem_singleton.mpr (by omega)⟩
    · rw [run, none]
      exact ⟨.nil, List.forall_mem_nil _⟩
    · rw [run, SacctScan.cons, Generated.cons, none]
      exact ⟨.last nonempty single, List.forall_mem_singleton.mpr full⟩
  | @cons line stdout single later ih =>
    have joined := d.count_append prevLine (line ++ ['\n'])
    rcases sacctLinesLoop_step d finished with ⟨complete, goes, run⟩ | ⟨goes, run⟩ | ⟨full, goes, run⟩
    · obtain ⟨rest, counted⟩ := ih List.not_mem_nil (Nat.zero_le _) goes
      have still : '\n' ∉ prevLine ++ line := by simp [oneLine, single]
      rw [run, SacctScan.cons, Generated.cons, ← List.append_assoc]
      rw [← List.append_assoc] at joined
      exact ⟨.cons still rest, List.forall_mem_cons.mpr ⟨by omega, counted⟩⟩
    · have escaped := d.count_append line ['\\', 'n']
      have buffered := d.count_append prevLine (line ++ ['\\', 'n'])
      have same := d.count_line line
      rw [run]
      rw [escapeNewlines_line single] at goes ⊢
      exact ih (by simp [oneLine, single]) (by omega) goes
    · obtain ⟨rest, counted⟩ := ih oneLine tracked goes
      rw [run, SacctScan.cons, Generated.cons]
      exact ⟨.cons single rest, List.forall_mem_cons.mpr ⟨full, counted⟩⟩

/-- A scan that does not raise yields a header and data lines with at least the
header's delimiters; the scan of these lines yields the same lines. -/
theorem getSacctLines_idempotent (d : Delimiter) (stdout : Str)
    (finished : (getSacctLines d stdout).lines.raises = none) :
    ∃ header data, (getSacctLines d stdout).lines.yields = header :: data ∧
      (∀ line ∈ data, d.count header ≤ d.count line) ∧
      getSacctLines d (getSacctLines d stdout).lines.yields.flatten = ⟨(getSacctLines d stdout).lines, []⟩ := by
  have form := physicalLines_textLines stdout
  cases lines : physicalLines stdout with
  | nil =>
    have yields : (getSacctLines d stdout).lines = ⟨[[]], none⟩ := by simp only [getSacctLines, lines]; rfl
    exact ⟨[], [], by rw [yields], by simp, by rw [yields]; rfl⟩
  | cons firstLine later =>
    have scan : getSacctLines d stdout = .cons firstLine (sacctLinesLoop d (d.count firstLine) [] 0 later) := by
      simp only [getSacctLines, lines]
    rw [scan] at finished ⊢
    rw [lines] at form
    generalize run : sacctLinesLoop d (d.count firstLine) [] 0 later = yielded at finished ⊢
    have again : TextLines (firstLine :: yielded.lines.yields) ∧
        ∀ line ∈ yielded.lines.yields, d.count firstLine ≤ d.count line := by
      rw [← run] at finished ⊢
      cases form with
      | last nonempty single => exact ⟨.last nonempty single, by simp [sacctLinesLoop, Generated.done]⟩
      | cons single rest =>
        obtain ⟨others, counted⟩ := sacctLinesLoop_lines d rest List.not_mem_nil (Nat.zero_le _) finished
        exact ⟨.cons single others, counted⟩
    refine ⟨firstLine, yielded.lines.yields, rfl, again.2, ?_⟩
    have split := again.1.physicalLines
    have passes := sacctLinesLoop_passes d again.2 [] 0
    obtain ⟨⟨yields, raises⟩, kept⟩ := yielded
    obtain rfl : raises = none := finished
    simp only [SacctScan.cons, Generated.cons] at split passes ⊢
    simp only [getSacctLines, split, passes, SacctScan.cons, Generated.cons]

/-- The joined lines of the sample records. -/
theorem getSacctLines_rescanned :
    (∃ header data, (getSacctLines pipe (rawOutput sampleHeader sampleRecords)).lines.yields = header :: data ∧
      (∀ line ∈ data, pipe.count header ≤ pipe.count line) ∧
      getSacctLines pipe (getSacctLines pipe (rawOutput sampleHeader sampleRecords)).lines.yields.flatten =
        ⟨(getSacctLines pipe (rawOutput sampleHeader sampleRecords)).lines, []⟩) ∧
    (getSacctLines pipe (rawOutput sampleHeader sampleRecords)).lines.yields =
      ["Id|Name|End\n".toList, "7|a|1\n".toList, "8|b\\nc|2\n".toList] :=
  ⟨getSacctLines_idempotent pipe (rawOutput sampleHeader sampleRecords) (by decide), by decide⟩

end GpuTelemetry
