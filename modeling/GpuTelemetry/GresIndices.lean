import GpuTelemetry.GpuAttribution

namespace GpuTelemetry

/-! ### Details of several groups -/

/-- An element of an index list: a number, a range of them, or `N/A`. A range up
to the largest `int` is left out: the loop over it never ends. -/
inductive GresRange
  | index (n : Nat)
  | range (first last : Nat) (ordered : first ≤ last) (ends : (last : Int) ≠ maxInt)
  | notAvailable

def GresRange.text : GresRange → Str
  | .index n => decimal n
  | .range first last _ _ => decimal first ++ '-' :: decimal last
  | .notAvailable => "N/A".toList

/-- The indices an element denotes. -/
def GresRange.expand : GresRange → List Str
  | .index n => [decimal n]
  | .range first last _ _ => (List.range' first (last + 1 - first)).map decimal
  | .notAvailable => []

/-- The numbers of an element are values of `int`. -/
def GresRange.Fits : GresRange → Prop
  | .index n => (n : Int) ≤ maxInt
  | .range _ last _ _ => (last : Int) ≤ maxInt
  | .notAvailable => True

/-- A group `gpu:<type>:<n>(IDX:<ranges>)`. -/
structure GpuGroup where
  type : Str
  noParen : '(' ∉ type
  count : Nat
  ranges : List GresRange

def GpuGroup.name (g : GpuGroup) : Str := "gpu:".toList ++ g.type ++ ':' :: decimal g.count

def GpuGroup.rangesText (g : GpuGroup) : Str := [','].intercalate (g.ranges.map GresRange.text)

def GpuGroup.text (g : GpuGroup) : Str := g.name ++ '(' :: (("IDX:".toList ++ g.rangesText) ++ [')'])

def GpuGroup.indices (g : GpuGroup) : List Str := g.ranges.flatMap GresRange.expand

/-- A GRES detail. -/
def gresDetail (groups : List GpuGroup) : Str := [','].intercalate (groups.map GpuGroup.text)

/-! ### What is read of an index list -/

theorem atoi_decimal_none {n : Nat} (large : ¬ (n : Int) ≤ maxInt) : atoi (decimal n) = none := by
  obtain ⟨c, rest, digits⟩ := List.exists_cons_of_ne_nil (decimal_ne_nil n)
  have first : c.isDigit = true := decimal_digits n c (by simp [digits])
  have unsigned : signAndDigits (decimal n) = (false, decimal n) := by
    rw [digits]
    unfold signAndDigits
    split
    · rename_i same
      simp [(List.cons.inj same).1, show Char.isDigit '-' = false by decide] at first
    · rename_i same
      simp [(List.cons.inj same).1, show Char.isDigit '+' = false by decide] at first
    · rfl
  have all : (decimal n).all Char.isDigit = true := List.all_eq_true.mpr (decimal_digits n)
  simp [atoi, unsigned, all, decimal_ne_nil, large]

/-- An element whose numbers fit is read. -/
theorem gresIndexEntry_fits {r : GresRange} (fits : r.Fits) : gresIndexEntry r.text = r.expand := by
  cases r with
  | index n =>
    simp only [gresIndexEntry, GresRange.text, GresRange.expand, hyphen_not_mem_decimal, if_false, atoi_decimal fits]
  | range first last ordered ends => exact gresIndexEntry_text (.range first last ordered (lt_of_le_of_ne fits ends))
  | notAvailable =>
    simp only [GresRange.text, GresRange.expand]
    decide

/-- An element with a number that is no `int` is left out. -/
theorem gresIndexEntry_large {r : GresRange} (large : ¬ r.Fits) : gresIndexEntry r.text = [] := by
  cases r with
  | index n =>
    simp only [gresIndexEntry, GresRange.text, hyphen_not_mem_decimal, if_false, atoi_decimal_none large]
  | range first last ordered ends =>
    have bounds : (decimal first ++ '-' :: decimal last).splitOn '-' = [decimal first, decimal last] := by
      rw [List.splitOn_append_cons_self_of_not_mem (hyphen_not_mem_decimal first),
        List.splitOn_eq_singleton (hyphen_not_mem_decimal last)]
    have hyphen : '-' ∈ decimal first ++ '-' :: decimal last := by simp
    simp only [gresIndexEntry, GresRange.text, hyphen, if_true, bounds, List.getD_cons_zero, List.getD_cons_succ,
      atoi_decimal_none large]
    cases atoi (decimal first) <;> rfl
  | notAvailable => exact absurd trivial large

theorem GresRange.expand_eq_nil_iff (r : GresRange) : r.expand = [] ↔ r = .notAvailable := by
  cases r with
  | index n => simp [GresRange.expand]
  | range first last ordered ends =>
    have several : last + 1 - first ≠ 0 := by omega
    simpa [GresRange.expand, List.range'_eq_nil_iff] using several
  | notAvailable => simp [GresRange.expand]

theorem gresIndexEntry_eq_expand_iff (r : GresRange) : gresIndexEntry r.text = r.expand ↔ r.Fits := by
  refine ⟨fun same => ?_, gresIndexEntry_fits⟩
  by_contra large
  rw [gresIndexEntry_large large] at same
  rw [(r.expand_eq_nil_iff).mp same.symm] at large
  exact large trivial

theorem gresIndexEntry_length_le (r : GresRange) : (gresIndexEntry r.text).length ≤ r.expand.length := by
  by_cases fits : r.Fits
  · exact (congrArg List.length (gresIndexEntry_fits fits)).le
  · simp [gresIndexEntry_large fits]

theorem GresRange.text_chars (r : GresRange) : ∀ c ∈ r.text, c ≠ ',' ∧ c ≠ ')' := by
  have digit {c : Char} (isDigit : c.isDigit = true) : c ≠ ',' ∧ c ≠ ')' := by
    constructor <;> (intro same; subst same; exact absurd isDigit (by decide))
  intro c member
  cases r with
  | index n => exact digit (decimal_digits n c member)
  | range first last _ _ =>
    simp only [GresRange.text, List.mem_append, List.mem_cons] at member
    rcases member with inFirst | rfl | inLast
    · exact digit (decimal_digits first c inFirst)
    · decide
    · exact digit (decimal_digits last c inLast)
  | notAvailable =>
    revert c
    decide

theorem GpuGroup.name_noParen (g : GpuGroup) : '(' ∉ g.name := by
  have count : '(' ∉ decimal g.count := not_mem_decimal (by decide) g.count
  simp [GpuGroup.name, count, g.noParen]

theorem GpuGroup.rangesText_noClosing (g : GpuGroup) : ')' ∉ g.rangesText := by
  intro member
  rcases mem_intercalate member with same | ⟨text, inTexts, inText⟩
  · exact absurd same (by decide)
  · obtain ⟨r, _, rfl⟩ := List.mem_map.mp inTexts
    exact (r.text_chars _ inText).2 rfl

/-- What is read of the ranges of a group. -/
theorem GpuGroup.read_ranges (g : GpuGroup) :
    (g.rangesText.splitOn ',').flatMap gresIndexEntry = g.ranges.flatMap fun r => gresIndexEntry r.text := by
  by_cases empty : g.ranges = []
  · simp only [GpuGroup.rangesText, empty, List.map_nil, List.flatMap_nil]
    decide
  · have noComma : ∀ text ∈ g.ranges.map GresRange.text, ',' ∉ text := by
      simpa using fun (r : GresRange) _ member => (r.text_chars ',' member).1 rfl
    rw [GpuGroup.rangesText, List.splitOn_intercalate ',' noComma (by simpa using empty), List.flatMap_map]

theorem parseGRES_gresDetail (g : GpuGroup) (groups : List GpuGroup) :
    parseGRES (gresDetail (g :: groups)) = .ok (g.ranges.flatMap fun r => gresIndexEntry r.text) := by
  obtain ⟨rest, text⟩ : ∃ rest, gresDetail (g :: groups) =
      g.name ++ '(' :: (("IDX:".toList ++ g.rangesText) ++ ')' :: rest) := by
    cases groups with
    | nil => exact ⟨[], by simp [gresDetail, GpuGroup.text]⟩
    | cons next groups => exact ⟨',' :: gresDetail (next :: groups), by simp [gresDetail, GpuGroup.text]⟩
  rw [text, parseGRES_first rest g.name_noParen g.rangesText_noClosing, g.read_ranges]

/-- Two lists put together from parts, the ones of the first no longer than those
of the second, are equal only part by part. -/
theorem flatMap_eq_append_iff {α β : Type} {f g : α → List β} (shorter : ∀ a, (f a).length ≤ (g a).length)
    (l : List α) (rest : List β) :
    l.flatMap f = l.flatMap g ++ rest ↔ (∀ a ∈ l, f a = g a) ∧ rest = [] := by
  have lengths : ∀ l : List α, (l.flatMap f).length ≤ (l.flatMap g).length := by
    intro l
    induction l with
    | nil => exact le_rfl
    | cons a l ih =>
      have head := shorter a
      simp only [List.flatMap_cons, List.length_append]
      omega
  induction l with
  | nil => simp [eq_comm]
  | cons a l ih =>
    rw [List.flatMap_cons, List.flatMap_cons, List.append_assoc]
    constructor
    · intro same
      have total := congrArg List.length same
      have head := shorter a
      have tail := lengths l
      simp only [List.length_append] at total
      obtain ⟨first, later⟩ := List.append_inj same (by omega)
      obtain ⟨each, nothing⟩ := ih.mp later
      exact ⟨List.forall_mem_cons.mpr ⟨first, each⟩, nothing⟩
    · rintro ⟨each, nothing⟩
      obtain ⟨first, later⟩ := List.forall_mem_cons.mp each
      rw [first, ih.mpr ⟨later, nothing⟩]

/-- All indices of a detail are read exactly when the numbers of the first group
fit and no other group has indices. -/
theorem parseGRES_all_iff (g : GpuGroup) (groups : List GpuGroup) :
    parseGRES (gresDetail (g :: groups)) = .ok ((g :: groups).flatMap GpuGroup.indices) ↔
      (∀ r ∈ g.ranges, r.Fits) ∧ ∀ other ∈ groups, ∀ r ∈ other.ranges, r = .notAvailable := by
  rw [parseGRES_gresDetail, Except.ok.injEq, List.flatMap_cons, GpuGroup.indices,
    flatMap_eq_append_iff gresIndexEntry_length_le]
  simp only [gresIndexEntry_eq_expand_iff, List.flatMap_eq_nil_iff, GpuGroup.indices, GresRange.expand_eq_nil_iff]

/-- The indices of the second group of GPUs are not read. -/
theorem parseGRES_two_groups :
    parseGRES "gpu:a100:2(IDX:0-1),gpu:h100:1(IDX:2)".toList = .ok (["0", "1"].map String.toList) ∧
      gresDetail [⟨"a100".toList, by decide, 2, [.range 0 1 (by decide) (by decide)]⟩,
        ⟨"h100".toList, by decide, 1, [.index 2]⟩] = "gpu:a100:2(IDX:0-1),gpu:h100:1(IDX:2)".toList ∧
      ¬ ∀ g groups, parseGRES (gresDetail (g :: groups)) = .ok ((g :: groups).flatMap GpuGroup.indices) := by
  refine ⟨by decide, by decide, fun all => ?_⟩
  have both := all ⟨"a100".toList, by decide, 2, [.range 0 1 (by decide) (by decide)]⟩
    [⟨"h100".toList, by decide, 1, [.index 2]⟩]
  rw [parseGRES_gresDetail] at both
  revert both
  decide

end GpuTelemetry
