import GpuTelemetry.SinkWrites
import GpuTelemetry.GreedyChunks

namespace GpuTelemetry

variable {Record : Type}

/-- The compact JSON encoding of a list, from those of its items. -/
def jsonListDump (jsonDump : Record → Str) (chunk : List Record) : Str :=
  '[' :: ([','].intercalate (chunk.map jsonDump) ++ [']'])

/-- A chunk whose encoding is within the size hint. -/
def FitsSize (jsonDump : Record → Str) (sizeHintBytes : Int) (chunk : List Record) : Prop :=
  (encodedSize (jsonListDump jsonDump chunk) : Int) ≤ sizeHintBytes

instance (jsonDump : Record → Str) (sizeHintBytes : Int) : DecidablePred (FitsSize jsonDump sizeHintBytes) :=
  fun chunk => inferInstanceAs (Decidable ((encodedSize (jsonListDump jsonDump chunk) : Int) ≤ sizeHintBytes))

theorem encodedSize_append (a b : Str) : encodedSize (a ++ b) = encodedSize a + encodedSize b := by
  simp [encodedSize]

/-! ### The running size -/

theorem encodedSize_intercalate_snoc (parts : List Str) (part : Str) :
    encodedSize ([','].intercalate (parts ++ [part])) =
      encodedSize ([','].intercalate parts) + encodedSize part + if parts.isEmpty then 0 else 1 := by
  have separator : encodedSize [','] = 1 := by decide
  induction parts with
  | nil => simp [encodedSize]
  | cons first parts ih =>
    cases parts with
    | nil =>
      rw [List.singleton_append, List.intercalate_cons_cons, List.intercalate_singleton, List.intercalate_singleton,
        encodedSize_append, encodedSize_append, separator]
      simp
      omega
    | cons second parts =>
      rw [List.cons_append, List.intercalate_cons_of_ne_nil (by simp), List.intercalate_cons_of_ne_nil (by simp),
        encodedSize_append, encodedSize_append, encodedSize_append, encodedSize_append, ih]
      simp only [List.isEmpty_cons]
      omega

/-- What one more item adds: its own size, and a separator behind another item. -/
theorem encodedSize_jsonListDump_snoc (jsonDump : Record → Str) (chunk : List Record) (item : Record) :
    encodedSize (jsonListDump jsonDump (chunk ++ [item])) =
      encodedSize (jsonListDump jsonDump chunk) + encodedSize (jsonDump item) + if chunk.isEmpty then 0 else 1 := by
  have ends : ∀ inner : Str, encodedSize ('[' :: (inner ++ [']'])) = encodedSize inner + 2 := by
    intro inner
    have bracket : encodedSize ['['] = 1 ∧ encodedSize [']'] = 1 := by decide
    rw [← List.singleton_append, encodedSize_append, encodedSize_append, bracket.1, bracket.2]
    omega
  have snoc := encodedSize_intercalate_snoc (chunk.map jsonDump) (jsonDump item)
  rw [jsonListDump, jsonListDump, ends, ends, List.map_append, List.map_singleton, snoc, List.isEmpty_map]
  omega

theorem encodedSize_jsonListDump_nil (jsonDump : Record → Str) : encodedSize (jsonListDump jsonDump []) = 2 := by
  have brackets : encodedSize ['[', ']'] = 2 := by decide
  exact brackets

theorem fitsSize_singleton {jsonDump : Record → Str} {sizeHintBytes : Int} {item : Record} :
    FitsSize jsonDump sizeHintBytes [item] ↔ (encodedSize (jsonDump item) : Int) + 2 ≤ sizeHintBytes := by
  have snoc := encodedSize_jsonListDump_snoc jsonDump [] item
  rw [encodedSize_jsonListDump_nil, List.nil_append] at snoc
  simp only [FitsSize, snoc, List.isEmpty_nil, if_true]
  omega

/-- A chunk is not larger than one it is a part of. -/
theorem encodedSize_jsonListDump_infix (jsonDump : Record → Str) (front part back : List Record) :
    encodedSize (jsonListDump jsonDump part) ≤ encodedSize (jsonListDump jsonDump (front ++ part ++ back)) := by
  have behind : ∀ chunk back : List Record,
      encodedSize (jsonListDump jsonDump chunk) ≤ encodedSize (jsonListDump jsonDump (chunk ++ back)) := by
    intro chunk back
    induction back using List.reverseRecOn with
    | nil => simp
    | append_singleton back item ih =>
      have snoc := encodedSize_jsonListDump_snoc jsonDump (chunk ++ back) item
      rw [List.append_assoc] at snoc
      omega
  have before : ∀ front part : List Record,
      encodedSize (jsonListDump jsonDump part) ≤ encodedSize (jsonListDump jsonDump (front ++ part)) := by
    intro front part
    induction part using List.reverseRecOn with
    | nil => simpa using behind [] front
    | append_singleton part item ih =>
      have snoc := encodedSize_jsonListDump_snoc jsonDump part item
      have snoc' := encodedSize_jsonListDump_snoc jsonDump (front ++ part) item
      rw [List.append_assoc] at snoc'
      cases part with
      | nil => simp only [List.isEmpty_nil, if_true] at snoc; omega
      | cons first part =>
        have some : (front ++ first :: part).isEmpty = false := by simp
        simp only [List.isEmpty_cons] at snoc
        rw [some] at snoc'
        omega
  exact (before front part).trans (behind (front ++ part) back)

/-! ### The loop -/

/-- One round of the loop, on an item that is not too large. -/
theorem chunkLoop_cons {jsonDump : Record → Str} {sizeHintBytes : Int} {item : Record}
    (small : FitsSize jsonDump sizeHintBytes [item]) (items chunk : List Record) :
    chunkLoop jsonDump sizeHintBytes (item :: items) (encodedSize (jsonListDump jsonDump chunk)) chunk =
      if FitsSize jsonDump sizeHintBytes (chunk ++ [item]) then
        chunkLoop jsonDump sizeHintBytes items (encodedSize (jsonListDump jsonDump (chunk ++ [item]))) (chunk ++ [item])
      else .cons chunk (chunkLoop jsonDump sizeHintBytes items (encodedSize (jsonListDump jsonDump [item]))
        [item]) := by
  have single := fitsSize_singleton.mp small
  have next := encodedSize_jsonListDump_snoc jsonDump chunk item
  have first := encodedSize_jsonListDump_snoc jsonDump [] item
  rw [encodedSize_jsonListDump_nil, List.nil_append] at first
  have running : (encodedSize (jsonListDump jsonDump chunk) : Int) +
      (encodedSize (jsonDump item) + if chunk.isEmpty then 0 else 1) =
      encodedSize (jsonListDump jsonDump (chunk ++ [item])) := by
    rw [next]
    push_cast
    split <;> omega
  have begun : (encodedSize (jsonDump item) : Int) + 2 = encodedSize (jsonListDump jsonDump [item]) := by
    simp only [first, List.isEmpty_nil, if_true]
    omega
  rw [chunkLoop]
  simp only [running, begun]
  rw [if_neg (by simp only [openCloseBracketSize]; omega)]
  rfl

theorem chunkLoop_greedy {jsonDump : Record → Str} {sizeHintBytes : Int} {items : List Record}
    (small : ∀ item ∈ items, FitsSize jsonDump sizeHintBytes [item]) (chunk : List Record) :
    chunkLoop jsonDump sizeHintBytes items (encodedSize (jsonListDump jsonDump chunk)) chunk =
      ⟨greedyChunks (FitsSize jsonDump sizeHintBytes) items chunk, none⟩ := by
  induction items generalizing chunk with
  | nil => cases chunk <;> rfl
  | cons item items ih =>
    have later := ih fun other member => small other (List.mem_cons_of_mem item member)
    rw [chunkLoop_cons (small item (by simp)), greedyChunks]
    split
    · exact later (chunk ++ [item])
    · rw [later [item]]
      rfl

/-- At an item that is too large the chunk being filled is given up. -/
theorem chunkLoop_tooLarge {jsonDump : Record → Str} {sizeHintBytes : Int} {before : List Record} {item : Record}
    (small : ∀ item ∈ before, FitsSize jsonDump sizeHintBytes [item])
    (large : sizeHintBytes < encodedSize (jsonDump item) + 2) (after chunk : List Record) :
    chunkLoop jsonDump sizeHintBytes (before ++ item :: after) (encodedSize (jsonListDump jsonDump chunk)) chunk =
      ⟨(greedyChunks (FitsSize jsonDump sizeHintBytes) before chunk).dropLast,
        some (.valueError ("Got item of size ".toList ++ intText (encodedSize (jsonDump item)) ++
          " which is not less than ".toList ++ intText sizeHintBytes ++ " - 2 bytes".toList))⟩ := by
  induction before generalizing chunk with
  | nil =>
    rw [List.nil_append, chunkLoop]
    simp only [if_pos (show sizeHintBytes < encodedSize (jsonDump item) + openCloseBracketSize from large)]
    cases chunk <;> rfl
  | cons first before ih =>
    have later := ih fun other member => small other (List.mem_cons_of_mem first member)
    rw [List.cons_append, chunkLoop_cons (small first (by simp)), greedyChunks]
    split
    · exact later (chunk ++ [first])
    · rw [later [first], List.dropLast_cons_of_ne_nil (greedyChunks_ne_nil _ (by simp))]
      rfl

/-- Items that are not too large are packed in order into the fewest chunks
within the size hint; at the first item that is too large all chunks of the
items before it but the one being filled have been yielded, and a `ValueError`
is raised. -/
theorem chunkByJsonSize_minimal (jsonDump : Record → Str) (items : List Record) (sizeHintBytes : Int)
    (positive : 0 < sizeHintBytes) :
    ((∀ item ∈ items, (encodedSize (jsonDump item) : Int) + 2 ≤ sizeHintBytes) →
      ∃ chunks, chunkByJsonSize jsonDump items sizeHintBytes = ⟨chunks, none⟩ ∧ chunks.flatten = items ∧
        (∀ chunk ∈ chunks, chunk ≠ [] ∧ (encodedSize (jsonListDump jsonDump chunk) : Int) ≤ sizeHintBytes) ∧
        ∀ parts : List (List Record), parts.flatten = items →
          (∀ part ∈ parts, (encodedSize (jsonListDump jsonDump part) : Int) ≤ sizeHintBytes) →
          chunks.length ≤ parts.length) ∧
    ∀ before item after, items = before ++ item :: after →
      (∀ item ∈ before, (encodedSize (jsonDump item) : Int) + 2 ≤ sizeHintBytes) →
      sizeHintBytes < encodedSize (jsonDump item) + 2 →
      ∃ chunks, chunkByJsonSize jsonDump before sizeHintBytes = ⟨chunks, none⟩ ∧
        chunkByJsonSize jsonDump items sizeHintBytes =
          ⟨chunks.dropLast, some (.valueError ("Got item of size ".toList ++ intText (encodedSize (jsonDump item)) ++
            " which is not less than ".toList ++ intText sizeHintBytes ++ " - 2 bytes".toList))⟩ := by
  have start : ∀ items : List Record, chunkByJsonSize jsonDump items sizeHintBytes =
      chunkLoop jsonDump sizeHintBytes items (encodedSize (jsonListDump jsonDump [])) [] := by
    intro items
    rw [chunkByJsonSize, if_neg (by omega), encodedSize_jsonListDump_nil]
    rfl
  refine ⟨fun small => ?_, fun before item after split small large => ?_⟩
  · have singles : ∀ item ∈ items, FitsSize jsonDump sizeHintBytes [item] :=
      fun item member => fitsSize_singleton.mpr (small item member)
    refine ⟨_, (start items).trans (chunkLoop_greedy singles []), greedyChunks_flatten items [],
      greedyChunks_fit singles (.inl rfl), fun parts whole each => ?_⟩
    have covered : parts.flatten = [] ++ [] ++ items := by simpa using whole
    refine greedyChunks_length_le (fun {front part back} fits => ?_) each covered
    have smaller := encodedSize_jsonListDump_infix jsonDump front part back
    have bound : (encodedSize (jsonListDump jsonDump (front ++ part ++ back)) : Int) ≤ sizeHintBytes := fits
    exact (Int.ofNat_le.mpr smaller).trans bound
  · have singles : ∀ item ∈ before, FitsSize jsonDump sizeHintBytes [item] :=
      fun item member => fitsSize_singleton.mpr (small item member)
    exact ⟨_, (start before).trans (chunkLoop_greedy singles []),
      (start items).trans (split ▸ chunkLoop_tooLarge singles large after [])⟩

/-- Items of sizes 1, 1 and 4 under the limits 5 and 6: the boundary sizes. -/
theorem chunkByJsonSize_boundary :
    (∃ chunks, chunkByJsonSize (fun item => item) ["1".toList, "2".toList, "3333".toList] 6 = ⟨chunks, none⟩ ∧
      chunks.flatten = ["1".toList, "2".toList, "3333".toList] ∧
      (∀ chunk ∈ chunks, chunk ≠ [] ∧ (encodedSize (jsonListDump (fun item => item) chunk) : Int) ≤ 6) ∧
      ∀ parts : List (List Str), parts.flatten = ["1".toList, "2".toList, "3333".toList] →
        (∀ part ∈ parts, (encodedSize (jsonListDump (fun item => item) part) : Int) ≤ 6) →
        chunks.length ≤ parts.length) ∧
    chunkByJsonSize (fun item => item) ["1".toList, "2".toList, "3333".toList] 6 =
      ⟨[["1".toList, "2".toList], ["3333".toList]], none⟩ ∧
    chunkByJsonSize (fun item => item) ["1".toList, "2".toList, "3333".toList] 5 =
      ⟨[], some (.valueError "Got item of size 4 which is not less than 5 - 2 bytes".toList)⟩ :=
  ⟨(chunkByJsonSize_minimal (fun item => item) _ 6 (by decide)).1 (by decide), by decide, by decide⟩

end GpuTelemetry
