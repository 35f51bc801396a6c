import GpuTelemetry.Text

/-! UTF-8 over texts: bytes are written as characters below 256. Nothing here
mentions a particular program. -/

namespace GpuTelemetry

/-- The character with the number of a byte. -/
def byteChar (b : UInt8) : Char := Char.ofNat b.toNat

/-- The byte with the number of a character below 256. -/
def charByte (c : Char) : UInt8 := UInt8.ofNat c.toNat

/-- The bytes of a text in UTF-8. -/
def utf8Text (s : Str) : Str := s.flatMap fun c => (String.utf8EncodeChar c).map byteChar

/-- The text that bytes are in UTF-8, if they are one. -/
def utf8Decode (bytes : Str) : Option Str := (bytes.map charByte).toByteArray.utf8Decode?.map Array.toList

@[simp] theorem utf8Text_nil : utf8Text [] = [] := rfl

@[simp] theorem utf8Text_cons (c : Char) (s : Str) :
    utf8Text (c :: s) = (String.utf8EncodeChar c).map byteChar ++ utf8Text s := rfl

@[simp] theorem utf8Text_append (s t : Str) : utf8Text (s ++ t) = utf8Text s ++ utf8Text t :=
  List.flatMap_append

theorem toNat_byteChar (b : UInt8) : (byteChar b).toNat = b.toNat := by
  have small : b.toNat < 256 := b.toNat_lt
  have valid : b.toNat.isValidChar := .inl (by omega)
  rewrite [byteChar, Char.ofNat, dif_pos valid]
  rfl

theorem charByte_byteChar (b : UInt8) : charByte (byteChar b) = b := by
  rw [charByte, toNat_byteChar, UInt8.ofNat_toNat]

theorem byteChar_charByte {c : Char} (small : c.toNat < 256) : byteChar (charByte c) = c := by
  have number : (charByte c).toNat = c.toNat := by
    rw [charByte, UInt8.toNat_ofNat']
    omega
  rw [byteChar, number, Char.ofNat_toNat]

/-- Below 128 a character is its one byte. -/
theorem utf8EncodeChar_ascii {c : Char} (ascii : c.toNat < 128) : (String.utf8EncodeChar c).map byteChar = [c] := by
  have first : c.val.toNat ≤ 0x7f := by
    have same : c.val.toNat = c.toNat := rfl
    omega
  rw [String.utf8EncodeChar, if_pos first]
  exact congrArg (· :: []) (byteChar_charByte (by omega))

/-- From 128 on all its bytes are at least 128. -/
theorem utf8EncodeChar_high {c : Char} (high : 128 ≤ c.toNat) :
    ∀ d ∈ (String.utf8EncodeChar c).map byteChar, 128 ≤ d.toNat := by
  have same : c.val.toNat = c.toNat := rfl
  have byte : ∀ n, 128 ≤ n → n < 256 → 128 ≤ (byteChar (UInt8.ofNat n)).toNat := by
    intro n low up
    rw [toNat_byteChar, UInt8.toNat_ofNat']
    omega
  rw [String.utf8EncodeChar, if_neg (by omega)]
  split
  · simp only [List.map_cons, List.map_nil, List.forall_mem_cons]
    exact ⟨byte _ (by omega) (by omega), byte _ (by omega) (by omega), by simp⟩
  · split
    · simp only [List.map_cons, List.map_nil, List.forall_mem_cons]
      exact ⟨byte _ (by omega) (by omega), byte _ (by omega) (by omega), byte _ (by omega) (by omega), by simp⟩
    · simp only [List.map_cons, List.map_nil, List.forall_mem_cons]
      exact ⟨byte _ (by omega) (by omega), byte _ (by omega) (by omega), byte _ (by omega) (by omega),
        byte _ (by omega) (by omega), by simp⟩

theorem map_charByte_utf8Text (s : Str) : (utf8Text s).map charByte = s.flatMap String.utf8EncodeChar := by
  rw [utf8Text, List.map_flatMap]
  refine List.flatMap_congr fun c _ => ?_
  rw [List.map_map]
  exact (List.map_congr_left fun b _ => charByte_byteChar b).trans (List.map_id _)

theorem utf8Decode_utf8Text (s : Str) : utf8Decode (utf8Text s) = some s := by
  have encoded : ((utf8Text s).map charByte).toByteArray = s.utf8Encode := by
    rw [map_charByte_utf8Text, List.utf8Encode]
  rw [utf8Decode, encoded, List.utf8Decode?_utf8Encode]
  rfl

theorem utf8Text_injective : Function.Injective utf8Text := by
  intro s t same
  have decoded := congrArg utf8Decode same
  rw [utf8Decode_utf8Text, utf8Decode_utf8Text] at decoded
  exact Option.some.inj decoded

/-- Bytes are decoded to the one text whose UTF-8 they are. -/
theorem utf8Decode_eq_some_iff {bytes text : Str} (small : ∀ c ∈ bytes, c.toNat < 256) :
    utf8Decode bytes = some text ↔ utf8Text text = bytes := by
  constructor
  · intro decoded
    obtain ⟨chars, found, rfl⟩ := Option.map_eq_some_iff.mp decoded
    obtain ⟨m, isText⟩ := ByteArray.isSome_utf8Decode?_iff.mp (Option.isSome_iff_exists.mpr ⟨chars, found⟩)
    have same : chars.toList = m := by
      rw [isText, List.utf8Decode?_utf8Encode] at found
      rw [← Option.some.inj found]
    rw [same]
    have bytesEq : (utf8Text m).map charByte = bytes.map charByte := by
      rw [map_charByte_utf8Text]
      have arrays := congrArg ByteArray.data isText
      rw [List.utf8Encode, List.data_toByteArray, List.data_toByteArray] at arrays
      exact (List.toArray_inj arrays).symm
    have back : ∀ s : Str, (∀ c ∈ s, c.toNat < 256) → (s.map charByte).map byteChar = s := by
      intro s inRange
      rw [List.map_map]
      exact (List.map_congr_left fun c member => byteChar_charByte (inRange c member)).trans (List.map_id _)
    rw [← back bytes small, ← bytesEq, back]
    intro c member
    obtain ⟨d, -, inBytes⟩ := List.mem_flatMap.mp member
    obtain ⟨b, -, rfl⟩ := List.mem_map.mp inBytes
    rw [toNat_byteChar]
    exact b.toNat_lt
  · rintro rfl
    exact utf8Decode_utf8Text text

theorem mem_utf8Text_iff {c : Char} (ascii : c.toNat < 128) (s : Str) : c ∈ utf8Text s ↔ c ∈ s := by
  induction s with
  | nil => rfl
  | cons d s ih =>
    rw [utf8Text_cons, List.mem_append, ih, List.mem_cons]
    refine or_congr_left ?_
    by_cases low : d.toNat < 128
    · rw [utf8EncodeChar_ascii low, List.mem_singleton]
    · refine iff_of_false (fun member => ?_) (fun same => low (same ▸ ascii))
      have high := utf8EncodeChar_high (by omega) c member
      omega

/-- Splitting at an ASCII character commutes with the encoding. -/
theorem splitOn_utf8Text {c : Char} (ascii : c.toNat < 128) (s : Str) :
    (utf8Text s).splitOn c = (s.splitOn c).map utf8Text := by
  by_cases member : c ∈ s
  · obtain ⟨before, after, whole, absent⟩ := List.eq_append_cons_of_mem member
    have absent' : c ∉ utf8Text before := fun inside => absent ((mem_utf8Text_iff ascii before).mp inside)
    have shorter : after.length < s.length := by
      rw [whole, List.length_append, List.length_cons]
      omega
    rw [whole, utf8Text_append, utf8Text_cons, utf8EncodeChar_ascii ascii, List.singleton_append,
      List.splitOn_append_cons_self_of_not_mem absent', List.splitOn_append_cons_self_of_not_mem absent,
      splitOn_utf8Text ascii after, List.map_cons]
  · have absent' : c ∉ utf8Text s := fun inside => member ((mem_utf8Text_iff ascii s).mp inside)
    rw [List.splitOn_eq_singleton member, List.splitOn_eq_singleton absent']
    rfl
termination_by s.length

end GpuTelemetry
