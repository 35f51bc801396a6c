import Mathlib.Data.List.Basic
import Mathlib.Data.List.DropRight
import Mathlib.Data.List.TakeWhile
import Mathlib.Tactic.Ring
import Mathlib.Tactic.Linarith

/-! Text as a list of characters, and decimal numerals over it. Nothing here
mentions a particular program. -/

namespace GpuTelemetry

abbrev Str := List Char

/-- What holds of every character of a text is decided along the text, not over
all characters there are. -/
instance decidableForallMem (s : Str) (p : Char → Prop) [DecidablePred p] : Decidable (∀ c ∈ s, p c) :=
  List.decidableBAll p s

/-- Whether a text is in a list of texts. -/
instance decidableMemTexts (s : Str) (texts : List Str) : Decidable (s ∈ texts) :=
  List.instDecidableMemOfLawfulBEq s texts

/-- The number a string of ASCII digits denotes. -/
def intOfDigits (s : Str) : Nat := Nat.ofDigitChars 10 s 0

/-- The decimal numeral of a number, without leading zeroes. -/
def decimal (n : Nat) : Str := Nat.toDigits 10 n

/-- `str` of an integer. -/
def intText (n : Int) : Str := if n < 0 then '-' :: decimal n.natAbs else decimal n.natAbs

/-- Pad a numeral with zeroes on the left up to a width. -/
def zfill (width : Nat) (s : Str) : Str := List.replicate (width - s.length) '0' ++ s

@[simp] theorem intOfDigits_nil : intOfDigits [] = 0 := rfl

theorem intOfDigits_cons (c : Char) (s : Str) :
    intOfDigits (c :: s) = 10 ^ s.length * (c.toNat - 48) + intOfDigits s := by
  simp only [intOfDigits, Nat.ofDigitChars_cons]
  rw [Nat.ofDigitChars_eq_ofDigitChars_zero]
  simp

@[simp] theorem intOfDigits_zeroes_append (n : Nat) (s : Str) :
    intOfDigits (List.replicate n '0' ++ s) = intOfDigits s := by
  simp [intOfDigits, Nat.ofDigitChars_append]

@[simp] theorem intOfDigits_decimal (n : Nat) : intOfDigits (decimal n) = n :=
  Nat.ofDigitChars_ten_toDigits

theorem decimal_injective : Function.Injective decimal := by
  intro n m same
  rw [← intOfDigits_decimal n, same, intOfDigits_decimal]

theorem decimal_isDigit {n : Nat} {c : Char} (member : c ∈ decimal n) : c.isDigit = true :=
  Nat.isDigit_of_mem_toDigits (by decide) (by decide) member

theorem decimal_ne_nil (n : Nat) : decimal n ≠ [] := Nat.toDigits_ne_nil

theorem not_mem_decimal {c : Char} (notDigit : c.isDigit = false) (n : Nat) : c ∉ decimal n := by
  intro member
  rw [decimal_isDigit member] at notDigit
  cases notDigit

theorem isDigit_value {c : Char} (digit : c.isDigit = true) : 48 ≤ c.toNat ∧ c.toNat ≤ 57 := by
  simp only [Char.isDigit, Bool.and_eq_true, decide_eq_true_eq, ge_iff_le] at digit
  exact ⟨digit.1, digit.2⟩

theorem intOfDigits_lt {s : Str} (digits : ∀ c ∈ s, c.isDigit = true) : intOfDigits s < 10 ^ s.length := by
  induction s with
  | nil => simp
  | cons c s ih =>
    have bounds := isDigit_value (digits c List.mem_cons_self)
    have later := ih fun d member => digits d (List.mem_cons_of_mem c member)
    have first : 10 ^ s.length * (c.toNat - 48) ≤ 10 ^ s.length * 9 := Nat.mul_le_mul_left _ (by omega)
    rw [intOfDigits_cons, List.length_cons, Nat.pow_succ]
    omega

/-- Two numerals of one length and one value are the same. -/
theorem digits_ext {s t : Str} (digits : ∀ c ∈ s, c.isDigit = true) (digits' : ∀ c ∈ t, c.isDigit = true)
    (length : s.length = t.length) (value : intOfDigits s = intOfDigits t) : s = t := by
  induction s generalizing t with
  | nil => exact (List.length_eq_zero_iff.mp length.symm).symm
  | cons c s ih =>
    cases t with
    | nil => simp at length
    | cons d t =>
      have lengths : s.length = t.length := by simpa using length
      have low := intOfDigits_lt fun e member => digits e (List.mem_cons_of_mem c member)
      have low' := intOfDigits_lt fun e member => digits' e (List.mem_cons_of_mem d member)
      have bounds := isDigit_value (digits c List.mem_cons_self)
      have bounds' := isDigit_value (digits' d List.mem_cons_self)
      rw [intOfDigits_cons, intOfDigits_cons, lengths] at value
      rw [lengths] at low
      have quotient := congrArg (· / 10 ^ t.length) value
      simp only [Nat.mul_add_div (Nat.pow_pos (Nat.succ_pos 9)), Nat.div_eq_of_lt low, Nat.div_eq_of_lt low',
        Nat.add_zero] at quotient
      have first : c = d := Char.toNat_inj.mp (by omega)
      have rest := ih (fun e member => digits e (List.mem_cons_of_mem c member))
        (fun e member => digits' e (List.mem_cons_of_mem d member)) lengths (by rw [quotient] at value; omega)
      rw [first, rest]

theorem zfill_isDigits (width n : Nat) : ∀ c ∈ zfill width (decimal n), c.isDigit = true := by
  intro c member
  rcases List.mem_append.mp member with inZeroes | inDecimal
  · rw [List.eq_of_mem_replicate inZeroes]
    rfl
  · exact decimal_isDigit inDecimal

theorem length_zfill (width : Nat) (s : Str) : (zfill width s).length = max width s.length := by
  rw [zfill, List.length_append, List.length_replicate]
  omega

/-- A numeral is another one padded exactly when it has the padded length. -/
theorem eq_zfill_iff {s : Str} (digits : ∀ c ∈ s, c.isDigit = true) {width n : Nat} (value : intOfDigits s = n) :
    s = zfill width (decimal n) ↔ s.length = max width (decimal n).length := by
  constructor
  · rintro same
    rw [same, length_zfill]
  · intro length
    refine digits_ext digits (zfill_isDigits width n) (by rw [length, length_zfill]) ?_
    rw [value, zfill, intOfDigits_zeroes_append, intOfDigits_decimal]

/-- The letters and digits by their codes. -/
theorem isAlphanum_codes (c : Char) : c.isAlphanum =
    (decide (c.val ≥ 65 ∧ c.val ≤ 90) || (c.val ≥ 97 && c.val ≤ 122) || (c.val ≥ 48 && c.val ≤ 57)) := rfl

theorem isAlphanum_range {c : Char} (alphanum : c.isAlphanum = true) : 48 ≤ c.toNat ∧ c.toNat < 128 := by
  simp only [isAlphanum_codes, Bool.or_eq_true, Bool.and_eq_true, decide_eq_true_eq] at alphanum
  rcases alphanum with (⟨lower, upper⟩ | ⟨lower, upper⟩) | ⟨lower, upper⟩ <;>
  · have above := UInt32.le_iff_toNat_le.mp lower
    have below := UInt32.le_iff_toNat_le.mp upper
    exact ⟨le_trans (by decide) above, lt_of_le_of_lt below (by decide)⟩

/-- The value of the first digit of the numeral of a number. -/
def leadingDigit (n : Nat) : Nat := intOfDigits ((decimal n).take 1)

/-- The leading digit of a numeral never exceeds the number, and reaches it
exactly when there is no further digit. -/
theorem leadingDigit_le_and_eq_iff (n : Nat) : leadingDigit n ≤ n ∧ (leadingDigit n = n ↔ n < 10) := by
  obtain ⟨c, rest, split⟩ := List.exists_cons_of_ne_nil (decimal_ne_nil n)
  have lead : leadingDigit n = c.toNat - 48 := by
    simp [leadingDigit, split, intOfDigits_cons]
  rw [lead]
  have value : n = 10 ^ rest.length * (c.toNat - 48) + intOfDigits rest := by
    rw [← intOfDigits_cons, ← split, intOfDigits_decimal]
  have digit : c.toNat - 48 < 10 := by
    have bounds := isDigit_value (decimal_isDigit (n := n) (c := c) (by simp [split]))
    omega
  have positive : 1 ≤ 10 ^ rest.length := Nat.one_le_pow _ _ (by decide)
  have lower : c.toNat - 48 ≤ 10 ^ rest.length * (c.toNat - 48) := Nat.le_mul_of_pos_left _ positive
  refine ⟨by omega, ⟨by omega, ?_⟩⟩
  intro small
  have short : (decimal n).length ≤ 1 := (Nat.length_toDigits_le_iff (by decide) (by decide)).mpr (by simpa using small)
  have empty : rest = [] := by
    rw [split] at short
    simpa using short
  subst empty
  simpa using value.symm

theorem leadingDigit_le (n : Nat) : leadingDigit n ≤ n := (leadingDigit_le_and_eq_iff n).1

theorem leadingDigit_eq_iff {n : Nat} : leadingDigit n = n ↔ n < 10 := (leadingDigit_le_and_eq_iff n).2

/-- `str.removeprefix`. -/
def removePrefix (s pre : Str) : Str := if pre.isPrefixOf s then s.drop pre.length else s

@[simp] theorem removePrefix_append (pre s : Str) : removePrefix (pre ++ s) pre = s := by
  simp [removePrefix, List.isPrefixOf_iff_prefix]

/-- `str.isspace` on one character. -/
def isSpace (c : Char) : Bool :=
  [0x9, 0xA, 0xB, 0xC, 0xD, 0x1C, 0x1D, 0x1E, 0x1F, 0x20, 0x85, 0xA0, 0x1680, 0x2000, 0x2001, 0x2002,
    0x2003, 0x2004, 0x2005, 0x2006, 0x2007, 0x2008, 0x2009, 0x200A, 0x2028, 0x2029, 0x202F, 0x205F,
    0x3000].contains c.toNat

/-- `str.strip`. -/
def strip (s : Str) : Str := (s.dropWhile isSpace).rdropWhile isSpace

/-- Nothing is trimmed of a text without the characters that go. -/
theorem trim_of_solid {p : Char → Bool} {s : Str} (solid : ∀ c ∈ s, p c = false) :
    (s.dropWhile p).rdropWhile p = s := by
  have left : s.dropWhile p = s := by
    rw [List.dropWhile_eq_self_iff]
    intro bound
    simp [solid _ (List.getElem_mem bound)]
  rw [left, List.rdropWhile_eq_self_iff]
  intro nonempty
  simp [solid _ (List.getLast_mem nonempty)]

theorem strip_of_no_space {s : Str} (solid : ∀ c ∈ s, isSpace c = false) : strip s = s := trim_of_solid solid

/-- Nothing is stripped where both ends are no white space. -/
theorem strip_of_ends {s : Str} (head : ∀ c ∈ s.head?, isSpace c = false)
    (last : ∀ c ∈ s.getLast?, isSpace c = false) : strip s = s := by
  have left : s.dropWhile isSpace = s := by
    cases s with
    | nil => rfl
    | cons c s => exact List.dropWhile_cons_of_neg (by simp [head c rfl])
  rw [strip, left, List.rdropWhile_eq_self_iff]
  intro nonempty
  simp [last _ (List.getLast?_eq_some_getLast nonempty)]

theorem strip_subset (s : Str) : strip s ⊆ s :=
  List.Subset.trans (List.rdropWhile_prefix _ _).subset (List.dropWhile_sublist _).subset

/-- Where a maximal run of characters of one kind ends. -/
theorem takeWhile_run {p : Char → Bool} {run : Str} (rest : Str) (within : ∀ c ∈ run, p c = true)
    (ends : ∀ c ∈ rest.head?, p c = false) :
    (run ++ rest).takeWhile p = run ∧ (run ++ rest).dropWhile p = rest := by
  rw [List.takeWhile_append_of_pos within, List.dropWhile_append_of_pos within]
  cases rest with
  | nil => simp
  | cons c rest => simp [ends c (by simp)]

theorem takeWhile_run_cons {p : Char → Bool} {run : Str} (c : Char) (rest : Str) (within : ∀ d ∈ run, p d = true)
    (ends : p c = false) :
    (run ++ c :: rest).takeWhile p = run ∧ (run ++ c :: rest).dropWhile p = c :: rest :=
  takeWhile_run (c :: rest) within (by simpa using ends)

theorem split_run (p : Char → Bool) (s : Str) :
    s = s.takeWhile p ++ s.dropWhile p ∧ (∀ c ∈ s.takeWhile p, p c = true) ∧
      ∀ c ∈ (s.dropWhile p).head?, p c = false := by
  refine ⟨List.takeWhile_append_dropWhile.symm, fun c member => List.mem_takeWhile_imp member, ?_⟩
  intro c atHead
  have stopped := List.head?_dropWhile_not p s
  rw [Option.mem_def.mp atHead] at stopped
  simpa using stopped

theorem not_mem_of_append_left {c : Char} {a b : Str} (absent : c ∉ a ++ b) : c ∉ a :=
  fun member => absent (List.mem_append_left b member)

theorem not_mem_of_append_right {c : Char} {a b : Str} (absent : c ∉ a ++ b) : c ∉ b :=
  fun member => absent (List.mem_append_right a member)

end GpuTelemetry
