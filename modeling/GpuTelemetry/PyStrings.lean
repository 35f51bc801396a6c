import GpuTelemetry.Exceptions

/-! Strings and integers as Python reads and writes them. -/

namespace GpuTelemetry

/-- The characters that end a line for `str.splitlines`. -/
def isLineBreak (c : Char) : Bool :=
  [0xA, 0xB, 0xC, 0xD, 0x1C, 0x1D, 0x1E, 0x85, 0x2028, 0x2029].contains c.toNat

/-- A carriage return with the newline after it is one end of a line. -/
def joinCrLf : Str → Str
  | [] => []
  | c :: s => if c = '\r' ∧ s.head? = some '\n' then joinCrLf s else c :: joinCrLf s

/-- Without the last part, if that is empty. -/
def dropEmptyLast (parts : List Str) : List Str := if parts.getLast? = some [] then parts.dropLast else parts

/-- `str.splitlines`. -/
def splitlines (s : Str) : List Str := dropEmptyLast ((joinCrLf s).splitOnP isLineBreak)

theorem isLineBreak_isSpace {c : Char} (ends : isLineBreak c = true) : isSpace c = true := by
  have within : ∀ code ∈ [0xA, 0xB, 0xC, 0xD, 0x1C, 0x1D, 0x1E, 0x85, 0x2028, 0x2029],
      [0x9, 0xA, 0xB, 0xC, 0xD, 0x1C, 0x1D, 0x1E, 0x1F, 0x20, 0x85, 0xA0, 0x1680, 0x2000, 0x2001, 0x2002, 0x2003,
        0x2004, 0x2005, 0x2006, 0x2007, 0x2008, 0x2009, 0x200A, 0x2028, 0x2029, 0x202F, 0x205F,
        0x3000].contains code = true := by decide
  exact within c.toNat (List.contains_iff_mem.mp ends)

/-- White space is outside of the printable ASCII characters. -/
theorem isSpace_code {c : Char} (space : isSpace c = true) : c.toNat ≤ 32 ∨ 133 ≤ c.toNat := by
  have codes : ∀ code ∈ [0x9, 0xA, 0xB, 0xC, 0xD, 0x1C, 0x1D, 0x1E, 0x1F, 0x20, 0x85, 0xA0, 0x1680, 0x2000, 0x2001,
      0x2002, 0x2003, 0x2004, 0x2005, 0x2006, 0x2007, 0x2008, 0x2009, 0x200A, 0x2028, 0x2029, 0x202F, 0x205F,
      0x3000], code ≤ 32 ∨ 133 ≤ code := by decide
  exact codes c.toNat (List.contains_iff_mem.mp space)

theorem not_isLineBreak {c : Char} (solid : isSpace c = false) : isLineBreak c = false := by
  by_contra ends
  rw [isLineBreak_isSpace (by simpa using ends)] at solid
  cases solid

theorem joinCrLf_subset (s : Str) : joinCrLf s ⊆ s := by
  induction s with
  | nil => exact List.Subset.refl _
  | cons c s ih =>
    rw [joinCrLf]
    split
    · exact fun d member => List.mem_cons_of_mem _ (ih member)
    · exact List.cons_subset_cons c ih

theorem joinCrLf_eq {s : Str} (noReturn : '\r' ∉ s) : joinCrLf s = s := by
  induction s with
  | nil => rfl
  | cons c s ih =>
    obtain ⟨notHere, notLater⟩ := not_or.mp (mt List.mem_cons.mpr noReturn)
    rw [joinCrLf, if_neg fun isReturn => notHere isReturn.1.symm, ih notLater]

theorem mem_of_mem_splitOnP {p : Char → Bool} {s part : Str} (member : part ∈ s.splitOnP p) :
    ∀ c ∈ part, c ∈ s ∧ p c = false := by
  induction s generalizing part with
  | nil =>
    rw [List.splitOnP_nil, List.mem_singleton] at member
    simp [member]
  | cons d s ih =>
    rw [List.splitOnP_cons_eq_if_modifyHead] at member
    by_cases separator : p d = true
    · rw [if_pos separator] at member
      rcases List.mem_cons.mp member with rfl | later
      · simp
      · exact fun c inPart => ⟨List.mem_cons_of_mem _ (ih later c inPart).1, (ih later c inPart).2⟩
    · rw [if_neg separator] at member
      cases parts : s.splitOnP p with
      | nil => exact absurd parts (List.splitOnP_ne_nil p s)
      | cons first rest =>
        rw [parts] at member ih
        rcases List.mem_cons.mp member with rfl | later
        · intro c inPart
          rcases List.mem_cons.mp inPart with rfl | inFirst
          · exact ⟨List.mem_cons_self, by simpa using separator⟩
          · have known := ih List.mem_cons_self c inFirst
            exact ⟨List.mem_cons_of_mem _ known.1, known.2⟩
        · intro c inPart
          have known := ih (List.mem_cons_of_mem _ later) c inPart
          exact ⟨List.mem_cons_of_mem _ known.1, known.2⟩

theorem dropEmptyLast_subset (parts : List Str) : dropEmptyLast parts ⊆ parts := by
  unfold dropEmptyLast
  split
  · exact List.dropLast_subset parts
  · exact List.Subset.refl _

/-- The lines hold characters of the text, and no end of a line. -/
theorem mem_of_mem_splitlines {s line : Str} (member : line ∈ splitlines s) :
    ∀ c ∈ line, c ∈ s ∧ isLineBreak c = false := by
  intro c inLine
  have known := mem_of_mem_splitOnP (dropEmptyLast_subset _ member) c inLine
  exact ⟨joinCrLf_subset s known.1, known.2⟩

/-- Lines that each end with the same character are cut at these ends. -/
theorem splitOnP_lines {p : Char → Bool} {stop : Char} (ends : p stop = true) {lines : List Str}
    (unbroken : ∀ line ∈ lines, ∀ c ∈ line, p c = false) :
    (lines.flatMap fun line => line ++ [stop]).splitOnP p = lines ++ [[]] := by
  induction lines with
  | nil => exact List.splitOnP_nil ..
  | cons line lines ih =>
    have whole : ((line :: lines).flatMap fun line => line ++ [stop]) =
        line ++ stop :: lines.flatMap fun line => line ++ [stop] := by
      rw [List.flatMap_cons, List.append_assoc]
      rfl
    rw [whole, List.splitOnP_append_cons_of_forall_mem (unbroken line List.mem_cons_self) stop ends,
      ih fun line inLines => unbroken line (List.mem_cons_of_mem _ inLines)]
    rfl

theorem dropEmptyLast_append (lines : List Str) : dropEmptyLast (lines ++ [[]]) = lines := by
  rw [dropEmptyLast, List.getLast?_append]
  simp

/-- The lines of a text that ends each of them with a newline. -/
theorem splitlines_lines {lines : List Str} (unbroken : ∀ line ∈ lines, ∀ c ∈ line, isLineBreak c = false) :
    splitlines (lines.flatMap fun line => line ++ "\n".toList) = lines := by
  have noReturn : '\r' ∉ lines.flatMap fun line => line ++ "\n".toList := by
    intro member
    obtain ⟨line, inLines, inLine⟩ := List.mem_flatMap.mp member
    rcases List.mem_append.mp inLine with inside | atEnd
    · exact absurd (unbroken line inLines _ inside) (by decide)
    · exact absurd atEnd (by decide)
  rw [splitlines, joinCrLf_eq noReturn]
  exact (congrArg dropEmptyLast (splitOnP_lines (by decide) unbroken)).trans (dropEmptyLast_append lines)

/-- `str.split` at white space. -/
def splitWords (s : Str) : List Str := (s.splitOnP isSpace).filter fun word => word ≠ []

/-- `in` on strings. -/
def occursIn {α : Type} [DecidableEq α] (part : List α) : List α → Bool
  | [] => part.isEmpty
  | c :: s => part.isPrefixOf (c :: s) || occursIn part s

theorem occursIn_middle {α : Type} [DecidableEq α] {part : List α} (nonempty : part ≠ []) (before after : List α) :
    occursIn part (before ++ (part ++ after)) = true := by
  induction before with
  | nil =>
    cases part with
    | nil => exact absurd rfl nonempty
    | cons c part => simp [occursIn]
  | cons c before ih => rw [List.cons_append, occursIn, ih, Bool.or_true]

/-- What depends on the Unicode tables and on the interpreter: the value of the
decimal digits that are not ASCII, and the number of digits up to which
integers are read and written as text, if there is such a limit. -/
structure Interpreter where
  otherDigit : Char → Option Nat
  maxStrDigits : Option Nat
  maxStrDigits_le : ∀ limit ∈ maxStrDigits, 640 ≤ limit

variable (py : Interpreter)

def Interpreter.digitValue (c : Char) : Option Nat :=
  if c.isDigit then some (c.toNat - 48) else if c.toNat < 128 then none else py.otherDigit c

/-- There are too many digits for a conversion. -/
def Interpreter.exceeds (digits : Nat) : Bool := py.maxStrDigits.any fun limit => limit < digits

/-- The digits of a numeral, where one underscore may stand between two digits. -/
def numeralDigits : Bool → Str → Option (List Nat)
  | afterDigit, [] => if afterDigit then some [] else none
  | afterDigit, c :: s =>
    if c = '_' then if afterDigit then numeralDigits false s else none
    else
      match py.digitValue c with
      | none => none
      | some digit => (numeralDigits true s).map (digit :: ·)

/-- `int` on a word without white space; nothing where it raises a `ValueError`. -/
def pyIntOfWord (word : Str) : Option Int :=
  let (negative, numeral) := match word with
    | '-' :: rest => (true, rest)
    | '+' :: rest => (false, rest)
    | _ => (false, word)
  match numeralDigits py false numeral with
  | none => none
  | some digits =>
    if py.exceeds digits.length then none
    else
      let value : Int := digits.foldl (fun n digit => 10 * n + digit) 0
      some (if negative then -value else value)

/-- The text of an integer can be made. -/
def Printable (n : Int) : Prop := py.exceeds (decimal n.natAbs).length = false

instance (n : Int) : Decidable (Printable py n) := inferInstanceAs (Decidable (_ = _))

/-- An integer in an f-string. -/
def formatInt (n : Int) : Except PyError Str :=
  if py.exceeds (decimal n.natAbs).length then
    .error (.valueError "Exceeds the limit for integer string conversion".toList)
  else .ok (intText n)

theorem formatInt_eq {n : Int} (printable : Printable py n) : formatInt py n = .ok (intText n) :=
  if_neg (by rw [printable]; exact Bool.false_ne_true)

theorem formatInt_error {n : Int} (long : ¬ Printable py n) :
    formatInt py n = .error (.valueError "Exceeds the limit for integer string conversion".toList) :=
  if_pos (by simpa [Printable] using long)

/-- Short numbers can always be printed. -/
theorem printable_of_lt {n : Int} (short : n.natAbs < 10 ^ 20) : Printable py n := by
  unfold Printable Interpreter.exceeds
  cases limited : py.maxStrDigits with
  | none => rfl
  | some limit =>
    have atLeast := py.maxStrDigits_le limit limited
    have few : (decimal n.natAbs).length ≤ 20 := (Nat.length_toDigits_le_iff (by decide) (by decide)).mpr short
    simp only [Option.any_some, decide_eq_false_iff_not, not_lt]
    exact few.trans (le_trans (by decide) atLeast)

theorem numeralDigits_of_digits {s : Str} (digits : ∀ c ∈ s, c.isDigit = true) {afterDigit : Bool}
    (some_digit : s ≠ [] ∨ afterDigit = true) :
    numeralDigits py afterDigit s = some (s.map fun c => c.toNat - 48) := by
  induction s generalizing afterDigit with
  | nil => rw [numeralDigits, if_pos (some_digit.resolve_left fun none => none rfl), List.map_nil]
  | cons c s ih =>
    obtain ⟨here, later⟩ := List.forall_mem_cons.mp digits
    have notUnderscore : c ≠ '_' := by
      rintro rfl
      exact absurd here (by decide)
    rw [numeralDigits, if_neg notUnderscore, Interpreter.digitValue, if_pos here]
    simp only [ih later (.inr rfl), Option.map_some, List.map_cons]

theorem foldl_digits (s : Str) (n : Nat) :
    List.foldl (fun (n : Int) digit => 10 * n + digit) (n : Int) (s.map fun c => ((c.toNat - 48 : Nat) : Int)) =
      (Nat.ofDigitChars 10 s n : Nat) := by
  induction s generalizing n with
  | nil => rfl
  | cons c s ih =>
    have step : (10 * (n : Int) + (c.toNat - 48 : Nat)) = ((10 * n + (c.toNat - 48) : Nat) : Int) := by simp
    rw [List.map_cons, List.foldl_cons, step, ih, Nat.ofDigitChars_cons]
    rfl

/-- The numerals that can be made are those that are read. -/
theorem pyIntOfWord_decimal (n : Nat) :
    pyIntOfWord py (decimal n) = if Printable py n then some (n : Int) else none := by
  have digits : ∀ c ∈ decimal n, c.isDigit = true := fun c member => decimal_isDigit member
  have numeral := @numeralDigits_of_digits py _ digits false (.inl (decimal_ne_nil n))
  have value := foldl_digits (decimal n) 0
  rw [← intOfDigits, intOfDigits_decimal] at value
  have unsigned : pyIntOfWord py (decimal n) =
      match numeralDigits py false (decimal n) with
      | none => none
      | some digits =>
        if py.exceeds digits.length then none
        else some ((digits.map fun (digit : Nat) => (digit : Int)).foldl (fun n digit => 10 * n + digit) 0) := by
    unfold pyIntOfWord
    split
    rename_i negative numeral sign
    split at sign
    · rename_i rest shape
      exact absurd (digits '-' (by rw [shape]; exact List.mem_cons_self)) (by decide)
    · rename_i rest shape
      exact absurd (digits '+' (by rw [shape]; exact List.mem_cons_self)) (by decide)
    · obtain ⟨rfl, rfl⟩ := Prod.mk.inj sign
      cases numeralDigits py false (decimal n) with
      | none => rfl
      | some digits =>
        have cast : (do let digit ← digits; pure (digit : Int)) = digits.map fun (digit : Nat) => (digit : Int) :=
          List.map_eq_flatMap.symm
        exact congrArg (fun values : List Int => if py.exceeds digits.length then none
          else some (values.foldl (fun n digit => 10 * n + digit) 0)) cast
  rw [unsigned, numeral]
  simp only [List.length_map, List.map_map]
  by_cases printable : Printable py n
  · have short : py.exceeds (decimal n).length = false := printable
    rw [short, if_pos printable, if_neg Bool.false_ne_true]
    exact congrArg some value
  · have long : py.exceeds (decimal n).length = true := by simpa [Printable] using printable
    rw [long, if_neg printable, if_pos rfl]

end GpuTelemetry
