import GpuTelemetry.Combinators
import Mathlib.Data.List.Induction

namespace GpuTelemetry

/-- `string.ascii_letters` and `string.digits`. -/
def asciiLetters : Str := "abcdefghijklmnopqrstuvwxyzABCDEFGHIJKLMNOPQRSTUVWXYZ".toList
def digits : Str := "0123456789".toList

/-- `int` on a string of ASCII digits, the only strings it is given here. -/
def pyInt (s : Str) : Except PyError Nat :=
  if s ≠ [] ∧ s.all Char.isDigit then .ok (intOfDigits s)
  else .error (.valueError ("invalid literal for int() with base 10: '".toList ++ s ++ "'".toList))

/-- The parser built inside `parse_gres`. The GPU type is anything made of
letters and digits that a colon follows. -/
def gresParser : Parser Str :=
  chain
    (discardResult
      (chain (beginsWith "gpu:".toList)
        [atLeastZero (chain (atLeastOne (oneOf (asciiLetters ++ digits))) [beginsWith ":".toList])]))
    [atLeastOne (oneOf digits)]

def parseGres (v : Str) : Except PyError Nat :=
  if v = "N/A".toList ∨ v = "(null)".toList then .ok 0
  else
    let v := removePrefix (removePrefix v "gres:".toList) "gres/".toList
    match gresParser v with
    | .error e => .error e
    | .ok (none, _) => .error (.valueError ("Failed to parse ".toList ++ v))
    | .ok (some [], _) =>
      .error (.valueError "not enough values to unpack (expected at least 1, got 0)".toList)
    | .ok (some (parsed :: _), _) => pyInt parsed

/-- The regular expression `gpu:([0-9]+)` of `parse_tres`, as a match at the start. -/
def matchGpuCount (v : Str) : Option Str :=
  if "gpu:".toList.isPrefixOf v then
    match (v.drop 4).takeWhile Char.isDigit with
    | [] => none
    | c :: run => some (c :: run)
  else none

def parseTres (v : Str) : Except PyError Nat :=
  if v = "N/A".toList ∨ v = "(null)".toList then .ok 0
  else
    let v := removePrefix (removePrefix v "gres:".toList) "gres/".toList
    match matchGpuCount v with
    | none => .error (.valueError ("Failed to parse '".toList ++ v ++ "'".toList))
    | some count => pyInt count

/-- The decorator `log_error` turns every exception into the count 0. -/
def parseGresOrTres (v : Str) : Nat :=
  match parseGres v with
  | .ok n => n
  | .error (.valueError _) =>
    match parseTres v with
    | .ok n => n
    | .error _ => 0
  | .error _ => 0

def extractGpusFromGres (gresString : Str) : Except PyError Nat :=
  (gresString.splitOn ',').foldlM (fun gpus gres =>
    if "gpu:".toList.isPrefixOf gres then parseGres gres else .ok gpus) 0

/-- A GPU type as Slurm prints it: letters and digits only. -/
structure GpuType where
  chars : Str
  nonempty : chars ≠ []
  alphanumeric : ∀ c ∈ chars, c ∈ asciiLetters ++ digits

inductive GresPrefix
  | absent
  | colon
  | slash
  deriving DecidableEq

def GresPrefix.text : GresPrefix → Str
  | .absent => []
  | .colon => "gres:".toList
  | .slash => "gres/".toList

/-- One GPU entry of a GRES string. What trails the count is nothing, or any
text from an opening parenthesis on. -/
structure GpuEntry where
  pre : GresPrefix
  gpuType : Option GpuType
  count : Nat
  trailing : Str
  parenthesised : ∀ c ∈ trailing.head?, c = '('

def GpuEntry.typeText (e : GpuEntry) : Str :=
  match e.gpuType with
  | none => []
  | some t => t.chars ++ ":".toList

def GpuEntry.text (e : GpuEntry) : Str :=
  e.pre.text ++ ("gpu:".toList ++ (e.typeText ++ (decimal e.count ++ e.trailing)))

theorem mem_digits_iff {c : Char} : c ∈ digits ↔ c.isDigit = true := by
  constructor
  · have all : ∀ d ∈ digits, d.isDigit = true := by decide
    exact all c
  · intro digit
    obtain ⟨lower, upper⟩ := isDigit_value digit
    have table : ∀ k : Fin 10, Char.ofNat (48 + k.val) ∈ digits := by decide
    have member := table ⟨c.toNat - 48, by omega⟩
    rwa [show 48 + (c.toNat - 48) = c.toNat by omega, Char.ofNat_toNat] at member

theorem colon_not_mem_alphanumeric : ':' ∉ asciiLetters ++ digits := by decide

theorem paren_not_mem_alphanumeric : '(' ∉ asciiLetters ++ digits := by decide

theorem GpuEntry.trailing_head (e : GpuEntry) : ∀ c ∈ e.trailing.head?, c ∉ asciiLetters ++ digits := by
  intro c atHead
  rw [e.parenthesised c atHead]
  exact paren_not_mem_alphanumeric

/-- The text of an entry without its prefix. -/
def GpuEntry.body (e : GpuEntry) : Str :=
  "gpu:".toList ++ (e.typeText ++ (decimal e.count ++ e.trailing))

theorem GpuEntry.removePrefix_text (e : GpuEntry) :
    removePrefix (removePrefix e.text "gres:".toList) "gres/".toList = e.body := by
  unfold GpuEntry.text
  cases e.pre with
  | absent => rfl
  | colon =>
    have noColon : removePrefix ("gres:".toList ++ e.body) "gres:".toList = e.body := removePrefix_append _ _
    exact (congrArg (removePrefix · _) noColon).trans rfl
  | slash =>
    have noColon : removePrefix ("gres/".toList ++ e.body) "gres:".toList = "gres/".toList ++ e.body := rfl
    exact (congrArg (removePrefix · _) noColon).trans (removePrefix_append _ _)

theorem GpuEntry.text_head (e : GpuEntry) : e.text.head? = some 'g' := by
  unfold GpuEntry.text
  cases e.pre <;> rfl

theorem GpuEntry.text_ne_unset (e : GpuEntry) : ¬(e.text = "N/A".toList ∨ e.text = "(null)".toList) := by
  have head := e.text_head
  intro unset
  rcases unset with same | same
  · rw [same] at head
    exact absurd head (by decide)
  · rw [same] at head
    exact absurd head (by decide)

abbrev typeSegment : Parser Str :=
  chain (atLeastOne (oneOf (asciiLetters ++ digits))) [beginsWith ":".toList]

theorem typeSegment_shortens : Shortens typeSegment := by
  refine chain_shortens (atLeastOne_shortens (oneOf_shortens _) fun s rest => oneOf_unchanged _ s rest) ?_
  intro p member
  rw [List.mem_singleton.mp member]
  exact (beginsWith_shortens (by decide)).noLonger

theorem typeSegment_type (t : GpuType) (rest : Str) :
    ∃ parsed, typeSegment (t.chars ++ (":".toList ++ rest)) = .ok (some parsed, rest) := by
  obtain ⟨c, run, chars⟩ := List.exists_cons_of_ne_nil t.nonempty
  have within := t.alphanumeric
  rw [chars] at within
  have ends : ∀ d ∈ (":".toList ++ rest).head?, d ∉ asciiLetters ++ digits := by
    intro d atHead
    have isColon : d = ':' := by simpa using atHead.symm
    rw [isColon]
    exact colon_not_mem_alphanumeric
  have first := atLeastOne_oneOf within ends
  rw [chars]
  refine ⟨[] ++ (c :: run).map (fun d => [d]) ++ [":".toList], ?_⟩
  rw [typeSegment, chain, chainLoop_step first, chainLoop_step (beginsWith_append _ _)]
  rfl

/-- The count itself is a run of letters and digits, but no colon follows it. -/
theorem typeSegment_count (e : GpuEntry) :
    typeSegment (decimal e.count ++ e.trailing) = .ok (none, decimal e.count ++ e.trailing) := by
  obtain ⟨c, run, numeral⟩ := List.exists_cons_of_ne_nil (decimal_ne_nil e.count)
  have within : ∀ d ∈ c :: run, d ∈ asciiLetters ++ digits := by
    intro d member
    rw [← numeral] at member
    exact List.mem_append_right _ (mem_digits_iff.mpr (decimal_isDigit member))
  have first := atLeastOne_oneOf within e.trailing_head
  have stopped : beginsWith ":".toList e.trailing = .ok (none, e.trailing) := by
    cases trailing : e.trailing with
    | nil => rfl
    | cons d rest =>
      have isParen := e.parenthesised d (by simp [trailing])
      rw [isParen]
      exact beginsWith_head_ne (by decide)
  rw [numeral, typeSegment, chain, chainLoop_step first, chainLoop_fail stopped]

theorem typeSegment_iterates (e : GpuEntry) :
    ∃ parsed, Iterates typeSegment (e.typeText ++ (decimal e.count ++ e.trailing)) parsed
      (decimal e.count ++ e.trailing) := by
  cases kind : e.gpuType with
  | none => exact ⟨[], .stop (by simpa [GpuEntry.typeText, kind] using typeSegment_count e)⟩
  | some t =>
    obtain ⟨parsed, run⟩ := typeSegment_type t (decimal e.count ++ e.trailing)
    refine ⟨parsed ++ [], .step (by simpa [GpuEntry.typeText, kind] using run) (.stop (typeSegment_count e))⟩

theorem gresParser_body (e : GpuEntry) :
    gresParser e.body = .ok (some ((decimal e.count).map fun c => [c]), e.trailing) := by
  obtain ⟨c, run, numeral⟩ := List.exists_cons_of_ne_nil (decimal_ne_nil e.count)
  obtain ⟨skipped, iterates⟩ := typeSegment_iterates e
  have types := (atLeastZero_iff typeSegment_shortens).mpr iterates
  have within : ∀ d ∈ c :: run, d ∈ digits := by
    intro d member
    rw [← numeral] at member
    exact mem_digits_iff.mpr (decimal_isDigit member)
  have ends : ∀ d ∈ e.trailing.head?, d ∉ digits := fun d atHead inDigits =>
    e.trailing_head d atHead (List.mem_append_right _ inDigits)
  have count := atLeastOne_oneOf within ends
  have start : chain (beginsWith "gpu:".toList) [atLeastZero typeSegment] e.body =
      .ok (some ([] ++ ["gpu:".toList] ++ skipped), decimal e.count ++ e.trailing) := by
    rw [chain, GpuEntry.body, chainLoop_step (beginsWith_append _ _), chainLoop_step types]
    rfl
  rw [gresParser, chain, chainLoop_step (discardResult_ok start), numeral, chainLoop_step count]
  rfl

/-- `parsed, *_ = result` keeps one element of the result, and the digit
parser returns one element for each digit. -/
theorem parseGres_text (e : GpuEntry) : parseGres e.text = .ok (leadingDigit e.count) := by
  obtain ⟨c, run, numeral⟩ := List.exists_cons_of_ne_nil (decimal_ne_nil e.count)
  have digit : c.isDigit = true := decimal_isDigit (n := e.count) (by simp [numeral])
  simp only [parseGres, e.text_ne_unset, if_false, e.removePrefix_text, gresParser_body, numeral,
    List.map_cons]
  simp [pyInt, digit, leadingDigit, numeral]

/-- With the sibling parser behind it nothing changes, for it is only asked of what is no entry. -/
theorem parseGresOrTres_text (e : GpuEntry) : parseGresOrTres e.text = leadingDigit e.count := by
  rw [parseGresOrTres, parseGres_text]

/-- The sibling parser reads the whole count of an entry without a type. -/
theorem parseTres_text (e : GpuEntry) (untyped : e.gpuType = none) : parseTres e.text = .ok e.count := by
  obtain ⟨c, run, numeral⟩ := List.exists_cons_of_ne_nil (decimal_ne_nil e.count)
  have within : ∀ d ∈ decimal e.count, d.isDigit = true := fun d member => decimal_isDigit member
  have ends : ∀ d ∈ e.trailing.head?, d.isDigit = false := by
    intro d atHead
    rw [e.parenthesised d atHead]
    rfl
  have body : e.body = "gpu:".toList ++ (decimal e.count ++ e.trailing) := by
    simp [GpuEntry.body, GpuEntry.typeText, untyped]
  have matched : matchGpuCount e.body = some (decimal e.count) := by
    have dropped : ("gpu:".toList ++ (decimal e.count ++ e.trailing)).drop 4 = decimal e.count ++ e.trailing :=
      List.drop_left' rfl
    rw [body, matchGpuCount, dropped, (takeWhile_run _ within ends).1, numeral]
    simp
  have number : pyInt (decimal e.count) = .ok e.count := by
    have all : (decimal e.count).all Char.isDigit = true := List.all_eq_true.mpr within
    simp [pyInt, all, decimal_ne_nil]
  simp only [parseTres, e.text_ne_unset, if_false, e.removePrefix_text, matched, number]

/-- One comma separated item of a GRES string: a GPU entry, or other text. A
comma inside parentheses ends the item as well, since `split` does not look at them. -/
inductive GresItem
  | gpu (e : GpuEntry) (plain : ',' ∉ e.trailing)
  | other (text : Str) (plain : ',' ∉ text) (noGpu : ¬ "gpu:".toList <+: text)

def GresItem.text : GresItem → Str
  | .gpu e _ => e.text
  | .other text _ _ => text

/-- The GPUs an item announces. -/
def GresItem.count : GresItem → Nat
  | .gpu e _ => e.count
  | .other _ _ _ => 0

def gresText (items : List GresItem) : Str := [','].intercalate (items.map GresItem.text)

def totalGpus (items : List GresItem) : Nat := (items.map GresItem.count).sum

/-- Whether `startswith("gpu:")` selects the item. -/
def GresItem.selected : GresItem → Bool
  | .gpu e _ => e.pre == .absent
  | .other _ _ _ => false

/-- Every item that announces GPUs announces fewer than ten, is selected, and no
item after it is selected. -/
def SingleDigitEntry (items : List GresItem) : Prop :=
  ∀ earlier item later, items = earlier ++ item :: later → item.count = 0 ∨
    (item.count < 10 ∧ item.selected = true ∧ ∀ next ∈ later, next.selected = false)

theorem GresItem.text_plain (item : GresItem) : ',' ∉ item.text := by
  cases item with
  | other text plain _ => exact plain
  | gpu e plain =>
    have inType : ',' ∉ e.typeText := by
      unfold GpuEntry.typeText
      cases e.gpuType with
      | none => simp
      | some t =>
        intro member
        rcases List.mem_append.mp member with inChars | inColon
        · exact absurd (t.alphanumeric _ inChars) (by decide)
        · exact absurd inColon (by decide)
    have inCount : ',' ∉ decimal e.count := not_mem_decimal (by decide) e.count
    have inPrefix : ',' ∉ e.pre.text := by cases e.pre <;> decide
    simp only [GresItem.text, GpuEntry.text, List.mem_append, not_or]
    exact ⟨inPrefix, by decide, inType, inCount, plain⟩

theorem GresItem.selected_iff (item : GresItem) :
    item.selected = true ↔ "gpu:".toList.isPrefixOf item.text = true := by
  cases item with
  | other text _ noGpu => simpa [GresItem.selected, GresItem.text, List.isPrefixOf_iff_prefix] using noGpu
  | gpu e _ =>
    have read : "gpu:".toList.isPrefixOf e.text = (e.pre == .absent) := by
      unfold GpuEntry.text
      cases e.pre <;> rfl
    rw [GresItem.selected, GresItem.text, read]

/-- What the loop of `extract_gpus_from_gres` leaves in `gpus`: the leading
digit of the last selected item, since each assignment forgets the previous one. -/
def readGpus (items : List GresItem) : Nat :=
  items.foldl (fun gpus item => if item.selected then leadingDigit item.count else gpus) 0

theorem extract_fold (items : List GresItem) (gpus : Nat) :
    (items.map GresItem.text).foldlM (fun gpus gres =>
      if "gpu:".toList.isPrefixOf gres then parseGres gres else .ok gpus) gpus =
    (.ok (items.foldl (fun gpus item => if item.selected then leadingDigit item.count else gpus) gpus) :
      Except PyError Nat) := by
  induction items generalizing gpus with
  | nil => rfl
  | cons item items ih =>
    simp only [List.map_cons, List.foldlM_cons, List.foldl_cons]
    by_cases selected : item.selected = true
    · have read : parseGres item.text = .ok (leadingDigit item.count) := by
        cases item with
        | gpu e _ => exact parseGres_text e
        | other => simp [GresItem.selected] at selected
      rw [if_pos (item.selected_iff.mp selected), read, if_pos selected, ← ih]
      rfl
    · rw [if_neg (mt item.selected_iff.mpr selected), if_neg selected, ← ih]
      rfl

theorem extractGpusFromGres_text (items : List GresItem) :
    extractGpusFromGres (gresText items) = .ok (readGpus items) := by
  cases items with
  | nil => rfl
  | cons item items =>
    have split : (gresText (item :: items)).splitOn ',' = (item :: items).map GresItem.text := by
      refine List.splitOn_intercalate ',' ?_ (by simp)
      intro text member
      obtain ⟨source, _, rfl⟩ := List.mem_map.mp member
      exact source.text_plain
    rw [extractGpusFromGres, split, extract_fold]
    rfl

theorem readGpus_concat (items : List GresItem) (item : GresItem) :
    readGpus (items ++ [item]) = if item.selected then leadingDigit item.count else readGpus items := by
  simp [readGpus]

theorem totalGpus_concat (items : List GresItem) (item : GresItem) :
    totalGpus (items ++ [item]) = totalGpus items + item.count := by
  simp [totalGpus]

theorem totalGpus_eq_zero_iff {items : List GresItem} :
    totalGpus items = 0 ↔ ∀ item ∈ items, item.count = 0 := by
  simp [totalGpus, List.sum_eq_zero_iff_forall_eq_nat]

theorem readGpus_le_total (items : List GresItem) : readGpus items ≤ totalGpus items := by
  induction items using List.reverseRecOn with
  | nil => exact le_rfl
  | append_singleton items item ih =>
    have lead := leadingDigit_le item.count
    rw [readGpus_concat, totalGpus_concat]
    split <;> omega

theorem SingleDigitEntry.concat_iff {items : List GresItem} {item : GresItem} :
    SingleDigitEntry (items ++ [item]) ↔
      (item.count = 0 ∨ (item.count < 10 ∧ item.selected = true)) ∧
        ∀ earlier other later, items = earlier ++ other :: later → other.count = 0 ∨
          (other.count < 10 ∧ other.selected = true ∧ (∀ next ∈ later, next.selected = false) ∧
            item.selected = false) := by
  constructor
  · intro single
    refine ⟨?_, ?_⟩
    · rcases single items item [] rfl with zero | ⟨small, selected, _⟩
      · exact .inl zero
      · exact .inr ⟨small, selected⟩
    · intro earlier other later split
      rcases single earlier other (later ++ [item]) (by simp [split]) with zero | ⟨small, selected, last⟩
      · exact .inl zero
      · exact .inr ⟨small, selected, fun next member => last next (by simp [member]), last item (by simp)⟩
  · rintro ⟨atLast, before⟩ earlier other later split
    rcases List.eq_nil_or_concat later with empty | ⟨later', final, rfl⟩
    · subst empty
      obtain ⟨-, same⟩ := List.append_inj' split rfl
      obtain rfl := (List.cons.inj same).1
      rcases atLast with zero | ⟨small, selected⟩
      · exact .inl zero
      · exact .inr ⟨small, selected, by simp⟩
    · have regroup : items ++ [item] = (earlier ++ other :: later') ++ [final] := by simpa using split
      obtain ⟨same, sameLast⟩ := List.append_inj' regroup rfl
      obtain rfl := (List.cons.inj sameLast).1
      rcases before earlier other later' same with zero | ⟨small, selected, none, last⟩
      · exact .inl zero
      · refine .inr ⟨small, selected, ?_⟩
        intro next member
        rcases List.mem_append.mp (List.concat_eq_append ▸ member) with old | new
        · exact none next old
        · rw [List.mem_singleton.mp new]
          exact last

/-- Behind a selected item, the items before it must announce nothing. -/
theorem SingleDigitEntry.concat_selected_iff {items : List GresItem} {item : GresItem}
    (selected : item.selected = true) :
    SingleDigitEntry (items ++ [item]) ↔ item.count < 10 ∧ totalGpus items = 0 := by
  rw [SingleDigitEntry.concat_iff, totalGpus_eq_zero_iff]
  constructor
  · intro ⟨atLast, before⟩
    have small : item.count < 10 := by omega
    refine ⟨small, fun other member => ?_⟩
    obtain ⟨earlier, later, split⟩ := List.append_of_mem member
    simpa [selected] using before earlier other later split
  · intro ⟨small, zero⟩
    refine ⟨.inr ⟨small, selected⟩, ?_⟩
    rintro earlier other later rfl
    exact .inl (zero other (by simp))

theorem SingleDigitEntry.concat_unselected_iff {items : List GresItem} {item : GresItem}
    (unselected : item.selected = false) :
    SingleDigitEntry (items ++ [item]) ↔ item.count = 0 ∧ SingleDigitEntry items := by
  have atLast : item.count = 0 ∨ item.count < 10 ∧ item.selected = true ↔ item.count = 0 :=
    or_iff_left fun ⟨_, selected⟩ => Bool.false_ne_true (unselected.symm.trans selected)
  rw [SingleDigitEntry.concat_iff, atLast]
  simp only [unselected, and_true]
  rfl

theorem readGpus_eq_total_iff (items : List GresItem) :
    readGpus items = totalGpus items ↔ SingleDigitEntry items := by
  induction items using List.reverseRecOn with
  | nil => simp [readGpus, totalGpus, SingleDigitEntry]
  | append_singleton items item ih =>
    have lead := leadingDigit_le item.count
    have bound := readGpus_le_total items
    rw [readGpus_concat, totalGpus_concat]
    by_cases selected : item.selected = true
    · rw [if_pos selected, SingleDigitEntry.concat_selected_iff selected, ← leadingDigit_eq_iff]
      omega
    · rw [if_neg selected, SingleDigitEntry.concat_unselected_iff (Bool.eq_false_iff.mpr selected), ← ih]
      omega

/-- The entry `gpu:<n>` of a count alone. -/
def plainEntry (n : Nat) : GpuEntry := ⟨.absent, none, n, [], by simp⟩

/-- GPU counts are read in full exactly when they are written with one digit,
and summed exactly when at most the last selected entry announces GPUs. -/
theorem gpu_counts_read_iff (e : GpuEntry) (n : Nat) (items : List GresItem) :
    (parseGres e.text = .ok e.count ↔ e.count < 10) ∧
    (parseGres (plainEntry n).text = parseTres (plainEntry n).text ↔ n < 10) ∧
    (extractGpusFromGres (gresText items) = .ok (totalGpus items) ↔ SingleDigitEntry items) := by
  have typed : ∀ e : GpuEntry, parseGres e.text = .ok e.count ↔ e.count < 10 := by
    intro e
    rw [parseGres_text, Except.ok.injEq, leadingDigit_eq_iff]
  refine ⟨typed e, ?_, ?_⟩
  · rw [parseTres_text (plainEntry n) rfl]
    exact typed (plainEntry n)
  · rw [extractGpusFromGres_text, Except.ok.injEq, readGpus_eq_total_iff]

theorem gpu_counts_misread :
    parseGres "gpu:volta:16(S:0-1)".toList = .ok 1 ∧
    parseGres "gpu:16".toList ≠ parseTres "gpu:16".toList ∧
    extractGpusFromGres "gpu:volta:2,gpu:pascal:3".toList = .ok 3 := by
  decide

end GpuTelemetry
