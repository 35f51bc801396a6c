import Mathlib.Data.List.Basic
import Mathlib.Data.List.Induction

/-! Reading a text in parts, where what is read comes from its lines: whether the
parts give what the whole gives depends on the lines that they divide. Nothing
here mentions a particular program. -/

namespace GpuTelemetry

variable {α β ε : Type}

/-- Two readings one after the other. -/
def andThen (first second : Except ε (List β)) : Except ε (List β) := do
  let as ← first
  let bs ← second
  return as ++ bs

theorem andThen_nil (second : Except ε (List β)) : andThen (.ok []) second = second := by
  cases second <;> rfl

theorem andThen_none (first : Except ε (List β)) : andThen first (.ok []) = first := by
  cases first with
  | error e => rfl
  | ok as => exact congrArg Except.ok (List.append_nil as)

theorem andThen_assoc (first second third : Except ε (List β)) :
    andThen (andThen first second) third = andThen first (andThen second third) := by
  cases first with
  | error e => rfl
  | ok as =>
    cases second with
    | error e => rfl
    | ok bs =>
      cases third with
      | error e => rfl
      | ok cs => exact congrArg Except.ok (List.append_assoc as bs cs)

theorem andThen_eq_ok {first second : Except ε (List β)} {cs : List β} :
    andThen first second = .ok cs ↔ ∃ as bs, first = .ok as ∧ second = .ok bs ∧ cs = as ++ bs := by
  constructor
  · intro run
    cases first with
    | error e => cases run
    | ok as =>
      cases second with
      | error e => cases run
      | ok bs => exact ⟨as, bs, rfl, rfl, (Except.ok.inj run).symm⟩
  · rintro ⟨as, bs, rfl, rfl, rfl⟩
    rfl

/-- Several parts, one after the other. -/
def collect (read : α → Except ε (List β)) : List α → Except ε (List β)
  | [] => .ok []
  | part :: parts => andThen (read part) (collect read parts)

theorem collect_append (read : α → Except ε (List β)) (parts parts' : List α) :
    collect read (parts ++ parts') = andThen (collect read parts) (collect read parts') := by
  induction parts with
  | nil => exact (andThen_nil _).symm
  | cons part parts ih => rw [List.cons_append, collect, collect, ih, andThen_assoc]

variable (separator : α → Bool)

/-- The last line, which is not ended yet. -/
def unfinished (text : List α) : List α := (text.splitOnP separator).getLastD []

/-- The first line. -/
def firstLine (text : List α) : List α := (text.splitOnP separator).headD []

theorem splitOnP_parts (text : List α) :
    (∃ front, text.splitOnP separator = front ++ [unfinished separator text]) ∧
      ∃ rest, text.splitOnP separator = firstLine separator text :: rest := by
  have nonempty := List.splitOnP_ne_nil separator text
  constructor
  · refine ⟨(text.splitOnP separator).dropLast, ?_⟩
    rw [unfinished, List.getLastD_eq_getLast?, List.getLast?_eq_some_getLast nonempty]
    exact (List.dropLast_append_getLast nonempty).symm
  · obtain ⟨first, rest, shape⟩ := List.exists_cons_of_ne_nil nonempty
    exact ⟨rest, by rw [firstLine, shape]; rfl⟩

/-- Where two texts meet, the line that is not ended goes on. -/
theorem splitOnP_append {text later : List α} {front rest : List (List α)}
    (before : text.splitOnP separator = front ++ [unfinished separator text])
    (after : later.splitOnP separator = firstLine separator later :: rest) :
    (text ++ later).splitOnP separator =
      front ++ (unfinished separator text ++ firstLine separator later) :: rest := by
  generalize unfinished separator text = last at before ⊢
  induction text generalizing front last with
  | nil =>
    rw [List.splitOnP_nil] at before
    cases front with
    | nil =>
      obtain rfl : [] = last := by simpa using before
      rw [List.nil_append, after]
      rfl
    | cons line front => simp at before
  | cons c text ih =>
    rw [List.splitOnP_cons_eq_if_modifyHead] at before
    rw [List.cons_append, List.splitOnP_cons_eq_if_modifyHead]
    by_cases ends : separator c = true
    · rw [if_pos ends] at before ⊢
      cases front with
      | nil =>
        have impossible : text.splitOnP separator = [] := (List.cons.inj before).2
        exact absurd impossible (List.splitOnP_ne_nil separator text)
      | cons line front =>
        obtain ⟨rfl, inner⟩ := List.cons.inj before
        rw [ih last inner]
        rfl
    · rw [if_neg ends] at before ⊢
      cases parts : text.splitOnP separator with
      | nil => exact absurd parts (List.splitOnP_ne_nil separator text)
      | cons line lines =>
        rw [parts, List.modifyHead_cons] at before
        cases front with
        | nil =>
          obtain ⟨rfl, rfl⟩ := List.cons.inj before
          rw [@ih [] line (by rw [parts]; rfl)]
          rfl
        | cons line' front =>
          obtain ⟨rfl, rfl⟩ := List.cons.inj before
          rw [@ih (line :: front) last (by rw [parts]; rfl)]
          rfl

variable (read : List α → Except ε (List β))

/-- What the lines of a text give. -/
def readText (text : List α) : Except ε (List β) := collect read (text.splitOnP separator)

/-- The line that two texts divide gives what its two parts give. -/
def KeepsLine (text later : List α) : Prop :=
  read (unfinished separator text ++ firstLine separator later) =
    andThen (read (unfinished separator text)) (read (firstLine separator later))

/-- What the texts and the whole are made of around the line that they divide. -/
theorem readText_around (text later : List α) :
    ∃ front rest, readText separator read text = andThen front (read (unfinished separator text)) ∧
      readText separator read later = andThen (read (firstLine separator later)) rest ∧
      readText separator read (text ++ later) =
        andThen front (andThen (read (unfinished separator text ++ firstLine separator later)) rest) := by
  obtain ⟨front, before⟩ := (splitOnP_parts separator text).1
  obtain ⟨rest, after⟩ := (splitOnP_parts separator later).2
  refine ⟨collect read front, collect read rest, ?_, ?_, ?_⟩
  · rw [readText, before, collect_append, collect, collect, andThen_none]
  · rw [readText, after, collect]
  · rw [readText, splitOnP_append separator before after, collect_append, collect]

theorem readText_append {text later : List α} (keeps : KeepsLine separator read text later) :
    readText separator read (text ++ later) =
      andThen (readText separator read text) (readText separator read later) := by
  obtain ⟨front, rest, before, after, whole⟩ := readText_around separator read text later
  rw [whole, before, after, keeps]
  simp only [andThen_assoc]

/-- Every chunk keeps the line that it divides with all that is before it. -/
def KeepsLines (chunks : List (List α)) : Prop :=
  ∀ earlier chunk later, chunks = earlier ++ chunk :: later → KeepsLine separator read earlier.flatten chunk

theorem KeepsLines.earlier {chunks later : List (List α)} (keeps : KeepsLines separator read (chunks ++ later)) :
    KeepsLines separator read chunks := by
  intro earlier chunk between split
  refine keeps earlier chunk (between ++ later) ?_
  rw [split, List.append_assoc, List.cons_append]

theorem unfinished_of_ended {text : List α} (ended : ∀ c ∈ text.getLast?, separator c = true) :
    unfinished separator text = [] := by
  cases text using List.reverseRecOn with
  | nil => rfl
  | append_singleton text c =>
    have ends : separator c = true := ended c (by simp)
    have after : [c].splitOnP separator = firstLine separator [c] :: [[]] := by
      rw [firstLine, List.splitOnP_cons_eq_if_modifyHead, if_pos ends]
      rfl
    obtain ⟨front, before⟩ := (splitOnP_parts separator text).1
    rw [unfinished, splitOnP_append separator before after]
    simp

/-- Chunks that end their last lines keep them. -/
theorem keepsLines_of_ended {chunks : List (List α)} (blank : read [] = .ok [])
    (ended : ∀ chunk ∈ chunks, ∀ c ∈ chunk.getLast?, separator c = true) : KeepsLines separator read chunks := by
  intro earlier chunk later split
  have earlierEnded : ∀ chunk ∈ earlier, ∀ c ∈ chunk.getLast?, separator c = true := fun chunk member =>
    ended chunk (by rw [split]; exact List.mem_append_left _ member)
  have flattenEnded : ∀ c ∈ earlier.flatten.getLast?, separator c = true := by
    clear split
    induction earlier with
    | nil => exact fun c none => nomatch none
    | cons first earlier ih =>
      obtain ⟨here, others⟩ := List.forall_mem_cons.mp earlierEnded
      intro c isLast
      rw [List.flatten_cons, List.getLast?_append] at isLast
      rcases Option.or_eq_some_iff.mp isLast with inOthers | ⟨-, inFirst⟩
      · exact ih others c inOthers
      · exact here c inFirst
  rw [KeepsLine, unfinished_of_ended separator flattenEnded, List.nil_append, blank, andThen_nil]

/-- Chunks that keep their lines give what the whole gives. -/
theorem collect_chunks {chunks : List (List α)} (keeps : KeepsLines separator read chunks)
    (blank : read [] = .ok []) : collect (readText separator read) chunks = readText separator read chunks.flatten := by
  induction chunks using List.reverseRecOn with
  | nil => rw [List.flatten_nil, readText, List.splitOnP_nil, collect, collect, collect, blank, andThen_none]
  | append_singleton chunks chunk ih =>
    have last : collect (readText separator read) [chunk] = readText separator read chunk := by
      rw [collect, collect, andThen_none]
    rw [collect_append, last, ih keeps.earlier, List.flatten_append, List.flatten_singleton,
      readText_append separator read (keeps chunks chunk [] rfl)]

/-- If at each chunk what has been given is what the whole so far gives, the chunks keep their lines. -/
theorem keepsLines_of_collect {chunks : List (List α)} {collected : List β}
    (run : collect (readText separator read) chunks = .ok collected)
    (same : ∀ earlier later, chunks = earlier ++ later →
      collect (readText separator read) earlier = readText separator read earlier.flatten) :
    KeepsLines separator read chunks := by
  intro earlier chunk later split
  have before := same earlier (chunk :: later) split
  have after := same (earlier ++ [chunk]) later (by rw [split, List.append_assoc]; rfl)
  obtain ⟨front, rest, ofEarlier, ofChunk, ofBoth⟩ := readText_around separator read earlier.flatten chunk
  rw [split, collect_append, collect] at run
  obtain ⟨xs, others, ranEarlier, ranOthers, -⟩ := andThen_eq_ok.mp run
  obtain ⟨ys, -, ranChunk, -⟩ := andThen_eq_ok.mp ranOthers
  obtain ⟨as, bs, isFront, isUnfinished, rfl⟩ := andThen_eq_ok.mp (ofEarlier.symm.trans (before.symm.trans ranEarlier))
  obtain ⟨cs, ds, isFirst, isRest, rfl⟩ := andThen_eq_ok.mp (ofChunk.symm.trans ranChunk)
  have both : readText separator read (earlier ++ [chunk]).flatten = .ok (as ++ bs ++ (cs ++ ds)) := by
    rw [← after, collect_append, ranEarlier, collect, collect, andThen_none, ranChunk]
    rfl
  rw [List.flatten_append, List.flatten_singleton, ofBoth, isFront, isRest] at both
  obtain ⟨as', line, isFront', isLine, whole⟩ := andThen_eq_ok.mp both
  obtain ⟨es, ds', ranLine, isRest', rfl⟩ := andThen_eq_ok.mp isLine
  obtain rfl := Except.ok.inj isFront'
  obtain rfl := Except.ok.inj isRest'
  rw [List.append_assoc, List.append_cancel_left_eq, ← List.append_assoc, List.append_cancel_right_eq] at whole
  rw [KeepsLine, ranLine, isUnfinished, isFirst, ← whole]
  rfl

end GpuTelemetry
