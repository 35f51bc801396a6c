import GpuTelemetry.FallibleFolds
import GpuTelemetry.SacctFilter

namespace GpuTelemetry

/-! ### Batches of an iterator -/

section

variable {α : Type}

/-- One tuple of `zip_longest` over slots that share an iterator: its values,
with the fill value as `none`, the slots that are still active, their number,
and what is left of the iterator. Without an active slot there is no tuple. -/
inductive ZipRow (α : Type)
  | row (values : List (Option α)) (slots : List Bool) (active : Nat) (rest : Generated α)
  | stop
  | raised (e : PyError)

def ZipRow.push (value : Option α) (slot : Bool) : ZipRow α → ZipRow α
  | .row values slots active rest => .row (value :: values) (slot :: slots) active rest
  | .stop => .stop
  | .raised e => .raised e

/-- The next tuple. A slot is given up when the iterator has ended. -/
def zipLongestRow : List Bool → Nat → Generated α → ZipRow α
  | [], active, it => .row [] [] active it
  | false :: slots, active, it => (zipLongestRow slots active it).push none false
  | true :: slots, active, ⟨a :: rest, raises⟩ => (zipLongestRow slots active ⟨rest, raises⟩).push (some a) true
  | true :: _, _, ⟨[], some e⟩ => .raised e
  | true :: slots, active, ⟨[], none⟩ =>
    if active = 1 then .stop else (zipLongestRow slots (active - 1) ⟨[], none⟩).push none false

def zipLongestLoop : Nat → List Bool → Nat → Generated α → Generated (List (Option α))
  | 0, _, _, _ => .done
  | fuel + 1, slots, active, it =>
    match zipLongestRow slots active it with
    | .row values slots active rest => .cons values (zipLongestLoop fuel slots active rest)
    | .stop => .done
    | .raised e => ⟨[], some e⟩

/-- A tuple up to its first fill value. -/
def unfilled (batch : List (Option α)) : List α := (batch.takeWhile Option.isSome).filterMap id

/-- `batch_iter`: the tuples of `batch_size` times the same iterator, each up to
its first fill value. -/
def batchIter (it : Generated α) (batchSize : Nat) : Generated (List α) :=
  let batches := zipLongestLoop (it.yields.length + 1) (List.replicate batchSize true) batchSize it
  ⟨batches.yields.map unfilled, batches.raises⟩

end

/-! ### The batched filter -/

/-- What a line is split into: the line to print and its end date. -/
def LineReader.splitLine (reader : LineReader) (stripped : Str) : Except PyError (Str × Str) := do
  let formattedLine ← reader.lineFormatter (reader.lineSplitter stripped)
  reader.lineLastColumnSplitter formattedLine

def splitLinesLoop (reader : LineReader) : List Str → Generated (Str × Str)
  | [] => .done
  | line :: lines =>
    if strip line = [] then splitLinesLoop reader lines
    else
      match reader.splitLine (strip line) with
      | .error e => ⟨[], some e⟩
      | .ok split => .cons split (splitLinesLoop reader lines)

/-- `split_lines`, over lines whose generator may raise at its end. -/
def splitLines (reader : LineReader) (lines : Generated Str) : Generated (Str × Str) :=
  let split := splitLinesLoop reader lines.yields
  ⟨split.yields, split.raises.or lines.raises⟩

/-- `filter_sacct_lines_one_by_one`, over lines whose generator may raise at its end. -/
def filterSacctLines (reader : LineReader) (interval : ClosedInterval) (sacctIo : Generated Str) : Generated Str :=
  let filtered := filterSacctLinesOneByOne reader interval sacctIo.yields
  ⟨filtered.yields, filtered.raises.or sacctIo.raises⟩

/-- The loop over the batches, and how their iterator ends. -/
def filterBatches (getDatetimes : List Str → Except PyError (List Int)) (interval : ClosedInterval)
    (raises : Option PyError) : List (List (Str × Str)) → Generated Str
  | [] => ⟨[], raises⟩
  | [] :: _ => ⟨[], some (.valueError "not enough values to unpack (expected 2, got 0)".toList)⟩
  | (split :: batch) :: batches =>
    let (actualLines, ends) := (split :: batch).unzip
    match getDatetimes ends with
    | .error e => ⟨[], some e⟩
    | .ok times =>
      let later := filterBatches getDatetimes interval raises batches
      ⟨((actualLines.zip times).filter fun line => interval.contains line.2).map Prod.fst ++ later.yields, later.raises⟩

def filterSacctLinesBatched (reader : LineReader) (getDatetimes : List Str → Except PyError (List Int))
    (interval : ClosedInterval) (sacctIo : Generated Str) (batchSize : Int) : Generated Str :=
  if batchSize < 1 then ⟨[], some (.valueError "Batch size must be positive".toList)⟩
  else if batchSize = 1 then filterSacctLines reader interval sacctIo
  else
    let batches := batchIter (splitLines reader sacctIo) batchSize.toNat
    filterBatches getDatetimes interval batches.raises batches.yields

/-! ### What the batches hold -/

section

variable {α : Type}

theorem zipLongestRow_full (n active : Nat) (front back : List α) (raises : Option PyError)
    (length : front.length = n) :
    zipLongestRow (List.replicate n true) active ⟨front ++ back, raises⟩ =
      .row (front.map some) (List.replicate n true) active ⟨back, raises⟩ := by
  induction front generalizing n with
  | nil => subst length; rfl
  | cons a front ih =>
    subst length
    have later := ih front.length rfl
    simp only [List.length_cons, List.replicate_succ, List.cons_append, zipLongestRow, later, ZipRow.push,
      List.map_cons]

/-- An iterator at its end gives fill values only, while another one is still active. -/
theorem zipLongestRow_ended {n active : Nat} (less : n < active) :
    zipLongestRow (List.replicate n true) active (⟨[], none⟩ : Generated α) =
      .row (List.replicate n none) (List.replicate n false) (active - n) ⟨[], none⟩ := by
  induction n generalizing active with
  | zero => rfl
  | succ n ih =>
    have later := @ih (active - 1) (by omega)
    rw [List.replicate_succ, zipLongestRow, if_neg (by omega), later, Nat.sub_sub, Nat.add_comm 1 n]
    rfl

/-- The iterator ends within the tuple. -/
theorem zipLongestRow_short (yields : List α) {n active : Nat} (short : yields.length ≤ n)
    (less : n - yields.length < active) :
    zipLongestRow (List.replicate n true) active ⟨yields, none⟩ =
      .row (yields.map Option.some ++ List.replicate (n - yields.length) none)
        (List.replicate yields.length true ++ List.replicate (n - yields.length) false)
        (active - (n - yields.length)) ⟨[], none⟩ := by
  induction yields generalizing n with
  | nil => exact zipLongestRow_ended less
  | cons a yields ih =>
    rw [List.length_cons] at short less
    obtain ⟨n, rfl⟩ : ∃ n', n = n' + 1 := ⟨n - 1, by omega⟩
    have later := ih (n := n) (by omega) (by omega)
    rw [List.length_cons, List.replicate_succ, zipLongestRow, later, Nat.add_sub_add_right]
    rfl

theorem zipLongestRow_raised (yields : List α) {n : Nat} (short : yields.length < n) (active : Nat) (e : PyError) :
    zipLongestRow (List.replicate n true) active ⟨yields, some e⟩ = .raised e := by
  induction yields generalizing n with
  | nil =>
    obtain ⟨n, rfl⟩ : ∃ n', n = n' + 1 := ⟨n - 1, by have positive : 0 < n := short; omega⟩
    rfl
  | cons a yields ih =>
    rw [List.length_cons] at short
    obtain ⟨n, rfl⟩ : ∃ n', n = n' + 1 := ⟨n - 1, by omega⟩
    rw [List.replicate_succ, zipLongestRow, ih (by omega)]
    rfl

theorem zipLongestRow_stop {k : Nat} (positive : 0 < k) (given : List Bool) :
    zipLongestRow (List.replicate k true ++ given) k (⟨[], none⟩ : Generated α) = .stop := by
  induction k with
  | zero => omega
  | succ k ih =>
    rw [List.replicate_succ, List.cons_append, zipLongestRow]
    split
    · rfl
    · rw [Nat.add_sub_cancel, ih (by omega)]
      rfl

theorem unfilled_append (values : List α) (k : Nat) :
    unfilled (values.map Option.some ++ List.replicate k none) = values := by
  have filled : (List.replicate k (none : Option α)).takeWhile Option.isSome = [] := by cases k <;> rfl
  have all : ∀ value ∈ values.map Option.some, value.isSome = true := by simp
  rw [unfilled, List.takeWhile_append_of_pos all, filled, List.append_nil, List.filterMap_map]
  exact List.filterMap_some

/-- A tuple that the values fill is the first of the loop. -/
theorem zipLongestLoop_full (fuel : Nat) {n : Nat} {yields : List α} (long : n ≤ yields.length)
    (raises : Option PyError) :
    zipLongestLoop (fuel + 1) (List.replicate n true) n ⟨yields, raises⟩ =
      .cons ((yields.take n).map some) (zipLongestLoop fuel (List.replicate n true) n ⟨yields.drop n, raises⟩) := by
  have first : (yields.take n).length = n := by rw [List.length_take]; omega
  have row := zipLongestRow_full n n (yields.take n) (yields.drop n) raises first
  rw [List.take_append_drop] at row
  simp only [zipLongestLoop, row]

/-- The values left over make one last tuple. -/
theorem zipLongestLoop_last (fuel : Nat) {n : Nat} {yields : List α} (short : yields.length < n)
    (some : yields ≠ []) :
    zipLongestLoop (fuel + 2) (List.replicate n true) n ⟨yields, none⟩ =
      ⟨[yields.map Option.some ++ List.replicate (n - yields.length) none], none⟩ := by
  have count : 0 < yields.length := List.length_pos_of_ne_nil some
  have less : n - yields.length < n := by omega
  have row := zipLongestRow_short yields short.le less
  have rest : n - (n - yields.length) = yields.length := by omega
  rw [rest] at row
  simp only [zipLongestLoop, row, zipLongestRow_stop count, Generated.cons, Generated.done]

/-- The batches hold the values in order, and only an iterator that raises
leaves a last batch unfinished. -/
theorem zipLongestLoop_batches {n : Nat} (positive : 0 < n) {fuel : Nat} {yields : List α} {raises : Option PyError}
    (enough : yields.length < fuel) :
    let batches := zipLongestLoop fuel (List.replicate n true) n ⟨yields, raises⟩
    batches.raises = raises ∧ (∀ batch ∈ batches.yields, unfilled batch ≠ []) ∧
      ∃ held, yields = (batches.yields.map unfilled).flatten ++ held ∧ held.length < n ∧
        (raises = none → held = []) := by
  induction fuel generalizing yields with
  | zero => omega
  | succ fuel ih =>
    rcases Nat.lt_or_ge yields.length n with short | long
    · cases raises with
      | some e =>
        simp only [zipLongestLoop, zipLongestRow_raised yields short]
        exact ⟨trivial, by simp, yields, by simp, short, by simp⟩
      | none =>
        by_cases some : yields = []
        · subst some
          have stops := zipLongestRow_stop (α := α) positive []
          rw [List.append_nil] at stops
          simp only [zipLongestLoop, stops, Generated.done]
          exact ⟨trivial, by simp, [], rfl, positive, fun _ => rfl⟩
        · have count : 0 < yields.length := List.length_pos_of_ne_nil some
          obtain ⟨fuel, rfl⟩ : ∃ fuel', fuel = fuel' + 1 := ⟨fuel - 1, by omega⟩
          rw [zipLongestLoop_last fuel short some]
          refine ⟨rfl, ?_, [], ?_, positive, fun _ => rfl⟩
          · simpa [unfilled_append] using some
          · simp [unfilled_append]
    · obtain ⟨ends, nonempty, held, whole, bound, last⟩ :=
        ih (show (yields.drop n).length < fuel by rw [List.length_drop]; omega)
      have batch : unfilled ((yields.take n).map some) = yields.take n := by
        simpa using unfilled_append (yields.take n) 0
      rw [zipLongestLoop_full fuel long raises]
      refine ⟨ends, ?_, held, ?_, bound, last⟩
      · rintro other (_ | ⟨_, member⟩)
        · rw [batch]
          have first : (yields.take n).length = n := by rw [List.length_take]; omega
          exact List.ne_nil_of_length_pos (by omega)
        · exact nonempty other member
      · rw [Generated.cons, List.map_cons, List.flatten_cons, batch, List.append_assoc, ← whole]
        exact (List.take_append_drop n yields).symm

theorem batchIter_batches (it : Generated α) {batchSize : Nat} (positive : 0 < batchSize) :
    (batchIter it batchSize).raises = it.raises ∧ (∀ batch ∈ (batchIter it batchSize).yields, batch ≠ []) ∧
      ∃ held, it.yields = (batchIter it batchSize).yields.flatten ++ held ∧ held.length < batchSize ∧
        (it.raises = none → held = []) := by
  obtain ⟨yields, raises⟩ := it
  obtain ⟨ends, nonempty, batches⟩ := zipLongestLoop_batches positive (Nat.lt_succ_self yields.length)
  exact ⟨ends, by simpa [batchIter] using nonempty, batches⟩

end

/-! ### The same lines -/

/-- The line to print, if its end date is in the interval. -/
def keepLine (getDatetime : Str → Except PyError Int) (interval : ClosedInterval) (line : Str × Str) : Option Str :=
  match getDatetime line.2 with
  | .ok time => if interval.contains time then some line.1 else none
  | .error _ => none

theorem splitLine_read (reader : LineReader) (stripped : Str) :
    reader.read stripped = match reader.splitLine stripped with
      | .error e => .error e
      | .ok (actualLine, stop) => (reader.getDatetime stop).map fun time => (actualLine, time) := by
  unfold LineReader.read LineReader.splitLine
  cases reader.lineFormatter (reader.lineSplitter stripped) with
  | error e => rfl
  | ok formattedLine =>
    cases split : reader.lineLastColumnSplitter formattedLine with
    | error e => simp only [bind, Except.bind, split]
    | ok line =>
      obtain ⟨actualLine, stop⟩ := line
      simp only [bind, Except.bind, split]
      cases reader.getDatetime stop <;> rfl

/-- Line by line, the filter keeps what the splitting yields. -/
theorem filterSacctLinesOneByOne_split (reader : LineReader) (interval : ClosedInterval) {lines : List Str}
    (accepted : ∀ split ∈ (splitLinesLoop reader lines).yields, ∃ time, reader.getDatetime split.2 = .ok time) :
    filterSacctLinesOneByOne reader interval lines =
      ⟨(splitLinesLoop reader lines).yields.filterMap (keepLine reader.getDatetime interval),
        (splitLinesLoop reader lines).raises⟩ := by
  induction lines with
  | nil => rfl
  | cons line lines ih =>
    rw [splitLinesLoop] at accepted ⊢
    rw [filterSacctLinesOneByOne, splitLine_read]
    by_cases blank : strip line = []
    · rw [if_pos blank] at accepted ⊢
      rw [if_pos blank]
      exact ih accepted
    · rw [if_neg blank] at accepted ⊢
      rw [if_neg blank]
      cases run : reader.splitLine (strip line) with
      | error e => rfl
      | ok split =>
        simp only [run, Generated.cons, List.forall_mem_cons] at accepted ⊢
        obtain ⟨⟨time, date⟩, others⟩ := accepted
        simp only [date, Except.map, ih others, List.filterMap_cons, keepLine]
        by_cases inside : interval.contains time = true
        · simp only [inside, if_true]
        · simp only [inside]
          rfl

theorem mem_splitLinesLoop {reader : LineReader} {lines : List Str} {split : Str × Str}
    (member : split ∈ (splitLinesLoop reader lines).yields) :
    ∃ line ∈ lines, reader.splitLine (strip line) = .ok split := by
  induction lines with
  | nil => simp [splitLinesLoop, Generated.done] at member
  | cons line lines ih =>
    have later : split ∈ (splitLinesLoop reader lines).yields →
        ∃ other ∈ line :: lines, reader.splitLine (strip other) = .ok split := by
      intro behind
      obtain ⟨other, inLines, run⟩ := ih behind
      exact ⟨other, List.mem_cons_of_mem line inLines, run⟩
    rw [splitLinesLoop] at member
    split at member
    · exact later member
    · split at member
      · simp at member
      · rename_i found run
        rcases List.mem_cons.mp member with rfl | behind
        · exact ⟨line, by simp, run⟩
        · exact later behind

/-- A batch yields the lines that are kept one by one. -/
theorem filter_zip_times {getDatetime : Str → Except PyError Int} (interval : ClosedInterval) {batch : List (Str × Str)}
    {times : List Int}
    (each : List.Forall₂ (fun stop time => getDatetime stop = .ok time) (batch.map Prod.snd) times) :
    (((batch.map Prod.fst).zip times).filter fun line => interval.contains line.2).map Prod.fst =
      batch.filterMap (keepLine getDatetime interval) := by
  induction batch generalizing times with
  | nil => rfl
  | cons line batch ih =>
    cases each with
    | cons date others =>
      rename_i time times
      have later := ih others
      simp only [List.map_cons, List.zip_cons_cons, List.filter_cons, List.filterMap_cons, keepLine, date]
      by_cases inside : interval.contains time = true
      · simp only [inside, if_true, List.map_cons, later]
      · simp only [inside]
        exact later

theorem filterBatches_flatten {getDatetime : Str → Except PyError Int}
    {getDatetimes : List Str → Except PyError (List Int)} (mapped : ∀ ends, getDatetimes ends = ends.mapM getDatetime)
    (interval : ClosedInterval) (raises : Option PyError) {batches : List (List (Str × Str))}
    (nonempty : ∀ batch ∈ batches, batch ≠ [])
    (accepted : ∀ split ∈ batches.flatten, ∃ time, getDatetime split.2 = .ok time) :
    filterBatches getDatetimes interval raises batches =
      ⟨batches.flatten.filterMap (keepLine getDatetime interval), raises⟩ := by
  induction batches with
  | nil => rfl
  | cons batch batches ih =>
    cases batch with
    | nil => exact absurd rfl (nonempty [] (by simp))
    | cons split batch =>
      have later := ih (fun other member => nonempty other (by simp [member]))
        fun other member => accepted other (by rw [List.flatten_cons]; exact List.mem_append_right _ member)
      have here : ∀ stop ∈ (split :: batch).map Prod.snd,
          ∃ time, getDatetime stop = .ok time ∧ getDatetime stop = .ok time := by
        intro stop member
        obtain ⟨line, inBatch, rfl⟩ := List.mem_map.mp member
        obtain ⟨time, date⟩ := accepted line (by rw [List.flatten_cons]; exact List.mem_append_left _ inBatch)
        exact ⟨time, date, date⟩
      obtain ⟨times, dates, each⟩ := mapM_returns here
      have kept := filter_zip_times interval each
      simp only [filterBatches, List.unzip_eq_map, mapped, dates, later, kept, List.flatten_cons, List.filterMap_append]

/-- When every end date is accepted and the dates of a batch are read as they
are one by one, both filters end alike, the batched one yields the same lines
but for those of a batch that the end leaves unfinished, and an end without an
exception leaves none. -/
theorem filterSacctLinesBatched_eq (reader : LineReader) (getDatetimes : List Str → Except PyError (List Int))
    (interval : ClosedInterval) (sacctIo : Generated Str) (batchSize : Int) (positive : 1 ≤ batchSize)
    (accepted : ∀ line ∈ sacctIo.yields, ∀ actualLine stop,
      reader.splitLine (strip line) = .ok (actualLine, stop) → ∃ time, reader.getDatetime stop = .ok time)
    (mapped : ∀ ends, getDatetimes ends = ends.mapM reader.getDatetime) :
    (filterSacctLinesBatched reader getDatetimes interval sacctIo batchSize).raises =
        (filterSacctLines reader interval sacctIo).raises ∧
      (∃ held, (filterSacctLines reader interval sacctIo).yields =
          (filterSacctLinesBatched reader getDatetimes interval sacctIo batchSize).yields ++ held ∧
        (held.length : Int) < batchSize) ∧
      ((filterSacctLines reader interval sacctIo).raises = none →
        filterSacctLinesBatched reader getDatetimes interval sacctIo batchSize =
          filterSacctLines reader interval sacctIo) := by
  have dated : ∀ split ∈ (splitLinesLoop reader sacctIo.yields).yields,
      ∃ time, reader.getDatetime split.2 = .ok time := by
    intro split member
    obtain ⟨line, inLines, run⟩ := mem_splitLinesLoop member
    exact accepted line inLines split.1 split.2 run
  have unbatched : filterSacctLines reader interval sacctIo =
      ⟨(splitLines reader sacctIo).yields.filterMap (keepLine reader.getDatetime interval),
        (splitLines reader sacctIo).raises⟩ := by
    rw [filterSacctLines, filterSacctLinesOneByOne_split reader interval dated]
    rfl
  by_cases one : batchSize = 1
  · rw [filterSacctLinesBatched, if_neg (by omega), if_pos one]
    exact ⟨rfl, ⟨[], by simp, by simp [one]⟩, fun _ => rfl⟩
  · have size : 0 < batchSize.toNat := by omega
    obtain ⟨ends, nonempty, held, whole, bound, last⟩ := batchIter_batches (splitLines reader sacctIo) size
    have batched : filterSacctLinesBatched reader getDatetimes interval sacctIo batchSize =
        ⟨(batchIter (splitLines reader sacctIo) batchSize.toNat).yields.flatten.filterMap
          (keepLine reader.getDatetime interval), (splitLines reader sacctIo).raises⟩ := by
      rw [filterSacctLinesBatched, if_neg (by omega), if_neg one, ← ends]
      refine filterBatches_flatten mapped interval _ nonempty fun split member => dated split ?_
      have inSplits : split ∈ (splitLines reader sacctIo).yields := by
        rw [whole]
        exact List.mem_append_left _ member
      exact inSplits
    rw [unbatched, batched]
    refine ⟨rfl, ⟨held.filterMap (keepLine reader.getDatetime interval), ?_, ?_⟩, fun finished => ?_⟩
    · simp only
      rw [← List.filterMap_append, ← whole]
    · have fewer := List.length_filterMap_le (keepLine reader.getDatetime interval) held
      omega
    · have none : held = [] := last finished
      rw [none, List.append_nil] at whole
      rw [← whole]

/-- Dates with one digit. -/
def digitDate (s : Str) : Except PyError Int :=
  match s with
  | [c] => if c.isDigit then .ok (intOfDigits s) else .error (.valueError "date: invalid date".toList)
  | _ => .error (.valueError "date: invalid date".toList)

/-- Lines with three columns: the start date is made time aware, the last column
is the end date. -/
def threeColumnReader : LineReader where
  lineSplitter s := s.splitOn '|'
  lineFormatter line :=
    match line with
    | [job, start, stop] => (digitDate start).map fun _ => [job, start, stop]
    | _ => .error (.exception "list index out of range".toList)
  lineLastColumnSplitter line := .ok (['|'].intercalate line.dropLast, line.getLastD [])
  getDatetime := digitDate

def sampleLines : List Str := ["7|1|2".toList, "\n".toList, "8|1|5".toList, "9|3|4\n".toList]

/-- Three lines and a blank one, in batches of two. -/
theorem filterSacctLinesBatched_eq_sample :
    filterSacctLinesBatched threeColumnReader (fun ends => ends.mapM digitDate) ⟨some 2, some 4, by decide⟩
        ⟨sampleLines, none⟩ 2 = ⟨["7|1".toList, "9|3".toList], none⟩ := by
  have dates : ∀ line ∈ sampleLines, (match threeColumnReader.splitLine (strip line) with
      | .ok split => (digitDate split.2).toBool
      | .error _ => true) = true := by decide
  have same := filterSacctLinesBatched_eq threeColumnReader (fun ends => ends.mapM digitDate)
    ⟨some 2, some 4, by decide⟩ ⟨sampleLines, none⟩ 2 (by decide)
    (fun line member actualLine stop run => by
      have date := dates line member
      rw [run] at date
      cases found : threeColumnReader.getDatetime stop with
      | ok time => exact ⟨time, rfl⟩
      | error e => simp [show digitDate stop = .error e from found, Except.toBool] at date)
    fun _ => rfl
  rw [same.2.2 (by decide)]
  decide

/-- A start date that cannot be read, behind end dates that can: the line before
it is in the same batch, and not yielded. -/
theorem filterSacctLinesBatched_holds_back :
    filterSacctLines threeColumnReader ⟨none, none, by decide⟩ ⟨["7|1|2".toList, "8|x|3".toList], none⟩ =
        ⟨["7|1".toList], some (.valueError "date: invalid date".toList)⟩ ∧
      filterSacctLinesBatched threeColumnReader (fun ends => ends.mapM digitDate) ⟨none, none, by decide⟩
          ⟨["7|1|2".toList, "8|x|3".toList], none⟩ 2 =
        ⟨[], some (.valueError "date: invalid date".toList)⟩ ∧
      threeColumnReader.getDatetime "2".toList = .ok 2 ∧ threeColumnReader.getDatetime "3".toList = .ok 3 := by
  decide

end GpuTelemetry
