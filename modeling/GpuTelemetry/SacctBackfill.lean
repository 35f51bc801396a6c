import GpuTelemetry.SacctFilter
import GpuTelemetry.Tiling

namespace GpuTelemetry

/-- `str` of a `timedelta`: days, if any, and the time of day. -/
def timedeltaText (t : Int) : Str :=
  let days := t / (86400 * second)
  let rest := (t % (86400 * second)).toNat
  let seconds := rest / 1000000
  let plural := if days = 1 ∨ days = -1 then " day, ".toList else " days, ".toList
  let fraction := if rest % 1000000 = 0 then [] else '.' :: zfill 6 (decimal (rest % 1000000))
  (if days = 0 then [] else intText days ++ plural) ++ decimal (seconds / 3600) ++
    ':' :: zfill 2 (decimal (seconds / 60 % 60)) ++ ':' :: zfill 2 (decimal (seconds % 60)) ++ fraction

/-- `datetime.max` on the clock of a zone, in microseconds from the start of 1970. -/
def datetimeMax : Int := 253402300799999999

/-- A time and a duration added, for a duration that is not negative. The sum
has to be shown by the clock of the time's zone, which is `zone` ahead of UTC. -/
def addTimedelta (zone time duration : Int) : Except PyError Int :=
  if time + zone + duration ≤ datetimeMax then .ok (time + duration)
  else .error (.overflowError "date value out of range".toList)

/-- The loop of `gen_time_bounds` from `start`; `none` when the fuel runs out.
`zone` is the offset of the lower bound's zone, in which every `start` stays. -/
def genTimeBoundsLoop (str : Int → Str) (zone step stop : Int) : Nat → Int →
    Option (Generated BoundedClosedInterval)
  | 0, _ => none
  | fuel + 1, start =>
    match addTimedelta zone start step with
    | .error e => some ⟨[], some e⟩
    | .ok next =>
      if next < stop then
        match BoundedClosedInterval.create str start (next - second) with
        | .error e => some ⟨[], some e⟩
        | .ok chunk => (genTimeBoundsLoop str zone step stop fuel next).map (.cons chunk)
      else
        match BoundedClosedInterval.create str start stop with
        | .error e => some ⟨[], some e⟩
        | .ok chunk => some ⟨[chunk], none⟩

def genTimeBounds (str : Int → Str) (zone : Int) (fuel : Nat) (interval : BoundedClosedInterval) (step : Int) :
    Option (Generated BoundedClosedInterval) :=
  if step ≤ second then
    some ⟨[], some (.valueError ("Step must be greater than one second but got ".toList ++ timedeltaText step))⟩
  else genTimeBoundsLoop str zone step interval.upper fuel interval.lower

def BoundedClosedInterval.bounds (interval : BoundedClosedInterval) : Int × Int := (interval.lower, interval.upper)

theorem second_pos : 0 < second := by decide

/-- The first of `start + step`, `start + 2 * step`, and so on, that is not
before `stop` can be shown by a `datetime`, and so can those before it. -/
def StepsInRange (zone step stop start : Int) : Prop :=
  ∀ n : ℕ, n = 0 ∨ start + n * step < stop → start + zone + (n + 1) * step ≤ datetimeMax

theorem StepsInRange.first {zone step stop start : Int} (shown : StepsInRange zone step stop start) :
    start + zone + step ≤ datetimeMax := by
  have atFirst := shown 0 (.inl rfl)
  omega

theorem stepsInRange_next {zone step stop start : Int} (more : start + step < stop) :
    StepsInRange zone step stop start ↔
      start + zone + step ≤ datetimeMax ∧ StepsInRange zone step stop (start + step) := by
  constructor
  · intro shown
    refine ⟨shown.first, fun n reached => ?_⟩
    have atNext : start + ((n + 1 : ℕ) : Int) * step < stop := by
      rcases reached with rfl | before
      · simpa using more
      · calc start + ((n + 1 : ℕ) : Int) * step = start + step + n * step := by push_cast; ring
          _ < stop := before
    calc start + step + zone + (n + 1) * step = start + zone + (((n + 1 : ℕ) : Int) + 1) * step := by
          push_cast; ring
      _ ≤ datetimeMax := shown (n + 1) (.inr atNext)
  · rintro ⟨first, later⟩ n reached
    cases n with
    | zero => simpa using first
    | succ n =>
      have before : start + ((n + 1 : ℕ) : Int) * step < stop := by simpa using reached
      have atNext := later n (.inr (by
        calc start + step + n * step = start + ((n + 1 : ℕ) : Int) * step := by push_cast; ring
          _ < stop := before))
      calc start + zone + (((n + 1 : ℕ) : Int) + 1) * step = start + step + zone + (n + 1) * step := by
            push_cast; ring
        _ ≤ datetimeMax := atNext

theorem stepsInRange_last {zone step stop start : Int} (positive : 0 < step) (last : ¬ start + step < stop) :
    StepsInRange zone step stop start ↔ start + zone + step ≤ datetimeMax := by
  refine ⟨StepsInRange.first, fun first n reached => ?_⟩
  cases n with
  | zero => simpa using first
  | succ n =>
    have before : start + ((n + 1 : ℕ) : Int) * step < stop := by simpa using reached
    have atLeast : step ≤ ((n + 1 : ℕ) : Int) * step := by
      have : 0 ≤ (n : Int) * step := Int.mul_nonneg (by omega) positive.le
      push_cast
      linarith
    omega

/-- From any aligned start whose steps can be shown the loop ends, and its
chunks tile what is left. -/
theorem genTimeBoundsLoop_tiles (str : Int → Str) {zone step stop start : Int} (long : second < step)
    (wholeStep : second ∣ step) (wholeStart : second ∣ start) (ordered : start ≤ stop)
    (shown : StepsInRange zone step stop start) :
    ∃ chunks, (∀ fuel, (stop - start).toNat < fuel →
        genTimeBoundsLoop str zone step stop fuel start = some ⟨chunks, none⟩) ∧
      Tiles second stop start (chunks.map BoundedClosedInterval.bounds) := by
  have positive := second_pos
  generalize distance : (stop - start).toNat = n
  induction n using Nat.strong_induction_on generalizing start with
  | _ n ih =>
    have added : addTimedelta zone start step = .ok (start + step) := if_pos shown.first
    by_cases more : start + step < stop
    · have chunkOrdered : start ≤ start + step - second := by omega
      obtain ⟨chunks, run, tiles⟩ := ih (stop - (start + step)).toNat (by omega)
        (Int.dvd_add wholeStart wholeStep) (by omega) ((stepsInRange_next more).mp shown).2 rfl
      refine ⟨⟨start, start + step - second, chunkOrdered⟩ :: chunks, ?_, ?_⟩
      · intro fuel bound
        obtain ⟨fuel, rfl⟩ : ∃ k, fuel = k + 1 := ⟨fuel - 1, by omega⟩
        simp only [genTimeBoundsLoop, added, if_pos more, BoundedClosedInterval.create_ok chunkOrdered,
          run fuel (by omega)]
        rfl
      · refine .next chunkOrdered ?_ ?_
        · exact Int.dvd_sub (Int.dvd_add wholeStart wholeStep) (Int.dvd_refl second)
        · rwa [Int.sub_add_cancel]
    · refine ⟨[⟨start, stop, ordered⟩], ?_, .last ordered⟩
      intro fuel bound
      obtain ⟨fuel, rfl⟩ : ∃ k, fuel = k + 1 := ⟨fuel - 1, by omega⟩
      simp only [genTimeBoundsLoop, added, if_neg more, BoundedClosedInterval.create_ok ordered]

/-- From a start with a step that cannot be shown the loop ends by the
exception, and its chunks stay before `stop`. -/
theorem genTimeBoundsLoop_overflows (str : Int → Str) {zone step stop start : Int} (long : second < step)
    (ordered : start ≤ stop) (unshown : ¬ StepsInRange zone step stop start) :
    ∃ chunks, (∀ fuel, (stop - start).toNat < fuel → genTimeBoundsLoop str zone step stop fuel start =
        some ⟨chunks, some (.overflowError "date value out of range".toList)⟩) ∧
      ∀ chunk ∈ chunks, chunk.upper < stop := by
  have positive := second_pos
  generalize distance : (stop - start).toNat = n
  induction n using Nat.strong_induction_on generalizing start with
  | _ n ih =>
    by_cases first : start + zone + step ≤ datetimeMax
    · have added : addTimedelta zone start step = .ok (start + step) := if_pos first
      have more : start + step < stop := by
        by_contra last
        exact unshown ((stepsInRange_last (by omega) last).mpr first)
      have chunkOrdered : start ≤ start + step - second := by omega
      obtain ⟨chunks, run, before⟩ := ih (stop - (start + step)).toNat (by omega) (by omega)
        (fun later => unshown ((stepsInRange_next more).mpr ⟨first, later⟩)) rfl
      refine ⟨⟨start, start + step - second, chunkOrdered⟩ :: chunks, ?_, ?_⟩
      · intro fuel bound
        obtain ⟨fuel, rfl⟩ : ∃ k, fuel = k + 1 := ⟨fuel - 1, by omega⟩
        simp only [genTimeBoundsLoop, added, if_pos more, BoundedClosedInterval.create_ok chunkOrdered,
          run fuel (by omega)]
        rfl
      · intro chunk member
        rcases List.mem_cons.mp member with rfl | inLater
        · show start + step - second < stop
          omega
        · exact before chunk inLater
    · refine ⟨[], fun fuel bound => ?_, by simp⟩
      obtain ⟨fuel, rfl⟩ : ∃ k, fuel = k + 1 := ⟨fuel - 1, by omega⟩
      have raised : addTimedelta zone start step = .error (.overflowError "date value out of range".toList) :=
        if_neg first
      simp only [genTimeBoundsLoop, raised]

section Backfill

variable {Record : Type} (reader : LineReader) (line output : Record → Str) (stop : Record → Int)

/-- The records ending in an interval. -/
abbrev endingIn (s : Multiset Record) (interval : BoundedClosedInterval) : Multiset Record :=
  within stop s interval.lower interval.upper

/-- What is published of a raw output after filtering it with its chunk. -/
def published (raw : BoundedClosedInterval → List Record) (chunk : BoundedClosedInterval) : Generated Str :=
  filterSacctLinesOneByOne reader chunk.closed ((raw chunk).map line)

/-- The raw output for a chunk can be read, and holds every record that ends in
the chunk, besides any that end elsewhere. -/
structure RawOutput (records : Multiset Record) (raw : BoundedClosedInterval → List Record)
    (chunk : BoundedClosedInterval) : Prop where
  readable : ∀ r ∈ raw chunk, Readable reader line output stop r
  complete : endingIn stop (raw chunk) chunk = endingIn stop records chunk

theorem published_chunk {records : Multiset Record} {raw : BoundedClosedInterval → List Record}
    {chunk : BoundedClosedInterval} (output_ok : RawOutput reader line output stop records raw chunk) :
    (published reader line raw chunk).raises = none ∧
      ((published reader line raw chunk).yields : Multiset Str) = (endingIn stop records chunk).map output := by
  rw [published, filterSacctLinesOneByOne_records chunk.closed output_ok.readable, ← output_ok.complete]
  refine ⟨rfl, ?_⟩
  simp [endingIn, within, ClosedInterval.contains, BoundedClosedInterval.closed]

end Backfill

/-- Whatever the records and the raw outputs of the chunks, each record that ends
in the interval is published once, and no other. -/
def PublishesEach (interval : BoundedClosedInterval) (chunks : List BoundedClosedInterval) : Prop :=
  ∀ (Record : Type) (reader : LineReader) (line output : Record → Str) (stop : Record → Int)
    (records : Multiset Record) (raw : BoundedClosedInterval → List Record), (∀ r ∈ records, second ∣ stop r) →
    (∀ chunk ∈ chunks, RawOutput reader line output stop records raw chunk) →
    (∀ chunk ∈ chunks, (published reader line raw chunk).raises = none) ∧
    (chunks.flatMap fun chunk => (published reader line raw chunk).yields : Multiset Str) =
      (endingIn stop records interval).map output

theorem Tiles.publishesEach {interval : BoundedClosedInterval} {chunks : List BoundedClosedInterval}
    (tiles : Tiles second interval.upper interval.lower (chunks.map BoundedClosedInterval.bounds)) :
    PublishesEach interval chunks := by
  intro Record reader line output stop records raw wholeEnds outputs
  refine ⟨fun chunk member => (published_chunk reader line output stop (outputs chunk member)).1, ?_⟩
  have sum := congrArg (Multiset.mapAddMonoidHom output) (tiles.sum_within second_pos wholeEnds)
  rw [List.map_map, map_list_sum, List.map_map] at sum
  rw [coe_flatMap]
  refine Eq.trans ?_ sum
  exact congrArg List.sum (List.map_congr_left fun chunk member =>
    (published_chunk reader line output stop (outputs chunk member)).2)

/-- A record that ends with the interval is lost to chunks that all end before. -/
theorem not_publishesEach {interval : BoundedClosedInterval} {chunks : List BoundedClosedInterval}
    (wholeUpper : second ∣ interval.upper) (before : ∀ chunk ∈ chunks, chunk.upper < interval.upper) :
    ¬ PublishesEach interval chunks := by
  intro publishes
  let reader : LineReader := ⟨fun _ => [], .ok, fun _ => .ok ([], []), fun _ => .ok interval.upper⟩
  have wholeEnds : ∀ r ∈ ({()} : Multiset Unit), second ∣ interval.upper := fun _ _ => wholeUpper
  have outputs : ∀ chunk ∈ chunks, RawOutput reader (fun _ => []) (fun _ => []) (fun _ : Unit => interval.upper)
      {()} (fun _ => []) chunk := by
    intro chunk member
    have outside := before chunk member
    refine ⟨by simp, (Multiset.filter_eq_nil.mpr fun _ _ inside => ?_).symm⟩
    exact absurd (inside.2.trans_lt outside) (lt_irrefl _)
  have equal := (publishes Unit reader (fun _ => []) (fun _ => []) (fun _ => interval.upper) {()} (fun _ => [])
    wholeEnds outputs).2
  have nothing : (chunks.flatMap fun chunk => (published reader (fun _ : Unit => []) (fun _ => []) chunk).yields) =
      [] := List.flatMap_eq_nil_iff.mpr fun _ _ => rfl
  have ends : endingIn (fun _ => interval.upper) ({()} : Multiset Unit) interval = {()} :=
    Multiset.filter_eq_self.mpr fun _ _ => ⟨interval.ordered, le_refl _⟩
  rw [nothing, ends] at equal
  exact absurd (congrArg Multiset.card equal) (by simp)

/-- A backfill ends without an exception, its chunks are intervals, and together
they publish each record that ends in the whole interval once, and no other. -/
def ExactlyOnce (str : Int → Str) (zone : Int) (interval : BoundedClosedInterval) (step : Int) : Prop :=
  ∃ chunks : List BoundedClosedInterval,
    (∀ fuel, (interval.upper - interval.lower).toNat < fuel →
      genTimeBounds str zone fuel interval step = some ⟨chunks, none⟩) ∧
    (∀ chunk ∈ chunks, chunk.lower ≤ chunk.upper) ∧ PublishesEach interval chunks

theorem exactlyOnce_of_tiles {str : Int → Str} {zone : Int} {interval : BoundedClosedInterval} {step : Int}
    (wholeLower : second ∣ interval.lower) (wholeStep : second ∣ step) (long : second < step)
    (shown : StepsInRange zone step interval.upper interval.lower) : ExactlyOnce str zone interval step := by
  obtain ⟨chunks, run, tiles⟩ := genTimeBoundsLoop_tiles str long wholeStep wholeLower interval.ordered shown
  refine ⟨chunks, fun fuel bound => ?_, fun chunk _ => chunk.ordered, tiles.publishesEach⟩
  rw [genTimeBounds, if_neg (by omega)]
  exact run fuel bound

/-- Where a step cannot be shown the backfill ends too, by an exception and with
records lost. -/
theorem overflow_loses {str : Int → Str} {zone : Int} {interval : BoundedClosedInterval} {step : Int}
    (wholeUpper : second ∣ interval.upper) (long : second < step)
    (unshown : ¬ StepsInRange zone step interval.upper interval.lower) :
    ∃ chunks, (∀ fuel, (interval.upper - interval.lower).toNat < fuel →
        genTimeBounds str zone fuel interval step =
          some ⟨chunks, some (.overflowError "date value out of range".toList)⟩) ∧
      ¬ PublishesEach interval chunks := by
  obtain ⟨chunks, run, before⟩ := genTimeBoundsLoop_overflows str long interval.ordered unshown
  refine ⟨chunks, fun fuel bound => ?_, not_publishesEach wholeUpper before⟩
  rw [genTimeBounds, if_neg (by omega)]
  exact run fuel bound

theorem not_exactlyOnce {str : Int → Str} {zone : Int} {interval : BoundedClosedInterval} {step : Int}
    (wholeUpper : second ∣ interval.upper) (long : second < step)
    (unshown : ¬ StepsInRange zone step interval.upper interval.lower) : ¬ ExactlyOnce str zone interval step := by
  rintro ⟨chunks, run, -⟩
  obtain ⟨others, ends, -⟩ := @overflow_loses str zone interval step wholeUpper long unshown
  have same := (run _ (Nat.lt_succ_self _)).symm.trans (ends _ (Nat.lt_succ_self _))
  exact absurd (congrArg Generated.raises (Option.some.inj same)) (by simp)

/-- A backfill is exactly-once when the loop's last `start + step` is still a
`datetime`; where it is not, the loop ends by the exception and loses records. -/
theorem backfill_exactlyOnce_iff (str : Int → Str) (zone : Int) (interval : BoundedClosedInterval) (step : Int)
    (wholeLower : second ∣ interval.lower) (wholeUpper : second ∣ interval.upper)
    (wholeStep : second ∣ step) (long : second < step) :
    (ExactlyOnce str zone interval step ↔ StepsInRange zone step interval.upper interval.lower) ∧
    (¬ StepsInRange zone step interval.upper interval.lower →
      ∃ chunks, (∀ fuel, (interval.upper - interval.lower).toNat < fuel →
          genTimeBounds str zone fuel interval step =
            some ⟨chunks, some (.overflowError "date value out of range".toList)⟩) ∧
        ¬ PublishesEach interval chunks) := by
  refine ⟨⟨fun once => ?_, exactlyOnce_of_tiles wholeLower wholeStep long⟩, overflow_loses wholeUpper long⟩
  by_contra unshown
  exact not_exactlyOnce wholeUpper long unshown once

/-- Two printed jobs, by the column before their end date. -/
def sampleLine (job : Bool) : Str :=
  if job then "7|1970-01-01T00:59:59".toList else "8|1970-01-01T01:00:00".toList

def sampleOutput (job : Bool) : Str := if job then "7".toList else "8".toList

def sampleStop (job : Bool) : Int := if job then 3599 * second else 3600 * second

/-- Lines with two columns, and the two dates of the sample. -/
def sampleReader : LineReader where
  lineSplitter s := s.splitOn '|'
  lineFormatter line := .ok line
  lineLastColumnSplitter line := .ok (line.headD [], line.getLastD [])
  getDatetime s :=
    if s = "1970-01-01T00:59:59".toList then .ok (3599 * second)
    else if s = "1970-01-01T01:00:00".toList then .ok (3600 * second)
    else .error (.valueError "date: invalid date".toList)

/-- Two hours, in chunks of one hour whose raw outputs hold both jobs. -/
theorem backfill_exactlyOnce_sample : ∃ chunks : List BoundedClosedInterval,
    (∀ fuel, 7200000000 < fuel →
      genTimeBounds timedeltaText 0 fuel ⟨0, 7200 * second, by decide⟩ (3600 * second) = some ⟨chunks, none⟩) ∧
    (chunks.flatMap fun chunk => (published sampleReader sampleLine (fun _ => [true, false]) chunk).yields :
      Multiset Str) = ["7".toList, "8".toList] := by
  have shown : StepsInRange 0 (3600 * second) (7200 * second) 0 := by
    intro n reached
    have few : n ≤ 1 := by
      rcases reached with rfl | before
      · omega
      · simp only [second] at before
        omega
    simp only [second, datetimeMax]
    omega
  obtain ⟨chunks, run, -, publishes⟩ := (backfill_exactlyOnce_iff timedeltaText 0 ⟨0, 7200 * second, by decide⟩
    (3600 * second) (by decide) (by decide) (by decide) (by decide)).1.mpr shown
  have wholeEnds : ∀ job ∈ ([true, false] : Multiset Bool), second ∣ sampleStop job := by decide
  refine ⟨chunks, run, (publishes Bool sampleReader sampleLine sampleOutput sampleStop [true, false]
    (fun _ => [true, false]) wholeEnds fun chunk _ => ⟨?_, rfl⟩).2⟩
  intro job _
  cases job with
  | true => exact ⟨by decide, by decide⟩
  | false => exact ⟨by decide, by decide⟩

/-- Three hours of a backfill in steps of a hundred million hours. -/
theorem backfill_overflows : ¬ ExactlyOnce timedeltaText 0
    ⟨1767225600 * second, 1767236400 * second, by decide⟩ (100000000 * (3600 * second)) := by
  refine not_exactlyOnce (by decide) (by decide) fun shown => ?_
  have first := shown.first
  simp only [second, datetimeMax] at first
  omega

end GpuTelemetry
