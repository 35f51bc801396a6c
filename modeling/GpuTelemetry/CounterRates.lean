import Mathlib.Algebra.BigOperators.Group.List.Basic
import Mathlib.Algebra.Order.Field.Basic
import Mathlib.Algebra.Order.Floor.Ring
import Mathlib.Data.Int.Log
import Mathlib.Data.List.Induction
import Mathlib.Data.Rat.Floor
import Mathlib.Tactic.Ring

namespace GpuTelemetry

variable {K : Type}

/-! ### Rounded arithmetic -/

/-- The nearest binary64 number, of two the even one. The largest numbers are
not cut off. -/
def binary64 (q : ℚ) : ℚ :=
  let ulp : ℚ := 2 ^ max (Int.log 2 |q| - 52) (-1074)
  let floor := ⌊q / ulp⌋
  let rest := q / ulp - floor
  (if rest < 1 / 2 ∨ rest = 1 / 2 ∧ floor % 2 = 0 then floor else floor + 1 : ℤ) * ulp

/-- The sum of numbers from 0 on, rounded after each of them. -/
def sumRounded [Zero K] [Add K] (round : K → K) (values : List K) : K :=
  values.foldl (fun total value => round (total + value)) 0

/-! ### Rates of one counter -/

/-- What a scrape tells of a counter: nothing when it fails, nothing when it
leaves the counter out of its report, and otherwise its value, if it shows one. -/
inductive Reading (K : Type)
  | failed
  | absent
  | read (value : Option K)

/-- The value that is observed. -/
def Reading.value : Reading K → Option K
  | .failed | .absent => none
  | .read value => value

/-- A scrape with the length of the interval that its rates are for. -/
structure Scrape (K : Type) where
  reading : Reading K
  interval : K

def observed (run : List (Scrape K)) : List K := run.filterMap fun scrape => scrape.reading.value

theorem observed_snoc (run : List (Scrape K)) (scrape : Scrape K) :
    observed (run ++ [scrape]) = observed run ++ scrape.reading.value.toList := by
  rw [observed, List.filterMap_append]
  cases value : scrape.reading.value <;> simp [observed, value]

variable [Field K]

/-- What is remembered after a scrape; a scrape that fails keeps what there is. -/
def remember (remembered : Option K) : Reading K → Option K
  | .failed => some (remembered.getD 0)
  | .absent => some 0
  | .read value => some (value.getD 0)

def remembered (run : List (Scrape K)) : Option K := run.foldl (fun state scrape => remember state scrape.reading) none

/-- The last observed value minus the first. -/
def change (values : List K) : K :=
  match values.head?, values.getLast? with
  | some first, some last => last - first
  | _, _ => 0

/-- The value that a scrape after these is compared with: the one that the last
scrape without a failure showed, and 0 when it showed none or all have failed. -/
def compared (earlier : List (Scrape K)) : K :=
  earlier.foldl (fun previous scrape => match scrape.reading with
    | .failed => previous
    | .absent => 0
    | .read value => value.getD 0) 0

theorem remembered_eq (run : List (Scrape K)) : remembered run = if run = [] then none else some (compared run) := by
  induction run using List.reverseRecOn with
  | nil => rfl
  | append_singleton run scrape ih =>
    have kept : (remembered run).getD 0 = compared run := by
      rw [ih]
      split
      · rename_i empty
        simp [empty, compared]
      · rfl
    rw [if_neg (by simp)]
    simp only [remembered, compared, List.foldl_append, List.foldl_cons, List.foldl_nil] at kept ⊢
    cases scrape.reading with
    | failed => exact congrArg some kept
    | absent => rfl
    | read value => rfl

theorem change_snoc (values : List K) (value : K) :
    change (values ++ [value]) = change values + (value - (values.getLast?).getD value) := by
  cases values with
  | nil => simp [change]
  | cons first values =>
    obtain ⟨last, atLast⟩ : ∃ last, (first :: values).getLast? = some last :=
      ⟨_, List.getLast?_eq_some_getLast (by simp)⟩
    have atHead : (first :: values ++ [value]).head? = some first := rfl
    simp only [change, atHead, List.head?_cons, atLast, List.getLast?_append, List.getLast?_singleton, Option.some_or,
      Option.getD_some]
    ring

/-! ### Monitors -/

section

variable {ι σ μ β : Type} (scrape : ι → Option σ → μ × σ)

/-- The state that a run leaves, from no state. -/
def stateAfter (run : List ι) : Option σ := run.foldl (fun state i => some (scrape i state).2) none

/-- What is seen of each scrape of a run and the state before it. -/
def seenFrom (see : ι → Option σ → β) (state : Option σ) : List ι → List β
  | [] => []
  | i :: run => see i state :: seenFrom see (some (scrape i state).2) run

theorem seenFrom_snoc (see : ι → Option σ → β) (run : List ι) (i : ι) :
    seenFrom scrape see none (run ++ [i]) = seenFrom scrape see none run ++ [see i (stateAfter scrape run)] := by
  have general : ∀ state, seenFrom scrape see state (run ++ [i]) =
      seenFrom scrape see state run ++ [see i (run.foldl (fun state i => some (scrape i state).2) state)] := by
    induction run with
    | nil => intro state; rfl
    | cons j run ih => intro state; rw [List.cons_append, seenFrom, ih]; rfl
  exact general none

/-- A counter of a monitor: what a scrape tells of it, the rate in a report,
and the value in a state. -/
structure Counter (ι σ μ K : Type) where
  read : ι → Scrape K
  rate : μ → Option K
  stored : σ → K

variable (round : K → K) (counter : Counter ι σ μ K)

/-- What a value, 0 where none is shown, differs from the stored one by. -/
def Counter.difference (i : ι) (state : Option σ) : K :=
  match (counter.read i).reading, state with
  | .read value, some state => value.getD 0 - counter.stored state
  | _, _ => 0

/-- The sum of the differences whose rates are reported. -/
def reportedChange (run : List ι) : K :=
  (seenFrom scrape (fun i state =>
    if (counter.rate (scrape i state).1).isSome then counter.difference i state else 0) none run).sum

/-- The sum of rate times interval. -/
def reportedTotal (run : List ι) : K :=
  (seenFrom scrape (fun i state =>
    (counter.rate (scrape i state).1).getD 0 * (counter.read i).interval) none run).sum

theorem reportedChange_snoc (run : List ι) (i : ι) :
    reportedChange scrape counter (run ++ [i]) = reportedChange scrape counter run +
      if (counter.rate (scrape i (stateAfter scrape run)).1).isSome then counter.difference i (stateAfter scrape run)
      else 0 := by
  rw [reportedChange, seenFrom_snoc, List.sum_append, List.sum_singleton]
  rfl

theorem reportedTotal_snoc (run : List ι) (i : ι) :
    reportedTotal scrape counter (run ++ [i]) = reportedTotal scrape counter run +
      (counter.rate (scrape i (stateAfter scrape run)).1).getD 0 * (counter.read i).interval := by
  rw [reportedTotal, seenFrom_snoc, List.sum_append, List.sum_singleton]
  rfl

/-- The rate from one value to another, each result of which is rounded. -/
def perSecond (first second interval : K) : K := round (round (second - first) / interval)

/-- After a further scrape: its rate is the one from the value observed last
before, which is the stored one, to the value observed now, and the differences
of the rates so far sum up to the change of the counter. -/
structure TelescopesAt (earlier : List ι) (i : ι) : Prop where
  fromObserved : ∀ r, counter.rate (scrape i (stateAfter scrape earlier)).1 = some r →
    ∃ first second, (observed (earlier.map counter.read)).getLast? = some first ∧
      (stateAfter scrape earlier).map counter.stored = some first ∧ (counter.read i).reading.value = some second ∧
      r = perSecond round first second (counter.read i).interval
  total : reportedChange scrape counter (earlier ++ [i]) = change (observed ((earlier ++ [i]).map counter.read))

/-- No difference of a run is rounded, nor its quotient by the interval. -/
def ExactRates (run : List ι) : Prop :=
  ∀ earlier i later, run = earlier ++ i :: later →
    let difference := counter.difference i (stateAfter scrape earlier)
    round difference = difference ∧
      round (difference / (counter.read i).interval) = difference / (counter.read i).interval

/-- So it is after every scrape of a run, and where nothing is rounded the
products of rate and interval sum up to the change. -/
structure Telescopes (run : List ι) : Prop where
  each : ∀ earlier i later, run = earlier ++ i :: later → TelescopesAt scrape round counter earlier i
  exact : ExactRates scrape round counter run →
    reportedTotal scrape counter run = change (observed (run.map counter.read))

variable [LinearOrder K]

/-- The rate against the remembered value; a value that is not shown counts as 0. -/
def rateOf (remembered : Option K) (scrape : Scrape K) : Option K :=
  match scrape.reading, remembered with
  | .read value, some previous =>
    if round (value.getD 0 - previous) < 0 ∨ scrape.interval ≤ 0 then none
    else some (perSecond round previous (value.getD 0) scrape.interval)
  | _, _ => none

/-- A monitor that treats a counter as above. -/
structure FollowsCounter : Prop where
  rate_eq : ∀ i state, counter.rate (scrape i state).1 = rateOf round (state.map counter.stored) (counter.read i)
  stored_eq : ∀ i state, some (counter.stored (scrape i state).2) =
    remember (state.map counter.stored) (counter.read i).reading

end

/-! ### When the rates sum up -/

variable [LinearOrder K]

/-- A rate is reported: there was a scrape before, and the value read is not
below the one it is compared with. -/
def Reports (round : K → K) (earlier : List (Scrape K)) (scrape : Scrape K) (value : Option K) : Prop :=
  earlier ≠ [] ∧ 0 < scrape.interval ∧ 0 ≤ round (value.getD 0 - compared earlier)

/-- Where a rate is reported, the counter is shown and compared with the value
that was observed last; elsewhere it has not changed since. -/
def Comparable (round : K → K) (earlier : List (Scrape K)) (scrape : Scrape K) : Prop :=
  match scrape.reading with
  | .failed | .absent => True
  | .read value =>
    (Reports round earlier scrape value → value ≠ none ∧ (observed earlier).getLast? = some (compared earlier)) ∧
      (¬ Reports round earlier scrape value → ∀ now ∈ value, ∀ last ∈ (observed earlier).getLast?, now = last)

theorem rateOf_reports {round : K → K} {earlier : List (Scrape K)} {s : Scrape K} {value : Option K}
    (isRead : s.reading = .read value) (reports : Reports round earlier s value) :
    rateOf round (remembered earlier) s = some (perSecond round (compared earlier) (value.getD 0) s.interval) := by
  obtain ⟨some, positive, grown⟩ := reports
  rw [remembered_eq, if_neg some]
  simp only [rateOf, isRead]
  exact if_neg (not_or.mpr ⟨not_lt.mpr grown, not_le.mpr positive⟩)

theorem rateOf_silent {round : K → K} {earlier : List (Scrape K)} {s : Scrape K} {value : Option K}
    (isRead : s.reading = .read value) (silent : ¬ Reports round earlier s value) :
    rateOf round (remembered earlier) s = none := by
  rw [remembered_eq]
  by_cases first : earlier = []
  · simp only [rateOf, isRead, if_pos first]
  · rw [if_neg first]
    simp only [rateOf, isRead]
    refine if_pos ?_
    by_contra reported
    obtain ⟨grown, positive⟩ := not_or.mp reported
    exact silent ⟨first, not_le.mp positive, not_lt.mp grown⟩

section

variable {ι σ μ : Type} {scrape : ι → Option σ → μ × σ} {round : K → K} {counter : Counter ι σ μ K}
  {earlier : List ι} {i : ι} {value : Option K}

theorem FollowsCounter.stateAfter_eq (follows : FollowsCounter scrape round counter) (run : List ι) :
    (stateAfter scrape run).map counter.stored = remembered (run.map counter.read) := by
  induction run using List.reverseRecOn with
  | nil => rfl
  | append_singleton run i ih =>
    have step : stateAfter scrape (run ++ [i]) = some (scrape i (stateAfter scrape run)).2 := by
      rw [stateAfter, List.foldl_append]
      rfl
    have next : remembered ((run ++ [i]).map counter.read) =
        remember (remembered (run.map counter.read)) (counter.read i).reading := by
      rw [List.map_append, remembered, List.foldl_append]
      rfl
    rw [step, next, ← ih]
    exact follows.stored_eq i _

/-- The rate that is reported after a run. -/
theorem FollowsCounter.rate_after (follows : FollowsCounter scrape round counter) (earlier : List ι) (i : ι) :
    counter.rate (scrape i (stateAfter scrape earlier)).1 =
      rateOf round (remembered (earlier.map counter.read)) (counter.read i) := by
  rw [follows.rate_eq, follows.stateAfter_eq]

/-- Behind a rate there is a stored value. -/
theorem FollowsCounter.difference_after (follows : FollowsCounter scrape round counter)
    (isRead : (counter.read i).reading = .read value) (some : earlier ≠ []) :
    counter.difference i (stateAfter scrape earlier) = value.getD 0 - compared (earlier.map counter.read) ∧
      (stateAfter scrape earlier).map counter.stored = .some (compared (earlier.map counter.read)) := by
  have stored := follows.stateAfter_eq earlier
  rw [remembered_eq, if_neg (by simpa using some)] at stored
  obtain ⟨state, isState, same⟩ := Option.map_eq_some_iff.mp stored
  refine ⟨?_, stored⟩
  simp only [Counter.difference, isRead, isState, same]

omit [LinearOrder K] in
/-- What a shown value adds to the change. -/
theorem change_shown (earlier : List ι) {now : K} (isRead : (counter.read i).reading = .read (some now)) :
    change (observed ((earlier ++ [i]).map counter.read)) = change (observed (earlier.map counter.read)) +
      (now - ((observed (earlier.map counter.read)).getLast?).getD now) := by
  rw [List.map_append, List.map_singleton, observed_snoc, isRead, ← change_snoc]
  rfl

omit [LinearOrder K] in
/-- Without a rate and without a value nothing changes. -/
theorem telescopesAt_quiet
    (sofar : reportedChange scrape counter earlier = change (observed (earlier.map counter.read)))
    (noRate : counter.rate (scrape i (stateAfter scrape earlier)).1 = none)
    (noValue : (counter.read i).reading.value = none) : TelescopesAt scrape round counter earlier i := by
  refine ⟨fun r some => by simp [noRate] at some, ?_⟩
  rw [reportedChange_snoc, sofar, List.map_append, List.map_singleton, observed_snoc, noRate, noValue]
  simp

theorem FollowsCounter.telescopesAt_reported_iff (follows : FollowsCounter scrape round counter)
    (sofar : reportedChange scrape counter earlier = change (observed (earlier.map counter.read)))
    (isRead : (counter.read i).reading = .read value)
    (reports : Reports round (earlier.map counter.read) (counter.read i) value) :
    TelescopesAt scrape round counter earlier i ↔ value ≠ none ∧
      (observed (earlier.map counter.read)).getLast? = some (compared (earlier.map counter.read)) := by
  have reported := follows.rate_after earlier i
  rw [rateOf_reports isRead reports] at reported
  obtain ⟨differs, stored⟩ := follows.difference_after isRead (by simpa using reports.1)
  constructor
  · intro telescopes
    obtain ⟨first, second, atLast, isStored, shown, -⟩ := telescopes.fromObserved _ reported
    rw [stored] at isStored
    rw [isRead] at shown
    exact ⟨fun none => by simp [none, Reading.value] at shown, atLast.trans isStored.symm⟩
  · intro comparable
    obtain ⟨shown, atLast⟩ := comparable
    obtain ⟨now, rfl⟩ := Option.ne_none_iff_exists'.mp shown
    refine ⟨fun r isRate => ⟨_, now, atLast, stored, by rw [isRead, Reading.value], ?_⟩, ?_⟩
    · exact (Option.some.inj (reported.symm.trans isRate)).symm
    · rw [reportedChange_snoc, sofar, reported, Option.isSome_some, if_pos rfl, differs,
        change_shown earlier isRead, atLast]
      rfl

omit [LinearOrder K] in
theorem telescopesAt_silent_iff
    (sofar : reportedChange scrape counter earlier = change (observed (earlier.map counter.read)))
    (isRead : (counter.read i).reading = .read value)
    (silent : counter.rate (scrape i (stateAfter scrape earlier)).1 = none) :
    TelescopesAt scrape round counter earlier i ↔
      ∀ now ∈ value, ∀ last ∈ (observed (earlier.map counter.read)).getLast?, now = last := by
  cases value with
  | none => exact iff_of_true (telescopesAt_quiet sofar silent (by simp [isRead, Reading.value])) (by simp)
  | some now =>
    have sum : reportedChange scrape counter (earlier ++ [i]) = change (observed (earlier.map counter.read)) := by
      rw [reportedChange_snoc, sofar, silent]
      simp
    have grown := change_shown earlier isRead
    have unchanged : TelescopesAt scrape round counter earlier i ↔
        now - ((observed (earlier.map counter.read)).getLast?).getD now = 0 := by
      constructor
      · intro telescopes
        have same := telescopes.total
        rw [sum, grown] at same
        exact left_eq_add.mp same
      · intro none
        exact ⟨fun r isRate => by simp [silent] at isRate, by rw [sum, grown, none, add_zero]⟩
    rw [unchanged]
    cases (observed (earlier.map counter.read)).getLast? with
    | none => simp
    | some last => simp [sub_eq_zero]

/-- One scrape keeps the sum exactly when it is comparable. -/
theorem FollowsCounter.telescopesAt_iff (follows : FollowsCounter scrape round counter)
    (sofar : reportedChange scrape counter earlier = change (observed (earlier.map counter.read))) (i : ι) :
    TelescopesAt scrape round counter earlier i ↔
      Comparable round (earlier.map counter.read) (counter.read i) := by
  have reported := follows.rate_after earlier i
  cases isRead : (counter.read i).reading with
  | failed =>
    simp only [Comparable, isRead, iff_true]
    exact telescopesAt_quiet sofar (by rw [reported]; simp [rateOf, isRead]) (by simp [isRead, Reading.value])
  | absent =>
    simp only [Comparable, isRead, iff_true]
    exact telescopesAt_quiet sofar (by rw [reported]; simp [rateOf, isRead]) (by simp [isRead, Reading.value])
  | read value =>
    simp only [Comparable, isRead]
    by_cases reports : Reports round (earlier.map counter.read) (counter.read i) value
    · simp only [reports, true_imp_iff, not_true, false_imp_iff, and_true]
      exact follows.telescopesAt_reported_iff sofar isRead reports
    · rw [rateOf_silent isRead reports] at reported
      simp only [reports, false_imp_iff, not_false_iff, true_imp_iff, true_and]
      exact telescopesAt_silent_iff sofar isRead reported

/-- A rate that is not rounded gives its difference back. -/
theorem FollowsCounter.rate_exact (follows : FollowsCounter scrape round counter) (state : Option σ)
    (difference : round (counter.difference i state) = counter.difference i state)
    (quotient : round (counter.difference i state / (counter.read i).interval) =
      counter.difference i state / (counter.read i).interval) :
    (counter.rate (scrape i state).1).getD 0 * (counter.read i).interval =
      if (counter.rate (scrape i state).1).isSome then counter.difference i state else 0 := by
  rw [follows.rate_eq]
  cases isRead : (counter.read i).reading with
  | failed | absent => simp [rateOf, isRead]
  | read value =>
    cases state with
    | none => simp [rateOf, isRead]
    | some state =>
      simp only [Counter.difference, isRead] at difference quotient ⊢
      simp only [rateOf, isRead, Option.map_some, perSecond, difference, quotient]
      split
      · simp
      · rename_i reported
        have positive : (counter.read i).interval ≠ 0 := (not_le.mp (not_or.mp reported).2).ne'
        rw [Option.getD_some, div_mul_cancel₀ _ positive, Option.isSome_some, if_pos rfl]

theorem forall_split_snoc {P : List ι → ι → Prop} (run : List ι) (i : ι) :
    (∀ earlier j later, run ++ [i] = earlier ++ j :: later → P earlier j) ↔
      (∀ earlier j later, run = earlier ++ j :: later → P earlier j) ∧ P run i := by
  constructor
  · intro each
    refine ⟨fun earlier j later split => each earlier j (later ++ [i]) (by rw [split]; simp), each run i [] rfl⟩
  · rintro ⟨each, last⟩ earlier j later split
    rcases List.eq_nil_or_concat later with rfl | ⟨front, k, rfl⟩
    · obtain ⟨rfl, same⟩ := List.append_inj' split rfl
      obtain rfl : i = j := by simpa using same
      exact last
    · rw [List.concat_eq_append, ← List.cons_append, ← List.append_assoc] at split
      exact each earlier j front (List.append_inj' split rfl).1

theorem FollowsCounter.reportedTotal_eq (follows : FollowsCounter scrape round counter) {run : List ι}
    (exact : ExactRates scrape round counter run) :
    reportedTotal scrape counter run = reportedChange scrape counter run := by
  induction run using List.reverseRecOn with
  | nil => rfl
  | append_singleton run i ih =>
    obtain ⟨before, here⟩ := (forall_split_snoc run i).mp exact
    rw [reportedTotal_snoc, reportedChange_snoc, ih before, follows.rate_exact _ here.1 here.2]

/-- Over a whole run the rates come from observed values and sum up to the
change of the counter exactly when every scrape is comparable. -/
theorem FollowsCounter.telescopes_iff (follows : FollowsCounter scrape round counter) (run : List ι) :
    Telescopes scrape round counter run ↔
      ∀ earlier i later, run = earlier ++ i :: later →
        Comparable round (earlier.map counter.read) (counter.read i) := by
  have both : ((∀ earlier i later, run = earlier ++ i :: later → TelescopesAt scrape round counter earlier i) ↔
        ∀ earlier i later, run = earlier ++ i :: later →
          Comparable round (earlier.map counter.read) (counter.read i)) ∧
      ((∀ earlier i later, run = earlier ++ i :: later → TelescopesAt scrape round counter earlier i) →
        reportedChange scrape counter run = change (observed (run.map counter.read))) := by
    induction run using List.reverseRecOn with
    | nil => simp [reportedChange, seenFrom, change, observed]
    | append_singleton run i ih =>
      obtain ⟨comparable, total⟩ := ih
      rw [forall_split_snoc (P := TelescopesAt scrape round counter)]
      refine ⟨?_, fun telescopes => telescopes.2.total⟩
      rw [forall_split_snoc (P := fun earlier i => Comparable round (earlier.map counter.read) (counter.read i)),
        ← comparable]
      exact and_congr_right fun sofar => follows.telescopesAt_iff (total sofar) i
  refine ⟨fun telescopes => both.1.mp telescopes.each, fun comparable => ?_⟩
  have each := both.1.mpr comparable
  exact ⟨each, fun exact => (follows.reportedTotal_eq exact).trans (both.2 each)⟩

end

end GpuTelemetry
