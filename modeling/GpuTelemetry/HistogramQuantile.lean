import GpuTelemetry.Exceptions
import GpuTelemetry.Interpolation
import GpuTelemetry.Prometheus
import Mathlib.Order.Bounds.Defs

namespace GpuTelemetry

/-! ### The divisions -/

/-- `/` on floats. -/
def floatDivide (a b : ℚ) : Except PyError ℚ :=
  if b = 0 then .error (.zeroDivisionError "float division by zero".toList) else .ok (a / b)

/-- The loop of `histogram_quantile` with the exceptions of its division. -/
def quantileLoopRaising (target : ℚ) : ℚ → ℚ → List (ℚ × ℚ) → Except PyError (Option ℚ)
  | _, _, [] => .ok none
  | prevLe, prevCount, (le, cumCount) :: finite =>
    if target ≤ cumCount then
      if cumCount = prevCount then .ok (some prevLe)
      else (floatDivide ((le - prevLe) * (target - prevCount)) (cumCount - prevCount)).map fun step =>
        some (prevLe + step)
    else quantileLoopRaising target le cumCount finite

/-- The buckets with a finite bound, in order. -/
def finiteBuckets (buckets : List (WithTop ℚ × ℚ)) : List (ℚ × ℚ) :=
  (buckets.filterMap fun bucket => match bucket.1 with
    | ⊤ => none
    | (le : ℚ) => some (le, bucket.2)).insertionSort fun a b => pairLe a b = true

/-- `histogram_quantile` with the exceptions of its division. -/
def histogramQuantileRaising (buckets : List (WithTop ℚ × ℚ)) (count quantile : ℚ) : Except PyError (Option ℚ) :=
  if count = 0 then .ok none
  else
    match (finiteBuckets buckets).getLast? with
    | none => .ok none
    | some largest =>
      (quantileLoopRaising (quantile * count) 0 0 (finiteBuckets buckets)).map fun found => found.or (some largest.1)

theorem histogramQuantile_eq (buckets : List (WithTop ℚ × ℚ)) (count quantile : ℚ) :
    histogramQuantile buckets count quantile =
      if count = 0 then none
      else match (finiteBuckets buckets).getLast? with
        | none => none
        | some largest => (quantileLoop (quantile * count) 0 0 (finiteBuckets buckets)).or (some largest.1) :=
  rfl

theorem quantileLoopRaising_eq (target prevLe prevCount : ℚ) (finite : List (ℚ × ℚ)) :
    quantileLoopRaising target prevLe prevCount finite = .ok (quantileLoop target prevLe prevCount finite) := by
  induction finite generalizing prevLe prevCount with
  | nil => rfl
  | cons bucket finite ih =>
    obtain ⟨le, cumCount⟩ := bucket
    rw [quantileLoopRaising, quantileLoop]
    split
    · split
      · rfl
      · rename_i rising
        have divisor : cumCount - prevCount ≠ 0 := sub_ne_zero.mpr rising
        rw [floatDivide, if_neg divisor]
        rfl
    · exact ih le cumCount

/-- No division by zero. -/
theorem histogramQuantileRaising_eq (buckets : List (WithTop ℚ × ℚ)) (count quantile : ℚ) :
    histogramQuantileRaising buckets count quantile = .ok (histogramQuantile buckets count quantile) := by
  rw [histogramQuantileRaising, histogramQuantile_eq, quantileLoopRaising_eq]
  split
  · rfl
  · cases (finiteBuckets buckets).getLast? <;> rfl

/-! ### The curve of the cumulative counts -/

/-- The loop, with the largest bound behind it, follows the curve through the buckets. -/
theorem quantileLoop_reaches (target : ℚ) (a : ℚ × ℚ) {finite : List (ℚ × ℚ)} {largest : ℚ × ℚ}
    (last : (a :: finite).getLast? = some largest) :
    (quantileLoop target a.1 a.2 finite).or (some largest.1) = some (reaches target a finite) := by
  induction finite generalizing a with
  | nil =>
    obtain rfl : a = largest := Option.some.inj last
    rfl
  | cons b finite ih =>
    rw [quantileLoop, reaches]
    split
    · split <;> rfl
    · exact ih b (by rwa [List.getLast?_cons_cons] at last)

theorem pairLe_total (a b : ℚ × ℚ) : pairLe a b = true ∨ pairLe b a = true := by
  simp only [pairLe, decide_eq_true_eq]
  rcases lt_trichotomy a.1 b.1 with less | same | greater
  · exact .inl (.inl less)
  · exact (le_total a.2 b.2).imp (fun le => .inr ⟨same, le⟩) fun ge => .inr ⟨same.symm, ge⟩
  · exact .inr (.inl greater)

theorem pairLe_trans {a b c : ℚ × ℚ} (ab : pairLe a b = true) (bc : pairLe b c = true) : pairLe a c = true := by
  simp only [pairLe, decide_eq_true_eq] at ab bc ⊢
  rcases ab with ab | ⟨ab, le⟩
  · rcases bc with bc | ⟨bc, -⟩
    · exact .inl (ab.trans bc)
    · exact .inl (bc ▸ ab)
  · rcases bc with bc | ⟨bc, le'⟩
    · exact .inl (ab ▸ bc)
    · exact .inr ⟨ab.trans bc, le.trans le'⟩

theorem pairLe_antisymm {a b : ℚ × ℚ} (ab : pairLe a b = true) (ba : pairLe b a = true) : a = b := by
  simp only [pairLe, decide_eq_true_eq] at ab ba
  rcases ab with less | ⟨same, le⟩
  · rcases ba with greater | ⟨same, -⟩
    · exact absurd greater less.asymm
    · exact absurd same less.ne'
  · rcases ba with greater | ⟨-, ge⟩
    · exact absurd same greater.ne'
    · exact Prod.ext same (le_antisymm le ge)

instance : Std.Total fun a b : ℚ × ℚ => pairLe a b = true := ⟨pairLe_total⟩

instance : IsTrans (ℚ × ℚ) fun a b => pairLe a b = true := ⟨fun _ _ _ => pairLe_trans⟩

theorem mem_finiteBuckets {buckets : List (WithTop ℚ × ℚ)} {b : ℚ × ℚ} :
    b ∈ finiteBuckets buckets ↔ ((b.1 : WithTop ℚ), b.2) ∈ buckets := by
  rw [finiteBuckets, List.mem_insertionSort, List.mem_filterMap]
  constructor
  · rintro ⟨⟨bound, value⟩, member, finite⟩
    cases bound with
    | top => cases finite
    | coe le =>
      obtain rfl : (le, value) = b := Option.some.inj finite
      exact member
  · exact fun member => ⟨_, member, rfl⟩

theorem finiteBuckets_sorted (buckets : List (WithTop ℚ × ℚ)) :
    (finiteBuckets buckets).Pairwise fun a b => pairLe a b = true :=
  List.pairwise_insertionSort _ _

/-- The order of the buckets does not matter. -/
theorem finiteBuckets_perm {buckets buckets' : List (WithTop ℚ × ℚ)} (order : buckets.Perm buckets') :
    finiteBuckets buckets = finiteBuckets buckets' := by
  have same : (finiteBuckets buckets).Perm (finiteBuckets buckets') :=
    (List.perm_insertionSort _ _).trans ((order.filterMap _).trans (List.perm_insertionSort _ _).symm)
  exact same.eq_of_pairwise (fun a b _ _ => pairLe_antisymm) (finiteBuckets_sorted buckets)
    (finiteBuckets_sorted buckets')

theorem histogramQuantile_perm {buckets buckets' : List (WithTop ℚ × ℚ)} (order : buckets.Perm buckets')
    (count quantile : ℚ) : histogramQuantile buckets count quantile = histogramQuantile buckets' count quantile := by
  rw [histogramQuantile_eq, histogramQuantile_eq, finiteBuckets_perm order]

/-- Buckets of a histogram, in any order: bounds that are not negative, one of
them finite, and counts that do not fall with the bound. -/
structure CumulativeBuckets (buckets : List (WithTop ℚ × ℚ)) : Prop where
  someFinite : ∃ bucket ∈ buckets, bucket.1 ≠ ⊤
  bounds : ∀ bucket ∈ buckets, 0 ≤ bucket.1
  counts : ∀ bucket ∈ buckets, 0 ≤ bucket.2
  cumulative : ∀ a ∈ buckets, ∀ b ∈ buckets, a.1 < b.1 → a.2 ≤ b.2

section

variable {buckets : List (WithTop ℚ × ℚ)} (cumulative : CumulativeBuckets buckets)

include cumulative

/-- The curve starts at the origin and never falls. -/
theorem CumulativeBuckets.ascending : ((0, 0) :: finiteBuckets buckets).Pairwise (· ≤ ·) := by
  have sorted := finiteBuckets_sorted buckets
  refine List.pairwise_cons.mpr ⟨fun b member => ?_, sorted.imp_of_mem fun {a b} inA inB ordered => ?_⟩
  · have inBuckets := mem_finiteBuckets.mp member
    exact ⟨WithTop.coe_le_coe.mp (cumulative.bounds _ inBuckets), cumulative.counts _ inBuckets⟩
  · simp only [pairLe, decide_eq_true_eq] at ordered
    rcases ordered with less | ⟨same, le⟩
    · exact ⟨less.le, cumulative.cumulative _ (mem_finiteBuckets.mp inA) _ (mem_finiteBuckets.mp inB)
        (WithTop.coe_lt_coe.mpr less)⟩
    · exact ⟨same.le, le⟩

/-- The last of the finite buckets has the largest finite bound. -/
theorem CumulativeBuckets.exists_largest : ∃ largest, (finiteBuckets buckets).getLast? = some largest ∧
    IsGreatest {le : ℚ | (le : WithTop ℚ) ∈ buckets.map Prod.fst} largest.1 := by
  obtain ⟨⟨bound, value⟩, member, finite⟩ := cumulative.someFinite
  obtain ⟨le, rfl⟩ := WithTop.ne_top_iff_exists.mp finite
  have nonempty : finiteBuckets buckets ≠ [] := List.ne_nil_of_mem (mem_finiteBuckets (b := (le, value)).mpr member)
  obtain ⟨front, largest, parts⟩ := List.eq_nil_or_concat (finiteBuckets buckets) |>.resolve_left nonempty
  have inFinite : largest ∈ finiteBuckets buckets := by simp [parts]
  refine ⟨largest, by simp [parts], List.mem_map.mpr ⟨_, mem_finiteBuckets.mp inFinite, rfl⟩, ?_⟩
  intro other isBound
  obtain ⟨bucket, inBuckets, isOther⟩ := List.mem_map.mp isBound
  have inSorted : (other, bucket.2) ∈ finiteBuckets buckets := by
    rw [mem_finiteBuckets]
    exact isOther ▸ inBuckets
  have ordered := cumulative.ascending.of_cons
  rw [parts, List.concat_eq_append] at ordered inSorted
  rcases List.mem_append.mp inSorted with before | isLargest
  · exact ((List.pairwise_append.mp ordered).2.2 _ before largest (by simp)).1
  · rw [← List.mem_singleton.mp isLargest]

/-- Every quantile is found on the curve. -/
theorem CumulativeBuckets.quantile_reaches {count : ℚ} (positive : 0 < count) (quantile : ℚ) :
    histogramQuantile buckets count quantile =
      some (reaches (quantile * count) (0, 0) (finiteBuckets buckets)) := by
  obtain ⟨largest, last, -⟩ := cumulative.exists_largest
  have atEnd : ((0, 0) :: finiteBuckets buckets).getLast? = some largest := by
    rw [List.getLast?_cons, last]
    rfl
  have found := quantileLoop_reaches (quantile * count) (0, 0) atEnd
  rw [histogramQuantile_eq, if_neg positive.ne', last]
  exact found

end

/-- No division by zero, a result between 0 and the largest finite bound, and a
larger one for a larger quantile. -/
theorem histogramQuantile_monotone {buckets : List (WithTop ℚ × ℚ)} {count : ℚ}
    (cumulative : CumulativeBuckets buckets) (positive : 0 < count) :
    ∃ (result : ℚ → ℚ) (largest : ℚ),
      IsGreatest {le : ℚ | (le : WithTop ℚ) ∈ buckets.map Prod.fst} largest ∧
        (∀ quantile ∈ Set.Icc (0 : ℚ) 1,
          histogramQuantileRaising buckets count quantile = .ok (some (result quantile)) ∧
            result quantile ∈ Set.Icc 0 largest) ∧
        MonotoneOn result (Set.Icc 0 1) := by
  obtain ⟨largest, last, greatest⟩ := cumulative.exists_largest
  have ascending := cumulative.ascending
  have bounded : ∀ b ∈ (0, 0) :: finiteBuckets buckets, b.1 ≤ largest.1 := by
    refine List.forall_mem_cons.mpr ⟨?_, fun b member => ?_⟩
    · exact ((List.pairwise_cons.mp ascending).1 largest (List.mem_of_getLast? last)).1
    · exact greatest.2 (List.mem_map.mpr ⟨_, mem_finiteBuckets.mp member, rfl⟩)
  refine ⟨fun quantile => reaches (quantile * count) (0, 0) (finiteBuckets buckets), largest.1, greatest, ?_, ?_⟩
  · intro quantile within
    have above : (0 : ℚ) ≤ quantile * count := mul_nonneg within.1 positive.le
    rw [histogramQuantileRaising_eq, cumulative.quantile_reaches positive]
    exact ⟨rfl, le_reaches ascending above, reaches_le ascending bounded⟩
  · intro quantile within quantile' within' le
    have above : (0 : ℚ) ≤ quantile * count := mul_nonneg within.1 positive.le
    exact reaches_mono ascending above (mul_le_mul_of_nonneg_right le positive.le)

/-- Buckets out of order, an empty one among them. -/
theorem histogramQuantile_monotone_unsorted :
    ∃ (result : ℚ → ℚ) (largest : ℚ),
      IsGreatest {le : ℚ | (le : WithTop ℚ) ∈
        [((2 : ℚ) : WithTop ℚ), ⊤, ((1 : ℚ) : WithTop ℚ), ((4 : ℚ) : WithTop ℚ)]} largest ∧
        (∀ quantile ∈ Set.Icc (0 : ℚ) 1,
          histogramQuantileRaising
              [(((2 : ℚ) : WithTop ℚ), 3), (⊤, 7), (((1 : ℚ) : WithTop ℚ), 3), (((4 : ℚ) : WithTop ℚ), 5)] 7 quantile =
              .ok (some (result quantile)) ∧
            result quantile ∈ Set.Icc 0 largest) ∧
        MonotoneOn result (Set.Icc 0 1) :=
  @histogramQuantile_monotone
    [(((2 : ℚ) : WithTop ℚ), 3), (⊤, 7), (((1 : ℚ) : WithTop ℚ), 3), (((4 : ℚ) : WithTop ℚ), 5)] 7
    (by constructor <;> decide +kernel) (by decide +kernel)

end GpuTelemetry
