import GpuTelemetry.DeviceWindow
import Mathlib.Algebra.BigOperators.Group.List.Basic
import Mathlib.Algebra.Order.BigOperators.Group.List
import Mathlib.Algebra.Order.Field.Basic
import Mathlib.Tactic.Linarith

namespace GpuTelemetry

/-! ### Utilizations with and without their zeros -/

/-- The maximum, the minimum and the mean of numbers, or 0 where there are none. -/
structure Summarises (utils : List ℚ) (host : HostMetrics) : Prop where
  none : utils = [] → host.maxGpuUtil = 0 ∧ host.minGpuUtil = 0 ∧ host.avgGpuUtil = 0
  max : utils ≠ [] → host.maxGpuUtil ∈ utils ∧ ∀ u ∈ utils, u ≤ host.maxGpuUtil
  min : utils ≠ [] → host.minGpuUtil ∈ utils ∧ ∀ u ∈ utils, host.minGpuUtil ≤ u
  avg : utils ≠ [] → host.avgGpuUtil * utils.length = utils.sum

/-- What `filter(None, ...)` leaves of the numbers. -/
def nonzero (utils : List ℚ) : List ℚ := utils.filter (· ≠ 0)

theorem mem_nonzero {utils : List ℚ} {u : ℚ} : u ∈ nonzero utils ↔ u ∈ utils ∧ u ≠ 0 := by
  rw [nonzero, List.mem_filter, decide_eq_true_iff]

theorem sum_nonzero (utils : List ℚ) : (nonzero utils).sum = utils.sum := by
  induction utils with
  | nil => rfl
  | cons u utils ih =>
    rw [nonzero] at ih ⊢
    by_cases zero : u = 0
    · rw [List.filter_cons_of_neg (by simpa using zero), ih, List.sum_cons, zero, zero_add]
    · rw [List.filter_cons_of_pos (by simpa using zero), List.sum_cons, List.sum_cons, ih]

theorem nonzero_eq {utils : List ℚ} (free : 0 ∉ utils) : nonzero utils = utils :=
  List.filter_eq_self.mpr fun _ member => decide_eq_true fun zero => free (zero ▸ member)

theorem nonzero_length_lt {utils : List ℚ} (zero : 0 ∈ utils) : (nonzero utils).length < utils.length :=
  List.length_filter_lt_length_iff_exists.mpr ⟨0, zero, by simp⟩

/-- Nonzero numbers that cancel out lie on both sides of zero. -/
theorem balanced {utils : List ℚ} (cancel : utils.sum = 0) (some : nonzero utils ≠ []) :
    (∃ u ∈ nonzero utils, 0 < u) ∧ ∃ u ∈ nonzero utils, u < 0 := by
  rw [← sum_nonzero] at cancel
  constructor
  · by_contra none
    have negative : ∀ u ∈ (nonzero utils).map Neg.neg, 0 < u := by
      intro v member
      obtain ⟨u, isUtil, rfl⟩ := List.mem_map.mp member
      have nonpos : u ≤ 0 := not_lt.mp fun positive => none ⟨u, isUtil, positive⟩
      exact neg_pos.mpr (lt_of_le_of_ne nonpos (mem_nonzero.mp isUtil).2)
    have positive := List.sum_pos _ negative (by simpa using some)
    rw [← List.sum_neg, cancel] at positive
    exact absurd positive (by norm_num)
  · by_contra none
    have positive : ∀ u ∈ nonzero utils, 0 < u := by
      intro u isUtil
      have nonneg : 0 ≤ u := not_lt.mp fun negative => none ⟨u, isUtil, negative⟩
      exact lt_of_le_of_ne nonneg (mem_nonzero.mp isUtil).2.symm
    exact absurd cancel (List.sum_pos _ positive some).ne'

/-- A summary of values with a zero has the average of the others, only if that is zero. -/
theorem sum_eq_zero_of_summarises {utils : List ℚ} {host : HostMetrics} (summary : Summarises (nonzero utils) host)
    (all : Summarises utils host) (zero : (0 : ℚ) ∈ utils) : utils.sum = 0 := by
  by_contra sum
  have utilsSome : utils ≠ [] := List.ne_nil_of_mem zero
  have keptSome : nonzero utils ≠ [] := by
    intro empty
    rw [← sum_nonzero, empty] at sum
    exact sum rfl
  have fewer := nonzero_length_lt zero
  have scaled := (summary.avg keptSome).trans (sum_nonzero utils)
  have avgZero : host.avgGpuUtil = 0 := by
    by_contra nonzeroAvg
    rw [← all.avg utilsSome] at scaled
    have lengths : (nonzero utils).length = utils.length := by exact_mod_cast mul_left_cancel₀ nonzeroAvg scaled
    omega
  rw [avgZero, zero_mul] at scaled
  exact sum scaled.symm

theorem summarises_zeros {utils : List ℚ} {host : HostMetrics} (summary : Summarises (nonzero utils) host)
    (cancel : utils.sum = 0) (kept : nonzero utils = []) : Summarises utils host := by
  obtain ⟨max, min, avg⟩ := summary.none kept
  have zero : ∀ u ∈ utils, u = 0 := by
    intro u member
    by_contra isNonzero
    have inKept := mem_nonzero.mpr ⟨member, isNonzero⟩
    rw [kept] at inKept
    exact List.not_mem_nil inKept
  have member : utils ≠ [] → (0 : ℚ) ∈ utils := by
    intro some
    obtain ⟨u, member⟩ := List.exists_mem_of_ne_nil _ some
    exact zero u member ▸ member
  refine ⟨fun _ => ⟨max, min, avg⟩, fun some => ?_, fun some => ?_, fun _ => by rw [avg, cancel, zero_mul]⟩
  · rw [max]
    exact ⟨member some, fun u isUtil => (zero u isUtil).le⟩
  · rw [min]
    exact ⟨member some, fun u isUtil => (zero u isUtil).ge⟩

/-- Values that cancel lie on both sides of zero. -/
theorem summarises_balanced {utils : List ℚ} {host : HostMetrics} (summary : Summarises (nonzero utils) host)
    (cancel : utils.sum = 0) (kept : nonzero utils ≠ []) : Summarises utils host := by
  obtain ⟨⟨high, isHigh, positive⟩, low, isLow, negative⟩ := balanced cancel kept
  obtain ⟨maxMember, maxBound⟩ := summary.max kept
  obtain ⟨minMember, minBound⟩ := summary.min kept
  have avg : host.avgGpuUtil = 0 := by
    have length : ((nonzero utils).length : ℚ) ≠ 0 := by simpa using kept
    have product := summary.avg kept
    rw [sum_nonzero, cancel] at product
    exact (mul_eq_zero.mp product).resolve_right length
  have some : utils ≠ [] := List.ne_nil_of_mem (mem_nonzero.mp isHigh).1
  refine ⟨fun none => absurd none some, fun _ => ⟨(mem_nonzero.mp maxMember).1, fun u member => ?_⟩,
    fun _ => ⟨(mem_nonzero.mp minMember).1, fun u member => ?_⟩, fun _ => by rw [avg, cancel, zero_mul]⟩
  · by_cases zero : u = 0
    · exact zero ▸ (positive.le.trans (maxBound high isHigh))
    · exact maxBound u (mem_nonzero.mpr ⟨member, zero⟩)
  · by_cases zero : u = 0
    · exact zero ▸ ((minBound low isLow).trans negative.le)
    · exact minBound u (mem_nonzero.mpr ⟨member, zero⟩)

/-- What the zeros change in a summary. -/
theorem summarises_nonzero_iff {utils : List ℚ} {host : HostMetrics} (summary : Summarises (nonzero utils) host) :
    Summarises utils host ↔ 0 ∉ utils ∨ utils.sum = 0 := by
  constructor
  · intro all
    by_cases zero : (0 : ℚ) ∈ utils
    · exact .inr (sum_eq_zero_of_summarises summary all zero)
    · exact .inl zero
  · rintro (free | cancel)
    · rwa [nonzero_eq free] at summary
    · by_cases kept : nonzero utils = []
      · exact summarises_zeros summary cancel kept
      · exact summarises_balanced summary cancel kept

theorem computeHostLevelMetrics_summarises {names : List String} (metrics : List (Metrics names)) (ramUtil : ℚ) :
    Summarises (nonzero (metrics.filterMap gpuUtil)) (computeHostLevelMetrics metrics ramUtil) := by
  have host : computeHostLevelMetrics metrics ramUtil =
      let gpuUtils := nonzero (metrics.filterMap gpuUtil)
      ⟨gpuUtils.max?.getD 0, gpuUtils.min?.getD 0,
        if 0 < gpuUtils.length then gpuUtils.sum / gpuUtils.length else 0, ramUtil⟩ := rfl
  rw [host]
  generalize nonzero (metrics.filterMap gpuUtil) = gpuUtils
  by_cases none : gpuUtils = []
  · subst none
    exact ⟨fun _ => ⟨rfl, rfl, rfl⟩, fun some => absurd rfl some, fun some => absurd rfl some,
      fun some => absurd rfl some⟩
  · obtain ⟨max, isMax⟩ := Option.ne_none_iff_exists'.mp (mt List.max?_eq_none_iff.mp none)
    obtain ⟨min, isMin⟩ := Option.ne_none_iff_exists'.mp (mt List.min?_eq_none_iff.mp none)
    have length : 0 < gpuUtils.length := List.length_pos_iff.mpr none
    dsimp only
    rw [isMax, isMin, if_pos length]
    exact ⟨fun empty => absurd empty none, fun _ => List.max?_eq_some_iff.mp isMax,
      fun _ => List.min?_eq_some_iff.mp isMin, fun _ => div_mul_cancel₀ _ (Nat.cast_ne_zero.mpr length.ne')⟩

/-! ### The three monitors -/

def amdDeviceMetricsFields : List String :=
  deviceMetricsFields ++ ["xgmi_link_bandwidth", "ecc_per_block", "junction_temperature", "hbm_temperature"]

def gaudiDeviceMetricsFields : List String :=
  deviceMetricsFields ++ ["network_rx_bandwidth", "network_tx_bandwidth", "rows_replaced", "rows_pending"]

/-- The same function stands in the NVML, the AMD and the Gaudi monitor. -/
theorem computeHostLevelMetrics_summarises_iff (ramUtil : ℚ) :
    (∀ metrics : List (Metrics deviceMetricsFields),
      Summarises (metrics.filterMap gpuUtil) (computeHostLevelMetrics metrics ramUtil) ↔
        0 ∉ metrics.filterMap gpuUtil ∨ (metrics.filterMap gpuUtil).sum = 0) ∧
    (∀ metrics : List (Metrics amdDeviceMetricsFields),
      Summarises (metrics.filterMap gpuUtil) (computeHostLevelMetrics metrics ramUtil) ↔
        0 ∉ metrics.filterMap gpuUtil ∨ (metrics.filterMap gpuUtil).sum = 0) ∧
    ∀ metrics : List (Metrics gaudiDeviceMetricsFields),
      Summarises (metrics.filterMap gpuUtil) (computeHostLevelMetrics metrics ramUtil) ↔
        0 ∉ metrics.filterMap gpuUtil ∨ (metrics.filterMap gpuUtil).sum = 0 :=
  ⟨fun metrics => summarises_nonzero_iff (computeHostLevelMetrics_summarises metrics ramUtil),
    fun metrics => summarises_nonzero_iff (computeHostLevelMetrics_summarises metrics ramUtil),
    fun metrics => summarises_nonzero_iff (computeHostLevelMetrics_summarises metrics ramUtil)⟩

/-- Metrics of a device of which only the utilization is known. -/
def utilOnly (names : List String) (util : ℚ) : Metrics names :=
  (FieldValues.constant names .none).modify "gpu_util" fun _ => .number (toLex (.inl util))

/-- An idle device beside one at 50 percent: the mean is 50 instead of 25, the minimum 50 instead of 0. -/
theorem idle_device_dropped :
    let metrics := [utilOnly deviceMetricsFields 0, utilOnly deviceMetricsFields 50]
    metrics.filterMap gpuUtil = [0, 50] ∧ (computeHostLevelMetrics metrics 0).avgGpuUtil = 50 ∧
      (computeHostLevelMetrics metrics 0).minGpuUtil = 50 ∧
      ¬Summarises (metrics.filterMap gpuUtil) (computeHostLevelMetrics metrics 0) := by
  have utils : [utilOnly deviceMetricsFields 0, utilOnly deviceMetricsFields 50].filterMap gpuUtil = [0, 50] := by
    decide +kernel
  have min : (computeHostLevelMetrics [utilOnly deviceMetricsFields 0, utilOnly deviceMetricsFields 50] 0).minGpuUtil =
      50 := by decide +kernel
  refine ⟨utils, by decide +kernel, min, fun summary => ?_⟩
  rw [utils] at summary
  have below := (summary.min (by simp)).2 0 (by simp)
  rw [min] at below
  exact absurd below (by norm_num)

end GpuTelemetry
