import Mathlib.Analysis.Real.Sqrt
import SolanaBot.Library.NewtonRoots
import SolanaBot.Analysis.OosIsolation

/-!
# The square root of the statistics

`decimal_sqrt` (backtest/stats.rs:719-735) is at most fifty turns of Newton's iteration from half
the argument, which stop when two guesses in a row are closer than `10 ^ -10`. No guess behind the
first turn is below the root, and the last step is at least as long as the error that it leaves
(`error_le_step`), so that the test is a proof of the error. It remains that the test is met in time
(`meetsTest_within`). For arguments up to four the guess behind the first turn is off by at most one,
and 34 halvings are enough. For arguments up to `10 ^ 20` forty halvings bring the guess near the
root, and three more turns square what is left three times.
-/

set_option autoImplicit false

namespace SolanaBot.Analysis

open SolanaBot.Library SolanaBot.Model

/-- The guess in front of a turn, where there is such a turn. -/
def sqrtGuess (v : Decimal) (k : ℕ) : Decimal := (newton v)^[k] (v / 2)

/-- The stopping test on two guesses in a row. -/
def Close (guess next : Decimal) : Prop := |next - guess| < 1 / 10 ^ 10

/-- Closeness is decidable. -/
instance : DecidableRel Close := fun _ _ => inferInstanceAs (Decidable (_ < _))

/-- The test of a turn is met. -/
def MeetsTest (v : Decimal) (k : ℕ) : Prop := Close (sqrtGuess v k) (sqrtGuess v (k + 1))

/-! ## The iteration of the source -/

/-- The loop is Newton's iteration until two guesses are close. -/
theorem sqrtLoop_eq (v : Decimal) (n : ℕ) (guess : Decimal) :
    sqrtLoop v n guess = iterateUntil (newton v) Close n guess := by
  induction n generalizing guess with
  | zero => rfl
  | succ n ih =>
      unfold sqrtLoop iterateUntil
      rw [← ih]
      rfl

/-- The root of a positive value is the iteration from its half. -/
theorem decimalSqrt_eq {v : Decimal} (hv : 0 < v) :
    decimalSqrt v = iterateUntil (newton v) Close 50 (v / 2) := by
  have hhalf : v / 2 ≠ 0 := (half_pos hv).ne'
  unfold decimalSqrt
  rw [if_neg (not_le.mpr hv)]
  dsimp only
  rw [if_neg hhalf, sqrtLoop_eq]

/-- The same guesses as real numbers. -/
theorem cast_sqrtGuess (v : Decimal) (k : ℕ) :
    (sqrtGuess v k : ℝ) = (newton (v : ℝ))^[k] ((v : ℝ) / 2) := by
  have hcast : (sqrtGuess v k : ℝ) = (newton (v : ℝ))^[k] ((v / 2 : ℚ) : ℝ) :=
    map_iterate_newton (Rat.castHom ℝ) v (v / 2) k
  rw [hcast, Rat.cast_div, Rat.cast_ofNat]

/-- The guesses are Newton's iteration of real numbers. -/
theorem cast_sqrtGuess_succ (v : Decimal) (k : ℕ) :
    (sqrtGuess v (k + 1) : ℝ) = newton (v : ℝ) (sqrtGuess v k : ℝ) := by
  rw [cast_sqrtGuess, cast_sqrtGuess, Function.iterate_succ_apply']

/-- The test compares real numbers. -/
theorem meetsTest_iff_cast (v : Decimal) (k : ℕ) :
    MeetsTest v k ↔ |(sqrtGuess v (k + 1) : ℝ) - (sqrtGuess v k : ℝ)| < 1 / 10 ^ 10 := by
  unfold MeetsTest Close
  rw [← Rat.cast_lt (K := ℝ)]
  push_cast
  rfl

section Positive

variable {v : Decimal} (hv : 0 < v)
include hv

/-- The root of a positive value is positive. -/
theorem root_pos : 0 < Real.sqrt (v : ℝ) := Real.sqrt_pos.mpr (Rat.cast_pos.mpr hv)

/-- The root times itself is the value. -/
theorem root_mul_root : Real.sqrt (v : ℝ) * Real.sqrt (v : ℝ) = (v : ℝ) :=
  Real.mul_self_sqrt (Rat.cast_nonneg.mpr hv.le)

/-- Half of a positive value is positive. -/
theorem half_cast_pos : 0 < (v : ℝ) / 2 := half_pos (Rat.cast_pos.mpr hv)

/-- The guesses behind the first are not below the root. -/
theorem sqrt_le_sqrtGuess (k : ℕ) : Real.sqrt (v : ℝ) ≤ (sqrtGuess v (k + 1) : ℝ) := by
  rw [cast_sqrtGuess]
  exact root_le_iterate_succ (root_mul_root hv) (root_pos hv) (half_cast_pos hv) k

/-- The error behind the first turn. -/
theorem sqrtGuess_one_sub :
    (sqrtGuess v 1 : ℝ) - Real.sqrt (v : ℝ) = (Real.sqrt (v : ℝ) / 2 - 1) ^ 2 := by
  rw [cast_sqrtGuess, Function.iterate_one, newton_sub_root (root_mul_root hv) (half_cast_pos hv).ne']
  have hsquare := root_mul_root hv
  have hpos := root_pos hv
  generalize Real.sqrt (v : ℝ) = s at hsquare hpos ⊢
  rw [← hsquare]
  field_simp

/-- A turn that starts near the root is the last one. -/
theorem meetsTest_of_error {k : ℕ}
    (h : (sqrtGuess v (k + 1) : ℝ) - Real.sqrt (v : ℝ) < 1 / 10 ^ 10) : MeetsTest v (k + 1) := by
  have hstep := step_le_error (root_mul_root hv) (root_pos hv) (sqrt_le_sqrtGuess hv k)
  rw [← cast_sqrtGuess_succ] at hstep
  exact (meetsTest_iff_cast v (k + 1)).mpr (hstep.trans_lt h)

/-! ## How many turns it takes -/

/-- For arguments up to four the start is off by at most one behind the first turn. -/
theorem meetsTest_small (hle : Real.sqrt (v : ℝ) ≤ 2) : MeetsTest v 35 := by
  have hpos := root_pos hv
  have hfirst : (sqrtGuess v 1 : ℝ) - Real.sqrt (v : ℝ) ≤ 1 := by
    rw [sqrtGuess_one_sub hv, sq_le_one_iff_abs_le_one, abs_le]
    constructor <;> linarith
  apply meetsTest_of_error hv
  calc (sqrtGuess v (34 + 1) : ℝ) - Real.sqrt (v : ℝ)
      ≤ ((sqrtGuess v 1 : ℝ) - Real.sqrt (v : ℝ)) / 2 ^ 34 := by
        rw [cast_sqrtGuess, Function.iterate_add_apply, ← cast_sqrtGuess]
        exact iterate_halves (root_mul_root hv) hpos (sqrt_le_sqrtGuess hv 0) 34
    _ ≤ 1 / 2 ^ 34 := by gcongr
    _ < 1 / 10 ^ 10 := by norm_num

/-- For greater arguments the error behind the first turn is at most a quarter of the argument.
Forty halvings leave at most an eight-hundredth of twice the root, and three squarings the eighth
power of it. -/
theorem meetsTest_large (hge : 2 ≤ Real.sqrt (v : ℝ)) (hle : Real.sqrt (v : ℝ) ≤ 10 ^ 10) :
    MeetsTest v 44 := by
  have hpos := root_pos hv
  have hfirst : (sqrtGuess v 1 : ℝ) - Real.sqrt (v : ℝ) ≤
      1 / 800 * (2 * Real.sqrt (v : ℝ) * 2 ^ 40) := by
    rw [sqrtGuess_one_sub hv]
    nlinarith
  apply meetsTest_of_error hv
  calc (sqrtGuess v (3 + 40 + 1) : ℝ) - Real.sqrt (v : ℝ)
      ≤ 2 * Real.sqrt (v : ℝ) * (1 / 800) ^ 2 ^ 3 := by
        rw [cast_sqrtGuess, Function.iterate_add_apply, ← cast_sqrtGuess]
        exact iterate_error_le (root_mul_root hv) hpos (sqrt_le_sqrtGuess hv 0) 40 hfirst 3
    _ ≤ 2 * 10 ^ 10 * (1 / 800) ^ 2 ^ 3 := by gcongr
    _ < 1 / 10 ^ 10 := by norm_num

/-- **The stopping test is met within fifty turns.** -/
theorem meetsTest_within (hle : v ≤ 10 ^ 20) : ∃ k < 50, MeetsTest v k := by
  rcases le_total (Real.sqrt (v : ℝ)) 2 with hsmall | hlarge
  · exact ⟨35, by decide, meetsTest_small hv hsmall⟩
  · have hbound : Real.sqrt (v : ℝ) ≤ 10 ^ 10 := by
      rw [Real.sqrt_le_left (by positivity)]
      have hcast : (v : ℝ) ≤ ((10 ^ 20 : ℚ) : ℝ) := Rat.cast_le.mpr hle
      push_cast at hcast
      linarith
    exact ⟨44, by decide, meetsTest_large hv hlarge hbound⟩

/-- The turn that stops the iteration returns a guess with an error below the test's bound. -/
theorem sqrtGuess_lt_of_meetsTest {k : ℕ} (h : MeetsTest v k) :
    (sqrtGuess v (k + 1) : ℝ) < Real.sqrt (v : ℝ) + 1 / 10 ^ 10 := by
  have hguess : 0 < (sqrtGuess v k : ℝ) := by
    cases k with
    | zero =>
        rw [cast_sqrtGuess]
        exact half_cast_pos hv
    | succ k => exact (root_pos hv).trans_le (sqrt_le_sqrtGuess hv k)
  have herror := error_le_step (root_mul_root hv) (root_pos hv) hguess
  rw [← cast_sqrtGuess_succ] at herror
  have hshort := (meetsTest_iff_cast v k).mp h
  linarith

/-- The iteration stops at its first short step. -/
theorem decimalSqrt_of_meetsTest (h : ∃ k < 50, MeetsTest v k) :
    ∃ k < 50, MeetsTest v k ∧ (∀ j < k, ¬ MeetsTest v j) ∧ decimalSqrt v = sqrtGuess v (k + 1) := by
  rw [decimalSqrt_eq hv]
  exact iterateUntil_of_stops h

end Positive

/-! ## The result -/

/-- The result is never below the root, whether the test is met or not. -/
theorem sqrt_le_decimalSqrt (v : Decimal) : Real.sqrt (v : ℝ) ≤ (decimalSqrt v : ℝ) := by
  by_cases hv : 0 < v
  · rw [decimalSqrt_eq hv]
    obtain ⟨k, hresult⟩ := @iterateUntil_succ_mem _ (newton v) Close _ 49 (v / 2)
    rw [hresult]
    exact sqrt_le_sqrtGuess hv k
  · rw [not_lt] at hv
    unfold decimalSqrt
    rw [if_pos hv, Real.sqrt_eq_zero_of_nonpos (Rat.cast_nonpos.mpr hv), Rat.cast_zero]

/-- The result is not further above the root than the test allows. -/
theorem decimalSqrt_lt {v : Decimal} (hle : v ≤ 10 ^ 20) :
    (decimalSqrt v : ℝ) < Real.sqrt (v : ℝ) + 1 / 10 ^ 10 := by
  by_cases hv : 0 < v
  · obtain ⟨k, -, htest, -, hresult⟩ := decimalSqrt_of_meetsTest hv (meetsTest_within hv hle)
    rw [hresult]
    exact sqrtGuess_lt_of_meetsTest hv htest
  · rw [not_lt] at hv
    unfold decimalSqrt
    rw [if_pos hv, Real.sqrt_eq_zero_of_nonpos (Rat.cast_nonpos.mpr hv), Rat.cast_zero]
    norm_num

/-- **The square root is accurate.** For every argument up to `10 ^ 20` the iteration meets its
stopping test within its fifty turns and returns the guess of the first turn that does. That guess is
not below the root and exceeds it by less than `10 ^ -10`. -/
theorem decimalSqrt_accurate (v : Decimal) (hpos : 0 < v) (hle : v ≤ 10 ^ 20) :
    (∃ k < 50, MeetsTest v k ∧ (∀ j < k, ¬ MeetsTest v j) ∧ decimalSqrt v = sqrtGuess v (k + 1)) ∧
      Real.sqrt (v : ℝ) ≤ (decimalSqrt v : ℝ) ∧
      (decimalSqrt v : ℝ) < Real.sqrt (v : ℝ) + 1 / 10 ^ 10 :=
  ⟨decimalSqrt_of_meetsTest hpos (meetsTest_within hpos hle), sqrt_le_decimalSqrt v, decimalSqrt_lt hle⟩

/-- The root of two is accurate. -/
theorem decimalSqrt_accurate_two :
    (∃ k < 50, MeetsTest 2 k ∧ (∀ j < k, ¬ MeetsTest 2 j) ∧ decimalSqrt 2 = sqrtGuess 2 (k + 1)) ∧
      Real.sqrt ((2 : Decimal) : ℝ) ≤ (decimalSqrt 2 : ℝ) ∧
      (decimalSqrt 2 : ℝ) < Real.sqrt ((2 : Decimal) : ℝ) + 1 / 10 ^ 10 :=
  decimalSqrt_accurate 2 (by norm_num) (by norm_num)

/-! ## The standard error -/

/-- A quotient of numbers that exceed their exact values by less than `ε`. -/
theorem quotient_near {a b x y ε : ℝ} (ha : 0 ≤ a) (hb : 1 ≤ b) (hε : 0 < ε) (hax : a ≤ x)
    (hxa : x < a + ε) (hby : b ≤ y) (hyb : y < b + ε) :
    a / b * (1 - ε) ≤ x / y ∧ x / y < a / b + ε := by
  have hbpos : 0 < b := by linarith
  have hypos : 0 < y := by linarith
  constructor
  · -- the divisor grows by at most the share `ε`, as `1 ≤ b`
    have hshare : y * (1 - ε) ≤ b := by nlinarith [mul_pos hypos hε]
    rw [le_div_iff₀ hypos]
    calc a / b * (1 - ε) * y = a / b * (y * (1 - ε)) := by ring
      _ ≤ a / b * b := by gcongr
      _ = a := div_mul_cancel₀ a hbpos.ne'
      _ ≤ x := hax
  · calc x / y ≤ x / b := div_le_div_of_nonneg_left (ha.trans hax) hbpos hby
      _ < (a + ε) / b := div_lt_div_of_pos_right hxa hbpos
      _ = a / b + ε / b := add_div a ε b
      _ ≤ a / b + ε := by
        have hpart : ε / b ≤ ε := div_le_self hε.le hb
        linarith

/-- The sample variance of a list of returns. -/
def sampleVariance (returns : List Decimal) : Decimal :=
  if (returns.length : ℚ) > 1 then
    (returns.map fun r => (r - meanOrZero returns) * (r - meanOrZero returns)).sum /
      (returns.length - 1)
  else 0

/-- The standard error of the mean in exact arithmetic. -/
noncomputable def exactError (returns : List Decimal) : ℝ :=
  Real.sqrt (sampleVariance returns : ℝ) / Real.sqrt (returns.length : ℝ)

/-- For samples whose variance and size are at most `10 ^ 20`, the standard error of the mean exceeds
the exact one by less than `10 ^ -10` and falls short of it by at most that share of it. -/
theorem returnError_near (returns : List Decimal) (hvariance : sampleVariance returns ≤ 10 ^ 20)
    (hlength : (returns.length : ℚ) ≤ 10 ^ 20) :
    exactError returns * (1 - 1 / 10 ^ 10) ≤ (returnError returns : ℝ) ∧
      (returnError returns : ℝ) < exactError returns + 1 / 10 ^ 10 := by
  rcases Nat.eq_zero_or_pos returns.length with hnone | hsome
  · have hzero : returnError returns = 0 := by
      unfold returnError
      rw [hnone]
      rfl
    have hexact : exactError returns = 0 := by
      unfold exactError
      rw [hnone, Nat.cast_zero, Real.sqrt_zero, div_zero]
    rw [hzero, hexact, Rat.cast_zero]
    norm_num
  · have herror : returnError returns =
        decimalSqrt (sampleVariance returns) / decimalSqrt (returns.length : ℚ) :=
      if_pos (Nat.cast_pos.mpr hsome)
    have hone : 1 ≤ Real.sqrt (returns.length : ℝ) := by
      rw [Real.one_le_sqrt]
      exact_mod_cast hsome
    have hroot := sqrt_le_decimalSqrt (returns.length : ℚ)
    have hbound := decimalSqrt_lt hlength
    rw [Rat.cast_natCast] at hroot hbound
    rw [herror, Rat.cast_div]
    exact quotient_near (Real.sqrt_nonneg _) hone (by norm_num)
      (sqrt_le_decimalSqrt (sampleVariance returns)) (decimalSqrt_lt hvariance) hroot hbound

/-- The standard error that the statistics of a backtest report. -/
theorem standardError_near (trades : List SimulatedTrade) (totalSignals rejectedCount : ℕ)
    (capital : Decimal) (isSyntheticData : Bool) :
    let stats := computeStatistics trades totalSignals rejectedCount capital isSyntheticData
    let returns := (trades.filter SimulatedTrade.isUsable).map SimulatedTrade.netReturnPct
    sampleVariance returns ≤ 10 ^ 20 → (returns.length : ℚ) ≤ 10 ^ 20 →
      exactError returns * (1 - 1 / 10 ^ 10) ≤ (stats.standardError : ℝ) ∧
        (stats.standardError : ℝ) < exactError returns + 1 / 10 ^ 10 := by
  intro stats returns hvariance hlength
  have hstats : stats.standardError = returnError returns :=
    (computeStatistics_returns trades totalSignals rejectedCount capital isSyntheticData).2
  rw [hstats]
  exact returnError_near returns hvariance hlength

end SolanaBot.Analysis
