import Mathlib.Algebra.Order.Field.Basic
import Mathlib.Data.Nat.Cast.Basic
import Mathlib.Data.Nat.Find
import Mathlib.Logic.Function.Iterate
import Mathlib.Tactic.FieldSimp
import Mathlib.Tactic.Linarith
import Mathlib.Tactic.Ring

/-!
# Square roots by a bounded Newton iteration

`iterateUntil` repeats a step until a test on two values in a row is met, a bounded number of times.
It returns the value behind the first turn whose test is met (`iterateUntil_of_stops`).

`newton v` is Newton's step for the square root of `v`, the mean of a guess and of `v` divided by it.
Every step leads to a guess that is not below the root (`root_le_newton`), and the error of the next
guess is at most the length of the step (`error_le_step`), so that a short step is a proof of a small
error. From a guess above the root the error is at least halved (`newton_halves`), and relative to
twice the root it is at least squared (`newton_squares`). The first rule brings a bad guess near the
root, the second one finishes (`iterate_error_le`).
-/

set_option autoImplicit false

namespace SolanaBot.Library

/-! ## Steps until a test -/

section Iteration

variable {α : Type*} (f : α → α) (stop : α → α → Prop) [DecidableRel stop]

/-- At most `n` steps, ending behind the first one whose test is met. -/
def iterateUntil : ℕ → α → α
  | 0, x => x
  | n + 1, x => if stop x (f x) then f x else iterateUntil n (f x)

variable {f stop}

/-- The test of one of the steps is met: the result is the value behind the first such step. -/
theorem iterateUntil_of_first {n k : ℕ} {x : α} (hk : k < n) (hstop : stop (f^[k] x) (f^[k + 1] x))
    (hfirst : ∀ j < k, ¬ stop (f^[j] x) (f^[j + 1] x)) : iterateUntil f stop n x = f^[k + 1] x := by
  induction k generalizing n x with
  | zero =>
      obtain ⟨n, rfl⟩ := Nat.exists_eq_succ_of_ne_zero (Nat.ne_of_gt hk)
      exact if_pos hstop
  | succ k ih =>
      obtain ⟨n, rfl⟩ := Nat.exists_eq_succ_of_ne_zero (Nat.ne_of_gt (Nat.zero_lt_of_lt hk))
      have hgoes : iterateUntil f stop (n + 1) x = iterateUntil f stop n (f x) :=
        if_neg (hfirst 0 (Nat.succ_pos k))
      rw [hgoes]
      exact ih (Nat.lt_of_succ_lt_succ hk) hstop fun j hj => hfirst (j + 1) (Nat.succ_lt_succ hj)

/-- Some test within the bound is met: the iteration stops, at the first one. -/
theorem iterateUntil_of_stops {n : ℕ} {x : α} (h : ∃ k < n, stop (f^[k] x) (f^[k + 1] x)) :
    ∃ k < n, stop (f^[k] x) (f^[k + 1] x) ∧ (∀ j < k, ¬ stop (f^[j] x) (f^[j + 1] x)) ∧
      iterateUntil f stop n x = f^[k + 1] x := by
  obtain ⟨m, hm, hmstop⟩ := h
  have hsome : ∃ k, stop (f^[k] x) (f^[k + 1] x) := ⟨m, hmstop⟩
  have hlt : Nat.find hsome < n := (Nat.find_min' hsome hmstop).trans_lt hm
  have hfirst : ∀ j < Nat.find hsome, ¬ stop (f^[j] x) (f^[j + 1] x) := fun j hj =>
    Nat.find_min hsome hj
  exact ⟨Nat.find hsome, hlt, Nat.find_spec hsome, hfirst,
    iterateUntil_of_first hlt (Nat.find_spec hsome) hfirst⟩

/-- Whatever the tests say, the result is the value behind one of the steps. -/
theorem iterateUntil_succ_mem (n : ℕ) (x : α) : ∃ k, iterateUntil f stop (n + 1) x = f^[k + 1] x := by
  induction n generalizing x with
  | zero => exact ⟨0, ite_self (f x)⟩
  | succ n ih =>
      rw [iterateUntil]
      split
      · exact ⟨0, rfl⟩
      · obtain ⟨k, hresult⟩ := ih (f x)
        exact ⟨k + 1, hresult⟩

end Iteration

/-! ## Newton's step -/

section Newton

variable {K : Type*} [Field K]

/-- The mean of a guess and of `v` divided by it. -/
def newton (v g : K) : K := (g + v / g) / 2

/-- A homomorphism of fields maps a step to a step. -/
theorem map_newton {L : Type*} [Field L] (φ : K →+* L) (v g : K) :
    φ (newton v g) = newton (φ v) (φ g) := by
  unfold newton
  rw [map_div₀, map_add, map_div₀, map_ofNat]

/-- It maps the iteration to the iteration. -/
theorem map_iterate_newton {L : Type*} [Field L] (φ : K →+* L) (v g : K) (n : ℕ) :
    φ ((newton v)^[n] g) = (newton (φ v))^[n] (φ g) :=
  (Function.Semiconj.iterate_right (f := φ) (map_newton φ v) n) g

variable [LinearOrder K] [IsStrictOrderedRing K] {v s g : K}

/-- The error behind a step. -/
theorem newton_sub_root (hv : s * s = v) (hg : g ≠ 0) : newton v g - s = (g - s) ^ 2 / (2 * g) := by
  unfold newton
  rw [← hv]
  field_simp
  ring

/-- The length of a step. -/
theorem sub_newton (hv : s * s = v) (hg : g ≠ 0) :
    g - newton v g = (g - s) * (g + s) / (2 * g) := by
  unfold newton
  rw [← hv]
  field_simp
  ring

/-- No step leads below the root. -/
theorem root_le_newton (hv : s * s = v) (hg : 0 < g) : s ≤ newton v g := by
  rw [← sub_nonneg, newton_sub_root hv hg.ne']
  positivity

/-- A step from above the root leads down. -/
theorem newton_le (hv : s * s = v) (hs : 0 < s) (hg : s ≤ g) : newton v g ≤ g := by
  have hpos : 0 < g := hs.trans_le hg
  rw [← sub_nonneg, sub_newton hv hpos.ne']
  exact div_nonneg (mul_nonneg (sub_nonneg.mpr hg) (by linarith)) (by linarith)

/-- **A short step proves a small error.** -/
theorem error_le_step (hv : s * s = v) (hs : 0 < s) (hg : 0 < g) :
    newton v g - s ≤ |newton v g - g| := by
  have hdistance : |g - s| ≤ g + s := abs_le.mpr ⟨by linarith, by linarith⟩
  calc newton v g - s = |g - s| * |g - s| / (2 * g) := by
        rw [newton_sub_root hv hg.ne', abs_mul_abs_self, pow_two]
    _ ≤ |g - s| * (g + s) / (2 * g) := by gcongr
    _ = |newton v g - g| := by
        rw [abs_sub_comm (newton v g), sub_newton hv hg.ne', abs_div, abs_mul,
          abs_of_pos (show 0 < g + s by linarith), abs_of_pos (show 0 < 2 * g by linarith)]

/-- From above the root, a step is no longer than the error in front of it. -/
theorem step_le_error (hv : s * s = v) (hs : 0 < s) (hg : s ≤ g) : |newton v g - g| ≤ g - s := by
  have hroot := root_le_newton hv (hs.trans_le hg)
  rw [abs_sub_comm, abs_of_nonneg (sub_nonneg.mpr (newton_le hv hs hg))]
  linarith

/-- The error is at least halved. -/
theorem newton_halves (hv : s * s = v) (hs : 0 < s) (hg : s ≤ g) :
    newton v g - s ≤ (g - s) / 2 := by
  have hpos : 0 < g := hs.trans_le hg
  rw [newton_sub_root hv hpos.ne', div_le_div_iff₀ (by linarith) two_pos]
  nlinarith [mul_nonneg (sub_nonneg.mpr hg) hs.le]

/-- Relative to twice the root, the error is at least squared. -/
theorem newton_squares (hv : s * s = v) (hs : 0 < s) (hg : s ≤ g) :
    (newton v g - s) / (2 * s) ≤ ((g - s) / (2 * s)) ^ 2 := by
  have hpos : 0 < g := hs.trans_le hg
  calc (newton v g - s) / (2 * s) = (g - s) ^ 2 / (2 * g * (2 * s)) := by
        rw [newton_sub_root hv hpos.ne', div_div]
    _ ≤ (g - s) ^ 2 / (2 * s * (2 * s)) := by gcongr
    _ = ((g - s) / (2 * s)) ^ 2 := by rw [div_pow, pow_two (2 * s)]

/-! ## Many steps -/

/-- From above the iteration stays above the root. -/
theorem root_le_iterate (hv : s * s = v) (hs : 0 < s) (hg : s ≤ g) (n : ℕ) : s ≤ (newton v)^[n] g := by
  induction n with
  | zero => exact hg
  | succ n ih =>
      rw [Function.iterate_succ_apply']
      exact root_le_newton hv (hs.trans_le ih)

/-- Behind the first step, from wherever it was, the guesses are above the root. -/
theorem root_le_iterate_succ (hv : s * s = v) (hs : 0 < s) (hg : 0 < g) (n : ℕ) :
    s ≤ (newton v)^[n + 1] g := by
  rw [Function.iterate_succ_apply]
  exact root_le_iterate hv hs (root_le_newton hv hg) n

/-- Every step halves the distance at least. -/
theorem iterate_halves (hv : s * s = v) (hs : 0 < s) (hg : s ≤ g) (n : ℕ) :
    (newton v)^[n] g - s ≤ (g - s) / 2 ^ n := by
  induction n with
  | zero => rw [pow_zero, div_one, Function.iterate_zero, id]
  | succ n ih =>
      rw [Function.iterate_succ_apply']
      calc newton v ((newton v)^[n] g) - s ≤ ((newton v)^[n] g - s) / 2 :=
            newton_halves hv hs (root_le_iterate hv hs hg n)
        _ ≤ (g - s) / 2 ^ n / 2 := by gcongr
        _ = (g - s) / 2 ^ (n + 1) := by rw [div_div, pow_succ]

/-- Every step squares the relative distance at least. -/
theorem iterate_squares (hv : s * s = v) (hs : 0 < s) (hg : s ≤ g) (n : ℕ) :
    ((newton v)^[n] g - s) / (2 * s) ≤ ((g - s) / (2 * s)) ^ 2 ^ n := by
  induction n with
  | zero => rw [pow_zero, pow_one, Function.iterate_zero, id]
  | succ n ih =>
      have hroot := root_le_iterate hv hs hg n
      have hnonneg : 0 ≤ ((newton v)^[n] g - s) / (2 * s) :=
        div_nonneg (sub_nonneg.mpr hroot) (by linarith)
      rw [Function.iterate_succ_apply']
      calc (newton v ((newton v)^[n] g) - s) / (2 * s)
          ≤ (((newton v)^[n] g - s) / (2 * s)) ^ 2 := newton_squares hv hs hroot
        _ ≤ (((g - s) / (2 * s)) ^ 2 ^ n) ^ 2 := by gcongr
        _ = ((g - s) / (2 * s)) ^ 2 ^ (n + 1) := by rw [← pow_mul, pow_succ]

/-- **The error behind `m` steps that halve it and `n` steps that square it.** -/
theorem iterate_error_le (hv : s * s = v) (hs : 0 < s) (hg : s ≤ g) {q : K} (m : ℕ)
    (hq : g - s ≤ q * (2 * s * 2 ^ m)) (n : ℕ) : (newton v)^[n + m] g - s ≤ 2 * s * q ^ 2 ^ n := by
  have hroot := root_le_iterate hv hs hg m
  have htwice : 0 < 2 * s := by linarith
  have hnear : ((newton v)^[m] g - s) / (2 * s) ≤ q := by
    rw [div_le_iff₀ htwice]
    calc (newton v)^[m] g - s ≤ (g - s) / 2 ^ m := iterate_halves hv hs hg m
      _ ≤ q * (2 * s) := by
        rw [div_le_iff₀ (by positivity), mul_assoc]
        exact hq
  have hsquares := iterate_squares hv hs hroot n
  rw [← Function.iterate_add_apply] at hsquares
  have hnonneg : 0 ≤ ((newton v)^[m] g - s) / (2 * s) :=
    div_nonneg (sub_nonneg.mpr hroot) htwice.le
  rw [mul_comm, ← div_le_iff₀ htwice]
  exact hsquares.trans (pow_le_pow_left₀ hnonneg hnear _)

end Newton

end SolanaBot.Library
