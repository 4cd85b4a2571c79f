import Mathlib.Algebra.Order.Field.Basic
import Mathlib.Data.Nat.GCD.Basic
import Mathlib.Data.Rat.Cast.Order

/-!
# Machine arithmetic that stops

A computation stops at an overflow, in a build that checks for it, and at a division by zero. A build that
does not check wraps around. Powers of ten have few bits left when they wrap around: the exponent `e`
gives `e` trailing zeros, so that a division by `10 ^ e` in `w` bits goes through in such a build as
long as `e < w` (`power_ten_ok_iff`).
-/

set_option autoImplicit false

namespace SolanaBot.Library

/-- What a computation stops at. -/
inductive Fault where
  | overflow
  | divisionByZero
deriving DecidableEq

/-- Whether a build checks for overflows. -/
inductive OverflowChecks where
  | on
  | off
deriving DecidableEq

/-- A step that went through, and then the rest. -/
theorem ok_bind {ε α β : Type} (a : α) (rest : α → Except ε β) : (Except.ok a >>= rest) = rest a := rfl

/-- The power of a number in `w` bits. -/
def power (checks : OverflowChecks) (w base e : ℕ) : Except Fault ℕ :=
  if base ^ e < 2 ^ w then .ok (base ^ e)
  else match checks with
    | .on => .error .overflow
    | .off => .ok (base ^ e % 2 ^ w)

section Division

variable {K : Type*} [DivisionRing K] [DecidableEq K]

/-- A division, which stops if the divisor is zero. -/
def divide (a b : K) : Except Fault K := if b = 0 then .error .divisionByZero else .ok (a / b)

/-- A division by another number than zero succeeds. -/
theorem divide_of_ne_zero {a b : K} (h : b ≠ 0) : divide a b = .ok (a / b) := if_neg h

/-- A division succeeds exactly then. -/
theorem divide_ok_iff (a b : K) : (∃ q, divide a b = .ok q) ↔ b ≠ 0 := by
  constructor
  · rintro ⟨q, hq⟩ hzero
    rw [divide, if_pos hzero] at hq
    cases hq
  · exact fun h => ⟨_, divide_of_ne_zero h⟩

end Division

/-- A power that fits succeeds. -/
theorem power_of_lt {checks : OverflowChecks} {w base e : ℕ} (h : base ^ e < 2 ^ w) :
    power checks w base e = .ok (base ^ e) := if_pos h

/-- A power of ten has as many trailing zeros as its exponent says. -/
theorem two_pow_dvd_ten_pow_iff (w e : ℕ) : 2 ^ w ∣ 10 ^ e ↔ w ≤ e := by
  have hsplit : 10 ^ e = 5 ^ e * 2 ^ e := by rw [← Nat.mul_pow]
  have hcoprime : Nat.Coprime (2 ^ w) (5 ^ e) := Nat.Coprime.pow w e (by decide)
  rw [hsplit, Nat.Coprime.dvd_mul_left hcoprime, Nat.pow_dvd_pow_iff_le_right (by decide)]

/-- A power of ten that does not fit is a divisor other than zero exactly in a build that wraps around,
if its zeros leave a bit. -/
theorem power_ten_ok_iff (checks : OverflowChecks) (w e : ℕ) :
    (∃ p, power checks w 10 e = .ok p ∧ p ≠ 0) ↔ 10 ^ e < 2 ^ w ∨ (checks = .off ∧ e < w) := by
  have hpos : 10 ^ e ≠ 0 := (Nat.pow_pos (by decide)).ne'
  by_cases hfits : 10 ^ e < 2 ^ w
  · exact iff_of_true ⟨_, power_of_lt hfits, hpos⟩ (.inl hfits)
  · have hwrapped : 10 ^ e % 2 ^ w ≠ 0 ↔ e < w := by
      rw [← not_le, ← two_pow_dvd_ten_pow_iff, Nat.dvd_iff_mod_eq_zero]
    unfold power
    rw [if_neg hfits, or_iff_right hfits, ← hwrapped]
    cases checks with
    | on => simp
    | off => simp

end SolanaBot.Library
