import Mathlib.Order.Lattice
import Mathlib.Algebra.Order.Ring.Nat

/-!
# Shares of an amount with a capped product

`scale a n b` is the share `a * n / b` of an amount, rounded down. `cappedScale m a n b` is what
comes out if the product is capped at `m` before it is divided, as a machine with a widest number
`m` and a saturating product computes it. The cap is a cap of the share itself
(`cappedScale_eq_min`), so it changes nothing exactly as long as the share is no greater than the
cap's own share (`cappedScale_eq_iff`), which is a bound on the product (`cappedScale_eq_scale_iff`).
-/

set_option autoImplicit false

namespace SolanaBot.Library

variable {m a n b : ℕ}

/-- The share `n / b` of an amount, rounded down. -/
def scale (a n b : ℕ) : ℕ := a * n / b

/-- The share whose product is capped. -/
def cappedScale (m a n b : ℕ) : ℕ := min (a * n) m / b

/-- The capped scaling is the scaling or the scaled cap. -/
theorem cappedScale_eq_min (m a n b : ℕ) : cappedScale m a n b = min (scale a n b) (m / b) := by
  unfold cappedScale scale
  rcases le_total (a * n) m with h | h
  · rw [min_eq_left h, min_eq_left (Nat.div_le_div_right h)]
  · rw [min_eq_right h, min_eq_right (Nat.div_le_div_right h)]

/-- It is not above the scaled cap. -/
theorem cappedScale_le : cappedScale m a n b ≤ m / b := by
  rw [cappedScale_eq_min]
  exact min_le_right _ _

/-- The cap changes nothing exactly if the share is within the cap's share. -/
theorem cappedScale_eq_iff : cappedScale m a n b = scale a n b ↔ scale a n b ≤ m / b := by
  rw [cappedScale_eq_min, min_eq_left_iff]

/-- The same as a bound on the product. -/
theorem cappedScale_eq_scale_iff (hb : 0 < b) :
    cappedScale m a n b = scale a n b ↔ a * n < (m / b + 1) * b := by
  rw [cappedScale_eq_iff, ← Nat.lt_succ_iff]
  exact Nat.div_lt_iff_lt_mul hb

/-- A proper share of what is within the cap's share is not capped. -/
theorem cappedScale_eq_scale (hn : n ≤ b) (ha : a ≤ m / b) :
    cappedScale m a n b = scale a n b := by
  have hproduct : a * n ≤ m := by
    calc a * n ≤ m / b * b := Nat.mul_le_mul ha hn
      _ ≤ m := Nat.div_mul_le_self m b
  unfold cappedScale scale
  rw [min_eq_left hproduct]

/-- A part of the whole `b` is at most the whole of `n`. -/
theorem cappedScale_le_of_le (ha : a ≤ b) : cappedScale m a n b ≤ n := by
  calc cappedScale m a n b ≤ scale a n b := by
        rw [cappedScale_eq_min]
        exact min_le_left _ _
    _ ≤ n := Nat.div_le_of_le_mul (Nat.mul_le_mul_right n ha)

end SolanaBot.Library
