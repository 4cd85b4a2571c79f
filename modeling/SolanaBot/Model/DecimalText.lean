import Mathlib.Data.Rat.Defs
import Mathlib.Data.Rat.Floor
import SolanaBot.Library.Numerals
import SolanaBot.Library.Rounding
import SolanaBot.Model.Prelude

/-!
# Decimals and their text

A decimal has a mantissa of 96 bits and a scale of at most 28 digits, and an operation whose exact result
has no such representation rounds it (`decimalRounding`).

Some amounts become atomic units by way of their text: `d.to_string().parse::<u64>()`. What comes
out depends on the representation of the decimal, a signed mantissa with a scale, and not only on
its value: a scale prints a decimal point, also if only zeros follow it.
-/

set_option autoImplicit false

namespace SolanaBot.Model

open SolanaBot.Library

/-- RUST: rust_decimal::Decimal with its representation. Zero has a sign of its own. -/
structure ScaledDecimal where
  negative : Bool
  mantissa : ℕ
  scale : ℕ
  mantissa_lt : mantissa < 2 ^ 96
  scale_le : scale ≤ 28

namespace ScaledDecimal

/-- The exact value. -/
def value (d : ScaledDecimal) : Decimal :=
  (if d.negative then -1 else 1) * ((d.mantissa : ℚ) / 10 ^ d.scale)

/-- RUST: Decimal::to_string. The integer part, and as many digits of a fraction as the scale. -/
def toText (d : ScaledDecimal) : List Char :=
  (if d.negative then ['-'] else []) ++ Nat.toDigits 10 (d.mantissa / 10 ^ d.scale) ++
    if d.scale = 0 then []
    else '.' :: (Nat.toDigits 10 (d.mantissa % 10 ^ d.scale)).leftpad d.scale '0'

end ScaledDecimal

/-- The mantissas of a decimal keep the order of the values when one digit is dropped. -/
theorem keepsOrder_mantissa : KeepsOrder (2 ^ 96) := by
  refine ⟨7922816251426433759354395034, ?_, ?_, ?_⟩
  · norm_num
  · norm_num
  · norm_num

/-- RUST: rust_decimal::Decimal, the result of an operation: halves to even at the greatest scale at which
the mantissa has 96 bits. A result that fits at no scale panics in the source, and keeps its integer
here. -/
def decimalRounding : Rounding Decimal := Rounding.decimal ℚ keepsOrder_mantissa 28

/-- A decimal is the rounding of its own value. -/
theorem decimalRounding_value (d : ScaledDecimal) : decimalRounding.round d.value = d.value := by
  have hfits : |(d.mantissa : ℤ)| < 2 ^ 96 := by
    rw [abs_of_nonneg (Int.natCast_nonneg _)]
    exact_mod_cast d.mantissa_lt
  have hkept := decimalRound_mantissa (K := ℚ) d.scale_le hfits
  rw [Int.cast_natCast] at hkept
  change decimalRound (2 ^ 96) 28 d.value = d.value
  unfold ScaledDecimal.value
  cases d.negative with
  | false =>
      rw [if_neg (by simp), one_mul]
      exact hkept
  | true =>
      rw [if_pos rfl, neg_one_mul, decimalRound_neg, hkept]

/-- RUST: str::parse::<u64>. -/
def parseU64Text (s : List Char) : Option UInt64 :=
  match readNat s with
  | some n => if n < 2 ^ 64 then some (UInt64.ofNat n) else none
  | none => none

/-- RUST: runtime.rs:1136-1144 and 1206-1215. The tokens of a registered quote; zero tokens are
refused like an amount that cannot be read. -/
def replayTokens (raw : ScaledDecimal) : Option UInt64 :=
  (parseU64Text raw.toText).filter fun v => v > 0

/-- RUST: runtime.rs:1661 and 1664. The input amount of an entry's quote. -/
def entryInputAmount (amount : ScaledDecimal) : UInt64 := (parseU64Text amount.toText).getD 0

/-- RUST: collector/wallet_monitor.rs:1267-1293. The input amount of a candidate's quote, whose
default is logged as a rejection. -/
def candidateInputAmount (amount : ScaledDecimal) : UInt64 :=
  (parseU64Text amount.toText).getD 0

end SolanaBot.Model
