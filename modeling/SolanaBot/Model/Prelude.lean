import Mathlib.Data.Rat.Defs
import Mathlib.Algebra.Order.Ring.Rat

/-!
# Numbers, time and identifiers of the bot

`rust_decimal::Decimal` is modelled by exact rationals. Where the rounding of its 96-bit
mantissa decides, the functions are written out once more with the rounding as a
parameter, in `Rounded`; where the scale of its text decides, it is a `ScaledDecimal`.
Atomic token amounts are `u64` and keep their width, with the checked and the saturating
operations that the source uses. A `DateTime<Utc>` is a number of milliseconds.
-/

set_option autoImplicit false

namespace SolanaBot.Model

/-- RUST: rust_decimal::Decimal, in exact arithmetic. -/
abbrev Decimal := ℚ

/-- RUST: chrono::DateTime<Utc>, in milliseconds. -/
abbrev Time := Int

/-- RUST: chrono::Duration::seconds. -/
def seconds (n : Int) : Int := n * 1000

/-- RUST: chrono::Duration::minutes. -/
def minutes (n : Int) : Int := n * 60000

/-- RUST: chrono::Duration::num_seconds, which truncates towards zero. -/
def numSeconds (d : Int) : Int := d.tdiv 1000

/-- RUST: chrono::Duration::num_minutes, which truncates towards zero. -/
def numMinutes (d : Int) : Int := d.tdiv 60000

/-- RUST: u64::checked_sub. -/
def checkedSub (a b : UInt64) : Option UInt64 :=
  if b ≤ a then some (a - b) else none

/-- RUST: u64::checked_add. -/
def checkedAdd (a b : UInt64) : Option UInt64 :=
  if a.toNat + b.toNat < 2 ^ 64 then some (a + b) else none

/-- RUST: u64::saturating_add. -/
def saturatingAdd (a b : UInt64) : UInt64 :=
  if a.toNat + b.toNat < 2 ^ 64 then a + b else UInt64.ofNat (2 ^ 64 - 1)

/-- RUST: u64::saturating_mul. -/
def saturatingMul (a b : UInt64) : UInt64 :=
  if a.toNat * b.toNat < 2 ^ 64 then a * b else UInt64.ofNat (2 ^ 64 - 1)

/-- RUST: u32::saturating_add with one. -/
def saturatingSucc (n : UInt32) : UInt32 :=
  if n.toNat + 1 < 2 ^ 32 then n + 1 else n

/-- RUST: 10u64.checked_pow. -/
def checkedPow10 (d : UInt8) : Option UInt64 :=
  if 10 ^ d.toNat < 2 ^ 64 then some (UInt64.ofNat (10 ^ d.toNat)) else none

/-- RUST: 10u64.pow, which wraps around in a release build. -/
def pow10 (d : UInt8) : UInt64 := UInt64.ofNat (10 ^ d.toNat)

/-- RUST: char::is_whitespace, the Unicode property White_Space. -/
def charIsWhitespace (c : Char) : Bool :=
  let n := c.toNat
  (9 ≤ n && n ≤ 13) || n == 32 || n == 133 || n == 160 || n == 5760 ||
    (8192 ≤ n && n ≤ 8202) || n == 8232 || n == 8233 || n == 8239 || n == 8287 || n == 12288

/-- RUST: `s.trim().is_empty()`. -/
def isBlank (s : String) : Bool := s.toList.all charIsWhitespace

/-- RUST: `if fault { return Err(e); }`. -/
def rejectIf {ε : Type} (fault : Prop) [Decidable fault] (e : ε) : Except ε Unit :=
  if fault then .error e else .ok ()

/-- A check passes exactly without its fault. -/
@[simp] theorem rejectIf_eq_ok {ε : Type} {fault : Prop} [Decidable fault] {e : ε} :
    rejectIf fault e = .ok () ↔ ¬fault := by
  unfold rejectIf
  split <;> simp [*]

/-- RUST: Decimal::from(u64). -/
def dec (n : UInt64) : Decimal := (n.toNat : ℚ)

/-- A subtraction that succeeds is exact. -/
theorem toNat_checkedSub {a b c : UInt64} (h : checkedSub a b = some c) :
    c.toNat + b.toNat = a.toNat := by
  unfold checkedSub at h
  split at h
  · rename_i hle
    cases h
    have hnat : b.toNat ≤ a.toNat := UInt64.le_iff_toNat_le.mp hle
    rw [UInt64.toNat_sub_of_le _ _ hle]
    omega
  · cases h

/-- An addition below the limit is exact. -/
theorem toNat_saturatingAdd {a b : UInt64} (h : a.toNat + b.toNat < 2 ^ 64) :
    (saturatingAdd a b).toNat = a.toNat + b.toNat := by
  unfold saturatingAdd
  rw [if_pos h, UInt64.toNat_add, Nat.mod_eq_of_lt h]

/-- The greatest number of 64 bits. -/
def maxU64 : ℕ := 2 ^ 64 - 1

/-- A saturating sum is the sum with a cap. -/
theorem toNat_saturatingAdd_eq_min (a b : UInt64) :
    (saturatingAdd a b).toNat = min (a.toNat + b.toNat) maxU64 := by
  unfold saturatingAdd maxU64
  split
  · rename_i h
    rw [UInt64.toNat_add, Nat.mod_eq_of_lt h]
    omega
  · rw [UInt64.toNat_ofNat']
    omega

/-- A saturating product is the product with a cap. -/
theorem toNat_saturatingMul_eq_min (a b : UInt64) :
    (saturatingMul a b).toNat = min (a.toNat * b.toNat) maxU64 := by
  unfold saturatingMul maxU64
  split
  · rename_i h
    rw [UInt64.toNat_mul, Nat.mod_eq_of_lt h]
    omega
  · rw [UInt64.toNat_ofNat']
    omega

/-- A saturating addition is not above the sum. -/
theorem toNat_saturatingAdd_le (a b : UInt64) :
    (saturatingAdd a b).toNat ≤ a.toNat + b.toNat := by
  by_cases h : a.toNat + b.toNat < 2 ^ 64
  · exact (toNat_saturatingAdd h).le
  · unfold saturatingAdd
    rw [if_neg h, UInt64.toNat_ofNat']
    omega

/-- It is not below its first summand. -/
theorem le_toNat_saturatingAdd (a b : UInt64) : a.toNat ≤ (saturatingAdd a b).toNat := by
  by_cases h : a.toNat + b.toNat < 2 ^ 64
  · rw [toNat_saturatingAdd h]
    omega
  · unfold saturatingAdd
    rw [if_neg h, UInt64.toNat_ofNat']
    have ha := a.toNat_lt
    omega

end SolanaBot.Model
