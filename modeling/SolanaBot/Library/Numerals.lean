import Mathlib.Data.List.Basic

/-!
# Numerals of natural numbers

Reading the decimal digits of a natural number, with an optional plus sign. A numeral is read back
as its number, and a text with any other character in it is not read at all.
-/

set_option autoImplicit false

namespace SolanaBot.Library

/-- A text without its leading plus sign. -/
def withoutPlus : List Char → List Char
  | '+' :: rest => rest
  | s => s

/-- The number of a nonempty text of digits, after an optional plus sign. -/
def readNat (s : List Char) : Option ℕ :=
  let digits := withoutPlus s
  if digits ≠ [] ∧ digits.all Char.isDigit then some (Nat.ofDigitChars 10 digits 0) else none

/-- A text that begins otherwise has no plus to drop. -/
theorem withoutPlus_of_head {c : Char} {s : List Char} (h : c ≠ '+') :
    withoutPlus (c :: s) = c :: s := by
  unfold withoutPlus
  split
  · rename_i heq
    cases heq
    exact absurd rfl h
  · rfl

/-- Every other character stays. -/
theorem mem_withoutPlus {c : Char} {s : List Char} (h : c ∈ s) (hc : c ≠ '+') :
    c ∈ withoutPlus s := by
  unfold withoutPlus
  split
  · rcases List.mem_cons.mp h with heq | hmem
    · exact absurd heq hc
    · exact hmem
  · exact h

/-- A numeral has digits only. -/
theorem all_isDigit_toDigits (n : ℕ) : (Nat.toDigits 10 n).all Char.isDigit = true := by
  rw [List.all_eq_true]
  intro c hc
  exact Nat.isDigit_of_mem_toDigits (by decide) (by decide) hc

/-- A numeral has no plus to drop. -/
theorem withoutPlus_toDigits (n : ℕ) : withoutPlus (Nat.toDigits 10 n) = Nat.toDigits 10 n := by
  have hall := all_isDigit_toDigits n
  cases hdigits : Nat.toDigits 10 n with
  | nil => rfl
  | cons c s =>
      apply withoutPlus_of_head
      rintro rfl
      rw [hdigits] at hall
      simp at hall

/-- A numeral is read back as its number. -/
theorem readNat_toDigits (n : ℕ) : readNat (Nat.toDigits 10 n) = some n := by
  unfold readNat
  rw [withoutPlus_toDigits]
  dsimp only
  rw [if_pos ⟨Nat.toDigits_ne_nil, all_isDigit_toDigits n⟩, Nat.ofDigitChars_ten_toDigits]

/-- A text with a character that is neither a digit nor a plus sign is not read. -/
theorem readNat_of_mem {c : Char} {s : List Char} (h : c ∈ s) (hplus : c ≠ '+')
    (hdigit : c.isDigit = false) : readNat s = none := by
  unfold readNat
  dsimp only
  apply if_neg
  rintro ⟨-, hall⟩
  have hc := List.all_eq_true.mp hall c (mem_withoutPlus h hplus)
  rw [hdigit] at hc
  cases hc

end SolanaBot.Library
