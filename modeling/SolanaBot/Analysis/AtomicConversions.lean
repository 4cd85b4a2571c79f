import Mathlib.Data.Rat.Floor
import Mathlib.Tactic.Linarith
import Mathlib.Tactic.Positivity
import SolanaBot.Model.DecimalText
import SolanaBot.Analysis.EntryEvaluations

/-!
# Conversions to atomic units by text

Three places turn a decimal into `u64` units by parsing its text (`replayTokens`,
`entryInputAmount`, `candidateInputAmount`). The text of a decimal is that of an integer exactly if
it has no sign and no scale (`Plain`): ten units as `10` are read, as `10.0` they are not, and twelve
and a half never are. So the places give the floor of the amount exactly for the plain decimals,
apart from amounts below one, where the default and the floor are both zero
(`conversions_floor_iff`).

`dec_of_parseU64Text` and `tokensRead_of_text` relate this to the bot, whose runs know only that a
text that is read as an integer is the text of that integer.
-/

set_option autoImplicit false

namespace SolanaBot.Analysis

open SolanaBot.Library SolanaBot.Model

/-- The decimal has no sign and no scale: its text is a numeral. -/
def Plain (d : ScaledDecimal) : Prop := d.negative = false ∧ d.scale = 0

/-- The greatest integer that is at most `x`, as a number of units. -/
def IsFloor (v : UInt64) (x : Decimal) : Prop := ⌊x⌋ = (v.toNat : ℤ)

/-! ## The text of a decimal -/

section Text

variable {d : ScaledDecimal}

/-- The text of a plain decimal is its digits. -/
theorem Plain.toText_eq (h : Plain d) : d.toText = Nat.toDigits 10 d.mantissa := by
  unfold ScaledDecimal.toText
  rw [h.1, h.2]
  simp

/-- The value of a plain decimal is its mantissa. -/
theorem Plain.value_eq (h : Plain d) : d.value = d.mantissa := by
  unfold ScaledDecimal.value
  rw [h.1, h.2]
  simp

/-- A text with a sign or a point is not read. -/
theorem parse_of_not_plain (h : ¬ Plain d) : parseU64Text d.toText = none := by
  have hnone : readNat d.toText = none := by
    unfold ScaledDecimal.toText
    cases hneg : d.negative with
    | true =>
        apply readNat_of_mem (c := '-')
        · simp
        · decide
        · decide
    | false =>
        have hscale : d.scale ≠ 0 := fun hs => h ⟨hneg, hs⟩
        rw [if_neg hscale]
        apply readNat_of_mem (c := '.')
        · simp
        · decide
        · decide
  unfold parseU64Text
  rw [hnone]

/-- The text of a plain decimal below 2^64 is read as its mantissa. -/
theorem parse_of_plain (h : Plain d) (hlt : d.value < 2 ^ 64) :
    parseU64Text d.toText = some (UInt64.ofNat d.mantissa) ∧ d.mantissa < 2 ^ 64 := by
  have hmantissa : d.mantissa < 2 ^ 64 := by
    rw [h.value_eq] at hlt
    exact_mod_cast hlt
  refine ⟨?_, hmantissa⟩
  unfold parseU64Text
  rw [h.toText_eq, readNat_toDigits]
  dsimp only
  rw [if_pos hmantissa]

/-- A mantissa in range is kept. -/
theorem toNat_ofNat_mantissa {n : ℕ} (h : n < 2 ^ 64) : (UInt64.ofNat n).toNat = n := by
  rw [UInt64.toNat_ofNat', Nat.mod_eq_of_lt h]

/-- A number that is read is the value of the decimal. -/
theorem dec_of_parseU64Text {v : UInt64} (h : parseU64Text d.toText = some v) : dec v = d.value := by
  by_cases hplain : Plain d
  · unfold parseU64Text at h
    rw [hplain.toText_eq, readNat_toDigits] at h
    dsimp only at h
    split at h
    · rename_i hlt
      cases h
      rw [hplain.value_eq, dec, toNat_ofNat_mantissa hlt]
    · cases h
  · rw [parse_of_not_plain hplain] at h
    cases h

end Text

/-! ## The floor -/

section Floor

variable {d : ScaledDecimal}

/-- An integer is the floor exactly if the value lies between it and the next. -/
theorem isFloor_iff {v : UInt64} {x : Decimal} : IsFloor v x ↔ dec v ≤ x ∧ x < dec v + 1 := by
  unfold IsFloor dec
  rw [Int.floor_eq_iff]
  push_cast
  rfl

/-- The floor of a plain amount is its mantissa. -/
theorem isFloor_of_plain (h : Plain d) (hlt : d.value < 2 ^ 64) :
    IsFloor (UInt64.ofNat d.mantissa) d.value := by
  obtain ⟨-, hmantissa⟩ := parse_of_plain h hlt
  rw [isFloor_iff, dec, toNat_ofNat_mantissa hmantissa, h.value_eq]
  exact ⟨le_refl _, lt_add_one _⟩

/-- Zero units are the floor exactly of the amounts below one. -/
theorem isFloor_zero_iff {x : Decimal} (h : 0 ≤ x) : IsFloor 0 x ↔ x < 1 := by
  rw [isFloor_iff]
  have hzero : dec 0 = 0 := by simp [dec]
  rw [hzero, zero_add]
  exact and_iff_right h

/-- What a place with the default zero gives is the floor. -/
theorem defaulted_floor_iff (hnonneg : 0 ≤ d.value) (hlt : d.value < 2 ^ 64) :
    IsFloor ((parseU64Text d.toText).getD 0) d.value ↔ Plain d ∨ d.value < 1 := by
  by_cases hplain : Plain d
  · rw [(parse_of_plain hplain hlt).1]
    exact iff_of_true (isFloor_of_plain hplain hlt) (.inl hplain)
  · rw [parse_of_not_plain hplain, Option.getD_none, isFloor_zero_iff hnonneg]
    exact (or_iff_right hplain).symm

/-- The tokens of a registered quote are the floor. -/
theorem replayTokens_floor_iff (hlt : d.value < 2 ^ 64) :
    (∃ v, replayTokens d = some v ∧ IsFloor v d.value) ↔ Plain d ∧ 1 ≤ d.value := by
  unfold replayTokens
  by_cases hplain : Plain d
  · obtain ⟨hparse, hmantissa⟩ := parse_of_plain hplain hlt
    have hpos : UInt64.ofNat d.mantissa > 0 ↔ 1 ≤ d.value := by
      rw [gt_iff_lt, UInt64.lt_iff_toNat_lt, toNat_ofNat_mantissa hmantissa, hplain.value_eq,
        UInt64.toNat_zero, Nat.one_le_cast, Nat.lt_iff_add_one_le]
    rw [hparse, and_iff_right hplain, ← hpos]
    constructor
    · rintro ⟨v, hv, -⟩
      rw [Option.filter_eq_some_iff] at hv
      obtain ⟨heq, hv⟩ := hv
      cases heq
      simpa using hv
    · intro h
      refine ⟨_, ?_, isFloor_of_plain hplain hlt⟩
      rw [Option.filter_eq_some_iff]
      exact ⟨rfl, by simpa using h⟩
  · rw [parse_of_not_plain hplain]
    constructor
    · rintro ⟨v, hv, -⟩
      cases hv
    · intro h
      exact absurd h.1 hplain

end Floor

/-- **Exactly the plain decimals are converted.** For every non-negative amount below 2^64, whatever
its representation: a quote is registered for the floor of its tokens exactly if the decimal is plain
and at least one; the quotes of entries and candidates are asked for the floor exactly if the decimal
is plain, or below one, where the floor is zero. -/
theorem conversions_floor_iff (d : ScaledDecimal) (hnonneg : 0 ≤ d.value)
    (hlt : d.value < 2 ^ 64) :
    ((∃ v, replayTokens d = some v ∧ IsFloor v d.value) ↔ Plain d ∧ 1 ≤ d.value) ∧
      (IsFloor (entryInputAmount d) d.value ↔ Plain d ∨ d.value < 1) ∧
      (IsFloor (candidateInputAmount d) d.value ↔ Plain d ∨ d.value < 1) :=
  ⟨replayTokens_floor_iff hlt, defaulted_floor_iff hnonneg hlt, defaulted_floor_iff hnonneg hlt⟩

/-- Ten units without a scale. -/
def tenUnits : ScaledDecimal := ⟨false, 10, 0, by decide, by decide⟩

/-- The same ten units as a quotient may leave them, with one decimal. -/
def tenUnitsScaled : ScaledDecimal := ⟨false, 100, 1, by decide, by decide⟩

/-- Twelve and a half units. -/
def fractionalUnits : ScaledDecimal := ⟨false, 125, 1, by decide, by decide⟩

/-- Ten units are converted to their floor in all three places. -/
theorem conversions_floor_ten :
    (∃ v, replayTokens tenUnits = some v ∧ IsFloor v tenUnits.value) ∧
      IsFloor (entryInputAmount tenUnits) tenUnits.value ∧
      IsFloor (candidateInputAmount tenUnits) tenUnits.value := by
  have hplain : Plain tenUnits := ⟨rfl, rfl⟩
  have hvalue : tenUnits.value = 10 := by rw [hplain.value_eq]; rfl
  obtain ⟨hreplay, hentry, hcandidate⟩ :=
    conversions_floor_iff tenUnits (by rw [hvalue]; norm_num) (by rw [hvalue]; norm_num)
  refine ⟨hreplay.mpr ⟨hplain, ?_⟩, hentry.mpr (.inl hplain), hcandidate.mpr (.inl hplain)⟩
  rw [hvalue]
  norm_num

/-- Twelve and a half units, and ten units with a scale, cannot be registered and are asked for as
zero. -/
theorem fractional_amounts_lost :
    (fractionalUnits.value = 25 / 2 ∧ replayTokens fractionalUnits = none ∧
      entryInputAmount fractionalUnits = 0 ∧ candidateInputAmount fractionalUnits = 0) ∧
      tenUnitsScaled.value = 10 ∧ replayTokens tenUnitsScaled = none ∧
      entryInputAmount tenUnitsScaled = 0 ∧ candidateInputAmount tenUnitsScaled = 0 := by
  have hvalue : fractionalUnits.value = 25 / 2 := by
    norm_num [ScaledDecimal.value, fractionalUnits]
  have hten : tenUnitsScaled.value = 10 := by
    norm_num [ScaledDecimal.value, tenUnitsScaled]
  refine ⟨⟨hvalue, ?_, ?_, ?_⟩, hten, ?_, ?_, ?_⟩
  all_goals decide

/-! ## The conversions in the bot -/

/-- What a turn over a record reads, if the answer comes from a text of the amount. -/
theorem tokensRead_of_text {e : Env} {c : CandidateInput} {d : ScaledDecimal}
    (htext : (e.answer (.parseU64 (rawTokens c))).val = parseU64Text d.toText) :
    tokensRead e c = (replayTokens d).isSome := by
  unfold tokensRead replayTokens
  rw [htext]

/-- The input amount of an entry, if the answer comes from a text of the amount. -/
theorem readAmount_of_text {e : Env} {d : ScaledDecimal}
    (htext : (e.answer (.parseU64 d.value)).val = parseU64Text d.toText) :
    readAmount e d.value = entryInputAmount d := by
  unfold readAmount entryInputAmount
  rw [htext]

end SolanaBot.Analysis
