import Mathlib.Tactic.FieldSimp
import Mathlib.Tactic.Positivity
import SolanaBot.Model.Session

/-!
# The unit of a valuation

A price is that of one token, and a remaining quantity counts the smallest parts of a token. Their
product, which the portfolio keeps as the current value of a position, is the value in USD times
`10 ^ decimals` (`currentValue_entered`, `currentValue_marked`). It is in the unit of the entry cost
exactly for tokens without decimals, or if there is nothing to scale (`valuation_units_iff`).
-/

set_option autoImplicit false

namespace SolanaBot.Analysis

open SolanaBot.Model

/-- The current value that the portfolio has for a mint. -/
def currentValue (pf : Portfolio) (mint : String) : Option Decimal :=
  (pf.position mint).map Position.currentValueUsd

/-- A value is the same after the scaling if there is nothing to scale. -/
theorem scaled_eq_iff (v : Decimal) (decimals : UInt8) :
    v * 10 ^ decimals.toNat = v ↔ decimals = 0 ∨ v = 0 := by
  rw [mul_right_eq_self₀, ← UInt8.toNat_inj, UInt8.toNat_zero]
  refine or_congr_left ⟨fun h => ?_, fun h => by rw [h, pow_zero]⟩
  by_contra hne
  exact absurd ((pow_eq_one_iff_of_nonneg (by decide) hne).mp h) (by decide)

/-! ## Entries -/

/-- The fill was valued and priced by `price_fill`, as an entry for `v` USD. -/
def PricedAt (fill : Fill) (v : Decimal) (baseDecimals tokenDecimals : UInt8) : Prop :=
  ∃ value, (ValueBasis.inputValueUsd v).priceFill fill.inputAmount baseDecimals fill.outputAmount
      tokenDecimals = .ok (value, fill.priceUsd) ∧ fill.inputValueUsd = some value

/-- A priced fill has an output and a value, and its price times its units is the value. -/
theorem PricedAt.price {fill : Fill} {v : Decimal} {baseDecimals tokenDecimals : UInt8}
    (h : PricedAt fill v baseDecimals tokenDecimals) :
    fill.outputAmount ≠ 0 ∧ fill.inputValueUsd = some v ∧
      fill.priceUsd * dec fill.outputAmount = v * 10 ^ tokenDecimals.toNat := by
  obtain ⟨value, hpriced, hvalue⟩ := h
  obtain ⟨hin, hout, hamount⟩ := (ValueBasis.priceFill_isOk_iff _ _ _ _ _).mp ⟨_, hpriced⟩
  rw [ValueBasis.priceFill_inputValueUsd_eq hin hout hamount] at hpriced
  injection hpriced with hpriced
  obtain ⟨rfl, hprice⟩ := Prod.mk.inj hpriced
  refine ⟨hamount, hvalue, ?_⟩
  have hne : dec fill.outputAmount ≠ 0 := by
    unfold dec
    rwa [Nat.cast_ne_zero, ← UInt64.toNat_zero, ne_eq, UInt64.toNat_inj]
  rw [← hprice]
  field_simp

section Entry

variable {fill : Fill} {v : Decimal} {baseDecimals tokenDecimals : UInt8}

/-- The value of a first position is the USD value of its entry, scaled by the decimals. -/
theorem currentValue_entered (h : PricedAt fill v baseDecimals tokenDecimals)
    (mint baseMint positionId signalId : String) (costModel : CostModel) :
    currentValue (Portfolio.empty.applyEntry mint baseMint tokenDecimals baseDecimals positionId fill
      fill.priceUsd signalId costModel).2 mint = some (v * 10 ^ tokenDecimals.toNat) := by
  obtain ⟨hamount, hvalue, hprice⟩ := h.price
  have hok := (Portfolio.applyEntry_ok_iff Portfolio.empty mint baseMint tokenDecimals baseDecimals
    positionId fill fill.priceUsd signalId costModel).mpr ⟨hamount, by rw [hvalue]; rfl⟩
  obtain ⟨-, w, -, hput⟩ := Portfolio.applyEntry_ok hok
  have hnone : Portfolio.empty.position mint = none := rfl
  unfold currentValue
  rw [hput, Portfolio.position_put, hnone]
  exact (congrArg _ (if_pos rfl)).trans (congrArg some hprice)

end Entry

/-! ## Marks -/

/-- A mark times the remaining quantity is what the quote is worth, scaled by the decimals. -/
theorem mark_mul_remaining {remaining output : UInt64} {baseDecimals tokenDecimals : UInt8}
    {basePrice mark : Decimal}
    (hmark : markPriceFromQuote output baseDecimals basePrice remaining tokenDecimals = some mark) :
    mark * dec remaining =
      dec output / 10 ^ baseDecimals.toNat * basePrice * 10 ^ tokenDecimals.toNat := by
  unfold markPriceFromQuote at hmark
  by_cases hzero : remaining = 0 ∨ output = 0
  · rw [if_pos hzero] at hmark
    cases hmark
  rw [if_neg hzero] at hmark
  have hne : dec remaining ≠ 0 := by
    unfold dec
    rw [Nat.cast_ne_zero, ← UInt64.toNat_zero, ne_eq, UInt64.toNat_inj]
    exact fun h => hzero (.inl h)
  by_cases hbase : baseDecimals.toNat < 20
  · by_cases htoken : tokenDecimals.toNat < 20
    · have hunits : dec remaining / 10 ^ tokenDecimals.toNat ≠ 0 := by positivity
      rw [units_eq_ok hbase, units_eq_ok htoken] at hmark
      simp only [if_neg hunits, Option.some.injEq] at hmark
      rw [← hmark]
      field_simp
    · rw [units_eq_ok hbase, units_eq_error htoken] at hmark
      cases hmark
  · rw [units_eq_error hbase] at hmark
    cases hmark

/-- The value of a position marked by a quote for all of it is what the quote is worth, scaled by the
decimals. -/
theorem currentValue_marked {pf : Portfolio} {mint : String} {p : Position} {remaining output : UInt64}
    {baseDecimals tokenDecimals : UInt8} {basePrice mark : Decimal}
    (hp : pf.position mint = some p) (hremaining : p.remainingQuantityAtomic = some remaining)
    (hmark : markPriceFromQuote output baseDecimals basePrice remaining tokenDecimals = some mark) :
    currentValue (pf.markToMarket mint mark).2 mint =
      some (dec output / 10 ^ baseDecimals.toNat * basePrice * 10 ^ tokenDecimals.toNat) := by
  have hvalue : mark * dec remaining =
      dec output / 10 ^ baseDecimals.toNat * basePrice * 10 ^ tokenDecimals.toNat :=
    mark_mul_remaining hmark
  have hput : ∀ marked : Position, marked.mint = mint → marked.currentValueUsd = mark * dec remaining →
      currentValue ⟨pf.positions.put marked⟩ mint = some (mark * dec remaining) := by
    intro marked hmint hcurrent
    unfold currentValue
    rw [Portfolio.position_put, if_pos hmint.symm, ← hcurrent]
    rfl
  have hmint := Portfolio.mint_of_position hp
  rw [← hvalue]
  unfold Portfolio.markToMarket
  simp only [hp, hremaining]
  cases p.entryCostUsd with
  | none => exact hput _ hmint rfl
  | some entryCost => exact hput _ hmint rfl

/-- **The current value is in the unit of the entry cost exactly for tokens without decimals**, or if
the value is zero: after a first entry, and after a mark by a quote for the whole position. -/
theorem valuation_units_iff (mint : String) (baseDecimals tokenDecimals : UInt8) :
    (∀ (fill : Fill) (v : Decimal) (baseMint positionId signalId : String) (costModel : CostModel),
      PricedAt fill v baseDecimals tokenDecimals →
        (currentValue (Portfolio.empty.applyEntry mint baseMint tokenDecimals baseDecimals positionId
            fill fill.priceUsd signalId costModel).2 mint = fill.inputValueUsd ↔
          tokenDecimals = 0 ∨ v = 0)) ∧
    ∀ (pf : Portfolio) (p : Position) (remaining output : UInt64) (basePrice mark : Decimal),
      pf.position mint = some p → p.remainingQuantityAtomic = some remaining →
      markPriceFromQuote output baseDecimals basePrice remaining tokenDecimals = some mark →
        (currentValue (pf.markToMarket mint mark).2 mint =
            some (dec output / 10 ^ baseDecimals.toNat * basePrice) ↔
          tokenDecimals = 0 ∨ basePrice = 0) := by
  constructor
  · intro fill v baseMint positionId signalId costModel hpriced
    rw [currentValue_entered hpriced, hpriced.price.2.1, Option.some.injEq, scaled_eq_iff]
  · intro pf p remaining output basePrice mark hp hremaining hmark
    have houtput : output ≠ 0 := by
      rintro rfl
      unfold markPriceFromQuote at hmark
      rw [if_pos (.inr rfl)] at hmark
      cases hmark
    have hworth : dec output / 10 ^ baseDecimals.toNat ≠ 0 := fun h =>
      houtput ((units_le_zero_iff output baseDecimals).mp h.le)
    rw [currentValue_marked hp hremaining hmark, Option.some.injEq, scaled_eq_iff,
      mul_eq_zero_iff_left hworth]

/-! ## A token with decimals -/

/-- Ten dollars, with six decimals, for five tokens of the given decimals. -/
def tenDollarFill (tokenDecimals : UInt8) : Fill where
  orderId := "order"
  signature := "signature"
  inputAmount := 10000000
  outputAmount := 5 * pow10 tokenDecimals
  priceUsd := 2
  feesUsd := 0
  slippageBps := 0
  confirmedAt := 0
  latencyMs := 0
  feeLamports := 5000
  inputValueUsd := some 10
  expectedOutputAmount := none

/-- The costs of the sample. -/
def tenDollarCosts : CostModel where
  observedAt := 0
  input := ⟨10, 1, 1, 0, 0, 0, 0, 0, 0⟩
  source := "source"
  isLiveSnapshot := false

/-- The portfolio after the entry. -/
def tenDollarEntry (tokenDecimals : UInt8) : Portfolio :=
  (Portfolio.empty.applyEntry "mint" "base" tokenDecimals 6 "position" (tenDollarFill tokenDecimals) 2
    "signal" tenDollarCosts).2

/-- The fill of ten dollars is priced at both decimals. -/
theorem tenDollarFill_priced : PricedAt (tenDollarFill 0) 10 6 0 ∧ PricedAt (tenDollarFill 6) 10 6 6 :=
  ⟨⟨10, by decide +kernel, rfl⟩, ⟨10, by decide +kernel, rfl⟩⟩

/-- For a token without decimals both values are right: the ten dollars that it cost, and the eight
that it is sold for. -/
theorem valuation_units_sample :
    currentValue (tenDollarEntry 0) "mint" = some 10 ∧
      currentValue ((tenDollarEntry 0).markToMarket "mint" (8 / 5)).2 "mint" =
        some (dec 8000000 / 10 ^ (6 : UInt8).toNat * 1) :=
  ⟨((valuation_units_iff "mint" 6 0).1 (tenDollarFill 0) 10 "base" "position" "signal" tenDollarCosts
      tenDollarFill_priced.1).mpr (.inl rfl),
    ((valuation_units_iff "mint" 6 0).2 (tenDollarEntry 0) _ 5 8000000 1 (8 / 5) rfl rfl
      (by decide +kernel)).mpr (.inl rfl)⟩

/-- For a token with six decimals both values are a million times too high. -/
theorem decimals_remain :
    ¬ (∀ (mint : String) (baseDecimals tokenDecimals : UInt8) (fill : Fill) (v : Decimal)
        (baseMint positionId signalId : String) (costModel : CostModel),
      PricedAt fill v baseDecimals tokenDecimals →
        currentValue (Portfolio.empty.applyEntry mint baseMint tokenDecimals baseDecimals positionId
          fill fill.priceUsd signalId costModel).2 mint = fill.inputValueUsd) ∧
    ¬ ∀ (mint : String) (baseDecimals tokenDecimals : UInt8) (pf : Portfolio) (p : Position)
        (remaining output : UInt64) (basePrice mark : Decimal),
      pf.position mint = some p → p.remainingQuantityAtomic = some remaining →
      markPriceFromQuote output baseDecimals basePrice remaining tokenDecimals = some mark →
        currentValue (pf.markToMarket mint mark).2 mint =
          some (dec output / 10 ^ baseDecimals.toNat * basePrice) := by
  constructor
  · intro hclaim
    have hentered := hclaim "mint" 6 6 (tenDollarFill 6) 10 "base" "position" "signal" tenDollarCosts
      tenDollarFill_priced.2
    rw [currentValue_entered tenDollarFill_priced.2] at hentered
    exact absurd hentered (by decide +kernel)
  · intro hclaim
    have hmark : markPriceFromQuote 8000000 6 1 5000000 6 = some (8 / 5) := by decide +kernel
    have hmarked := hclaim "mint" 6 6 (tenDollarEntry 6) _ 5000000 8000000 1 (8 / 5) rfl rfl hmark
    rw [currentValue_marked rfl rfl hmark] at hmarked
    exact absurd hmarked (by decide +kernel)

end SolanaBot.Analysis
