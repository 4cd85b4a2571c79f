import Mathlib.Tactic.FieldSimp
import Mathlib.Tactic.Positivity
import Mathlib.Tactic.Ring
import SolanaBot.Library.Validators
import SolanaBot.Model.EconomicDivisions

/-!
# Break-even and expected value

The break-even calculator and the expected value against each other. The calculator accepts exactly the
cost inputs that satisfy `ValidCosts`, and its result is then a formula of them
(`breakEvenCalculator_eq_ok_iff`); the expected value is accepted with it, as long as its own components
are not negative (`estimate_eq_ok_iff`). None of the divisions can stop, as the checks come first.
-/

set_option autoImplicit false

namespace SolanaBot.Analysis

open SolanaBot.Library SolanaBot.Model

/-! ## The calculator -/

/-- The check passes exactly for positive values. -/
theorem positive_eq_ok {value : Decimal} {name : String} :
    positive value name = .ok () ↔ 0 < value := by
  unfold positive
  split <;> simp [*]

/-- The check passes exactly for probabilities. -/
theorem probability_eq_ok {value : Decimal} {name : String} :
    probability value name = .ok () ↔ 0 ≤ value ∧ value ≤ 1 := by
  unfold probability
  split <;> simp [*]

/-- The check passes exactly for values that are not negative. -/
theorem nonNegative_eq_ok {value : Decimal} {name : String} :
    nonNegative value name = .ok () ↔ 0 ≤ value := by
  unfold nonNegative
  split <;> simp_all

/-- What the calculator checks. -/
structure ValidCosts (input : BreakEvenInputs) : Prop where
  position : 0 < input.positionSizeUsd
  ratio : 0 < input.assumedWinLossRatio
  loss : 0 < input.assumedAvgLossPct
  rate : 0 ≤ input.failedTxRate
  rate_le : input.failedTxRate ≤ 1
  priority : 0 ≤ input.avgPriorityFeeUsd
  swapFee : 0 ≤ input.avgSwapFeeBps
  slippage : 0 ≤ input.avgSlippageBps
  impact : 0 ≤ input.avgPriceImpactBps
  failedCost : 0 ≤ input.avgFailedTxCostUsd

/-- What a round trip costs, in percent of the position. -/
def costPct (input : BreakEvenInputs) : Decimal :=
  (2 * (input.positionSizeUsd * (input.avgSwapFeeBps + input.avgSlippageBps + input.avgPriceImpactBps)
      / 10000 + input.avgPriorityFeeUsd)
    + 2 * input.failedTxRate * input.avgFailedTxCostUsd) / input.positionSizeUsd * 100

/-- The average win that the costs require. -/
def requiredWinPct (input : BreakEvenInputs) : Decimal :=
  (input.assumedAvgLossPct + costPct input) / input.assumedWinLossRatio + costPct input

/-- The result for inputs that pass. -/
def breakEven (input : BreakEvenInputs) : BreakEvenResult :=
  { roundTripCostUsd :=
      2 * (input.positionSizeUsd * (input.avgSwapFeeBps + input.avgSlippageBps + input.avgPriceImpactBps)
        / 10000 + input.avgPriorityFeeUsd) + 2 * input.failedTxRate * input.avgFailedTxCostUsd
    roundTripCostPctOfPosition := costPct input
    requiredWinRateAtGivenRr :=
      (input.assumedAvgLossPct + costPct input) /
        (input.assumedAvgLossPct * (1 + input.assumedWinLossRatio))
    requiredAvgWinPct := requiredWinPct input
    expectedFailedTxCostUsd := 2 * input.failedTxRate * input.avgFailedTxCostUsd }

/-- **Calculator.** It accepts the inputs that pass its checks, and no others. -/
theorem breakEvenCalculator_eq_ok_iff {input : BreakEvenInputs} {r : BreakEvenResult} :
    breakEvenCalculator input = .ok r ↔ ValidCosts input ∧ r = breakEven input := by
  unfold breakEvenCalculator
  simp only [check_bind_eq_ok, positive_eq_ok, probability_eq_ok, nonNegative_eq_ok, pure,
    Except.pure, Except.ok.injEq]
  constructor
  · rintro ⟨hposition, hratio, hloss, ⟨hrate, hrate'⟩, hpriority, hfee, hslippage, himpact, hfailed, rfl⟩
    exact ⟨⟨hposition, hratio, hloss, hrate, hrate', hpriority, hfee, hslippage, himpact, hfailed⟩, rfl⟩
  · rintro ⟨h, rfl⟩
    exact ⟨h.position, h.ratio, h.loss, ⟨h.rate, h.rate_le⟩, h.priority, h.swapFee, h.slippage,
      h.impact, h.failedCost, rfl⟩

/-- Valid costs are not negative. -/
theorem costPct_nonneg {input : BreakEvenInputs} (h : ValidCosts input) : 0 ≤ costPct input := by
  obtain ⟨hposition, -, -, hrate, -, hpriority, hfee, hslippage, himpact, hfailed⟩ := h
  unfold costPct
  positivity

/-- The win that valid costs require is not negative. -/
theorem requiredWinPct_nonneg {input : BreakEvenInputs} (h : ValidCosts input) :
    0 ≤ requiredWinPct input := by
  have hcost := costPct_nonneg h
  have hloss := h.loss
  have hratio := h.ratio
  unfold requiredWinPct
  positivity

/-! ## The expected value -/

/-- What the costs of a position are made of, in the five components of the expected value. -/
def costComponents (ev : ExpectedValue) : Decimal :=
  ev.tradingFeesPct + ev.priorityAndNetworkPct + ev.slippagePct + ev.priceImpactPct
    + ev.failedTransactionPct

/-- The expected value for inputs that pass. -/
def expectation (gross : Decimal) (input : BreakEvenInputs) (adverseBps exitBps haircut : Decimal) :
    ExpectedValue :=
  { grossReturnPct := gross
    tradingFeesPct := 2 * input.avgSwapFeeBps / 100
    priorityAndNetworkPct := 2 * input.avgPriorityFeeUsd / input.positionSizeUsd * 100
    slippagePct := 2 * input.avgSlippageBps / 100
    priceImpactPct := 2 * input.avgPriceImpactBps / 100
    failedTransactionPct :=
      2 * input.failedTxRate * input.avgFailedTxCostUsd / input.positionSizeUsd * 100
    adverseSelectionPct := adverseBps / 100
    expectedExitCostPct := exitBps / 100
    uncertaintyHaircutPct := haircut
    netReturnPct :=
      gross - 2 * input.avgSwapFeeBps / 100
        - 2 * input.avgPriorityFeeUsd / input.positionSizeUsd * 100
        - 2 * input.avgSlippageBps / 100 - 2 * input.avgPriceImpactBps / 100
        - 2 * input.failedTxRate * input.avgFailedTxCostUsd / input.positionSizeUsd * 100
        - adverseBps / 100 - exitBps / 100 - haircut }

/-- **Expected value.** It is accepted with the costs, unless a component of its own is negative. -/
theorem estimate_eq_ok_iff {gross adverseBps exitBps haircut : Decimal} {m : CostModel}
    {ev : ExpectedValue} :
    ExpectedValue.estimate gross m adverseBps exitBps haircut = .ok ev ↔
      ValidCosts m.input ∧ (0 ≤ adverseBps ∧ 0 ≤ exitBps ∧ 0 ≤ haircut) ∧
        ev = expectation gross m.input adverseBps exitBps haircut := by
  unfold ExpectedValue.estimate CostModel.calculate
  cases hcalculated : breakEvenCalculator m.input with
  | error e =>
      refine iff_of_false (fun h => by cases h) ?_
      rintro ⟨hvalid, -⟩
      have hok := breakEvenCalculator_eq_ok_iff.mpr ⟨hvalid, rfl⟩
      rw [hcalculated] at hok
      cases hok
  | ok r =>
      obtain ⟨hvalid, rfl⟩ := breakEvenCalculator_eq_ok_iff.mp hcalculated
      rw [ok_bind, and_iff_right hvalid]
      by_cases hneg : adverseBps < 0 ∨ exitBps < 0 ∨ haircut < 0
      · rw [if_pos hneg]
        refine iff_of_false (fun h => by cases h) ?_
        rintro ⟨⟨hadverse, hexit, hhaircut⟩, -⟩
        rcases hneg with hneg | hneg | hneg
        · exact absurd hneg (not_lt.mpr hadverse)
        · exact absurd hneg (not_lt.mpr hexit)
        · exact absurd hneg (not_lt.mpr hhaircut)
      · rw [if_neg hneg]
        simp only [not_or, not_lt] at hneg
        rw [and_iff_right hneg]
        exact ⟨fun h => (Except.ok.inj h).symm, fun h => congrArg Except.ok h.symm⟩

/-- The components of the expected value are what the calculator says a round trip costs. -/
theorem costComponents_eq {input : BreakEvenInputs} (h : ValidCosts input)
    (gross adverseBps exitBps haircut : Decimal) :
    costComponents (expectation gross input adverseBps exitBps haircut) = costPct input := by
  have hposition := h.position.ne'
  unfold costComponents expectation costPct
  dsimp only
  field_simp
  ring

/-- The net return is the gross one less costs, both adjustments and the haircut. -/
theorem expectation_net {input : BreakEvenInputs} (h : ValidCosts input)
    (gross adverseBps exitBps haircut : Decimal) :
    (expectation gross input adverseBps exitBps haircut).netReturnPct =
      gross - costPct input - adverseBps / 100 - exitBps / 100 - haircut := by
  rw [← costComponents_eq h gross adverseBps exitBps haircut]
  unfold costComponents expectation
  dsimp only
  ring

/-- The required win rate leaves neither gain nor loss on average. -/
theorem requiredWinRate_even {input : BreakEvenInputs} (h : ValidCosts input) :
    (breakEven input).requiredWinRateAtGivenRr *
        (input.assumedWinLossRatio * input.assumedAvgLossPct - costPct input) +
      (1 - (breakEven input).requiredWinRateAtGivenRr) *
        (-input.assumedAvgLossPct - costPct input) = 0 := by
  have hloss := h.loss.ne'
  have hratio : 1 + input.assumedWinLossRatio ≠ 0 := (add_pos one_pos h.ratio).ne'
  unfold breakEven
  dsimp only
  field_simp
  ring

/-! ## Divisions -/

/-- No input makes the calculator divide by zero. -/
theorem breakEvenCalculator_divides (input : BreakEvenInputs) :
    Faulting.breakEvenCalculator input = Faulting.checked (breakEvenCalculator input) := by
  unfold Faulting.breakEvenCalculator breakEvenCalculator
  apply Faulting.checked_bind_congr
  intro hposition
  apply Faulting.checked_bind_congr
  intro hratio
  apply Faulting.checked_bind_congr
  intro hloss
  refine Faulting.checked_bind_congr fun _ => ?_
  refine Faulting.checked_bind_congr fun _ => ?_
  refine Faulting.checked_bind_congr fun _ => ?_
  refine Faulting.checked_bind_congr fun _ => ?_
  refine Faulting.checked_bind_congr fun _ => ?_
  refine Faulting.checked_bind_congr fun _ => ?_
  rw [positive_eq_ok] at hposition hratio hloss
  have hrisk : input.assumedAvgLossPct * (1 + input.assumedWinLossRatio) ≠ 0 :=
    (mul_pos hloss (add_pos one_pos hratio)).ne'
  rw [Faulting.quotient_bind (by norm_num), Faulting.quotient_bind hposition.ne',
    Faulting.quotient_bind hrisk, Faulting.quotient_bind hratio.ne']
  rfl

/-- Nor does it the expected value. -/
theorem estimate_divides (gross : Decimal) (m : CostModel) (adverseBps exitBps haircut : Decimal) :
    Faulting.estimate gross m adverseBps exitBps haircut =
      Faulting.checked (ExpectedValue.estimate gross m adverseBps exitBps haircut) := by
  unfold Faulting.estimate Faulting.calculate ExpectedValue.estimate CostModel.calculate
  rw [breakEvenCalculator_divides]
  cases hcalculated : breakEvenCalculator m.input with
  | error e => rfl
  | ok r =>
      have hposition := (breakEvenCalculator_eq_ok_iff.mp hcalculated).1.position.ne'
      have hhundred : (100 : Decimal) ≠ 0 := by norm_num
      rw [Faulting.checked_bind_ok, ok_bind]
      by_cases hneg : adverseBps < 0 ∨ exitBps < 0 ∨ haircut < 0
      · rw [if_pos hneg, if_pos hneg]
        rfl
      · rw [if_neg hneg, if_neg hneg]
        simp only [Faulting.quotient_bind hhundred, Faulting.quotient_bind hposition]
        rfl

/-- **Agreement.** For costs that the calculator accepts, the cost gate and the expected value speak of
the same costs, and the required win rate breaks even. -/
theorem economics_agree (m : CostModel) (r : BreakEvenResult)
    (h : breakEvenCalculator m.input = .ok r) :
    (Faulting.breakEvenCalculator m.input).run = .ok (.ok r) ∧
      r.requiredWinRateAtGivenRr *
          (m.input.assumedWinLossRatio * m.input.assumedAvgLossPct - r.roundTripCostPctOfPosition) +
        (1 - r.requiredWinRateAtGivenRr) *
          (-m.input.assumedAvgLossPct - r.roundTripCostPctOfPosition) = 0 ∧
      ∀ gross adverseBps exitBps haircut : Decimal,
        ((∃ ev, ExpectedValue.estimate gross m adverseBps exitBps haircut = .ok ev) ↔
          0 ≤ adverseBps ∧ 0 ≤ exitBps ∧ 0 ≤ haircut) ∧
        ∀ ev, ExpectedValue.estimate gross m adverseBps exitBps haircut = .ok ev →
          (Faulting.estimate gross m adverseBps exitBps haircut).run = .ok (.ok ev) ∧
          ev.tradingFeesPct + ev.priorityAndNetworkPct + ev.slippagePct + ev.priceImpactPct
            + ev.failedTransactionPct = r.roundTripCostPctOfPosition ∧
          (ev.grossReturnPct = gross ∧ ev.adverseSelectionPct = adverseBps / 100 ∧
            ev.expectedExitCostPct = exitBps / 100 ∧ ev.uncertaintyHaircutPct = haircut) ∧
          ev.netReturnPct = ev.grossReturnPct - r.roundTripCostPctOfPosition
            - ev.adverseSelectionPct - ev.expectedExitCostPct - ev.uncertaintyHaircutPct := by
  obtain ⟨hvalid, hr⟩ := breakEvenCalculator_eq_ok_iff.mp h
  refine ⟨?_, ?_, fun gross adverseBps exitBps haircut => ⟨?_, fun ev hev => ?_⟩⟩
  · rw [breakEvenCalculator_divides, h]
    rfl
  · rw [hr]
    exact requiredWinRate_even hvalid
  · constructor
    · rintro ⟨ev, hev⟩
      exact (estimate_eq_ok_iff.mp hev).2.1
    · intro hcomponents
      exact ⟨_, estimate_eq_ok_iff.mpr ⟨hvalid, hcomponents, rfl⟩⟩
  · have hdivides := estimate_divides gross m adverseBps exitBps haircut
    rw [hev] at hdivides
    obtain ⟨-, -, rfl⟩ := estimate_eq_ok_iff.mp hev
    rw [hr]
    refine ⟨by rw [hdivides]; rfl, costComponents_eq hvalid gross adverseBps exitBps haircut,
      ⟨rfl, rfl, rfl, rfl⟩, expectation_net hvalid gross adverseBps exitBps haircut⟩

/-- A position of ten dollars, as the source's test has it. -/
def viabilityCosts : CostModel :=
  { observedAt := 0
    input :=
      { positionSizeUsd := 10, avgPriorityFeeUsd := 1 / 500, avgSwapFeeBps := 30, avgSlippageBps := 100
        avgPriceImpactBps := 20, failedTxRate := 1 / 10, avgFailedTxCostUsd := 1 / 500
        assumedWinLossRatio := 2, assumedAvgLossPct := 10 }
    source := "test"
    isLiveSnapshot := false }

/-- The costs of the viability study are valid. -/
theorem viabilityCosts_valid : ValidCosts viabilityCosts.input := by
  constructor <;> decide +kernel

/-- Its costs are 3.044 percent of the position, and the calculator does not fault. -/
theorem economics_agree_viability :
    (breakEven viabilityCosts.input).roundTripCostPctOfPosition = 761 / 250 ∧
      (Faulting.breakEvenCalculator viabilityCosts.input).run =
        .ok (.ok (breakEven viabilityCosts.input)) := by
  have haccepted := breakEvenCalculator_eq_ok_iff.mpr ⟨viabilityCosts_valid, rfl⟩
  exact ⟨by decide +kernel, (economics_agree viabilityCosts _ haccepted).1⟩

end SolanaBot.Analysis
