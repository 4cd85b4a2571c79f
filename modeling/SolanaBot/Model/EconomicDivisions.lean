import SolanaBot.Library.Faults
import SolanaBot.Model.Economics

/-!
# Divisions of the cost model

`economics/viability.rs` and `economics/cost_model.rs` once more, with every division of the source: a
division by zero stops the program. The functions stand in the namespace `Faulting` under the source's
names, next to those that are total.
-/

set_option autoImplicit false

namespace SolanaBot.Model

open SolanaBot.Library

namespace Faulting

/-- A calculation that ends in a result or in an error, or stops the program. -/
abbrev Calculation := ExceptT ViabilityError (Except Fault)

/-- A check of the source, which has no division. -/
def checked {α : Type} (result : Except ViabilityError α) : Calculation α := ExceptT.mk (.ok result)

/-- A division of the source. -/
def quotient (a b : Decimal) : Calculation Decimal := ExceptT.lift (divide a b)

/-- RUST: economics/viability.rs:50-87. -/
def breakEvenCalculator (input : BreakEvenInputs) : Calculation BreakEvenResult := do
  checked (positive input.positionSizeUsd "position_size_usd")
  checked (positive input.assumedWinLossRatio "assumed_win_loss_ratio")
  checked (positive input.assumedAvgLossPct "assumed_avg_loss_pct")
  checked (probability input.failedTxRate "failed_tx_rate")
  checked (nonNegative input.avgPriorityFeeUsd "avg_priority_fee_usd")
  checked (nonNegative input.avgSwapFeeBps "avg_swap_fee_bps")
  checked (nonNegative input.avgSlippageBps "avg_slippage_bps")
  checked (nonNegative input.avgPriceImpactBps "avg_price_impact_bps")
  checked (nonNegative input.avgFailedTxCostUsd "avg_failed_tx_cost_usd")
  let perFillBps := input.avgSwapFeeBps + input.avgSlippageBps + input.avgPriceImpactBps
  let fillCost ← quotient (input.positionSizeUsd * perFillBps) 10000
  let expectedFailedTxCostUsd := 2 * input.failedTxRate * input.avgFailedTxCostUsd
  let roundTripCostUsd := 2 * (fillCost + input.avgPriorityFeeUsd) + expectedFailedTxCostUsd
  let costShare ← quotient roundTripCostUsd input.positionSizeUsd
  let costPct := costShare * 100
  let loss := input.assumedAvgLossPct
  let requiredWinRate ← quotient (loss + costPct) (loss * (1 + input.assumedWinLossRatio))
  let winPct ← quotient (loss + costPct) input.assumedWinLossRatio
  let requiredAvgWinPct := winPct + costPct
  return { roundTripCostUsd
           roundTripCostPctOfPosition := costPct
           requiredWinRateAtGivenRr := requiredWinRate
           requiredAvgWinPct
           expectedFailedTxCostUsd }

/-- RUST: economics/cost_model.rs:75-77. -/
def calculate (m : CostModel) : Calculation BreakEvenResult := breakEvenCalculator m.input

/-- RUST: economics/cost_model.rs:21-64. -/
def estimate (grossReturnPct : Decimal) (model : CostModel)
    (adverseSelectionBps exitCostBps uncertaintyHaircutPct : Decimal) : Calculation ExpectedValue := do
  let r ← calculate model
  if adverseSelectionBps < 0 ∨ exitCostBps < 0 ∨ uncertaintyHaircutPct < 0 then
    checked (.error (.negative "expected-value component"))
  else
    let p := model.input.positionSizeUsd
    let fees ← quotient (2 * model.input.avgSwapFeeBps) 100
    let priorityShare ← quotient (2 * model.input.avgPriorityFeeUsd) p
    let priority := priorityShare * 100
    let slippage ← quotient (2 * model.input.avgSlippageBps) 100
    let impact ← quotient (2 * model.input.avgPriceImpactBps) 100
    let failedShare ← quotient r.expectedFailedTxCostUsd p
    let failed := failedShare * 100
    let adverse ← quotient adverseSelectionBps 100
    let exit ← quotient exitCostBps 100
    let net := grossReturnPct - fees - priority - slippage - impact - failed - adverse - exit
      - uncertaintyHaircutPct
    return { grossReturnPct
             tradingFeesPct := fees
             priorityAndNetworkPct := priority
             slippagePct := slippage
             priceImpactPct := impact
             failedTransactionPct := failed
             adverseSelectionPct := adverse
             expectedExitCostPct := exit
             uncertaintyHaircutPct
             netReturnPct := net }

/-! ## The calculus -/

/-- A check that passes goes on. -/
theorem checked_bind_ok {α β : Type} (a : α) (rest : α → Calculation β) :
    (checked (.ok a) >>= rest) = rest a := rfl

/-- A division by another number than zero goes on with the quotient. -/
theorem quotient_bind {β : Type} {a b : Decimal} (h : b ≠ 0) (rest : Decimal → Calculation β) :
    (quotient a b >>= rest) = rest (a / b) := by
  unfold quotient
  rw [divide_of_ne_zero h]
  rfl

/-- A check in front of two calculations that agree once it passed. -/
theorem checked_bind_congr {β : Type} {check : Except ViabilityError Unit} {rest : Calculation β}
    {rest' : Except ViabilityError β} (h : check = .ok () → rest = checked rest') :
    (checked check >>= fun _ => rest) = checked (check >>= fun _ => rest') := by
  cases hcheck : check with
  | error e => rfl
  | ok u => exact h hcheck

end Faulting

end SolanaBot.Model
