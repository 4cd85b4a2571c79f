import SolanaBot.Model.Prelude

/-!
# Cost model and economic gate

The break-even calculation of `economics/viability.rs` and the cost model, the
cost gate and the expected value of `economics/cost_model.rs`.
-/

set_option autoImplicit false

namespace SolanaBot.Model

/-- RUST: economics/viability.rs:7-17. -/
structure BreakEvenInputs where
  positionSizeUsd : Decimal
  avgPriorityFeeUsd : Decimal
  avgSwapFeeBps : Decimal
  avgSlippageBps : Decimal
  avgPriceImpactBps : Decimal
  failedTxRate : Decimal
  avgFailedTxCostUsd : Decimal
  assumedWinLossRatio : Decimal
  assumedAvgLossPct : Decimal
deriving DecidableEq

/-- RUST: economics/viability.rs:28-34. -/
structure BreakEvenResult where
  roundTripCostUsd : Decimal
  roundTripCostPctOfPosition : Decimal
  requiredWinRateAtGivenRr : Decimal
  requiredAvgWinPct : Decimal
  expectedFailedTxCostUsd : Decimal
deriving DecidableEq

/-- RUST: economics/viability.rs:37-44. The text names the offending input. -/
inductive ViabilityError where
  | nonPositive (name : String)
  | probabilityOutOfRange (name : String)
  | negative (name : String)
deriving DecidableEq

/-- Its text. RUST: economics/viability.rs:38-43. -/
def ViabilityError.toText : ViabilityError → String
  | .nonPositive n => n ++ " must be greater than zero"
  | .probabilityOutOfRange n => n ++ " must be between 0 and 1"
  | .negative n => "cost inputs cannot be negative: " ++ n

/-- RUST: economics/viability.rs:89-95. -/
def positive (value : Decimal) (name : String) : Except ViabilityError Unit :=
  if 0 < value then .ok () else .error (.nonPositive name)

/-- RUST: economics/viability.rs:96-102. -/
def probability (value : Decimal) (name : String) : Except ViabilityError Unit :=
  if 0 ≤ value ∧ value ≤ 1 then .ok () else .error (.probabilityOutOfRange name)

/-- RUST: economics/viability.rs:55-65, one turn of the loop over the cost inputs. -/
def nonNegative (value : Decimal) (name : String) : Except ViabilityError Unit :=
  if value < 0 then .error (.negative name) else .ok ()

/-- RUST: economics/viability.rs:50-87. -/
def breakEvenCalculator (input : BreakEvenInputs) : Except ViabilityError BreakEvenResult := do
  positive input.positionSizeUsd "position_size_usd"
  positive input.assumedWinLossRatio "assumed_win_loss_ratio"
  positive input.assumedAvgLossPct "assumed_avg_loss_pct"
  probability input.failedTxRate "failed_tx_rate"
  nonNegative input.avgPriorityFeeUsd "avg_priority_fee_usd"
  nonNegative input.avgSwapFeeBps "avg_swap_fee_bps"
  nonNegative input.avgSlippageBps "avg_slippage_bps"
  nonNegative input.avgPriceImpactBps "avg_price_impact_bps"
  nonNegative input.avgFailedTxCostUsd "avg_failed_tx_cost_usd"
  let perFillBps := input.avgSwapFeeBps + input.avgSlippageBps + input.avgPriceImpactBps
  let fillCost := input.positionSizeUsd * perFillBps / 10000
  let expectedFailedTxCostUsd := 2 * input.failedTxRate * input.avgFailedTxCostUsd
  let roundTripCostUsd := 2 * (fillCost + input.avgPriorityFeeUsd) + expectedFailedTxCostUsd
  let costPct := roundTripCostUsd / input.positionSizeUsd * 100
  let loss := input.assumedAvgLossPct
  let requiredWinRate := (loss + costPct) / (loss * (1 + input.assumedWinLossRatio))
  let requiredAvgWinPct := (loss + costPct) / input.assumedWinLossRatio + costPct
  return { roundTripCostUsd
           roundTripCostPctOfPosition := costPct
           requiredWinRateAtGivenRr := requiredWinRate
           requiredAvgWinPct
           expectedFailedTxCostUsd }

/-- RUST: economics/cost_model.rs:68-73. -/
structure CostModel where
  observedAt : Time
  input : BreakEvenInputs
  source : String
  isLiveSnapshot : Bool
deriving DecidableEq

/-- RUST: economics/cost_model.rs:75-77. -/
def CostModel.calculate (m : CostModel) : Except ViabilityError BreakEvenResult :=
  breakEvenCalculator m.input

/-- RUST: economics/cost_model.rs:81-87. -/
inductive EconomicGateDecision where
  | allowed (result : BreakEvenResult)
  | rejected (result : BreakEvenResult) (thresholdPct : Decimal)
deriving DecidableEq

/-- RUST: economics/cost_model.rs:90-92. -/
structure EconomicGate where
  roundTripCostThresholdPct : Decimal

/-- RUST: economics/cost_model.rs:95-106. A calculation error is never a permission. -/
def EconomicGate.check (gate : EconomicGate) (model : CostModel) :
    Except ViabilityError EconomicGateDecision := do
  let result ← model.calculate
  if result.roundTripCostPctOfPosition > gate.roundTripCostThresholdPct then
    return .rejected result gate.roundTripCostThresholdPct
  else
    return .allowed result

/-- RUST: economics/cost_model.rs:8-19. -/
structure ExpectedValue where
  grossReturnPct : Decimal
  tradingFeesPct : Decimal
  priorityAndNetworkPct : Decimal
  slippagePct : Decimal
  priceImpactPct : Decimal
  failedTransactionPct : Decimal
  adverseSelectionPct : Decimal
  expectedExitCostPct : Decimal
  uncertaintyHaircutPct : Decimal
  netReturnPct : Decimal
deriving DecidableEq

/-- RUST: economics/cost_model.rs:21-64. -/
def ExpectedValue.estimate (grossReturnPct : Decimal) (model : CostModel)
    (adverseSelectionBps exitCostBps uncertaintyHaircutPct : Decimal) :
    Except ViabilityError ExpectedValue := do
  let r ← model.calculate
  if adverseSelectionBps < 0 ∨ exitCostBps < 0 ∨ uncertaintyHaircutPct < 0 then
    throw (.negative "expected-value component")
  let p := model.input.positionSizeUsd
  let fees := 2 * model.input.avgSwapFeeBps / 100
  let priority := 2 * model.input.avgPriorityFeeUsd / p * 100
  let slippage := 2 * model.input.avgSlippageBps / 100
  let impact := 2 * model.input.avgPriceImpactBps / 100
  let failed := r.expectedFailedTxCostUsd / p * 100
  let adverse := adverseSelectionBps / 100
  let exit := exitCostBps / 100
  let net := grossReturnPct - fees - priority - slippage - impact - failed - adverse - exit
    - uncertaintyHaircutPct
  return { grossReturnPct
           tradingFeesPct := fees
           priorityAndNetworkPct := priority
           slippagePct := slippage
           priceImpactPct := impact
           failedTransactionPct := failed
           adverseSelectionPct := adverse
           expectedExitCostPct := exit
           uncertaintyHaircutPct
           netReturnPct := net }

end SolanaBot.Model
