import SolanaBot.Model.Config
import SolanaBot.Model.Economics

/-!
# The risk engine

`risk.rs`: the kill switch, the cost gate in front of it and the stateful engine
that every entry passes. A refusal carries the numbers that its message prints.
-/

set_option autoImplicit false

namespace SolanaBot.Model

/-- Why an entry or an exit is refused. -/
inductive Refusal where
  | text (reason : String)
  /-- "round-trip cost {}% exceeds {}% threshold" -/
  | roundTripCost (costPct thresholdPct : Decimal)
  /-- "aggregate exposure {} would exceed max live capital {}" -/
  | aggregateExposure (projected maxLiveCapital : Decimal)
  /-- "position size {} exceeds risk-adjusted maximum {} (equity={}, risk_per_trade={}, stop_loss={})" -/
  | positionSize (size maximum equity riskPerTrade stopLoss : Decimal)
deriving DecidableEq

/-- RUST: risk.rs:10-16. -/
inductive RiskError where
  | economics (e : ViabilityError)
  | rejected (reason : Refusal)
deriving DecidableEq

/-- RUST: risk.rs:22-26. -/
structure KillSwitch where
  startingCapitalUsd : Decimal
  maxDrawdownPct : Decimal
  tripped : Bool
deriving DecidableEq

namespace KillSwitch

/-- RUST: risk.rs:28-34. -/
def new (startingCapitalUsd maxDrawdownPct : Decimal) : KillSwitch :=
  { startingCapitalUsd, maxDrawdownPct, tripped := false }

/-- RUST: risk.rs:35-41. -/
def observeEquity (k : KillSwitch) (equityUsd : Decimal) : KillSwitch :=
  if equityUsd ≤ k.startingCapitalUsd * (1 - k.maxDrawdownPct / 100) then
    { k with tripped := true }
  else k

/-- RUST: risk.rs:42-44. -/
def forceTrip (k : KillSwitch) : KillSwitch := { k with tripped := true }

end KillSwitch

/-- RUST: risk.rs:50-70. -/
def authorizeEntry (killSwitch : KillSwitch) (gate : EconomicGate) (model : CostModel) :
    Except RiskError Unit :=
  if killSwitch.tripped then .error (.rejected (.text "kill switch is latched; no new entries"))
  else
    match gate.check model with
    | .error e => .error (.economics e)
    | .ok (.allowed _) => .ok ()
    | .ok (.rejected result thresholdPct) =>
        .error (.rejected (.roundTripCost result.roundTripCostPctOfPosition thresholdPct))

/-- RUST: risk.rs:72-80. -/
structure RiskState where
  equityUsd : Decimal
  dayStartEquityUsd : Decimal
  totalExposureUsd : Decimal
  openPositions : ℕ
  tradesToday : UInt32
  cooldownUntil : Option Time

/-- RUST: risk.rs:81-86. -/
structure RiskEngine where
  config : RiskConfig
  killSwitch : KillSwitch
  state : RiskState
  consecutiveFailures : UInt32

namespace RiskEngine

/-- RUST: risk.rs:88-101. -/
def new (config : RiskConfig) (equity : Decimal) : RiskEngine where
  config := config
  killSwitch := KillSwitch.new equity config.maxTotalDrawdownBeforeKillSwitchPct
  state :=
    { equityUsd := equity
      dayStartEquityUsd := equity
      totalExposureUsd := 0
      openPositions := 0
      tradesToday := 0
      cooldownUntil := none }
  consecutiveFailures := 0

/-- RUST: risk.rs:103-120. -/
def maxPositionUsd (r : RiskEngine) (stopLossPct : Decimal) : Option Decimal :=
  if stopLossPct ≤ 0 then none
  else some (r.state.equityUsd * r.config.maxRiskPerTradePercent / stopLossPct)

/-- RUST: risk.rs:122-187. -/
def authorize (r : RiskEngine) (positionUsd liquidityUsd : Decimal)
    (expectedSlippageBps priceImpactBps : UInt32) (now : Time) : Except RiskError Unit :=
  let reject (reason : String) : Except RiskError Unit := .error (.rejected (.text reason))
  if r.killSwitch.tripped then reject "kill switch latched"
  else if positionUsd ≤ 0 then reject "position size must be positive"
  else if liquidityUsd ≤ 0 then reject "liquidity unknown; refusing to size a position"
  else if r.state.openPositions ≥ r.config.maxConcurrentPositions then
    reject "concurrent-position limit"
  else if r.state.tradesToday ≥ r.config.maxTradesPerDay then reject "daily trade-count limit"
  else if positionUsd > r.state.equityUsd * r.config.maxPositionPercentOfEquity / 100 ∨
      positionUsd > liquidityUsd * r.config.maxPositionPercentOfLiquidity / 100 then
    reject "position exceeds equity/liquidity limit"
  else
    let projected := r.state.totalExposureUsd + positionUsd
    if projected ≥ r.config.maxLiveCapitalUsd then
      .error (.rejected (.aggregateExposure projected r.config.maxLiveCapitalUsd))
    else if expectedSlippageBps > r.config.maxSlippageBps then reject "slippage limit"
    else if priceImpactBps > r.config.maxSlippageBps then reject "price-impact limit"
    else if r.state.cooldownUntil.any (now < ·) then reject "loss cooldown active"
    else if r.state.dayStartEquityUsd > 0 ∧
        (r.state.dayStartEquityUsd - r.state.equityUsd) / r.state.dayStartEquityUsd * 100 ≥
          r.config.maxDailyLossPercent then
      reject "daily-loss limit"
    else .ok ()

/-- RUST: risk.rs:189-213. -/
def validatePositionSize (r : RiskEngine) (positionUsd stopLossPct : Decimal) :
    Except RiskError Unit :=
  match r.maxPositionUsd stopLossPct with
  | none =>
      .error (.rejected (.text "stop-loss percentage must be positive for position sizing"))
  | some maxSize =>
      if positionUsd > maxSize then
        .error (.rejected (.positionSize positionUsd maxSize r.state.equityUsd
          r.config.maxRiskPerTradePercent stopLossPct))
      else .ok ()

/-- RUST: risk.rs:215-223. -/
def authorizeExit (_ : RiskEngine) (remainingQty : UInt64) : Except RiskError Unit :=
  if remainingQty = 0 then .error (.rejected (.text "nothing to exit")) else .ok ()

/-- RUST: risk.rs:224-227. -/
def observeEquity (r : RiskEngine) (equity : Decimal) : RiskEngine :=
  { r with
    state := { r.state with equityUsd := equity }
    killSwitch := r.killSwitch.observeEquity equity }

/-- RUST: risk.rs:228-232. -/
def setTotalExposure (r : RiskEngine) (exposure : Decimal) : RiskEngine :=
  { r with state := { r.state with totalExposureUsd := exposure } }

/-- RUST: risk.rs:233-237. -/
def setOpenPositions (r : RiskEngine) (count : ℕ) : RiskEngine :=
  { r with state := { r.state with openPositions := count } }

/-- RUST: risk.rs:238-242. -/
def registerTrade (r : RiskEngine) (exposureUsd : Decimal) : RiskEngine :=
  { r with
    state := { r.state with
      tradesToday := saturatingSucc r.state.tradesToday
      totalExposureUsd := r.state.totalExposureUsd + exposureUsd
      openPositions := r.state.openPositions + 1 } }

/-- RUST: risk.rs:243-247. -/
def registerExit (r : RiskEngine) (exposureUsd : Decimal) : RiskEngine :=
  { r with
    state := { r.state with
      openPositions := r.state.openPositions - 1
      totalExposureUsd := max (r.state.totalExposureUsd - exposureUsd) 0 } }

/-- RUST: risk.rs:248-251. -/
def recordExecutionSuccess (r : RiskEngine) : RiskEngine := { r with consecutiveFailures := 0 }

/-- RUST: risk.rs:252-260. The flag says whether the failure trips the kill switch. -/
def recordExecutionFailure (r : RiskEngine) : Bool × RiskEngine :=
  let consecutiveFailures := saturatingSucc r.consecutiveFailures
  if consecutiveFailures ≥ r.config.maxConsecutiveFailures then
    (true, { r with consecutiveFailures, killSwitch := r.killSwitch.forceTrip })
  else (false, { r with consecutiveFailures })

/-- RUST: risk.rs:261-264. -/
def applyLossCooldown (r : RiskEngine) (now : Time) : RiskEngine :=
  { r with
    state := { r.state with
      cooldownUntil := some (now + minutes r.config.cooldownAfterLossMinutes) } }

end RiskEngine

end SolanaBot.Model
