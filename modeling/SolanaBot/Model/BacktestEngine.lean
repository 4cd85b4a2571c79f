import SolanaBot.Library.Walks
import SolanaBot.Model.BacktestData
import SolanaBot.Model.Strategy

/-!
# Backtest engine

`backtest/engine.rs`: the modelled costs, the ambiguity check, the point-in-time
entry decision and the simulation of one signal. The entry decision is written
out as the engine writes it, beside the one of `strategy/signal.rs`. `none` stands
for a panic: a `Decimal` division by zero. The digests of the identifiers are a
parameter.
-/

set_option autoImplicit false

namespace SolanaBot.Model

open SolanaBot.Library

/-! ## Costs -/

/-- RUST: backtest/engine.rs:20-27. -/
inductive CostMode where
  | modeled
  | observed
  | mixed
deriving DecidableEq, Repr

/-- RUST: backtest/engine.rs:41-49. -/
structure TradeCosts where
  swapFeeUsd : Decimal
  priorityFeeUsd : Decimal
  slippageCostUsd : Decimal
  priceImpactCostUsd : Decimal
  totalUsd : Decimal
  isObserved : Bool
deriving DecidableEq

/-- RUST: backtest/engine.rs:119-140. -/
structure CostAssumptions where
  entrySwapFeeBps : Decimal
  entryPriorityFeeUsd : Decimal
  entrySlippageBps : Decimal
  entryPriceImpactBps : Decimal
  exitSwapFeeBps : Decimal
  exitPriorityFeeUsd : Decimal
  exitSlippageBps : Decimal
  exitPriceImpactBps : Decimal
  failedTxRate : Decimal
  failedTxCostUsd : Decimal

/-- The modelled costs of one leg. RUST: backtest/engine.rs:156-167 and 175-186. -/
def legCosts (amountUsd swapFeeBps priorityFeeUsd slippageBps priceImpactBps : Decimal) :
    TradeCosts :=
  let swapFee := amountUsd * swapFeeBps / 10000
  let slippage := amountUsd * slippageBps / 10000
  let impact := amountUsd * priceImpactBps / 10000
  { swapFeeUsd := swapFee
    priorityFeeUsd
    slippageCostUsd := slippage
    priceImpactCostUsd := impact
    totalUsd := swapFee + priorityFeeUsd + slippage + impact
    isObserved := false }

namespace CostAssumptions

/-- RUST: backtest/engine.rs:146-148. -/
def mode (_c : CostAssumptions) : CostMode := .modeled

/-- RUST: backtest/engine.rs:155-168. -/
def entryCosts (c : CostAssumptions) (notionalUsd : Decimal) : TradeCosts :=
  legCosts notionalUsd c.entrySwapFeeBps c.entryPriorityFeeUsd c.entrySlippageBps
    c.entryPriceImpactBps

/-- RUST: backtest/engine.rs:174-187. -/
def exitCosts (c : CostAssumptions) (proceedsUsd : Decimal) : TradeCosts :=
  legCosts proceedsUsd c.exitSwapFeeBps c.exitPriorityFeeUsd c.exitSlippageBps
    c.exitPriceImpactBps

/-- RUST: backtest/engine.rs:194-196. -/
def expectedFailedTxCost (c : CostAssumptions) : Decimal := 2 * c.failedTxRate * c.failedTxCostUsd

end CostAssumptions

/-! ## The trade record -/

/-- "SL ({sl_price}) and TP ({tp_price}) both within observed range [{low}, {high}]".
RUST: backtest/engine.rs:233-235. -/
structure AmbiguousInterval where
  slPrice : Decimal
  tpPrice : Decimal
  low : Decimal
  high : Decimal
deriving DecidableEq

/-- "insufficient_future_data: {span_minutes} minutes of history after entry but max_holding
is {} minutes; no exit trigger and no terminal event observed".
RUST: backtest/engine.rs:487-491. -/
structure InsufficientFutureData where
  spanMinutes : Int
  maxHoldingMinutes : Int
deriving DecidableEq

/-- RUST: backtest/engine.rs:62-102. -/
structure SimulatedTrade where
  tradeId : String
  signalTimestamp : Time
  mint : String
  split : Split
  entryTime : Time
  entryPriceUsd : Decimal
  positionUsd : Decimal
  entryQuantityTokens : Decimal
  entryCosts : TradeCosts
  exitTime : Time
  exitPriceUsd : Decimal
  exitReason : ExitReason
  holdingMinutes : Int
  exitCosts : TradeCosts
  grossReturnPct : Decimal
  grossPnlUsd : Decimal
  totalCostUsd : Decimal
  netReturnPct : Decimal
  netPnlUsd : Decimal
  mfePct : Decimal
  maePct : Decimal
  isAmbiguous : Bool
  ambiguousReason : Option AmbiguousInterval
  isCensored : Bool
  censoredReason : Option InsufficientFutureData
  costMode : CostMode
deriving DecidableEq

/-- The digests behind the deterministic identifiers. RUST: backtest/engine.rs:52-58, 675-680. -/
structure Hasher where
  tradeId : (signalTimestamp : Time) → (mint : String) → (index : ℕ) → String
  signalId : (mint : String) → (now : Time) → String

/-! ## Entry decision -/

/-- RUST: backtest/engine.rs:603-616, the token safety filter of the engine. -/
def failsSafetyPit (safety : TokenSafety) (minTokenAgeSecs : Int) : Bool :=
  safety.tokenAgeSecs < minTokenAgeSecs
    || safety.mintAuthorityPresent
    || safety.freezeAuthorityPresent
    || safety.holderTop10Pct > 70
    || safety.sellable != some true
    || safety.routeAvailable != some true
    || safety.creatorSuspicious == some true
    || safety.abnormalActivity == some true
    || safety.liquidityChangePct.getD 0 < -20

/-- RUST: backtest/engine.rs:642-660, the component scores of the engine and their mean. -/
def signalScorePit (wallets : List WalletStats) (market : MarketSnapshot)
    (expected : ExpectedValue) (count : Decimal) : SignalScore :=
  let walletScore := (wallets.map WalletStats.score).sum / count
  let consensusScore := min (count * 20) 100
  let liquidityScore := min (market.liquidityUsd / 10000 * 100) 100
  let momentumScore := min (max (market.buySellImbalance * 50) 0) 100
  let riskScore := 100 - min market.volatilityPct 100
  let economicScore := min (expected.netReturnPct * 10) 100
  { walletScore
    walletSampleSize := ((wallets.map WalletStats.trades).min?).getD 0
    walletRecentScore := (wallets.map WalletStats.recentReturnPct).sum / count
    consensusScore
    liquidityScore
    momentumScore
    riskScore
    economicScore
    finalSignalScore := (walletScore + consensusScore + liquidityScore + momentumScore +
      riskScore + economicScore) / 6 }

/-- RUST: backtest/engine.rs:583-673. A count of zero is divided by, which panics. -/
def evaluateSignalPit (hasher : Hasher) (config : Config) (mint : String)
    (wallets : List WalletStats) (market : MarketSnapshot) (safety : TokenSafety)
    (expected : ExpectedValue) (now : Time) : Option StrategyDecision :=
  if market.observedAt > now ∨ safety.observedAt > now ∨
      market.ageSeconds now > config.rpc.maxDataAgeSecs then
    some (.rejected "stale or future-dated market data")
  else if market.liquidityUsd < config.risk.minLiquidityUsd then
    some (.rejected "insufficient liquidity")
  else if failsSafetyPit safety config.strategy.minTokenAgeSecs then
    some (.rejected "token safety filter or incomplete safety evidence")
  else if wallets.length < config.strategy.minConsensusWallets then
    some (.rejected "insufficient independent qualified wallet consensus")
  else if wallets.any fun w =>
      w.trades < config.strategy.minWalletSamples
        || w.score < config.strategy.minWalletScore
        || w.updatedAt > now then
    some (.rejected "wallet evidence below configured confidence threshold")
  else if expected.netReturnPct < config.economics.minExpectedNetReturnPct then
    some (.rejected "economic edge below threshold")
  else
    let count : Decimal := ((wallets.length % 2 ^ 32 : ℕ) : ℚ)
    if count = 0 then none
    else
      let score := signalScorePit wallets market expected count
      if score.finalSignalScore < config.strategy.minSignalScore then
        some (.rejected "signal confidence below threshold")
      else
        some (.accepted {
          id := hasher.signalId mint now
          mint
          wallets := wallets.map WalletStats.wallet
          side := .buy
          score
          expectedGrossReturnPct := expected.grossReturnPct
          createdAt := now
          reason := "qualified-wallet accumulation with liquid safe market" })

/-! ## Simulation -/

/-- RUST: backtest/engine.rs:217-240. -/
def detectAmbiguity (prev curr : PriceObservation) (entryPrice slPct tpPct : Decimal) :
    Option AmbiguousInterval :=
  if entryPrice ≤ 0 then none
  else
    let slPrice := entryPrice * (1 - slPct / 100)
    let tpPrice := entryPrice * (1 + tpPct / 100)
    let low := min prev.effectiveLow curr.effectiveLow
    let high := max prev.effectiveHigh curr.effectiveHigh
    if low ≤ slPrice ∧ high ≥ tpPrice then some { slPrice, tpPrice, low, high } else none

/-- RUST: backtest/engine.rs:243-281. -/
def buildPosition (signal : HistoricalSignal) (entryPrice : Decimal) (entryTime : Time) :
    Position :=
  { mint := signal.mint
    positionId := some ("bt-pos:" ++ signal.mint)
    tokenMint := some signal.mint
    baseMint := none
    entryInputAmountAtomic := none
    entryOutputAmountAtomic := none
    tokenDecimals := some signal.tokenDecimals
    baseMintDecimals := some signal.baseMintDecimals
    entryFeesUsd := none
    entrySlippageBps := none
    entryCostModel := some signal.costs
    quantity := 1
    remainingQuantityAtomic := some 1
    entryCostUsd := some signal.positionUsd
    baseEntryPriceUsd := none
    state := .open
    reconciliationStatus := .reconciled
    lastReconciledAt := some entryTime
    exitSignature := none
    exitFeesUsd := none
    exitTime := none
    entryPriceUsd := entryPrice
    entryTime
    entrySignature := "backtest:" ++ signal.mint
    highWaterPriceUsd := entryPrice
    realizedPnlUsd := 0
    unrealizedPnlUsd := 0
    feesUsd := 0
    currentValueUsd := signal.positionUsd
    signalId := signal.mint
    exitReason := none }

/-- Why a signal is not simulated. RUST: backtest/engine.rs:315-385. -/
inductive SimRejection where
  /-- "insufficient economic evidence: costs.observed_at is after signal_timestamp" -/
  | costsAfterSignal
  /-- "round-trip cost {}% exceeds {}% threshold" -/
  | roundTripCost (costPct thresholdPct : Decimal)
  /-- "insufficient economic evidence: {e}" -/
  | economicEvidence (e : ViabilityError)
  | strategy (reason : String)
  /-- "non-positive entry price" -/
  | nonPositiveEntryPrice
deriving DecidableEq

/-- Its text in the report. -/
def SimRejection.toText (p : Printer) : SimRejection → String
  | .costsAfterSignal =>
      "insufficient economic evidence: costs.observed_at is after signal_timestamp"
  | .roundTripCost costPct thresholdPct =>
      "round-trip cost " ++ p.decimal costPct ++ "% exceeds " ++ p.decimal thresholdPct ++
        "% threshold"
  | .economicEvidence e => "insufficient economic evidence: " ++ e.toText
  | .strategy reason => reason
  | .nonPositiveEntryPrice => "non-positive entry price"

/-- The local variables of the walk over the price history. RUST: backtest/engine.rs:396-404.
`prev` is the observation of the turn before. -/
structure WalkState where
  prev : Option PriceObservation
  position : Position
  highWater : Decimal
  exitPrice : Decimal
  exitTime : Time
  exitReasonFound : Option ExitReason
  mfe : Decimal
  mae : Decimal
  isAmbiguous : Bool
  ambiguousReason : Option AmbiguousInterval

/-- RUST: backtest/engine.rs:395-404. -/
def walkStart (signal : HistoricalSignal) (entryPrice : Decimal) (entryTime : Time) : WalkState :=
  { prev := none
    position := buildPosition signal entryPrice entryTime
    highWater := entryPrice
    exitPrice := entryPrice
    exitTime := entryTime
    exitReasonFound := none
    mfe := 0
    mae := 0
    isAmbiguous := false
    ambiguousReason := none }

/-- RUST: backtest/engine.rs:434-442. The excursions, with the observation of this turn. -/
def WalkState.track (w : WalkState) (price entryPrice : Decimal) : WalkState :=
  let returnPct := (price - entryPrice) / entryPrice * 100
  { w with
    mfe := if returnPct > w.mfe then returnPct else w.mfe
    mae := if returnPct < w.mae then returnPct else w.mae }

/-- RUST: backtest/engine.rs:471-480. The high-water mark, after the exit evaluation. -/
def WalkState.raise (w : WalkState) (obs : PriceObservation) : WalkState :=
  let effHigh := obs.effectiveHigh
  if effHigh > w.highWater then
    { w with
      prev := some obs
      highWater := effHigh
      position := { w.position with highWaterPriceUsd := effHigh } }
  else { w with prev := some obs }

/-- RUST: backtest/engine.rs:406-481, one turn of the walk. -/
def walkTurn (config : Config) (entryPrice : Decimal) (obs : PriceObservation) (w : WalkState) :
    ForInStep WalkState :=
  let price := obs.effectiveClose
  match w.prev.bind fun prev =>
      detectAmbiguity prev obs entryPrice config.strategy.stopLossPct
        config.strategy.takeProfitPct with
  | some interval =>
      .done { w with
        isAmbiguous := true
        ambiguousReason := some interval
        exitPrice := entryPrice * (1 - config.strategy.stopLossPct / 100)
        exitTime := obs.timestamp
        exitReasonFound := some .stopLoss }
  | none =>
      let w := w.track price entryPrice
      match exitReason w.position price (some obs.liquidityUsd) config.risk.minLiquidityUsd false
          obs.timestamp config.strategy with
      | some reason =>
          .done { w with
            exitPrice := price, exitTime := obs.timestamp, exitReasonFound := some reason }
      | none => .yield (w.raise obs)

/-- RUST: backtest/engine.rs:395-481. -/
def walkHistory (config : Config) (signal : HistoricalSignal) : Walked WalkState :=
  walk (walkTurn config signal.market.priceUsd) signal.priceHistory
    (walkStart signal signal.market.priceUsd signal.signalTimestamp)

/-- RUST: backtest/engine.rs:483-577. The trade that a walk ends in. -/
def settle (hasher : Hasher) (config : Config) (costAssumptions : CostAssumptions)
    (split : Split) (tradeIndex : ℕ) (signal : HistoricalSignal) (w : WalkState) :
    SimulatedTrade :=
  let entryPrice := signal.market.priceUsd
  let entryTime := signal.signalTimestamp
  let entryCosts := costAssumptions.entryCosts signal.positionUsd
  let entryQuantityTokens := signal.positionUsd / entryPrice
  let lastTimestamp := signal.priceHistory.getLast?.map PriceObservation.timestamp
  let isCensored := w.exitReasonFound.isNone
  let exitTime := if isCensored then lastTimestamp.getD w.exitTime else w.exitTime
  let exitPrice := if isCensored then entryPrice else w.exitPrice
  let exitProceedsGross := entryQuantityTokens * exitPrice
  let exitCosts := costAssumptions.exitCosts exitProceedsGross
  let failedTx := costAssumptions.expectedFailedTxCost
  let totalCost := entryCosts.totalUsd + exitCosts.totalUsd + failedTx
  let grossPnl := exitProceedsGross - signal.positionUsd
  let netPnl := grossPnl - totalCost
  { tradeId := hasher.tradeId signal.signalTimestamp signal.mint tradeIndex
    signalTimestamp := signal.signalTimestamp
    mint := signal.mint
    split
    entryTime
    entryPriceUsd := entryPrice
    positionUsd := signal.positionUsd
    entryQuantityTokens
    entryCosts
    exitTime
    exitPriceUsd := exitPrice
    exitReason := w.exitReasonFound.getD .censored
    holdingMinutes := numMinutes (exitTime - entryTime)
    exitCosts
    grossReturnPct :=
      if signal.positionUsd > 0 then grossPnl / signal.positionUsd * 100 else 0
    grossPnlUsd := grossPnl
    totalCostUsd := totalCost
    netReturnPct := if signal.positionUsd > 0 then netPnl / signal.positionUsd * 100 else 0
    netPnlUsd := netPnl
    mfePct := w.mfe
    maePct := w.mae
    isAmbiguous := w.isAmbiguous
    ambiguousReason := w.ambiguousReason
    isCensored
    censoredReason :=
      if isCensored then
        some {
          spanMinutes :=
            (lastTimestamp.map fun last => numMinutes (last - signal.signalTimestamp)).getD 0
          maxHoldingMinutes := config.strategy.maxHoldingMinutes }
      else none
    costMode := costAssumptions.mode }

/-- RUST: backtest/engine.rs:315-385. Why the signal is not entered, if it is not; `none` is
the panic of the entry decision. -/
def entryRefusal (hasher : Hasher) (config : Config) (signal : HistoricalSignal) :
    Option (Option SimRejection) :=
  if signal.costs.observedAt > signal.signalTimestamp then some (some .costsAfterSignal)
  else
    match EconomicGate.check ⟨config.economics.roundTripCostThresholdPct⟩ signal.costs with
    | .error e => some (some (.economicEvidence e))
    | .ok (.rejected result thresholdPct) =>
        some (some (.roundTripCost result.roundTripCostPctOfPosition thresholdPct))
    | .ok (.allowed result) =>
        match ExpectedValue.estimate result.requiredAvgWinPct signal.costs 0 0
            config.economics.uncertaintyHaircutPct with
        | .error e => some (some (.economicEvidence e))
        | .ok expected =>
            match evaluateSignalPit hasher config signal.mint signal.wallets signal.market
                signal.safety expected signal.signalTimestamp with
            | none => none
            | some (.rejected reason) => some (some (.strategy reason))
            | some (.accepted _) =>
                if signal.market.priceUsd ≤ 0 then some (some .nonPositiveEntryPrice)
                else some none

/-- RUST: backtest/engine.rs:308-577. -/
def simulateSignal (hasher : Hasher) (config : Config) (costAssumptions : CostAssumptions)
    (split : Split) (tradeIndex : ℕ) (signal : HistoricalSignal) :
    Option (Except SimRejection SimulatedTrade) :=
  (entryRefusal hasher config signal).map fun
    | some reason => .error reason
    | none =>
        .ok (settle hasher config costAssumptions split tradeIndex signal
          (walkHistory config signal).state)

end SolanaBot.Model
