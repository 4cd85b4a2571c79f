import SolanaBot.Model.Config
import SolanaBot.Model.Domain

/-!
# Entry and exit decisions

`strategy/exit.rs`, `strategy/signal.rs` and the liquidity estimate of
`collector/token_data.rs`. The clock and the fresh identifier that the source
draws inside `evaluate_signal` are arguments.
-/

set_option autoImplicit false

namespace SolanaBot.Model

/-- RUST: strategy/exit.rs:5-14. -/
inductive ExitReason where
  | stopLoss
  | takeProfit
  | trailingStop
  | timeLimit
  | liquidityDeterioration
  | signalInvalidated
  | censored
deriving DecidableEq, Repr

/-- RUST: strategy/exit.rs:15-27. -/
def ExitReason.asStr : ExitReason → String
  | .stopLoss => "stop_loss"
  | .takeProfit => "take_profit"
  | .trailingStop => "trailing_stop"
  | .timeLimit => "time_limit"
  | .liquidityDeterioration => "liquidity_deterioration"
  | .signalInvalidated => "signal_invalidated"
  | .censored => "censored"

/-- RUST: strategy/exit.rs:33-74. Missing liquidity evidence counts as unhealthy. -/
def exitReason (p : Position) (price : Decimal) (liquidity : Option Decimal)
    (minLiquidity : Decimal) (invalidated : Bool) (now : Time) (c : StrategyConfig) :
    Option ExitReason :=
  match liquidity with
  | none => some .liquidityDeterioration
  | some liq =>
      if liq < minLiquidity then some .liquidityDeterioration
      else if invalidated then some .signalInvalidated
      else if p.entryPriceUsd ≤ 0 then some .stopLoss
      else
        let r := (price - p.entryPriceUsd) / p.entryPriceUsd * 100
        if r ≤ -c.stopLossPct then some .stopLoss
        else if r ≥ c.takeProfitPct then some .takeProfit
        else if price ≤ p.highWaterPriceUsd * (1 - c.trailingStopPct / 100) then
          some .trailingStop
        else if numMinutes (now - p.entryTime) ≥ c.maxHoldingMinutes then some .timeLimit
        else none

/-- A rule that gives no reason does not apply. -/
theorem rule_passed {c : Prop} [Decidable c] {reason : ExitReason} {rest : Option ExitReason}
    (h : (if c then some reason else rest) = none) : ¬ c ∧ rest = none := by
  split at h
  · cases h
  · rename_i hc
    exact ⟨hc, h⟩

/-- Of the position, a decision reads the entry and the high-water mark. -/
theorem exitReason_congr {p q : Position} (hprice : p.entryPriceUsd = q.entryPriceUsd)
    (htime : p.entryTime = q.entryTime) (hhigh : p.highWaterPriceUsd = q.highWaterPriceUsd)
    (price : Decimal) (liquidity : Option Decimal) (minLiquidity : Decimal) (invalidated : Bool)
    (now : Time) (c : StrategyConfig) :
    exitReason p price liquidity minLiquidity invalidated now c =
      exitReason q price liquidity minLiquidity invalidated now c := by
  unfold exitReason
  rw [hprice, htime, hhigh]

/-- A position that is held returns more than the stop and less than the target. -/
theorem exitReason_none {p : Position} {price liquidity minLiquidity : Decimal}
    {invalidated : Bool} {now : Time} {c : StrategyConfig}
    (h : exitReason p price (some liquidity) minLiquidity invalidated now c = none) :
    0 < p.entryPriceUsd ∧
      -c.stopLossPct < (price - p.entryPriceUsd) / p.entryPriceUsd * 100 ∧
      (price - p.entryPriceUsd) / p.entryPriceUsd * 100 < c.takeProfitPct := by
  unfold exitReason at h
  dsimp only at h
  obtain ⟨-, h⟩ := rule_passed h
  obtain ⟨-, h⟩ := rule_passed h
  obtain ⟨hentered, h⟩ := rule_passed h
  obtain ⟨hstop, h⟩ := rule_passed h
  obtain ⟨hprofit, -⟩ := rule_passed h
  exact ⟨not_le.mp hentered, not_le.mp hstop, not_le.mp hprofit⟩

/-- RUST: Decimal::round_dp(2), which rounds a midpoint to the even neighbour. -/
def roundDp2 (x : Decimal) : Decimal :=
  let scaled := x * 100
  let lower := scaled.floor
  let rest := scaled - lower
  let rounded :=
    if rest < 1 / 2 then lower
    else if 1 / 2 < rest then lower + 1
    else if lower % 2 = 0 then lower
    else lower + 1
  rounded / 100

/-- RUST: collector/token_data.rs:22-28. An impact below one basis point proves no liquidity. -/
def estimateLiquidityUsd (tradeSizeUsd : Decimal) (priceImpactBps : UInt32) : Decimal :=
  if priceImpactBps > 0 then roundDp2 (tradeSizeUsd * 10000 / (priceImpactBps.toNat : ℚ))
  else 0

/-- RUST: strategy/signal.rs:15-19. -/
inductive StrategyDecision where
  | accepted (s : TradeSignal)
  | rejected (reason : String)

/-- RUST: strategy/signal.rs:72-90, the seven component scores and their mean. -/
def signalScore (wallets : List WalletStats) (market : MarketSnapshot)
    (expected : ExpectedValue) (count : Decimal) : SignalScore :=
  let walletScore := (wallets.map WalletStats.score).sum / count
  let consensusScore := min (count * 20) 100
  let liquidityScore := min (market.liquidityUsd / 10000 * 100) 100
  let momentumScore := min (max (market.buySellImbalance * 50) 0) 100
  let riskScore := 100 - min market.volatilityPct 100
  let economicScore := min (expected.netReturnPct * 10) 100
  { walletScore
    walletSampleSize := ((wallets.map WalletStats.trades).min?).getD 0
    walletRecentScore := (wallets.map WalletStats.recentReturnPct).sum / count
    consensusScore
    liquidityScore
    momentumScore
    riskScore
    economicScore
    finalSignalScore := (walletScore + consensusScore + liquidityScore + momentumScore +
      riskScore + economicScore) / 6 }

/-- RUST: strategy/signal.rs:35-47, the token safety filter. -/
def failsSafety (safety : TokenSafety) (minTokenAgeSecs : Int) : Bool :=
  safety.tokenAgeSecs < minTokenAgeSecs
    || safety.mintAuthorityPresent
    || safety.freezeAuthorityPresent
    || safety.holderTop10Pct > 70
    || safety.sellable != some true
    || safety.routeAvailable != some true
    || safety.creatorSuspicious == some true
    || safety.abnormalActivity == some true
    || safety.liquidityChangePct.getD 0 < -20

/-- RUST: strategy/signal.rs:20-104. -/
def evaluateSignal (config : Config) (mint : String) (wallets : List WalletStats)
    (market : MarketSnapshot) (safety : TokenSafety) (expected : ExpectedValue)
    (now : Time) (uuid : String) : StrategyDecision :=
  if market.observedAt > now ∨ safety.observedAt > now ∨
      market.ageSeconds now > config.rpc.maxDataAgeSecs then
    .rejected "stale or future-dated market data"
  else if market.liquidityUsd < config.risk.minLiquidityUsd then
    .rejected "insufficient liquidity"
  else if failsSafety safety config.strategy.minTokenAgeSecs then
    .rejected "token safety filter or incomplete safety evidence"
  else if wallets.length < config.strategy.minConsensusWallets then
    .rejected "insufficient independent qualified wallet consensus"
  else if wallets.any fun w =>
      w.trades < config.strategy.minWalletSamples
        || w.score < config.strategy.minWalletScore
        || w.updatedAt > now then
    .rejected "wallet evidence below configured confidence threshold"
  else if expected.netReturnPct < config.economics.minExpectedNetReturnPct then
    .rejected "economic edge below threshold"
  else
    let count : Decimal := ((wallets.length % 2 ^ 32 : ℕ) : ℚ)
    if count ≤ 0 then .rejected "no wallets for scoring"
    else
      let score := signalScore wallets market expected count
      if score.finalSignalScore < config.strategy.minSignalScore then
        .rejected "signal confidence below threshold"
      else
        .accepted {
          id := uuid
          mint
          wallets := wallets.map WalletStats.wallet
          side := .buy
          score
          expectedGrossReturnPct := expected.grossReturnPct
          createdAt := now
          reason := "qualified-wallet accumulation with liquid safe market" }

end SolanaBot.Model
