import SolanaBot.Model.Prelude

/-!
# Configuration

The fields of `config/types.rs` that the modelled functions read, and the check
that a configuration passes before anything runs.
-/

set_option autoImplicit false

namespace SolanaBot.Model

/-- RUST: config/types.rs:24-28. -/
inductive Mode where
  | paper
  | live
  | replay
deriving DecidableEq, Repr

/-- RUST: config/types.rs:30-45. -/
structure RpcConfig where
  httpEndpoints : List String
  maxDataAgeSecs : Int
  maxAttempts : UInt32
  /-- An order whose signature has no on-chain status after this many seconds may be marked
  expired. -/
  unknownAfterSecs : Int

/-- RUST: config/types.rs:47-58. -/
structure StrategyConfig where
  baseMint : String
  minWalletScore : Decimal
  minWalletSamples : UInt32
  minConsensusWallets : ℕ
  minSignalScore : Decimal
  minTokenAgeSecs : Int
  stopLossPct : Decimal
  takeProfitPct : Decimal
  trailingStopPct : Decimal
  maxHoldingMinutes : Int

/-- RUST: config/types.rs:60-70. -/
structure EconomicsConfig where
  roundTripCostThresholdPct : Decimal
  minExpectedNetReturnPct : Decimal
  maxQuoteAgeSecs : Int
  uncertaintyHaircutPct : Decimal
  solPriceUsd : Option Decimal

/-- RUST: config/types.rs:72-89. -/
structure RiskConfig where
  startingCapitalUsd : Decimal
  maxLiveCapitalUsd : Decimal
  maxConcurrentPositions : ℕ
  maxPositionPercentOfEquity : Decimal
  maxPositionPercentOfLiquidity : Decimal
  maxRiskPerTradePercent : Decimal
  maxDailyLossPercent : Decimal
  maxTotalDrawdownBeforeKillSwitchPct : Decimal
  cooldownAfterLossMinutes : Int
  maxSlippageBps : UInt32
  minLiquidityUsd : Decimal
  maxTradesPerDay : UInt32
  maxConsecutiveFailures : UInt32

/-- RUST: config/types.rs:91-119. -/
structure ExecutionConfig where
  jupiterApiUrl : String
  slippageBps : UInt16
  priorityFeeLamports : UInt64
  maxFeeLamports : UInt64
  maxPriceImpactBps : UInt32
  confirmTimeoutSecs : UInt64
  confirmPollMs : UInt64
  liveSignerEnv : Option String
  jupiterApiKeyEnv : Option String
  allowedProgramIds : List String

/-- RUST: config/types.rs:130-159. -/
structure RuntimeConfig where
  signalFeedPath : Option String
  pollIntervalSecs : ℕ
  reconcileIntervalSecs : ℕ
  maxLiquidityAgeSecs : ℕ
  quoteCacheTtlSecs : ℕ
  collectorEnabled : Bool
  replayDatasetPath : Option String

/-- RUST: config/types.rs:7-21. -/
structure Config where
  mode : Mode
  rpc : RpcConfig
  strategy : StrategyConfig
  economics : EconomicsConfig
  risk : RiskConfig
  execution : ExecutionConfig
  runtime : RuntimeConfig
  walletMonitorEnabled : Bool

/-- RUST: config/mod.rs, the error of a configuration that is read but refused. -/
inductive ConfigError where
  | invalid (reason : String)
deriving DecidableEq

/-- One check of `Config::validate`: the fault and the text that reports it. -/
def refuseIf (fault : Prop) [Decidable fault] (reason : String) : Except ConfigError Unit :=
  rejectIf fault (.invalid reason)

/-- RUST: config/types.rs:295-442. -/
def Config.validate (c : Config) : Except ConfigError Unit := do
  refuseIf (c.rpc.httpEndpoints = []) "at least one HTTP RPC endpoint is required"
  refuseIf (c.rpc.maxAttempts = 0) "rpc.max_attempts must be at least 1"
  refuseIf (c.strategy.minConsensusWallets < 2) "min_consensus_wallets must be at least 2"
  refuseIf (c.risk.maxRiskPerTradePercent ≤ 0 ∨ c.risk.maxRiskPerTradePercent > 100)
    "max_risk_per_trade_percent must be in (0,100]"
  refuseIf (c.risk.maxSlippageBps = 0 ∨ c.execution.slippageBps.toNat > c.risk.maxSlippageBps.toNat)
    "execution slippage must be positive and no greater than risk maximum"
  refuseIf (c.risk.maxConsecutiveFailures = 0) "max_consecutive_failures must be positive"
  refuseIf (c.economics.minExpectedNetReturnPct ≤ 0 ∨ c.risk.minLiquidityUsd ≤ 0)
    "minimum edge and liquidity must be positive"
  refuseIf (∃ price ∈ c.economics.solPriceUsd, price ≤ 0)
    "sol_price_usd must be positive when provided"
  refuseIf (c.execution.maxFeeLamports < saturatingAdd c.execution.priorityFeeLamports 5000)
    "max_fee_lamports must cover base fee plus configured priority fee"
  refuseIf (c.execution.maxPriceImpactBps = 0 ∨ c.execution.maxPriceImpactBps > 10000)
    "max_price_impact_bps must be in (0,10000]"
  refuseIf (c.execution.confirmTimeoutSecs < 5) "confirm_timeout_secs must be at least 5"
  refuseIf (c.execution.confirmPollMs = 0) "confirm_poll_ms must be positive"
  refuseIf (c.mode = .live ∧ ((c.execution.liveSignerEnv.getD "") = "" ∨
      c.risk.maxLiveCapitalUsd ≤ 0 ∨ c.risk.maxLiveCapitalUsd > c.risk.startingCapitalUsd))
    "live mode requires signer and a positive capital cap no greater than starting capital"
  refuseIf (c.mode = .live ∧ isBlank c.execution.jupiterApiUrl)
    "live mode requires a non-empty jupiter_api_url"
  refuseIf (c.mode = .live ∧ c.economics.solPriceUsd = none)
    "live mode requires sol_price_usd to be configured for fee conversion"
  refuseIf (c.mode = .live ∧ ∃ price ∈ c.economics.solPriceUsd, price ≤ 0)
    "sol_price_usd must be positive in live mode"
  refuseIf (c.mode = .live ∧ c.execution.jupiterApiKeyEnv = none)
    "live mode requires jupiter_api_key_env to be configured"
  refuseIf (c.mode = .live ∧ ∃ v ∈ c.execution.jupiterApiKeyEnv, isBlank v)
    "live mode requires jupiter_api_key_env to be non-empty"
  refuseIf (c.mode = .live ∧ c.execution.allowedProgramIds = [])
    "live mode requires a non-empty execution program allowlist"
  refuseIf (c.mode = .live ∧ c.runtime.reconcileIntervalSecs = 0)
    "live mode requires periodic on-chain position reconciliation"
  refuseIf (c.runtime.pollIntervalSecs = 0 ∨ c.economics.maxQuoteAgeSecs ≤ 0 ∨
      c.rpc.maxDataAgeSecs ≤ 0 ∨ c.execution.slippageBps > 10000)
    "poll, freshness intervals, and slippage must be valid"
  refuseIf (c.strategy.stopLossPct ≤ 0 ∨ c.strategy.takeProfitPct ≤ 0 ∨
      c.strategy.trailingStopPct < 0)
    "stop-loss and take-profit must be positive; trailing stop non-negative"

end SolanaBot.Model
