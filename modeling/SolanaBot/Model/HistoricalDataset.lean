import SolanaBot.Model.BacktestData
import SolanaBot.Model.WalletReconstruction

/-!
# The historical dataset

`historical/ohlcv.rs`, `cost.rs`, `safety.rs`, `signal.rs` and `build.rs`: a candle of
the provider, the cost model of a signal, the builder of one record of the dataset,
and the step of the pipeline that picks the entry candle and calls it. What the
pipeline fetches by RPC is a parameter; `none` is a panic.
-/

set_option autoImplicit false

namespace SolanaBot.Model

/-! ## Candles -/

/-- RUST: historical/ohlcv.rs:41-53. The timestamp is the open time. -/
structure OhlcvCandle where
  timestamp : Time
  openUsd : Decimal
  highUsd : Decimal
  lowUsd : Decimal
  closeUsd : Decimal
  volumeUsd : Option Decimal
  liquidityUsd : Option Decimal
deriving DecidableEq

/-- RUST: historical/ohlcv.rs:64-78. -/
inductive OhlcvInterval where
  | m1
  | m5
  | m15
  | h1
  | h4
  | d1
deriving DecidableEq, Repr

/-- RUST: historical/ohlcv.rs:83-92. -/
def OhlcvInterval.seconds : OhlcvInterval → Int
  | .m1 => 60
  | .m5 => 300
  | .m15 => 900
  | .h1 => 3600
  | .h4 => 14400
  | .d1 => 86400

/-- RUST: historical/signal.rs:121-130 and 154-163. A candle as an observation. -/
def OhlcvCandle.observation (c : OhlcvCandle) : PriceObservation :=
  { timestamp := c.timestamp
    priceUsd := c.closeUsd
    liquidityUsd := c.liquidityUsd.getD 0
    openUsd := some c.openUsd
    highUsd := some c.highUsd
    lowUsd := some c.lowUsd
    closeUsd := some c.closeUsd
    volume := c.volumeUsd }

/-- What a candle of `fetch_window` satisfies. RUST: historical/ohlcv.rs:735-743 and 785-792. -/
structure OhlcvCandle.WellFormed (c : OhlcvCandle) : Prop where
  open_pos : 0 < c.openUsd
  high_pos : 0 < c.highUsd
  low_pos : 0 < c.lowUsd
  close_pos : 0 < c.closeUsd
  low_le_high : c.lowUsd ≤ c.highUsd
  liquidity_nonneg : ∀ liquidity, c.liquidityUsd = some liquidity → 0 ≤ liquidity

/-- Well-formed candles in ascending order. RUST: historical/ohlcv.rs:290-326. -/
structure CandleSeries where
  candles : List OhlcvCandle
  wellFormed : ∀ c ∈ candles, c.WellFormed
  ascending : candles.Pairwise fun a b => a.timestamp ≤ b.timestamp

/-! ## Costs -/

/-- RUST: historical/cost.rs:32-39. -/
inductive CostSource where
  | observed
  | modeled
deriving DecidableEq

/-- RUST: the derived Debug of CostSource, in historical/cost.rs:105. -/
def CostSource.debug : CostSource → String
  | .observed => "Observed"
  | .modeled => "Modeled"

/-- RUST: historical/cost.rs:42-50. -/
structure CostBreakdown where
  swapFeeBps : Decimal
  priorityFeeUsd : Decimal
  slippageBps : Decimal
  priceImpactBps : Decimal
  failedTxRate : Decimal
  failedTxCostUsd : Decimal
  source : CostSource
deriving DecidableEq

/-- RUST: historical/cost.rs:63-77. -/
def slippageOf (candle : Option PriceObservation) : Decimal × CostSource :=
  match candle.bind (·.highUsd), candle.bind (·.lowUsd), candle.map (·.effectiveClose) with
  | some high, some low, some close =>
      if close > 0 ∧ high ≥ low then (min ((high - low) / close * 10000) 1000, .observed)
      else (50, .modeled)
  | _, _, _ => (50, .modeled)

/-- RUST: historical/cost.rs:78-85. -/
def priceImpactOf (positionUsd : Decimal) (candle : Option PriceObservation) :
    Decimal × CostSource :=
  match candle.bind (·.volume) with
  | some volume =>
      if volume > 0 then (min (positionUsd / volume * 10000) 1000, .observed) else (20, .modeled)
  | none => (20, .modeled)

/-- RUST: historical/cost.rs:55-121. -/
def buildCostModel (positionUsd : Decimal) (candle : Option PriceObservation)
    (solPriceUsd : Decimal) (priorityFeeLamports : UInt64) (swapFeeBps : Decimal) (asOf : Time) :
    CostModel × CostBreakdown :=
  let slippage := slippageOf candle
  let impact := priceImpactOf positionUsd candle
  let priorityFeeUsd := (priorityFeeLamports.toNat : ℚ) / 1000000000 * solPriceUsd
  let failedTxRate := 5 / 100
  let source :=
    if slippage.2 = .observed ∧ impact.2 = .observed then CostSource.observed else .modeled
  ({ observedAt := asOf
     source := "historical_pipeline_" ++ source.debug
     isLiveSnapshot := false
     input :=
       { positionSizeUsd := positionUsd
         avgPriorityFeeUsd := priorityFeeUsd
         avgSwapFeeBps := swapFeeBps
         avgSlippageBps := slippage.1
         avgPriceImpactBps := impact.1
         failedTxRate
         avgFailedTxCostUsd := priorityFeeUsd
         assumedWinLossRatio := 2
         assumedAvgLossPct := 10 } },
   { swapFeeBps, priorityFeeUsd, slippageBps := slippage.1, priceImpactBps := impact.1
     failedTxRate, failedTxCostUsd := priorityFeeUsd, source })

/-! ## Safety -/

/-- RUST: historical/safety.rs:27-50. -/
structure HistoricalTokenSafety where
  mint : String
  mintAuthorityPresent : Bool
  freezeAuthorityPresent : Bool
  decimals : UInt8
  supply : Decimal
  holderTop10Pct : Option Decimal
  tokenAgeSecs : Int
  sellable : Option Bool
  routeAvailable : Option Bool
  creatorSuspicious : Option Bool
  abnormalActivity : Option Bool
  liquidityChangePct : Option Decimal
  liquidityLockedOrBurned : Option Bool
  observedAt : Time
  createdAt : Option Time
deriving DecidableEq

/-- RUST: historical/safety.rs:133-147. -/
def toTokenSafety (h : HistoricalTokenSafety) (tokenAgeSecs : Int) : TokenSafety :=
  { mintAuthorityPresent := h.mintAuthorityPresent
    freezeAuthorityPresent := h.freezeAuthorityPresent
    holderTop10Pct := h.holderTop10Pct.getD 0
    tokenAgeSecs
    liquidityLockedOrBurned := h.liquidityLockedOrBurned
    sellable := h.sellable
    routeAvailable := h.routeAvailable
    creatorSuspicious := h.creatorSuspicious
    abnormalActivity := h.abnormalActivity
    liquidityChangePct := h.liquidityChangePct
    observedAt := h.observedAt }

/-! ## The builder -/

/-- RUST: historical/signal.rs:23-31. -/
structure HistoricalSignalBuilder where
  positionUsd : Decimal
  tokenDecimals : UInt8
  baseMintDecimals : UInt8
  solPriceUsd : Decimal
  priorityFeeLamports : UInt64
  swapFeeBps : Decimal
  futureWindowMinutes : Int

/-- RUST: historical/signal.rs:80-99, 139-143, 184-195 and 229-239. -/
inductive SignalBuildError where
  | candleAfterSignal (observed signal : Time)
  | safetyAfterSignal (observed signal : Time)
  | walletAfterSignal (wallet : String) (updated signal : Time)
  | costsAfterSignal
  | missingFutureData
  | missingWalletEvidence
deriving DecidableEq

/-- Its text in the log. -/
def SignalBuildError.toText (p : Printer) : SignalBuildError → String
  | .candleAfterSignal observed signal =>
      "point-in-time violation: market candle timestamp " ++ p.time observed ++
        " > signal_timestamp " ++ p.time signal
  | .safetyAfterSignal observed signal =>
      "point-in-time violation: safety.observed_at " ++ p.time observed ++
        " > signal_timestamp " ++ p.time signal
  | .walletAfterSignal wallet updated signal =>
      "point-in-time violation: wallet " ++ wallet ++ " updated_at " ++ p.time updated ++
        " > signal_timestamp " ++ p.time signal
  | .costsAfterSignal => "point-in-time violation: costs.observed_at must be <= signal_timestamp"
  | .missingFutureData => "missing future data: no future price observations in window"
  | .missingWalletEvidence => "missing wallet evidence: no wallets with positive trades"

/-- RUST: historical/signal.rs:223-227. -/
structure HistoricalDatasetEntry where
  signal : HistoricalSignal
  breakdown : CostBreakdown
deriving DecidableEq

namespace HistoricalSignalBuilder

variable (b : HistoricalSignalBuilder) (mint : String) (signalTimestamp : Time)
  (marketCandle : OhlcvCandle)

/-- RUST: historical/signal.rs:102-113. -/
def market : MarketSnapshot :=
  { mint
    priceUsd := marketCandle.closeUsd
    liquidityUsd := marketCandle.liquidityUsd.getD 0
    volume24hUsd := marketCandle.volumeUsd.getD 0
    volatilityPct := 20
    buySellImbalance := 1 / 2
    observedAt := marketCandle.timestamp
    receivedAt := marketCandle.timestamp
    slot := none
    priceImpactBps := none }

/-- RUST: historical/signal.rs:131-138. -/
def costs : CostModel × CostBreakdown :=
  buildCostModel b.positionUsd (some marketCandle.observation) b.solPriceUsd
    b.priorityFeeLamports b.swapFeeBps signalTimestamp

/-- RUST: historical/signal.rs:149-183. The observations that are kept. -/
def priceHistory (futureCandles : List OhlcvCandle) : List PriceObservation :=
  let later := (futureCandles.filter fun c => ¬c.timestamp < signalTimestamp).map
    OhlcvCandle.observation
  let history :=
    if marketCandle.timestamp = signalTimestamp then marketCandle.observation :: later else later
  let horizon := signalTimestamp + minutes b.futureWindowMinutes
  history.filter fun o => o.timestamp ≤ horizon ∨ o.timestamp = signalTimestamp

/-- RUST: historical/signal.rs:115-119. The wallets with trades. -/
def walletStats (wallets : List HistoricalWalletStats) : List WalletStats :=
  (wallets.filter fun w => w.trades > 0).map HistoricalWalletStats.toWalletStats

/-- RUST: historical/signal.rs:196-215. The record behind the checks. -/
def record (safety : HistoricalTokenSafety) (wallets : List HistoricalWalletStats)
    (futureCandles : List OhlcvCandle) : HistoricalSignal :=
  let costs := (b.costs signalTimestamp marketCandle).1
  { signalTimestamp
    mint
    market := market mint marketCandle
    safety := toTokenSafety safety safety.tokenAgeSecs
    wallets := walletStats wallets
    costs
    positionUsd := b.positionUsd
    expectedGrossReturnPct :=
      match costs.calculate with
      | .ok r => r.requiredAvgWinPct
      | .error _ => 0
    tokenDecimals := b.tokenDecimals
    baseMintDecimals := b.baseMintDecimals
    priceHistory := b.priceHistory signalTimestamp marketCandle futureCandles }

/-- RUST: historical/signal.rs:70-220. -/
def build (safety : HistoricalTokenSafety) (wallets : List HistoricalWalletStats)
    (futureCandles : List OhlcvCandle) : Except SignalBuildError HistoricalDatasetEntry := do
  rejectIf (marketCandle.timestamp > signalTimestamp)
    (.candleAfterSignal marketCandle.timestamp signalTimestamp)
  rejectIf (safety.observedAt > signalTimestamp)
    (.safetyAfterSignal safety.observedAt signalTimestamp)
  wallets.forM fun w => rejectIf (w.updatedAt > signalTimestamp)
    (.walletAfterSignal w.wallet w.updatedAt signalTimestamp)
  let costs := b.costs signalTimestamp marketCandle
  rejectIf (costs.1.observedAt > signalTimestamp) .costsAfterSignal
  rejectIf (b.priceHistory signalTimestamp marketCandle futureCandles = []) .missingFutureData
  rejectIf (walletStats wallets = []) .missingWalletEvidence
  return {
    signal := b.record mint signalTimestamp marketCandle safety wallets futureCandles
    breakdown := costs.2 }

end HistoricalSignalBuilder

/-! ## The pipeline -/

/-- RUST: historical/build.rs:33-45, the errors of one signal. -/
inductive BuildError where
  | noCandle (signalTimestamp : Time) (mint : String)
  | rpc (e : String)
  | signal (e : SignalBuildError)
deriving DecidableEq

/-- Its text in the log. -/
def BuildError.toText (p : Printer) : BuildError → String
  | .noCandle signalTimestamp mint =>
      "signal build error: no candle at or before " ++ p.time signalTimestamp ++ " for " ++ mint
  | .rpc e => "RPC error: " ++ e
  | .signal e => "signal build error: " ++ e.toText p

/-- RUST: historical/build.rs:299-305. The last candle that is not stamped after the signal. -/
def pickEntryCandle (candles : List OhlcvCandle) (signalTimestamp : Time) : Option OhlcvCandle :=
  candles.reverse.find? fun c => c.timestamp ≤ signalTimestamp

/-- RUST: historical/build.rs:242-262. A wallet that cannot be fetched is left out. -/
def reconstructWallets (signalTimestamp : Time) :
    List (Except String (List WalletTrade) × HashOrders) → Option (List HistoricalWalletStats)
  | [] => some []
  | (.error _, _) :: rest => reconstructWallets signalTimestamp rest
  | (.ok trades, orders) :: rest => do
      let stats ← reconstructAt orders trades signalTimestamp
      let others ← reconstructWallets signalTimestamp rest
      return if stats.trades > 0 then stats :: others else others

/-- RUST: historical/build.rs:216-276, the builder with the options of the run. -/
def buildOne (b : HistoricalSignalBuilder) (mint : String) (signalTimestamp : Time)
    (candles : List OhlcvCandle) (safety : Except String HistoricalTokenSafety)
    (fetched : List (Except String (List WalletTrade) × HashOrders)) :
    Option (Except BuildError HistoricalDatasetEntry) :=
  match pickEntryCandle candles signalTimestamp with
  | none => some (.error (.noCandle signalTimestamp mint))
  | some entryCandle =>
      let future := candles.filter fun c => c.timestamp > signalTimestamp
      match safety with
      | .error e => some (.error (.rpc e))
      | .ok safety =>
          (reconstructWallets signalTimestamp fetched).map fun wallets =>
            (b.build mint signalTimestamp entryCandle safety wallets future).mapError .signal

end SolanaBot.Model
