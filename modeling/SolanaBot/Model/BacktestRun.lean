import Mathlib.Algebra.Order.AbsoluteValue.Basic
import SolanaBot.Model.BacktestEngine

/-!
# The backtest run

`backtest/stats.rs` and `backtest/mod.rs`: the statistics of a list of trades, the
verdict on the out-of-sample split, and the pipeline from the lines of a file to the
separated lists of records. `none` is the panic of a simulation.
-/

set_option autoImplicit false

namespace SolanaBot.Model

/-! ## Statistics -/

/-- RUST: backtest/stats.rs:13-32. -/
inductive OosVerdict where
  | positiveExpectancy
  | negativeExpectancy
  | inconclusive
  | noOosData
  | invalidData
  | insufficientOosSample
  | syntheticData
deriving DecidableEq, Repr

/-- RUST: backtest/stats.rs:50. -/
def minOosTradesForVerdict : ℕ := 5

/-- RUST: backtest/stats.rs:60-160. -/
structure BacktestStatistics where
  totalSignals : ℕ
  acceptedTrades : ℕ
  rejectedSignals : ℕ
  ambiguousTrades : ℕ
  censoredTrades : ℕ
  winRate : Decimal
  avgWinPct : Decimal
  avgLossPct : Decimal
  medianReturnPct : Decimal
  expectancyPerTradePct : Decimal
  profitFactor : Decimal
  grossPnlUsd : Decimal
  netPnlUsd : Decimal
  totalCostsUsd : Decimal
  maxDrawdownPct : Decimal
  longestLosingStreak : ℕ
  avgHoldingMinutes : Decimal
  returnStdDev : Decimal
  standardError : Decimal
  tStatistic : Decimal
  sharpeLike : Decimal
  sortinoLike : Decimal
  costMode : CostMode
  oosTotalTrades : ℕ
  oosUsableTrades : ℕ
  oosAmbiguousTrades : ℕ
  oosCensoredTrades : ℕ
  oosMeanReturnPct : Decimal
  oosCi95LowerPct : Decimal
  oosCi95UpperPct : Decimal
  oosVerdict : OosVerdict
  isSyntheticData : Bool
  trainTotalTrades : ℕ
  trainUsableTrades : ℕ
  trainAmbiguousTrades : ℕ
  trainCensoredTrades : ℕ
  validationTotalTrades : ℕ
  validationUsableTrades : ℕ
  validationAmbiguousTrades : ℕ
  validationCensoredTrades : ℕ

/-- RUST: backtest/stats.rs:706-717. -/
def median (values : List Decimal) : Decimal :=
  let sorted := values.mergeSort fun a b => a ≤ b
  let n := sorted.length
  if n = 0 then 0
  else if n % 2 = 0 then (sorted.getD (n / 2 - 1) 0 + sorted.getD (n / 2) 0) / 2
  else sorted.getD (n / 2) 0

/-- RUST: backtest/stats.rs:727-733, the rest of the Newton iteration. -/
def sqrtLoop (v : Decimal) : ℕ → Decimal → Decimal
  | 0, guess => guess
  | n + 1, guess =>
      let next := (guess + v / guess) / 2
      if |next - guess| < 1 / 10 ^ 10 then next else sqrtLoop v n next

/-- RUST: backtest/stats.rs:719-735. -/
def decimalSqrt (v : Decimal) : Decimal :=
  if v ≤ 0 then 0
  else
    let guess := v / 2
    sqrtLoop v 50 (if guess = 0 then 1 else guess)

/-- `total / count` of a list, and zero where there is nothing. RUST: backtest/stats.rs:299-324. -/
def meanOrZero (values : List Decimal) : Decimal :=
  if values = [] then 0 else values.sum / (values.length : ℚ)

/-- A ratio, and zero where the denominator is not positive. -/
def ratioOrZero (a b : Decimal) : Decimal := if b > 0 then a / b else 0

/-- RUST: backtest/stats.rs:281-284. A trade whose outcome is known. -/
def SimulatedTrade.isUsable (t : SimulatedTrade) : Bool := !t.isAmbiguous && !t.isCensored

/-- RUST: backtest/stats.rs:349-364. Equity, its peak and the deepest drawdown so far. -/
def drawdownTurn (s : Decimal × Decimal × Decimal) (netPnl : Decimal) :
    Decimal × Decimal × Decimal :=
  let equity := s.1 + netPnl
  let peak := if equity > s.2.1 then equity else s.2.1
  let dd := if peak > 0 then (peak - equity) / peak * 100 else 0
  (equity, peak, if dd > s.2.2 then dd else s.2.2)

/-- RUST: backtest/stats.rs:366-377. The current and the longest losing streak. -/
def streakTurn (s : ℕ × ℕ) (netPnl : Decimal) : ℕ × ℕ :=
  if netPnl ≤ 0 then (s.1 + 1, if s.1 + 1 > s.2 then s.1 + 1 else s.2) else (0, s.2)

/-- RUST: backtest/stats.rs:267-474. -/
def computeStatistics (trades : List SimulatedTrade) (totalSignals rejectedCount : ℕ)
    (startingCapitalUsd : Decimal) (isSyntheticData : Bool) : BacktestStatistics :=
  let usable := trades.filter SimulatedTrade.isUsable
  let wins := usable.filter fun t => t.netPnlUsd > 0
  let losses := usable.filter fun t => t.netPnlUsd ≤ 0
  let returns := usable.map SimulatedTrade.netReturnPct
  let n : Decimal := (usable.length : ℚ)
  let mean := meanOrZero returns
  let grossWins := (wins.map SimulatedTrade.netPnlUsd).sum
  let grossLosses := (losses.map fun t => |t.netPnlUsd|).sum
  let variance :=
    if n > 1 then (returns.map fun r => (r - mean) * (r - mean)).sum / (n - 1) else 0
  let stdDev := decimalSqrt variance
  let standardError := if n > 0 then stdDev / decimalSqrt n else 0
  let downsideVar :=
    if n > 1 then ((returns.filter fun r => r < 0).map fun r => r * r).sum / n else 0
  let netPnls := usable.map SimulatedTrade.netPnlUsd
  { totalSignals
    acceptedTrades := trades.length
    rejectedSignals := rejectedCount
    ambiguousTrades := trades.countP SimulatedTrade.isAmbiguous
    censoredTrades := trades.countP SimulatedTrade.isCensored
    winRate := if n > 0 then (wins.length : ℚ) / n * 100 else 0
    avgWinPct := meanOrZero (wins.map SimulatedTrade.netReturnPct)
    avgLossPct := meanOrZero (losses.map SimulatedTrade.netReturnPct)
    medianReturnPct := median returns
    expectancyPerTradePct := mean
    profitFactor :=
      if grossLosses > 0 then grossWins / grossLosses
      else if grossWins > 0 then 2147483647
      else 0
    grossPnlUsd := (usable.map SimulatedTrade.grossPnlUsd).sum
    netPnlUsd := netPnls.sum
    totalCostsUsd := (usable.map SimulatedTrade.totalCostUsd).sum
    maxDrawdownPct := (netPnls.foldl drawdownTurn (startingCapitalUsd, startingCapitalUsd, 0)).2.2
    longestLosingStreak := (netPnls.foldl streakTurn (0, 0)).2
    avgHoldingMinutes := meanOrZero (trades.map fun t => (t.holdingMinutes : ℚ))
    returnStdDev := stdDev
    standardError
    tStatistic := ratioOrZero mean standardError
    sharpeLike := ratioOrZero mean stdDev
    sortinoLike := ratioOrZero mean (decimalSqrt downsideVar)
    costMode := (trades.head?.map SimulatedTrade.costMode).getD .modeled
    oosTotalTrades := 0
    oosUsableTrades := 0
    oosAmbiguousTrades := 0
    oosCensoredTrades := 0
    oosMeanReturnPct := 0
    oosCi95LowerPct := 0
    oosCi95UpperPct := 0
    oosVerdict := .inconclusive
    isSyntheticData
    trainTotalTrades := 0
    trainUsableTrades := 0
    trainAmbiguousTrades := 0
    trainCensoredTrades := 0
    validationTotalTrades := 0
    validationUsableTrades := 0
    validationAmbiguousTrades := 0
    validationCensoredTrades := 0 }

/-- RUST: backtest/stats.rs:540-543. -/
def ci95 (mean standardError : Decimal) : Decimal × Decimal :=
  let half := 196 / 100 * standardError
  (mean - half, mean + half)

/-- RUST: backtest/stats.rs:676-704. -/
def computeOosVerdict (stats : BacktestStatistics) : OosVerdict :=
  if stats.isSyntheticData then .syntheticData
  else if stats.oosTotalTrades = 0 then .noOosData
  else if stats.oosUsableTrades = 0 then .invalidData
  else if stats.oosUsableTrades < minOosTradesForVerdict then .insufficientOosSample
  else if stats.oosCi95LowerPct ≤ 0 ∧ stats.oosCi95UpperPct ≥ 0 then .inconclusive
  else if stats.oosCi95LowerPct > 0 then .positiveExpectancy
  else if stats.oosCi95UpperPct < 0 then .negativeExpectancy
  else .inconclusive

/-! ## The pipeline -/

/-- RUST: backtest/engine.rs:713-725. -/
structure BacktestCostConfig where
  entrySwapFeeBps : Option Decimal
  entryPriorityFeeUsd : Option Decimal
  entrySlippageBps : Option Decimal
  entryPriceImpactBps : Option Decimal
  exitSwapFeeBps : Option Decimal
  exitPriorityFeeUsd : Option Decimal
  exitSlippageBps : Option Decimal
  exitPriceImpactBps : Option Decimal
  failedTxRate : Option Decimal
  failedTxCostUsd : Option Decimal

/-- RUST: backtest/engine.rs:690-706. -/
structure BacktestConfig where
  split : SplitConfig
  costs : BacktestCostConfig
  capitalUsd : Decimal
  isSyntheticData : Bool

/-- RUST: backtest/engine.rs:728-759. -/
def CostAssumptions.fromConfig (bt : BacktestConfig) : CostAssumptions :=
  { entrySwapFeeBps := bt.costs.entrySwapFeeBps.getD 30
    entryPriorityFeeUsd := bt.costs.entryPriorityFeeUsd.getD (2 / 1000)
    entrySlippageBps := bt.costs.entrySlippageBps.getD 50
    entryPriceImpactBps := bt.costs.entryPriceImpactBps.getD 20
    exitSwapFeeBps := bt.costs.exitSwapFeeBps.getD 30
    exitPriorityFeeUsd := bt.costs.exitPriorityFeeUsd.getD (2 / 1000)
    exitSlippageBps := bt.costs.exitSlippageBps.getD 50
    exitPriceImpactBps := bt.costs.exitPriceImpactBps.getD 20
    failedTxRate := bt.costs.failedTxRate.getD (5 / 100)
    failedTxCostUsd := bt.costs.failedTxCostUsd.getD (2 / 1000) }

/-- RUST: backtest/engine.rs:773-793. -/
structure BacktestResult where
  statistics : BacktestStatistics
  allTrades : List SimulatedTrade
  totalSignals : ℕ
  acceptedTrades : ℕ
  rejectedCount : ℕ
  malformedRecords : List MalformedRecord
  structuralRejections : List (SignalRejection StructuralDefect)
  strategyRejections : List (SignalRejection SimRejection)
  rangeExcluded : List (SignalRejection SplitGap)
  trainStats : BacktestStatistics
  validationStats : BacktestStatistics

/-- Why a run is aborted. -/
inductive RunError where
  | boundaries (e : BoundaryError)
  | unreadable (e : String)

/-- The local variables of the simulation loop. RUST: backtest/mod.rs:44-47. -/
structure Simulating where
  trades : List SimulatedTrade
  strategyRejections : List (SignalRejection SimRejection)
  rangeExcluded : List (SignalRejection SplitGap)
  tradeIndex : ℕ

/-- RUST: backtest/mod.rs:49-78, one turn of the loop over the accepted records. -/
def simulateRecord (hasher : Hasher) (config : Config) (bt : BacktestConfig) (st : Simulating)
    (signal : HistoricalSignal) : Option Simulating :=
  match classifySplitWithExclusion signal.signalTimestamp bt.split with
  | (_, some gap) =>
      some { st with rangeExcluded := st.rangeExcluded ++ [signal.rejection gap] }
  | (split, none) =>
      (simulateSignal hasher config (CostAssumptions.fromConfig bt) split st.tradeIndex signal).map
        fun
        | .ok trade =>
            { st with trades := st.trades ++ [trade], tradeIndex := st.tradeIndex + 1 }
        | .error reason =>
            { st with strategyRejections := st.strategyRejections ++ [signal.rejection reason] }

/-- The trades of one split. RUST: backtest/mod.rs:116-120 and 181-190. -/
def tradesOf (split : Split) (trades : List SimulatedTrade) : List SimulatedTrade :=
  trades.filter fun t => t.split = split

/-- The usable trades of a split, counted by subtraction. RUST: backtest/mod.rs:134, 172, 176. -/
def usableCount (trades : List SimulatedTrade) : ℕ :=
  trades.length - trades.countP SimulatedTrade.isAmbiguous -
    trades.countP SimulatedTrade.isCensored

/-- RUST: backtest/mod.rs:84-198. The statistics of all trades with those of each split. -/
def runStatistics (bt : BacktestConfig) (trades : List SimulatedTrade)
    (totalSignals rejectedCount : ℕ) : BacktestStatistics :=
  let oos := tradesOf .outOfSample trades
  let train := tradesOf .train trades
  let validation := tradesOf .validation trades
  let stats := computeStatistics trades totalSignals rejectedCount bt.capitalUsd bt.isSyntheticData
  let oosStats := computeStatistics oos oos.length 0 bt.capitalUsd bt.isSyntheticData
  let ci := ci95 oosStats.expectancyPerTradePct oosStats.standardError
  let stats := { stats with
    oosTotalTrades := oos.length
    oosUsableTrades := usableCount oos
    oosAmbiguousTrades := oos.countP SimulatedTrade.isAmbiguous
    oosCensoredTrades := oos.countP SimulatedTrade.isCensored
    oosMeanReturnPct := oosStats.expectancyPerTradePct
    oosCi95LowerPct := ci.1
    oosCi95UpperPct := ci.2 }
  { stats with
    oosVerdict := computeOosVerdict stats
    trainTotalTrades := train.length
    trainUsableTrades := usableCount train
    trainAmbiguousTrades := train.countP SimulatedTrade.isAmbiguous
    trainCensoredTrades := train.countP SimulatedTrade.isCensored
    validationTotalTrades := validation.length
    validationUsableTrades := usableCount validation
    validationAmbiguousTrades := validation.countP SimulatedTrade.isAmbiguous
    validationCensoredTrades := validation.countP SimulatedTrade.isCensored }

/-- RUST: backtest/mod.rs:24-212. -/
def runBacktest (hasher : Hasher) (parse : String → Except String HistoricalSignal)
    (config : Config) (bt : BacktestConfig) (content : Except String String) :
    Option (Except RunError BacktestResult) :=
  match bt.split.validateBoundaries with
  | .error e => some (.error (.boundaries e))
  | .ok () =>
      match loadHistoricalSignals parse content with
      | .error e => some (.error (.unreadable e))
      | .ok loaded =>
          let totalSignals := loaded.signals.length + loaded.rejectedCount
          let (accepted, structuralRejections) := prefilterSignals loaded.signals
          (accepted.foldlM (simulateRecord hasher config bt)
              { trades := [], strategyRejections := [], rangeExcluded := [], tradeIndex := 0 }).map
            fun done =>
              let train := tradesOf .train done.trades
              let validation := tradesOf .validation done.trades
              .ok {
                statistics := runStatistics bt done.trades totalSignals
                  (structuralRejections.length + done.strategyRejections.length +
                    done.rangeExcluded.length)
                allTrades := done.trades
                totalSignals
                acceptedTrades := accepted.length
                rejectedCount := structuralRejections.length
                malformedRecords := loaded.rejectionReasons
                structuralRejections
                strategyRejections := done.strategyRejections
                rangeExcluded := done.rangeExcluded
                trainStats :=
                  computeStatistics train train.length 0 bt.capitalUsd bt.isSyntheticData
                validationStats :=
                  computeStatistics validation validation.length 0 bt.capitalUsd
                    bt.isSyntheticData }

end SolanaBot.Model
