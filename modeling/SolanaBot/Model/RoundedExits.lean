import SolanaBot.Model.BacktestEngine
import SolanaBot.Model.Portfolio

/-!
# Exits with rounded arithmetic

A decision to exit compares prices and returns with levels, and the last digit of a rounded operation
decides at the level. The functions behind an exit are therefore written out once more, each operation
followed by the rounding of its result, with the rounding as a parameter. In exact arithmetic they are the
functions of the exact model.
-/

set_option autoImplicit false

namespace SolanaBot.Model.Rounded

open SolanaBot.Library

section Exits

variable (round : Decimal → Decimal)

/-- RUST: strategy/exit.rs:59 and backtest/engine.rs:436. -/
def returnPct (price entryPrice : Decimal) : Decimal :=
  round (round (round (price - entryPrice) / entryPrice) * 100)

/-- The price below an anchor by a percentage. RUST: backtest/engine.rs:227 and
strategy/exit.rs:66. -/
def levelBelow (anchor pct : Decimal) : Decimal := round (anchor * round (1 - round (pct / 100)))

/-- The price above an anchor by a percentage. RUST: backtest/engine.rs:228. -/
def levelAbove (anchor pct : Decimal) : Decimal := round (anchor * round (1 + round (pct / 100)))

/-- RUST: strategy/exit.rs:33-74. -/
def exitReason (p : Position) (price : Decimal) (liquidity : Option Decimal)
    (minLiquidity : Decimal) (invalidated : Bool) (now : Time) (c : StrategyConfig) :
    Option ExitReason :=
  match liquidity with
  | none => some .liquidityDeterioration
  | some liq =>
      if liq < minLiquidity then some .liquidityDeterioration
      else if invalidated then some .signalInvalidated
      else if p.entryPriceUsd ≤ 0 then some .stopLoss
      else
        let r := returnPct round price p.entryPriceUsd
        if r ≤ -c.stopLossPct then some .stopLoss
        else if r ≥ c.takeProfitPct then some .takeProfit
        else if price ≤ levelBelow round p.highWaterPriceUsd c.trailingStopPct then
          some .trailingStop
        else if numMinutes (now - p.entryTime) ≥ c.maxHoldingMinutes then some .timeLimit
        else none

/-- RUST: backtest/engine.rs:217-240. -/
def detectAmbiguity (prev curr : PriceObservation) (entryPrice slPct tpPct : Decimal) :
    Option AmbiguousInterval :=
  if entryPrice ≤ 0 then none
  else
    let slPrice := levelBelow round entryPrice slPct
    let tpPrice := levelAbove round entryPrice tpPct
    let low := min prev.effectiveLow curr.effectiveLow
    let high := max prev.effectiveHigh curr.effectiveHigh
    if low ≤ slPrice ∧ high ≥ tpPrice then some { slPrice, tpPrice, low, high } else none

/-- RUST: backtest/engine.rs:434-442. -/
def track (w : WalkState) (price entryPrice : Decimal) : WalkState :=
  let returnPct := returnPct round price entryPrice
  { w with
    mfe := if returnPct > w.mfe then returnPct else w.mfe
    mae := if returnPct < w.mae then returnPct else w.mae }

/-- RUST: backtest/engine.rs:406-481, one turn of the walk. -/
def walkTurn (config : Config) (entryPrice : Decimal) (obs : PriceObservation) (w : WalkState) :
    ForInStep WalkState :=
  let price := obs.effectiveClose
  match w.prev.bind fun prev =>
      detectAmbiguity round prev obs entryPrice config.strategy.stopLossPct
        config.strategy.takeProfitPct with
  | some interval =>
      .done { w with
        isAmbiguous := true
        ambiguousReason := some interval
        exitPrice := levelBelow round entryPrice config.strategy.stopLossPct
        exitTime := obs.timestamp
        exitReasonFound := some .stopLoss }
  | none =>
      let w := track round w price entryPrice
      match exitReason round w.position price (some obs.liquidityUsd) config.risk.minLiquidityUsd
          false obs.timestamp config.strategy with
      | some reason =>
          .done { w with
            exitPrice := price, exitTime := obs.timestamp, exitReasonFound := some reason }
      | none => .yield (w.raise obs)

/-- RUST: backtest/engine.rs:395-481. -/
def walkHistory (config : Config) (signal : HistoricalSignal) : Walked WalkState :=
  walk (walkTurn round config signal.market.priceUsd) signal.priceHistory
    (walkStart signal signal.market.priceUsd signal.signalTimestamp)

/-- RUST: portfolio/mod.rs:242-265. -/
def markToMarket (pf : Portfolio) (mint : String) (price : Decimal) :
    Except String Decimal × Portfolio :=
  match pf.position mint with
  | none => (.error "no position for mint", pf)
  | some p =>
      match p.remainingQuantityAtomic with
      | none =>
          (.error "position missing remaining_quantity_atomic; cannot mark to market", pf)
      | some remaining =>
          let currentValueUsd := round (price * dec remaining)
          let p := { p with
            highWaterPriceUsd := max p.highWaterPriceUsd price
            currentValueUsd }
          match p.entryCostUsd with
          | none =>
              (.error "position missing entry_cost_usd; cannot mark to market",
                ⟨pf.positions.put p⟩)
          | some entryCost =>
              let costOfRemaining := round (round (entryCost * dec remaining) /
                (if p.quantity = 0 then 1 else p.quantity))
              (.ok currentValueUsd,
                ⟨pf.positions.put
                  { p with unrealizedPnlUsd :=
                      round (round (currentValueUsd - costOfRemaining) - p.feesUsd) }⟩)

end Exits

/-- Of the position, a decision reads the entry and the high-water mark. -/
theorem exitReason_congr {round : Decimal → Decimal} {p q : Position}
    (hprice : p.entryPriceUsd = q.entryPriceUsd) (htime : p.entryTime = q.entryTime)
    (hhigh : p.highWaterPriceUsd = q.highWaterPriceUsd) (price : Decimal)
    (liquidity : Option Decimal) (minLiquidity : Decimal) (invalidated : Bool) (now : Time)
    (c : StrategyConfig) :
    exitReason round p price liquidity minLiquidity invalidated now c =
      exitReason round q price liquidity minLiquidity invalidated now c := by
  unfold exitReason
  rw [hprice, htime, hhigh]

/-! ## Exact arithmetic -/

/-- In exact arithmetic the walk is the walk of the exact model. -/
theorem walkHistory_exact : walkHistory id = Model.walkHistory := rfl

/-- In exact arithmetic a decision is that of the exact model. -/
theorem exitReason_exact : exitReason id = Model.exitReason := rfl

/-- In exact arithmetic a mark is that of the exact model. -/
theorem markToMarket_exact : markToMarket id = Portfolio.markToMarket := rfl

end SolanaBot.Model.Rounded
