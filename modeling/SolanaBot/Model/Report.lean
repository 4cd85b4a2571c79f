import SolanaBot.Model.Storage

/-!
# The performance report

`report.rs`: the figures that the bot prints when a session ends, from the positions and orders of the
store. The counters are natural numbers here. A map from reasons to counts is a table keyed by the reason.
-/

set_option autoImplicit false

namespace SolanaBot.Model

open SolanaBot.Library

/-- How often a reason was met: an entry of a `HashMap<String, u32>`. -/
structure ReasonCount where
  reason : String
  count : ℕ
deriving DecidableEq

/-- `*counts.entry(reason).or_insert(0) += 1`. -/
def countReason (counts : Table ReasonCount.reason) (reason : String) : Table ReasonCount.reason :=
  counts.put ⟨reason, ((counts.find? reason).elim 0 ReasonCount.count) + 1⟩

/-- RUST: report.rs:10-32, with its derived default. -/
structure PerformanceReport where
  totalTrades : ℕ := 0
  wins : ℕ := 0
  losses : ℕ := 0
  totalPnlUsd : Decimal := 0
  grossWinsUsd : Decimal := 0
  grossLossesUsd : Decimal := 0
  totalFeesUsd : Decimal := 0
  winRate : Decimal := 0
  expectancy : Decimal := 0
  profitFactor : Decimal := 0
  maxDrawdownUsd : Decimal := 0
  maxDrawdownPct : Decimal := 0
  peakEquityUsd : Decimal := 0
  minEquityUsd : Decimal := 0
  avgHoldingMinutes : Decimal := 0
  exitsByReason : Table ReasonCount.reason := .empty _
  rejectionsByReason : Table ReasonCount.reason := .empty _
  startingCapitalUsd : Decimal := 0
  endingEquityUsd : Decimal := 0

namespace PerformanceReport

/-- RUST: report.rs:35-42. -/
def new (startingCapitalUsd : Decimal) : PerformanceReport :=
  { startingCapitalUsd
    peakEquityUsd := startingCapitalUsd
    minEquityUsd := startingCapitalUsd }

/-- RUST: report.rs:74-82. The gain is added to the peak. -/
def trackEquity (r : PerformanceReport) (pnl : Decimal) : PerformanceReport :=
  let currentEquity := r.peakEquityUsd + pnl
  { r with
    peakEquityUsd := if currentEquity > r.peakEquityUsd then currentEquity else r.peakEquityUsd
    minEquityUsd := if currentEquity < r.minEquityUsd then currentEquity else r.minEquityUsd
    endingEquityUsd := currentEquity }

/-- RUST: report.rs:50-84, one turn of the loop over the positions. -/
def addPosition (r : PerformanceReport) (pos : Position) : PerformanceReport :=
  if pos.state = .closed then
    let pnl := pos.realizedPnlUsd
    let fees := pos.feesUsd + pos.exitFeesUsd.getD 0
    let exitReason := pos.exitReason.getD ""
    let isWin := pnl > 0
    let r := { r with
      totalTrades := r.totalTrades + 1
      totalPnlUsd := r.totalPnlUsd + pnl
      totalFeesUsd := r.totalFeesUsd + fees }
    let r := if isWin then
        { r with wins := r.wins + 1, grossWinsUsd := r.grossWinsUsd + pnl }
      else { r with losses := r.losses + 1, grossLossesUsd := r.grossLossesUsd + |pnl| }
    let r := { r with exitsByReason := countReason r.exitsByReason exitReason }
    r.trackEquity pnl
  else r

/-- RUST: report.rs:86-106. The metrics of the collected figures. -/
def withMetrics (r : PerformanceReport) : PerformanceReport :=
  let r := if r.totalTrades > 0 then
      { r with
        winRate := (r.wins : Decimal) / r.totalTrades * 100
        expectancy := r.totalPnlUsd / r.totalTrades }
    else r
  let r := { r with
    profitFactor :=
      if r.grossLossesUsd > 0 then r.grossWinsUsd / r.grossLossesUsd
      else if r.grossWinsUsd > 0 then maxU64
      else 0 }
  if r.peakEquityUsd > 0 then
    let dd := r.peakEquityUsd - r.minEquityUsd
    { r with maxDrawdownUsd := dd, maxDrawdownPct := dd / r.peakEquityUsd * 100 }
  else r

/-- RUST: report.rs:108-114, one turn of the loop over the orders. -/
def addOrder (r : PerformanceReport) (order : OrderRecord) : PerformanceReport :=
  if order.state = .failed then
    { r with rejectionsByReason := countReason r.rejectionsByReason (order.error.getD "unknown") }
  else r

/-- RUST: report.rs:44-117, on the orders and positions that the store returned, in its order. -/
def ofStored (orders : List OrderRecord) (positions : List Position) (startingCapital : Decimal) :
    PerformanceReport :=
  orders.foldl addOrder (positions.foldl addPosition (new startingCapital)).withMetrics

/-- RUST: report.rs:44-117. The two queries of the store can fail. -/
def generate (orders : Except String (List OrderRecord)) (positions : Except String (List Position))
    (startingCapital : Decimal) : Except String PerformanceReport := do
  let orders ← orders.mapError ("load orders: " ++ ·)
  let positions ← positions.mapError ("load positions: " ++ ·)
  return ofStored orders positions startingCapital

end PerformanceReport

end SolanaBot.Model
