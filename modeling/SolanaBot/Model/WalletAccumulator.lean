import Mathlib.Logic.Function.Basic
import SolanaBot.Model.SmartMoney
import SolanaBot.Model.Strategy
import SolanaBot.Model.SwapParser

/-!
# Accumulated swaps of a wallet

`collector/wallet_monitor.rs`: the accumulator of the swaps of a wallet, which matches sells with the
lots bought before them in first-in first-out order, and the statistics of the trades completed so far.
A map without an entry for a mint holds an empty queue for it.
-/

set_option autoImplicit false

namespace SolanaBot.Model

/-- RUST: collector/wallet_monitor.rs:119-123. A lot, with what is left of it. -/
structure OpenPosition where
  solSpent : Decimal
  tokensReceived : Decimal
  timestamp : Time
deriving DecidableEq

/-- RUST: collector/wallet_monitor.rs:127-132. -/
structure CompletedTrade where
  returnPct : Decimal
  pnlSol : Decimal
  entryTime : Time
  exitTime : Time
deriving DecidableEq

/-- RUST: collector/wallet_monitor.rs:134-142. -/
structure WalletAccumulator where
  openPositions : String → List OpenPosition
  completedTrades : List CompletedTrade
  buys : UInt32
  sells : UInt32
  dexActivity : String → UInt32
  lastActivityTs : Option Int
  firstActivityTs : Option Int

/-- RUST: collector/wallet_monitor.rs:220-229. The return of what is sold of a lot. -/
def sliceReturn (cost proceeds : Decimal) : Decimal :=
  if cost > 0 then roundDp2 ((proceeds - cost) / cost * 100) else 0

/-- RUST: collector/wallet_monitor.rs:209-245, the loop over the lots. A lot that is not used up leaves
nothing to sell, so that the loop ends with it. -/
def sellLots (proceedsPerToken : Decimal) (sellTime : Time) :
    List OpenPosition → Decimal → List OpenPosition × List CompletedTrade
  | [], _ => ([], [])
  | front :: queue, remainingToSell =>
      if remainingToSell ≤ 0 then (front :: queue, [])
      else if front.tokensReceived ≤ 0 then sellLots proceedsPerToken sellTime queue remainingToSell
      else
        let soldFromLot := min front.tokensReceived remainingToSell
        let costOfSold := front.solSpent * soldFromLot / front.tokensReceived
        let proceeds := proceedsPerToken * soldFromLot
        let trade : CompletedTrade :=
          { returnPct := sliceReturn costOfSold proceeds
            pnlSol := proceeds - costOfSold
            entryTime := front.timestamp
            exitTime := sellTime }
        let left : OpenPosition :=
          { front with
            tokensReceived := front.tokensReceived - soldFromLot
            solSpent := front.solSpent - costOfSold }
        if left.tokensReceived = 0 then
          let rest := sellLots proceedsPerToken sellTime queue (remainingToSell - soldFromLot)
          (rest.1, trade :: rest.2)
        else (left :: queue, [trade])

namespace WalletAccumulator

/-- RUST: collector/wallet_monitor.rs:145-155. -/
def new : WalletAccumulator :=
  { openPositions := fun _ => [], completedTrades := [], buys := 0, sells := 0
    dexActivity := fun _ => 0, lastActivityTs := none, firstActivityTs := none }

/-- RUST: collector/wallet_monitor.rs:195-247. -/
def recordSell (acc : WalletAccumulator) (mint : String) (tokensSold solReceived : Decimal)
    (sellTime : Time) : WalletAccumulator :=
  if tokensSold ≤ 0 then acc
  else
    let sold := sellLots (solReceived / tokensSold) sellTime (acc.openPositions mint) tokensSold
    { acc with
      openPositions := Function.update acc.openPositions mint sold.1
      completedTrades := acc.completedTrades ++ sold.2 }

/-- RUST: collector/wallet_monitor.rs:164-172. The times of the first and of the last swap, in whole
seconds. -/
def noteActivity (acc : WalletAccumulator) (ts : Time) : WalletAccumulator :=
  let blockTime := ts / 1000
  { acc with
    lastActivityTs := some ((acc.lastActivityTs.map fun prev => max prev blockTime).getD blockTime)
    firstActivityTs := some ((acc.firstActivityTs.map fun prev => min prev blockTime).getD blockTime) }

/-- RUST: collector/wallet_monitor.rs:157-193. -/
def recordObservation (acc : WalletAccumulator) (mint : String) (direction : SwapDirection)
    (inputAmount outputAmount : Decimal) (ts : Time) : WalletAccumulator :=
  let acc := acc.noteActivity ts
  match direction with
  | .buy =>
      { acc with
        buys := acc.buys + 1
        openPositions := Function.update acc.openPositions mint
          (acc.openPositions mint ++
            [{ solSpent := inputAmount, tokensReceived := outputAmount, timestamp := ts }]) }
  | .sell => { acc with sells := acc.sells + 1 }.recordSell mint inputAmount outputAmount ts

/-- RUST: collector/wallet_monitor.rs:249-251. -/
def observeDex (acc : WalletAccumulator) (dex : String) : WalletAccumulator :=
  { acc with dexActivity := Function.update acc.dexActivity dex (acc.dexActivity dex + 1) }

end WalletAccumulator

/-! ## Swaps -/

/-- RUST: chrono::DateTime::from_timestamp, for the years from -262143 to 262142. -/
def fromTimestamp (secs : Int) : Option Time :=
  if -8334601228800 ≤ secs ∧ secs ≤ 8210266876799 then some (seconds secs) else none

/-- RUST: collector/wallet_monitor.rs:1466-1469. An amount in human units. -/
def legUnits (amount : UInt64) (decimals : UInt8) : Decimal := dec amount / dec (pow10 decimals)

/-- What was given, in human units. -/
def ParsedSwap.inputLeg (swap : ParsedSwap) : Decimal := legUnits swap.inputAmount swap.inputDecimals

/-- What was received, in human units. -/
def ParsedSwap.outputLeg (swap : ParsedSwap) : Decimal :=
  legUnits swap.outputAmount swap.outputDecimals

/-- RUST: collector/wallet_monitor.rs:1462. The time of the block, if it is a date. -/
def ParsedSwap.timestamp (swap : ParsedSwap) (now : Time) : Time :=
  (fromTimestamp swap.blockTime).getD now

/-- RUST: collector/wallet_monitor.rs:1475-1478. -/
def ParsedSwap.tradedMint (swap : ParsedSwap) : String :=
  match swap.direction with
  | .buy => swap.outputMint
  | .sell => swap.inputMint

/-- The side of the trade. -/
def ParsedSwap.side (swap : ParsedSwap) : Side :=
  match swap.direction with
  | .buy => .buy
  | .sell => .sell

/-- RUST: collector/wallet_monitor.rs:1471-1474. -/
def ParsedSwap.notional (swap : ParsedSwap) (solPrice : Decimal) : Decimal :=
  match swap.direction with
  | .buy => swap.inputLeg * solPrice
  | .sell => swap.outputLeg * solPrice

/-- RUST: collector/wallet_monitor.rs:1480-1488. -/
def ParsedSwap.observation (swap : ParsedSwap) (wallet : String) (solPrice : Decimal)
    (ts received : Time) : WalletTradeObservation :=
  { wallet
    mint := swap.tradedMint
    side := swap.side
    notionalUsd := swap.notional solPrice
    observedAt := ts
    receivedAt := received
    signature := swap.signature }

/-- RUST: collector/wallet_monitor.rs:44. -/
def MAX_OBSERVATIONS_PER_WALLET : ℕ := 5000

/-- The two readings of the clock in one call of `absorb_swap`: one for the time of a block that is no
date, and one for the time of receipt. -/
structure ClockReadings where
  fallback : Time
  received : Time

/-- RUST: collector/wallet_monitor.rs:1490. What the call leaves in the accumulator. -/
def WalletAccumulator.absorb (acc : WalletAccumulator) (swap : ParsedSwap) (now : ClockReadings) :
    WalletAccumulator :=
  acc.recordObservation swap.tradedMint swap.direction swap.inputLeg swap.outputLeg
    (swap.timestamp now.fallback)

/-- RUST: collector/wallet_monitor.rs:1455-1491. -/
def absorbSwap (accumulator : WalletAccumulator) (swap : ParsedSwap)
    (observations : List WalletTradeObservation) (solPrice : Decimal) (wallet : String)
    (now : ClockReadings) : WalletAccumulator × List WalletTradeObservation :=
  (accumulator.absorb swap now,
    if observations.length < MAX_OBSERVATIONS_PER_WALLET then
      observations ++ [swap.observation wallet solPrice (swap.timestamp now.fallback) now.received]
    else observations)

/-! ## Statistics -/

/-- RUST: collector/wallet_monitor.rs:267-286. The statistics of a wallet without a trade. -/
def emptyStats (wallet : String) (asOf : Time) : WalletStats :=
  { wallet, entityId := none, realizedPnlUsd := 0, winRate := 0, avgReturnPct := 0
    medianReturnPct := 0, maxDrawdownPct := 0, trades := 0, recentReturnPct := 0
    concentrationPct := 0, scamExposurePct := 0, score := 0, tier := .candidate, updatedAt := asOf
    avgWinPct := none, avgLossPct := none }

/-- The mean of a list, if there is one. RUST: collector/wallet_monitor.rs:299-324. -/
def meanOf (values : List Decimal) : Option Decimal :=
  if values = [] then none else some (values.sum / (values.length : ℚ))

/-- RUST: collector/wallet_monitor.rs:333-348. The cumulative profit, its peak and the drawdown in
percent of the peak. -/
def tradeDrawdownTurn (s : Decimal × Decimal × Decimal) (pnl : Decimal) :
    Decimal × Decimal × Decimal :=
  let cumulative := s.1 + pnl
  let peak := if cumulative > s.2.1 then cumulative else s.2.1
  let dd := if peak > 0 then (peak - cumulative) / peak * 100 else 0
  (cumulative, peak, if dd > s.2.2 then dd else s.2.2)

/-- RUST: collector/wallet_monitor.rs:258-264. The trades completed by then, by their exit. -/
def WalletAccumulator.tradesBy (acc : WalletAccumulator) (asOf : Time) : List CompletedTrade :=
  (acc.completedTrades.filter fun t => t.exitTime ≤ asOf).mergeSort fun a b =>
    a.exitTime ≤ b.exitTime

/-- RUST: collector/wallet_monitor.rs:257-368. -/
def WalletAccumulator.buildStats (acc : WalletAccumulator) (wallet : String) (asOf : Time) :
    WalletStats :=
  let trades := acc.tradesBy asOf
  let count := UInt32.ofNat trades.length
  if count = 0 then emptyStats wallet asOf
  else
    let returns := trades.map CompletedTrade.returnPct
    let wins := UInt32.ofNat (returns.countP fun r => r > 0)
    let sorted := returns.mergeSort fun a b => a ≤ b
    { wallet
      entityId := none
      realizedPnlUsd := (trades.map CompletedTrade.pnlSol).sum
      winRate := (wins.toNat : ℚ) / (count.toNat : ℚ)
      avgReturnPct := returns.sum / (count.toNat : ℚ)
      medianReturnPct := sorted.getD (sorted.length / 2) 0
      maxDrawdownPct :=
        ((trades.map CompletedTrade.pnlSol).foldl tradeDrawdownTurn (0, 0, 0)).2.2
      trades := count
      recentReturnPct := (trades.getLast?.map CompletedTrade.returnPct).getD 0
      concentrationPct := 0
      scamExposurePct := 0
      score := 0
      tier := .candidate
      updatedAt := asOf
      avgWinPct := meanOf (returns.filter fun r => r > 0)
      avgLossPct := meanOf ((returns.filter fun r => r < 0).map fun r => |r|) }

end SolanaBot.Model
