import SolanaBot.Library.Faults
import SolanaBot.Model.Rpc
import SolanaBot.Model.Strategy
import SolanaBot.Model.WalletAccumulator

/-!
# Amounts in human units

`collector/wallet_monitor.rs`, `collector/token_data.rs` and `data/rpc.rs`: the places where an amount is
divided by `10u64.pow(decimals)` for the decimals that the chain declares of a mint. The power overflows,
and a division by zero stops the program, so that these functions are in `Except Fault`: those of the
accumulator stand in the namespace `Faulting` under the source's names, next to the ones that are total.
-/

set_option autoImplicit false

namespace SolanaBot.Model

open SolanaBot.Library

/-- RUST: 10u64.pow. -/
def tenPow (checks : OverflowChecks) (decimals : UInt8) : Except Fault UInt64 := do
  let p ← power checks 64 10 decimals.toNat
  return UInt64.ofNat p

/-- RUST: collector/wallet_monitor.rs:1466-1469, collector/token_data.rs:168-171. -/
def inUnits (checks : OverflowChecks) (amount : UInt64) (decimals : UInt8) : Except Fault Decimal := do
  let unit ← tenPow checks decimals
  divide (dec amount) (dec unit)

/-! ## Swaps in the accumulator -/

namespace Faulting

/-- RUST: collector/wallet_monitor.rs:220-224. -/
def sliceReturn (cost proceeds : Decimal) : Except Fault Decimal :=
  if cost > 0 then do
    let gain ← divide (proceeds - cost) cost
    return roundDp2 (gain * 100)
  else return 0

/-- RUST: collector/wallet_monitor.rs:209-245. -/
def sellLots (proceedsPerToken : Decimal) (sellTime : Time) :
    List OpenPosition → Decimal → Except Fault (List OpenPosition × List CompletedTrade)
  | [], _ => return ([], [])
  | front :: queue, remainingToSell =>
      if remainingToSell ≤ 0 then return (front :: queue, [])
      else if front.tokensReceived ≤ 0 then sellLots proceedsPerToken sellTime queue remainingToSell
      else do
        let soldFromLot := min front.tokensReceived remainingToSell
        let costOfSold ← divide (front.solSpent * soldFromLot) front.tokensReceived
        let proceeds := proceedsPerToken * soldFromLot
        let returnPct ← sliceReturn costOfSold proceeds
        let trade : CompletedTrade :=
          { returnPct, pnlSol := proceeds - costOfSold, entryTime := front.timestamp
            exitTime := sellTime }
        let left : OpenPosition :=
          { front with
            tokensReceived := front.tokensReceived - soldFromLot
            solSpent := front.solSpent - costOfSold }
        if left.tokensReceived = 0 then
          let rest ← sellLots proceedsPerToken sellTime queue (remainingToSell - soldFromLot)
          return (rest.1, trade :: rest.2)
        else return (left :: queue, [trade])

/-- RUST: collector/wallet_monitor.rs:195-247. -/
def recordSell (acc : WalletAccumulator) (mint : String) (tokensSold solReceived : Decimal)
    (sellTime : Time) : Except Fault WalletAccumulator :=
  if tokensSold ≤ 0 then return acc
  else do
    let proceedsPerToken ← divide solReceived tokensSold
    let sold ← sellLots proceedsPerToken sellTime (acc.openPositions mint) tokensSold
    return { acc with
      openPositions := Function.update acc.openPositions mint sold.1
      completedTrades := acc.completedTrades ++ sold.2 }

/-- RUST: collector/wallet_monitor.rs:157-193. -/
def recordObservation (acc : WalletAccumulator) (mint : String) (direction : SwapDirection)
    (inputAmount outputAmount : Decimal) (ts : Time) : Except Fault WalletAccumulator :=
  match direction with
  | .buy => return acc.recordObservation mint .buy inputAmount outputAmount ts
  | .sell =>
      let noted := acc.noteActivity ts
      recordSell { noted with sells := noted.sells + 1 } mint inputAmount outputAmount ts

/-- RUST: collector/wallet_monitor.rs:1455-1491. -/
def absorbSwap (checks : OverflowChecks) (accumulator : WalletAccumulator) (swap : ParsedSwap)
    (observations : List WalletTradeObservation) (solPrice : Decimal) (wallet : String)
    (now : ClockReadings) : Except Fault (WalletAccumulator × List WalletTradeObservation) := do
  let ts := swap.timestamp now.fallback
  let inputLeg ← inUnits checks swap.inputAmount swap.inputDecimals
  let outputLeg ← inUnits checks swap.outputAmount swap.outputDecimals
  let notional := match swap.direction with
    | .buy => inputLeg * solPrice
    | .sell => outputLeg * solPrice
  let observation : WalletTradeObservation :=
    { wallet, mint := swap.tradedMint, side := swap.side, notionalUsd := notional, observedAt := ts
      receivedAt := now.received, signature := swap.signature }
  let absorbed ← recordObservation accumulator swap.tradedMint swap.direction inputLeg outputLeg ts
  return (absorbed,
    if observations.length < MAX_OBSERVATIONS_PER_WALLET then observations ++ [observation]
    else observations)

/-- What a transaction of a wallet does to its accumulator and its observations.
RUST: collector/wallet_monitor.rs:723-761, and 1077-1098 likewise. -/
def absorbTransaction (checks : OverflowChecks) (order : KeyOrder) (tx : SwapTransaction)
    (wallet : String) (accumulator : WalletAccumulator) (observations : List WalletTradeObservation)
    (solPrice : Decimal) (now : ClockReadings) :
    Except Fault (WalletAccumulator × List WalletTradeObservation) :=
  match parseSwapFromTransaction order tx wallet with
  | none => return (accumulator, observations)
  | some swap =>
      absorbSwap checks (accumulator.observeDex swap.dex) swap observations solPrice wallet now

end Faulting

/-! ## Snapshots of a market -/

/-- The account of a mint in an answer of the network. The supply is a text, which may be no number. -/
structure MintAccount where
  mintAuthority : Option String
  freezeAuthority : Option String
  supply : Option (Option UInt64)
  decimals : Option UInt64
  isInitialized : Option Bool

/-- RUST: data/rpc.rs:111-117. -/
structure MintAccountInfo where
  mintAuthority : Option String
  freezeAuthority : Option String
  supply : UInt64
  decimals : UInt8
  isInitialized : Bool

/-- RUST: data/rpc.rs:470-504. The decimals are cut down to eight bits. -/
def mintAccountInfo (answer : Except RpcError (Option MintAccount)) :
    Except RpcError (Option MintAccountInfo) := do
  match ← answer with
  | none => return none
  | some account =>
      let supply ← match account.supply with
        | none => .error (.invalid "mint missing supply")
        | some none => .error (.invalid "invalid mint supply")
        | some (some supply) => .ok supply
      let decimals ← match account.decimals with
        | none => .error (.invalid "mint missing decimals")
        | some decimals => .ok decimals
      return some
        { mintAuthority := account.mintAuthority
          freezeAuthority := account.freezeAuthority
          supply
          decimals := decimals.toUInt8
          isInitialized := account.isInitialized.getD false }

/-- RUST: collector/wallet_monitor.rs:1260-1266. The decimals of a mint that is initialized. -/
def verifiedDecimals (info : Except RpcError (Option MintAccountInfo)) : Option UInt8 :=
  match info with
  | .ok (some info) => if info.isInitialized then some info.decimals else none
  | _ => none

/-- The quote that the executor gives for two mints, an amount and a slippage. -/
abbrev QuoteSource := String → String → UInt64 → UInt16 → Except ExecutionError Quote

/-- RUST: collector/token_data.rs:22-28. -/
def Faulting.estimateLiquidityUsd (tradeSizeUsd : Decimal) (priceImpactBps : UInt32) :
    Except Fault Decimal :=
  if priceImpactBps > 0 then do
    let liquidity ← divide (tradeSizeUsd * 10000) (priceImpactBps.toNat : ℚ)
    return roundDp2 liquidity
  else return 0

/-- RUST: collector/token_data.rs:150-200. -/
def fetchMarketSnapshot (checks : OverflowChecks) (executor : QuoteSource) (mint : String)
    (solPriceUsd : Decimal) (solDecimals tokenDecimals : UInt8) (inputAmount : UInt64)
    (slippageBps : UInt16) (now : Time) :
    Except Fault (Except String (Option (MarketSnapshot × UInt32))) :=
  match executor WSOL_MINT mint inputAmount slippageBps with
  | .error e => return .error ("Jupiter quote failed: " ++ e.toText)
  | .ok quote =>
      if quote.outputAmount = 0 ∨ quote.inputAmount = 0 then return .ok none
      else do
        let solSpent ← inUnits checks quote.inputAmount solDecimals
        let tokensReceived ← inUnits checks quote.outputAmount tokenDecimals
        if tokensReceived = 0 then return .ok none
        else
          let priceUsd ← divide (solSpent * solPriceUsd) tokensReceived
          let tradeSizeUsd := solSpent * solPriceUsd
          let liquidityUsd ← Faulting.estimateLiquidityUsd tradeSizeUsd quote.priceImpactBps
          return .ok (some
            ({ mint
               priceUsd
               liquidityUsd
               volume24hUsd := 0
               volatilityPct := 0
               buySellImbalance := 0
               observedAt := now
               receivedAt := now
               slot := none
               priceImpactBps := some quote.priceImpactBps }, quote.priceImpactBps))

/-- RUST: collector/wallet_monitor.rs:1260-1318. The snapshot of a verified mint, if there is one. -/
def verifiedSnapshot (checks : OverflowChecks) (answer : Except RpcError (Option MintAccount))
    (executor : QuoteSource) (mint : String) (solPrice : Decimal) (inputAmount : UInt64)
    (slippageBps : UInt16) (now : Time) : Except Fault (Option (MarketSnapshot × UInt32)) :=
  match verifiedDecimals (mintAccountInfo answer) with
  | none => return none
  | some tokenDecimals => do
      let snapshot ← fetchMarketSnapshot checks executor mint solPrice 9 tokenDecimals inputAmount
        slippageBps now
      return snapshot.toOption.join

end SolanaBot.Model
