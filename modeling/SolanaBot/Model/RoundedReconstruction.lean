import SolanaBot.Library.Rounding
import SolanaBot.Model.WalletReconstruction

/-!
# Wallet statistics with rounded arithmetic

A sum whose additions are rounded can depend on the order of its terms. The reconstruction of a wallet and
its score are therefore written out once more, each operation followed by the rounding of its result and
each sum in the order of the source's loops, with the rounding as a parameter.
-/

set_option autoImplicit false

namespace SolanaBot.Model.Rounded

open SolanaBot.Library

variable (round : Decimal → Decimal)

/-! ## Scores -/

/-- RUST: smart_money/classifier.rs:27-39. -/
def walletScore (stats : WalletStats) (t : SmartMoneyThresholds) : Decimal :=
  let sample :=
    min (round ((stats.trades.toNat : ℚ) / (max t.qualifiedTrades.toNat 1 : ℕ))) 1
  let performance :=
    max (round (round (round (round (stats.winRate * 25) + min stats.avgReturnPct 30) +
      min stats.medianReturnPct 20) + min stats.recentReturnPct 15)) 0
  let penalties :=
    round (round (min stats.maxDrawdownPct 30 + round (max stats.concentrationPct 0 * (1 / 10))) +
      round (max stats.scamExposurePct 0 * (1 / 2)))
  min (round (round (max (round (performance - penalties)) 0 * sample) +
    min (max stats.realizedPnlUsd 0) 10)) 100

/-- RUST: smart_money/classifier.rs:21-49. -/
def scoreWallet (stats : WalletStats) (t : SmartMoneyThresholds) : WalletStats :=
  { stats with
    score := walletScore round stats t
    tier := walletTier stats.trades (walletScore round stats t) t }

/-! ## Reconstruction -/

/-- RUST: historical/wallet.rs:388-399. -/
def historicalMedian (values : List Decimal) : Decimal :=
  let sorted := values.mergeSort fun a b => a ≤ b
  let mid := sorted.length / 2
  if sorted.length = 0 then 0
  else if sorted.length % 2 = 1 then sorted.getD mid 0
  else round (round (sorted.getD (mid - 1) 0 + sorted.getD mid 0) / 2)

/-- The notionals of one side of the trades of a mint, added in their order.
RUST: historical/wallet.rs:288-301. -/
def sideNotional (side : Side) (entries : List WalletTrade) : Decimal :=
  roundedSum round ((entries.filter fun t => t.side = side).map WalletTrade.notionalUsd)

/-- RUST: historical/wallet.rs:302. -/
def mintPnlValue (entries : List WalletTrade) : Decimal :=
  round (sideNotional round .sell entries - sideNotional round .buy entries)

/-- RUST: historical/wallet.rs:305-307. -/
def mintNotional (entries : List WalletTrade) : Decimal :=
  round (sideNotional round .buy entries + sideNotional round .sell entries)

/-- RUST: historical/wallet.rs:308-313. -/
def mintReturn (entries : List WalletTrade) : Option Decimal :=
  let cost := sideNotional round .buy entries
  if cost > 0 then
    some (round (round (round (sideNotional round .sell entries - cost) / cost) * 100))
  else none

/-- RUST: historical/wallet.rs:330-343. -/
def pnlDrawdownTurn (s : Decimal × Decimal × Decimal) (pnl : Decimal) :
    Decimal × Decimal × Decimal :=
  let cumulative := round (s.1 + pnl)
  let peak := if cumulative > s.2.1 then cumulative else s.2.1
  let dd := round (peak - cumulative)
  (cumulative, peak, if dd > s.2.2 then dd else s.2.2)

/-- RUST: historical/wallet.rs:315-328. -/
def averageOf (total : Decimal) (returns : List Decimal) : Option Decimal :=
  if returns = [] then some 0
  else
    let count : ℕ := returns.length % 2 ^ 32
    if count = 0 then none else some (round (total / (count : ℚ)))

/-- RUST: historical/wallet.rs:344-359. -/
def cappedShare (part total : Decimal) : Decimal :=
  if total > 0 then min (round (round (part / total) * 100)) 100 else 0

/-- RUST: historical/wallet.rs:241-386. The total notional is added up mint by mint. -/
def reconstructAt (orders : HashOrders) (trades : List WalletTrade) (asOf : Time) :
    Option HistoricalWalletStats :=
  let eligible := trades.filter fun t => t.blockTime ≤ asOf
  match eligible with
  | [] => some (noTrades trades asOf)
  | first :: _ => do
      let mints := (eligible.map WalletTrade.mint).dedup
      let entries := fun mint => eligible.filter fun t => t.mint = mint
      let returns := (orders.perMint mints).filterMap fun m => mintReturn round (entries m)
      let totalNotional := (orders.perMint mints).foldl (fun acc m =>
        (entries m).foldl (fun acc t => round (acc + t.notionalUsd)) acc) 0
      let maxMintNotional := (orders.perMint mints).foldl (fun acc m =>
        let notional := mintNotional round (entries m)
        if notional > acc then notional else acc) 0
      let wins := UInt32.ofNat (returns.countP fun r => r > 0)
      let winRate ← averageOf round (wins.toNat : ℚ) returns
      let avgReturn ← averageOf round (roundedSum round returns) returns
      let pnls := (orders.mintPnl mints).map fun m => mintPnlValue round (entries m)
      let recentWindow :=
        roundedSum round ((eligible.reverse.take 50).map WalletTrade.notionalUsd)
      let stats : HistoricalWalletStats :=
        { wallet := first.wallet
          trades := UInt32.ofNat eligible.length
          realizedPnlUsd :=
            roundedSum round ((orders.perMint mints).map fun m => mintPnlValue round (entries m))
          winRate
          avgReturnPct := avgReturn
          medianReturnPct := historicalMedian round returns
          maxDrawdownPct := (pnls.foldl (pnlDrawdownTurn round) (0, 0, 0)).2.2
          recentReturnPct := cappedShare round recentWindow totalNotional
          concentrationPct := cappedShare round maxMintNotional totalNotional
          scamExposurePct := 0
          score := 0
          tier := .candidate
          updatedAt := asOf
          avgWinPct := none
          avgLossPct := none
          filteredFutureTrades := UInt32.ofNat (trades.length - eligible.length) }
      let ws := scoreWallet round stats.toWalletStats SmartMoneyThresholds.default
      return { stats with score := ws.score, tier := ws.tier }

end SolanaBot.Model.Rounded
