import Mathlib.Algebra.BigOperators.Group.List.Basic
import Mathlib.Algebra.Field.Rat
import SolanaBot.Model.Domain

/-!
# Wallet statistics

`smart_money/classifier.rs` and `historical/wallet.rs`: the score of a wallet, and the
statistics of a wallet that are reconstructed from its trades up to a point in time.
The order in which a hash map is walked is a parameter; `none` is a panic.
-/

set_option autoImplicit false

namespace SolanaBot.Model

/-! ## Scores -/

/-- RUST: smart_money/classifier.rs:5-10. -/
structure SmartMoneyThresholds where
  observedTrades : UInt32
  qualifiedTrades : UInt32
  qualifiedScore : Decimal
  highConfidenceScore : Decimal

/-- RUST: smart_money/classifier.rs:11-20. -/
def SmartMoneyThresholds.default : SmartMoneyThresholds :=
  { observedTrades := 5, qualifiedTrades := 25, qualifiedScore := 60, highConfidenceScore := 75 }

/-- RUST: smart_money/classifier.rs:27-39. -/
def walletScore (stats : WalletStats) (t : SmartMoneyThresholds) : Decimal :=
  let sample := min ((stats.trades.toNat : ℚ) / (max t.qualifiedTrades.toNat 1 : ℕ)) 1
  let performance :=
    max (stats.winRate * 25 + min stats.avgReturnPct 30 + min stats.medianReturnPct 20 +
      min stats.recentReturnPct 15) 0
  let penalties :=
    min stats.maxDrawdownPct 30 + max stats.concentrationPct 0 * (1 / 10) +
      max stats.scamExposurePct 0 * (1 / 2)
  min (max (performance - penalties) 0 * sample + min (max stats.realizedPnlUsd 0) 10) 100

/-- RUST: smart_money/classifier.rs:40-48. -/
def walletTier (trades : UInt32) (score : Decimal) (t : SmartMoneyThresholds) : WalletTier :=
  if trades ≥ t.qualifiedTrades ∧ score ≥ t.highConfidenceScore then .highConfidence
  else if trades ≥ t.qualifiedTrades ∧ score ≥ t.qualifiedScore then .qualified
  else if trades ≥ t.observedTrades then .observed
  else .candidate

/-- RUST: smart_money/classifier.rs:21-49. -/
def scoreWallet (stats : WalletStats) (t : SmartMoneyThresholds) : WalletStats :=
  { stats with
    score := walletScore stats t
    tier := walletTier stats.trades (walletScore stats t) t }

/-! ## Reconstruction -/

/-- RUST: historical/wallet.rs:39-48. -/
structure WalletTrade where
  wallet : String
  mint : String
  side : Side
  notionalUsd : Decimal
  blockTime : Time
  signature : String
  slot : Option UInt64
deriving DecidableEq

/-- RUST: historical/wallet.rs:54-73. -/
structure HistoricalWalletStats where
  wallet : String
  trades : UInt32
  realizedPnlUsd : Decimal
  winRate : Decimal
  avgReturnPct : Decimal
  medianReturnPct : Decimal
  maxDrawdownPct : Decimal
  recentReturnPct : Decimal
  concentrationPct : Decimal
  scamExposurePct : Decimal
  score : Decimal
  tier : WalletTier
  updatedAt : Time
  avgWinPct : Option Decimal
  avgLossPct : Option Decimal
  filteredFutureTrades : UInt32
deriving DecidableEq

/-- RUST: historical/wallet.rs:79-98. -/
def HistoricalWalletStats.toWalletStats (w : HistoricalWalletStats) : WalletStats :=
  { wallet := w.wallet, entityId := none, realizedPnlUsd := w.realizedPnlUsd, winRate := w.winRate
    avgReturnPct := w.avgReturnPct, medianReturnPct := w.medianReturnPct
    maxDrawdownPct := w.maxDrawdownPct, trades := w.trades, recentReturnPct := w.recentReturnPct
    concentrationPct := w.concentrationPct, scamExposurePct := w.scamExposurePct, score := w.score
    tier := w.tier, updatedAt := w.updatedAt, avgWinPct := w.avgWinPct
    avgLossPct := w.avgLossPct }

/-- RUST: historical/wallet.rs:388-399. -/
def historicalMedian (values : List Decimal) : Decimal :=
  let sorted := values.mergeSort fun a b => a ≤ b
  let mid := sorted.length / 2
  if sorted.length = 0 then 0
  else if sorted.length % 2 = 1 then sorted.getD mid 0
  else (sorted.getD (mid - 1) 0 + sorted.getD mid 0) / 2

/-- The orders in which the two hash maps by mint are walked. -/
structure HashOrders where
  perMint : List String → List String
  mintPnl : List String → List String

/-- The notionals of one side of a list of trades. RUST: historical/wallet.rs:288-301. -/
def sideNotional (side : Side) (entries : List WalletTrade) : Decimal :=
  ((entries.filter fun t => t.side = side).map WalletTrade.notionalUsd).sum

/-- RUST: historical/wallet.rs:302. -/
def mintPnlValue (entries : List WalletTrade) : Decimal :=
  sideNotional .sell entries - sideNotional .buy entries

/-- RUST: historical/wallet.rs:308-313. The return of a mint that was bought. -/
def mintReturn (entries : List WalletTrade) : Option Decimal :=
  let cost := sideNotional .buy entries
  if cost > 0 then some ((sideNotional .sell entries - cost) / cost * 100) else none

/-- RUST: historical/wallet.rs:330-343. The cumulative profit, its peak and the drawdown. -/
def pnlDrawdownTurn (s : Decimal × Decimal × Decimal) (pnl : Decimal) :
    Decimal × Decimal × Decimal :=
  let cumulative := s.1 + pnl
  let peak := if cumulative > s.2.1 then cumulative else s.2.1
  let dd := peak - cumulative
  (cumulative, peak, if dd > s.2.2 then dd else s.2.2)

/-- RUST: historical/wallet.rs:315-328. `none` where the count of the returns wraps to zero. -/
def averageOf (total : Decimal) (returns : List Decimal) : Option Decimal :=
  if returns = [] then some 0
  else
    let count : ℕ := returns.length % 2 ^ 32
    if count = 0 then none else some (total / (count : ℚ))

/-- RUST: historical/wallet.rs:344-359. A share of the total, capped, and zero without a total. -/
def cappedShare (part total : Decimal) : Decimal :=
  if total > 0 then min (part / total * 100) 100 else 0

/-- RUST: historical/wallet.rs:246-269. A wallet without a trade up to that time. -/
def noTrades (trades : List WalletTrade) (asOf : Time) : HistoricalWalletStats :=
  { wallet := (trades.head?.map WalletTrade.wallet).getD ""
    trades := 0, realizedPnlUsd := 0, winRate := 0, avgReturnPct := 0, medianReturnPct := 0
    maxDrawdownPct := 0, recentReturnPct := 0, concentrationPct := 0, scamExposurePct := 0
    score := 0, tier := .candidate, updatedAt := asOf, avgWinPct := none, avgLossPct := none
    filteredFutureTrades := UInt32.ofNat trades.length }

/-- RUST: historical/wallet.rs:241-386. -/
def reconstructAt (orders : HashOrders) (trades : List WalletTrade) (asOf : Time) :
    Option HistoricalWalletStats :=
  let eligible := trades.filter fun t => t.blockTime ≤ asOf
  match eligible with
  | [] => some (noTrades trades asOf)
  | first :: _ => do
      let mints := (eligible.map WalletTrade.mint).dedup
      let entries := fun mint => eligible.filter fun t => t.mint = mint
      let returns := (orders.perMint mints).filterMap fun m => mintReturn (entries m)
      let totalNotional := (eligible.map WalletTrade.notionalUsd).sum
      let maxMintNotional := (orders.perMint mints).foldl (fun acc m =>
        let notional := sideNotional .buy (entries m) + sideNotional .sell (entries m)
        if notional > acc then notional else acc) 0
      let wins := UInt32.ofNat (returns.countP fun r => r > 0)
      let winRate ← averageOf (wins.toNat : ℚ) returns
      let avgReturn ← averageOf returns.sum returns
      let pnls := (orders.mintPnl mints).map fun m => mintPnlValue (entries m)
      let recentWindow := ((eligible.reverse.take 50).map WalletTrade.notionalUsd).sum
      let stats : HistoricalWalletStats :=
        { wallet := first.wallet
          trades := UInt32.ofNat eligible.length
          realizedPnlUsd := ((orders.perMint mints).map fun m => mintPnlValue (entries m)).sum
          winRate
          avgReturnPct := avgReturn
          medianReturnPct := historicalMedian returns
          maxDrawdownPct := (pnls.foldl pnlDrawdownTurn (0, 0, 0)).2.2
          recentReturnPct := cappedShare recentWindow totalNotional
          concentrationPct := cappedShare maxMintNotional totalNotional
          scamExposurePct := 0
          score := 0
          tier := .candidate
          updatedAt := asOf
          avgWinPct := none
          avgLossPct := none
          filteredFutureTrades := UInt32.ofNat (trades.length - eligible.length) }
      let ws := scoreWallet stats.toWalletStats SmartMoneyThresholds.default
      return { stats with score := ws.score, tier := ws.tier }

/-- What the statistics say about their origin: the time asked for, and the wallet of a trade
unless there is none. -/
theorem reconstructAt_origin {orders : HashOrders} {trades : List WalletTrade} {asOf : Time}
    {w : HistoricalWalletStats} (h : reconstructAt orders trades asOf = some w) :
    w.updatedAt = asOf ∧ (w.trades = 0 ∨ ∃ t ∈ trades, w.wallet = t.wallet) := by
  unfold reconstructAt at h
  dsimp only at h
  split at h
  · cases h
    exact ⟨rfl, .inl rfl⟩
  · rename_i first rest heligible
    have hfirst : first ∈ trades := by
      have hmem : first ∈ trades.filter fun t => t.blockTime ≤ asOf := by
        rw [heligible]
        exact List.mem_cons_self
      exact List.mem_of_mem_filter hmem
    simp only [Option.bind_eq_bind, Option.bind_eq_some_iff, pure, Option.some.injEq] at h
    obtain ⟨winRate, -, avgReturn, -, rfl⟩ := h
    exact ⟨rfl, .inr ⟨first, hfirst, rfl⟩⟩

end SolanaBot.Model
