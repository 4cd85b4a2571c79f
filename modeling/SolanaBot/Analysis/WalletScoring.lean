import Mathlib.Algebra.BigOperators.Group.Finset.Piecewise
import Mathlib.Algebra.Order.BigOperators.Group.Finset
import Mathlib.Tactic.NormNum
import SolanaBot.Analysis.SwapOrder

/-!
# The two scores of a wallet

The live monitor counts the slices of lots that were sold, and the reconstruction of the backtest counts
swaps. There are always fewer slices than swaps (`SliceBound`), so that the statistics at a time agree
only if there is no swap up to it (`statistics_agree_iff`).
-/

set_option autoImplicit false

namespace SolanaBot.Analysis

open SolanaBot.Library SolanaBot.Model

/-! ## Slices -/

/-- A sale completes a trade for each lot that it uses up, and one more if it leaves a part of a lot. -/
theorem sellLots_length (price : Decimal) (time : Time) (queue : List OpenPosition) (amount : Decimal) :
    (sellLots price time queue amount).2.length + (sellLots price time queue amount).1.length ≤
        queue.length + 1 ∧
      ((sellLots price time queue amount).1 = [] →
        (sellLots price time queue amount).2.length ≤ queue.length) := by
  induction queue generalizing amount with
  | nil => exact ⟨Nat.zero_le _, fun _ => Nat.le_refl 0⟩
  | cons front queue ih =>
      unfold sellLots
      split
      · exact ⟨by simp, fun h => absurd h (List.cons_ne_nil _ _)⟩
      split
      · obtain ⟨hbound, hall⟩ := ih amount
        rw [List.length_cons]
        exact ⟨by omega, fun h => (hall h).trans (Nat.le_succ _)⟩
      dsimp only
      split
      · obtain ⟨hbound, hall⟩ := ih (amount - min front.tokensReceived amount)
        dsimp only
        rw [List.length_cons, List.length_cons]
        exact ⟨by omega, fun h => Nat.succ_le_succ (hall h)⟩
      · exact ⟨by simp; omega, fun h => absurd h (List.cons_ne_nil _ _)⟩

/-- The open lots of some mints. -/
def openLots (mints : Finset String) (acc : WalletAccumulator) : ℕ :=
  ∑ m ∈ mints, (acc.openPositions m).length

/-- The lots of one mint are among all open lots. -/
theorem lots_le_openLots {mints : Finset String} {mint : String} (h : mint ∈ mints)
    (acc : WalletAccumulator) : (acc.openPositions mint).length ≤ openLots mints acc :=
  Finset.single_le_sum (f := fun m => (acc.openPositions m).length) (fun _ _ => Nat.zero_le _) h

/-- Other lots for one mint. -/
theorem openLots_update {mints : Finset String} {mint : String} (h : mint ∈ mints)
    (acc acc' : WalletAccumulator) {lots : List OpenPosition}
    (hupdate : acc'.openPositions = Function.update acc.openPositions mint lots) :
    openLots mints acc' + (acc.openPositions mint).length = openLots mints acc + lots.length := by
  have hafter : openLots mints acc' =
      lots.length + ∑ m ∈ mints \ {mint}, (acc.openPositions m).length := by
    unfold openLots
    rw [hupdate, ← Finset.sum_update_of_mem h]
    refine Finset.sum_congr rfl fun m _ => ?_
    by_cases hm : m = mint
    · rw [hm, Function.update_self, Function.update_self]
    · rw [Function.update_of_ne hm, Function.update_of_ne hm]
  have hbefore : openLots mints acc =
      (acc.openPositions mint).length + ∑ m ∈ mints \ {mint}, (acc.openPositions m).length := by
    unfold openLots
    rw [← Finset.sum_update_of_mem h, Function.update_eq_self]
  omega

/-- There are fewer slices than swaps: every swap leaves a lot, or completes at most as many trades as it
uses up lots. -/
structure SliceBound (mints : Finset String) (acc : WalletAccumulator) (swaps : ℕ) : Prop where
  slices : acc.completedTrades.length + openLots mints acc ≤ swaps
  fewer : openLots mints acc = 0 → swaps ≠ 0 → acc.completedTrades.length < swaps

/-- A new accumulator is within the bound. -/
theorem sliceBound_new (mints : Finset String) : SliceBound mints .new 0 where
  slices := by
    have hnone : openLots mints .new = 0 := Finset.sum_eq_zero fun _ _ => rfl
    rw [hnone]
    rfl
  fewer _ h := absurd rfl h

/-- One swap more allows one slice more. -/
theorem sliceBound_swapTurn {mints : Finset String} {acc : WalletAccumulator} {n : ℕ}
    (h : SliceBound mints acc n) {s : TimedSwap} (hs : s.1.tradedMint ∈ mints) :
    SliceBound mints (swapTurn acc s) (n + 1) := by
  have hslices := h.slices
  cases hdir : s.1.direction with
  | buy =>
      rw [swapTurn_buy hdir]
      have hlots := openLots_update hs (swapCounted acc s) (bought (swapCounted acc s) s) rfl
      have hsame : openLots mints (swapCounted acc s) = openLots mints acc := rfl
      rw [List.length_append, List.length_singleton, hsame] at hlots
      have htrades : (bought (swapCounted acc s) s).completedTrades = acc.completedTrades := rfl
      refine ⟨?_, fun hnone => ?_⟩
      · rw [htrades]
        omega
      · omega
  | sell =>
      by_cases hnone : s.1.inputLeg ≤ 0
      · rw [swapTurn_unmatched hdir (.inr hnone)]
        have hlots : openLots mints (unmatchedSale (swapCounted acc s)) = openLots mints acc := rfl
        have htrades : (unmatchedSale (swapCounted acc s)).completedTrades = acc.completedTrades := rfl
        refine ⟨?_, fun _ _ => ?_⟩
        · rw [htrades, hlots]
          omega
        · rw [htrades]
          omega
      · obtain ⟨hbound, hall⟩ := sellLots_length (s.1.outputLeg / s.1.inputLeg)
          (s.1.timestamp s.2.fallback) (acc.openPositions s.1.tradedMint) s.1.inputLeg
        rw [swapTurn_sell hdir]
        unfold WalletAccumulator.recordSell
        rw [if_neg hnone]
        dsimp only
        rw [unmatchedSale_openPositions, swapCounted_openPositions]
        set sold := sellLots (s.1.outputLeg / s.1.inputLeg) (s.1.timestamp s.2.fallback)
          (acc.openPositions s.1.tradedMint) s.1.inputLeg
        set acc' : WalletAccumulator :=
          { unmatchedSale (swapCounted acc s) with
            openPositions := Function.update acc.openPositions s.1.tradedMint sold.1
            completedTrades := (unmatchedSale (swapCounted acc s)).completedTrades ++ sold.2 }
        have hlots := openLots_update hs acc acc' rfl
        have htrades : acc'.completedTrades.length = acc.completedTrades.length + sold.2.length :=
          List.length_append
        refine ⟨by omega, fun hempty _ => ?_⟩
        have hqueue : sold.1.length ≤ openLots mints acc' := by
          have hle := lots_le_openLots hs acc'
          rwa [show acc'.openPositions s.1.tradedMint = sold.1 from Function.update_self _ _ _] at hle
        have hused := hall (List.eq_nil_of_length_eq_zero (by omega))
        omega

/-- Swaps allow as many slices more. -/
theorem sliceBound_foldl {mints : Finset String} {swaps : List TimedSwap}
    (hmints : ∀ s ∈ swaps, s.1.tradedMint ∈ mints) {acc : WalletAccumulator} {n : ℕ}
    (h : SliceBound mints acc n) : SliceBound mints (swaps.foldl swapTurn acc) (n + swaps.length) := by
  induction swaps generalizing acc n with
  | nil => exact h
  | cons s swaps ih =>
      obtain ⟨hs, hswaps⟩ := List.forall_mem_cons.mp hmints
      have hrest := ih hswaps (sliceBound_swapTurn h hs)
      rwa [Nat.add_assoc, Nat.add_comm 1] at hrest

/-- Swaps complete fewer trades than there are swaps. -/
theorem completedTrades_lt {swaps : List TimedSwap} (h : swaps ≠ []) :
    (swapFeed swaps).completedTrades.length < swaps.length := by
  let mints := (swaps.map fun s => s.1.tradedMint).toFinset
  have hmints : ∀ s ∈ swaps, s.1.tradedMint ∈ mints := fun s hs =>
    List.mem_toFinset.mpr (List.mem_map_of_mem hs)
  have hbound := sliceBound_foldl hmints (sliceBound_new mints)
  rw [Nat.zero_add] at hbound
  change SliceBound mints (swapFeed swaps) swaps.length at hbound
  have hslices := hbound.slices
  by_cases hlots : openLots mints (swapFeed swaps) = 0
  · exact hbound.fewer hlots fun hzero => h (List.eq_nil_of_length_eq_zero hzero)
  · omega

/-! ## Trades up to a time -/

/-- The time at which a swap is counted. -/
def swapTime (s : TimedSwap) : Time := s.1.timestamp s.2.fallback

/-- The trades of a sale end at its time. -/
theorem sellLots_exitTime {price : Decimal} {time : Time} {queue : List OpenPosition} {amount : Decimal} :
    ∀ trade ∈ (sellLots price time queue amount).2, trade.exitTime = time := by
  induction queue generalizing amount with
  | nil => exact fun trade htrade => absurd htrade List.not_mem_nil
  | cons front queue ih =>
      unfold sellLots
      split
      · exact fun trade htrade => absurd htrade List.not_mem_nil
      split
      · exact ih
      dsimp only
      split
      · exact List.forall_mem_cons.mpr ⟨rfl, ih⟩
      · exact List.forall_mem_singleton.mpr rfl

/-- A swap completes trades at its own time. -/
theorem swapTurn_completedTrades (acc : WalletAccumulator) (s : TimedSwap) :
    ∃ sold, (swapTurn acc s).completedTrades = acc.completedTrades ++ sold ∧
      ∀ trade ∈ sold, trade.exitTime = swapTime s := by
  cases hdir : s.1.direction with
  | buy =>
      rw [swapTurn_buy hdir]
      exact ⟨[], (List.append_nil _).symm, fun _ htrade => absurd htrade List.not_mem_nil⟩
  | sell =>
      rw [swapTurn_sell hdir]
      unfold WalletAccumulator.recordSell
      split
      · exact ⟨[], (List.append_nil _).symm, fun _ htrade => absurd htrade List.not_mem_nil⟩
      · exact ⟨_, rfl, sellLots_exitTime⟩

/-- How many trades are completed up to a time. -/
def doneBy (t : Time) (acc : WalletAccumulator) : ℕ :=
  acc.completedTrades.countP fun trade => trade.exitTime ≤ t

/-- Swaps after a time change no trade up to it. -/
theorem doneBy_foldl {t : Time} {swaps : List TimedSwap} (h : ∀ s ∈ swaps, t < swapTime s)
    (acc : WalletAccumulator) : doneBy t (swaps.foldl swapTurn acc) = doneBy t acc := by
  induction swaps generalizing acc with
  | nil => rfl
  | cons s swaps ih =>
      obtain ⟨hs, hswaps⟩ := List.forall_mem_cons.mp h
      rw [List.foldl_cons, ih hswaps]
      obtain ⟨sold, hsold, hexit⟩ := swapTurn_completedTrades acc s
      have hlate : sold.countP (fun trade => trade.exitTime ≤ t) = 0 := by
        refine List.countP_eq_zero.mpr fun trade htrade => ?_
        rw [hexit trade htrade]
        simpa using hs
      unfold doneBy
      rw [hsold, List.countP_append, hlate, Nat.add_zero]

/-- Chronological swaps are those up to a time, and then those after it. -/
theorem chronological_split {swaps : List TimedSwap} (h : swaps.Pairwise fun a b => swapTime a ≤ swapTime b)
    (t : Time) : ∃ before after, swaps = before ++ after ∧ (∀ s ∈ before, swapTime s ≤ t) ∧
      ∀ s ∈ after, t < swapTime s := by
  induction swaps with
  | nil => exact ⟨[], [], rfl, List.forall_mem_nil _, List.forall_mem_nil _⟩
  | cons s swaps ih =>
      obtain ⟨hs, hswaps⟩ := List.pairwise_cons.mp h
      by_cases htime : swapTime s ≤ t
      · obtain ⟨before, after, rfl, hbefore, hafter⟩ := ih hswaps
        exact ⟨s :: before, after, rfl, List.forall_mem_cons.mpr ⟨htime, hbefore⟩, hafter⟩
      · have hlate := not_le.mp htime
        exact ⟨[], s :: swaps, rfl, List.forall_mem_nil _,
          List.forall_mem_cons.mpr ⟨hlate, fun s' hs' => hlate.trans_le (hs s' hs')⟩⟩

/-- How many swaps there are up to a time. -/
def swapsBy (t : Time) (swaps : List TimedSwap) : ℕ := swaps.countP fun s => swapTime s ≤ t

/-- If there is a swap up to a time, then fewer trades than swaps are completed by then. -/
theorem doneBy_lt {swaps : List TimedSwap} (h : swaps.Pairwise fun a b => swapTime a ≤ swapTime b)
    {t : Time} {s : TimedSwap} (hs : s ∈ swaps) (htime : swapTime s ≤ t) :
    doneBy t (swapFeed swaps) < swapsBy t swaps := by
  obtain ⟨before, after, rfl, hbefore, hafter⟩ := chronological_split h t
  have hsome : before ≠ [] := by
    rintro rfl
    exact absurd (hafter s hs) (not_lt.mpr htime)
  have hswaps : swapsBy t (before ++ after) = before.length := by
    unfold swapsBy
    rw [List.countP_append, List.countP_eq_length.mpr (by simpa using hbefore),
      List.countP_eq_zero.mpr (by simpa using hafter), Nat.add_zero]
  have hdone : doneBy t (swapFeed (before ++ after)) = doneBy t (swapFeed before) := by
    unfold swapFeed
    rw [List.foldl_append, doneBy_foldl hafter]
  rw [hswaps, hdone]
  exact List.countP_le_length.trans_lt (completedTrades_lt hsome)

/-! ## The two statistics -/

/-- The swaps of a wallet between SOL and tokens, from the oldest. -/
structure SwapHistory (wallet : String) where
  swaps : List TimedSwap
  ofWallet : ∀ s ∈ swaps, s.1.wallet = wallet
  solSwaps : ∀ s ∈ swaps,
    (s.1.direction = .buy ∧ s.1.inputMint = WSOL_MINT ∧ s.1.outputMint ≠ WSOL_MINT) ∨
      (s.1.direction = .sell ∧ s.1.outputMint = WSOL_MINT ∧ s.1.inputMint ≠ WSOL_MINT)
  chronological : swaps.Pairwise fun a b => swapTime a ≤ swapTime b

/-- A swap as a trade of the reconstruction, valued at a price of SOL. -/
def historicalTrade (price : Decimal) (s : TimedSwap) : WalletTrade :=
  { wallet := s.1.wallet
    mint := s.1.tradedMint
    side := s.1.side
    notionalUsd := s.1.notional price
    blockTime := swapTime s
    signature := s.1.signature
    slot := some s.1.slot }

/-- The live statistics of swaps at a time. -/
def liveStats (wallet : String) (swaps : List TimedSwap) (t : Time) : WalletStats :=
  scoreWallet ((swapFeed swaps).buildStats wallet t) SmartMoneyThresholds.default

/-- The statistics agree in what they are compared by. -/
structure SameScores (live : WalletStats) (past : HistoricalWalletStats) : Prop where
  trades : live.trades = past.trades
  winRate : live.winRate = past.winRate
  medianReturnPct : live.medianReturnPct = past.medianReturnPct
  maxDrawdownPct : live.maxDrawdownPct = past.maxDrawdownPct
  score : live.score = past.score
  tier : live.tier = past.tier

/-- The live statistics of swaps at a time are those of the reconstruction. -/
def StatsAgree (orders : HashOrders) (wallet : String) (price : Decimal) (swaps : List TimedSwap)
    (t : Time) : Prop :=
  ∃ past, reconstructAt orders (swaps.map (historicalTrade price)) t = some past ∧
    SameScores (liveStats wallet swaps t) past

/-- The trades up to a time are those that are done. -/
theorem tradesBy_length (acc : WalletAccumulator) (t : Time) :
    (acc.tradesBy t).length = doneBy t acc := by
  unfold WalletAccumulator.tradesBy doneBy
  rw [List.length_mergeSort, List.countP_eq_length_filter]

/-- The live statistics count the trades completed up to the time. -/
theorem liveStats_trades (wallet : String) (swaps : List TimedSwap) (t : Time) :
    (liveStats wallet swaps t).trades = UInt32.ofNat (doneBy t (swapFeed swaps)) := by
  rw [← tradesBy_length]
  change ((swapFeed swaps).buildStats wallet t).trades = _
  unfold WalletAccumulator.buildStats
  dsimp only
  split
  · rename_i hnone
    exact hnone.symm
  · rfl

/-- The reconstruction counts the swaps up to the time. -/
theorem reconstructAt_trades {orders : HashOrders} {price : Decimal} {swaps : List TimedSwap}
    {t : Time} {past : HistoricalWalletStats}
    (h : reconstructAt orders (swaps.map (historicalTrade price)) t = some past) :
    past.trades = UInt32.ofNat (swapsBy t swaps) := by
  have hcount : swapsBy t swaps =
      ((swaps.map (historicalTrade price)).filter fun trade => trade.blockTime ≤ t).length := by
    rw [← List.countP_eq_length_filter, List.countP_map]
    rfl
  rw [hcount]
  unfold reconstructAt at h
  dsimp only at h
  split at h
  · rename_i hnone
    cases h
    rw [hnone]
    rfl
  · simp only [Option.bind_eq_bind, Option.bind_eq_some_iff, pure, Option.some.injEq] at h
    obtain ⟨winRate, -, avgReturn, -, rfl⟩ := h
    rfl

/-- Without a swap up to the time, both statistics are empty. -/
theorem statsAgree_of_later {orders : HashOrders} {wallet : String} {price : Decimal}
    {swaps : List TimedSwap} {t : Time} (h : ∀ s ∈ swaps, t < swapTime s) :
    StatsAgree orders wallet price swaps t := by
  have hnone : (swaps.map (historicalTrade price)).filter (fun trade => trade.blockTime ≤ t) = [] := by
    refine List.filter_eq_nil_iff.mpr fun trade htrade => ?_
    obtain ⟨s, hs, rfl⟩ := List.mem_map.mp htrade
    exact Bool.eq_false_iff.mp (decide_eq_false (not_le.mpr (h s hs)))
  have hpast : reconstructAt orders (swaps.map (historicalTrade price)) t =
      some (noTrades (swaps.map (historicalTrade price)) t) := by
    unfold reconstructAt
    dsimp only
    rw [hnone]
  have hlive : liveStats wallet swaps t =
      scoreWallet (emptyStats wallet t) SmartMoneyThresholds.default := by
    have hdone : ((swapFeed swaps).tradesBy t).length = 0 :=
      (tradesBy_length _ _).trans (doneBy_foldl h .new)
    have hzero : UInt32.ofNat ((swapFeed swaps).tradesBy t).length = 0 := by
      rw [hdone]
      rfl
    unfold liveStats WalletAccumulator.buildStats
    dsimp only
    rw [if_pos hzero]
  have hscore : walletScore (emptyStats wallet t) SmartMoneyThresholds.default = 0 := by
    norm_num [walletScore, emptyStats, SmartMoneyThresholds.default]
  have htier : walletTier 0 0 SmartMoneyThresholds.default = .candidate := by decide +kernel
  refine ⟨_, hpast, ?_⟩
  rw [hlive]
  exact
    { trades := rfl
      winRate := rfl
      medianReturnPct := rfl
      maxDrawdownPct := rfl
      score := hscore
      tier := (congrArg (fun score => walletTier 0 score SmartMoneyThresholds.default) hscore).trans htier }

/-- The statistics agree if there is no swap up to the time, and for as many swaps as the counts can
hold only then. -/
theorem statistics_agree_iff (orders : HashOrders) (wallet : String) (price : Decimal)
    (history : SwapHistory wallet) (t : Time) :
    ((∀ s ∈ history.swaps, t < swapTime s) → StatsAgree orders wallet price history.swaps t) ∧
      (swapsBy t history.swaps < 2 ^ 32 → StatsAgree orders wallet price history.swaps t →
        ∀ s ∈ history.swaps, t < swapTime s) := by
  refine ⟨statsAgree_of_later, fun hcounts hagree s hs => not_le.mp fun htime => ?_⟩
  obtain ⟨past, hpast, hsame⟩ := hagree
  have hfewer := doneBy_lt history.chronological hs htime
  have htrades := hsame.trades
  rw [liveStats_trades, reconstructAt_trades hpast] at htrades
  have hnat := congrArg UInt32.toNat htrades
  rw [UInt32.toNat_ofNat', UInt32.toNat_ofNat', Nat.mod_eq_of_lt (hfewer.trans hcounts),
    Nat.mod_eq_of_lt hcounts] at hnat
  exact absurd hnat hfewer.ne

section BoughtAndSold

/-- A purchase of a token with one SOL, and the sale of all of it for two. -/
def boughtAndSold : List TimedSwap :=
  [(⟨"wallet", WSOL_MINT, "mint", 1000000000, 1000000, 9, 6, .buy, 0, "raydium", 1, 60, "first"⟩, ⟨0, 0⟩),
    (⟨"wallet", "mint", WSOL_MINT, 1000000, 2000000000, 6, 9, .sell, 0, "raydium", 2, 120, "second"⟩,
      ⟨0, 0⟩)]

/-- The history of one purchase and one sale. -/
def boughtAndSoldHistory : SwapHistory "wallet" where
  swaps := boughtAndSold
  ofWallet := by decide +kernel
  solSwaps := by decide +kernel
  chronological := by decide +kernel

/-- A purchase and its sale are one trade for the live bot, and two for the reconstruction. -/
theorem round_trip_counted_twice : ¬ ∀ (orders : HashOrders) (wallet : String) (price : Decimal)
    (history : SwapHistory wallet) (t : Time), StatsAgree orders wallet price history.swaps t := by
  intro h
  obtain ⟨past, hpast, hsame⟩ := h ⟨id, id⟩ "wallet" 150 boughtAndSoldHistory (seconds 180)
  have htrades := hsame.trades
  rw [liveStats_trades, reconstructAt_trades hpast] at htrades
  exact absurd htrades (by decide +kernel)

end BoughtAndSold

end SolanaBot.Analysis
