import Mathlib.Algebra.Order.Field.Basic
import Mathlib.Data.List.Perm.Lattice
import Mathlib.Data.List.Dedup
import SolanaBot.Library.Drawdowns
import SolanaBot.Library.Reordering
import SolanaBot.Model.RoundedReconstruction

/-!
# The parts of reconstructed statistics

The statistics of a wallet come from its trades up to a time. Where no sum of notionals is rounded
(`ExactNotionals`) they are made of exact parts, and rounded only where these are divided and multiplied
(`reconstructAt_eq`). Most parts are sums, counts, maxima and a median, which do not depend on any order
(`statsFrom_perm`).

The drawdown runs over the mints in the order of a hash map, and is the same in every order exactly if no
mint made a profit or only one a loss (`drawdown_order_free_iff`). The recent return is that of the last 50
trades of the input, and is the same in every order exactly if the 50 smallest and the 50 greatest trades
have the same share (`sharesAgree_iff`).
-/

set_option autoImplicit false

namespace SolanaBot.Analysis

open SolanaBot.Library SolanaBot.Model

/-- Hash maps are walked in some order of their keys. -/
structure LawfulOrders (orders : HashOrders) : Prop where
  perMint : ∀ keys, (orders.perMint keys).Perm keys
  mintPnl : ∀ keys, (orders.mintPnl keys).Perm keys

/-! ## What the statistics are made of -/

/-- The trades up to a time. -/
def eligibleTrades (trades : List WalletTrade) (asOf : Time) : List WalletTrade :=
  trades.filter fun t => t.blockTime ≤ asOf

/-- The notional of a trade, negative for a purchase. -/
def signedNotional (t : WalletTrade) : Decimal :=
  if t.side = .sell then t.notionalUsd else -t.notionalUsd

section Eligible

variable (eligible : List WalletTrade)

/-- The trades of a mint. -/
def tradesOfMint (mint : String) : List WalletTrade := eligible.filter fun t => t.mint = mint

/-- The mints of the trades. -/
def tradedMints : List String := (eligible.map WalletTrade.mint).dedup

/-- The profit of a mint. -/
def mintProfit (mint : String) : Decimal := mintPnlValue (tradesOfMint eligible mint)

/-- The notional of a mint. -/
def mintNotional (mint : String) : Decimal :=
  sideNotional .buy (tradesOfMint eligible mint) + sideNotional .sell (tradesOfMint eligible mint)

/-- The notional of all trades. -/
def totalNotional : Decimal := (eligible.map WalletTrade.notionalUsd).sum

/-- The notional of the last 50 trades. -/
def recentNotional : Decimal := totalNotional (eligible.reverse.take 50)

variable (orders : HashOrders)

/-- The notional of the dominant mint. -/
def dominantNotional : Decimal :=
  (orders.perMint (tradedMints eligible)).foldl (fun acc mint =>
    if mintNotional eligible mint > acc then mintNotional eligible mint else acc) 0

/-- The drawdown over the mints. -/
def drawdownOf : Decimal :=
  (((orders.mintPnl (tradedMints eligible)).map (mintProfit eligible)).foldl pnlDrawdownTurn
    (0, 0, 0)).2.2

variable (round : Decimal → Decimal)

/-- The rounded return of a mint that was bought. -/
def boughtReturn (mint : String) : Option Decimal :=
  let cost := sideNotional .buy (tradesOfMint eligible mint)
  if cost > 0 then some (round (round (mintProfit eligible mint / cost) * 100)) else none

/-- The returns of the mints that were bought. -/
def returnsOf : List Decimal :=
  (orders.perMint (tradedMints eligible)).filterMap (boughtReturn eligible round)

/-- The statistics from their parts. -/
def statsFrom (wallet : String) (count future : ℕ) (returns : List Decimal)
    (realized drawdown recent concentration : Decimal) (asOf : Time) :
    Option HistoricalWalletStats := do
  let wins := UInt32.ofNat (returns.countP fun r => r > 0)
  let winRate ← Rounded.averageOf round (wins.toNat : ℚ) returns
  let avgReturn ← Rounded.averageOf round (roundedSum round returns) returns
  let stats : HistoricalWalletStats :=
    { wallet
      trades := UInt32.ofNat count
      realizedPnlUsd := realized
      winRate
      avgReturnPct := avgReturn
      medianReturnPct := Rounded.historicalMedian round returns
      maxDrawdownPct := drawdown
      recentReturnPct := recent
      concentrationPct := concentration
      scamExposurePct := 0
      score := 0
      tier := .candidate
      updatedAt := asOf
      avgWinPct := none
      avgLossPct := none
      filteredFutureTrades := UInt32.ofNat future }
  let ws := Rounded.scoreWallet round stats.toWalletStats SmartMoneyThresholds.default
  return { stats with score := ws.score, tier := ws.tier }

end Eligible

/-! ## Exact notionals -/

/-- No sum of notionals is rounded: of some of the trades, as they are, as profits or as losses. -/
structure ExactNotionals (round : Decimal → Decimal) (eligible : List WalletTrade) : Prop where
  notional : ExactSums round WalletTrade.notionalUsd eligible
  profit : ExactSums round signedNotional eligible
  loss : ExactSums round (fun t => -signedNotional t) eligible

/-- The sum of what is negated. -/
theorem sum_neg_map {α : Type} (f : α → Decimal) (l : List α) :
    (l.map fun x => -f x).sum = -(l.map f).sum := by
  rw [List.sum_neg, List.map_map]
  rfl

/-- The profit of some trades: their sales less their purchases. -/
theorem sum_signedNotional (entries : List WalletTrade) :
    (entries.map signedNotional).sum = mintPnlValue entries := by
  unfold mintPnlValue sideNotional
  induction entries with
  | nil => simp
  | cons t entries ih =>
      rw [List.map_cons, List.sum_cons, ih]
      unfold signedNotional
      cases hside : t.side with
      | buy =>
          simp [hside]
          ring
      | sell =>
          simp [hside]
          ring

/-- The notional of some trades: their purchases and their sales. -/
theorem sum_notionalUsd (entries : List WalletTrade) :
    (entries.map WalletTrade.notionalUsd).sum =
      sideNotional .buy entries + sideNotional .sell entries := by
  unfold sideNotional
  induction entries with
  | nil => simp
  | cons t entries ih =>
      rw [List.map_cons, List.sum_cons, ih]
      cases hside : t.side with
      | buy =>
          simp [hside]
          ring
      | sell =>
          simp [hside]
          ring

section Exact

variable {round : Decimal → Decimal} {eligible : List WalletTrade}
  (hexact : ExactNotionals round eligible)
include hexact

/-- The notional of one side is exact. -/
theorem sideNotional_exact (side : Side) (mint : String) :
    Rounded.sideNotional round side (tradesOfMint eligible mint) =
      sideNotional side (tradesOfMint eligible mint) := by
  apply roundedSum_eq_sum
  apply hexact.notional.of_subperm
  exact (List.filter_sublist.trans List.filter_sublist).subperm

/-- The profit of a mint is exact. -/
theorem mintPnlValue_exact (mint : String) :
    Rounded.mintPnlValue round (tradesOfMint eligible mint) = mintProfit eligible mint := by
  have hfixed := hexact.profit (tradesOfMint eligible mint) List.filter_sublist.subperm
  rw [sum_signedNotional] at hfixed
  unfold Rounded.mintPnlValue
  rw [sideNotional_exact hexact, sideNotional_exact hexact]
  exact hfixed

/-- The notional of a mint is exact. -/
theorem mintNotional_exact (mint : String) :
    Rounded.mintNotional round (tradesOfMint eligible mint) = mintNotional eligible mint := by
  have hfixed := hexact.notional (tradesOfMint eligible mint) List.filter_sublist.subperm
  rw [sum_notionalUsd] at hfixed
  unfold Rounded.mintNotional
  rw [sideNotional_exact hexact, sideNotional_exact hexact]
  exact hfixed

/-- The return of a mint is rounded where it is divided and multiplied. -/
theorem mintReturn_exact (mint : String) :
    Rounded.mintReturn round (tradesOfMint eligible mint) = boughtReturn eligible round mint := by
  have hprofit := mintPnlValue_exact hexact mint
  unfold Rounded.mintPnlValue at hprofit
  rw [sideNotional_exact hexact, sideNotional_exact hexact] at hprofit
  unfold Rounded.mintReturn boughtReturn
  rw [sideNotional_exact hexact, sideNotional_exact hexact]
  dsimp only
  rw [hprofit]

omit hexact in
/-- The mints of the trades in some order make up all trades. -/
theorem groups_tradedMints {mints : List String} (h : mints.Perm (tradedMints eligible)) :
    (groups WalletTrade.mint eligible mints).Perm eligible := by
  apply groups_perm (h.nodup_iff.mpr (List.nodup_dedup _))
  intro t ht
  exact h.mem_iff.mpr (List.mem_dedup.mpr (List.mem_map_of_mem ht))

omit hexact in
/-- Some of the mints make up some of the trades. -/
theorem groups_subperm {mints chosen : List String} (h : mints.Perm (tradedMints eligible))
    (hchosen : chosen.Subperm mints) :
    (groups WalletTrade.mint eligible chosen).Subperm eligible := by
  obtain ⟨l, hl, hsub⟩ := hchosen
  obtain ⟨rest, hrest⟩ := hsub.exists_perm_append
  have hall : (chosen ++ rest).Perm (tradedMints eligible) :=
    ((hl.symm.append_right rest).trans hrest.symm).trans h
  have hgroups := groups_tradedMints hall
  rw [groups_append] at hgroups
  exact (List.sublist_append_left _ _).subperm.trans hgroups.subperm

/-- The total notional, added up mint by mint, is exact. -/
theorem totalNotional_exact {mints : List String} (h : mints.Perm (tradedMints eligible)) :
    mints.foldl (fun acc mint =>
        (tradesOfMint eligible mint).foldl (fun acc t => round (acc + t.notionalUsd)) acc) 0 =
      totalNotional eligible := by
  have hgroups := groups_tradedMints h
  have hfold : (groups WalletTrade.mint eligible mints).foldl
      (fun acc t => round (acc + t.notionalUsd)) 0 =
        0 + ((groups WalletTrade.mint eligible mints).map WalletTrade.notionalUsd).sum := by
    apply foldl_round_eq
    intro p hp
    rw [zero_add]
    exact hexact.notional p (hp.sublist.subperm.trans hgroups.subperm)
  rw [zero_add, (hgroups.map WalletTrade.notionalUsd).sum_eq] at hfold
  unfold groups at hfold
  rw [List.foldl_flatMap] at hfold
  exact hfold

omit hexact in
/-- The profit of some mints is the profit of their trades. -/
theorem sum_mintProfit (mints : List String) :
    (mints.map (mintProfit eligible)).sum =
      ((groups WalletTrade.mint eligible mints).map signedNotional).sum := by
  induction mints with
  | nil => rfl
  | cons mint mints ih =>
      rw [groups_cons, List.map_append, List.sum_append, sum_signedNotional, List.map_cons,
        List.sum_cons, ih]
      rfl

/-- The sums of profits are exact. -/
theorem exactSums_mintProfit {mints : List String} (h : mints.Perm (tradedMints eligible)) :
    ExactSums round (mintProfit eligible) mints := by
  intro chosen hchosen
  rw [sum_mintProfit]
  exact hexact.profit _ (groups_subperm h hchosen)

/-- The sums of losses are exact. -/
theorem exactSums_mintLoss {mints : List String} (h : mints.Perm (tradedMints eligible)) :
    ExactSums round (fun mint => -mintProfit eligible mint) mints := by
  intro chosen hchosen
  have hloss := hexact.loss _ (groups_subperm h hchosen)
  rw [sum_neg_map, ← sum_mintProfit] at hloss
  rw [sum_neg_map]
  exact hloss

omit hexact in
/-- Behind some profits the loop has their sum, and as its peak the sum of the first of them. -/
theorem drawdown_state (f : String → Decimal) (mints : List String) :
    ((mints.map f).foldl pnlDrawdownTurn (0, 0, 0)).1 = (mints.map f).sum ∧
      ∃ first rest, mints = first ++ rest ∧
        ((mints.map f).foldl pnlDrawdownTurn (0, 0, 0)).2.1 = (first.map f).sum := by
  induction mints using List.reverseRecOn with
  | nil => exact ⟨rfl, [], [], rfl, rfl⟩
  | append_singleton mints mint ih =>
      obtain ⟨hsum, first, rest, hsplit, hpeak⟩ := ih
      have hnext : ((mints ++ [mint]).map f).sum = (mints.map f).sum + f mint := by
        rw [List.map_append, List.sum_append, List.map_singleton, List.sum_singleton]
      rw [hnext, List.map_append, List.foldl_append]
      generalize (mints.map f).foldl pnlDrawdownTurn (0, 0, 0) = s at hsum hpeak ⊢
      rw [List.map_singleton, List.foldl_cons, List.foldl_nil]
      unfold pnlDrawdownTurn
      dsimp only
      refine ⟨by rw [hsum], ?_⟩
      split
      · refine ⟨mints ++ [mint], [], (List.append_nil _).symm, ?_⟩
        rw [hnext, hsum]
      · refine ⟨first, rest ++ [mint], ?_, hpeak⟩
        rw [hsplit, List.append_assoc]

omit hexact in
/-- A drawdown over profits whose sums are exact is exact. -/
theorem foldl_pnlDrawdownTurn_exact {f : String → Decimal} {mints : List String}
    (hprofit : ExactSums round f mints) (hloss : ExactSums round (fun mint => -f mint) mints) :
    (mints.map f).foldl (Rounded.pnlDrawdownTurn round) (0, 0, 0) =
      (mints.map f).foldl pnlDrawdownTurn (0, 0, 0) := by
  induction mints using List.reverseRecOn with
  | nil => rfl
  | append_singleton mints mint ih =>
      have hpart : mints.Subperm (mints ++ [mint]) := (List.sublist_append_left _ _).subperm
      obtain ⟨hsum, first, rest, hsplit, hpeak⟩ := drawdown_state f mints
      have hnext := hprofit (mints ++ [mint]) (List.Subperm.refl _)
      rw [List.map_append, List.sum_append, List.map_singleton, List.sum_singleton] at hnext
      rw [List.map_append, List.foldl_append, List.foldl_append,
        ih (hprofit.of_subperm hpart) (hloss.of_subperm hpart)]
      generalize (mints.map f).foldl pnlDrawdownTurn (0, 0, 0) = s at hsum hpeak ⊢
      have hcumulative : round (s.1 + f mint) = s.1 + f mint := by
        rw [hsum]
        exact hnext
      have hzero : round (0 : Decimal) = 0 := hprofit [] (List.nil_subperm)
      have hdrop : round (s.2.1 - (s.1 + f mint)) = s.2.1 - (s.1 + f mint) := by
        have hfall := hloss (rest ++ [mint]) (by
          rw [hsplit, List.append_assoc]
          exact (List.sublist_append_right _ _).subperm)
        have hdiff : s.2.1 - (s.1 + f mint) = ((rest ++ [mint]).map fun mint => -f mint).sum := by
          rw [sum_neg_map, hsum, hpeak, hsplit]
          simp only [List.map_append, List.sum_append, List.map_singleton, List.sum_singleton]
          ring
        rw [hdiff]
        exact hfall
      rw [List.map_singleton, List.foldl_cons, List.foldl_nil, List.foldl_cons, List.foldl_nil]
      unfold Rounded.pnlDrawdownTurn pnlDrawdownTurn
      dsimp only
      rw [hcumulative]
      split
      · rw [sub_self, hzero]
      · rw [hdrop]

/-- The drawdown over the mints is exact. -/
theorem drawdown_exact {mints : List String} (h : mints.Perm (tradedMints eligible)) :
    (((mints.map (mintProfit eligible)).foldl (Rounded.pnlDrawdownTurn round) (0, 0, 0)).2.2) =
      ((mints.map (mintProfit eligible)).foldl pnlDrawdownTurn (0, 0, 0)).2.2 := by
  rw [foldl_pnlDrawdownTurn_exact (exactSums_mintProfit hexact h) (exactSums_mintLoss hexact h)]

/-- The notional of the last 50 trades is exact. -/
theorem recentNotional_exact :
    roundedSum round ((eligible.reverse.take 50).map WalletTrade.notionalUsd) =
      recentNotional eligible := by
  apply roundedSum_eq_sum
  apply hexact.notional.of_subperm
  exact (List.take_sublist 50 _).subperm.trans (List.reverse_perm eligible).subperm

end Exact

/-- The reconstruction puts the parts together. -/
theorem reconstructAt_eq {round : Decimal → Decimal} {orders : HashOrders}
    (horders : LawfulOrders orders) {trades : List WalletTrade} {asOf : Time}
    (hexact : ExactNotionals round (eligibleTrades trades asOf)) {first : WalletTrade}
    {rest : List WalletTrade} (h : eligibleTrades trades asOf = first :: rest) :
    Rounded.reconstructAt round orders trades asOf =
      statsFrom round first.wallet (first :: rest).length (trades.length - (first :: rest).length)
        (returnsOf (first :: rest) orders round)
        ((orders.perMint (tradedMints (first :: rest))).map (mintProfit (first :: rest))).sum
        (drawdownOf (first :: rest) orders)
        (Rounded.cappedShare round (recentNotional (first :: rest)) (totalNotional (first :: rest)))
        (Rounded.cappedShare round (dominantNotional (first :: rest) orders)
          (totalNotional (first :: rest)))
        asOf := by
  rw [h] at hexact
  generalize heligible : first :: rest = eligible at h hexact ⊢
  have hreturns : ((orders.perMint (tradedMints eligible)).filterMap fun mint =>
      Rounded.mintReturn round (tradesOfMint eligible mint)) = returnsOf eligible orders round := by
    unfold returnsOf
    congr 1
    funext mint
    exact mintReturn_exact hexact mint
  have hprofits : (fun mint => Rounded.mintPnlValue round (tradesOfMint eligible mint)) =
      mintProfit eligible := by
    funext mint
    exact mintPnlValue_exact hexact mint
  have hdominant : (orders.perMint (tradedMints eligible)).foldl (fun acc mint =>
      if Rounded.mintNotional round (tradesOfMint eligible mint) > acc then
        Rounded.mintNotional round (tradesOfMint eligible mint) else acc) 0 =
        dominantNotional eligible orders := by
    unfold dominantNotional
    simp only [mintNotional_exact hexact]
  have htotal := totalNotional_exact hexact (horders.perMint (tradedMints eligible))
  have hrealized := roundedSum_eq_sum
    (exactSums_mintProfit hexact (horders.perMint (tradedMints eligible)))
  have hdrawdown := drawdown_exact hexact (horders.mintPnl (tradedMints eligible))
  have hrecent := recentNotional_exact hexact
  have hparts : Rounded.reconstructAt round orders trades asOf =
      statsFrom round first.wallet eligible.length (trades.length - eligible.length)
        ((orders.perMint (tradedMints eligible)).filterMap fun mint =>
          Rounded.mintReturn round (tradesOfMint eligible mint))
        (roundedSum round ((orders.perMint (tradedMints eligible)).map fun mint =>
          Rounded.mintPnlValue round (tradesOfMint eligible mint)))
        (((orders.mintPnl (tradedMints eligible)).map fun mint =>
          Rounded.mintPnlValue round (tradesOfMint eligible mint)).foldl
            (Rounded.pnlDrawdownTurn round) (0, 0, 0)).2.2
        (Rounded.cappedShare round
          (roundedSum round ((eligible.reverse.take 50).map WalletTrade.notionalUsd))
          ((orders.perMint (tradedMints eligible)).foldl (fun acc mint =>
            (tradesOfMint eligible mint).foldl (fun acc t => round (acc + t.notionalUsd)) acc) 0))
        (Rounded.cappedShare round
          ((orders.perMint (tradedMints eligible)).foldl (fun acc mint =>
            if Rounded.mintNotional round (tradesOfMint eligible mint) > acc then
              Rounded.mintNotional round (tradesOfMint eligible mint) else acc) 0)
          ((orders.perMint (tradedMints eligible)).foldl (fun acc mint =>
            (tradesOfMint eligible mint).foldl (fun acc t => round (acc + t.notionalUsd)) acc) 0))
        asOf := by
    unfold eligibleTrades at h
    unfold Rounded.reconstructAt
    dsimp only
    rw [h, ← heligible]
    rfl
  rw [hparts, hreturns, hdominant, htotal, hrecent, hprofits, hrealized, hdrawdown]
  rfl

/-! ## Parts that do not depend on the order -/

/-- One side of the trades of a mint adds up the same in every order. -/
theorem sideNotional_perm {entries entries' : List WalletTrade} (h : entries.Perm entries')
    (side : Side) : sideNotional side entries = sideNotional side entries' :=
  ((h.filter _).map _).sum_eq

/-- An average reads the number of the returns. -/
theorem averageOf_perm (round : Decimal → Decimal) {returns returns' : List Decimal}
    (h : returns.Perm returns') (total : Decimal) :
    Rounded.averageOf round total returns = Rounded.averageOf round total returns' := by
  have hnil : returns = [] ↔ returns' = [] := by
    rw [← List.length_eq_zero_iff, ← List.length_eq_zero_iff, h.length_eq]
  unfold Rounded.averageOf
  rw [h.length_eq]
  simp only [hnil]

/-- The values are sorted before one in the middle is taken. -/
theorem historicalMedian_perm (round : Decimal → Decimal) {values values' : List Decimal}
    (h : values.Perm values') :
    Rounded.historicalMedian round values = Rounded.historicalMedian round values' := by
  have hsorted : ∀ l : List Decimal, (l.mergeSort fun a b => a ≤ b).Pairwise (· ≤ ·) := by
    intro l
    have hpairwise := @List.pairwise_mergeSort Decimal (fun a b => decide (a ≤ b))
      (fun a b c hab hbc => decide_eq_true ((of_decide_eq_true hab).trans (of_decide_eq_true hbc)))
      (fun a b => by simpa using le_total a b) l
    exact hpairwise.imp of_decide_eq_true
  have hperm : (values.mergeSort fun a b => a ≤ b).Perm (values'.mergeSort fun a b => a ≤ b) :=
    (List.mergeSort_perm _ _).trans (h.trans (List.mergeSort_perm _ _).symm)
  unfold Rounded.historicalMedian
  rw [hperm.eq_of_pairwise (fun a b _ _ => le_antisymm) (hsorted values) (hsorted values')]

/-- The statistics depend on the returns as a collection, and on their rounded sum. -/
theorem statsFrom_perm {round : Decimal → Decimal} {returns returns' : List Decimal}
    (h : returns.Perm returns') (hsum : roundedSum round returns = roundedSum round returns')
    (wallet : String) (count future : ℕ) (realized drawdown recent concentration : Decimal)
    (asOf : Time) :
    statsFrom round wallet count future returns realized drawdown recent concentration asOf =
      statsFrom round wallet count future returns' realized drawdown recent concentration asOf := by
  unfold statsFrom
  dsimp only
  rw [h.countP_eq, averageOf_perm round h, averageOf_perm round h, hsum,
    historicalMedian_perm round h]

section Permuted

variable {eligible eligible' : List WalletTrade} (h : eligible.Perm eligible')
include h

/-- The same trades are in the same mints. -/
theorem perm_tradedMints : (tradedMints eligible).Perm (tradedMints eligible') :=
  (h.map WalletTrade.mint).dedup

/-- The same trades have the same profits. -/
theorem mintProfit_perm : mintProfit eligible = mintProfit eligible' := by
  funext mint
  have hentries : (tradesOfMint eligible mint).Perm (tradesOfMint eligible' mint) := h.filter _
  unfold mintProfit mintPnlValue
  rw [sideNotional_perm hentries, sideNotional_perm hentries]

/-- The same trades have the same notionals. -/
theorem mintNotional_perm : mintNotional eligible = mintNotional eligible' := by
  funext mint
  have hentries : (tradesOfMint eligible mint).Perm (tradesOfMint eligible' mint) := h.filter _
  unfold mintNotional
  rw [sideNotional_perm hentries, sideNotional_perm hentries]

/-- The same trades have the same notional. -/
theorem totalNotional_perm : totalNotional eligible = totalNotional eligible' := (h.map _).sum_eq

/-- No sum of the same trades is rounded. -/
theorem ExactNotionals.perm {round : Decimal → Decimal} (hexact : ExactNotionals round eligible) :
    ExactNotionals round eligible' where
  notional := hexact.notional.of_subperm h.symm.subperm
  profit := hexact.profit.of_subperm h.symm.subperm
  loss := hexact.loss.of_subperm h.symm.subperm

variable {orders orders' : HashOrders} (horders : LawfulOrders orders)
  (horders' : LawfulOrders orders')
include horders horders'

/-- Both hash maps are walked over the same mints. -/
theorem perm_perMint :
    (orders.perMint (tradedMints eligible)).Perm (orders'.perMint (tradedMints eligible')) :=
  (horders.perMint _).trans ((perm_tradedMints h).trans (horders'.perMint _).symm)

/-- The same trades have the same returns. -/
theorem perm_returnsOf (round : Decimal → Decimal) :
    (returnsOf eligible orders round).Perm (returnsOf eligible' orders' round) := by
  have hreturn : boughtReturn eligible round = boughtReturn eligible' round := by
    funext mint
    have hentries : (tradesOfMint eligible mint).Perm (tradesOfMint eligible' mint) := h.filter _
    unfold boughtReturn
    rw [sideNotional_perm hentries, mintProfit_perm h]
  unfold returnsOf
  rw [hreturn]
  exact (perm_perMint h horders horders').filterMap _

/-- The same trades have the same realized profit. -/
theorem realized_perm :
    ((orders.perMint (tradedMints eligible)).map (mintProfit eligible)).sum =
      ((orders'.perMint (tradedMints eligible')).map (mintProfit eligible')).sum := by
  rw [mintProfit_perm h]
  exact ((perm_perMint h horders horders').map _).sum_eq

/-- The same trades have the same dominant mint. -/
theorem dominantNotional_perm :
    dominantNotional eligible orders = dominantNotional eligible' orders' := by
  have hmax : ∀ e : List WalletTrade, (fun (acc : Decimal) mint =>
      if mintNotional e mint > acc then mintNotional e mint else acc) =
        fun acc mint => max acc (mintNotional e mint) := by
    intro e
    funext acc mint
    exact (max_def_lt acc (mintNotional e mint)).symm
  unfold dominantNotional
  rw [hmax, hmax, mintNotional_perm h]
  have : RightCommutative fun (acc : Decimal) mint => max acc (mintNotional eligible' mint) :=
    ⟨fun acc mint mint' => max_right_comm _ _ _⟩
  exact (perm_perMint h horders horders').foldl_eq 0

end Permuted

/-! ## The drawdown -/

/-- The drawdown is that of the profits. -/
theorem foldl_pnlDrawdownTurn (profits : List Decimal) (cumulative peak worst : Decimal) :
    (profits.foldl pnlDrawdownTurn (cumulative, peak, worst)).2.2 =
      worstDrop (peak - cumulative) worst profits := by
  induction profits generalizing cumulative peak worst with
  | nil => rfl
  | cons profit profits ih =>
      have hpeak : (if cumulative + profit > peak then cumulative + profit else peak) =
          max peak (cumulative + profit) := (max_def_lt _ _).symm
      have hdrop : max peak (cumulative + profit) - (cumulative + profit) =
          dropAfter (peak - cumulative) profit := by
        unfold dropAfter
        rw [← max_sub_sub_right, sub_self, sub_add_eq_sub_sub]
      have hworst : ∀ drop : Decimal, (if drop > worst then drop else worst) = max worst drop :=
        fun drop => (max_def_lt _ _).symm
      have hturn : pnlDrawdownTurn (cumulative, peak, worst) profit =
          (cumulative + profit, max peak (cumulative + profit),
            max worst (dropAfter (peak - cumulative) profit)) := by
        unfold pnlDrawdownTurn
        dsimp only
        rw [hpeak, hdrop, hworst]
      rw [List.foldl_cons, hturn, ih, hdrop]
      rfl

/-- The drawdown over the mints is that of their profits. -/
theorem drawdownOf_eq (eligible : List WalletTrade) (orders : HashOrders) :
    drawdownOf eligible orders =
      worstDrop 0 0 ((orders.mintPnl (tradedMints eligible)).map (mintProfit eligible)) := by
  unfold drawdownOf
  rw [foldl_pnlDrawdownTurn, sub_self]

/-- No mint made a profit, or no more than one a loss. -/
def DrawdownFixed (eligible : List WalletTrade) : Prop :=
  (∀ mint, mintProfit eligible mint ≤ 0) ∨
    ∀ mint mint', mintProfit eligible mint < 0 → mintProfit eligible mint' < 0 → mint = mint'

/-- A mint that is not traded made neither. -/
theorem mem_tradedMints_of_profit {eligible : List WalletTrade} {mint : String}
    (h : mintProfit eligible mint ≠ 0) : mint ∈ tradedMints eligible := by
  by_contra hmem
  have hnone : tradesOfMint eligible mint = [] :=
    List.filter_eq_nil_iff.mpr fun t ht heq =>
      hmem (List.mem_dedup.mpr (List.mem_map.mpr ⟨t, ht, of_decide_eq_true heq⟩))
  refine h ?_
  unfold mintProfit
  rw [hnone]
  exact sub_self 0

/-- The drawdown is the same in every order of the mints exactly if no mint made a profit, or no more than
one a loss. -/
theorem drawdown_order_free_iff (eligible : List WalletTrade) :
    (∀ mints : List String, mints.Perm (tradedMints eligible) →
      worstDrop 0 0 (mints.map (mintProfit eligible)) =
        worstDrop 0 0 ((tradedMints eligible).map (mintProfit eligible))) ↔
      DrawdownFixed eligible := by
  have hnodup : (tradedMints eligible).Nodup := List.nodup_dedup _
  rw [worstDrop_order_free_iff (mintProfit eligible) hnodup]
  refine or_congr ⟨fun h mint => ?_, fun h mint _ => h mint⟩
    ⟨fun h mint mint' hneg hneg' => ?_, fun h mint _ mint' _ => h mint mint'⟩
  · by_contra hpos
    exact hpos (h mint (mem_tradedMints_of_profit (not_le.mp hpos).ne'))
  · exact h mint (mem_tradedMints_of_profit hneg.ne) mint' (mem_tradedMints_of_profit hneg'.ne)
      hneg hneg'

/-! ## The recent return -/

section Recent

variable (eligible : List WalletTrade)

/-- The trades from the smallest to the greatest. -/
def smallestFirst : List WalletTrade :=
  eligible.mergeSort fun t t' => t.notionalUsd ≤ t'.notionalUsd

/-- The trades from the greatest to the smallest. -/
def greatestFirst : List WalletTrade :=
  eligible.mergeSort fun t t' => t'.notionalUsd ≤ t.notionalUsd

/-- The 50 smallest trades and the 50 greatest have the same share of the total. -/
def RecentFixed (round : Decimal → Decimal) : Prop :=
  Rounded.cappedShare round (totalNotional ((smallestFirst eligible).take 50))
      (totalNotional eligible) =
    Rounded.cappedShare round (totalNotional ((greatestFirst eligible).take 50))
      (totalNotional eligible)

variable {eligible}

/-- The trades sorted upwards. -/
theorem smallestFirst_sorted :
    (smallestFirst eligible).Pairwise fun t t' => t.notionalUsd ≤ t'.notionalUsd := by
  have hpairwise := @List.pairwise_mergeSort WalletTrade
    (fun t t' => decide (t.notionalUsd ≤ t'.notionalUsd))
    (fun a b c hab hbc => decide_eq_true ((of_decide_eq_true hab).trans (of_decide_eq_true hbc)))
    (fun a b => by simpa using le_total a.notionalUsd b.notionalUsd) eligible
  exact hpairwise.imp of_decide_eq_true

/-- The trades sorted downwards. -/
theorem greatestFirst_sorted :
    (greatestFirst eligible).Pairwise fun t t' => t'.notionalUsd ≤ t.notionalUsd := by
  have hpairwise := @List.pairwise_mergeSort WalletTrade
    (fun t t' => decide (t'.notionalUsd ≤ t.notionalUsd))
    (fun a b c hab hbc => decide_eq_true ((of_decide_eq_true hbc).trans (of_decide_eq_true hab)))
    (fun a b => by simpa using le_total b.notionalUsd a.notionalUsd) eligible
  exact hpairwise.imp of_decide_eq_true

/-- The last 50 trades have at least the notional of the smallest and at most that of the greatest. -/
theorem recentNotional_bounds {eligible' : List WalletTrade} (h : eligible'.Perm eligible) :
    totalNotional ((smallestFirst eligible).take 50) ≤ recentNotional eligible' ∧
      recentNotional eligible' ≤ totalNotional ((greatestFirst eligible).take 50) := by
  have hsub : (eligible'.reverse.take 50).Subperm eligible :=
    (List.take_sublist 50 _).subperm.trans ((List.reverse_perm eligible').trans h).subperm
  have htake : ∀ sorted : List WalletTrade, sorted.Perm eligible →
      sorted.take (eligible'.reverse.take 50).length = sorted.take 50 := by
    intro sorted hsorted
    rw [List.length_take, List.length_reverse, h.length_eq, ← hsorted.length_eq,
      ← List.take_take, List.take_length]
  have hsmallest : (smallestFirst eligible).Perm eligible := List.mergeSort_perm _ _
  have hgreatest : (greatestFirst eligible).Perm eligible := List.mergeSort_perm _ _
  constructor
  · have hle := sum_take_le_of_sorted smallestFirst_sorted (hsub.trans hsmallest.symm.subperm)
    rw [htake _ hsmallest] at hle
    exact hle
  · have hle := le_sum_take_of_sorted greatestFirst_sorted (hsub.trans hgreatest.symm.subperm)
    rw [htake _ hgreatest] at hle
    exact hle

/-- A share grows with the part. -/
theorem cappedShare_mono (R : Rounding Decimal) (total : Decimal) :
    Monotone fun part => Rounded.cappedShare R.round part total := by
  intro part part' hle
  unfold Rounded.cappedShare
  dsimp only
  split
  · rename_i htotal
    apply min_le_min_right
    apply R.monotone
    apply mul_le_mul_of_nonneg_right _ (by norm_num)
    apply R.monotone
    exact div_le_div_of_nonneg_right hle (le_of_lt htotal)
  · exact le_rfl

/-- The share of the last 50 trades is the same in every order of the trades exactly if the 50 smallest and
the 50 greatest have the same. -/
theorem sharesAgree_iff (R : Rounding Decimal) :
    (∀ eligible' : List WalletTrade, eligible'.Perm eligible →
      Rounded.cappedShare R.round (recentNotional eligible') (totalNotional eligible) =
        Rounded.cappedShare R.round (recentNotional eligible) (totalNotional eligible)) ↔
      RecentFixed eligible R.round := by
  constructor
  · intro h
    have hreversed : ∀ sorted : List WalletTrade, sorted.Perm eligible →
        Rounded.cappedShare R.round (totalNotional (sorted.take 50)) (totalNotional eligible) =
          Rounded.cappedShare R.round (recentNotional eligible) (totalNotional eligible) := by
      intro sorted hsorted
      have hshare := h sorted.reverse ((List.reverse_perm sorted).trans hsorted)
      unfold recentNotional at hshare ⊢
      rwa [List.reverse_reverse] at hshare
    exact (hreversed _ (List.mergeSort_perm _ _)).trans (hreversed _ (List.mergeSort_perm _ _)).symm
  · intro h eligible' hperm
    have hbetween : ∀ e : List WalletTrade, e.Perm eligible →
        Rounded.cappedShare R.round (recentNotional e) (totalNotional eligible) =
          Rounded.cappedShare R.round (totalNotional ((smallestFirst eligible).take 50))
            (totalNotional eligible) := by
      intro e he
      obtain ⟨hlow, hhigh⟩ := recentNotional_bounds he
      apply le_antisymm
      · rw [h]
        exact cappedShare_mono R _ hhigh
      · exact cappedShare_mono R _ hlow
    rw [hbetween eligible' hperm, hbetween eligible (List.Perm.refl _)]

end Recent

end SolanaBot.Analysis
