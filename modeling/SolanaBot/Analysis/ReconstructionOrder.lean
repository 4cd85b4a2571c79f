import SolanaBot.Analysis.ReconstructedParts
import SolanaBot.Model.DecimalText

/-!
# Reconstructed statistics and the order of the trades

The statistics of a wallet are the same for every order of its trades and of the hash maps only if their
drawdown and their recent return are, or in the odd case that the number of bought mints wraps around to
zero, where no order gives any (`orderInvariant_iff`). This is enough where the sum of the returns does not
depend on their order either: two returns have the same rounded sum in both, three may not
(`statistics_depend_on_order`).
-/

set_option autoImplicit false

namespace SolanaBot.Analysis

open SolanaBot.Library SolanaBot.Model

/-- The number of mints that were bought. -/
def boughtMints (eligible : List WalletTrade) : ℕ :=
  (tradedMints eligible).countP fun mint => 0 < sideNotional .buy (tradesOfMint eligible mint)

/-- The number of bought mints wraps around to zero in 32 bits, so that the average stops. -/
def CountWraps (eligible : List WalletTrade) : Prop :=
  boughtMints eligible ≠ 0 ∧ boughtMints eligible % 2 ^ 32 = 0

/-- No more than two mints were bought, or no sum of their rounded returns is rounded. -/
def ReturnsSettled (round : Decimal → Decimal) (eligible : List WalletTrade) : Prop :=
  boughtMints eligible ≤ 2 ∨
    ExactSums round id ((tradedMints eligible).filterMap (boughtReturn eligible round))

section Returns

variable {round : Decimal → Decimal} {eligible : List WalletTrade} {orders : HashOrders}

/-- The returns are those of the mints that were bought. -/
theorem length_returnsOf (horders : LawfulOrders orders) :
    (returnsOf eligible orders round).length = boughtMints eligible := by
  have hbought : ∀ mint, (boughtReturn eligible round mint).isSome =
      decide (0 < sideNotional .buy (tradesOfMint eligible mint)) := by
    intro mint
    unfold boughtReturn
    by_cases hcost : 0 < sideNotional .buy (tradesOfMint eligible mint)
    · rw [if_pos hcost, decide_eq_true hcost]
      rfl
    · rw [if_neg hcost, decide_eq_false hcost]
      rfl
  unfold returnsOf boughtMints
  rw [List.length_filterMap_eq_countP, (horders.perMint _).countP_eq]
  simp only [hbought]

/-- A return is rounded already. -/
theorem round_returnsOf (R : Rounding Decimal) :
    ∀ r ∈ returnsOf eligible orders R.round, R.round r = r := by
  intro r hr
  obtain ⟨mint, -, hmint⟩ := List.mem_filterMap.mp hr
  unfold boughtReturn at hmint
  dsimp only at hmint
  split at hmint
  · rw [← Option.some.inj hmint]
    exact R.idempotent _
  · cases hmint

/-- Returns that are settled have the same rounded sum in every order. -/
theorem roundedSum_returnsOf (R : Rounding Decimal) (hsettled : ReturnsSettled R.round eligible)
    (horders : LawfulOrders orders) {returns : List Decimal}
    (h : (returnsOf eligible orders R.round).Perm returns) :
    roundedSum R.round (returnsOf eligible orders R.round) = roundedSum R.round returns := by
  apply roundedSum_perm h
  rcases hsettled with hfew | hexact
  · left
    rw [length_returnsOf horders]
    exact ⟨hfew, round_returnsOf R⟩
  · right
    apply hexact.of_subperm
    exact ((horders.perMint _).filterMap _).subperm

end Returns

/-- An average exists unless its count wraps around. -/
theorem averageOf_eq_none_iff (round : Decimal → Decimal) (total : Decimal)
    (returns : List Decimal) :
    Rounded.averageOf round total returns = none ↔
      returns.length ≠ 0 ∧ returns.length % 2 ^ 32 = 0 := by
  unfold Rounded.averageOf
  by_cases hnil : returns = []
  · simp [hnil]
  · have hlength : returns.length ≠ 0 := mt List.length_eq_zero_iff.mp hnil
    rw [if_neg hnil]
    simp [hnil]

section Parts

variable {round : Decimal → Decimal} {returns : List Decimal} {wallet : String}
  {count future : ℕ} {realized drawdown recent concentration : Decimal} {asOf : Time}

/-- Where the count wraps around there are no statistics. -/
theorem statsFrom_eq_none (h : returns.length ≠ 0 ∧ returns.length % 2 ^ 32 = 0) :
    statsFrom round wallet count future returns realized drawdown recent concentration asOf =
      none := by
  have hnone := (averageOf_eq_none_iff round
    ((UInt32.ofNat (returns.countP fun r => r > 0)).toNat : ℚ) returns).mpr h
  unfold statsFrom
  dsimp only
  rw [hnone]
  rfl

/-- Elsewhere they have the drawdown and the recent return that they are made of. -/
theorem statsFrom_eq_some (h : ¬ (returns.length ≠ 0 ∧ returns.length % 2 ^ 32 = 0)) :
    ∃ w, statsFrom round wallet count future returns realized drawdown recent concentration asOf =
        some w ∧
      w.maxDrawdownPct = drawdown ∧ w.recentReturnPct = recent := by
  obtain ⟨winRate, hwinRate⟩ := Option.ne_none_iff_exists'.mp (mt (averageOf_eq_none_iff round
    ((UInt32.ofNat (returns.countP fun r => r > 0)).toNat : ℚ) returns).mp h)
  obtain ⟨average, haverage⟩ := Option.ne_none_iff_exists'.mp
    (mt (averageOf_eq_none_iff round (roundedSum round returns) returns).mp h)
  unfold statsFrom
  dsimp only
  rw [hwinRate, haverage]
  exact ⟨_, rfl, rfl, rfl⟩

end Parts

/-- Without an eligible trade the statistics say so. -/
theorem reconstructAt_nil (round : Decimal → Decimal) (orders : HashOrders)
    {trades : List WalletTrade} {asOf : Time} (h : eligibleTrades trades asOf = []) :
    Rounded.reconstructAt round orders trades asOf = some (noTrades trades asOf) := by
  unfold eligibleTrades at h
  unfold Rounded.reconstructAt
  dsimp only
  rw [h]

/-- What the statistics say about the drawdown and the recent return. -/
theorem reconstructAt_fields {round : Decimal → Decimal} {orders : HashOrders}
    (horders : LawfulOrders orders) {trades : List WalletTrade} {asOf : Time}
    (hexact : ExactNotionals round (eligibleTrades trades asOf))
    (hne : eligibleTrades trades asOf ≠ []) (hcount : ¬ CountWraps (eligibleTrades trades asOf)) :
    ∃ w, Rounded.reconstructAt round orders trades asOf = some w ∧
      w.maxDrawdownPct = drawdownOf (eligibleTrades trades asOf) orders ∧
      w.recentReturnPct = Rounded.cappedShare round (recentNotional (eligibleTrades trades asOf))
        (totalNotional (eligibleTrades trades asOf)) := by
  obtain ⟨first, rest, heligible⟩ := List.exists_cons_of_ne_nil hne
  rw [reconstructAt_eq horders hexact heligible]
  unfold CountWraps at hcount
  rw [heligible] at hcount ⊢
  rw [← length_returnsOf horders] at hcount
  exact statsFrom_eq_some hcount

/-- The statistics are the same in every order of the trades and of the hash maps. -/
def OrderInvariant (round : Decimal → Decimal) (trades : List WalletTrade) (asOf : Time) : Prop :=
  ∀ trades' : List WalletTrade, trades'.Perm trades → ∀ orders orders', LawfulOrders orders →
    LawfulOrders orders' →
      Rounded.reconstructAt round orders trades' asOf =
        Rounded.reconstructAt round orders' trades asOf

/-- The trades of one wallet. -/
def OneWallet (trades : List WalletTrade) : Prop :=
  ∀ t ∈ trades, ∀ t' ∈ trades, t.wallet = t'.wallet

section Invariance

variable {trades : List WalletTrade} {asOf : Time}

/-- No trade, no difference. -/
theorem noTrades_perm (hone : OneWallet trades) {trades' : List WalletTrade}
    (hperm : trades'.Perm trades) : noTrades trades' asOf = noTrades trades asOf := by
  have hwallet : trades'.head?.map WalletTrade.wallet = trades.head?.map WalletTrade.wallet := by
    cases htrades' : trades' with
    | nil =>
        rw [htrades'] at hperm
        rw [hperm.nil_eq]
    | cons t' rest' =>
        cases htrades : trades with
        | nil =>
            rw [htrades, htrades'] at hperm
            exact absurd hperm.length_eq (Nat.succ_ne_zero _)
        | cons t rest =>
            rw [htrades, htrades'] at hperm
            rw [htrades] at hone
            have hsame := hone t' (hperm.mem_iff.mp List.mem_cons_self) t List.mem_cons_self
            rw [List.head?_cons, List.head?_cons, Option.map_some, Option.map_some, hsame]
  unfold noTrades
  rw [hwallet, hperm.length_eq]

/-- The conditions are enough, where the returns are settled. -/
theorem orderInvariant_of_fixed (R : Rounding Decimal) (hone : OneWallet trades)
    (hexact : ExactNotionals R.round (eligibleTrades trades asOf))
    (hsettled : ReturnsSettled R.round (eligibleTrades trades asOf))
    (h : CountWraps (eligibleTrades trades asOf) ∨
      (DrawdownFixed (eligibleTrades trades asOf) ∧
        RecentFixed (eligibleTrades trades asOf) R.round)) :
    OrderInvariant R.round trades asOf := by
  intro trades' hperm orders orders' horders horders'
  have heligible : (eligibleTrades trades' asOf).Perm (eligibleTrades trades asOf) := hperm.filter _
  have hexact' := hexact.perm heligible.symm
  cases hfirst : eligibleTrades trades asOf with
  | nil =>
      rw [hfirst] at heligible
      rw [reconstructAt_nil R.round orders heligible.eq_nil,
        reconstructAt_nil R.round orders' hfirst, noTrades_perm hone hperm]
  | cons first rest =>
      have hne : eligibleTrades trades' asOf ≠ [] := by
        intro hnil
        rw [hnil, hfirst] at heligible
        exact absurd heligible.length_eq.symm (Nat.succ_ne_zero _)
      obtain ⟨first', rest', hfirst'⟩ := List.exists_cons_of_ne_nil hne
      rw [reconstructAt_eq horders hexact' hfirst', reconstructAt_eq horders' hexact hfirst]
      rw [hfirst] at h hsettled
      rw [hfirst, hfirst'] at heligible
      have hmem : ∀ t ∈ first :: rest, t ∈ trades := by
        intro t ht
        exact List.mem_of_mem_filter (hfirst ▸ ht : t ∈ eligibleTrades trades asOf)
      have hwallet : first'.wallet = first.wallet :=
        hone _ (hmem _ (heligible.mem_iff.mp List.mem_cons_self)) _ (hmem _ List.mem_cons_self)
      have hreturns := perm_returnsOf heligible horders horders' R.round
      rcases h with hwraps | ⟨hdrawdown, hrecent⟩
      · have hnone := hwraps
        unfold CountWraps at hnone
        rw [← length_returnsOf horders'] at hnone
        rw [statsFrom_eq_none hnone]
        rw [← hreturns.length_eq] at hnone
        exact statsFrom_eq_none hnone
      · have hdrawdowns : drawdownOf (first' :: rest') orders =
            drawdownOf (first :: rest) orders' := by
          have hfree := (drawdown_order_free_iff _).mpr hdrawdown
          rw [drawdownOf_eq, drawdownOf_eq, mintProfit_perm heligible,
            hfree _ ((horders.mintPnl _).trans (perm_tradedMints heligible)),
            hfree _ (horders'.mintPnl _)]
        have hshare := (sharesAgree_iff R).mpr hrecent _ heligible
        have hsum := roundedSum_returnsOf R hsettled horders' hreturns.symm
        rw [hwallet, hperm.length_eq, heligible.length_eq, totalNotional_perm heligible,
          realized_perm heligible horders horders', hdrawdowns, hshare,
          dominantNotional_perm heligible horders horders']
        exact statsFrom_perm hreturns hsum.symm _ _ _ _ _ _ _ _

/-- The hash maps in a given order of the mints. -/
def mapsIn (eligible : List WalletTrade) (mints : List String) : HashOrders :=
  { perMint := fun keys => if keys = tradedMints eligible then mints else keys
    mintPnl := fun keys => if keys = tradedMints eligible then mints else keys }

/-- A given order of the mints is one of the hash maps. -/
theorem mapsIn_lawful {eligible : List WalletTrade} {mints : List String}
    (h : mints.Perm (tradedMints eligible)) : LawfulOrders (mapsIn eligible mints) := by
  have hperm : ∀ keys : List String,
      (if keys = tradedMints eligible then mints else keys).Perm keys := by
    intro keys
    split
    · rename_i hkeys
      rw [hkeys]
      exact h
    · exact List.Perm.refl _
  exact ⟨hperm, hperm⟩

variable {round : Decimal → Decimal}
  (hexact : ExactNotionals round (eligibleTrades trades asOf))
include hexact

/-- Statistics that are the same in every order have the same drawdown in every order. -/
theorem drawdownFixed_of_orderInvariant (h : OrderInvariant round trades asOf)
    (hcount : ¬ CountWraps (eligibleTrades trades asOf)) :
    DrawdownFixed (eligibleTrades trades asOf) := by
  by_cases hne : eligibleTrades trades asOf = []
  · rw [hne]
    exact .inl fun mint => le_of_eq (sub_self 0)
  · refine (drawdown_order_free_iff _).mp ?_
    intro mints hmints
    have hlawful := mapsIn_lawful hmints
    have hlisted := mapsIn_lawful (List.Perm.refl (tradedMints (eligibleTrades trades asOf)))
    obtain ⟨w, hw, hdrawdown, -⟩ := reconstructAt_fields hlawful hexact hne hcount
    obtain ⟨w', hw', hdrawdown', -⟩ := reconstructAt_fields hlisted hexact hne hcount
    have hsame := h trades (List.Perm.refl _) _ _ hlawful hlisted
    cases hw.symm.trans (hsame.trans hw')
    rw [hdrawdown, drawdownOf_eq, drawdownOf_eq] at hdrawdown'
    unfold mapsIn at hdrawdown'
    dsimp only at hdrawdown'
    rwa [if_pos rfl, if_pos rfl] at hdrawdown'

omit hexact in
/-- Some order of the trades has the eligible ones in a given order. -/
theorem exists_trades {eligible' : List WalletTrade}
    (h : eligible'.Perm (eligibleTrades trades asOf)) :
    ∃ trades' : List WalletTrade, trades'.Perm trades ∧ eligibleTrades trades' asOf = eligible' := by
  have hsplit := List.filter_append_perm (fun t : WalletTrade => decide (t.blockTime ≤ asOf)) trades
  refine ⟨_, (h.append_right _).trans hsplit, ?_⟩
  have hall : ∀ t ∈ eligible', decide (t.blockTime ≤ asOf) = true := by
    intro t ht
    exact (List.mem_filter.mp (h.mem_iff.mp ht)).2
  have hnone : ∀ t ∈ trades.filter (fun t => !decide (t.blockTime ≤ asOf)),
      ¬ decide (t.blockTime ≤ asOf) = true := by
    intro t ht
    simpa using (List.mem_filter.mp ht).2
  unfold eligibleTrades
  rw [List.filter_append, List.filter_eq_self.mpr hall, List.filter_eq_nil_iff.mpr hnone,
    List.append_nil]

omit hexact in
/-- The number of bought mints does not depend on the order. -/
theorem boughtMints_perm {eligible eligible' : List WalletTrade} (h : eligible.Perm eligible') :
    boughtMints eligible = boughtMints eligible' := by
  have horders := mapsIn_lawful (List.Perm.refl (tradedMints eligible))
  rw [← length_returnsOf horders,
    ← length_returnsOf horders]
  exact (perm_returnsOf h horders horders id).length_eq

end Invariance

/-- Statistics that are the same in every order have the same recent return in every order. -/
theorem recentFixed_of_orderInvariant (R : Rounding Decimal) {trades : List WalletTrade}
    {asOf : Time} (hexact : ExactNotionals R.round (eligibleTrades trades asOf))
    (h : OrderInvariant R.round trades asOf) (hcount : ¬ CountWraps (eligibleTrades trades asOf)) :
    RecentFixed (eligibleTrades trades asOf) R.round := by
  by_cases hne : eligibleTrades trades asOf = []
  · rw [hne]
    exact rfl
  · refine (sharesAgree_iff R).mp ?_
    intro eligible' heligible
    obtain ⟨trades', hperm, rfl⟩ := exists_trades heligible
    have hlawful := mapsIn_lawful (List.Perm.refl (tradedMints (eligibleTrades trades asOf)))
    have hne' : eligibleTrades trades' asOf ≠ [] := by
      intro hnil
      rw [hnil] at heligible
      exact hne heligible.nil_eq.symm
    have hcount' : ¬ CountWraps (eligibleTrades trades' asOf) := by
      unfold CountWraps at hcount ⊢
      rwa [boughtMints_perm heligible]
    obtain ⟨w, hw, -, hrecent⟩ := reconstructAt_fields hlawful hexact hne hcount
    obtain ⟨w', hw', -, hrecent'⟩ :=
      reconstructAt_fields hlawful (hexact.perm heligible.symm) hne' hcount'
    have hsame := h trades' hperm _ _ hlawful hlawful
    cases hw'.symm.trans (hsame.trans hw)
    rw [hrecent, totalNotional_perm heligible] at hrecent'
    exact hrecent'.symm

/-- **Order of the trades.** Where no sum of notionals is rounded, the statistics of one wallet are the same
in every order of its trades and of the hash maps only if no mint made a profit or only one a loss, and the
50 smallest and the 50 greatest trades have the same share; or the count of the bought mints wraps around.
With two bought mints, or returns whose sums are not rounded, this is enough. -/
theorem orderInvariant_iff (R : Rounding Decimal) {trades : List WalletTrade}
    (hone : OneWallet trades) (asOf : Time)
    (hexact : ExactNotionals R.round (eligibleTrades trades asOf)) :
    (OrderInvariant R.round trades asOf → CountWraps (eligibleTrades trades asOf) ∨
      (DrawdownFixed (eligibleTrades trades asOf) ∧
        RecentFixed (eligibleTrades trades asOf) R.round)) ∧
    (ReturnsSettled R.round (eligibleTrades trades asOf) →
      CountWraps (eligibleTrades trades asOf) ∨
        (DrawdownFixed (eligibleTrades trades asOf) ∧
          RecentFixed (eligibleTrades trades asOf) R.round) →
      OrderInvariant R.round trades asOf) := by
  constructor
  · intro h
    by_cases hcount : CountWraps (eligibleTrades trades asOf)
    · exact .inl hcount
    · exact .inr ⟨drawdownFixed_of_orderInvariant hexact h hcount,
        recentFixed_of_orderInvariant R hexact h hcount⟩
  · intro hsettled h
    exact orderInvariant_of_fixed R hone hexact hsettled h

/-! ## Exact arithmetic and decimals -/

/-- In exact arithmetic the rounded reconstruction is that of the exact model. -/
theorem reconstructAt_exact {orders : HashOrders} (horders : LawfulOrders orders)
    (trades : List WalletTrade) (asOf : Time) :
    Rounded.reconstructAt id orders trades asOf = reconstructAt orders trades asOf := by
  have hexact : ExactNotionals id (eligibleTrades trades asOf) :=
    ⟨fun _ _ => rfl, fun _ _ => rfl, fun _ _ => rfl⟩
  cases heligible : eligibleTrades trades asOf with
  | nil =>
      rw [reconstructAt_nil id orders heligible]
      unfold eligibleTrades at heligible
      unfold reconstructAt
      dsimp only
      rw [heligible]
  | cons first rest =>
      rw [reconstructAt_eq horders hexact heligible]
      have hsum := @roundedSum_eq_sum _ _ _ id id (returnsOf (first :: rest) orders id) fun _ _ => rfl
      rw [List.map_id] at hsum
      unfold statsFrom
      rw [hsum]
      unfold eligibleTrades at heligible
      unfold reconstructAt
      dsimp only
      rw [heligible]
      rfl

/-- Notionals at one scale, whose mantissas sum to 96 bits, have exact sums. -/
theorem exactNotionals_of_scale {eligible : List WalletTrade} {s : ℕ} (hs : s ≤ 28)
    (m : WalletTrade → ℤ) (hm : ∀ t ∈ eligible, t.notionalUsd = (m t : ℚ) / 10 ^ s)
    (hsum : (eligible.map fun t => |m t|).sum < 2 ^ 96) :
    ExactNotionals decimalRounding.round eligible where
  notional := exactSums_decimalRound hs m hm hsum
  profit := by
    apply exactSums_decimalRound hs (fun t => if t.side = .sell then m t else -m t)
    · intro t ht
      unfold signedNotional
      split
      · exact hm t ht
      · rw [hm t ht]
        push_cast
        ring
    · simpa only [apply_ite abs, abs_neg, ite_self] using hsum
  loss := by
    apply exactSums_decimalRound hs (fun t => if t.side = .sell then -m t else m t)
    · intro t ht
      unfold signedNotional
      split
      · rw [hm t ht]
        push_cast
        ring
      · rw [hm t ht, neg_neg]
    · simpa only [apply_ite abs, abs_neg, ite_self] using hsum

/-- Up to 50 trades are all recent ones. -/
theorem recentFixed_of_few (round : Decimal → Decimal) {eligible : List WalletTrade}
    (h : eligible.length ≤ 50) : RecentFixed eligible round := by
  have hall : ∀ sorted : List WalletTrade, sorted.Perm eligible →
      totalNotional (sorted.take 50) = totalNotional eligible := by
    intro sorted hsorted
    rw [List.take_of_length_le (hsorted.length_eq.trans_le h)]
    exact totalNotional_perm hsorted
  unfold RecentFixed
  rw [hall (smallestFirst eligible) (List.mergeSort_perm _ _),
    hall (greatestFirst eligible) (List.mergeSort_perm _ _)]

/-! ## Sample trades -/

/-- A trade of the sample wallet. -/
def sampleTradeOf (mint : String) (side : Side) (notionalUsd : Decimal) : WalletTrade :=
  { wallet := "w", mint, side, notionalUsd, blockTime := 0, signature := mint, slot := none }

/-- A gain in one mint, and losses in two others. -/
def mixedTrades : List WalletTrade :=
  [sampleTradeOf "a" .buy 10, sampleTradeOf "b" .sell 5, sampleTradeOf "c" .buy 10]

/-- Two gains and a loss. -/
def gainingTrades : List WalletTrade :=
  [sampleTradeOf "a" .buy 10, sampleTradeOf "b" .buy 3, sampleTradeOf "b" .sell 5,
    sampleTradeOf "c" .sell 1]

/-- Returns of a third, of seven times and of four times and a third. -/
def thirdTrades : List WalletTrade :=
  [sampleTradeOf "a" .buy 9, sampleTradeOf "a" .sell 12, sampleTradeOf "b" .buy 3,
    sampleTradeOf "b" .sell 24, sampleTradeOf "c" .buy 3, sampleTradeOf "c" .sell 16]

/-- Notionals without a fraction have exact sums. -/
theorem exactNotionals_of_whole {eligible : List WalletTrade}
    (hwhole : ∀ t ∈ eligible, t.notionalUsd = (t.notionalUsd.num : ℚ))
    (hsum : (eligible.map fun t => |t.notionalUsd.num|).sum < 2 ^ 96) :
    ExactNotionals decimalRounding.round eligible := by
  apply exactNotionals_of_scale (Nat.zero_le 28) (fun t => t.notionalUsd.num) _ hsum
  intro t ht
  rw [pow_zero, div_one]
  exact hwhole t ht

/-- The statistics of the gains are the same in every order, and those of the losses are not. -/
theorem orderInvariant_iff_sample :
    OrderInvariant decimalRounding.round gainingTrades 0 ∧
      ¬ OrderInvariant decimalRounding.round mixedTrades 0 := by
  have hgaining : eligibleTrades gainingTrades 0 = gainingTrades := by decide +kernel
  have hmixed : eligibleTrades mixedTrades 0 = mixedTrades := by decide +kernel
  constructor
  · have hone : OneWallet gainingTrades := by
      unfold OneWallet gainingTrades sampleTradeOf
      simp
    have hexact : ExactNotionals decimalRounding.round (eligibleTrades gainingTrades 0) := by
      rw [hgaining]
      exact exactNotionals_of_whole (by decide +kernel) (by decide +kernel)
    have hsettled : ReturnsSettled decimalRounding.round (eligibleTrades gainingTrades 0) := by
      rw [hgaining]
      exact .inl (by decide +kernel)
    refine (orderInvariant_iff decimalRounding hone 0 hexact).2 hsettled (.inr ⟨.inr ?_, ?_⟩)
    · have hlosing : ∀ mint ∈ tradedMints gainingTrades,
          mintProfit gainingTrades mint < 0 → mint = "a" := by
        decide +kernel
      rw [hgaining]
      intro mint mint' hneg hneg'
      rw [hlosing mint (mem_tradedMints_of_profit hneg.ne) hneg,
        hlosing mint' (mem_tradedMints_of_profit hneg'.ne) hneg']
    · rw [hgaining]
      exact recentFixed_of_few _ (by decide)
  · have hone : OneWallet mixedTrades := by
      unfold OneWallet mixedTrades sampleTradeOf
      simp
    have hexact : ExactNotionals decimalRounding.round (eligibleTrades mixedTrades 0) := by
      rw [hmixed]
      exact exactNotionals_of_whole (by decide +kernel) (by decide +kernel)
    intro h
    have hfixed := (orderInvariant_iff decimalRounding hone 0 hexact).1 h
    rw [hmixed] at hfixed
    rcases hfixed with ⟨-, hcount⟩ | ⟨hgains | hlosses, -⟩
    · exact absurd hcount (by decide +kernel)
    · exact absurd (hgains "b") (by decide +kernel)
    · exact absurd (hlosses "a" "c" (by decide +kernel) (by decide +kernel)) (by decide)

/-- With the gain between the losses the drawdown is smaller; and three returns of which two are rounded
have another average in another order. -/
theorem statistics_depend_on_order :
    (Rounded.reconstructAt decimalRounding.round (mapsIn mixedTrades ["a", "b", "c"]) mixedTrades
        0).map HistoricalWalletStats.maxDrawdownPct = some 15 ∧
      (Rounded.reconstructAt decimalRounding.round (mapsIn mixedTrades ["b", "a", "c"]) mixedTrades
        0).map HistoricalWalletStats.maxDrawdownPct = some 20 ∧
      (Rounded.reconstructAt decimalRounding.round (mapsIn thirdTrades ["a", "b", "c"]) thirdTrades
        0).map HistoricalWalletStats.avgReturnPct =
          some (3888888888888888888888888889 / 10 ^ 25) ∧
      (Rounded.reconstructAt decimalRounding.round (mapsIn thirdTrades ["b", "c", "a"]) thirdTrades
        0).map HistoricalWalletStats.avgReturnPct =
          some (38888888888888888888888888887 / 10 ^ 26) ∧
      ¬ ∀ trades asOf, OneWallet trades → OrderInvariant decimalRounding.round trades asOf := by
  have hbetween : (Rounded.reconstructAt decimalRounding.round (mapsIn mixedTrades ["a", "b", "c"])
      mixedTrades 0).map HistoricalWalletStats.maxDrawdownPct = some 15 := by
    decide +kernel
  have hfirst : (Rounded.reconstructAt decimalRounding.round (mapsIn mixedTrades ["b", "a", "c"])
      mixedTrades 0).map HistoricalWalletStats.maxDrawdownPct = some 20 := by
    decide +kernel
  refine ⟨hbetween, hfirst, by decide +kernel, by decide +kernel, ?_⟩
  intro h
  have hone : OneWallet mixedTrades := by
    unfold OneWallet mixedTrades sampleTradeOf
    simp
  have hmints : tradedMints mixedTrades = ["a", "b", "c"] := by decide +kernel
  have hsame := h mixedTrades 0 hone mixedTrades (List.Perm.refl _)
    (mapsIn mixedTrades ["a", "b", "c"]) (mapsIn mixedTrades ["b", "a", "c"])
    (mapsIn_lawful (hmints ▸ List.Perm.refl _)) (mapsIn_lawful (hmints ▸ List.Perm.swap _ _ _))
  rw [hsame, hfirst] at hbetween
  exact absurd hbetween (by decide)

end SolanaBot.Analysis
