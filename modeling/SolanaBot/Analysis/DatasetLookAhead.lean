import Mathlib.Tactic.Linarith
import SolanaBot.Analysis.BuiltRecords
import SolanaBot.Library.Peaks
import SolanaBot.Library.Slots

/-!
# Look-ahead in the dataset

A trading history and the candles that a provider makes of it: a candle is stamped with the
start of its slot and sums up the trades of the slot. The pipeline picks the last candle that
is not stamped after the signal. If the slot of the signal has a trade this is the candle of
that slot, which is still open (`pickEntryCandle_open`), so a trade after the signal changes
the close that the record takes for the market price (`built_looks_ahead`).
-/

set_option autoImplicit false

namespace SolanaBot.Analysis

open SolanaBot.Library SolanaBot.Model

/-! ## Trading and candles -/

/-- One trade on the market of a token. -/
structure MarketTrade where
  time : Time
  priceUsd : Decimal
  volumeUsd : Decimal
deriving DecidableEq

/-- The trading of a token, in chronological order and at positive prices. -/
structure TradingHistory where
  trades : List MarketTrade
  chronological : trades.Pairwise fun a b => a.time ≤ b.time
  priced : ∀ t ∈ trades, 0 < t.priceUsd

/-- The width of a candle. -/
def candleWidth (interval : OhlcvInterval) : Time := seconds interval.seconds

/-- A candle has a width. -/
theorem candleWidth_pos (interval : OhlcvInterval) : 0 < candleWidth interval := by
  cases interval <;> decide

/-- The candle of the trades of a slot, which is stamped with the start of the slot. -/
def candleOf (stamp : Time) (trades : List MarketTrade) : OhlcvCandle :=
  let prices := trades.map MarketTrade.priceUsd
  { timestamp := stamp
    openUsd := prices.head?.getD 0
    highUsd := prices.foldl max (prices.head?.getD 0)
    lowUsd := prices.foldl min (prices.head?.getD 0)
    closeUsd := prices.getLast?.getD 0
    volumeUsd := some (trades.map MarketTrade.volumeUsd).sum
    liquidityUsd := none }

section Candles

variable (interval : OhlcvInterval)

/-- The slots with trades. -/
def stamps (trades : List MarketTrade) : List Time :=
  slots MarketTrade.time (candleWidth interval) trades

/-- The candle of one slot. -/
def candleAt (trades : List MarketTrade) (stamp : Time) : OhlcvCandle :=
  candleOf stamp (slotEvents MarketTrade.time (candleWidth interval) trades stamp)

/-- The candle of priced trades is well formed. -/
theorem candleOf_wellFormed {stamp : Time} {trades : List MarketTrade} (hne : trades ≠ [])
    (hpriced : ∀ t ∈ trades, 0 < t.priceUsd) : (candleOf stamp trades).WellFormed := by
  obtain ⟨first, rest, rfl⟩ := List.exists_cons_of_ne_nil hne
  have hprices : ∀ p ∈ (first :: rest).map MarketTrade.priceUsd, 0 < p := by
    intro p hp
    obtain ⟨t, ht, rfl⟩ := List.mem_map.mp hp
    exact hpriced t ht
  have hopen : 0 < first.priceUsd := hpriced first List.mem_cons_self
  exact
    { open_pos := hopen
      high_pos := hopen.trans_le (start_le_peak _ _)
      low_pos := lt_trough_iff.mpr ⟨hopen, hprices⟩
      close_pos := by
        have hlast : (candleOf stamp (first :: rest)).closeUsd ∈
            (first :: rest).map MarketTrade.priceUsd := by
          change (((first :: rest).map MarketTrade.priceUsd).getLast?).getD 0 ∈ _
          rw [List.getLast?_eq_some_getLast (by simp)]
          exact List.getLast_mem _
        exact hprices _ hlast
      low_le_high := (trough_le_start _ _).trans (start_le_peak _ _)
      liquidity_nonneg := by
        rintro liquidity ⟨⟩ }

/-- The candles of a history, one for each slot with trades. -/
def candlesOf (h : TradingHistory) : CandleSeries where
  candles := (stamps interval h.trades).map (candleAt interval h.trades)
  wellFormed := by
    intro c hc
    obtain ⟨s, hs, rfl⟩ := List.mem_map.mp hc
    obtain ⟨t, ht, hslot⟩ := mem_slots.mp hs
    refine candleOf_wellFormed ?_ fun t ht => h.priced t (List.mem_of_mem_filter ht)
    exact List.ne_nil_of_mem (List.mem_filter.mpr ⟨ht, decide_eq_true hslot⟩)
  ascending := by
    rw [List.pairwise_map]
    exact (slots_ascend (candleWidth_pos interval) h.chronological).imp le_of_lt

/-! ## The entry candle -/

variable {interval} {h : TradingHistory} {signalTimestamp : Time}

/-- The entry candle is the candle of the last slot that does not begin after the signal. -/
theorem pickEntryCandle_candlesOf :
    pickEntryCandle (candlesOf interval h).candles signalTimestamp =
      ((stamps interval h.trades).reverse.find? fun s => s ≤ signalTimestamp).map
        (candleAt interval h.trades) := by
  unfold pickEntryCandle candlesOf
  rw [← List.map_reverse, List.find?_map]
  rfl

/-- A trade in the slot of the signal makes the candle of this slot the entry candle. -/
theorem pickEntryCandle_of_trade {t : MarketTrade} (ht : t ∈ h.trades)
    (hslot : slotOf (candleWidth interval) t.time =
      slotOf (candleWidth interval) signalTimestamp) :
    pickEntryCandle (candlesOf interval h).candles signalTimestamp =
      some (candleAt interval h.trades (slotOf (candleWidth interval) signalTimestamp)) := by
  have hpos := candleWidth_pos interval
  have hlast : ((stamps interval h.trades).reverse.find? fun s => s ≤ signalTimestamp) =
      some (slotOf (candleWidth interval) signalTimestamp) := by
    refine reverse_find?_eq_some (slots_ascend hpos h.chronological)
      (mem_slots.mpr ⟨t, ht, hslot⟩) (decide_eq_true (slotOf_le hpos signalTimestamp)) ?_
    intro y hy hle
    obtain ⟨u, -, rfl⟩ := mem_slots.mp hy
    have hle' := slotOf_mono hpos (of_decide_eq_true hle)
    rwa [slotOf_slotOf hpos] at hle'
  rw [pickEntryCandle_candlesOf, hlast, Option.map_some]

/-- **The entry candle is still open at the signal exactly if its slot has a trade.** -/
theorem pickEntryCandle_open {c : OhlcvCandle}
    (hc : pickEntryCandle (candlesOf interval h).candles signalTimestamp = some c) :
    signalTimestamp < c.timestamp + candleWidth interval ↔
      ∃ t ∈ h.trades, slotOf (candleWidth interval) t.time =
        slotOf (candleWidth interval) signalTimestamp := by
  have hpos := candleWidth_pos interval
  constructor
  · intro hopen
    rw [pickEntryCandle_candlesOf, Option.map_eq_some_iff] at hc
    obtain ⟨s, hs, rfl⟩ := hc
    have hle : s ≤ signalTimestamp :=
      of_decide_eq_true (List.find?_some (p := fun s => decide (s ≤ signalTimestamp)) hs)
    obtain ⟨t, ht, rfl⟩ := mem_slots.mp (List.mem_reverse.mp (List.mem_of_find?_eq_some hs))
    refine ⟨t, ht, ?_⟩
    by_contra hne
    have hlt : slotOf (candleWidth interval) t.time <
        slotOf (candleWidth interval) signalTimestamp := by
      have hmono := slotOf_mono hpos hle
      rw [slotOf_slotOf hpos] at hmono
      exact lt_of_le_of_ne hmono hne
    have hclosed := (slotOf_add_le hpos hlt).trans (slotOf_le hpos signalTimestamp)
    exact absurd hopen (not_lt.mpr hclosed)
  · rintro ⟨t, ht, hslot⟩
    rw [pickEntryCandle_of_trade ht hslot, Option.some.injEq] at hc
    rw [← hc]
    exact lt_slotOf_add hpos signalTimestamp

/-! ## A trade after the signal -/

/-- The history with one more trade at the signal and nothing else in the rest of its slot. -/
def tradedAt (interval : OhlcvInterval) (h : TradingHistory) (signalTimestamp : Time)
    (price : Decimal) (hprice : 0 < price) : TradingHistory where
  trades := h.trades.filter (fun t => t.time < signalTimestamp) ++
    { time := signalTimestamp, priceUsd := price, volumeUsd := 0 } ::
      eventsFrom MarketTrade.time (candleWidth interval) signalTimestamp h.trades
  chronological := by
    have hend := lt_slotOf_add (candleWidth_pos interval) signalTimestamp
    have hlate : ∀ t ∈ eventsFrom MarketTrade.time (candleWidth interval) signalTimestamp h.trades,
        signalTimestamp ≤ t.time := fun t ht =>
      hend.le.trans (of_decide_eq_true (List.mem_filter.mp ht).2)
    refine List.pairwise_append.mpr ⟨h.chronological.filter _,
      List.pairwise_cons.mpr ⟨hlate, h.chronological.filter _⟩, fun a ha c hc => ?_⟩
    have hbefore : a.time < signalTimestamp := of_decide_eq_true (List.mem_filter.mp ha).2
    rcases List.mem_cons.mp hc with rfl | hc
    · exact hbefore.le
    · exact hbefore.le.trans (hlate c hc)
  priced := by
    intro t ht
    rcases List.mem_append.mp ht with ht | ht
    · exact h.priced t (List.mem_of_mem_filter ht)
    · rcases List.mem_cons.mp ht with rfl | ht
      · exact hprice
      · exact h.priced t (List.mem_of_mem_filter ht)

/-- The two histories agree on all trading strictly before a time. -/
def AgreeBefore (signalTimestamp : Time) (h h' : TradingHistory) : Prop :=
  h.trades.filter (fun t => t.time < signalTimestamp) =
    h'.trades.filter fun t => t.time < signalTimestamp

section Traded

variable {price : Decimal} (hprice : 0 < price)

/-- A trade at the signal or later leaves the history before it. -/
theorem tradedAt_agrees :
    AgreeBefore signalTimestamp h (tradedAt interval h signalTimestamp price hprice) := by
  have hlate : (eventsFrom MarketTrade.time (candleWidth interval) signalTimestamp
      h.trades).filter (fun t => t.time < signalTimestamp) = [] := by
    rw [List.filter_eq_nil_iff]
    intro t ht
    have hend := lt_slotOf_add (candleWidth_pos interval) signalTimestamp
    have hle := hend.trans_le (of_decide_eq_true (List.mem_filter.mp ht).2)
    simpa using hle.le
  unfold AgreeBefore tradedAt
  rw [List.filter_append, List.filter_filter, List.filter_cons_of_neg (by simp), hlate,
    List.append_nil]
  simp only [Bool.and_self]

/-- Behind the slot of the signal nothing has changed. -/
theorem tradedAt_eventsFrom :
    eventsFrom MarketTrade.time (candleWidth interval) signalTimestamp
        (tradedAt interval h signalTimestamp price hprice).trades =
      eventsFrom MarketTrade.time (candleWidth interval) signalTimestamp h.trades := by
  have hend := lt_slotOf_add (candleWidth_pos interval) signalTimestamp
  have hbefore : eventsFrom MarketTrade.time (candleWidth interval) signalTimestamp
      (h.trades.filter fun t => t.time < signalTimestamp) = [] := by
    unfold eventsFrom
    rw [List.filter_eq_nil_iff]
    intro t ht
    have hlt : t.time < signalTimestamp := of_decide_eq_true (List.mem_filter.mp ht).2
    simpa using hlt.trans hend
  unfold eventsFrom at hbefore ⊢
  unfold tradedAt eventsFrom
  rw [List.filter_append, hbefore, List.nil_append, List.filter_cons_of_neg (by simpa using hend),
    List.filter_filter]
  simp only [Bool.and_self]

/-- The candle of the slot closes at the new price. -/
theorem tradedAt_close :
    (candleAt interval (tradedAt interval h signalTimestamp price hprice).trades
      (slotOf (candleWidth interval) signalTimestamp)).closeUsd = price := by
  have hpos := candleWidth_pos interval
  have hlate : slotEvents MarketTrade.time (candleWidth interval)
      (eventsFrom MarketTrade.time (candleWidth interval) signalTimestamp h.trades)
      (slotOf (candleWidth interval) signalTimestamp) = [] := by
    unfold slotEvents
    rw [List.filter_eq_nil_iff]
    intro t ht
    have hle : slotOf (candleWidth interval) signalTimestamp + candleWidth interval ≤ t.time :=
      of_decide_eq_true (List.mem_filter.mp ht).2
    have hlt := lt_slotOf_add hpos t.time
    rw [decide_eq_true_eq]
    intro heq
    rw [heq] at hlt
    exact absurd hle (not_le.mpr hlt)
  unfold slotEvents at hlate
  unfold candleAt candleOf tradedAt slotEvents
  rw [List.filter_append, List.filter_cons_of_pos (by simp), hlate]
  simp

/-- The candles behind the signal are the same. -/
theorem tradedAt_future :
    (candlesOf interval (tradedAt interval h signalTimestamp price hprice)).candles.filter
        (fun c => c.timestamp > signalTimestamp) =
      (candlesOf interval h).candles.filter fun c => c.timestamp > signalTimestamp := by
  have hpos := candleWidth_pos interval
  have hstamps := slots_agree hpos (tradedAt interval h signalTimestamp price hprice).chronological
    h.chronological (tradedAt_eventsFrom hprice)
  unfold candlesOf
  rw [List.filter_map, List.filter_map]
  change ((stamps interval (tradedAt interval h signalTimestamp price hprice).trades).filter
      fun s => signalTimestamp < s).map _ =
    ((stamps interval h.trades).filter fun s => signalTimestamp < s).map _
  unfold stamps
  rw [hstamps]
  refine List.map_congr_left fun s hs => ?_
  have hlate : signalTimestamp < s := of_decide_eq_true (List.mem_filter.mp hs).2
  unfold candleAt
  rw [← slotEvents_eventsFrom hpos hlate, tradedAt_eventsFrom hprice,
    slotEvents_eventsFrom hpos hlate]

end Traded

end Candles

/-! ## Records -/

section Records

variable {b : HistoricalSignalBuilder} {mint : String} {signalTimestamp : Time}
  {interval : OhlcvInterval} {h : TradingHistory}
  {safety : Except String HistoricalTokenSafety}
  {fetched : List (Except String (List WalletTrade) × HashOrders)} {entry : HistoricalDatasetEntry}

/-- A price history with the entry candle is not empty. -/
theorem priceHistory_ne_nil_of_entry {c : OhlcvCandle} (hc : c.timestamp = signalTimestamp)
    (future : List OhlcvCandle) : b.priceHistory signalTimestamp c future ≠ [] := by
  refine List.ne_nil_of_mem (a := c.observation) (List.mem_filter.mpr ⟨?_, ?_⟩)
  · rw [if_pos hc]
    exact List.mem_cons_self
  · rw [decide_eq_true_eq]
    exact .inr hc

/-- A price history without its entry candle comes from the later candles alone. -/
theorem priceHistory_ne_nil_of_later {c c' : OhlcvCandle} (hc : c.timestamp ≠ signalTimestamp)
    {future : List OhlcvCandle} (hne : b.priceHistory signalTimestamp c future ≠ []) :
    b.priceHistory signalTimestamp c' future ≠ [] := by
  obtain ⟨o, ho⟩ := List.exists_mem_of_ne_nil _ hne
  obtain ⟨hin, hkept⟩ := List.mem_filter.mp ho
  rw [if_neg hc] at hin
  refine List.ne_nil_of_mem (a := o) (List.mem_filter.mpr ⟨?_, hkept⟩)
  split_ifs
  · exact List.mem_cons_of_mem _ hin
  · exact hin

/-- The candle of the slot of the signal is stamped at the signal if any candle is. -/
theorem slotOf_of_entry {c : OhlcvCandle}
    (hc : pickEntryCandle (candlesOf interval h).candles signalTimestamp = some c)
    (htime : c.timestamp = signalTimestamp) :
    slotOf (candleWidth interval) signalTimestamp = signalTimestamp := by
  rw [pickEntryCandle_candlesOf, Option.map_eq_some_iff] at hc
  obtain ⟨s, hs, rfl⟩ := hc
  obtain ⟨t, -, rfl⟩ := mem_slots.mp (List.mem_reverse.mp (List.mem_of_find?_eq_some hs))
  rw [← htime]
  exact slotOf_slotOf (candleWidth_pos interval) t.time

/-- A trade at the signal leaves the record buildable and becomes its market price. -/
theorem tradedAt_built {price : Decimal} (hprice : 0 < price)
    (hbuilt : buildOne b mint signalTimestamp (candlesOf interval h).candles safety fetched =
      some (.ok entry)) :
    ∃ entry', buildOne b mint signalTimestamp
        (candlesOf interval (tradedAt interval h signalTimestamp price hprice)).candles safety
        fetched = some (.ok entry') ∧ entry'.signal.market.priceUsd = price := by
  obtain ⟨c, observed, wallets, hpicked, hsafety, hwallets, hbuild⟩ := buildOne_eq_ok.mp hbuilt
  obtain ⟨hchecks, -⟩ := build_eq_ok.mp hbuild
  have hpicked' : pickEntryCandle
      (candlesOf interval (tradedAt interval h signalTimestamp price hprice)).candles
      signalTimestamp = some (candleAt interval
        (tradedAt interval h signalTimestamp price hprice).trades
        (slotOf (candleWidth interval) signalTimestamp)) :=
    pickEntryCandle_of_trade (t := { time := signalTimestamp, priceUsd := price, volumeUsd := 0 })
      (List.mem_append_right _ List.mem_cons_self) rfl
  have hhistory : b.priceHistory signalTimestamp
      (candleAt interval (tradedAt interval h signalTimestamp price hprice).trades
        (slotOf (candleWidth interval) signalTimestamp))
      ((candlesOf interval h).candles.filter fun c => c.timestamp > signalTimestamp) ≠ [] := by
    by_cases htime : c.timestamp = signalTimestamp
    · exact priceHistory_ne_nil_of_entry (slotOf_of_entry hpicked htime) _
    · exact priceHistory_ne_nil_of_later htime hchecks.history_nonempty
  have hbuild' : b.build mint signalTimestamp
      (candleAt interval (tradedAt interval h signalTimestamp price hprice).trades
        (slotOf (candleWidth interval) signalTimestamp)) observed wallets
      ((candlesOf interval h).candles.filter fun c => c.timestamp > signalTimestamp) = .ok _ :=
    build_eq_ok.mpr ⟨{ hchecks with
      candle_not_after := slotOf_le (candleWidth_pos interval) signalTimestamp
      history_nonempty := hhistory }, rfl⟩
  rw [← tradedAt_future hprice] at hbuild'
  exact ⟨_, buildOne_eq_ok.mpr ⟨_, observed, wallets, hpicked', hsafety, hwallets, hbuild'⟩,
    tradedAt_close hprice⟩

/-- **Every record looks ahead**: trading that differs from the signal on only gives it another
market snapshot. Its entry candle is still open at the signal exactly if the slot of the signal
has a trade. -/
theorem built_looks_ahead
    (hbuilt : buildOne b mint signalTimestamp (candlesOf interval h).candles safety fetched =
      some (.ok entry)) :
    (∃ h' entry', AgreeBefore signalTimestamp h h' ∧
      buildOne b mint signalTimestamp (candlesOf interval h').candles safety fetched =
        some (.ok entry') ∧
      entry'.signal.market ≠ entry.signal.market) ∧
    ∀ c, pickEntryCandle (candlesOf interval h).candles signalTimestamp = some c →
      (signalTimestamp < c.timestamp + candleWidth interval ↔
        ∃ t ∈ h.trades, slotOf (candleWidth interval) t.time =
          slotOf (candleWidth interval) signalTimestamp) := by
  refine ⟨?_, fun c hc => pickEntryCandle_open hc⟩
  have hother : 0 < |entry.signal.market.priceUsd| + 1 := by positivity
  obtain ⟨entry', hbuilt', hprice⟩ := tradedAt_built hother hbuilt
  refine ⟨_, entry', tradedAt_agrees hother, hbuilt', fun heq => ?_⟩
  rw [heq] at hprice
  have hle := le_abs_self entry.signal.market.priceUsd
  rw [← sub_eq_zero] at hprice
  linarith

end Records

/-! ## A history with a candle that is open at the signal -/

/-- Trading in the first five minutes, before the signal at one minute and maybe after it, and in
the next five. -/
def fiveMinutes (later : List Decimal) (hlater : ∀ p ∈ later, 0 < p) : TradingHistory where
  trades := { time := 30000, priceUsd := 1, volumeUsd := 10 } ::
    (later.map fun p => { time := 90000, priceUsd := p, volumeUsd := 10 }) ++
      [{ time := 330000, priceUsd := 1, volumeUsd := 10 }]
  chronological := by
    rw [List.cons_append, List.pairwise_cons, List.pairwise_append]
    refine ⟨fun t ht => ?_, ?_, List.pairwise_singleton _ _, fun a ha c hc => ?_⟩
    · rcases List.mem_append.mp ht with ht | ht
      · obtain ⟨p, -, rfl⟩ := List.mem_map.mp ht
        exact (by decide : (30000 : Int) ≤ 90000)
      · rw [List.mem_singleton.mp ht]
        decide
    · rw [List.pairwise_map]
      exact List.pairwise_of_forall_mem_list fun _ _ _ _ => le_rfl
    · obtain ⟨p, -, rfl⟩ := List.mem_map.mp ha
      rw [List.mem_singleton.mp hc]
      exact (by decide : (90000 : Int) ≤ 330000)
  priced := by
    intro t ht
    rcases List.mem_append.mp ht with ht | ht
    · rcases List.mem_cons.mp ht with rfl | ht
      · exact one_pos
      · obtain ⟨p, hp, rfl⟩ := List.mem_map.mp ht
        exact hlater p hp
    · rw [List.mem_singleton.mp ht]
      exact one_pos

/-- The record of that signal takes its market price from the candle of the first five minutes. -/
theorem fiveMinutes_built {later : List Decimal} (hlater : ∀ p ∈ later, 0 < p)
    {c : OhlcvCandle}
    (hpicked : pickEntryCandle (candlesOf .m5 (fiveMinutes later hlater)).candles 60000 = some c) :
    ∃ entry, buildOne datasetBuilder datasetMint 60000
        (candlesOf .m5 (fiveMinutes later hlater)).candles (.ok datasetSafety)
        [(.ok [datasetTrade], insertionOrder)] = some (.ok entry) ∧
      entry.signal.market.priceUsd = c.closeUsd := by
  have hwallets : reconstructWallets 60000 [(.ok [datasetTrade], insertionOrder)] =
      some [datasetWallet] := by
    have hpositive : datasetWallet.trades > 0 := by decide +kernel
    simp only [reconstructWallets, reconstructAt_datasetTrade, Option.bind_eq_bind,
      Option.bind_some, pure, if_pos hpositive]
  have hfuture : candleAt .m5 (fiveMinutes later hlater).trades 300000 ∈
      (candlesOf .m5 (fiveMinutes later hlater)).candles.filter fun c => c.timestamp > 60000 := by
    refine List.mem_filter.mpr ⟨List.mem_map.mpr ⟨300000, mem_slots.mpr ⟨_,
      List.mem_append_right _ List.mem_cons_self, by decide⟩, rfl⟩, ?_⟩
    exact decide_eq_true (by decide : (60000 : Int) < 300000)
  have hchecks : BuildChecks datasetBuilder 60000 c datasetSafety [datasetWallet]
      ((candlesOf .m5 (fiveMinutes later hlater)).candles.filter fun c =>
        c.timestamp > 60000) := by
    refine ⟨?_, by decide, ?_, ?_, by decide +kernel⟩
    · exact of_decide_eq_true
        (List.find?_some (p := fun c : OhlcvCandle => decide (c.timestamp ≤ 60000)) hpicked)
    · intro w hw
      rw [List.mem_singleton.mp hw]
      decide +kernel
    · have hlate : (candleAt .m5 (fiveMinutes later hlater).trades 300000).observation ∈
          datasetBuilder.priceHistory 60000 c
            ((candlesOf .m5 (fiveMinutes later hlater)).candles.filter fun c =>
              c.timestamp > 60000) := by
        refine List.mem_filter.mpr ⟨?_, ?_⟩
        · have hnot : ¬(candleAt .m5 (fiveMinutes later hlater).trades 300000).timestamp < 60000 :=
            (by decide : ¬(300000 : Int) < 60000)
          have hkept : candleAt .m5 (fiveMinutes later hlater).trades 300000 ∈
              ((candlesOf .m5 (fiveMinutes later hlater)).candles.filter fun c =>
                c.timestamp > 60000).filter fun c => ¬c.timestamp < 60000 :=
            List.mem_filter.mpr ⟨hfuture, decide_eq_true hnot⟩
          have hin := List.mem_map_of_mem (f := OhlcvCandle.observation) hkept
          split_ifs
          · exact List.mem_cons_of_mem _ hin
          · exact hin
        · exact decide_eq_true (.inl (by decide : (300000 : Int) ≤ 60000 + minutes 240))
      exact List.ne_nil_of_mem hlate
  exact ⟨_, buildOne_eq_ok.mpr ⟨c, datasetSafety, [datasetWallet], hpicked, rfl, hwallets,
    build_eq_ok.mpr ⟨hchecks, rfl⟩⟩, rfl⟩

/-- No trade after the signal. -/
def quietMinutes : TradingHistory := fiveMinutes [] (by decide +kernel)

/-- A trade at three dollars half a minute after the signal. -/
def busyMinutes : TradingHistory := fiveMinutes [3] (by decide +kernel)

/-- Of the quiet minutes the candle before the signal is picked. -/
theorem quietMinutes_picked :
    pickEntryCandle (candlesOf .m5 quietMinutes).candles 60000 =
      some (candleOf 0 [{ time := 30000, priceUsd := 1, volumeUsd := 10 }]) := by
  decide +kernel

/-- Of the busy minutes the same one, with the trades behind the signal. -/
theorem busyMinutes_picked :
    pickEntryCandle (candlesOf .m5 busyMinutes).candles 60000 =
      some (candleOf 0 [{ time := 30000, priceUsd := 1, volumeUsd := 10 },
        { time := 90000, priceUsd := 3, volumeUsd := 10 }]) := by
  decide +kernel

/-- A trade half a minute after the signal changes the market price of its record. -/
theorem later_trade_changes_market :
    AgreeBefore 60000 quietMinutes busyMinutes ∧ ∃ entry entry',
      buildOne datasetBuilder datasetMint 60000 (candlesOf .m5 quietMinutes).candles
        (.ok datasetSafety) [(.ok [datasetTrade], insertionOrder)] = some (.ok entry) ∧
      buildOne datasetBuilder datasetMint 60000 (candlesOf .m5 busyMinutes).candles
        (.ok datasetSafety) [(.ok [datasetTrade], insertionOrder)] = some (.ok entry') ∧
      entry.signal.market.priceUsd = 1 ∧ entry'.signal.market.priceUsd = 3 := by
  obtain ⟨entry, hentry, hprice⟩ := fiveMinutes_built _ quietMinutes_picked
  obtain ⟨entry', hentry', hprice'⟩ := fiveMinutes_built _ busyMinutes_picked
  refine ⟨?_, entry, entry', hentry, hentry', hprice, hprice'⟩
  unfold AgreeBefore
  decide +kernel

/-- So does another history for the record of the quiet minutes, whose candle is still open. -/
theorem built_looks_ahead_sample :
    ∃ h' entry entry', AgreeBefore 60000 quietMinutes h' ∧
      buildOne datasetBuilder datasetMint 60000 (candlesOf .m5 quietMinutes).candles
        (.ok datasetSafety) [(.ok [datasetTrade], insertionOrder)] = some (.ok entry) ∧
      buildOne datasetBuilder datasetMint 60000 (candlesOf .m5 h').candles
        (.ok datasetSafety) [(.ok [datasetTrade], insertionOrder)] = some (.ok entry') ∧
      entry'.signal.market ≠ entry.signal.market := by
  obtain ⟨entry, hentry, -⟩ := fiveMinutes_built _ quietMinutes_picked
  obtain ⟨⟨h', entry', hagree, hentry', hne⟩, -⟩ := built_looks_ahead hentry
  exact ⟨h', entry, entry', hagree, hentry, hentry', hne⟩

end SolanaBot.Analysis
