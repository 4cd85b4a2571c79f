import SolanaBot.Analysis.BreakEven
import SolanaBot.Library.Validators
import SolanaBot.Model.HistoricalDataset

/-!
# Built records

The builder of the historical dataset and the loader of the backtester against each other.
What the loader accepts is written once as a list of conditions (`validateSignal_eq_ok`), and
what a record that the builder returns looks like is said once (`build_eq_ok`). A built record
satisfies every condition but four (`built_accepted_iff`): its entry candle must be stamped at
the signal, as the wallets are, the two decimals must be plausible, and the token must not be
younger than zero.
-/

set_option autoImplicit false

namespace SolanaBot.Analysis

open SolanaBot.Library SolanaBot.Model

/-! ## What the loader accepts -/

/-- An explicit price of a candle is positive where it is given. -/
theorem positiveWhenGiven_eq_ok {field : String} {observed : Time} {value : Option Decimal} :
    positiveWhenGiven field observed value = .ok () ↔ ∀ v, value = some v → 0 < v := by
  cases value with
  | none => simp [positiveWhenGiven]
  | some v => simp [positiveWhenGiven]

/-- The conditions on one observation of the price history. -/
structure ValidObservation (signalTimestamp : Time) (obs : PriceObservation) : Prop where
  not_before : signalTimestamp ≤ obs.timestamp
  price_pos : 0 < obs.priceUsd
  liquidity_nonneg : 0 ≤ obs.liquidityUsd
  open_pos : ∀ v, obs.openUsd = some v → 0 < v
  high_pos : ∀ v, obs.highUsd = some v → 0 < v
  low_pos : ∀ v, obs.lowUsd = some v → 0 < v
  close_pos : ∀ v, obs.closeUsd = some v → 0 < v
  low_le_high : obs.effectiveLow ≤ obs.effectiveHigh

/-- An observation passes exactly if it is valid. -/
theorem validateObservation_eq_ok {signalTimestamp : Time} {obs : PriceObservation} :
    validateObservation signalTimestamp obs = .ok () ↔ ValidObservation signalTimestamp obs := by
  unfold validateObservation
  simp only [check_bind_eq_ok, rejectIf_eq_ok, positiveWhenGiven_eq_ok, not_lt, not_le]
  constructor
  · rintro ⟨h₁, h₂, h₃, h₄, h₅, h₆, h₇, h₈⟩
    exact ⟨h₁, h₂, h₃, h₄, h₅, h₆, h₇, h₈⟩
  · rintro ⟨h₁, h₂, h₃, h₄, h₅, h₆, h₇, h₈⟩
    exact ⟨h₁, h₂, h₃, h₄, h₅, h₆, h₇, h₈⟩

/-- The conditions on one wallet. -/
structure ValidWallet (signal : HistoricalSignal) (wallet : WalletStats) : Prop where
  not_after_signal : wallet.updatedAt ≤ signal.signalTimestamp
  not_after_market : wallet.updatedAt ≤ signal.market.observedAt
  pubkey : isValidSolanaPubkey wallet.wallet = true

/-- A wallet passes exactly if it is valid. -/
theorem validateWallet_eq_ok {signal : HistoricalSignal} {wallet : WalletStats × ℕ} :
    validateWallet signal wallet = .ok () ↔ ValidWallet signal wallet.1 := by
  unfold validateWallet
  simp only [check_bind_eq_ok, rejectIf_eq_ok, gt_iff_lt, not_lt, Bool.not_eq_false]
  constructor
  · rintro ⟨h₁, h₂, h₃⟩
    exact ⟨h₁, h₂, h₃⟩
  · rintro ⟨h₁, h₂, h₃⟩
    exact ⟨h₁, h₂, h₃⟩

/-- The conditions on a record. -/
structure ValidSignal (s : HistoricalSignal) : Prop where
  history_nonempty : s.priceHistory ≠ []
  mint : isValidSolanaMint s.mint = true
  chronological : chronological s.priceHistory = true
  observations : ∀ obs ∈ s.priceHistory, ValidObservation s.signalTimestamp obs
  position_pos : 0 < s.positionUsd
  expected_nonneg : 0 ≤ s.expectedGrossReturnPct
  token_decimals : s.tokenDecimals ≤ 18
  base_mint_decimals : s.baseMintDecimals ≤ 18
  market_not_after : s.market.observedAt ≤ s.signalTimestamp
  market_price_pos : 0 < s.market.priceUsd
  market_liquidity_nonneg : 0 ≤ s.market.liquidityUsd
  safety_not_after : s.safety.observedAt ≤ s.signalTimestamp
  token_age_nonneg : 0 ≤ s.safety.tokenAgeSecs
  costs_not_after : s.costs.observedAt ≤ s.signalTimestamp
  wallets_nonempty : s.wallets ≠ []
  wallets : ∀ w ∈ s.wallets, ValidWallet s w

/-- The loader accepts a record exactly if it meets every condition. -/
theorem validateSignal_eq_ok {s : HistoricalSignal} :
    validateSignal s = .ok () ↔ ValidSignal s := by
  have hwallets : (∀ w ∈ s.wallets.zipIdx, ValidWallet s w.1) ↔
      ∀ w ∈ s.wallets, ValidWallet s w := by
    constructor
    · intro h w hw
      obtain ⟨i, hi⟩ := List.mem_iff_getElem?.mp hw
      exact h (w, i) (List.mk_mem_zipIdx_iff_getElem?.mpr hi)
    · intro h w hw
      exact h w.1 (List.fst_mem_of_mem_zipIdx hw)
  unfold validateSignal
  simp only [check_bind_eq_ok, forM_eq_ok, rejectIf_eq_ok, validateObservation_eq_ok,
    validateWallet_eq_ok, hwallets, gt_iff_lt, not_lt, not_le, UInt8.not_lt, Bool.not_eq_false]
  constructor
  · rintro ⟨h₁, h₂, h₃, h₄, h₅, h₆, h₇, h₈, h₉, h₁₀, h₁₁, h₁₂, h₁₃, h₁₄, h₁₅, h₁₆⟩
    exact ⟨h₁, h₂, h₃, h₄, h₅, h₆, h₇, h₈, h₉, h₁₀, h₁₁, h₁₂, h₁₃, h₁₄, h₁₅, h₁₆⟩
  · rintro ⟨h₁, h₂, h₃, h₄, h₅, h₆, h₇, h₈, h₉, h₁₀, h₁₁, h₁₂, h₁₃, h₁₄, h₁₅, h₁₆⟩
    exact ⟨h₁, h₂, h₃, h₄, h₅, h₆, h₇, h₈, h₉, h₁₀, h₁₁, h₁₂, h₁₃, h₁₄, h₁₅, h₁₆⟩

/-! ## What the builder returns -/

section Build

variable {b : HistoricalSignalBuilder} {mint : String} {signalTimestamp : Time}
  {marketCandle : OhlcvCandle} {safety : HistoricalTokenSafety}
  {wallets : List HistoricalWalletStats} {future : CandleSeries} {entry : HistoricalDatasetEntry}

/-- The checks that a built record has passed. -/
structure BuildChecks (b : HistoricalSignalBuilder) (signalTimestamp : Time)
    (marketCandle : OhlcvCandle) (safety : HistoricalTokenSafety)
    (wallets : List HistoricalWalletStats) (future : List OhlcvCandle) : Prop where
  candle_not_after : marketCandle.timestamp ≤ signalTimestamp
  safety_not_after : safety.observedAt ≤ signalTimestamp
  wallets_not_after : ∀ w ∈ wallets, w.updatedAt ≤ signalTimestamp
  history_nonempty : b.priceHistory signalTimestamp marketCandle future ≠ []
  evidence : HistoricalSignalBuilder.walletStats wallets ≠ []

/-- A record is built exactly if its checks pass, and is then the record of its data. -/
theorem build_eq_ok {future : List OhlcvCandle} :
    b.build mint signalTimestamp marketCandle safety wallets future = .ok entry ↔
      BuildChecks b signalTimestamp marketCandle safety wallets future ∧
        entry =
          { signal := b.record mint signalTimestamp marketCandle safety wallets future
            breakdown := (b.costs signalTimestamp marketCandle).2 } := by
  have hcosts : (b.costs signalTimestamp marketCandle).1.observedAt = signalTimestamp := rfl
  unfold HistoricalSignalBuilder.build
  simp only [check_bind_eq_ok, forM_eq_ok, rejectIf_eq_ok, hcosts, gt_iff_lt, not_lt, le_refl,
    true_and, pure, Except.pure, Except.ok.injEq]
  constructor
  · rintro ⟨h₁, h₂, h₃, h₄, h₅, h₆⟩
    exact ⟨⟨h₁, h₂, h₃, h₄, h₅⟩, h₆.symm⟩
  · rintro ⟨⟨h₁, h₂, h₃, h₄, h₅⟩, h₆⟩
    exact ⟨h₁, h₂, h₃, h₄, h₅, h₆.symm⟩

/-! ### The price history -/

/-- A list that ascends ascends between neighbours. -/
theorem chronological_of_pairwise {l : List PriceObservation}
    (h : l.Pairwise fun a b => a.timestamp ≤ b.timestamp) : chronological l = true := by
  induction l with
  | nil => rfl
  | cons a l ih =>
      cases l with
      | nil => rfl
      | cons c l =>
          rw [List.pairwise_cons] at h
          have hstep : a.timestamp ≤ c.timestamp := h.1 c List.mem_cons_self
          simp only [chronological, hstep, decide_true, ih h.2, Bool.and_self]

/-- A well-formed candle is a valid observation of a signal that it does not precede. -/
theorem validObservation_of_wellFormed {c : OhlcvCandle} (hc : c.WellFormed)
    (htime : signalTimestamp ≤ c.timestamp) :
    ValidObservation signalTimestamp c.observation where
  not_before := htime
  price_pos := hc.close_pos
  liquidity_nonneg := by
    change 0 ≤ c.liquidityUsd.getD 0
    cases hliquidity : c.liquidityUsd with
    | none => exact le_refl _
    | some liquidity => exact hc.liquidity_nonneg liquidity hliquidity
  open_pos := by
    rintro v ⟨⟩
    exact hc.open_pos
  high_pos := by
    rintro v ⟨⟩
    exact hc.high_pos
  low_pos := by
    rintro v ⟨⟩
    exact hc.low_pos
  close_pos := by
    rintro v ⟨⟩
    exact hc.close_pos
  low_le_high := hc.low_le_high

/-- The candles that are not stamped before the signal, the entry candle first if it is not. -/
theorem priceHistory_ascends :
    (b.priceHistory signalTimestamp marketCandle future.candles).Pairwise
      fun x y => x.timestamp ≤ y.timestamp := by
  have hlater : ((future.candles.filter fun c => ¬c.timestamp < signalTimestamp).map
      OhlcvCandle.observation).Pairwise fun x y => x.timestamp ≤ y.timestamp := by
    rw [List.pairwise_map]
    exact future.ascending.filter _
  unfold HistoricalSignalBuilder.priceHistory
  refine List.Pairwise.filter _ ?_
  split_ifs with hentry
  · refine List.pairwise_cons.mpr ⟨fun o ho => ?_, hlater⟩
    obtain ⟨c, hc, rfl⟩ := List.mem_map.mp ho
    have hnot := (List.mem_filter.mp hc).2
    rw [decide_eq_true_eq, not_lt] at hnot
    exact hentry.le.trans hnot
  · exact hlater

/-- Observations of well-formed candles are valid. -/
theorem priceHistory_valid (hcandle : marketCandle.WellFormed) :
    ∀ obs ∈ b.priceHistory signalTimestamp marketCandle future.candles,
      ValidObservation signalTimestamp obs := by
  intro obs hobs
  unfold HistoricalSignalBuilder.priceHistory at hobs
  have hmem := (List.mem_filter.mp hobs).1
  have hlater : ∀ o ∈ (future.candles.filter fun c => ¬c.timestamp < signalTimestamp).map
      OhlcvCandle.observation, ValidObservation signalTimestamp o := by
    intro o ho
    obtain ⟨c, hc, rfl⟩ := List.mem_map.mp ho
    obtain ⟨hin, hnot⟩ := List.mem_filter.mp hc
    rw [decide_eq_true_eq, not_lt] at hnot
    exact validObservation_of_wellFormed (future.wellFormed c hin) hnot
  split_ifs at hmem with hentry
  · rcases List.mem_cons.mp hmem with rfl | hmem
    · exact validObservation_of_wellFormed hcandle hentry.ge
    · exact hlater obs hmem
  · exact hlater obs hmem

/-! ### The expected return -/

/-- A calculation that succeeds has checked its inputs, so the average win it requires is not
negative. -/
theorem requiredAvgWinPct_nonneg {input : BreakEvenInputs} {r : BreakEvenResult}
    (h : breakEvenCalculator input = .ok r) : 0 ≤ r.requiredAvgWinPct := by
  obtain ⟨hvalid, rfl⟩ := breakEvenCalculator_eq_ok_iff.mp h
  exact requiredWinPct_nonneg hvalid

/-- The recorded expectation of a record is a required win, or zero. -/
theorem record_expected_nonneg {future : List OhlcvCandle} :
    0 ≤ (b.record mint signalTimestamp marketCandle safety wallets
      future).expectedGrossReturnPct := by
  unfold HistoricalSignalBuilder.record
  dsimp only
  cases hcalculated : (b.costs signalTimestamp marketCandle).1.calculate with
  | error e => exact le_refl _
  | ok r => exact requiredAvgWinPct_nonneg hcalculated

/-! ## Agreement -/

/-- Statistics that were reconstructed at the signal from trades of valid wallets. -/
def ReconstructedFor (signalTimestamp : Time) (w : HistoricalWalletStats) : Prop :=
  ∃ orders trades, reconstructAt orders trades signalTimestamp = some w ∧
    ∀ t ∈ trades, isValidSolanaPubkey t.wallet = true

/-- A wallet of a record has trades, so it is one of them, as of the signal. -/
theorem walletStats_reconstructed
    (hwallets : ∀ w ∈ wallets, ReconstructedFor signalTimestamp w) :
    ∀ w ∈ HistoricalSignalBuilder.walletStats wallets,
      w.updatedAt = signalTimestamp ∧ isValidSolanaPubkey w.wallet = true := by
  intro w hw
  obtain ⟨h, hmem, rfl⟩ := List.mem_map.mp hw
  obtain ⟨hin, htrades⟩ := List.mem_filter.mp hmem
  obtain ⟨orders, trades, hreconstructed, hvalid⟩ := hwallets h hin
  obtain ⟨htime, hnone | ⟨t, ht, hwallet⟩⟩ := reconstructAt_origin hreconstructed
  · rw [hnone] at htrades
    exact absurd htrades (by decide)
  · exact ⟨htime, by
      change isValidSolanaPubkey h.wallet = true
      rw [hwallet]
      exact hvalid t ht⟩

/-- A record that has passed the checks of the builder meets all conditions of the loader but
four. -/
theorem record_accepted_iff (hmint : isValidSolanaMint mint = true)
    (hcandle : marketCandle.WellFormed) (hposition : 0 < b.positionUsd)
    (hwallets : ∀ w ∈ wallets, ReconstructedFor signalTimestamp w)
    (hchecks : BuildChecks b signalTimestamp marketCandle safety wallets future.candles)
    {s : HistoricalSignal}
    (hs : s = b.record mint signalTimestamp marketCandle safety wallets future.candles) :
    (validateSignal s = .ok () ∧ structuralDefect s = none) ↔
      (marketCandle.timestamp = signalTimestamp ∧ b.tokenDecimals ≤ 18 ∧
        b.baseMintDecimals ≤ 18 ∧ 0 ≤ safety.tokenAgeSecs) := by
  subst hs
  have hstats := walletStats_reconstructed hwallets
  rw [validateSignal_eq_ok]
  constructor
  · rintro ⟨hvalid, -⟩
    refine ⟨?_, hvalid.token_decimals, hvalid.base_mint_decimals, hvalid.token_age_nonneg⟩
    -- a wallet is as new as the signal, and the market must not be older
    obtain ⟨w, hw⟩ := List.exists_mem_of_ne_nil _ hchecks.evidence
    have hmarket : w.updatedAt ≤ marketCandle.timestamp := (hvalid.wallets w hw).not_after_market
    rw [(hstats w hw).1] at hmarket
    exact le_antisymm hchecks.candle_not_after hmarket
  · rintro ⟨hentry, htoken, hbase, hage⟩
    refine ⟨?_, ?_⟩
    · exact
        { history_nonempty := hchecks.history_nonempty
          mint := hmint
          chronological := chronological_of_pairwise priceHistory_ascends
          observations := priceHistory_valid hcandle
          position_pos := hposition
          expected_nonneg := record_expected_nonneg
          token_decimals := htoken
          base_mint_decimals := hbase
          market_not_after := hchecks.candle_not_after
          market_price_pos := hcandle.close_pos
          market_liquidity_nonneg := (validObservation_of_wellFormed hcandle le_rfl).liquidity_nonneg
          safety_not_after := hchecks.safety_not_after
          token_age_nonneg := hage
          costs_not_after := le_rfl
          wallets_nonempty := hchecks.evidence
          wallets := fun w hw =>
            { not_after_signal := (hstats w hw).1.le
              not_after_market := (hstats w hw).1.le.trans hentry.ge
              pubkey := (hstats w hw).2 } }
    · exact (if_neg hchecks.history_nonempty).trans (if_neg (not_not.mpr rfl))

/-- **The loader accepts a built record exactly if its entry candle is stamped at the signal**,
its decimals are plausible and the age of its token is not negative. -/
theorem built_accepted_iff (hmint : isValidSolanaMint mint = true)
    (hcandle : marketCandle.WellFormed) (hposition : 0 < b.positionUsd)
    (hwallets : ∀ w ∈ wallets, ReconstructedFor signalTimestamp w)
    (hbuilt : b.build mint signalTimestamp marketCandle safety wallets future.candles =
      .ok entry) :
    (validateSignal entry.signal = .ok () ∧ structuralDefect entry.signal = none) ↔
      (marketCandle.timestamp = signalTimestamp ∧ b.tokenDecimals ≤ 18 ∧
        b.baseMintDecimals ≤ 18 ∧ 0 ≤ safety.tokenAgeSecs) := by
  obtain ⟨hchecks, hentry⟩ := build_eq_ok.mp hbuilt
  exact record_accepted_iff hmint hcandle hposition hwallets hchecks (by rw [hentry])

/-! ### Samples -/

/-- A flat candle at a price of one dollar. -/
def flatCandle (timestamp : Time) : OhlcvCandle :=
  { timestamp, openUsd := 1, highUsd := 1, lowUsd := 1, closeUsd := 1, volumeUsd := some 1000
    liquidityUsd := none }

/-- A flat candle is well formed. -/
theorem flatCandle_wellFormed (timestamp : Time) : (flatCandle timestamp).WellFormed where
  open_pos := one_pos
  high_pos := one_pos
  low_pos := one_pos
  close_pos := one_pos
  low_le_high := le_rfl
  liquidity_nonneg := by
    rintro liquidity ⟨⟩

/-- The minute behind the signal. -/
def flatSeries : CandleSeries where
  candles := [flatCandle 120000]
  wellFormed := fun c hc => by
    rw [List.mem_singleton.mp hc]
    exact flatCandle_wellFormed 120000
  ascending := List.pairwise_singleton _ _

/-- The mint of the sample. -/
def datasetMint : String := "TokenTokenTokenTokenTokenTokenToken1"

/-- The builder of the sample. -/
def datasetBuilder : HistoricalSignalBuilder :=
  { positionUsd := 10, tokenDecimals := 6, baseMintDecimals := 9, solPriceUsd := 150
    priorityFeeLamports := 10000, swapFeeBps := 30, futureWindowMinutes := 240 }

/-- What is known of the mint's safety. -/
def datasetSafety : HistoricalTokenSafety :=
  { mint := datasetMint, mintAuthorityPresent := false, freezeAuthorityPresent := false
    decimals := 6, supply := 1000000, holderTop10Pct := none, tokenAgeSecs := 0
    sellable := none, routeAvailable := none, creatorSuspicious := none, abnormalActivity := none
    liquidityChangePct := none, liquidityLockedOrBurned := none, observedAt := 60000
    createdAt := none }

/-- A trade of the wallet before the signal. -/
def datasetTrade : WalletTrade :=
  { wallet := "WaaetWaaetWaaetWaaetWaaetWaaet111", mint := datasetMint, side := .buy
    notionalUsd := 5, blockTime := 1000, signature := "signature-1", slot := none }

/-- The order of insertion. -/
def insertionOrder : HashOrders := { perMint := id, mintPnl := id }

/-- The statistics of a wallet with one purchase, a minute into the epoch. -/
def datasetWallet : HistoricalWalletStats :=
  (reconstructAt insertionOrder [datasetTrade] 60000).getD (noTrades [] 0)

/-- The wallet is what the trade is reconstructed to. -/
theorem reconstructAt_datasetTrade :
    reconstructAt insertionOrder [datasetTrade] 60000 = some datasetWallet := by
  have hsome : (reconstructAt insertionOrder [datasetTrade] 60000).isSome = true := by
    decide +kernel
  obtain ⟨w, hw⟩ := Option.isSome_iff_exists.mp hsome
  rw [datasetWallet, hw]
  rfl

/-- It is a reconstruction up to the signal. -/
theorem datasetWallet_reconstructed : ReconstructedFor 60000 datasetWallet := by
  refine ⟨insertionOrder, [datasetTrade], reconstructAt_datasetTrade, fun t ht => ?_⟩
  rw [List.mem_singleton.mp ht]
  decide +kernel

/-- The record of the sample signal from a given entry candle. -/
def datasetEntry (entryCandle : OhlcvCandle) : HistoricalDatasetEntry :=
  { signal := datasetBuilder.record datasetMint 60000 entryCandle datasetSafety [datasetWallet]
      flatSeries.candles
    breakdown := (datasetBuilder.costs 60000 entryCandle).2 }

/-- The record of the sample is built, whenever its market candle begins. -/
theorem build_datasetEntry {timestamp : Time} (htime : timestamp ≤ 60000) :
    datasetBuilder.build datasetMint 60000 (flatCandle timestamp) datasetSafety [datasetWallet]
      flatSeries.candles = .ok (datasetEntry (flatCandle timestamp)) := by
  have hlater : (flatCandle 120000).observation ∈ (flatSeries.candles.filter fun c =>
      ¬c.timestamp < 60000).map OhlcvCandle.observation := by
    decide +kernel
  refine build_eq_ok.mpr ⟨⟨htime, by decide, ?_, ?_, by decide +kernel⟩, rfl⟩
  · intro w hw
    rw [List.mem_singleton.mp hw]
    decide +kernel
  · refine List.ne_nil_of_mem (a := (flatCandle 120000).observation) ?_
    refine List.mem_filter.mpr ⟨?_, by decide +kernel⟩
    split_ifs
    · exact List.mem_cons_of_mem _ hlater
    · exact hlater

/-- A signal in the middle of a minute: the record is built, and the loader refuses it since the
wallet is newer than the market. -/
theorem built_rejected :
    datasetBuilder.build datasetMint 60000 (flatCandle 30000) datasetSafety [datasetWallet]
        flatSeries.candles = .ok (datasetEntry (flatCandle 30000)) ∧
      isValidSolanaMint datasetMint = true ∧ (flatCandle 30000).WellFormed ∧
      ReconstructedFor 60000 datasetWallet ∧
      validateSignal (datasetEntry (flatCandle 30000)).signal =
        .error (.walletAfterMarket 0 60000 30000) := by
  refine ⟨build_datasetEntry (by decide), by decide +kernel, flatCandle_wellFormed 30000,
    datasetWallet_reconstructed, ?_⟩
  decide +kernel

/-- A signal on the minute is built and accepted. -/
theorem built_accepted_sample :
    validateSignal (datasetEntry (flatCandle 60000)).signal = .ok () ∧
      structuralDefect (datasetEntry (flatCandle 60000)).signal = none := by
  have hwallets : ∀ w ∈ [datasetWallet], ReconstructedFor 60000 w := by
    intro w hw
    rw [List.mem_singleton.mp hw]
    exact datasetWallet_reconstructed
  exact (built_accepted_iff (by decide +kernel) (flatCandle_wellFormed 60000) (by decide +kernel)
    hwallets (build_datasetEntry le_rfl)).mpr ⟨rfl, by decide, by decide, by decide⟩

end Build

/-! ## The pipeline -/

section Pipeline

variable {b : HistoricalSignalBuilder} {mint : String} {signalTimestamp : Time}
  {safety : HistoricalTokenSafety} {entry : HistoricalDatasetEntry}
  {fetched : List (Except String (List WalletTrade) × HashOrders)}

/-- The candles of a series that are stamped after the signal. -/
def candlesAfter (series : CandleSeries) (signalTimestamp : Time) : CandleSeries where
  candles := series.candles.filter fun c => c.timestamp > signalTimestamp
  wellFormed := fun c hc => series.wellFormed c (List.mem_of_mem_filter hc)
  ascending := series.ascending.filter _

/-- The wallets of the pipeline are reconstructed from what was fetched. -/
theorem reconstructWallets_reconstructed {wallets : List HistoricalWalletStats}
    (hvalid : ∀ trades orders, (.ok trades, orders) ∈ fetched →
      ∀ t ∈ trades, isValidSolanaPubkey t.wallet = true)
    (h : reconstructWallets signalTimestamp fetched = some wallets) :
    ∀ w ∈ wallets, ReconstructedFor signalTimestamp w := by
  induction fetched generalizing wallets with
  | nil =>
      cases h
      exact fun w hw => absurd hw List.not_mem_nil
  | cons first rest ih =>
      have hrest : ∀ trades orders, (.ok trades, orders) ∈ rest →
          ∀ t ∈ trades, isValidSolanaPubkey t.wallet = true :=
        fun trades orders hmem => hvalid trades orders (List.mem_cons_of_mem _ hmem)
      obtain ⟨result, orders⟩ := first
      cases result with
      | error e => exact ih hrest h
      | ok trades =>
          simp only [reconstructWallets, Option.bind_eq_bind, Option.bind_eq_some_iff, pure,
            Option.some.injEq] at h
          obtain ⟨stats, hstats, others, hothers, rfl⟩ := h
          have hfirst : ReconstructedFor signalTimestamp stats :=
            ⟨orders, trades, hstats, hvalid trades orders List.mem_cons_self⟩
          intro w hw
          split_ifs at hw
          · rcases List.mem_cons.mp hw with rfl | hw
            · exact hfirst
            · exact ih hrest hothers w hw
          · exact ih hrest hothers w hw

/-- A record of the pipeline comes from the builder, on the picked candle and those behind it. -/
theorem buildOne_eq_ok {candles : List OhlcvCandle}
    {fetchedSafety : Except String HistoricalTokenSafety} :
    buildOne b mint signalTimestamp candles fetchedSafety fetched = some (.ok entry) ↔
      ∃ entryCandle safety wallets, pickEntryCandle candles signalTimestamp = some entryCandle ∧
        fetchedSafety = .ok safety ∧
        reconstructWallets signalTimestamp fetched = some wallets ∧
        b.build mint signalTimestamp entryCandle safety wallets
          (candles.filter fun c => c.timestamp > signalTimestamp) = .ok entry := by
  unfold buildOne
  cases pickEntryCandle candles signalTimestamp with
  | none => simp
  | some entryCandle =>
      cases fetchedSafety with
      | error e => simp
      | ok safety =>
          simp only [Option.map_eq_some_iff, mapError_eq_ok, Option.some.injEq, Except.ok.injEq,
            exists_and_left, exists_eq_left']

/-- The records of the pipeline that the loader accepts. -/
theorem pipeline_accepted_iff {series : CandleSeries}
    (hmint : isValidSolanaMint mint = true) (hposition : 0 < b.positionUsd)
    (hvalid : ∀ trades orders, (.ok trades, orders) ∈ fetched →
      ∀ t ∈ trades, isValidSolanaPubkey t.wallet = true)
    (hbuilt : buildOne b mint signalTimestamp series.candles (.ok safety) fetched =
      some (.ok entry)) :
    (validateSignal entry.signal = .ok () ∧ structuralDefect entry.signal = none) ↔
      ((pickEntryCandle series.candles signalTimestamp).map OhlcvCandle.timestamp =
          some signalTimestamp ∧
        b.tokenDecimals ≤ 18 ∧ b.baseMintDecimals ≤ 18 ∧ 0 ≤ safety.tokenAgeSecs) := by
  obtain ⟨entryCandle, _, wallets, hpicked, ⟨rfl⟩, hwallets, hbuild⟩ := buildOne_eq_ok.mp hbuilt
  obtain ⟨hchecks, hentry⟩ := build_eq_ok.mp hbuild
  have hmem : entryCandle ∈ series.candles :=
    List.mem_reverse.mp (List.mem_of_find?_eq_some hpicked)
  rw [hpicked, Option.map_some, Option.some.injEq]
  have hrecord : entry.signal = b.record mint signalTimestamp entryCandle safety wallets
      (candlesAfter series signalTimestamp).candles := by
    rw [hentry]
    rfl
  exact record_accepted_iff hmint (series.wellFormed entryCandle hmem) hposition
    (reconstructWallets_reconstructed hvalid hwallets) hchecks hrecord

end Pipeline

end SolanaBot.Analysis
