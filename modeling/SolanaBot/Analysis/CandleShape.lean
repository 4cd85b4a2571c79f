import Mathlib.Tactic.Linarith
import SolanaBot.Analysis.BuiltRecords
import SolanaBot.Analysis.RecordConservation
import SolanaBot.Analysis.WalkPrefixes

/-!
# Candle shape

The loader checks that the prices of a candle are positive and that its high is not below its low; it does
not compare the open and the close with them. The anchor of the trailing stop is the peak of the highs,
so it never decreases, but a close above its high leaves it behind. A loaded record has the shape that
the engine relies on exactly if its opens and closes lie within the ranges (`shape_iff`).
-/

set_option autoImplicit false

namespace SolanaBot.Analysis

open SolanaBot.Library SolanaBot.Model

/-! ## Loaded records -/

/-- A loaded record has passed the validation. -/
theorem valid_of_loaded {parse : String → Except String HistoricalSignal}
    {content : Except String String} {loaded : LoadResult}
    (h : loadHistoricalSignals parse content = .ok loaded) {s : HistoricalSignal}
    (hs : s ∈ loaded.signals) : ValidSignal s := by
  cases content with
  | error e => cases h
  | ok text =>
      obtain ⟨fs, hfs, -, -, hsignals⟩ := loadHistoricalSignals_classifies parse h
      obtain ⟨line, -, -, hvalid⟩ := exists_of_mem_rights hfs (hsignals.mem_iff.mpr hs)
      exact validateSignal_eq_ok.mp hvalid

/-! ## The shape -/

section Shape

/-- The shape of a candle: a positive low, and the open and the close between the low and the high. -/
structure WellShaped (o : PriceObservation) : Prop where
  low_pos : 0 < o.effectiveLow
  low_le_open : o.effectiveLow ≤ o.effectiveOpen
  low_le_close : o.effectiveLow ≤ o.effectiveClose
  open_le_high : o.effectiveOpen ≤ o.effectiveHigh
  close_le_high : o.effectiveClose ≤ o.effectiveHigh

/-- The open and the close of a candle, or its price where they are not given, lie within the low and the
high, or the price where they are not given. -/
def PricesInRange (o : PriceObservation) : Prop :=
  ∀ price ∈ [o.openUsd.getD o.priceUsd, o.closeUsd.getD o.priceUsd],
    o.lowUsd.getD o.priceUsd ≤ price ∧ price ≤ o.highUsd.getD o.priceUsd

variable {s : HistoricalSignal}

/-- A candle that the loader has checked has a positive low. -/
theorem ValidObservation.effectiveLow_pos {o : PriceObservation} {t : Time}
    (h : ValidObservation t o) : 0 < o.effectiveLow := by
  unfold PriceObservation.effectiveLow
  cases hlow : o.lowUsd with
  | none => exact h.price_pos
  | some low => exact h.low_pos low hlow

/-- A valid observation is well shaped exactly if its prices are in range. -/
theorem wellShaped_iff {o : PriceObservation} {t : Time} (h : ValidObservation t o) :
    WellShaped o ↔ PricesInRange o := by
  unfold PricesInRange
  rw [List.forall_mem_cons, List.forall_mem_singleton]
  constructor
  · intro hshape
    exact ⟨⟨hshape.low_le_open, hshape.open_le_high⟩, hshape.low_le_close, hshape.close_le_high⟩
  · rintro ⟨⟨hopen, hopen'⟩, hclose, hclose'⟩
    exact ⟨h.effectiveLow_pos, hopen, hclose, hopen', hclose'⟩

/-! ## The anchor -/

/-- The walk over a prefix of the history. -/
def walkOver (config : Config) (s : HistoricalSignal) (pre : List PriceObservation) :
    Walked WalkState :=
  walk (walkTurn config s.market.priceUsd) pre
    (walkStart s s.market.priceUsd s.signalTimestamp)

/-- Behind every prefix that the walk gets through, the anchor of the trailing stop is no less than any
close so far. -/
def AnchorAboveCloses (s : HistoricalSignal) : Prop :=
  ∀ config pre, pre <+: s.priceHistory → (walkOver config s pre).stoppedAt = none →
    ∀ o ∈ pre, o.effectiveClose ≤ (walkOver config s pre).state.highWater

/-- From one prefix that the walk gets through to a longer one, the anchor does not decrease. -/
def AnchorNeverDecreases (s : HistoricalSignal) : Prop :=
  ∀ config pre pre', pre <+: pre' → pre' <+: s.priceHistory →
    (walkOver config s pre').stoppedAt = none →
    (walkOver config s pre).state.highWater ≤ (walkOver config s pre').state.highWater

/-- A walk that gets through a prefix leaves its state behind. -/
theorem walkOver_through {config : Config} {pre : List PriceObservation}
    (h : (walkOver config s pre).stoppedAt = none) :
    GoesThrough (walkTurn config s.market.priceUsd) (stateAfter s) pre ∧
      (walkOver config s pre).state = stateAfter s pre := by
  have hwalk : walkOver config s pre =
      walk (walkTurn config s.market.priceUsd) pre (stateAfter s []) := rfl
  rcases walk_cases (fun p o w hyield => walkTurn_stateAfter_yield config hyield) pre with
    ⟨hthrough, hend⟩ | ⟨p, o, q, w, -, -, -, hend⟩
  · rw [hwalk, hend]
    exact ⟨hthrough, rfl⟩
  · rw [hwalk, hend] at h
    cases h

/-- The anchor of a walk never decreases. -/
theorem anchorNeverDecreases (s : HistoricalSignal) : AnchorNeverDecreases s := by
  intro config pre pre' hprefix _ hthrough
  obtain ⟨hgoes, hstate⟩ := walkOver_through hthrough
  obtain ⟨rest, rfl⟩ := hprefix
  have hwalk : walkOver config s pre = ⟨none, stateAfter s pre⟩ :=
    walk_of_goesThrough hgoes.of_append
  rw [hwalk, hstate]
  exact peak_le_peak_of_prefix ((List.prefix_append pre rest).map _)

/-! ### A patient configuration -/

/-- A configuration whose levels the record never reaches. -/
def patientConfig (s : HistoricalSignal) : Config :=
  { sampleConfig with
    strategy :=
      { sampleConfig.strategy with
        stopLossPct := 200
        takeProfitPct := peak 0 (closeReturns s s.priceHistory) + 1
        trailingStopPct := 200
        maxHoldingMinutes :=
          peak 0 (s.priceHistory.map fun o => numMinutes (o.timestamp - s.signalTimestamp)) + 1 }
    risk := { sampleConfig.risk with minLiquidityUsd := 0 } }

/-- No rule fires between stop and target, above the trailing stop and in time. -/
theorem exitReason_eq_none {p : Position} {price liquidity minLiquidity : Decimal} {now : Time}
    {c : StrategyConfig} (hliquidity : minLiquidity ≤ liquidity) (hentry : 0 < p.entryPriceUsd)
    (hstop : -c.stopLossPct < (price - p.entryPriceUsd) / p.entryPriceUsd * 100)
    (htarget : (price - p.entryPriceUsd) / p.entryPriceUsd * 100 < c.takeProfitPct)
    (htrailing : p.highWaterPriceUsd * (1 - c.trailingStopPct / 100) < price)
    (htime : numMinutes (now - p.entryTime) < c.maxHoldingMinutes) :
    exitReason p price (some liquidity) minLiquidity false now c = none := by
  unfold exitReason
  dsimp only
  rw [if_neg (not_lt.mpr hliquidity), if_neg Bool.false_ne_true, if_neg (not_le.mpr hentry),
    if_neg (not_le.mpr hstop), if_neg (not_le.mpr htarget), if_neg (not_le.mpr htrailing),
    if_neg (not_le.mpr htime)]

/-- Below a stop of twice the price there is no price. -/
theorem patient_clear (hvalid : ValidSignal s) {pre : List PriceObservation} {o : PriceObservation}
    (hpre : ∀ o' ∈ pre, o' ∈ s.priceHistory) (ho : o ∈ s.priceHistory) :
    ambiguityAt (patientConfig s) s.market.priceUsd o (stateAfter s pre) = none := by
  unfold ambiguityAt
  cases hprev : (stateAfter s pre).prev with
  | none => rfl
  | some prev =>
      have hmem : prev ∈ s.priceHistory := hpre prev (List.mem_of_getLast? hprev)
      have hlow := (hvalid.observations o ho).effectiveLow_pos
      have hlow' := (hvalid.observations prev hmem).effectiveLow_pos
      have hprice := hvalid.market_price_pos
      have hstop : ¬min prev.effectiveLow o.effectiveLow ≤ s.market.priceUsd * (1 - 200 / 100) := by
        have hpos := lt_min hlow' hlow
        rw [not_le]
        linarith
      change detectAmbiguity prev o s.market.priceUsd 200 _ = none
      unfold detectAmbiguity
      rw [if_neg (not_le.mpr hprice)]
      exact if_neg fun h => hstop h.1

/-- No close is a reason to exit. -/
theorem patient_no_reason (hvalid : ValidSignal s) (pre : List PriceObservation)
    {o : PriceObservation} (ho : o ∈ s.priceHistory) :
    reasonAt (patientConfig s) o (stateAfter s pre) = none := by
  have hprice := hvalid.market_price_pos
  have hobs := hvalid.observations o ho
  have hclose : 0 < o.effectiveClose := by
    unfold PriceObservation.effectiveClose
    cases hgiven : o.closeUsd with
    | none => exact hobs.price_pos
    | some close => exact hobs.close_pos close hgiven
  have hanchor : 0 < anchorAfter s pre := hprice.trans_le (start_le_peak _ _)
  have hstop : ¬returnAt s o.effectiveClose ≤ -200 := by
    unfold returnAt
    rw [not_le, sub_div, div_self hprice.ne']
    have hpos : 0 < o.effectiveClose / s.market.priceUsd := div_pos hclose hprice
    linarith
  have htarget : ¬returnAt s o.effectiveClose ≥ peak 0 (closeReturns s s.priceHistory) + 1 := by
    have hle : returnAt s o.effectiveClose ≤ peak 0 (closeReturns s s.priceHistory) :=
      le_peak_of_mem (List.mem_map_of_mem ho)
    rw [ge_iff_le, not_le]
    linarith
  have htrailing : ¬o.effectiveClose ≤ anchorAfter s pre * (1 - 200 / 100) := by
    rw [not_le]
    linarith
  have htime : ¬numMinutes (o.timestamp - s.signalTimestamp) ≥
      peak 0 (s.priceHistory.map fun o => numMinutes (o.timestamp - s.signalTimestamp)) + 1 := by
    have hle : numMinutes (o.timestamp - s.signalTimestamp) ≤
        peak 0 (s.priceHistory.map fun o => numMinutes (o.timestamp - s.signalTimestamp)) :=
      le_peak_of_mem (List.mem_map_of_mem ho)
    omega
  exact exitReason_eq_none hobs.liquidity_nonneg hprice (not_le.mp hstop) (not_le.mp htarget)
    (not_le.mp htrailing) (not_le.mp htime)

/-- A patient configuration holds through every valid history. -/
theorem held_patient (hvalid : ValidSignal s) {pre : List PriceObservation}
    (hpre : pre <+: s.priceHistory) : Held (patientConfig s) s pre := by
  intro p o q hsplit
  subst hsplit
  have ho : o ∈ s.priceHistory := hpre.subset (by simp)
  have hp : ∀ o' ∈ p, o' ∈ s.priceHistory := fun o' ho' => hpre.subset (by simp [ho'])
  exact ⟨patient_clear hvalid hp ho, patient_no_reason hvalid p ho⟩

/-- The anchor is above the closes exactly if no close is above its own high and all that came before. -/
theorem anchorAboveCloses_iff (hvalid : ValidSignal s) :
    AnchorAboveCloses s ↔ ∀ p o q, s.priceHistory = p ++ o :: q →
      o.effectiveClose ≤ max (anchorAfter s p) o.effectiveHigh := by
  constructor
  · intro h p o q hsplit
    have hprefix : p ++ [o] <+: s.priceHistory := ⟨q, by rw [hsplit, List.append_assoc]; rfl⟩
    have hwalk : walkOver (patientConfig s) s (p ++ [o]) = ⟨none, stateAfter s (p ++ [o])⟩ :=
      walk_of_goesThrough ((goesThrough_iff_held _).mpr (held_patient hvalid hprefix))
    have hclose := h (patientConfig s) (p ++ [o]) hprefix (by rw [hwalk]) o (by simp)
    rw [hwalk] at hclose
    rw [← anchorAfter_snoc]
    exact hclose
  · intro h config pre hprefix hthrough o ho
    obtain ⟨p, q, rfl⟩ := List.append_of_mem ho
    obtain ⟨rest, hrest⟩ := hprefix
    have hclose := h p o (q ++ rest) (by rw [← hrest, List.append_assoc, List.cons_append])
    have hlater : anchorAfter s (p ++ [o]) ≤ anchorAfter s (p ++ o :: q) :=
      peak_le_peak_of_prefix (List.IsPrefix.map _ ⟨q, by simp⟩)
    rw [(walkOver_through hthrough).2]
    rw [← anchorAfter_snoc] at hclose
    exact hclose.trans hlater

/-- **Candle shape.** In a loaded record the lows are positive and the anchor never decreases. Every candle
is well shaped, and the anchor above the closes behind every prefix, exactly if the opens and the closes
lie in their ranges; the anchor alone is above the closes exactly if no close is above its own high and
all that came before. -/
theorem shape_iff {parse : String → Except String HistoricalSignal}
    {content : Except String String} {loaded : LoadResult}
    (h : loadHistoricalSignals parse content = .ok loaded) (hs : s ∈ loaded.signals) :
    ((∀ o ∈ s.priceHistory, 0 < o.effectiveLow) ∧ AnchorNeverDecreases s) ∧
      (((∀ o ∈ s.priceHistory, WellShaped o) ∧ AnchorAboveCloses s ∧ AnchorNeverDecreases s) ↔
        ∀ o ∈ s.priceHistory, PricesInRange o) ∧
      (AnchorAboveCloses s ↔ ∀ p o q, s.priceHistory = p ++ o :: q →
        o.effectiveClose ≤ max (anchorAfter s p) o.effectiveHigh) := by
  have hvalid := valid_of_loaded h hs
  refine ⟨⟨fun o ho => (hvalid.observations o ho).effectiveLow_pos, anchorNeverDecreases s⟩, ?_,
    anchorAboveCloses_iff hvalid⟩
  constructor
  · rintro ⟨hshape, -⟩ o ho
    exact (wellShaped_iff (hvalid.observations o ho)).mp (hshape o ho)
  · intro hrange
    have hshape : ∀ o ∈ s.priceHistory, WellShaped o := fun o ho =>
      (wellShaped_iff (hvalid.observations o ho)).mpr (hrange o ho)
    refine ⟨hshape, (anchorAboveCloses_iff hvalid).mpr ?_, anchorNeverDecreases s⟩
    intro p o q hsplit
    have ho : o ∈ s.priceHistory := by
      rw [hsplit]
      exact List.mem_append_right p List.mem_cons_self
    exact (hshape o ho).close_le_high.trans (le_max_right _ _)

end Shape

/-! ## A close above its high -/

/-- A candle that closes above its high. -/
def liftedCandle : PriceObservation :=
  { sampleClose 60000 100 with closeUsd := some 115, highUsd := some 105, lowUsd := some 95 }

/-- The sample record with a candle that closes above its high. -/
def liftedSignal : HistoricalSignal := withFuture sampleSignal 0 [liftedCandle]

/-- The sample record is well shaped. -/
theorem shape_iff_sample :
    ∃ loaded, loadHistoricalSignals (fun _ => .ok sampleSignal) (.ok "a") = .ok loaded ∧
      sampleSignal ∈ loaded.signals ∧ ∀ o ∈ sampleSignal.priceHistory, WellShaped o := by
  have hvalid : validateSignal sampleSignal = .ok () := by decide +kernel
  have hloaded := load_one_line hvalid
  have hmem : sampleSignal ∈ [sampleSignal] := List.mem_singleton_self _
  refine ⟨_, hloaded, hmem, ((shape_iff hloaded hmem).2.1.mpr ?_).1⟩
  unfold PricesInRange
  decide +kernel

/-- The loader accepts the record whose candle closes above its high, and behind it the anchor is below
the close. -/
theorem lifted_candle_loaded :
    ∃ loaded, loadHistoricalSignals (fun _ => .ok liftedSignal) (.ok "a") = .ok loaded ∧
      liftedSignal ∈ loaded.signals ∧ ¬(∀ o ∈ liftedSignal.priceHistory, WellShaped o) ∧
      (walkOver sampleConfig liftedSignal liftedSignal.priceHistory).stoppedAt = none ∧
      (walkOver sampleConfig liftedSignal liftedSignal.priceHistory).state.highWater <
        liftedCandle.effectiveClose := by
  refine ⟨_, load_one_line (by decide +kernel), List.mem_singleton_self _, fun hshape => ?_, ?_, ?_⟩
  · have hclose := (hshape liftedCandle (List.mem_singleton_self _)).close_le_high
    revert hclose
    decide +kernel
  all_goals decide +kernel

end SolanaBot.Analysis
