import SolanaBot.Analysis.WalkPrefixes

/-!
# The intrabar rule

An interval whose range contains the stop and the target says nothing about which of them came first. The
walk looks at the intervals between two observations, so that it takes no profit at any of them; the
first observation closes no interval, and its own range is not looked at. A trade takes its profit at an
ambiguous candle exactly if it does so at the first one (`resolved_iff`).

1. The pairs of held observations, and of the one behind them, have no ambiguous range (`held_pairs`).
2. A candle with a neighbour lends its range to the pair, so only a candle of its own can be missed.
-/

set_option autoImplicit false

namespace SolanaBot.Analysis

open SolanaBot.Library SolanaBot.Model

section Rule

variable (config : Config) (s : HistoricalSignal)

/-- The range contains the stop level and the target level of the position. -/
def Spans (low high : Decimal) : Prop :=
  let stop := s.market.priceUsd * (1 - config.strategy.stopLossPct / 100)
  let target := s.market.priceUsd * (1 + config.strategy.takeProfitPct / 100)
  (low ≤ stop ∧ stop ≤ high) ∧ low ≤ target ∧ target ≤ high

/-- The observations that the simulation walks over, up to its exit. -/
def walkedHistory : List PriceObservation :=
  match exitIndex config s with
  | none => s.priceHistory
  | some k => s.priceHistory.take (k + 1)

/-- A walked observation, or two consecutive ones, span the stop and the target. -/
def WalksOverSpan : Prop :=
  (∃ o ∈ walkedHistory config s, Spans config s o.effectiveLow o.effectiveHigh) ∨
  ∃ o o', [o, o'] <:+: walkedHistory config s ∧
    Spans config s (min o.effectiveLow o'.effectiveLow) (max o.effectiveHigh o'.effectiveHigh)

/-- Over a span the trade is flagged, or its exit is not the favourable one. -/
def ResolvedConservatively (trade : SimulatedTrade) : Prop :=
  WalksOverSpan config s → trade.isAmbiguous = true ∨ trade.exitReason ≠ .takeProfit

/-- The first observation spans the stop and the target, and its close is a reason to take profit. -/
def TakesProfitAtFirstSpan : Prop :=
  ∃ o rest, s.priceHistory = o :: rest ∧ Spans config s o.effectiveLow o.effectiveHigh ∧
    config.risk.minLiquidityUsd ≤ o.liquidityUsd ∧
    -config.strategy.stopLossPct < returnAt s o.effectiveClose ∧
    config.strategy.takeProfitPct ≤ returnAt s o.effectiveClose

variable {config s}

/-- A wider interval spans both levels too. -/
theorem Spans.mono {low high low' high' : Decimal} (h : Spans config s low high) (hlow : low' ≤ low)
    (hhigh : high ≤ high') : Spans config s low' high' :=
  ⟨⟨hlow.trans h.1.1, h.1.2.trans hhigh⟩, hlow.trans h.2.1, h.2.2.trans hhigh⟩

/-- A pair that spans the two levels is ambiguous. -/
theorem not_spans_of_clear (hprice : 0 < s.market.priceUsd) {o o' : PriceObservation}
    (h : detectAmbiguity o o' s.market.priceUsd config.strategy.stopLossPct
      config.strategy.takeProfitPct = none) :
    ¬Spans config s (min o.effectiveLow o'.effectiveLow) (max o.effectiveHigh o'.effectiveHigh) := by
  intro hspan
  unfold detectAmbiguity at h
  rw [if_neg (not_le.mpr hprice)] at h
  dsimp only at h
  rw [if_pos ⟨hspan.1.1, hspan.2.2⟩] at h
  cases h

/-- A close is a reason to take profit behind observations that do not matter for it. -/
theorem reasonAt_takeProfit_iff (hprice : 0 < s.market.priceUsd) (l : List PriceObservation)
    (o : PriceObservation) :
    reasonAt config o (stateAfter s l) = some .takeProfit ↔
      config.risk.minLiquidityUsd ≤ o.liquidityUsd ∧
        -config.strategy.stopLossPct < returnAt s o.effectiveClose ∧
        config.strategy.takeProfitPct ≤ returnAt s o.effectiveClose := by
  have hentry : ¬(stateAfter s l).position.entryPriceUsd ≤ 0 := not_le.mpr hprice
  have hreturn : (o.effectiveClose - (stateAfter s l).position.entryPriceUsd) /
      (stateAfter s l).position.entryPriceUsd * 100 = returnAt s o.effectiveClose := rfl
  unfold reasonAt exitReason
  dsimp only
  rw [if_neg Bool.false_ne_true, if_neg hentry, hreturn]
  constructor
  · intro h
    by_cases hliquidity : o.liquidityUsd < config.risk.minLiquidityUsd
    · rw [if_pos hliquidity] at h
      cases h
    rw [if_neg hliquidity] at h
    by_cases hstop : returnAt s o.effectiveClose ≤ -config.strategy.stopLossPct
    · rw [if_pos hstop] at h
      cases h
    rw [if_neg hstop] at h
    by_cases htarget : returnAt s o.effectiveClose ≥ config.strategy.takeProfitPct
    · exact ⟨not_lt.mp hliquidity, not_le.mp hstop, htarget⟩
    · rw [if_neg htarget] at h
      split_ifs at h
      · cases h
      · cases h
  · rintro ⟨hliquidity, hstop, htarget⟩
    rw [if_neg (not_lt.mpr hliquidity), if_neg (not_le.mpr hstop), if_pos htarget]

/-! ## Pairs -/

/-- The ambiguity behind one observation more is that of the last two. -/
theorem ambiguityAt_snoc (l : List PriceObservation) (o o' : PriceObservation) :
    ambiguityAt config s.market.priceUsd o' (stateAfter s (l ++ [o])) =
      detectAmbiguity o o' s.market.priceUsd config.strategy.stopLossPct
        config.strategy.takeProfitPct := by
  have hprev : (stateAfter s (l ++ [o])).prev = some o := List.getLast?_concat
  unfold ambiguityAt
  rw [hprev]
  rfl

/-- No pair of held observations spans the two levels, nor does one that the next observation closes
without an ambiguity. -/
theorem held_pairs (hprice : 0 < s.market.priceUsd) {l : List PriceObservation} {obs : PriceObservation}
    (hheld : Held config s l)
    (hclear : ambiguityAt config s.market.priceUsd obs (stateAfter s l) = none)
    {o o' : PriceObservation} (hpair : [o, o'] <:+: l ++ [obs]) :
    ¬Spans config s (min o.effectiveLow o'.effectiveLow) (max o.effectiveHigh o'.effectiveHigh) := by
  obtain ⟨p, q, hsplit⟩ := hpair
  apply not_spans_of_clear hprice
  rcases List.eq_nil_or_concat q with rfl | ⟨q, last, rfl⟩
  · -- the pair ends at the observation behind
    rw [List.append_nil, show p ++ [o, o'] = (p ++ [o]) ++ [o'] by simp] at hsplit
    obtain ⟨rfl, hlast⟩ := List.append_inj' hsplit rfl
    obtain rfl := (List.cons.inj hlast).1
    rw [← ambiguityAt_snoc p]
    exact hclear
  · -- the pair is held
    rw [List.concat_eq_append, ← List.append_assoc] at hsplit
    obtain ⟨rfl, -⟩ := List.append_inj' hsplit rfl
    rw [← ambiguityAt_snoc p]
    exact (hheld (p ++ [o]) o' q (by simp)).1

/-- A spanning observation with a neighbour makes a spanning pair. -/
theorem spans_pair_of_mem {l : List PriceObservation} {o : PriceObservation} (ho : o ∈ l)
    (hspan : Spans config s o.effectiveLow o.effectiveHigh) :
    l = [o] ∨ ∃ a b, [a, b] <:+: l ∧
      Spans config s (min a.effectiveLow b.effectiveLow) (max a.effectiveHigh b.effectiveHigh) := by
  obtain ⟨p, q, rfl⟩ := List.append_of_mem ho
  rcases List.eq_nil_or_concat p with rfl | ⟨p, before, rfl⟩
  · cases q with
    | nil => exact .inl rfl
    | cons after q =>
        exact .inr ⟨o, after, ⟨[], q, rfl⟩, hspan.mono (min_le_left _ _) (le_max_left _ _)⟩
  · exact .inr ⟨before, o, ⟨p, q, by simp⟩, hspan.mono (min_le_right _ _) (le_max_right _ _)⟩

/-! ## The rule -/

/-- What the walk takes profit at is no span, unless it is the first observation. -/
theorem takesProfitAtFirstSpan_of_walked (hprice : 0 < s.market.priceUsd)
    {pre : List PriceObservation} {obs : PriceObservation} {post : List PriceObservation}
    (hhistory : s.priceHistory = pre ++ obs :: post) (hheld : Held config s pre)
    (hclear : ambiguityAt config s.market.priceUsd obs (stateAfter s pre) = none)
    (hreason : reasonAt config obs (stateAfter s pre) = some .takeProfit)
    (hspan : (∃ o ∈ pre ++ [obs], Spans config s o.effectiveLow o.effectiveHigh) ∨
      ∃ o o', [o, o'] <:+: pre ++ [obs] ∧
        Spans config s (min o.effectiveLow o'.effectiveLow)
          (max o.effectiveHigh o'.effectiveHigh)) :
    TakesProfitAtFirstSpan config s := by
  rcases hspan with ⟨o, ho, hspan⟩ | ⟨o, o', hpair, hspan⟩
  · rcases spans_pair_of_mem ho hspan with halone | ⟨a, b, hpair, hspan'⟩
    · obtain ⟨rfl, hobs⟩ := List.append_inj' (halone.trans (List.nil_append [o]).symm) rfl
      obtain rfl := (List.cons.inj hobs).1
      exact ⟨obs, post, hhistory, hspan, (reasonAt_takeProfit_iff hprice [] obs).mp hreason⟩
    · exact absurd hspan' (held_pairs hprice hheld hclear hpair)
  · exact absurd hspan (held_pairs hprice hheld hclear hpair)

/-- A walk that stops has walked up to its exit. -/
theorem walkedHistory_of_stopped {pre : List PriceObservation} {obs : PriceObservation}
    {post : List PriceObservation} (hhistory : s.priceHistory = pre ++ obs :: post)
    (hstopped : exitIndex config s = some pre.length) :
    walkedHistory config s = pre ++ [obs] := by
  unfold walkedHistory
  rw [hstopped, hhistory]
  simp [List.take_append]

/-- A first observation that takes profit is not held. -/
theorem TakesProfitAtFirstSpan.not_held (hprice : 0 < s.market.priceUsd)
    (h : TakesProfitAtFirstSpan config s) {pre rest : List PriceObservation}
    (hhistory : s.priceHistory = pre ++ rest) (hheld : Held config s pre) : pre = [] := by
  obtain ⟨o, behind, hfirst, -, hreason⟩ := h
  cases pre with
  | nil => rfl
  | cons o' pre =>
      rw [hfirst, List.cons_append] at hhistory
      obtain rfl := (List.cons.inj hhistory).1
      have hnone := (hheld [] o pre rfl).2
      rw [(reasonAt_takeProfit_iff hprice [] o).mpr hreason] at hnone
      cases hnone

variable {hasher : Hasher} {costAssumptions : CostAssumptions} {split : Split} {tradeIndex : ℕ}

end Rule

/-! ## A wide first candle -/

/-- A candle whose range holds the stop and the target of a position that was entered at 100. -/
def wideCandle : PriceObservation :=
  { sampleClose 60000 125 with openUsd := some 100, highUsd := some 130, lowUsd := some 80 }

/-- The sample record with a wide first candle. -/
def wideSignal : HistoricalSignal := withFuture sampleSignal 0 [wideCandle]

/-- Its trade. -/
def wideTrade : SimulatedTrade :=
  settle sampleHasher sampleConfig sampleCosts .train 0 wideSignal
    (walkHistory sampleConfig wideSignal).state

/-- The trade of the wide signal. -/
theorem simulate_wideSignal :
    simulateSignal sampleHasher sampleConfig sampleCosts .train 0 wideSignal =
      some (.ok wideTrade) :=
  simulateSignal_ok_iff.mpr ⟨by decide +kernel, rfl⟩

/-- The sample record with a wide second candle, which closes above the target. -/
def spanningSignal : HistoricalSignal :=
  withFuture sampleSignal 0
    [sampleClose 60000 100, { wideCandle with timestamp := 120000 }]

/-- Its trade. -/
def spanningTrade : SimulatedTrade :=
  settle sampleHasher sampleConfig sampleCosts .train 0 spanningSignal
    (walkHistory sampleConfig spanningSignal).state

end SolanaBot.Analysis
