import Mathlib.Tactic.FieldSimp
import Mathlib.Tactic.Ring
import SolanaBot.Analysis.WalkPrefixes

/-!
# Excursions

The excursions of a trade are the extremes of the returns at the closes that the walk has looked at. The
return of the trade lies between them, if it is exited at a close or not at all. At an ambiguous interval
the walk breaks off before the excursions are updated: the exit at the stop level then lies below every
return so far (`excursions_iff`).
-/

set_option autoImplicit false

namespace SolanaBot.Analysis

open SolanaBot.Library SolanaBot.Model

section Excursions

variable {config : Config} {s : HistoricalSignal}

/-- The history reaches an ambiguous interval with all observations in front of it held. -/
def ReachesAmbiguity (config : Config) (s : HistoricalSignal) : Prop :=
  ∃ pre obs post, s.priceHistory = pre ++ obs :: post ∧ Held config s pre ∧
    (ambiguityAt config s.market.priceUsd obs (stateAfter s pre)).isSome

/-- The return at the entry price is zero. -/
theorem returnAt_entry : returnAt s s.market.priceUsd = 0 := by
  unfold returnAt
  rw [sub_self, zero_div, zero_mul]

/-- The return at the stop is the stop's. -/
theorem returnAt_stop (hprice : 0 < s.market.priceUsd) :
    returnAt s (s.market.priceUsd * (1 - config.strategy.stopLossPct / 100)) =
      -config.strategy.stopLossPct := by
  have hne := hprice.ne'
  unfold returnAt
  field_simp
  ring

/-- A held observation returns more than the stop. -/
theorem stop_lt_of_held {l : List PriceObservation} (h : Held config s l) :
    ∀ r ∈ closeReturns s l, -config.strategy.stopLossPct < r := by
  intro r hr
  obtain ⟨o, ho, rfl⟩ := List.mem_map.mp hr
  obtain ⟨p, q, rfl⟩ := List.append_of_mem ho
  obtain ⟨-, hnone⟩ := h p o q rfl
  exact (exitReason_none hnone).2.1

/-- No return and the returns at the closes lie within the excursions. -/
theorem within_excursions {l : List PriceObservation} {r : Decimal}
    (h : r = 0 ∨ r ∈ closeReturns s l) :
    trough 0 (closeReturns s l) ≤ r ∧ r ≤ peak 0 (closeReturns s l) := by
  rcases h with rfl | h
  · exact ⟨trough_le_start 0 _, start_le_peak 0 _⟩
  · exact ⟨trough_le_of_mem h, le_peak_of_mem h⟩

/-- The gross return of a trade is the return at its exit price. -/
theorem settle_grossReturnPct (hprice : 0 < s.market.priceUsd) (hasher : Hasher)
    (costAssumptions : CostAssumptions) (split : Split) (tradeIndex : ℕ) (w : WalkState) :
    (settle hasher config costAssumptions split tradeIndex s w).grossReturnPct =
      if 0 < s.positionUsd then
        returnAt s (if w.exitReasonFound.isNone then s.market.priceUsd else w.exitPrice)
      else 0 := by
  have hne := hprice.ne'
  change (if s.positionUsd > 0 then (s.positionUsd / s.market.priceUsd *
      (if w.exitReasonFound.isNone then s.market.priceUsd else w.exitPrice) - s.positionUsd) /
        s.positionUsd * 100 else 0) = _
  split
  · rename_i hposition
    have hposition' := (gt_iff_lt.mp hposition).ne'
    unfold returnAt
    generalize (if w.exitReasonFound.isNone then s.market.priceUsd else w.exitPrice) = price
    field_simp
  · rfl

/-- The walk that reaches an ambiguous interval books the stop. -/
theorem walkHistory_of_ambiguous {pre : List PriceObservation} {obs : PriceObservation}
    {post : List PriceObservation} {interval : AmbiguousInterval}
    (hhistory : s.priceHistory = pre ++ obs :: post) (hheld : Held config s pre)
    (hambiguous : ambiguityAt config s.market.priceUsd obs (stateAfter s pre) = some interval) :
    (walkHistory config s).state = { stateAfter s pre with
      isAmbiguous := true
      ambiguousReason := some interval
      exitPrice := s.market.priceUsd * (1 - config.strategy.stopLossPct / 100)
      exitTime := obs.timestamp
      exitReasonFound := some .stopLoss } := by
  have hwalk : walkHistory config s =
      walk (walkTurn config s.market.priceUsd) (pre ++ obs :: post) (stateAfter s []) := by
    rw [← hhistory]
    rfl
  rcases walkTurn_cases config s.market.priceUsd obs (stateAfter s pre) with
    ⟨interval', hsome, hturn⟩ | ⟨hnone, _⟩ | ⟨hnone, _⟩
  · rw [hambiguous] at hsome
    obtain rfl := Option.some.inj hsome
    rw [hwalk, walk_of_done ((goesThrough_iff_held config).mpr hheld) hturn]
  · rw [hnone] at hambiguous
    cases hambiguous
  · rw [hnone] at hambiguous
    cases hambiguous

/-- The stop lies below every return of the held observations, unless it is no loss. -/
theorem stop_between_iff {l : List PriceObservation} (hne : l ≠ []) (h : Held config s l) :
    (trough 0 (closeReturns s l) ≤ -config.strategy.stopLossPct ∧
      -config.strategy.stopLossPct ≤ peak 0 (closeReturns s l)) ↔
        config.strategy.stopLossPct ≤ 0 := by
  have hreturns := stop_lt_of_held h
  constructor
  · rintro ⟨htrough, -⟩
    by_contra hstop
    rw [not_le] at hstop
    exact absurd htrough (not_le.mpr (lt_trough_iff.mpr ⟨neg_lt_zero.mpr hstop, hreturns⟩))
  · intro hstop
    obtain ⟨o, rest, rfl⟩ := List.exists_cons_of_ne_nil hne
    have hfirst : returnAt s o.effectiveClose ∈ closeReturns s (o :: rest) := List.mem_cons_self
    exact ⟨(trough_le_start 0 _).trans (neg_nonneg.mpr hstop),
      (hreturns _ hfirst).le.trans (le_peak_of_mem hfirst)⟩

variable {hasher : Hasher} {costAssumptions : CostAssumptions} {split : Split} {tradeIndex : ℕ}

/-- **Excursions.** The gross return of a simulated trade lies within its excursions exactly if the walk
does not reach an ambiguous interval with a position and a stop that are worth something. -/
theorem excursions_iff {trade : SimulatedTrade}
    (h : simulateSignal hasher config costAssumptions split tradeIndex s = some (.ok trade)) :
    (trade.maePct ≤ trade.grossReturnPct ∧ trade.grossReturnPct ≤ trade.mfePct) ↔
      ¬(ReachesAmbiguity config s ∧ 0 < s.positionUsd ∧ 0 < config.strategy.stopLossPct) := by
  obtain ⟨hentered, rfl⟩ := simulateSignal_ok_iff.mp h
  have hprice := price_pos_of_entered hentered
  rw [settle_grossReturnPct hprice]
  change ((walkHistory config s).state.mae ≤ _ ∧ _ ≤ (walkHistory config s).state.mfe) ↔ _
  by_cases hreaches : ReachesAmbiguity config s
  · obtain ⟨pre, obs, post, hhistory, hheld, hsome⟩ := id hreaches
    obtain ⟨interval, hinterval⟩ := Option.isSome_iff_exists.mp hsome
    have hne : pre ≠ [] := by
      rintro rfl
      cases hinterval
    rw [walkHistory_of_ambiguous hhistory hheld hinterval, and_iff_right hreaches]
    dsimp only
    by_cases hposition : 0 < s.positionUsd
    · rw [if_pos hposition, and_iff_right hposition, not_lt, ← stop_between_iff hne hheld]
      rw [← returnAt_stop hprice]
      rfl
    · rw [if_neg hposition]
      exact iff_of_true (within_excursions (.inl rfl)) fun hboth => hposition hboth.1
  · refine iff_of_true ?_ fun hboth => hreaches hboth.1
    rcases walkHistory_cases config (s := s) with
      ⟨hheld, hwalk⟩ | ⟨pre, obs, post, hhistory, hheld, interval, hambiguous, hwalk⟩ |
        ⟨pre, obs, post, hhistory, hheld, hclear, reason, hreason, hwalk⟩
    · -- a censored trade returns nothing
      rw [hwalk]
      refine within_excursions (.inl ?_)
      change (if 0 < s.positionUsd then returnAt s s.market.priceUsd else 0) = 0
      rw [returnAt_entry, ite_self]
    · exact absurd ⟨pre, obs, post, hhistory, hheld, by rw [hambiguous]; rfl⟩ hreaches
    · -- the exit is at a close that has been tracked
      have hlast : returnAt s obs.effectiveClose ∈ closeReturns s (pre ++ [obs]) := by
        rw [closeReturns_snoc]
        exact List.mem_concat_self
      rw [hwalk]
      refine within_excursions (l := pre ++ [obs]) ?_
      change (if 0 < s.positionUsd then returnAt s obs.effectiveClose else 0) = 0 ∨
        (if 0 < s.positionUsd then returnAt s obs.effectiveClose else 0) ∈ _
      split
      · exact .inr hlast
      · exact .inl rfl

end Excursions

/-- The sample record with a wide second candle, which closes where the position was entered. -/
def stoppedSignal : HistoricalSignal :=
  withFuture sampleSignal 0
    [sampleClose 60000 100,
      { sampleClose 120000 100 with highUsd := some 130, lowUsd := some 80 }]

/-- Its trade. -/
def stoppedTrade : SimulatedTrade :=
  settle sampleHasher sampleConfig sampleCosts .train 0 stoppedSignal
    (walkHistory sampleConfig stoppedSignal).state

/-- The sample trade takes its profit at a close, so it has reached no ambiguous interval; the one with
the wide candle has. -/
theorem excursions_iff_sample :
    ¬(ReachesAmbiguity sampleConfig sampleSignal ∧ 0 < sampleSignal.positionUsd ∧
      0 < sampleConfig.strategy.stopLossPct) ∧
    (ReachesAmbiguity sampleConfig stoppedSignal ∧ 0 < stoppedSignal.positionUsd ∧
      0 < sampleConfig.strategy.stopLossPct) := by
  have hsimulated : simulateSignal sampleHasher sampleConfig sampleCosts .train 0 stoppedSignal =
      some (.ok stoppedTrade) := simulateSignal_ok_iff.mpr ⟨by decide +kernel, rfl⟩
  refine ⟨(excursions_iff simulate_sampleSignal).mp (by decide +kernel), ?_⟩
  refine not_not.mp fun hclear => ?_
  have hwithin := (excursions_iff hsimulated).mpr hclear
  revert hwithin
  decide +kernel

/-- The trade loses ten percent at the stop, and its excursions are those of a trade that never lost. -/
theorem stop_outside_excursions :
    sampleConfig.validate = .ok () ∧
      simulateSignal sampleHasher sampleConfig sampleCosts .train 0 stoppedSignal =
        some (.ok stoppedTrade) ∧
      stoppedTrade.grossReturnPct = -10 ∧ stoppedTrade.maePct = 0 ∧
      ¬(stoppedTrade.maePct ≤ stoppedTrade.grossReturnPct ∧
        stoppedTrade.grossReturnPct ≤ stoppedTrade.mfePct) := by
  refine ⟨rfl, simulateSignal_ok_iff.mpr ⟨by decide +kernel, rfl⟩, ?_, ?_, ?_⟩
  all_goals decide +kernel

end SolanaBot.Analysis
