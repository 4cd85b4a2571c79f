import SolanaBot.Analysis.SimulatedExits
import SolanaBot.Library.Peaks

/-!
# Prefixes of the walk

The local variables of the walk over a price history are functions of the observations so far
(`stateAfter`): the previous one is the last of them, the high-water mark is the peak of the highs, and
the excursions are the extremes of the returns. The walk goes through a prefix of the history as long as
no interval is ambiguous and no close gives a reason to exit, and `walkHistory_cases` says where it ends.
-/

set_option autoImplicit false

namespace SolanaBot.Analysis

open SolanaBot.Library SolanaBot.Model

section Prefixes

variable (config : Config) (s : HistoricalSignal)

/-- The return at a price. -/
def returnAt (price : Decimal) : Decimal := (price - s.market.priceUsd) / s.market.priceUsd * 100

/-- The returns at the closes. -/
def closeReturns (l : List PriceObservation) : List Decimal :=
  l.map fun o => returnAt s o.effectiveClose

/-- The anchor of the trailing stop behind observations that were held. -/
def anchorAfter (l : List PriceObservation) : Decimal :=
  peak s.market.priceUsd (l.map PriceObservation.effectiveHigh)

/-- The local variables behind observations that were held. -/
def stateAfter (l : List PriceObservation) : WalkState :=
  { prev := l.getLast?
    position :=
      { buildPosition s s.market.priceUsd s.signalTimestamp with highWaterPriceUsd := anchorAfter s l }
    highWater := anchorAfter s l
    exitPrice := s.market.priceUsd
    exitTime := s.signalTimestamp
    exitReasonFound := none
    mfe := peak 0 (closeReturns s l)
    mae := trough 0 (closeReturns s l)
    isAmbiguous := false
    ambiguousReason := none }

/-- The observations are held one after the other: no interval is ambiguous, and no close gives a
reason to exit. -/
def Held (l : List PriceObservation) : Prop :=
  ∀ p o q, l = p ++ o :: q →
    ambiguityAt config s.market.priceUsd o (stateAfter s p) = none ∧
      reasonAt config o (stateAfter s p) = none

/-- The returns at one close more. -/
theorem closeReturns_snoc (l : List PriceObservation) (o : PriceObservation) :
    closeReturns s (l ++ [o]) = closeReturns s l ++ [returnAt s o.effectiveClose] := List.map_append

/-- The anchor behind one observation more. -/
theorem anchorAfter_snoc (l : List PriceObservation) (o : PriceObservation) :
    anchorAfter s (l ++ [o]) = max (anchorAfter s l) o.effectiveHigh := by
  unfold anchorAfter
  rw [List.map_append, peak_append]
  rfl

/-- Tracking an observation takes its return into the excursions. -/
theorem track_stateAfter (l : List PriceObservation) (o : PriceObservation) :
    (stateAfter s l).track o.effectiveClose s.market.priceUsd =
      { stateAfter s l with
        mfe := peak 0 (closeReturns s (l ++ [o]))
        mae := trough 0 (closeReturns s (l ++ [o])) } := by
  have hmfe : (if returnAt s o.effectiveClose > (stateAfter s l).mfe then
      returnAt s o.effectiveClose else (stateAfter s l).mfe) =
        peak 0 (closeReturns s (l ++ [o])) := by
    rw [closeReturns_snoc, peak_append]
    exact (max_def_lt _ _).symm
  have hmae : (if returnAt s o.effectiveClose < (stateAfter s l).mae then
      returnAt s o.effectiveClose else (stateAfter s l).mae) =
        trough 0 (closeReturns s (l ++ [o])) := by
    rw [closeReturns_snoc, trough_append]
    exact ((min_comm _ _).trans (min_def_lt _ _)).symm
  rw [← hmfe, ← hmae]
  rfl

/-- A turn that goes on leads to the state behind one more observation. -/
theorem raise_track_stateAfter (l : List PriceObservation) (o : PriceObservation) :
    ((stateAfter s l).track o.effectiveClose s.market.priceUsd).raise o = stateAfter s (l ++ [o]) := by
  have hlast : (l ++ [o]).getLast? = some o := List.getLast?_concat
  have hanchor := anchorAfter_snoc s l o
  rw [track_stateAfter]
  unfold WalkState.raise
  dsimp only
  split
  · rename_i hgt
    rw [max_eq_right (show anchorAfter s l ≤ _ from le_of_lt hgt)] at hanchor
    unfold stateAfter
    rw [hanchor, hlast]
  · rename_i hle
    rw [max_eq_left (show _ ≤ anchorAfter s l from not_lt.mp hle)] at hanchor
    unfold stateAfter
    rw [hanchor, hlast]

/-! ## The walk -/

variable {s}

/-- What a turn behind held observations does. -/
theorem walkTurn_stateAfter_yield {l : List PriceObservation} {o : PriceObservation} {w : WalkState}
    (h : walkTurn config s.market.priceUsd o (stateAfter s l) = .yield w) :
    w = stateAfter s (l ++ [o]) := by
  rcases walkTurn_cases config s.market.priceUsd o (stateAfter s l) with
    ⟨_, _, hturn⟩ | ⟨_, _, _, hturn⟩ | ⟨_, _, hturn⟩
  · rw [hturn] at h
    cases h
  · rw [hturn] at h
    cases h
  · rw [hturn, raise_track_stateAfter] at h
    exact (ForInStep.yield.inj h).symm

/-- The walk goes through the observations that are held. -/
theorem goesThrough_iff_held {l : List PriceObservation} :
    GoesThrough (walkTurn config s.market.priceUsd) (stateAfter s) l ↔ Held config s l := by
  constructor
  · intro h p o q hl
    have hyield := h p o q hl
    rcases walkTurn_cases config s.market.priceUsd o (stateAfter s p) with
      ⟨_, _, hturn⟩ | ⟨_, _, _, hturn⟩ | ⟨hclear, hheld, _⟩
    · rw [hturn] at hyield
      cases hyield
    · rw [hturn] at hyield
      cases hyield
    · exact ⟨hclear, hheld⟩
  · intro h p o q hl
    obtain ⟨hclear, hheld⟩ := h p o q hl
    rcases walkTurn_cases config s.market.priceUsd o (stateAfter s p) with
      ⟨_, hsome, _⟩ | ⟨_, _, hsome, _⟩ | ⟨_, _, hturn⟩
    · rw [hclear] at hsome
      cases hsome
    · rw [hheld] at hsome
      cases hsome
    · rw [hturn, raise_track_stateAfter]

/-- **Ends of a walk.** It holds the whole history, or breaks off behind held observations, at an
ambiguous interval or at a close with a reason to exit. -/
theorem walkHistory_cases :
    (Held config s s.priceHistory ∧
      walkHistory config s = ⟨none, stateAfter s s.priceHistory⟩) ∨
    (∃ pre obs post, s.priceHistory = pre ++ obs :: post ∧ Held config s pre ∧
      ∃ interval, ambiguityAt config s.market.priceUsd obs (stateAfter s pre) = some interval ∧
        walkHistory config s = ⟨some pre.length, { stateAfter s pre with
          isAmbiguous := true
          ambiguousReason := some interval
          exitPrice := s.market.priceUsd * (1 - config.strategy.stopLossPct / 100)
          exitTime := obs.timestamp
          exitReasonFound := some .stopLoss }⟩) ∨
    (∃ pre obs post, s.priceHistory = pre ++ obs :: post ∧ Held config s pre ∧
      ambiguityAt config s.market.priceUsd obs (stateAfter s pre) = none ∧
      ∃ reason, reasonAt config obs (stateAfter s pre) = some reason ∧
        walkHistory config s = ⟨some pre.length, { stateAfter s pre with
          mfe := peak 0 (closeReturns s (pre ++ [obs]))
          mae := trough 0 (closeReturns s (pre ++ [obs]))
          exitPrice := obs.effectiveClose
          exitTime := obs.timestamp
          exitReasonFound := some reason }⟩) := by
  have hwalk : walkHistory config s =
      walk (walkTurn config s.market.priceUsd) s.priceHistory (stateAfter s []) := rfl
  rcases walk_cases (fun p o w h => walkTurn_stateAfter_yield config h) s.priceHistory with
    ⟨hthrough, hend⟩ | ⟨pre, obs, post, w, hsplit, hthrough, hdone, hend⟩
  · exact .inl ⟨(goesThrough_iff_held config).mp hthrough, hwalk.trans hend⟩
  · have hheld := (goesThrough_iff_held config).mp hthrough
    rw [hend] at hwalk
    rcases walkTurn_cases config s.market.priceUsd obs (stateAfter s pre) with
      ⟨interval, hambiguous, hturn⟩ | ⟨hclear, reason, hreason, hturn⟩ | ⟨_, _, hturn⟩
    · rw [hturn] at hdone
      obtain rfl := ForInStep.done.inj hdone
      exact .inr (.inl ⟨pre, obs, post, hsplit, hheld, interval, hambiguous, hwalk⟩)
    · rw [hturn, track_stateAfter] at hdone
      obtain rfl := ForInStep.done.inj hdone
      exact .inr (.inr ⟨pre, obs, post, hsplit, hheld, hclear, reason, hreason, hwalk⟩)
    · rw [hturn] at hdone
      cases hdone

end Prefixes

end SolanaBot.Analysis
