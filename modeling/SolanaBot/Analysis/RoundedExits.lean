import Mathlib.Tactic.FieldSimp
import Mathlib.Tactic.Ring
import SolanaBot.Analysis.SimulatedExits
import SolanaBot.Library.Peaks
import SolanaBot.Model.DecimalText
import SolanaBot.Model.RoundedExits

/-!
# Simulated exits and the last digit

On candles without a range the walk of the simulation and the exit loop of the live bot decide on the same
marks: behind the same closes they hold the same entry and the same high-water mark
(`walkTurn_walkBehind`, `liveTurn_liveBehind`). They part where two closes in a row cover both levels, of
which only the simulation knows (`exits_alike_iff`).

In exact arithmetic that never happens behind a close that was held (`exits_alike_exact`): its return lies
strictly between the stop and the target, and so does its price between the levels. A rounded return and a
rounded level do not agree in their last digit.
-/

set_option autoImplicit false

namespace SolanaBot.Analysis

open SolanaBot.Library SolanaBot.Model

/-! ## Decisions -/

/-- A candle without a range: its high and its low are its close. -/
structure CloseOnly (obs : PriceObservation) : Prop where
  high : obs.effectiveHigh = obs.effectiveClose
  low : obs.effectiveLow = obs.effectiveClose

/-- The candles up to one of them have no range if none has. -/
theorem closeOnly_of_split {l held rest : List PriceObservation} {obs : PriceObservation}
    (hclose : ∀ o ∈ l, CloseOnly o) (hsplit : l = held ++ obs :: rest) :
    ∀ o ∈ held ++ [obs], CloseOnly o := by
  intro o ho
  apply hclose
  rw [hsplit]
  simp only [List.mem_append, List.mem_cons, List.not_mem_nil, or_false] at ho ⊢
  tauto

section Decisions

variable (round : Decimal → Decimal) (config : Config) (s : HistoricalSignal)

/-- The position behind the closes that were held: the high-water mark is the highest of them. -/
def positionBehind (held : List PriceObservation) : Position :=
  { buildPosition s s.market.priceUsd s.signalTimestamp with
    highWaterPriceUsd := peak s.market.priceUsd (held.map PriceObservation.effectiveClose) }

/-- The reason to exit at the next close. -/
def reasonBehind (held : List PriceObservation) (obs : PriceObservation) : Option ExitReason :=
  Rounded.exitReason round (positionBehind s held) obs.effectiveClose (some obs.liquidityUsd)
    config.risk.minLiquidityUsd false obs.timestamp config.strategy

/-- One of the closes gave a reason to exit. -/
def GivesReason (l : List PriceObservation) : Prop :=
  ∃ held obs rest, l = held ++ obs :: rest ∧ reasonBehind round config s held obs ≠ none

/-- The two closes reach from the level of the stop to the level of the target. -/
def CoversLevels (prev curr : PriceObservation) : Prop :=
  min prev.effectiveClose curr.effectiveClose ≤
      Rounded.levelBelow round s.market.priceUsd config.strategy.stopLossPct ∧
    Rounded.levelAbove round s.market.priceUsd config.strategy.takeProfitPct ≤
      max prev.effectiveClose curr.effectiveClose

/-- Two closes in a row cover both levels behind a reason to exit only. -/
def CoversBehindExit : Prop :=
  ∀ held prev curr rest, s.priceHistory = held ++ prev :: curr :: rest →
    CoversLevels round config s prev curr → GivesReason round config s (held ++ [prev])

variable {round config s}

/-- A longer history gives the reasons of a shorter one. -/
theorem GivesReason.append {l : List PriceObservation} (h : GivesReason round config s l)
    (l' : List PriceObservation) : GivesReason round config s (l ++ l') := by
  obtain ⟨held, obs, rest, rfl, hreason⟩ := h
  exact ⟨held, obs, rest ++ l', by simp, hreason⟩

/-- The high-water mark with one more close. -/
theorem positionBehind_snoc (held : List PriceObservation) (obs : PriceObservation) :
    (positionBehind s (held ++ [obs])).highWaterPriceUsd =
      max (positionBehind s held).highWaterPriceUsd obs.effectiveClose := by
  unfold positionBehind
  dsimp only
  rw [List.map_append, peak_append]
  rfl

end Decisions

/-! ## The walk -/

section Walk

variable (round : Decimal → Decimal) (s : HistoricalSignal)

/-- The local variables of the walk behind the closes that were held. -/
def walkBehind (held : List PriceObservation) : WalkState :=
  held.foldl (fun w obs =>
      (Rounded.track round w obs.effectiveClose s.market.priceUsd).raise obs)
    (walkStart s s.market.priceUsd s.signalTimestamp)

variable {round s}

/-- What the walk has behind closes that were held. -/
theorem walkBehind_fields {held : List PriceObservation} (h : ∀ obs ∈ held, CloseOnly obs) :
    (walkBehind round s held).prev = held.getLast? ∧
      (walkBehind round s held).position = positionBehind s held ∧
      (walkBehind round s held).highWater = (positionBehind s held).highWaterPriceUsd ∧
      (walkBehind round s held).exitReasonFound = none ∧
      (walkBehind round s held).isAmbiguous = false := by
  induction held using List.reverseRecOn with
  | nil => exact ⟨rfl, rfl, rfl, rfl, rfl⟩
  | append_singleton held obs ih =>
      obtain ⟨-, hposition, hwater, hfound, hclear⟩ :=
        ih fun o ho => h o (List.mem_append_left _ ho)
      have hobs : CloseOnly obs := h obs (by simp)
      have hlast : (held ++ [obs]).getLast? = some obs := List.getLast?_concat
      have hmax := positionBehind_snoc (s := s) held obs
      have hnext : walkBehind round s (held ++ [obs]) =
          (Rounded.track round (walkBehind round s held) obs.effectiveClose
            s.market.priceUsd).raise obs := by
        unfold walkBehind
        rw [List.foldl_append]
        rfl
      rw [hnext, hlast]
      unfold WalkState.raise Rounded.track
      dsimp only
      rw [hobs.high, hwater, hposition]
      split
      · rename_i hgt
        rw [max_eq_right (le_of_lt hgt)] at hmax
        refine ⟨rfl, ?_, hmax.symm, hfound, hclear⟩
        rw [← hmax]
        rfl
      · rename_i hle
        rw [max_eq_left (not_lt.mp hle)] at hmax
        refine ⟨rfl, ?_, hmax.symm, hfound, hclear⟩
        unfold positionBehind at hmax ⊢
        dsimp only at hmax ⊢
        rw [hmax]

variable {config : Config}

/-- An interval of two closes is ambiguous exactly if they cover both levels. -/
theorem detectAmbiguity_closeOnly {prev curr : PriceObservation} (hprice : 0 < s.market.priceUsd)
    (hprev : CloseOnly prev) (hcurr : CloseOnly curr) :
    (Rounded.detectAmbiguity round prev curr s.market.priceUsd config.strategy.stopLossPct
      config.strategy.takeProfitPct).isSome ↔ CoversLevels round config s prev curr := by
  unfold Rounded.detectAmbiguity CoversLevels
  rw [if_neg (not_le.mpr hprice)]
  dsimp only
  rw [hprev.low, hprev.high, hcurr.low, hcurr.high]
  split
  · rename_i hcovers
    exact iff_of_true rfl hcovers
  · rename_i hcovers
    exact iff_of_false (by simp) hcovers

/-- What a turn of the walk behind held closes does: it breaks off at an ambiguous interval, breaks off
at the close with its reason, or goes on. -/
theorem walkTurn_walkBehind (hprice : 0 < s.market.priceUsd) {held : List PriceObservation}
    {obs : PriceObservation} (h : ∀ o ∈ held ++ [obs], CloseOnly o) :
    (∃ w, Rounded.walkTurn round config s.market.priceUsd obs (walkBehind round s held) = .done w ∧
      w.isAmbiguous = true ∧
      ∃ prev, held.getLast? = some prev ∧ CoversLevels round config s prev obs) ∨
    ((∀ prev, held.getLast? = some prev → ¬ CoversLevels round config s prev obs) ∧
      match reasonBehind round config s held obs with
      | some reason => ∃ w, Rounded.walkTurn round config s.market.priceUsd obs
            (walkBehind round s held) = .done w ∧
          w.isAmbiguous = false ∧ w.exitReasonFound = some reason ∧
          w.exitPrice = obs.effectiveClose ∧ w.exitTime = obs.timestamp
      | none => Rounded.walkTurn round config s.market.priceUsd obs (walkBehind round s held) =
          .yield (walkBehind round s (held ++ [obs]))) := by
  obtain ⟨hprev, hposition, -, -, hclear⟩ :=
    walkBehind_fields (s := s) fun o ho => h o (List.mem_append_left _ ho)
  have hobs : CloseOnly obs := h obs (by simp)
  have hdetect : ∀ prev, held.getLast? = some prev →
      ((Rounded.detectAmbiguity round prev obs s.market.priceUsd config.strategy.stopLossPct
        config.strategy.takeProfitPct).isSome ↔ CoversLevels round config s prev obs) := by
    intro prev hlast
    have hmem : prev ∈ held := List.mem_of_getLast? hlast
    exact detectAmbiguity_closeOnly hprice (h prev (List.mem_append_left _ hmem)) hobs
  unfold Rounded.walkTurn
  dsimp only
  rw [hprev]
  cases hinterval : held.getLast?.bind fun prev =>
      Rounded.detectAmbiguity round prev obs s.market.priceUsd config.strategy.stopLossPct
        config.strategy.takeProfitPct with
  | some interval =>
      obtain ⟨prev, hlast, hsome⟩ := Option.bind_eq_some_iff.mp hinterval
      refine .inl ⟨_, rfl, rfl, prev, hlast, ?_⟩
      apply (hdetect prev hlast).mp
      rw [hsome]
      rfl
  | none =>
      refine .inr ⟨?_, ?_⟩
      · intro prev hlast hcovers
        have hsome := (hdetect prev hlast).mpr hcovers
        rw [hlast, Option.bind_some] at hinterval
        rw [hinterval] at hsome
        cases hsome
      · have hreason : Rounded.exitReason round
            (Rounded.track round (walkBehind round s held) obs.effectiveClose
              s.market.priceUsd).position obs.effectiveClose (some obs.liquidityUsd)
            config.risk.minLiquidityUsd false obs.timestamp config.strategy =
              reasonBehind round config s held obs := by
          unfold reasonBehind
          rw [← hposition]
          rfl
        rw [hreason]
        cases reasonBehind round config s held obs with
        | some reason => exact ⟨_, rfl, hclear, rfl, rfl, rfl⟩
        | none =>
            unfold walkBehind
            rw [List.foldl_append]
            rfl

end Walk

/-! ## The live loop -/

section Live

variable (round : Decimal → Decimal) (config : Config) (s : HistoricalSignal)

/-- One turn of the live loop with rounded arithmetic. RUST: runtime.rs:1389-1408. -/
def roundedLiveTurn (mint : String) (obs : PriceObservation) (l : LiveLoop) : ForInStep LiveLoop :=
  match l.portfolio.position mint with
  | none => .yield l
  | some position =>
      let marked := Rounded.markToMarket round l.portfolio mint obs.effectiveClose
      match marked.1 with
      | .error _ => .yield { l with portfolio := marked.2 }
      | .ok _ =>
          match Rounded.exitReason round position obs.effectiveClose (some obs.liquidityUsd)
              config.risk.minLiquidityUsd false obs.timestamp config.strategy with
          | none => .yield { l with portfolio := marked.2 }
          | some reason =>
              .done { portfolio := marked.2
                      decision := some
                        { reason, price := obs.effectiveClose, time := obs.timestamp } }

/-- The live loop on the position of a signal and on the price history behind it. -/
def roundedLiveHistory : Walked LiveLoop :=
  walk (roundedLiveTurn round config s.mint) s.priceHistory
    { portfolio :=
        Portfolio.empty.syncPosition (buildPosition s s.market.priceUsd s.signalTimestamp)
      decision := none }

/-- In exact arithmetic the live loop is that of the exact model. -/
theorem roundedLiveHistory_exact : roundedLiveHistory id = liveHistory := rfl

/-- The live loop behind the closes that were held. -/
def liveBehind (held : List PriceObservation) : LiveLoop :=
  { portfolio := held.foldl
      (fun pf obs => (Rounded.markToMarket round pf s.mint obs.effectiveClose).2)
      (Portfolio.empty.syncPosition (buildPosition s s.market.priceUsd s.signalTimestamp))
    decision := none }

/-- A mark needs a known remaining quantity and a known entry cost. -/
structure Markable (p : Position) : Prop where
  remaining : p.remainingQuantityAtomic.isSome
  entryCost : p.entryCostUsd.isSome

variable {round config s}

/-- A markable position is marked: its high-water mark is raised, and what a decision reads
besides stays. -/
theorem markToMarket_of_markable {pf : Portfolio} {mint : String} {p : Position} (price : Decimal)
    (hp : pf.position mint = some p) (hmark : Markable p) :
    ∃ value q, (Rounded.markToMarket round pf mint price).1 = .ok value ∧
      (Rounded.markToMarket round pf mint price).2.position mint = some q ∧ Markable q ∧
      q.entryPriceUsd = p.entryPriceUsd ∧ q.entryTime = p.entryTime ∧
      q.highWaterPriceUsd = max p.highWaterPriceUsd price := by
  obtain ⟨remaining, hremaining⟩ := Option.isSome_iff_exists.mp hmark.remaining
  obtain ⟨entryCost, hcost⟩ := Option.isSome_iff_exists.mp hmark.entryCost
  obtain rfl := Table.find?_key hp
  unfold Rounded.markToMarket
  simp only [hp, hremaining, hcost]
  exact ⟨_, _, rfl, Table.find?_put_self _ _, ⟨rfl, rfl⟩, rfl, rfl, rfl⟩

/-- The live loop has the position behind the closes that were held, as far as a decision reads it. -/
theorem liveBehind_position (held : List PriceObservation) :
    ∃ p, (liveBehind round s held).portfolio.position s.mint = some p ∧ Markable p ∧
      p.entryPriceUsd = (positionBehind s held).entryPriceUsd ∧
      p.entryTime = (positionBehind s held).entryTime ∧
      p.highWaterPriceUsd = (positionBehind s held).highWaterPriceUsd := by
  induction held using List.reverseRecOn with
  | nil =>
      have hfind : (liveBehind round s []).portfolio.position s.mint =
          some (buildPosition s s.market.priceUsd s.signalTimestamp) :=
        Table.find?_put_self Portfolio.empty.positions
          (buildPosition s s.market.priceUsd s.signalTimestamp)
      exact ⟨_, hfind, ⟨rfl, rfl⟩, rfl, rfl, rfl⟩
  | append_singleton held obs ih =>
      obtain ⟨p, hp, hmark, hentry, htime, hhigh⟩ := ih
      obtain ⟨-, q, -, hq, hmarkq, hentryq, htimeq, hhighq⟩ :=
        @markToMarket_of_markable round _ _ _ obs.effectiveClose hp hmark
      have hnext : (liveBehind round s (held ++ [obs])).portfolio =
          (Rounded.markToMarket round (liveBehind round s held).portfolio s.mint
            obs.effectiveClose).2 := by
        unfold liveBehind
        dsimp only
        rw [List.foldl_append]
        rfl
      refine ⟨q, ?_, hmarkq, hentryq.trans hentry, htimeq.trans htime, ?_⟩
      · rw [hnext]
        exact hq
      · rw [hhighq, hhigh, positionBehind_snoc]

/-- What a turn of the live loop behind held closes does: it decides for the reason, or goes on. -/
theorem liveTurn_liveBehind (held : List PriceObservation) (obs : PriceObservation) :
    match reasonBehind round config s held obs with
    | some reason => ∃ l, roundedLiveTurn round config s.mint obs (liveBehind round s held) =
          .done l ∧
        l.decision = some { reason, price := obs.effectiveClose, time := obs.timestamp }
    | none => roundedLiveTurn round config s.mint obs (liveBehind round s held) =
        .yield (liveBehind round s (held ++ [obs])) := by
  obtain ⟨p, hp, hmark, hentry, htime, hhigh⟩ := @liveBehind_position round s held
  obtain ⟨value, -, hvalue, -⟩ :=
    @markToMarket_of_markable round _ _ _ obs.effectiveClose hp hmark
  have hreason : Rounded.exitReason round p obs.effectiveClose (some obs.liquidityUsd)
      config.risk.minLiquidityUsd false obs.timestamp config.strategy =
        reasonBehind round config s held obs :=
    Rounded.exitReason_congr hentry htime hhigh _ _ _ _ _ _
  unfold roundedLiveTurn
  simp only [hp, hvalue, hreason]
  cases reasonBehind round config s held obs with
  | some reason => exact ⟨_, rfl, rfl⟩
  | none =>
      unfold liveBehind
      rw [List.foldl_append]
      rfl

end Live

/-! ## The simulation and the live loop -/

/-- A simulated trade exits as the live loop does: it is not ambiguous, the walk stops where the live
loop decides, with its reason, price and time, and it is censored exactly if that never decides. -/
def ExitsAlike (trade : SimulatedTrade) (stoppedAt : Option ℕ) (live : Walked LiveLoop) : Prop :=
  trade.isAmbiguous = false ∧ stoppedAt = live.stoppedAt ∧
    (trade.isCensored = true ↔ live.state.decision = none) ∧
    ∀ d, live.state.decision = some d →
      trade.exitReason = d.reason ∧ trade.exitPriceUsd = d.price ∧ trade.exitTime = d.time

section Refinement

variable {round : Decimal → Decimal} {config : Config} {s : HistoricalSignal}

/-- The live loop goes through the closes as long as none gives a reason. -/
theorem live_goesThrough_iff {l : List PriceObservation} :
    GoesThrough (roundedLiveTurn round config s.mint) (liveBehind round s) l ↔
      ¬ GivesReason round config s l := by
  constructor
  · rintro h ⟨held, obs, rest, hsplit, hreason⟩
    have hyield := h held obs rest hsplit
    have hturn := @liveTurn_liveBehind round config s held obs
    obtain ⟨reason, hsome⟩ := Option.ne_none_iff_exists'.mp hreason
    rw [hsome] at hturn
    obtain ⟨l', hdone, -⟩ := hturn
    rw [hdone] at hyield
    cases hyield
  · intro h held obs rest hsplit
    have hturn := @liveTurn_liveBehind round config s held obs
    have hnone : reasonBehind round config s held obs = none := by
      by_contra hreason
      exact h ⟨held, obs, rest, hsplit, hreason⟩
    rw [hnone] at hturn
    exact hturn

variable (hprice : 0 < s.market.priceUsd) (hclose : ∀ obs ∈ s.priceHistory, CloseOnly obs)
include hprice hclose

/-- Where the walk goes through, no close gave a reason and no two in a row cover both levels. -/
theorem not_of_walk_goesThrough {l rest : List PriceObservation} (hl : s.priceHistory = l ++ rest)
    (h : GoesThrough (Rounded.walkTurn round config s.market.priceUsd) (walkBehind round s) l) :
    ¬ GivesReason round config s l ∧
      ∀ held prev curr after, l = held ++ prev :: curr :: after →
        ¬ CoversLevels round config s prev curr := by
  have hturn : ∀ held obs after, l = held ++ obs :: after →
      (∀ prev, held.getLast? = some prev → ¬ CoversLevels round config s prev obs) ∧
        reasonBehind round config s held obs = none := by
    intro held obs after hsplit
    have hyield := h held obs after hsplit
    have hmem : ∀ o ∈ held ++ [obs], CloseOnly o := by
      apply closeOnly_of_split hclose
      rw [hl, hsplit, List.append_assoc, List.cons_append]
    rcases walkTurn_walkBehind hprice hmem with
      ⟨w, hdone, -⟩ | ⟨hclear, hreason⟩
    · rw [hdone] at hyield
      cases hyield
    · refine ⟨hclear, ?_⟩
      cases hsome : reasonBehind round config s held obs with
      | none => rfl
      | some reason =>
          rw [hsome] at hreason
          obtain ⟨w, hdone, -⟩ := hreason
          rw [hdone] at hyield
          cases hyield
  constructor
  · rintro ⟨held, obs, after, hsplit, hreason⟩
    exact hreason (hturn held obs after hsplit).2
  · intro held prev curr after hsplit
    have hsplit' : l = (held ++ [prev]) ++ curr :: after := by
      rw [hsplit, List.append_assoc, List.singleton_append]
    exact (hturn (held ++ [prev]) curr after hsplit').1 prev List.getLast?_concat

omit hprice hclose in
/-- A turn that goes on leads behind one more close. -/
theorem walkTurn_yield (held : List PriceObservation) (obs : PriceObservation) (w : WalkState)
    (h : Rounded.walkTurn round config s.market.priceUsd obs (walkBehind round s held) = .yield w) :
    w = walkBehind round s (held ++ [obs]) := by
  unfold Rounded.walkTurn at h
  dsimp only at h
  split at h
  · cases h
  · split at h
    · cases h
    · rw [← ForInStep.yield.inj h]
      unfold walkBehind
      rw [List.foldl_append]
      rfl

omit hprice hclose in
/-- The live loop where no close gives a reason. -/
theorem live_undecided (h : ¬ GivesReason round config s s.priceHistory) :
    roundedLiveHistory round config s = ⟨none, liveBehind round s s.priceHistory⟩ :=
  walk_of_goesThrough (live_goesThrough_iff.mpr h)

omit hprice hclose in
/-- The live loop decides for the first reason. -/
theorem live_decides {held rest : List PriceObservation} {obs : PriceObservation}
    {reason : ExitReason} (hsplit : s.priceHistory = held ++ obs :: rest)
    (h : ¬ GivesReason round config s held) (hreason : reasonBehind round config s held obs = some reason) :
    (roundedLiveHistory round config s).stoppedAt = some held.length ∧
      (roundedLiveHistory round config s).state.decision =
        some { reason, price := obs.effectiveClose, time := obs.timestamp } := by
  have hturn := @liveTurn_liveBehind round config s held obs
  rw [hreason] at hturn
  obtain ⟨l, hdone, hdecision⟩ := hturn
  have hwalk : walk (roundedLiveTurn round config s.mint) (held ++ obs :: rest)
      (liveBehind round s []) = ⟨some held.length, l⟩ :=
    walk_of_done (live_goesThrough_iff.mpr h) hdone
  have hlive : roundedLiveHistory round config s = ⟨some held.length, l⟩ := by
    rw [← hsplit] at hwalk
    exact hwalk
  rw [hlive]
  exact ⟨rfl, hdecision⟩

/-- Where both levels are covered behind an exit only, the two loops exit alike. -/
theorem exitsAlike_of_coversBehindExit (hasher : Hasher) (costAssumptions : CostAssumptions)
    (split : Split) (tradeIndex : ℕ) (h : CoversBehindExit round config s) :
    ExitsAlike (settle hasher config costAssumptions split tradeIndex s
        (Rounded.walkHistory round config s).state)
      (Rounded.walkHistory round config s).stoppedAt (roundedLiveHistory round config s) := by
  have hwalk : Rounded.walkHistory round config s =
      walk (Rounded.walkTurn round config s.market.priceUsd) s.priceHistory
        (walkBehind round s []) := rfl
  rcases walk_cases walkTurn_yield s.priceHistory with
    ⟨hthrough, hend⟩ | ⟨held, obs, rest, w, hsplit, hthrough, hdone, hend⟩
  · obtain ⟨hnone, -⟩ :=
      not_of_walk_goesThrough hprice hclose (List.append_nil _).symm hthrough
    obtain ⟨-, -, -, hfound, hclear⟩ := walkBehind_fields hclose
    rw [hwalk, hend, live_undecided hnone]
    refine ⟨hclear, rfl, ?_, ?_⟩
    · simp only [settle, hfound, Option.isNone_none, liveBehind]
    · intro d hd
      cases hd
  · obtain ⟨hnone, -⟩ := not_of_walk_goesThrough hprice hclose hsplit hthrough
    have hmem := closeOnly_of_split hclose hsplit
    rw [hwalk, hend]
    rcases walkTurn_walkBehind hprice hmem with
      ⟨-, -, -, prev, hlast, hcovers⟩ | ⟨-, hturn⟩
    · -- both levels are covered, and no close before gave a reason
      obtain ⟨before, rfl⟩ := List.getLast?_eq_some_iff.mp hlast
      rw [List.append_assoc, List.singleton_append] at hsplit
      exact absurd (h before prev obs rest hsplit hcovers) hnone
    · cases hreason : reasonBehind round config s held obs with
      | none =>
          rw [hreason] at hturn
          dsimp only at hturn
          rw [hturn] at hdone
          cases hdone
      | some reason =>
          rw [hreason] at hturn
          obtain ⟨w', hdone', hclear, hfound, hexit, htime⟩ := hturn
          rw [hdone, ForInStep.done.injEq] at hdone'
          subst hdone'
          obtain ⟨hstopped, hdecision⟩ := live_decides hsplit hnone hreason
          refine ⟨hclear, hstopped.symm, ?_, ?_⟩
          · simp [settle, hfound, hdecision]
          · intro d hd
            rw [hdecision, Option.some.injEq] at hd
            subst hd
            simp only [settle, hfound, Option.isNone_some, Bool.false_eq_true, if_false,
              Option.getD_some]
            exact ⟨trivial, hexit, htime⟩

/-- Where the two loops exit alike, both levels are covered behind an exit only. -/
theorem coversBehindExit_of_exitsAlike (hasher : Hasher) (costAssumptions : CostAssumptions)
    (split : Split) (tradeIndex : ℕ)
    (h : ExitsAlike (settle hasher config costAssumptions split tradeIndex s
        (Rounded.walkHistory round config s).state)
      (Rounded.walkHistory round config s).stoppedAt (roundedLiveHistory round config s)) :
    CoversBehindExit round config s := by
  intro before prev curr after hsplit hcovers
  by_contra hnone
  have hclear : (Rounded.walkHistory round config s).state.isAmbiguous = false := h.1
  have hwalk : Rounded.walkHistory round config s =
      walk (Rounded.walkTurn round config s.market.priceUsd) s.priceHistory
        (walkBehind round s []) := rfl
  rcases walk_cases walkTurn_yield s.priceHistory with
    ⟨hthrough, -⟩ | ⟨held, obs, rest, w, hends, hthrough, hdone, hend⟩
  · obtain ⟨-, huncovered⟩ :=
      not_of_walk_goesThrough hprice hclose (List.append_nil _).symm hthrough
    exact huncovered before prev curr after hsplit hcovers
  · rw [hwalk, hend] at hclear
    have hmem := closeOnly_of_split hclose hends
    rcases walkTurn_walkBehind hprice hmem with
      ⟨w', hdone', hambiguous, -⟩ | ⟨huncovered, hturn⟩
    · rw [hdone, ForInStep.done.injEq] at hdone'
      subst hdone'
      rw [hclear] at hambiguous
      cases hambiguous
    · have hreason : reasonBehind round config s held obs ≠ none := by
        intro hreason
        rw [hreason] at hturn
        dsimp only at hturn
        rw [hturn] at hdone
        cases hdone
      -- the walk broke off before the two closes, at the second of them, or behind them
      have hsplits : held ++ obs :: rest = (before ++ [prev]) ++ curr :: after := by
        rw [← hends, hsplit, List.append_assoc, List.singleton_append]
      rcases List.append_eq_append_iff.mp hsplits with ⟨between, hbefore, hrest⟩ |
        ⟨between, hheld, hrest⟩
      · cases between with
        | nil =>
            rw [List.append_nil] at hbefore
            rw [List.nil_append, List.cons.injEq] at hrest
            obtain ⟨rfl, -⟩ := hrest
            have hlast : held.getLast? = some prev := by
              rw [← hbefore]
              exact List.getLast?_concat
            exact huncovered prev hlast hcovers
        | cons first between =>
            rw [List.cons_append, List.cons.injEq] at hrest
            obtain ⟨rfl, -⟩ := hrest
            exact hnone ⟨held, obs, between, hbefore, hreason⟩
      · cases between with
        | nil =>
            rw [List.append_nil] at hheld
            rw [List.nil_append, List.cons.injEq] at hrest
            obtain ⟨rfl, -⟩ := hrest
            have hlast : held.getLast? = some prev := by
              rw [hheld]
              exact List.getLast?_concat
            exact huncovered prev hlast hcovers
        | cons first between =>
            rw [List.cons_append, List.cons.injEq] at hrest
            obtain ⟨rfl, -⟩ := hrest
            obtain ⟨-, hheldUncovered⟩ := not_of_walk_goesThrough hprice hclose hends hthrough
            rw [List.append_assoc, List.singleton_append] at hheld
            exact hheldUncovered before prev curr between hheld hcovers

/-- **The backtest exits as the live loop does**, for any rounding, exactly where two closes in a row
cover both levels behind a reason to exit only. -/
theorem exits_alike_iff (hasher : Hasher) (costAssumptions : CostAssumptions) (split : Split)
    (tradeIndex : ℕ) :
    ExitsAlike (settle hasher config costAssumptions split tradeIndex s
        (Rounded.walkHistory round config s).state)
      (Rounded.walkHistory round config s).stoppedAt (roundedLiveHistory round config s) ↔
      CoversBehindExit round config s :=
  ⟨coversBehindExit_of_exitsAlike hprice hclose hasher costAssumptions split tradeIndex,
    exitsAlike_of_coversBehindExit hprice hclose hasher costAssumptions split tradeIndex⟩

end Refinement

/-! ## The last digit -/

section Sample

/-- A position that may fall by half from its peak. -/
def halfTrailConfig : Config :=
  { sampleConfig with strategy := { sampleConfig.strategy with trailingStopPct := 50 } }

/-- A record that is entered at a third, falls to the stop and rises to the target. -/
def thirdSignal : HistoricalSignal :=
  { sampleSignal with
    market := { sampleSignal.market with priceUsd := 3333333333333333333333333333 / 10 ^ 28 }
    priceHistory := [sampleClose 60000 (3 / 10), sampleClose 120000 (4 / 10)] }

/-- The history has closes only. -/
theorem thirdSignal_closeOnly : ∀ obs ∈ thirdSignal.priceHistory, CloseOnly obs := by
  intro obs hobs
  simp only [thirdSignal, List.mem_cons, List.not_mem_nil, or_false] at hobs
  rcases hobs with rfl | rfl
  · exact ⟨rfl, rfl⟩
  · exact ⟨rfl, rfl⟩

/-- The third is ambiguous in the simulation: the return at 0.3 is rounded to above the stop, and the level
of the stop to 0.3. -/
theorem thirdSignal_ambiguous : (Rounded.walkHistory decimalRounding.round halfTrailConfig
    thirdSignal).state.isAmbiguous = true := by
  decide +kernel

/-- The closes of the sample record cover no level together, and those of the third both. -/
theorem exits_alike_iff_sample :
    ExitsAlike (settle sampleHasher sampleConfig sampleCosts .train 0 sampleSignal
        (Rounded.walkHistory decimalRounding.round sampleConfig sampleSignal).state)
      (Rounded.walkHistory decimalRounding.round sampleConfig sampleSignal).stoppedAt
      (roundedLiveHistory decimalRounding.round sampleConfig sampleSignal) ∧
    ¬ CoversBehindExit decimalRounding.round halfTrailConfig thirdSignal := by
  constructor
  · have hclose : ∀ obs ∈ sampleSignal.priceHistory, CloseOnly obs := by
      intro obs hobs
      simp only [sampleSignal, List.mem_cons, List.not_mem_nil, or_false] at hobs
      rcases hobs with rfl | rfl
      · exact ⟨rfl, rfl⟩
      · exact ⟨rfl, rfl⟩
    apply (exits_alike_iff (by decide +kernel) hclose sampleHasher sampleCosts .train 0).mpr
    intro held prev curr rest hsplit hcovers
    have hlow : ∀ obs ∈ sampleSignal.priceHistory, Rounded.levelBelow decimalRounding.round
        sampleSignal.market.priceUsd sampleConfig.strategy.stopLossPct < obs.effectiveClose := by
      decide +kernel
    have hprev := hlow prev (by rw [hsplit]; simp)
    have hcurr := hlow curr (by rw [hsplit]; simp)
    exact absurd hcovers.1 (not_le.mpr (lt_min hprev hcurr))
  · intro hcovers
    have halike := (exits_alike_iff (by decide +kernel) thirdSignal_closeOnly sampleHasher
      sampleCosts .train 0).mpr hcovers
    have hclear : (Rounded.walkHistory decimalRounding.round halfTrailConfig
        thirdSignal).state.isAmbiguous = false := halike.1
    rw [thirdSignal_ambiguous] at hclear
    cases hclear

/-- The live loop takes the profit, and the simulation books an ambiguous stop. -/
theorem simulation_leaves_live :
    halfTrailConfig.validate = .ok () ∧
      entryRefusal sampleHasher halfTrailConfig thirdSignal = some none ∧
      (roundedLiveHistory decimalRounding.round halfTrailConfig thirdSignal).state.decision =
        some { reason := .takeProfit, price := 4 / 10, time := 120000 } ∧
      (Rounded.walkHistory decimalRounding.round halfTrailConfig thirdSignal).state.exitReasonFound =
        some .stopLoss ∧
      ¬ ∀ (config : Config) (s : HistoricalSignal), config.validate = .ok () →
        entryRefusal sampleHasher config s = some none →
        (∀ obs ∈ s.priceHistory, CloseOnly obs) →
        ExitsAlike (settle sampleHasher config sampleCosts .train 0 s
            (Rounded.walkHistory decimalRounding.round config s).state)
          (Rounded.walkHistory decimalRounding.round config s).stoppedAt
          (roundedLiveHistory decimalRounding.round config s) := by
  have hvalid : halfTrailConfig.validate = .ok () := by decide +kernel
  have hentered : entryRefusal sampleHasher halfTrailConfig thirdSignal = some none := by
    decide +kernel
  have hlive : (roundedLiveHistory decimalRounding.round halfTrailConfig thirdSignal).state.decision =
      some { reason := .takeProfit, price := 4 / 10, time := 120000 } := by
    decide +kernel
  have hstop : (Rounded.walkHistory decimalRounding.round halfTrailConfig
      thirdSignal).state.exitReasonFound = some .stopLoss := by
    decide +kernel
  refine ⟨hvalid, hentered, hlive, hstop, ?_⟩
  intro h
  have halike := h halfTrailConfig thirdSignal hvalid hentered thirdSignal_closeOnly
  have hclear : (Rounded.walkHistory decimalRounding.round halfTrailConfig
      thirdSignal).state.isAmbiguous = false := halike.1
  rw [thirdSignal_ambiguous] at hclear
  cases hclear

end Sample

/-! ## Exact arithmetic -/

section Exact

variable {config : Config} {s : HistoricalSignal}

/-- The price that gives a return. -/
theorem price_eq_of_return (price : Decimal) {entryPrice : Decimal} (hentry : 0 < entryPrice) :
    price = entryPrice * (1 + (price - entryPrice) / entryPrice * 100 / 100) := by
  have hne : entryPrice ≠ 0 := ne_of_gt hentry
  field_simp
  ring

/-- The price of a close that is held lies strictly between the levels. -/
theorem between_levels_of_held {held : List PriceObservation} {obs : PriceObservation}
    (h : reasonBehind id config s held obs = none) :
    Rounded.levelBelow id s.market.priceUsd config.strategy.stopLossPct < obs.effectiveClose ∧
      obs.effectiveClose < Rounded.levelAbove id s.market.priceUsd config.strategy.takeProfitPct := by
  obtain ⟨hentry, hlow, hhigh⟩ := exitReason_none h
  have hentry' : 0 < s.market.priceUsd := hentry
  change -config.strategy.stopLossPct <
    (obs.effectiveClose - s.market.priceUsd) / s.market.priceUsd * 100 at hlow
  change (obs.effectiveClose - s.market.priceUsd) / s.market.priceUsd * 100 <
    config.strategy.takeProfitPct at hhigh
  constructor
  · change s.market.priceUsd * (1 - config.strategy.stopLossPct / 100) < obs.effectiveClose
    rw [price_eq_of_return obs.effectiveClose hentry']
    apply mul_lt_mul_of_pos_left _ hentry'
    have hdiv := div_lt_div_of_pos_right hlow (by norm_num : (0 : Decimal) < 100)
    rw [neg_div] at hdiv
    rw [sub_eq_add_neg]
    exact (add_lt_add_iff_left 1).mpr hdiv
  · change obs.effectiveClose < s.market.priceUsd * (1 + config.strategy.takeProfitPct / 100)
    rw [price_eq_of_return obs.effectiveClose hentry']
    apply mul_lt_mul_of_pos_left _ hentry'
    have hdiv := div_lt_div_of_pos_right hhigh (by norm_num : (0 : Decimal) < 100)
    exact (add_lt_add_iff_left 1).mpr hdiv

/-- In exact arithmetic two closes cover both levels behind an exit only: the second one of them would
meet both. -/
theorem coversBehindExit_exact : CoversBehindExit id config s := by
  rintro held prev curr rest - ⟨hmin, hmax⟩
  by_contra hnone
  have hheld : reasonBehind id config s held prev = none := by
    by_contra hreason
    exact hnone ⟨held, prev, [], rfl, hreason⟩
  obtain ⟨hstop, htarget⟩ := between_levels_of_held hheld
  have hbelow : curr.effectiveClose ≤
      Rounded.levelBelow id s.market.priceUsd config.strategy.stopLossPct := by
    rcases min_le_iff.mp hmin with h | h
    · exact absurd h (not_le.mpr hstop)
    · exact h
  have habove : Rounded.levelAbove id s.market.priceUsd config.strategy.takeProfitPct ≤
      curr.effectiveClose := by
    rcases le_max_iff.mp hmax with h | h
    · exact absurd h (not_le.mpr htarget)
    · exact h
  exact absurd (habove.trans hbelow) (not_le.mpr (hstop.trans htarget))

/-- **The backtest refines the live loop in exact arithmetic.** On candles without a range every accepted
signal exits as the live loop does. -/
theorem exits_alike_exact {hasher : Hasher} {costAssumptions : CostAssumptions} {split : Split}
    {tradeIndex : ℕ} {trade : SimulatedTrade} (hclose : ∀ obs ∈ s.priceHistory, CloseOnly obs)
    (htrade : simulateSignal hasher config costAssumptions split tradeIndex s =
      some (.ok trade)) :
    ExitsAlike trade (exitIndex config s) (liveHistory config s) := by
  obtain ⟨hentered, htrade⟩ := simulateSignal_ok_iff.mp htrade
  have halike := exitsAlike_of_coversBehindExit (price_pos_of_entered hentered) hclose hasher
    costAssumptions split tradeIndex (@coversBehindExit_exact config s)
  rw [Rounded.walkHistory_exact, roundedLiveHistory_exact, ← htrade] at halike
  exact halike

end Exact

end SolanaBot.Analysis
