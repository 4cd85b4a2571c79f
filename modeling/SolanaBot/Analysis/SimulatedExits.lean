import SolanaBot.Analysis.StoreSteps
import SolanaBot.Model.BacktestEngine
import SolanaBot.Model.Session

/-!
# Simulated exits

What the simulation of a signal depends on and what it stands for.

The walk over the price history breaks off at the first observation whose interval is
ambiguous or whose close gives a reason to exit, and reads nothing behind it
(`simulation_is_point_in_time`): the library's `walk_congr`, with the refusal of an entry
not reading the price history at all.

The exit loop of the live bot runs over the same marks (`liveHistory`); one of its turns is what the
session does with a mark (`markAndExit_liveTurn`).
-/

set_option autoImplicit false

namespace SolanaBot.Analysis

open SolanaBot.Library SolanaBot.Model

/-! ## One turn of the walk -/

section Turn

variable (config : Config) (entryPrice : Decimal) (obs : PriceObservation) (w : WalkState)

/-- The ambiguity of the interval that an observation closes. -/
def ambiguityAt : Option AmbiguousInterval :=
  w.prev.bind fun prev =>
    detectAmbiguity prev obs entryPrice config.strategy.stopLossPct config.strategy.takeProfitPct

/-- The reason to exit at the close of an observation. -/
def reasonAt : Option ExitReason :=
  exitReason w.position obs.effectiveClose (some obs.liquidityUsd) config.risk.minLiquidityUsd
    false obs.timestamp config.strategy

/-- A turn ends at the stop level of an ambiguous interval, ends at the close with a reason, or
goes on with the high-water mark raised. -/
theorem walkTurn_cases :
    (∃ interval, ambiguityAt config entryPrice obs w = some interval ∧
      walkTurn config entryPrice obs w = .done { w with
        isAmbiguous := true
        ambiguousReason := some interval
        exitPrice := entryPrice * (1 - config.strategy.stopLossPct / 100)
        exitTime := obs.timestamp
        exitReasonFound := some .stopLoss }) ∨
    (ambiguityAt config entryPrice obs w = none ∧ ∃ reason, reasonAt config obs w = some reason ∧
      walkTurn config entryPrice obs w = .done { w.track obs.effectiveClose entryPrice with
        exitPrice := obs.effectiveClose
        exitTime := obs.timestamp
        exitReasonFound := some reason }) ∨
    (ambiguityAt config entryPrice obs w = none ∧ reasonAt config obs w = none ∧
      walkTurn config entryPrice obs w =
        .yield ((w.track obs.effectiveClose entryPrice).raise obs)) := by
  unfold walkTurn
  cases hambiguous : ambiguityAt config entryPrice obs w with
  | some interval =>
      rw [ambiguityAt] at hambiguous
      exact .inl ⟨interval, rfl, by simp only [hambiguous]⟩
  | none =>
      rw [ambiguityAt] at hambiguous
      cases hreason : reasonAt config obs w with
      | some reason =>
          change exitReason (w.track obs.effectiveClose entryPrice).position _ _ _ _ _ _ = _
            at hreason
          exact .inr (.inl ⟨rfl, reason, rfl, by simp only [hambiguous, hreason]⟩)
      | none =>
          change exitReason (w.track obs.effectiveClose entryPrice).position _ _ _ _ _ _ = _
            at hreason
          exact .inr (.inr ⟨rfl, rfl, by simp only [hambiguous, hreason]⟩)

/-- What tracking the excursions and raising the high-water mark leave alone. -/
theorem raise_track_frame (price : Decimal) :
    let w' := (w.track price entryPrice).raise obs
    w'.prev = some obs ∧ w'.exitReasonFound = w.exitReasonFound ∧
      w'.isAmbiguous = w.isAmbiguous ∧ w'.ambiguousReason = w.ambiguousReason ∧
      w'.position.entryPriceUsd = w.position.entryPriceUsd ∧
      w'.position.entryTime = w.position.entryTime := by
  unfold WalkState.raise
  dsimp only
  split
  · exact ⟨rfl, rfl, rfl, rfl, rfl, rfl⟩
  · exact ⟨rfl, rfl, rfl, rfl, rfl, rfl⟩

end Turn

/-! ## The walk -/

section Walk

variable (config : Config) (s : HistoricalSignal)

/-- The index of the observation at which the simulation exits. -/
def exitIndex : Option ℕ := (walkHistory config s).stoppedAt

/-- The walk has found a reason to exit exactly if it broke off, and then the exit is dated at
the observation at which it did. -/
theorem walkHistory_stoppedAt :
    match exitIndex config s with
    | none => (walkHistory config s).state.exitReasonFound = none ∧
        (walkHistory config s).state.isAmbiguous = false
    | some k => (walkHistory config s).state.exitReasonFound.isSome ∧
        ∃ obs, s.priceHistory[k]? = some obs ∧
          (walkHistory config s).state.exitTime = obs.timestamp := by
  have hwalk := walk_induction (f := walkTurn config s.market.priceUsd)
    (fun w => w.exitReasonFound = none ∧ w.isAmbiguous = false) (l := s.priceHistory)
    (s := walkStart s s.market.priceUsd s.signalTimestamp)
    (by
      intro obs _ w w' hw hyield
      rcases walkTurn_cases config s.market.priceUsd obs w with
        ⟨_, _, h⟩ | ⟨_, _, _, h⟩ | ⟨_, _, h⟩
      · rw [h] at hyield
        cases hyield
      · rw [h] at hyield
        cases hyield
      · rw [h] at hyield
        cases hyield
        obtain ⟨-, hfound, hambiguous, -⟩ :=
          raise_track_frame s.market.priceUsd obs w obs.effectiveClose
        exact ⟨hfound.trans hw.1, hambiguous.trans hw.2⟩)
    ⟨rfl, rfl⟩
  unfold exitIndex walkHistory
  cases hstopped : (walk (walkTurn config s.market.priceUsd) s.priceHistory
      (walkStart s s.market.priceUsd s.signalTimestamp)).stoppedAt with
  | none =>
      rw [hstopped] at hwalk
      exact hwalk
  | some k =>
      rw [hstopped] at hwalk
      obtain ⟨obs, w, hobs, -, hdone⟩ := hwalk
      rcases walkTurn_cases config s.market.priceUsd obs w with
        ⟨_, _, h⟩ | ⟨_, _, _, h⟩ | ⟨_, _, h⟩
      · rw [h, ForInStep.done.injEq] at hdone
        rw [← hdone]
        exact ⟨rfl, obs, hobs, rfl⟩
      · rw [h, ForInStep.done.injEq] at hdone
        rw [← hdone]
        exact ⟨rfl, obs, hobs, rfl⟩
      · rw [h] at hdone
        cases hdone

/-- A simulated trade is censored exactly if the walk reaches the end of the history. -/
theorem isCensored_iff (hasher : Hasher) (costAssumptions : CostAssumptions) (split : Split)
    (tradeIndex : ℕ) :
    (settle hasher config costAssumptions split tradeIndex s
        (walkHistory config s).state).isCensored = true ↔ exitIndex config s = none := by
  have hstopped := walkHistory_stoppedAt config s
  change (walkHistory config s).state.exitReasonFound.isNone = true ↔ _
  cases hindex : exitIndex config s with
  | none =>
      rw [hindex] at hstopped
      simp [hstopped.1]
  | some k =>
      rw [hindex] at hstopped
      simp [Option.isSome_iff_ne_none.mp hstopped.1]

end Walk

/-! ## Outcomes -/

section Outcomes

variable {hasher : Hasher} {config : Config} {costAssumptions : CostAssumptions} {split : Split}
  {tradeIndex : ℕ} {s : HistoricalSignal}

/-- A signal that is not refused is walked to its trade. -/
theorem simulateSignal_ok_iff {trade : SimulatedTrade} :
    simulateSignal hasher config costAssumptions split tradeIndex s = some (.ok trade) ↔
      entryRefusal hasher config s = some none ∧
        trade = settle hasher config costAssumptions split tradeIndex s
          (walkHistory config s).state := by
  unfold simulateSignal
  rcases entryRefusal hasher config s with _ | _ | reason
  · simp
  · simp [eq_comm]
  · simp

/-- A signal is refused exactly for the reason that refuses its entry. -/
theorem simulateSignal_error_iff {reason : SimRejection} :
    simulateSignal hasher config costAssumptions split tradeIndex s = some (.error reason) ↔
      entryRefusal hasher config s = some (some reason) := by
  unfold simulateSignal
  rcases entryRefusal hasher config s with _ | _ | reason'
  · simp
  · simp
  · simp

/-- What is entered has a price. -/
theorem price_pos_of_entered (h : entryRefusal hasher config s = some none) :
    0 < s.market.priceUsd := by
  unfold entryRefusal at h
  by_contra hprice
  rw [not_lt] at hprice
  simp only [if_pos hprice] at h
  split at h
  · simp at h
  · split at h
    · simp at h
    · simp at h
    · split at h
      · simp at h
      · split at h
        · cases h
        · simp at h
        · simp at h

end Outcomes

/-! ## A sample record -/

/-- A candle without a range. -/
def sampleClose (timestamp : Time) (price : Decimal) : PriceObservation :=
  { timestamp, priceUsd := price, liquidityUsd := 20000, openUsd := none, highUsd := none
    lowUsd := none, closeUsd := none, volume := none }

/-- A qualified wallet. -/
def qualifiedWallet (wallet : String) : WalletStats :=
  { wallet, entityId := none, realizedPnlUsd := 0, winRate := 0, avgReturnPct := 0
    medianReturnPct := 0, maxDrawdownPct := 0, trades := 20, recentReturnPct := 0
    concentrationPct := 0, scamExposurePct := 0, score := 80, tier := .qualified, updatedAt := 0
    avgWinPct := none, avgLossPct := none }

/-- A record that is entered at 100 and rises to its target. -/
def sampleSignal : HistoricalSignal :=
  { signalTimestamp := 60000
    mint := "TokenTokenTokenTokenTokenTokenToken1"
    market :=
      { mint := "TokenTokenTokenTokenTokenTokenToken1", priceUsd := 100, liquidityUsd := 20000
        volume24hUsd := 0, volatilityPct := 20, buySellImbalance := 1 / 2, observedAt := 60000
        receivedAt := 60000, slot := none, priceImpactBps := none }
    safety :=
      { mintAuthorityPresent := false, freezeAuthorityPresent := false, holderTop10Pct := 30
        tokenAgeSecs := 3600, liquidityLockedOrBurned := none, sellable := some true
        routeAvailable := some true, creatorSuspicious := none, abnormalActivity := none
        liquidityChangePct := none, observedAt := 60000 }
    wallets :=
      [qualifiedWallet "WaaetWaaetWaaetWaaetWaaetWaaet111",
        qualifiedWallet "WaaetWaaetWaaetWaaetWaaetWaaet222"]
    costs :=
      { observedAt := 60000
        input :=
          { positionSizeUsd := 10, avgPriorityFeeUsd := 1 / 100, avgSwapFeeBps := 30
            avgSlippageBps := 50, avgPriceImpactBps := 20, failedTxRate := 1 / 20
            avgFailedTxCostUsd := 1 / 100, assumedWinLossRatio := 2, assumedAvgLossPct := 10 }
        source := "sample", isLiveSnapshot := false }
    positionUsd := 10
    expectedGrossReturnPct := 0
    tokenDecimals := 6
    baseMintDecimals := 9
    priceHistory := [sampleClose 60000 100, sampleClose 120000 125] }

/-- A hash that keeps what it hashes. -/
def sampleHasher : Hasher :=
  { tradeId := fun _ mint _ => mint, signalId := fun mint _ => mint }

/-- The costs of the sample. -/
def sampleCosts : CostAssumptions :=
  { entrySwapFeeBps := 30, entryPriorityFeeUsd := 1 / 500, entrySlippageBps := 50
    entryPriceImpactBps := 20, exitSwapFeeBps := 30, exitPriorityFeeUsd := 1 / 500
    exitSlippageBps := 50, exitPriceImpactBps := 20, failedTxRate := 1 / 20
    failedTxCostUsd := 1 / 500 }

/-- The trade that the sample record is simulated to. -/
def sampleTrade : SimulatedTrade :=
  settle sampleHasher sampleConfig sampleCosts .train 0 sampleSignal
    (walkHistory sampleConfig sampleSignal).state

/-- The trade of the sample's signal. -/
theorem simulate_sampleSignal :
    simulateSignal sampleHasher sampleConfig sampleCosts .train 0 sampleSignal =
      some (.ok sampleTrade) := by
  have hentered : entryRefusal sampleHasher sampleConfig sampleSignal = some none := by
    decide +kernel
  rw [simulateSignal, hentered]
  rfl

/-! ## No look-ahead -/

section PointInTime

variable (hasher : Hasher) (config : Config) (costAssumptions : CostAssumptions) (split : Split)
  (tradeIndex : ℕ) (s : HistoricalSignal)

/-- The same decision data, with another recorded expectation and another price history. -/
def withFuture (expected : Decimal) (history : List PriceObservation) : HistoricalSignal :=
  { s with expectedGrossReturnPct := expected, priceHistory := history }

/-- An entry is refused without a look at the price history or the recorded expectation. -/
theorem entryRefusal_withFuture (expected : Decimal) (history : List PriceObservation) :
    entryRefusal hasher config (withFuture s expected history) = entryRefusal hasher config s :=
  rfl

/-- A walk that breaks off reads the history up to its exit only. -/
theorem walkHistory_withFuture {k : ℕ} (hk : exitIndex config s = some k) (expected : Decimal)
    {history : List PriceObservation}
    (hhistory : history.take (k + 1) = s.priceHistory.take (k + 1)) :
    walkHistory config (withFuture s expected history) = walkHistory config s :=
  walk_congr hk hhistory

/-- Of the history, a trade that is not censored keeps nothing but what the walk found. -/
theorem settle_withFuture {w : WalkState} (hw : w.exitReasonFound.isSome) (expected : Decimal)
    (history : List PriceObservation) :
    settle hasher config costAssumptions split tradeIndex (withFuture s expected history) w =
      settle hasher config costAssumptions split tradeIndex s w := by
  obtain ⟨reason, hreason⟩ := Option.isSome_iff_exists.mp hw
  simp only [settle, withFuture, hreason, Option.isNone_some, Bool.false_eq_true, if_false]

/-- **A simulation looks at nothing behind its exit.** A refusal does not depend on the price
history, and a trade that is not censored depends on the history up to and including the
observation at which it exits, however the history goes on. -/
theorem simulation_is_point_in_time :
    (∀ reason, simulateSignal hasher config costAssumptions split tradeIndex s =
        some (.error reason) → ∀ expected history,
      simulateSignal hasher config costAssumptions split tradeIndex
        (withFuture s expected history) = some (.error reason)) ∧
    (∀ trade, simulateSignal hasher config costAssumptions split tradeIndex s =
        some (.ok trade) → trade.isCensored = false →
      ∃ k obs, exitIndex config s = some k ∧ s.priceHistory[k]? = some obs ∧
        trade.exitTime = obs.timestamp ∧ ∀ expected history,
        history.take (k + 1) = s.priceHistory.take (k + 1) →
        simulateSignal hasher config costAssumptions split tradeIndex
          (withFuture s expected history) = some (.ok trade)) := by
  unfold simulateSignal
  cases hrefusal : entryRefusal hasher config s with
  | none =>
      refine ⟨fun reason h => ?_, fun trade h => ?_⟩
      · simp at h
      · simp at h
  | some refusal =>
      cases refusal with
      | some reason =>
          refine ⟨fun reason' h expected history => ?_, fun trade h => ?_⟩
          · rw [entryRefusal_withFuture, hrefusal]
            exact h
          · simp at h
      | none =>
          refine ⟨fun reason h => ?_, fun trade h hcensored => ?_⟩
          · simp at h
          · simp only [Option.map_some, Option.some.injEq, Except.ok.injEq] at h
            subst h
            have hstopped := walkHistory_stoppedAt config s
            cases hindex : exitIndex config s with
            | none =>
                rw [(isCensored_iff config s hasher costAssumptions split tradeIndex).mpr hindex]
                  at hcensored
                cases hcensored
            | some k =>
                rw [hindex] at hstopped
                obtain ⟨hfound, obs, hobs, htime⟩ := hstopped
                refine ⟨k, obs, rfl, hobs, ?_, ?_⟩
                · obtain ⟨reason, hreason⟩ := Option.isSome_iff_exists.mp hfound
                  simp only [settle, hreason, Option.isNone_some, Bool.false_eq_true, if_false]
                  exact htime
                · intro expected history hhistory
                  rw [entryRefusal_withFuture, hrefusal,
                    walkHistory_withFuture config s hindex expected hhistory]
                  simp only [Option.map_some,
                    settle_withFuture hasher config costAssumptions split tradeIndex s hfound]

/-- The sample trade takes its profit whatever comes next, here a collapse. -/
theorem simulation_is_point_in_time_sample :
    simulateSignal sampleHasher sampleConfig sampleCosts .train 0
        (withFuture sampleSignal 7 (sampleSignal.priceHistory ++ [sampleClose 180000 1])) =
      some (.ok sampleTrade) := by
  obtain ⟨k, obs, hk, -, -, hfuture⟩ :=
    (simulation_is_point_in_time sampleHasher sampleConfig sampleCosts .train 0 sampleSignal).2
      sampleTrade simulate_sampleSignal (by decide +kernel)
  have hindex : exitIndex sampleConfig sampleSignal = some 1 := by decide +kernel
  rw [hindex, Option.some.injEq] at hk
  subst hk
  exact hfuture 7 _ rfl

end PointInTime

/-! ## The live exit loop -/

/-- A decision to exit: the reason, the mark and the time. -/
structure ExitDecision where
  reason : ExitReason
  price : Decimal
  time : Time
deriving DecidableEq

/-- The exit loop over one position: the portfolio, and the decision that ended the loop. -/
structure LiveLoop where
  portfolio : Portfolio
  decision : Option ExitDecision

/-- One turn of the live loop on the mark, the liquidity and the time of an observation: mark
the position, then decide on the record before the mark. A mark that fails ends the tick
without a decision. RUST: runtime.rs:1389-1408. -/
def liveTurn (config : Config) (mint : String) (obs : PriceObservation) (l : LiveLoop) :
    ForInStep LiveLoop :=
  match l.portfolio.position mint with
  | none => .yield l
  | some position =>
      let marked := l.portfolio.markToMarket mint obs.effectiveClose
      match marked.1 with
      | .error _ => .yield { l with portfolio := marked.2 }
      | .ok _ =>
          match exitReason position obs.effectiveClose (some obs.liquidityUsd)
              config.risk.minLiquidityUsd false obs.timestamp config.strategy with
          | none => .yield { l with portfolio := marked.2 }
          | some reason =>
              .done { portfolio := marked.2
                      decision := some
                        { reason, price := obs.effectiveClose, time := obs.timestamp } }

/-- The live loop on the position of a signal and on the price history behind it. -/
def liveHistory (config : Config) (s : HistoricalSignal) : Walked LiveLoop :=
  walk (liveTurn config s.mint) s.priceHistory
    { portfolio :=
        Portfolio.empty.syncPosition (buildPosition s s.market.priceUsd s.signalTimestamp)
      decision := none }

section Live

variable {obs : PriceObservation} {p : Position}

/-- A turn of the session that marks and decides is a turn of the live loop: it stops with the
marked portfolio, or goes on from it to the exit that the loop has decided for. -/
theorem markAndExit_liveTurn (deps : Deps) (env : ℕ → Env) (i : ℕ) (st : SessionState) (db : Db)
    (remaining : UInt64) {mint : String} (hp : st.portfolio.position mint = some p)
    (hclock : (env i).clock = obs.timestamp) :
    match liveTurn deps.config mint obs { portfolio := st.portfolio, decision := none } with
    | .yield l =>
        (Prog.runS world env (markAndExit deps p mint remaining (some obs.liquidityUsd) false
          obs.effectiveClose) i st db).1.2 = { st with portfolio := l.portfolio } ∧
        (Prog.runS world env (markAndExit deps p mint remaining (some obs.liquidityUsd) false
          obs.effectiveClose) i st db).2.1 = db
    | .done l => ∃ d, l.decision = some d ∧
        Prog.runS world env (markAndExit deps p mint remaining (some obs.liquidityUsd) false
            obs.effectiveClose) i st db =
          Prog.runS world env (attemptExit deps mint remaining d.reason.asStr) (i + 1)
            { st with portfolio := l.portfolio } db := by
  unfold liveTurn markAndExit
  simp only [hp, Prog.runS_get_bind, Prog.runS_modify_bind]
  cases hmarked : (st.portfolio.markToMarket mint obs.effectiveClose).1 with
  | error e => exact ⟨rfl, rfl⟩
  | ok value =>
      have hlook : (Prog.run world env clock i db) = (obs.timestamp, db, i + 1) := by
        rw [← hclock]
        rfl
      simp only [look, Prog.runS_lift_bind, hlook]
      cases exitReason p obs.effectiveClose (some obs.liquidityUsd) deps.config.risk.minLiquidityUsd
          false obs.timestamp deps.config.strategy with
      | none => exact ⟨rfl, rfl⟩
      | some reason => exact ⟨_, rfl, rfl⟩

end Live

end SolanaBot.Analysis
