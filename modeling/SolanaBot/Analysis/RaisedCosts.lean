import Mathlib.Tactic.GCongr
import Mathlib.Tactic.Linarith
import SolanaBot.Analysis.BreakEven
import SolanaBot.Analysis.DecisionAgreement
import SolanaBot.Model.Entries

/-!
# Raised costs

What a rise of the costs of an entry does to the decisions about it. The live decision expects a gross
return that the candidate brings along, and loses what the costs gain: it refuses what it has refused
before. The backtest reconstructs the gross return as the win that the costs require, so that its net
return grows with the costs (`reconstructedNet`), and a rise can bring a signal over the edge or over
the score. It is refused as before for every other reason.

1. Both decisions pass the same rules, of which the last two read the net return (`PassesRules`).
2. What the costs do to the net return, live and reconstructed.
3. The exact condition for a raised signal to be accepted.
-/

set_option autoImplicit false

namespace SolanaBot.Analysis

open SolanaBot.Library SolanaBot.Model

/-! ## The rules -/

/-- The score of a signal with a net return. RUST: strategy/signal.rs:72-90. -/
def scoreAt (wallets : List WalletStats) (market : MarketSnapshot) (net : Decimal) : Decimal :=
  let count : Decimal := ((wallets.length % 2 ^ 32 : ℕ) : ℚ)
  ((wallets.map WalletStats.score).sum / count + min (count * 20) 100
    + min (market.liquidityUsd / 10000 * 100) 100
    + min (max (market.buySellImbalance * 50) 0) 100
    + (100 - min market.volatilityPct 100) + min (net * 10) 100) / 6

/-- A higher net return never scores less. -/
theorem scoreAt_mono (wallets : List WalletStats) (market : MarketSnapshot) {net net' : Decimal}
    (h : net ≤ net') : scoreAt wallets market net ≤ scoreAt wallets market net' := by
  have heconomic : min (net * 10) 100 ≤ min (net' * 10) 100 := min_le_min_right _ (by linarith)
  unfold scoreAt
  dsimp only
  linarith

section Rules

variable (config : Config) (wallets : List WalletStats) (market : MarketSnapshot)
  (safety : TokenSafety) (now : Time)

/-- The evidence for a signal is refused, whatever it would return. -/
def EvidenceRefused : Prop :=
  (market.observedAt > now ∨ safety.observedAt > now ∨
    market.ageSeconds now > config.rpc.maxDataAgeSecs) ∨
  market.liquidityUsd < config.risk.minLiquidityUsd ∨
  failsSafety safety config.strategy.minTokenAgeSecs = true ∨
  wallets.length < config.strategy.minConsensusWallets ∨
  (wallets.any fun w =>
    w.trades < config.strategy.minWalletSamples
      || w.score < config.strategy.minWalletScore
      || w.updatedAt > now) = true

/-- A signal with a net return passes all rules. -/
structure PassesRules (net : Decimal) : Prop where
  evidence : ¬EvidenceRefused config wallets market safety now
  edge : config.economics.minExpectedNetReturnPct ≤ net
  counted : ¬2 ^ 32 ∣ wallets.length
  score : config.strategy.minSignalScore ≤ scoreAt wallets market net

variable {config wallets market safety now}

/-- A higher net return passes the rules too. -/
theorem PassesRules.mono {net net' : Decimal} (h : PassesRules config wallets market safety now net)
    (hle : net ≤ net') : PassesRules config wallets market safety now net' :=
  ⟨h.evidence, h.edge.trans hle, h.counted, h.score.trans (scoreAt_mono wallets market hle)⟩

/-- The count of wallets is zero exactly at the multiples of 2^32. -/
theorem count_eq_zero_iff : ((wallets.length % 2 ^ 32 : ℕ) : ℚ) = 0 ↔ 2 ^ 32 ∣ wallets.length := by
  rw [Nat.cast_eq_zero, Nat.dvd_iff_mod_eq_zero]

/-- Refused evidence is neither a refusal of the edge nor one of the score. -/
theorem evaluateSignalPit_refused (h : EvidenceRefused config wallets market safety now)
    (hasher : Hasher) (mint : String) (expected : ExpectedValue) :
    ∃ reason, evaluateSignalPit hasher config mint wallets market safety expected now =
        some (.rejected reason) ∧
      reason ≠ "economic edge below threshold" ∧ reason ≠ "signal confidence below threshold" := by
  unfold evaluateSignalPit
  rw [failsSafetyPit_eq]
  by_cases hstale : market.observedAt > now ∨ safety.observedAt > now ∨
      market.ageSeconds now > config.rpc.maxDataAgeSecs
  · rw [if_pos hstale]
    exact ⟨_, rfl, by decide, by decide⟩
  rw [if_neg hstale]
  by_cases hliquidity : market.liquidityUsd < config.risk.minLiquidityUsd
  · rw [if_pos hliquidity]
    exact ⟨_, rfl, by decide, by decide⟩
  rw [if_neg hliquidity]
  by_cases hsafety : failsSafety safety config.strategy.minTokenAgeSecs = true
  · rw [if_pos hsafety]
    exact ⟨_, rfl, by decide, by decide⟩
  rw [if_neg hsafety]
  by_cases hconsensus : wallets.length < config.strategy.minConsensusWallets
  · rw [if_pos hconsensus]
    exact ⟨_, rfl, by decide, by decide⟩
  rw [if_neg hconsensus]
  have hquality := (((h.resolve_left hstale).resolve_left hliquidity).resolve_left
    hsafety).resolve_left hconsensus
  rw [if_pos hquality]
  exact ⟨_, rfl, by decide, by decide⟩

/-- Behind the evidence come the edge, the count and the score. -/
theorem evaluateSignalPit_passed (h : ¬EvidenceRefused config wallets market safety now)
    (hasher : Hasher) (mint : String) (expected : ExpectedValue) :
    ∃ s, evaluateSignalPit hasher config mint wallets market safety expected now =
      if expected.netReturnPct < config.economics.minExpectedNetReturnPct then
        some (.rejected "economic edge below threshold")
      else if 2 ^ 32 ∣ wallets.length then none
      else if scoreAt wallets market expected.netReturnPct < config.strategy.minSignalScore then
        some (.rejected "signal confidence below threshold")
      else some (.accepted s) := by
  unfold EvidenceRefused at h
  simp only [not_or] at h
  obtain ⟨hstale, hliquidity, hsafety, hconsensus, hquality⟩ := h
  unfold evaluateSignalPit
  rw [failsSafetyPit_eq, if_neg (by simpa only [not_or] using hstale), if_neg hliquidity,
    if_neg hsafety, if_neg hconsensus, if_neg hquality]
  dsimp only
  simp only [count_eq_zero_iff]
  exact ⟨_, rfl⟩

/-- The rules of the backtest pass what `PassesRules` says. -/
theorem evaluateSignalPit_accepted_iff (hasher : Hasher) (mint : String) (expected : ExpectedValue) :
    (∃ s, evaluateSignalPit hasher config mint wallets market safety expected now =
        some (.accepted s)) ↔
      PassesRules config wallets market safety now expected.netReturnPct := by
  by_cases hevidence : EvidenceRefused config wallets market safety now
  · obtain ⟨reason, hreason, -⟩ := evaluateSignalPit_refused hevidence hasher mint expected
    rw [hreason]
    exact iff_of_false (fun ⟨s, hs⟩ => by cases hs) fun h => h.evidence hevidence
  · obtain ⟨accepted, hdecision⟩ := evaluateSignalPit_passed hevidence hasher mint expected
    rw [hdecision]
    constructor
    · rintro ⟨s, hs⟩
      split_ifs at hs with hedge hcount hscore
      · cases hs
      · cases hs
      · exact ⟨hevidence, not_lt.mp hedge, hcount, not_lt.mp hscore⟩
    · intro h
      rw [if_neg (not_lt.mpr h.edge), if_neg h.counted, if_neg (not_lt.mpr h.score)]
      exact ⟨accepted, rfl⟩

/-- The live rules agree with those of the backtest about refused evidence. -/
theorem evaluateSignal_refused (h : EvidenceRefused config wallets market safety now) (hasher : Hasher)
    (mint : String) (expected : ExpectedValue) (uuid : String) :
    ∃ reason, evaluateSignal config mint wallets market safety expected now uuid = .rejected reason := by
  have hbefore : RefusedBeforeScoring config wallets market safety expected now := by
    rcases h with h | h | h | h | h
    · exact .inl h
    · exact .inr (.inl h)
    · exact .inr (.inr (.inl h))
    · exact .inr (.inr (.inr (.inl h)))
    · exact .inr (.inr (.inr (.inr (.inl h))))
  have hagrees :=
    (cascades_agree config mint wallets market safety expected now hasher uuid).mpr (.inl hbefore)
  obtain ⟨reason, hreason, -⟩ := evaluateSignalPit_refused h hasher mint expected
  rw [hreason] at hagrees
  cases hlive : evaluateSignal config mint wallets market safety expected now uuid with
  | rejected reason => exact ⟨reason, rfl⟩
  | accepted signal =>
      rw [hlive] at hagrees
      exact hagrees.elim

/-- Behind the evidence come the edge, the count and the score. -/
theorem evaluateSignal_passed (h : ¬EvidenceRefused config wallets market safety now)
    (mint : String) (expected : ExpectedValue) (uuid : String) :
    ∃ s, evaluateSignal config mint wallets market safety expected now uuid =
      if expected.netReturnPct < config.economics.minExpectedNetReturnPct then
        .rejected "economic edge below threshold"
      else if 2 ^ 32 ∣ wallets.length then .rejected "no wallets for scoring"
      else if scoreAt wallets market expected.netReturnPct < config.strategy.minSignalScore then
        .rejected "signal confidence below threshold"
      else .accepted s := by
  have hcount : ((wallets.length % 2 ^ 32 : ℕ) : ℚ) ≤ 0 ↔ 2 ^ 32 ∣ wallets.length := by
    rw [← count_eq_zero_iff]
    exact ⟨fun h => le_antisymm h (Nat.cast_nonneg _), fun h => h.le⟩
  unfold EvidenceRefused at h
  simp only [not_or] at h
  obtain ⟨hstale, hliquidity, hsafety, hconsensus, hquality⟩ := h
  unfold evaluateSignal
  rw [if_neg (by simpa only [not_or] using hstale), if_neg hliquidity, if_neg hsafety,
    if_neg hconsensus, if_neg hquality]
  dsimp only
  simp only [hcount]
  exact ⟨_, rfl⟩

/-- The live rules pass what `PassesRules` says as well. -/
theorem evaluateSignal_accepted_iff (mint : String) (expected : ExpectedValue) (uuid : String) :
    (∃ s, evaluateSignal config mint wallets market safety expected now uuid = .accepted s) ↔
      PassesRules config wallets market safety now expected.netReturnPct := by
  by_cases hevidence : EvidenceRefused config wallets market safety now
  · obtain ⟨reason, hreason⟩ := evaluateSignal_refused hevidence sampleHasher mint expected uuid
    rw [hreason]
    exact iff_of_false (fun ⟨s, hs⟩ => by cases hs) fun h => h.evidence hevidence
  · obtain ⟨accepted, hdecision⟩ := evaluateSignal_passed hevidence mint expected uuid
    rw [hdecision]
    constructor
    · rintro ⟨s, hs⟩
      split_ifs at hs with hedge hcount hscore
      exact ⟨hevidence, not_lt.mp hedge, hcount, not_lt.mp hscore⟩
    · intro h
      rw [if_neg (not_lt.mpr h.edge), if_neg h.counted, if_neg (not_lt.mpr h.score)]
      exact ⟨accepted, rfl⟩

end Rules

/-! ## Costs that pass -/

/-- A result of the gate for costs that the calculator accepts. -/
theorem check_of_valid {m : CostModel} (h : ValidCosts m.input) (gate : EconomicGate) :
    gate.check m = .ok (if gate.roundTripCostThresholdPct < costPct m.input
      then .rejected (breakEven m.input) gate.roundTripCostThresholdPct
      else .allowed (breakEven m.input)) := by
  unfold EconomicGate.check CostModel.calculate
  rw [breakEvenCalculator_eq_ok_iff.mpr ⟨h, rfl⟩, ok_bind]
  change (if gate.roundTripCostThresholdPct < costPct m.input then _ else _) = _
  split <;> rfl

/-- The gate passes with an untripped switch, valid costs and costs within the threshold. -/
theorem authorizeEntry_eq_ok_iff {killSwitch : KillSwitch} {gate : EconomicGate} {m : CostModel} :
    authorizeEntry killSwitch gate m = .ok () ↔
      killSwitch.tripped = false ∧ ValidCosts m.input ∧
        costPct m.input ≤ gate.roundTripCostThresholdPct := by
  unfold authorizeEntry
  cases htripped : killSwitch.tripped with
  | true =>
      rw [if_pos rfl]
      exact iff_of_false (fun h => by cases h) fun h => by cases h.1
  | false =>
      rw [if_neg Bool.false_ne_true, and_iff_right rfl]
      by_cases hvalid : ValidCosts m.input
      · rw [check_of_valid hvalid, and_iff_right hvalid]
        by_cases hcost : gate.roundTripCostThresholdPct < costPct m.input
        · rw [if_pos hcost]
          exact iff_of_false (fun h => by cases h) (not_le.mpr hcost)
        · rw [if_neg hcost]
          exact iff_of_true rfl (not_lt.mp hcost)
      · refine iff_of_false (fun h => ?_) fun h => hvalid h.1
        unfold EconomicGate.check CostModel.calculate at h
        cases hcalculated : breakEvenCalculator m.input with
        | error e =>
            rw [hcalculated] at h
            cases h
        | ok r => exact hvalid (breakEvenCalculator_eq_ok_iff.mp hcalculated).1

/-- The costs of an entry, one by one no lower than before. -/
structure Costlier (a b : BreakEvenInputs) : Prop where
  position : b.positionSizeUsd = a.positionSizeUsd
  ratio : b.assumedWinLossRatio = a.assumedWinLossRatio
  loss : b.assumedAvgLossPct = a.assumedAvgLossPct
  priority : a.avgPriorityFeeUsd ≤ b.avgPriorityFeeUsd
  swapFee : a.avgSwapFeeBps ≤ b.avgSwapFeeBps
  slippage : a.avgSlippageBps ≤ b.avgSlippageBps
  impact : a.avgPriceImpactBps ≤ b.avgPriceImpactBps
  rate : a.failedTxRate ≤ b.failedTxRate
  failedCost : a.avgFailedTxCostUsd ≤ b.avgFailedTxCostUsd

/-- Costlier inputs cost more. -/
theorem costPct_mono {a b : BreakEvenInputs} (ha : ValidCosts a) (h : Costlier a b) :
    costPct a ≤ costPct b := by
  have hposition := ha.position
  have hfailedCost := ha.failedCost
  have hrate : 0 ≤ b.failedTxRate := ha.rate.trans h.rate
  have hpriority := h.priority
  have hswapFee := h.swapFee
  have hslippage := h.slippage
  have himpact := h.impact
  have hrate' := h.rate
  have hfailedCost' := h.failedCost
  unfold costPct
  rw [h.position]
  gcongr

/-- The net return that the backtest reconstructs from the costs. -/
def reconstructedNet (config : Config) (input : BreakEvenInputs) : Decimal :=
  (input.assumedAvgLossPct + costPct input) / input.assumedWinLossRatio
    - config.economics.uncertaintyHaircutPct

/-- It grows with the costs. -/
theorem reconstructedNet_mono (config : Config) {a b : BreakEvenInputs} (ha : ValidCosts a)
    (h : Costlier a b) : reconstructedNet config a ≤ reconstructedNet config b := by
  have hratio := ha.ratio
  have hcost := costPct_mono ha h
  unfold reconstructedNet
  rw [h.ratio, h.loss]
  gcongr

/-- The expected value that the backtest decides on. -/
theorem expectation_reconstructed {input : BreakEvenInputs} (h : ValidCosts input) (config : Config) :
    (expectation (requiredWinPct input) input 0 0
        config.economics.uncertaintyHaircutPct).netReturnPct = reconstructedNet config input := by
  rw [expectation_net h]
  unfold requiredWinPct reconstructedNet
  ring

/-! ## The live decision -/

section Live

variable (config : Config)

/-- The cost gate and the check of the expected value at a gross return. -/
def CostsPass (killSwitch : KillSwitch) (gross : Decimal) (m : CostModel) : Prop :=
  authorizeEntry killSwitch ⟨config.economics.roundTripCostThresholdPct⟩ m = .ok () ∧
    ∃ ev, ExpectedValue.estimate gross m 0 0 config.economics.uncertaintyHaircutPct = .ok ev ∧
      config.economics.minExpectedNetReturnPct ≤ ev.netReturnPct

/-- The candidate passes the first checks and all rules. -/
def LiveAccepts (s : SessionState) (c : CandidateInput) (now t : Time) (uuid : String) : Prop :=
  ∃ screened, screenCandidate config s c now = some screened ∧
    ∃ signal, evaluateSignal config c.mint screened.wallets c.market c.safety screened.expected t
      uuid = .accepted signal

/-- The candidate with other costs. -/
def repricedCandidate (c : CandidateInput) (input : BreakEvenInputs) : CandidateInput :=
  { c with costs := { c.costs with input } }

variable {config}

/-- The live checks of the costs, written out. -/
theorem costsPass_iff {killSwitch : KillSwitch} {gross : Decimal} {m : CostModel} :
    CostsPass config killSwitch gross m ↔
      killSwitch.tripped = false ∧ ValidCosts m.input ∧
        costPct m.input ≤ config.economics.roundTripCostThresholdPct ∧
        0 ≤ config.economics.uncertaintyHaircutPct ∧
        config.economics.minExpectedNetReturnPct ≤
          gross - costPct m.input - config.economics.uncertaintyHaircutPct := by
  unfold CostsPass
  rw [authorizeEntry_eq_ok_iff]
  constructor
  · rintro ⟨⟨htripped, hvalid, hcost⟩, ev, hev, hedge⟩
    obtain ⟨-, ⟨-, -, hhaircut⟩, rfl⟩ := estimate_eq_ok_iff.mp hev
    rw [expectation_net hvalid, zero_div, sub_zero, sub_zero] at hedge
    exact ⟨htripped, hvalid, hcost, hhaircut, hedge⟩
  · rintro ⟨htripped, hvalid, hcost, hhaircut, hedge⟩
    refine ⟨⟨htripped, hvalid, hcost⟩, _,
      estimate_eq_ok_iff.mpr ⟨hvalid, ⟨le_refl _, le_refl _, hhaircut⟩, rfl⟩, ?_⟩
    rwa [expectation_net hvalid, zero_div, sub_zero, sub_zero]

/-- Costs that pass have passed before they rose. -/
theorem costsPass_of_raised {a b : BreakEvenInputs} (ha : ValidCosts a) (h : Costlier a b)
    {killSwitch : KillSwitch} {gross : Decimal} {m : CostModel} (hm : m.input = a)
    (hpass : CostsPass config killSwitch gross { m with input := b }) :
    CostsPass config killSwitch gross m := by
  obtain ⟨htripped, hvalid, hcost, hhaircut, hedge⟩ := costsPass_iff.mp hpass
  have hmono := costPct_mono ha h
  subst hm
  exact costsPass_iff.mpr ⟨htripped, ha, hmono.trans hcost, hhaircut, hedge.trans (by linarith)⟩

/-- A candidate that is accepted was accepted before its costs rose. -/
theorem liveAccepts_of_raised {b : BreakEvenInputs} {s : SessionState} {c : CandidateInput}
    {now t : Time} {uuid : String} (ha : ValidCosts c.costs.input) (h : Costlier c.costs.input b)
    (haccepts : LiveAccepts config s (repricedCandidate c b) now t uuid) :
    LiveAccepts config s c now t uuid := by
  obtain ⟨screened, hscreened, haccepted⟩ := haccepts
  obtain ⟨hopen, hfresh, htoken, hbase, hsize, hauthorized, hexpected, hwallets⟩ :=
    screenCandidate_eq_some_iff.mp hscreened
  obtain ⟨htripped, -, hcost⟩ := authorizeEntry_eq_ok_iff.mp hauthorized
  obtain ⟨hvalid, hcomponents, hvalue⟩ := estimate_eq_ok_iff.mp hexpected
  have hmono := costPct_mono ha h
  have hbefore : ExpectedValue.estimate c.expectedGrossReturnPct c.costs 0 0
      config.economics.uncertaintyHaircutPct = .ok (expectation c.expectedGrossReturnPct
        c.costs.input 0 0 config.economics.uncertaintyHaircutPct) :=
    estimate_eq_ok_iff.mpr ⟨ha, hcomponents, rfl⟩
  refine ⟨{ screened with
      expected := expectation c.expectedGrossReturnPct c.costs.input 0 0
        config.economics.uncertaintyHaircutPct },
    screenCandidate_eq_some_iff.mpr ⟨hopen, hfresh, htoken, hbase, h.position.symm.trans hsize,
      authorizeEntry_eq_ok_iff.mpr ⟨htripped, ha, hmono.trans hcost⟩, hbefore, hwallets⟩, ?_⟩
  rw [evaluateSignal_accepted_iff] at haccepted ⊢
  refine haccepted.mono ?_
  dsimp only
  rw [hvalue, expectation_net ha, expectation_net hvalid]
  change c.expectedGrossReturnPct - costPct b - _ - _ - _ ≤ _
  linarith

end Live

/-! ## The simulated decision -/

section Simulated

variable {config : Config} {hasher : Hasher}

/-- The signal with other costs. -/
def repricedSignal (s : HistoricalSignal) (input : BreakEvenInputs) : HistoricalSignal :=
  { s with costs := { s.costs with input } }

/-- Why a signal with costs that the calculator accepts is not entered. -/
theorem entryRefusal_of_valid {s : HistoricalSignal} (h : ValidCosts s.costs.input) :
    entryRefusal hasher config s =
      if s.costs.observedAt > s.signalTimestamp then some (some .costsAfterSignal)
      else if config.economics.roundTripCostThresholdPct < costPct s.costs.input then
        some (some (.roundTripCost (costPct s.costs.input)
          config.economics.roundTripCostThresholdPct))
      else if config.economics.uncertaintyHaircutPct < 0 then
        some (some (.economicEvidence (.negative "expected-value component")))
      else
        match evaluateSignalPit hasher config s.mint s.wallets s.market s.safety
            (expectation (requiredWinPct s.costs.input) s.costs.input 0 0
              config.economics.uncertaintyHaircutPct) s.signalTimestamp with
        | none => none
        | some (.rejected reason) => some (some (.strategy reason))
        | some (.accepted _) =>
            if s.market.priceUsd ≤ 0 then some (some .nonPositiveEntryPrice) else some none := by
  have hgate := check_of_valid h ⟨config.economics.roundTripCostThresholdPct⟩
  unfold entryRefusal
  by_cases htime : s.costs.observedAt > s.signalTimestamp
  · rw [if_pos htime, if_pos htime]
  rw [if_neg htime, if_neg htime]
  by_cases hcost : config.economics.roundTripCostThresholdPct < costPct s.costs.input
  · rw [if_pos hcost] at hgate ⊢
    rw [hgate]
    rfl
  rw [if_neg hcost] at hgate ⊢
  rw [hgate]
  by_cases hhaircut : config.economics.uncertaintyHaircutPct < 0
  · have hestimate : ExpectedValue.estimate (breakEven s.costs.input).requiredAvgWinPct s.costs 0 0
        config.economics.uncertaintyHaircutPct =
          .error (.negative "expected-value component") := by
      unfold ExpectedValue.estimate CostModel.calculate
      rw [breakEvenCalculator_eq_ok_iff.mpr ⟨h, rfl⟩, ok_bind, if_pos (.inr (.inr hhaircut))]
      rfl
    rw [if_pos hhaircut]
    dsimp only
    rw [hestimate]
  · have hestimate : ExpectedValue.estimate (breakEven s.costs.input).requiredAvgWinPct s.costs 0 0
        config.economics.uncertaintyHaircutPct = .ok (expectation (requiredWinPct s.costs.input)
          s.costs.input 0 0 config.economics.uncertaintyHaircutPct) :=
      estimate_eq_ok_iff.mpr ⟨h, ⟨le_refl _, le_refl _, not_lt.mp hhaircut⟩, rfl⟩
    rw [if_neg hhaircut]
    dsimp only
    rewrite [hestimate]
    rfl

/-- Costs that the calculator refuses are no evidence. -/
theorem entryRefusal_of_invalid {s : HistoricalSignal} (h : ¬ValidCosts s.costs.input) :
    entryRefusal hasher config s ≠ some none := by
  unfold entryRefusal EconomicGate.check CostModel.calculate
  cases hcalculated : breakEvenCalculator s.costs.input with
  | ok r => exact absurd (breakEvenCalculator_eq_ok_iff.mp hcalculated).1 h
  | error e =>
      split
      · simp
      · exact fun hnone => by cases hnone

/-- **Entry.** The conditions for a signal to be entered. -/
theorem entryRefusal_eq_none_iff {s : HistoricalSignal} :
    entryRefusal hasher config s = some none ↔
      s.costs.observedAt ≤ s.signalTimestamp ∧ ValidCosts s.costs.input ∧
        costPct s.costs.input ≤ config.economics.roundTripCostThresholdPct ∧
        0 ≤ config.economics.uncertaintyHaircutPct ∧
        PassesRules config s.wallets s.market s.safety s.signalTimestamp
          (reconstructedNet config s.costs.input) ∧
        0 < s.market.priceUsd := by
  by_cases hvalid : ValidCosts s.costs.input
  · rw [entryRefusal_of_valid hvalid, and_iff_right hvalid, ← expectation_reconstructed hvalid,
      ← evaluateSignalPit_accepted_iff hasher s.mint]
    by_cases htime : s.costs.observedAt > s.signalTimestamp
    · rw [if_pos htime]
      exact iff_of_false (by simp) fun h => not_le.mpr htime h.1
    rw [if_neg htime, and_iff_right (not_lt.mp htime)]
    by_cases hcost : config.economics.roundTripCostThresholdPct < costPct s.costs.input
    · rw [if_pos hcost]
      exact iff_of_false (by simp) fun h => not_le.mpr hcost h.1
    rw [if_neg hcost, and_iff_right (not_lt.mp hcost)]
    by_cases hhaircut : config.economics.uncertaintyHaircutPct < 0
    · rw [if_pos hhaircut]
      exact iff_of_false (by simp) fun h => not_le.mpr hhaircut h.1
    rw [if_neg hhaircut, and_iff_right (not_lt.mp hhaircut)]
    cases hdecision : evaluateSignalPit hasher config s.mint s.wallets s.market s.safety
        (expectation (requiredWinPct s.costs.input) s.costs.input 0 0
          config.economics.uncertaintyHaircutPct) s.signalTimestamp with
    | none => simp
    | some decision =>
        cases decision with
        | rejected reason => simp
        | accepted signal =>
            by_cases hprice : s.market.priceUsd ≤ 0
            · simp [hprice]
            · simp [hprice, not_le.mp hprice]
  · exact iff_of_false (entryRefusal_of_invalid hvalid) fun h => hvalid h.2.1

/-- Refusals of the edge or of the score come after the evidence. -/
def OverThreshold (reason : SimRejection) : Prop :=
  reason = .strategy "economic edge below threshold" ∨
    reason = .strategy "signal confidence below threshold"

/-- What such a refusal leaves to be said about the signal. -/
theorem overThreshold_refusal {s : HistoricalSignal} {reason : SimRejection}
    (hvalid : ValidCosts s.costs.input) (h : entryRefusal hasher config s = some (some reason))
    (hreason : OverThreshold reason) :
    s.costs.observedAt ≤ s.signalTimestamp ∧ 0 ≤ config.economics.uncertaintyHaircutPct ∧
      ¬EvidenceRefused config s.wallets s.market s.safety s.signalTimestamp := by
  rw [entryRefusal_of_valid hvalid] at h
  by_cases htime : s.costs.observedAt > s.signalTimestamp
  · rw [if_pos htime, Option.some.injEq, Option.some.injEq] at h
    rcases hreason with rfl | rfl <;> cases h
  rw [if_neg htime] at h
  by_cases hcost : config.economics.roundTripCostThresholdPct < costPct s.costs.input
  · rw [if_pos hcost, Option.some.injEq, Option.some.injEq] at h
    rcases hreason with rfl | rfl <;> cases h
  rw [if_neg hcost] at h
  by_cases hhaircut : config.economics.uncertaintyHaircutPct < 0
  · rw [if_pos hhaircut, Option.some.injEq, Option.some.injEq] at h
    rcases hreason with rfl | rfl <;> cases h
  rw [if_neg hhaircut] at h
  refine ⟨not_lt.mp htime, not_lt.mp hhaircut, fun hrefused => ?_⟩
  obtain ⟨text, htext, hedge, hscore⟩ := evaluateSignalPit_refused hrefused hasher s.mint
    (expectation (requiredWinPct s.costs.input) s.costs.input 0 0
      config.economics.uncertaintyHaircutPct)
  rw [htext, Option.some.injEq, Option.some.injEq] at h
  rcases hreason with rfl | rfl
  · exact hedge (SimRejection.strategy.inj h)
  · exact hscore (SimRejection.strategy.inj h)

/-- A signal that passes but for its net return is refused for the edge or the score. -/
theorem refusal_overThreshold {s : HistoricalSignal} {reason : SimRejection}
    (hvalid : ValidCosts s.costs.input) (h : entryRefusal hasher config s = some (some reason))
    (htime : s.costs.observedAt ≤ s.signalTimestamp)
    (hcost : costPct s.costs.input ≤ config.economics.roundTripCostThresholdPct)
    (hhaircut : 0 ≤ config.economics.uncertaintyHaircutPct)
    (hevidence : ¬EvidenceRefused config s.wallets s.market s.safety s.signalTimestamp)
    (hprice : 0 < s.market.priceUsd) : OverThreshold reason := by
  rw [entryRefusal_of_valid hvalid, if_neg (not_lt.mpr htime), if_neg (not_lt.mpr hcost),
    if_neg (not_lt.mpr hhaircut)] at h
  obtain ⟨signal, hdecision⟩ := evaluateSignalPit_passed hevidence hasher s.mint
    (expectation (requiredWinPct s.costs.input) s.costs.input 0 0
      config.economics.uncertaintyHaircutPct)
  rw [hdecision] at h
  simp only [if_neg (not_le.mpr hprice)] at h
  split_ifs at h with hedge hcount hscore
  · exact .inl (Option.some.inj (Option.some.inj h)).symm
  · exact .inr (Option.some.inj (Option.some.inj h)).symm
  · cases h

variable {costAssumptions : CostAssumptions} {split : Split} {tradeIndex : ℕ}

/-- A signal is accepted exactly if nothing refuses its entry. -/
theorem simulateSignal_accepted_iff {s : HistoricalSignal} :
    (∃ trade, simulateSignal hasher config costAssumptions split tradeIndex s = some (.ok trade)) ↔
      entryRefusal hasher config s = some none := by
  simp only [simulateSignal_ok_iff, exists_and_left, exists_eq, and_true]

/-- A refused signal is entered with costs that rose exactly if its net return had been over a
threshold, and what is reconstructed now is not. -/
theorem entered_of_raised_iff {s : HistoricalSignal} {b : BreakEvenInputs} {reason : SimRejection}
    (hvalid : ValidCosts s.costs.input) (hcostlier : Costlier s.costs.input b)
    (h : entryRefusal hasher config s = some (some reason)) :
    entryRefusal hasher config (repricedSignal s b) = some none ↔
      OverThreshold reason ∧ ValidCosts b ∧
        costPct b ≤ config.economics.roundTripCostThresholdPct ∧
        config.economics.minExpectedNetReturnPct ≤ reconstructedNet config b ∧
        ¬2 ^ 32 ∣ s.wallets.length ∧
        config.strategy.minSignalScore ≤ scoreAt s.wallets s.market (reconstructedNet config b) ∧
        0 < s.market.priceUsd := by
  rw [entryRefusal_eq_none_iff]
  constructor
  · rintro ⟨htime, hraised, hcost, hhaircut, hpasses, hprice⟩
    have hbefore := (costPct_mono hvalid hcostlier).trans hcost
    exact ⟨refusal_overThreshold hvalid h htime hbefore hhaircut hpasses.evidence hprice, hraised,
      hcost, hpasses.edge, hpasses.counted, hpasses.score, hprice⟩
  · rintro ⟨hreason, hraised, hcost, hedge, hcounted, hscore, hprice⟩
    obtain ⟨htime, hhaircut, hevidence⟩ := overThreshold_refusal hvalid h hreason
    exact ⟨htime, hraised, hcost, hhaircut, ⟨hevidence, hedge, hcounted, hscore⟩, hprice⟩

end Simulated

/-- A configuration whose edge the sample record misses. -/
def demandingConfig : Config :=
  { sampleConfig with economics := { sampleConfig.economics with minExpectedNetReturnPct := 6 } }

/-- The costs of the sample record with three times the slippage. -/
def slipperyCosts : BreakEvenInputs := { sampleSignal.costs.input with avgSlippageBps := 150 }

/-- The sample's costs are valid. -/
theorem sampleCosts_valid : ValidCosts sampleSignal.costs.input := by
  constructor <;> decide +kernel

/-- More slippage is costlier. -/
theorem slipperyCosts_costlier : Costlier sampleSignal.costs.input slipperyCosts := by
  constructor <;> decide +kernel

/-- A demanding configuration refuses the sample's signal. -/
theorem sampleSignal_refused :
    simulateSignal sampleHasher demandingConfig sampleCosts .train 0 sampleSignal =
      some (.error (.strategy "economic edge below threshold")) := by
  rw [simulateSignal_error_iff]
  decide +kernel

/-- The costs of the sample record with a fee below zero, which no calculation accepts. -/
def negativeFeeCosts : CostModel :=
  { sampleSignal.costs with input := { sampleSignal.costs.input with avgSwapFeeBps := -1 } }

end SolanaBot.Analysis
