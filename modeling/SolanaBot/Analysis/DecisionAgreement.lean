import SolanaBot.Analysis.SimulatedExits

/-!
# The live and the simulated entry decision

`evaluate_signal` and `evaluate_signal_pit` are two cascades of the same rules. Rule by rule
they agree (`rule_agrees`); the live one has one rule more, in front of the scoring, which
refuses an empty count. The count is the number of wallets truncated to 32 bits, and the
backtest divides by it: the two decisions agree unless the scoring is reached with a
multiple of 2^32 wallets (`decisions_agree_iff`).
-/

set_option autoImplicit false

namespace SolanaBot.Analysis

open SolanaBot.Model

/-- Two decisions agree: the same reason, or the same wallets and the same score. A panic
agrees with nothing. -/
def Agrees : StrategyDecision → Option StrategyDecision → Prop
  | .rejected reason, some (.rejected reason') => reason = reason'
  | .accepted s, some (.accepted s') => s.wallets = s'.wallets ∧ s.score = s'.score
  | _, _ => False

/-- One rule of the two cascades: they agree if the rests agree where the rule passes. -/
theorem rule_agrees {c : Prop} [Decidable c] {reason : String} {d : StrategyDecision}
    {d' : Option StrategyDecision} :
    Agrees (if c then .rejected reason else d) (if c then some (.rejected reason) else d') ↔
      (c ∨ Agrees d d') := by
  by_cases hc : c
  · rw [if_pos hc, if_pos hc]
    exact ⟨fun _ => .inl hc, fun _ => rfl⟩
  · rw [if_neg hc, if_neg hc]
    exact ⟨.inr, fun h => h.resolve_left hc⟩

section Decision

variable (config : Config) (mint : String) (wallets : List WalletStats)
  (market : MarketSnapshot) (safety : TokenSafety) (expected : ExpectedValue) (now : Time)

/-- Some rule in front of the scoring refuses the signal. -/
def RefusedBeforeScoring : Prop :=
  (market.observedAt > now ∨ safety.observedAt > now ∨
    market.ageSeconds now > config.rpc.maxDataAgeSecs) ∨
  market.liquidityUsd < config.risk.minLiquidityUsd ∨
  failsSafety safety config.strategy.minTokenAgeSecs = true ∨
  wallets.length < config.strategy.minConsensusWallets ∨
  (wallets.any fun w =>
    w.trades < config.strategy.minWalletSamples
      || w.score < config.strategy.minWalletScore
      || w.updatedAt > now) = true ∨
  expected.netReturnPct < config.economics.minExpectedNetReturnPct

/-- The scores are computed alike. RUST: signal.rs:72-90 and backtest/engine.rs:642-660. -/
theorem signalScorePit_eq : signalScorePit = signalScore := rfl

/-- The token safety filters are the same. RUST: signal.rs:35-47 and backtest/engine.rs:603-616. -/
theorem failsSafetyPit_eq : failsSafetyPit = failsSafety := rfl

/-- The scoring of the two cascades agrees where there is something to count. -/
theorem scoring_agrees_iff {count : Decimal} (hcount : 0 ≤ count) {reason reason' : String}
    {c : Prop} [Decidable c] {s s' : TradeSignal} (hwallets : s.wallets = s'.wallets)
    (hscore : s.score = s'.score) :
    Agrees (if count ≤ 0 then .rejected reason else if c then .rejected reason' else .accepted s)
        (if count = 0 then none else if c then some (.rejected reason') else some (.accepted s')) ↔
      count ≠ 0 := by
  by_cases hzero : count = 0
  · rw [if_pos hzero, if_pos (le_of_eq hzero)]
    exact ⟨fun h => h.elim, fun h => absurd hzero h⟩
  · have hpositive : 0 < count := lt_of_le_of_ne hcount (Ne.symm hzero)
    rw [if_neg hzero, if_neg (not_le.mpr hpositive), rule_agrees]
    exact ⟨fun _ => hzero, fun _ => .inr ⟨hwallets, hscore⟩⟩

/-- The cascades agree rule by rule, up to the scoring. -/
theorem cascades_agree (hasher : Hasher) (uuid : String) :
    Agrees (evaluateSignal config mint wallets market safety expected now uuid)
        (evaluateSignalPit hasher config mint wallets market safety expected now) ↔
      (RefusedBeforeScoring config wallets market safety expected now ∨
        ((wallets.length % 2 ^ 32 : ℕ) : ℚ) ≠ 0) := by
  unfold evaluateSignal evaluateSignalPit RefusedBeforeScoring
  rw [failsSafetyPit_eq, signalScorePit_eq, rule_agrees, rule_agrees, rule_agrees, rule_agrees,
    rule_agrees, rule_agrees]
  dsimp only
  rw [scoring_agrees_iff (Nat.cast_nonneg _) ?wallets ?score]
  · simp only [or_assoc]
  case wallets => rfl
  case score => rfl

/-- **The two entry decisions agree exactly unless the scoring is reached with a count of
zero**, which takes a multiple of 2^32 wallets. -/
theorem decisions_agree_iff (hasher : Hasher) (uuid : String) :
    Agrees (evaluateSignal config mint wallets market safety expected now uuid)
        (evaluateSignalPit hasher config mint wallets market safety expected now) ↔
      (RefusedBeforeScoring config wallets market safety expected now ∨
        ¬2 ^ 32 ∣ wallets.length) := by
  have hcount : ((wallets.length % 2 ^ 32 : ℕ) : ℚ) ≠ 0 ↔ ¬2 ^ 32 ∣ wallets.length := by
    rw [Nat.cast_ne_zero, Nat.dvd_iff_mod_eq_zero]
  rw [cascades_agree, hcount]

end Decision

/-! ## Where they differ -/

/-- The expected value of the sample record. -/
def sampleExpected : ExpectedValue :=
  { grossReturnPct := 8, tradingFeesPct := 1, priorityAndNetworkPct := 0, slippagePct := 1
    priceImpactPct := 0, failedTransactionPct := 0, adverseSelectionPct := 0
    expectedExitCostPct := 0, uncertaintyHaircutPct := 1, netReturnPct := 5 }

/-- Any number of copies of a qualified wallet passes the rules in front of the scoring. -/
theorem sample_reaches_scoring {n : ℕ} (hn : 2 ≤ n) :
    ¬RefusedBeforeScoring sampleConfig (List.replicate n (qualifiedWallet "wallet"))
      sampleSignal.market sampleSignal.safety sampleExpected 60000 := by
  unfold RefusedBeforeScoring
  have hquality : ((List.replicate n (qualifiedWallet "wallet")).any fun w =>
      w.trades < sampleConfig.strategy.minWalletSamples
        || w.score < sampleConfig.strategy.minWalletScore
        || w.updatedAt > 60000) = false := by
    rw [List.any_eq_false]
    intro w hw
    rw [List.eq_of_mem_replicate hw]
    decide +kernel
  rw [hquality, List.length_replicate]
  rintro (h | h | h | h | h | h)
  · revert h
    decide +kernel
  · revert h
    decide +kernel
  · revert h
    decide +kernel
  · exact absurd h (not_lt.mpr hn)
  · cases h
  · revert h
    decide +kernel

/-- Under a validated configuration and with 2^32 wallets, the live decision is a refusal and the
backtest divides by zero. -/
theorem decisions_disagree :
    sampleConfig.validate = .ok () ∧ ∃ n, n = 2 ^ 32 ∧
      ¬Agrees
        (evaluateSignal sampleConfig sampleSignal.mint
          (List.replicate n (qualifiedWallet "wallet")) sampleSignal.market sampleSignal.safety
          sampleExpected 60000 "signal-1")
        (evaluateSignalPit sampleHasher sampleConfig sampleSignal.mint
          (List.replicate n (qualifiedWallet "wallet")) sampleSignal.market sampleSignal.safety
          sampleExpected 60000) := by
  refine ⟨rfl, 2 ^ 32, rfl, ?_⟩
  generalize hn : 2 ^ 32 = n
  have htwo : 2 ≤ n := by
    rw [← hn]
    decide
  rw [cascades_agree]
  rintro (hrefused | hcounted)
  · exact sample_reaches_scoring htwo hrefused
  · rw [List.length_replicate, hn, Nat.mod_self] at hcounted
    exact hcounted rfl

end SolanaBot.Analysis
