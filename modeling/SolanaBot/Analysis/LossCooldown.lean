import SolanaBot.Analysis.SessionParts

/-!
# The cooldown after a loss

Nothing in a session applies the cooldown: whatever the session and the other tasks do, its risk
engine has no cooldown when it is asked about an entry (`cooldown_of_moves`). After a loss an
entry is refused within the cooldown exactly if one of the other limits refuses it
(`loss_cooldown_iff`).
-/

set_option autoImplicit false

namespace SolanaBot.Analysis

open SolanaBot.Library SolanaBot.Model

/-! ## Losses of a run -/

/-- A position lost money between the two states of the store. -/
def realizesLoss (before after : Db) : Bool :=
  before.positions.rows.any fun p =>
    (after.positions.find? p.mint).any fun p' => p'.realizedPnlUsd < p.realizedPnlUsd

/-- At the time `t` of the run, the session or another task realized a loss. -/
def LossAt {α : Type} (env : ℕ → Env × (Db → Db)) (p : Session α) (i : ℕ) (s : SessionState)
    (db : Db) (t : Time) : Prop :=
  ¬ Prog.AlwaysS world.among env
    (fun e o db => e.1.clock = t → realizesLoss db (world.among.exec e o db).2 = false) p i s db

/-- The times of all losses up to the end of a run: the earlier ones, which the session did not see,
and its own. -/
def lossTimes {α : Type} (earlier : Set Time) (env : ℕ → Env × (Db → Db)) (p : Session α) (i : ℕ)
    (s : SessionState) (db : Db) : Set Time :=
  earlier ∪ { t | LossAt env p i s db t }

/-! ## The other limits -/

/-- What an authorization checks besides the cooldown. -/
structure OtherLimitsPassed (r : RiskEngine) (x liquidity : Decimal) (slippage impact : UInt32) :
    Prop where
  live : r.killSwitch.tripped = false
  positive : 0 < x
  liquid : 0 < liquidity
  positions : r.state.openPositions < r.config.maxConcurrentPositions
  trades : r.state.tradesToday < r.config.maxTradesPerDay
  equityShare : x ≤ r.state.equityUsd * r.config.maxPositionPercentOfEquity / 100
  liquidityShare : x ≤ liquidity * r.config.maxPositionPercentOfLiquidity / 100
  exposure : r.state.totalExposureUsd + x < r.config.maxLiveCapitalUsd
  slippage : slippage ≤ r.config.maxSlippageBps
  impact : impact ≤ r.config.maxSlippageBps
  dailyLoss : ¬ (r.state.dayStartEquityUsd > 0 ∧
    (r.state.dayStartEquityUsd - r.state.equityUsd) / r.state.dayStartEquityUsd * 100 ≥
      r.config.maxDailyLossPercent)

/-- Without a cooldown, an entry is authorized if it passes the other limits. -/
theorem authorize_ok_iff {r : RiskEngine} {x liquidity : Decimal} {slippage impact : UInt32}
    {now : Time} (hcool : r.state.cooldownUntil = none) :
    r.authorize x liquidity slippage impact now = .ok () ↔
      OtherLimitsPassed r x liquidity slippage impact := by
  unfold RiskEngine.authorize
  dsimp only
  constructor
  · intro h
    obtain ⟨hlive, h⟩ := check_passed h
    obtain ⟨hpositive, h⟩ := check_passed h
    obtain ⟨hliquid, h⟩ := check_passed h
    obtain ⟨hpositions, h⟩ := check_passed h
    obtain ⟨htrades, h⟩ := check_passed h
    obtain ⟨hshare, h⟩ := check_passed h
    obtain ⟨hexposure, h⟩ := check_passed h
    obtain ⟨hslippage, h⟩ := check_passed h
    obtain ⟨himpact, h⟩ := check_passed h
    obtain ⟨-, h⟩ := check_passed h
    obtain ⟨hloss, -⟩ := check_passed h
    rw [not_or] at hshare
    exact ⟨by simpa using hlive, not_le.mp hpositive, not_le.mp hliquid, not_le.mp hpositions,
      UInt32.not_le.mp htrades, not_lt.mp hshare.1, not_lt.mp hshare.2, not_le.mp hexposure,
      UInt32.not_lt.mp hslippage, UInt32.not_lt.mp himpact, hloss⟩
  · intro h
    rw [if_neg (by rw [h.live]; exact Bool.false_ne_true), if_neg (not_le.mpr h.positive),
      if_neg (not_le.mpr h.liquid), if_neg (not_le.mpr h.positions),
      if_neg (UInt32.not_le.mpr h.trades),
      if_neg (not_or.mpr ⟨not_lt.mpr h.equityShare, not_lt.mpr h.liquidityShare⟩),
      if_neg (not_le.mpr h.exposure), if_neg (UInt32.not_lt.mpr h.slippage),
      if_neg (UInt32.not_lt.mpr h.impact), hcool, if_neg (by simp), if_neg h.dailyLoss]

/-! ## The cooldown of a session -/

/-- No move of the risk state sets the cooldown. -/
theorem RiskMove.cooldown {r r' : RiskEngine} (h : RiskMove r r') :
    r'.state.cooldownUntil = r.state.cooldownUntil := by
  cases h with
  | recordExecutionFailure =>
      unfold RiskEngine.recordExecutionFailure
      dsimp only
      split <;> rfl
  | _ => rfl

/-- **The cooldown.** In every run of a session among other tasks, and at every call of `authorize`
that it makes: the entry is refused if it comes within the cooldown of a loss, exactly if every loss
of the run is longer ago or one of the other limits refuses the entry. -/
theorem loss_cooldown_iff (deps : Deps) (env : ℕ → Env × (Db → Db)) (i : ℕ) (stored : List Position)
    (db : Db) (n k : ℕ) (earlier : Set Time) :
    let start := newSessionState deps (Portfolio.empty.load stored)
    let run := Prog.runS world.among env (untilAuthorize deps n k) i start db
    let losses := lossTimes earlier env (untilAuthorize deps n k) i start db
    let window := minutes deps.config.risk.cooldownAfterLossMinutes
    ∀ call now, run.1.1 = .ok (some (call, now)) →
      ((∀ t ∈ losses, now < t + window → call.authorize deps run.1.2.risk now ≠ .ok ()) ↔
        (∀ t ∈ losses, t + window ≤ now) ∨
          ¬ OtherLimitsPassed run.1.2.risk call.positionUsd call.candidate.market.liquidityUsd
            deps.config.execution.slippageBps.toUInt32 call.quote.priceImpactBps) := by
  intro start run losses window call now _
  have hcool : run.1.2.risk.state.cooldownUntil = none :=
    Prog.Triple.ends (preserves_untilAuthorize (sessionInvariant_of_moves _ _ (fun _ _ _ => True)
        (I := fun r => r.state.cooldownUntil = none)
        (fun _ _ hmove h => hmove.cooldown.trans h) deps).run n k)
      rfl (Prog.always_of_forall (fun _ _ _ => trivial) _ _ _)
  have hok : call.authorize deps run.1.2.risk now = .ok () ↔ OtherLimitsPassed run.1.2.risk
      call.positionUsd call.candidate.market.liquidityUsd
      deps.config.execution.slippageBps.toUInt32 call.quote.priceImpactBps := authorize_ok_iff hcool
  constructor
  · intro h
    by_cases hpassed : OtherLimitsPassed run.1.2.risk call.positionUsd
        call.candidate.market.liquidityUsd deps.config.execution.slippageBps.toUInt32
        call.quote.priceImpactBps
    · refine .inl fun t ht => not_lt.mp fun hlt => ?_
      exact h t ht hlt (hok.mpr hpassed)
    · exact .inr hpassed
  · rintro (h | h) t ht hlt hgranted
    · exact absurd (h t ht) (not_le.mpr hlt)
    · exact h (hok.mp hgranted)

/-! ## An entry right after a loss -/

/-- The sample world in which a record of the feed can be traded and a sale of the sample position
brings 4 USD. -/
def lossAnswer : (o : Op) → Res o
  | .execute r => .ok (swapFill r.orderId r.quote.inputAmount r.quote.outputAmount
      (match r.valueBasis with | .outputUnitPriceUsd _ => 4 | _ => 10) 0)
  | o => feedAnswer [tradableRecord] o

/-- Nobody else is there. -/
def lossEnv (_ : ℕ) : Env × (Db → Db) := ({ sampleEnv with answer := lossAnswer }, id)

/-- The session that sells the sample position at a loss, up to its first entry. -/
def lossRun : (Except String (Option (EntryCall × Time)) × SessionState) × Db × ℕ :=
  Prog.runS world.among lossEnv (untilAuthorize feedDeps 0 0) 0 (holdingSession feedDeps) sampleDb

/-- The first entry of the run. -/
def lossCall : EntryCall × Time := (callOf lossRun.1.1).get (by decide +kernel)

/-- After a loss the sample's entry is authorized exactly under the condition. -/
theorem loss_cooldown_iff_sample :
    (∀ t ∈ lossTimes ∅ lossEnv (untilAuthorize feedDeps 0 0) 0 (holdingSession feedDeps) sampleDb,
        lossCall.2 < t + minutes 5 →
        lossCall.1.authorize feedDeps lossRun.1.2.risk lossCall.2 ≠ .ok ()) ↔
      (∀ t ∈ lossTimes ∅ lossEnv (untilAuthorize feedDeps 0 0) 0 (holdingSession feedDeps) sampleDb,
          t + minutes 5 ≤ lossCall.2) ∨
        ¬ OtherLimitsPassed lossRun.1.2.risk lossCall.1.positionUsd
          lossCall.1.candidate.market.liquidityUsd feedDeps.config.execution.slippageBps.toUInt32
          lossCall.1.quote.priceImpactBps :=
  loss_cooldown_iff feedDeps lossEnv 0 [samplePosition] sampleDb 0 0 ∅ lossCall.1 lossCall.2
    (eq_of_callOf (by decide +kernel))

/-- The sample position is sold for 4 of its 10 USD at time 0, and at the same time an entry is
authorized, although the cooldown is five minutes. -/
theorem entry_after_loss :
    LossAt lossEnv (untilAuthorize feedDeps 0 0) 0 (holdingSession feedDeps) sampleDb 0 ∧
      lossRun.1.1 = .ok (some lossCall) ∧ lossCall.2 < 0 + minutes 5 ∧
      lossCall.1.authorize feedDeps lossRun.1.2.risk lossCall.2 = .ok () :=
  ⟨by unfold LossAt Prog.AlwaysS; decide +kernel, eq_of_callOf _, by decide +kernel,
    by decide +kernel⟩

end SolanaBot.Analysis
