import Mathlib.Tactic.Linarith
import SolanaBot.Analysis.StoreSteps
import SolanaBot.Model.Session

/-!
# The limits of the risk engine

A run of the risk engine is a list of its operations. A trade may be registered only directly
after an authorization of exactly its size that was granted (`Disciplined`), as the entry pipeline
does. What an authorization checks is then what the registration needs, and no other operation
comes closer to a limit, so the limits hold in every state of every run (`limits_kept`).
-/

set_option autoImplicit false

namespace SolanaBot.Analysis

open SolanaBot.Model

/-- What is done to the risk engine. -/
inductive RiskOp where
  | authorize (positionUsd liquidityUsd : Decimal) (expectedSlippageBps priceImpactBps : UInt32)
      (now : Time)
  | registerTrade (exposureUsd : Decimal)
  | registerExit (exposureUsd : Decimal)
  | observeEquity (equity : Decimal)
  | recordExecutionSuccess
  | recordExecutionFailure
  | applyLossCooldown (now : Time)
  | startDay

namespace RiskOp

/-- The engine after the operation. -/
def apply (r : RiskEngine) : RiskOp → RiskEngine
  | .authorize .. => r
  | .registerTrade exposure => r.registerTrade exposure
  | .registerExit exposure => r.registerExit exposure
  | .observeEquity equity => r.observeEquity equity
  | .recordExecutionSuccess => r.recordExecutionSuccess
  | .recordExecutionFailure => r.recordExecutionFailure.2
  | .applyLossCooldown now => r.applyLossCooldown now
  | .startDay =>
      { r with state := { r.state with dayStartEquityUsd := r.state.equityUsd, tradesToday := 0 } }

/-- The size that the operation authorizes. -/
def grants (r : RiskEngine) : RiskOp → Option Decimal
  | .authorize positionUsd liquidityUsd slippage impact now =>
      match r.authorize positionUsd liquidityUsd slippage impact now with
      | .ok () => some positionUsd
      | .error _ => none
  | _ => none

/-- The number of trades registered since the counter of the day was reset. -/
def countTrades (n : ℕ) : RiskOp → ℕ
  | .registerTrade _ => n + 1
  | .startDay => 0
  | _ => n

/-- What callers keep to. `granted` is the size that the operation before has authorized. -/
def Permitted (granted : Option Decimal) : RiskOp → Prop
  | .registerTrade exposure => granted = some exposure
  | .registerExit exposure => 0 ≤ exposure
  | _ => True

end RiskOp

/-- The first tick of a day does to the risk engine what `startDay` does. -/
theorem rollDay_risk (now : Time) (s : SessionState) :
    (rollDay now s).risk = s.risk ∨ (rollDay now s).risk = RiskOp.startDay.apply s.risk := by
  unfold rollDay
  split
  · exact .inl rfl
  · exact .inr rfl

/-- The engine after a run. -/
def riskAfter (r : RiskEngine) (ops : List RiskOp) : RiskEngine := ops.foldl RiskOp.apply r

/-- The trades registered in a run since the last reset of the counter of the day. -/
def tradesSinceReset (ops : List RiskOp) : ℕ := ops.foldl RiskOp.countTrades 0

/-- Every operation of the run is permitted. -/
def Disciplined : RiskEngine → Option Decimal → List RiskOp → Prop
  | _, _, [] => True
  | r, granted, op :: ops => op.Permitted granted ∧ Disciplined (op.apply r) (op.grants r) ops

/-- The limits of the configuration. The exposure is below a limit that is positive. -/
structure WithinLimits (r : RiskEngine) : Prop where
  capital : 0 < r.config.maxLiveCapitalUsd
  exposure : r.state.totalExposureUsd < r.config.maxLiveCapitalUsd
  positions : r.state.openPositions ≤ r.config.maxConcurrentPositions
  trades : r.state.tradesToday ≤ r.config.maxTradesPerDay

/-- Another trade of the size `x` fits. -/
structure RoomFor (r : RiskEngine) (x : Decimal) : Prop where
  exposure : r.state.totalExposureUsd + x < r.config.maxLiveCapitalUsd
  positions : r.state.openPositions < r.config.maxConcurrentPositions
  trades : r.state.tradesToday < r.config.maxTradesPerDay

/-! ## What an authorization establishes -/

/-- A check that refuses under `c` is passed if `c` does not hold. -/
theorem check_passed {c : Prop} [Decidable c] {e : RiskError} {rest : Except RiskError Unit}
    (h : (if c then .error e else rest) = .ok ()) : ¬ c ∧ rest = .ok () := by
  by_cases hc : c
  · rw [if_pos hc] at h
    cases h
  · rw [if_neg hc] at h
    exact ⟨hc, h⟩

/-- What a granted authorization has checked. -/
structure Authorized (r : RiskEngine) (x : Decimal) (now : Time) : Prop where
  room : RoomFor r x
  positive : 0 < x
  live : r.killSwitch.tripped = false
  cool : ∀ t ∈ r.state.cooldownUntil, t ≤ now

/-- An authorized entry keeps the limits it was checked for. -/
theorem authorized_of_ok {r : RiskEngine} {x liquidity : Decimal} {slippage impact : UInt32}
    {now : Time} (h : r.authorize x liquidity slippage impact now = .ok ()) :
    Authorized r x now := by
  unfold RiskEngine.authorize at h
  obtain ⟨hlive, h⟩ := check_passed h
  obtain ⟨hpositive, h⟩ := check_passed h
  obtain ⟨-, h⟩ := check_passed h
  obtain ⟨hpositions, h⟩ := check_passed h
  obtain ⟨htrades, h⟩ := check_passed h
  obtain ⟨-, h⟩ := check_passed h
  obtain ⟨hexposure, h⟩ := check_passed h
  obtain ⟨-, h⟩ := check_passed h
  obtain ⟨-, h⟩ := check_passed h
  obtain ⟨hcool, -⟩ := check_passed h
  refine ⟨⟨not_le.mp hexposure, not_le.mp hpositions, ?_⟩, not_le.mp hpositive, by simpa using hlive,
    ?_⟩
  · exact UInt32.not_le.mp htrades
  · intro t ht
    rw [show r.state.cooldownUntil = some t from ht] at hcool
    simpa using hcool

/-! ## One operation -/

/-- The invariant of a run: the limits hold, the trades counted since the reset are in the counter
of the day, and what was authorized last still fits. -/
structure Safe (r : RiskEngine) (granted : Option Decimal) (n : ℕ) : Prop where
  limits : WithinLimits r
  counted : n ≤ r.state.tradesToday.toNat
  fits : ∀ x ∈ granted, RoomFor r x

/-- A counter below another value goes up by one. -/
theorem toNat_saturatingSucc {n m : UInt32} (h : n < m) :
    (saturatingSucc n).toNat = n.toNat + 1 := by
  have hlt : n.toNat < m.toNat := UInt32.lt_iff_toNat_lt.mp h
  have hmax := m.toNat_lt
  unfold saturatingSucc
  rw [if_pos (by omega), UInt32.toNat_add]
  exact Nat.mod_eq_of_lt (by simp; omega)

/-- A trade that fits is registered within the limits. -/
theorem Safe.registerTrade {r : RiskEngine} {granted : Option Decimal} {n : ℕ} {x : Decimal}
    (h : Safe r granted n) (hx : RoomFor r x) : Safe (r.registerTrade x) none (n + 1) := by
  have htrades := toNat_saturatingSucc hx.trades
  refine ⟨⟨h.limits.capital, hx.exposure, hx.positions, ?_⟩, ?_, nofun⟩
  · have hlt := UInt32.lt_iff_toNat_lt.mp hx.trades
    exact UInt32.le_iff_toNat_le.mpr (by
      change (saturatingSucc r.state.tradesToday).toNat ≤ r.config.maxTradesPerDay.toNat
      omega)
  · have hcounted := h.counted
    change n + 1 ≤ (saturatingSucc r.state.tradesToday).toNat
    omega

/-- An exit frees room. -/
theorem Safe.registerExit {r : RiskEngine} {granted : Option Decimal} {n : ℕ} {x : Decimal}
    (h : Safe r granted n) (hx : 0 ≤ x) : Safe (r.registerExit x) none n := by
  have hlimits := h.limits
  refine ⟨⟨hlimits.capital, max_lt ?_ hlimits.capital, ?_, hlimits.trades⟩, h.counted, nofun⟩
  · have hexposure := hlimits.exposure
    change r.state.totalExposureUsd - x < r.config.maxLiveCapitalUsd
    linarith
  · have hpositions := hlimits.positions
    change r.state.openPositions - 1 ≤ r.config.maxConcurrentPositions
    omega

/-- What is granted fits. -/
theorem RiskOp.roomFor_grants {r : RiskEngine} {op : RiskOp} {y : Decimal}
    (h : op.grants r = some y) : RoomFor r y := by
  cases op with
  | authorize x liquidity slippage impact now =>
      unfold RiskOp.grants at h
      dsimp only at h
      cases hok : r.authorize x liquidity slippage impact now with
      | ok u =>
          rw [hok] at h
          cases h
          exact (authorized_of_ok hok).room
      | error e =>
          rw [hok] at h
          cases h
  | _ => cases h

/-- **The step.** A permitted operation keeps the invariant. -/
theorem Safe.step {r : RiskEngine} {granted : Option Decimal} {n : ℕ} (h : Safe r granted n)
    {op : RiskOp} (hop : op.Permitted granted) :
    Safe (op.apply r) (op.grants r) (op.countTrades n) := by
  have hlimits := h.limits
  cases op with
  | authorize x liquidity slippage impact now =>
      exact ⟨hlimits, h.counted, fun y hy => RiskOp.roomFor_grants hy⟩
  | registerTrade x => exact h.registerTrade (h.fits x hop)
  | registerExit x => exact h.registerExit hop
  | observeEquity equity =>
      exact ⟨⟨hlimits.capital, hlimits.exposure, hlimits.positions, hlimits.trades⟩, h.counted, nofun⟩
  | recordExecutionSuccess =>
      exact ⟨⟨hlimits.capital, hlimits.exposure, hlimits.positions, hlimits.trades⟩, h.counted, nofun⟩
  | recordExecutionFailure =>
      unfold RiskOp.apply RiskEngine.recordExecutionFailure
      dsimp only
      split
      · exact ⟨⟨hlimits.capital, hlimits.exposure, hlimits.positions, hlimits.trades⟩, h.counted,
          nofun⟩
      · exact ⟨⟨hlimits.capital, hlimits.exposure, hlimits.positions, hlimits.trades⟩, h.counted,
          nofun⟩
  | applyLossCooldown now =>
      exact ⟨⟨hlimits.capital, hlimits.exposure, hlimits.positions, hlimits.trades⟩, h.counted, nofun⟩
  | startDay =>
      exact ⟨⟨hlimits.capital, hlimits.exposure, hlimits.positions, Nat.zero_le _⟩, Nat.zero_le _,
        nofun⟩

/-- A call keeps the configuration. -/
theorem RiskOp.config_apply (op : RiskOp) (r : RiskEngine) : (op.apply r).config = r.config := by
  cases op with
  | recordExecutionFailure =>
      unfold RiskOp.apply RiskEngine.recordExecutionFailure
      dsimp only
      split <;> rfl
  | _ => rfl

/-- Nothing clears a tripped kill switch. -/
theorem RiskOp.tripped_apply {r : RiskEngine} (h : r.killSwitch.tripped = true) (op : RiskOp) :
    (op.apply r).killSwitch.tripped = true := by
  cases op with
  | observeEquity equity =>
      unfold RiskOp.apply RiskEngine.observeEquity KillSwitch.observeEquity
      dsimp only
      split
      · rfl
      · exact h
  | recordExecutionFailure =>
      unfold RiskOp.apply RiskEngine.recordExecutionFailure
      dsimp only
      split
      · rfl
      · exact h
  | _ => exact h

/-! ## Runs -/

/-- A disciplined history keeps the limits. -/
theorem Safe.run {r : RiskEngine} {granted : Option Decimal} {n : ℕ} (h : Safe r granted n)
    {ops : List RiskOp} (hops : Disciplined r granted ops) :
    ∃ granted', Safe (riskAfter r ops) granted' (ops.foldl RiskOp.countTrades n) := by
  induction ops generalizing r granted n with
  | nil => exact ⟨granted, h⟩
  | cons op ops ih => exact ih (h.step hops.1) hops.2

/-- A history keeps the configuration. -/
theorem config_riskAfter (r : RiskEngine) (ops : List RiskOp) :
    (riskAfter r ops).config = r.config := by
  induction ops generalizing r with
  | nil => rfl
  | cons op ops ih => exact (ih _).trans (op.config_apply r)

/-- A tripped switch stays tripped. -/
theorem tripped_riskAfter {r : RiskEngine} (h : r.killSwitch.tripped = true) (ops : List RiskOp) :
    (riskAfter r ops).killSwitch.tripped = true := by
  induction ops generalizing r with
  | nil => exact h
  | cons op ops ih => exact ih (RiskOp.tripped_apply h op)

/-- **The limits are kept.** After every run from within the limits, in which every trade was
authorized directly before it was registered, the exposure is below its limit and neither the open
positions nor the trades since the last reset exceed theirs; and once the kill switch is tripped
nothing is authorized any more. -/
theorem limits_kept (r : RiskEngine) (hlimits : WithinLimits r) (ops : List RiskOp)
    (hops : Disciplined r none ops) :
    (riskAfter r ops).state.totalExposureUsd < r.config.maxLiveCapitalUsd ∧
      (riskAfter r ops).state.openPositions ≤ r.config.maxConcurrentPositions ∧
      tradesSinceReset ops ≤ r.config.maxTradesPerDay.toNat ∧
      ∀ earlier later, ops = earlier ++ later → (riskAfter r earlier).killSwitch.tripped = true →
        ∀ x liquidity slippage impact now,
          (riskAfter r ops).authorize x liquidity slippage impact now ≠ .ok () := by
  obtain ⟨granted, hsafe⟩ := Safe.run (⟨hlimits, Nat.zero_le _, nofun⟩ : Safe r none 0) hops
  have hconfig := config_riskAfter r ops
  have hwithin := hsafe.limits
  refine ⟨?_, ?_, ?_, ?_⟩
  · rw [← hconfig]
    exact hwithin.exposure
  · rw [← hconfig]
    exact hwithin.positions
  · rw [← hconfig]
    exact hsafe.counted.trans (UInt32.le_iff_toNat_le.mp hwithin.trades)
  · rintro earlier later rfl htripped x liquidity slippage impact now hok
    have hlater := tripped_riskAfter htripped later
    unfold riskAfter at hlater hok
    rw [← List.foldl_append] at hlater
    rw [(authorized_of_ok hok).live] at hlater
    cases hlater

/-- A trade of 10 USD that is authorized, registered and closed again. -/
def sampleTrades : List RiskOp :=
  [.authorize 10 10000 100 0 0, .registerTrade 10, .recordExecutionSuccess, .registerExit 10]

/-- After the sample's trades the exposure is below its limit. -/
theorem limits_kept_sample :
    (riskAfter (RiskEngine.new sampleConfig.risk 1000) sampleTrades).state.totalExposureUsd < 100 :=
  (limits_kept (RiskEngine.new sampleConfig.risk 1000)
    ⟨by decide +kernel, by decide +kernel, by decide +kernel, by decide +kernel⟩ sampleTrades
    ⟨trivial, by change RiskOp.grants _ _ = _; decide +kernel, trivial,
      by change (0 : Decimal) ≤ 10; decide +kernel, trivial⟩).1

end SolanaBot.Analysis
