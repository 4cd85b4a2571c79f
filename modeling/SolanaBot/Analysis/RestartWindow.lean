import SolanaBot.Analysis.EntryOperations
import SolanaBot.Analysis.KillSwitch
import SolanaBot.Analysis.LossCooldown
import SolanaBot.Analysis.SessionFields

/-!
# The risk window across a restart

A session that is created again from the store restores a part of its risk window: the day and what
belongs to it, if it is still the same day, and the latch of the kill switch. The rest is in memory, or
computed anew from the stored positions. The window after the first tick is the one of the session that
was not stopped exactly if `WindowRestored` (`window_restored_iff`).
-/

set_option autoImplicit false

namespace SolanaBot.Analysis

open SolanaBot.Library SolanaBot.Model

/-! ## The window -/

/-- What the limits of the risk engine look at, apart from the equity and the number of positions. -/
structure RiskWindow where
  dayStartEquityUsd : Decimal
  tradesToday : UInt32
  totalExposureUsd : Decimal
  cooldownUntil : Option Time
  consecutiveFailures : UInt32
  tripped : Bool
deriving DecidableEq

/-- The window of a risk engine: what the limits of a day and the cooldown depend on. -/
def riskWindow (r : RiskEngine) : RiskWindow :=
  { dayStartEquityUsd := r.state.dayStartEquityUsd
    tradesToday := r.state.tradesToday
    totalExposureUsd := r.state.totalExposureUsd
    cooldownUntil := r.state.cooldownUntil
    consecutiveFailures := r.consecutiveFailures
    tripped := r.killSwitch.tripped }

/-- What the exits and entries of a tick do to the risk engine. -/
inductive TradeMove where
  | setOpenPositions (count : ℕ)
  | registerTrade (exposureUsd : Decimal)
  | registerExit (exposureUsd : Decimal)
  | recordExecutionSuccess
  | recordExecutionFailure

/-- What a trade makes of the risk engine. -/
def TradeMove.apply (r : RiskEngine) : TradeMove → RiskEngine
  | .setOpenPositions count => r.setOpenPositions count
  | .registerTrade exposureUsd => r.registerTrade exposureUsd
  | .registerExit exposureUsd => r.registerExit exposureUsd
  | .recordExecutionSuccess => r.recordExecutionSuccess
  | .recordExecutionFailure => r.recordExecutionFailure.2

/-- The risk engine after the moves. -/
def traded (r : RiskEngine) (moves : List TradeMove) : RiskEngine := moves.foldl TradeMove.apply r

/-- Engines with one configuration and one window. -/
structure SameWindow (r r' : RiskEngine) : Prop where
  config : r.config = r'.config
  window : riskWindow r = riskWindow r'

/-- A move reads nothing but the configuration and the window. -/
theorem sameWindow_apply {r r' : RiskEngine} (h : SameWindow r r') (move : TradeMove) :
    SameWindow (move.apply r) (move.apply r') := by
  obtain ⟨config, killSwitch, state, failures⟩ := r
  obtain ⟨config', killSwitch', state', failures'⟩ := r'
  obtain ⟨hconfig, hwindow⟩ := h
  obtain rfl : config = config' := hconfig
  obtain ⟨hstart, htrades, hexposure, hcooldown, hfailures, htripped⟩ := RiskWindow.mk.inj hwindow
  dsimp only at hstart htrades hexposure hcooldown hfailures htripped
  subst hfailures
  cases move with
  | setOpenPositions count => exact ⟨rfl, hwindow⟩
  | registerTrade exposureUsd =>
      refine ⟨rfl, ?_⟩
      unfold TradeMove.apply RiskEngine.registerTrade riskWindow
      dsimp only
      rw [hstart, htrades, hexposure, hcooldown, htripped]
  | registerExit exposureUsd =>
      refine ⟨rfl, ?_⟩
      unfold TradeMove.apply RiskEngine.registerExit riskWindow
      dsimp only
      rw [hstart, htrades, hexposure, hcooldown, htripped]
  | recordExecutionSuccess =>
      refine ⟨rfl, ?_⟩
      unfold TradeMove.apply RiskEngine.recordExecutionSuccess riskWindow
      dsimp only
      rw [hstart, htrades, hexposure, hcooldown, htripped]
  | recordExecutionFailure =>
      unfold TradeMove.apply RiskEngine.recordExecutionFailure
      dsimp only
      by_cases hmany : saturatingSucc failures ≥ config.maxConsecutiveFailures
      · rw [if_pos hmany, if_pos hmany]
        refine ⟨rfl, ?_⟩
        unfold riskWindow
        dsimp only
        rw [hstart, htrades, hexposure, hcooldown]
        rfl
      · rw [if_neg hmany, if_neg hmany]
        refine ⟨rfl, ?_⟩
        unfold riskWindow
        dsimp only
        rw [hstart, htrades, hexposure, hcooldown, htripped]

/-- Equal windows stay equal under equal trades. -/
theorem sameWindow_traded {r r' : RiskEngine} (h : SameWindow r r') (moves : List TradeMove) :
    SameWindow (traded r moves) (traded r' moves) := by
  induction moves generalizing r r' with
  | nil => exact h
  | cons move moves ih => exact ih (sameWindow_apply h move)

/-! ## The trades of a tick -/

section Trades

variable {σ ε : Type} (m : Machine Op Res σ ε) (env : ℕ → ε) (r₀ : RiskEngine) (deps : Deps)

/-- The engine has traded since a moment. -/
def TradedSince (r₀ r : RiskEngine) : Prop := ∃ moves, r = traded r₀ moves

variable {r₀}

/-- One more trade since a state. -/
theorem tradedSince_apply {r : RiskEngine} (h : TradedSince r₀ r) (move : TradeMove) :
    TradedSince r₀ (move.apply r) := by
  obtain ⟨moves, rfl⟩ := h
  refine ⟨moves ++ [move], ?_⟩
  unfold traded
  rw [List.foldl_append]
  rfl

variable (r₀)

/-- The exits and entries of a tick do nothing else to the risk engine. -/
theorem tradingInvariant_tradedSince :
    TradingInvariant m env (fun _ _ _ => True) (fun r _ => TradedSince r₀ r)
      (fun s _ => TradedSince r₀ s.risk) deps where
  op _ _ _ _ _ h := h
  error _ _ h := h
  positions _ n _ h := tradedSince_apply h (.setOpenPositions n)
  entered _ x _ h := tradedSince_apply (tradedSince_apply h (.registerTrade x)) .recordExecutionSuccess
  failed := by
    have hop : StoreInvariant m env (fun _ _ _ => True) (fun r _ => TradedSince r₀ r)
        (fun s _ => TradedSince r₀ s.risk) := ⟨fun _ _ _ _ _ h => h, fun _ _ h => h⟩
    refine Prog.triple_get_bind fun l => Prog.triple_bind (M := fun _ s _ => TradedSince r₀ s.risk)
      (Prog.triple_modify ?_) fun _ => ?_
    · rintro s _ ⟨rfl, hs⟩
      exact tradedSince_apply hs .recordExecutionFailure
    · split
      · exact preserves_orStop hop.quiet (performs_call rfl)
      · exact Prog.triple_pure fun _ _ h => h
  exited mint reason pf r := by
    refine (Prog.task_of_ops _ fun _ _ _ _ h => ⟨trivial, h⟩).conseq (fun _ h => h) fun x db h => ?_
    refine ⟨h, fun fill _ exposure => ?_⟩
    have hexit := tradedSince_apply (tradedSince_apply h (.registerExit exposure))
      .recordExecutionSuccess
    unfold exitedRisk
    split
    · exact tradedSince_apply hexit .recordExecutionFailure
    · exact hexit

end Trades

/-- A tick that gets to its exits ends with an engine that has traded since then. -/
theorem tick_tradedSince {σ ε : Type} (m : Machine Op Res σ ε) (env : ℕ → ε) (deps : Deps) {i : ℕ}
    {s : SessionState} {x : σ} (hok : (Prog.runS m env (beforeExits deps) i s x).1.1 = .ok ()) :
    TradedSince (Prog.runS m env (beforeExits deps) i s x).1.2.risk
      (Prog.runS m env (tick deps) i s x).1.2.risk := by
  rw [tick_eq_entries]
  unfold beforeEntries
  rw [bind_assoc, Prog.runS_bind]
  rcases hmarked : Prog.runS m env (beforeExits deps) i s x with ⟨⟨r, marked⟩, x', j⟩
  rw [hmarked] at hok
  cases hok
  have htrade := (tradingInvariant_tradedSince m env marked.risk deps).tick
  exact Prog.Triple.ends (preserves_bind (preserves_processExits htrade) fun _ =>
    preserves_makeEntries htrade) ⟨[], rfl⟩ (Prog.always_of_forall (fun _ _ _ => trivial) _ _ _)

/-! ## The tick up to its exits -/

section Marking

variable {env : ℕ → Env × (Db → Db)} {deps : Deps} {pf : Portfolio} {r : RiskEngine}
  {keys : Option String × Option Int × Option Decimal × Option UInt32}

/-- The operation writes none of the session's keys. -/
abbrev Keyless (_ : Env × (Db → Db)) (o : Op) (_ : Db) : Prop := writesKeys o = false

/-- The portfolio, the risk engine and the stored keys of a session. -/
structure Frozen (pf : Portfolio) (r : RiskEngine)
    (keys : Option String × Option Int × Option Decimal × Option UInt32) (s : SessionState) (db : Db) :
    Prop where
  portfolio : s.portfolio = pf
  risk : s.risk = r
  stored : sessionKeys db = keys

/-- The engine after the latch was read. -/
def latchedRisk (reason : Option String) (r : RiskEngine) : RiskEngine :=
  match reason with
  | some _ => { r with killSwitch := r.killSwitch.forceTrip }
  | none => r

variable (hothers : ∀ j db, sessionKeys ((env j).2 db) = sessionKeys db)

include hothers

/-- The quiet parts of a session leave the frozen figures as they are. -/
theorem frozen_quiet : QuietInvariant world.among env Keyless (Frozen pf r keys) fun _ _ => True where
  op i _ db _ _ hkeyless h :=
    ⟨h.portfolio, h.risk, (sessionKeys_exec hkeyless).trans ((hothers i db).trans h.stored)⟩
  frame _ _ _ hportfolio hrisk h := ⟨hportfolio.trans h.portfolio, hrisk.trans h.risk, h.stored⟩
  error _ _ _ := trivial

/-- Reading the kill switch latches the frozen engine if it is latched in the store. -/
theorem readKillSwitch_frozen : Prog.Triple world.among env Keyless (fun _ _ _ => True)
    (Frozen pf r keys) readKillSwitch (fun _ => Frozen pf (latchedRisk keys.1 r) keys)
    fun _ _ => True := by
  refine Prog.triple_bind (M := fun reason s db => reason = keys.1 ∧ Frozen pf r keys s db)
    (triple_orStop fun s => Prog.task_perform fun i db h _ => ⟨trivial, ?_⟩) fun reason => ?_
  · have hstored := (hothers i db).trans h.stored
    simp only [Machine.among_exec]
    unfold world exec statement
    dsimp only
    cases (env i).1.fault with
    | some message => trivial
    | none => exact ⟨congrArg Prod.fst hstored, h.portfolio, h.risk, hstored⟩
  · cases reason with
    | none =>
        refine Prog.triple_pure ?_
        rintro s db ⟨hreason, h⟩
        rw [← hreason]
        exact h
    | some text =>
        refine Prog.triple_modify ?_
        rintro s db ⟨hreason, h⟩
        rw [← hreason]
        exact ⟨h.portfolio, by rw [← h.risk]; rfl, h.stored⟩

/-- From the clock of the tick to its marking the day may begin, and the latch is read. -/
theorem prepared_frozen (now : Time) (s₀ : SessionState) :
    Prog.Triple world.among env Keyless (fun _ _ _ => True)
      (fun s db => s = s₀ ∧ sessionKeys db = keys)
      (do
        prepareTick deps now
        ingestion deps now)
      (fun _ => Frozen s₀.portfolio (latchedRisk keys.1 (rollDay now s₀).risk) keys)
      fun _ _ => True := by
  have hbefore : QuietInvariant world.among env Keyless
      (Frozen s₀.portfolio (rollDay now s₀).risk keys) fun _ _ => True := frozen_quiet hothers
  have hafter : QuietInvariant world.among env Keyless
      (Frozen s₀.portfolio (latchedRisk keys.1 (rollDay now s₀).risk) keys) fun _ _ => True :=
    frozen_quiet hothers
  refine Prog.triple_bind (Prog.triple_bind (Prog.triple_modify ?_) fun _ =>
    Prog.triple_bind (preserves_refreshSolPrice hbefore deps now) fun _ =>
    Prog.triple_bind (preserves_periodicReconciliation hbefore deps) fun _ =>
    Prog.triple_bind (preserves_background hbefore (background_reconcilePendingOrders deps)) fun _ =>
    Prog.triple_bind (preserves_readEmergencyStop hbefore) fun _ =>
    Prog.triple_bind (readKillSwitch_frozen hothers) fun _ =>
      preserves_frame hafter (fun _ => rfl) fun _ => rfl) fun _ => preserves_ingestion hafter deps now
  rintro s db ⟨rfl, hstored⟩
  refine ⟨?_, rfl, hstored⟩
  unfold rollDay
  split <;> rfl

omit hothers in
/-- The engine after the equity was marked on the open positions. -/
def markedRisk (deps : Deps) (pf : Portfolio) (r : RiskEngine) : RiskEngine :=
  ((r.observeEquity (equityUsd deps.config.risk.startingCapitalUsd pf.openPositions)).setOpenPositions
    pf.openPositions.length).setTotalExposure (aggregateExposure pf.openPositions)

omit hothers in
/-- Marking the equity makes the risk engine the marked one. -/
theorem markEquity_marked (deps : Deps) :
    Prog.Triple world.among env (fun _ _ _ => True) (fun _ _ _ => True)
      (fun s _ => s.portfolio = pf ∧ s.risk = r) (markEquity deps)
      (fun _ s _ => s.risk = markedRisk deps pf r) fun _ _ => True := by
  have hquiet : ∀ r', QuietInvariant world.among env (fun _ _ _ => True)
      (fun s _ => s.portfolio = pf ∧ s.risk = r') fun _ _ => True := fun r' =>
    { op := fun _ _ _ _ _ _ h => h
      frame := fun _ _ _ hportfolio hrisk h => ⟨hportfolio.trans h.1, hrisk.trans h.2⟩
      error := fun _ _ _ => trivial }
  refine Prog.triple_get_bind fun l => ?_
  by_cases hl : l.portfolio = pf
  · rw [hl]
    refine Prog.triple_bind (Prog.triple_modify ?_) fun _ =>
      Prog.triple_bind (preserves_latchDrawdown (hquiet
        (r.observeEquity (equityUsd deps.config.risk.startingCapitalUsd pf.openPositions)))) fun _ =>
      Prog.triple_modify ?_
    · rintro s db ⟨rfl, -, rfl⟩
      exact ⟨hl, rfl⟩
    · rintro s db ⟨-, hrisk⟩
      unfold markedRisk
      dsimp only
      rw [hrisk]
  · rintro i s db ⟨rfl, hportfolio, -⟩
    exact absurd hportfolio hl

/-- What a tick does to the engine before its exits. -/
theorem beforeExits_risk {i : ℕ} {s : SessionState} {db : Db}
    (hok : (Prog.runS world.among env (beforeExits deps) i s db).1.1 = .ok ()) :
    (Prog.runS world.among env (beforeExits deps) i s db).1.2.risk =
      markedRisk deps s.portfolio (latchedRisk db.killSwitch (rollDay (env i).1.clock s).risk) := by
  have hsplit : beforeExits deps = look clock >>= fun now =>
      (do prepareTick deps now; ingestion deps now) >>= fun _ => markEquity deps := by
    unfold beforeExits beforeIngestion
    simp only [bind_assoc, pure_bind]
  have hclock : Prog.runS world.among env (beforeExits deps) i s db = Prog.runS world.among env
      ((do prepareTick deps (env i).1.clock; ingestion deps (env i).1.clock) >>= fun _ =>
        markEquity deps) (i + 1) s ((env i).2 db) := by
    rw [hsplit]
    exact Prog.runS_lift_bind _ _ _ _ i s db
  rw [hclock] at hok ⊢
  rcases hrun : Prog.runS world.among env ((do
      prepareTick deps (env i).1.clock
      ingestion deps (env i).1.clock) >>= fun _ => markEquity deps) (i + 1) s ((env i).2 db) with
    ⟨⟨result, marked⟩, db', j⟩
  rw [hrun] at hok
  cases hok
  obtain ⟨_, prepared, db₁, i₁, hprepared, hmarked⟩ := Prog.runS_bind_ok _ _ hrun
  have hkeyless : Prog.AlwaysS world.among env Keyless (do
      prepareTick deps (env i).1.clock
      ingestion deps (env i).1.clock) (i + 1) s ((env i).2 db) :=
    Prog.always_of_performs (Prog.performsS_bind (background_prepareTick deps _)
      (fun _ => background_ingestion deps _) s) (fun _ _ _ => Background.keys) _ _
  have hfrozen := (prepared_frozen hothers (env i).1.clock s).of_ok ⟨rfl, rfl⟩ hkeyless
    (congrArg (fun x => x.1.1) hprepared)
  rw [hprepared] at hfrozen
  have hmark := (markEquity_marked deps).of_ok ⟨hfrozen.portfolio, hfrozen.risk⟩
    (Prog.always_of_forall (fun _ _ _ => trivial) _ _ _) (congrArg (fun x => x.1.1) hmarked)
  rw [hmarked] at hmark
  have hkeys : (sessionKeys ((env i).2 db)).1 = db.killSwitch := congrArg Prod.fst (hothers i db)
  rw [← hkeys]
  exact hmark

/-! ## The start of a session -/

omit hothers in
/-- The engine after the day was restored. -/
def restoredRisk (keys : Option String × Option Int × Option Decimal × Option UInt32) (today : Int)
    (r : RiskEngine) : RiskEngine :=
  if keys.2.1 = some today then
    { r with
      state := { r.state with
        dayStartEquityUsd := keys.2.2.1.getD r.state.dayStartEquityUsd
        tradesToday := keys.2.2.2.getD 0 } }
  else r

/-- A session whose day has begun. -/
def FrozenDay (today : Int) (pf : Portfolio) (r : RiskEngine)
    (keys : Option String × Option Int × Option Decimal × Option UInt32) (s : SessionState) (db : Db) :
    Prop :=
  Frozen pf r keys s db ∧ s.dayKey = today

/-- One of the keys is read. -/
theorem readKey_frozen {α : Type} {today : Int} (key : Db → Option α) {value : Option α}
    (hvalue : ∀ db, sessionKeys db = keys → key db = value) {t : Model.Task (Except String (Option α))}
    (hread : ∀ i db, Prog.run world.among env t i db =
      ((statement (env i).1 (key ((env i).2 db), (env i).2 db) ((env i).2 db)).1,
        (statement (env i).1 (key ((env i).2 db), (env i).2 db) ((env i).2 db)).2, i + 1)) :
    Prog.Triple world.among env Keyless (fun _ _ _ => True) (FrozenDay today pf r keys) (orStop t)
      (fun answer s db => answer = value ∧ FrozenDay today pf r keys s db) fun _ _ => True := by
  refine triple_orStop fun s i db h _ => ⟨Prog.always_of_forall (fun _ _ _ => trivial) _ _ _, ?_⟩
  have hstored := (hothers i db).trans h.1.stored
  rw [hread]
  unfold statement
  cases (env i).1.fault with
  | some message => trivial
  | none => exact ⟨hvalue _ hstored, ⟨h.1.portfolio, h.1.risk, hstored⟩, h.2⟩

/-- Restoring the day makes the frozen engine the restored one. -/
theorem restoreDay_frozen : Prog.Triple world.among env Keyless (fun _ _ _ => True)
    (Frozen pf r keys) restoreDay (fun _ s db => Frozen pf (restoredRisk keys s.dayKey r) keys s db)
    fun _ _ => True := by
  have hquiet : QuietInvariant world.among env Keyless (Frozen pf r keys) fun _ _ => True :=
    frozen_quiet hothers
  refine Prog.triple_bind (preserves_look hquiet (performs_call rfl)) fun now =>
    Prog.triple_bind (M := fun _ => FrozenDay (dayOf now) pf r keys)
      (Prog.triple_modify fun _ _ h => ⟨⟨h.portfolio, h.risk, h.stored⟩, rfl⟩) fun _ =>
    Prog.triple_bind (readKey_frozen hothers Db.day (fun _ h => congrArg (fun k => k.2.1) h)
      fun _ _ => rfl) fun storedDay => Prog.triple_of_fact fun hday =>
    Prog.triple_bind (readKey_frozen hothers Db.dayStartEquity
      (fun _ h => congrArg (fun k => k.2.2.1) h) fun _ _ => rfl) fun storedStart =>
      Prog.triple_of_fact fun hstart =>
    Prog.triple_bind (readKey_frozen hothers Db.tradesToday
      (fun _ h => congrArg (fun k => k.2.2.2) h) fun _ _ => rfl) fun storedTrades =>
      Prog.triple_of_fact fun htrades => ?_
  subst hday hstart htrades
  split
  · rename_i hsame
    refine Prog.triple_modify ?_
    rintro s db ⟨h, htoday⟩
    refine ⟨h.portfolio, ?_, h.stored⟩
    unfold restoredRisk
    dsimp only
    rw [htoday, if_pos hsame, h.risk]
  · rename_i hother
    refine Prog.triple_pure ?_
    rintro s db ⟨h, htoday⟩
    unfold restoredRisk
    rw [htoday, if_neg hother]
    exact h

/-- What the start of a session does to its engine: the day is restored, and the latch is read. -/
theorem sessionStart_risk {i : ℕ} {s : SessionState} {db : Db}
    (hok : (Prog.runS world.among env (sessionStart deps) i s db).1.1 = .ok ()) :
    let start := Prog.runS world.among env (sessionStart deps) i s db
    Frozen s.portfolio
      (latchedRisk db.killSwitch (restoredRisk (sessionKeys db) start.1.2.dayKey s.risk))
      (sessionKeys db) start.1.2 start.2.1 := by
  intro start
  have hkeyless : Prog.AlwaysS world.among env Keyless (sessionStart deps) i s db :=
    Prog.always_of_performs (background_sessionStart deps s) (fun _ _ _ => Background.keys) _ _
  rcases hrun : Prog.runS world.among env (sessionStart deps) i s db with ⟨⟨result, s'⟩, db', j⟩
  change Prog.runS world.among env (sessionStart deps) i s db = _ at hrun
  have hstart : start = ((result, s'), db', j) := hrun
  rw [hrun] at hok
  cases hok
  rw [hstart]
  unfold sessionStart at hrun hkeyless
  -- the monitor, the day, and the rest
  obtain ⟨_, s₁, db₁, i₁, hmonitor, hrest⟩ := Prog.runS_bind_ok _ _ hrun
  obtain ⟨_, s₂, db₂, i₂, hday, hrest⟩ := Prog.runS_bind_ok _ _ hrest
  obtain ⟨hkeyless₁, hkeyless⟩ := Prog.alwaysS_bind.mp hkeyless
  rw [hmonitor] at hkeyless
  obtain ⟨hkeyless₂, hkeyless₃⟩ := Prog.alwaysS_bind.mp hkeyless
  rw [hday] at hkeyless₃
  have hquiet : ∀ r, QuietInvariant world.among env Keyless
      (Frozen s.portfolio r (sessionKeys db)) fun _ _ => True := fun _ => frozen_quiet hothers
  have hfrozen₁ := (preserves_startWalletMonitor (hquiet s.risk) deps).of_ok ⟨rfl, rfl, rfl⟩ hkeyless₁
    (congrArg (fun x => x.1.1) hmonitor)
  rw [hmonitor] at hfrozen₁
  have hfrozen₂ := (restoreDay_frozen hothers).of_ok hfrozen₁ hkeyless₂
    (congrArg (fun x => x.1.1) hday)
  rw [hday] at hfrozen₂
  have hfrozen₃ := (Prog.triple_bind (readKillSwitch_frozen hothers) fun _ =>
    preserves_reconcileAtStart (hquiet _) deps).of_ok hfrozen₂ hkeyless₃
      (congrArg (fun x => x.1.1) hrest)
  have hdayKey : KeepsField world.among env SessionState.dayKey s₂.dayKey
      (readKillSwitch >>= fun _ => reconcileAtStart deps) :=
    keepsField_bind (keepsField_readKillSwitch fun _ _ => rfl) fun _ =>
      keepsField_reconcileAtStart deps (fun _ _ => rfl) fun _ _ => rfl
  have hsame := hdayKey.of_ok rfl (Prog.always_of_forall (fun _ _ _ => trivial) _ _ _)
    (congrArg (fun x => x.1.1) hrest)
  rw [hrest] at hfrozen₃ hsame
  dsimp only at hsame ⊢
  rw [hsame]
  exact hfrozen₃

/-! ## What a tick persists -/

omit hothers in
/-- A session up to a point between two ticks. -/
def betweenTicks (deps : Deps) (n : ℕ) : Session Unit := do
  sessionStart deps
  sessionTicks deps (n + 1)

omit hothers in
/-- The store knows the day of the session. -/
structure Persisted (s : SessionState) (db : Db) : Prop where
  day : db.day = some s.dayKey
  dayStart : db.dayStartEquity = some s.risk.state.dayStartEquityUsd
  trades : db.tradesToday = some s.risk.state.tradesToday

omit hothers in
/-- One of the keys is written. -/
theorem putKey_triple {l : SessionState} (put : Db → Db) {K J : Db → Prop}
    (hkept : ∀ j db, K db → K ((env j).2 db)) (hput : ∀ db, K db → J (put db))
    {t : Model.Task (Except String Unit)} (hwrite : ∀ i db, Prog.run world.among env t i db =
      ((statement (env i).1 ((), put ((env i).2 db)) ((env i).2 db)).1,
        (statement (env i).1 ((), put ((env i).2 db)) ((env i).2 db)).2, i + 1)) :
    Prog.Triple world.among env (fun _ _ _ => True) (fun _ _ _ => True) (fun s db => s = l ∧ K db)
      (orStop t) (fun _ s db => s = l ∧ J db) fun _ _ => True := by
  refine triple_orStop fun s i db h _ => ⟨Prog.always_of_forall (fun _ _ _ => trivial) _ _ _, ?_⟩
  rw [hwrite]
  unfold statement
  cases (env i).1.fault with
  | some message => trivial
  | none => exact ⟨h.1, hput _ (hkept i db h.2)⟩

/-- Storing the session's state stores its window. -/
theorem persistSessionState_triple : Prog.Triple world.among env (fun _ _ _ => True)
    (fun _ _ _ => True) (fun _ _ => True) persistSessionState (fun _ s db => Persisted s db)
    fun _ _ => True := by
  have hday : ∀ j db, ((env j).2 db).day = db.day := fun j db =>
    congrArg (fun k => k.2.1) (hothers j db)
  have hstart : ∀ j db, ((env j).2 db).dayStartEquity = db.dayStartEquity := fun j db =>
    congrArg (fun k => k.2.2.1) (hothers j db)
  refine Prog.triple_get_bind fun l => ?_
  refine Prog.triple_bind (putKey_triple (fun db => { db with day := some l.dayKey })
    (K := fun _ => True) (J := fun db => db.day = some l.dayKey) (fun _ _ h => h) (fun _ _ => rfl)
    fun _ _ => rfl) fun _ => ?_
  refine Prog.triple_bind (putKey_triple
    (fun db => { db with dayStartEquity := some l.risk.state.dayStartEquityUsd })
    (K := fun db => db.day = some l.dayKey)
    (J := fun db => db.day = some l.dayKey ∧
      db.dayStartEquity = some l.risk.state.dayStartEquityUsd)
    (fun j db h => (hday j db).trans h) (fun _ h => ⟨h, rfl⟩) fun _ _ => rfl) fun _ => ?_
  refine (putKey_triple (fun db => { db with tradesToday := some l.risk.state.tradesToday })
    (J := Persisted l)
    (fun j db h => ⟨(hday j db).trans h.1, (hstart j db).trans h.2⟩) (fun _ h => ⟨h.1, h.2, rfl⟩)
    fun _ _ => rfl).conseq (fun _ _ h => h) ?_ fun _ _ h => h
  rintro _ s db ⟨rfl, h⟩
  exact h

/-- Between two ticks, the store knows the day of the session. -/
theorem betweenTicks_persisted (n : ℕ) : Prog.Triple world.among env (fun _ _ _ => True)
    (fun _ _ _ => True) (fun _ _ => True) (betweenTicks deps n) (fun _ s db => Persisted s db)
    fun _ _ => True := by
  have hany : ∀ p : Session Unit, Prog.Triple world.among env (fun _ _ _ => True) (fun _ _ _ => True)
      (fun _ _ => True) p (fun _ _ _ => True) fun _ _ => True := fun p =>
    (Prog.triple_of_ops (I := fun _ => True) p fun _ _ _ _ _ => ⟨trivial, trivial⟩).conseq
      (fun _ _ h => h) (fun _ _ _ h => h) fun _ _ h => h
  have htick : Prog.Triple world.among env (fun _ _ _ => True) (fun _ _ _ => True) (fun _ _ => True)
      (tickAndPersist deps) (fun _ s db => Persisted s db) fun _ _ => True :=
    Prog.triple_get_bind fun l => Prog.triple_bind (M := fun _ _ _ => True)
      (Prog.triple_lift fun _ => (Prog.task_of_ops (I := fun _ => True) _
        fun _ _ _ _ _ => ⟨trivial, trivial⟩).conseq (fun _ _ => trivial) fun _ _ h => h) fun _ =>
      Prog.triple_bind (M := fun _ _ _ => True) (Prog.triple_set fun _ _ _ => trivial) fun _ =>
      persistSessionState_triple hothers
  unfold betweenTicks
  rw [sessionTicks_add]
  refine Prog.triple_bind (hany _) fun _ => Prog.triple_bind (hany _) fun _ => ?_
  rw [sessionTicks_succ]
  exact Prog.triple_bind htick fun _ => Prog.triple_pure fun _ _ h => h

end Marking

/-! ## The engine of a session -/

/-- The configuration and the drawdown limit of a session's engine, which has no cooldown. -/
structure SessionEngine (deps : Deps) (r : RiskEngine) : Prop where
  config : r.config = deps.config.risk
  capital : r.killSwitch.startingCapitalUsd = deps.config.risk.startingCapitalUsd
  maxDrawdown : r.killSwitch.maxDrawdownPct = deps.config.risk.maxTotalDrawdownBeforeKillSwitchPct
  cooldown : r.state.cooldownUntil = none

/-- A new session has the engine of its configuration. -/
theorem sessionEngine_new (deps : Deps) (pf : Portfolio) :
    SessionEngine deps (newSessionState deps pf).risk := ⟨rfl, rfl, rfl, rfl⟩

/-- A move of the risk state keeps the capital and the drawdown limit. -/
theorem RiskMove.drawdownLimit {r r' : RiskEngine} (h : RiskMove r r') :
    r'.killSwitch.startingCapitalUsd = r.killSwitch.startingCapitalUsd ∧
      r'.killSwitch.maxDrawdownPct = r.killSwitch.maxDrawdownPct := by
  cases h with
  | observeEquity equity =>
      unfold RiskEngine.observeEquity KillSwitch.observeEquity
      dsimp only
      split <;> exact ⟨rfl, rfl⟩
  | recordExecutionFailure =>
      unfold RiskEngine.recordExecutionFailure
      dsimp only
      split <;> exact ⟨rfl, rfl⟩
  | _ => exact ⟨rfl, rfl⟩

/-- It keeps the engine of the session. -/
theorem sessionEngine_move {deps : Deps} {r r' : RiskEngine} (hmove : RiskMove r r')
    (h : SessionEngine deps r) : SessionEngine deps r' where
  config := hmove.config.trans h.config
  capital := hmove.drawdownLimit.1.trans h.capital
  maxDrawdown := hmove.drawdownLimit.2.trans h.maxDrawdown
  cooldown := hmove.cooldown.trans h.cooldown

/-- The change of the day keeps it. -/
theorem sessionEngine_rollDay {deps : Deps} {s : SessionState} (h : SessionEngine deps s.risk)
    (now : Time) : SessionEngine deps (rollDay now s).risk := by
  unfold rollDay
  split
  · exact h
  · exact sessionEngine_move (.window s.risk.state.equityUsd 0) h

section Engines

variable {deps : Deps} {env : ℕ → Env × (Db → Db)} {i : ℕ} {db : Db} {pf : Portfolio}

/-- Every move of a session keeps it. -/
theorem sessionEngine_moves : SessionInvariant world.among env (fun _ _ _ => True)
    (fun r _ => SessionEngine deps r) (fun s _ => SessionEngine deps s.risk) deps :=
  sessionInvariant_of_moves _ _ _ (fun _ _ hmove h => sessionEngine_move hmove h) deps

/-- After its start a session has its engine. -/
theorem sessionEngine_start :
    SessionEngine deps (Prog.runS world.among env (sessionStart deps) i (newSessionState deps pf)
      db).1.2.risk :=
  Prog.Triple.ends (preserves_sessionStart sessionEngine_moves.run) (sessionEngine_new deps pf)
    (Prog.always_of_forall (fun _ _ _ => trivial) _ _ _)

/-- Between two ticks a session has its engine. -/
theorem sessionEngine_betweenTicks (n : ℕ) :
    SessionEngine deps (Prog.runS world.among env (betweenTicks deps n) i (newSessionState deps pf)
      db).1.2.risk :=
  Prog.Triple.ends (preserves_bind (preserves_sessionStart sessionEngine_moves.run) fun _ =>
    preserves_sessionTicks sessionEngine_moves.run (n + 1)) (sessionEngine_new deps pf)
    (Prog.always_of_forall (fun _ _ _ => trivial) _ _ _)

end Engines

/-- The open positions have lost more than the kill switch allows. -/
def drawdownReached (deps : Deps) (pf : Portfolio) : Prop :=
  equityUsd deps.config.risk.startingCapitalUsd pf.openPositions ≤
    deps.config.risk.startingCapitalUsd *
      (1 - deps.config.risk.maxTotalDrawdownBeforeKillSwitchPct / 100)

/-- Whether `drawdownReached` holds can be evaluated. -/
instance (deps : Deps) (pf : Portfolio) : Decidable (drawdownReached deps pf) :=
  inferInstanceAs (Decidable (_ ≤ _))

/-- Marking and latching keep the configuration. -/
theorem config_marked {deps : Deps} {r : RiskEngine} (h : SessionEngine deps r)
    {reason : Option String} {pf : Portfolio} :
    (markedRisk deps pf (latchedRisk reason r)).config = deps.config.risk := by
  cases reason <;> exact h.config

/-- The window after a tick has read the latch and marked the equity. -/
theorem riskWindow_marked {deps : Deps} {r : RiskEngine} (h : SessionEngine deps r)
    (reason : Option String) (pf : Portfolio) :
    riskWindow (markedRisk deps pf (latchedRisk reason r)) =
      { dayStartEquityUsd := r.state.dayStartEquityUsd
        tradesToday := r.state.tradesToday
        totalExposureUsd := aggregateExposure pf.openPositions
        cooldownUntil := none
        consecutiveFailures := r.consecutiveFailures
        tripped := r.killSwitch.tripped || reason.isSome || decide (drawdownReached deps pf) } := by
  obtain ⟨config, ⟨capital, maxDrawdown, tripped⟩, state, failures⟩ := r
  obtain ⟨hconfig, hcapital, hmaxDrawdown, hcooldown⟩ := h
  dsimp only at hcapital hmaxDrawdown hcooldown
  have hobserved : ∀ k : KillSwitch, k.startingCapitalUsd = capital → k.maxDrawdownPct = maxDrawdown →
      (k.observeEquity (equityUsd deps.config.risk.startingCapitalUsd pf.openPositions)).tripped =
        (k.tripped || decide (drawdownReached deps pf)) := by
    intro k hk hk'
    unfold KillSwitch.observeEquity
    rw [hk, hk', hcapital, hmaxDrawdown]
    by_cases hreached : drawdownReached deps pf
    · rw [decide_eq_true hreached, Bool.or_true]
      unfold drawdownReached at hreached
      rw [if_pos hreached]
    · rw [decide_eq_false hreached, Bool.or_false]
      unfold drawdownReached at hreached
      rw [if_neg hreached]
  unfold riskWindow markedRisk RiskEngine.setTotalExposure RiskEngine.setOpenPositions
    RiskEngine.observeEquity latchedRisk
  cases reason with
  | none =>
      dsimp only
      rw [hobserved _ rfl rfl, hcooldown, Option.isSome_none, Bool.or_false]
  | some text =>
      dsimp only
      rw [hobserved _ rfl rfl, hcooldown, Option.isSome_some, Bool.or_true]
      rfl

/-! ## The day of a restarted session -/

/-- The change of the day keeps the consecutive failures. -/
theorem rollDay_failures (now : Time) (s : SessionState) :
    (rollDay now s).risk.consecutiveFailures = s.risk.consecutiveFailures := by
  unfold rollDay
  split <;> rfl

/-- It keeps the kill switch. -/
theorem rollDay_killSwitch (now : Time) (s : SessionState) :
    (rollDay now s).risk.killSwitch = s.risk.killSwitch := by
  unfold rollDay
  split <;> rfl

/-- Latching keeps the consecutive failures. -/
theorem latchedRisk_failures (reason : Option String) (r : RiskEngine) :
    (latchedRisk reason r).consecutiveFailures = r.consecutiveFailures := by
  cases reason <;> rfl

/-- Latching trips the switch if there is a reason. -/
theorem latchedRisk_tripped (reason : Option String) (r : RiskEngine) :
    (latchedRisk reason r).killSwitch.tripped = (reason.isSome || r.killSwitch.tripped) := by
  cases reason <;> rfl

section Restored

variable (keys : Option String × Option Int × Option Decimal × Option UInt32) (today : Int)
  (r : RiskEngine)

/-- Restoring the day keeps the consecutive failures. -/
theorem restoredRisk_failures : (restoredRisk keys today r).consecutiveFailures = r.consecutiveFailures := by
  unfold restoredRisk
  split <;> rfl

/-- It keeps the kill switch. -/
theorem restoredRisk_killSwitch : (restoredRisk keys today r).killSwitch = r.killSwitch := by
  unfold restoredRisk
  split <;> rfl

end Restored

/-- A new session that has begun its first tick: what was persisted is back only if the session was
started and ticks on the same day as the one that was stopped. -/
theorem restarted_day {s : SessionState} {r : RiskEngine} {reason killed : Option String}
    {day : Int} {start capital : Decimal} {trades : UInt32}
    (hrisk : s.risk = latchedRisk reason
      (restoredRisk (killed, some day, some start, some trades) s.dayKey r))
    (hequity : r.state.equityUsd = capital) (hstart : r.state.dayStartEquityUsd = capital)
    (htrades : r.state.tradesToday = 0) (now : Time) :
    ((rollDay now s).risk.state.dayStartEquityUsd, (rollDay now s).risk.state.tradesToday) =
      if dayOf now = day ∧ s.dayKey = day then (start, trades) else (capital, 0) := by
  have hlatched : s.risk.state =
      (restoredRisk (killed, some day, some start, some trades) s.dayKey r).state := by
    rw [hrisk]
    cases reason <;> rfl
  unfold restoredRisk at hlatched
  unfold rollDay
  by_cases htoday : dayOf now = s.dayKey
  · rw [if_pos htoday, hlatched]
    by_cases hsame : s.dayKey = day
    · rw [if_pos (congrArg some hsame.symm), if_pos ⟨htoday.trans hsame, hsame⟩]
      rfl
    · rw [if_neg fun h => hsame (Option.some.inj h).symm, if_neg fun h => hsame h.2, hstart, htrades]
  · rw [if_neg htoday, if_neg fun h => htoday (h.1.trans h.2.symm)]
    dsimp only
    rw [hlatched]
    split
    · rw [hequity]
    · rw [hequity]

/-! ## Restarts -/

/-- What a session that is stopped has to be like for its window to come back on the day `today`, if it
is created again on the day `started` with the portfolio `loaded`. -/
structure WindowRestored (deps : Deps) (s : SessionState) (db : Db) (loaded : Portfolio)
    (started today : Int) : Prop where
  day : if today = s.dayKey then started = today ∨
      (s.risk.state.dayStartEquityUsd = deps.config.risk.startingCapitalUsd ∧
        s.risk.state.tradesToday = 0)
    else s.risk.state.equityUsd = deps.config.risk.startingCapitalUsd
  exposure : aggregateExposure s.portfolio.openPositions = aggregateExposure loaded.openPositions
  failures : s.risk.consecutiveFailures = 0
  killSwitch : Latched db ∨
    ((s.risk.killSwitch.tripped = true ∨ drawdownReached deps s.portfolio) ↔ drawdownReached deps loaded)

/-- The day of the two sessions is the same exactly if the condition on the day holds. -/
theorem day_restored_iff {s : SessionState} (started : Int) (capital : Decimal) {now : Time}
    {today : Int} (hnow : dayOf now = today) :
    ((rollDay now s).risk.state.dayStartEquityUsd, (rollDay now s).risk.state.tradesToday) =
        (if today = s.dayKey ∧ started = s.dayKey then
          (s.risk.state.dayStartEquityUsd, s.risk.state.tradesToday) else (capital, 0)) ↔
      if today = s.dayKey then started = today ∨
          (s.risk.state.dayStartEquityUsd = capital ∧ s.risk.state.tradesToday = 0)
        else s.risk.state.equityUsd = capital := by
  unfold rollDay
  by_cases htoday : today = s.dayKey
  · rw [if_pos (hnow.trans htoday), if_pos htoday]
    by_cases hstarted : started = s.dayKey
    · rw [if_pos ⟨htoday, hstarted⟩]
      exact ⟨fun _ => .inl (hstarted.trans htoday.symm), fun _ => rfl⟩
    · rw [if_neg fun h => hstarted h.2, Prod.mk.injEq]
      exact ⟨.inr, fun h => h.resolve_left fun h => hstarted (h.trans htoday)⟩
  · rw [if_neg fun h => htoday (hnow.symm.trans h), if_neg fun h => htoday h.1, if_neg htoday,
      Prod.mk.injEq]
    exact ⟨fun h => h.1, fun h => ⟨h, rfl⟩⟩

/-- Both switches read the latch, and see the drawdown of their own positions. -/
theorem tripped_eq_iff (tripped latched : Bool) (reached reached' : Prop) [Decidable reached]
    [Decidable reached'] :
    (tripped || latched || decide reached) = (latched || latched || decide reached') ↔
      latched = true ∨ ((tripped = true ∨ reached) ↔ reached') := by
  cases latched with
  | true => simp
  | false =>
      rw [Bool.or_false, Bool.false_or, Bool.eq_iff_iff, Bool.or_eq_true, Bool.false_or,
        decide_eq_true_iff, decide_eq_true_iff]
      exact (or_iff_right Bool.false_ne_true).symm

/-- The windows of two marked engines are the same exactly if the condition holds. -/
theorem window_eq_iff {deps : Deps} {s s' : SessionState} {db : Db} {loaded : Portfolio}
    (hengine : SessionEngine deps s.risk) (hengine' : SessionEngine deps s'.risk)
    (hrestored : s'.risk = latchedRisk db.killSwitch (restoredRisk (db.killSwitch, some s.dayKey,
      some s.risk.state.dayStartEquityUsd, some s.risk.state.tradesToday) s'.dayKey
      (newSessionState deps loaded).risk))
    {now now' : Time} {today : Int} (hnow : dayOf now = today) (hnow' : dayOf now' = today) :
    riskWindow (markedRisk deps s.portfolio (latchedRisk db.killSwitch (rollDay now s).risk)) =
        riskWindow (markedRisk deps loaded (latchedRisk db.killSwitch (rollDay now' s').risk)) ↔
      WindowRestored deps s db loaded s'.dayKey today := by
  have hdays : ((rollDay now' s').risk.state.dayStartEquityUsd,
      (rollDay now' s').risk.state.tradesToday) =
      if today = s.dayKey ∧ s'.dayKey = s.dayKey then
        (s.risk.state.dayStartEquityUsd, s.risk.state.tradesToday)
      else (deps.config.risk.startingCapitalUsd, 0) := by
    rw [← hnow']
    exact restarted_day hrestored rfl rfl rfl now'
  have hday := day_restored_iff (s := s) s'.dayKey deps.config.risk.startingCapitalUsd hnow
  rw [← hdays, Prod.mk.injEq] at hday
  have hfailures : (rollDay now' s').risk.consecutiveFailures = 0 := by
    rw [rollDay_failures, hrestored, latchedRisk_failures, restoredRisk_failures]
    rfl
  have htripped : (rollDay now' s').risk.killSwitch.tripped = db.killSwitch.isSome := by
    rw [rollDay_killSwitch, hrestored, latchedRisk_tripped, restoredRisk_killSwitch]
    exact Bool.or_false _
  rw [riskWindow_marked (sessionEngine_rollDay hengine _),
    riskWindow_marked (sessionEngine_rollDay hengine' _), RiskWindow.mk.injEq, hfailures, htripped,
    rollDay_failures, rollDay_killSwitch, ← and_assoc, hday, tripped_eq_iff]
  constructor
  · rintro ⟨hday, hexposure, -, hfailures, hkillSwitch⟩
    exact ⟨hday, hexposure, hfailures, hkillSwitch⟩
  · rintro ⟨hday, hexposure, hfailures, hkillSwitch⟩
    exact ⟨hday, hexposure, rfl, hfailures, hkillSwitch⟩

/-- **The window across a restart.** A session is stopped between two ticks and created again from a
store with its keys, and both the stopped session, had it gone on, and the new one get to the exits of
their next tick, on the same day. Then these ticks do nothing but trade from there on, and whatever they
trade, the same trades leave the same window exactly if `WindowRestored`. -/
theorem window_restored_iff (deps : Deps) (env env' : ℕ → Env × (Db → Db))
    (hothers : ∀ j db, sessionKeys ((env j).2 db) = sessionKeys db)
    (hothers' : ∀ j db, sessionKeys ((env' j).2 db) = sessionKeys db) (i i' : ℕ)
    (stored : List Position) (db db' : Db) (n : ℕ) :
    let stopped := Prog.runS world.among env (betweenTicks deps n) i
      (newSessionState deps (Portfolio.empty.load stored)) db
    let again := Prog.runS world.among env' (sessionStart deps) i'
      (newSessionState deps db'.loadPortfolio) db'
    let marked := Prog.runS world.among env (beforeExits deps) stopped.2.2 stopped.1.2 stopped.2.1
    let marked' := Prog.runS world.among env' (beforeExits deps) again.2.2 again.1.2 again.2.1
    let next := Prog.runS world.among env (tick deps) stopped.2.2 stopped.1.2 stopped.2.1
    let first := Prog.runS world.among env' (tick deps) again.2.2 again.1.2 again.2.1
    let today := dayOf (env' again.2.2).1.clock
    stopped.1.1 = .ok () → sessionKeys db' = sessionKeys stopped.2.1 → again.1.1 = .ok () →
    marked.1.1 = .ok () → marked'.1.1 = .ok () → dayOf (env stopped.2.2).1.clock = today →
      TradedSince marked.1.2.risk next.1.2.risk ∧ TradedSince marked'.1.2.risk first.1.2.risk ∧
      ((∀ moves, riskWindow (traded marked.1.2.risk moves) = riskWindow (traded marked'.1.2.risk moves)) ↔
        WindowRestored deps stopped.1.2 stopped.2.1 db'.loadPortfolio again.1.2.dayKey today) := by
  intro stopped again marked marked' next first today hstopped hkeys hagain hmarked hmarked' hday
  refine ⟨tick_tradedSince _ _ deps hmarked, tick_tradedSince _ _ deps hmarked', ?_⟩
  have hengine : SessionEngine deps stopped.1.2.risk := sessionEngine_betweenTicks n
  have hengine' : SessionEngine deps again.1.2.risk := sessionEngine_start
  have hpersisted : Persisted stopped.1.2 stopped.2.1 :=
    (betweenTicks_persisted hothers n).of_ok trivial
      (Prog.always_of_forall (fun _ _ _ => trivial) _ _ _) hstopped
  have hfrozen := sessionStart_risk hothers' hagain
  change Frozen db'.loadPortfolio _ _ again.1.2 again.2.1 at hfrozen
  have hrisk := beforeExits_risk hothers hmarked
  have hrisk' := beforeExits_risk hothers' hmarked'
  rw [hfrozen.portfolio] at hrisk'
  have hkilled : db'.killSwitch = stopped.2.1.killSwitch := congrArg Prod.fst hkeys
  have hkilled' : again.2.1.killSwitch = stopped.2.1.killSwitch :=
    (congrArg Prod.fst hfrozen.stored).trans hkilled
  have hstored : sessionKeys db' = (stopped.2.1.killSwitch, some stopped.1.2.dayKey,
      some stopped.1.2.risk.state.dayStartEquityUsd, some stopped.1.2.risk.state.tradesToday) := by
    rw [hkeys]
    unfold sessionKeys
    rw [hpersisted.day, hpersisted.dayStart, hpersisted.trades]
  have hrestored : again.1.2.risk = latchedRisk stopped.2.1.killSwitch (restoredRisk
      (stopped.2.1.killSwitch, some stopped.1.2.dayKey,
        some stopped.1.2.risk.state.dayStartEquityUsd, some stopped.1.2.risk.state.tradesToday)
      again.1.2.dayKey (newSessionState deps db'.loadPortfolio).risk) := by
    rw [← hstored, ← hkilled]
    exact hfrozen.risk
  -- the moves read the configuration and the window
  have hwindow : (∀ moves, riskWindow (traded marked.1.2.risk moves) =
      riskWindow (traded marked'.1.2.risk moves)) ↔
      riskWindow marked.1.2.risk = riskWindow marked'.1.2.risk := by
    refine ⟨fun h => h [], fun h moves => (sameWindow_traded ⟨?_, h⟩ moves).window⟩
    rw [hrisk, hrisk', config_marked (sessionEngine_rollDay hengine _),
      config_marked (sessionEngine_rollDay hengine' _)]
  rw [hwindow, hrisk, hrisk', hkilled']
  exact window_eq_iff hengine hengine' hrestored hday rfl

/-! ## Two restarts -/

/-- A record of the feed can be traded; every operation that asks for an identifier gets its own. -/
def tradingAnswer (j : ℕ) : (o : Op) → Res o
  | .newUuid => "order-" ++ String.ofList (List.replicate j 'i')
  | o => feedAnswer [tradableRecord] o

/-- Nobody else is there. -/
def tradingEnv (j : ℕ) : Env × (Db → Db) := ({ sampleEnv with answer := tradingAnswer j }, id)

/-- A store in which the day began with 990 USD and three trades were made on it. -/
def tradedDb : Db :=
  { sampleDb with day := some 0, dayStartEquity := some 990, tradesToday := some 3 }

/-- The session that sells the sample position in its first tick, and buys the token again. -/
def tradingStopped : (Except String Unit × SessionState) × Db × ℕ :=
  Prog.runS world.among tradingEnv (betweenTicks feedDeps 0) 0 (holdingSession feedDeps) tradedDb

/-- The session that is created from its store. -/
def tradingAgain : (Except String Unit × SessionState) × Db × ℕ :=
  Prog.runS world.among tradingEnv (sessionStart feedDeps) 0
    (newSessionState feedDeps tradingStopped.2.1.loadPortfolio) tradingStopped.2.1

/-- The engine of the stopped session at the exits of its next tick. -/
def tradingNext : RiskEngine :=
  (Prog.runS world.among tradingEnv (beforeExits feedDeps) tradingStopped.2.2 tradingStopped.1.2
    tradingStopped.2.1).1.2.risk

/-- The engine of the new session at the exits of its first tick. -/
def tradingFirst : RiskEngine :=
  (Prog.runS world.among tradingEnv (beforeExits feedDeps) tradingAgain.2.2 tradingAgain.1.2
    tradingAgain.2.1).1.2.risk

/-- On the same day a session that failed nowhere is restored, with its trades, its exposure and the
equity of the start of its day. -/
theorem window_restored_iff_sample :
    (∀ moves, riskWindow (traded tradingNext moves) = riskWindow (traded tradingFirst moves)) ∧
      riskWindow tradingNext =
        { dayStartEquityUsd := 990, tradesToday := 4, totalExposureUsd := 20, cooldownUntil := none
          consecutiveFailures := 0, tripped := false } := by
  have h := window_restored_iff feedDeps tradingEnv tradingEnv (fun _ _ => rfl) (fun _ _ => rfl) 0 0
    [samplePosition] tradedDb tradingStopped.2.1 0 (by decide +kernel) rfl (by decide +kernel)
    (by decide +kernel) (by decide +kernel) rfl
  refine ⟨h.2.2.mpr ⟨?_, ?_, ?_, ?_⟩, ?_⟩
  · decide +kernel
  · decide +kernel
  · decide +kernel
  · exact .inr (by decide +kernel)
  · decide +kernel

/-- Every exit fails, and midnight passes before the operation 69. -/
def midnightEnv (j : ℕ) : Env × (Db → Db) :=
  ({ sampleEnv with answer := failingAnswer, clock := if j < 69 then 0 else 86400000 }, id)

/-- A session with the sample position, after its second tick. -/
def midnightStopped : (Except String Unit × SessionState) × Db × ℕ :=
  Prog.runS world.among midnightEnv (betweenTicks feedDeps 1) 0 (holdingSession feedDeps) sampleDb

/-- The session that is created from its store on the next day. -/
def midnightAgain : (Except String Unit × SessionState) × Db × ℕ :=
  Prog.runS world.among (fun j => midnightEnv (69 + j)) (sessionStart feedDeps) 0
    (newSessionState feedDeps midnightStopped.2.1.loadPortfolio) midnightStopped.2.1

/-- What the next tick of the stopped session would have left. -/
def midnightNext : Except String Unit × SessionState :=
  (Prog.runS world.among midnightEnv (tick feedDeps) midnightStopped.2.2 midnightStopped.1.2
    midnightStopped.2.1).1

/-- What the first tick of the new one leaves. -/
def midnightFirst : Except String Unit × SessionState :=
  (Prog.runS world.among (fun j => midnightEnv (69 + j)) (tick feedDeps) midnightAgain.2.2
    midnightAgain.1.2 midnightAgain.2.1).1

/-- The session goes into the next day with an equity of 1090 USD and one failure, and the one that is
created on that day with its capital of 1000 USD and none. -/
theorem restart_loses_window :
    (midnightStopped.1.1 = .ok () ∧ midnightAgain.1.1 = .ok () ∧ midnightNext.1 = .ok () ∧
      midnightFirst.1 = .ok ()) ∧
    (midnightNext.2.risk.state.dayStartEquityUsd, midnightNext.2.risk.consecutiveFailures) = (1090, 1) ∧
    (midnightFirst.2.risk.state.dayStartEquityUsd, midnightFirst.2.risk.consecutiveFailures) =
      (1000, 0) ∧
    riskWindow midnightNext.2.risk ≠ riskWindow midnightFirst.2.risk := by
  refine ⟨⟨?_, ?_, ?_, ?_⟩, ?_, ?_, ?_⟩ <;> decide +kernel

end SolanaBot.Analysis
