import SolanaBot.Analysis.SessionParts

/-!
# The kill switch and its latch

The kill switch of a session is in memory, its latch is in the store. A tick makes them agree when
it marks the equity, and every later part of the tick keeps `TripsLatched`, with one exception: an
exit that was executed and brought nothing counts as a failure, and its answer is not looked at.
As long as no such exit trips the switch, it is latched at the end of every tick that completes
(`kill_switch_latched`).
-/

set_option autoImplicit false

namespace SolanaBot.Analysis

open SolanaBot.Library SolanaBot.Model

/-! ## The keys of the session in the store -/

/-- What the store remembers of a session besides orders, positions and fills. -/
def sessionKeys (db : Db) : Option String × Option Int × Option Decimal × Option UInt32 :=
  (db.killSwitch, db.day, db.dayStartEquity, db.tradesToday)

/-- Updating an order leaves the session's keys. -/
theorem sessionKeys_updateOrder (db : Db) (o : OrderRecord) :
    sessionKeys (db.updateOrder o) = sessionKeys db := by
  unfold Db.updateOrder
  split <;> rfl

/-- A fill transaction leaves them. -/
theorem sessionKeys_applied (t : FillTransaction) (db : Db) :
    sessionKeys (t.applied db) = sessionKeys db := by
  unfold FillTransaction.applied
  dsimp only
  rw [sessionKeys_updateOrder]
  split <;> rfl

/-- The other operations leave the keys alone. -/
theorem sessionKeys_exec {e : Env} {o : Op} {db : Db} (h : writesKeys o = false) :
    sessionKeys (exec e o db).2 = sessionKeys db := by
  have hstatement : ∀ {α : Type} (r : α × Db), sessionKeys r.2 = sessionKeys db →
      sessionKeys (statement e r db).2 = sessionKeys db := by
    intro α r hr
    unfold statement
    split
    · rfl
    · exact hr
  cases o with
  | latchKillSwitch reason => cases h
  | putDay day => cases h
  | putDayStartEquity equity => cases h
  | putTradesToday trades => cases h
  | reserveOrder seen o =>
      unfold exec
      dsimp only
      split
      · rfl
      · rcases db.reserveOrder_cases o with ⟨-, hdb⟩ | ⟨-, -, -, hdb⟩
        · rw [hdb]
        · rw [hdb]
          rfl
  | updateOrder copy o => exact hstatement _ (sessionKeys_updateOrder db o)
  | fillTransaction t =>
      rcases runFillTransaction_cases e.txFaults t db with ⟨f, msg, -, hrun⟩ | ⟨-, -, -, hrun⟩
      · exact congrArg (fun r => sessionKeys r.2) hrun
      · exact (congrArg (fun r => sessionKeys r.2) hrun).trans (sessionKeys_applied t db)
  | unaccountedFill fill order =>
      rcases recordUnaccountedFill_cases e.txFaults fill order db with ⟨msg, hrun⟩ | ⟨-, hrun⟩
      · exact congrArg (fun r => sessionKeys r.2) hrun
      · exact (congrArg (fun r => sessionKeys r.2) hrun).trans
          ((sessionKeys_updateOrder _ _).trans rfl)
  | _ => first | rfl | exact hstatement _ rfl

/-- The kill switch is latched in the store. -/
abbrev Latched (db : Db) : Prop := db.killSwitch.isSome = true

/-- No operation clears the latch. -/
theorem latched_exec (e : Env) (o : Op) {db : Db} (h : Latched db) : Latched (exec e o db).2 := by
  by_cases hkeys : writesKeys o = false
  · have hsame : (exec e o db).2.killSwitch = db.killSwitch :=
      congrArg Prod.fst (sessionKeys_exec hkeys)
    rwa [Latched, hsame]
  · cases o with
    | latchKillSwitch reason =>
        unfold exec statement
        cases e.fault with
        | none => rfl
        | some msg => exact h
    | putDay day => unfold exec statement; cases e.fault <;> exact h
    | putDayStartEquity equity => unfold exec statement; cases e.fault <;> exact h
    | putTradesToday trades => unfold exec statement; cases e.fault <;> exact h
    | _ => exact absurd rfl hkeys

/-! ## Tripping and latching -/

/-- If the session has tripped its switch, it is latched. -/
def TripsLatched (c : RiskConfig) (r : RiskEngine) (db : Db) : Prop :=
  r.config = c ∧ (r.killSwitch.tripped = true → Latched db)

/-- An exit that brought nothing is recorded. -/
def zeroExit (e : Env) (o : Op) (db : Db) : Bool :=
  match o with
  | .fillTransaction t =>
      match t.accounting with
      | .exit .. => t.fill.outputAmount = 0 && (t.failure e.txFaults db).isNone
      | _ => false
  | _ => false

/-- When an exit that brought nothing is recorded, one failure does not trip the switch, or it is
latched. -/
def ZeroExitsLatched (c : RiskConfig) (e : Env × (Db → Db)) (o : Op) (db : Db) : Prop :=
  zeroExit e.1 o (e.2 db) = true → c.maxConsecutiveFailures ≤ 1 → Latched (e.2 db)

/-- Whether `ZeroExitsLatched` holds can be evaluated. -/
instance (c : RiskConfig) (e : Env × (Db → Db)) (o : Op) (db : Db) :
    Decidable (ZeroExitsLatched c e o db) :=
  inferInstanceAs (Decidable (_ → _ → _))

/-- A move of the risk state keeps the configuration. -/
theorem RiskMove.config {r r' : RiskEngine} (h : RiskMove r r') : r'.config = r.config := by
  cases h with
  | recordExecutionFailure =>
      unfold RiskEngine.recordExecutionFailure
      dsimp only
      split <;> rfl
  | _ => rfl

/-- It does not reset a tripped switch. -/
theorem RiskMove.tripped {r r' : RiskEngine} (h : RiskMove r r') (ht : r.killSwitch.tripped = true) :
    r'.killSwitch.tripped = true := by
  cases h with
  | trip => rfl
  | observeEquity equity =>
      unfold RiskEngine.observeEquity KillSwitch.observeEquity
      dsimp only
      split
      · rfl
      · exact ht
  | recordExecutionFailure =>
      unfold RiskEngine.recordExecutionFailure
      dsimp only
      split
      · rfl
      · exact ht
  | _ => exact ht

/-- A failure that is not reported as tripping leaves the switch alone. -/
theorem killSwitch_of_not_tripping {r : RiskEngine} (h : r.recordExecutionFailure.1 = false) :
    r.recordExecutionFailure.2.killSwitch = r.killSwitch := by
  unfold RiskEngine.recordExecutionFailure at h ⊢
  dsimp only at h ⊢
  split at h
  · cases h
  · rename_i hfew
    rw [if_neg hfew]

/-- A failure right after a success trips the switch only if one failure is enough. -/
theorem killSwitch_exitedRisk {r : RiskEngine} {exposure : Decimal} {fill : Fill}
    (h : (exitedRisk r exposure fill).killSwitch.tripped = true) :
    r.killSwitch.tripped = true ∨
      fill.outputAmount = 0 ∧ r.config.maxConsecutiveFailures ≤ 1 := by
  unfold exitedRisk at h
  dsimp only at h
  split at h
  · rename_i hzero
    unfold RiskEngine.recordExecutionFailure at h
    dsimp only at h
    split at h
    · rename_i hmax
      exact .inr ⟨hzero, hmax⟩
    · exact .inl h
  · exact .inl h

/-- Recording an exit keeps the configuration. -/
theorem config_exitedRisk (r : RiskEngine) (exposure : Decimal) (fill : Fill) :
    (exitedRisk r exposure fill).config = r.config := by
  unfold exitedRisk
  dsimp only
  split
  · exact (RiskMove.recordExecutionFailure.config).trans rfl
  · rfl

/-! ## One tick -/

section Tick

variable {deps : Deps} {env : ℕ → Env × (Db → Db)}

/-- What every operation of the session and of the others keeps. -/
theorem latched_step (hothers : ∀ j db, Latched db → Latched ((env j).2 db)) (j : ℕ) (o : Op)
    {db : Db} (h : Latched db) : Latched (world.among.exec (env j) o db).2 :=
  latched_exec _ o (hothers j db h)

/-- An operation among others keeps the switch latched. -/
theorem tripsLatched_step (hothers : ∀ j db, Latched db → Latched ((env j).2 db)) (j : ℕ) (o : Op)
    {db : Db} {r : RiskEngine} (h : TripsLatched deps.config.risk r db) :
    TripsLatched deps.config.risk r (world.among.exec (env j) o db).2 :=
  ⟨h.1, fun ht => latched_step hothers j o (h.2 ht)⟩

/-- The statement that latches the switch leaves it latched. -/
theorem latchKillSwitch_triple {R : Env × (Db → Db) → Op → Db → Prop} (reason : String) :
    Prog.Triple world.among env R (fun _ _ _ => True) (fun s _ => s.risk.config = deps.config.risk)
      (orStop (Store.latchKillSwitch reason))
      (fun _ s db => TripsLatched deps.config.risk s.risk db) fun _ _ => True := by
  refine triple_orStop fun s => Prog.task_perform fun i db hconfig _ => ⟨trivial, ?_⟩
  simp only [Machine.among_exec]
  unfold world exec statement
  dsimp only
  cases (env i).1.fault with
  | some msg => trivial
  | none => exact ⟨hconfig, fun _ => rfl⟩

/-- Counting a failure latches the switch that it trips. -/
theorem countFailure_triple {R : Env × (Db → Db) → Op → Db → Prop} :
    Keeps world.among env R (TripsLatched deps.config.risk) (fun _ _ => True) countFailure := by
  refine Prog.triple_get_bind fun l => ?_
  cases hfailure : l.risk.recordExecutionFailure.1 with
  | true =>
      refine Prog.triple_bind (M := fun _ s _ => s.risk.config = deps.config.risk)
        (Prog.triple_modify ?_) fun _ => ?_
      · rintro s db ⟨rfl, hs⟩
        exact RiskMove.recordExecutionFailure.config.trans hs.1
      · rw [if_pos hfailure]
        exact latchKillSwitch_triple _
  | false =>
      refine Prog.triple_bind (M := fun _ s db => TripsLatched deps.config.risk s.risk db)
        (Prog.triple_modify ?_) fun _ => ?_
      · rintro s db ⟨rfl, hs⟩
        refine ⟨RiskMove.recordExecutionFailure.config.trans hs.1, fun ht => hs.2 ?_⟩
        rwa [killSwitch_of_not_tripping hfailure] at ht
      · rw [if_neg (by rw [hfailure]; exact Bool.false_ne_true)]
        exact Prog.triple_pure fun _ _ hs => hs

/-- The check of the drawdown latches the switch that it trips. -/
theorem latchDrawdown_triple {R : Env × (Db → Db) → Op → Db → Prop} :
    Prog.Triple world.among env R (fun _ _ _ => True) (fun s _ => s.risk.config = deps.config.risk)
      latchDrawdown (fun _ s db => TripsLatched deps.config.risk s.risk db) fun _ _ => True := by
  refine Prog.triple_get_bind fun l => ?_
  split
  · refine Prog.triple_bind (M := fun reason s db => s.risk.config = deps.config.risk ∧
      (reason.isSome = true → Latched db)) (triple_orStop fun s => Prog.task_perform ?_) fun r => ?_
    · rintro i db ⟨rfl, hconfig⟩ -
      refine ⟨trivial, ?_⟩
      simp only [Machine.among_exec]
      unfold world exec statement
      dsimp only
      cases (env i).1.fault with
      | some msg => trivial
      | none => exact ⟨hconfig, id⟩
    · cases r with
      | none =>
          exact (latchKillSwitch_triple _).conseq (fun _ _ hs => hs.1) (fun _ _ _ hs => hs)
            fun _ _ hs => hs
      | some text => exact Prog.triple_pure fun _ _ hs => ⟨hs.1, fun _ => hs.2 rfl⟩
  · rename_i hlive
    refine Prog.triple_pure ?_
    rintro s db ⟨rfl, hconfig⟩
    exact ⟨hconfig, fun ht => absurd ht hlive⟩

/-- Marking the equity makes the switch and its latch agree. -/
theorem markEquity_triple {R : Env × (Db → Db) → Op → Db → Prop} :
    Prog.Triple world.among env R (fun _ _ _ => True) (fun s _ => s.risk.config = deps.config.risk)
      (markEquity deps) (fun _ s db => TripsLatched deps.config.risk s.risk db) fun _ _ => True := by
  refine Prog.triple_bind (M := fun _ s _ => s.risk.config = deps.config.risk)
    (Prog.triple_get fun _ _ hs => hs) fun s => ?_
  refine Prog.triple_bind (M := fun _ s _ => s.risk.config = deps.config.risk)
    (Prog.triple_modify fun _ _ hs => hs) fun _ => ?_
  refine Prog.triple_bind latchDrawdown_triple fun _ => ?_
  exact Prog.triple_modify fun _ _ hs => hs

/-! ### Exit orders -/

/-- The agreement after an exit order, and what a confirmation says about the latch. -/
def ExitLatched (c : RiskConfig) (r : RiskEngine) (x : ExitExecResult × Portfolio) (db : Db) : Prop :=
  TripsLatched c r db ∧ ∀ fill, x.1 = .confirmed fill → fill.outputAmount = 0 →
    c.maxConsecutiveFailures ≤ 1 → Latched db

/-- What the answer of the transaction says about the exit. -/
theorem zeroExit_recorded {e : Env} {fill : Fill} {placed : OrderRecord} {stored : Option Position}
    {mint reason : String} {now : Time} {db : Db}
    (hok : (runFillTransaction e.txFaults (exitTransaction fill placed stored mint reason now) db).1.1 =
      .ok ()) (hzero : fill.outputAmount = 0) :
    zeroExit e (.fillTransaction (exitTransaction fill placed stored mint reason now)) db = true := by
  have hrecorded : (exitTransaction fill placed stored mint reason now).failure e.txFaults db =
      none := by
    cases hfailure : (exitTransaction fill placed stored mint reason now).failure e.txFaults db with
    | none => rfl
    | some f =>
        obtain ⟨msg, hrun⟩ := runFillTransaction_failed hfailure
        rw [hrun] at hok
        cases hok
  unfold zeroExit
  dsimp only
  rw [hrecorded, Option.isNone_none, Bool.and_true]
  exact decide_eq_true hzero

section ExitOrders

variable (hothers : ∀ j db, Latched db → Latched ((env j).2 db)) (r : RiskEngine)

include hothers

/-- A task of the session keeps the switch latched. -/
theorem tripsLatched_task {α : Type} (t : Model.Task α) :
    Prog.TaskTriple world.among env (ZeroExitsLatched deps.config.risk) (fun _ _ _ => True)
      (TripsLatched deps.config.risk r) t fun _ => TripsLatched deps.config.risk r :=
  Prog.task_of_ops t fun j o _ _ h => ⟨trivial, tripsLatched_step hothers j o h⟩

omit hothers in
/-- An exit that is not confirmed trips nothing. -/
theorem notConfirmed_triple {x : ExitExecResult × Portfolio} (h : ∀ fill, x.1 ≠ .confirmed fill) :
    Prog.TaskTriple world.among env (ZeroExitsLatched deps.config.risk) (fun _ _ _ => True)
      (TripsLatched deps.config.risk r) (pure x : Model.Task _) (ExitLatched deps.config.risk r) :=
  Prog.task_done fun _ hs => ⟨hs, fun fill hx => absurd hx (h fill)⟩

/-- The accounting of an exit says what its confirmation says about the latch. -/
theorem persistExit_triple (fill : Fill) (placed : OrderRecord) (stored : Option Position)
    (mint reason : String) (pf : Portfolio) :
    Prog.TaskTriple world.among env (ZeroExitsLatched deps.config.risk) (fun _ _ _ => True)
      (TripsLatched deps.config.risk r) (persistExit deps fill placed stored mint reason pf)
      (ExitLatched deps.config.risk r) := by
  -- what the record of the fill promises stays true
  have hkept : ∀ {α : Type} (t : Model.Task α), Prog.TaskTriple world.among env
      (ZeroExitsLatched deps.config.risk) (fun _ _ _ => True)
      (fun db => TripsLatched deps.config.risk r db ∧
        (fill.outputAmount = 0 → deps.config.risk.maxConsecutiveFailures ≤ 1 → Latched db)) t
      fun _ db => TripsLatched deps.config.risk r db ∧
        (fill.outputAmount = 0 → deps.config.risk.maxConsecutiveFailures ≤ 1 → Latched db) :=
    fun t => Prog.task_of_ops t fun j o _ _ h => ⟨trivial, tripsLatched_step hothers j o h.1,
      fun hzero hmax => latched_step hothers j o (h.2 hzero hmax)⟩
  refine Prog.task_bind (tripsLatched_task hothers r _) fun now => Prog.task_bind
    (M := fun answer db => TripsLatched deps.config.risk r db ∧ (answer.1 = .ok () →
      fill.outputAmount = 0 → deps.config.risk.maxConsecutiveFailures ≤ 1 → Latched db))
    (Prog.task_perform fun i db h hR => ⟨trivial, tripsLatched_step hothers i _ h, ?_⟩)
    fun answer => ?_
  · intro hok hzero hmax
    exact latched_exec _ _ (hR (zeroExit_recorded hok hzero) hmax)
  · split
    · refine Prog.task_bind ((hkept _).conseq (fun _ h => ⟨h.1, h.2 rfl⟩) fun _ _ h => h) fun now =>
        Prog.task_done fun db h => ⟨h.1, ?_⟩
      rintro _ ⟨⟩ hzero
      exact h.2 hzero
    · exact Prog.task_bind ((tripsLatched_task hothers r _).conseq (fun _ h => h.1) fun _ _ h => h)
        fun _ => notConfirmed_triple r fun _ h => nomatch h

/-- So does what follows the reservation of an exit. -/
theorem submitExit_triple (order : OrderRecord) (terms : ExitTerms) (remaining : UInt64)
    (stored : Option Position) (mint reason : String) (pf : Portfolio) :
    Prog.TaskTriple world.among env (ZeroExitsLatched deps.config.risk) (fun _ _ _ => True)
      (TripsLatched deps.config.risk r)
      (submitExit deps order terms remaining stored mint reason pf)
      (ExitLatched deps.config.risk r) := by
  have hlogged : ∀ (copy o : OrderRecord) (x : ExitExecResult × Portfolio),
      (∀ fill, x.1 ≠ .confirmed fill) → Prog.TaskTriple world.among env
        (ZeroExitsLatched deps.config.risk) (fun _ _ _ => True) (TripsLatched deps.config.risk r)
        (updateOrderLogged copy o >>= fun _ => pure x) (ExitLatched deps.config.risk r) :=
    fun copy o x hx => Prog.task_bind (tripsLatched_task hothers r _) fun _ =>
      notConfirmed_triple r hx
  refine Prog.task_bind (tripsLatched_task hothers r _) fun answer => ?_
  split
  · exact hlogged _ _ _ fun _ h => nomatch h
  · split
    · exact hlogged _ _ _ fun _ h => nomatch h
    · refine Prog.task_bind (tripsLatched_task hothers r _) fun _ =>
        Prog.task_bind (tripsLatched_task hothers r _) fun answer => ?_
      split
      · exact persistExit_triple hothers r _ _ _ _ _ _
      · exact hlogged _ _ _ fun _ h => nomatch h
      · exact hlogged _ _ _ fun _ h => nomatch h

/-- So does the reservation with what follows it. -/
theorem reserveExit_triple (position : Position) (remaining : UInt64) (terms : ExitTerms)
    (incomplete : List OrderRecord) (stored : List Position) (mint reason : String) (now : Time)
    (pf : Portfolio) :
    Prog.TaskTriple world.among env (ZeroExitsLatched deps.config.risk) (fun _ _ _ => True)
      (TripsLatched deps.config.risk r)
      (reserveExit deps position remaining terms incomplete stored mint reason now pf)
      (ExitLatched deps.config.risk r) := by
  refine Prog.task_bind (tripsLatched_task hothers r _) fun answer => ?_
  split
  · exact notConfirmed_triple r fun _ h => nomatch h
  · split
    · exact notConfirmed_triple r fun _ h => nomatch h
    · refine Prog.task_bind (tripsLatched_task hothers r _) fun id =>
        Prog.task_bind (tripsLatched_task hothers r _) fun reserved => ?_
      split
      · exact notConfirmed_triple r fun _ h => nomatch h
      · exact notConfirmed_triple r fun _ h => nomatch h
      · exact submitExit_triple hothers r _ _ _ _ _ _ _

/-- So does an exit. -/
theorem executeExitOrder_triple (mint reason : String) (pf : Portfolio) :
    Prog.TaskTriple world.among env (ZeroExitsLatched deps.config.risk) (fun _ _ _ => True)
      (TripsLatched deps.config.risk r) (executeExitOrder deps mint reason pf)
      (ExitLatched deps.config.risk r) := by
  refine Prog.task_bind (tripsLatched_task hothers r _) fun now =>
    Prog.task_bind (tripsLatched_task hothers r _) fun answer => ?_
  split
  · exact notConfirmed_triple r fun _ h => nomatch h
  · split
    · rename_i hrefused
      exact notConfirmed_triple r (exitTarget_error hrefused)
    · refine Prog.task_bind (tripsLatched_task hothers r _) fun incomplete => ?_
      split
      · exact notConfirmed_triple r fun _ h => nomatch h
      · split
        · exact notConfirmed_triple r fun _ h => nomatch h
        · split
          · rename_i hrefused
            exact notConfirmed_triple r (exitTerms_error hrefused)
          · exact reserveExit_triple hothers r _ _ _ _ _ _ _ _ _

/-- The exits and entries of a tick keep the agreement. -/
theorem tradingInvariant_tripsLatched :
    TradingInvariant world.among env (ZeroExitsLatched deps.config.risk)
      (TripsLatched deps.config.risk) (fun _ _ => True) deps where
  op j o db r _ h := tripsLatched_step hothers j o h
  error _ _ _ := trivial
  positions _ _ _ h := h
  entered _ _ _ h := h
  failed := countFailure_triple
  exited mint reason pf r := by
    refine (executeExitOrder_triple hothers r mint reason pf).conseq (fun _ h => h) ?_
    rintro x db ⟨hr, hzero⟩
    refine ⟨hr, fun fill hfill exposure => ⟨(config_exitedRisk _ _ _).trans hr.1, fun ht => ?_⟩⟩
    rcases killSwitch_exitedRisk ht with ht | ⟨hnothing, hmax⟩
    · exact hr.2 ht
    · exact hzero fill hfill hnothing (hr.1 ▸ hmax)

end ExitOrders

/-- At the end of a tick that completes, the switch and its latch agree. -/
theorem tick_triple (hothers : ∀ j db, Latched db → Latched ((env j).2 db)) :
    Prog.Triple world.among env (ZeroExitsLatched deps.config.risk) (fun _ _ _ => True)
      (fun s _ => s.risk.config = deps.config.risk) (tick deps)
      (fun _ s db => TripsLatched deps.config.risk s.risk db) fun _ _ => True := by
  have hconfig := sessionInvariant_of_moves world.among env (ZeroExitsLatched deps.config.risk)
    (I := fun r => r.config = deps.config.risk) (fun _ _ hmove h => hmove.config.trans h) deps
  have htrade : TradingInvariant world.among env (ZeroExitsLatched deps.config.risk)
      (TripsLatched deps.config.risk) (fun _ _ => True) deps :=
    tradingInvariant_tripsLatched hothers
  rw [tick_eq_entries]
  unfold beforeEntries
  rw [beforeExits_eq]
  refine Prog.triple_bind (Prog.triple_bind ?_ fun _ => preserves_processExits htrade.tick) fun _ =>
    preserves_makeEntries htrade.tick
  exact Prog.triple_bind (preserves_anyError (preserves_beforeMarking hconfig.run)) fun _ => markEquity_triple

end Tick

/-! ## Sessions and restarts -/

section Runs

variable {deps : Deps} {env : ℕ → Env × (Db → Db)}

/-- A run of a session up to the end of the tick `n`. -/
def throughTick (deps : Deps) (n : ℕ) : Session Unit := do
  sessionStart deps
  sessionTicks deps n
  tick deps

/-- After every tick a tripped switch is latched. -/
theorem throughTick_triple (hothers : ∀ j db, Latched db → Latched ((env j).2 db)) (n : ℕ) :
    Prog.Triple world.among env (ZeroExitsLatched deps.config.risk) (fun _ _ _ => True)
      (fun s _ => s.risk.config = deps.config.risk) (throughTick deps n)
      (fun _ s db => TripsLatched deps.config.risk s.risk db) fun _ _ => True := by
  have hconfig := sessionInvariant_of_moves world.among env (ZeroExitsLatched deps.config.risk)
    (I := fun r => r.config = deps.config.risk) (fun _ _ hmove h => hmove.config.trans h) deps
  exact Prog.triple_bind (preserves_anyError (preserves_sessionStart hconfig.run)) fun _ =>
    Prog.triple_bind (preserves_anyError (preserves_sessionTicks hconfig.run n)) fun _ => tick_triple hothers

/-- A session whose switch is tripped asks for no entry. -/
theorem tripped_triple {R : Env × (Db → Db) → Op → Db → Prop} (n k : ℕ) :
    Prog.Triple world.among env R (fun _ _ _ => True) (fun s _ => s.risk.killSwitch.tripped = true)
      (ticksUntilAuthorize deps n k) (fun call _ _ => call = none) fun _ _ => True := by
  have htripped := sessionInvariant_of_moves world.among env R
    (I := fun r => r.killSwitch.tripped = true) (fun _ _ hmove h => hmove.tripped h) deps
  refine Prog.triple_bind (preserves_anyError (preserves_sessionTicks htripped.run n)) fun _ =>
    Prog.triple_bind (preserves_anyError (preserves_beforeEntries htripped.run)) fun _ => ?_
  refine Prog.triple_bind (M := fun entering _ _ => entering = false) ?_ fun entering => ?_
  · refine Prog.triple_get_bind fun s => ?_
    split
    · exact Prog.triple_pure fun _ _ _ => rfl
    · rename_i hlive
      intro i s' db hs
      obtain ⟨rfl, ht⟩ := hs
      exact absurd (by rw [ht, Bool.or_true]) hlive
  · cases entering with
    | false => exact Prog.triple_pure fun _ _ _ => rfl
    | true => exact fun _ _ _ h => nomatch h

/-- A session that starts from a store with the latch asks for no entry. -/
theorem restarted_triple {R : Env × (Db → Db) → Op → Db → Prop}
    (hothers : ∀ j db, Latched db → Latched ((env j).2 db)) (n k : ℕ) :
    Prog.Triple world.among env R (fun _ _ _ => True) (fun _ db => Latched db)
      (untilAuthorize deps n k) (fun call _ _ => call = none) fun _ _ => True := by
  have hlatched : ∀ {α : Type} (p : Session α), Prog.Triple world.among env R (fun _ _ _ => True)
      (fun _ db => Latched db) p (fun _ _ db => Latched db) fun _ _ => True := fun p =>
    (Prog.triple_of_ops p fun j o _ _ h => ⟨trivial, latched_step hothers j o h⟩).conseq
      (fun _ _ h => h) (fun _ _ _ h => h) fun _ _ _ => trivial
  have htripped := sessionInvariant_of_moves world.among env R
    (I := fun r => r.killSwitch.tripped = true) (fun _ _ hmove h => hmove.tripped h) deps
  refine Prog.triple_bind (M := fun _ s _ => s.risk.killSwitch.tripped = true) ?_ fun _ =>
    tripped_triple n k
  refine Prog.triple_bind (hlatched _) fun _ => Prog.triple_bind (hlatched _) fun _ =>
    Prog.triple_bind ?_ fun _ =>
    (preserves_anyError (preserves_reconcileAtStart htripped.toStoreInvariant.quiet deps) :)
  · -- the latch is read, or the session does not start
    refine Prog.triple_bind (M := fun reason _ _ => reason.isSome = true) (triple_orStop fun s =>
      Prog.task_perform fun i db h _ => ⟨trivial, ?_⟩) fun reason => ?_
    · have hseen := hothers i db h
      simp only [Machine.among_exec]
      unfold world exec statement
      dsimp only
      cases (env i).1.fault with
      | some msg => trivial
      | none => exact hseen
    · cases reason with
      | none => exact fun _ _ _ h => nomatch h
      | some text => exact Prog.triple_modify fun _ _ _ => rfl

/-- **The latch.** In every run of a session among others who do not clear the latch, and in which
every exit that brings nothing comes while one failure does not trip the switch, or while it is
latched: at the end of every tick that completes, a tripped switch is latched; the later ticks ask
for no entry, and a session that is started later from the store, whatever the bot does in between,
asks for none. -/
theorem kill_switch_latched (deps : Deps) (env : ℕ → Env × (Db → Db))
    (hothers : ∀ j db, Latched db → Latched ((env j).2 db)) (i : ℕ) (stored : List Position) (db : Db)
    (n : ℕ)
    (hfills : Prog.AlwaysS world.among env (ZeroExitsLatched deps.config.risk) (throughTick deps n) i
      (newSessionState deps (Portfolio.empty.load stored)) db) :
    let run := Prog.runS world.among env (throughTick deps n) i
      (newSessionState deps (Portfolio.empty.load stored)) db
    run.1.1 = .ok () → run.1.2.risk.killSwitch.tripped = true →
      Latched run.2.1 ∧
      (∀ m k call, (Prog.runS world.among env
          (do persistSessionState; ticksUntilAuthorize deps m k) run.2.2 run.1.2 run.2.1).1.1 ≠
        .ok (some call)) ∧
      ∀ (between : Model.Task Unit) (deps' : Deps) (stored' : List Position) m k call,
        let later := Prog.run world.among env between run.2.2 run.2.1
        (Prog.runS world.among env (untilAuthorize deps' m k) later.2.2
          (newSessionState deps' (Portfolio.empty.load stored')) later.2.1).1.1 ≠ .ok (some call) := by
  intro run hok ht
  have hany : ∀ {α : Type} (p : Session α) (j : ℕ) (s : SessionState) (db' : Db),
      Prog.AlwaysS world.among env (fun _ _ _ => True) p j s db' := fun p j s db' =>
    Prog.always_of_forall (fun _ _ _ => trivial) _ j db'
  have hlatched : Latched run.2.1 :=
    ((throughTick_triple hothers n).of_ok rfl hfills hok).2 ht
  refine ⟨hlatched, fun m k call hcall => ?_, fun between deps' stored' m k call hcall => ?_⟩
  · have htripped := sessionInvariant_of_moves world.among env (fun _ _ _ => True)
      (I := fun r => r.killSwitch.tripped = true) (fun _ _ hmove h => hmove.tripped h) deps
    have hnone := (Prog.triple_bind (preserves_anyError (preserves_persistSessionState
      htripped.toStoreInvariant.quiet)) fun _ => tripped_triple m k).of_ok ht (hany _ _ _ _) hcall
    cases hnone
  · have hlater : Latched (Prog.run world.among env between run.2.2 run.2.1).2.1 :=
      (Prog.task_of_ops (R := fun _ _ _ => True) (G := fun _ _ _ => True) between
        (fun j o _ _ h => ⟨trivial, latched_step hothers j o h⟩) _ _ hlatched
        (Prog.always_of_forall (fun _ _ _ => trivial) _ _ _)).2
    have hnone := (restarted_triple hothers m k).of_ok hlater (hany _ _ _ _) hcall
    cases hnone

end Runs

/-- The sample bot, which trips its switch after one failure. -/
def strictDeps : Deps :=
  { feedDeps with
    config := { feedDeps.config with
      risk := { feedDeps.config.risk with maxConsecutiveFailures := 1 } } }

/-- The sample world in which a record of the feed can be traded, and every exit fails. -/
def failingAnswer : (o : Op) → Res o
  | .execute _ => .error (.policy "rejected")
  | o => feedAnswer [tradableRecord] o

/-- Nobody else is there. -/
def failingEnv (_ : ℕ) : Env × (Db → Db) := ({ sampleEnv with answer := failingAnswer }, id)

/-- A failed exit trips the switch of a strict configuration, and it is latched. -/
theorem kill_switch_latched_sample :
    Latched (Prog.runS world.among failingEnv (throughTick strictDeps 0) 0
      (newSessionState strictDeps (Portfolio.empty.load [samplePosition])) sampleDb).2.1 :=
  (kill_switch_latched strictDeps failingEnv (fun _ _ h => h) 0 [samplePosition] sampleDb 0
    (by unfold Prog.AlwaysS; decide +kernel) (by decide +kernel) (by decide +kernel)).1

/-- The sample world in which a record of the feed can be traded, and every exit brings nothing. -/
def zeroAnswer : (o : Op) → Res o
  | .execute r => .ok (swapFill r.orderId r.quote.inputAmount
      (match r.valueBasis with | .outputUnitPriceUsd _ => 0 | _ => r.quote.outputAmount) 10 0)
  | o => feedAnswer [tradableRecord] o

/-- Nobody else is there. -/
def zeroEnv (_ : ℕ) : Env × (Db → Db) := ({ sampleEnv with answer := zeroAnswer }, id)

/-- The session that sells the sample position for nothing, to the end of its first tick. -/
def zeroRun : (Except String Unit × SessionState) × Db × ℕ :=
  Prog.runS world.among zeroEnv (throughTick strictDeps 0) 0 (holdingSession strictDeps) sampleDb

/-- The session that is started from the store of the first one, up to its first entry. -/
def restartedRun : (Except String (Option (EntryCall × Time)) × SessionState) × Db × ℕ :=
  Prog.runS world.among zeroEnv (untilAuthorize strictDeps 0 0) zeroRun.2.2
    (newSessionState strictDeps (Portfolio.empty.load zeroRun.2.1.positions.rows)) zeroRun.2.1

/-- The sample position is sold for nothing, which trips the switch: the tick completes, the switch
is not latched, and after a restart an entry is authorized. -/
theorem tripped_unlatched :
    zeroRun.1.1 = .ok () ∧ zeroRun.1.2.risk.killSwitch.tripped = true ∧ ¬ Latched zeroRun.2.1 ∧
      ∃ call now, restartedRun.1.1 = .ok (some (call, now)) ∧
        call.authorize strictDeps restartedRun.1.2.risk now = .ok () := by
  refine ⟨by decide +kernel, by decide +kernel, by decide +kernel,
    ((callOf restartedRun.1.1).get (by decide +kernel)).1,
    ((callOf restartedRun.1.1).get (by decide +kernel)).2, eq_of_callOf (by decide +kernel), ?_⟩
  decide +kernel

end SolanaBot.Analysis
