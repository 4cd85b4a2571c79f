import SolanaBot.Analysis.EntryOperations
import SolanaBot.Analysis.KillSwitch
import SolanaBot.Analysis.SessionFields
import SolanaBot.Analysis.StoreSteps
import SolanaBot.Library.RelyGuarantee
import SolanaBot.Model.OperatorCommands

/-!
# Interlocks

Two interlocks in the store halt the entries: the emergency stop of the operator and the latched kill
switch. A session reads both at the begin of every tick. While the store is halted no tick that begins
reserves an entry, whatever fails, whatever the tasks do in between, and across restarts, until the
operator clears the stop (`halted_reserves_no_entry`): a stop that cannot be read counts as engaged, and
a latch that cannot be read ends the tick.
-/

set_option autoImplicit false

namespace SolanaBot.Analysis

open SolanaBot.Library SolanaBot.Model

/-- One of the interlocks is engaged. -/
def Halted (db : Db) : Prop := db.emergencyStop.isSome = true ∨ Latched db

/-- No interlock is released. -/
structure InterlocksKept (db db' : Db) : Prop where
  latched : Latched db → Latched db'
  halted : Halted db → Halted db'

/-- Doing nothing keeps the interlocks. -/
theorem InterlocksKept.refl (db : Db) : InterlocksKept db db := ⟨id, id⟩

/-- Keeping them twice keeps them. -/
theorem InterlocksKept.trans (db db' db'' : Db) (h : InterlocksKept db db')
    (h' : InterlocksKept db' db'') : InterlocksKept db db'' :=
  ⟨h'.latched ∘ h.latched, h'.halted ∘ h.halted⟩

/-- A command on the store leaves it alone, or performs its statement. -/
theorem statementCommand_cases (setup : Except String Unit) (fault : Option String) (f : Db → Db)
    (db : Db) : (∃ e, statementCommand setup fault f db = (.error e, db)) ∨
      setup = .ok () ∧ fault = none ∧ statementCommand setup fault f db = (.ok (), f db) := by
  unfold statementCommand
  split
  · exact .inl ⟨_, rfl⟩
  · exact .inl ⟨_, rfl⟩
  · exact .inr ⟨rfl, rfl, rfl⟩

/-- The operator's command engages an interlock. -/
theorem halted_emergencyStopCommand {setup : Except String Unit} {fault reason : Option String}
    {db : Db} (h : (emergencyStopCommand setup fault reason db).1 = .ok ()) :
    Halted (emergencyStopCommand setup fault reason db).2 := by
  unfold emergencyStopCommand at h ⊢
  rcases statementCommand_cases setup fault (fun db => db.setEmergencyStop (reason.getD "operator halt"))
    db with ⟨e, hrun⟩ | ⟨-, -, hrun⟩
  · rw [hrun] at h
    cases h
  · rw [hrun]
    exact .inl rfl

/-! ## Operations -/

/-- No operation of a task writes the emergency stop. -/
theorem emergencyStop_exec (e : Env) (o : Op) (db : Db) :
    (exec e o db).2.emergencyStop = db.emergencyStop := by
  have hstatement : ∀ {α : Type} (r : α × Db), r.2.emergencyStop = db.emergencyStop →
      (statement e r db).2.emergencyStop = db.emergencyStop := by
    intro α r hr
    unfold statement
    split
    · rfl
    · exact hr
  have hupdate : ∀ (db' : Db) (o : OrderRecord),
      (db'.updateOrder o).emergencyStop = db'.emergencyStop := by
    intro db' o
    unfold Db.updateOrder
    split <;> rfl
  cases o with
  | reserveOrder seen o =>
      unfold exec
      dsimp only
      split
      · rfl
      · rcases db.reserveOrder_cases o with ⟨-, hdb⟩ | ⟨-, -, -, hdb⟩ <;> rw [hdb]
  | updateOrder copy o => exact hstatement _ (hupdate db o)
  | fillTransaction t =>
      rcases runFillTransaction_cases e.txFaults t db with ⟨f, msg, -, hrun⟩ | ⟨-, -, -, hrun⟩
      · exact congrArg (fun r => r.2.emergencyStop) hrun
      · refine (congrArg (fun r => r.2.emergencyStop) hrun).trans ?_
        unfold FillTransaction.applied
        dsimp only
        rw [hupdate]
        split <;> rfl
  | unaccountedFill fill order =>
      rcases recordUnaccountedFill_cases e.txFaults fill order db with ⟨msg, hrun⟩ | ⟨-, hrun⟩
      · exact congrArg (fun r => r.2.emergencyStop) hrun
      · exact (congrArg (fun r => r.2.emergencyStop) hrun).trans (hupdate _ _)
  | _ => first | rfl | exact hstatement _ rfl

/-- No operation of a task releases an interlock. -/
theorem interlocksKept_exec (e : Env) (o : Op) (db : Db) : InterlocksKept db (exec e o db).2 where
  latched := latched_exec e o
  halted h := by
    rcases h with hstop | hlatch
    · exact .inl (by rwa [emergencyStop_exec])
    · exact .inr (latched_exec e o hlatch)

/-! ## The tasks that make no entries -/

/-- The operations with which positions are watched and sold: they reserve no entry and read no
interlock. -/
abbrev Exiting (o : Op) : Prop := NoEntry o ∧ readsInterlock o = false

/-- Watching is exiting in this sense. -/
theorem exiting_of_watching {o : Op} (h : Watching o) : Exiting o := ⟨h.1.noEntry, h.2.2⟩

section Tasks

variable (deps : Deps)

/-- A reconciliation reserves no entry. -/
theorem noEntry_runReconciliation : Prog.PerformsE NoEntry (runReconciliation deps) :=
  (background_runReconciliation deps).mono fun _ => Background.noEntry

/-- An exit reserves no entry and clears nothing. -/
theorem exiting_executeExitOrder (mint reason : String) (pf : Portfolio) :
    (executeExitOrder deps mint reason pf).Performs Exiting := by
  refine (performs_executeExitOrder deps mint reason pf).mono fun o ho => ⟨ho.noEntry, ?_⟩
  cases o with
  | emergencyStop => exact ho.elim
  | killSwitchReason => exact ho.elim
  | _ => rfl

/-- A logged update is background work. -/
theorem background_updateOrderLogged (copy o : OrderRecord) :
    (updateOrderLogged copy o).Performs Background :=
  Prog.performs_bind (performs_call rfl) fun _ => trivial

/-- Settling a stale order is background work. -/
theorem background_settleStaleVerdict (age : Int) (order : OrderRecord) (signature : String)
    (verdict : Except ExecutionError (Option ChainSwapOutcome)) :
    (settleStaleVerdict deps age order signature verdict).Performs Background := by
  unfold settleStaleVerdict
  split
  · exact Prog.performs_bind (background_recordReconciledFill deps order _ signature)
      fun _ => trivial
  · split
    · exact background_updateOrderLogged _ _
    · trivial
  · exact background_updateOrderLogged _ _
  · trivial

/-- The periodic reconciliation is background work. -/
theorem background_reconcileStaleOrders : (reconcileStaleOrders deps).Performs Background := by
  refine Prog.performs_bind (performs_call rfl) fun now =>
    Prog.performs_bind (performs_call rfl) fun incomplete => ?_
  split
  · trivial
  · refine Prog.performs_foldlM _ (fun _ order => ?_) _
    unfold reconcileStaleOrder
    dsimp only
    split
    · split
      · exact background_updateOrderLogged _ _
      · trivial
    · exact background_updateOrderLogged _ _
    · split
      · exact Prog.performs_bind (background_reconcileSignature _ _ _ _ _)
          fun verdict => background_settleStaleVerdict deps _ _ _ verdict
      · trivial

/-! ### The exit monitor -/

/-- A look of the monitor performs what its task performs. -/
theorem performs_monitorLook {S : Op → Prop} {α : Type} {t : Model.Task α} (h : t.Performs S) :
    Prog.PerformsS S (Monitor.look t) := Prog.performsS_lift h

/-- So does a task that can end a turn. -/
theorem performs_monitorOrStop {S : Op → Prop} {α : Type} {t : Model.Task (Except String α)}
    (h : t.Performs S) : Prog.PerformsS S (Monitor.orStop t) := by
  refine Prog.performsS_bind (Prog.performsS_lift h) fun answer => ?_
  cases answer with
  | ok a => exact Prog.performsS_pure _
  | error e => exact Prog.performsS_throw _

/-- The mark of the monitor is found by watching. -/
theorem watching_monitorMark (mint : String) (terms : ExitTerms) (remaining : UInt64) :
    Prog.PerformsS Watching (monitorMark deps mint terms remaining) := by
  refine Prog.performsS_bind ?_ fun cached => ?_
  · unfold cachedQuote
    dsimp only
    split
    · exact Prog.performsS_pure _
    · refine Prog.performsS_bind Prog.performsS_get fun s => ?_
      split
      · exact Prog.performsS_pure _
      · refine Prog.performsS_bind (performs_monitorLook (performs_call ⟨rfl, rfl, rfl⟩)) fun t => ?_
        split <;> exact Prog.performsS_pure _
  · split
    · exact Prog.performsS_pure _
    · refine Prog.performsS_bind (performs_monitorLook (performs_call ⟨rfl, rfl, rfl⟩)) fun answer => ?_
      split <;> exact Prog.performsS_pure _

/-- Caching a quote is no write of the store. -/
theorem watching_cacheQuote (mint : String) (fetched : Option Quote) :
    Prog.PerformsS Watching (cacheQuote mint fetched) := by
  unfold cacheQuote
  split
  · exact Prog.performsS_pure _
  · exact Prog.performsS_bind (performs_monitorLook (performs_call ⟨rfl, rfl, rfl⟩)) fun _ =>
      Prog.performsS_modify _

/-- The mark is saved in the monitor's own table. -/
theorem watching_saveMark (mint : String) (mark : Decimal) (fetched : Option Quote) :
    Prog.PerformsS Watching (saveMark mint mark fetched) := by
  refine Prog.performsS_bind Prog.performsS_get fun s =>
    Prog.performsS_bind (Prog.performsS_modify _) fun _ => ?_
  split
  · exact Prog.performsS_bind (performs_monitorLook (performs_call ⟨rfl, rfl, rfl⟩)) fun _ =>
      Prog.performsS_bind (watching_cacheQuote mint fetched) fun _ => Prog.performsS_pure _
  · exact Prog.performsS_bind (watching_cacheQuote mint fetched) fun _ => Prog.performsS_pure _
  · exact Prog.performsS_pure _

/-- The decision of the monitor and its exit reserve no entry. -/
theorem exiting_monitorExit (position : Position) (mint : String) (remaining : UInt64)
    (tokenDecimals : UInt8) (mark : Decimal) (impactBps : UInt32) :
    Prog.PerformsS Exiting
      (monitorExit deps position mint remaining tokenDecimals mark impactBps) := by
  refine Prog.performsS_bind (performs_monitorLook ?_) fun liquidity =>
    Prog.performsS_bind (performs_monitorLook ?_) fun invalidated =>
    Prog.performsS_bind (performs_monitorLook (performs_call ⟨rfl, rfl⟩)) fun now => ?_
  · refine Prog.performs_bind
      ((watching_persistedLiquidity deps mint).mono fun _ => exiting_of_watching) fun evidence => ?_
    split
    · trivial
    · exact Prog.performs_bind (performs_call ⟨rfl, rfl⟩) fun _ => trivial
  · unfold monitorInvalidated
    refine Prog.performs_bind (performs_call ⟨rfl, rfl⟩) fun answer => ?_
    split <;> trivial
  · split
    · exact Prog.performsS_pure _
    · exact Prog.performsS_bind Prog.performsS_get fun s =>
        Prog.performsS_bind (performs_monitorLook (exiting_executeExitOrder deps _ _ _)) fun _ =>
        Prog.performsS_modify _

/-- A turn of the monitor reserves no entry. -/
theorem exiting_monitorPosition (mint : String) :
    Prog.PerformsS Exiting (monitorPosition deps mint) := by
  refine Prog.performsS_bind Prog.performsS_get fun s => ?_
  split
  · exact Prog.performsS_pure _
  · split
    · exact Prog.performsS_pure _
    · split
      · exact Prog.performsS_pure _
      · refine Prog.performsS_bind (performs_monitorOrStop (performs_call ⟨rfl, rfl⟩)) fun incomplete => ?_
        split
        · exact Prog.performsS_pure _
        · split
          · exact Prog.performsS_pure _
          · refine Prog.performsS_bind
              ((watching_monitorMark deps _ _ _).mono fun _ => exiting_of_watching) fun mark => ?_
            split
            · exact Prog.performsS_pure _
            · refine Prog.performsS_bind
                ((watching_saveMark _ _ _).mono fun _ => exiting_of_watching) fun saved => ?_
              split
              · exact exiting_monitorExit deps _ _ _ _ _ _
              · exact Prog.performsS_pure _

/-- A tick of the monitor reserves no entry. -/
theorem noEntry_monitorTick : Prog.PerformsS NoEntry (monitorTick deps) :=
  Prog.performsS_bind (Prog.performsS_lift
      ((background_reconcileStaleOrders deps).mono fun _ => Background.noEntry)) fun _ =>
    Prog.performsS_bind (performs_monitorOrStop (performs_call rfl)) fun _ =>
    Prog.performsS_bind (Prog.performsS_modify _) fun _ =>
    Prog.performsS_bind (performs_monitorOrStop (performs_call rfl)) fun _ =>
    Prog.performsS_bind (performs_monitorOrStop (performs_call rfl)) fun _ =>
    Prog.performsS_bind Prog.performsS_get fun _ =>
    Prog.performsS_bind (Prog.performsS_lift (performs_call rfl)) fun _ =>
    Prog.performsS_foldlM _ (fun _ mint => (exiting_monitorPosition deps mint).mono fun _ h => h.1) _

/-- The exit monitor reserves no entry. -/
theorem noEntry_runMonitor (ticks : ℕ) : (runMonitor deps ticks).Performs NoEntry := by
  unfold runMonitor
  generalize (⟨Table.empty _, Portfolio.empty⟩ : MonitorState) = s
  induction ticks generalizing s with
  | zero => trivial
  | succ n ih => exact Prog.performs_bind (noEntry_monitorTick deps s) fun r => ih r.2

/-! ### The operator's exit -/

/-- The attempt of an exit reserves no entry. -/
theorem exiting_attemptExit (mint : String) (remaining : UInt64) (reason : String) :
    Prog.PerformsS Exiting (attemptExit deps mint remaining reason) := by
  refine Prog.performsS_bind Prog.performsS_get fun s => ?_
  split
  · exact Prog.performsS_pure _
  · refine Prog.performsS_bind Prog.performsS_get fun s =>
      Prog.performsS_bind (performsS_look (exiting_executeExitOrder deps _ _ _)) fun r =>
      Prog.performsS_bind (Prog.performsS_modify _) fun _ => ?_
    split
    · exact Prog.performsS_modify _
    · exact performs_countFailure fun _ => ⟨rfl, rfl⟩
    · exact Prog.performsS_pure _
    · exact Prog.performsS_pure _

/-- The operator's exit of one position reserves no entry. -/
theorem exiting_exitPosition (balances : List TokenBalance) (exited : ℕ) (mint : String) :
    Prog.PerformsS Exiting (exitPosition deps balances exited mint) := by
  refine Prog.performsS_bind Prog.performsS_get fun s => ?_
  split
  · exact Prog.performsS_pure _
  · split
    · exact Prog.performsS_pure _
    · split
      · exact Prog.performsS_pure _
      · refine Prog.performsS_bind (performsS_orStop (performs_call ⟨rfl, rfl⟩)) fun incomplete => ?_
        split
        · exact Prog.performsS_pure _
        · exact Prog.performsS_bind (exiting_attemptExit deps _ _ _) fun _ => Prog.performsS_pure _

/-- The operator's exit of all positions reserves no entry. -/
theorem exiting_exitAllPositions : (exitAllPositions deps).Performs Exiting := by
  refine Prog.performs_bind (performs_call ⟨rfl, rfl⟩) fun stored => ?_
  split
  · trivial
  · refine Prog.performs_bind (performs_call ⟨rfl, rfl⟩) fun _ => Prog.performs_bind ?_ fun balances =>
      Prog.performs_bind ?_ fun _ => trivial
    · unfold fetchBalances
      split
      · split
        · trivial
        · refine Prog.performs_bind (performs_call ⟨rfl, rfl⟩) fun answer => ?_
          split <;> trivial
      · trivial
    · exact Prog.performsS_foldlM _ (fun exited mint => exiting_exitPosition deps balances exited mint)
        _ _

end Tasks

/-! ## A tick of a halted session -/

section Tick

variable (deps : Deps) {env : ℕ → Env × (Db → Db)}

/-- The others release no interlock. -/
abbrev OthersKeepInterlocks (e : Env × (Db → Db)) (_ : Op) (db : Db) : Prop :=
  InterlocksKept db (e.2 db)

/-- A triple of a session over a halted store: its operations reserve no entry. -/
abbrev HaltedTriple {α : Type} (env : ℕ → Env × (Db → Db)) (P : SessionState → Db → Prop)
    (p : Session α) (Q : α → SessionState → Db → Prop) : Prop :=
  Prog.Triple world.among env OthersKeepInterlocks (fun _ o _ => NoEntry o) P p Q fun _ => Halted

/-- The session knows that entries are halted. -/
def Stopped (s : SessionState) : Prop :=
  s.emergencyActive = true ∨ s.risk.killSwitch.tripped = true

/-- An operation among others leaves a halted store halted. -/
theorem halted_step {i : ℕ} {o : Op} {db : Db} (hothers : OthersKeepInterlocks (env i) o db)
    (h : Halted db) : Halted (world.among.exec (env i) o db).2 :=
  (interlocksKept_exec _ o _).halted (hothers.halted h)

/-- A part of a session that reserves no entry runs halted. -/
theorem halted_of_noEntry {α : Type} {p : Session α} (hp : Prog.PerformsS NoEntry p) :
    HaltedTriple env (fun _ => Halted) p fun _ _ => Halted :=
  Prog.triple_of_performs hp fun _ _ _ ho hothers h => ⟨ho, halted_step hothers h⟩

/-- A stop that is engaged is read, or the latch is there; a stop that cannot be read counts. -/
theorem halted_readEmergencyStop :
    HaltedTriple env (fun _ => Halted) readEmergencyStop fun _ s db =>
      Halted db ∧ (s.emergencyActive = true ∨ Latched db) := by
  refine Prog.triple_bind (M := fun answer _ db => Halted db ∧
    (answer = .ok none → Latched db)) (Prog.triple_lift fun s => Prog.task_perform ?_) fun answer => ?_
  · intro i db h hothers
    refine ⟨rfl, halted_step hothers h, fun hanswer => ?_⟩
    rcases hothers.halted h with hstop | hlatch
    · simp only [Machine.among_exec] at hanswer
      unfold world exec statement at hanswer
      dsimp only at hanswer
      cases hfault : (env i).1.fault with
      | some msg =>
          rw [hfault] at hanswer
          cases hanswer
      | none =>
          rw [hfault] at hanswer
          dsimp only at hanswer
          rw [Except.ok.inj hanswer] at hstop
          cases hstop
    · exact latched_exec _ _ hlatch
  · split
    · exact Prog.triple_modify fun _ _ hs => ⟨hs.1, .inl rfl⟩
    · exact Prog.triple_modify fun _ _ hs => ⟨hs.1, .inr (hs.2 rfl)⟩
    · exact Prog.triple_modify fun _ _ hs => ⟨hs.1, .inl rfl⟩

/-- A latch that is there is read, or the tick ends. -/
theorem halted_readKillSwitch :
    HaltedTriple env (fun s db => Halted db ∧ (s.emergencyActive = true ∨ Latched db)) readKillSwitch
      fun _ s db => Halted db ∧ Stopped s := by
  refine Prog.triple_bind (M := fun answer s db => Halted db ∧
    (s.emergencyActive = true ∨ answer.isSome = true)) ?_ fun answer => ?_
  · refine triple_orStop fun s => Prog.task_perform ?_
    rintro i db ⟨h, hknown⟩ hothers
    refine ⟨rfl, ?_⟩
    simp only [Machine.among_exec]
    unfold world exec statement
    dsimp only
    cases (env i).1.fault with
    | some msg => exact hothers.halted h
    | none =>
        refine ⟨hothers.halted h, hknown.imp_right fun hlatch => ?_⟩
        exact hothers.latched hlatch
  · cases answer with
    | none =>
        refine Prog.triple_pure fun _ _ hs => ⟨hs.1, hs.2.imp_right fun hsome => ?_⟩
        cases hsome
    | some reason => exact Prog.triple_modify fun _ _ hs => ⟨hs.1, .inr rfl⟩

/-- The emergency flag of a session is left alone by its quiet parts. -/
theorem leftAlone_emergencyActive : LeftAlone SessionState.emergencyActive :=
  ⟨fun _ _ => rfl, fun _ _ => rfl, fun _ _ => rfl, fun _ _ => rfl⟩

/-- A part of a tick that leaves both flags of a stopped session alone. -/
theorem halted_stopped {α : Type} {p : Session α} (hp : Prog.PerformsS NoEntry p)
    (hemergency : KeepsField world.among env SessionState.emergencyActive true p)
    (htripped : Keeps world.among env Unrestricted (fun r _ => r.killSwitch.tripped = true)
      (fun s _ => s.risk.killSwitch.tripped = true) p) :
    HaltedTriple env (fun s db => Halted db ∧ Stopped s) p fun _ s db => Halted db ∧ Stopped s := by
  have hstopped := (Prog.Triple.or hemergency htripped).guaranteeing
    (R := OthersKeepInterlocks) (G := fun _ o _ => NoEntry o) (fun _ _ _ _ => trivial) hp
    fun _ _ _ ho => ho
  exact ((halted_of_noEntry hp).and hstopped).conseq (fun _ _ hs => hs) (fun _ _ _ hs => hs)
    fun _ _ hs => hs.1

/-- What every move of the risk engine keeps. -/
theorem run_tripped : RunInvariant world.among env Unrestricted
    (fun s _ => s.risk.killSwitch.tripped = true) (fun s _ => s.risk.killSwitch.tripped = true) deps :=
  (sessionInvariant_of_moves world.among env Unrestricted
    (I := fun r => r.killSwitch.tripped = true) (fun _ _ hmove ht => hmove.tripped ht) deps).run

/-- After its reads a session of a halted store is stopped. -/
theorem halted_prepareTick (now : Time) :
    HaltedTriple env (fun _ => Halted) (prepareTick deps now) fun _ s db => Halted db ∧ Stopped s := by
  have hbackground : ∀ {α : Type} {p : Session α}, Prog.PerformsS Background p →
      HaltedTriple env (fun _ => Halted) p fun _ _ => Halted :=
    fun hp => halted_of_noEntry (hp.mono fun _ => Background.noEntry)
  exact Prog.triple_bind (Prog.triple_modify fun _ _ hs => hs) fun _ =>
    Prog.triple_bind (hbackground (background_refreshSolPrice deps now)) fun _ =>
    Prog.triple_bind (hbackground (background_periodicReconciliation deps)) fun _ =>
    Prog.triple_bind (hbackground (performsS_look (background_reconcilePendingOrders deps))) fun _ =>
    Prog.triple_bind halted_readEmergencyStop fun _ =>
    Prog.triple_bind halted_readKillSwitch fun _ => Prog.triple_modify fun _ _ hs => hs

/-- A halted store stops the session before the equity is marked. -/
theorem halted_beforeMarking :
    HaltedTriple env (fun _ => Halted) (beforeMarking deps) fun _ s db => Halted db ∧ Stopped s := by
  have hprepared : HaltedTriple env (fun _ => Halted) (beforeIngestion deps)
      fun _ s db => Halted db ∧ Stopped s :=
    Prog.triple_bind (halted_of_noEntry (performsS_look (performs_call rfl))) fun now =>
      Prog.triple_bind (halted_prepareTick deps now) fun _ => Prog.triple_pure fun _ _ hs => hs
  refine Prog.triple_bind hprepared fun now => ?_
  refine halted_stopped ((background_ingestion deps now).mono fun _ => Background.noEntry) ?_
    (preserves_ingestion (run_tripped deps).toQuietInvariant deps now)
  exact keepsField_bind (keepsField_ingestFeed leftAlone_emergencyActive deps now) fun _ =>
    keepsField_ingestWalletMonitor leftAlone_emergencyActive deps now

/-- A session on a halted store is stopped when it comes to the entries. -/
theorem halted_beforeEntries :
    HaltedTriple env (fun _ => Halted) (beforeEntries deps) fun _ s db => Halted db ∧ Stopped s := by
  have hmarking : HaltedTriple env (fun s db => Halted db ∧ Stopped s) (markEquity deps)
      fun _ s db => Halted db ∧ Stopped s :=
    halted_stopped ((exitStage_markEquity deps).mono fun _ ho => ho.1)
      (keepsField_markEquity leftAlone_emergencyActive deps) (run_tripped deps).equity
  have hexits : HaltedTriple env (fun s db => Halted db ∧ Stopped s) (processExits deps)
      fun _ s db => Halted db ∧ Stopped s :=
    halted_stopped ((exitStage_processExits deps).mono fun _ ho => ho.1)
      (keepsField_processExits leftAlone_emergencyActive deps)
      (preserves_processExits (run_tripped deps).toTickInvariant)
  unfold beforeEntries
  rw [beforeExits_eq]
  exact Prog.triple_bind (Prog.triple_bind (halted_beforeMarking deps) fun _ => hmarking)
    fun _ => hexits

/-- A stopped session makes no entries. -/
theorem halted_makeEntries :
    HaltedTriple env (fun s db => Halted db ∧ Stopped s) (makeEntries deps) fun _ _ => Halted := by
  refine Prog.triple_bind (M := fun entering _ db => entering = false ∧ Halted db)
    (Prog.triple_get_bind fun s => ?_) fun entering => ?_
  · split
    · exact Prog.triple_pure fun _ _ hs => ⟨rfl, hs.2.1⟩
    · rename_i hgate
      rintro i l db ⟨rfl, -, hstopped⟩
      rw [Bool.or_eq_true] at hgate
      exact absurd hstopped hgate
  · cases entering with
    | false => exact Prog.triple_pure fun _ _ hs => hs.2
    | true => exact fun _ _ _ hs => absurd hs.1 (by decide)

/-- A tick on a halted store reserves no entry. -/
theorem halted_tick : HaltedTriple env (fun _ => Halted) (tick deps) fun _ _ => Halted := by
  rw [tick_eq_entries]
  exact Prog.triple_bind (halted_beforeEntries deps) fun _ => halted_makeEntries deps

/-- No tick on a halted store reserves one. -/
theorem halted_sessionTicks (n : ℕ) :
    HaltedTriple env (fun _ => Halted) (sessionTicks deps n) fun _ _ => Halted := by
  induction n with
  | zero => exact Prog.triple_pure fun _ _ hs => hs
  | succ n ih =>
      rw [sessionTicks_succ]
      exact Prog.triple_bind (Prog.triple_caught (halted_tick deps)
        (halted_of_noEntry noEntry_persistSessionState)) fun _ => ih

/-- The rest of a session, from a begin of a tick on. -/
def sessionRest (n : ℕ) : Session Unit := do
  sessionTicks deps n
  finalReconciliation deps

/-- The rest of a session on a halted store reserves none. -/
theorem halted_sessionRest (n : ℕ) :
    HaltedTriple env (fun _ => Halted) (sessionRest deps n) fun _ _ => Halted :=
  Prog.triple_bind (halted_sessionTicks deps n) fun _ =>
    halted_of_noEntry ((background_finalReconciliation deps).mono fun _ => Background.noEntry)

/-- A session that starts on a halted store reserves none. -/
theorem halted_sessionBody (ticks : ℕ) :
    HaltedTriple env (fun _ => Halted) (sessionBody deps ticks) fun _ _ => Halted := by
  rw [sessionBody_eq]
  exact Prog.triple_bind
    (halted_of_noEntry ((background_sessionStart deps).mono fun _ => Background.noEntry))
    fun _ => halted_sessionRest deps ticks

end Tick

/-! ## Every interleaving -/

/-- A task that has not begun, or a session between two ticks. -/
inductive BetweenTicks : Model.Task Unit → Prop
  | task {t : Model.Task Unit} (h : IsTask t) : BetweenTicks t
  | session (deps : Deps) (n : ℕ) (s : SessionState) :
      BetweenTicks (do let _ ← (sessionRest deps n).run.run s; return ())

/-- A task relies on nobody releasing an interlock, and reserves no entry. -/
theorem BetweenTicks.ensures {t : Model.Task Unit} (h : BetweenTicks t) {db : Db} (hdb : Halted db) :
    t.Ensures world InterlocksKept (fun _ o _ => NoEntry o) db := by
  have hquiet : ∀ {t : Model.Task Unit}, t.Performs NoEntry →
      t.Ensures world InterlocksKept (fun _ o _ => NoEntry o) db :=
    fun hp => Prog.ensures_of_performs hp (fun _ _ _ ho => ho) db
  cases h with
  | task h =>
      cases h with
      | session deps ticks =>
          refine Prog.ensures_of_task (P := Halted) (Q := fun _ _ => True) (fun env => ?_) hdb
          refine Prog.task_bind (M := fun _ => Halted)
            (Prog.task_perform fun i db hs hothers => ⟨rfl, halted_step hothers hs⟩) fun stored => ?_
          split
          · exact Prog.task_done fun _ _ => trivial
          · exact Prog.task_bind ((halted_sessionBody deps ticks).task _) fun _ =>
              Prog.task_done fun _ _ => trivial
      | exitMonitor deps ticks => exact hquiet (noEntry_runMonitor deps ticks)
      | exitAllPositions deps =>
          exact hquiet (Prog.performs_bind ((exiting_exitAllPositions deps).mono fun _ h => h.1)
            fun _ => trivial)
      | reconciliation deps =>
          exact hquiet (Prog.performs_bind (noEntry_runReconciliation deps) fun _ => trivial)
  | session deps n s =>
      refine Prog.ensures_of_task (P := Halted) (Q := fun _ _ => True) (fun env => ?_) hdb
      exact Prog.task_bind ((halted_sessionRest deps n).task s) fun _ =>
        Prog.task_done fun _ _ => trivial

/-- A command of the operator on the interlocks, with what it meets. -/
inductive InterlockCommand where
  | emergencyStop (setup : Except String Unit) (fault reason : Option String)
  | clearEmergencyStop (setup : Except String Unit) (fault : Option String)

namespace InterlockCommand

/-- What the command does to the store. -/
def act : InterlockCommand → Db → Db
  | .emergencyStop setup fault reason, db => (emergencyStopCommand setup fault reason db).2
  | .clearEmergencyStop setup fault, db => (clearEmergencyStopCommand setup fault db).2

/-- The command clears the emergency stop: its statement is reached, and does not fail. -/
def Clears : InterlockCommand → Prop
  | .clearEmergencyStop (.ok ()) none => True
  | _ => False

/-- A command leaves the store alone, engages the stop, or clears it. -/
theorem act_cases (c : InterlockCommand) (db : Db) :
    c.act db = db ∨ (∃ reason, c.act db = db.setEmergencyStop reason) ∨
      c.Clears ∧ c.act db = db.clearEmergencyStop := by
  cases c with
  | emergencyStop setup fault reason =>
      rcases statementCommand_cases setup fault
        (fun db => db.setEmergencyStop (reason.getD "operator halt")) db with ⟨e, hrun⟩ | ⟨-, -, hrun⟩
      · exact .inl (congrArg Prod.snd hrun)
      · exact .inr (.inl ⟨_, congrArg Prod.snd hrun⟩)
  | clearEmergencyStop setup fault =>
      rcases statementCommand_cases setup fault Db.clearEmergencyStop db with
        ⟨e, hrun⟩ | ⟨rfl, rfl, hrun⟩
      · exact .inl (congrArg Prod.snd hrun)
      · exact .inr (.inr ⟨trivial, congrArg Prod.snd hrun⟩)

/-- A command other than one that clears the stop releases no interlock. -/
theorem interlocksKept_act (c : InterlockCommand) (hc : ¬ c.Clears) (db : Db) :
    InterlocksKept db (c.act db) := by
  obtain hsame | ⟨reason, hset⟩ | ⟨hclears, -⟩ := c.act_cases db
  · rw [hsame]
    exact .refl db
  · rw [hset]
    exact ⟨fun hlatched => hlatched, fun _ => .inl rfl⟩
  · exact absurd hclears hc

/-- A latched kill switch stays latched, whatever the operator does. -/
theorem latched_act (c : InterlockCommand) {db : Db} (h : Latched db) : Latched (c.act db) := by
  obtain hsame | ⟨reason, hset⟩ | ⟨-, hclear⟩ := c.act_cases db
  · rwa [hsame]
  · rw [hset]
    exact h
  · rw [hclear]
    exact h

end InterlockCommand

/-- What happens to a bot: turns of its tasks, and the operator's commands on the interlocks. -/
abbrev BotHistory := List (Happening Env InterlockCommand)

/-- The store is halted throughout what is still to happen: the kill switch is latched, or the stop is
engaged and never cleared. -/
def HaltedFor (history : BotHistory) (db : Db) : Prop :=
  Latched db ∨ db.emergencyStop.isSome = true ∧ ∀ c, .outside c ∈ history → ¬ c.Clears

/-- The store is halted. -/
theorem HaltedFor.halted {history : BotHistory} {db : Db} (h : HaltedFor history db) : Halted db := by
  rcases h with hlatched | ⟨hstop, -⟩
  · exact .inr hlatched
  · exact .inl hstop

/-- A move that releases no interlock keeps the store halted. -/
theorem HaltedFor.later {happening : Happening Env InterlockCommand} {history : BotHistory} {db db' : Db}
    (h : HaltedFor (happening :: history) db) (hmove : InterlocksKept db db') :
    HaltedFor history db' := by
  rcases h with hlatched | ⟨hstop, hclears⟩
  · exact .inl (hmove.latched hlatched)
  · rcases hmove.halted (.inl hstop) with hstop' | hlatched'
    · exact .inr ⟨hstop', fun c hc => hclears c (List.mem_cons_of_mem _ hc)⟩
    · exact .inl hlatched'

/-- A command of the operator releases no interlock of a halted store. -/
theorem HaltedFor.interlocksKept_act {c : InterlockCommand} {history : BotHistory} {db : Db}
    (h : HaltedFor (.outside c :: history) db) : InterlocksKept db (c.act db) := by
  rcases h with hlatched | ⟨-, hclears⟩
  · have hlatched' := c.latched_act hlatched
    exact ⟨fun _ => hlatched', fun _ => .inr hlatched'⟩
  · exact c.interlocksKept_act (hclears c List.mem_cons_self) db

/-- **A halted bot makes no entries.** Once an interlock is engaged, no session reserves an entry from
its next tick on, in any interleaving with the other tasks and the operator's commands, whatever fails
and whatever the outside world answers, until the operator clears the emergency stop; a latched kill
switch halts the bot whatever the operator does. -/
theorem halted_reserves_no_entry (bot : Bot) (history : BotHistory)
    (htasks : ∀ t ∈ bot.procs, BetweenTicks t) (hhalted : HaltedFor history bot.shared) :
    bot.MeetsAmong world InterlockCommand.act (fun _ o _ => reservesEntry o = false) history ∧
      Halted (bot.runAmong world InterlockCommand.act history).shared := by
  have hensures : bot.Ensures world InterlocksKept fun _ o _ => NoEntry o :=
    fun t ht => (htasks t ht).ensures hhalted.halted
  have hkept : ∀ e o db, NoEntry o → InterlocksKept db (world.exec e o db).2 :=
    fun e o db _ => interlocksKept_exec e o db
  obtain ⟨hmeets, hend⟩ := Pool.meetsAmong_of_ensures InterlocksKept.refl InterlocksKept.trans hkept
    (fun _ _ _ _ h hmove => h.later hmove)
    (fun _ _ _ h => ⟨h.interlocksKept_act, h.later h.interlocksKept_act⟩) hensures hhalted
  exact ⟨hmeets, hend.halted⟩

/-- A bot with a feed, and the operator's exit from all positions. -/
def feedBot (db : Db) : Bot :=
  ⟨db, [runSession feedDeps 2, do let _ ← exitAllPositions feedDeps; return ()]⟩

/-- The turns of the session of a bot with a tradable record in its feed. -/
def feedTurns (operations : ℕ) : BotHistory :=
  List.replicate operations (.turn ⟨0, feedEnv [tradableRecord]⟩)

/-- The store after the operator's command. -/
def stoppedDb : Db := (emergencyStopCommand (.ok ()) none none Db.new).2

/-- The operator's attempt to clear the stop, which may fail. -/
def clearing (fault : Option String) : BotHistory := [.outside (.clearEmergencyStop (.ok ()) fault)]

/-- The bot would buy the record in its feed, but the operator has stopped it; it buys when the stop is
cleared, but not if the clearing fails. -/
theorem halted_reserves_no_entry_sample :
    ((feedBot stoppedDb).MeetsAmong world InterlockCommand.act (fun _ o _ => reservesEntry o = false)
        (clearing (some "locked") ++ feedTurns 80) ∧
      Halted ((feedBot stoppedDb).runAmong world InterlockCommand.act
        (clearing (some "locked") ++ feedTurns 80)).shared) ∧
      ¬ (feedBot stoppedDb).MeetsAmong world InterlockCommand.act
        (fun _ o _ => reservesEntry o = false) (clearing none ++ feedTurns 80) := by
  refine ⟨halted_reserves_no_entry (feedBot stoppedDb) _ (fun t ht => ?_) (.inr ⟨rfl, ?_⟩), ?_⟩
  · simp only [feedBot, List.mem_cons, List.not_mem_nil, or_false] at ht
    rcases ht with rfl | rfl
    · exact .task (.session _ _)
    · exact .task (.exitAllPositions _)
  · intro c hc
    have hclear : c = .clearEmergencyStop (.ok ()) (some "locked") := by
      simpa [clearing, feedTurns] using hc
    rw [hclear]
    exact fun h => h
  · decide +kernel

end SolanaBot.Analysis
