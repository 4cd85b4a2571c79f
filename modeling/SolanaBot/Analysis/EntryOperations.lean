import SolanaBot.Analysis.SessionParts

/-!
# Where entries are reserved

The only part of a session that asks for the reservation of an entry is the end of a tick: no exit
and no persistence does, and the start of a session and of a tick run in the background of what
follows.
-/

set_option autoImplicit false

namespace SolanaBot.Analysis

open SolanaBot.Library SolanaBot.Model

/-- The operations of the stage of exits: they reserve no entry and leave the quotes of the executor
alone. -/
abbrev ExitStage (o : Op) : Prop := NoEntry o ∧ KeepsQuotes o

/-- A look that only watches may stand in the exit stage. -/
theorem exitStage_look {α : Type} {t : Model.Task α} (h : t.Performs Watching) :
    Prog.PerformsS ExitStage (look t) :=
  performsS_look (h.mono fun _ ho => ⟨ho.1.noEntry, ho.2.1⟩)

section Exits

/-- No position is written but the one of the mint, by its fill. -/
def LeavesOthers (mint : String) : Op → Prop
  | .savePosition .. => False
  | .fillTransaction t => t.mint = mint
  | _ => True

/-- The operations of an exit order of the mint. -/
def ExitOp (mint : String) : Op → Prop
  | .now | .newUuid | .positions | .incompleteOrders | .orders | .quote .. | .updateOrder ..
  | .execute _ => True
  | .reserveOrder _ o => o.kind = .exit
  | .fillTransaction t => t.mint = mint
  | _ => False

/-- What an exit performs reserves no entry. -/
theorem ExitOp.noEntry {mint : String} {o : Op} (h : ExitOp mint o) : NoEntry o := by
  cases o with
  | reserveOrder seen order =>
      have hkind : order.kind = .exit := h
      exact decide_eq_false (by rw [hkind]; exact OrderKind.noConfusion)
  | _ => rfl

/-- It writes no position of another mint. -/
theorem ExitOp.leavesOthers {mint : String} {o : Op} (h : ExitOp mint o) : LeavesOthers mint o := by
  cases o with
  | savePosition basis p => exact h
  | fillTransaction t => exact h
  | _ => trivial

/-- It registers no quote. -/
theorem ExitOp.keepsQuotes {mint : String} {o : Op} (h : ExitOp mint o) : KeepsQuotes o := by
  cases o with
  | registerQuote q => exact h.elim
  | _ => rfl

/-- The operation asks for no reservation. -/
def Settling : Op → Prop
  | .reserveOrder .. => False
  | _ => True

/-- From its reservation on, an exit order asks for no other. -/
theorem performs_submitExit (deps : Deps) (order : OrderRecord) (terms : ExitTerms)
    (remaining : UInt64) (stored : Option Position) (mint reason : String) (pf : Portfolio) :
    (submitExit deps order terms remaining stored mint reason pf).Performs fun o =>
      ExitOp mint o ∧ Settling o := by
  have hlogged : ∀ {α : Type} (copy o : OrderRecord) (a : α),
      (updateOrderLogged copy o >>= fun _ => pure a : Model.Task α).Performs fun o =>
        ExitOp mint o ∧ Settling o :=
    fun copy o a => Prog.performs_bind
      (Prog.performs_bind (performs_call ⟨trivial, trivial⟩) fun _ => trivial) fun _ => trivial
  refine Prog.performs_bind (performs_call ⟨trivial, trivial⟩) fun quote => ?_
  split
  · exact hlogged _ _ _
  · split
    · exact hlogged _ _ _
    · refine Prog.performs_bind
        (Prog.performs_bind (performs_call ⟨trivial, trivial⟩) fun _ => trivial) fun _ =>
        Prog.performs_bind (performs_call ⟨trivial, trivial⟩) fun answer => ?_
      split
      · refine Prog.performs_bind (performs_call ⟨trivial, trivial⟩) fun now =>
          Prog.performs_bind (performs_call ⟨rfl, trivial⟩) fun answer => ?_
        split
        · exact Prog.performs_bind (performs_call ⟨trivial, trivial⟩) fun _ => trivial
        · exact hlogged _ _ _
      · exact hlogged _ _ _
      · exact hlogged _ _ _

/-- An exit performs operations of an exit of its mint. -/
theorem performs_executeExitOrder (deps : Deps) (mint reason : String) (pf : Portfolio) :
    (executeExitOrder deps mint reason pf).Performs (ExitOp mint) := by
  refine Prog.performs_bind (performs_call trivial) fun now =>
    Prog.performs_bind (performs_call trivial) fun stored => ?_
  split
  · trivial
  · split
    · trivial
    · refine Prog.performs_bind (performs_call trivial) fun incomplete => ?_
      split
      · trivial
      · split
        · trivial
        · split
          · trivial
          · refine Prog.performs_bind (performs_call trivial) fun orders => ?_
            split
            · trivial
            · split
              · trivial
              · refine Prog.performs_bind (performs_call trivial) fun id =>
                  Prog.performs_bind (performs_call rfl) fun reserved => ?_
                split
                · trivial
                · trivial
                · exact (performs_submitExit _ _ _ _ _ _ _ _).mono fun _ h => h.1

/-- An exit may stand in the exit stage. -/
theorem exitStage_executeExitOrder (deps : Deps) (mint reason : String) (pf : Portfolio) :
    (executeExitOrder deps mint reason pf).Performs ExitStage :=
  (performs_executeExitOrder deps mint reason pf).mono fun _ h => ⟨h.noEntry, h.keepsQuotes⟩

/-- Counting a failure latches the kill switch at most. -/
theorem performs_countFailure {S : Op → Prop} (hlatch : ∀ r, S (.latchKillSwitch r)) :
    Prog.PerformsS S countFailure := by
  refine Prog.performsS_bind Prog.performsS_get fun s =>
    Prog.performsS_bind (Prog.performsS_modify _) fun _ => ?_
  split
  · exact performsS_orStop (performs_call (hlatch _))
  · exact Prog.performsS_pure _

/-- Counting a failure may stand in the exit stage. -/
theorem exitStage_countFailure : Prog.PerformsS ExitStage countFailure :=
  performs_countFailure fun _ => ⟨rfl, rfl⟩

/-- The attempt of an exit may stand there. -/
theorem exitStage_attemptExit (deps : Deps) (mint : String) (remaining : UInt64) (reason : String) :
    Prog.PerformsS ExitStage (attemptExit deps mint remaining reason) := by
  refine Prog.performsS_bind Prog.performsS_get fun s => ?_
  split
  · exact Prog.performsS_pure _
  · refine Prog.performsS_bind Prog.performsS_get fun s =>
      Prog.performsS_bind (performsS_look (exitStage_executeExitOrder _ _ _ _)) fun r =>
      Prog.performsS_bind (Prog.performsS_modify _) fun _ => ?_
    split
    · exact Prog.performsS_modify _
    · exact exitStage_countFailure
    · exact Prog.performsS_pure _
    · exact Prog.performsS_pure _

/-- The exit stage performs what it may. -/
theorem exitStage_processExits (deps : Deps) : Prog.PerformsS ExitStage (processExits deps) := by
  refine Prog.performsS_bind Prog.performsS_get fun s =>
    Prog.performsS_bind (performsS_look (performs_call ⟨rfl, rfl⟩)) fun mints =>
    Prog.performsS_foldlM _ (fun _ mint => ?_) _
  refine Prog.performsS_bind Prog.performsS_get fun s => ?_
  split
  · exact Prog.performsS_pure _
  · split
    · exact Prog.performsS_pure _
    · refine Prog.performsS_bind (performsS_orStop (performs_call ⟨rfl, rfl⟩)) fun incomplete => ?_
      split
      · exact Prog.performsS_pure _
      · split
        · refine Prog.performsS_bind (exitStage_look (watching_exitLiquidity _ _ _)) fun liquidity =>
            Prog.performsS_bind (exitStage_look (watching_signalInvalidated _)) fun invalidated =>
            Prog.performsS_bind (exitStage_look (watching_deriveMark _ _ _ _ _ _ _)) fun mark => ?_
          split
          · exact Prog.performsS_pure _
          · refine Prog.performsS_bind Prog.performsS_get fun s =>
              Prog.performsS_bind (Prog.performsS_modify _) fun _ => ?_
            split
            · exact Prog.performsS_throw _
            · refine Prog.performsS_bind (performsS_look (performs_call ⟨rfl, rfl⟩)) fun now => ?_
              split
              · exact Prog.performsS_pure _
              · exact exitStage_attemptExit _ _ _ _
        · exact Prog.performsS_pure _

end Exits

section Sessions

/-- Computing the amount of a candidate is background work. -/
theorem background_tokenAmount (c : CandidateInput) : Prog.PerformsS Background (tokenAmount c) := by
  refine Prog.performsS_bind (performsS_look (performs_call rfl)) fun n => ?_
  split
  · exact Prog.performsS_pure _
  · exact Prog.performsS_throw _

/-- Registering a quote is background work. -/
theorem background_registerQuote (deps : Deps) (c : CandidateInput) (tokens : UInt64)
    (impactBps : UInt32) (source : String) (now : Time) :
    Prog.PerformsS Background (registerQuote deps c tokens impactBps source now) :=
  Prog.performsS_bind (performsS_look (performs_call rfl)) fun _ => Prog.performsS_pure _

/-- A candidate of the feed is background work. -/
theorem background_ingestFeedCandidate (deps : Deps) (now : Time) (c : CandidateInput) :
    Prog.PerformsS Background (ingestFeedCandidate deps now c) := by
  refine Prog.performsS_bind (performsS_look (performs_call rfl)) fun _ => ?_
  split
  · exact Prog.performsS_pure _
  · split
    · exact Prog.performsS_pure _
    · split
      · refine Prog.performsS_bind (background_tokenAmount c) fun tokens =>
          Prog.performsS_bind (performsS_look (performs_call rfl)) fun impact => ?_
        split
        · exact Prog.performsS_throw _
        · exact background_registerQuote _ _ _ _ _ _
      · exact Prog.performsS_throw _

/-- A candidate of the wallet monitor is background work. -/
theorem background_ingestMonitorCandidate (deps : Deps) (now : Time) (c : CandidateInput) :
    Prog.PerformsS Background (ingestMonitorCandidate deps now c) := by
  refine Prog.performsS_bind (performsS_look (performs_call rfl)) fun _ =>
    Prog.performsS_bind Prog.performsS_get fun s => ?_
  split
  · exact Prog.performsS_pure _
  · split
    · exact Prog.performsS_pure _
    · split
      · refine Prog.performsS_bind (background_tokenAmount c) fun tokens =>
          Prog.performsS_bind (performsS_look (performs_call rfl)) fun impact => ?_
        split
        · exact Prog.performsS_pure _
        · exact background_registerQuote _ _ _ _ _ _
      · exact Prog.performsS_pure _

/-- The ingestion is background work. -/
theorem background_ingestion (deps : Deps) (now : Time) :
    Prog.PerformsS Background (ingestion deps now) := by
  refine Prog.performsS_bind ?_ fun _ => ?_
  · unfold ingestFeed
    split
    · exact Prog.performsS_pure _
    · exact Prog.performsS_bind (performsS_look (performs_call rfl)) fun cs =>
        Prog.performsS_bind
          (Prog.performsS_foldlM cs (fun _ c => background_ingestFeedCandidate deps now c) _)
          fun _ => Prog.performsS_modify _
  · refine Prog.performsS_bind Prog.performsS_get fun s => ?_
    split
    · refine Prog.performsS_bind (performsS_look (performs_call rfl)) fun answer => ?_
      split
      · exact Prog.performsS_pure _
      · exact Prog.performsS_bind
          (Prog.performsS_foldlM _ (fun _ c => background_ingestMonitorCandidate deps now c) _)
          fun _ => Prog.performsS_modify _
    · exact Prog.performsS_pure _

/-- Refreshing the price of SOL is background work. -/
theorem background_refreshSolPrice (deps : Deps) (now : Time) :
    Prog.PerformsS Background (refreshSolPrice deps now) := by
  refine Prog.performsS_bind Prog.performsS_get fun s => ?_
  split
  · refine Prog.performsS_bind (performsS_look (performs_call rfl)) fun answer => ?_
    split
    · split <;> exact Prog.performsS_modify _
    · exact Prog.performsS_modify _
  · exact Prog.performsS_pure _

/-- The reconciliation of a tick is background work. -/
theorem background_periodicReconciliation (deps : Deps) :
    Prog.PerformsS Background (periodicReconciliation deps) := by
  unfold periodicReconciliation
  split
  · refine Prog.performsS_bind (performsS_look (performs_call rfl)) fun t =>
      Prog.performsS_bind Prog.performsS_get fun s => ?_
    split
    · exact Prog.performsS_bind (performsS_look (background_reconcilePositionsOnchain deps)) fun _ =>
        Prog.performsS_bind (performsS_look (performs_call rfl)) fun _ => Prog.performsS_modify _
    · exact Prog.performsS_pure _
  · exact Prog.performsS_pure _

/-- Reading the kill switch is background work. -/
theorem background_readKillSwitch : Prog.PerformsS Background readKillSwitch := by
  refine Prog.performsS_bind (performsS_orStop (performs_call rfl)) fun reason => ?_
  cases reason with
  | none => exact Prog.performsS_pure _
  | some text => exact Prog.performsS_modify _

/-- The preparation of a tick is background work. -/
theorem background_prepareTick (deps : Deps) (now : Time) :
    Prog.PerformsS Background (prepareTick deps now) := by
  refine Prog.performsS_bind (Prog.performsS_modify _) fun _ =>
    Prog.performsS_bind (background_refreshSolPrice deps now) fun _ =>
    Prog.performsS_bind (background_periodicReconciliation deps) fun _ =>
    Prog.performsS_bind (performsS_look (background_reconcilePendingOrders deps)) fun _ =>
    Prog.performsS_bind ?_ fun _ =>
    Prog.performsS_bind background_readKillSwitch fun _ => Prog.performsS_modify _
  refine Prog.performsS_bind (performsS_look (performs_call rfl)) fun answer => ?_
  split <;> exact Prog.performsS_modify _

/-- What comes before the marking of the equity is background work. -/
theorem background_beforeMarking (deps : Deps) : Prog.PerformsS Background (beforeMarking deps) :=
  Prog.performsS_bind (Prog.performsS_bind (performsS_look (performs_call rfl)) fun now =>
    Prog.performsS_bind (background_prepareTick deps now) fun _ => Prog.performsS_pure _) fun now =>
    background_ingestion deps now

/-- Marking the equity reads and latches the kill switch, and does nothing else in the store. -/
theorem performsS_markEquity (deps : Deps) {S : Op → Prop} (hread : S .killSwitchReason)
    (hlatch : ∀ reason, S (.latchKillSwitch reason)) : Prog.PerformsS S (markEquity deps) := by
  refine Prog.performsS_bind Prog.performsS_get fun s =>
    Prog.performsS_bind (Prog.performsS_modify _) fun _ => Prog.performsS_bind ?_ fun _ =>
    Prog.performsS_modify _
  refine Prog.performsS_bind Prog.performsS_get fun s => ?_
  split
  · refine Prog.performsS_bind (performsS_orStop (performs_call hread)) fun reason => ?_
    cases reason with
    | none => exact performsS_orStop (performs_call (hlatch _))
    | some text => exact Prog.performsS_pure _
  · exact Prog.performsS_pure _

/-- Marking the equity may stand in the exit stage. -/
theorem exitStage_markEquity (deps : Deps) : Prog.PerformsS ExitStage (markEquity deps) :=
  performsS_markEquity deps ⟨rfl, rfl⟩ fun _ => ⟨rfl, rfl⟩

/-- A tick reserves no entry before it decides about entries. -/
theorem noEntry_beforeEntries (deps : Deps) : Prog.PerformsS NoEntry (beforeEntries deps) := by
  unfold beforeEntries
  rw [beforeExits_eq]
  exact Prog.performsS_bind (Prog.performsS_bind
    ((background_beforeMarking deps).mono fun _ => Background.noEntry) fun _ =>
    (exitStage_markEquity deps).mono fun _ ho => ho.1) fun _ =>
    (exitStage_processExits deps).mono fun _ ho => ho.1

/-- Storing the session's state reserves no entry. -/
theorem noEntry_persistSessionState : Prog.PerformsS NoEntry persistSessionState :=
  Prog.performsS_bind Prog.performsS_get fun _ =>
    Prog.performsS_bind (performsS_orStop (performs_call rfl)) fun _ =>
    Prog.performsS_bind (performsS_orStop (performs_call rfl)) fun _ =>
    performsS_orStop (performs_call rfl)

/-- A session runs in the background before its first tick. -/
theorem background_sessionStart (deps : Deps) : Prog.PerformsS Background (sessionStart deps) := by
  refine Prog.performsS_bind ?_ fun _ => Prog.performsS_bind ?_ fun _ =>
    Prog.performsS_bind background_readKillSwitch fun _ => Prog.performsS_bind ?_ fun _ =>
    Prog.performsS_bind ?_ fun _ => Prog.performsS_bind (performsS_look (performs_call rfl)) fun _ =>
    Prog.performsS_modify _
  · unfold startWalletMonitor
    split
    · refine Prog.performsS_bind (performsS_look (performs_call rfl)) fun answer => ?_
      split
      · exact Prog.performsS_modify _
      · exact Prog.performsS_pure _
    · exact Prog.performsS_pure _
  · refine Prog.performsS_bind (performsS_look (performs_call rfl)) fun now =>
      Prog.performsS_bind (Prog.performsS_modify _) fun _ =>
      Prog.performsS_bind (performsS_orStop (performs_call rfl)) fun storedDay =>
      Prog.performsS_bind (performsS_orStop (performs_call rfl)) fun storedStart =>
      Prog.performsS_bind (performsS_orStop (performs_call rfl)) fun storedTrades => ?_
    split
    · exact Prog.performsS_modify _
    · exact Prog.performsS_pure _
  · refine Prog.performsS_bind (performsS_orStop (performs_call rfl)) fun reason => ?_
    split
    · exact Prog.performsS_modify _
    · exact Prog.performsS_pure _
  · unfold startupReconciliation
    split
    · exact performsS_orStop (background_runReconciliation deps)
    · exact performsS_orStop (background_reconcilePendingOrders deps)

/-- A session runs in the background after its last tick. -/
theorem background_finalReconciliation (deps : Deps) :
    Prog.PerformsS Background (finalReconciliation deps) := by
  unfold finalReconciliation
  split
  · exact Prog.performsS_bind (performsS_look (background_reconcilePendingOrders deps)) fun _ =>
      Prog.performsS_pure _
  · exact Prog.performsS_pure _

end Sessions

/-! ## Entries -/

section Entries

variable {S : Op → Prop}

/-- The gate in front of the entries reads the incomplete orders only. -/
theorem performs_entryGate (deps : Deps) (hincomplete : S .incompleteOrders) :
    Prog.PerformsS S (entryGate deps) := by
  refine Prog.performsS_bind Prog.performsS_get fun s => ?_
  split
  · exact Prog.performsS_pure _
  · exact Prog.performsS_bind (performsS_orStop (performs_call hincomplete)) fun _ =>
      Prog.performsS_pure _

/-- The operations before the risk engine is asked. -/
theorem performs_beforeAuthorize (deps : Deps) (hnow : S .now) (huuid : S .newUuid)
    (hparse : ∀ d, S (.parseU64 d)) (hquote : ∀ i o a s, S (.quote i o a s)) (now : Time)
    (mint : String) : Prog.PerformsS S (beforeAuthorize deps now mint) := by
  refine Prog.performsS_bind Prog.performsS_get fun s => ?_
  split
  · exact Prog.performsS_pure _
  · refine Prog.performsS_bind Prog.performsS_get fun s => ?_
    split
    · exact Prog.performsS_pure _
    · refine Prog.performsS_bind (performsS_look (performs_call hnow)) fun t =>
        Prog.performsS_bind (performsS_look (performs_call huuid)) fun uuid => ?_
      split
      · exact Prog.performsS_pure _
      · refine Prog.performsS_bind Prog.performsS_get fun s => ?_
        split
        · exact Prog.performsS_pure _
        · refine Prog.performsS_bind (Prog.performsS_modify _) fun _ =>
            Prog.performsS_bind Prog.performsS_get fun s =>
            Prog.performsS_bind (performsS_look (performs_sizeEntry hparse _ _ _ _)) fun sized => ?_
          split
          · exact Prog.performsS_pure _
          · split
            · exact Prog.performsS_pure _
            · refine Prog.performsS_bind (performsS_look (performs_call (hquote _ _ _ _)))
                fun answer => ?_
              split <;> exact Prog.performsS_pure _

/-- The operations from the reservation on. -/
theorem performs_submitReserved (deps : Deps) (hupdate : ∀ copy o, S (.updateOrder copy o))
    (hexecute : ∀ r, S (.execute r)) (hfill : ∀ t, S (.fillTransaction t))
    (hlatch : ∀ r, S (.latchKillSwitch r)) (ctx : EntryContext) (order : OrderRecord) (quote : Quote)
    (reserved : Bool) : Prog.PerformsS S (submitReserved deps ctx order quote reserved) := by
  have hcount : Prog.PerformsS S countFailure := performs_countFailure hlatch
  unfold submitReserved
  split
  · refine Prog.performsS_bind (performsS_orStop (performs_call (hupdate _ _))) fun _ =>
      Prog.performsS_bind (performsS_look (performs_call (hexecute _))) fun answer => ?_
    split
    · refine Prog.performsS_bind Prog.performsS_get fun s =>
        Prog.performsS_bind (performsS_look (performs_call (hfill _))) fun answer => ?_
      split
      · refine Prog.performsS_bind (Prog.performsS_modify _) fun _ => ?_
        split
        · exact hcount
        · exact Prog.performsS_pure _
      · exact performsS_orStop (performs_call (hupdate _ _))
    · exact performsS_orStop (performs_call (hupdate _ _))
    · exact Prog.performsS_bind (performsS_orStop (performs_call (hupdate _ _))) fun _ => hcount
  · exact Prog.performsS_pure _

/-- What does not write settles nothing and is allowed while settling. -/
theorem settling_of_quiet (o : Op) (h : ¬ o.Writes) : Settling o := by
  cases o with
  | reserveOrder seen order => exact absurd trivial h
  | _ => trivial

/-- A turn writes nothing before its call of `authorize`. -/
theorem quiet_beforeAuthorize (deps : Deps) (now : Time) (mint : String) :
    Prog.PerformsS (fun o => ¬ o.Writes) (beforeAuthorize deps now mint) :=
  performs_beforeAuthorize deps id id (fun _ => id) (fun _ _ _ _ => id) now mint

/-- Submitting a reserved entry reserves no other one. -/
theorem settling_submitReserved (deps : Deps) (ctx : EntryContext) (order : OrderRecord)
    (quote : Quote) (reserved : Bool) :
    Prog.PerformsS Settling (submitReserved deps ctx order quote reserved) :=
  performs_submitReserved deps (fun _ _ => trivial) (fun _ => trivial) (fun _ => trivial)
    (fun _ => trivial) ctx order quote reserved

end Entries

/-! ## What is reserved -/

/-- The order that the operation reserves, if it does. -/
def reservation (e : Env) (o : Op) (db : Db) : List OrderRecord :=
  match o with
  | .reserveOrder _ order =>
      if e.fault.isNone && (db.reserveOrder order).1.toOption = some true then [order] else []
  | _ => []

/-- A settling operation records no reservation. -/
theorem reservation_of_settling {e : Env} {o : Op} {db : Db} (h : Settling o) :
    reservation e o db = [] := by
  cases o with
  | reserveOrder seen order => exact h.elim
  | _ => rfl

/-- A reservation is accepted if the order is complete and neither its identifier nor its key is
taken. -/
theorem reserveOrder_accepts_iff (db : Db) (o : OrderRecord) :
    (db.reserveOrder o).1.toOption = some true ↔ Db.checkOrder o = .ok () ∧
      db.orders.find? o.id = none ∧ ∀ r ∈ db.orders.rows, r.idempotencyKey ≠ o.idempotencyKey := by
  unfold Db.reserveOrder
  cases hcheck : Db.checkOrder o with
  | error e => exact ⟨fun h => (by cases h), fun h => (by cases h.1)⟩
  | ok u =>
      dsimp only
      split
      · rename_i htaken
        refine ⟨fun h => (by cases h), fun h => ?_⟩
        obtain ⟨-, hid, hkey⟩ := h
        rcases htaken with hsome | hany
        · rw [hid] at hsome
          cases hsome
        · obtain ⟨r, hr, heq⟩ := List.any_eq_true.mp hany
          exact absurd (of_decide_eq_true heq) (hkey r hr)
      · rename_i hfree
        refine ⟨fun _ => ⟨rfl, ?_, fun r hr heq => hfree (.inr ?_)⟩, fun _ => rfl⟩
        · cases hrow : db.orders.find? o.id with
          | none => rfl
          | some r => exact absurd (.inl (by rw [hrow]; rfl)) hfree
        · exact List.any_eq_true.mpr ⟨r, hr, decide_eq_true heq⟩

/-- The identifier that is drawn in the given environment. -/
def newId (e : Env) : String := e.answer .newUuid

end SolanaBot.Analysis
