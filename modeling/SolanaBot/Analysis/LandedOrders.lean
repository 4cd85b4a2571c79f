import SolanaBot.Analysis.FillLedger
import SolanaBot.Analysis.LandedSwaps
import SolanaBot.Analysis.ReconciledFills

/-!
# Landed orders and their reconciliation

One turn of either reconciler on an open order of a live executor whose transaction landed
and succeeded, whatever the RPC answers in accordance with that. The order is not moved to
`Failed`, `Dropped` or `Expired` exactly if none of four things happens (`GivenUp`): the
order has no signature and is old; its signature has no confirmed status and it is old; its
signature is confirmed, its transaction is not returned, and it is old; or its fill is found
and belongs to an entry whose position has no cost model (`landed_order_kept_iff`). The third
one contradicts the error text that is stored (`landed_order_expires`).
-/

set_option autoImplicit false

namespace SolanaBot.Analysis

open SolanaBot.Library SolanaBot.Model

/-! ## The history of the chain -/

/-- The answers to an order are in accordance with its landed transaction. -/
structure Landing.ExplainsOrder (chain : Landing) (order : OrderRecord) (env : ℕ → Env) : Prop where
  /-- The signature may be missing, when the reply to the submission was lost. -/
  signature : ∀ signature, order.signature = some signature → signature = chain.signature
  status : ∀ (i : ℕ) (status : SignatureStatus),
    (env i).answer (.signatureStatus chain.signature) = .ok (some status) → status.err = none
  transaction : ∀ (i : ℕ) (tx : Transaction),
    (env i).answer (.transaction chain.signature) = .ok (some tx) → tx = chain.transaction

/-- The states that say the order came to nothing. -/
def isAbandoned : OrderState → Bool
  | .failed | .dropped | .expired => true
  | _ => false

/-- The stored order is not in a state that says it came to nothing. -/
def KeptOpen (db : Db) (id : String) : Prop :=
  ∀ o, db.order id = some o → isAbandoned o.state = false

/-! ## The four ways to give up -/

/-- What is needed to look up the signature of an order. -/
structure Route where
  owner : String
  inputMint : String
  outputMint : String
  expectedInput : UInt64
deriving DecidableEq

/-- The route of an order, if its record and the executor have all of it. -/
def routeOf (deps : Deps) (order : OrderRecord) : Option Route :=
  match deps.signerPubkey, order.inputMint, order.outputMint, order.inputAmountAtomic with
  | some owner, some inputMint, some outputMint, some expectedInput =>
      some ⟨owner, inputMint, outputMint, expectedInput⟩
  | _, _, _, _ => none

/-- A confirmed or finalized status. -/
def isSeen (status : Except RpcError (Option SignatureStatus)) : Prop :=
  ∃ s, status = .ok (some s) ∧ s.isConfirmedOrFinalized

/-- A status that is not confirmed, or no status. -/
def isUnseen (status : Except RpcError (Option SignatureStatus)) : Prop :=
  status = .ok none ∨ ∃ s, status = .ok (some s) ∧ s.isConfirmedOrFinalized = false

/-- The statements of the transaction that sets a fill aside go through. -/
def UnfaultedAudit (faults : TxFaults) : Prop :=
  faults .begin = none ∧ faults .insertFill = none ∧ faults .updateOrder = none ∧
    faults .commit = none

/-- The turn of a reconciler gives up the order: by what the RPC answers, the age of the order,
and what is stored of its position. The last condition of each way is that the store takes the
write. -/
inductive GivenUp (deps : Deps) (order : OrderRecord) (age : Int) (env : ℕ → Env) (i : ℕ) (db : Db) :
    Prop where
  | unsubmitted (signature : order.signature = none)
      (old : age > seconds deps.config.rpc.unknownAfterSecs) (written : (env i).fault = none)
  | unseen (signature : String) (route : Route) (hsignature : order.signature = some signature)
      (hroute : routeOf deps order = some route)
      (status : isUnseen ((env i).answer (.signatureStatus signature)))
      (old : age > seconds deps.config.rpc.unknownAfterSecs) (written : (env (i + 1)).fault = none)
  | unindexed (signature : String) (route : Route) (hsignature : order.signature = some signature)
      (hroute : routeOf deps order = some route)
      (status : isSeen ((env i).answer (.signatureStatus signature)))
      (absent : (env (i + 1)).answer (.transaction signature) = .ok none)
      (old : age > seconds deps.config.rpc.unknownAfterSecs) (written : (env (i + 2)).fault = none)
  | unaccountable (signature : String) (route : Route) (tx : Transaction)
      (outcome : ChainSwapOutcome) (terms : ReconciledTerms)
      (hsignature : order.signature = some signature) (hroute : routeOf deps order = some route)
      (status : isSeen ((env i).answer (.signatureStatus signature)))
      (fetched : (env (i + 1)).answer (.transaction signature) = .ok (some tx))
      (swap : parseSwapTransaction tx route.inputMint route.outputMint route.owner
        route.expectedInput = .executed outcome)
      (kind : order.kind = .entry)
      (found : reconciledTerms order outcome (foundPosition (env (i + 2)) db order) = some terms)
      (costModel : terms.position.entryCostModel = none)
      (written : UnfaultedAudit (env (i + 2 + lookups order + 1)).txFaults)

/-! ## What is written -/

/-- An open order that is reported as abandoned is so. -/
theorem order_reported_state {o : OrderRecord} (h : o.state.isTerminal = false) {next : OrderState}
    (hnext : next = .failed ∨ next = .expired) (text : String) :
    (o.reported next text).state = next := by
  unfold OrderRecord.reported OrderRecord.transitionOrKeep OrderRecord.transition
  rcases hnext with rfl | rfl <;> cases hs : o.state <;>
    simp_all [OrderState.isTerminal, OrderState.canTransition]

/-- A reported state does not change the id. -/
theorem order_reported_id (o : OrderRecord) (next : OrderState) (text : String) :
    (o.reported next text).id = o.id := by
  obtain ⟨s, h, -⟩ := o.transitionOrKeep_spec next
  unfold OrderRecord.reported
  rw [h]

section

variable {order stored : OrderRecord} {db : Db}

/-- A report gives the order up exactly if the statement goes through. -/
theorem keptOpen_reportedDb (hopen : order.state.isTerminal = false)
    (hstored : db.order order.id = some stored) (hkept : isAbandoned stored.state = false)
    {next : OrderState} (hnext : next = .failed ∨ next = .expired) (text : String) (e : Env) :
    KeptOpen (reportedDb e order next text db) order.id ↔ ¬ e.fault = none := by
  unfold KeptOpen reportedDb
  cases e.fault with
  | some msg =>
      refine iff_of_true (fun o ho => ?_) nofun
      rw [hstored] at ho
      cases ho
      exact hkept
  | none =>
      refine iff_of_false (fun h => ?_) (fun h => h rfl)
      have hafter := h (order.reported next text) (by
        rw [Db.order_updateOrder, order_reported_id, if_pos rfl, hstored]
        rfl)
      rw [order_reported_state hopen hnext] at hafter
      rcases hnext with rfl | rfl <;> cases hafter

/-- A stored order that is not abandoned is kept open. -/
theorem keptOpen_same (hstored : db.order order.id = some stored)
    (hkept : isAbandoned stored.state = false) : KeptOpen db order.id := by
  intro o ho
  rw [hstored] at ho
  cases ho
  exact hkept

/-- An old order whose transaction is not there expires. -/
theorem keptOpen_expired {deps : Deps} {age : Int} (hopen : order.state.isTerminal = false)
    (hstored : db.order order.id = some stored) (hkept : isAbandoned stored.state = false)
    (text : String) (e : Env) :
    KeptOpen (if age > seconds deps.config.rpc.unknownAfterSecs then
        reportedDb e order .expired text db else db) order.id ↔
      ¬ (age > seconds deps.config.rpc.unknownAfterSecs ∧ e.fault = none) := by
  split
  · rename_i hold
    rw [keptOpen_reportedDb hopen hstored hkept (.inr rfl), not_and]
    exact ⟨fun h _ => h, fun h => h hold⟩
  · rename_i hyoung
    exact iff_of_true (keptOpen_same hstored hkept) fun h => hyoung h.1

/-- An entry whose fill is set aside is given up exactly if the transaction goes through. -/
theorem keptOpen_unaccounted (hopen : order.state.isTerminal = false)
    (hstored : db.order order.id = some stored) (hkept : isAbandoned stored.state = false)
    (fill : Fill) (faults : TxFaults) :
    KeptOpen (recordUnaccountedFill faults fill order db).2 order.id ↔ ¬ UnfaultedAudit faults := by
  have hsame := keptOpen_same hstored hkept
  have hlegal : (unaccountedOrder fill order).transition .failed =
      .ok { unaccountedOrder fill order with state := .failed } := by
    unfold OrderRecord.transition
    have hstate : (unaccountedOrder fill order).state = order.state := rfl
    rw [hstate]
    cases hs : order.state <;> simp_all [OrderState.isTerminal, OrderState.canTransition]
  unfold recordUnaccountedFill UnfaultedAudit
  cases faults .begin with
  | some e => simpa using hsame
  | none =>
  cases faults .insertFill with
  | some e => simpa using hsame
  | none =>
  rw [hlegal]
  cases faults .updateOrder with
  | some e => simpa using hsame
  | none =>
  cases faults .commit with
  | some e => simpa using hsame
  | none =>
      refine iff_of_false (fun h => ?_) (by simp)
      have hafter := h { unaccountedOrder fill order with state := .failed } (by
        rw [Db.order_updateOrder]
        have hid : ({ unaccountedOrder fill order with state := .failed } : OrderRecord).id =
          order.id := rfl
        rw [hid, if_pos rfl, Db.order_saveFill, hstored]
        rfl)
      cases hafter

/-- A recorded fill confirms the order or leaves it. -/
theorem keptOpen_fillTransaction (hstored : db.order order.id = some stored)
    (hkept : isAbandoned stored.state = false) (t : FillTransaction)
    (ht : t.order = order) (faults : TxFaults) :
    KeptOpen (runFillTransaction faults t db).2 order.id := by
  rcases runFillTransaction_cases faults t db with ⟨f, e, -, hrun⟩ | ⟨-, -, -, hrun⟩
  · rw [hrun]
    exact keptOpen_same hstored hkept
  · rw [hrun]
    intro o ho
    unfold FillTransaction.applied at ho
    have hid : t.confirmed.id = order.id := by rw [← ht]; rfl
    dsimp only at ho
    rw [Db.order_updateOrder, hid, if_pos rfl, Option.map_eq_some_iff] at ho
    obtain ⟨_, -, rfl⟩ := ho
    rfl

/-- Recording the fill of a landed transaction gives the order up exactly if it is an entry that
cannot be accounted for. -/
theorem keptOpen_recorded (deps : Deps) (hopen : order.state.isTerminal = false)
    (hstored : db.order order.id = some stored) (hkept : isAbandoned stored.state = false)
    (outcome : ChainSwapOutcome) (signature : String) (env : ℕ → Env) (i : ℕ) :
    KeptOpen (Prog.run world env
        (ExceptT.run (recordReconciledFill deps order outcome signature)) i db).2.1 order.id ↔
      ¬ ∃ terms, order.kind = .entry ∧
        reconciledTerms order outcome (foundPosition (env i) db order) = some terms ∧
        terms.position.entryCostModel = none ∧
        UnfaultedAudit (env (i + lookups order + 1)).txFaults := by
  rw [recordReconciledFill_run]
  cases hterms : reconciledTerms order outcome (foundPosition (env i) db order) with
  | none => simpa using keptOpen_same hstored hkept
  | some terms =>
      dsimp only
      split
      · rename_i hentry
        rw [keptOpen_unaccounted hopen hstored hkept]
        simp [hentry.1, Option.isNone_iff_eq_none.mp hentry.2]
      · rename_i hentry
        refine iff_of_true (keptOpen_fillTransaction hstored hkept _ rfl _) ?_
        rintro ⟨terms', hkind, heq, hnone, -⟩
        cases heq
        exact hentry ⟨hkind, by simp [hnone]⟩

end

/-! ## The verdict -/

/-- The database after the verdict on a signature; `text` is what an expired order is given. -/
def verdictDb (deps : Deps) (age : Int) (order : OrderRecord) (signature text : String)
    (env : ℕ → Env) (i : ℕ) (db : Db) : Except ExecutionError (Option ChainSwapOutcome) → Db
  | .ok (some outcome) =>
      (Prog.run world env
        (ExceptT.run (recordReconciledFill deps order outcome signature)) i db).2.1
  | .ok none =>
      if age > seconds deps.config.rpc.unknownAfterSecs then reportedDb (env i) order .expired text db
      else db
  | .error (.transaction detail) => reportedDb (env i) order .failed detail db
  | .error _ => db

/-- Settling a verdict at the start leaves the store of the verdict. -/
theorem settleVerdict_run (deps : Deps) (age : Int) (order : OrderRecord) (signature : String)
    (summary : ReconcileSummary) (env : ℕ → Env) (i : ℕ) (db : Db)
    (verdict : Except ExecutionError (Option ChainSwapOutcome)) :
    (Prog.run world env
        (ExceptT.run (settleVerdict deps age order signature summary verdict)) i db).2.1 =
      verdictDb deps age order signature
        "signature never appeared on-chain within the expiry window" env i db verdict := by
  unfold settleVerdict verdictDb
  rcases verdict with e | outcome
  · cases e
    case transaction detail =>
      unfold attempt
      dsimp only
      rw [Prog.run_mk_bind, updateOrder_run]
      unfold written
      cases (env i).fault <;> rfl
    all_goals rfl
  · cases outcome with
    | none =>
        dsimp only
        split
        · unfold attempt
          rw [Prog.run_mk_bind, updateOrder_run]
          unfold written
          cases (env i).fault <;> rfl
        · rfl
    | some outcome =>
        unfold ask
        dsimp only
        rw [Prog.run_lift_bind]
        rcases (Prog.run world env
          (ExceptT.run (recordReconciledFill deps order outcome signature)) i db).1 with e | done
        · rfl
        · cases done <;> rfl

/-- Settling one in the monitor leaves it, with its own text. -/
theorem settleStaleVerdict_run (deps : Deps) (age : Int) (order : OrderRecord)
    (signature : String) (env : ℕ → Env) (i : ℕ) (db : Db)
    (verdict : Except ExecutionError (Option ChainSwapOutcome)) :
    (Prog.run world env (settleStaleVerdict deps age order signature verdict) i db).2.1 =
      verdictDb deps age order signature "signature never appeared (exit monitor)" env i db
        verdict := by
  unfold settleStaleVerdict verdictDb
  rcases verdict with e | outcome
  · cases e
    case transaction detail => exact updateOrderLogged_run _ _ _ _ _ _ _
    all_goals rfl
  · cases outcome with
    | none =>
        dsimp only
        split
        · exact updateOrderLogged_run _ _ _ _ _ _ _
        · rfl
    | some outcome =>
        dsimp only
        rw [Prog.run_bind]
        rfl

/-- The ways to give up an order with a signature. -/
theorem givenUp_iff {deps : Deps} {order : OrderRecord} {age : Int} {env : ℕ → Env} {i : ℕ} {db : Db}
    {signature : String} {route : Route} (hsignature : order.signature = some signature)
    (hroute : routeOf deps order = some route) :
    GivenUp deps order age env i db ↔
      (isUnseen ((env i).answer (.signatureStatus signature)) ∧
        age > seconds deps.config.rpc.unknownAfterSecs ∧ (env (i + 1)).fault = none) ∨
      (isSeen ((env i).answer (.signatureStatus signature)) ∧
        ((env (i + 1)).answer (.transaction signature) = .ok none ∧
          age > seconds deps.config.rpc.unknownAfterSecs ∧ (env (i + 2)).fault = none ∨
        ∃ tx outcome, (env (i + 1)).answer (.transaction signature) = .ok (some tx) ∧
          parseSwapTransaction tx route.inputMint route.outputMint route.owner
            route.expectedInput = .executed outcome ∧
          ∃ terms, order.kind = .entry ∧
            reconciledTerms order outcome (foundPosition (env (i + 2)) db order) = some terms ∧
            terms.position.entryCostModel = none ∧
            UnfaultedAudit (env (i + 2 + lookups order + 1)).txFaults)) := by
  constructor
  · intro h
    cases h with
    | unsubmitted hnone =>
        rw [hsignature] at hnone
        cases hnone
    | unseen signature' route' hsig hrt status old written =>
        cases hsignature.symm.trans hsig
        exact .inl ⟨status, old, written⟩
    | unindexed signature' route' hsig hrt status absent old written =>
        cases hsignature.symm.trans hsig
        exact .inr ⟨status, .inl ⟨absent, old, written⟩⟩
    | unaccountable signature' route' tx outcome terms hsig hrt status fetched swap kind found
        costModel written =>
        cases hsignature.symm.trans hsig
        cases hroute.symm.trans hrt
        exact .inr ⟨status, .inr ⟨tx, outcome, fetched, swap, terms, kind, found, costModel, written⟩⟩
  · rintro (⟨status, old, written⟩ | ⟨status, ⟨absent, old, written⟩ |
      ⟨tx, outcome, fetched, swap, terms, kind, found, costModel, written⟩⟩)
    · exact .unseen signature route hsignature hroute status old written
    · exact .unindexed signature route hsignature hroute status absent old written
    · exact .unaccountable signature route tx outcome terms hsignature hroute status fetched swap
        kind found costModel written

/-- The verdict on the transaction of a confirmed signature. -/
theorem keptOpen_transaction {deps : Deps} {order stored : OrderRecord} {db : Db} {env : ℕ → Env}
    {chain : Landing} {age : Int} (hopen : order.state.isTerminal = false)
    (hstored : db.order order.id = some stored) (hkept : isAbandoned stored.state = false)
    (route : Route) (text : String) (i : ℕ) (found : Except RpcError (Option Transaction))
    (hfound : ∀ tx, found = .ok (some tx) → tx = chain.transaction) :
    KeptOpen (verdictDb deps age order chain.signature text env (i + 2) db
        (readTransaction chain.signature route.inputMint route.outputMint route.owner
          route.expectedInput found)) order.id ↔
      ¬ (found = .ok none ∧
          age > seconds deps.config.rpc.unknownAfterSecs ∧ (env (i + 2)).fault = none ∨
        ∃ tx outcome, found = .ok (some tx) ∧
          parseSwapTransaction tx route.inputMint route.outputMint route.owner
            route.expectedInput = .executed outcome ∧
          ∃ terms, order.kind = .entry ∧
            reconciledTerms order outcome (foundPosition (env (i + 2)) db order) = some terms ∧
            terms.position.entryCostModel = none ∧
            UnfaultedAudit (env (i + 2 + lookups order + 1)).txFaults) := by
  have hsame := keptOpen_same hstored hkept
  cases found with
  | error e =>
      refine iff_of_true hsame ?_
      rintro (⟨h, -⟩ | ⟨tx, outcome, h, -⟩) <;> cases h
  | ok tx? =>
      cases tx? with
      | none =>
          rw [show readTransaction chain.signature route.inputMint route.outputMint route.owner
            route.expectedInput (.ok none) = .ok none from rfl]
          have hnofill : ∀ P : Transaction → ChainSwapOutcome → Prop,
              ¬ ∃ tx outcome, (.ok none : Except RpcError (Option Transaction)) = .ok (some tx) ∧
                P tx outcome := by
            rintro P ⟨tx, outcome, h, -⟩
            cases h
          simp only [hnofill, or_false, true_and]
          exact keptOpen_expired hopen hstored hkept text (env (i + 2))
      | some tx =>
          have htx := hfound tx rfl
          unfold readTransaction
          dsimp only
          cases hparse : parseSwapTransaction tx route.inputMint route.outputMint route.owner
              route.expectedInput with
          | executed outcome =>
              refine (keptOpen_recorded deps hopen hstored hkept outcome chain.signature env
                (i + 2)).trans (not_congr ?_)
              constructor
              · rintro ⟨terms, h⟩
                exact .inr ⟨tx, outcome, rfl, hparse, terms, h⟩
              · rintro (⟨h, -⟩ | ⟨tx', outcome', h, hparse', terms, hterms⟩)
                · cases h
                · cases h
                  rw [hparse] at hparse'
                  cases hparse'
                  exact ⟨terms, hterms⟩
          | failed err =>
              rw [htx] at hparse
              exact absurd hparse (parseSwapTransaction_ne_failed chain.succeeded err)
          | unverifiable detail =>
              refine iff_of_true hsame ?_
              rintro (⟨h, -⟩ | ⟨tx', outcome, h, hparse', -⟩)
              · cases h
              · cases h
                rw [hparse] at hparse'
                cases hparse'

/-- The verdict on a landed transaction gives up the order in one of the three ways that an order
with a signature has. -/
theorem keptOpen_verdict {deps : Deps} {order stored : OrderRecord} {db : Db} {env : ℕ → Env}
    {chain : Landing} {age : Int} {route : Route} (hopen : order.state.isTerminal = false)
    (hstored : db.order order.id = some stored) (hkept : isAbandoned stored.state = false)
    (hchain : chain.ExplainsOrder order env) (hsignature : order.signature = some chain.signature)
    (hroute : routeOf deps order = some route) (text : String) (i : ℕ) :
    let verdict := signatureVerdict chain.signature route.inputMint route.outputMint route.owner
      route.expectedInput env i
    KeptOpen (verdictDb deps age order chain.signature text env (i + verdict.2) db verdict.1)
        order.id ↔ ¬ GivenUp deps order age env i db := by
  dsimp only
  have hsame := keptOpen_same hstored hkept
  rw [givenUp_iff hsignature hroute]
  unfold signatureVerdict
  cases hstatus : (env i).answer (.signatureStatus chain.signature) with
  | error e =>
      refine iff_of_true hsame ?_
      rintro (⟨h | ⟨s, h, -⟩, -⟩ | ⟨⟨s, h, -⟩, -⟩) <;> cases h
  | ok status =>
      cases status with
      | none =>
          have hseen : ¬ isSeen (.ok none) := by
            rintro ⟨s, ⟨⟩, -⟩
          have hunseen : isUnseen (.ok none) := .inl rfl
          rw [show readStatus chain.signature (.ok none) = .ok false from rfl]
          simp only [hseen, hunseen, false_and, or_false, true_and]
          exact keptOpen_expired hopen hstored hkept text (env (i + 1))
      | some status =>
          have herr := hchain.status i status hstatus
          have hread : readStatus chain.signature (.ok (some status)) =
              .ok status.isConfirmedOrFinalized := by
            unfold readStatus
            simp only [herr]
          rw [hread]
          cases hconfirmed : status.isConfirmedOrFinalized with
          | false =>
              have hseen : ¬ isSeen (.ok (some status)) := by
                rintro ⟨s, h, hs⟩
                cases h
                rw [hconfirmed] at hs
                cases hs
              have hunseen : isUnseen (.ok (some status)) := .inr ⟨status, rfl, hconfirmed⟩
              simp only [hseen, hunseen, false_and, or_false, true_and]
              exact keptOpen_expired hopen hstored hkept text (env (i + 1))
          | true =>
              have hseen : isSeen (.ok (some status)) := ⟨status, rfl, hconfirmed⟩
              have hunseen : ¬ isUnseen (.ok (some status)) := by
                rintro (h | ⟨s, h, hs⟩) <;> cases h
                rw [hconfirmed] at hs
                cases hs
              simp only [hseen, hunseen, false_and, false_or, true_and]
              exact keptOpen_transaction hopen hstored hkept route text i _
                (hchain.transaction (i + 1))

/-! ## One turn -/

/-- The reconcilers that take up an open order. -/
inductive Reconciler where
  | session (summary : ReconcileSummary)
  | monitor

/-- One turn of a reconciler on an order. -/
def Reconciler.turn (deps : Deps) (now : Time) (order : OrderRecord) : Reconciler → Model.Task Unit
  | .session summary => do
      let _ ← (reconcilePendingOrder deps now summary order).run
      return ()
  | .monitor => reconcileStaleOrder deps now order

/-- A turn of the session's reconciler is one of the startup reconciliation. -/
theorem sessionTurn_run (deps : Deps) (now : Time) (order : OrderRecord)
    (summary : ReconcileSummary) (env : ℕ → Env) (i : ℕ) (db : Db) :
    (Prog.run world env (Reconciler.turn deps now order (.session summary)) i db).2.1 =
      (Prog.run world env (reconcilePendingOrder deps now summary order).run i db).2.1 := by
  unfold Reconciler.turn
  rw [Prog.run_bind]
  rfl

/-- What a turn of either reconciler on an order of a live executor leaves behind; `text` and
`unsent` are what the reconciler writes on an expired and on an unsubmitted order. -/
theorem turn_run {deps : Deps} (hlive : deps.live = true) (who : Reconciler) (now : Time)
    (order : OrderRecord) (env : ℕ → Env) (i : ℕ) (db : Db) :
    ∃ text unsent, (Prog.run world env (who.turn deps now order) i db).2.1 =
      match order.signature with
      | none =>
          if now - order.createdAt > seconds deps.config.rpc.unknownAfterSecs then
            reportedDb (env i) order .failed unsent db
          else db
      | some signature =>
          match routeOf deps order with
          | none => db
          | some route =>
              let verdict := signatureVerdict signature route.inputMint route.outputMint
                route.owner route.expectedInput env i
              verdictDb deps (now - order.createdAt) order signature text env (i + verdict.2) db
                verdict.1 := by
  cases who with
  | session summary =>
      refine ⟨"signature never appeared on-chain within the expiry window",
        "order expired without ever being submitted", ?_⟩
      rw [sessionTurn_run]
      unfold reconcilePendingOrder routeOf
      rw [hlive]
      cases order.signature with
      | none =>
          dsimp only
          split
          · unfold attempt
            rw [Prog.run_mk_bind, updateOrder_run]
            unfold written
            cases (env i).fault <;> rfl
          · rfl
      | some signature =>
          -- without one of the four the order has no route
          rcases deps.signerPubkey with _ | owner
          · rfl
          rcases order.inputMint with _ | inputMint
          · rfl
          rcases order.outputMint with _ | outputMint
          · rfl
          rcases order.inputAmountAtomic with _ | expectedInput
          · rfl
          dsimp only
          unfold ask
          rw [Prog.run_lift_bind, reconcileSignature_run, settleVerdict_run]
  | monitor =>
      refine ⟨"signature never appeared (exit monitor)",
        "expired without submission (exit monitor)", ?_⟩
      unfold Reconciler.turn reconcileStaleOrder routeOf
      rw [hlive]
      cases order.signature with
      | none =>
          dsimp only
          split
          · exact updateOrderLogged_run _ _ _ _ _ _ _
          · rfl
      | some signature =>
          -- without one of the four the order has no route
          rcases deps.signerPubkey with _ | owner
          · rfl
          rcases order.inputMint with _ | inputMint
          · rfl
          rcases order.outputMint with _ | outputMint
          · rfl
          rcases order.inputAmountAtomic with _ | expectedInput
          · rfl
          dsimp only
          rw [Prog.run_bind, reconcileSignature_run, settleStaleVerdict_run]

/-- One turn keeps the order open exactly if it is not given up, whatever record of it is stored
by then. -/
theorem keptOpen_turn {deps : Deps} {order stored : OrderRecord} {db : Db} {env : ℕ → Env}
    {chain : Landing} (hlive : deps.live = true) (hopen : order.state.isTerminal = false)
    (hstored : db.order order.id = some stored) (hkept : isAbandoned stored.state = false)
    (hchain : chain.ExplainsOrder order env) (who : Reconciler) (now : Time) (i : ℕ) :
    KeptOpen (Prog.run world env (who.turn deps now order) i db).2.1 order.id ↔
      ¬ GivenUp deps order (now - order.createdAt) env i db := by
  have hsame := keptOpen_same hstored hkept
  obtain ⟨text, unsent, hrun⟩ := turn_run hlive who now order env i db
  rw [hrun]
  cases hsignature : order.signature with
  | none =>
      dsimp only
      have hgiven : GivenUp deps order (now - order.createdAt) env i db ↔
          now - order.createdAt > seconds deps.config.rpc.unknownAfterSecs ∧
            (env i).fault = none := by
        constructor
        · rintro (⟨-, hold, hfault⟩ | ⟨signature, -, hsig, -⟩ | ⟨signature, -, hsig, -⟩ |
            ⟨signature, -, -, -, -, hsig, -⟩)
          · exact ⟨hold, hfault⟩
          all_goals
            rw [hsignature] at hsig
            cases hsig
        · rintro ⟨hold, hfault⟩
          exact .unsubmitted hsignature hold hfault
      rw [hgiven]
      split
      · rename_i hold
        rw [keptOpen_reportedDb hopen hstored hkept (.inl rfl), not_and]
        exact ⟨fun h _ => h, fun h => h hold⟩
      · rename_i hyoung
        exact iff_of_true hsame fun h => hyoung h.1
  | some signature =>
      dsimp only
      cases hroute : routeOf deps order with
      | none =>
          refine iff_of_true hsame ?_
          rintro (⟨hsig, -⟩ | ⟨_, route, -, hrt, -⟩ | ⟨_, route, -, hrt, -⟩ |
            ⟨_, route, -, -, -, -, hrt, -⟩)
          · rw [hsignature] at hsig
            cases hsig
          all_goals
            rw [hroute] at hrt
            cases hrt
      | some route =>
          obtain rfl := hchain.signature signature hsignature
          exact keptOpen_verdict hopen hstored hkept hchain hsignature hroute text i

/-! ## Many turns -/

/-- The record of an order is left alone, or the order is settled. -/
def LeavesOrSettles (db db' : Db) (id : String) : Prop :=
  db'.order id = db.order id ∨ ∃ o, db'.order id = some o ∧ o.state.isTerminal = true

/-- An unchanged order is left. -/
theorem LeavesOrSettles.rfl {db : Db} {id : String} : LeavesOrSettles db db id := .inl (by rfl)

section

variable {order : OrderRecord} {db : Db}

/-- An order that is reported as abandoned is settled. -/
theorem leavesOrSettles_reportedDb (hopen : order.state.isTerminal = false) {next : OrderState}
    (hnext : next = .failed ∨ next = .expired) (text : String) (e : Env)
    (hstored : db.order order.id = some order) :
    LeavesOrSettles db (reportedDb e order next text db) order.id := by
  unfold reportedDb
  cases e.fault with
  | some msg => exact .rfl
  | none =>
      refine .inr ⟨order.reported next text, ?_, ?_⟩
      · rw [Db.order_updateOrder, order_reported_id, if_pos rfl, hstored]
        rfl
      · rw [order_reported_state hopen hnext]
        rcases hnext with rfl | rfl <;> rfl

/-- Recording a fill leaves the order or settles it. -/
theorem leavesOrSettles_recorded (deps : Deps) (outcome : ChainSwapOutcome) (signature : String)
    (env : ℕ → Env) (i : ℕ) (hstored : db.order order.id = some order) :
    LeavesOrSettles db (Prog.run world env
      (ExceptT.run (recordReconciledFill deps order outcome signature)) i db).2.1 order.id := by
  rw [recordReconciledFill_run]
  cases reconciledTerms order outcome (foundPosition (env i) db order) with
  | none => exact .rfl
  | some terms =>
      dsimp only
      split
      · rcases recordUnaccountedFill_cases (env (i + lookups order + 1)).txFaults
          (reconciledFill deps order outcome signature terms (env (i + lookups order)).clock)
          order db with ⟨e, hrun⟩ | ⟨-, hrun⟩
        · rw [hrun]
          exact .rfl
        · rw [hrun]
          refine .inr ⟨{ unaccountedOrder (reconciledFill deps order outcome signature terms
            (env (i + lookups order)).clock) order with state := .failed }, ?_, by rfl⟩
          dsimp only
          rw [Db.order_updateOrder, Db.order_saveFill]
          change (if order.id = order.id then _ else _) = _
          rw [if_pos (by rfl), hstored]
          rfl
      · generalize ht : reconciledTransaction order terms _ _ = t
        have horder : t.order = order := by rw [← ht]; rfl
        rcases runFillTransaction_cases (env (i + lookups order + 2)).txFaults t db with
          ⟨f, e, -, hrun⟩ | ⟨-, -, -, hrun⟩
        · rw [hrun]
          exact .rfl
        · rw [hrun]
          obtain ⟨o, ho, hstate⟩ := order_applied (t := t) (horder ▸ hstored)
          rw [horder] at ho
          exact .inr ⟨o, ho, by rw [hstate]; rfl⟩

/-- A turn of a reconciler leaves the order or settles it. -/
theorem leavesOrSettles_turn {deps : Deps} (env : ℕ → Env) (hlive : deps.live = true)
    (hopen : order.state.isTerminal = false) (hstored : db.order order.id = some order)
    (who : Reconciler) (now : Time) (i : ℕ) :
    LeavesOrSettles db (Prog.run world env (who.turn deps now order) i db).2.1 order.id := by
  obtain ⟨text, unsent, hrun⟩ := turn_run hlive who now order env i db
  rw [hrun]
  cases order.signature with
  | none =>
      dsimp only
      split
      · exact leavesOrSettles_reportedDb hopen (.inl rfl) _ _ hstored
      · exact .rfl
  | some signature =>
      dsimp only
      split
      · exact .rfl
      · unfold verdictDb
        split
        · exact leavesOrSettles_recorded _ _ _ _ _ hstored
        · split
          · exact leavesOrSettles_reportedDb hopen (.inr rfl) _ _ hstored
          · exact .rfl
        · exact leavesOrSettles_reportedDb hopen (.inl rfl) _ _ hstored
        · exact .rfl

end

/-- The record of an order, if it is open in the store. -/
def openOrder (db : Db) (id : String) : Option OrderRecord :=
  (db.order id).filter fun o => !o.state.isTerminal

/-- What is left after turns of the reconcilers, each of which takes up the order if it is then
open in the store. -/
def turnsDb (deps : Deps) (id : String) (env : ℕ → Env) : List (Reconciler × Time) → ℕ → Db → Db
  | [], _, db => db
  | (who, now) :: turns, i, db =>
      match openOrder db id with
      | none => turnsDb deps id env turns i db
      | some order =>
          let r := Prog.run world env (who.turn deps now order) i db
          turnsDb deps id env turns r.2.2 r.2.1

/-- Some of the turns gives the order up. -/
def SomeGivenUp (deps : Deps) (id : String) (env : ℕ → Env) :
    List (Reconciler × Time) → ℕ → Db → Prop
  | [], _, _ => False
  | (who, now) :: turns, i, db =>
      match openOrder db id with
      | none => SomeGivenUp deps id env turns i db
      | some order =>
          let r := Prog.run world env (who.turn deps now order) i db
          GivenUp deps order (now - order.createdAt) env i db ∨
            SomeGivenUp deps id env turns r.2.2 r.2.1

/-- A terminal order is not open. -/
theorem openOrder_of_terminal {db : Db} {id : String} {o : OrderRecord}
    (h : db.order id = some o) (hterminal : o.state.isTerminal = true) : openOrder db id = none := by
  unfold openOrder
  rw [h, Option.filter_eq_none_iff]
  rintro _ ⟨⟩
  simp [hterminal]

/-- An open order is the open one of its id. -/
theorem openOrder_of_open {db : Db} {id : String} {o : OrderRecord} (h : db.order id = some o)
    (hopen : o.state.isTerminal = false) : openOrder db id = some o := by
  unfold openOrder
  rw [h, Option.filter_eq_some_iff]
  exact ⟨rfl, by simp [hopen]⟩

/-- Nothing happens to a settled order. -/
theorem turns_of_terminal (deps : Deps) {id : String} (env : ℕ → Env) {db : Db} {o : OrderRecord}
    (h : db.order id = some o) (hterminal : o.state.isTerminal = true)
    (turns : List (Reconciler × Time)) (i : ℕ) :
    turnsDb deps id env turns i db = db ∧ ¬ SomeGivenUp deps id env turns i db := by
  induction turns with
  | nil => exact ⟨rfl, fun h => h⟩
  | cons turn turns ih =>
      obtain ⟨who, now⟩ := turn
      unfold turnsDb SomeGivenUp
      rw [openOrder_of_terminal h hterminal]
      exact ih

/-- **Landed orders are kept open** through any turns of the reconcilers, whatever the RPC answers
in accordance with the chain, exactly if none of the turns gives the order up. -/
theorem landed_order_kept_iff (deps : Deps) (hlive : deps.live = true) (order : OrderRecord)
    (chain : Landing) (env : ℕ → Env) (db : Db) (hopen : order.state.isTerminal = false)
    (hstored : db.order order.id = some order) (hchain : chain.ExplainsOrder order env)
    (turns : List (Reconciler × Time)) (i : ℕ) :
    KeptOpen (turnsDb deps order.id env turns i db) order.id ↔
      ¬ SomeGivenUp deps order.id env turns i db := by
  have hkept : isAbandoned order.state = false := by
    cases hstate : order.state <;> simp_all [OrderState.isTerminal, isAbandoned]
  induction turns generalizing i db with
  | nil => exact iff_of_true (keptOpen_same hstored hkept) id
  | cons turn turns ih =>
      obtain ⟨who, now⟩ := turn
      unfold turnsDb SomeGivenUp
      rw [openOrder_of_open hstored hopen]
      dsimp only
      have hstep := keptOpen_turn hlive hopen hstored hkept hchain who now i
      have hleaves := leavesOrSettles_turn env hlive hopen hstored who now i
      generalize Prog.run world env (who.turn deps now order) i db = r at hstep hleaves ⊢
      rcases hleaves with hsame | ⟨o, ho, hterminal⟩
      · rw [hstored] at hsame
        have hnot := hstep.mp (keptOpen_same hsame hkept)
        exact (ih r.2.1 hsame r.2.2).trans (not_congr (by simp only [hnot, false_or]))
      · -- the order is settled, and stays as it is
        obtain ⟨hdb, hlater⟩ := turns_of_terminal deps env ho hterminal turns r.2.2
        rw [hdb, hstep]
        simp [hlater]

/-! ## A lagging node -/

/-- The exit of 100 units of a token for 10 units of the base, which landed. -/
def exitLanding : Landing where
  owner := "owner"
  wire := "wire"
  signature := "signature"
  transaction := exitOnChain
  succeeded := by
    rintro m ⟨⟩
    rfl

/-- A node that reports the signature as confirmed and does not return the transaction. -/
def laggingEnv : Env :=
  { sampleEnv with
    answer := fun
      | .signatureStatus _ => .ok (some ⟨none, some "confirmed"⟩)
      | .transaction _ => .ok none
      | o => sampleAnswer o }

/-- A lagging endpoint is explained by a swap that has landed. -/
theorem laggingEnv_explains : exitLanding.ExplainsOrder unknownExit fun _ => laggingEnv where
  signature := by
    rintro _ ⟨⟩
    rfl
  status := by
    rintro i status ⟨⟩
    rfl
  transaction := by
    rintro i tx ⟨⟩

/-- A young order waits for its transaction. -/
theorem landed_order_kept_iff_sample :
    KeptOpen (turnsDb (sampleDeps true) "exit-1" (fun _ => laggingEnv) [(.monitor, 1)] 0
        unknownExitDb) "exit-1" ↔
      ¬ SomeGivenUp (sampleDeps true) "exit-1" (fun _ => laggingEnv) [(.monitor, 1)] 0
        unknownExitDb :=
  landed_order_kept_iff (sampleDeps true) rfl unknownExit exitLanding (fun _ => laggingEnv)
    unknownExitDb rfl (by decide +kernel) laggingEnv_explains [(.monitor, 1)] 0

/-- An order whose confirmed transaction is not returned yet expires, with a text that says that
its signature never appeared. -/
theorem landed_order_expires :
    exitLanding.ExplainsOrder unknownExit (fun _ => laggingEnv) ∧
      unknownExitDb.order "exit-1" = some unknownExit ∧ unknownExit.state = .unknown ∧
      (turnsDb (sampleDeps true) "exit-1" (fun _ => laggingEnv) [(.monitor, seconds 121)] 0
        unknownExitDb).order "exit-1" = some { unknownExit with
          state := .expired
          error := some "signature never appeared (exit monitor)" } :=
  ⟨laggingEnv_explains, by decide +kernel, rfl, by decide +kernel⟩

end SolanaBot.Analysis
