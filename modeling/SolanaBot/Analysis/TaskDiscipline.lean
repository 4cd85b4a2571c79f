import SolanaBot.Model.ExitMonitor
import SolanaBot.Model.SessionLoop

/-!
# What the tasks may write

Every task of the bot follows one discipline. It works only on orders that it has
reserved or read as incomplete. An order is reserved as pending and, if it is an exit,
only after a check for exits in flight; an update revises the record it was derived
from; a fill transaction starts from a record that is not terminal; a saved position is
a marked or an adopted copy. The results about interleavings rest on nothing else about
the tasks.

The proofs follow the text of each task, one operation after the other.
-/

set_option autoImplicit false

namespace SolanaBot.Analysis

open SolanaBot.Library SolanaBot.Model
open SolanaBot.Library.Prog (FollowsE FollowsS follows_done follows_bind follows_perform
  follows_perform_bind follows_foldlM followsE_pure followsE_throw followsE_bind followsE_lift
  followsE_mk followsE_foldlM followsS_pure followsS_throw followsS_get followsS_set
  followsS_modify followsS_bind followsS_lift followsS_foldlM)

/-- The order of the record is among those that the task has reserved or read. -/
def Known (K : Set OrderRecord) (o : OrderRecord) : Prop := ∃ f ∈ K, f.SameOrder o

/-- What is known stays known when more is read. -/
theorem Known.mono {K K' : Set OrderRecord} {o : OrderRecord} (hK : K ⊆ K') (h : Known K o) :
    Known K' o :=
  h.imp fun _ hf => ⟨hK hf.1, hf.2⟩

/-- An order that was read is known. -/
theorem Known.of_mem {K : Set OrderRecord} {o : OrderRecord} (h : o ∈ K) : Known K o :=
  ⟨o, h, .refl o⟩

/-- A known order is known in every later form. -/
theorem Known.trans {K : Set OrderRecord} {o o' : OrderRecord} (h : Known K o)
    (hsame : o.SameOrder o') : Known K o' :=
  h.imp fun _ hf => ⟨hf.1, hf.2.trans hsame⟩

/-- What is promised of a write operation. -/
def permits (K : Set OrderRecord) : Op → Prop
  | .reserveOrder seen o =>
      o.state = .pending ∧ (o.kind = .exit → seen.any (isExitOf o.positionId) = false)
  | .updateOrder copy o => Known K copy ∧ copy.Revises o
  | .fillTransaction t =>
      Known K t.order ∧ t.order.state.isTerminal = false ∧ t.order.mint = t.mint ∧
        (t.accounting.isEntry = true ↔ t.order.kind = .entry) ∧
        ∀ p reason now, t.accounting = .exit (some p) reason now → p.mint = t.mint
  | .unaccountedFill _ order => Known K order ∧ order.state.isTerminal = false
  | .savePosition (.marked copy _) p =>
      ∃ high value unrealized, p = { copy with
        highWaterPriceUsd := high, currentValueUsd := value, unrealizedPnlUsd := unrealized }
  | .savePosition (.adopted copy amount decimals now) p =>
      p = (copy.reconcileWithChain copy.mint amount decimals now).2
  | _ => True

/-- The orders that an answer shows to be stored. -/
def learns : (o : Op) → Res o → Set OrderRecord
  | .incompleteOrders, r => { o | ∃ incomplete, r = .ok incomplete ∧ o ∈ incomplete.orders }
  | .reserveOrder _ order, r => { o | r = .ok true ∧ o = order }
  | .fillTransaction _, r => {r.2}
  | _, _ => ∅

/-- The discipline of the tasks. -/
def discipline : Discipline Op Res OrderRecord where
  permits := permits
  learns := learns
  mono := by
    intro K K' o hK h
    cases o
    case updateOrder => exact ⟨h.1.mono hK, h.2⟩
    case fillTransaction => exact ⟨h.1.mono hK, h.2⟩
    case unaccountedFill => exact ⟨h.1.mono hK, h.2⟩
    case savePosition basis p => cases basis <;> exact h
    all_goals exact h

section Tasks

variable {K : Set OrderRecord}

/-- An operation that is permitted follows the discipline. -/
theorem follows_op {o : Op} (h : permits K o) : (call o).Follows discipline K :=
  follows_perform h

/-- A question that can fail follows it if its task does. -/
theorem follows_ask {α : Type} {t : Model.Task α} (h : t.Follows discipline K) :
    FollowsE discipline K (ask t) :=
  followsE_lift h

/-- A look of the session follows it if its task does. -/
theorem follows_look {α : Type} {t : Model.Task α} (h : t.Follows discipline K) :
    FollowsS discipline K (look t) :=
  followsS_lift h

/-- A task that can end the session follows it. -/
theorem follows_orStop {α : Type} {t : Model.Task (Except String α)}
    (h : t.Follows discipline K) : FollowsS discipline K (orStop t) := by
  refine followsS_bind (follows_look h) fun r _ _ => ?_
  cases r with
  | ok a => exact followsS_pure a
  | error e => exact followsS_throw e

/-- An operation in the session whose answer the rest knows. -/
theorem followsS_look_bind {β : Type} {o : Op} {f : Res o → Session β} (ho : permits K o)
    (hf : ∀ r, FollowsS discipline (K ∪ learns o r) (f r)) :
    FollowsS discipline K (look (call o) >>= f) :=
  fun s => ⟨ho, fun r => hf r s⟩

/-- A reservation in the session: the rest knows whether the order was reserved. -/
theorem followsS_reserveOrder_bind {β : Type} {seen : List OrderRecord} {o : OrderRecord}
    {f : Bool → Session β} (ho : permits K (.reserveOrder seen o))
    (hf : ∀ reserved K', K ⊆ K' → (reserved = true → o ∈ K') → FollowsS discipline K' (f reserved)) :
    FollowsS discipline K (orStop (Store.reserveOrder seen o) >>= f) := by
  intro s
  refine ⟨ho, fun r => ?_⟩
  cases r with
  | error e => exact follows_done _
  | ok reserved =>
      refine hf reserved _ Set.subset_union_left (fun h => ?_) s
      exact .inr ⟨by rw [h], rfl⟩

/-! ## Reconcilers -/

/-- A reported state is a revision of the order. -/
theorem revises_reported (o : OrderRecord) (next : OrderState) (error : String) :
    o.Revises (o.reported next error) :=
  o.revises_transitionOrKeep next _ _

/-- Reading a signature from the chain writes no order. -/
theorem follows_reconcileSignature (signature inputMint outputMint owner : String)
    (expectedInput : UInt64) :
    (reconcileSignature signature inputMint outputMint owner expectedInput).Follows discipline K := by
  unfold reconcileSignature
  refine follows_bind (follows_op trivial) fun status _ _ => ?_
  split
  · exact follows_done _
  · exact follows_done _
  · exact follows_bind (follows_op trivial) fun _ _ _ => follows_done _

/-- Reading the stored position writes no order. -/
theorem follows_storedPosition (order : OrderRecord) :
    (storedPosition order).Follows discipline K := by
  unfold storedPosition
  split
  · exact follows_done _
  · refine follows_bind (follows_op trivial) fun stored _ _ => ?_
    split <;> exact follows_done _

/-- A reconciled accounting is an entry exactly if the order is one: an entry whose position
lacks a cost model does not get that far. -/
theorem isEntry_reconciledAccounting {order : OrderRecord} {terms : ReconciledTerms} (now : Time)
    (h : ¬(order.kind = .entry ∧ terms.position.entryCostModel.isNone)) :
    (reconciledAccounting order terms now).isEntry = true ↔ order.kind = .entry := by
  unfold reconciledAccounting
  cases hkind : order.kind <;> cases hmodel : terms.position.entryCostModel
  case entry.none => simp [hkind, hmodel] at h
  all_goals simp [Accounting.isEntry]

/-- A reconciled fill is recorded for the order it was given, which is not terminal. -/
theorem follows_recordReconciledFill (deps : Deps) {order : OrderRecord}
    (outcome : ChainSwapOutcome) (signature : String) (hknown : Known K order)
    (h : order.state.isTerminal = false) :
    FollowsE discipline K (recordReconciledFill deps order outcome signature) := by
  unfold recordReconciledFill
  refine followsE_bind (follows_ask (follows_storedPosition order)) fun position _ hK₁ => ?_
  split
  · exact followsE_pure _
  · rename_i terms _
    refine followsE_bind (follows_ask (follows_op trivial)) fun now _ hK₂ => ?_
    have hknown := (hknown.mono hK₁).mono hK₂
    dsimp only
    split
    · exact followsE_bind (followsE_mk (follows_op ⟨hknown, h⟩)) fun _ _ _ => followsE_pure _
    · rename_i hmodel
      refine followsE_bind (follows_ask (follows_op trivial)) fun now _ hK₃ => ?_
      refine followsE_bind (follows_ask (follows_op ⟨hknown.mono hK₃, h, rfl, ?_, ?_⟩))
        fun r _ _ => ?_
      · exact isEntry_reconciledAccounting now hmodel
      · intro p reason now' haccounting
        -- a reconciled accounting carries no copy of the position
        simp only [reconciledTransaction, reconciledAccounting] at haccounting
        split at haccounting <;> cases haccounting
      · split
        · exact followsE_pure _
        · exact followsE_throw _

/-- Moving an order to another state with an error text, and counting it. -/
theorem follows_reported {α : Type} {order : OrderRecord} (hknown : Known K order)
    (next : OrderState) (error : String) (a : α) : FollowsE discipline K (do
      attempt (Store.updateOrder order (order.reported next error))
      return a) :=
  followsE_bind (followsE_mk (follows_op ⟨hknown, revises_reported order next error⟩))
    fun _ _ _ => followsE_pure a

/-- A verdict of the chain is settled on a copy that has been read. -/
theorem follows_settleVerdict (deps : Deps) (age : Int) {order : OrderRecord}
    (signature : String) (summary : ReconcileSummary)
    (verdict : Except ExecutionError (Option ChainSwapOutcome)) (hknown : Known K order)
    (h : order.state.isTerminal = false) :
    FollowsE discipline K (settleVerdict deps age order signature summary verdict) := by
  unfold settleVerdict
  split
  · refine followsE_bind
      (follows_ask (follows_recordReconciledFill deps _ signature hknown h)) fun r _ _ => ?_
    split <;> exact followsE_pure _
  · split
    · exact follows_reported hknown _ _ _
    · exact followsE_pure _
  · exact follows_reported hknown _ _ _
  · exact followsE_pure _

/-- One order of the startup reconciliation follows the discipline. -/
theorem follows_reconcilePendingOrder (deps : Deps) (now : Time) (summary : ReconcileSummary)
    {order : OrderRecord} (hknown : Known K order) (h : order.state.isTerminal = false) :
    FollowsE discipline K (reconcilePendingOrder deps now summary order) := by
  unfold reconcilePendingOrder
  dsimp only
  split
  · exact follows_reported hknown _ _ _
  · split
    · exact follows_reported hknown _ _ _
    · exact followsE_pure _
  · exact follows_reported hknown _ _ _
  · split
    · refine followsE_bind (follows_ask (follows_reconcileSignature ..)) fun verdict _ hK => ?_
      exact follows_settleVerdict deps _ _ _ _ (hknown.mono hK) h
    · exact followsE_pure _

/-- The orders of `incomplete_orders` are not terminal. -/
theorem not_terminal_of_mem {incomplete : IncompleteOrders} {o : OrderRecord}
    (h : o ∈ incomplete.orders) : o.state.isTerminal = false := by
  have hstate := incomplete.incomplete o h
  rw [OrderState.isIncomplete_eq] at hstate
  simpa using hstate

/-- The startup reconciliation of the orders follows it. -/
theorem follows_reconcilePendingOrders (deps : Deps) :
    FollowsE discipline K (reconcilePendingOrders deps) := by
  unfold reconcilePendingOrders
  refine followsE_bind (follows_ask (follows_op trivial)) fun now K₁ _ => ?_
  -- the orders of the answer are known from here on
  refine follows_perform_bind trivial fun r => ?_
  cases r with
  | error e => exact follows_done _
  | ok incomplete =>
      refine followsE_foldlM _ _ (fun summary order hmem K₂ hK => ?_) _
      refine follows_reconcilePendingOrder deps now summary (.of_mem (hK (.inr ?_)))
        (not_terminal_of_mem hmem)
      exact ⟨incomplete, rfl, hmem⟩

/-- A logged update writes a revision of a known order. -/
theorem follows_updateOrderLogged {copy o : OrderRecord} (hknown : Known K copy)
    (h : copy.Revises o) : (updateOrderLogged copy o).Follows discipline K :=
  follows_bind (follows_op ⟨hknown, h⟩) fun _ _ _ => follows_done _

/-- A stale order is settled on the copy that has been read. -/
theorem follows_settleStaleVerdict (deps : Deps) (age : Int) {order : OrderRecord}
    (signature : String) (verdict : Except ExecutionError (Option ChainSwapOutcome))
    (hknown : Known K order) (h : order.state.isTerminal = false) :
    (settleStaleVerdict deps age order signature verdict).Follows discipline K := by
  unfold settleStaleVerdict
  split
  · exact follows_bind (follows_recordReconciledFill deps _ signature hknown h)
      fun _ _ _ => follows_done _
  · split
    · exact follows_updateOrderLogged hknown (revises_reported ..)
    · exact follows_done _
  · exact follows_updateOrderLogged hknown (revises_reported ..)
  · exact follows_done _

/-- One order of the periodic reconciliation follows the discipline. -/
theorem follows_reconcileStaleOrder (deps : Deps) (now : Time) {order : OrderRecord}
    (hknown : Known K order) (h : order.state.isTerminal = false) :
    (reconcileStaleOrder deps now order).Follows discipline K := by
  unfold reconcileStaleOrder
  dsimp only
  split
  · split
    · exact follows_updateOrderLogged hknown (revises_reported ..)
    · exact follows_done _
  · exact follows_updateOrderLogged hknown (revises_reported ..)
  · split
    · refine follows_bind (follows_reconcileSignature ..) fun verdict _ hK => ?_
      exact follows_settleStaleVerdict deps _ _ _ (hknown.mono hK) h
    · exact follows_done _

/-- The periodic reconciliation follows it. -/
theorem follows_reconcileStaleOrders (deps : Deps) :
    (reconcileStaleOrders deps).Follows discipline K := by
  unfold reconcileStaleOrders
  refine follows_bind (follows_op trivial) fun now _ _ => ?_
  refine follows_perform_bind trivial fun r => ?_
  split
  · exact follows_done _
  · rename_i incomplete
    refine follows_foldlM _ _ (fun _ order hmem K₂ hK => ?_) _
    refine follows_reconcileStaleOrder deps now (.of_mem (hK (.inr ?_))) (not_terminal_of_mem hmem)
    exact ⟨incomplete, rfl, hmem⟩

/-- Adopting a balance of the chain writes no order. -/
theorem follows_saveAdopted (before : Portfolio) (mint : String) (onChainAmount : UInt64)
    (decimals : UInt8) (now : Time) :
    FollowsE discipline K (saveAdopted before
      (before.reconcileWithChain mint onChainAmount decimals now).2 mint onChainAmount decimals
      now) := by
  unfold saveAdopted
  split
  · rename_i copy p hcopy hp
    refine followsE_mk (follows_op ?_)
    have hmint : copy.mint = mint := Portfolio.mint_of_position hcopy
    simp only [Portfolio.reconcileWithChain, hcopy, Portfolio.position_put,
      Position.reconcileWithChain_mint, hmint, if_true, Option.some.injEq] at hp
    simp only [permits, hmint, ← hp]
  · exact followsE_pure _

/-- The reconciliation of one position follows the discipline. -/
theorem follows_reconcilePosition (balances : List TokenBalance)
    (s : ReconcileSummary × Portfolio) (mint : String) :
    FollowsE discipline K (reconcilePosition balances s mint) := by
  unfold reconcilePosition
  refine followsE_bind (follows_ask (follows_op trivial)) fun now _ _ => ?_
  split
  · dsimp only
    split
    · exact followsE_bind (follows_saveAdopted ..) fun _ _ _ => followsE_pure _
    · exact followsE_pure _
  · dsimp only
    split
    · refine followsE_bind (follows_saveAdopted ..) fun _ _ _ => ?_
      split <;> exact followsE_pure _
    · exact followsE_pure _
    · exact followsE_pure _

/-- The reconciliation of the positions follows it. -/
theorem follows_reconcilePositionsOnchain (deps : Deps) :
    FollowsE discipline K (reconcilePositionsOnchain deps) := by
  unfold reconcilePositionsOnchain
  split
  · exact followsE_pure _
  · refine followsE_bind (follows_ask (follows_op trivial)) fun balances _ _ => ?_
    split
    · exact followsE_pure _
    · refine followsE_bind (followsE_mk (follows_op trivial)) fun stored _ _ => ?_
      refine followsE_bind (follows_ask (follows_op trivial)) fun mints _ _ => ?_
      refine followsE_bind (followsE_foldlM _ _ (fun s mint _ _ _ => ?_) _)
        fun s _ _ => followsE_pure _
      exact follows_reconcilePosition _ s mint

/-- A whole reconciliation follows it. -/
theorem follows_runReconciliation (deps : Deps) :
    FollowsE discipline K (runReconciliation deps) := by
  unfold runReconciliation
  refine followsE_bind (follows_reconcilePendingOrders deps) fun summary _ _ => ?_
  exact followsE_bind (follows_reconcilePositionsOnchain deps) fun _ _ _ => followsE_pure _

/-! ## The exit path -/

/-- The accounting of an exit confirms the order that was placed. -/
theorem follows_persistExit (deps : Deps) (fill : Fill) {placed : OrderRecord}
    (stored : Option Position) (mint reason : String) (pf : Portfolio) (hknown : Known K placed)
    (h : placed.state.isTerminal = false) (hmint : placed.mint = mint)
    (hkind : placed.kind = .exit) (hstored : ∀ p, stored = some p → p.mint = mint) :
    (persistExit deps fill placed stored mint reason pf).Follows discipline K := by
  unfold persistExit
  dsimp only
  refine follows_bind (follows_op trivial) fun now _ hK => ?_
  refine follows_perform_bind ⟨hknown.mono hK, h, hmint, ?_, ?_⟩ fun r => ?_
  · simp [exitTransaction, Accounting.isEntry, hkind]
  · intro p reason' now' haccounting
    simp only [exitTransaction, Accounting.exit.injEq] at haccounting
    exact hstored p haccounting.1
  · split
    · exact follows_bind (follows_op trivial) fun _ _ _ => follows_done _
    · -- the record that the transaction hands back is still one of the same order
      refine follows_bind (follows_updateOrderLogged (.of_mem (.inr rfl)) ?_)
        fun _ _ _ => follows_done _
      exact OrderRecord.revises_transitionOrKeep _ _ _ _

/-- A pending order is submitted. -/
theorem transitionOrKeep_submitted {order : OrderRecord} (h : order.state = .pending) :
    order.transitionOrKeep .submitted = { order with state := .submitted } := by
  simp [OrderRecord.transitionOrKeep, OrderRecord.transition, h, OrderState.canTransition]

/-- Submitting is a revision of the order. -/
theorem revises_submitted (order : OrderRecord) :
    order.Revises (order.transitionOrKeep .submitted) := by
  obtain ⟨s, h, hs⟩ := order.transitionOrKeep_spec .submitted
  rw [h]
  exact ⟨⟨rfl, rfl, rfl, rfl, rfl⟩, hs⟩

/-- What follows the reservation of an exit revises the reserved order only. -/
theorem follows_submitExit (deps : Deps) {order : OrderRecord} (terms : ExitTerms)
    (remaining : UInt64) (stored : Option Position) (mint reason : String) (pf : Portfolio)
    (hknown : Known K order) (h : order.state = .pending) (hmint : order.mint = mint)
    (hkind : order.kind = .exit) (hstored : ∀ p, stored = some p → p.mint = mint) :
    (submitExit deps order terms remaining stored mint reason pf).Follows discipline K := by
  unfold submitExit
  dsimp only
  refine follows_bind (follows_op trivial) fun quote _ hK₁ => ?_
  have hknown := hknown.mono hK₁
  split
  · exact follows_bind (follows_updateOrderLogged hknown (revises_reported ..))
      fun _ _ _ => follows_done _
  · split
    · exact follows_bind (follows_updateOrderLogged hknown (revises_reported ..))
        fun _ _ _ => follows_done _
    · refine follows_bind (follows_updateOrderLogged hknown (revises_submitted order))
        fun _ _ hK₂ => ?_
      refine follows_bind (follows_op trivial) fun r _ hK₃ => ?_
      have hplaced := ((hknown.mono hK₂).mono hK₃).trans (revises_submitted order).toSameOrder
      rw [transitionOrKeep_submitted h] at hplaced ⊢
      split
      · exact follows_persistExit deps _ stored mint reason pf hplaced rfl hmint hkind hstored
      · refine follows_bind (follows_updateOrderLogged hplaced ?_) fun _ _ _ => follows_done _
        exact OrderRecord.revises_transitionOrKeep _ _ _ _
      · exact follows_bind (follows_updateOrderLogged hplaced (revises_reported ..))
          fun _ _ _ => follows_done _

/-- The reservation follows a check in which no exit of the position was found. -/
theorem follows_reserveExit (deps : Deps) (position : Position) (remaining : UInt64)
    (terms : ExitTerms) {incomplete : List OrderRecord} (stored : List Position)
    (mint reason : String) (now : Time) (pf : Portfolio)
    (h : incomplete.any (isExitOf position.positionId) = false) :
    (reserveExit deps position remaining terms incomplete stored mint reason now pf).Follows
      discipline K := by
  unfold reserveExit
  refine follows_bind (follows_op trivial) fun orders _ _ => ?_
  split
  · exact follows_done _
  · dsimp only
    split
    · exact follows_done _
    · refine follows_bind (follows_op trivial) fun id _ _ => ?_
      refine follows_perform_bind ⟨rfl, fun _ => h⟩ fun r => ?_
      split
      · exact follows_done _
      · exact follows_done _
      · refine follows_submitExit deps terms remaining _ mint reason pf (.of_mem (.inr ⟨rfl, rfl⟩))
          rfl rfl rfl fun p hp => ?_
        simpa using List.find?_some hp

/-- An exit follows the discipline. -/
theorem follows_executeExitOrder (deps : Deps) (mint reason : String) (pf : Portfolio) :
    (executeExitOrder deps mint reason pf).Follows discipline K := by
  unfold executeExitOrder
  refine follows_bind (follows_op trivial) fun now _ _ => ?_
  refine follows_bind (follows_op trivial) fun stored _ _ => ?_
  split
  · exact follows_done _
  · split
    · exact follows_done _
    · refine follows_bind (follows_op trivial) fun incomplete _ _ => ?_
      split
      · exact follows_done _
      · split
        · exact follows_done _
        · rename_i hany
          split
          · exact follows_done _
          · exact follows_reserveExit _ _ _ _ _ _ _ _ _ (by simpa using hany)

/-! ## The session -/

/-- The price of SOL is read without the orders. -/
theorem follows_refreshSolPrice (deps : Deps) (now : Time) :
    FollowsS discipline K (refreshSolPrice deps now) := by
  unfold refreshSolPrice
  refine followsS_bind followsS_get fun s _ _ => ?_
  split
  · refine followsS_bind (follows_look (follows_op trivial)) fun price _ _ => ?_
    split
    · split <;> exact followsS_modify _
    · exact followsS_modify _
  · exact followsS_pure _

/-- The reconciliation of a tick follows the discipline. -/
theorem follows_periodicReconciliation (deps : Deps) :
    FollowsS discipline K (periodicReconciliation deps) := by
  unfold periodicReconciliation
  split
  · refine followsS_bind (follows_look (follows_op trivial)) fun t _ _ => ?_
    refine followsS_bind followsS_get fun s _ _ => ?_
    split
    · refine followsS_bind (follows_look (follows_reconcilePositionsOnchain deps)) fun _ _ _ => ?_
      exact followsS_bind (follows_look (follows_op trivial)) fun _ _ _ => followsS_modify _
    · exact followsS_pure _
  · exact followsS_pure _

/-- Reading the emergency stop writes no order. -/
theorem follows_readEmergencyStop : FollowsS discipline K readEmergencyStop := by
  unfold readEmergencyStop
  refine followsS_bind (follows_look (follows_op trivial)) fun r _ _ => ?_
  split <;> exact followsS_modify _

/-- Reading the kill switch writes no order. -/
theorem follows_readKillSwitch : FollowsS discipline K readKillSwitch := by
  unfold readKillSwitch
  refine followsS_bind (follows_orStop (follows_op trivial)) fun r _ _ => ?_
  split
  · exact followsS_modify _
  · exact followsS_pure _

/-- The amount of a candidate is computed without the orders. -/
theorem follows_tokenAmount (c : CandidateInput) : FollowsS discipline K (tokenAmount c) := by
  unfold tokenAmount
  refine followsS_bind (follows_look (follows_op trivial)) fun n _ _ => ?_
  split
  · exact followsS_pure _
  · exact followsS_throw _

/-- Registering a quote writes no order. -/
theorem follows_registerQuote (deps : Deps) (c : CandidateInput) (tokens : UInt64)
    (impactBps : UInt32) (source : String) (now : Time) :
    FollowsS discipline K (registerQuote deps c tokens impactBps source now) :=
  followsS_bind (follows_look (follows_op trivial)) fun _ _ _ => followsS_pure _

/-- A candidate of the feed writes no order. -/
theorem follows_ingestFeedCandidate (deps : Deps) (now : Time) (c : CandidateInput) :
    FollowsS discipline K (ingestFeedCandidate deps now c) := by
  unfold ingestFeedCandidate
  refine followsS_bind (follows_look (follows_op trivial)) fun _ _ _ => ?_
  split
  · exact followsS_pure _
  · split
    · exact followsS_pure _
    · split
      · refine followsS_bind (follows_tokenAmount c) fun tokens _ _ => ?_
        refine followsS_bind (follows_look (follows_op trivial)) fun impact _ _ => ?_
        split
        · exact followsS_throw _
        · exact follows_registerQuote _ _ _ _ _ _
      · exact followsS_throw _

/-- A candidate of the wallet monitor writes no order. -/
theorem follows_ingestMonitorCandidate (deps : Deps) (now : Time) (c : CandidateInput) :
    FollowsS discipline K (ingestMonitorCandidate deps now c) := by
  unfold ingestMonitorCandidate
  refine followsS_bind (follows_look (follows_op trivial)) fun _ _ _ => ?_
  refine followsS_bind followsS_get fun s _ _ => ?_
  split
  · exact followsS_pure _
  · split
    · exact followsS_pure _
    · split
      · refine followsS_bind (follows_tokenAmount c) fun tokens _ _ => ?_
        refine followsS_bind (follows_look (follows_op trivial)) fun impact _ _ => ?_
        split
        · exact followsS_pure _
        · exact follows_registerQuote _ _ _ _ _ _
      · exact followsS_pure _

/-- The feed writes no order. -/
theorem follows_ingestFeed (deps : Deps) (now : Time) :
    FollowsS discipline K (ingestFeed deps now) := by
  unfold ingestFeed
  split
  · exact followsS_pure _
  · refine followsS_bind (follows_look (follows_op trivial)) fun cs _ _ => ?_
    refine followsS_bind (followsS_foldlM _ _ (fun _ c _ _ _ => ?_) _) fun _ _ _ => followsS_modify _
    exact follows_ingestFeedCandidate deps now c

/-- The wallet monitor writes no order. -/
theorem follows_ingestWalletMonitor (deps : Deps) (now : Time) :
    FollowsS discipline K (ingestWalletMonitor deps now) := by
  unfold ingestWalletMonitor
  refine followsS_bind followsS_get fun s _ _ => ?_
  split
  · refine followsS_bind (follows_look (follows_op trivial)) fun r _ _ => ?_
    split
    · exact followsS_pure _
    · refine followsS_bind (followsS_foldlM _ _ (fun _ c _ _ _ => ?_) _) fun _ _ _ => followsS_modify _
      exact follows_ingestMonitorCandidate deps now c
  · exact followsS_pure _

/-- Latching the kill switch writes no order. -/
theorem follows_latchDrawdown : FollowsS discipline K latchDrawdown := by
  unfold latchDrawdown
  refine followsS_bind followsS_get fun s _ _ => ?_
  split
  · refine followsS_bind (follows_orStop (follows_op trivial)) fun r _ _ => ?_
    split
    · exact follows_orStop (follows_op trivial)
    · exact followsS_pure _
  · exact followsS_pure _

/-- Marking the equity writes no order. -/
theorem follows_markEquity (deps : Deps) : FollowsS discipline K (markEquity deps) := by
  unfold markEquity
  refine followsS_bind followsS_get fun s _ _ => ?_
  refine followsS_bind (followsS_modify _) fun _ _ _ => ?_
  exact followsS_bind follows_latchDrawdown fun _ _ _ => followsS_modify _

/-- Reading the last liquidity writes no order. -/
theorem follows_persistedLiquidity (deps : Deps) (mint : String) :
    (persistedLiquidity deps mint).Follows discipline K := by
  unfold persistedLiquidity
  refine follows_bind (follows_op trivial) fun r _ _ => ?_
  split
  · dsimp only
    split
    · refine follows_bind (follows_op trivial) fun now _ _ => ?_
      split <;> exact follows_done _
    · exact follows_done _
  · exact follows_done _
  · exact follows_done _

/-- Finding the liquidity for an exit writes no order. -/
theorem follows_exitLiquidity (deps : Deps) (candidate : Option CandidateInput) (mint : String) :
    (exitLiquidity deps candidate mint).Follows discipline K := by
  unfold exitLiquidity
  split
  · exact follows_done _
  · exact follows_persistedLiquidity deps mint

/-- Asking for an invalidated signal writes no order. -/
theorem follows_signalInvalidated (signalId : String) :
    (signalInvalidated signalId).Follows discipline K := by
  unfold signalInvalidated
  split
  · exact follows_done _
  · refine follows_bind (follows_op trivial) fun r _ _ => ?_
    split <;> exact follows_done _

/-- Deriving a mark writes no order. -/
theorem follows_deriveMark (deps : Deps) (baseMint : Option String) (mint : String)
    (remaining : UInt64) (baseDecimals tokenDecimals : UInt8) (basePrice : Decimal) :
    (deriveMark deps baseMint mint remaining baseDecimals tokenDecimals basePrice).Follows
      discipline K := by
  unfold deriveMark
  split
  · exact follows_done _
  · refine follows_bind (follows_op trivial) fun r _ _ => ?_
    split
    · exact follows_done _
    · split
      · exact follows_done _
      · exact follows_bind (follows_op trivial) fun _ _ _ => follows_done _

/-- The attempt of an exit follows the discipline. -/
theorem follows_attemptExit (deps : Deps) (mint : String) (remaining : UInt64) (reason : String) :
    FollowsS discipline K (attemptExit deps mint remaining reason) := by
  unfold attemptExit
  refine followsS_bind followsS_get fun s _ _ => ?_
  split
  · exact followsS_pure _
  · refine followsS_bind followsS_get fun s _ _ => ?_
    refine followsS_bind (follows_look (follows_executeExitOrder ..)) fun r _ _ => ?_
    refine followsS_bind (followsS_modify _) fun _ _ _ => ?_
    split
    · exact followsS_modify _
    · refine followsS_bind followsS_get fun s _ _ => ?_
      refine followsS_bind (followsS_modify _) fun _ _ _ => ?_
      split
      · exact follows_orStop (follows_op trivial)
      · exact followsS_pure _
    · exact followsS_pure _
    · exact followsS_pure _

/-- Marking a position and exiting it follows the discipline. -/
theorem follows_markAndExit (deps : Deps) (position : Position) (mint : String)
    (remaining : UInt64) (liquidity : Option Decimal) (invalidated : Bool) (mark : Decimal) :
    FollowsS discipline K
      (markAndExit deps position mint remaining liquidity invalidated mark) := by
  unfold markAndExit
  refine followsS_bind followsS_get fun s _ _ => ?_
  refine followsS_bind (followsS_modify _) fun _ _ _ => ?_
  split
  · exact followsS_throw _
  · refine followsS_bind (follows_look (follows_op trivial)) fun now _ _ => ?_
    split
    · exact followsS_pure _
    · exact follows_attemptExit _ _ _ _

/-- The exit turn of one position follows it. -/
theorem follows_processExit (deps : Deps) (mint : String) :
    FollowsS discipline K (processExit deps mint) := by
  unfold processExit
  refine followsS_bind followsS_get fun s _ _ => ?_
  split
  · exact followsS_pure _
  · split
    · exact followsS_pure _
    · refine followsS_bind (follows_orStop (follows_op trivial)) fun incomplete _ _ => ?_
      split
      · exact followsS_pure _
      · split
        · refine followsS_bind (follows_look (follows_exitLiquidity ..)) fun liquidity _ _ => ?_
          refine followsS_bind (follows_look (follows_signalInvalidated _)) fun invalidated _ _ => ?_
          refine followsS_bind (follows_look (follows_deriveMark ..)) fun mark _ _ => ?_
          split
          · exact followsS_pure _
          · exact follows_markAndExit _ _ _ _ _ _ _
        · exact followsS_pure _

/-- The exit stage follows it. -/
theorem follows_processExits (deps : Deps) : FollowsS discipline K (processExits deps) := by
  unfold processExits
  refine followsS_bind followsS_get fun s _ _ => ?_
  refine followsS_bind (follows_look (follows_op trivial)) fun mints _ _ => ?_
  exact followsS_foldlM _ _ (fun _ mint _ _ _ => follows_processExit deps mint) _

/-- Counting a failure writes no order. -/
theorem follows_countFailure : FollowsS discipline K countFailure := by
  unfold countFailure
  refine followsS_bind followsS_get fun s _ _ => ?_
  refine followsS_bind (followsS_modify _) fun _ _ _ => ?_
  split
  · exact follows_orStop (follows_op trivial)
  · exact followsS_pure _

/-- The accounting of an entry confirms the order that was placed. -/
theorem follows_persistEntry (deps : Deps) (ctx : EntryContext) (fill : Fill)
    {placed : OrderRecord} (minOutputAmount : UInt64) (hknown : Known K placed)
    (h : placed.state.isTerminal = false) (hmint : placed.mint = ctx.mint)
    (hkind : placed.kind = .entry) :
    FollowsS discipline K (persistEntry deps ctx fill placed minOutputAmount) := by
  unfold persistEntry
  refine followsS_bind followsS_get fun s _ hK => ?_
  dsimp only
  refine followsS_look_bind ⟨hknown.mono hK, h, hmint, ?_, fun _ _ _ h => by cases h⟩ fun r => ?_
  · simp [entryTransaction, Accounting.isEntry, hkind]
  · split
    · refine followsS_bind (followsS_modify _) fun _ _ _ => ?_
      split
      · exact follows_countFailure
      · exact followsS_pure _
    · refine follows_orStop (follows_op ⟨.of_mem (.inr rfl), ?_⟩)
      exact OrderRecord.revises_transitionOrKeep _ _ _ _

/-- What follows the reservation of an entry revises the reserved order only. -/
theorem follows_submitEntry (deps : Deps) (ctx : EntryContext) {order : OrderRecord}
    (quote : Quote) (hknown : Known K order) (h : order.state = .pending)
    (hmint : order.mint = ctx.mint) (hkind : order.kind = .entry) :
    FollowsS discipline K (submitEntry deps ctx order quote) := by
  unfold submitEntry
  dsimp only
  refine followsS_bind (follows_orStop (follows_op ⟨hknown, revises_submitted order⟩))
    fun _ _ hK₁ => ?_
  refine followsS_bind (follows_look (follows_op trivial)) fun r _ hK₂ => ?_
  have hplaced := ((hknown.mono hK₁).mono hK₂).trans (revises_submitted order).toSameOrder
  rw [transitionOrKeep_submitted h] at hplaced ⊢
  split
  · exact follows_persistEntry deps ctx _ _ hplaced rfl hmint hkind
  · refine follows_orStop (follows_op ⟨hplaced, ?_⟩)
    exact OrderRecord.revises_transitionOrKeep _ _ _ _
  · exact followsS_bind (follows_orStop (follows_op ⟨hplaced, revises_reported _ _ _⟩))
      fun _ _ _ => follows_countFailure

/-- Placing an entry reserves an order and revises it. -/
theorem follows_placeEntry (deps : Deps) (c : CandidateInput) (screened : ScreenedCandidate)
    (signal : TradeSignal) (inputAmountAtomic : UInt64) (positionUsd : Decimal) (now : Time) :
    FollowsS discipline K
      (placeEntry deps c screened signal inputAmountAtomic positionUsd now) := by
  unfold placeEntry
  dsimp only
  refine followsS_bind (follows_look (follows_op trivial)) fun quote _ _ => ?_
  split
  · exact followsS_pure _
  · refine followsS_bind followsS_get fun s _ _ => ?_
    split
    · exact followsS_pure _
    · split
      · exact followsS_pure _
      · refine followsS_bind (follows_look (follows_op trivial)) fun positionId _ _ => ?_
        refine followsS_bind (follows_look (follows_op trivial)) fun id _ _ => ?_
        -- an entry is not an exit, so no check precedes its reservation
        refine followsS_reserveOrder_bind ⟨rfl, fun h => by cases h⟩ fun reserved _ _ hmem => ?_
        refine followsS_bind ?_ fun _ _ _ => followsS_modify _
        unfold submitReserved
        split
        · rename_i h
          exact follows_submitEntry deps _ _ (.of_mem (hmem h)) rfl rfl rfl
        · exact followsS_pure _

/-- The size of an entry is computed without the orders. -/
theorem follows_sizeEntry (config : Config) (s : SessionState) (c : CandidateInput)
    (tokenDecimals : UInt8) : (sizeEntry config s c tokenDecimals).Follows discipline K := by
  unfold sizeEntry
  dsimp only
  split
  · split
    · exact follows_done _
    · split
      · exact follows_done _
      · exact follows_bind (follows_op trivial) fun _ _ _ => follows_done _
  · exact follows_bind (follows_op trivial) fun _ _ _ => follows_done _

/-- The entry turn of one candidate follows the discipline. -/
theorem follows_processEntry (deps : Deps) (now : Time) (mint : String) :
    FollowsS discipline K (processEntry deps now mint) := by
  unfold processEntry
  dsimp only
  refine followsS_bind followsS_get fun s _ _ => ?_
  split
  · exact followsS_pure _
  · refine followsS_bind followsS_get fun s _ _ => ?_
    split
    · exact followsS_pure _
    · refine followsS_bind (follows_look (follows_op trivial)) fun t _ _ => ?_
      refine followsS_bind (follows_look (follows_op trivial)) fun uuid _ _ => ?_
      split
      · exact followsS_pure _
      · refine followsS_bind followsS_get fun s _ _ => ?_
        split
        · exact followsS_pure _
        · refine followsS_bind (followsS_modify _) fun _ _ _ => ?_
          refine followsS_bind followsS_get fun s _ _ => ?_
          refine followsS_bind (follows_look (follows_sizeEntry ..)) fun sized _ _ => ?_
          split
          · exact followsS_pure _
          · split
            · exact followsS_pure _
            · exact follows_placeEntry _ _ _ _ _ _ _

/-- The entry stage follows it. -/
theorem follows_processEntries (deps : Deps) : FollowsS discipline K (processEntries deps) := by
  unfold processEntries
  refine followsS_bind (follows_look (follows_op trivial)) fun now _ _ => ?_
  refine followsS_bind followsS_get fun s _ _ => ?_
  refine followsS_bind (follows_look (follows_op trivial)) fun mints _ _ => ?_
  exact followsS_foldlM _ _ (fun _ mint _ _ _ => follows_processEntry deps now mint) _

/-- A tick follows it. -/
theorem follows_tick (deps : Deps) : FollowsS discipline K (tick deps) := by
  unfold tick
  refine followsS_bind (follows_look (follows_op trivial)) fun now _ _ => ?_
  refine followsS_bind (followsS_modify _) fun _ _ _ => ?_
  refine followsS_bind (follows_refreshSolPrice deps now) fun _ _ _ => ?_
  refine followsS_bind (follows_periodicReconciliation deps) fun _ _ _ => ?_
  refine followsS_bind (follows_look (follows_reconcilePendingOrders deps)) fun _ _ _ => ?_
  refine followsS_bind follows_readEmergencyStop fun _ _ _ => ?_
  refine followsS_bind follows_readKillSwitch fun _ _ _ => ?_
  refine followsS_bind (followsS_modify _) fun _ _ _ => ?_
  refine followsS_bind (follows_ingestFeed deps now) fun _ _ _ => ?_
  refine followsS_bind (follows_ingestWalletMonitor deps now) fun _ _ _ => ?_
  refine followsS_bind (follows_markEquity deps) fun _ _ _ => ?_
  refine followsS_bind (follows_processExits deps) fun _ _ _ => ?_
  refine followsS_bind followsS_get fun s _ _ => ?_
  split
  · exact followsS_pure _
  · refine followsS_bind (follows_orStop (follows_op trivial)) fun incomplete _ _ => ?_
    split
    · exact follows_processEntries deps
    · exact followsS_pure _

/-- Storing the session's state writes no order. -/
theorem follows_persistSessionState : FollowsS discipline K persistSessionState := by
  unfold persistSessionState
  refine followsS_bind followsS_get fun s _ _ => ?_
  refine followsS_bind (follows_orStop (follows_op trivial)) fun _ _ _ => ?_
  refine followsS_bind (follows_orStop (follows_op trivial)) fun _ _ _ => ?_
  exact follows_orStop (follows_op trivial)

/-- All ticks follow the discipline. -/
theorem follows_sessionTicks (deps : Deps) (n : ℕ) :
    FollowsS discipline K (sessionTicks deps n) := by
  induction n generalizing K with
  | zero => exact followsS_pure _
  | succ n ih =>
      refine followsS_bind followsS_get fun s _ _ => ?_
      refine followsS_bind (follows_look (follows_tick deps s)) fun r _ _ => ?_
      refine followsS_bind (followsS_set _) fun _ _ _ => ?_
      exact followsS_bind follows_persistSessionState fun _ _ _ => ih

/-- Restoring the day writes no order. -/
theorem follows_restoreDay : FollowsS discipline K restoreDay := by
  unfold restoreDay
  refine followsS_bind (follows_look (follows_op trivial)) fun now _ _ => ?_
  refine followsS_bind (followsS_modify _) fun _ _ _ => ?_
  refine followsS_bind (follows_orStop (follows_op trivial)) fun storedDay _ _ => ?_
  refine followsS_bind (follows_orStop (follows_op trivial)) fun storedStart _ _ => ?_
  refine followsS_bind (follows_orStop (follows_op trivial)) fun storedTrades _ _ => ?_
  split
  · exact followsS_modify _
  · exact followsS_pure _

/-- Restoring the emergency stop writes no order. -/
theorem follows_restoreEmergencyStop : FollowsS discipline K restoreEmergencyStop := by
  unfold restoreEmergencyStop
  refine followsS_bind (follows_orStop (follows_op trivial)) fun r _ _ => ?_
  split
  · exact followsS_modify _
  · exact followsS_pure _

/-- Starting the wallet monitor writes no order. -/
theorem follows_startWalletMonitor (deps : Deps) :
    FollowsS discipline K (startWalletMonitor deps) := by
  unfold startWalletMonitor
  split
  · refine followsS_bind (follows_look (follows_op trivial)) fun r _ _ => ?_
    split
    · exact followsS_modify _
    · exact followsS_pure _
  · exact followsS_pure _

/-- The reconciliation at the start follows the discipline. -/
theorem follows_startupReconciliation (deps : Deps) :
    FollowsS discipline K (startupReconciliation deps) := by
  unfold startupReconciliation
  split
  · exact follows_orStop (follows_runReconciliation deps)
  · exact follows_orStop (follows_reconcilePendingOrders deps)

/-- The reconciliation at the end follows it. -/
theorem follows_finalReconciliation (deps : Deps) :
    FollowsS discipline K (finalReconciliation deps) := by
  unfold finalReconciliation
  split
  · exact followsS_bind (follows_look (follows_reconcilePendingOrders deps)) fun _ _ _ => followsS_pure _
  · exact followsS_pure _

/-- The body of a session follows it. -/
theorem follows_sessionBody (deps : Deps) (ticks : ℕ) :
    FollowsS discipline K (sessionBody deps ticks) := by
  unfold sessionBody
  refine followsS_bind (follows_startWalletMonitor deps) fun _ _ _ => ?_
  refine followsS_bind follows_restoreDay fun _ _ _ => ?_
  refine followsS_bind follows_readKillSwitch fun _ _ _ => ?_
  refine followsS_bind follows_restoreEmergencyStop fun _ _ _ => ?_
  refine followsS_bind (follows_startupReconciliation deps) fun _ _ _ => ?_
  refine followsS_bind (follows_look (follows_op trivial)) fun t _ _ => ?_
  refine followsS_bind (followsS_modify _) fun _ _ _ => ?_
  refine followsS_bind (follows_sessionTicks deps ticks) fun _ _ _ => ?_
  exact follows_finalReconciliation deps

/-- A session follows it. -/
theorem follows_runSession (deps : Deps) (ticks : ℕ) :
    (runSession deps ticks).Follows discipline K := by
  unfold runSession
  refine follows_bind (follows_op trivial) fun stored _ _ => ?_
  split
  · exact follows_done _
  · exact follows_bind (follows_sessionBody deps ticks _) fun _ _ _ => follows_done _

/-! ## Exiting everything -/

/-- Fetching the balances writes no order. -/
theorem follows_fetchBalances (deps : Deps) : (fetchBalances deps).Follows discipline K := by
  unfold fetchBalances
  split
  · split
    · exact follows_done _
    · refine follows_bind (follows_op trivial) fun r _ _ => ?_
      split <;> exact follows_done _
  · exact follows_done _

/-- The operator's exit of one position follows the discipline. -/
theorem follows_exitPosition (deps : Deps) (balances : List TokenBalance) (exited : ℕ)
    (mint : String) : FollowsS discipline K (exitPosition deps balances exited mint) := by
  unfold exitPosition
  refine followsS_bind followsS_get fun s _ _ => ?_
  split
  · exact followsS_pure _
  · split
    · exact followsS_pure _
    · split
      · exact followsS_pure _
      · refine followsS_bind (follows_orStop (follows_op trivial)) fun incomplete _ _ => ?_
        split
        · exact followsS_pure _
        · exact followsS_bind (follows_attemptExit _ _ _ _) fun _ _ _ => followsS_pure _

/-- The operator's exit of all positions follows it. -/
theorem follows_exitAllPositions (deps : Deps) : (exitAllPositions deps).Follows discipline K := by
  unfold exitAllPositions
  refine follows_bind (follows_op trivial) fun stored _ _ => ?_
  split
  · exact follows_done _
  · dsimp only
    refine follows_bind (follows_op trivial) fun mints _ _ => ?_
    refine follows_bind (follows_fetchBalances deps) fun balances _ _ => ?_
    refine follows_bind ?_ fun _ _ _ => follows_done _
    exact followsS_foldlM _ _ (fun exited mint _ _ _ => follows_exitPosition deps balances exited mint) _ _

/-! ## The exit monitor -/

/-- A look of the exit monitor follows it if its task does. -/
theorem follows_monitorLook {α : Type} {t : Model.Task α} (h : t.Follows discipline K) :
    FollowsS discipline K (Monitor.look t) :=
  followsS_lift h

/-- A task that can end a turn of the monitor follows it. -/
theorem follows_monitorOrStop {α : Type} {t : Model.Task (Except String α)}
    (h : t.Follows discipline K) : FollowsS discipline K (Monitor.orStop t) := by
  refine followsS_bind (follows_monitorLook h) fun r _ _ => ?_
  cases r with
  | ok a => exact followsS_pure a
  | error e => exact followsS_throw e

/-- Reading the cached quote writes no order. -/
theorem follows_cachedQuote (deps : Deps) (mint : String) :
    FollowsS discipline K (cachedQuote deps mint) := by
  unfold cachedQuote
  dsimp only
  split
  · exact followsS_pure _
  · refine followsS_bind followsS_get fun s _ _ => ?_
    split
    · exact followsS_pure _
    · refine followsS_bind (follows_monitorLook (follows_op trivial)) fun t _ _ => ?_
      split <;> exact followsS_pure _

/-- The mark of the monitor is derived without the orders. -/
theorem follows_monitorMark (deps : Deps) (mint : String) (terms : ExitTerms)
    (remaining : UInt64) : FollowsS discipline K (monitorMark deps mint terms remaining) := by
  unfold monitorMark
  refine followsS_bind (follows_cachedQuote deps mint) fun cached _ _ => ?_
  split
  · exact followsS_pure _
  · refine followsS_bind (follows_monitorLook (follows_op trivial)) fun r _ _ => ?_
    split <;> exact followsS_pure _

/-- Caching a quote writes no order. -/
theorem follows_cacheQuote (mint : String) (fetched : Option Quote) :
    FollowsS discipline K (cacheQuote mint fetched) := by
  unfold cacheQuote
  split
  · exact followsS_pure _
  · exact followsS_bind (follows_monitorLook (follows_op trivial)) fun _ _ _ => followsS_modify _

/-- The liquidity of the monitor is found without the orders. -/
theorem follows_monitorLiquidity (deps : Deps) (mint : String) (mark : Decimal)
    (remaining : UInt64) (tokenDecimals : UInt8) (impactBps : UInt32) :
    (monitorLiquidity deps mint mark remaining tokenDecimals impactBps).Follows discipline K := by
  unfold monitorLiquidity
  refine follows_bind (follows_persistedLiquidity deps mint) fun liquidity _ _ => ?_
  split
  · exact follows_done _
  · exact follows_bind (follows_op trivial) fun _ _ _ => follows_done _

/-- The monitor asks for an invalidated signal without the orders. -/
theorem follows_monitorInvalidated (signalId : String) :
    (monitorInvalidated signalId).Follows discipline K := by
  unfold monitorInvalidated
  refine follows_bind (follows_op trivial) fun r _ _ => ?_
  split <;> exact follows_done _

/-- The decision of the monitor and its exit follow the discipline. -/
theorem follows_monitorExit (deps : Deps) (position : Position) (mint : String)
    (remaining : UInt64) (tokenDecimals : UInt8) (mark : Decimal) (impactBps : UInt32) :
    FollowsS discipline K
      (monitorExit deps position mint remaining tokenDecimals mark impactBps) := by
  unfold monitorExit
  refine followsS_bind (follows_monitorLook (follows_monitorLiquidity ..)) fun liquidity _ _ => ?_
  refine followsS_bind (follows_monitorLook (follows_monitorInvalidated _)) fun invalid _ _ => ?_
  refine followsS_bind (follows_monitorLook (follows_op trivial)) fun now _ _ => ?_
  split
  · exact followsS_pure _
  · refine followsS_bind followsS_get fun s _ _ => ?_
    exact followsS_bind (follows_monitorLook (follows_executeExitOrder ..))
      fun _ _ _ => followsS_modify _

/-- The record that is saved is the loaded one with its mark. -/
theorem follows_saveMark (mint : String) (mark : Decimal) (fetched : Option Quote) :
    FollowsS discipline K (saveMark mint mark fetched) := by
  unfold saveMark
  refine followsS_bind followsS_get fun s _ _ => ?_
  dsimp only
  refine followsS_bind (followsS_modify _) fun _ _ _ => ?_
  split
  · rename_i value copy p hok hcopy hp
    obtain ⟨p₀, remaining, entryCost, hp₀, -, -, -, hmarked⟩ := Portfolio.markToMarket_ok hok
    rw [hcopy, Option.some.injEq] at hp₀
    subst hp₀
    obtain rfl : copy.mint = mint := Portfolio.mint_of_position hcopy
    simp only [hmarked, Portfolio.position_put, if_true, Option.some.injEq] at hp
    refine followsS_bind (follows_monitorLook (follows_op ⟨_, _, _, hp.symm⟩)) fun _ _ _ => ?_
    exact followsS_bind (follows_cacheQuote _ _) fun _ _ _ => followsS_pure _
  · exact followsS_bind (follows_cacheQuote _ _) fun _ _ _ => followsS_pure _
  · exact followsS_pure _

/-- A turn of the monitor follows it. -/
theorem follows_monitorPosition (deps : Deps) (mint : String) :
    FollowsS discipline K (monitorPosition deps mint) := by
  unfold monitorPosition
  refine followsS_bind followsS_get fun s _ _ => ?_
  split
  · exact followsS_pure _
  · split
    · exact followsS_pure _
    · split
      · exact followsS_pure _
      · refine followsS_bind (follows_monitorOrStop (follows_op trivial)) fun incomplete _ _ => ?_
        split
        · exact followsS_pure _
        · split
          · exact followsS_pure _
          · refine followsS_bind (follows_monitorMark _ _ _ _) fun mark _ _ => ?_
            split
            · exact followsS_pure _
            · refine followsS_bind (follows_saveMark _ _ _) fun saved _ _ => ?_
              split
              · exact follows_monitorExit _ _ _ _ _ _ _
              · exact followsS_pure _

/-- A tick of the monitor follows it. -/
theorem follows_monitorTick (deps : Deps) : FollowsS discipline K (monitorTick deps) := by
  unfold monitorTick
  refine followsS_bind (follows_monitorLook (follows_reconcileStaleOrders deps)) fun _ _ _ => ?_
  refine followsS_bind (follows_monitorOrStop (follows_op trivial)) fun stored _ _ => ?_
  refine followsS_bind (followsS_modify _) fun _ _ _ => ?_
  refine followsS_bind (follows_monitorOrStop (follows_op trivial)) fun _ _ _ => ?_
  refine followsS_bind (follows_monitorOrStop (follows_op trivial)) fun _ _ _ => ?_
  refine followsS_bind followsS_get fun s _ _ => ?_
  refine followsS_bind (follows_monitorLook (follows_op trivial)) fun mints _ _ => ?_
  exact followsS_foldlM _ _ (fun _ mint _ _ _ => follows_monitorPosition deps mint) _

/-- All ticks of the monitor follow it. -/
theorem follows_monitorTicks (deps : Deps) (n : ℕ) (s : MonitorState) :
    (monitorTicks deps n s).Follows discipline K := by
  induction n generalizing K s with
  | zero => exact follows_done _
  | succ n ih => exact follows_bind (follows_monitorTick deps s) fun r _ _ => ih r.2

/-- The exit monitor follows it. -/
theorem follows_runMonitor (deps : Deps) (ticks : ℕ) :
    (runMonitor deps ticks).Follows discipline K :=
  follows_monitorTicks deps ticks _

end Tasks

/-! ## The tasks -/

/-- The tasks that run concurrently on one store. A task runs with dependencies of its own:
the operator's command is another process. -/
inductive IsTask : Model.Task Unit → Prop
  | session (deps : Deps) (ticks : ℕ) : IsTask (runSession deps ticks)
  | exitMonitor (deps : Deps) (ticks : ℕ) : IsTask (runMonitor deps ticks)
  | exitAllPositions (deps : Deps) : IsTask (do let _ ← exitAllPositions deps; return ())
  | reconciliation (deps : Deps) : IsTask (do let _ ← (runReconciliation deps).run; return ())

/-- **Every task follows the discipline.** -/
theorem IsTask.follows {t : Model.Task Unit} (h : IsTask t) : t.Follows discipline ∅ := by
  cases h with
  | session deps ticks => exact follows_runSession deps ticks
  | exitMonitor deps ticks => exact follows_runMonitor deps ticks
  | exitAllPositions deps =>
      exact follows_bind (follows_exitAllPositions deps) fun _ _ _ => follows_done _
  | reconciliation deps =>
      exact follows_bind (follows_runReconciliation deps) fun _ _ _ => follows_done _

/-- A store and the tasks that run on it. -/
abbrev Bot := Pool Op Res Db

/-- Only tasks of the bot run. -/
def Bot.RunsTasks (bot : Bot) : Prop := ∀ t ∈ bot.procs, IsTask t

end SolanaBot.Analysis
