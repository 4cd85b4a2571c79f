import SolanaBot.Analysis.StoreSteps
import SolanaBot.Analysis.TaskRuns

/-!
# Fills that could not be persisted

The executor has returned a fill and the transaction that records it fails. The store
rolls back, and the order is updated from the record that the closure of the transaction
leaves in memory. That record is already `Confirmed` when the failing statement is the
update of the order or the commit, and a confirmed order does not go back to `Unknown`:
the update then stores a terminal order without its fill (`persistence_recoverable_iff`,
`commit_failure_confirms`).
-/

set_option autoImplicit false

namespace SolanaBot.Analysis

open SolanaBot.Library SolanaBot.Model

/-- What is left to a later reconciliation: fills and positions as before, and the order open,
with the signature of the fill if it could be written. -/
structure Recoverable (before after : Db) (id : String) (fill : Fill) (written : Prop) : Prop where
  fills : after.fills = before.fills
  positions : after.positions = before.positions
  order : ∃ o ∈ after.incompleteOrders.orders, o.id = id ∧
    (o.state = .submitted ∨ o.state = .unknown) ∧ (written → o.signature = some fill.signature)

/-- The transaction fails before the record in memory is confirmed. -/
def isEarly : TxFailure → Bool
  | .begin | .insertFill | .loadPortfolio | .apply | .savePosition | .transition => true
  | .updateOrder | .commit => false

/-! ## The record in memory -/

/-- An order whose fill was not persisted keeps its id. -/
theorem unpersistedOrder_id (placed : OrderRecord) (fill : Fill) (msg : String) :
    (unpersistedOrder placed fill msg).id = placed.id := by
  obtain ⟨s, h, -⟩ := placed.transitionOrKeep_spec .unknown
  unfold unpersistedOrder
  rw [h]

/-- What the fallback writes: `Unknown` after an early failure, `Confirmed` after a late one. -/
theorem unpersistedOrder_state {t : FillTransaction} (hstate : t.order.state = .submitted)
    (f : TxFailure) (fill : Fill) (msg : String) :
    (unpersistedOrder (t.placedAfter f) fill msg).state =
      if isEarly f then .unknown else .confirmed := by
  have hsigned : t.signed.state = .submitted := hstate
  unfold unpersistedOrder OrderRecord.transitionOrKeep OrderRecord.transition
  cases f <;>
    simp [FillTransaction.placedAfter, FillTransaction.confirmed, isEarly, hstate, hsigned,
      OrderState.canTransition]

/-- The state of the store after the fallback, for an order that was submitted. -/
theorem recoverable_fallback_iff {t : FillTransaction} {db : Db} {stored : OrderRecord}
    (hstate : t.order.state = .submitted) (hstored : db.order t.order.id = some stored)
    (hopen : stored.state = .submitted ∨ stored.state = .pending) (f : TxFailure) (e : Env)
    (msg : String) :
    Recoverable db (updatedDb e (unpersistedOrder (t.placedAfter f) t.fill msg) db) t.order.id
        t.fill (e.fault = none) ↔
      if e.fault = none then isEarly f = true else stored.state = .submitted := by
  have hid : (unpersistedOrder (t.placedAfter f) t.fill msg).id = t.order.id := by
    rw [unpersistedOrder_id]
    cases f <;> rfl
  have hnew := unpersistedOrder_state hstate f t.fill msg
  unfold updatedDb
  cases e.fault with
  | none =>
      dsimp only
      have hafter : (db.updateOrder (unpersistedOrder (t.placedAfter f) t.fill msg)).order
          t.order.id = some (unpersistedOrder (t.placedAfter f) t.fill msg) := by
        rw [Db.order_updateOrder, hid, if_pos rfl, hstored]
        rfl
      rw [if_pos rfl]
      constructor
      · rintro ⟨-, -, o, ho, hoid, hostate, -⟩
        rw [Db.mem_incompleteOrders, hoid, hafter] at ho
        cases ho.1
        by_contra hlate
        rw [hnew, if_neg hlate] at hostate
        rcases hostate with h | h <;> cases h
      · intro hearly
        rw [if_pos hearly] at hnew
        refine ⟨Db.fills_updateOrder _ _, Db.positions_updateOrder _ _, _, ?_, hid, .inr hnew,
          fun _ => rfl⟩
        rw [Db.mem_incompleteOrders, hid, hnew]
        exact ⟨hafter, rfl⟩
  | some text =>
      dsimp only
      rw [if_neg nofun]
      constructor
      · rintro ⟨-, -, o, ho, hoid, hostate, -⟩
        rw [Db.mem_incompleteOrders, hoid, hstored] at ho
        cases ho.1
        rcases hopen with h | h
        · exact h
        · rw [h] at hostate
          rcases hostate with h' | h' <;> cases h'
      · intro hsubmitted
        have hsame : stored.id = t.order.id := by
          obtain ⟨row, hrow, rfl⟩ := Option.map_eq_some_iff.mp hstored
          exact (Table.find?_key hrow : OrderRow.id row = t.order.id)
        refine ⟨rfl, rfl, stored, ?_, hsame, .inl hsubmitted, nofun⟩
        rw [Db.mem_incompleteOrders, hsame, hsubmitted]
        exact ⟨hstored, rfl⟩

/-! ## Exits -/

/-- What the executor is asked for by an exit. -/
def exitRequest (deps : Deps) (order : OrderRecord) (terms : ExitTerms) (quote : Quote) :
    ExecutionRequest :=
  { orderId := order.id
    quote
    maxSlippageBps := deps.config.risk.maxSlippageBps
    maxPriceImpactBps := deps.config.execution.maxPriceImpactBps
    minOutputAmount := minOutput quote deps.config.execution.slippageBps
    inputDecimals := terms.tokenDecimals
    outputDecimals := terms.baseDecimals
    valueBasis := .outputUnitPriceUsd terms.basePrice }

/-- An exit whose executor returned a fill, and the failure of its transaction. `i` is the index
of the request for the quote. -/
structure ExitFailure (deps : Deps) (order : OrderRecord) (terms : ExitTerms) (remaining : UInt64)
    (stored : Option Position) (mint reason : String) (env : ℕ → Env) (i : ℕ) (db : Db)
    (t : FillTransaction) (f : TxFailure) : Prop where
  executed : ∃ quote fill,
    (env i).answer (.quote mint terms.baseMint remaining deps.config.execution.slippageBps) =
      .ok quote ∧ quote.priceImpactBps ≤ deps.config.execution.maxPriceImpactBps ∧
    (env (i + 2)).answer (.execute (exitRequest deps order terms quote)) = .ok fill ∧
    t = exitTransaction (finalizeFill fill deps.config.economics.solPriceUsd)
      (order.transitionOrKeep .submitted) stored mint reason (env (i + 3)).clock
  failed : t.failure (env (i + 4)).txFaults
    (updatedDb (env (i + 1)) (order.transitionOrKeep .submitted) db) = some f

/-- An exit whose fill is not persisted is stored as its failure says. -/
theorem submitExit_run {deps : Deps} {order : OrderRecord} {terms : ExitTerms} {remaining : UInt64}
    {stored : Option Position} {mint reason : String} {env : ℕ → Env} {i : ℕ} {db : Db}
    {t : FillTransaction} {f : TxFailure} (pf : Portfolio)
    (h : ExitFailure deps order terms remaining stored mint reason env i db t f) :
    ∃ msg, (Prog.run world env (submitExit deps order terms remaining stored mint reason pf) i
        db).2.1 =
      updatedDb (env (i + 5)) (unpersistedOrder (t.placedAfter f) t.fill msg)
        (updatedDb (env (i + 1)) (order.transitionOrKeep .submitted) db) := by
  obtain ⟨⟨quote, fill, hquote, himpact, hfill, rfl⟩, hfailed⟩ := h
  obtain ⟨msg, hrun⟩ := runFillTransaction_failed hfailed
  refine ⟨msg, ?_⟩
  unfold submitExit
  rw [Prog.run_bind, quote_run]
  dsimp only
  rw [hquote]
  dsimp only
  rw [if_neg (by simpa using himpact), Prog.run_bind, storeUpdateOrderLogged_run, Prog.run_bind,
    execute_run]
  unfold exitRequest at hfill
  simp only [Nat.add_assoc, Nat.reduceAdd]
  rw [hfill]
  unfold persistExit
  rw [Prog.run_bind, clock_run, Prog.run_bind, fillTransaction_run]
  simp only [Nat.add_assoc, Nat.reduceAdd]
  rw [hrun]
  dsimp only
  rw [Prog.run_bind, storeUpdateOrderLogged_run]
  rfl

/-! ## Entries -/

/-- What the executor is asked for by an entry. -/
def entryRequest (deps : Deps) (ctx : EntryContext) (order : OrderRecord) (quote : Quote) :
    ExecutionRequest :=
  { orderId := order.id
    quote
    maxSlippageBps := deps.config.risk.maxSlippageBps
    maxPriceImpactBps := deps.config.execution.maxPriceImpactBps
    minOutputAmount := minOutput quote deps.config.execution.slippageBps
    inputDecimals := ctx.baseMintDecimals
    outputDecimals := ctx.tokenDecimals
    valueBasis := .inputValueUsd ctx.positionUsd }

/-- An entry whose executor returned a fill, and the failure of its transaction. `i` is the index
of the update to `Submitted`, without which nothing is submitted. -/
structure EntryFailure (deps : Deps) (ctx : EntryContext) (order : OrderRecord) (quote : Quote)
    (s : SessionState) (env : ℕ → Env) (i : ℕ) (db : Db) (t : FillTransaction) (f : TxFailure) :
    Prop where
  submitted : (env i).fault = none
  executed : ∃ fill, (env (i + 1)).answer (.execute (entryRequest deps ctx order quote)) =
    .ok fill ∧ t = entryTransaction deps ctx (finalizeFill fill s.solPriceUsd)
      (order.transitionOrKeep .submitted)
  failed : t.failure (env (i + 2)).txFaults
    (updatedDb (env i) (order.transitionOrKeep .submitted) db) = some f

/-- An entry whose fill is not persisted is stored as its failure says. -/
theorem submitEntry_run {deps : Deps} {ctx : EntryContext} {order : OrderRecord} {quote : Quote}
    {s : SessionState} {env : ℕ → Env} {i : ℕ} {db : Db} {t : FillTransaction} {f : TxFailure}
    (h : EntryFailure deps ctx order quote s env i db t f) :
    ∃ msg, (Prog.runS world env (submitEntry deps ctx order quote) i s db).2.1 =
      updatedDb (env (i + 3)) (unpersistedOrder (t.placedAfter f) t.fill msg)
        (updatedDb (env i) (order.transitionOrKeep .submitted) db) := by
  obtain ⟨hsubmitted, ⟨fill, hfill, rfl⟩, hfailed⟩ := h
  obtain ⟨msg, hrun⟩ := runFillTransaction_failed hfailed
  refine ⟨msg, ?_⟩
  unfold entryRequest at hfill
  unfold submitEntry
  rw [Prog.runS_bind, orStop_run, storeUpdateOrder_run]
  have hwritten : written (env i) = .ok () := by
    unfold written
    rw [hsubmitted]
  rw [hwritten]
  dsimp only
  rw [look_run, execute_run]
  dsimp only
  rw [hfill]
  unfold persistEntry
  dsimp only
  rw [Prog.runS_get_bind, look_run, fillTransaction_run]
  simp only [Nat.add_assoc, Nat.reduceAdd]
  rw [hrun]
  dsimp only
  rw [orStop_run, storeUpdateOrder_run]
  rfl

/-! ## Both -/

/-- The stored order after the update to `Submitted`. -/
theorem order_updatedDb_submitted {order : OrderRecord} {db : Db} (e : Env)
    (hpending : order.state = .pending) (hstored : db.order order.id = some order) :
    ∃ stored, (updatedDb e (order.transitionOrKeep .submitted) db).order order.id = some stored ∧
      (stored.state = .submitted ∨ stored.state = .pending) ∧
      (stored.state = .submitted ↔ e.fault = none) := by
  unfold updatedDb
  rw [transitionOrKeep_submitted hpending]
  cases e.fault with
  | none =>
      refine ⟨{ order with state := .submitted }, ?_, .inl rfl, iff_of_true rfl rfl⟩
      dsimp only
      rw [Db.order_updateOrder, if_pos (by rfl), hstored]
      rfl
  | some msg =>
      exact ⟨order, hstored, .inr hpending, iff_of_false (by rw [hpending]; exact nofun) nofun⟩

/-- Updating an order leaves fills and positions. -/
theorem books_updatedDb (e : Env) (o : OrderRecord) (db : Db) :
    (updatedDb e o db).fills = db.fills ∧ (updatedDb e o db).positions = db.positions := by
  unfold updatedDb
  cases e.fault with
  | none => exact ⟨Db.fills_updateOrder _ _, Db.positions_updateOrder _ _⟩
  | some msg => exact ⟨rfl, rfl⟩

/-- The update to `Submitted` changes neither fills nor positions. -/
theorem Recoverable.of_updatedDb {e : Env} {o : OrderRecord} {db after : Db} {id : String}
    {fill : Fill} {written : Prop} :
    Recoverable (updatedDb e o db) after id fill written ↔ Recoverable db after id fill written := by
  obtain ⟨hfills, hpositions⟩ := books_updatedDb e o db
  constructor
  · rintro ⟨h₁, h₂, h₃⟩
    exact ⟨h₁.trans hfills, h₂.trans hpositions, h₃⟩
  · rintro ⟨h₁, h₂, h₃⟩
    exact ⟨h₁.trans hfills.symm, h₂.trans hpositions.symm, h₃⟩

/-- **Fills that could not be persisted.** An exit or an entry that was just reserved, whose
executor returned a fill, and whose transaction fails at the step `f`: the store is as before and
the order is open with the signature of the fill, exactly if the transaction failed before the
record in memory was confirmed, or the fallback is not written either while the update to
`Submitted` was. -/
theorem persistence_recoverable_iff (deps : Deps) (order : OrderRecord) (env : ℕ → Env) (i : ℕ)
    (db : Db) (hpending : order.state = .pending) (hstored : db.order order.id = some order)
    (t : FillTransaction) (f : TxFailure) :
    (∀ (terms : ExitTerms) (remaining : UInt64) (position : Option Position) (mint reason : String)
        (pf : Portfolio), ExitFailure deps order terms remaining position mint reason env i db t f →
      (Recoverable db (Prog.run world env (submitExit deps order terms remaining position mint reason
            pf) i db).2.1 order.id t.fill ((env (i + 5)).fault = none) ↔
        if (env (i + 5)).fault = none then isEarly f = true else (env (i + 1)).fault = none)) ∧
    (∀ (ctx : EntryContext) (quote : Quote) (s : SessionState),
      EntryFailure deps ctx order quote s env i db t f →
      (Recoverable db (Prog.runS world env (submitEntry deps ctx order quote) i s db).2.1 order.id
          t.fill ((env (i + 3)).fault = none) ↔
        ((env (i + 3)).fault = none → isEarly f = true))) := by
  have hplaced := transitionOrKeep_submitted hpending
  constructor
  · intro terms remaining position mint reason pf h
    obtain ⟨msg, hrun⟩ := submitExit_run pf h
    obtain ⟨stored, hsome, hopen, hiff⟩ := order_updatedDb_submitted (env (i + 1)) hpending hstored
    obtain ⟨⟨quote, fill, -, -, -, rfl⟩, -⟩ := h
    rw [hrun, ← Recoverable.of_updatedDb (e := env (i + 1)) (o := order.transitionOrKeep .submitted),
      ← hiff]
    rw [hplaced] at hsome ⊢
    exact recoverable_fallback_iff (t := exitTransaction _ { order with state := .submitted } _ _ _ _)
      rfl hsome hopen f (env (i + 5)) msg
  · intro ctx quote s h
    obtain ⟨msg, hrun⟩ := submitEntry_run h
    obtain ⟨stored, hsome, hopen, hiff⟩ := order_updatedDb_submitted (env i) hpending hstored
    obtain ⟨hsubmitted, ⟨fill, -, rfl⟩, -⟩ := h
    rw [hrun, ← Recoverable.of_updatedDb (e := env i) (o := order.transitionOrKeep .submitted)]
    rw [hplaced] at hsome ⊢
    refine (recoverable_fallback_iff (t := entryTransaction _ _ _ { order with state := .submitted })
      rfl hsome hopen f (env (i + 3)) msg).trans ?_
    split
    · rename_i hnone
      exact ⟨fun h _ => h, fun h => h hnone⟩
    · rename_i hsome'
      exact ⟨fun _ h => absurd h hsome', fun _ => hiff.mpr hsubmitted⟩

/-! ## A commit that fails -/

/-- What the sample position knows about itself. -/
def sampleTerms : ExitTerms := ⟨1, 0, 0, "base"⟩

/-- The reserved exit of the sample position. -/
def reservedExit : OrderRecord :=
  exitOrder "order-1" samplePosition "token" "stop_loss" "key" 100 sampleTerms 100 0

/-- The reserved entry of 10 units of the base. -/
def reservedEntry : OrderRecord :=
  { reservedExit with
    kind := .entry, side := .buy, inputMint := some "base", outputMint := some "token"
    inputAmountAtomic := some 10, error := none }

/-- What the sample entry is made with. -/
def sampleContext : EntryContext :=
  { mint := "token", costs := someCostModel, tokenDecimals := 0, baseMintDecimals := 0
    signalId := "signal", positionId := "position-1", inputAmountAtomic := 10, positionUsd := 10 }

/-- The sample store with a reserved order. -/
def reservedDb (order : OrderRecord) : Db :=
  { sampleDb with orders := sampleDb.orders.put ⟨"key", order⟩ }

/-- The sample world, in which one statement of every transaction fails. -/
def faultyEnv (step : TxStep) : Env :=
  { sampleEnv with txFaults := fun s => if s = step then some "disk full" else none }

/-- The exit of the sample position, with the fill of the sample world. -/
def failedExit : FillTransaction :=
  exitTransaction (finalizeFill (swapFill "order-1" 100 100 10 0) (some 100))
    { reservedExit with state := .submitted } (some samplePosition) "token" "stop_loss" 0

/-- The entry, with the fill of the sample world. -/
def failedEntry : FillTransaction :=
  entryTransaction (sampleDeps false) sampleContext
    (finalizeFill (swapFill "order-1" 10 10 10 0) (some 100)) { reservedEntry with state := .submitted }

/-- The failure of the sample's exit is the one of its step. -/
theorem failedExit_failure (step : TxStep) (f : TxFailure)
    (h : failedExit.failure (faultyEnv step).txFaults (updatedDb (faultyEnv step)
      { reservedExit with state := .submitted } (reservedDb reservedExit)) = some f) :
    ExitFailure (sampleDeps false) reservedExit sampleTerms 100 (some samplePosition) "token"
      "stop_loss" (fun _ => faultyEnv step) 0 (reservedDb reservedExit) failedExit f where
  executed := ⟨sampleQuote "token" "base" 100, _, rfl, by decide +kernel, rfl, rfl⟩
  failed := h

/-- The session that makes the sample entry. -/
def sampleSession : SessionState :=
  { newSessionState (sampleDeps false) Portfolio.empty with solPriceUsd := some 100 }

/-- A transaction that cannot begin leaves a recoverable exit and a recoverable entry. -/
theorem persistence_recoverable_iff_sample :
    Recoverable (reservedDb reservedExit) (Prog.run world (fun _ => faultyEnv .begin)
        (submitExit (sampleDeps false) reservedExit sampleTerms 100 (some samplePosition) "token"
          "stop_loss" Portfolio.empty) 0 (reservedDb reservedExit)).2.1 reservedExit.id
        failedExit.fill ((faultyEnv .begin).fault = none) ∧
    Recoverable (reservedDb reservedEntry) (Prog.runS world (fun _ => faultyEnv .begin)
        (submitEntry (sampleDeps false) sampleContext reservedEntry (sampleQuote "base" "token" 10))
          0 sampleSession (reservedDb reservedEntry)).2.1 reservedEntry.id failedEntry.fill
        ((faultyEnv .begin).fault = none) := by
  constructor
  · refine ((persistence_recoverable_iff (sampleDeps false) reservedExit
      (fun _ => faultyEnv .begin) 0 (reservedDb reservedExit) rfl (by decide +kernel) failedExit
      .begin).1 sampleTerms 100 (some samplePosition) "token" "stop_loss" Portfolio.empty
      (failedExit_failure .begin .begin (by decide +kernel))).mpr ?_
    have hwritten : (faultyEnv .begin).fault = none := rfl
    rw [if_pos hwritten]
    rfl
  · exact ((persistence_recoverable_iff (sampleDeps false) reservedEntry
      (fun _ => faultyEnv .begin) 0 (reservedDb reservedEntry) rfl (by decide +kernel) failedEntry
      .begin).2 sampleContext (sampleQuote "base" "token" 10) sampleSession
      ⟨rfl, ⟨_, rfl, rfl⟩, by decide +kernel⟩).mpr fun _ => rfl

/-- The commit of a sale fails: the store keeps no fill and the full position, and the order is
stored as confirmed. -/
theorem commit_failure_confirms :
    ExitFailure (sampleDeps false) reservedExit sampleTerms 100 (some samplePosition) "token"
      "stop_loss" (fun _ => faultyEnv .commit) 0 (reservedDb reservedExit) failedExit .commit ∧
    ¬ Recoverable (reservedDb reservedExit) (Prog.run world (fun _ => faultyEnv .commit)
        (submitExit (sampleDeps false) reservedExit sampleTerms 100 (some samplePosition) "token"
          "stop_loss" Portfolio.empty) 0 (reservedDb reservedExit)).2.1 "order-1" failedExit.fill
        True := by
  refine ⟨failedExit_failure .commit .commit (by decide +kernel), ?_⟩
  rintro ⟨-, -, o, ho, -, -⟩
  have hnone : (Prog.run world (fun _ => faultyEnv .commit)
      (submitExit (sampleDeps false) reservedExit sampleTerms 100 (some samplePosition) "token"
        "stop_loss" Portfolio.empty) 0 (reservedDb reservedExit)).2.1.incompleteOrders.orders = [] := by
    decide +kernel
  rw [hnone] at ho
  cases ho

end SolanaBot.Analysis
