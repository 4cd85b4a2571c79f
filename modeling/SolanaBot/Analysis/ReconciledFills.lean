import SolanaBot.Analysis.TaskRuns

/-!
# What the reconciler's steps do to the store

`recordReconciledFill` and `reconcileSignature`, run alone: their result and the database that
they leave behind, as functions of what the operations meet. `i` is the index of the first
operation.
-/

set_option autoImplicit false

namespace SolanaBot.Analysis

open SolanaBot.Library SolanaBot.Model

/-- The position that is found for an order. -/
def foundPosition (e : Env) (db : Db) (order : OrderRecord) : Option Position :=
  match order.positionId, e.fault with
  | some pid, none => db.positions.rows.find? fun p => p.positionId = some pid
  | _, _ => none

/-- The number of operations that look for the position. -/
def lookups (order : OrderRecord) : ℕ := if order.positionId.isSome then 1 else 0

/-- Reading the stored position changes nothing. -/
theorem storedPosition_run (order : OrderRecord) (env : ℕ → Env) (i : ℕ) (db : Db) :
    (storedPosition order).run world env i db =
      (foundPosition (env i) db order, db, i + lookups order) := by
  unfold storedPosition foundPosition lookups
  cases order.positionId with
  | none => rfl
  | some pid =>
      change Prog.run world env _ (i + 1) (world.exec (env i) .positions db).2 = _
      cases hfault : (env i).fault with
      | none =>
          have hread : world.exec (env i) .positions db = (.ok db.positions.rows, db) :=
            statement_of_unfaulted hfault _ _
          rw [hread]
          rfl
      | some message =>
          have hread : world.exec (env i) .positions db = (.error message, db) :=
            statement_of_fault hfault _ _
          rw [hread]
          rfl

/-- What `recordReconciledFill` returns and leaves behind. -/
theorem recordReconciledFill_run (deps : Deps) (order : OrderRecord) (outcome : ChainSwapOutcome)
    (signature : String) (env : ℕ → Env) (i : ℕ) (db : Db) :
    Prog.run world env (ExceptT.run (recordReconciledFill deps order outcome signature)) i db =
      match reconciledTerms order outcome (foundPosition (env i) db order) with
      | none => (.ok false, db, i + lookups order)
      | some terms =>
          let j := i + lookups order
          let fill := reconciledFill deps order outcome signature terms (env j).clock
          if order.kind = .entry ∧ terms.position.entryCostModel.isNone then
            let r := recordUnaccountedFill (env (j + 1)).txFaults fill order db
            (r.1.map fun _ => false, r.2, j + 2)
          else
            let r := runFillTransaction (env (j + 2)).txFaults
              (reconciledTransaction order terms fill (env (j + 1)).clock) db
            (r.1.1.map fun _ => true, r.2, j + 3) := by
  unfold recordReconciledFill ask
  rw [Prog.run_lift_bind, storedPosition_run]
  dsimp only
  cases reconciledTerms order outcome (foundPosition (env i) db order) with
  | none => rfl
  | some terms =>
      dsimp only
      rw [Prog.run_lift_bind, clock_run]
      dsimp only
      split
      · unfold attempt
        rw [Prog.run_mk_bind, unaccountedFill_run]
        dsimp only
        cases (recordUnaccountedFill _ _ _ _).1 <;> rfl
      · rw [Prog.run_lift_bind, clock_run, Prog.run_lift_bind, fillTransaction_run]
        dsimp only
        cases (runFillTransaction _ _ _).1.1 <;> rfl

/-- The verdict on a signature, and the number of operations that it takes. -/
def signatureVerdict (signature inputMint outputMint owner : String) (expectedInput : UInt64)
    (env : ℕ → Env) (i : ℕ) : Except ExecutionError (Option ChainSwapOutcome) × ℕ :=
  match readStatus signature ((env i).answer (.signatureStatus signature)) with
  | .error e => (.error e, 1)
  | .ok false => (.ok none, 1)
  | .ok true =>
      (readTransaction signature inputMint outputMint owner expectedInput
        ((env (i + 1)).answer (.transaction signature)), 2)

/-- Reading a signature from the chain changes no store. -/
theorem reconcileSignature_run (signature inputMint outputMint owner : String)
    (expectedInput : UInt64) (env : ℕ → Env) (i : ℕ) (db : Db) :
    (reconcileSignature signature inputMint outputMint owner expectedInput).run world env i db =
      ((signatureVerdict signature inputMint outputMint owner expectedInput env i).1, db,
        i + (signatureVerdict signature inputMint outputMint owner expectedInput env i).2) := by
  unfold reconcileSignature signatureVerdict
  rw [Prog.run_bind]
  change Prog.run world env (match readStatus signature
    ((env i).answer (.signatureStatus signature)) with
      | .error e => pure (.error e)
      | .ok false => pure (.ok none)
      | .ok true => do
          let tx ← Rpc.transaction signature
          pure (readTransaction signature inputMint outputMint owner expectedInput tx))
    (i + 1) db = _
  rcases readStatus signature ((env i).answer (.signatureStatus signature)) with e | found
  · rfl
  · cases found <;> rfl

/-- The database after an order was reported, if the statement does not fail. -/
def reportedDb (e : Env) (order : OrderRecord) (next : OrderState) (text : String) (db : Db) : Db :=
  match e.fault with
  | none => db.updateOrder (order.reported next text)
  | some _ => db

/-- Reporting a state is one statement. -/
theorem updateOrder_run (copy order : OrderRecord) (next : OrderState) (text : String)
    (env : ℕ → Env) (i : ℕ) (db : Db) :
    Prog.run world env (Store.updateOrder copy (order.reported next text)) i db =
      (written (env i), reportedDb (env i) order next text db, i + 1) :=
  storeUpdateOrder_run env i db copy _

/-- A logged report leaves the same store. -/
theorem updateOrderLogged_run (copy order : OrderRecord) (next : OrderState) (text : String)
    (env : ℕ → Env) (i : ℕ) (db : Db) :
    (Prog.run world env (updateOrderLogged copy (order.reported next text)) i db).2.1 =
      reportedDb (env i) order next text db := by
  rw [storeUpdateOrderLogged_run]
  rfl

end SolanaBot.Analysis
