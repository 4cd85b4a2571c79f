import SolanaBot.Model.Entries

/-!
# Single operations of a task that runs alone

What an operation answers and leaves behind when a task runs without others
(`Prog.run world`), and the rules for the parts of a session: `look` and `orStop`.
`i` is the index of the operation.
-/

set_option autoImplicit false

namespace SolanaBot.Analysis

open SolanaBot.Library SolanaBot.Model

/-- No statement fails. -/
def Quiet (env : ℕ → Env) : Prop := ∀ j, (env j).fault = none ∧ (env j).txFaults = .none

section Operations

variable (env : ℕ → Env) (i : ℕ) (db : Db)

/-- Reading the clock is one operation. -/
theorem clock_run : Prog.run world env clock i db = ((env i).clock, db, i + 1) := rfl

/-- A quote is one operation, answered by the outside world. -/
theorem quote_run (inputMint outputMint : String) (amount : UInt64) (slippageBps : UInt16) :
    Prog.run world env (Executor.quote inputMint outputMint amount slippageBps) i db =
      ((env i).answer (.quote inputMint outputMint amount slippageBps), db, i + 1) := rfl

/-- An execution is one operation, answered by the outside world. -/
theorem execute_run (request : ExecutionRequest) :
    Prog.run world env (Executor.execute request) i db =
      ((env i).answer (.execute request), db, i + 1) := rfl

/-- Recording a fill that cannot be accounted for is one operation. -/
theorem unaccountedFill_run (fill : Fill) (order : OrderRecord) :
    Prog.run world env (Store.unaccountedFill fill order) i db =
      ((recordUnaccountedFill (env i).txFaults fill order db).1,
        (recordUnaccountedFill (env i).txFaults fill order db).2, i + 1) := rfl

/-- A fill transaction is one operation. -/
theorem fillTransaction_run (t : FillTransaction) :
    Prog.run world env (Store.fillTransaction t) i db =
      ((runFillTransaction (env i).txFaults t db).1,
        (runFillTransaction (env i).txFaults t db).2, i + 1) := rfl

/-- The database after an order was updated, if the statement does not fail. -/
def updatedDb (e : Env) (o : OrderRecord) (db : Db) : Db :=
  match e.fault with
  | none => db.updateOrder o
  | some _ => db

/-- The answer of a statement that answers nothing. -/
def written (e : Env) : Except String Unit :=
  match e.fault with
  | none => .ok ()
  | some msg => .error msg

/-- The answer of a writing statement says whether it was written. -/
theorem statement_fst_written (e : Env) (r : Unit × Db) (db : Db) :
    (statement e r db).1 = written e := by
  unfold statement written
  cases e.fault <;> rfl

/-- Updating an order is one statement. -/
theorem storeUpdateOrder_run (copy o : OrderRecord) :
    Prog.run world env (Store.updateOrder copy o) i db =
      (written (env i), updatedDb (env i) o db, i + 1) := by
  unfold updatedDb written
  change (((statement (env i) ((), _) db).1 : Except String Unit),
    (statement (env i) ((), _) db).2, i + 1) = _
  unfold statement
  cases (env i).fault <;> rfl

/-- A logged update is the same, and its answer is dropped. -/
theorem storeUpdateOrderLogged_run (copy o : OrderRecord) :
    Prog.run world env (updateOrderLogged copy o) i db = ((), updatedDb (env i) o db, i + 1) := by
  unfold updateOrderLogged
  rw [Prog.run_bind, storeUpdateOrder_run]
  rfl

end Operations

section Sessions

variable {α β : Type} (env : ℕ → Env) (i : ℕ) (s : SessionState) (db : Db)

/-- A call whose answer is looked at does not stop the session. -/
theorem look_run (t : Model.Task α) (f : α → Session β) :
    Prog.runS world env (look t >>= f) i s db =
      Prog.runS world env (f (t.run world env i db).1) (t.run world env i db).2.2 s
        (t.run world env i db).2.1 :=
  Prog.runS_lift_bind _ _ _ _ _ _ _

/-- An error of a task that is passed on stops the session. -/
theorem orStop_run (t : Model.Task (Except String α)) :
    Prog.runS world env (orStop t) i s db =
      (((t.run world env i db).1, s), (t.run world env i db).2) := by
  unfold orStop
  rw [look_run]
  cases (t.run world env i db).1 <;> rfl

end Sessions

end SolanaBot.Analysis
