import SolanaBot.Analysis.BackgroundTasks
import SolanaBot.Analysis.EntryEvaluations
import SolanaBot.Analysis.SessionParts
import SolanaBot.Library.RelyGuarantee
import SolanaBot.Model.OperatorCommands

/-!
# What a reconciliation leaves open

A reconciliation reads the incomplete orders once and settles them one by one; what it cannot settle
it counts as unresolved. Its summary is a complete account: every order that was read is counted once,
and no more orders are incomplete at the end than were counted as unresolved
(`reconciliation_accounts`).

So a store that the operator's command has reconciled passes the check of the next start
(`reconciled_store_passes_check`), and a session that does not trade live leaves no incomplete order
behind when it begins its first tick, whatever the crash before it has left
(`offline_start_clears_orders`).
-/

set_option autoImplicit false

namespace SolanaBot.Analysis

open SolanaBot.Library SolanaBot.Model

/-- The incomplete orders are the given ones, and those that the others have made. -/
def OpenWithin (made : Set String) (ids : List String) (db : Db) : Prop :=
  ∀ x ∈ db.incompleteOrders.orders, x.id ∈ ids ∨ x.id ∈ made

/-- No order becomes incomplete but the ones of `made`. -/
def OpensOnly (made : Set String) (db db' : Db) : Prop :=
  ∀ x ∈ db'.incompleteOrders.orders, x.id ∈ made ∨ ∃ y ∈ db.incompleteOrders.orders, y.id = x.id

/-- The others may settle orders, but make or reopen none besides those of `made`. -/
abbrev OthersOpen (made : Set String) (e : Env × (Db → Db)) (_ : Op) (db : Db) : Prop :=
  OpensOnly made db (e.2 db)

section Within

variable {made : Set String} {ids : List String} {db db' : Db}

/-- More ids allow more. -/
theorem OpenWithin.mono {ids' : List String} (h : OpenWithin made ids db) (hids : ids ⊆ ids') :
    OpenWithin made ids' db := fun x hx => (h x hx).imp_left fun hid => hids hid

/-- What the others open is in their set. -/
theorem OpenWithin.after (h : OpenWithin made ids db) (hopens : OpensOnly made db db') :
    OpenWithin made ids db' := by
  intro x hx
  rcases hopens x hx with hmade | ⟨y, hy, hid⟩
  · exact .inr hmade
  · rw [← hid]
    exact h y hy

/-- It is a statement about the orders. -/
theorem OpenWithin.of_orders (h : OpenWithin made ids db) (horders : db'.orders = db.orders) :
    OpenWithin made ids db' := by
  intro x hx
  obtain ⟨hstored, hopen⟩ := (Db.mem_incompleteOrders _ _).mp hx
  refine h x ((Db.mem_incompleteOrders _ _).mpr ⟨?_, hopen⟩)
  unfold Db.order at hstored ⊢
  rwa [horders] at hstored

/-- An order that is settled is no longer among the incomplete ones. -/
theorem OpenWithin.settled {o : OrderRecord} (h : OpenWithin made (o.id :: ids) db)
    (hterminal : o.state.isTerminal = true) : OpenWithin made ids (db.updateOrder o) := by
  intro x hx
  obtain ⟨hstored, hopen⟩ := (Db.mem_incompleteOrders _ _).mp hx
  rw [Db.order_updateOrder] at hstored
  by_cases hid : x.id = o.id
  · rw [if_pos hid] at hstored
    obtain ⟨y, -, rfl⟩ := Option.map_eq_some_iff.mp hstored
    rw [hterminal] at hopen
    cases hopen
  · rw [if_neg hid] at hstored
    refine (h x ((Db.mem_incompleteOrders _ _).mpr ⟨hstored, hopen⟩)).imp_left fun hmem => ?_
    exact (List.mem_cons.mp hmem).resolve_left hid

end Within

/-! ## One turn of the loop -/

/-- At most so many orders are incomplete besides those that are still to come. -/
def LeftOpen (made : Set String) (unresolved : ℕ) (rest : List OrderRecord) (db : Db) : Prop :=
  ∃ ids : List String,
    ids.length ≤ unresolved ∧ OpenWithin made (rest.map OrderRecord.id ++ ids) db

/-- How many orders a summary counts. -/
def ReconcileSummary.orders (s : ReconcileSummary) : ℕ :=
  s.confirmedOrders + s.failedOrders + s.expiredOrders + s.unresolvedOrders

/-- What the loop knows of its summary between two turns: every order of the list is counted or still
to come, and only a live session leaves an order unresolved. -/
structure Accounted (deps : Deps) (found : ℕ) (summary : ReconcileSummary) (rest : List OrderRecord) :
    Prop where
  counted : ReconcileSummary.orders summary + rest.length = found
  pending : ∀ o ∈ rest, o.state.isTerminal = false
  offline : deps.live = false → summary.unresolvedOrders = 0

section Turn

variable {deps : Deps} {env : ℕ → Env × (Db → Db)} {made : Set String} {u : ℕ}
  {o : OrderRecord} {rest : List OrderRecord}

/-- What the others open is not left open by the reconciliation. -/
theorem LeftOpen.after {db db' : Db} (h : LeftOpen made u rest db) (hopens : OpensOnly made db db') :
    LeftOpen made u rest db' :=
  h.imp fun _ hids => ⟨hids.1, hids.2.after hopens⟩

/-- It is a statement about the orders. -/
theorem LeftOpen.of_orders {db db' : Db} (h : LeftOpen made u rest db) (horders : db'.orders = db.orders) :
    LeftOpen made u rest db' :=
  h.imp fun _ hids => ⟨hids.1, hids.2.of_orders horders⟩

/-- An order that is not settled is counted. -/
theorem LeftOpen.unresolved {db : Db} (h : LeftOpen made u (o :: rest) db) : LeftOpen made (u + 1) rest db := by
  obtain ⟨ids, hlength, hwithin⟩ := h
  refine ⟨o.id :: ids, Nat.succ_le_succ hlength, hwithin.mono fun id hid => ?_⟩
  simp only [List.map_cons, List.cons_append, List.mem_cons, List.mem_append] at hid ⊢
  tauto

/-- An order that is settled is no longer among the rest. -/
theorem LeftOpen.settled {db : Db} {o' : OrderRecord} (h : LeftOpen made u (o :: rest) db)
    (hid : o'.id = o.id) (hterminal : o'.state.isTerminal = true) :
    LeftOpen made u rest (db.updateOrder o') := by
  obtain ⟨ids, hlength, hwithin⟩ := h
  refine ⟨ids, hlength, OpenWithin.settled ?_ hterminal⟩
  rw [hid]
  exact hwithin

/-- An order more in the rest allows more. -/
theorem LeftOpen.cons {db : Db} (h : LeftOpen made u rest db) : LeftOpen made u (o :: rest) db :=
  h.imp fun _ hids => ⟨hids.1, hids.2.mono fun _ hid => List.mem_cons_of_mem _ hid⟩

/-- A part of the reconciliation among others who settle orders at most. -/
abbrev Clears {α : Type} (made : Set String) (env : ℕ → Env × (Db → Db)) (P : Db → Prop) (p : Attempt α)
    (Q : α → Db → Prop) : Prop :=
  Prog.FallibleTriple world.among env (OthersOpen made) (fun _ _ _ => True) P p Q fun _ _ => True

/-- The operation leaves the orders alone. -/
def LeavesOrders (op : Op) : Prop := ∀ e db, (exec e op db).2.orders = db.orders

/-- An operation that does not write leaves the orders. -/
theorem leavesOrders_of_not_writes {op : Op} (h : ¬ op.Writes) : LeavesOrders op :=
  fun _ _ => (exec_of_not_writes h).1

/-- Saving a position leaves the orders. -/
theorem leavesOrders_savePosition (basis : SaveBasis) (p : Position) :
    LeavesOrders (.savePosition basis p) := by
  intro e db
  unfold exec statement
  split <;> rfl

/-- A task that leaves the orders leaves them open as before. -/
theorem clears_leaving {α : Type} {t : Model.Task α} (ht : t.Performs LeavesOrders) :
    Prog.TaskTriple world.among env (OthersOpen made) (fun _ _ _ => True) (LeftOpen made u rest) t
      fun _ => LeftOpen made u rest :=
  Prog.task_of_performs ht fun i _ db hop hothers h =>
    ⟨trivial, (LeftOpen.after h hothers).of_orders (hop (env i).1 ((env i).2 db))⟩

/-- Writing an order with a terminal state settles it. -/
theorem clears_updateOrder {o' : OrderRecord} (hid : o'.id = o.id)
    (hterminal : o'.state.isTerminal = true) :
    Clears made env (LeftOpen made u (o :: rest)) (attempt (Store.updateOrder o o'))
      fun _ => LeftOpen made u rest := by
  refine Prog.task_perform fun i db h hothers => ⟨trivial, ?_⟩
  have hsettled := (h.after hothers).settled hid hterminal
  simp only [Machine.among_exec]
  unfold world exec statement
  dsimp only
  cases (env i).1.fault with
  | some msg => trivial
  | none => exact hsettled

/-- An incomplete order can be reported as failed or expired. -/
theorem terminal_reported (ho : o.state.isTerminal = false) {next : OrderState} (error : String)
    (hnext : next = .failed ∨ next = .expired) : (o.reported next error).state.isTerminal = true := by
  unfold OrderRecord.reported OrderRecord.transitionOrKeep OrderRecord.transition
  rcases hnext with rfl | rfl <;> cases hstate : o.state <;> rw [hstate] at ho <;> first
    | rfl
    | cases ho

/-- A reported state does not change the id. -/
theorem id_reported (next : OrderState) (error : String) : (o.reported next error).id = o.id := by
  obtain ⟨s, h, -⟩ := o.transitionOrKeep_spec next
  unfold OrderRecord.reported
  rw [h]

/-- The order is settled if the answer says so, and may be left open otherwise. -/
def SettledIf (made : Set String) (settled : Prop) (u : ℕ) (o : OrderRecord) (rest : List OrderRecord) (db : Db) : Prop :=
  LeftOpen made u (o :: rest) db ∧ (settled → LeftOpen made u rest db)

/-- An order that is settled is settled in either case. -/
theorem SettledIf.of_settled {settled : Prop} {db : Db} (h : LeftOpen made u rest db) :
    SettledIf made settled u o rest db := ⟨h.cons, fun _ => h⟩

/-- An order that stays open was not to be settled. -/
theorem SettledIf.of_not {settled : Prop} {db : Db} (h : LeftOpen made u (o :: rest) db)
    (hnot : ¬ settled) : SettledIf made settled u o rest db := ⟨h, fun hsettled => absurd hsettled hnot⟩

/-- The transaction of a fill settles its order if it succeeds. -/
theorem clears_fillTransaction {t : FillTransaction} (ht : t.order = o) :
    Prog.TaskTriple world.among env (OthersOpen made) (fun _ _ _ => True) (LeftOpen made u (o :: rest))
      (Store.fillTransaction t) fun answer => SettledIf made (answer.1 = .ok ()) u o rest := by
  refine Prog.task_perform fun i db h hothers => ⟨trivial, ?_⟩
  have hmoved := h.after hothers
  subst ht
  simp only [Machine.among_exec]
  unfold world exec
  dsimp only
  rcases runFillTransaction_cases (env i).1.txFaults t ((env i).2 db) with
    ⟨f, msg, -, hrun⟩ | ⟨-, -, -, hrun⟩
  · rw [hrun]
    exact .of_not hmoved (by simp)
  · rw [hrun]
    refine .of_settled ?_
    -- the fill and the position that are saved are no orders
    have hsaved : ∀ db' : Db, db'.orders = ((env i).2 db).orders →
        LeftOpen made u rest (db'.updateOrder t.confirmed) :=
      fun db' horders => (hmoved.of_orders horders).settled rfl rfl
    unfold FillTransaction.applied
    dsimp only
    split
    · exact hsaved _ rfl
    · exact hsaved _ rfl

/-- A part of a turn that leaves its order as it is if it stops with an error. -/
abbrev ClearsOrLeaves {α : Type} (made : Set String) (env : ℕ → Env × (Db → Db)) (u : ℕ)
    (o : OrderRecord) (rest : List OrderRecord) (p : Attempt α) (Q : α → Db → Prop) : Prop :=
  Prog.FallibleTriple world.among env (OthersOpen made) (fun _ _ _ => True)
    (LeftOpen made u (o :: rest)) p Q fun _ => LeftOpen made u (o :: rest)

/-- An order that cannot be accounted for is marked as failed, and counted as unresolved. -/
theorem clears_unaccountedFill (fill : Fill) :
    ClearsOrLeaves made env u o rest (attempt (Store.unaccountedFill fill o))
      fun _ => LeftOpen made u (o :: rest) := by
  refine Prog.TaskTriple.conseq (Q := fun _ => LeftOpen made u (o :: rest))
    (Prog.task_perform fun i db h hothers => ⟨trivial, ?_⟩) (fun _ h => h) fun answer _ h => ?_
  · have hmoved := h.after hothers
    simp only [Machine.among_exec]
    unfold world exec
    dsimp only
    rcases recordUnaccountedFill_cases (env i).1.txFaults fill o ((env i).2 db) with
      ⟨msg, hrun⟩ | ⟨-, hrun⟩
    · rw [hrun]
      exact hmoved
    · rw [hrun]
      have hsaved : LeftOpen made u (o :: rest) (((env i).2 db).saveFill fill) := hmoved.of_orders rfl
      have hsettled : LeftOpen made u rest ((((env i).2 db).saveFill fill).updateOrder
          { unaccountedOrder fill o with state := .failed }) := hsaved.settled rfl rfl
      exact hsettled.cons
  · cases answer with
    | ok u => exact h
    | error e => exact h

/-- A fill that is recorded settles its order. -/
theorem clears_recordReconciledFill (outcome : ChainSwapOutcome) (signature : String) :
    ClearsOrLeaves made env u o rest (recordReconciledFill deps o outcome signature)
      fun recorded => SettledIf made (recorded = true) u o rest := by
  have hclock : Prog.TaskTriple world.among env (OthersOpen made) (fun _ _ _ => True)
      (LeftOpen made u (o :: rest)) clock fun _ => LeftOpen made u (o :: rest) :=
    clears_leaving (performs_call (leavesOrders_of_not_writes not_false))
  refine Prog.fallible_bind (Prog.fallible_lift (clears_leaving ?_)) fun position => ?_
  · unfold storedPosition
    split
    · trivial
    · refine Prog.performs_bind (performs_call (leavesOrders_of_not_writes not_false)) fun _ => ?_
      split <;> trivial
  · split
    · exact Prog.fallible_pure fun _ h => .of_not h Bool.false_ne_true
    · refine Prog.fallible_bind (Prog.fallible_lift hclock) fun now => ?_
      dsimp only
      split
      · exact Prog.fallible_bind (clears_unaccountedFill _) fun _ =>
          Prog.fallible_pure fun _ h => .of_not h Bool.false_ne_true
      · refine Prog.fallible_bind (Prog.fallible_lift hclock) fun now' =>
          Prog.fallible_bind (Prog.fallible_lift (clears_fillTransaction rfl)) fun answer => ?_
        split
        · rename_i hok
          exact Prog.fallible_pure fun _ h => ⟨h.1, fun _ => h.2 hok⟩
        · exact Prog.fallible_throw fun _ h => h.1

variable {found : ℕ} {summary summary' : ReconcileSummary}

/-- A settled order is counted once. -/
theorem Accounted.settled (h : Accounted deps found summary (o :: rest))
    (hcount : ReconcileSummary.orders summary' = ReconcileSummary.orders summary + 1)
    (hunresolved : summary'.unresolvedOrders = summary.unresolvedOrders) :
    Accounted deps found summary' rest := by
  refine ⟨?_, fun x hx => h.pending x (List.mem_cons_of_mem _ hx), fun hlive => ?_⟩
  · have hcounted := h.counted
    rw [List.length_cons] at hcounted
    omega
  · rw [hunresolved]
    exact h.offline hlive

/-- An order that stays open is counted as unresolved, which happens live only. -/
theorem Accounted.unresolved (h : Accounted deps found summary (o :: rest)) (hlive : deps.live = true) :
    Accounted deps found { summary with unresolvedOrders := summary.unresolvedOrders + 1 } rest := by
  refine ⟨?_, fun x hx => h.pending x (List.mem_cons_of_mem _ hx), fun hoff => ?_⟩
  · have hcounted := h.counted
    rw [List.length_cons] at hcounted
    unfold ReconcileSummary.orders at hcounted ⊢
    dsimp only
    omega
  · rw [hlive] at hoff
    cases hoff

/-- What a turn leaves to the next one. -/
abbrev TurnDone (made : Set String) (deps : Deps) (found : ℕ) (rest : List OrderRecord)
    (summary : ReconcileSummary) (db : Db) : Prop :=
  Accounted deps found summary rest ∧ LeftOpen made summary.unresolvedOrders rest db

/-- A turn that writes an order off. -/
theorem clears_writeOff (h : Accounted deps found summary (o :: rest)) {next : OrderState}
    (error : String) (hnext : next = .failed ∨ next = .expired)
    (hcount : ReconcileSummary.orders summary' = ReconcileSummary.orders summary + 1)
    (hunresolved : summary'.unresolvedOrders = summary.unresolvedOrders) :
    Clears made env (LeftOpen made summary.unresolvedOrders (o :: rest))
      (attempt (Store.updateOrder o (o.reported next error)) >>= fun _ => pure summary')
      (TurnDone made deps found rest) := by
  have hpending := h.pending o (List.mem_cons_self ..)
  refine Prog.fallible_bind (clears_updateOrder (id_reported _ _)
    (terminal_reported hpending error hnext)) fun _ => Prog.fallible_pure fun db hleft => ?_
  refine ⟨h.settled hcount hunresolved, ?_⟩
  rw [hunresolved]
  exact hleft

/-- A turn that leaves its order to the next reconciliation. -/
theorem clears_skip (h : Accounted deps found summary (o :: rest)) (hlive : deps.live = true) :
    Clears made env (LeftOpen made summary.unresolvedOrders (o :: rest))
      (pure { summary with unresolvedOrders := summary.unresolvedOrders + 1 })
      (TurnDone made deps found rest) :=
  Prog.fallible_pure fun _ hleft => ⟨h.unresolved hlive, hleft.unresolved⟩

/-- A verdict settles the order or counts it as unresolved. -/
theorem clears_settleVerdict (h : Accounted deps found summary (o :: rest)) (hlive : deps.live = true)
    (age : Int) (signature : String) (verdict : Except ExecutionError (Option ChainSwapOutcome)) :
    Clears made env (LeftOpen made summary.unresolvedOrders (o :: rest))
      (settleVerdict deps age o signature summary verdict) (TurnDone made deps found rest) := by
  unfold settleVerdict
  split
  · rename_i outcome
    refine Prog.fallible_bind (Prog.fallible_lift (clears_recordReconciledFill outcome signature))
      fun answer => ?_
    match answer with
    | .ok true =>
        refine Prog.fallible_pure fun db hleft => ⟨h.settled ?_ rfl, hleft.2 rfl⟩
        unfold ReconcileSummary.orders
        dsimp only
        omega
    | .ok false => exact Prog.fallible_pure fun db hleft => ⟨h.unresolved hlive, hleft.1.unresolved⟩
    | .error e => exact Prog.fallible_pure fun db hleft => ⟨h.unresolved hlive, hleft.unresolved⟩
  · split
    · refine clears_writeOff h _ (.inr rfl) ?_ rfl
      unfold ReconcileSummary.orders
      dsimp only
      omega
    · exact clears_skip h hlive
  · refine clears_writeOff h _ (.inl rfl) ?_ rfl
    unfold ReconcileSummary.orders
    dsimp only
    omega
  · exact clears_skip h hlive

/-- A call that does not write leaves the orders. -/
theorem leavesOrders_read {op : Op} (h : ¬ op.Writes) : (call op).Performs LeavesOrders :=
  performs_call (leavesOrders_of_not_writes h)

/-- Reading a signature from the chain leaves the orders. -/
theorem leavesOrders_reconcileSignature (signature inputMint outputMint owner : String)
    (expectedInput : UInt64) :
    (reconcileSignature signature inputMint outputMint owner expectedInput).Performs LeavesOrders := by
  refine Prog.performs_bind (leavesOrders_read not_false) fun status => ?_
  split
  · trivial
  · trivial
  · exact Prog.performs_bind (leavesOrders_read not_false) fun _ => trivial

/-- **One turn.** It settles its order or counts it as unresolved. -/
theorem clears_reconcilePendingOrder (now : Time) (h : Accounted deps found summary (o :: rest)) :
    Clears made env (LeftOpen made summary.unresolvedOrders (o :: rest))
      (reconcilePendingOrder deps now summary o) (TurnDone made deps found rest) := by
  have hfailed : ReconcileSummary.orders
      { summary with failedOrders := summary.failedOrders + 1 } =
        ReconcileSummary.orders summary + 1 := by
    unfold ReconcileSummary.orders
    dsimp only
    omega
  unfold reconcilePendingOrder
  dsimp only
  split
  · exact clears_writeOff h _ (.inl rfl) hfailed rfl
  · rename_i hlive
    split
    · exact clears_writeOff h _ (.inl rfl) hfailed rfl
    · exact clears_skip h hlive
  · exact clears_writeOff h _ (.inl rfl) hfailed rfl
  · rename_i hlive
    split
    · exact Prog.fallible_bind (Prog.fallible_lift (clears_leaving
        (leavesOrders_reconcileSignature _ _ _ _ _))) fun verdict => clears_settleVerdict h hlive _ _ _
    · exact clears_skip h hlive

/-- **All turns**, one after the other. -/
theorem clears_turns (now : Time) (as : List OrderRecord) (summary : ReconcileSummary) :
    Clears made env (TurnDone made deps found as summary)
      (as.foldlM (reconcilePendingOrder deps now) summary) (TurnDone made deps found []) :=
  Prog.fallible_foldlM (J := fun summary rest => TurnDone made deps found rest summary)
    (fun _ _ _ i db hdone => clears_reconcilePendingOrder now hdone.1 i db hdone.2) as summary

end Turn

/-! ## A whole reconciliation -/

section Whole

variable {deps : Deps} {env : ℕ → Env × (Db → Db)} {made : Set String} {i : ℕ} {db : Db}

/-- The incomplete orders that a reconciliation reads. -/
def ordersRead (env : ℕ → Env × (Db → Db)) (i : ℕ) (db : Db) : List OrderRecord :=
  (storeAfter env i 2 db).incompleteOrders.orders

/-- The list as it is read accounts for every incomplete order. -/
theorem turnDone_read (made : Set String) (deps : Deps) (db : Db) :
    TurnDone made deps db.incompleteOrders.orders.length db.incompleteOrders.orders .zero db := by
  refine ⟨⟨Nat.zero_add _, fun o ho => ((Db.mem_incompleteOrders _ _).mp ho).2, fun _ => rfl⟩,
    [], Nat.le_refl _, fun x hx => .inl ?_⟩
  rw [List.append_nil]
  exact List.mem_map_of_mem hx

/-- A reconciliation of the pending orders reads the list, unless the store cannot be read, and then
takes one turn after the other. -/
theorem reconcilePendingOrders_run :
    Prog.run world.among env (ExceptT.run (reconcilePendingOrders deps)) i db =
      match (env (i + 1)).1.fault with
      | some msg => (.error msg, storeAfter env i 2 db, i + 2)
      | none => Prog.run world.among env (ExceptT.run ((ordersRead env i db).foldlM
          (reconcilePendingOrder deps (env i).1.clock) .zero)) (i + 2) (storeAfter env i 2 db) := by
  unfold reconcilePendingOrders
  refine (Prog.run_lift_bind world.among env clock _ i db).trans ?_
  refine (Prog.run_mk_bind world.among env Store.incompleteOrders _ (i + 1) _).trans ?_
  have hread : Prog.run world.among env Store.incompleteOrders (i + 1) ((env i).2 db) =
      ((statement (env (i + 1)).1 ((storeAfter env i 2 db).incompleteOrders, storeAfter env i 2 db)
        (storeAfter env i 2 db)).1, storeAfter env i 2 db, i + 2) := by
    show ((statement _ _ _).1, (statement _ _ _).2, _) = _
    unfold statement
    split <;> rfl
  have hclock : Prog.run world.among env clock i db = ((env i).1.clock, (env i).2 db, i + 1) := rfl
  rw [hclock]
  dsimp only
  rw [hread]
  unfold statement
  cases (env (i + 1)).1.fault <;> rfl

/-- **The account of the pending orders.** -/
theorem turnDone_reconcilePendingOrders (hothers : ∀ j db, OpensOnly made db ((env j).2 db))
    {summary : ReconcileSummary}
    (hok : (Prog.run world.among env (ExceptT.run (reconcilePendingOrders deps)) i db).1 =
      .ok summary) :
    TurnDone made deps (ordersRead env i db).length [] summary
      (Prog.run world.among env (ExceptT.run (reconcilePendingOrders deps)) i db).2.1 := by
  rw [reconcilePendingOrders_run] at hok ⊢
  cases hfault : (env (i + 1)).1.fault with
  | some msg =>
      rw [hfault] at hok
      cases hok
  | none =>
      rw [hfault] at hok
      dsimp only at hok ⊢
      have hturns := (clears_turns (env i).1.clock (ordersRead env i db) .zero (i + 2)
        (storeAfter env i 2 db) (turnDone_read made deps _)
        (Prog.always_of_env fun j _ db => hothers _ db)).2
      rw [hok] at hturns
      exact hturns

/-- The reconciler of the on-chain balances settles no order. -/
theorem clears_reconcilePositionsOnchain (u : ℕ) :
    Clears made env (LeftOpen made u []) (reconcilePositionsOnchain deps)
      fun _ => LeftOpen made u [] := by
  refine Prog.TaskTriple.conseq (clears_leaving (performs_reconcilePositionsOnchain
    (S := LeavesOrders) ?_ ?_ ?_ ?_ leavesOrders_savePosition deps)) (fun _ h => h) fun answer _ h => ?_
  · exact leavesOrders_of_not_writes not_false
  · exact fun _ => leavesOrders_of_not_writes not_false
  · exact fun _ => leavesOrders_of_not_writes not_false
  · exact leavesOrders_of_not_writes not_false
  · cases answer with
    | ok pos => exact h
    | error e => trivial

/-- The reconciliation of the balances after the one of the orders. -/
def reconcileOnchainAfter (deps : Deps) (summary : ReconcileSummary) : Attempt ReconcileSummary := do
  let pos ← reconcilePositionsOnchain deps
  return { summary with
    positionsReconciled := summary.positionsReconciled + pos.positionsReconciled
    positionsAdjusted := summary.positionsAdjusted + pos.positionsAdjusted
    positionsClosed := summary.positionsClosed + pos.positionsClosed
    onchainErrors := summary.onchainErrors + pos.onchainErrors }

/-- The reconciliation of the positions leaves what was cleared. -/
theorem clears_reconcileOnchainAfter {found : ℕ} (summary : ReconcileSummary) :
    Clears made env (TurnDone made deps found [] summary) (reconcileOnchainAfter deps summary)
      (TurnDone made deps found []) := by
  intro j s hdone
  refine Prog.fallible_bind (clears_reconcilePositionsOnchain summary.unresolvedOrders)
    (fun pos => Prog.fallible_pure fun db hleft => ?_) j s hdone.2
  exact ⟨⟨hdone.1.counted, hdone.1.pending, hdone.1.offline⟩, hleft⟩

/-- A whole reconciliation. -/
theorem turnDone_runReconciliation (hothers : ∀ j db, OpensOnly made db ((env j).2 db))
    {summary : ReconcileSummary}
    (hok : (Prog.run world.among env (ExceptT.run (runReconciliation deps)) i db).1 = .ok summary) :
    TurnDone made deps (ordersRead env i db).length [] summary
      (Prog.run world.among env (ExceptT.run (runReconciliation deps)) i db).2.1 := by
  have hrun := Prog.run_mk_bind world.among env (ExceptT.run (reconcilePendingOrders deps))
    (reconcileOnchainAfter deps) i db
  have hparts : runReconciliation deps =
      ExceptT.mk (ExceptT.run (reconcilePendingOrders deps)) >>= reconcileOnchainAfter deps := rfl
  rw [hparts, hrun] at hok ⊢
  cases hpending : (Prog.run world.among env (ExceptT.run (reconcilePendingOrders deps)) i db).1 with
  | error e =>
      rw [hpending] at hok
      cases hok
  | ok counts =>
      have hdone := turnDone_reconcilePendingOrders hothers hpending
      rw [hpending] at hok
      dsimp only at hok ⊢
      have hend := (clears_reconcileOnchainAfter counts
        (Prog.run world.among env (ExceptT.run (reconcilePendingOrders deps)) i db).2.2 _ hdone
        (Prog.always_of_env fun _ _ db => hothers _ db)).2
      rw [hok] at hend
      exact hend

end Whole

/-- **A reconciliation accounts for every order.** Whatever the others make of the store meanwhile,
except that the orders they open are in `made`: the summary counts every order that was read once, and
what is incomplete at the end is among as many orders as were counted as unresolved, or was opened by
the others. -/
theorem reconciliation_accounts (deps : Deps) (env : ℕ → Env × (Db → Db)) (made : Set String) (i : ℕ)
    (db : Db) (summary : ReconcileSummary) (hothers : ∀ j db, OpensOnly made db ((env j).2 db))
    (hok : (Prog.run world.among env (ExceptT.run (runReconciliation deps)) i db).1 = .ok summary) :
    summary.confirmedOrders + summary.failedOrders + summary.expiredOrders +
        summary.unresolvedOrders = (ordersRead env i db).length ∧
      ∃ left : List String, left.length ≤ summary.unresolvedOrders ∧
        ∀ x ∈ (Prog.run world.among env (ExceptT.run (runReconciliation deps)) i
          db).2.1.incompleteOrders.orders, x.id ∈ left ∨ x.id ∈ made :=
  ⟨(turnDone_runReconciliation hothers hok).1.counted, (turnDone_runReconciliation hothers hok).2⟩

/-- An order that was submitted and has no signature. -/
def orphanOrder (id : String) (createdAt : Time) : OrderRecord :=
  { id, signalId := "signal", mint := "token", kind := .entry, positionId := some "position-1"
    side := .buy, inputMint := some "base", outputMint := some "token", inputAmountAtomic := some 10
    inputValueUsd := some 10, outputMintDecimals := some 0, state := .submitted
    idempotencyKey := id, createdAt, signature := none, error := none }

/-- A store with an order that has expired and one that has not. -/
def orphanDb : Db :=
  ((sampleDb.reserveOrder (orphanOrder "order-1" (-seconds 1000))).2.reserveOrder
    (orphanOrder "order-2" 0)).2

/-- Of two orders one is failed, and the other one left open. -/
theorem reconciliation_accounts_sample :
    ((Prog.run world.among (fun _ => (sampleEnv, id)) (ExceptT.run (runReconciliation
        (sampleDeps true))) 0 orphanDb).2.1.incompleteOrders.orders.map OrderRecord.id) = ["order-2"] ∧
      ∃ left : List String, left.length ≤ 1 ∧
        ∀ x ∈ (Prog.run world.among (fun _ => (sampleEnv, id)) (ExceptT.run (runReconciliation
          (sampleDeps true))) 0 orphanDb).2.1.incompleteOrders.orders, x.id ∈ left ∨ x.id ∈ (∅ : Set String) :=
  ⟨by decide +kernel, (reconciliation_accounts (sampleDeps true) (fun _ => (sampleEnv, id)) ∅ 0 orphanDb
    { ReconcileSummary.zero with failedOrders := 1, unresolvedOrders := 1, positionsClosed := 1 }
    (fun _ _ x hx => .inr ⟨x, hx, rfl⟩) (by decide +kernel)).2⟩

/-! ## The check after the operator's reconciliation -/

/-- What the check says of a store that has no incomplete order. -/
def checkVerdict (mode : Mode) (signer executor : Except String Unit) (db : Db) : Except String Unit :=
  match db.killSwitch with
  | some _ => .error "persisted kill switch is latched; operator review is required"
  | none =>
      match (if mode = .live then signer else .ok ()) with
      | .error e => .error e
      | .ok () => executor

/-- On a store without incomplete orders the check says what its verdict says. -/
theorem checkCommand_run {mode : Mode} {signer executor : Except String Unit} {checking : ℕ → Env}
    {j : ℕ} {db : Db} (hread : ∀ k, (checking k).fault = none)
    (hclear : db.incompleteOrders.orders = []) :
    (Prog.run world checking (ExceptT.run (checkCommand (.ok ()) mode signer executor)) j db).1 =
      checkVerdict mode signer executor db := by
  have hstatement : ∀ {α : Type} (k : ℕ) (r : α × Db),
      statement (checking k) r db = (.ok r.1, r.2) := fun k r => by
    unfold statement
    rw [hread]
  have hswitch : Prog.run world checking Store.killSwitchReason j db = (.ok db.killSwitch, db, j + 1) := by
    show ((statement _ _ _).1, (statement _ _ _).2, _) = _
    rw [hstatement]
  have horders : ∀ k, Prog.run world checking Store.incompleteOrders k db =
      (.ok db.incompleteOrders, db, k + 1) := fun k => by
    show ((statement _ _ _).1, (statement _ _ _).2, _) = _
    rw [hstatement]
  unfold checkCommand checkVerdict
  refine (congrArg Prod.fst (Prog.run_mk_bind world checking Store.killSwitchReason _ j db)).trans ?_
  rw [hswitch]
  dsimp only
  cases db.killSwitch with
  | some reason => rfl
  | none =>
      refine (congrArg Prod.fst (Prog.run_mk_bind world checking Store.incompleteOrders _ _ db)).trans ?_
      rw [horders]
      dsimp only
      rw [hclear]
      by_cases hlive : mode = .live
      · rw [if_pos hlive]
        subst hlive
        cases signer <;> cases executor <;> rfl
      · rw [if_neg hlive]
        simp only [hlive, if_false]
        cases executor <;> rfl

/-- **A reconciled store passes the check.** When the operator's reconciliation succeeds while nobody
opens an order, the check that follows is refused for no order: only the kill switch, the signer and
the executor decide. -/
theorem reconciled_store_passes_check (deps : Deps) (env : ℕ → Env × (Db → Db)) (i : ℕ) (db : Db)
    (summary : ReconcileSummary) (hothers : ∀ j db, OpensOnly ∅ db ((env j).2 db))
    (hok : (Prog.run world.among env (ExceptT.run (reconcileCommand (.ok ()) deps)) i db).1 =
      .ok summary)
    (mode : Mode) (signer executor : Except String Unit) (checking : ℕ → Env) (j : ℕ)
    (hread : ∀ k, (checking k).fault = none) :
    (Prog.run world checking (ExceptT.run (checkCommand (.ok ()) mode signer executor)) j
        (Prog.run world.among env (ExceptT.run (reconcileCommand (.ok ()) deps)) i db).2.1).1 =
      checkVerdict mode signer executor
        (Prog.run world.among env (ExceptT.run (reconcileCommand (.ok ()) deps)) i db).2.1 := by
  refine checkCommand_run hread ?_
  have hrun := Prog.run_mk_bind world.among env (ExceptT.run (runReconciliation deps))
    (fun summary => if summary.unresolvedOrders > 0 ∨ summary.onchainErrors > 0 then
      throw "reconciliation incomplete; operator review required" else pure summary) i db
  change Prog.run world.among env (ExceptT.run (reconcileCommand (.ok ()) deps)) i db = _ at hrun
  rw [hrun] at hok ⊢
  cases hdone : (Prog.run world.among env (ExceptT.run (runReconciliation deps)) i db).1 with
  | error e =>
      rw [hdone] at hok
      cases hok
  | ok counts =>
      obtain ⟨-, ids, hlength, hwithin⟩ := turnDone_runReconciliation hothers hdone
      rw [hdone] at hok
      dsimp only at hok ⊢
      split at hok
      · cases hok
      · rename_i hcomplete
        rw [if_neg hcomplete]
        have hzero : ids.length = 0 := by omega
        obtain rfl := List.length_eq_zero_iff.mp hzero
        refine List.eq_nil_iff_forall_not_mem.mpr fun x hx => ?_
        rcases hwithin x hx with hmem | hmade
        · exact List.not_mem_nil hmem
        · exact hmade

/-- A store with two orders that have expired. -/
def expiredDb : Db :=
  ((sampleDb.reserveOrder (orphanOrder "order-1" (-seconds 1000))).2.reserveOrder
    (orphanOrder "order-2" (-seconds 2000))).2

/-- What the check of a live bot says after its reconciliation. -/
def checkAfterExpiry (signer executor : Except String Unit) : Except String Unit :=
  (Prog.run world (fun _ => sampleEnv) (ExceptT.run (checkCommand (.ok ()) .live signer executor)) 0
    (Prog.run world.among (fun _ => (sampleEnv, id)) (ExceptT.run (reconcileCommand (.ok ())
      (sampleDeps true))) 0 expiredDb).2.1).1

/-- A live reconciliation gives up two expired orders: then the check passes if the signer can be read
and the executor is healthy, and it is refused by the one that is not. -/
theorem reconciled_store_passes_check_sample :
    checkAfterExpiry (.ok ()) (.ok ()) = .ok () ∧
      checkAfterExpiry (.error "live signer secret unavailable") (.error "execution health check") =
        .error "live signer secret unavailable" ∧
      checkAfterExpiry (.ok ()) (.error "execution health check") =
        .error "execution health check" := by
  have hdecides : ∀ signer executor : Except String Unit, checkAfterExpiry signer executor =
      checkVerdict .live signer executor (Prog.run world.among (fun _ => (sampleEnv, id))
        (ExceptT.run (reconcileCommand (.ok ()) (sampleDeps true))) 0 expiredDb).2.1 := by
    intro signer executor
    exact reconciled_store_passes_check (sampleDeps true) (fun _ => (sampleEnv, id)) 0 expiredDb
      { ReconcileSummary.zero with failedOrders := 2, positionsClosed := 1 }
      (fun _ _ x hx => .inr ⟨x, hx, rfl⟩) (by decide +kernel) .live signer executor
      (fun _ => sampleEnv) 0 fun _ => rfl
  have hopen : (Prog.run world.among (fun _ => (sampleEnv, id)) (ExceptT.run (reconcileCommand (.ok ())
      (sampleDeps true))) 0 expiredDb).2.1.killSwitch = none := by
    decide +kernel
  refine ⟨?_, ?_, ?_⟩
  · rw [hdecides, checkVerdict, hopen]
    rfl
  · rw [hdecides, checkVerdict, hopen]
    rfl
  · rw [hdecides, checkVerdict, hopen]
    rfl

/-! ## The start of a session that does not trade live -/

/-- A reconciliation that is not live settles every order. -/
theorem offline_reconcilePendingOrders {deps : Deps} (hoff : deps.live = false)
    {env : ℕ → Env × (Db → Db)} {made : Set String}
    (hothers : ∀ j db, OpensOnly made db ((env j).2 db)) :
    Prog.TaskTriple world.among env (OthersOpen made) (fun _ _ _ => True) (fun _ => True)
      (ExceptT.run (reconcilePendingOrders deps)) fun r db =>
        match r with
        | .ok _ => OpenWithin made [] db
        | .error _ => True := by
  intro i db _ _
  refine ⟨Prog.always_of_forall (fun _ _ _ => trivial) _ i db, ?_⟩
  cases hok : (Prog.run world.among env (ExceptT.run (reconcilePendingOrders deps)) i db).1 with
  | error e => trivial
  | ok summary =>
      obtain ⟨haccounted, ids, hlength, hwithin⟩ := turnDone_reconcilePendingOrders hothers hok
      rw [haccounted.offline hoff] at hlength
      obtain rfl := List.length_eq_zero_iff.mp (Nat.le_zero.mp hlength)
      exact hwithin

/-- **A session that is not live begins with a clear table.** Whatever orders the run before it has
left behind, none of them is incomplete when its first tick begins: what is incomplete was opened by
the others in the meantime. -/
theorem offline_start_clears_orders (deps : Deps) (hoff : deps.live = false)
    (env : ℕ → Env × (Db → Db)) (made : Set String) (i : ℕ) (s : SessionState) (db : Db)
    (hothers : ∀ j db, OpensOnly made db ((env j).2 db))
    (hok : (Prog.runS world.among env (sessionStart deps) i s db).1.1 = .ok ()) :
    ∀ x ∈ (Prog.runS world.among env (sessionStart deps) i s db).2.1.incompleteOrders.orders,
      x.id ∈ made := by
  have hstart : Prog.Triple world.among env (OthersOpen made) (fun _ _ _ => True) (fun _ _ => True)
      (sessionStart deps) (fun _ _ db => OpenWithin made [] db) fun _ _ => True := by
    have hany : ∀ p : Session Unit, Prog.Triple world.among env (OthersOpen made) (fun _ _ _ => True)
        (fun _ _ => True) p (fun _ _ _ => True) fun _ _ => True :=
      fun p => Prog.triple_of_ops p fun _ _ _ _ _ => ⟨trivial, trivial⟩
    refine Prog.triple_bind (hany _) fun _ => Prog.triple_bind (hany _) fun _ =>
      Prog.triple_bind (hany _) fun _ => Prog.triple_bind (hany _) fun _ =>
      Prog.triple_bind (M := fun _ _ db => OpenWithin made [] db) ?_ fun _ => ?_
    · unfold startupReconciliation
      rw [hoff, if_neg Bool.false_ne_true]
      refine triple_orStop fun _ => (offline_reconcilePendingOrders hoff hothers).conseq
        (fun _ h => h) fun r _ h => ?_
      cases r with
      | ok summary => exact h
      | error e => trivial
    · refine Prog.triple_bind (M := fun _ _ db => OpenWithin made [] db) (Prog.triple_lift fun _ =>
        Prog.task_perform fun j db' h hopens => ⟨trivial, h.after hopens⟩) fun _ =>
        Prog.triple_modify fun _ _ h => h
  intro x hx
  exact (hstart.of_ok trivial (Prog.always_of_env fun _ _ db => hothers _ db) hok x hx).resolve_left
    (List.not_mem_nil)

/-- Both orders of the crash before are gone. -/
theorem offline_start_clears_orders_sample :
    orphanDb.incompleteOrders.orders.length = 2 ∧
      ∀ x ∈ (Prog.runS world.among (fun _ => (sampleEnv, id)) (sessionStart (sampleDeps false)) 0
        (newSessionState (sampleDeps false) .empty) orphanDb).2.1.incompleteOrders.orders,
        x.id ∈ (∅ : Set String) :=
  ⟨by decide +kernel, offline_start_clears_orders (sampleDeps false) rfl (fun _ => (sampleEnv, id)) ∅ 0
    (newSessionState (sampleDeps false) .empty) orphanDb (fun _ _ x hx => .inr ⟨x, hx, rfl⟩)
    (by decide +kernel)⟩

end SolanaBot.Analysis
