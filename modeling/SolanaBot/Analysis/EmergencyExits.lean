import SolanaBot.Analysis.ChainBalances
import SolanaBot.Analysis.EntryOperations
import SolanaBot.Analysis.ExitDecisions
import SolanaBot.Library.Turns

/-!
# Exiting everything

The operator's exit goes through the open positions. Each turn determines the quantity, checks what
the position knows about itself and whether an exit is in flight, and then leaves the rest to the
shared exit path, which decides about the position again. A turn leaves the other positions alone
(`exitPosition_leaves`); it is counted if it gets as far as the shared path
(`exitPosition_counts`), and reserves an order if that path finds the position sellable
(`exitPosition_reserves`). The two conditions agree for every turn exactly if each position that is
due gets its order and the count is right (`exit_all_reserves_iff`).
-/

set_option autoImplicit false

namespace SolanaBot.Analysis

open SolanaBot.Library SolanaBot.Model

/-! ## A turn leaves the other positions alone -/

/-- An operation of an exit leaves the stored positions of other mints alone. -/
theorem find?_exec_of_leavesOthers {e : Env} {o : Op} {db : Db} {mint other : String}
    (ho : LeavesOthers mint o) (hother : other ≠ mint) :
    (exec e o db).2.positions.find? other = db.positions.find? other := by
  cases o with
  | savePosition basis p => exact ho.elim
  | reserveOrder seen order =>
      unfold exec
      cases e.fault with
      | some msg => rfl
      | none =>
          rcases db.reserveOrder_cases order with ⟨-, h⟩ | ⟨-, -, -, h⟩
          · simp only [h]
          · simp only [h]
  | updateOrder copy order =>
      unfold exec statement
      cases e.fault with
      | some msg => rfl
      | none => simp only [Db.positions_updateOrder]
  | fillTransaction t =>
      show (runFillTransaction e.txFaults t db).2.positions.find? other = _
      rcases runFillTransaction_cases e.txFaults t db with ⟨f, msg, -, h⟩ | ⟨-, -, -, h⟩
      · rw [h]
      · rw [h]
        unfold FillTransaction.applied
        cases hp : (t.account db.loadPortfolio).2.position t.mint with
        | none =>
            dsimp only
            rw [Db.positions_updateOrder]
            rfl
        | some p =>
            have hmint : p.mint = mint := (Portfolio.mint_of_position hp).trans ho
            dsimp only
            rw [Db.positions_updateOrder, find?_savePosition, if_neg (hmint ▸ hother)]
            rfl
  | unaccountedFill fill order =>
      show (recordUnaccountedFill e.txFaults fill order db).2.positions.find? other = _
      rcases recordUnaccountedFill_cases e.txFaults fill order db with ⟨msg, h⟩ | ⟨-, h⟩
      · rw [h]
      · simp only [h, Db.positions_updateOrder, Db.saveFill]
  | _ =>
      refine positions_exec_of_not_writes ?_ other
      exact not_false

section Frame

variable {env : ℕ → Env} {mint other : String} (hother : other ≠ mint)

/-- In every run, whatever the steps. -/
abbrev AnyStep (_ : Env) (_ : Op) (_ : Db) : Prop := True

/-- The two records of a position, in memory and in the store. -/
abbrev Holds (other : String) (v w : Option Position) (pf : Portfolio) (db : Db) : Prop :=
  pf.position other = v ∧ db.positions.find? other = w

/-- A result of the shared exit path leaves the in-memory position alone. -/
abbrev KeepsPosition (other : String) (pf : Portfolio) (x : ExitExecResult × Portfolio) (_ : Db) :
    Prop :=
  x.2.position other = pf.position other

include hother

/-- An exit changes no position of another mint. -/
theorem position_applyExit (pf : Portfolio) (fill : Fill) (reason : String) (now : Time) :
    (pf.applyExit mint fill reason now).2.position other = pf.position other :=
  (AccountingOp.position_apply (.exit mint fill reason now) pf).1 other hother

omit hother in
/-- A task does not touch the portfolio of its caller. -/
theorem keeps_task {α : Type} (t : Model.Task α) :
    Prog.TaskTriple world env AnyStep AnyStep (fun _ => True) t fun _ _ => True :=
  Prog.task_of_ops t fun _ _ _ _ _ => ⟨trivial, trivial⟩

omit hother in
/-- A logged update leaves the portfolio with its position. -/
theorem keeps_logged (copy o : OrderRecord) (x : ExitExecResult) (pf : Portfolio) :
    Prog.TaskTriple world env AnyStep AnyStep (fun _ => True)
      (updateOrderLogged copy o >>= fun _ => pure (x, pf)) (KeepsPosition other pf) :=
  Prog.task_bind (keeps_task _) fun _ => Prog.task_done fun _ _ => rfl

/-- The accounting of an exit keeps the positions of other mints. -/
theorem persistExit_keeps (deps : Deps) (fill : Fill) (placed : OrderRecord)
    {stored : Option Position} (hstored : ∀ p, stored = some p → p.mint = mint) (reason : String)
    (pf : Portfolio) :
    Prog.TaskTriple world env AnyStep AnyStep (fun _ => True)
      (persistExit deps fill placed stored mint reason pf) (KeepsPosition other pf) := by
  refine Prog.task_bind (keeps_task _) fun now => Prog.task_bind (keeps_task _) fun answer => ?_
  split
  · refine Prog.task_bind (keeps_task _) fun now => Prog.task_done fun _ _ => ?_
    refine (position_applyExit hother _ _ _ _).trans ?_
    cases stored with
    | none => rfl
    | some p =>
        refine (Portfolio.position_put pf p other).trans ?_
        rw [hstored p rfl, if_neg hother]
  · exact keeps_logged _ _ _ _

/-- An exit keeps the positions of other mints. -/
theorem executeExitOrder_keeps (deps : Deps) (reason : String) (pf : Portfolio) :
    Prog.TaskTriple world env AnyStep AnyStep (fun _ => True)
      (executeExitOrder deps mint reason pf) (KeepsPosition other pf) := by
  have hsame : ∀ x : ExitExecResult, Prog.TaskTriple world env AnyStep AnyStep (fun _ => True)
      (pure (x, pf)) (KeepsPosition other pf) := fun x => Prog.task_done fun _ _ => rfl
  refine Prog.task_bind (keeps_task _) fun now => Prog.task_bind (keeps_task _) fun stored => ?_
  split
  · exact hsame _
  · rename_i stored
    split
    · exact hsame _
    · refine Prog.task_bind (keeps_task _) fun incomplete => ?_
      split
      · exact hsame _
      · split
        · exact hsame _
        · split
          · exact hsame _
          · refine Prog.task_bind (keeps_task _) fun orders => ?_
            split
            · exact hsame _
            · dsimp only
              split
              · exact hsame _
              · refine Prog.task_bind (keeps_task _) fun id =>
                  Prog.task_bind (keeps_task _) fun reserved => ?_
                split
                · exact hsame _
                · exact hsame _
                · unfold submitExit
                  refine Prog.task_bind (keeps_task _) fun quote => ?_
                  split
                  · exact keeps_logged _ _ _ _
                  · split
                    · exact keeps_logged _ _ _ _
                    · refine Prog.task_bind (keeps_task _) fun _ =>
                        Prog.task_bind (keeps_task _) fun answer => ?_
                      split
                      · refine persistExit_keeps hother deps _ _ (fun p hp => ?_) reason pf
                        simpa using List.find?_some hp
                      · exact keeps_logged _ _ _ _
                      · exact keeps_logged _ _ _ _

/-- The shared exit path leaves both records of another position alone. -/
theorem executeExitOrder_leaves (deps : Deps) (reason : String) (pf : Portfolio)
    (w : Option Position) :
    Prog.TaskTriple world env AnyStep AnyStep (fun db => db.positions.find? other = w)
      (executeExitOrder deps mint reason pf)
      fun x db => Holds other (pf.position other) w x.2 db := by
  have hstore : Prog.TaskTriple world env AnyStep AnyStep (fun db => db.positions.find? other = w)
      (executeExitOrder deps mint reason pf) fun _ db => db.positions.find? other = w :=
    Prog.task_of_performs (performs_executeExitOrder deps mint reason pf) fun _ _ _ ho _ hw =>
      ⟨trivial, (find?_exec_of_leavesOthers ho.leavesOthers hother).trans hw⟩
  exact fun i db hw hany => ⟨(hstore i db hw hany).1,
    (executeExitOrder_keeps hother deps reason pf i db trivial hany).2, (hstore i db hw hany).2⟩

/-- A task that writes no other position leaves the stored ones as they are. -/
theorem holds_task {v w : Option Position} {α : Type} {t : Model.Task α}
    (ht : t.Performs (LeavesOthers mint)) (pf : Portfolio) :
    Prog.TaskTriple world env AnyStep AnyStep (Holds other v w pf) t fun _ => Holds other v w pf :=
  Prog.task_of_performs ht fun _ _ _ ho _ h =>
    ⟨trivial, h.1, (find?_exec_of_leavesOthers ho hother).trans h.2⟩

/-- The attempt of an exit leaves the other mints alone, in the portfolio and in the store. -/
theorem attemptExit_leaves (deps : Deps) (remaining : UInt64) (reason : String)
    (v w : Option Position) :
    Prog.Triple world env AnyStep AnyStep (fun s db => Holds other v w s.portfolio db)
      (attemptExit deps mint remaining reason) (fun _ s db => Holds other v w s.portfolio db)
      fun s db => Holds other v w s.portfolio db := by
  refine Prog.triple_get_bind fun s => ?_
  split
  · exact Prog.triple_pure fun l db h => h.1 ▸ h.2
  · refine Prog.triple_get_bind fun s' => Prog.triple_bind (M := fun r _ db => Holds other v w r.2 db)
      (Prog.triple_lift fun l i db hs hany => ?_) fun r => Prog.triple_bind
        (M := fun _ s db => Holds other v w s.portfolio db)
        (Prog.triple_modify fun _ _ h => h) fun _ => ?_
    · obtain ⟨-, rfl, hmemory, hstored⟩ := hs
      rw [← hmemory]
      exact executeExitOrder_leaves hother deps reason _ w i db hstored hany
    · split
      · exact Prog.triple_modify fun _ _ h => h
      · refine Prog.triple_bind (Prog.triple_get fun _ _ h => h) fun l =>
          Prog.triple_bind (M := fun _ s db => Holds other v w s.portfolio db)
            (Prog.triple_modify fun _ _ h => h) fun _ => ?_
        split
        · have hlatch : (Store.latchKillSwitch "consecutive execution failures").Performs
              (LeavesOthers mint) := performs_call trivial
          refine triple_orStop fun l => ?_
          refine (holds_task hother hlatch l.portfolio).conseq (fun _ h => h) fun r db h => ?_
          cases r with
          | ok a => exact h
          | error e => exact h
        · exact Prog.triple_pure fun _ _ h => h
      · exact Prog.triple_pure fun _ _ h => h
      · exact Prog.triple_pure fun _ _ h => h

/-- **A turn leaves the other positions alone**, in memory and in the store. -/
theorem exitPosition_leaves (deps : Deps) (balances : List TokenBalance) (exited : ℕ)
    (v w : Option Position) :
    Prog.Triple world env AnyStep AnyStep (fun s db => Holds other v w s.portfolio db)
      (exitPosition deps balances exited mint) (fun _ s db => Holds other v w s.portfolio db)
      fun s db => Holds other v w s.portfolio db := by
  refine Prog.triple_get_bind fun s => ?_
  have hsame : Prog.Triple world env AnyStep AnyStep
      (fun l db => l = s ∧ Holds other v w s.portfolio db) (pure exited : Session ℕ)
      (fun _ s db => Holds other v w s.portfolio db) fun s db => Holds other v w s.portfolio db :=
    Prog.triple_pure fun l db h => h.1 ▸ h.2
  split
  · exact hsame
  · split
    · exact hsame
    · split
      · exact hsame
      · refine Prog.triple_bind (M := fun _ s db => Holds other v w s.portfolio db)
          (triple_orStop fun l => ?_) fun incomplete => ?_
        · have hread : (Store.incompleteOrders).Performs (LeavesOthers mint) := performs_call trivial
          refine (holds_task hother hread l.portfolio).conseq (fun _ h => h.1 ▸ h.2) fun r db h => ?_
          cases r with
          | ok a => exact h
          | error e => exact h
        · split
          · exact Prog.triple_pure fun _ _ h => h
          · exact Prog.triple_bind (attemptExit_leaves hother deps _ _ v w) fun _ =>
              Prog.triple_pure fun _ _ h => h

end Frame

/-! ## What the shared exit path reserves -/

/-- What is fixed by a reservation: which position is traded, how, and how much of it. -/
def booked (o : OrderRecord) : OrderKind × String × Option UInt64 :=
  (o.kind, o.mint, o.inputAmountAtomic)

/-- The key under which the operator's exit of a position reserves. -/
def manualKey (deps : Deps) (positionId : String) (remaining : UInt64) (db : Db) : String :=
  exitIdempotencyKey deps.sha256 positionId remaining "manual_exit"
    (UInt32.ofNat (db.allOrders.countP (isExitOf (some positionId))))

/-- The shared exit path finds what it needs: an order identifier that is not taken, decimals that
can be brought to units, a trusted quantity that is not zero, and an identifier of the position under
which the key of the order is not taken. -/
def Reservable (deps : Deps) (p : Position) (id : String) (db : Db) : Prop :=
  db.orders.find? id = none ∧ (∃ decimals ∈ p.tokenDecimals, decimals.toNat < 20) ∧
    ∃ remaining ∈ p.trustedRemaining, remaining ≠ 0 ∧ ∃ positionId ∈ p.positionId,
      ∀ r ∈ db.orders.rows, r.idempotencyKey ≠ manualKey deps positionId remaining db

/-- Whether `Reservable` holds can be evaluated. -/
instance (deps : Deps) (p : Position) (id : String) (db : Db) :
    Decidable (Reservable deps p id db) :=
  inferInstanceAs (Decidable (_ ∧ _ ∧ _))

/-- What is sold has a trusted quantity that is not zero. -/
theorem Reservable.trusted {deps : Deps} {p : Position} {id : String} {db : Db}
    (h : Reservable deps p id db) : ∃ remaining, p.trustedRemaining = some remaining ∧ remaining ≠ 0 := by
  obtain ⟨-, -, remaining, htrusted, hzero, -⟩ := h
  exact ⟨remaining, htrusted, hzero⟩

/-- The terms of an exit have the decimals of the position. -/
theorem tokenDecimals_of_exitTerms {p : Position} {terms : ExitTerms} (h : exitTerms p = .ok terms) :
    p.tokenDecimals = some terms.tokenDecimals := by
  unfold exitTerms at h
  split at h
  · cases h
  · split at h
    · split at h
      · cases h
      · rename_i hdecimals _ _ _
        cases h
        exact hdecimals
    · cases h

/-- An exit order is complete if its position has an identifier. -/
theorem checkOrder_exitOrder (id : String) (p : Position) (mint reason key : String)
    (remaining : UInt64) (terms : ExitTerms) (value : Decimal) (now : Time) :
    Db.checkOrder (exitOrder id p mint reason key remaining terms value now) = .ok () ↔
      p.positionId.isSome := by
  unfold Db.checkOrder exitOrder
  cases p.positionId with
  | none => exact ⟨fun h => (by simp at h), fun h => (by cases h)⟩
  | some positionId => exact ⟨fun _ => rfl, fun _ => by simp⟩

section Reserved

variable {env : ℕ → Env} {mint : String}

/-- The orders that a part of the operator's command reserves. -/
abbrev reservedBy {α : Type} (env : ℕ → Env) (t : Model.Task α) (i : ℕ) (db : Db) :
    List OrderRecord :=
  Prog.recorded world env reservation t i db

/-- Reading the positions returns all rows. -/
theorem positions_exec {e : Env} (h : e.fault = none) (db : Db) :
    world.exec e .positions db = (.ok db.positions.rows, db) := statement_of_unfaulted h _ _

/-- Reading the incomplete orders returns them. -/
theorem incompleteOrders_exec {e : Env} (h : e.fault = none) (db : Db) :
    world.exec e .incompleteOrders db = (.ok db.incompleteOrders, db) := statement_of_unfaulted h _ _

/-- Reading the orders returns all of them. -/
theorem orders_exec {e : Env} (h : e.fault = none) (db : Db) :
    world.exec e .orders db = (.ok db.allOrders, db) := statement_of_unfaulted h _ _

/-- An operation that reserves nothing and leaves the store alone. -/
theorem reservedBy_read {α : Type} {o : Op} {f : Res o → Model.Task α} {i : ℕ} {db : Db} {r : Res o}
    (hnote : reservation (env i) o db = []) (hexec : world.exec (env i) o db = (r, db)) :
    reservedBy env (call o >>= f) i db = reservedBy env (f r) (i + 1) db := by
  change reservation (env i) o db ++ Prog.recorded world env reservation
    (f (world.exec (env i) o db).1) (i + 1) (world.exec (env i) o db).2 = _
  rw [hnote, hexec]
  rfl

/-- After its reservation an exit order reserves nothing. -/
theorem reservedBy_submitExit (deps : Deps) (order : OrderRecord) (terms : ExitTerms)
    (remaining : UInt64) (stored : Option Position) (reason : String) (pf : Portfolio) (i : ℕ)
    (db : Db) :
    reservedBy env (submitExit deps order terms remaining stored mint reason pf) i db = [] := by
  have hperforms := performs_submitExit deps order terms remaining stored mint reason pf
  exact Prog.recorded_of_performs (fun _ _ _ => reservation_of_settling)
    (hperforms.mono fun _ h => h.2) i db

/-- A reservation that no other one follows. -/
theorem reservedBy_reserve {α : Type} {e : Env} {i : ℕ} (he : env i = e) (hfault : e.fault = none)
    (seen : List OrderRecord) (order : OrderRecord) {f : Except String Bool → Model.Task α}
    (hf : ∀ r i db, reservedBy env (f r) i db = []) (db : Db) :
    reservedBy env (Store.reserveOrder seen order >>= f) i db =
      if (db.reserveOrder order).1.toOption = some true then [order] else [] := by
  have hnote : reservation (env i) (.reserveOrder seen order) db =
      if (db.reserveOrder order).1.toOption = some true then [order] else [] := by
    unfold reservation
    rw [he, hfault]
    simp
  refine (congrArg₂ _ hnote (hf _ _ _)).trans ?_
  exact List.append_nil _

/-- An exit order whose position is not to be sold. -/
theorem reservedBy_refused (hfault : ∀ j, (env j).fault = none) (deps : Deps) (pf : Portfolio)
    (reason : String) (i : ℕ) {db : Db} {x : ExitExecResult}
    (htarget : exitTarget db.positions.rows mint = .error x) :
    reservedBy env (executeExitOrder deps mint reason pf) i db = [] := by
  unfold executeExitOrder
  refine (reservedBy_read rfl rfl).trans ?_
  refine (reservedBy_read rfl (positions_exec (hfault (i + 1)) db)).trans ?_
  dsimp only
  rw [htarget]
  rfl

/-- An exit order whose position is to be sold, without an exit in flight and with complete
terms. -/
theorem reservedBy_accepted (hfault : ∀ j, (env j).fault = none) (deps : Deps) (pf : Portfolio)
    (reason : String) (i : ℕ) {db : Db} {p : Position} {remaining : UInt64} {terms : ExitTerms}
    (htarget : exitTarget db.positions.rows mint = .ok (p, remaining))
    (hclear : db.incompleteOrders.orders.any (isExitOf p.positionId) = false)
    (hterms : exitTerms p = .ok terms) :
    reservedBy env (executeExitOrder deps mint reason pf) i db =
      reservedBy env (reserveExit deps p remaining terms db.incompleteOrders.orders
        db.positions.rows mint reason (env i).clock pf) (i + 3) db := by
  have hnot : ¬ db.incompleteOrders.orders.any (isExitOf p.positionId) = true := by
    rw [hclear]
    exact Bool.false_ne_true
  unfold executeExitOrder
  refine (reservedBy_read rfl rfl).trans ?_
  refine (reservedBy_read rfl (positions_exec (hfault (i + 1)) db)).trans ?_
  dsimp only
  rw [htarget]
  refine (reservedBy_read rfl (incompleteOrders_exec (hfault (i + 2)) db)).trans ?_
  dsimp only
  rw [if_neg hnot, hterms]

/-- The reservation of an exit. -/
theorem reservedBy_reserveExit (hfault : ∀ j, (env j).fault = none) (deps : Deps) (p : Position)
    (remaining : UInt64) (terms : ExitTerms) (seen : List OrderRecord) (stored : List Position)
    (now : Time) (pf : Portfolio) (i : ℕ) (db : Db) (hterms : exitTerms p = .ok terms)
    (htrusted : p.trustedRemaining = some remaining) (hzero : remaining ≠ 0) :
    (reservedBy env (reserveExit deps p remaining terms seen stored mint "manual_exit" now pf) i
        db).map booked =
      if Reservable deps p (newId (env (i + 1))) db then [(.exit, mint, some remaining)] else [] := by
  have hreservable : Reservable deps p (newId (env (i + 1))) db ↔
      db.orders.find? (newId (env (i + 1))) = none ∧ terms.tokenDecimals.toNat < 20 ∧
        ∃ positionId, p.positionId = some positionId ∧
          ∀ r ∈ db.orders.rows, r.idempotencyKey ≠ manualKey deps positionId remaining db := by
    unfold Reservable
    rw [htrusted, tokenDecimals_of_exitTerms hterms]
    simp [hzero]
  unfold reserveExit
  refine (congrArg _ (reservedBy_read rfl (orders_exec (hfault i) db))).trans ?_
  dsimp only
  by_cases hdecimals : terms.tokenDecimals.toNat < 20
  · rw [units_eq_ok hdecimals]
    dsimp only
    refine (congrArg _ (reservedBy_read rfl rfl)).trans ?_
    refine (congrArg _ (reservedBy_reserve rfl (hfault (i + 2)) _ _ (fun r i db => ?_) db)).trans ?_
    · split
      · rfl
      · rfl
      · exact reservedBy_submitExit _ _ _ _ _ _ _ _ _
    · have haccepts : ∀ (key : String) (value : Decimal),
          (p.positionId.isSome → key = manualKey deps (p.positionId.getD mint) remaining db) →
          ((db.reserveOrder (exitOrder (newId (env (i + 1))) p mint "manual_exit" key remaining terms
            value now)).1.toOption = some true ↔ Reservable deps p (newId (env (i + 1))) db) := by
        intro key value hkey
        rw [reserveOrder_accepts_iff, checkOrder_exitOrder, hreservable]
        cases hid : p.positionId with
        | none => simp
        | some positionId =>
            rw [hid] at hkey
            obtain rfl := hkey rfl
            simp [hdecimals, exitOrder]
      rw [apply_ite (List.map booked)]
      exact if_congr (haccepts _ _ fun _ => rfl) rfl rfl
  · rw [units_eq_error hdecimals, if_neg]
    · rfl
    · rw [hreservable]
      exact fun h => hdecimals h.2.1

end Reserved

/-! ## A turn -/

/-- A turn gets as far as the shared exit path: the quantity is known, the terms are complete and no
exit is in flight. -/
def attempted (balances : List TokenBalance) (p : Position) (mint : String) (db : Db) : Bool :=
  (quantityToSell p balances mint).isSome && (exitTerms p).isOk &&
    !db.incompleteOrders.orders.any (isExitOf p.positionId)

/-- What is due for a position: a known quantity that is positive, with complete terms and without
an exit in flight. -/
def due (balances : List TokenBalance) (p : Position) (mint : String) (db : Db) : Option UInt64 :=
  if attempted balances p mint db then (quantityToSell p balances mint).filter fun q => q ≠ 0
  else none

/-- An exit is attempted for a quantity, with its terms, if no exit is in flight. -/
theorem attempted_iff {balances : List TokenBalance} {p : Position} {mint : String} {db : Db} :
    attempted balances p mint db = true ↔ ∃ quantity terms,
      quantityToSell p balances mint = some quantity ∧ exitTerms p = .ok terms ∧
        db.incompleteOrders.orders.any (isExitOf p.positionId) = false := by
  unfold attempted
  cases quantityToSell p balances mint with
  | none => simp
  | some quantity =>
      cases exitTerms p with
      | error x => simp [Except.isOk, Except.toBool]
      | ok terms => simp [Except.isOk, Except.toBool]

section Turns

variable {env : ℕ → Env} (hfault : ∀ j, (env j).fault = none) {mint : String}

include hfault

/-- Without faults the incomplete orders are read and the session goes on. -/
theorem incompleteOrders_bind_run {α : Type} (f : IncompleteOrders → Session α) (i : ℕ)
    (s : SessionState) (db : Db) :
    Prog.runS world env (orStop Store.incompleteOrders >>= f) i s db =
      Prog.runS world env (f db.incompleteOrders) (i + 1) s db := by
  have hrun : Prog.run world env Store.incompleteOrders i db =
      (.ok db.incompleteOrders, db, i + 1) :=
    congrArg (fun r : Except String IncompleteOrders × Db => (r.1, r.2, i + 1))
      (incompleteOrders_exec (hfault i) db)
  rw [Prog.runS_bind, orStop_run, hrun]

/-- Reading them reserves nothing. -/
theorem incompleteOrders_bind_reserved {α : Type} (f : IncompleteOrders → Session α) (i : ℕ)
    (s : SessionState) (db : Db) :
    Prog.recordedS world env reservation (orStop Store.incompleteOrders >>= f) i s db =
      Prog.recordedS world env reservation (f db.incompleteOrders) (i + 1) s db := by
  have hread : Prog.PerformsS Settling (orStop Store.incompleteOrders) :=
    performsS_orStop (performs_call trivial)
  have hrun := incompleteOrders_bind_run hfault pure i s db
  rw [bind_pure, Prog.runS_pure] at hrun
  rw [Prog.recordedS_bind, hrun,
    Prog.recordedS_of_performs (fun _ _ _ => reservation_of_settling) hread]
  rfl

/-- A turn that does not get as far as the shared exit path ends with the count it began with, and
reserves nothing. -/
theorem exitPosition_skipped (deps : Deps) (balances : List TokenBalance) (exited i : ℕ)
    {s : SessionState} {db : Db} {p : Position} (hp : s.portfolio.position mint = some p)
    (h : ¬ attempted balances p mint db = true) :
    (Prog.runS world env (exitPosition deps balances exited mint) i s db).1.1 = .ok exited ∧
      Prog.recordedS world env reservation (exitPosition deps balances exited mint) i s db = [] := by
  rw [attempted_iff] at h
  unfold exitPosition
  rw [Prog.runS_get_bind, Prog.recordedS_get_bind, hp]
  dsimp only
  cases hquantity : quantityToSell p balances mint with
  | none => exact ⟨rfl, rfl⟩
  | some quantity =>
      cases hterms : exitTerms p with
      | error x => exact ⟨rfl, rfl⟩
      | ok terms =>
          have hflight : db.incompleteOrders.orders.any (isExitOf p.positionId) = true := by
            refine Bool.eq_true_of_not_eq_false fun hclear => ?_
            exact h ⟨quantity, terms, hquantity, hterms, hclear⟩
          dsimp only
          rw [incompleteOrders_bind_run hfault, incompleteOrders_bind_reserved hfault, if_pos hflight]
          exact ⟨rfl, rfl⟩

/-- A turn that gets there goes on with the attempt. -/
theorem exitPosition_attempted (deps : Deps) (balances : List TokenBalance) (exited i : ℕ)
    {s : SessionState} {db : Db} {p : Position} (hp : s.portfolio.position mint = some p)
    {quantity : UInt64} {terms : ExitTerms} (hquantity : quantityToSell p balances mint = some quantity)
    (hterms : exitTerms p = .ok terms)
    (hclear : db.incompleteOrders.orders.any (isExitOf p.positionId) = false) :
    Prog.runS world env (exitPosition deps balances exited mint) i s db =
        Prog.runS world env (attemptExit deps mint quantity "manual_exit" >>= fun _ =>
          pure (exited + 1)) (i + 1) s db ∧
      Prog.recordedS world env reservation (exitPosition deps balances exited mint) i s db =
        Prog.recordedS world env reservation (attemptExit deps mint quantity "manual_exit" >>= fun _ =>
          pure (exited + 1)) (i + 1) s db := by
  have hnot : ¬ db.incompleteOrders.orders.any (isExitOf p.positionId) = true := by
    rw [hclear]
    exact Bool.false_ne_true
  unfold exitPosition
  rw [Prog.runS_get_bind, Prog.recordedS_get_bind, hp]
  dsimp only
  rw [hquantity]
  dsimp only
  rw [hterms]
  dsimp only
  rw [incompleteOrders_bind_run hfault, incompleteOrders_bind_reserved hfault, if_neg hnot]
  exact ⟨rfl, rfl⟩

omit hfault in
/-- An attempt reserves what the shared exit path reserves, unless there is nothing to sell. -/
theorem reservedBy_attemptExit (deps : Deps) (quantity : UInt64) (reason : String) (i : ℕ)
    (s : SessionState) (db : Db) :
    Prog.recordedS world env reservation (attemptExit deps mint quantity reason) i s db =
      if quantity = 0 then [] else
        reservedBy env (executeExitOrder deps mint reason s.portfolio) i db := by
  unfold attemptExit RiskEngine.authorizeExit
  rw [Prog.recordedS_get_bind]
  by_cases hzero : quantity = 0
  · rw [if_pos hzero, if_pos hzero]
    rfl
  · rw [if_neg hzero, if_neg hzero]
    dsimp only
    rw [Prog.recordedS_get_bind]
    refine (Prog.recordedS_lift_bind _ _ _ _ _).trans ?_
    rw [Prog.recordedS_of_performs (fun _ _ _ => reservation_of_settling), List.append_nil]
    refine Prog.performsS_bind (Prog.performsS_modify _) fun _ => ?_
    split
    · exact Prog.performsS_modify _
    · refine Prog.performsS_bind Prog.performsS_get fun s =>
        Prog.performsS_bind (Prog.performsS_modify _) fun _ => ?_
      split
      · exact performsS_orStop (performs_call trivial)
      · exact Prog.performsS_pure _
    · exact Prog.performsS_pure _
    · exact Prog.performsS_pure _

/-- **What a turn counts.** -/
theorem exitPosition_counts (deps : Deps) (balances : List TokenBalance) (exited i : ℕ)
    {s : SessionState} {db : Db} {p : Position} (hp : s.portfolio.position mint = some p) {n : ℕ}
    (hok : (Prog.runS world env (exitPosition deps balances exited mint) i s db).1.1 = .ok n) :
    n = if attempted balances p mint db then exited + 1 else exited := by
  by_cases h : attempted balances p mint db = true
  · rw [if_pos h]
    obtain ⟨quantity, terms, hquantity, hterms, hclear⟩ := attempted_iff.mp h
    rw [(exitPosition_attempted hfault deps balances exited i hp hquantity hterms hclear).1,
      Prog.runS_bind] at hok
    rcases hrun : Prog.runS world env (attemptExit deps mint quantity "manual_exit") (i + 1) s db
      with ⟨⟨r, s'⟩, db', i'⟩
    rw [hrun] at hok
    cases r with
    | ok u =>
        cases hok
        rfl
    | error e => cases hok
  · rw [(exitPosition_skipped hfault deps balances exited i hp h).1] at hok
    cases hok
    rw [if_neg h]

omit hfault in
/-- An open stored position is the target of its exit if its quantity is trusted. -/
theorem exitTarget_of_open {p : Position} {db : Db} (hstored : db.positions.find? mint = some p)
    (hopen : p.isOpen = true) :
    (p.trustedRemaining = none →
      exitTarget db.positions.rows mint = .error (.skipped "quantity not trusted")) ∧
    ∀ remaining, p.trustedRemaining = some remaining →
      exitTarget db.positions.rows mint = .ok (p, remaining) := by
  have hfound : (db.positions.rows.find? fun q => q.mint = mint) = some p := hstored
  have hstate : ¬ p.state ≠ .open := by
    unfold Position.isOpen at hopen
    simpa using hopen
  unfold exitTarget
  rw [hfound]
  dsimp only
  rw [if_neg hstate]
  refine ⟨fun htrusted => ?_, fun remaining htrusted => ?_⟩
  · rw [htrusted]
  · rw [htrusted]

/-- **What a turn reserves.** -/
theorem exitPosition_reserves (deps : Deps) (balances : List TokenBalance) (exited i : ℕ)
    {s : SessionState} {db : Db} {p : Position} (hp : s.portfolio.position mint = some p)
    (hstored : db.positions.find? mint = some p) (hopen : p.isOpen = true) :
    (Prog.recordedS world env reservation (exitPosition deps balances exited mint) i s db).map
        booked =
      if attempted balances p mint db ∧ Reservable deps p (newId (env (i + 5))) db
      then [(.exit, mint, p.trustedRemaining)] else [] := by
  by_cases h : attempted balances p mint db = true
  · obtain ⟨quantity, terms, hquantity, hterms, hclear⟩ := attempted_iff.mp h
    obtain ⟨huntrusted, htrusted⟩ := exitTarget_of_open hstored hopen
    rw [(exitPosition_attempted hfault deps balances exited i hp hquantity hterms hclear).2,
      Prog.recordedS_bind_of_performs (fun _ _ _ => reservation_of_settling) _
        (fun _ => Prog.performsS_pure _), reservedBy_attemptExit]
    cases hremaining : p.trustedRemaining with
    | none =>
        have hnot : ¬ Reservable deps p (newId (env (i + 5))) db := by
          intro h
          obtain ⟨remaining, htrusted, -⟩ := h.trusted
          rw [hremaining] at htrusted
          cases htrusted
        rw [reservedBy_refused hfault deps _ _ _ (huntrusted hremaining), ite_self,
          if_neg (fun h => hnot h.2)]
        rfl
    | some remaining =>
        obtain rfl : remaining = quantity := by
          unfold quantityToSell at hquantity
          rw [hremaining] at hquantity
          exact Option.some.inj hquantity
        by_cases hzero : remaining = 0
        · have hnot : ¬ Reservable deps p (newId (env (i + 5))) db := by
            intro h
            obtain ⟨remaining', htrusted, hpositive⟩ := h.trusted
            rw [hremaining] at htrusted
            exact hpositive ((Option.some.inj htrusted).symm.trans hzero)
          rw [if_pos hzero, if_neg (fun h => hnot h.2)]
          rfl
        · rw [if_neg hzero, reservedBy_accepted hfault deps _ _ _ (htrusted _ hremaining) hclear hterms,
            reservedBy_reserveExit hfault deps p remaining terms _ _ _ _ _ db hterms hremaining hzero]
          simp only [h, true_and]
  · rw [(exitPosition_skipped hfault deps balances exited i hp h).2, if_neg (fun hboth => h hboth.1)]
    rfl

end Turns

/-! ## The command -/

section Command

variable (deps : Deps) (env : ℕ → Env) (i : ℕ) (db : Db)

/-- The session state that the command works on. -/
def operatorSession (deps : Deps) (pf : Portfolio) : SessionState :=
  { newSessionState deps pf with
    risk := RiskEngine.new deps.config.risk deps.config.risk.startingCapitalUsd
    emergencyActive := true }

/-- The mints of the open positions, in the order in which the command goes through them. -/
def exitMints : List String :=
  let keys := db.loadPortfolio.openPositions.map Position.mint
  ((env (i + 1)).answer (.hashOrder keys) : { l : List String // l.Perm keys }).val

/-- The balances that the command has fetched. -/
def fetchedBalances : List TokenBalance := (Prog.run world env (fetchBalances deps) (i + 2) db).1

/-- The loop of the command. -/
def exitLoop : Session ℕ :=
  (exitMints env i db).foldlM (exitPosition deps (fetchedBalances deps env i db)) 0

/-- The operation at which the loop begins. -/
def loopIndex : ℕ := (Prog.run world env (fetchBalances deps) (i + 2) db).2.2

/-- The turns of the command. -/
def exitTurns : List (Prog.Turn String ℕ SessionState Db) :=
  Prog.turns world env (exitPosition deps (fetchedBalances deps env i db)) (exitMints env i db) 0
    (loopIndex deps env i db) (operatorSession deps db.loadPortfolio) db

/-- The orders that the command reserves. -/
def reservedExits : List OrderRecord := reservedBy env (exitAllPositions deps) i db

/-- The exit that is due at a turn, for the position that was stored at the start. -/
def dueAt (t : Prog.Turn String ℕ SessionState Db) : Option (OrderKind × String × Option UInt64) :=
  (db.positions.find? t.elem).bind fun p =>
    (due (fetchedBalances deps env i db) p t.elem t.shared).map fun q => (.exit, t.elem, some q)

/-- One order is reserved for every exit that is due, for exactly its quantity, and the count is
their number. -/
structure ExitsServed (n : ℕ) : Prop where
  count : n = (reservedExits deps env i db).length
  orders : (reservedExits deps env i db).map booked =
    (exitTurns deps env i db).filterMap (dueAt deps env i db)

/-- Whatever gets as far as the shared exit path is sold by it. -/
def TurnsAgree : Prop :=
  ∀ t ∈ exitTurns deps env i db, ∀ p, db.positions.find? t.elem = some p →
    attempted (fetchedBalances deps env i db) p t.elem t.shared = true →
      Reservable deps p (newId (env (t.index + 5))) t.shared

variable {deps env i db}

/-- Fetching the balances changes no store and reserves nothing. -/
theorem fetchBalances_run (deps : Deps) (env : ℕ → Env) (i : ℕ) (db : Db) :
    (Prog.run world env (fetchBalances deps) (i + 2) db).2.1 = db ∧
    reservedBy env (fetchBalances deps) (i + 2) db = [] := by
  unfold fetchBalances
  split
  · split
    · exact ⟨rfl, rfl⟩
    · rename_i owner _
      change (Prog.run world env _ (i + 3) db).2.1 = db ∧ [] ++ reservedBy env _ (i + 3) db = []
      generalize (world.exec (env (i + 2)) (.tokenBalances owner) db).1 = balances
      cases balances <;> exact ⟨rfl, rfl⟩
  · exact ⟨rfl, rfl⟩

/-- The command is its loop. -/
theorem exitAllPositions_run (deps : Deps) (i : ℕ) (db : Db) (hfault : ∀ j, (env j).fault = none) :
    (Prog.run world env (exitAllPositions deps) i db).1 =
        (Prog.runS world env (exitLoop deps env i db) (loopIndex deps env i db)
          (operatorSession deps db.loadPortfolio) db).1.1 ∧
      reservedExits deps env i db = Prog.recordedS world env reservation (exitLoop deps env i db)
        (loopIndex deps env i db) (operatorSession deps db.loadPortfolio) db := by
  obtain ⟨hdb, hnothing⟩ := fetchBalances_run deps env i db
  have hpositions : Prog.run world env Store.positions i db = (.ok db.positions.rows, db, i + 1) :=
    congrArg (fun r : Except String (List Position) × Db => (r.1, r.2, i + 1))
      (positions_exec (hfault i) db)
  constructor
  · unfold exitAllPositions
    rw [Prog.run_bind, hpositions]
    dsimp only
    rw [Prog.run_bind]
    refine (congrArg Prod.fst (Prog.run_bind _ _ _ _ _ _)).trans ?_
    change (Prog.run world env ((ExceptT.run (exitLoop deps env i db)).run
      (operatorSession deps db.loadPortfolio) >>= fun r => pure r.1) (loopIndex deps env i db)
        (Prog.run world env (fetchBalances deps) (i + 2) db).2.1).1 = _
    rw [hdb, Prog.run_bind]
    rfl
  · unfold reservedExits exitAllPositions
    refine (reservedBy_read rfl (positions_exec (hfault i) db)).trans ?_
    refine (reservedBy_read rfl rfl).trans ?_
    refine (Prog.recorded_bind _ _ _ _).trans ((congrArg₂ _ hnothing ?_).trans (List.nil_append _))
    change Prog.recorded world env reservation ((ExceptT.run (exitLoop deps env i db)).run
      (operatorSession deps db.loadPortfolio) >>= fun r => pure r.1) (loopIndex deps env i db)
        (Prog.run world env (fetchBalances deps) (i + 2) db).2.1 = _
    rw [hdb]
    exact (Prog.recorded_bind _ _ _ _).trans (List.append_nil _)

/-- What is known of the mints still to come: each has its stored position in memory and in the
store, and the position is open. -/
def Untouched (db : Db) (rest : List String) (s : SessionState) (db' : Db) : Prop :=
  rest.Nodup ∧ ∀ mint ∈ rest, ∃ p, db.positions.find? mint = some p ∧ p.isOpen = true ∧
    s.portfolio.position mint = some p ∧ db'.positions.find? mint = some p

/-- The command takes the open positions in some order. -/
theorem exitMints_perm (env : ℕ → Env) (i : ℕ) (db : Db) :
    (exitMints env i db).Perm (db.loadPortfolio.openPositions.map Position.mint) :=
  ((env (i + 1)).answer (.hashOrder (db.loadPortfolio.openPositions.map Position.mint)) :
    { l : List String // l.Perm (db.loadPortfolio.openPositions.map Position.mint) }).property

/-- In the beginning no position has been touched. -/
theorem untouched_start :
    Untouched db (exitMints env i db) (operatorSession deps db.loadPortfolio) db := by
  have hperm := exitMints_perm env i db
  have hnodup : (db.loadPortfolio.openPositions.map Position.mint).Nodup :=
    db.loadPortfolio.positions.nodup.sublist (List.filter_sublist.map _)
  refine ⟨hperm.nodup_iff.mpr hnodup, fun mint hmint => ?_⟩
  obtain ⟨p, hp, rfl⟩ := List.mem_map.mp (hperm.mem_iff.mp hmint)
  obtain ⟨hrow, hopen⟩ := List.mem_filter.mp hp
  have hmemory : db.loadPortfolio.position p.mint = some p := Table.find?_of_mem hrow
  have hstored := hmemory
  rw [Db.position_loadPortfolio] at hstored
  exact ⟨p, hstored, hopen, hmemory, hstored⟩

/-- A turn leaves the positions of the later turns untouched. -/
theorem untouched_step (mint : String) (rest : List String) (exited j : ℕ) (s : SessionState)
    (db' : Db) (h : Untouched db (mint :: rest) s db') (n : ℕ) (s' : SessionState) (db'' : Db) (j' : ℕ)
    (hrun : Prog.runS world env (exitPosition deps (fetchedBalances deps env i db) exited mint) j s
      db' = ((.ok n, s'), db'', j')) :
    Untouched db rest s' db'' := by
  obtain ⟨hnot, hnodup⟩ := List.nodup_cons.mp h.1
  refine ⟨hnodup, fun other hmem => ?_⟩
  obtain ⟨p, hp, hopen, hmemory, hstored⟩ := h.2 other (List.mem_cons_of_mem _ hmem)
  have hother : other ≠ mint := fun heq => hnot (heq ▸ hmem)
  have hleaves : Prog.Triple world env AnyStep AnyStep _ (exitPosition deps _ exited mint) _ _ :=
    exitPosition_leaves hother deps (fetchedBalances deps env i db) exited (some p) (some p)
  have hends := hleaves.ends (i := j) ⟨hmemory, hstored⟩
    (Prog.always_of_forall (fun _ _ _ => trivial) _ _ _)
  rw [hrun] at hends
  exact ⟨p, hp, hopen, hends.1, hends.2⟩

/-- At its turn each position is as it was stored. -/
theorem untouched_turn {t : Prog.Turn String ℕ SessionState Db} (ht : t ∈ exitTurns deps env i db) :
    ∃ p, db.positions.find? t.elem = some p ∧ p.isOpen = true ∧
      t.loc.portfolio.position t.elem = some p ∧ t.shared.positions.find? t.elem = some p := by
  obtain ⟨rest, h⟩ := Prog.turns_meet (Untouched db) untouched_step _ _ _ _ _ untouched_start t ht
  exact h.2 t.elem (List.mem_cons_self ..)

/-- An attempted exit that can be reserved is due with the trusted quantity. -/
theorem due_of_attempted {balances : List TokenBalance} {p : Position} {mint id : String} {db : Db}
    (h : attempted balances p mint db = true) (hreservable : Reservable deps p id db) :
    due balances p mint db = p.trustedRemaining := by
  obtain ⟨remaining, htrusted, hzero⟩ := hreservable.trusted
  unfold due quantityToSell
  rw [if_pos h, htrusted]
  simp [hzero]

/-- The position of a turn is attempted. -/
def attemptedAt (deps : Deps) (env : ℕ → Env) (i : ℕ) (db : Db)
    (t : Prog.Turn String ℕ SessionState Db) : Bool :=
  (db.positions.find? t.elem).any fun p =>
    attempted (fetchedBalances deps env i db) p t.elem t.shared

/-- The position of a turn is attempted and sold. -/
def soldAt (deps : Deps) (env : ℕ → Env) (i : ℕ) (db : Db)
    (t : Prog.Turn String ℕ SessionState Db) : Bool :=
  (db.positions.find? t.elem).any fun p =>
    attempted (fetchedBalances deps env i db) p t.elem t.shared &&
      Reservable deps p (newId (env (t.index + 5))) t.shared

/-- The turns agree exactly if every attempted exit is sold. -/
theorem turnsAgree_iff : TurnsAgree deps env i db ↔ ∀ t ∈ exitTurns deps env i db,
    attemptedAt deps env i db t = true → soldAt deps env i db t = true := by
  unfold TurnsAgree attemptedAt soldAt
  refine forall₂_congr fun t _ => ?_
  cases db.positions.find? t.elem with
  | none => exact ⟨fun _ h => (by cases h), fun _ p h => (by cases h)⟩
  | some p =>
      simp only [Option.any_some, Option.some.injEq, forall_eq', Bool.and_eq_true, decide_eq_true_eq]
      exact ⟨fun h ha => ⟨ha, h ha⟩, fun h ha => (h ha).2⟩

/-- What is sold was attempted. -/
theorem attemptedAt_of_soldAt (t : Prog.Turn String ℕ SessionState Db)
    (h : soldAt deps env i db t = true) : attemptedAt deps env i db t = true := by
  unfold soldAt at h
  unfold attemptedAt
  obtain ⟨p, hp, hsold⟩ := (Option.any_eq_true _ _).mp h
  exact (Option.any_eq_true _ _).mpr ⟨p, hp, (Bool.and_eq_true_iff.mp hsold).1⟩

/-- What is sold at a turn is due. -/
theorem dueAt_of_soldAt {t : Prog.Turn String ℕ SessionState Db} {p : Position}
    (hp : db.positions.find? t.elem = some p) (h : soldAt deps env i db t = true) :
    dueAt deps env i db t = some (.exit, t.elem, p.trustedRemaining) := by
  unfold soldAt at h
  unfold dueAt
  rw [hp, Option.any_some, Bool.and_eq_true_iff, decide_eq_true_eq] at h
  rw [hp, Option.bind_some, due_of_attempted h.1 h.2]
  obtain ⟨remaining, htrusted, -⟩ := h.2.trusted
  rw [htrusted]
  rfl

/-- What is not attempted is not due. -/
theorem dueAt_of_not_attemptedAt {t : Prog.Turn String ℕ SessionState Db}
    (h : ¬ attemptedAt deps env i db t = true) : dueAt deps env i db t = none := by
  unfold attemptedAt at h
  unfold dueAt due
  cases hp : db.positions.find? t.elem with
  | none => rfl
  | some p =>
      rw [hp, Option.any_some] at h
      rw [Option.bind_some, if_neg h]
      rfl

/-- What is booked at a turn. -/
theorem booked_turn (hfault : ∀ j, (env j).fault = none) {t : Prog.Turn String ℕ SessionState Db}
    (ht : t ∈ exitTurns deps env i db) :
    (Prog.recordedS world env reservation (exitPosition deps (fetchedBalances deps env i db) t.acc
        t.elem) t.index t.loc t.shared).map booked =
      if soldAt deps env i db t = true then (dueAt deps env i db t).toList else [] := by
  obtain ⟨p, hp, hopen, hmemory, hstored⟩ := untouched_turn ht
  rw [exitPosition_reserves hfault deps _ _ _ hmemory hstored hopen]
  refine ite_congr ?_ (fun hsold => ?_) fun _ => rfl
  · unfold soldAt
    rw [hp, Option.any_some, Bool.and_eq_true_iff, decide_eq_true_eq]
  · rw [dueAt_of_soldAt hp hsold]
    rfl

/-- A turn reserves one exit if it sells, and none else. -/
theorem length_turn (hfault : ∀ j, (env j).fault = none) {t : Prog.Turn String ℕ SessionState Db}
    (ht : t ∈ exitTurns deps env i db) :
    (Prog.recordedS world env reservation (exitPosition deps (fetchedBalances deps env i db) t.acc
        t.elem) t.index t.loc t.shared).length =
      if soldAt deps env i db t = true then 1 else 0 := by
  obtain ⟨p, hp, -⟩ := untouched_turn ht
  rw [← List.length_map, booked_turn hfault ht]
  by_cases hsold : soldAt deps env i db t = true
  · rw [if_pos hsold, if_pos hsold, dueAt_of_soldAt hp hsold]
    rfl
  · rw [if_neg hsold, if_neg hsold]
    rfl

/-- A turn counts the exits it has attempted. -/
theorem count_turn (hfault : ∀ j, (env j).fault = none) {t : Prog.Turn String ℕ SessionState Db}
    (ht : t ∈ exitTurns deps env i db) (n : ℕ)
    (hok : (t.run world env (exitPosition deps (fetchedBalances deps env i db))).1.1 = .ok n) :
    n = if attemptedAt deps env i db t = true then t.acc + 1 else t.acc := by
  obtain ⟨p, hp, -, hmemory, -⟩ := untouched_turn ht
  refine (exitPosition_counts hfault deps _ _ _ hmemory hok).trans ?_
  unfold attemptedAt
  rw [hp, Option.any_some]

end Command

/-- **Exiting everything.** If the store answers, the command takes one turn for every open position.
When it returns a count, each exit that is due at its turn has got exactly one order, for exactly its
quantity, and the count is the number of orders, exactly if whatever gets as far as the shared exit
path is sold by it. -/
theorem exit_all_reserves_iff (deps : Deps) (env : ℕ → Env) (i : ℕ) (db : Db)
    (hfault : ∀ j, (env j).fault = none) {n : ℕ}
    (hcount : (Prog.run world env (exitAllPositions deps) i db).1 = .ok n) :
    ((exitTurns deps env i db).map Prog.Turn.elem).Perm
        (db.loadPortfolio.openPositions.map Position.mint) ∧
      (ExitsServed deps env i db n ↔ TurnsAgree deps env i db) := by
  obtain ⟨hrun, hrecorded⟩ := exitAllPositions_run deps i db hfault
  rw [hrun] at hcount
  have hreserved : reservedExits deps env i db = (exitTurns deps env i db).flatMap fun t =>
      Prog.recordedS world env reservation (exitPosition deps (fetchedBalances deps env i db) t.acc
        t.elem) t.index t.loc t.shared :=
    hrecorded.trans (Prog.recordedS_foldlM reservation _ _ _ _ _)
  have hlength : (reservedExits deps env i db).length =
      (exitTurns deps env i db).countP (soldAt deps env i db) := by
    rw [hreserved]
    exact length_flatMap_eq_countP _ fun t ht => length_turn hfault ht
  have hn : n = (exitTurns deps env i db).countP (attemptedAt deps env i db) :=
    (Prog.foldlM_counts _ _ _ _ _ _ (fun t ht => count_turn hfault ht) hcount).trans (Nat.zero_add _)
  have himp : ∀ t ∈ exitTurns deps env i db, soldAt deps env i db t = true →
      attemptedAt deps env i db t = true := fun t _ => attemptedAt_of_soldAt t
  have hagree := countP_eq_iff_of_imp (exitTurns deps env i db) himp
  refine ⟨?_, fun hserved => ?_, fun hturns => ⟨?_, ?_⟩⟩
  · rw [show (exitTurns deps env i db).map Prog.Turn.elem = exitMints env i db from
      Prog.turns_elems _ _ _ _ _ hcount]
    exact exitMints_perm env i db
  · rw [turnsAgree_iff, ← hagree, ← hn, ← hlength]
    exact hserved.count
  · rw [hn, hlength, hagree]
    exact turnsAgree_iff.mp hturns
  · rw [hreserved, List.map_flatMap, List.filterMap_eq_flatMap_toList]
    refine List.flatMap_congr fun t ht => (booked_turn hfault ht).trans ?_
    by_cases hsold : soldAt deps env i db t = true
    · rw [if_pos hsold]
    · rw [if_neg hsold, dueAt_of_not_attemptedAt fun h => hsold (turnsAgree_iff.mp hturns t ht h)]
      rfl

/-- A position whose quantity is trusted is sold, and counted. -/
theorem exit_all_reserves_iff_sample :
    ExitsServed (sampleDeps false) (fun _ => sampleEnv) 0 sampleDb 1 :=
  ((exit_all_reserves_iff (sampleDeps false) (fun _ => sampleEnv) 0 sampleDb (fun _ => rfl)
    (by decide +kernel)).2).mpr (turnsAgree_iff.mpr (by decide +kernel))

/-- The sample position in the store, its quantity not known. -/
def untrustedDb : Db := Db.new.savePosition untrustedPosition

/-- A wallet that holds the hundred units of the position. -/
def fundedEnv (_ : ℕ) : Env :=
  accountsEnv [{ mint := "token", amount := 100, decimals := 0 }]

/-- A position whose quantity the command takes from the chain: its exit is due and is counted, but
no order is reserved. -/
theorem untrusted_exit_dropped :
    (exitTurns (sampleDeps true) fundedEnv 0 untrustedDb).filterMap
          (dueAt (sampleDeps true) fundedEnv 0 untrustedDb) = [(.exit, "token", some 100)] ∧
      (Prog.run world fundedEnv (exitAllPositions (sampleDeps true)) 0 untrustedDb).1.toOption =
          some 1 ∧
      reservedExits (sampleDeps true) fundedEnv 0 untrustedDb = [] := by
  decide +kernel

end SolanaBot.Analysis
