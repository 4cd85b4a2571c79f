import SolanaBot.Model.Portfolio

/-!
# The store

`storage/state.rs`: the tables and keys of the SQLite database that the trading tasks
read and write, with the statements they use. A statement fails as a whole, or does
what its definition here says; whether it fails is up to the environment.

`runFillTransaction` is the transaction that records a fill: `BEGIN`, the fill, a fresh
portfolio, the accounting, the position, the order, `COMMIT`. The source writes it
three times (`runtime.rs:309-378`, `703-745` and `1761-1805`); they differ in their
`Accounting`. A transaction whose `COMMIT` fails leaves the database as before its
`BEGIN IMMEDIATE`: SQLite rolls back by itself on the errors that are still possible
then.
-/

set_option autoImplicit false

namespace SolanaBot.Model

open SolanaBot.Library

/-! ## Tables -/

/-- A row of the table `orders`. The state, kind, position and side columns repeat the payload. -/
structure OrderRow where
  idempotencyKey : String
  payload : OrderRecord
deriving DecidableEq

/-- The primary key. -/
def OrderRow.id (r : OrderRow) : String := r.payload.id

/-- A persisted liquidity observation, RUST: storage/state.rs:254-275. -/
structure LiquidityEvidence where
  mint : String
  liquidityUsd : Decimal
  observedAt : Time
deriving DecidableEq

/-- The database. The rows of `positions` and the fields below `fills` are entries of `kv`. -/
structure Db where
  orders : Table OrderRow.id
  positions : Table Position.mint
  fills : Table Fill.orderId
  liquidity : Table LiquidityEvidence.mint
  invalidatedSignals : List String
  emergencyStop : Option String
  killSwitch : Option String
  day : Option Int
  dayStartEquity : Option Decimal
  tradesToday : Option UInt32

/-- The database after `StateStore::open` on a new file. -/
def Db.new : Db :=
  { orders := Table.empty _, positions := Table.empty _, fills := Table.empty _
    liquidity := Table.empty _, invalidatedSignals := [], emergencyStop := none
    killSwitch := none, day := none, dayStartEquity := none, tradesToday := none }

/-- The new store. -/
instance : Inhabited Db := ⟨.new⟩

/-- RUST: storage/state.rs:164-175, the states that the query selects. -/
def OrderState.isIncomplete : OrderState → Bool
  | .pending | .submitted | .unknown => true
  | _ => false

/-- An order is incomplete exactly if its state is not terminal. -/
theorem OrderState.isIncomplete_eq (s : OrderState) : s.isIncomplete = !s.isTerminal := by
  cases s <;> rfl

/-- The orders that `incomplete_orders` returned. -/
structure IncompleteOrders where
  orders : List OrderRecord
  incomplete : ∀ o ∈ orders, o.state.isIncomplete

namespace Db

/-- The stored payload of an order. -/
def order (db : Db) (id : String) : Option OrderRecord :=
  (db.orders.find? id).map OrderRow.payload

/-- RUST: storage/state.rs:164-175. -/
def incompleteOrders (db : Db) : IncompleteOrders where
  orders := (db.orders.rows.map OrderRow.payload).filter fun o => o.state.isIncomplete
  incomplete := by simp

/-- RUST: storage/state.rs:176-185. The order of the rows plays no role for the callers. -/
def allOrders (db : Db) : List OrderRecord := db.orders.rows.map OrderRow.payload

/-- RUST: storage/state.rs:127-152, the checks before the insertion. -/
def checkOrder (o : OrderRecord) : Except String Unit :=
  if (o.kind = .entry ∨ o.kind = .exit) ∧ (o.positionId.isNone ∨ o.inputMint.isNone ∨
      o.outputMint.isNone ∨ o.inputAmountAtomic.isNone) then
    .error ("invalid order accounting: new entry and exit orders require position, " ++
      "route mints, and atomic input amount")
  else if o.kind = .entry ∧ o.side ≠ .buy then
    .error "invalid order accounting: entry order must be buy side"
  else if o.kind = .exit ∧ o.side ≠ .sell then
    .error "invalid order accounting: exit order must be sell side"
  else .ok ()

/-- RUST: storage/state.rs:127-158. `INSERT OR IGNORE`: an order whose id or whose idempotency
key is taken is not inserted, and the answer is `false`. -/
def reserveOrder (db : Db) (o : OrderRecord) : Except String Bool × Db :=
  match checkOrder o with
  | .error e => (.error e, db)
  | .ok () =>
      if (db.orders.find? o.id).isSome ∨
          db.orders.rows.any fun r => r.idempotencyKey = o.idempotencyKey then
        (.ok false, db)
      else (.ok true, { db with orders := db.orders.put ⟨o.idempotencyKey, o⟩ })

/-- RUST: storage/state.rs:159-163. By id, whatever the stored row says; the idempotency key
column stays. -/
def updateOrder (db : Db) (o : OrderRecord) : Db :=
  match db.orders.find? o.id with
  | none => db
  | some r => { db with orders := db.orders.update { r with payload := o } }

/-- RUST: storage/state.rs:62-64. -/
def savePosition (db : Db) (p : Position) : Db := { db with positions := db.positions.put p }

/-- RUST: storage/state.rs:81-85. -/
def saveFill (db : Db) (fill : Fill) : Db := { db with fills := db.fills.put fill }

/-- RUST: runtime.rs:387-399. -/
def loadPortfolio (db : Db) : Portfolio := Portfolio.empty.load db.positions.rows

/-- RUST: storage/state.rs:235-250. -/
def setLastLiquidity (db : Db) (mint : String) (liquidityUsd : Decimal) (now : Time) : Db :=
  { db with liquidity := db.liquidity.put ⟨mint, liquidityUsd, now⟩ }

end Db

/-! ## Transactions -/

/-- The statements of a fill transaction that can fail. -/
inductive TxStep where
  | begin
  | insertFill
  | loadPortfolio
  | savePosition
  | updateOrder
  | commit
deriving DecidableEq

/-- Which statements of a transaction fail, and with which message. -/
abbrev TxFaults := TxStep → Option String

/-- No statement fails. -/
def TxFaults.none : TxFaults := fun _ => .none

/-- How a fill transaction accounts for its fill. -/
inductive Accounting where
  /-- RUST: runtime.rs:1771-1781 and 326-347. A reconciled position may lack its base mint. -/
  | entry (baseMint : Option String) (tokenDecimals baseMintDecimals : UInt8) (positionId : String)
      (price : Decimal) (signalId : String) (costModel : CostModel)
  /-- RUST: runtime.rs:711-718. The loaded portfolio is first overwritten with `stored`. -/
  | exit (stored : Option Position) (exitReason : String) (now : Time)
  /-- RUST: runtime.rs:348-355. -/
  | reconciledExit (exitReason : String) (now : Time)
deriving DecidableEq

/-- Whether the transaction runs right after the execution or in a later reconciliation. -/
inductive FillSource where
  | direct
  | reconciled
deriving DecidableEq

/-- A fill transaction, with the in-memory record of the order that it updates. -/
structure FillTransaction where
  fill : Fill
  mint : String
  order : OrderRecord
  accounting : Accounting
  source : FillSource
deriving DecidableEq

/-- Whether the fill is accounted for as an entry. -/
def Accounting.isEntry : Accounting → Bool
  | .entry .. => true
  | .exit .. | .reconciledExit .. => false

namespace FillTransaction

/-- The accounting step on the freshly loaded portfolio. -/
def account (t : FillTransaction) (pf : Portfolio) : Except String Unit × Portfolio :=
  match t.accounting with
  | .entry none .. => (.error "position missing base_mint", pf)
  | .entry (some baseMint) tokenDecimals baseMintDecimals positionId price signalId costModel =>
      pf.applyEntry t.mint baseMint tokenDecimals baseMintDecimals positionId t.fill price signalId
        costModel
  | .exit stored exitReason now =>
      let pf := match stored with
        | some p => pf.syncPosition p
        | none => pf
      let r := pf.applyExit t.mint t.fill exitReason now
      (r.1.map fun _ => (), r.2)
  | .reconciledExit exitReason now =>
      let r := pf.applyExit t.mint t.fill exitReason now
      (r.1.map fun _ => (), r.2)

/-- How a refused transition is reported. -/
def refusal (t : FillTransaction) (e : String) : String :=
  match t.source with
  | .direct => "order transition failed inside atomic tx: " ++ e
  | .reconciled => e

/-- The record of the order with the signature of the fill. -/
def signed (t : FillTransaction) : OrderRecord := { t.order with signature := some t.fill.signature }

end FillTransaction

/-- RUST: storage/state.rs:300-316 with the closures of runtime.rs:315-380, 703-741 and
1761-1805. The second component is the in-memory order as the closure leaves it: a failure
rolls the database back, not this record. -/
def runFillTransaction (faults : TxFaults) (t : FillTransaction) (db : Db) :
    (Except String Unit × OrderRecord) × Db :=
  let rollback (e : String) (placed : OrderRecord) : (Except String Unit × OrderRecord) × Db :=
    ((.error e, placed), db)
  match faults .begin with
  | some e => rollback e t.order
  | none =>
  match faults .insertFill with
  | some e => rollback e t.order
  | none =>
  match faults .loadPortfolio with
  | some e => rollback e t.order
  | none =>
  match t.account db.loadPortfolio with
  | (.error e, _) => rollback e t.order
  | (.ok (), pf) =>
  match faults .savePosition with
  | some e => rollback e t.order
  | none =>
  match t.signed.transition .confirmed with
  | .error e => rollback (t.refusal e) t.signed
  | .ok placed =>
  match faults .updateOrder with
  | some e => rollback e placed
  | none =>
  match faults .commit with
  | some e => rollback e placed
  | none =>
      let db := db.saveFill t.fill
      let db := match pf.position t.mint with
        | some p => db.savePosition p
        | none => db
      ((.ok (), placed), db.updateOrder placed)

/-- RUST: runtime.rs:296-301. The order of an entry that cannot be accounted for. -/
def unaccountedOrder (fill : Fill) (order : OrderRecord) : OrderRecord :=
  { order with
    signature := some fill.signature
    error := some "entry order has no cost model; fill recorded but accounting cannot be completed" }

/-- RUST: runtime.rs:277-310. An entry without a cost model: the fill is kept for audit and the
order is marked failed. -/
def recordUnaccountedFill (faults : TxFaults) (fill : Fill) (order : OrderRecord) (db : Db) :
    Except String Unit × Db :=
  match faults .begin with
  | some e => (.error e, db)
  | none =>
  match faults .insertFill with
  | some e => (.error e, db)
  | none =>
  match (unaccountedOrder fill order).transition .failed with
  | .error e => (.error e, db)
  | .ok o =>
  match faults .updateOrder with
  | some e => (.error e, db)
  | none =>
  match faults .commit with
  | some e => (.error e, db)
  | none => (.ok (), (db.saveFill fill).updateOrder o)

/-! ## What each statement does -/

namespace Db

/-- An update is found under the id of its order, if there was one. -/
theorem order_updateOrder (db : Db) (o : OrderRecord) (id : String) :
    (db.updateOrder o).order id =
      if id = o.id then (db.order id).map (fun _ => o) else db.order id := by
  unfold updateOrder
  cases hrow : db.orders.find? o.id with
  | none =>
      by_cases hid : id = o.id
      · subst hid
        simp [order, hrow]
      · simp [hid]
  | some r =>
      have hkey : OrderRow.id { r with payload := o } = o.id := rfl
      unfold order
      dsimp only
      rw [Table.find?_update, hkey]
      by_cases hid : id = o.id
      · subst hid
        simp [hrow]
      · simp [hid]

/-- An update of an order leaves the positions. -/
@[simp] theorem positions_updateOrder (db : Db) (o : OrderRecord) :
    (db.updateOrder o).positions = db.positions := by
  unfold updateOrder
  split <;> rfl

/-- An update of an order leaves the fills. -/
@[simp] theorem fills_updateOrder (db : Db) (o : OrderRecord) :
    (db.updateOrder o).fills = db.fills := by
  unfold updateOrder
  split <;> rfl

/-- Saving a position leaves the orders. -/
@[simp] theorem order_savePosition (db : Db) (p : Position) (id : String) :
    (db.savePosition p).order id = db.order id := rfl

/-- Saving a fill leaves the orders. -/
@[simp] theorem order_saveFill (db : Db) (fill : Fill) (id : String) :
    (db.saveFill fill).order id = db.order id := rfl

/-- A reservation inserts the order under a new id, or changes nothing. -/
theorem reserveOrder_cases (db : Db) (o : OrderRecord) :
    ((db.reserveOrder o).1 ≠ .ok true ∧ (db.reserveOrder o).2 = db) ∨
      ((db.reserveOrder o).1 = .ok true ∧ checkOrder o = .ok () ∧ db.order o.id = none ∧
        (db.reserveOrder o).2 = { db with orders := db.orders.put ⟨o.idempotencyKey, o⟩ }) := by
  unfold reserveOrder
  cases hcheck : checkOrder o with
  | error e => exact .inl ⟨by simp, rfl⟩
  | ok u =>
      dsimp only
      split
      · exact .inl ⟨by simp, rfl⟩
      · rename_i hfree
        refine .inr ⟨rfl, rfl, ?_, rfl⟩
        unfold order
        cases hrow : db.orders.find? o.id with
        | none => rfl
        | some r => simp [hrow] at hfree

/-- A reserved order is found under its id. -/
theorem order_reserved (db : Db) (o : OrderRecord) (id : String) :
    order { db with orders := db.orders.put ⟨o.idempotencyKey, o⟩ } id =
      if id = o.id then some o else db.order id := by
  unfold order
  dsimp only
  rw [Table.find?_put]
  have hkey : OrderRow.id ⟨o.idempotencyKey, o⟩ = o.id := rfl
  rw [hkey]
  by_cases hid : id = o.id <;> simp [hid]

/-- The portfolio loaded from the store has the stored positions. -/
@[simp] theorem position_loadPortfolio (db : Db) (mint : String) :
    db.loadPortfolio.position mint = db.positions.find? mint := by
  have hload : ∀ (l : List Position) (pf : Portfolio),
      (pf.load l).positions = l.foldl Table.put pf.positions := by
    intro l
    induction l with
    | nil => exact fun _ => rfl
    | cons p l ih => exact fun pf => ih _
  unfold loadPortfolio Portfolio.position
  rw [hload]
  exact Table.find?_foldl_put_rows db.positions mint

/-- A stored order is among the incomplete ones exactly if its state is not terminal. -/
theorem mem_incompleteOrders (db : Db) (o : OrderRecord) :
    o ∈ db.incompleteOrders.orders ↔ db.order o.id = some o ∧ o.state.isTerminal = false := by
  unfold incompleteOrders order
  simp only [List.mem_filter, List.mem_map, OrderState.isIncomplete_eq, Bool.not_eq_true',
    Option.map_eq_some_iff]
  constructor
  · rintro ⟨⟨r, hr, rfl⟩, hstate⟩
    exact ⟨⟨r, Table.find?_of_mem hr, rfl⟩, hstate⟩
  · rintro ⟨⟨r, hr, rfl⟩, hstate⟩
    exact ⟨⟨r, Table.find?_mem hr, rfl⟩, hstate⟩

end Db

/-! ## How a fill transaction ends -/

/-- Where a fill transaction fails. -/
inductive TxFailure where
  | begin
  | insertFill
  | loadPortfolio
  | apply
  | savePosition
  | transition
  | updateOrder
  | commit
deriving DecidableEq, Repr

namespace FillTransaction

/-- The first step of the transaction that fails, if one does. -/
def failure (t : FillTransaction) (faults : TxFaults) (db : Db) : Option TxFailure :=
  if (faults .begin).isSome then some .begin
  else if (faults .insertFill).isSome then some .insertFill
  else if (faults .loadPortfolio).isSome then some .loadPortfolio
  else if (t.account db.loadPortfolio).1.isOk = false then some .apply
  else if (faults .savePosition).isSome then some .savePosition
  else if (t.signed.transition .confirmed).isOk = false then some .transition
  else if (faults .updateOrder).isSome then some .updateOrder
  else if (faults .commit).isSome then some .commit
  else none

/-- The record of the order as a successful transaction writes it. -/
def confirmed (t : FillTransaction) : OrderRecord := { t.signed with state := .confirmed }

/-- The in-memory record of the order after a failure: the transition comes late. -/
def placedAfter (t : FillTransaction) : TxFailure → OrderRecord
  | .begin | .insertFill | .loadPortfolio | .apply | .savePosition => t.order
  | .transition => t.signed
  | .updateOrder | .commit => t.confirmed

/-- The database that a successful transaction leaves behind. -/
def applied (t : FillTransaction) (db : Db) : Db :=
  let db' := db.saveFill t.fill
  let db' := match (t.account db.loadPortfolio).2.position t.mint with
    | some p => db'.savePosition p
    | none => db'
  db'.updateOrder t.confirmed

end FillTransaction

/-- **What a fill transaction does.** If a step fails, the database stays as it is and the
in-memory order is left as far as the closure came. If none fails, the accounting went through,
the transition was legal, and everything is written. -/
theorem runFillTransaction_spec (faults : TxFaults) (t : FillTransaction) (db : Db) :
    match t.failure faults db with
    | some f => ∃ e, runFillTransaction faults t db = ((.error e, t.placedAfter f), db)
    | none => (t.account db.loadPortfolio).1 = .ok () ∧ t.order.state.StepsTo .confirmed ∧
        runFillTransaction faults t db = ((.ok (), t.confirmed), t.applied db) := by
  unfold FillTransaction.failure FillTransaction.applied runFillTransaction
  cases faults .begin with
  | some e => exact ⟨e, rfl⟩
  | none =>
  cases faults .insertFill with
  | some e => exact ⟨e, rfl⟩
  | none =>
  cases faults .loadPortfolio with
  | some e => exact ⟨e, rfl⟩
  | none =>
  rcases t.account db.loadPortfolio with ⟨r, pf⟩
  cases r with
  | error e => exact ⟨e, rfl⟩
  | ok u =>
  cases faults .savePosition with
  | some e => exact ⟨e, rfl⟩
  | none =>
  cases htransition : t.signed.transition .confirmed with
  | error e => exact ⟨t.refusal e, rfl⟩
  | ok placed =>
  obtain ⟨rfl, hlegal⟩ := OrderRecord.transition_eq_ok htransition
  cases faults .updateOrder with
  | some e => exact ⟨e, rfl⟩
  | none =>
  cases faults .commit with
  | some e => exact ⟨e, rfl⟩
  | none => exact ⟨rfl, hlegal, rfl⟩

/-- A failed transaction leaves the database alone. -/
theorem runFillTransaction_failed {faults : TxFaults} {t : FillTransaction} {db : Db}
    {f : TxFailure} (h : t.failure faults db = some f) :
    ∃ e, runFillTransaction faults t db = ((.error e, t.placedAfter f), db) := by
  have hspec := runFillTransaction_spec faults t db
  rwa [h] at hspec

/-- A transaction in which no step fails writes everything. -/
theorem runFillTransaction_applied {faults : TxFaults} {t : FillTransaction} {db : Db}
    (h : t.failure faults db = none) :
    (t.account db.loadPortfolio).1 = .ok () ∧ t.order.state.StepsTo .confirmed ∧
      runFillTransaction faults t db = ((.ok (), t.confirmed), t.applied db) := by
  have hspec := runFillTransaction_spec faults t db
  rwa [h] at hspec

/-- The transaction fails as a whole, or goes through as a whole. -/
theorem runFillTransaction_cases (faults : TxFaults) (t : FillTransaction) (db : Db) :
    (∃ f e, t.failure faults db = some f ∧
      runFillTransaction faults t db = ((.error e, t.placedAfter f), db)) ∨
    (t.failure faults db = none ∧ (t.account db.loadPortfolio).1 = .ok () ∧
      t.order.state.StepsTo .confirmed ∧
      runFillTransaction faults t db = ((.ok (), t.confirmed), t.applied db)) := by
  cases hfailure : t.failure faults db with
  | some f =>
      obtain ⟨e, hrun⟩ := runFillTransaction_failed hfailure
      exact .inl ⟨f, e, rfl, hrun⟩
  | none => exact .inr ⟨rfl, runFillTransaction_applied hfailure⟩

/-- The audit transaction fails as a whole, or keeps the fill and marks the order failed. -/
theorem recordUnaccountedFill_cases (faults : TxFaults) (fill : Fill) (order : OrderRecord)
    (db : Db) :
    (∃ e, recordUnaccountedFill faults fill order db = (.error e, db)) ∨
      (order.state.StepsTo .failed ∧ recordUnaccountedFill faults fill order db =
        (.ok (), (db.saveFill fill).updateOrder
          { unaccountedOrder fill order with state := .failed })) := by
  unfold recordUnaccountedFill
  cases faults .begin with
  | some e => exact .inl ⟨e, rfl⟩
  | none =>
  cases faults .insertFill with
  | some e => exact .inl ⟨e, rfl⟩
  | none =>
  cases htransition : (unaccountedOrder fill order).transition .failed with
  | error e => exact .inl ⟨e, rfl⟩
  | ok o =>
  obtain ⟨rfl, hlegal⟩ := OrderRecord.transition_eq_ok htransition
  cases faults .updateOrder with
  | some e => exact .inl ⟨e, rfl⟩
  | none =>
  cases faults .commit with
  | some e => exact .inl ⟨e, rfl⟩
  | none => exact .inr ⟨hlegal, rfl⟩

/-- The order that a fill transaction writes revises the one it was given. -/
theorem FillTransaction.revises_confirmed (t : FillTransaction)
    (h : t.order.state.StepsTo .confirmed) : t.order.Revises t.confirmed :=
  ⟨⟨rfl, rfl, rfl, rfl, rfl⟩, h⟩

/-- The in-memory record stays a record of the same order, however far the transaction came. -/
theorem FillTransaction.sameOrder_placedAfter (t : FillTransaction) (f : TxFailure) :
    t.order.SameOrder (t.placedAfter f) := by
  cases f <;> exact ⟨rfl, rfl, rfl, rfl, rfl⟩

/-- An order whose fill cannot be accounted for is revised. -/
theorem revises_unaccountedOrder {fill : Fill} {order : OrderRecord}
    (h : order.state.StepsTo .failed) :
    order.Revises { unaccountedOrder fill order with state := .failed } :=
  ⟨⟨rfl, rfl, rfl, rfl, rfl⟩, h⟩

end SolanaBot.Model
