import SolanaBot.Analysis.EntryOperations
import SolanaBot.Analysis.StoreSteps

/-!
# The table of orders as a ledger of reservations

Whatever the tasks do to the stored orders, and in whatever order: the table of orders is an
append-only ledger. A row is added by a reservation and by nothing else, no row is ever removed,
and an update of a row leaves its identity alone: the idempotency key, the identifier, and what
the order is about. As a reservation refuses a key or an identifier that is taken, each of them is
reserved once in the life of the store.
-/

set_option autoImplicit false

namespace SolanaBot.Analysis

open SolanaBot.Library SolanaBot.Model

/-- What is fixed when an order is reserved. -/
structure OrderIdentity where
  idempotencyKey : String
  id : String
  mint : String
  kind : OrderKind
  positionId : Option String
  inputAmountAtomic : Option UInt64
deriving DecidableEq

/-- The identity of a stored order, its key being the one of the column. -/
def rowIdentity (r : OrderRow) : OrderIdentity :=
  { idempotencyKey := r.idempotencyKey
    id := r.payload.id
    mint := r.payload.mint
    kind := r.payload.kind
    positionId := r.payload.positionId
    inputAmountAtomic := r.payload.inputAmountAtomic }

/-- The identity of an order when it is reserved. -/
def reservedIdentity (o : OrderRecord) : OrderIdentity := rowIdentity ⟨o.idempotencyKey, o⟩

/-- The ledger that the table of orders stands for. -/
def ledgerEntries (db : Db) : List OrderIdentity := db.orders.rows.map rowIdentity

/-- No two stored orders share an idempotency key. -/
def KeysApart (db : Db) : Prop := ((ledgerEntries db).map OrderIdentity.idempotencyKey).Nodup

/-- The reservations along a schedule, oldest first. -/
def reservationsAlong (bot : Bot) (schedule : List (Label Env)) : List OrderRecord :=
  bot.history world (fun e op db taken => taken ++ reservation e op db) [] schedule

/-! ## One operation -/

/-- The identity of a row is that of its order. -/
theorem rowIdentity_of_sameOrder {key : String} {o o' : OrderRecord} (h : o.SameOrder o') :
    rowIdentity ⟨key, o'⟩ = rowIdentity ⟨key, o⟩ := by
  unfold rowIdentity
  simp only [h.id, h.mint, h.kind, h.positionId, h.inputAmountAtomic]

/-- Overwriting an order with another record of it leaves the ledger alone. -/
theorem ledgerEntries_updateOrder {db : Db} {copy o : OrderRecord} (hstored : StoredAs copy db)
    (hsame : copy.SameOrder o) : ledgerEntries (db.updateOrder o) = ledgerEntries db := by
  obtain ⟨stored, hstored, hcopy⟩ := hstored
  obtain ⟨row, hrow, rfl⟩ := Option.map_eq_some_iff.mp hstored
  rw [← hsame.id] at hrow
  unfold Db.updateOrder ledgerEntries
  rw [hrow]
  refine Table.map_rows_update rowIdentity fun r hr hkey => ?_
  obtain rfl : r = row := by
    have hfound := Table.find?_of_mem hr
    have hid : OrderRow.id { row with payload := o } = o.id := rfl
    rw [hkey, hid, hrow, Option.some.injEq] at hfound
    exact hfound.symm
  exact rowIdentity_of_sameOrder (hcopy.symm.trans hsame)

/-- The orders after a fill transaction. -/
theorem ledgerEntries_applied (t : FillTransaction) (db : Db) :
    ledgerEntries (t.applied db) = ledgerEntries (db.updateOrder t.confirmed) := by
  have horders : ∀ db' : Db, db'.orders = db.orders →
      (db'.updateOrder t.confirmed).orders = (db.updateOrder t.confirmed).orders := by
    intro db' h
    unfold Db.updateOrder
    rw [h]
    split
    · exact h
    · rfl
  unfold FillTransaction.applied ledgerEntries
  dsimp only
  rw [horders]
  split <;> rfl

/-- A reservation of a new order adds its entry at the end. -/
theorem ledgerEntries_reserved {db : Db} {o : OrderRecord} (hnew : db.order o.id = none) :
    ledgerEntries { db with orders := db.orders.put ⟨o.idempotencyKey, o⟩ } =
      ledgerEntries db ++ [reservedIdentity o] := by
  have hfree : db.orders.find? (OrderRow.id ⟨o.idempotencyKey, o⟩) = none := by
    cases hrow : db.orders.find? (OrderRow.id ⟨o.idempotencyKey, o⟩) with
    | none => rfl
    | some r =>
        unfold Db.order at hnew
        rw [show db.orders.find? o.id = some r from hrow] at hnew
        cases hnew
  unfold ledgerEntries
  dsimp only
  rw [Table.rows_put_of_find?_eq_none hfree, List.map_append]
  rfl

/-- **What one permitted operation does to the ledger.** It adds the entry of the order that the
operation reserves, if it reserves one. -/
theorem ledgerEntries_exec (e : Env) {op : Op} {db : Db} {K : Set OrderRecord}
    (hop : permits K op) (hK : ∀ f ∈ K, StoredAs f db) :
    ledgerEntries (exec e op db).2 =
      ledgerEntries db ++ (reservation e op db).map reservedIdentity := by
  cases op with
  | savePosition basis p =>
      unfold exec statement
      cases e.fault <;> exact (List.append_nil _).symm
  | reserveOrder seen o =>
      unfold exec reservation
      cases e.fault with
      | some msg => exact (List.append_nil _).symm
      | none =>
          dsimp only
          rcases db.reserveOrder_cases o with ⟨hrefused, hdb⟩ | ⟨hok, -, hnew, hdb⟩
          · have hnot : ¬ (db.reserveOrder o).1.toOption = some true := by
              intro h
              cases hanswer : (db.reserveOrder o).1 with
              | error msg => rw [hanswer] at h; cases h
              | ok taken =>
                  rw [hanswer] at h hrefused
                  cases h
                  exact hrefused rfl
            simp [hdb, hnot]
          · rw [hdb, hok, ledgerEntries_reserved hnew]
            rfl
  | updateOrder copy o =>
      unfold exec statement
      cases e.fault with
      | some msg => exact (List.append_nil _).symm
      | none =>
          refine Eq.trans ?_ (List.append_nil _).symm
          exact ledgerEntries_updateOrder (.of_known hK hop.1) hop.2.toSameOrder
  | fillTransaction t =>
      show ledgerEntries (runFillTransaction e.txFaults t db).2 = ledgerEntries db ++ []
      rw [List.append_nil]
      rcases runFillTransaction_cases e.txFaults t db with ⟨f, msg, -, h⟩ | ⟨-, -, hlegal, h⟩
      · rw [h]
      · rw [h]
        exact (ledgerEntries_applied t db).trans
          (ledgerEntries_updateOrder (.of_known hK hop.1) (t.revises_confirmed hlegal).toSameOrder)
  | unaccountedFill fill order =>
      show ledgerEntries (recordUnaccountedFill e.txFaults fill order db).2 = ledgerEntries db ++ []
      rw [List.append_nil]
      rcases recordUnaccountedFill_cases e.txFaults fill order db with ⟨msg, h⟩ | ⟨hlegal, h⟩
      · rw [h]
      · rw [h]
        have hstored : StoredAs order (db.saveFill fill) := StoredAs.of_known hK hop.1
        exact ledgerEntries_updateOrder hstored (revises_unaccountedOrder hlegal).toSameOrder
  | _ =>
      refine Eq.trans ?_ (List.append_nil _).symm
      unfold ledgerEntries
      rw [(exec_of_not_writes (by exact not_false)).1]

/-- A reservation that is accepted takes a new key. -/
theorem keysApart_exec (e : Env) {op : Op} {db : Db} {K : Set OrderRecord}
    (hop : permits K op) (hK : ∀ f ∈ K, StoredAs f db) (h : KeysApart db) :
    KeysApart (exec e op db).2 := by
  unfold KeysApart
  rw [ledgerEntries_exec e hop hK, List.map_append, List.nodup_append]
  cases op with
  | reserveOrder seen o =>
      unfold reservation
      dsimp only
      split
      · rename_i haccepted
        rw [Bool.and_eq_true, decide_eq_true_eq, reserveOrder_accepts_iff] at haccepted
        refine ⟨h, List.nodup_singleton _, fun key hkey key' hkey' => ?_⟩
        obtain rfl : key' = (reservedIdentity o).idempotencyKey := by simpa using hkey'
        unfold ledgerEntries at hkey
        rw [List.map_map] at hkey
        obtain ⟨r, hr, rfl⟩ := List.mem_map.mp hkey
        exact haccepted.2.2.2 r hr
      · exact ⟨h, List.nodup_nil, by simp⟩
  | _ => exact ⟨h, List.nodup_nil, by simp [reservation]⟩

/-! ## Every run -/

/-- What a run does to the ledger. -/
theorem ledger_run {bot : Bot} (htasks : bot.RunsTasks) (hkeys : KeysApart bot.shared)
    (schedule : List (Label Env)) :
    KeysApart (bot.run world schedule).shared ∧
      ledgerEntries (bot.run world schedule).shared =
        ledgerEntries bot.shared ++ (reservationsAlong bot schedule).map reservedIdentity :=
  Pool.history_inv (C := fun _ _ _ => True) discipline_sound
    (fun db taken => KeysApart db ∧
      ledgerEntries db = ledgerEntries bot.shared ++ taken.map reservedIdentity)
    (fun e op db taken K hop hK _ h => ⟨keysApart_exec e hop hK h.1, by
      show ledgerEntries (exec e op db).2 = _
      rw [ledgerEntries_exec e hop hK, h.2, List.map_append, List.append_assoc]⟩)
    (g := []) htasks.follows (Pool.meets_of_forall (fun _ _ _ => trivial) _ schedule)
    ⟨hkeys, (List.append_nil _).symm⟩

/-- The identifiers of the ledger are the primary keys. -/
theorem ledgerEntries_ids (db : Db) :
    (ledgerEntries db).map OrderIdentity.id = db.orders.rows.map OrderRow.id := by
  unfold ledgerEntries
  rw [List.map_map]
  rfl

/-- **The table of orders is a ledger.** In every interleaving of the tasks, with any failures and
any answers of the outside world, the ledger at the end is the ledger at the start followed by the
reservations of the run in their order. No two entries share a key or an identifier, as far as the
start shared none. -/
theorem order_ledger_append_only (bot : Bot) (schedule : List (Label Env)) (htasks : bot.RunsTasks)
    (hkeys : KeysApart bot.shared) :
    ledgerEntries (bot.run world schedule).shared =
        ledgerEntries bot.shared ++ (reservationsAlong bot schedule).map reservedIdentity ∧
      ((ledgerEntries (bot.run world schedule).shared).map OrderIdentity.idempotencyKey).Nodup ∧
      ((ledgerEntries (bot.run world schedule).shared).map OrderIdentity.id).Nodup := by
  obtain ⟨hapart, hledger⟩ := ledger_run htasks hkeys schedule
  refine ⟨hledger, hapart, ?_⟩
  rw [ledgerEntries_ids]
  exact (bot.run world schedule).shared.orders.nodup

/-- The monitor and the operator's command reserve an exit each. -/
theorem order_ledger_append_only_sample :
    ledgerEntries (sellingBot.run world (sampleTurns 0 17 ++ operatorTurns 9 ++
        sampleTurns 0 3)).shared =
      [] ++ (reservationsAlong sellingBot (sampleTurns 0 17 ++ operatorTurns 9 ++
        sampleTurns 0 3)).map reservedIdentity ∧
      (reservationsAlong sellingBot (sampleTurns 0 17 ++ operatorTurns 9 ++
        sampleTurns 0 3)).map OrderRecord.id = ["order-2", "order-1"] := by
  refine ⟨(order_ledger_append_only sellingBot _ sellingBot_runsTasks List.nodup_nil).1, ?_⟩
  decide +kernel

end SolanaBot.Analysis
