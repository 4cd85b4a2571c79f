import Mathlib.Algebra.Order.BigOperators.Group.List
import Mathlib.Algebra.Ring.Nat
import SolanaBot.Analysis.OrderReadings

/-!
# Exits in flight

`execute_exit_order` checks that no exit of the position is in flight and reserves its own
order in a later operation, under a key that contains the reason of the exit and the number
of exits so far. At most one exit of a position is in flight, and its quantity is covered by
the remaining quantity of the position (`exits_exclusive`), in every run without three kinds of
steps: a reservation that is accepted although, since the check and the reading of its task, an exit
of the position was opened and not settled or the position was lowered; a write that takes an exit
back out of a terminal state; a write that takes something from a position whose exit is in flight,
other than the fill of that exit. Two tasks that check before either of them reserves bring two exits
in flight (`exits_not_exclusive`), unless they reserve under the same key (`exits_exclusive_sample`).
-/

set_option autoImplicit false

namespace SolanaBot.Analysis

open SolanaBot.Library SolanaBot.Model

/-- A stored exit of the position whose outcome is open. -/
def inFlight (positionId : Option String) (o : OrderRecord) : Bool :=
  isExitOf positionId o && !o.state.isTerminal

/-- The exits of the position that are in flight. -/
def exitsInFlight (db : Db) (positionId : Option String) : List OrderRecord :=
  db.allOrders.filter (inFlight positionId)

/-- The exits in flight that sell the position of the mint. -/
def sellsInFlight (db : Db) (mint : String) (positionId : Option String) : List OrderRecord :=
  (exitsInFlight db positionId).filter fun o => o.mint = mint

/-- At most one exit of each position is in flight, and what is being sold of a position is covered by
its remaining quantity. -/
structure ExitsExclusive (db : Db) : Prop where
  one : ∀ positionId, (exitsInFlight db positionId).length ≤ 1
  covered : ∀ p ∈ db.positions.rows,
    ((sellsInFlight db p.mint p.positionId).map orderQuantity).sum ≤ remainingOf (some p)

/-! ## The condition -/

/-- When a reservation of an exit is accepted, no exit of the position was opened since the check of
the task without being settled, and the position was not lowered since the task has read it. -/
def ReservedInTime (e : Env) (op : Op) (db : Db) (since : Since) : Prop :=
  ∀ o ∈ reservation e op db, o.kind = .exit →
    (∀ r ∈ since.unsettled, isExitOf o.positionId r = false) ∧ o.mint ∉ since.lowered

/-- No exit is taken back out of a terminal state. -/
def ExitsStaySettled (e : Env) (op : Op) (db : Db) : Prop :=
  ∀ o ∈ writtenOrder e op db, o.kind = .exit → o.state.isTerminal = false →
    ∀ stored ∈ db.order o.id, stored.state.isTerminal = false

/-- While an exit of a position is in flight, the position is written by the fill of that exit, or
nothing is taken from it. -/
def SoldByOwnFill (e : Env) (op : Op) (db : Db) : Prop :=
  match op with
  | .savePosition _ p => e.fault = none → ∀ _o ∈ sellsInFlight db p.mint p.positionId,
      ∃ p₀ ∈ db.positions.find? p.mint, p₀.positionId = p.positionId ∧
        remainingOf (some p₀) ≤ remainingOf (some p)
  | .fillTransaction t => t.failure e.txFaults db = none →
      ∀ o ∈ sellsInFlight db t.mint (accountedId t db), o.id = t.order.id ∨
        (t.accounting.isEntry = true ∧ (db.positions.find? t.mint).isSome = true)
  | _ => True

/-- The three conditions together. -/
structure ExitsApart (e : Env) (op : Op) (db : Db) (view : View Readings Since) : Prop where
  reserved : ReservedInTime e op db view.since
  settled : ExitsStaySettled e op db
  sold : SoldByOwnFill e op db

/-- An operation that does not write sells by its own fill only. -/
theorem soldByOwnFill_of_not_writes (e : Env) (db : Db) (op : Op) (h : ¬ op.Writes) :
    SoldByOwnFill e op db := by
  cases op <;> first | trivial | exact absurd trivial h

/-- Whether `ReservedInTime` holds can be evaluated. -/
instance (e : Env) (op : Op) (db : Db) (since : Since) : Decidable (ReservedInTime e op db since) := by
  unfold ReservedInTime
  infer_instance

/-- Whether `ExitsStaySettled` holds can be evaluated. -/
instance (e : Env) (op : Op) (db : Db) : Decidable (ExitsStaySettled e op db) := by
  unfold ExitsStaySettled
  infer_instance

/-- Whether `SoldByOwnFill` holds can be evaluated. -/
instance (e : Env) (op : Op) (db : Db) : Decidable (SoldByOwnFill e op db) :=
  op.decideWrites (soldByOwnFill_of_not_writes e db)
    (fun _ p => inferInstanceAs (Decidable (e.fault = none →
      ∀ _o ∈ sellsInFlight db p.mint p.positionId, ∃ p₀ ∈ db.positions.find? p.mint,
        p₀.positionId = p.positionId ∧ remainingOf (some p₀) ≤ remainingOf (some p))))
    (fun _ _ => instDecidableTrue) (fun _ _ => instDecidableTrue)
    (fun t => inferInstanceAs (Decidable (t.failure e.txFaults db = none →
      ∀ o ∈ sellsInFlight db t.mint (accountedId t db), o.id = t.order.id ∨
        (t.accounting.isEntry = true ∧ (db.positions.find? t.mint).isSome = true))))
    (fun _ _ => instDecidableTrue)

/-- Whether `ExitsApart` holds can be evaluated. -/
instance (e : Env) (op : Op) (db : Db) (view : View Readings Since) :
    Decidable (ExitsApart e op db view) :=
  decidable_of_iff (ReservedInTime e op db view.since ∧ ExitsStaySettled e op db ∧
    SoldByOwnFill e op db) ⟨fun h => ⟨h.1, h.2.1, h.2.2⟩, fun h => ⟨h.reserved, h.settled, h.sold⟩⟩

/-! ## Exits one by one -/

/-- The orders are those that are found under their ids. -/
theorem mem_allOrders (db : Db) (o : OrderRecord) :
    o ∈ db.allOrders ↔ db.order o.id = some o := by
  unfold Db.allOrders Db.order
  rw [List.mem_map, Option.map_eq_some_iff]
  constructor
  · rintro ⟨r, hr, rfl⟩
    exact ⟨r, Table.find?_of_mem hr, rfl⟩
  · rintro ⟨r, hr, rfl⟩
    exact ⟨r, Table.find?_mem hr, rfl⟩

/-- The exits in flight are the stored orders that are in flight. -/
theorem mem_exitsInFlight (db : Db) (positionId : Option String) (o : OrderRecord) :
    o ∈ exitsInFlight db positionId ↔ db.order o.id = some o ∧ inFlight positionId o := by
  rw [exitsInFlight, List.mem_filter, mem_allOrders]

/-- No exit is listed twice. -/
theorem nodup_exitsInFlight (db : Db) (positionId : Option String) :
    (exitsInFlight db positionId).Nodup := by
  refine List.Nodup.filter _ ?_
  have hids : (db.allOrders.map OrderRecord.id).Nodup := by
    unfold Db.allOrders
    rw [List.map_map]
    exact db.orders.nodup
  exact hids.of_map _

/-- Two exits of a position in flight are one, and one is covered. -/
structure Exclusive (db : Db) : Prop where
  unique : ∀ positionId, ∀ o ∈ exitsInFlight db positionId, ∀ o' ∈ exitsInFlight db positionId,
    o.id = o'.id
  covered : ∀ mint p, db.positions.find? mint = some p →
    ∀ o ∈ exitsInFlight db p.positionId, o.mint = mint → orderQuantity o ≤ remainingOf (some p)

/-- If two exits in flight are one, there is at most one. -/
theorem length_exitsInFlight_le {db : Db} {positionId : Option String}
    (h : ∀ o ∈ exitsInFlight db positionId, ∀ o' ∈ exitsInFlight db positionId, o.id = o'.id) :
    (exitsInFlight db positionId).length ≤ 1 := by
  match hl : exitsInFlight db positionId with
  | [] => simp
  | [o] => simp
  | o :: o' :: l =>
      have ho : o ∈ exitsInFlight db positionId := by simp [hl]
      have ho' : o' ∈ exitsInFlight db positionId := by simp [hl]
      have heq : some o = some o' := by
        rw [← ((mem_exitsInFlight ..).mp ho).1, ← ((mem_exitsInFlight ..).mp ho').1, h o ho o' ho']
      have hnodup := nodup_exitsInFlight db positionId
      rw [hl, Option.some.inj heq] at hnodup
      simp at hnodup

/-- The sells in flight of a mint are the exits of it. -/
theorem mem_sellsInFlight {db : Db} {mint : String} {positionId : Option String} {o : OrderRecord} :
    o ∈ sellsInFlight db mint positionId ↔ o ∈ exitsInFlight db positionId ∧ o.mint = mint := by
  simp [sellsInFlight]

/-- At most one exit in flight sells a position. -/
theorem length_sellsInFlight_le {db : Db} {mint : String} {positionId : Option String}
    (h : (exitsInFlight db positionId).length ≤ 1) :
    (sellsInFlight db mint positionId).length ≤ 1 :=
  (List.length_filter_le _ _).trans h

/-- The two ways to say it agree. -/
theorem exclusive_iff (db : Db) : Exclusive db ↔ ExitsExclusive db := by
  constructor
  · intro h
    have hone : ∀ positionId, (exitsInFlight db positionId).length ≤ 1 :=
      fun positionId => length_exitsInFlight_le (h.unique positionId)
    refine ⟨hone, fun p hp => ?_⟩
    match hl : sellsInFlight db p.mint p.positionId with
    | [] => simp
    | [o] =>
        have ho : o ∈ sellsInFlight db p.mint p.positionId := by simp [hl]
        obtain ⟨hflight, hmint⟩ := mem_sellsInFlight.mp ho
        simpa using h.covered p.mint p (Table.find?_of_mem hp) o hflight hmint
    | o :: o' :: l =>
        have hlen := @length_sellsInFlight_le db p.mint p.positionId (hone p.positionId)
        rw [hl] at hlen
        simp at hlen
  · intro h
    have hunique : ∀ positionId, ∀ o ∈ exitsInFlight db positionId,
        ∀ o' ∈ exitsInFlight db positionId, o = o' := by
      intro positionId o ho o' ho'
      obtain ⟨x, hx⟩ : ∃ x, exitsInFlight db positionId = [x] := by
        rw [← List.length_eq_one_iff]
        have hpos := List.length_pos_of_mem ho
        have hone := h.one positionId
        omega
      rw [hx, List.mem_singleton] at ho ho'
      rw [ho, ho']
    refine ⟨fun positionId o ho o' ho' => congrArg _ (hunique positionId o ho o' ho'),
      fun mint p hp o ho hmint => ?_⟩
    have hkey : p.mint = mint := Table.find?_key hp
    have hsell : o ∈ sellsInFlight db p.mint p.positionId :=
      mem_sellsInFlight.mpr ⟨ho, hmint.trans hkey.symm⟩
    have hle : orderQuantity o ≤ ((sellsInFlight db p.mint p.positionId).map orderQuantity).sum :=
      List.single_le_sum (fun _ _ => Nat.zero_le _) _ (List.mem_map_of_mem hsell)
    exact hle.trans (h.covered p (Table.find?_mem hp))

/-! ## One operation -/

/-- An exit in flight after an operation was in flight before it, or was just reserved. -/
theorem inFlight_origin {e : Env} {op : Op} {db : Db} {K : Set OrderRecord} (hop : permits K op)
    (hK : ∀ f ∈ K, StoredAs f db) (hsettled : ExitsStaySettled e op db)
    {positionId : Option String} {o : OrderRecord}
    (ho : o ∈ exitsInFlight (exec e op db).2 positionId) :
    (∃ o₀ ∈ exitsInFlight db positionId, o₀.SameOrder o) ∨ o ∈ reservation e op db := by
  obtain ⟨hstored, hflight⟩ := (mem_exitsInFlight ..).mp ho
  simp only [inFlight, isExitOf, Bool.and_eq_true, decide_eq_true_eq, Bool.not_eq_true'] at hflight
  obtain ⟨⟨hkind, hpid⟩, hopen⟩ := hflight
  rcases open_exec hop hK hstored hopen with ⟨o₀, ho₀, hopen₀, hsame⟩ | ⟨hwritten, hclosed⟩
  · refine .inl ⟨o₀, (mem_exitsInFlight ..).mpr ⟨hsame.id ▸ ho₀, ?_⟩, hsame⟩
    simp only [inFlight, isExitOf, Bool.and_eq_true, decide_eq_true_eq, Bool.not_eq_true']
    exact ⟨⟨hsame.kind.symm.trans hkind, hsame.positionId.symm.trans hpid⟩, hopen₀⟩
  · -- a write over a stored order would take it out of a terminal state
    have hnew : db.order o.id = none := by
      cases hbefore : db.order o.id with
      | none => rfl
      | some stored =>
          have hterminal := hsettled o hwritten hkind hopen stored hbefore
          simp [isOpen, hbefore, hterminal] at hclosed
    cases exec_order e hop hK o.id with
    | same h =>
        rw [h, hnew] at hstored
        cases hstored
    | reserved seen o' hop' hid _ h =>
        subst hop'
        exact .inr (List.mem_of_head? hwritten)
    | revised copy o' stored hcopy hid hbefore _ _ _ =>
        rw [hnew] at hbefore
        cases hbefore

/-- What is in flight is an exit of the position. -/
theorem kind_of_inFlight {db : Db} {positionId : Option String} {o : OrderRecord}
    (h : o ∈ exitsInFlight db positionId) : o.kind = .exit ∧ o.positionId = positionId := by
  have hflight := ((mem_exitsInFlight ..).mp h).2
  simp only [inFlight, isExitOf, Bool.and_eq_true, decide_eq_true_eq] at hflight
  exact hflight.1

/-- An exit in flight is an incomplete order. -/
theorem incomplete_of_inFlight {db : Db} {positionId : Option String} {o : OrderRecord}
    (h : o ∈ exitsInFlight db positionId) : o ∈ db.incompleteOrders.orders := by
  obtain ⟨hstored, hflight⟩ := (mem_exitsInFlight ..).mp h
  simp only [inFlight, Bool.and_eq_true, Bool.not_eq_true'] at hflight
  exact (Db.mem_incompleteOrders _ _).mpr ⟨hstored, hflight.2⟩

/-- An accepted reservation is the one of the operation. -/
theorem eq_of_reservation {e : Env} {op : Op} {db : Db} {o : OrderRecord}
    (h : o ∈ reservation e op db) : ∃ seen, op = .reserveOrder seen o := by
  cases op with
  | reserveOrder seen o' =>
      unfold reservation at h
      dsimp only at h
      split at h
      · exact ⟨seen, by rw [List.mem_singleton.mp h]⟩
      · cases h
  | _ => cases h

/-- A reservation that is in time finds no exit of the position in flight. -/
theorem exitsInFlight_of_reservation {e : Env} {op : Op} {db : Db} {K : Set OrderRecord}
    {view : View Readings Since} {o : OrderRecord} (hop : permits K op)
    (hallowed : orderWatch.allows view.memory op) (haware : Aware db view)
    (ho : o ∈ reservation e op db) (hkind : o.kind = .exit)
    (hintime : ReservedInTime e op db view.since) (r : OrderRecord) :
    r ∉ exitsInFlight db o.positionId := by
  intro hr
  obtain ⟨seen, rfl⟩ := eq_of_reservation ho
  obtain ⟨hchecked, -, -⟩ := hallowed
  obtain ⟨r', hr', hsame⟩ := haware.seen seen hchecked r (incomplete_of_inFlight hr)
  have hexit : isExitOf o.positionId r' = true := by
    obtain ⟨hrkind, hrpid⟩ := kind_of_inFlight hr
    simp only [isExitOf, decide_eq_true_eq]
    exact ⟨hsame.kind.symm.trans hrkind, hsame.positionId.symm.trans hrpid⟩
  rcases List.mem_append.mp hr' with hseen | hunsettled
  · have hnone := hop.2 hkind
    rw [List.any_eq_false] at hnone
    exact hnone r' hseen hexit
  · rw [(hintime o ho hkind).1 r' hunsettled] at hexit
    cases hexit

/-- What an exit in flight sells is fixed at its reservation. -/
theorem orderQuantity_of_sameOrder {o o' : OrderRecord} (h : o.SameOrder o') :
    orderQuantity o' = orderQuantity o := by
  simp [orderQuantity, h.inputAmountAtomic]

/-- The fill transaction of an order takes it out of flight. -/
theorem ne_of_inFlight_applied {e : Env} {t : FillTransaction} {db : Db} {K : Set OrderRecord}
    (hop : permits K (.fillTransaction t)) (hK : ∀ f ∈ K, StoredAs f db)
    (hfailure : t.failure e.txFaults db = none) {positionId : Option String} {o : OrderRecord}
    (ho : o ∈ exitsInFlight (exec e (.fillTransaction t) db).2 positionId) :
    o.id ≠ t.order.id := by
  intro hid
  obtain ⟨hstored, hflight⟩ := (mem_exitsInFlight ..).mp ho
  have hafter := order_exec_written e hop hK o.id
  have hwritten : writtenOrder e (.fillTransaction t) db = some t.confirmed := by
    simp [writtenOrder, hfailure]
  have hconfirmed : t.confirmed.id = t.order.id := rfl
  rw [hwritten, hstored] at hafter
  dsimp only at hafter
  rw [hconfirmed, if_pos hid, Option.some.injEq] at hafter
  subst hafter
  simp [inFlight, FillTransaction.confirmed, OrderState.isTerminal] at hflight

/-- Without a reservation, an exit in flight was in flight before. -/
theorem inFlight_kept {e : Env} {op : Op} {db : Db} {K : Set OrderRecord} (hop : permits K op)
    (hK : ∀ f ∈ K, StoredAs f db) (hsettled : ExitsStaySettled e op db)
    (hnot : ∀ seen order, op ≠ .reserveOrder seen order) {positionId : Option String}
    {o : OrderRecord} (ho : o ∈ exitsInFlight (exec e op db).2 positionId) :
    ∃ o₀ ∈ exitsInFlight db positionId, o₀.SameOrder o := by
  rcases inFlight_origin hop hK hsettled ho with hold | hnew
  · exact hold
  · obtain ⟨seen, hop'⟩ := eq_of_reservation hnew
    exact absurd hop' (hnot seen o)

/-- One operation leaves at most one exit of a position in flight. -/
theorem unique_exec {e : Env} {op : Op} {db : Db} {K : Set OrderRecord} {view : View Readings Since}
    (hop : permits K op) (hK : ∀ f ∈ K, StoredAs f db)
    (hallowed : orderWatch.allows view.memory op) (haware : Aware db view)
    (hapart : ExitsApart e op db view) (h : Exclusive db) {positionId : Option String}
    {o o' : OrderRecord} (ho : o ∈ exitsInFlight (exec e op db).2 positionId)
    (ho' : o' ∈ exitsInFlight (exec e op db).2 positionId) : o.id = o'.id := by
  have hfree : ∀ {x r : OrderRecord}, x ∈ reservation e op db →
      x ∈ exitsInFlight (exec e op db).2 positionId → r ∉ exitsInFlight db positionId := by
    intro x r hx hflight hr
    obtain ⟨hkind, hpid⟩ := kind_of_inFlight hflight
    exact exitsInFlight_of_reservation hop hallowed haware hx hkind hapart.reserved r (hpid ▸ hr)
  rcases inFlight_origin hop hK hapart.settled ho with ⟨o₀, ho₀, hsame⟩ | hnew
  · rcases inFlight_origin hop hK hapart.settled ho' with ⟨o₀', ho₀', hsame'⟩ | hnew'
    · rw [hsame.id, hsame'.id]
      exact h.unique positionId o₀ ho₀ o₀' ho₀'
    · exact absurd ho₀ (hfree hnew' ho')
  · rcases inFlight_origin hop hK hapart.settled ho' with ⟨o₀', ho₀', -⟩ | hnew'
    · exact absurd ho₀' (hfree hnew ho)
    · obtain ⟨seen, rfl⟩ := eq_of_reservation hnew
      obtain ⟨seen', heq⟩ := eq_of_reservation hnew'
      cases heq
      rfl

/-- What is reserved is covered by the position as it is stored by then. -/
theorem covered_of_reservation {e : Env} {op : Op} {db : Db} {view : View Readings Since}
    {o : OrderRecord} (hallowed : orderWatch.allows view.memory op) (haware : Aware db view)
    (ho : o ∈ reservation e op db) (hkind : o.kind = .exit)
    (hintime : ReservedInTime e op db view.since) :
    orderQuantity o ≤ remainingOf (db.positions.find? o.mint) := by
  have hlowered := (hintime o ho hkind).2
  obtain ⟨seen, rfl⟩ := eq_of_reservation ho
  obtain ⟨-, -, hexit⟩ := hallowed
  obtain ⟨stored, hstored, hle⟩ := hexit hkind
  exact hle.trans (haware.remaining stored hstored o.mint hlowered)

/-- A saved position covers the exits in flight. -/
theorem covered_savePosition {e : Env} {basis : SaveBasis} {p : Position} {db : Db}
    {K : Set OrderRecord} (hop : permits K (.savePosition basis p)) (hK : ∀ f ∈ K, StoredAs f db)
    (hsettled : ExitsStaySettled e (.savePosition basis p) db)
    (hsold : SoldByOwnFill e (.savePosition basis p) db) (h : Exclusive db) {q : Position}
    (hq : (exec e (.savePosition basis p) db).2.positions.find? p.mint = some q) {o : OrderRecord}
    (ho : o ∈ exitsInFlight (exec e (.savePosition basis p) db).2 q.positionId)
    (hmint : o.mint = p.mint) : orderQuantity o ≤ remainingOf (some q) := by
  obtain ⟨o₀, ho₀, hsame⟩ := inFlight_kept hop hK hsettled (fun _ _ => nofun) ho
  rw [orderQuantity_of_sameOrder hsame]
  have hmint₀ : o₀.mint = p.mint := hsame.mint.symm.trans hmint
  cases hfault : e.fault with
  | some message =>
      have hexec : (exec e (.savePosition basis p) db).2 = db :=
        congrArg Prod.snd (statement_of_fault hfault ((), db.savePosition p) db)
      rw [hexec] at hq
      exact h.covered p.mint q hq o₀ ho₀ hmint₀
  | none =>
      have hexec : (exec e (.savePosition basis p) db).2 = db.savePosition p :=
        congrArg Prod.snd (statement_of_unfaulted hfault ((), db.savePosition p) db)
      rw [hexec, find?_savePosition, if_pos rfl, Option.some.injEq] at hq
      subst hq
      obtain ⟨p₀, hp₀, hid, hle⟩ := hsold hfault o₀ (mem_sellsInFlight.mpr ⟨ho₀, hmint₀⟩)
      exact (h.covered p.mint p₀ hp₀ o₀ (hid.symm ▸ ho₀) hmint₀).trans hle

/-- One operation leaves the position with what its exit in flight sells. -/
theorem covered_exec {e : Env} {op : Op} {db : Db} {K : Set OrderRecord}
    {view : View Readings Since} (hop : permits K op) (hK : ∀ f ∈ K, StoredAs f db)
    (hallowed : orderWatch.allows view.memory op) (haware : Aware db view)
    (hapart : ExitsApart e op db view) (h : Exclusive db) {mint : String} {p : Position}
    (hp : (exec e op db).2.positions.find? mint = some p) {o : OrderRecord}
    (ho : o ∈ exitsInFlight (exec e op db).2 p.positionId) (hmint : o.mint = mint) :
    orderQuantity o ≤ remainingOf (some p) := by
  cases exec_position e db hop mint with
  | same _ hsame =>
      rw [hsame] at hp
      rcases inFlight_origin hop hK hapart.settled ho with ⟨o₀, ho₀, hquantity⟩ | hnew
      · rw [orderQuantity_of_sameOrder hquantity]
        exact h.covered mint p hp o₀ ho₀ (hquantity.mint.symm.trans hmint)
      · have hcovered := covered_of_reservation hallowed haware hnew (kind_of_inFlight ho).1
          hapart.reserved
        rwa [hmint, hp] at hcovered
  | marked copy p' price hop' hmint' hp' _ =>
      subst hop'
      obtain ⟨high, value, unrealized, rfl⟩ := hp'
      obtain rfl : copy.mint = mint := hmint'
      exact covered_savePosition hop hK hapart.settled hapart.sold h hp ho hmint
  | adopted copy p' amount decimals now hop' hmint' _ hp' _ =>
      subst hop'
      have hkey : p'.mint = mint := by rw [hp', Position.reconcileWithChain_mint, hmint']
      subst hkey
      exact covered_savePosition hop hK hapart.settled hapart.sold h hp ho hmint
  | accounted t p' hop' hmint' _ hfailure hmoved hid hafter =>
      subst hop'
      rw [hp, Option.some.injEq] at hafter
      subst hafter hmint'
      obtain ⟨o₀, ho₀, hsame⟩ := inFlight_kept hop hK hapart.settled (fun _ _ => nofun) ho
      have hmint₀ : o₀.mint = t.mint := hsame.mint.symm.trans hmint
      have hne := ne_of_inFlight_applied hop hK hfailure ho
      rw [orderQuantity_of_sameOrder hsame]
      rcases hapart.sold hfailure o₀ (mem_sellsInFlight.mpr ⟨hid ▸ ho₀, hmint₀⟩) with
        hown | ⟨hentry, hstored⟩
      · exact absurd (hsame.id.trans hown) hne
      · obtain ⟨p₀, hp₀⟩ := Option.isSome_iff_exists.mp hstored
        have hrecord : accountedRecord t db = some p₀ := by
          rw [← hp₀]
          unfold accountedRecord
          split
          · rename_i haccounting
            rw [haccounting] at hentry
            cases hentry
          · rfl
        have hbought : Moved (some p₀) (.bought t.fill) p := by
          simpa [fillMovement, hentry, hrecord] using hmoved
        have hid₀ : p.positionId = p₀.positionId := by
          rw [hid]
          unfold accountedId
          rw [hrecord]
        exact (h.covered t.mint p₀ hp₀ o₀ (hid₀ ▸ ho₀) hmint₀).trans (remainingOf_of_bought hbought).1

/-- **One operation** keeps the exits in flight exclusive. -/
theorem exclusive_exec {e : Env} {op : Op} {db : Db} {K : Set OrderRecord}
    {view : View Readings Since} (hop : permits K op) (hK : ∀ f ∈ K, StoredAs f db)
    (hallowed : orderWatch.allows view.memory op) (haware : Aware db view)
    (hapart : ExitsApart e op db view) (h : Exclusive db) : Exclusive (exec e op db).2 where
  unique _ _ ho _ ho' := unique_exec hop hK hallowed haware hapart h ho ho'
  covered _ _ hp _ ho hmint := covered_exec hop hK hallowed haware hapart h hp ho hmint

/-- **Exits are exclusive** in every run, of any tasks with any reasons, whose reservations of exits
are in time, which takes no exit back out of a terminal state, and which takes nothing from a position
whose exit is in flight but by the fill of that exit. -/
theorem exits_exclusive (bot : Bot) (schedule : List (Label Env)) (htasks : bot.RunsTasks)
    (hstart : ExitsExclusive bot.shared)
    (hapart : Pool.MeetsViews orderWatch world ExitsApart freshViews bot schedule) :
    ExitsExclusive (bot.run world schedule).shared := by
  rw [← exclusive_iff] at hstart ⊢
  have hboth : Exclusive (bot.run world schedule).shared ∧
      ∀ i, Aware (bot.run world schedule).shared (bot.views orderWatch world freshViews schedule i) :=
    Pool.views_inv (I := fun db views => Exclusive db ∧ ∀ i, Aware db (views i)) discipline_sound
      (fun i _ _ _ _ _ hop hK hallowed hC h =>
        ⟨exclusive_exec hop hK hallowed (h.2 i) hC h.1, aware_after hop hK h.2⟩)
      htasks.follows htasks.recalls hapart ⟨hstart, fun i => aware_fresh _ i⟩
  exact hboth.1

/-! ## Two tasks that sell the same position -/

/-- A store without orders has no exits in flight. -/
theorem exitsExclusive_of_no_orders {db : Db} (h : db.orders.rows = []) : ExitsExclusive db := by
  refine ⟨fun positionId => ?_, fun p _ => ?_⟩ <;> simp [sellsInFlight, exitsInFlight, Db.allOrders, h]

/-- Two commands of the operator that sell everything. -/
def commandsBot : Bot :=
  ⟨sampleDb, [do let _ ← exitAllPositions (sampleDeps false); return (),
    do let _ ← exitAllPositions (sampleDeps false); return ()]⟩

/-- The bot of the two commands runs tasks. -/
theorem commandsBot_runsTasks : commandsBot.RunsTasks := by
  intro t ht
  simp only [commandsBot, List.mem_cons, List.not_mem_nil, or_false, or_self] at ht
  subst ht
  exact .exitAllPositions _

/-- Both commands have checked when the second one reserves its exit. The first one then asks for the
same key, is refused, and the exit of the second one is executed. -/
def commandsTurns : List (Label Env) :=
  sampleTurns 0 8 ++ operatorTurns 11 ++ sampleTurns 0 1 ++ operatorTurns 4

/-- The first command is refused its reservation, and only the exit of the second one is executed. -/
theorem exits_exclusive_sample : ExitsExclusive (commandsBot.run world commandsTurns).shared ∧
    (commandsBot.run world commandsTurns).shared.allOrders.map (fun o => (o.id, o.state)) =
      [("order-2", .confirmed)] :=
  ⟨exits_exclusive commandsBot _ commandsBot_runsTasks (exitsExclusive_of_no_orders rfl)
    (by decide +kernel), by decide +kernel⟩

/-- The monitor has checked for exits in flight when the operator's command reserves its exit; the
monitor's key contains another reason, and both exits are in flight. -/
theorem exits_not_exclusive : ¬ ∀ (bot : Bot) (schedule : List (Label Env)), bot.RunsTasks →
    ExitsExclusive bot.shared → ExitsExclusive (bot.run world schedule).shared := by
  intro hlaw
  have hone := (hlaw sellingBot (sampleTurns 0 17 ++ operatorTurns 9 ++ sampleTurns 0 3)
    sellingBot_runsTasks (exitsExclusive_of_no_orders rfl)).one (some "position-1")
  have htwo : (exitsInFlight (sellingBot.run world
      (sampleTurns 0 17 ++ operatorTurns 9 ++ sampleTurns 0 3)).shared (some "position-1")).length =
      2 := by
    decide +kernel
  rw [htwo] at hone
  exact absurd hone (by decide)

end SolanaBot.Analysis
