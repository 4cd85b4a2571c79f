import SolanaBot.Analysis.StoreSteps

/-!
# Stored positions as a ledger

`Books` are the accounting fields of a position, and `Books.after` says what a fill or an
adopted balance makes of them. A ledger kept beside the run lists the fills that were
recorded and the balances that were adopted. The stored books are the replay of the ledger,
and the stored fills are its fills, each stored once (`no_update_lost`), in every run in which
whatever writes a position works on a copy with the stored books (`BooksCurrent`), and every
fill is recorded once and accounted for (`FillsAreNew`). The exit monitor saves the copy that it
had loaded before it awaited a quote, and thereby reopens a position that was sold in the meantime
(`update_lost`).
-/

set_option autoImplicit false

namespace SolanaBot.Analysis

open SolanaBot.Library SolanaBot.Model

/-! ## Books -/

/-- The accounting fields of a position. -/
structure Books where
  remaining : Option UInt64
  state : PositionState
  quantity : Decimal
  cost : Option Decimal
  fees : Decimal
  realized : Decimal
deriving DecidableEq

/-- The books of a record. -/
def books (p : Position) : Books :=
  { remaining := p.remainingQuantityAtomic, state := p.state, quantity := p.quantity
    cost := p.entryCostUsd, fees := p.feesUsd, realized := p.realizedPnlUsd }

namespace Books

/-- The books after a purchase worth `value`. -/
def bought (old : Option Books) (fill : Fill) (value : Decimal) : Books :=
  match old with
  | none =>
      { remaining := some fill.outputAmount, state := .open, quantity := dec fill.outputAmount
        cost := some value, fees := fill.feesUsd, realized := 0 }
  | some b =>
      { remaining := some (saturatingAdd (b.remaining.getD 0) fill.outputAmount)
        state := .open
        quantity := b.quantity + dec fill.outputAmount
        cost := some (b.cost.getD 0 + value)
        fees := b.fees + fill.feesUsd
        realized := b.realized }

/-- The books after a sale, if they hold what is sold. -/
def sold (b : Books) (fill : Fill) : Option Books := do
  let remaining ← b.remaining
  let newRemaining ← checkedSub remaining fill.inputAmount
  let proceeds ← fill.inputValueUsd
  let cost ← b.cost
  return { b with
    remaining := some newRemaining
    state := if newRemaining = 0 then .closed else b.state
    fees := b.fees + fill.feesUsd
    realized := b.realized +
      (proceeds - cost * dec fill.inputAmount / b.quantity - fill.feesUsd) }

/-- The books after a balance was adopted; closed books adopt nothing. -/
def adopted (b : Books) (amount : UInt64) : Books :=
  if b.state = .closed then b
  else if amount = 0 ∧ b.remaining ≠ some 0 then { b with state := .closed }
  else { b with remaining := some amount }

/-- What a movement makes of the books. -/
def after (old : Option Books) : Movement → Option Books
  | .bought fill => fill.inputValueUsd.map (bought old fill)
  | .sold fill => old.bind fun b => b.sold fill
  | .adopted amount => old.map fun b => b.adopted amount
  | .marked _ => old

/-- Only a purchase opens closed books, or makes books where there are none. -/
theorem after_closed {old : Option Books} {mv : Movement}
    (h : ∀ b, old = some b → b.state = .closed) (hbought : ∀ fill, mv ≠ .bought fill) :
    ∀ b, after old mv = some b → b.state = .closed := by
  intro b hafter
  cases mv with
  | bought fill => exact absurd rfl (hbought fill)
  | adopted amount =>
      obtain ⟨b₀, hold, rfl⟩ := Option.map_eq_some_iff.mp hafter
      simp only [adopted, h b₀ hold, if_true]
  | marked price => exact h b hafter
  | sold fill =>
      obtain ⟨b₀, hold, hsold⟩ := Option.bind_eq_some_iff.mp hafter
      simp only [sold, Option.bind_eq_bind, Option.bind_eq_some_iff, Option.pure_def,
        Option.some.injEq] at hsold
      obtain ⟨remaining, -, newRemaining, -, proceeds, -, cost, -, rfl⟩ := hsold
      simp [h b₀ hold]

end Books

/-- **The books are the abstraction of the record**: a movement of the position is a movement of
its books. -/
theorem books_of_moved {old : Option Position} {mv : Movement} {p : Position}
    (h : Moved old mv p) : Books.after (old.map books) mv = some (books p) := by
  cases h with
  | opened fill v p hfill hv hremaining hstate hquantity hcost hfees hrealized =>
      simp [Books.after, Books.bought, books, hv, hremaining, hstate, hquantity, hcost, hfees,
        hrealized]
  | added p₀ fill v p hfill hv hremaining hstate hquantity hcost hfees hrealized =>
      simp [Books.after, Books.bought, books, hv, hremaining, hstate, hquantity, hcost, hfees,
        hrealized]
  | sold p₀ fill remaining newRemaining proceeds entryCost p hr hsub hv hc hremaining hstate
      hunrealized hquantity hcost hfees hrealized =>
      simp [Books.after, Books.sold, books, hr, hsub, hv, hc, hremaining, hstate, hquantity, hcost,
        hfees, hrealized]
  | adopted p₀ amount p hopen hremaining hquantity hcost hfees hrealized =>
      by_cases hzero : amount = 0 ∧ p₀.remainingQuantityAtomic ≠ some 0
      · rw [if_pos hzero] at hremaining
        simp [Books.after, Books.adopted, books, hopen, hzero, hremaining, hquantity, hcost, hfees,
          hrealized]
      · rw [if_neg hzero] at hremaining
        simp [Books.after, Books.adopted, books, hopen, hzero, hremaining, hquantity, hcost, hfees,
          hrealized]
  | marked p₀ price remaining entryCost p hr hc hunrealized hremaining hstate hquantity hcost hfees
      hrealized =>
      simp [Books.after, books, hremaining, hstate, hquantity, hcost, hfees, hrealized]

/-- Whether the record adopts the balance. -/
def adopts (copy : Position) (amount : UInt64) (decimals : UInt8) (now : Time) : Bool :=
  match (copy.reconcileWithChain copy.mint amount decimals now).1 with
  | .ok adopted => adopted
  | .error _ => false

/-- A reconciliation moves the books if the balance is adopted, and leaves them alone if not. -/
theorem books_reconcileWithChain (p : Position) (amount : UInt64) (decimals : UInt8) (now : Time) :
    some (books (p.reconcileWithChain p.mint amount decimals now).2) =
      if adopts p amount decimals now then Books.after (some (books p)) (.adopted amount)
      else some (books p) := by
  unfold adopts Position.reconcileWithChain
  by_cases hopen : p.isOpen
  · have hstate : p.state = .open := by simpa [Position.isOpen] using hopen
    by_cases heq : p.remainingQuantityAtomic = some amount
    · simp [Books.after, Books.adopted, books, hopen, hstate, heq]
    · by_cases hzero : amount = 0
      · subst hzero
        simp [Books.after, Books.adopted, books, hopen, hstate, heq]
      · by_cases hdec : p.tokenDecimals.isSome ∧ p.tokenDecimals ≠ some decimals
        · simp [hopen, heq, hzero, hdec]
        · simp [Books.after, Books.adopted, books, hopen, hstate, heq, hzero, hdec]
  · simp [hopen]

/-! ## The ledger -/

/-- An entry of the ledger: what has moved the position of a mint, and the order whose fill it is. -/
structure LedgerEntry where
  mint : String
  movement : Movement
  order : Option OrderRecord

/-- The fill of an entry. -/
def LedgerEntry.fill (entry : LedgerEntry) : Option Fill :=
  match entry.movement with
  | .bought fill | .sold fill => some fill
  | .adopted _ | .marked _ => none

/-- Whether the audit transaction of an entry without cost model goes through. -/
def keepsUnaccounted (e : Env) (fill : Fill) (order : OrderRecord) (db : Db) : Bool :=
  (recordUnaccountedFill e.txFaults fill order db).1.toOption.isSome

/-- What an operation puts into the ledger: the fills that go into the store, and the balances that
a saved record has adopted. -/
def recorded (e : Env) (op : Op) (db : Db) : List LedgerEntry :=
  match op with
  | .fillTransaction t =>
      if (t.failure e.txFaults db).isNone then [⟨t.mint, fillMovement t, some t.order⟩] else []
  | .savePosition (.adopted copy amount decimals now) _ =>
      if e.fault.isNone && adopts copy amount decimals now then
        [⟨copy.mint, .adopted amount, none⟩]
      else []
  | .unaccountedFill fill order =>
      if keepsUnaccounted e fill order db then [⟨order.mint, .bought fill, some order⟩] else []
  | _ => []

/-- The ledger of a run from a store on, oldest entry first. -/
def ledgerOf (bot : Bot) (schedule : List (Label Env)) : List LedgerEntry :=
  bot.history world (fun e op db ledger => ledger ++ recorded e op db) [] schedule

/-- The entries of a mint. -/
def ledgerFor (ledger : List LedgerEntry) (mint : String) : List LedgerEntry :=
  ledger.filter fun entry => entry.mint = mint

/-- The books of a mint in the store. -/
def storedBooks (db : Db) (mint : String) : Option Books := (db.positions.find? mint).map books

/-- The replay of a ledger. -/
def replay (start : Option Books) (ledger : List LedgerEntry) : Option Books :=
  ledger.foldl (fun b entry => Books.after b entry.movement) start

/-- The second store reflects what the ledger says has happened to the first one. -/
structure Reflects (start db : Db) (ledger : List LedgerEntry) : Prop where
  /-- Every position has the books that the entries of its mint imply. -/
  books : ∀ mint, storedBooks db mint = replay (storedBooks start mint) (ledgerFor ledger mint)
  /-- The stored fills are the fills of the ledger after those of the start: each is stored once. -/
  fills : db.fills.rows = start.fills.rows ++ ledger.filterMap LedgerEntry.fill
  /-- What was closed and is open was bought by an entry order, with a fill that was not stored. -/
  reopened : ∀ mint b b', storedBooks start mint = some b → b.state = .closed →
    storedBooks db mint = some b' → b'.state = .open →
    ∃ fill order, ⟨mint, .bought fill, some order⟩ ∈ ledger ∧ order.kind = .entry ∧
      start.fills.find? fill.orderId = none

/-- Whatever writes a position works on a copy with the stored books. -/
def BooksCurrent (e : Env) (op : Op) (db : Db) : Prop :=
  match op with
  | .savePosition (.marked copy _) _ => e.fault = none → storedBooks db copy.mint = some (books copy)
  | .savePosition (.adopted copy ..) _ =>
      e.fault = none → storedBooks db copy.mint = some (books copy)
  | .fillTransaction t => t.failure e.txFaults db = none →
      (accountedRecord t db).map books = storedBooks db t.mint
  | _ => True

/-- A fill is recorded for an order without a stored fill, and none is set aside for audit. -/
def FillsAreNew (e : Env) (op : Op) (db : Db) : Prop :=
  match op with
  | .fillTransaction t => t.failure e.txFaults db = none → db.fills.find? t.fill.orderId = none
  | .unaccountedFill fill order => keepsUnaccounted e fill order db = false
  | _ => True

/-- An operation that does not write writes from current books. -/
theorem booksCurrent_of_not_writes (e : Env) (db : Db) (op : Op) (h : ¬ op.Writes) :
    BooksCurrent e op db := by
  cases op <;> first | trivial | exact absurd trivial h

/-- An operation that does not write stores no old fill. -/
theorem fillsAreNew_of_not_writes (e : Env) (db : Db) (op : Op) (h : ¬ op.Writes) :
    FillsAreNew e op db := by
  cases op <;> first | trivial | exact absurd trivial h

/-- Whether `BooksCurrent` holds can be evaluated. -/
instance (e : Env) (op : Op) (db : Db) : Decidable (BooksCurrent e op db) :=
  op.decideWrites (booksCurrent_of_not_writes e db)
    (fun basis _ => match basis with
      | .marked copy _ => inferInstanceAs (Decidable
          (e.fault = none → storedBooks db copy.mint = some (books copy)))
      | .adopted copy .. => inferInstanceAs (Decidable
          (e.fault = none → storedBooks db copy.mint = some (books copy))))
    (fun _ _ => instDecidableTrue) (fun _ _ => instDecidableTrue)
    (fun t => inferInstanceAs (Decidable (t.failure e.txFaults db = none →
      (accountedRecord t db).map books = storedBooks db t.mint)))
    (fun _ _ => instDecidableTrue)

/-- Whether `FillsAreNew` holds can be evaluated. -/
instance (e : Env) (op : Op) (db : Db) : Decidable (FillsAreNew e op db) :=
  op.decideWrites (fillsAreNew_of_not_writes e db) (fun _ _ => instDecidableTrue)
    (fun _ _ => instDecidableTrue) (fun _ _ => instDecidableTrue)
    (fun t => inferInstanceAs (Decidable (t.failure e.txFaults db = none →
      db.fills.find? t.fill.orderId = none)))
    (fun fill order => inferInstanceAs (Decidable (keepsUnaccounted e fill order db = false)))

/-- The entries of a mint in two ledgers. -/
theorem ledgerFor_append (ledger ledger' : List LedgerEntry) (mint : String) :
    ledgerFor (ledger ++ ledger') mint = ledgerFor ledger mint ++ ledgerFor ledger' mint := by
  simp [ledgerFor]

/-- Replaying two ledgers, one after the other. -/
theorem replay_append (start : Option Books) (ledger ledger' : List LedgerEntry) :
    replay start (ledger ++ ledger') = replay (replay start ledger) ledger' := by
  simp [replay]

/-- What is recorded for a mint comes with a write to its position, or is set aside for audit. -/
theorem recorded_eq_nil {e : Env} {op : Op} {db : Db} {K : Set OrderRecord} (hop : permits K op)
    {mint : String} (hnew : FillsAreNew e op db) (hquiet : writesPosition e op db mint = false) :
    ledgerFor (recorded e op db) mint = [] := by
  unfold recorded ledgerFor
  split
  · rename_i t
    split
    · rename_i hnone
      have hmint : t.mint ≠ mint := by
        rintro rfl
        simp [writesPosition, hnone] at hquiet
      simp [hmint]
    · rfl
  · rename_i copy amount decimals now p
    split
    · rename_i hsaved
      have hkey : p.mint = copy.mint := by
        rw [show p = _ from hop, Position.reconcileWithChain_mint]
      have hmint : copy.mint ≠ mint := by
        rintro rfl
        simp only [Bool.and_eq_true] at hsaved
        simp [writesPosition, hkey, hsaved.1] at hquiet
      simp [hmint]
    · rfl
  · rename_i fill order
    rw [if_neg (by rw [show keepsUnaccounted e fill order db = false from hnew]; exact Bool.false_ne_true)]
    rfl
  · rfl

/-- One operation moves the books as the ledger says. -/
theorem storedBooks_exec {e : Env} {op : Op} {db : Db} {K : Set OrderRecord} (hop : permits K op)
    (hcurrent : BooksCurrent e op db) (hnew : FillsAreNew e op db) (mint : String) :
    storedBooks (exec e op db).2 mint =
      replay (storedBooks db mint) (ledgerFor (recorded e op db) mint) := by
  cases exec_position e db hop mint with
  | same hquiet h =>
      rw [recorded_eq_nil hop hnew hquiet, storedBooks, h]
      rfl
  | marked copy p price hop' hmint hp h =>
      subst hop' hmint
      have hsame : books p = books copy := by
        obtain ⟨high, value, unrealized, rfl⟩ := hp
        rfl
      have hafter : storedBooks (exec e (.savePosition (.marked copy price) p) db).2 copy.mint =
          some (books copy) := by
        rw [storedBooks, h, Option.map_some, hsame]
      have hbooks : storedBooks db copy.mint = some (books copy) := by
        cases hfault : e.fault with
        | none => exact hcurrent hfault
        | some message =>
            have hexec : (exec e (.savePosition (.marked copy price) p) db).2 = db :=
              congrArg Prod.snd (statement_of_fault hfault ((), db.savePosition p) db)
            rwa [hexec] at hafter
      rw [hafter, hbooks]
      rfl
  | adopted copy p amount decimals now hop' hmint hwrites hp h =>
      subst hop' hmint hp
      have hfault : e.fault = none := by
        simp only [writesPosition, Position.reconcileWithChain_mint, decide_true, Bool.true_and] at hwrites
        exact Option.isNone_iff_eq_none.mp hwrites
      have hbooks : storedBooks db copy.mint = some (books copy) := hcurrent hfault
      rw [hbooks, storedBooks, h, Option.map_some, books_reconcileWithChain]
      unfold recorded
      cases hadopts : adopts copy amount decimals now <;>
        simp [hfault, hadopts, replay, ledgerFor]
  | accounted t p hop' hmint hwrites hfailure hmoved hid h =>
      subst hop' hmint
      have hbooks : (accountedRecord t db).map books = storedBooks db t.mint := hcurrent hfailure
      rw [← hbooks, storedBooks, h, Option.map_some, ← books_of_moved hmoved]
      unfold recorded
      simp [hfailure, replay, ledgerFor]

/-- The stored fills grow by the fills that the operation records. -/
theorem fills_exec {e : Env} {op : Op} {db : Db} (hnew : FillsAreNew e op db) :
    (exec e op db).2.fills.rows =
      db.fills.rows ++ (recorded e op db).filterMap LedgerEntry.fill := by
  cases op with
  | savePosition basis p =>
      have hsame : (exec e (.savePosition basis p) db).2.fills = db.fills := by
        unfold exec statement
        cases e.fault <;> rfl
      have hnone : (recorded e (.savePosition basis p) db).filterMap LedgerEntry.fill = [] := by
        cases basis with
        | marked copy price => rfl
        | adopted copy amount decimals now =>
            unfold recorded
            dsimp only
            split <;> rfl
      rw [hsame, hnone, List.append_nil]
  | reserveOrder seen o =>
      refine Eq.trans ?_ (List.append_nil _).symm
      unfold exec
      cases e.fault with
      | some message => rfl
      | none => rcases db.reserveOrder_cases o with ⟨-, heq⟩ | ⟨-, -, -, heq⟩ <;> simp only [heq]
  | updateOrder copy o =>
      refine Eq.trans ?_ (List.append_nil _).symm
      unfold exec statement
      cases e.fault with
      | some message => rfl
      | none => simp only [Db.fills_updateOrder]
  | fillTransaction t =>
      show (runFillTransaction e.txFaults t db).2.fills.rows = _
      unfold recorded
      dsimp only
      rcases runFillTransaction_cases e.txFaults t db with
        ⟨f, message, hfailure, heq⟩ | ⟨hfailure, -, -, heq⟩
      · rw [heq, hfailure]
        exact (List.append_nil _).symm
      · have hfills : (t.applied db).fills = db.fills.put t.fill := by
          unfold FillTransaction.applied
          rw [Db.fills_updateOrder]
          split <;> rfl
        have hfill : LedgerEntry.fill ⟨t.mint, fillMovement t, some t.order⟩ = some t.fill := by
          unfold fillMovement LedgerEntry.fill
          cases t.accounting.isEntry <;> rfl
        rw [heq, hfailure]
        dsimp only
        rw [hfills, Table.rows_put_of_find?_eq_none (hnew hfailure)]
        simp [hfill]
  | unaccountedFill fill order =>
      have hrefused : keepsUnaccounted e fill order db = false := hnew
      show (recordUnaccountedFill e.txFaults fill order db).2.fills.rows = _
      have hnone : recorded e (.unaccountedFill fill order) db = [] := by
        unfold recorded
        dsimp only
        rw [hrefused]
        rfl
      rw [hnone, List.filterMap_nil, List.append_nil]
      rcases recordUnaccountedFill_cases e.txFaults fill order db with ⟨message, heq⟩ | ⟨-, heq⟩
      · rw [heq]
      · unfold keepsUnaccounted at hrefused
        rw [heq] at hrefused
        cases hrefused
  | _ =>
      refine Eq.trans ?_ (List.append_nil _).symm
      rw [(exec_of_not_writes (by exact not_false)).2.2]

/-- A purchase is recorded for an entry order, with a fill that was not stored before. -/
theorem bought_of_recorded {e : Env} {op : Op} {db : Db} {K : Set OrderRecord} (hop : permits K op)
    (hnew : FillsAreNew e op db) {entry : LedgerEntry} {fill : Fill}
    (hentry : entry ∈ recorded e op db) (hbought : entry.movement = .bought fill) :
    ∃ order, entry = ⟨entry.mint, .bought fill, some order⟩ ∧ order.kind = .entry ∧
      db.fills.find? fill.orderId = none := by
  unfold recorded at hentry
  split at hentry
  · rename_i t
    split at hentry
    · rename_i hnone
      rw [List.mem_singleton] at hentry
      subst hentry
      have hisEntry : t.accounting.isEntry = true := by
        by_contra hsale
        simp [fillMovement, hsale] at hbought
      have hfill : fill = t.fill := by
        simpa [fillMovement, hisEntry] using hbought.symm
      refine ⟨t.order, by rw [← hbought], hop.2.2.2.1.mp hisEntry, ?_⟩
      rw [hfill]
      exact hnew (Option.isNone_iff_eq_none.mp hnone)
    · cases hentry
  · split at hentry
    · rw [List.mem_singleton] at hentry
      subst hentry
      cases hbought
    · cases hentry
  · rename_i fill' order
    rw [show keepsUnaccounted e fill' order db = false from hnew] at hentry
    cases hentry
  · cases hentry

/-- Without purchases closed books stay closed. -/
theorem replay_closed {ledger : List LedgerEntry} {start : Option Books}
    (h : ∀ b, start = some b → b.state = .closed)
    (hbought : ∀ entry ∈ ledger, ∀ fill, entry.movement ≠ .bought fill) :
    ∀ b, replay start ledger = some b → b.state = .closed := by
  induction ledger generalizing start with
  | nil => exact h
  | cons entry ledger ih =>
      exact ih (Books.after_closed h (hbought entry (by simp)))
        fun entry' hmem => hbought entry' (List.mem_cons_of_mem _ hmem)

/-- A fill that is not stored was not stored before either. -/
theorem Reflects.not_stored {start db : Db} {ledger : List LedgerEntry} (h : Reflects start db ledger)
    {id : String} (hnone : db.fills.find? id = none) : start.fills.find? id = none := by
  rw [Table.find?_eq_none_iff] at hnone ⊢
  intro hmem
  apply hnone
  rw [h.fills, List.map_append]
  exact List.mem_append_left _ hmem

/-- One operation keeps the store a reflection of the ledger. -/
theorem reflects_exec {start : Db} {e : Env} {op : Op} {db : Db} {K : Set OrderRecord}
    {ledger : List LedgerEntry} (hop : permits K op) (hcurrent : BooksCurrent e op db)
    (hnew : FillsAreNew e op db) (h : Reflects start db ledger) :
    Reflects start (exec e op db).2 (ledger ++ recorded e op db) := by
  refine ⟨fun mint => ?_, ?_, fun mint b b' hb hclosed hb' hopen => ?_⟩
  · rw [storedBooks_exec hop hcurrent hnew, h.books mint, ledgerFor_append, replay_append]
  · rw [fills_exec hnew, h.fills, List.filterMap_append, List.append_assoc]
  · by_cases hwas : ∀ b₁, storedBooks db mint = some b₁ → b₁.state = .closed
    · -- this operation opened the position
      rw [storedBooks_exec hop hcurrent hnew] at hb'
      have hentry : ∃ entry ∈ ledgerFor (recorded e op db) mint,
          ∃ fill, entry.movement = .bought fill := by
        by_contra hnone
        push Not at hnone
        have hstill := replay_closed hwas hnone b' hb'
        rw [hopen] at hstill
        cases hstill
      obtain ⟨entry, hmem, fill, hbought⟩ := hentry
      obtain ⟨hrecorded, hmint⟩ := List.mem_filter.mp hmem
      obtain ⟨order, hentry, hkind, hnone⟩ := bought_of_recorded hop hnew hrecorded hbought
      rw [of_decide_eq_true hmint] at hentry
      exact ⟨fill, order, List.mem_append_right _ (hentry ▸ hrecorded), hkind, h.not_stored hnone⟩
    · -- it was open before
      push Not at hwas
      obtain ⟨b₁, hb₁, hnot⟩ := hwas
      have hopen₁ : b₁.state = .open := by
        cases hs : b₁.state with
        | «open» => rfl
        | closed => exact absurd hs hnot
      obtain ⟨fill, order, hmem, hkind, hnone⟩ := h.reopened mint b b₁ hb hclosed hb₁ hopen₁
      exact ⟨fill, order, List.mem_append_left _ hmem, hkind, hnone⟩

/-- A store reflects itself. -/
theorem Reflects.refl (db : Db) : Reflects db db [] := by
  refine ⟨fun _ => rfl, (List.append_nil _).symm, fun mint b b' hb hclosed hb' hopen => ?_⟩
  rw [hb, Option.some.injEq] at hb'
  rw [hb', hopen] at hclosed
  cases hclosed

/-- **No update of a position is lost** in a run in which whatever writes a position works on a
copy with the stored books, and every fill is recorded once and accounted for: between any two points
of the run the stored positions move exactly as the stored fills and the adopted balances say, each
fill counting once, and a closed position is reopened only by the fill of an entry order that was not
recorded before. -/
theorem no_update_lost (bot : Bot) (before after : List (Label Env)) (htasks : bot.RunsTasks)
    (hcurrent : bot.Meets world BooksCurrent (before ++ after))
    (hnew : bot.Meets world FillsAreNew (before ++ after)) :
    Reflects (bot.run world before).shared (bot.run world (before ++ after)).shared
      (ledgerOf (bot.run world before) after) := by
  rw [Pool.run_append]
  have hboth := ((Pool.meets_append world _ bot before after).mp (hcurrent.and hnew)).2
  exact Pool.history_inv discipline_sound (Reflects (bot.run world before).shared)
    (fun _ _ _ _ _ hop _ hC h => reflects_exec hop hC.1 hC.2 h)
    (htasks.follows.run discipline_sound before) hboth (.refl _)

/-- The monitor alone marks the position and sells it. -/
theorem no_update_lost_sample :
    Reflects sampleDb (sellingBot.run world (sampleTurns 0 26)).shared
      (ledgerOf sellingBot (sampleTurns 0 26)) :=
  no_update_lost sellingBot [] (sampleTurns 0 26) sellingBot_runsTasks (by decide +kernel)
    (by decide +kernel)

/-- The monitor has loaded the position and awaits a quote while the operator's command sells it;
then the monitor saves its copy, and the sold position is open again. -/
theorem update_lost : ¬ ∀ (bot : Bot) (before after : List (Label Env)), bot.RunsTasks →
    Reflects (bot.run world before).shared (bot.run world (before ++ after)).shared
      (ledgerOf (bot.run world before) after) := by
  intro hlaw
  have hreflects := hlaw sellingBot (sampleTurns 0 8 ++ operatorTurns 15) (sampleTurns 0 1)
    sellingBot_runsTasks
  have hsold : (storedBooks (sellingBot.run world (sampleTurns 0 8 ++ operatorTurns 15)).shared
      "token").map (fun b => (b.state, b.remaining)) = some (.closed, some 0) := by
    decide +kernel
  have hstale : (storedBooks (sellingBot.run world ((sampleTurns 0 8 ++ operatorTurns 15) ++
      sampleTurns 0 1)).shared "token").map (fun b => (b.state, b.remaining)) =
        some (.open, some 100) := by
    decide +kernel
  have hledger : (ledgerOf (sellingBot.run world (sampleTurns 0 8 ++ operatorTurns 15))
      (sampleTurns 0 1)).isEmpty = true := by
    decide +kernel
  obtain ⟨b, hb, hstate⟩ := Option.map_eq_some_iff.mp hsold
  obtain ⟨b', hb', hstate'⟩ := Option.map_eq_some_iff.mp hstale
  obtain ⟨fill, order, hmem, -⟩ := hreflects.reopened "token" b b' hb (congrArg Prod.fst hstate) hb'
    (congrArg Prod.fst hstate')
  rw [List.isEmpty_iff.mp hledger] at hmem
  cases hmem

end SolanaBot.Analysis
