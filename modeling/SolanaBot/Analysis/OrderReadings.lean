import SolanaBot.Analysis.Interlocks
import SolanaBot.Library.StaleReads

/-!
# What the tasks have read of orders and positions

A task looks for incomplete orders in one operation and reserves its own order in a later one, and
what it sells is the quantity of a position that it has read before both. Every reservation rests on
the last such readings of its own task (`IsTask.recalls`). What has happened since is noted for each
task: the orders that were opened after its check and are not settled yet, and the mints whose
position was lowered after its reading (`Since`). In every run the notes are exact: the incomplete
orders are those that the check has seen, or those that were opened since (`Aware`).
-/

set_option autoImplicit false

namespace SolanaBot.Analysis

open SolanaBot.Library SolanaBot.Model

/-! ## Readings -/

/-- The quantity that an order sells or spends. -/
def orderQuantity (o : OrderRecord) : ℕ := (o.inputAmountAtomic.map UInt64.toNat).getD 0

/-- What a task has last read of the incomplete orders and of the positions. -/
structure Readings where
  checked : Option (List OrderRecord)
  positions : Option (List Position)

/-- A task that has read nothing yet. -/
def Readings.none : Readings := ⟨.none, .none⟩

/-- The answers that a task keeps. -/
def keepsReadings : (o : Op) → Res o → Readings → Readings
  | .incompleteOrders, answer, mem =>
      match (answer : Except String IncompleteOrders) with
      | .ok incomplete => { mem with checked := some incomplete.orders }
      | .error _ => mem
  | .positions, answer, mem =>
      match (answer : Except String (List Position)) with
      | .ok stored => { mem with positions := some stored }
      | .error _ => mem
  | _, _, mem => mem

/-- An entry is reserved after a check that has seen no order at all, and an exit after a check that
has seen no exit of its position, for at most the quantity of the position that was read. -/
def restsOnReadings (mem : Readings) : Op → Prop
  | .reserveOrder seen o =>
      mem.checked = some seen ∧ (o.kind = .entry → seen = []) ∧
        (o.kind = .exit → ∃ stored, mem.positions = some stored ∧
          orderQuantity o ≤ remainingOf (stored.find? fun p => p.mint = o.mint))
  | _ => True

/-! ## Notes -/

/-- What has happened since the readings of a task. -/
structure Since where
  unsettled : List OrderRecord
  lowered : List String

/-- The record that an operation leaves in the table of orders, if it writes one. -/
def writtenOrder (e : Env) (op : Op) (db : Db) : Option OrderRecord :=
  match op with
  | .reserveOrder .. => (reservation e op db).head?
  | .updateOrder _ o => if e.fault.isNone then some o else none
  | .fillTransaction t => if (t.failure e.txFaults db).isNone then some t.confirmed else none
  | .unaccountedFill fill order =>
      if (recordUnaccountedFill e.txFaults fill order db).1.toOption.isSome then
        some { unaccountedOrder fill order with state := .failed }
      else none
  | _ => none

/-- The order is stored and its outcome is open. -/
def isOpen (db : Db) (id : String) : Bool := (db.order id).any fun o => !o.state.isTerminal

/-- An operation opens the order that it reserves, and one that it takes back out of a terminal
state; it settles the order that it leaves in a terminal state. -/
def noteOrder (e : Env) (op : Op) (db : Db) (unsettled : List OrderRecord) : List OrderRecord :=
  match writtenOrder e op db with
  | none => unsettled
  | some o =>
      if o.state.isTerminal then unsettled.filter fun r => r.id ≠ o.id
      else if isOpen db o.id then unsettled
      else o :: unsettled

/-- The mint whose position an operation may write. -/
def writtenMint : Op → Option String
  | .savePosition _ p => some p.mint
  | .fillTransaction t => some t.mint
  | _ => none

/-- An operation lowers a position that it leaves with less than it had. -/
def noteMint (e : Env) (op : Op) (db : Db) (lowered : List String) : List String :=
  match writtenMint op with
  | none => lowered
  | some mint =>
      if remainingOf ((exec e op db).2.positions.find? mint) < remainingOf (db.positions.find? mint) then
        mint :: lowered
      else lowered

/-- The notes after an operation. -/
def Since.noted (e : Env) (op : Op) (db : Db) (since : Since) : Since :=
  ⟨noteOrder e op db since.unsettled, noteMint e op db since.lowered⟩

/-- The notes of the task that performs the operation: a reading starts them anew. -/
def Since.notedOwn (e : Env) (op : Op) (db : Db) (since : Since) : Since :=
  match op with
  | .incompleteOrders => if e.fault.isNone then { since with unsettled := [] } else since
  | .positions => if e.fault.isNone then { since with lowered := [] } else since
  | _ => since.noted e op db

/-- The readings of each task with the notes on what has happened since. -/
def orderWatch : Watch Op Res Readings Since Db Env where
  keeps := keepsReadings
  allows := restsOnReadings
  own := Since.notedOwn
  others := Since.noted

/-- Tasks that have read nothing yet. -/
def freshViews (_ : ℕ) : View Readings Since := ⟨Readings.none, ⟨[], []⟩⟩

/-! ## What is written -/

/-- An order is stored under its identifier. -/
theorem order_id {db : Db} {id : String} {o : OrderRecord} (h : db.order id = some o) : o.id = id := by
  obtain ⟨row, hrow, rfl⟩ := Option.map_eq_some_iff.mp h
  have hkey : row.id = id := Table.find?_key hrow
  exact hkey

/-- The order that an operation writes is stored, and no other changes. -/
theorem order_exec_written (e : Env) {op : Op} {db : Db} {K : Set OrderRecord} (hop : permits K op)
    (hK : ∀ f ∈ K, StoredAs f db) (id : String) :
    (exec e op db).2.order id =
      match writtenOrder e op db with
      | none => db.order id
      | some o => if id = o.id then some o else db.order id := by
  have hupdate : ∀ {copy o : OrderRecord} {db' : Db}, (∀ id, db'.order id = db.order id) →
      StoredAs copy db → copy.SameOrder o →
      (db'.updateOrder o).order id = if id = o.id then some o else db.order id := by
    intro copy o db' hframe hstored hsame
    obtain ⟨stored, hstored, -⟩ := hstored
    rw [Db.order_updateOrder, hframe]
    by_cases hid : id = o.id
    · rw [if_pos hid, if_pos hid, hid, hsame.id, hstored]
      rfl
    · rw [if_neg hid, if_neg hid]
  cases op with
  | savePosition basis p =>
      unfold exec statement
      cases e.fault <;> rfl
  | reserveOrder seen o =>
      unfold exec writtenOrder reservation
      cases e.fault with
      | some message => rfl
      | none =>
          dsimp only
          rcases db.reserveOrder_cases o with ⟨hrefused, hdb⟩ | ⟨hok, -, -, hdb⟩
          · have hnot : ¬ (db.reserveOrder o).1.toOption = some true := by
              intro h
              cases hanswer : (db.reserveOrder o).1 with
              | error message => rw [hanswer] at h; cases h
              | ok accepted =>
                  rw [hanswer] at h hrefused
                  cases h
                  exact hrefused rfl
            simp [hdb, hnot]
          · rw [hdb, hok, Db.order_reserved]
            rfl
  | updateOrder copy o =>
      unfold exec statement writtenOrder
      cases e.fault with
      | some message => rfl
      | none => exact hupdate (fun _ => rfl) (.of_known hK hop.1) hop.2.toSameOrder
  | fillTransaction t =>
      show (runFillTransaction e.txFaults t db).2.order id = _
      unfold writtenOrder
      dsimp only
      rcases runFillTransaction_cases e.txFaults t db with
        ⟨f, message, hfailure, h⟩ | ⟨hfailure, -, hlegal, h⟩
      · rw [h, hfailure]
        rfl
      · rw [h, hfailure]
        refine hupdate (fun id => ?_) (.of_known hK hop.1) (t.revises_confirmed hlegal).toSameOrder
        split <;> rfl
  | unaccountedFill fill order =>
      show (recordUnaccountedFill e.txFaults fill order db).2.order id = _
      unfold writtenOrder
      dsimp only
      rcases recordUnaccountedFill_cases e.txFaults fill order db with ⟨message, h⟩ | ⟨hlegal, h⟩
      · rw [h]
        rfl
      · rw [h]
        exact hupdate (db.order_saveFill fill) (.of_known hK hop.1)
          (revises_unaccountedOrder hlegal).toSameOrder
  | _ => exact order_exec_of_not_writes (by exact not_false) id

/-- A record that is written over an order keeps what was fixed at the reservation. -/
theorem sameOrder_of_written {e : Env} {op : Op} {db : Db} {K : Set OrderRecord} (hop : permits K op)
    (hK : ∀ f ∈ K, StoredAs f db) {o stored : OrderRecord} (hwritten : writtenOrder e op db = some o)
    (hstored : db.order o.id = some stored) : stored.SameOrder o := by
  have hafter := order_exec_written e hop hK o.id
  rw [hwritten] at hafter
  simp only [if_true] at hafter
  cases exec_order e hop hK o.id with
  | same h =>
      rw [h, hstored, Option.some.injEq] at hafter
      exact hafter ▸ .refl _
  | reserved seen o' hop' hid hnew h =>
      rw [hnew] at hstored
      cases hstored
  | revised copy o' stored' hcopy hid hstored' hsame hrevises h =>
      rw [hstored, Option.some.injEq] at hstored'
      rw [h, Option.some.injEq] at hafter
      subst hstored' hafter
      exact hsame.symm.trans hrevises.toSameOrder

/-- An order that is open after an operation was open before, or was opened by it. -/
theorem open_exec {e : Env} {op : Op} {db : Db} {K : Set OrderRecord} (hop : permits K op)
    (hK : ∀ f ∈ K, StoredAs f db) {o : OrderRecord} (ho : (exec e op db).2.order o.id = some o)
    (hopen : o.state.isTerminal = false) :
    (∃ o₀, db.order o.id = some o₀ ∧ o₀.state.isTerminal = false ∧ o₀.SameOrder o) ∨
      (writtenOrder e op db = some o ∧ isOpen db o.id = false) := by
  have hafter := order_exec_written e hop hK o.id
  cases hwritten : writtenOrder e op db with
  | none =>
      rw [hwritten] at hafter
      exact .inl ⟨o, hafter.symm.trans ho, hopen, .refl o⟩
  | some w =>
      rw [hwritten] at hafter
      dsimp only at hafter
      by_cases hid : o.id = w.id
      · rw [if_pos hid, ho, Option.some.injEq] at hafter
        subst hafter
        cases hbefore : isOpen db o.id with
        | false => exact .inr ⟨rfl, rfl⟩
        | true =>
            unfold isOpen at hbefore
            obtain ⟨o₀, ho₀, hopen₀⟩ := (Option.any_eq_true _ _).mp hbefore
            refine .inl ⟨o₀, ho₀, by simpa using hopen₀, sameOrder_of_written hop hK hwritten ho₀⟩
      · rw [if_neg hid] at hafter
        exact .inl ⟨o, hafter.symm.trans ho, hopen, .refl o⟩

/-- A position whose mint is not noted has at least what it had. -/
theorem remaining_exec {e : Env} {op : Op} {db : Db} {K : Set OrderRecord} (hop : permits K op)
    {lowered : List String} {mint : String} (h : mint ∉ noteMint e op db lowered) :
    mint ∉ lowered ∧ remainingOf (db.positions.find? mint) ≤
      remainingOf ((exec e op db).2.positions.find? mint) := by
  have hnoted : writtenMint op = some mint → mint ∉ lowered ∧
      remainingOf (db.positions.find? mint) ≤ remainingOf ((exec e op db).2.positions.find? mint) := by
    intro hmint
    unfold noteMint at h
    rw [hmint] at h
    dsimp only at h
    split at h
    · simp at h
    · exact ⟨h, by omega⟩
  have hkept : mint ∉ lowered := by
    intro hmem
    apply h
    unfold noteMint
    split
    · exact hmem
    · split
      · exact List.mem_cons_of_mem _ hmem
      · exact hmem
  cases exec_position e db hop mint with
  | same _ hsame => exact ⟨hkept, le_of_eq (by rw [hsame])⟩
  | marked copy p price hop' hmint hp' _ =>
      obtain ⟨high, value, unrealized, rfl⟩ := hp'
      exact hnoted (by rw [hop']; exact congrArg some hmint)
  | adopted copy p amount decimals now hop' hmint _ hp' _ =>
      refine hnoted ?_
      rw [hop']
      show some p.mint = some mint
      rw [hp', Position.reconcileWithChain_mint, hmint]
  | accounted t p hop' hmint _ _ _ _ _ => exact hnoted (by rw [hop']; exact congrArg some hmint)

/-! ## What the notes are worth -/

/-- Every incomplete order was seen by the check of the task or is noted, what is noted is open, and a
position that is not noted has at least what the task has read. -/
structure Aware (db : Db) (view : View Readings Since) : Prop where
  seen : ∀ seen, view.memory.checked = some seen → ∀ o ∈ db.incompleteOrders.orders,
    ∃ r ∈ seen ++ view.since.unsettled, r.SameOrder o
  unsettled : ∀ r ∈ view.since.unsettled, isOpen db r.id = true
  remaining : ∀ stored, view.memory.positions = some stored → ∀ mint, mint ∉ view.since.lowered →
    remainingOf (stored.find? fun p => p.mint = mint) ≤ remainingOf (db.positions.find? mint)

/-- A task that has read nothing is aware of everything that it knows. -/
theorem aware_fresh (db : Db) (i : ℕ) : Aware db (freshViews i) where
  seen _ h := by cases h
  unsettled _ h := by cases h
  remaining _ h := by cases h

/-- What is open before an operation and not settled by it is open after it. -/
theorem isOpen_exec {e : Env} {op : Op} {db : Db} {K : Set OrderRecord} (hop : permits K op)
    (hK : ∀ f ∈ K, StoredAs f db) {unsettled : List OrderRecord}
    (h : ∀ r ∈ unsettled, isOpen db r.id = true) :
    ∀ r ∈ noteOrder e op db unsettled, isOpen (exec e op db).2 r.id = true := by
  intro r hr
  unfold noteOrder at hr
  unfold isOpen
  rw [order_exec_written e hop hK r.id]
  cases hwritten : writtenOrder e op db with
  | none =>
      rw [hwritten] at hr
      exact h r hr
  | some o =>
      rw [hwritten] at hr
      dsimp only at hr ⊢
      split at hr
      · obtain ⟨hmem, hid⟩ := List.mem_filter.mp hr
        rw [if_neg (by simpa using hid)]
        exact h r hmem
      · rename_i hopen
        have hafter : (some o).any (fun o => !o.state.isTerminal) = true := by simpa using hopen
        by_cases hid : r.id = o.id
        · rw [if_pos hid]
          exact hafter
        · rw [if_neg hid]
          split at hr
          · exact h r hr
          · rcases List.mem_cons.mp hr with rfl | hmem
            · exact absurd rfl hid
            · exact h r hmem

/-- An open order that was noted stays noted, unless the operation settles it. -/
theorem mem_noteOrder {e : Env} {op : Op} {db : Db} {unsettled : List OrderRecord} {r : OrderRecord}
    (hr : r ∈ unsettled) (h : ∀ o, writtenOrder e op db = some o → o.state.isTerminal = true →
      r.id ≠ o.id) : r ∈ noteOrder e op db unsettled := by
  unfold noteOrder
  cases hwritten : writtenOrder e op db with
  | none => exact hr
  | some o =>
      dsimp only
      split
      · rename_i hterminal
        exact List.mem_filter.mpr ⟨hr, by simpa using h o hwritten hterminal⟩
      · split
        · exact hr
        · exact List.mem_cons_of_mem _ hr

/-- **One operation** leaves a task aware whose notes are continued. -/
theorem Aware.noted {e : Env} {op : Op} {db : Db} {K : Set OrderRecord} (hop : permits K op)
    (hK : ∀ f ∈ K, StoredAs f db) {view : View Readings Since} (h : Aware db view) :
    Aware (exec e op db).2 ⟨view.memory, view.since.noted e op db⟩ where
  seen seen hchecked o ho := by
    obtain ⟨hstored, hopen⟩ := (Db.mem_incompleteOrders _ _).mp ho
    rcases open_exec hop hK hstored hopen with ⟨o₀, ho₀, hopen₀, hsame⟩ | ⟨hwritten, hnew⟩
    · obtain ⟨r, hr, hsame₀⟩ := h.seen seen hchecked o₀
        ((Db.mem_incompleteOrders _ _).mpr ⟨hsame.id ▸ ho₀, hopen₀⟩)
      refine ⟨r, ?_, hsame₀.trans hsame⟩
      rcases List.mem_append.mp hr with hmem | hmem
      · exact List.mem_append_left _ hmem
      · apply List.mem_append_right
        apply mem_noteOrder hmem
        intro w hwritten hterminal hid
        -- the order is open afterwards, so it is not the one that was settled
        have hafter := order_exec_written e hop hK o.id
        have hw : o.id = w.id := (hsame₀.trans hsame).id.trans hid
        rw [hwritten, hstored] at hafter
        dsimp only at hafter
        rw [if_pos hw, Option.some.injEq] at hafter
        rw [hafter, hterminal] at hopen
        cases hopen
    · refine ⟨o, List.mem_append_right _ ?_, .refl o⟩
      show o ∈ noteOrder e op db view.since.unsettled
      unfold noteOrder
      rw [hwritten]
      simp [hopen, hnew]
  unsettled := isOpen_exec hop hK h.unsettled
  remaining stored hstored mint hmint := by
    obtain ⟨hkept, hle⟩ := remaining_exec hop hmint
    exact (h.remaining stored hstored mint hkept).trans hle

/-- **The operation of the task itself** leaves it aware: a reading is exact when it is made. -/
theorem Aware.notedOwn {e : Env} {op : Op} {db : Db} {K : Set OrderRecord} (hop : permits K op)
    (hK : ∀ f ∈ K, StoredAs f db) {view : View Readings Since} (h : Aware db view) :
    Aware (exec e op db).2
      ⟨keepsReadings op (exec e op db).1 view.memory, view.since.notedOwn e op db⟩ := by
  cases op with
  | incompleteOrders =>
      cases hfault : e.fault with
      | some message =>
          have hexec : exec e .incompleteOrders db = (.error message, db) := statement_of_fault hfault _ _
          simp only [hexec, keepsReadings, Since.notedOwn, hfault]
          exact h
      | none =>
          have hexec : exec e .incompleteOrders db = (.ok db.incompleteOrders, db) :=
            statement_of_unfaulted hfault _ _
          simp only [hexec, keepsReadings, Since.notedOwn, hfault]
          refine ⟨fun seen hseen o ho => ?_, fun r hr => absurd hr List.not_mem_nil, h.remaining⟩
          obtain rfl := Option.some.inj hseen
          exact ⟨o, List.mem_append_left _ ho, .refl o⟩
  | positions =>
      cases hfault : e.fault with
      | some message =>
          have hexec : exec e .positions db = (.error message, db) := statement_of_fault hfault _ _
          simp only [hexec, keepsReadings, Since.notedOwn, hfault]
          exact h
      | none =>
          have hexec : exec e .positions db = (.ok db.positions.rows, db) :=
            statement_of_unfaulted hfault _ _
          simp only [hexec, keepsReadings, Since.notedOwn, hfault]
          refine ⟨h.seen, h.unsettled, fun stored hstored mint _ => ?_⟩
          obtain rfl := Option.some.inj hstored
          exact le_rfl
  | _ => exact h.noted hop hK

/-- Every step of a run leaves all tasks aware. -/
theorem aware_after {i : ℕ} {e : Env} {op : Op} {db : Db} {views : ℕ → View Readings Since}
    {K : Set OrderRecord} (hop : permits K op) (hK : ∀ f ∈ K, StoredAs f db)
    (h : ∀ j, Aware db (views j)) (j : ℕ) :
    Aware (exec e op db).2 (orderWatch.after world i e op db views j) := by
  by_cases hij : j = i
  · subst hij
    rw [Watch.after_own]
    exact (h j).notedOwn hop hK
  · rw [Watch.after_others hij]
    exact (h j).noted hop hK

/-! ## The tasks -/

/-- The reservations of the task rest on what it has read, given what it has read so far. -/
abbrev Rests {α : Type} (mem : Readings) (t : Model.Task α) : Prop :=
  t.Recalls orderWatch.toMemory mem

/-- The same of a part of a session or of the monitor. -/
abbrev RestsS {ς α : Type} (mem : Readings) (p : Prog.Stateful Op Res ς String α) : Prop :=
  Prog.RecallsS orderWatch.toMemory mem p

/-- What asks for no reservation needs no reading. -/
theorem free_of_settling {o : Op} (h : Settling o) : orderWatch.toMemory.Free o := by
  intro mem
  cases o with
  | reserveOrder seen order => exact h.elim
  | _ => trivial

/-- Background work asks for no reservation. -/
theorem settling_of_background {o : Op} (h : Background o) : Settling o := by
  cases o with
  | reserveOrder seen order => cases h.idle
  | _ => trivial

/-- A task that asks for no reservation rests on any readings. -/
theorem rests_of_settling {α : Type} {t : Model.Task α} (h : t.Performs Settling) (mem : Readings) :
    Rests mem t :=
  Prog.recalls_of_performs (h.mono fun _ => free_of_settling) mem

/-- So does a part that asks for none. -/
theorem restsS_of_settling {ς α : Type} {p : Prog.Stateful Op Res ς String α}
    (h : Prog.PerformsS Settling p) (mem : Readings) : RestsS mem p :=
  Prog.recallsS_of_performs (h.mono fun _ => free_of_settling) mem

/-- So does background work. -/
theorem restsS_of_background {ς α : Type} {p : Prog.Stateful Op Res ς String α}
    (h : Prog.PerformsS Background p) (mem : Readings) : RestsS mem p :=
  restsS_of_settling (h.mono fun _ => settling_of_background) mem

/-- So does a part that only watches. -/
theorem restsS_of_watching {ς α : Type} {p : Prog.Stateful Op Res ς String α}
    (h : Prog.PerformsS Watching p) (mem : Readings) : RestsS mem p :=
  restsS_of_background (h.mono fun _ ho => ho.1) mem

/-- A call that does not trade asks for no reservation. -/
theorem settling_call {o : Op} (h : trades o = false) : (call o).Performs Settling := by
  cases o with
  | reserveOrder seen order => cases h
  | _ => exact performs_call trivial

/-- A value rests on any readings. -/
theorem restsS_pure {ς α : Type} {mem : Readings} (a : α) :
    RestsS mem (pure a : Prog.Stateful Op Res ς String α) := fun _ => trivial

section Exits

/-- An exit sells the quantity that was read of its position. -/
theorem orderQuantity_exitOrder {stored : List Position} {mint : String} {position : Position}
    {remaining : UInt64} (h : exitTarget stored mint = .ok (position, remaining))
    (id reason key : String) (terms : ExitTerms) (value : Decimal) (now : Time) :
    orderQuantity (exitOrder id position mint reason key remaining terms value now) ≤
      remainingOf (stored.find? fun p => p.mint = mint) := by
  obtain ⟨hfound, -, -⟩ := exitTarget_ok h
  have hremaining : position.remainingQuantityAtomic = some remaining := by
    unfold exitTarget at h
    rw [hfound] at h
    dsimp only at h
    split at h
    · cases h
    · split at h
      · cases h
      · rename_i htrusted
        cases h
        unfold Position.trustedRemaining at htrusted
        split at htrusted
        · cases htrusted
        · split at htrusted
          · cases htrusted
          · exact htrusted
  rw [hfound]
  simp [orderQuantity, exitOrder, remainingOf, hremaining]

variable (deps : Deps)

/-- An exit reads the incomplete orders and the positions before it reserves. -/
theorem rests_executeExitOrder (mint reason : String) (pf : Portfolio) (mem : Readings) :
    Rests mem (executeExitOrder deps mint reason pf) := by
  apply Prog.recalls_perform_bind trivial
  intro now
  apply Prog.recalls_perform_bind trivial
  intro answer
  cases answer with
  | error e => trivial
  | ok stored =>
      dsimp only
      split
      · trivial
      · rename_i position remaining htarget
        apply Prog.recalls_perform_bind trivial
        intro answer
        cases answer with
        | error e => trivial
        | ok incomplete =>
            dsimp only
            split
            · trivial
            · split
              · trivial
              · apply Prog.recalls_perform_bind trivial
                intro orders
                split
                · trivial
                · dsimp only
                  split
                  · trivial
                  · apply Prog.recalls_perform_bind trivial
                    intro id
                    apply Prog.recalls_perform_bind
                    · -- the check and the positions are the last ones that were read
                      refine ⟨rfl, nofun, fun _ => ⟨stored, rfl, ?_⟩⟩
                      exact orderQuantity_exitOrder htarget _ _ _ _ _ _
                    · intro reserved
                      split
                      · trivial
                      · trivial
                      · exact rests_of_settling
                          ((performs_submitExit _ _ _ _ _ _ _ _).mono fun _ h => h.2) _

/-- The attempt of an exit rests on what it has read. -/
theorem restsS_attemptExit (mint : String) (remaining : UInt64) (reason : String) (mem : Readings) :
    RestsS mem (attemptExit deps mint remaining reason) := by
  apply Prog.recallsS_bind (restsS_of_settling Prog.performsS_get mem)
  intro s mem
  split
  · exact restsS_pure _
  · apply Prog.recallsS_bind (restsS_of_settling Prog.performsS_get mem)
    intro s mem
    apply Prog.recallsS_bind (Prog.recallsS_lift (rests_executeExitOrder deps _ _ _ mem))
    intro r mem
    apply Prog.recallsS_bind (restsS_of_settling (Prog.performsS_modify _) mem)
    intro _ mem
    split
    · exact restsS_of_settling (Prog.performsS_modify _) mem
    · exact restsS_of_settling (performs_countFailure fun _ => trivial) mem
    · exact restsS_pure _
    · exact restsS_pure _

/-- The exit turn of one position rests on what it has read. -/
theorem restsS_processExit (mint : String) (mem : Readings) : RestsS mem (processExit deps mint) := by
  apply Prog.recallsS_bind (restsS_of_settling Prog.performsS_get mem)
  intro s mem
  split
  · exact restsS_pure _
  · split
    · exact restsS_pure _
    · apply Prog.recallsS_bind (restsS_of_settling (performsS_orStop (settling_call rfl)) mem)
      intro incomplete mem
      split
      · exact restsS_pure _
      · split
        · apply Prog.recallsS_bind
            (restsS_of_watching (performsS_look (watching_exitLiquidity _ _ _)) mem)
          intro liquidity mem
          apply Prog.recallsS_bind
            (restsS_of_watching (performsS_look (watching_signalInvalidated _)) mem)
          intro invalidated mem
          apply Prog.recallsS_bind
            (restsS_of_watching (performsS_look (watching_deriveMark _ _ _ _ _ _ _)) mem)
          intro mark mem
          split
          · exact restsS_pure _
          · apply Prog.recallsS_bind (restsS_of_settling Prog.performsS_get mem)
            intro s mem
            apply Prog.recallsS_bind (restsS_of_settling (Prog.performsS_modify _) mem)
            intro _ mem
            split
            · exact restsS_of_settling (Prog.performsS_throw _) mem
            · apply Prog.recallsS_bind
                (restsS_of_settling (performsS_look (settling_call rfl)) mem)
              intro now mem
              split
              · exact restsS_pure _
              · exact restsS_attemptExit deps _ _ _ mem
        · exact restsS_pure _

/-- The exit stage rests on what it has read. -/
theorem restsS_processExits (mem : Readings) : RestsS mem (processExits deps) := by
  apply Prog.recallsS_bind (restsS_of_settling Prog.performsS_get mem)
  intro s mem
  apply Prog.recallsS_bind (restsS_of_settling (performsS_look (settling_call rfl)) mem)
  intro mints mem
  exact Prog.recallsS_foldlM _ (fun _ mint mem => restsS_processExit deps mint mem) _ mem

end Exits

section Entries

variable (deps : Deps)

/-- The operations of the entry stage after its gate. -/
def EntryStage : Op → Prop
  | .incompleteOrders | .positions => False
  | .reserveOrder seen order => seen = [] ∧ order.kind = .entry
  | _ => True

/-- They go with a check that has seen no order. -/
theorem EntryStage.steady {mem : Readings} (hchecked : mem.checked = some []) {o : Op}
    (h : EntryStage o) : orderWatch.toMemory.Steady mem o := by
  cases o with
  | incompleteOrders => exact h.elim
  | positions => exact h.elim
  | reserveOrder seen order =>
      obtain ⟨rfl, hkind⟩ := h
      refine ⟨⟨hchecked, fun _ => rfl, fun hexit => ?_⟩, fun _ => rfl⟩
      rw [hkind] at hexit
      cases hexit
  | _ => exact ⟨trivial, fun _ => rfl⟩

/-- The decision on an entry stays within the entry stage. -/
theorem entryStage_decideEntry (now : Time) (c : EntryCall) :
    Prog.PerformsS EntryStage (decideEntry deps now c) := by
  refine Prog.performsS_bind Prog.performsS_get fun s => ?_
  dsimp only
  split
  · exact Prog.performsS_pure _
  · split
    · exact Prog.performsS_pure _
    · refine Prog.performsS_bind (performsS_look (performs_call trivial)) fun positionId =>
        Prog.performsS_bind (performsS_look (performs_call trivial)) fun id =>
        Prog.performsS_bind (performsS_orStop (performs_call ⟨rfl, rfl⟩)) fun reserved =>
        Prog.performsS_bind ?_ fun _ => Prog.performsS_modify _
      exact performs_submitReserved deps (fun _ _ => trivial) (fun _ => trivial) (fun _ => trivial)
        (fun _ => trivial) _ _ _ _

/-- The turns over the candidates stay within the entry stage. -/
theorem entryStage_processEntries : Prog.PerformsS EntryStage (processEntries deps) := by
  refine Prog.performsS_bind (performsS_look (performs_call trivial)) fun now =>
    Prog.performsS_bind Prog.performsS_get fun s =>
    Prog.performsS_bind (performsS_look (performs_call trivial)) fun mints =>
    Prog.performsS_foldlM _ (fun _ mint => ?_) _
  rw [processEntry_eq]
  refine Prog.performsS_bind (performs_beforeAuthorize deps trivial trivial (fun _ => trivial)
    (fun _ _ _ _ => trivial) now mint) fun c => ?_
  cases c with
  | none => exact Prog.performsS_pure _
  | some c => exact entryStage_decideEntry deps now c

/-- The gate reads the incomplete orders, and entries are made only if it has seen none. -/
theorem restsS_makeEntries (mem : Readings) : RestsS mem (makeEntries deps) := by
  unfold makeEntries entryGate
  rw [bind_assoc]
  apply Prog.recallsS_bind (restsS_of_settling Prog.performsS_get mem)
  intro s mem
  split
  · exact restsS_pure _
  · unfold orStop
    rw [bind_assoc, bind_assoc]
    apply Prog.recallsS_lift_perform_bind trivial
    intro answer
    cases answer with
    | error e => exact fun _ => trivial
    | ok incomplete =>
        simp only [pure_bind]
        split
        · rename_i hallowed
          have hempty : incomplete.orders = [] := by
            unfold entriesAllowed at hallowed
            simp only [Bool.and_eq_true, List.isEmpty_iff] at hallowed
            exact hallowed.1.2
          apply Prog.recallsS_of_steady
          exact (entryStage_processEntries deps).mono fun _ => EntryStage.steady (congrArg some hempty)
        · exact restsS_pure _

end Entries

section Tasks

variable (deps : Deps)

/-- Marking the equity asks for no reservation. -/
theorem settling_markEquity : Prog.PerformsS Settling (markEquity deps) :=
  performsS_markEquity deps trivial fun _ => trivial

/-- A tick rests on what it has read. -/
theorem restsS_tick (mem : Readings) : RestsS mem (tick deps) := by
  rw [tick_eq_entries]
  unfold beforeEntries
  rw [beforeExits_eq]
  refine Prog.recallsS_bind (Prog.recallsS_bind ?_ fun _ mem => restsS_processExits deps mem)
    fun _ mem => restsS_makeEntries deps mem
  refine restsS_of_settling (Prog.performsS_bind ?_ fun _ => settling_markEquity deps) mem
  exact (background_beforeMarking deps).mono fun _ => settling_of_background

/-- All ticks rest on what they have read. -/
theorem restsS_sessionTicks (ticks : ℕ) (mem : Readings) : RestsS mem (sessionTicks deps ticks) := by
  induction ticks generalizing mem with
  | zero => exact restsS_pure _
  | succ n ih =>
      rw [sessionTicks_succ]
      refine Prog.recallsS_bind ?_ fun _ mem => ih mem
      apply Prog.recallsS_bind (restsS_of_settling Prog.performsS_get mem)
      intro s mem
      apply Prog.recallsS_bind (Prog.recallsS_lift (restsS_tick deps mem s))
      intro r mem
      refine restsS_of_settling (Prog.performsS_bind (Prog.performsS_set _) fun _ => ?_) mem
      refine Prog.performsS_bind Prog.performsS_get fun s =>
        Prog.performsS_bind (performsS_orStop (settling_call rfl)) fun _ =>
        Prog.performsS_bind (performsS_orStop (settling_call rfl)) fun _ =>
        performsS_orStop (settling_call rfl)

/-- A session rests on what it has read. -/
theorem rests_runSession (ticks : ℕ) (mem : Readings) : Rests mem (runSession deps ticks) := by
  apply Prog.recalls_perform_bind trivial
  intro stored
  split
  · trivial
  · refine Prog.recalls_bind ?_ fun _ _ => trivial
    rw [sessionBody_eq]
    apply Prog.recallsS_bind (restsS_of_background (background_sessionStart deps) _)
    intro _ mem
    refine Prog.recallsS_bind (restsS_sessionTicks deps ticks mem) fun _ mem => ?_
    exact restsS_of_background (background_finalReconciliation deps) mem

/-- The decision of the monitor and its exit rest on what was read. -/
theorem restsS_monitorExit (position : Position) (mint : String) (remaining : UInt64)
    (tokenDecimals : UInt8) (mark : Decimal) (impactBps : UInt32) (mem : Readings) :
    RestsS mem (monitorExit deps position mint remaining tokenDecimals mark impactBps) := by
  have hliquidity : (monitorLiquidity deps mint mark remaining tokenDecimals impactBps).Performs
      Settling := by
    refine Prog.performs_bind ((watching_persistedLiquidity deps mint).mono fun _ h =>
      settling_of_background h.1) fun evidence => ?_
    split
    · trivial
    · exact Prog.performs_bind (settling_call rfl) fun _ => trivial
  have hinvalidated : (monitorInvalidated position.signalId).Performs Settling := by
    refine Prog.performs_bind (settling_call rfl) fun answer => ?_
    split <;> trivial
  apply Prog.recallsS_bind (restsS_of_settling (performs_monitorLook hliquidity) mem)
  intro liquidity mem
  apply Prog.recallsS_bind (restsS_of_settling (performs_monitorLook hinvalidated) mem)
  intro invalidated mem
  apply Prog.recallsS_bind (restsS_of_settling (performs_monitorLook (settling_call rfl)) mem)
  intro now mem
  split
  · exact restsS_pure _
  · apply Prog.recallsS_bind (restsS_of_settling Prog.performsS_get mem)
    intro s mem
    apply Prog.recallsS_bind (Prog.recallsS_lift (rests_executeExitOrder deps _ _ _ mem))
    intro r mem
    exact restsS_of_settling (Prog.performsS_modify _) mem

/-- A turn of the monitor rests on what it has read. -/
theorem restsS_monitorPosition (mint : String) (mem : Readings) :
    RestsS mem (monitorPosition deps mint) := by
  apply Prog.recallsS_bind (restsS_of_settling Prog.performsS_get mem)
  intro s mem
  split
  · exact restsS_pure _
  · split
    · exact restsS_pure _
    · split
      · exact restsS_pure _
      · apply Prog.recallsS_bind (restsS_of_settling (performs_monitorOrStop (settling_call rfl)) mem)
        intro incomplete mem
        split
        · exact restsS_pure _
        · split
          · exact restsS_pure _
          · apply Prog.recallsS_bind (restsS_of_watching (watching_monitorMark deps _ _ _) mem)
            intro mark mem
            split
            · exact restsS_pure _
            · apply Prog.recallsS_bind (restsS_of_watching (watching_saveMark _ _ _) mem)
              intro saved mem
              split
              · exact restsS_monitorExit deps _ _ _ _ _ _ mem
              · exact restsS_pure _

/-- A tick of the monitor rests on what it has read. -/
theorem restsS_monitorTick (mem : Readings) : RestsS mem (monitorTick deps) := by
  apply Prog.recallsS_bind (restsS_of_background
    (performs_monitorLook (background_reconcileStaleOrders deps)) mem)
  intro _ mem
  apply Prog.recallsS_bind (restsS_of_settling (performs_monitorOrStop (settling_call rfl)) mem)
  intro stored mem
  apply Prog.recallsS_bind (restsS_of_settling (Prog.performsS_modify _) mem)
  intro _ mem
  apply Prog.recallsS_bind (restsS_of_settling (performs_monitorOrStop (settling_call rfl)) mem)
  intro _ mem
  apply Prog.recallsS_bind (restsS_of_settling (performs_monitorOrStop (settling_call rfl)) mem)
  intro _ mem
  apply Prog.recallsS_bind (restsS_of_settling Prog.performsS_get mem)
  intro s mem
  apply Prog.recallsS_bind (restsS_of_settling (performs_monitorLook (settling_call rfl)) mem)
  intro mints mem
  exact Prog.recallsS_foldlM _ (fun _ mint mem => restsS_monitorPosition deps mint mem) _ mem

/-- The exit monitor rests on what it has read. -/
theorem rests_runMonitor (ticks : ℕ) (mem : Readings) : Rests mem (runMonitor deps ticks) := by
  unfold runMonitor
  generalize (⟨Table.empty _, Portfolio.empty⟩ : MonitorState) = s
  induction ticks generalizing s mem with
  | zero => trivial
  | succ n ih => exact Prog.recalls_bind (restsS_monitorTick deps mem s) fun r mem => ih mem r.2

/-- The operator's exit of one position rests on what it has read. -/
theorem restsS_exitPosition (balances : List TokenBalance) (exited : ℕ) (mint : String)
    (mem : Readings) : RestsS mem (exitPosition deps balances exited mint) := by
  apply Prog.recallsS_bind (restsS_of_settling Prog.performsS_get mem)
  intro s mem
  split
  · exact restsS_pure _
  · split
    · exact restsS_pure _
    · split
      · exact restsS_pure _
      · apply Prog.recallsS_bind (restsS_of_settling (performsS_orStop (settling_call rfl)) mem)
        intro incomplete mem
        split
        · exact restsS_pure _
        · exact Prog.recallsS_bind (restsS_attemptExit deps _ _ _ mem) fun _ _ => restsS_pure _

/-- Fetching the balances asks for no reservation. -/
theorem settling_fetchBalances : (fetchBalances deps).Performs Settling := by
  unfold fetchBalances
  split
  · split
    · trivial
    · refine Prog.performs_bind (settling_call rfl) fun answer => ?_
      split <;> trivial
  · trivial

/-- The operator's exit of all positions rests on what it has read. -/
theorem rests_exitAllPositions (mem : Readings) : Rests mem (exitAllPositions deps) := by
  apply Prog.recalls_perform_bind trivial
  intro stored
  split
  · trivial
  · apply Prog.recalls_perform_bind trivial
    intro mints
    apply Prog.recalls_bind (rests_of_settling (settling_fetchBalances deps) _)
    intro balances mem
    refine Prog.recalls_bind ?_ fun _ _ => trivial
    exact Prog.recallsS_foldlM _
      (fun exited mint mem => restsS_exitPosition deps balances exited mint mem) _ mem _

end Tasks

/-- **Every reservation of a task rests on its own last readings.** -/
theorem IsTask.rests {t : Model.Task Unit} (h : IsTask t) (mem : Readings) : Rests mem t := by
  cases h with
  | session deps ticks => exact rests_runSession deps ticks mem
  | exitMonitor deps ticks => exact rests_runMonitor deps ticks mem
  | exitAllPositions deps =>
      exact Prog.recalls_bind (rests_exitAllPositions deps mem) fun _ _ => trivial
  | reconciliation deps =>
      refine Prog.recalls_bind (rests_of_settling ?_ mem) fun _ _ => trivial
      exact (background_runReconciliation deps).mono fun _ => settling_of_background

/-- The tasks of the bot rest on their readings, starting without any. -/
theorem Bot.RunsTasks.recalls {bot : Bot} (h : bot.RunsTasks) :
    Pool.Recalls orderWatch freshViews bot :=
  fun _ t ht => (h t (List.mem_of_getElem? ht)).rests _

end SolanaBot.Analysis
