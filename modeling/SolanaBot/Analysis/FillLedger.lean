import SolanaBot.Analysis.TerminalOrders

/-!
# How often a fill is applied

A ledger kept beside the run adds up, for every order, the quantity by which the fill
transactions of that order have changed the remaining quantity of its position. It does
not exceed the fill that the chain has for the order (`moved_le_fill`), in every run in
which a confirmed order is only written from a record that shows it as confirmed, and an
exit transaction overwrites the loaded position with a copy that has its remaining
quantity. The fill transaction itself checks neither: two reconcilers that have read the
same order apply its fill twice (`moved_exceeds_fill`).
-/

set_option autoImplicit false

namespace SolanaBot.Analysis

open SolanaBot.Library SolanaBot.Model

/-- The traded quantity of the fill of a transaction: bought by an entry, sold by an exit. -/
def fillQuantity (t : FillTransaction) : ℕ :=
  if t.accounting.isEntry then t.fill.outputAmount.toNat else t.fill.inputAmount.toNat

/-- By how much a number has changed, up or down. -/
def change (before after : ℕ) : ℕ := (after - before) + (before - after)

/-- The quantity by which an operation changes a stored position on behalf of an order. -/
def movedBy (e : Env) (op : Op) (db : Db) (id : String) : ℕ :=
  match op with
  | .fillTransaction t =>
      if t.order.id = id then
        change (remainingOf (db.positions.find? t.mint))
          (remainingOf ((exec e op db).2.positions.find? t.mint))
      else 0
  | _ => 0

/-- The ledger after a run: the quantity moved on behalf of each order. -/
def movedFor (bot : Bot) (schedule : List (Label Env)) : String → ℕ :=
  bot.history world (fun e op db ledger id => ledger id + movedBy e op db id) (fun _ => 0) schedule

/-- The fills of an order have the quantity that the chain has for it. -/
def CarriesFill (chain : String → ℕ) (_ : Env) (op : Op) (_ : Db) : Prop :=
  match op with
  | .fillTransaction t => fillQuantity t = chain t.order.id
  | _ => True

/-- A fill transaction accounts from a record with the stored remaining quantity. -/
def FillCopyCurrent (_ : Env) (op : Op) (db : Db) : Prop :=
  match op with
  | .fillTransaction t => remainingOf (accountedRecord t db) = remainingOf (db.positions.find? t.mint)
  | _ => True

/-- The state that a recorded fill leaves behind. -/
def isConfirmed (s : OrderState) : Bool := s = .confirmed

/-- An operation that does not write carries no fill. -/
theorem carriesFill_of_not_writes (chain : String → ℕ) (e : Env) (db : Db) (op : Op)
    (h : ¬ op.Writes) : CarriesFill chain e op db := by
  cases op <;> first | trivial | exact absurd trivial h

/-- An operation that does not write writes from a current copy. -/
theorem fillCopyCurrent_of_not_writes (e : Env) (db : Db) (op : Op) (h : ¬ op.Writes) :
    FillCopyCurrent e op db := by
  cases op <;> first | trivial | exact absurd trivial h

/-- Whether `CarriesFill` holds can be evaluated. -/
instance (chain : String → ℕ) (e : Env) (op : Op) (db : Db) :
    Decidable (CarriesFill chain e op db) :=
  op.decideWrites (carriesFill_of_not_writes chain e db) (fun _ _ => instDecidableTrue)
    (fun _ _ => instDecidableTrue) (fun _ _ => instDecidableTrue)
    (fun t => instDecidableEqNat (fillQuantity t) (chain t.order.id))
    (fun _ _ => instDecidableTrue)

/-- Whether `FillCopyCurrent` holds can be evaluated. -/
instance (e : Env) (op : Op) (db : Db) : Decidable (FillCopyCurrent e op db) :=
  op.decideWrites (fillCopyCurrent_of_not_writes e db) (fun _ _ => instDecidableTrue)
    (fun _ _ => instDecidableTrue) (fun _ _ => instDecidableTrue)
    (fun t => instDecidableEqNat (remainingOf (accountedRecord t db))
      (remainingOf (db.positions.find? t.mint)))
    (fun _ _ => instDecidableTrue)

/-- A fill changes the remaining quantity of the record it is accounted on by at most its own
quantity. -/
theorem change_of_moved {t : FillTransaction} {old : Option Position} {p : Position}
    (h : Moved old (fillMovement t) p) :
    change (remainingOf old) (remainingOf (some p)) ≤ fillQuantity t := by
  unfold fillMovement at h
  unfold fillQuantity change
  cases hentry : t.accounting.isEntry with
  | true =>
      rw [if_pos hentry] at h
      have hbought := remainingOf_of_bought h
      rw [if_pos rfl]
      omega
  | false =>
      rw [if_neg (by simp [hentry])] at h
      have hsold := remainingOf_of_sold h
      rw [if_neg (by simp)]
      omega

/-- What a successful fill transaction moves is at most the quantity of its fill. -/
theorem movedBy_le_fillQuantity {e : Env} {t : FillTransaction} {db : Db} {K : Set OrderRecord}
    (hop : permits K (.fillTransaction t)) (hcurrent : FillCopyCurrent e (.fillTransaction t) db) :
    movedBy e (.fillTransaction t) db t.order.id ≤ fillQuantity t := by
  unfold movedBy
  dsimp only
  rw [if_pos rfl]
  cases exec_position e db hop t.mint with
  | same _ h =>
      rw [h]
      simp [change]
  | accounted t' p hop' hmint _ _ hmoved _ h =>
      cases hop'
      rw [h, ← hcurrent]
      exact change_of_moved hmoved
  | marked copy p price hop' => cases hop'
  | adopted copy p amount decimals now hop' => cases hop'

/-- An operation that is not a successful fill transaction of the order moves nothing for it. -/
theorem movedBy_cases (e : Env) (op : Op) (db : Db) (id : String) :
    movedBy e op db id = 0 ∨
      ∃ t, op = .fillTransaction t ∧ t.order.id = id ∧ t.failure e.txFaults db = none := by
  unfold movedBy
  split
  · rename_i t
    split
    · rename_i hid
      cases hfailure : t.failure e.txFaults db with
      | none => exact .inr ⟨t, rfl, hid, hfailure⟩
      | some f =>
          obtain ⟨msg, h⟩ := runFillTransaction_failed hfailure
          have hsame : (exec e (.fillTransaction t) db).2 = db := by
            show (runFillTransaction e.txFaults t db).2 = db
            rw [h]
          rw [hsame]
          simp [change]
    · exact .inl rfl
  · exact .inl rfl

/-- Nothing was moved for an order yet, or its fill was moved once and it is confirmed. -/
def AppliedOnce (chain : String → ℕ) (db : Db) (ledger : String → ℕ) : Prop :=
  ∀ id, ledger id = 0 ∨
    (ledger id ≤ chain id ∧ ∃ o, db.order id = some o ∧ o.state = .confirmed)

/-- One operation on current records applies a fill at most once. -/
theorem appliedOnce_exec {chain : String → ℕ} {e : Env} {op : Op} {db : Db} {ledger : String → ℕ}
    {K : Set OrderRecord} (hop : permits K op) (hK : ∀ f ∈ K, StoredAs f db)
    (hchain : CarriesFill chain e op db) (horder : CopyCurrent isConfirmed e op db)
    (hcopy : FillCopyCurrent e op db) (h : AppliedOnce chain db ledger) :
    AppliedOnce chain (exec e op db).2 fun id => ledger id + movedBy e op db id := by
  intro id
  dsimp only
  rcases movedBy_cases e op db id with hzero | ⟨t, rfl, rfl, hfailure⟩
  · rw [hzero]
    rcases h id with hnone | ⟨hle, o, ho, hstate⟩
    · exact .inl hnone
    · have hkeeps := keepsStates_exec (by simp [isConfirmed, OrderState.isTerminal]) hop hK horder
      obtain ⟨o', ho', heq⟩ := hkeeps id o ho (by simp [isConfirmed, hstate])
      exact .inr ⟨hle, o', ho', heq.trans hstate⟩
  · -- the record of the transaction is not terminal, so the stored order is not confirmed
    obtain ⟨stored, hstored, hsame⟩ := StoredAs.of_known hK hop.1
    have hnot : stored.state ≠ .confirmed := by
      intro hconfirmed
      have hstate := horder t.order rfl stored hstored (by simp [isConfirmed, hconfirmed])
      have hterminal := hop.2.1
      rw [hstate, hconfirmed] at hterminal
      cases hterminal
    rcases h t.order.id with hnone | ⟨-, o, ho, hstate⟩
    · refine .inr ⟨?_, ?_⟩
      · have hmoved := movedBy_le_fillQuantity hop hcopy
        have heq : fillQuantity t = chain t.order.id := hchain
        omega
      · obtain ⟨-, hlegal, hrun⟩ := runFillTransaction_applied hfailure
        have hafter : (exec e (.fillTransaction t) db).2 = t.applied db := by
          show (runFillTransaction e.txFaults t db).2 = _
          rw [hrun]
        rw [hafter]
        exact order_applied hstored
    · rw [hstored, Option.some.injEq] at ho
      exact absurd (ho ▸ hstate) hnot

/-- **A fill is applied at most once**: what is moved on behalf of an order never exceeds its fill
on the chain, in every run that writes confirmed orders and accounts exits from current records. -/
theorem moved_le_fill (chain : String → ℕ) (bot : Bot) (schedule : List (Label Env))
    (htasks : bot.RunsTasks) (hchain : bot.Meets world (CarriesFill chain) schedule)
    (horder : bot.Meets world (CopyCurrent isConfirmed) schedule)
    (hcopy : bot.Meets world FillCopyCurrent schedule) (id : String) :
    movedFor bot schedule id ≤ chain id := by
  have hinv : AppliedOnce chain (bot.run world schedule).shared (movedFor bot schedule) :=
    Pool.history_inv discipline_sound (AppliedOnce chain)
      (fun _ _ _ _ _ hop hK hC h => appliedOnce_exec hop hK hC.1 hC.2.1 hC.2.2 h)
      htasks.follows (hchain.and (horder.and hcopy)) fun _ => .inl rfl
  rcases hinv id with hzero | ⟨hle, -⟩
  · omega
  · exact hle

/-! ## Two reconcilers -/

/-- An exit of 100 units that was submitted with an unknown outcome. -/
def unknownExit : OrderRecord :=
  { id := "exit-1", signalId := "signal", mint := "token", kind := .exit
    positionId := some "position-1", side := .sell, inputMint := some "token"
    outputMint := some "base", inputAmountAtomic := some 100, inputValueUsd := some 10
    outputMintDecimals := some 0, state := .unknown, idempotencyKey := "key", createdAt := 0
    signature := some "signature", error := none }

/-- The transaction on the chain: 100 units of the token for 10 units of the base. -/
def exitOnChain : Transaction :=
  { accountKeys := some []
    txMeta := some
      { err := none, fee := some 5000, preBalances := some [], postBalances := some []
        preTokenBalances := [⟨some 0, some "token", some "owner", some 300⟩,
          ⟨some 1, some "base", some "owner", some 0⟩]
        postTokenBalances := [⟨some 0, some "token", some "owner", some 200⟩,
          ⟨some 1, some "base", some "owner", some 10⟩] }
    blockTime := none }

/-- The sample world in which the transaction is confirmed. -/
def landedEnv : Env :=
  { sampleEnv with
    answer := fun
      | .signatureStatus _ => .ok (some ⟨none, some "confirmed"⟩)
      | .transaction _ => .ok (some exitOnChain)
      | o => sampleAnswer o }

/-- A store with a position of 300 units and the unknown exit. -/
def unknownExitDb : Db :=
  let db := Db.new.savePosition { samplePosition with remainingQuantityAtomic := some 300 }
  { db with orders := db.orders.put ⟨"key", unknownExit⟩ }

/-- The exit monitor and a session, both of which reconcile the exit. -/
def reconcilingBot : Bot :=
  ⟨unknownExitDb, [runMonitor (sampleDeps true) 1, runSession (sampleDeps true) 0]⟩

/-- The bot that reconciles runs tasks. -/
theorem reconcilingBot_runsTasks : reconcilingBot.RunsTasks := by
  intro t ht
  simp only [reconcilingBot, List.mem_cons, List.not_mem_nil, or_false] at ht
  rcases ht with rfl | rfl
  · exact .exitMonitor _ _
  · exact .session _ _

/-- The schedule that lets one program perform operations while the transaction is confirmed. -/
def landedTurns (proc operations : ℕ) : List (Label Env) :=
  List.replicate operations ⟨proc, landedEnv⟩

/-- The monitor alone moves the quantity of the fill. -/
theorem moved_le_fill_sample : movedFor reconcilingBot (landedTurns 0 8) "exit-1" ≤ 100 :=
  moved_le_fill (fun _ => 100) reconcilingBot _ reconcilingBot_runsTasks (by decide +kernel)
    (by decide +kernel) (by decide +kernel) "exit-1"

/-- The session has read the order and its transaction when the monitor records the fill; then the
session records it once more, and the position has lost 200 units. -/
theorem moved_exceeds_fill : ¬ ∀ (chain : String → ℕ) (bot : Bot) (schedule : List (Label Env)),
    bot.RunsTasks → bot.Meets world (CarriesFill chain) schedule →
      ∀ id, movedFor bot schedule id ≤ chain id := by
  intro hlaw
  have hle := hlaw (fun _ => 100) reconcilingBot
    (landedTurns 1 11 ++ landedTurns 0 8 ++ landedTurns 1 4) reconcilingBot_runsTasks
    (by decide +kernel) "exit-1"
  have hmoved : movedFor reconcilingBot (landedTurns 1 11 ++ landedTurns 0 8 ++ landedTurns 1 4)
      "exit-1" = 200 := by
    decide +kernel
  rw [hmoved] at hle
  exact absurd hle (by decide)

end SolanaBot.Analysis
