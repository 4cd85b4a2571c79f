import SolanaBot.Analysis.PortfolioRuns
import SolanaBot.Analysis.TaskDiscipline

/-!
# What one operation does to the store

Two inversion lemmas: what a permitted operation does to a stored order (`exec_order`),
and what it does to a stored position (`exec_position`). The results about interleavings
look at the store only through them. The first one shows that the discipline of the
tasks is sound: an order that a task has reserved or read stays in the store.
-/

set_option autoImplicit false

namespace SolanaBot.Analysis

open SolanaBot.Library SolanaBot.Model

/-- The order of the record is in the store. -/
def StoredAs (f : OrderRecord) (db : Db) : Prop := ∃ o, db.order f.id = some o ∧ f.SameOrder o

/-- A record of a known order is a record of a stored one. -/
theorem StoredAs.of_known {K : Set OrderRecord} {db : Db} (hK : ∀ f ∈ K, StoredAs f db)
    {o : OrderRecord} (h : Known K o) : StoredAs o db := by
  obtain ⟨f, hf, hsame⟩ := h
  obtain ⟨stored, hstored, hsame'⟩ := hK f hf
  exact ⟨stored, hsame.id ▸ hstored, hsame.symm.trans hsame'⟩

/-! ## Orders -/

/-- The record of an order that a write works on. -/
def orderCopy : Op → Option OrderRecord
  | .updateOrder copy _ => some copy
  | .fillTransaction t => some t.order
  | .unaccountedFill _ order => some order
  | _ => none

/-- What an operation does to the stored order `id`. -/
inductive OrderStep (op : Op) (db db' : Db) (id : String) : Prop
  /-- Nothing. -/
  | same (h : db'.order id = db.order id)
  /-- The order is new. -/
  | reserved (seen : List OrderRecord) (o : OrderRecord) (hop : op = .reserveOrder seen o)
      (hid : o.id = id) (hnew : db.order id = none) (h : db'.order id = some o)
  /-- The stored record is overwritten with a revision of the record that the task holds. -/
  | revised (copy o stored : OrderRecord) (hop : orderCopy op = some copy) (hid : copy.id = id)
      (hstored : db.order id = some stored) (hsame : copy.SameOrder stored)
      (hrevises : copy.Revises o) (h : db'.order id = some o)

/-- Overwriting by id with a revision of a record of a stored order. -/
theorem orderStep_updateOrder {op : Op} {copy o : OrderRecord} {db db₁ : Db}
    (hop : orderCopy op = some copy) (hcopy : StoredAs copy db) (hrevises : copy.Revises o)
    (hframe : ∀ id, db₁.order id = db.order id) (id : String) :
    OrderStep op db (db₁.updateOrder o) id := by
  have hafter := db₁.order_updateOrder o id
  rw [hframe] at hafter
  obtain ⟨stored, hstored, hsame⟩ := hcopy
  by_cases hid : id = o.id
  · have hcopyid : copy.id = id := hrevises.id.symm.trans hid.symm
    rw [hcopyid] at hstored
    rw [if_pos hid, hstored] at hafter
    exact .revised copy o stored hop hcopyid hstored hsame hrevises hafter
  · rw [if_neg hid] at hafter
    exact .same hafter

/-- A successful fill transaction leaves the orders to its last statement. -/
theorem orderStep_applied {t : FillTransaction} {db : Db} (hcopy : StoredAs t.order db)
    (h : t.order.state.StepsTo .confirmed) (id : String) :
    OrderStep (.fillTransaction t) db (t.applied db) id := by
  unfold FillTransaction.applied
  dsimp only
  refine orderStep_updateOrder rfl hcopy (t.revises_confirmed h) (fun id => ?_) id
  split <;> rfl

/-- It leaves the stored order signed and confirmed. -/
theorem order_applied_eq {t : FillTransaction} {db : Db} {stored : OrderRecord}
    (h : db.order t.order.id = some stored) : (t.applied db).order t.order.id = some t.confirmed := by
  unfold FillTransaction.applied
  dsimp only
  have hid : t.order.id = t.confirmed.id := rfl
  rw [Db.order_updateOrder, if_pos hid]
  split
  · rw [Db.order_savePosition, Db.order_saveFill, h, Option.map_some]
  · rw [Db.order_saveFill, h, Option.map_some]

/-- It leaves the stored order confirmed. -/
theorem order_applied {t : FillTransaction} {db : Db} {stored : OrderRecord}
    (h : db.order t.order.id = some stored) :
    ∃ o, (t.applied db).order t.order.id = some o ∧ o.state = .confirmed :=
  ⟨t.confirmed, order_applied_eq h, rfl⟩

/-- An operation that does not write leaves the orders. -/
theorem order_exec_of_not_writes {e : Env} {op : Op} {db : Db} (h : ¬ op.Writes) (id : String) :
    (exec e op db).2.order id = db.order id := by
  unfold Db.order
  rw [(exec_of_not_writes h).1]

/-- **What a permitted operation does to a stored order.** -/
theorem exec_order (e : Env) {op : Op} {db : Db} {K : Set OrderRecord} (hop : permits K op)
    (hK : ∀ f ∈ K, StoredAs f db) (id : String) : OrderStep op db (exec e op db).2 id := by
  cases op with
  | savePosition basis p =>
      refine .same ?_
      unfold exec statement
      cases e.fault <;> rfl
  | reserveOrder seen o =>
      unfold exec
      cases e.fault with
      | some msg => exact .same rfl
      | none =>
          rcases db.reserveOrder_cases o with ⟨-, h⟩ | ⟨-, -, hnew, h⟩
          · exact .same (by simp only [h])
          · have hafter := db.order_reserved o id
            by_cases hid : id = o.id
            · rw [if_pos hid] at hafter
              exact .reserved seen o rfl hid.symm (hid ▸ hnew) (by simp only [h, hafter])
            · rw [if_neg hid] at hafter
              exact .same (by simp only [h, hafter])
  | updateOrder copy o =>
      unfold exec statement
      cases e.fault with
      | some msg => exact .same rfl
      | none => exact orderStep_updateOrder rfl (.of_known hK hop.1) hop.2 (fun _ => rfl) id
  | fillTransaction t =>
      show OrderStep _ db (runFillTransaction e.txFaults t db).2 id
      rcases runFillTransaction_cases e.txFaults t db with ⟨f, msg, -, h⟩ | ⟨-, -, hlegal, h⟩
      · exact .same (by rw [h])
      · rw [h]
        exact orderStep_applied (.of_known hK hop.1) hlegal id
  | unaccountedFill fill order =>
      show OrderStep _ db (recordUnaccountedFill e.txFaults fill order db).2 id
      rcases recordUnaccountedFill_cases e.txFaults fill order db with ⟨msg, h⟩ | ⟨hlegal, h⟩
      · exact .same (by rw [h])
      · rw [h]
        have hcopy : orderCopy (.unaccountedFill fill order) = some order := rfl
        exact orderStep_updateOrder hcopy (.of_known hK hop.1) (revises_unaccountedOrder hlegal)
          (db.order_saveFill fill) id
  | _ =>
      refine .same (order_exec_of_not_writes ?_ id)
      exact not_false

/-- A stored order stays stored, with the fields that were fixed at its reservation. -/
theorem OrderStep.storedAs {op : Op} {db db' : Db} {f : OrderRecord}
    (h : OrderStep op db db' f.id) (hf : StoredAs f db) : StoredAs f db' := by
  obtain ⟨o, ho, hsame⟩ := hf
  cases h with
  | same hafter => exact ⟨o, hafter.trans ho, hsame⟩
  | reserved seen o' hop hid hnew hafter => rw [ho] at hnew; cases hnew
  | revised copy o' stored hop hid hstored hcopy hrevises hafter =>
      rw [ho, Option.some.injEq] at hstored
      subst hstored
      exact ⟨o', hafter, hsame.trans (hcopy.symm.trans hrevises.toSameOrder)⟩

/-- The record that a fill transaction hands back is one of the order it was given. -/
theorem sameOrder_runFillTransaction (faults : TxFaults) (t : FillTransaction) (db : Db) :
    t.order.SameOrder (runFillTransaction faults t db).1.2 := by
  rcases runFillTransaction_cases faults t db with ⟨f, msg, -, h⟩ | ⟨-, -, hlegal, h⟩
  · rw [h]
    exact t.sameOrder_placedAfter f
  · rw [h]
    exact (t.revises_confirmed hlegal).toSameOrder

/-- **The discipline is sound.** What a task has learned about the stored orders stays true,
whatever the other tasks do. -/
theorem discipline_sound : discipline.Sound world StoredAs where
  stable := fun hop hK f hf => (exec_order _ hop hK f.id).storedAs hf
  learned := by
    intro e o db K hop hK f hf
    cases o with
    | reserveOrder seen o =>
        obtain ⟨hok, rfl⟩ := hf
        show StoredAs f (exec e (.reserveOrder seen f) db).2
        change (exec e (.reserveOrder seen f) db).1 = .ok true at hok
        unfold exec at hok ⊢
        cases hfault : e.fault with
        | some msg => rw [hfault] at hok; cases hok
        | none =>
            rw [hfault] at hok
            rcases db.reserveOrder_cases f with ⟨hno, -⟩ | ⟨-, -, -, h⟩
            · exact absurd hok hno
            · dsimp only
              rw [h]
              exact ⟨f, by rw [Db.order_reserved, if_pos rfl], .refl f⟩
    | incompleteOrders =>
        obtain ⟨incomplete, hok, hmem⟩ := hf
        show StoredAs f (exec e .incompleteOrders db).2
        change (exec e .incompleteOrders db).1 = .ok incomplete at hok
        unfold exec statement at hok ⊢
        cases hfault : e.fault with
        | some msg => rw [hfault] at hok; cases hok
        | none =>
            rw [hfault] at hok
            cases hok
            exact ⟨f, ((db.mem_incompleteOrders f).mp hmem).1, .refl f⟩
    | fillTransaction t =>
        obtain rfl : f = (runFillTransaction e.txFaults t db).1.2 := hf
        have hsame := sameOrder_runFillTransaction e.txFaults t db
        have hop : permits K (.fillTransaction t) := hop
        have hstored := (exec_order e hop hK t.order.id).storedAs (.of_known hK hop.1)
        obtain ⟨o, ho, hsame'⟩ := hstored
        exact ⟨o, hsame.id ▸ ho, hsame.symm.trans hsame'⟩
    | _ => exact absurd hf (by simp [discipline, learns])

/-- The tasks of the bot follow the discipline, starting without knowledge. -/
theorem Bot.RunsTasks.follows {bot : Bot} (h : bot.RunsTasks) :
    Pool.Follows discipline StoredAs bot :=
  Pool.follows_of_empty fun t ht => (h t ht).follows

/-! ## Positions -/

/-- The record that the accounting of a fill transaction starts from. -/
def accountedRecord (t : FillTransaction) (db : Db) : Option Position :=
  match t.accounting with
  | .exit (some p) _ _ => some p
  | _ => db.positions.find? t.mint

/-- The remaining quantity of a record, zero when it is missing. -/
def remainingOf (p : Option Position) : ℕ :=
  ((p.bind Position.remainingQuantityAtomic).map UInt64.toNat).getD 0

/-- The remaining quantity of a position, zero where it is missing. -/
theorem remainingOf_getD (p : Position) :
    remainingOf (some p) = (p.remainingQuantityAtomic.getD 0).toNat := by
  cases hr : p.remainingQuantityAtomic <;> simp [remainingOf, hr]

/-- A purchase adds at most the bought quantity, and takes nothing away. -/
theorem remainingOf_of_bought {old : Option Position} {fill : Fill} {p : Position}
    (h : Moved old (.bought fill) p) :
    remainingOf old ≤ remainingOf (some p) ∧
      remainingOf (some p) ≤ remainingOf old + fill.outputAmount.toNat := by
  cases h with
  | opened fill v p hfill hv hremaining => simp [remainingOf, hremaining]
  | added p₀ fill v p hfill hv hremaining =>
      rw [remainingOf_getD p₀, remainingOf_getD p, hremaining, Option.getD_some]
      exact ⟨le_toNat_saturatingAdd .., toNat_saturatingAdd_le ..⟩

/-- A sale takes exactly the sold quantity. -/
theorem remainingOf_of_sold {old : Option Position} {fill : Fill} {p : Position}
    (h : Moved old (.sold fill) p) :
    remainingOf (some p) + fill.inputAmount.toNat = remainingOf old := by
  cases h with
  | sold p₀ fill remaining newRemaining proceeds entryCost p hr hsub hv hc hremaining =>
      rw [remainingOf_getD p₀, remainingOf_getD p, hremaining, hr]
      exact toNat_checkedSub hsub

/-- What a fill transaction does to its position. -/
def fillMovement (t : FillTransaction) : Movement :=
  if t.accounting.isEntry then .bought t.fill else .sold t.fill

/-- The identifier of the position after a fill transaction: an existing record keeps its own. -/
def accountedId (t : FillTransaction) (db : Db) : Option String :=
  match accountedRecord t db, t.accounting with
  | some p, _ => p.positionId
  | none, .entry _ _ _ positionId _ _ _ => some positionId
  | none, _ => none

/-- Whether an operation writes the position of a mint: it is about that mint and goes through. -/
def writesPosition (e : Env) (op : Op) (db : Db) (mint : String) : Bool :=
  match op with
  | .savePosition _ p => p.mint = mint && e.fault.isNone
  | .fillTransaction t => t.mint = mint && (t.failure e.txFaults db).isNone
  | _ => false

/-- What an operation does to the stored position of a mint. -/
inductive PositionStep (e : Env) (op : Op) (db db' : Db) (mint : String) : Prop
  /-- Nothing. -/
  | same (hquiet : writesPosition e op db mint = false)
      (h : db'.positions.find? mint = db.positions.find? mint)
  /-- The record is overwritten with a copy and its mark. -/
  | marked (copy p : Position) (price : Decimal) (hop : op = .savePosition (.marked copy price) p)
      (hmint : copy.mint = mint)
      (hp : ∃ high value unrealized, p = { copy with
        highWaterPriceUsd := high, currentValueUsd := value, unrealizedPnlUsd := unrealized })
      (h : db'.positions.find? mint = some p)
  /-- The record is overwritten with a copy that adopted a balance of the chain. -/
  | adopted (copy p : Position) (amount : UInt64) (decimals : UInt8) (now : Time)
      (hop : op = .savePosition (.adopted copy amount decimals now) p) (hmint : copy.mint = mint)
      (hwrites : writesPosition e op db mint = true)
      (hp : p = (copy.reconcileWithChain copy.mint amount decimals now).2)
      (h : db'.positions.find? mint = some p)
  /-- A fill transaction accounted for its fill. -/
  | accounted (t : FillTransaction) (p : Position) (hop : op = .fillTransaction t)
      (hmint : t.mint = mint) (hwrites : writesPosition e op db mint = true)
      (hfailure : t.failure e.txFaults db = none)
      (hmoved : Moved (accountedRecord t db) (fillMovement t) p)
      (hid : p.positionId = accountedId t db) (h : db'.positions.find? mint = some p)

/-- A successful entry moves the loaded position. -/
theorem applyEntry_moved {pf : Portfolio} {mint baseMint : String}
    {tokenDecimals baseMintDecimals : UInt8} {positionId : String} {fill : Fill}
    {price : Decimal} {signalId : String} {costModel : CostModel}
    (h : (pf.applyEntry mint baseMint tokenDecimals baseMintDecimals positionId fill price
      signalId costModel).1 = .ok ()) :
    ∃ p, (pf.applyEntry mint baseMint tokenDecimals baseMintDecimals positionId fill price
      signalId costModel).2.position mint = some p ∧ Moved (pf.position mint) (.bought fill) p ∧
        p.positionId = ((pf.position mint).elim (some positionId) Position.positionId) := by
  obtain ⟨hfill, v, hv, hput⟩ := Portfolio.applyEntry_ok h
  rw [hput]
  refine ⟨.entered (pf.position mint) mint baseMint tokenDecimals baseMintDecimals positionId fill
    price v signalId costModel, ?_, AccountingOp.entry_moved hfill hv, ?_⟩
  · rw [Portfolio.position_put, AccountingOp.entered_mint, if_pos rfl]
  · cases pf.position mint <;> rfl

/-- A successful exit moves the loaded position. -/
theorem applyExit_moved {pf : Portfolio} {mint reason : String} {fill : Fill} {now : Time}
    (h : ((pf.applyExit mint fill reason now).1.map fun _ => ()) = .ok ()) :
    ∃ p₀ p, pf.position mint = some p₀ ∧
      (pf.applyExit mint fill reason now).2.position mint = some p ∧
      Moved (some p₀) (.sold fill) p ∧ p.positionId = p₀.positionId := by
  cases hr : (pf.applyExit mint fill reason now).1 with
  | error e => rw [hr] at h; cases h
  | ok out =>
      obtain ⟨p₀, remaining, newRemaining, proceeds, entryCost, hp, hremaining, hsub, hv, hc, -, rfl,
        hput⟩ := Portfolio.applyExit_ok hr
      rw [hput]
      refine ⟨p₀, p₀.afterExit fill newRemaining _ reason now, hp, ?_,
        AccountingOp.exit_moved hremaining hsub hv hc, ?_⟩
      · rw [Portfolio.position_put, Position.afterExit_mint, Portfolio.mint_of_position hp,
          if_pos rfl]
      · exact p₀.afterExit_positionId ..

/-- A successful accounting moves the position of the mint. -/
theorem account_moved {t : FillTransaction} {db : Db}
    (hcopy : ∀ p reason now, t.accounting = .exit (some p) reason now → p.mint = t.mint)
    (h : (t.account db.loadPortfolio).1 = .ok ()) :
    ∃ p, (t.account db.loadPortfolio).2.position t.mint = some p ∧
      Moved (accountedRecord t db) (fillMovement t) p ∧ p.positionId = accountedId t db := by
  unfold FillTransaction.account at h ⊢
  unfold accountedId accountedRecord fillMovement
  cases haccounting : t.accounting with
  | entry baseMint td bd positionId price signalId costModel =>
      rw [haccounting] at h
      cases baseMint with
      | none => cases h
      | some baseMint =>
          obtain ⟨p, hp, hmoved, hid⟩ := applyEntry_moved h
          rw [Db.position_loadPortfolio] at hmoved hid
          refine ⟨p, hp, hmoved, ?_⟩
          rw [hid]
          cases db.positions.find? t.mint <;> rfl
  | exit stored reason now =>
      rw [haccounting] at h
      obtain ⟨p₀, p, hp₀, hp, hmoved, hid⟩ := applyExit_moved h
      cases stored with
      | none =>
          rw [Db.position_loadPortfolio] at hp₀
          refine ⟨p, hp, ?_, ?_⟩ <;> simp only [hp₀]
          · exact hmoved
          · exact hid
      | some copy =>
          have hsynced : (db.loadPortfolio.syncPosition copy).position t.mint = some copy := by
            rw [← hcopy copy reason now haccounting]
            exact Table.find?_put_self _ copy
          rw [hsynced, Option.some.injEq] at hp₀
          subst hp₀
          exact ⟨p, hp, hmoved, hid⟩
  | reconciledExit reason now =>
      rw [haccounting] at h
      obtain ⟨p₀, p, hp₀, hp, hmoved, hid⟩ := applyExit_moved h
      rw [Db.position_loadPortfolio] at hp₀
      refine ⟨p, hp, ?_, ?_⟩ <;> simp only [hp₀]
      · exact hmoved
      · exact hid

/-- Saving a position. -/
theorem find?_savePosition (db : Db) (p : Position) (mint : String) :
    (db.savePosition p).positions.find? mint =
      if mint = p.mint then some p else db.positions.find? mint :=
  Table.find?_put db.positions p mint

/-- A successful fill transaction saves the position that its accounting moved. -/
theorem positionStep_applied {e : Env} {t : FillTransaction} {db : Db}
    (hfailure : t.failure e.txFaults db = none)
    (hcopy : ∀ p reason now, t.accounting = .exit (some p) reason now → p.mint = t.mint)
    (h : (t.account db.loadPortfolio).1 = .ok ()) (mint : String) :
    PositionStep e (.fillTransaction t) db (t.applied db) mint := by
  obtain ⟨p, hp, hmoved, hid⟩ := account_moved hcopy h
  have hmint := Portfolio.mint_of_position hp
  have hafter : (t.applied db).positions.find? mint =
      if mint = p.mint then some p else db.positions.find? mint := by
    unfold FillTransaction.applied
    simp only [hp, Db.positions_updateOrder]
    exact find?_savePosition _ p mint
  by_cases heq : mint = p.mint
  · rw [if_pos heq] at hafter
    have htmint := hmint.symm.trans heq.symm
    refine .accounted t p rfl htmint ?_ hfailure hmoved hid hafter
    simp [writesPosition, htmint, hfailure]
  · rw [if_neg heq] at hafter
    refine .same ?_ hafter
    simp [writesPosition, hmint ▸ Ne.symm heq]

/-- An operation that does not write leaves the positions. -/
theorem positions_exec_of_not_writes {e : Env} {op : Op} {db : Db} (h : ¬ op.Writes)
    (mint : String) : (exec e op db).2.positions.find? mint = db.positions.find? mint := by
  rw [(exec_of_not_writes h).2.1]

/-- **What a permitted operation does to a stored position.** -/
theorem exec_position (e : Env) {op : Op} (db : Db) {K : Set OrderRecord} (hop : permits K op)
    (mint : String) : PositionStep e op db (exec e op db).2 mint := by
  cases op with
  | savePosition basis p =>
      unfold exec statement
      cases hfault : e.fault with
      | some msg => exact .same (by simp [writesPosition, hfault]) rfl
      | none =>
          have hafter := find?_savePosition db p mint
          by_cases heq : mint = p.mint
          · rw [if_pos heq] at hafter
            cases basis with
            | marked copy price =>
                have hmint : p.mint = copy.mint := by
                  obtain ⟨high, value, unrealized, h⟩ := hop
                  rw [h]
                exact .marked copy p price rfl (hmint.symm.trans heq.symm) hop hafter
            | adopted copy amount decimals now =>
                have hmint : p.mint = copy.mint := by
                  rw [show p = _ from hop, Position.reconcileWithChain_mint]
                refine .adopted copy p amount decimals now rfl (hmint.symm.trans heq.symm) ?_ hop hafter
                simp [writesPosition, heq, hfault]
          · rw [if_neg heq] at hafter
            exact .same (by simp [writesPosition, Ne.symm heq]) hafter
  | reserveOrder seen o =>
      refine .same rfl ?_
      unfold exec
      cases e.fault with
      | some msg => rfl
      | none => rcases db.reserveOrder_cases o with ⟨-, h⟩ | ⟨-, -, -, h⟩ <;> simp only [h]
  | updateOrder copy o =>
      refine .same rfl ?_
      unfold exec statement
      cases e.fault with
      | some msg => rfl
      | none => simp only [Db.positions_updateOrder]
  | fillTransaction t =>
      show PositionStep e _ db (runFillTransaction e.txFaults t db).2 mint
      rcases runFillTransaction_cases e.txFaults t db with
        ⟨f, msg, hfailure, h⟩ | ⟨hfailure, hok, -, h⟩
      · exact .same (by simp [writesPosition, hfailure]) (by rw [h])
      · rw [h]
        exact positionStep_applied hfailure hop.2.2.2.2 hok mint
  | unaccountedFill fill order =>
      refine .same rfl ?_
      show (recordUnaccountedFill e.txFaults fill order db).2.positions.find? mint = _
      rcases recordUnaccountedFill_cases e.txFaults fill order db with ⟨msg, h⟩ | ⟨-, h⟩
      · rw [h]
      · simp only [h, Db.positions_updateOrder, Db.saveFill]
  | _ =>
      refine .same rfl (positions_exec_of_not_writes ?_ mint)
      exact not_false

/-! ## A sample bot -/

/-- A configuration under which the bot sells a position whose market has no liquidity. -/
def sampleConfig : Config :=
  { mode := .paper
    rpc :=
      { httpEndpoints := ["rpc"], maxDataAgeSecs := 60, maxAttempts := 2, unknownAfterSecs := 120 }
    strategy :=
      { baseMint := "base", minWalletScore := 50, minWalletSamples := 5, minConsensusWallets := 2
        minSignalScore := 50, minTokenAgeSecs := 60, stopLossPct := 10, takeProfitPct := 20
        trailingStopPct := 10, maxHoldingMinutes := 60 }
    economics :=
      { roundTripCostThresholdPct := 5, minExpectedNetReturnPct := 1, maxQuoteAgeSecs := 30
        uncertaintyHaircutPct := 1, solPriceUsd := some 100 }
    risk :=
      { startingCapitalUsd := 1000, maxLiveCapitalUsd := 100, maxConcurrentPositions := 3
        maxPositionPercentOfEquity := 10, maxPositionPercentOfLiquidity := 1
        maxRiskPerTradePercent := 1, maxDailyLossPercent := 5
        maxTotalDrawdownBeforeKillSwitchPct := 20, cooldownAfterLossMinutes := 5
        maxSlippageBps := 100, minLiquidityUsd := 1000, maxTradesPerDay := 20
        maxConsecutiveFailures := 3 }
    execution :=
      { jupiterApiUrl := "https://quote", slippageBps := 100, priorityFeeLamports := 10000
        maxFeeLamports := 500000, maxPriceImpactBps := 100, confirmTimeoutSecs := 90
        confirmPollMs := 500, liveSignerEnv := none, jupiterApiKeyEnv := none
        allowedProgramIds := [] }
    runtime :=
      { signalFeedPath := none, pollIntervalSecs := 2, reconcileIntervalSecs := 0
        maxLiquidityAgeSecs := 0, quoteCacheTtlSecs := 0, collectorEnabled := false
        replayDatasetPath := none }
    walletMonitorEnabled := false }

/-- Dependencies with an injective stand-in for the digest. -/
def sampleDeps (live : Bool) : Deps :=
  { config := sampleConfig
    live
    signerPubkey := some "owner"
    sha256 := fun bytes => String.ofList (bytes.map fun b => Char.ofNat b.toNat) }

/-- A quote for what was asked, at one for one. -/
def sampleQuote (inputMint outputMint : String) (amount : UInt64) : Quote :=
  { inputMint, outputMint, inputAmount := amount, outputAmount := amount, priceImpactBps := 0
    route := "", observedAt := 0 }

/-- Answers of an outside world that quotes one for one and executes what is submitted. -/
def sampleAnswer : (o : Op) → Res o
  | .positions => .ok []
  | .savePosition .. => .ok ()
  | .reserveOrder .. => .ok true
  | .updateOrder .. => .ok ()
  | .incompleteOrders => .ok ⟨[], by simp⟩
  | .orders => .ok []
  | .fillTransaction t => (.ok (), t.order)
  | .unaccountedFill .. => .ok ()
  | .setLastLiquidity .. => .ok ()
  | .lastLiquidity _ => .ok none
  | .isSignalInvalidated _ => .ok false
  | .emergencyStop => .ok none
  | .killSwitchReason => .ok none
  | .latchKillSwitch _ => .ok ()
  | .getDay => .ok none
  | .getDayStartEquity => .ok none
  | .getTradesToday => .ok none
  | .putDay _ => .ok ()
  | .putDayStartEquity _ => .ok ()
  | .putTradesToday _ => .ok ()
  | .now => (0 : Time)
  | .instant => (0 : Time)
  | .newUuid => "order-1"
  | .hashOrder keys => ⟨keys, .refl keys⟩
  | .parseU64 _ => ⟨none, by simp⟩
  | .parseU32 _ => ⟨none, by simp⟩
  | .quote i o a _ => .ok (sampleQuote i o a)
  | .execute r => .ok (swapFill r.orderId r.quote.inputAmount r.quote.outputAmount 10 0)
  | .registerQuote _ => ()
  | .tokenBalances _ => .ok []
  | .signatureStatus _ => .ok none
  | .transaction _ => .ok none
  | .fetchSolPriceUsd => .ok none
  | .newWalletMonitor => .error "disabled"
  | .walletMonitorTick => .ok []
  | .collectFromJsonl .. => []

/-- Everything goes well. -/
def sampleEnv : Env := { fault := none, txFaults := .none, clock := 0, answer := sampleAnswer }

/-- A position of 100 units bought for 10 USD. -/
def samplePosition : Position :=
  .ofEntry "token" "base" 0 0 "position-1" (swapFill "entry-1" 10 100 10 0) (1 / 10) 10
    "signal" someCostModel

/-- A store that holds the sample position and no orders. -/
def sampleDb : Db := Db.new.savePosition samplePosition

/-- The schedule that lets one program perform a number of operations in the sample world. -/
def sampleTurns (proc operations : ℕ) : List (Label Env) :=
  List.replicate operations ⟨proc, sampleEnv⟩

/-- The exit monitor and the operator's command on the sample store. -/
def sellingBot : Bot :=
  ⟨sampleDb, [runMonitor (sampleDeps false) 1,
    do let _ ← exitAllPositions (sampleDeps false); return ()]⟩

/-- The bot that sells runs tasks. -/
theorem sellingBot_runsTasks : sellingBot.RunsTasks := by
  intro t ht
  simp only [sellingBot, List.mem_cons, List.not_mem_nil, or_false] at ht
  rcases ht with rfl | rfl
  · exact .exitMonitor _ _
  · exact .exitAllPositions _

/-- The operator's turns, with an order identifier of its own. -/
def operatorTurns (operations : ℕ) : List (Label Env) :=
  List.replicate operations ⟨1, { sampleEnv with
    answer := fun
      | .newUuid => "order-2"
      | o => sampleAnswer o }⟩

end SolanaBot.Analysis
