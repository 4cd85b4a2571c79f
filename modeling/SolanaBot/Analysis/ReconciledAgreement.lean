import Mathlib.Tactic.Linarith
import SolanaBot.Analysis.PersistenceFailures
import SolanaBot.Analysis.PositionLedger
import SolanaBot.Analysis.ReconciledFills

/-!
# Direct and reconciled fills

A submitted order gets its fill from the executor and persists it at once (`persistExit`,
`persistEntry`), or it is left `Unknown` and `recordReconciledFill` records the same fill later, from
the chain and the stored records only. Both start here from one store, in which the order is reserved.

Compared are the whole record of the position, up to timestamps and slippage, and the whole record of
the order (`Agree`). The reconciler closes a position with the error text of the order as its exit
reason, and it leaves that text in the order, where the direct path has the reason of the exit, or no
text for an entry. So an entry never agrees, and an exit agrees only with the right text
(`reconciled_agrees_iff`). The figures of the position and the confirmation of the order agree exactly
if the reconciler finds a record under the position id of the order that accounts for the fill. The
position id of an entry is new: for a first entry nothing is found, and its order stays `Unknown`
(`first_entry_unresolved`).
-/

set_option autoImplicit false

namespace SolanaBot.Analysis

open SolanaBot.Library SolanaBot.Model

/-! ## What is compared -/

/-- A position without its timestamps and without the slippage of its entries. -/
def unmeasured (p : Position) : Position :=
  { p with entrySlippageBps := none, lastReconciledAt := none, exitTime := none, entryTime := 0 }

/-- Two stores have the same record of a mint, up to what is not measured, and the same order. -/
structure Agree (db db' : Db) (mint id : String) : Prop where
  position : (db.positions.find? mint).map unmeasured = (db'.positions.find? mint).map unmeasured
  order : db.order id = db'.order id

/-- The books without the fees. -/
def Books.withoutFees (b : Books) : Books := { b with fees := 0 }

/-- The stored quantities, entry cost, state and profit of a mint. -/
def figures (db : Db) (mint : String) : Option Books :=
  (storedBooks db mint).map Books.withoutFees

/-- Whether an order is stored as confirmed. -/
def isOrderConfirmed (db : Db) (id : String) : Bool :=
  (db.order id).any fun o => o.state = .confirmed

/-- Two stores have the same figures of a mint, and an order is confirmed in both or in neither. -/
structure CountedAlike (db db' : Db) (mint id : String) : Prop where
  figures : figures db mint = figures db' mint
  order : isOrderConfirmed db id = isOrderConfirmed db' id

/-- The fill that the executor returns for what the chain shows. -/
structure FillOf (fill : Fill) (outcome : ChainSwapOutcome) (signature : String) (basis : ValueBasis)
    (inputDecimals outputDecimals : UInt8) : Prop where
  signature : fill.signature = signature
  input : fill.inputAmount = outcome.inputAmount
  output : fill.outputAmount = outcome.outputAmount
  feeLamports : fill.feeLamports = outcome.feeLamports
  priced : ∃ value, fill.inputValueUsd = some value ∧
    basis.priceFill outcome.inputAmount inputDecimals outcome.outputAmount outputDecimals =
      .ok (value, fill.priceUsd)

/-- The store after the order was left unknown, and reconciled later. -/
def reconciledDb (deps : Deps) (placed : OrderRecord) (outcome : ChainSwapOutcome)
    (signature detail : String) (env : ℕ → Env) (i : ℕ) (db : Db) : Db :=
  let order := unknownOrder placed (some signature) detail
  (Prog.run world env (ExceptT.run (recordReconciledFill deps order outcome signature)) i
    (db.updateOrder order)).2.1

/-- The first stored record with the position id of an order. -/
def recordOf (db : Db) (positionId : Option String) : Option Position :=
  positionId.bind fun pid => db.positions.rows.find? fun p => p.positionId = some pid

/-! ## Transactions without failures -/

section

variable {t : FillTransaction} {db : Db}

/-- Without failing statements the accounting decides. -/
theorem runFillTransaction_quiet (hlegal : t.order.state.canTransition .confirmed) :
    runFillTransaction .none t db =
      match (t.account db.loadPortfolio).1 with
      | .error e => ((.error e, t.order), db)
      | .ok () => ((.ok (), t.confirmed), t.applied db) := by
  have hsigned : t.signed.transition .confirmed = .ok t.confirmed := by
    have hstate : t.signed.state = t.order.state := rfl
    unfold OrderRecord.transition
    rw [hstate, if_neg (fun h => by rw [h] at hlegal; cases hlegal), if_pos hlegal]
    rfl
  have hfailure : t.failure .none db =
      if (t.account db.loadPortfolio).1.isOk = false then some .apply else none := by
    unfold FillTransaction.failure TxFaults.none
    rw [hsigned]
    rfl
  cases hok : (t.account db.loadPortfolio).1 with
  | ok u =>
      rw [hok, if_neg (by exact nofun)] at hfailure
      obtain ⟨-, -, hrun⟩ := runFillTransaction_applied hfailure
      exact hrun
  | error e =>
      unfold runFillTransaction TxFaults.none
      rcases haccount : t.account db.loadPortfolio with ⟨r, pf⟩
      rw [haccount] at hok
      obtain rfl : r = .error e := hok
      rfl

/-- The position that a successful transaction stores. -/
theorem position_applied {p : Position}
    (h : (t.account db.loadPortfolio).2.position t.mint = some p) :
    (t.applied db).positions.find? t.mint = some p := by
  unfold FillTransaction.applied
  simp only [h, Db.positions_updateOrder]
  rw [find?_savePosition, if_pos (Portfolio.mint_of_position h).symm]

/-- An order that is updated by its own record is that record. -/
theorem order_updateOrder_self {order stored : OrderRecord} (h : db.order order.id = some stored) :
    (db.updateOrder order).order order.id = some order := by
  rw [Db.order_updateOrder, if_pos rfl, h, Option.map_some]

end

/-! ## Sales -/

/-- Why a sale is not accounted for, if it is not. -/
def exitRefusal (p : Position) (remaining sold : UInt64) : Option String :=
  if remaining < sold then
    some ("exit sold " ++ toString sold ++ " exceeds remaining " ++ toString remaining)
  else if p.entryCostUsd = none then some "position lacks entry cost basis"
  else if p.quantity = 0 then some "position has zero entry quantity"
  else none

/-- The profit of a sale. -/
def realizedBy (p : Position) (fill : Fill) (value : Decimal) : Decimal :=
  value - p.entryCostUsd.getD 0 * dec fill.inputAmount / p.quantity - fill.feesUsd

section

variable {pf : Portfolio} {mint reason reason' : String} {p : Position} {remaining : UInt64}
  {fill fill' : Fill} {value : Decimal} {now now' : Time}

/-- A sale with a value is refused for the reason that is named, or sells. -/
theorem applyExit_eq (hp : pf.position mint = some p)
    (hremaining : p.remainingQuantityAtomic = some remaining)
    (hvalue : fill.inputValueUsd = some value) :
    match exitRefusal p remaining fill.inputAmount with
    | some e => (pf.applyExit mint fill reason now).1 = .error e
    | none => (pf.applyExit mint fill reason now).1.isOk = true ∧
        (pf.applyExit mint fill reason now).2.position mint =
          some (p.afterExit fill (remaining - fill.inputAmount) (realizedBy p fill value) reason now) := by
  have hmint := Portfolio.mint_of_position hp
  unfold exitRefusal Portfolio.applyExit
  simp only [hp, hremaining, hvalue, checkedSub]
  by_cases hless : remaining < fill.inputAmount
  · rw [if_pos hless, if_neg (UInt64.not_le.mpr hless)]
  rw [if_neg hless, if_pos (UInt64.not_lt.mp hless)]
  dsimp only
  cases hcost : p.entryCostUsd with
  | none => simp
  | some cost =>
      by_cases hquantity : p.quantity = 0
      · simp [hquantity]
      · simp only [reduceCtorEq, if_false, hquantity]
        refine ⟨rfl, ?_⟩
        rw [Portfolio.position_put, Position.afterExit_mint, if_pos hmint.symm]
        unfold realizedBy
        rw [hcost]
        rfl

/-- Two sales of one quantity leave the same figures exactly if their profits are equal. -/
theorem books_afterExit_iff (p : Position) (newRemaining : UInt64) (realized realized' : Decimal) :
    (books (p.afterExit fill newRemaining realized reason now)).withoutFees =
        (books (p.afterExit fill' newRemaining realized' reason' now')).withoutFees ↔
      realized = realized' := by
  unfold Position.afterExit Books.withoutFees books
  by_cases hzero : newRemaining = 0
  · simp [hzero]
  · simp [hzero]

/-- They leave the same record exactly if their profits and their marks are equal, and the reasons too
where the position is closed. -/
theorem unmeasured_afterExit_iff (p : Position) (newRemaining : UInt64) (realized realized' : Decimal)
    (hfees : fill.feesUsd = fill'.feesUsd) (hsignature : fill.signature = fill'.signature) :
    unmeasured (p.afterExit fill newRemaining realized reason now) =
        unmeasured (p.afterExit fill' newRemaining realized' reason' now') ↔
      realized = realized' ∧ max p.highWaterPriceUsd fill.priceUsd =
          max p.highWaterPriceUsd fill'.priceUsd ∧
        fill.priceUsd * dec newRemaining = fill'.priceUsd * dec newRemaining ∧
        (newRemaining = 0 → reason = reason') := by
  unfold Position.afterExit unmeasured
  by_cases hzero : newRemaining = 0
  · simp [hzero, hfees, hsignature]
    tauto
  · simp [hzero, hfees]
    tauto

end

/-! ## Exits -/

/-- The store after the direct path persisted the fill of an exit. -/
def directExitDb (deps : Deps) (fill : Fill) (placed : OrderRecord) (position : Position)
    (mint reason : String) (pf : Portfolio) (env : ℕ → Env) (i : ℕ) (db : Db) : Db :=
  (Prog.run world env (persistExit deps fill placed (some position) mint reason pf) i db).2.1

/-- An exit of the stored position of a mint that was reserved and submitted. -/
structure ExitSubmitted (db : Db) (mint reason : String) (position : Position) (remaining : UInt64)
    (terms : ExitTerms) (placed : OrderRecord) : Prop where
  target : exitTarget db.positions.rows mint = .ok (position, remaining)
  sellable : exitTerms position = .ok terms
  ordered : ∃ id key value created, placed =
    { exitOrder id position mint reason key remaining terms value created with state := .submitted }
  reserved : (db.order placed.id).isSome

/-- What a record knows to price a sale. -/
structure SaleTerms (f : Position) (basePrice : Decimal) (baseDecimals tokenDecimals : UInt8) :
    Prop where
  price : f.baseEntryPriceUsd = some basePrice
  base : f.baseMintDecimals = some baseDecimals
  token : f.tokenDecimals = some tokenDecimals
  baseInRange : baseDecimals.toNat < 20
  tokenInRange : tokenDecimals.toNat < 20

/-- The value in USD of what a sale received. -/
def proceedsOf (basePrice : Decimal) (baseDecimals : UInt8) (outcome : ChainSwapOutcome) : Decimal :=
  dec outcome.outputAmount / 10 ^ baseDecimals.toNat * basePrice

/-- The price in USD of one token that was sold. -/
def salePrice (basePrice : Decimal) (baseDecimals tokenDecimals : UInt8)
    (outcome : ChainSwapOutcome) : Decimal :=
  proceedsOf basePrice baseDecimals outcome /
    (dec outcome.inputAmount / 10 ^ tokenDecimals.toNat)

/-- A record prices a sale, and values the smallest unit of the base as the sold position does, if
anything was received. -/
def PaysAlike (f : Position) (terms : ExitTerms) (outcome : ChainSwapOutcome) : Prop :=
  ∃ basePrice baseDecimals tokenDecimals, SaleTerms f basePrice baseDecimals tokenDecimals ∧
    (outcome.outputAmount = 0 ∨
      basePrice / 10 ^ baseDecimals.toNat = terms.basePrice / 10 ^ terms.baseDecimals.toNat)

/-- It also gives the sold token the price that the sold position gives it, or the position is closed
and neither price is above its high-water mark. -/
def MarksAlike (f p : Position) (remaining : UInt64) (terms : ExitTerms) (outcome : ChainSwapOutcome) :
    Prop :=
  ∃ basePrice baseDecimals tokenDecimals, SaleTerms f basePrice baseDecimals tokenDecimals ∧
    (outcome.outputAmount = 0 ∨
      basePrice / 10 ^ baseDecimals.toNat = terms.basePrice / 10 ^ terms.baseDecimals.toNat) ∧
    (salePrice basePrice baseDecimals tokenDecimals outcome =
        salePrice terms.basePrice terms.baseDecimals terms.tokenDecimals outcome ∨
      outcome.inputAmount = remaining ∧
        salePrice basePrice baseDecimals tokenDecimals outcome ≤ p.highWaterPriceUsd ∧
        salePrice terms.basePrice terms.baseDecimals terms.tokenDecimals outcome ≤
          p.highWaterPriceUsd)

/-- The position that is sold marks like itself. -/
theorem MarksAlike.refl {p : Position} {terms : ExitTerms} (hterms : exitTerms p = .ok terms)
    (hbase : terms.baseDecimals.toNat < 20) (htoken : terms.tokenDecimals.toNat < 20)
    (remaining : UInt64) (outcome : ChainSwapOutcome) : MarksAlike p p remaining terms outcome := by
  unfold exitTerms at hterms
  cases hprice : p.baseEntryPriceUsd with
  | none => simp [hprice] at hterms
  | some basePrice =>
      cases hbd : p.baseMintDecimals with
      | none => simp [hprice, hbd] at hterms
      | some baseDecimals =>
          cases htd : p.tokenDecimals with
          | none => simp [hprice, hbd, htd] at hterms
          | some tokenDecimals =>
              cases hmint : p.baseMint with
              | none => simp [hprice, hbd, htd, hmint] at hterms
              | some baseMint =>
                  simp only [hprice, hbd, htd, hmint, Except.ok.injEq] at hterms
                  subst hterms
                  exact ⟨basePrice, baseDecimals, tokenDecimals, ⟨hprice, hbd, htd, hbase, htoken⟩,
                    .inr rfl, .inl rfl⟩

/-- A record that marks alike pays alike. -/
theorem MarksAlike.pays {f p : Position} {remaining : UInt64} {terms : ExitTerms}
    {outcome : ChainSwapOutcome} (h : MarksAlike f p remaining terms outcome) :
    PaysAlike f terms outcome := by
  obtain ⟨basePrice, baseDecimals, tokenDecimals, hknown, hrate, -⟩ := h
  exact ⟨basePrice, baseDecimals, tokenDecimals, hknown, hrate⟩

/-- Two rates give the same proceeds exactly if nothing was received or they are equal. -/
theorem proceedsOf_eq_iff (basePrice basePrice' : Decimal) (baseDecimals baseDecimals' : UInt8)
    (outcome : ChainSwapOutcome) :
    proceedsOf basePrice baseDecimals outcome = proceedsOf basePrice' baseDecimals' outcome ↔
      outcome.outputAmount = 0 ∨
        basePrice / 10 ^ baseDecimals.toNat = basePrice' / 10 ^ baseDecimals'.toNat := by
  have hdec : dec outcome.outputAmount = 0 ↔ outcome.outputAmount = 0 := by
    unfold dec
    rw [Nat.cast_eq_zero, ← UInt64.toNat_zero, UInt64.toNat_inj]
  have hswap : ∀ (n : ℕ) (q : Decimal), dec outcome.outputAmount / 10 ^ n * q =
      dec outcome.outputAmount * (q / 10 ^ n) := by
    intro n q
    rw [div_mul_eq_mul_div, mul_div_assoc]
  unfold proceedsOf
  rw [hswap, hswap, mul_eq_mul_left_iff, hdec]
  exact or_comm

section

variable {deps : Deps} {db : Db} {mint reason detail signature : String} {position : Position}
  {remaining : UInt64} {terms : ExitTerms} {placed : OrderRecord} {outcome : ChainSwapOutcome}
  {fill : Fill} {env : ℕ → Env}

/-- What the reconciler takes from a record for an exit. -/
theorem reconciledTerms_exit_iff {order : OrderRecord} {found : Option Position}
    {known : ReconciledTerms} (hkind : order.kind = .exit) (hvalue : order.inputValueUsd.isSome)
    (hamount : outcome.inputAmount ≠ 0) :
    reconciledTerms order outcome found = some known ↔
      ∃ f basePrice baseDecimals tokenDecimals, found = some f ∧
        SaleTerms f basePrice baseDecimals tokenDecimals ∧
        known = ⟨f, tokenDecimals, baseDecimals, proceedsOf basePrice baseDecimals outcome,
          salePrice basePrice baseDecimals tokenDecimals outcome⟩ := by
  obtain ⟨v, hv⟩ := Option.isSome_iff_exists.mp hvalue
  unfold reconciledTerms
  simp only [Option.bind_eq_bind, Option.bind_eq_some_iff, hkind, hv, Option.map_eq_some_iff]
  constructor
  · rintro ⟨f, hf, _, -, td, htd, bd, hbd, _, ⟨bp, hbp, rfl⟩, hpriced⟩
    split at hpriced
    · rename_i value price hfill
      cases hpriced
      obtain ⟨htoken, hbase, -⟩ := (ValueBasis.priceFill_isOk_iff _ _ _ _ _).mp ⟨_, hfill⟩
      rw [ValueBasis.priceFill_outputUnitPriceUsd_eq htoken hbase hamount] at hfill
      cases hfill
      exact ⟨f, bp, bd, td, hf, ⟨hbp, hbd, htd, hbase, htoken⟩, rfl⟩
    · cases hpriced
  · rintro ⟨f, bp, bd, td, hf, hknown, rfl⟩
    refine ⟨f, hf, v, rfl, td, hknown.token, bd, hknown.base, _,
      ⟨bp, hknown.price, rfl⟩, ?_⟩
    rw [ValueBasis.priceFill_outputUnitPriceUsd_eq hknown.tokenInRange hknown.baseInRange hamount]
    rfl

/-- The order that is left unknown. -/
theorem unknownOrder_submitted (hsubmitted : placed.state = .submitted) :
    unknownOrder placed (some signature) detail =
      { placed with state := .unknown, signature := some signature, error := some detail } := by
  unfold unknownOrder OrderRecord.transitionOrKeep OrderRecord.transition
  rw [hsubmitted]
  rfl

/-- The reconciler's run when nothing fails. -/
theorem recordReconciledFill_quiet (deps : Deps) (db : Db) (outcome : ChainSwapOutcome)
    (order : OrderRecord) (hquiet : Quiet env) (signature : String) (i : ℕ) :
    ∃ now now', (Prog.run world env (ExceptT.run (recordReconciledFill deps order outcome signature))
        i db).2.1 =
      match reconciledTerms order outcome (recordOf db order.positionId) with
      | none => db
      | some terms =>
          if order.kind = .entry ∧ terms.position.entryCostModel.isNone then
            (recordUnaccountedFill .none
              (reconciledFill deps order outcome signature terms now) order db).2
          else
            (runFillTransaction .none (reconciledTransaction order terms
              (reconciledFill deps order outcome signature terms now) now') db).2 := by
  refine ⟨(env (i + lookups order)).clock, (env (i + lookups order + 1)).clock, ?_⟩
  have hfound : foundPosition (env i) db order = recordOf db order.positionId := by
    unfold foundPosition recordOf
    rw [(hquiet i).1]
    cases order.positionId <;> rfl
  rw [recordReconciledFill_run, hfound]
  cases reconciledTerms order outcome (recordOf db order.positionId) with
  | none => rfl
  | some terms =>
      dsimp only
      rw [(hquiet _).2, (hquiet _).2]
      split <;> rfl

/-- The order that was left unknown is stored, and the reconciler looks for the record of its
position. -/
theorem reconciledDb_quiet (deps : Deps) (hsubmitted : placed.state = .submitted)
    (hreserved : (db.order placed.id).isSome) (outcome : ChainSwapOutcome) (hquiet : Quiet env)
    (signature detail : String) (i : ℕ) :
    ∃ order now now', { placed with
          state := .unknown, signature := some signature, error := some detail } = order ∧
      (db.updateOrder order).order placed.id = some order ∧
      reconciledDb deps placed outcome signature detail env i db =
        match reconciledTerms order outcome (recordOf db placed.positionId) with
        | none => db.updateOrder order
        | some terms =>
            if order.kind = .entry ∧ terms.position.entryCostModel.isNone then
              (recordUnaccountedFill .none
                (reconciledFill deps order outcome signature terms now) order (db.updateOrder order)).2
            else
              (runFillTransaction .none (reconciledTransaction order terms
                (reconciledFill deps order outcome signature terms now) now')
                (db.updateOrder order)).2 := by
  obtain ⟨stored, hstored⟩ := Option.isSome_iff_exists.mp hreserved
  unfold reconciledDb
  dsimp only
  rw [unknownOrder_submitted hsubmitted]
  generalize hleft : ({ placed with
    state := .unknown, signature := some signature, error := some detail } : OrderRecord) = order
  have hid : order.id = placed.id := by rw [← hleft]
  have hpositionId : order.positionId = placed.positionId := by rw [← hleft]
  have hrecord : recordOf (db.updateOrder order) order.positionId = recordOf db placed.positionId := by
    unfold recordOf
    rw [Db.positions_updateOrder, hpositionId]
  have hunknown : (db.updateOrder order).order placed.id = some order := by
    rw [← hid]
    exact order_updateOrder_self (by rw [hid]; exact hstored)
  obtain ⟨now, now', hrun⟩ := recordReconciledFill_quiet deps (db.updateOrder order) outcome order
    hquiet signature i
  rw [hrecord] at hrun
  exact ⟨order, now, now', rfl, hunknown, hrun⟩

/-- An accounting that is a sale from the record `p` refuses it or stores what is left. -/
theorem account_sale (t : FillTransaction) (pf pf' : Portfolio) (reason : String) (now : Time)
    {p : Position} {value : Decimal} (haccount : t.account pf =
      ((pf'.applyExit t.mint t.fill reason now).1.map fun _ => (),
        (pf'.applyExit t.mint t.fill reason now).2))
    (hp : pf'.position t.mint = some p) (hremaining : p.remainingQuantityAtomic = some remaining)
    (hvalue : t.fill.inputValueUsd = some value) :
    match exitRefusal p remaining t.fill.inputAmount with
    | some e => (t.account pf).1 = .error e
    | none => (t.account pf).1 = .ok () ∧ (t.account pf).2.position t.mint =
        some (p.afterExit t.fill (remaining - t.fill.inputAmount) (realizedBy p t.fill value) reason
          now) := by
  have hsale := @applyExit_eq _ _ reason _ _ _ _ now hp hremaining hvalue
  rw [haccount]
  cases hrefusal : exitRefusal p remaining t.fill.inputAmount with
  | some e =>
      rw [hrefusal] at hsale
      dsimp only at hsale ⊢
      rw [hsale]
      rfl
  | none =>
      rw [hrefusal] at hsale
      refine ⟨?_, hsale.2⟩
      cases hr : (pf'.applyExit t.mint t.fill reason now).1 with
      | ok out => rfl
      | error e =>
          have hok := hsale.1
          rw [hr] at hok
          cases hok

/-- The position that is to be sold. -/
theorem ExitSubmitted.found (h : ExitSubmitted db mint reason position remaining terms placed) :
    db.positions.find? mint = some position :=
  (exitTarget_ok h.target).1

/-- **The direct path of an exit.** The sale is accounted for and the order confirmed, or the order is
left unknown with the reason why not. -/
theorem directExit_spec (h : ExitSubmitted db mint reason position remaining terms placed)
    (hfill : FillOf fill outcome signature (.outputUnitPriceUsd terms.basePrice) terms.tokenDecimals
      terms.baseDecimals) (hquiet : Quiet env) (pf : Portfolio) (i : ℕ) :
    match exitRefusal position remaining outcome.inputAmount with
    | some e =>
        (directExitDb deps fill placed position mint reason pf env i db).positions = db.positions ∧
        (directExitDb deps fill placed position mint reason pf env i db).order placed.id =
          some { placed with
            state := .unknown, signature := some signature
            error := some ("atomic persistence failed: " ++ e) }
    | none => ∃ sold now, sold.feesUsd = feeUsd outcome.feeLamports deps.config.economics.solPriceUsd ∧
        sold.signature = signature ∧ sold.inputAmount = outcome.inputAmount ∧
        sold.priceUsd = salePrice terms.basePrice terms.baseDecimals terms.tokenDecimals outcome ∧
        (directExitDb deps fill placed position mint reason pf env i db).positions.find? mint =
          some (position.afterExit sold (remaining - outcome.inputAmount)
            (realizedBy position sold (proceedsOf terms.basePrice terms.baseDecimals outcome)) reason
            now) ∧
        (directExitDb deps fill placed position mint reason pf env i db).order placed.id =
          some { placed with state := .confirmed, signature := some signature } := by
  obtain ⟨value, hvalue, hpriced⟩ := hfill.priced
  obtain ⟨htoken, hbase, hamount⟩ := (ValueBasis.priceFill_isOk_iff _ _ _ _ _).mp ⟨_, hpriced⟩
  rw [ValueBasis.priceFill_outputUnitPriceUsd_eq htoken hbase hamount] at hpriced
  obtain ⟨rfl, hprice⟩ := Prod.mk.inj (Except.ok.inj hpriced)
  obtain ⟨stored, hstored⟩ := Option.isSome_iff_exists.mp h.reserved
  have hmint : position.mint = mint := (exitTarget_ok h.target).2.1
  have hsubmitted : placed.state = .submitted := by
    obtain ⟨id, key, v, created, rfl⟩ := h.ordered
    rfl
  have hfinal : (finalizeFill fill deps.config.economics.solPriceUsd).feesUsd =
      feeUsd outcome.feeLamports deps.config.economics.solPriceUsd :=
    congrArg (feeUsd · _) hfill.feeLamports
  have hinput : (finalizeFill fill deps.config.economics.solPriceUsd).inputAmount =
      outcome.inputAmount := hfill.input
  generalize hsold : finalizeFill fill deps.config.economics.solPriceUsd = sold at hfinal hinput
  have hsignature : sold.signature = signature := by
    rw [← hsold]
    exact hfill.signature
  generalize ht : exitTransaction sold placed (some position) mint reason (env i).clock = t
  have horder : t.order = placed := by rw [← ht]; rfl
  have htfill : t.fill = sold := by rw [← ht]; rfl
  have hrun : directExitDb deps fill placed position mint reason pf env i db =
      match (t.account db.loadPortfolio).1 with
      | .error e => db.updateOrder (unpersistedOrder placed sold e)
      | .ok () => t.applied db := by
    unfold directExitDb persistExit
    rw [hsold]
    dsimp only
    rw [Prog.run_bind, clock_run, Prog.run_bind, fillTransaction_run, (hquiet _).2]
    dsimp only
    rw [ht, runFillTransaction_quiet (by rw [horder, hsubmitted]; rfl)]
    cases (t.account db.loadPortfolio).1 with
    | ok u => rfl
    | error e =>
        dsimp only
        rw [Prog.run_bind, storeUpdateOrderLogged_run, horder]
        unfold updatedDb
        rw [(hquiet _).1]
        rfl
  have haccount := account_sale t db.loadPortfolio (db.loadPortfolio.syncPosition position) reason
    (env i).clock (by rw [← ht]; rfl)
    (by rw [← ht]; exact hmint ▸ Table.find?_put_self _ position)
    (exitTarget_remaining h.target) (by rw [htfill, ← hsold]; exact hvalue)
  rw [htfill, hinput] at haccount
  rw [hrun]
  cases hrefusal : exitRefusal position remaining outcome.inputAmount with
  | some e =>
      rw [hrefusal] at haccount
      dsimp only at haccount ⊢
      rw [haccount]
      dsimp only
      have hleft : unpersistedOrder placed sold e =
          { placed with
            state := .unknown, signature := some signature
            error := some ("atomic persistence failed: " ++ e) } := by
        unfold unpersistedOrder OrderRecord.transitionOrKeep OrderRecord.transition
        rw [hsubmitted, hsignature]
        rfl
      rw [hleft]
      exact ⟨Db.positions_updateOrder _ _, @order_updateOrder_self db { placed with
        state := .unknown, signature := some signature
        error := some ("atomic persistence failed: " ++ e) } stored hstored⟩
  | none =>
      rw [hrefusal] at haccount
      obtain ⟨hok, hposition⟩ := haccount
      rw [hok]
      refine ⟨sold, (env i).clock, hfinal, hsignature, hinput, ?_, ?_, ?_⟩
      · rw [← hsold]
        exact hprice.symm
      · have happlied := position_applied hposition
        rw [show t.mint = mint by rw [← ht]; rfl] at happlied
        exact happlied
      · have hconfirmed := @order_applied_eq t db _ (by rw [horder]; exact hstored)
        unfold FillTransaction.confirmed FillTransaction.signed at hconfirmed
        rw [horder, htfill, hsignature] at hconfirmed
        exact hconfirmed

/-- **The reconciler of an exit.** The sale is accounted for, with the text of the order as its reason,
if the position accepts it and a stored record prices it; otherwise the order stays as it was left. -/
theorem reconciledExit_spec (h : ExitSubmitted db mint reason position remaining terms placed)
    (hamount : outcome.inputAmount ≠ 0) (hquiet : Quiet env) (i : ℕ) :
    ((reconciledDb deps placed outcome signature detail env i db).positions = db.positions ∧
        (reconciledDb deps placed outcome signature detail env i db).order placed.id =
          some { placed with
            state := .unknown, signature := some signature, error := some detail } ∧
        ((exitRefusal position remaining outcome.inputAmount).isSome ∨
          ∀ f basePrice baseDecimals tokenDecimals, recordOf db position.positionId = some f →
            ¬ SaleTerms f basePrice baseDecimals tokenDecimals)) ∨
      ∃ sold now f basePrice baseDecimals tokenDecimals,
        exitRefusal position remaining outcome.inputAmount = none ∧
        recordOf db position.positionId = some f ∧
        SaleTerms f basePrice baseDecimals tokenDecimals ∧
        sold.feesUsd = feeUsd outcome.feeLamports deps.config.economics.solPriceUsd ∧
        sold.signature = signature ∧ sold.inputAmount = outcome.inputAmount ∧
        sold.priceUsd = salePrice basePrice baseDecimals tokenDecimals outcome ∧
        (reconciledDb deps placed outcome signature detail env i db).positions.find? mint =
          some (position.afterExit sold (remaining - outcome.inputAmount)
            (realizedBy position sold (proceedsOf basePrice baseDecimals outcome)) detail now) ∧
        (reconciledDb deps placed outcome signature detail env i db).order placed.id =
          some { placed with
            state := .confirmed, signature := some signature, error := some detail } := by
  obtain ⟨oid, key, v, created, hplaced⟩ := h.ordered
  obtain ⟨order, now, now', hleft, hunknown, hrun⟩ := reconciledDb_quiet deps (by rw [hplaced])
    h.reserved outcome hquiet signature detail i
  have hid : order.id = placed.id := by rw [← hleft]
  have hkind : order.kind = .exit := by rw [← hleft, hplaced]; rfl
  have hvalue : order.inputValueUsd.isSome := by rw [← hleft, hplaced]; rfl
  have hpositionId : placed.positionId = position.positionId := by rw [hplaced]; rfl
  have hmint : order.mint = mint := by rw [← hleft, hplaced]; rfl
  have herror : order.error = some detail := by rw [← hleft]
  rw [hpositionId] at hrun
  rw [hrun, hleft]
  cases hterms : reconciledTerms order outcome (recordOf db position.positionId) with
  | none =>
      refine .inl ⟨Db.positions_updateOrder _ _, hunknown, .inr ?_⟩
      intro f bp bd td hfound hknown
      have hsome := (reconciledTerms_exit_iff hkind hvalue hamount).mpr
        ⟨f, bp, bd, td, hfound, hknown, rfl⟩
      rw [hterms] at hsome
      cases hsome
  | some known =>
      obtain ⟨f, bp, bd, td, hfound, hknown, rfl⟩ :=
        (reconciledTerms_exit_iff hkind hvalue hamount).mp hterms
      dsimp only
      rw [if_neg (show ¬ (order.kind = .entry ∧ _) by rw [hkind]; exact nofun)]
      generalize hfill : reconciledFill deps order outcome signature _ now = sold
      generalize ht : reconciledTransaction order _ sold now' = t
      have horder : t.order = order := by rw [← ht]; rfl
      have htfill : t.fill = sold := by rw [← ht]; rfl
      have htmint : t.mint = mint := by rw [← ht]; exact hmint
      have hinput : sold.inputAmount = outcome.inputAmount := by rw [← hfill]; rfl
      have hsignature : sold.signature = signature := by rw [← hfill]; rfl
      have hworth : sold.inputValueUsd = some (proceedsOf bp bd outcome) := by rw [← hfill]; rfl
      have haccounting : t.accounting = .reconciledExit detail now' := by
        rw [← ht]
        unfold reconciledTransaction reconciledAccounting
        rw [hkind, herror]
        rfl
      have haccount := account_sale t (db.updateOrder order).loadPortfolio
        (db.updateOrder order).loadPortfolio detail now'
        (by unfold FillTransaction.account; rw [haccounting])
        (by rw [Db.position_loadPortfolio, Db.positions_updateOrder, htmint]; exact h.found)
        (exitTarget_remaining h.target) (by rw [htfill]; exact hworth)
      rw [htfill, hinput] at haccount
      rw [runFillTransaction_quiet (by rw [horder, ← hleft]; rfl)]
      cases hrefusal : exitRefusal position remaining outcome.inputAmount with
      | some e =>
          rw [hrefusal] at haccount
          dsimp only at haccount
          rw [haccount]
          exact .inl ⟨Db.positions_updateOrder _ _, hunknown, .inl rfl⟩
      | none =>
          rw [hrefusal] at haccount
          obtain ⟨hok, hposition⟩ := haccount
          rw [hok]
          refine .inr ⟨sold, now', f, bp, bd, td, rfl, hfound, hknown, by rw [← hfill]; rfl,
            hsignature, hinput, by rw [← hfill]; rfl, ?_, ?_⟩
          · have happlied := position_applied hposition
            rw [htmint] at happlied
            exact happlied
          · have hconfirmed := @order_applied_eq t (db.updateOrder order) _
              (by rw [horder, hid]; exact hunknown)
            unfold FillTransaction.confirmed FillTransaction.signed at hconfirmed
            rw [horder, htfill, hsignature, hid, ← hleft] at hconfirmed
            rw [← hleft]
            exact hconfirmed

/-- The price that a sale leaves on a record: the mark and the high-water mark. -/
theorem marks_eq_iff (high price price' : Decimal) (left : UInt64) :
    (max high price = max high price' ∧ price * dec left = price' * dec left) ↔
      price = price' ∨ left = 0 ∧ price ≤ high ∧ price' ≤ high := by
  have hdec : dec left = 0 ↔ left = 0 := by
    unfold dec
    rw [Nat.cast_eq_zero, ← UInt64.toNat_zero, UInt64.toNat_inj]
  rw [mul_eq_mul_right_iff, hdec]
  constructor
  · rintro ⟨hmax, hsame | hleft⟩
    · exact .inl hsame
    · by_cases hsame : price = price'
      · exact .inl hsame
      · right
        refine ⟨hleft, ?_, ?_⟩
        · by_contra hgt
          rw [max_eq_right (not_le.mp hgt).le] at hmax
          rcases le_total high price' with hle | hle
          · rw [max_eq_right hle] at hmax
            exact hsame hmax
          · rw [max_eq_left hle] at hmax
            exact hgt hmax.le
        · by_contra hgt
          rw [max_eq_right (not_le.mp hgt).le] at hmax
          rcases le_total high price with hle | hle
          · rw [max_eq_right hle] at hmax
            exact hsame hmax
          · rw [max_eq_left hle] at hmax
            exact hgt hmax.ge
  · rintro (rfl | ⟨hleft, hle, hle'⟩)
    · exact ⟨rfl, .inl rfl⟩
    · exact ⟨by rw [max_eq_left hle, max_eq_left hle'], .inr hleft⟩

/-- Profits of one sale are equal exactly if the proceeds are. -/
theorem realizedBy_eq_iff {p : Position} {sold sold' : Fill} {value value' : Decimal}
    (hfees : sold.feesUsd = sold'.feesUsd) (hinput : sold.inputAmount = sold'.inputAmount) :
    realizedBy p sold value = realizedBy p sold' value' ↔ value = value' := by
  unfold realizedBy
  rw [hfees, hinput]
  constructor
  · intro heq
    linarith
  · rintro rfl
    rfl

/-- Two sales of one part of a record, each at its own rate. -/
structure SoldAlike (outcome : ChainSwapOutcome) (sold sold' : Fill) : Prop where
  fees : sold.feesUsd = sold'.feesUsd
  signature : sold.signature = sold'.signature
  input : sold.inputAmount = outcome.inputAmount
  input' : sold'.inputAmount = outcome.inputAmount

/-- The rates of two sales give the same figures. -/
theorem realized_sold_iff {sold sold' : Fill} (h : SoldAlike outcome sold sold') (p : Position)
    (bp bp' : Decimal) (bd bd' : UInt8) :
    realizedBy p sold (proceedsOf bp bd outcome) = realizedBy p sold' (proceedsOf bp' bd' outcome) ↔
      outcome.outputAmount = 0 ∨ bp' / 10 ^ bd'.toNat = bp / 10 ^ bd.toNat := by
  rw [realizedBy_eq_iff h.fees (h.input.trans h.input'.symm), eq_comm, proceedsOf_eq_iff]

/-- What is left is nothing exactly if all was sold. -/
theorem left_eq_zero_iff (remaining sold : UInt64) : remaining - sold = 0 ↔ sold = remaining := by
  constructor
  · intro hzero
    grind
  · rintro rfl
    exact UInt64.sub_self _

/-- The records that two sales leave are the same exactly if their rates and marks are, and their
reasons where the position is closed. -/
theorem unmeasured_sold_iff {sold sold' : Fill} (h : SoldAlike outcome sold sold') (p : Position)
    {bp bp' : Decimal} {bd bd' td td' : UInt8} (hprice : sold.priceUsd = salePrice bp bd td outcome)
    (hprice' : sold'.priceUsd = salePrice bp' bd' td' outcome) (now now' : Time) :
    unmeasured (p.afterExit sold (remaining - outcome.inputAmount)
          (realizedBy p sold (proceedsOf bp bd outcome)) reason now) =
        unmeasured (p.afterExit sold' (remaining - outcome.inputAmount)
          (realizedBy p sold' (proceedsOf bp' bd' outcome)) detail now') ↔
      (outcome.outputAmount = 0 ∨ bp' / 10 ^ bd'.toNat = bp / 10 ^ bd.toNat) ∧
        (salePrice bp' bd' td' outcome = salePrice bp bd td outcome ∨
          outcome.inputAmount = remaining ∧ salePrice bp' bd' td' outcome ≤ p.highWaterPriceUsd ∧
            salePrice bp bd td outcome ≤ p.highWaterPriceUsd) ∧
        (outcome.inputAmount = remaining → reason = detail) := by
  have hmarks := marks_eq_iff p.highWaterPriceUsd sold'.priceUsd sold.priceUsd
    (remaining - outcome.inputAmount)
  rw [hprice, hprice', left_eq_zero_iff] at hmarks
  rw [unmeasured_afterExit_iff p _ _ _ h.fees h.signature, realized_sold_iff h, hprice, hprice',
    left_eq_zero_iff, ← hmarks]
  constructor
  · rintro ⟨hrate, hhigh, hvalue, hreason⟩
    exact ⟨hrate, ⟨hhigh.symm, hvalue.symm⟩, hreason⟩
  · rintro ⟨hrate, ⟨hhigh, hvalue⟩, hreason⟩
    exact ⟨hrate, hhigh.symm, hvalue.symm, hreason⟩

/-- When an exit agrees: the direct path refuses the sale in the words that the order was left with, or
it was left with the reason of the exit and the record under its position id pays and marks like the
sold position. -/
def ExitReconcilable (db : Db) (reason detail : String) (position : Position) (remaining : UInt64)
    (terms : ExitTerms) (outcome : ChainSwapOutcome) : Prop :=
  match exitRefusal position remaining outcome.inputAmount with
  | some e => detail = "atomic persistence failed: " ++ e
  | none => detail = reason ∧ ∃ f, recordOf db position.positionId = some f ∧
      MarksAlike f position remaining terms outcome

/-- When the figures of an exit agree: the direct path refuses the sale, or the record under the
position id of the order pays like the sold position. -/
def ExitCountable (db : Db) (position : Position) (remaining : UInt64) (terms : ExitTerms)
    (outcome : ChainSwapOutcome) : Prop :=
  (exitRefusal position remaining outcome.inputAmount).isSome ∨
    ∃ f, recordOf db position.positionId = some f ∧ PaysAlike f terms outcome

/-- An exit agrees exactly if it is reconcilable, and its figures agree exactly if it is countable. -/
theorem exit_agrees_iff {env' : ℕ → Env}
    (h : ExitSubmitted db mint reason position remaining terms placed)
    (hfill : FillOf fill outcome signature (.outputUnitPriceUsd terms.basePrice) terms.tokenDecimals
      terms.baseDecimals) (hquiet : Quiet env) (hquiet' : Quiet env') (detail : String)
    (pf : Portfolio) (i j : ℕ) :
    (Agree (directExitDb deps fill placed position mint reason pf env i db)
        (reconciledDb deps placed outcome signature detail env' j db) mint placed.id ↔
      ExitReconcilable db reason detail position remaining terms outcome) ∧
    (CountedAlike (directExitDb deps fill placed position mint reason pf env i db)
        (reconciledDb deps placed outcome signature detail env' j db) mint placed.id ↔
      ExitCountable db position remaining terms outcome) := by
  obtain ⟨value, -, hpriced⟩ := hfill.priced
  obtain ⟨-, -, hamount⟩ := (ValueBasis.priceFill_isOk_iff _ _ _ _ _).mp ⟨_, hpriced⟩
  have hdirect := @directExit_spec deps _ _ _ _ _ _ _ _ _ _ _ h hfill hquiet pf i
  have hlater := @reconciledExit_spec deps _ _ _ detail signature _ _ _ _ _ _ h
    hamount hquiet' j
  have herror : placed.error = some reason := by
    obtain ⟨id, key, v, created, rfl⟩ := h.ordered
    rfl
  generalize directExitDb deps fill placed position mint reason pf env i db = direct at hdirect ⊢
  generalize reconciledDb deps placed outcome signature detail env' j db = later at hlater ⊢
  unfold ExitReconcilable ExitCountable
  cases hrefusal : exitRefusal position remaining outcome.inputAmount with
  | some e =>
      rw [hrefusal] at hdirect hlater
      obtain ⟨hpositions, horder⟩ := hdirect
      obtain ⟨hpositions', horder', -⟩ | ⟨_, _, _, _, _, _, hnone, -⟩ := hlater
      swap
      · cases hnone
      dsimp only
      constructor
      · constructor
        · intro hagree
          have hsame := hagree.order
          rw [horder, horder', Option.some.injEq, OrderRecord.mk.injEq] at hsame
          simpa [eq_comm] using hsame
        · rintro rfl
          exact ⟨by rw [hpositions, hpositions'], by rw [horder, horder']⟩
      · refine iff_of_true ⟨?_, ?_⟩ (.inl rfl)
        · unfold figures storedBooks
          rw [hpositions, hpositions']
        · unfold isOrderConfirmed
          rw [horder, horder']
          rfl
  | none =>
      rw [hrefusal] at hdirect hlater
      obtain ⟨sold, now, hfees, hsignature, hinput, hprice, hposition, horder⟩ := hdirect
      dsimp only
      simp only [Option.isSome_none, Bool.false_eq_true, false_or]
      obtain ⟨-, horder', hnot⟩ | ⟨sold', now', f, bp, bd, td, -, hfound, hknown, hfees', hsignature',
        hinput', hprice', hposition', horder'⟩ := hlater
      · -- nothing was recorded: the order is confirmed in one store only
        have hnothing : ∀ f, recordOf db position.positionId = some f →
            ¬ PaysAlike f terms outcome := by
          rintro f hf ⟨bp, bd, td, hknown, -⟩
          exact (hnot.resolve_left nofun) f bp bd td hf hknown
        constructor
        · refine iff_of_false ?_ ?_
          · intro hagree
            have hsame := hagree.order
            rw [horder, horder', Option.some.injEq, OrderRecord.mk.injEq] at hsame
            simp at hsame
          · rintro ⟨-, f, hf, hmarks⟩
            exact hnothing f hf hmarks.pays
        · refine iff_of_false ?_ ?_
          · intro hsame
            have hconfirmed := hsame.order
            unfold isOrderConfirmed at hconfirmed
            rw [horder, horder'] at hconfirmed
            simp at hconfirmed
          · rintro ⟨f, hf, hpays⟩
            exact hnothing f hf hpays
      · -- both sold from the same record, each at its own rate
        have hsold : SoldAlike outcome sold sold' :=
          ⟨hfees.trans hfees'.symm, hsignature.trans hsignature'.symm, hinput, hinput'⟩
        have hunique : ∀ {f' bp' bd' td'}, recordOf db position.positionId = some f' →
            SaleTerms f' bp' bd' td' → bp' = bp ∧ bd' = bd ∧ td' = td := by
          intro f' bp' bd' td' hf' hknown'
          obtain rfl : f' = f := Option.some.inj (hf'.symm.trans hfound)
          exact ⟨Option.some.inj (hknown'.price.symm.trans hknown.price),
            Option.some.inj (hknown'.base.symm.trans hknown.base),
            Option.some.inj (hknown'.token.symm.trans hknown.token)⟩
        constructor
        · have horders : direct.order placed.id = later.order placed.id ↔ detail = reason := by
            rw [horder, horder', Option.some.injEq, OrderRecord.mk.injEq, herror]
            simp [eq_comm]
          have hpositions := @unmeasured_sold_iff reason detail remaining _ _ _ hsold position
            _ _ _ _ _ _ hprice hprice' now now'
          constructor
          · intro hagree
            have hreason := horders.mp hagree.order
            have hsame := hagree.position
            rw [hposition, hposition', Option.map_some, Option.map_some, Option.some.injEq,
              hpositions] at hsame
            exact ⟨hreason, f, hfound, bp, bd, td, hknown, hsame.1, hsame.2.1⟩
          · rintro ⟨hreason, f', hf', bp', bd', td', hknown', hrate, hmarks⟩
            obtain ⟨rfl, rfl, rfl⟩ := hunique hf' hknown'
            refine ⟨?_, horders.mpr hreason⟩
            rw [hposition, hposition', Option.map_some, Option.map_some, Option.some.injEq,
              hpositions]
            exact ⟨hrate, hmarks, fun _ => hreason.symm⟩
        · have hfigures : figures direct mint = figures later mint ↔
              (outcome.outputAmount = 0 ∨
                bp / 10 ^ bd.toNat = terms.basePrice / 10 ^ terms.baseDecimals.toNat) := by
            unfold figures storedBooks
            rw [hposition, hposition', Option.map_some, Option.map_some, Option.map_some,
              Option.map_some, Option.some.injEq, books_afterExit_iff, realized_sold_iff hsold]
          constructor
          · intro hsame
            exact ⟨f, hfound, bp, bd, td, hknown, hfigures.mp hsame.figures⟩
          · rintro ⟨f', hf', bp', bd', td', hknown', hrate⟩
            obtain ⟨rfl, rfl, rfl⟩ := hunique hf' hknown'
            refine ⟨hfigures.mpr hrate, ?_⟩
            unfold isOrderConfirmed
            rw [horder, horder']
            rfl

end

/-! ## Entries -/

/-- The store after the direct path persisted the fill of an entry. -/
def directEntryDb (deps : Deps) (ctx : EntryContext) (fill : Fill) (placed : OrderRecord)
    (minOutputAmount : UInt64) (env : ℕ → Env) (i : ℕ) (s : SessionState) (db : Db) : Db :=
  (Prog.runS world env (persistEntry deps ctx fill placed minOutputAmount) i s db).2.1

/-- An entry that was reserved and submitted. -/
structure EntrySubmitted (deps : Deps) (db : Db) (ctx : EntryContext) (placed : OrderRecord) : Prop where
  ordered : ∃ id created, placed = { entryOrder deps ctx id created with state := .submitted }
  reserved : (db.order placed.id).isSome

/-- When the figures of an entry agree: a record is stored under the position id of the order, with
decimals, a cost model and a base mint. -/
def EntryCountable (db : Db) (ctx : EntryContext) : Prop :=
  ∃ f baseDecimals tokenDecimals, recordOf db (some ctx.positionId) = some f ∧
    f.baseMintDecimals = some baseDecimals ∧ f.tokenDecimals = some tokenDecimals ∧
    baseDecimals.toNat < 20 ∧ tokenDecimals.toNat < 20 ∧ f.entryCostModel.isSome ∧ f.baseMint.isSome

section

variable {deps : Deps} {db : Db} {ctx : EntryContext} {detail signature : String}
  {placed : OrderRecord} {outcome : ChainSwapOutcome} {fill : Fill} {env : ℕ → Env}

/-- What the reconciler takes from a record for an entry: the value that the order was reserved with. -/
theorem reconciledTerms_entry_iff {order : OrderRecord} {found : Option Position} {value : Decimal}
    {known : ReconciledTerms} (hkind : order.kind = .entry) (hvalue : order.inputValueUsd = some value)
    (hamount : outcome.outputAmount ≠ 0) :
    reconciledTerms order outcome found = some known ↔
      ∃ f baseDecimals tokenDecimals, found = some f ∧ f.baseMintDecimals = some baseDecimals ∧
        f.tokenDecimals = some tokenDecimals ∧ baseDecimals.toNat < 20 ∧ tokenDecimals.toNat < 20 ∧
        known = ⟨f, tokenDecimals, baseDecimals, value,
          value / (dec outcome.outputAmount / 10 ^ tokenDecimals.toNat)⟩ := by
  unfold reconciledTerms
  simp only [Option.bind_eq_bind, Option.bind_eq_some_iff, hkind, hvalue]
  constructor
  · rintro ⟨f, hf, _, hv, td, htd, bd, hbd, _, hbasis, hpriced⟩
    cases hv
    cases hbasis
    split at hpriced
    · rename_i v price hfill
      cases hpriced
      obtain ⟨hbase, htoken, -⟩ := (ValueBasis.priceFill_isOk_iff _ _ _ _ _).mp ⟨_, hfill⟩
      rw [ValueBasis.priceFill_inputValueUsd_eq hbase htoken hamount] at hfill
      cases hfill
      exact ⟨f, bd, td, hf, hbd, htd, hbase, htoken, rfl⟩
    · cases hpriced
  · rintro ⟨f, bd, td, hf, hbd, htd, hbase, htoken, rfl⟩
    refine ⟨f, hf, value, rfl, td, htd, bd, hbd, _, rfl, ?_⟩
    rw [ValueBasis.priceFill_inputValueUsd_eq hbase htoken hamount]

/-- An accounting for an entry goes through with a base mint, for a fill that has an output and a
value. -/
theorem account_entry_isOk_iff {t : FillTransaction} {baseMint : Option String}
    {tokenDecimals baseMintDecimals : UInt8} {positionId : String} {price : Decimal}
    {signalId : String} {costModel : CostModel}
    (h : t.accounting = .entry baseMint tokenDecimals baseMintDecimals positionId price signalId
      costModel) (pf : Portfolio) :
    (t.account pf).1 = .ok () ↔
      baseMint.isSome ∧ t.fill.outputAmount ≠ 0 ∧ t.fill.inputValueUsd.isSome := by
  unfold FillTransaction.account
  rw [h]
  cases baseMint with
  | none => exact iff_of_false nofun fun hall => by cases hall.1
  | some mint =>
      rw [Option.isSome_some, eq_self_iff_true, true_and]
      exact Portfolio.applyEntry_ok_iff ..

/-- The figures that an accepted entry leaves. -/
theorem figures_entered {t : FillTransaction} (hentry : t.accounting.isEntry = true)
    (hok : (t.account db.loadPortfolio).1 = .ok ()) :
    figures (t.applied db) t.mint =
      (Books.after ((db.positions.find? t.mint).map books) (.bought t.fill)).map
        Books.withoutFees := by
  have hcopy : ∀ p reason now, t.accounting = .exit (some p) reason now → p.mint = t.mint := by
    intro p reason now heq
    rw [heq] at hentry
    cases hentry
  have hrecord : accountedRecord t db = db.positions.find? t.mint := by
    unfold accountedRecord
    split
    · rename_i heq
      rw [heq] at hentry
      cases hentry
    · rfl
  obtain ⟨p, hp, hmoved, -⟩ := account_moved hcopy hok
  have hbooks := books_of_moved hmoved
  unfold fillMovement at hbooks
  rw [hrecord, if_pos hentry] at hbooks
  unfold figures storedBooks
  rw [position_applied hp, hbooks]
  rfl

/-- What a purchase makes of the figures depends on the quantity and the value. -/
theorem after_bought_congr {fill fill' : Fill} (houtput : fill.outputAmount = fill'.outputAmount)
    (hvalue : fill.inputValueUsd = fill'.inputValueUsd) (old : Option Books) :
    (Books.after old (.bought fill)).map Books.withoutFees =
      (Books.after old (.bought fill')).map Books.withoutFees := by
  unfold Books.after
  dsimp only
  rw [hvalue]
  cases fill'.inputValueUsd with
  | none => rfl
  | some v =>
      unfold Books.bought Books.withoutFees
      rw [houtput]
      cases old <;> rfl

/-- A failure that is counted leaves positions and orders alone. -/
theorem countFailure_keeps (env : ℕ → Env) (i : ℕ) (s : SessionState) (db : Db) :
    (Prog.runS world env countFailure i s db).2.1.positions = db.positions ∧
      (Prog.runS world env countFailure i s db).2.1.orders = db.orders := by
  unfold countFailure
  rw [Prog.runS_get_bind]
  dsimp only
  rw [Prog.runS_modify_bind]
  split
  · rw [orStop_run]
    change (statement (env i) ((), { db with killSwitch := some _ }) db).2.positions = _ ∧
      (statement (env i) ((), { db with killSwitch := some _ }) db).2.orders = _
    unfold statement
    cases (env i).fault <;> exact ⟨rfl, rfl⟩
  · exact ⟨rfl, rfl⟩

/-- **The direct path of an entry.** The purchase is accounted for and the order confirmed. -/
theorem directEntry_spec (h : EntrySubmitted deps db ctx placed)
    (hfill : FillOf fill outcome signature (.inputValueUsd ctx.positionUsd) ctx.baseMintDecimals
      ctx.tokenDecimals) (hquiet : Quiet env) (minOutputAmount : UInt64) (i : ℕ) (s : SessionState) :
    ∃ bought, bought.outputAmount = outcome.outputAmount ∧
      bought.inputValueUsd = some ctx.positionUsd ∧
      figures (directEntryDb deps ctx fill placed minOutputAmount env i s db) ctx.mint =
        (Books.after ((db.positions.find? ctx.mint).map books) (.bought bought)).map
          Books.withoutFees ∧
      (directEntryDb deps ctx fill placed minOutputAmount env i s db).order placed.id =
        some { placed with state := .confirmed, signature := some signature } := by
  obtain ⟨value, hvalue, hpriced⟩ := hfill.priced
  obtain ⟨hbase, htoken, hamount⟩ := (ValueBasis.priceFill_isOk_iff _ _ _ _ _).mp ⟨_, hpriced⟩
  rw [ValueBasis.priceFill_inputValueUsd_eq hbase htoken hamount] at hpriced
  obtain ⟨rfl, -⟩ := Prod.mk.inj (Except.ok.inj hpriced)
  obtain ⟨stored, hstored⟩ := Option.isSome_iff_exists.mp h.reserved
  have hsubmitted : placed.state = .submitted := by
    obtain ⟨id, created, rfl⟩ := h.ordered
    rfl
  generalize hbought : finalizeFill fill s.solPriceUsd = bought
  have houtput : bought.outputAmount = outcome.outputAmount := by rw [← hbought]; exact hfill.output
  have hworth : bought.inputValueUsd = some ctx.positionUsd := by rw [← hbought]; exact hvalue
  have hsignature : bought.signature = signature := by rw [← hbought]; exact hfill.signature
  generalize ht : entryTransaction deps ctx bought placed = t
  have horder : t.order = placed := by rw [← ht]; rfl
  have htfill : t.fill = bought := by rw [← ht]; rfl
  have htmint : t.mint = ctx.mint := by rw [← ht]; rfl
  have hok : (t.account db.loadPortfolio).1 = .ok () := by
    refine (account_entry_isOk_iff (by rw [← ht]; rfl) _).mpr ⟨rfl, ?_, ?_⟩
    · rwa [htfill, houtput]
    · rw [htfill, hworth]
      rfl
  -- behind the transaction only a failure may be counted
  have hrun : (directEntryDb deps ctx fill placed minOutputAmount env i s db).positions =
        (t.applied db).positions ∧
      (directEntryDb deps ctx fill placed minOutputAmount env i s db).orders =
        (t.applied db).orders := by
    unfold directEntryDb persistEntry
    rw [Prog.runS_get_bind, hbought]
    dsimp only
    rw [ht, look_run, fillTransaction_run, (hquiet _).2,
      runFillTransaction_quiet (by rw [horder, hsubmitted]; rfl), hok]
    dsimp only
    rw [Prog.runS_modify_bind]
    split
    · exact countFailure_keeps env _ _ _
    · exact ⟨rfl, rfl⟩
  have hconfirmed := @order_applied_eq t db _ (by rw [horder]; exact hstored)
  unfold FillTransaction.confirmed FillTransaction.signed at hconfirmed
  rw [horder, htfill, hsignature] at hconfirmed
  have hfigures := figures_entered (t := t) (by rw [← ht]; rfl) hok
  rw [htmint, htfill] at hfigures
  refine ⟨bought, houtput, hworth, ?_, ?_⟩
  · unfold figures storedBooks at hfigures ⊢
    rw [hrun.1]
    exact hfigures
  · unfold Db.order at hconfirmed ⊢
    rw [hrun.2]
    exact hconfirmed

/-- **The reconciler of an entry.** The order keeps a text in every case, and it is confirmed exactly if
a record is found that the entry can be counted with. -/
theorem reconciledEntry_spec (h : EntrySubmitted deps db ctx placed)
    (hamount : outcome.outputAmount ≠ 0) (hquiet : Quiet env) (signature detail : String) (i : ℕ) :
    (∃ order, (reconciledDb deps placed outcome signature detail env i db).order placed.id =
        some order ∧ order.error ≠ none ∧ (order.state = .confirmed ↔ EntryCountable db ctx)) ∧
      (EntryCountable db ctx → ∃ bought, bought.outputAmount = outcome.outputAmount ∧
        bought.inputValueUsd = some ctx.positionUsd ∧
        figures (reconciledDb deps placed outcome signature detail env i db) ctx.mint =
          (Books.after ((db.positions.find? ctx.mint).map books) (.bought bought)).map
            Books.withoutFees) := by
  obtain ⟨oid, created, hplaced⟩ := h.ordered
  obtain ⟨order, now, now', hleft, hunknown, hrun⟩ := reconciledDb_quiet deps (by rw [hplaced])
    h.reserved outcome hquiet signature detail i
  have hid : order.id = placed.id := by rw [← hleft]
  have hstate : order.state = .unknown := by rw [← hleft]
  have hkind : order.kind = .entry := by rw [← hleft, hplaced]; rfl
  have hvalue : order.inputValueUsd = some ctx.positionUsd := by rw [← hleft, hplaced]; rfl
  have hpositionId : placed.positionId = some ctx.positionId := by rw [hplaced]; rfl
  have hmint : order.mint = ctx.mint := by rw [← hleft, hplaced]; rfl
  have herror : order.error = some detail := by rw [← hleft]
  rw [hpositionId] at hrun
  rw [hrun]
  cases hterms : reconciledTerms order outcome (recordOf db (some ctx.positionId)) with
  | none =>
      have hnot : ¬ EntryCountable db ctx := by
        rintro ⟨f, bd, td, hf, hbd, htd, hbase, htoken, -⟩
        have hsome := (reconciledTerms_entry_iff hkind hvalue hamount).mpr
          ⟨f, bd, td, hf, hbd, htd, hbase, htoken, rfl⟩
        rw [hterms] at hsome
        cases hsome
      refine ⟨⟨order, hunknown, by rw [herror]; exact nofun, iff_of_false ?_ hnot⟩,
        fun hcountable => absurd hcountable hnot⟩
      rw [hstate]
      exact nofun
  | some known =>
      obtain ⟨f, bd, td, hf, hbd, htd, hbase, htoken, hknown⟩ :=
        (reconciledTerms_entry_iff hkind hvalue hamount).mp hterms
      have hcountable : EntryCountable db ctx ↔ f.entryCostModel.isSome ∧ f.baseMint.isSome := by
        constructor
        · rintro ⟨f', bd', td', hf', -, -, -, -, hcost, hmint⟩
          obtain rfl : f' = f := Option.some.inj (hf'.symm.trans hf)
          exact ⟨hcost, hmint⟩
        · rintro ⟨hcost, hmint⟩
          exact ⟨f, bd, td, hf, hbd, htd, hbase, htoken, hcost, hmint⟩
      have hposition : known.position = f := by rw [hknown]
      dsimp only
      rw [hcountable]
      cases hcost : f.entryCostModel with
      | none =>
          rw [if_pos ⟨hkind, by rw [hposition, hcost]; rfl⟩]
          refine ⟨?_, fun hall => by cases hall.1⟩
          generalize reconciledFill deps order outcome signature known now = fill
          cases recordUnaccountedFill_cases .none fill order (db.updateOrder order) with
          | inl hfailed =>
              obtain ⟨e, hfailed⟩ := hfailed
              rw [hfailed]
              refine ⟨order, hunknown, by rw [herror]; exact nofun, iff_of_false ?_ ?_⟩
              · rw [hstate]
                exact nofun
              · rintro ⟨hsome, -⟩
                cases hsome
          | inr haside =>
              rw [haside.2]
              dsimp only
              have haside' := @order_updateOrder_self ((db.updateOrder order).saveFill fill)
                { unaccountedOrder fill order with state := .failed } order
                (by rw [Db.order_saveFill]; exact hid ▸ hunknown)
              refine ⟨_, hid ▸ haside', ?_, iff_of_false ?_ ?_⟩
              · simp [unaccountedOrder]
              · simp
              · rintro ⟨hsome, -⟩
                cases hsome
      | some costModel =>
          rw [if_neg (show ¬ (order.kind = .entry ∧ _) by
            rw [hposition, hcost]
            rintro ⟨-, hsome⟩
            cases hsome)]
          generalize hfill : reconciledFill deps order outcome signature known now = bought
          generalize ht : reconciledTransaction order known bought now' = t
          have horder : t.order = order := by rw [← ht]; rfl
          have htfill : t.fill = bought := by rw [← ht]; rfl
          have htmint : t.mint = ctx.mint := by rw [← ht]; exact hmint
          have houtput : bought.outputAmount = outcome.outputAmount := by rw [← hfill]; rfl
          have hworth : bought.inputValueUsd = some ctx.positionUsd := by
            rw [← hfill, hknown]
            rfl
          have haccounting : t.accounting = .entry f.baseMint known.tokenDecimals known.baseDecimals
              (order.positionId.getD "") known.priceUsd order.signalId costModel := by
            rw [← ht]
            unfold reconciledTransaction reconciledAccounting
            rw [hkind, hposition, hcost]
          have hiff := account_entry_isOk_iff haccounting (db.updateOrder order).loadPortfolio
          rw [htfill, houtput, hworth] at hiff
          rw [runFillTransaction_quiet (by rw [horder, hstate]; rfl)]
          cases hbaseMint : f.baseMint with
          | none =>
              cases hok : (t.account (db.updateOrder order).loadPortfolio).1 with
              | ok u =>
                  have hall := hiff.mp hok
                  rw [hbaseMint] at hall
                  cases hall.1
              | error e =>
                  refine ⟨⟨order, hunknown, by rw [herror]; exact nofun, iff_of_false ?_ ?_⟩,
                    fun hall => by cases hall.2⟩
                  · rw [hstate]
                    exact nofun
                  · rintro ⟨-, hsome⟩
                    cases hsome
          | some baseMint =>
              have hok : (t.account (db.updateOrder order).loadPortfolio).1 = .ok () :=
                hiff.mpr ⟨by rw [hbaseMint]; rfl, hamount, rfl⟩
              rw [hok]
              dsimp only
              have hconfirmed := @order_applied_eq t (db.updateOrder order) _
                (by rw [horder, hid]; exact hunknown)
              rw [horder, hid] at hconfirmed
              refine ⟨⟨t.confirmed, hconfirmed, ?_, iff_of_true rfl ⟨rfl, rfl⟩⟩, ?_⟩
              · change t.order.error ≠ none
                rw [horder, herror]
                exact nofun
              · intro _
                refine ⟨bought, houtput, hworth, ?_⟩
                have hfigures := figures_entered (t := t) (by rw [haccounting]; rfl) hok
                rwa [htmint, htfill, Db.positions_updateOrder] at hfigures

/-- An entry never agrees, and its figures agree exactly if it is countable. -/
theorem entry_agrees_iff {env' : ℕ → Env} (h : EntrySubmitted deps db ctx placed)
    (hfill : FillOf fill outcome signature (.inputValueUsd ctx.positionUsd) ctx.baseMintDecimals
      ctx.tokenDecimals) (hquiet : Quiet env) (hquiet' : Quiet env') (detail : String)
    (minOutputAmount : UInt64) (i j : ℕ) (s : SessionState) :
    ¬ Agree (directEntryDb deps ctx fill placed minOutputAmount env i s db)
        (reconciledDb deps placed outcome signature detail env' j db) ctx.mint placed.id ∧
    (CountedAlike (directEntryDb deps ctx fill placed minOutputAmount env i s db)
        (reconciledDb deps placed outcome signature detail env' j db) ctx.mint placed.id ↔
      EntryCountable db ctx) := by
  obtain ⟨value, -, hpriced⟩ := hfill.priced
  obtain ⟨-, -, hamount⟩ := (ValueBasis.priceFill_isOk_iff _ _ _ _ _).mp ⟨_, hpriced⟩
  obtain ⟨bought, houtput, hworth, hfigures, horder⟩ := directEntry_spec h hfill hquiet
    minOutputAmount i s
  obtain ⟨⟨order, horder', herror, hconfirmed⟩, hcounted⟩ := reconciledEntry_spec h hamount hquiet'
    signature detail j
  have hsilent : placed.error = none := by
    obtain ⟨id, created, rfl⟩ := h.ordered
    rfl
  constructor
  · intro hagree
    have hsame := hagree.order
    rw [horder, horder', Option.some.injEq] at hsame
    exact herror ((congrArg OrderRecord.error hsame).symm.trans hsilent)
  · have hiff : isOrderConfirmed (directEntryDb deps ctx fill placed minOutputAmount env i s db)
          placed.id = isOrderConfirmed (reconciledDb deps placed outcome signature detail env' j db)
          placed.id ↔ EntryCountable db ctx := by
      unfold isOrderConfirmed
      rw [horder, horder', ← hconfirmed]
      simp [eq_comm]
    constructor
    · intro hsame
      exact hiff.mp hsame.order
    · intro hcountable
      refine ⟨?_, hiff.mpr hcountable⟩
      obtain ⟨bought', houtput', hworth', hfigures'⟩ := hcounted hcountable
      rw [hfigures, hfigures']
      exact after_bought_congr (houtput.trans houtput'.symm) (hworth.trans hworth'.symm) _

end

/-! ## Both -/

/-- **Direct and reconciled fills.** For every store, submitted order and fill, in runs of both paths in
which no statement fails: an exit agrees exactly if it is reconcilable, and an entry never does. The
figures agree exactly if a stored record accounts for the fill. -/
theorem reconciled_agrees_iff (deps : Deps) (db : Db) (placed : OrderRecord)
    (outcome : ChainSwapOutcome) (fill : Fill) (signature detail : String) (env env' : ℕ → Env)
    (hquiet : Quiet env) (hquiet' : Quiet env') (i j : ℕ) :
    (∀ (mint reason : String) (position : Position) (remaining : UInt64) (terms : ExitTerms)
        (pf : Portfolio), ExitSubmitted db mint reason position remaining terms placed →
      FillOf fill outcome signature (.outputUnitPriceUsd terms.basePrice) terms.tokenDecimals
        terms.baseDecimals →
      (Agree (directExitDb deps fill placed position mint reason pf env i db)
          (reconciledDb deps placed outcome signature detail env' j db) mint placed.id ↔
        ExitReconcilable db reason detail position remaining terms outcome) ∧
      (CountedAlike (directExitDb deps fill placed position mint reason pf env i db)
          (reconciledDb deps placed outcome signature detail env' j db) mint placed.id ↔
        ExitCountable db position remaining terms outcome)) ∧
    (∀ (ctx : EntryContext) (minOutputAmount : UInt64) (s : SessionState),
      EntrySubmitted deps db ctx placed →
      FillOf fill outcome signature (.inputValueUsd ctx.positionUsd) ctx.baseMintDecimals
        ctx.tokenDecimals →
      ¬ Agree (directEntryDb deps ctx fill placed minOutputAmount env i s db)
          (reconciledDb deps placed outcome signature detail env' j db) ctx.mint placed.id ∧
      (CountedAlike (directEntryDb deps ctx fill placed minOutputAmount env i s db)
          (reconciledDb deps placed outcome signature detail env' j db) ctx.mint placed.id ↔
        EntryCountable db ctx)) :=
  ⟨fun _ _ _ _ _ pf h hfill => exit_agrees_iff h hfill hquiet hquiet' detail pf i j,
    fun _ minOutputAmount s h hfill => entry_agrees_iff h hfill hquiet hquiet' detail
      minOutputAmount i j s⟩

/-! ## A first entry -/

/-- The sample entry, submitted. -/
def submittedEntry : OrderRecord :=
  { entryOrder (sampleDeps true) sampleContext "order-1" 0 with state := .submitted }

/-- A store without positions that holds the entry. -/
def entryDb : Db := { Db.new with orders := Db.new.orders.put ⟨"key", submittedEntry⟩ }

/-- The swap of the sample entry as the chain shows it. -/
def entryOutcome : ChainSwapOutcome :=
  { inputAmount := 10, outputAmount := 100, feeLamports := 5000, blockTime := none }

/-- The fill that the executor returns for it. -/
def entryFill : Fill := { swapFill "order-1" 10 100 10 0 with priceUsd := 1 / 10 }

/-- The sample's entry has been submitted. -/
theorem entrySubmitted_sample : EntrySubmitted (sampleDeps true) entryDb sampleContext submittedEntry :=
  ⟨⟨"order-1", 0, rfl⟩, by decide +kernel⟩

/-- Its fill is that of its outcome. -/
theorem entryFill_sample : FillOf entryFill entryOutcome entryFill.signature
    (.inputValueUsd sampleContext.positionUsd) sampleContext.baseMintDecimals
    sampleContext.tokenDecimals :=
  ⟨rfl, rfl, rfl, rfl, 10, rfl, by decide +kernel⟩

/-- The sample position, with one USD for a unit of the base. -/
def pricedPosition : Position := { samplePosition with baseEntryPriceUsd := some 1 }

/-- The sample exit, submitted. -/
def submittedSale : OrderRecord :=
  { exitOrder "order-1" pricedPosition "token" "stop_loss" "key" 100 sampleTerms 100 0 with
    state := .submitted }

/-- The store that holds the exit and its position. -/
def saleDb : Db :=
  { Db.new.savePosition pricedPosition with orders := Db.new.orders.put ⟨"key", submittedSale⟩ }

/-- The sample's exit has been submitted. -/
theorem exitSubmitted_sample :
    ExitSubmitted saleDb "token" "stop_loss" pricedPosition 100 sampleTerms submittedSale :=
  ⟨by decide +kernel, rfl, ⟨"order-1", "key", 100, 0, rfl⟩, by decide +kernel⟩

/-- The sale of 40 of the 100 units. -/
def saleOutcome : ChainSwapOutcome :=
  { inputAmount := 40, outputAmount := 5, feeLamports := 5000, blockTime := none }

/-- The fill that the executor returns for the sale. -/
def saleFill : Fill := { swapFill "order-1" 40 5 5 0 with priceUsd := 1 / 8 }

/-- Its fill is that of its outcome. -/
theorem saleFill_sample : FillOf saleFill saleOutcome saleFill.signature
    (.outputUnitPriceUsd sampleTerms.basePrice) sampleTerms.tokenDecimals sampleTerms.baseDecimals :=
  ⟨rfl, rfl, rfl, rfl, 5, rfl, by decide +kernel⟩

/-- The sample's outside world has no faults. -/
theorem quiet_sample : Quiet fun _ => sampleEnv := fun _ => ⟨rfl, rfl⟩

/-- A partial sale of a position that carries its id has the same figures, but its order keeps the text
that it was left with. A first entry has neither. -/
theorem reconciled_agrees_iff_sample :
    (¬ Agree (directExitDb (sampleDeps true) saleFill submittedSale pricedPosition "token" "stop_loss"
            Portfolio.empty (fun _ => sampleEnv) 0 saleDb)
          (reconciledDb (sampleDeps true) submittedSale saleOutcome saleFill.signature
            "confirmation timed out" (fun _ => sampleEnv) 0 saleDb) "token" submittedSale.id ∧
      CountedAlike (directExitDb (sampleDeps true) saleFill submittedSale pricedPosition "token"
            "stop_loss" Portfolio.empty (fun _ => sampleEnv) 0 saleDb)
          (reconciledDb (sampleDeps true) submittedSale saleOutcome saleFill.signature
            "confirmation timed out" (fun _ => sampleEnv) 0 saleDb) "token" submittedSale.id) ∧
    (¬ Agree (directEntryDb (sampleDeps true) sampleContext entryFill submittedEntry 0
            (fun _ => sampleEnv) 0 sampleSession entryDb)
          (reconciledDb (sampleDeps true) submittedEntry entryOutcome entryFill.signature
            "confirmation timed out" (fun _ => sampleEnv) 0 entryDb) "token" submittedEntry.id ∧
      ¬ CountedAlike (directEntryDb (sampleDeps true) sampleContext entryFill submittedEntry 0
            (fun _ => sampleEnv) 0 sampleSession entryDb)
          (reconciledDb (sampleDeps true) submittedEntry entryOutcome entryFill.signature
            "confirmation timed out" (fun _ => sampleEnv) 0 entryDb) "token" submittedEntry.id) := by
  constructor
  · obtain ⟨hagree, hfigures⟩ := (reconciled_agrees_iff (sampleDeps true) saleDb submittedSale
      saleOutcome saleFill saleFill.signature "confirmation timed out" (fun _ => sampleEnv)
      (fun _ => sampleEnv) quiet_sample quiet_sample 0 0).1 "token" "stop_loss" pricedPosition 100
      sampleTerms Portfolio.empty exitSubmitted_sample saleFill_sample
    constructor
    · rw [hagree]
      rintro ⟨htext, -⟩
      exact absurd htext (by decide)
    · rw [hfigures]
      exact .inr ⟨pricedPosition, by decide +kernel,
        (MarksAlike.refl rfl (by decide) (by decide) 100 saleOutcome).pays⟩
  · obtain ⟨hagree, hfigures⟩ := (reconciled_agrees_iff (sampleDeps true) entryDb submittedEntry
      entryOutcome entryFill entryFill.signature "confirmation timed out" (fun _ => sampleEnv)
      (fun _ => sampleEnv) quiet_sample quiet_sample 0 0).2 sampleContext 0 sampleSession
      entrySubmitted_sample entryFill_sample
    refine ⟨hagree, mt hfigures.mp ?_⟩
    rintro ⟨f, -, -, hfound, -⟩
    exact nomatch hfound

/-- A first entry that landed: the direct path creates the position and confirms the order; the
reconciler leaves the store without a position and the order unknown. -/
theorem first_entry_unresolved :
    EntrySubmitted (sampleDeps true) entryDb sampleContext submittedEntry ∧
      FillOf entryFill entryOutcome entryFill.signature (.inputValueUsd sampleContext.positionUsd)
        sampleContext.baseMintDecimals sampleContext.tokenDecimals ∧
      ¬ Agree (directEntryDb (sampleDeps true) sampleContext entryFill submittedEntry 0
            (fun _ => sampleEnv) 0 sampleSession entryDb)
          (reconciledDb (sampleDeps true) submittedEntry entryOutcome entryFill.signature
            "confirmation timed out" (fun _ => sampleEnv) 0 entryDb) "token" submittedEntry.id ∧
      ((reconciledDb (sampleDeps true) submittedEntry entryOutcome entryFill.signature
            "confirmation timed out" (fun _ => sampleEnv) 0 entryDb).order submittedEntry.id).map
          OrderRecord.state = some .unknown := by
  refine ⟨entrySubmitted_sample, entryFill_sample, ?_, by decide +kernel⟩
  rintro ⟨hposition, -⟩
  revert hposition
  decide +kernel

end SolanaBot.Analysis
