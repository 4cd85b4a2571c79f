import SolanaBot.Model.Effects

/-!
# Reconcilers

The session's reconciler of pending orders and of on-chain balances (`runtime.rs`), the
exit monitor's reconciler of stale orders (`exit_monitor.rs`), and what both use: the
reading of a signature (`execution/jupiter.rs`) and the recording of a reconciled fill.
-/

set_option autoImplicit false

namespace SolanaBot.Model

open SolanaBot.Library

/-- RUST: runtime.rs:84-94. -/
structure ReconcileSummary where
  confirmedOrders : ℕ
  failedOrders : ℕ
  expiredOrders : ℕ
  unresolvedOrders : ℕ
  positionsReconciled : ℕ
  positionsAdjusted : ℕ
  positionsClosed : ℕ
  onchainErrors : ℕ
deriving DecidableEq

/-- RUST: runtime.rs:84-94, the derived default. -/
def ReconcileSummary.zero : ReconcileSummary := ⟨0, 0, 0, 0, 0, 0, 0, 0⟩

/-- An order moved to `next` if the state machine allows it, with an error text. -/
def OrderRecord.reported (o : OrderRecord) (next : OrderState) (error : String) : OrderRecord :=
  { o.transitionOrKeep next with error := some error }

/-- RUST: execution/jupiter.rs:483-532. -/
def reconcileSignature (signature inputMint outputMint owner : String) (expectedInput : UInt64) :
    Task (Except ExecutionError (Option ChainSwapOutcome)) := do
  let status ← Rpc.signatureStatus signature
  match readStatus signature status with
  | .error e => return .error e
  | .ok false => return .ok none
  | .ok true =>
      let tx ← Rpc.transaction signature
      return readTransaction signature inputMint outputMint owner expectedInput tx

/-! ## Recording a reconciled fill -/

/-- What `record_reconciled_fill` finds in the store to account for a fill. -/
structure ReconciledTerms where
  position : Position
  tokenDecimals : UInt8
  baseDecimals : UInt8
  valueUsd : Decimal
  priceUsd : Decimal

/-- RUST: runtime.rs:224-257. Nothing, when the record is incomplete or the fill has no price. -/
def reconciledTerms (order : OrderRecord) (outcome : ChainSwapOutcome) (position : Option Position) :
    Option ReconciledTerms := do
  let position ← position
  let inputValueUsd ← order.inputValueUsd
  let tokenDecimals ← position.tokenDecimals
  let baseDecimals ← position.baseMintDecimals
  let basis ← match order.kind with
    | .entry => some (ValueBasis.inputValueUsd inputValueUsd)
    | .exit | .legacyUnknown => position.baseEntryPriceUsd.map ValueBasis.outputUnitPriceUsd
  let (inputDecimals, outputDecimals) := match order.kind with
    | .entry => (baseDecimals, tokenDecimals)
    | .exit | .legacyUnknown => (tokenDecimals, baseDecimals)
  match basis.priceFill outcome.inputAmount inputDecimals outcome.outputAmount outputDecimals with
  | .ok (valueUsd, priceUsd) => some { position, tokenDecimals, baseDecimals, valueUsd, priceUsd }
  | .error _ => none

/-- RUST: runtime.rs:258-276. Slippage and latency are marked as not measured. -/
def reconciledFill (deps : Deps) (order : OrderRecord) (outcome : ChainSwapOutcome)
    (signature : String) (terms : ReconciledTerms) (now : Time) : Fill :=
  { orderId := order.id
    signature
    inputAmount := outcome.inputAmount
    outputAmount := outcome.outputAmount
    priceUsd := terms.priceUsd
    feesUsd := feeUsd outcome.feeLamports deps.config.economics.solPriceUsd
    slippageBps := UInt32.ofNat (2 ^ 32 - 1)
    confirmedAt := now
    latencyMs := UInt64.ofNat (2 ^ 64 - 1)
    feeLamports := outcome.feeLamports
    inputValueUsd := some terms.valueUsd
    expectedOutputAmount := none }

/-- RUST: runtime.rs:326-356. The order has a position id here, since a position was found by it. -/
def reconciledAccounting (order : OrderRecord) (terms : ReconciledTerms) (now : Time) : Accounting :=
  match order.kind, terms.position.entryCostModel with
  | .entry, some costModel => .entry terms.position.baseMint terms.tokenDecimals terms.baseDecimals
      (order.positionId.getD "") terms.priceUsd order.signalId costModel
  | _, _ => .reconciledExit (order.error.getD "reconciled") now

/-- RUST: runtime.rs:217-223. An unreadable store counts as a store without the position. -/
def storedPosition (order : OrderRecord) : Task (Option Position) :=
  match order.positionId with
  | none => return none
  | some pid => do
      match ← Store.positions with
      | .ok ps => return ps.find? fun p => p.positionId = some pid
      | .error _ => return none

/-- The transaction that records a reconciled fill. -/
def reconciledTransaction (order : OrderRecord) (terms : ReconciledTerms) (fill : Fill)
    (now : Time) : FillTransaction :=
  { fill
    mint := order.mint
    order
    accounting := reconciledAccounting order terms now
    source := .reconciled }

/-- RUST: runtime.rs:211-385. `false` when the accounting cannot be completed. -/
def recordReconciledFill (deps : Deps) (order : OrderRecord) (outcome : ChainSwapOutcome)
    (signature : String) : Attempt Bool := do
  let position ← ask (storedPosition order)
  match reconciledTerms order outcome position with
  | none => return false
  | some terms =>
      let now ← ask clock
      let fill := reconciledFill deps order outcome signature terms now
      if order.kind = .entry ∧ terms.position.entryCostModel.isNone then
        attempt (Store.unaccountedFill fill order)
        return false
      else
        let now ← ask clock
        let r ← ask (Store.fillTransaction (reconciledTransaction order terms fill now))
        match r.1 with
        | .ok () => return true
        | .error e => throw e

/-! ## The session's reconciler -/

/-- RUST: runtime.rs:104-207, the verdict of one order whose signature was looked up. -/
def settleVerdict (deps : Deps) (age : Int) (order : OrderRecord) (signature : String)
    (summary : ReconcileSummary) :
    Except ExecutionError (Option ChainSwapOutcome) → Attempt ReconcileSummary
  | .ok (some outcome) => do
      match ← ask (recordReconciledFill deps order outcome signature).run with
      | .ok true => return { summary with confirmedOrders := summary.confirmedOrders + 1 }
      | .ok false => return { summary with unresolvedOrders := summary.unresolvedOrders + 1 }
      | .error _ => return { summary with unresolvedOrders := summary.unresolvedOrders + 1 }
  | .ok none => do
      if age > seconds deps.config.rpc.unknownAfterSecs then
        attempt (Store.updateOrder order (order.reported .expired
          "signature never appeared on-chain within the expiry window"))
        return { summary with expiredOrders := summary.expiredOrders + 1 }
      else return { summary with unresolvedOrders := summary.unresolvedOrders + 1 }
  | .error (.transaction detail) => do
      attempt (Store.updateOrder order (order.reported .failed detail))
      return { summary with failedOrders := summary.failedOrders + 1 }
  | .error _ => return { summary with unresolvedOrders := summary.unresolvedOrders + 1 }

/-- RUST: runtime.rs:104-207, one turn of the loop. -/
def reconcilePendingOrder (deps : Deps) (now : Time) (summary : ReconcileSummary)
    (order : OrderRecord) : Attempt ReconcileSummary := do
  let age := now - order.createdAt
  match order.signature, deps.live with
  | none, false =>
      attempt (Store.updateOrder order
        (order.reported .failed "paper order never completed execution"))
      return { summary with failedOrders := summary.failedOrders + 1 }
  | none, true =>
      if age > seconds deps.config.rpc.unknownAfterSecs then
        attempt (Store.updateOrder order
          (order.reported .failed "order expired without ever being submitted"))
        return { summary with failedOrders := summary.failedOrders + 1 }
      else return { summary with unresolvedOrders := summary.unresolvedOrders + 1 }
  | some sig, false =>
      attempt (Store.updateOrder order
        (order.reported .failed ("paper signature " ++ sig ++ " cannot be reconciled on-chain")))
      return { summary with failedOrders := summary.failedOrders + 1 }
  | some sig, true =>
      match deps.signerPubkey, order.inputMint, order.outputMint, order.inputAmountAtomic with
      | some owner, some inputMint, some outputMint, some expectedInput =>
          let verdict ← ask (reconcileSignature sig inputMint outputMint owner expectedInput)
          settleVerdict deps age order sig summary verdict
      | _, _, _, _ => return { summary with unresolvedOrders := summary.unresolvedOrders + 1 }

/-- RUST: runtime.rs:104-207. -/
def reconcilePendingOrders (deps : Deps) : Attempt ReconcileSummary := do
  let now ← ask clock
  let incomplete ← attempt Store.incompleteOrders
  incomplete.orders.foldlM (reconcilePendingOrder deps now) .zero

/-! ## The exit monitor's reconciler -/

/-- An order update whose failure is only logged. -/
def updateOrderLogged (copy o : OrderRecord) : Task Unit := do
  let _ ← Store.updateOrder copy o
  return ()

/-- RUST: exit_monitor.rs:387-432. -/
def settleStaleVerdict (deps : Deps) (age : Int) (order : OrderRecord) (signature : String) :
    Except ExecutionError (Option ChainSwapOutcome) → Task Unit
  | .ok (some outcome) => do
      let _ ← (recordReconciledFill deps order outcome signature).run
      return ()
  | .ok none =>
      if age > seconds deps.config.rpc.unknownAfterSecs then
        updateOrderLogged order (order.reported .expired "signature never appeared (exit monitor)")
      else return ()
  | .error (.transaction detail) => updateOrderLogged order (order.reported .failed detail)
  | .error _ => return ()

/-- RUST: exit_monitor.rs:343-434, one turn of the loop. -/
def reconcileStaleOrder (deps : Deps) (now : Time) (order : OrderRecord) : Task Unit := do
  let age := now - order.createdAt
  match order.signature, deps.live with
  | none, _ =>
      if age > seconds deps.config.rpc.unknownAfterSecs then
        updateOrderLogged order
          (order.reported .failed "expired without submission (exit monitor)")
      else return ()
  | some _, false =>
      updateOrderLogged order (order.reported .failed "paper signature cannot be reconciled")
  | some sig, true =>
      match deps.signerPubkey, order.inputMint, order.outputMint, order.inputAmountAtomic with
      | some owner, some inputMint, some outputMint, some expectedInput =>
          let verdict ← reconcileSignature sig inputMint outputMint owner expectedInput
          settleStaleVerdict deps age order sig verdict
      | _, _, _, _ => return ()

/-- RUST: exit_monitor.rs:326-436. -/
def reconcileStaleOrders (deps : Deps) : Task Unit := do
  let now ← clock
  match ← Store.incompleteOrders with
  | .error _ => return ()
  | .ok incomplete => incomplete.orders.foldlM (fun _ o => reconcileStaleOrder deps now o) ()

/-! ## On-chain balances -/

/-- RUST: runtime.rs:424-425. In the map built from the list a later account of a mint
replaces an earlier one. -/
def balanceByMint (balances : List TokenBalance) (mint : String) : Option TokenBalance :=
  balances.reverse.find? fun b => b.mint = mint

/-- Save the record of a mint after the portfolio adopted a balance for it. -/
def saveAdopted (before after : Portfolio) (mint : String) (onChainAmount : UInt64)
    (decimals : UInt8) (now : Time) : Attempt Unit :=
  match before.position mint, after.position mint with
  | some copy, some p => attempt (Store.savePosition (.adopted copy onChainAmount decimals now) p)
  | _, _ => return ()

/-- RUST: runtime.rs:433-469, one turn of the loop. -/
def reconcilePosition (balances : List TokenBalance) (s : ReconcileSummary × Portfolio)
    (mint : String) : Attempt (ReconcileSummary × Portfolio) := do
  let now ← ask clock
  match balanceByMint balances mint with
  | none =>
      let r := s.2.reconcileWithChain mint 0 0 now
      match r.1 with
      | .ok _ =>
          saveAdopted s.2 r.2 mint 0 0 now
          return ({ s.1 with positionsClosed := s.1.positionsClosed + 1 }, r.2)
      | .error _ => return (s.1, r.2)
  | some balance =>
      let r := s.2.reconcileWithChain mint balance.amount balance.decimals now
      match r.1 with
      | .ok true =>
          saveAdopted s.2 r.2 mint balance.amount balance.decimals now
          if (r.2.position mint).map Position.reconciliationStatus = some .adjustedOnChain then
            return ({ s.1 with positionsAdjusted := s.1.positionsAdjusted + 1 }, r.2)
          else return ({ s.1 with positionsReconciled := s.1.positionsReconciled + 1 }, r.2)
      | .ok false => return (s.1, r.2)
      | .error _ => return ({ s.1 with onchainErrors := s.1.onchainErrors + 1 }, r.2)

/-- RUST: runtime.rs:409-472. -/
def reconcilePositionsOnchain (deps : Deps) : Attempt ReconcileSummary := do
  match deps.signerPubkey with
  | none => return .zero
  | some owner =>
      match ← ask (Rpc.tokenBalances owner) with
      | .error _ => return { ReconcileSummary.zero with onchainErrors := 1 }
      | .ok balances =>
          let stored ← attempt Store.positions
          let portfolio := Portfolio.empty.load stored
          let mints ← ask <| hashOrder (portfolio.openPositions.map Position.mint)
          let s ← mints.val.foldlM (reconcilePosition balances) (.zero, portfolio)
          return s.1

/-- RUST: runtime.rs:986-994. -/
def runReconciliation (deps : Deps) : Attempt ReconcileSummary := do
  let summary ← reconcilePendingOrders deps
  let pos ← reconcilePositionsOnchain deps
  return { summary with
    positionsReconciled := summary.positionsReconciled + pos.positionsReconciled
    positionsAdjusted := summary.positionsAdjusted + pos.positionsAdjusted
    positionsClosed := summary.positionsClosed + pos.positionsClosed
    onchainErrors := summary.onchainErrors + pos.onchainErrors }

end SolanaBot.Model
