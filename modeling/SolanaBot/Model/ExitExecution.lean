import SolanaBot.Model.Reconciliation

/-!
# The shared exit path

`execute_exit_order` of `runtime.rs`: the one path by which the session, the exit
monitor and the operator's command sell a position. It reads the position afresh,
checks that no exit is in flight, reserves an order, asks for a quote, submits, and
records the outcome. Errors of the updates after the reservation are only logged.
-/

set_option autoImplicit false

namespace SolanaBot.Model

open SolanaBot.Library

/-- RUST: runtime.rs:519-529. -/
inductive ExitExecResult where
  | confirmed (fill : Fill)
  | unknown
  | failed (e : String)
  | skipped (e : String)
deriving DecidableEq

/-- The bytes of an unsigned number of `n` bytes, least significant first. -/
def leBytes : ℕ → ℕ → List UInt8
  | 0, _ => []
  | n + 1, v => UInt8.ofNat v :: leBytes n (v / 256)

/-- The bytes of a string. -/
def textBytes (s : String) : List UInt8 := s.toUTF8.data.toList

/-- RUST: runtime.rs:493-505. -/
def exitIdempotencyKey (sha256 : List UInt8 → String) (positionId : String) (remaining : UInt64)
    (reason : String) (attempt : UInt32) : String :=
  sha256 (textBytes positionId ++ leBytes 8 remaining.toNat ++ textBytes reason ++
    leBytes 4 attempt.toNat)

/-- An exit of the position: the check for exits in flight of runtime.rs:577-581. -/
def isExitOf (positionId : Option String) (o : OrderRecord) : Bool :=
  o.kind = .exit ∧ o.positionId = positionId

/-- RUST: runtime.rs:551-559. The position to sell and how much of it. -/
def exitTarget (stored : List Position) (mint : String) :
    Except ExitExecResult (Position × UInt64) :=
  match stored.find? fun p => p.mint = mint with
  | none => .error (.skipped ("no position for " ++ mint))
  | some position =>
      if position.state ≠ .open then .error (.skipped "position not open")
      else
        match position.trustedRemaining with
        | none => .error (.skipped "quantity not trusted")
        | some remaining => .ok (position, remaining)

/-- What the position must know about itself to be sold. -/
structure ExitTerms where
  basePrice : Decimal
  baseDecimals : UInt8
  tokenDecimals : UInt8
  baseMint : String

/-- RUST: runtime.rs:576-586. -/
def exitTerms (p : Position) : Except ExitExecResult ExitTerms :=
  match p.baseEntryPriceUsd with
  | none => .error (.skipped "no base price")
  | some basePrice =>
      match p.baseMintDecimals, p.tokenDecimals with
      | some baseDecimals, some tokenDecimals =>
          match p.baseMint with
          | none => .error (.skipped "no base mint")
          | some baseMint => .ok { basePrice, baseDecimals, tokenDecimals, baseMint }
      | _, _ => .error (.skipped "missing decimals")

/-- RUST: runtime.rs:610-627. -/
def exitOrder (id : String) (p : Position) (mint reason key : String) (remaining : UInt64)
    (terms : ExitTerms) (markValue : Decimal) (now : Time) : OrderRecord :=
  { id
    signalId := p.signalId
    mint
    kind := .exit
    positionId := p.positionId
    side := .sell
    inputMint := some mint
    outputMint := some terms.baseMint
    inputAmountAtomic := some remaining
    inputValueUsd := some markValue
    outputMintDecimals := some terms.baseDecimals
    state := .pending
    idempotencyKey := key
    createdAt := now
    signature := none
    error := some reason }

/-- RUST: runtime.rs:673-676 and 1738-1741. -/
def minOutput (quote : Quote) (slippageBps : UInt16) : UInt64 :=
  saturatingMul quote.outputAmount (10000 - slippageBps.toUInt64) / 10000

/-- RUST: runtime.rs:776-780 and 1845-1847. The order whose fill could not be persisted. -/
def unpersistedOrder (placed : OrderRecord) (fill : Fill) (e : String) : OrderRecord :=
  { placed.transitionOrKeep .unknown with
    signature := some fill.signature
    error := some ("atomic persistence failed: " ++ e) }

/-- RUST: runtime.rs:794-800 and 1854-1858. The order whose outcome the executor does not know. -/
def unknownOrder (placed : OrderRecord) (signature : Option String) (detail : String) :
    OrderRecord :=
  { placed.transitionOrKeep .unknown with
    signature := signature.or placed.signature
    error := some detail }

/-- The transaction of an executed exit. -/
def exitTransaction (fill : Fill) (placed : OrderRecord) (stored : Option Position)
    (mint reason : String) (now : Time) : FillTransaction :=
  { fill, mint, order := placed, accounting := .exit stored reason now, source := .direct }

/-- RUST: runtime.rs:698-791. A fill was executed: record it, or mark the order unknown. -/
def persistExit (deps : Deps) (fill : Fill) (placed : OrderRecord) (stored : Option Position)
    (mint reason : String) (pf : Portfolio) : Task (ExitExecResult × Portfolio) := do
  let fill := finalizeFill fill deps.config.economics.solPriceUsd
  let now ← clock
  match ← Store.fillTransaction (exitTransaction fill placed stored mint reason now) with
  | (.ok (), _) =>
      let now ← clock
      let pf := match stored with
        | some p => pf.syncPosition p
        | none => pf
      return (.confirmed fill, (pf.applyExit mint fill reason now).2)
  | (.error e, placed) =>
      updateOrderLogged placed (unpersistedOrder placed fill e)
      return (.failed ("transactional persistence failed: " ++ e), pf)

/-- RUST: runtime.rs:639-828. From the reserved order to its outcome. -/
def submitExit (deps : Deps) (order : OrderRecord) (terms : ExitTerms) (remaining : UInt64)
    (stored : Option Position) (mint reason : String) (pf : Portfolio) :
    Task (ExitExecResult × Portfolio) := do
  let execution := deps.config.execution
  match ← Executor.quote mint terms.baseMint remaining execution.slippageBps with
  | .error e =>
      updateOrderLogged order (order.reported .failed ("quote failed: " ++ e.toText))
      return (.failed ("quote failed: " ++ e.toText), pf)
  | .ok quote =>
      if quote.priceImpactBps > execution.maxPriceImpactBps then
        updateOrderLogged order (order.reported .failed "price impact limit")
        return (.failed ("price impact " ++ toString quote.priceImpactBps ++
          " bps exceeds limit " ++ toString execution.maxPriceImpactBps), pf)
      else
        let placed := order.transitionOrKeep .submitted
        updateOrderLogged order placed
        match ← Executor.execute
          { orderId := order.id
            quote
            maxSlippageBps := deps.config.risk.maxSlippageBps
            maxPriceImpactBps := execution.maxPriceImpactBps
            minOutputAmount := minOutput quote execution.slippageBps
            inputDecimals := terms.tokenDecimals
            outputDecimals := terms.baseDecimals
            valueBasis := .outputUnitPriceUsd terms.basePrice } with
        | .ok fill => persistExit deps fill placed stored mint reason pf
        | .error (.unknown signature detail) =>
            updateOrderLogged placed (unknownOrder placed signature detail)
            return (.unknown, pf)
        | .error e =>
            updateOrderLogged placed (placed.reported .failed e.toText)
            return (.failed e.toText, pf)

/-- RUST: runtime.rs:588-637. Reserve the order under its idempotency key; `incomplete` is what
the check for exits in flight has read. -/
def reserveExit (deps : Deps) (position : Position) (remaining : UInt64) (terms : ExitTerms)
    (incomplete : List OrderRecord) (stored : List Position) (mint reason : String) (now : Time)
    (pf : Portfolio) : Task (ExitExecResult × Portfolio) := do
  match ← Store.orders with
  | .error e => return (.failed ("order history read failed: " ++ e), pf)
  | .ok orders =>
      let positionId := position.positionId.getD mint
      let attempt := UInt32.ofNat (orders.countP (isExitOf (some positionId)))
      let key := exitIdempotencyKey deps.sha256 positionId remaining reason attempt
      match units remaining terms.tokenDecimals with
      | .error _ => return (.skipped "unit conversion failed", pf)
      | .ok q =>
          let id ← newUuid
          let order := exitOrder id position mint reason key remaining terms
            (q * terms.basePrice) now
          match ← Store.reserveOrder incomplete order with
          | .error e => return (.failed ("order reservation failed: " ++ e), pf)
          | .ok false => return (.skipped "duplicate exit blocked by idempotency", pf)
          | .ok true =>
              submitExit deps order terms remaining (stored.find? fun p => p.mint = mint) mint
                reason pf

/-- RUST: runtime.rs:536-829. The result and the in-memory portfolio of the caller. -/
def executeExitOrder (deps : Deps) (mint reason : String) (pf : Portfolio) :
    Task (ExitExecResult × Portfolio) := do
  let now ← clock
  match ← Store.positions with
  | .error e => return (.skipped ("store read failed: " ++ e), pf)
  | .ok stored =>
      match exitTarget stored mint with
      | .error r => return (r, pf)
      | .ok (position, remaining) =>
          match ← Store.incompleteOrders with
          | .error e => return (.failed ("inflight check failed: " ++ e), pf)
          | .ok incomplete =>
              if incomplete.orders.any (isExitOf position.positionId) then
                return (.skipped "exit order already in flight", pf)
              else
                match exitTerms position with
                | .error r => return (r, pf)
                | .ok terms =>
                    reserveExit deps position remaining terms incomplete.orders stored mint reason
                      now pf

/-! ## What can be sold -/

/-- The position to sell is the stored one, and it is open. -/
theorem exitTarget_ok {stored : List Position} {mint : String} {position : Position} {remaining : UInt64}
    (h : exitTarget stored mint = .ok (position, remaining)) :
    (stored.find? fun p => p.mint = mint) = some position ∧ position.mint = mint ∧
      position.isOpen = true := by
  unfold exitTarget at h
  split at h
  · cases h
  · rename_i p hp
    split at h
    · cases h
    · rename_i hopen
      split at h
      · cases h
      · cases h
        refine ⟨hp, by simpa using List.find?_some hp, ?_⟩
        unfold Position.isOpen
        simpa using hopen

/-- What is to be sold is what the position still holds. -/
theorem exitTarget_remaining {stored : List Position} {mint : String} {position : Position}
    {remaining : UInt64} (h : exitTarget stored mint = .ok (position, remaining)) :
    position.remainingQuantityAtomic = some remaining := by
  unfold exitTarget at h
  split at h
  · cases h
  · split at h
    · cases h
    · split at h
      · cases h
      · rename_i p _ _ r htrusted
        cases h
        unfold Position.trustedRemaining at htrusted
        split at htrusted
        · cases htrusted
        · split at htrusted
          · cases htrusted
          · exact htrusted

/-- A refusal to sell is no confirmation. -/
theorem exitTarget_error {stored : List Position} {mint : String} {x : ExitExecResult}
    (h : exitTarget stored mint = .error x) (fill : Fill) : x ≠ .confirmed fill := by
  rintro rfl
  unfold exitTarget at h
  repeat' split at h
  all_goals cases h

/-- An exit without terms is not confirmed. -/
theorem exitTerms_error {p : Position} {x : ExitExecResult} (h : exitTerms p = .error x)
    (fill : Fill) : x ≠ .confirmed fill := by
  rintro rfl
  unfold exitTerms at h
  repeat' split at h
  all_goals cases h

end SolanaBot.Model
