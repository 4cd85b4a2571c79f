import SolanaBot.Model.Effects

/-!
# The executor of replay mode

`execution/deterministic.rs`: quotes are served from a map that ingestion fills, and an execution
always gives the quoted amounts, priced from the value basis of the request.
-/

set_option autoImplicit false

namespace SolanaBot.Model

open SolanaBot.Library

/-- RUST: execution/deterministic.rs:46-51. The slippage in the key is always zero. -/
def quoteKey (q : Quote) : String × String × UInt64 × UInt16 :=
  (q.inputMint, q.outputMint, q.inputAmount, 0)

/-- RUST: execution/deterministic.rs:11-13. -/
structure DeterministicExecutor where
  quotes : Table quoteKey

namespace DeterministicExecutor

/-- RUST: execution/deterministic.rs:16-20. -/
def new : DeterministicExecutor := ⟨Table.empty _⟩

/-- RUST: execution/deterministic.rs:44-56. -/
def registerQuote (x : DeterministicExecutor) (quote : Quote) : DeterministicExecutor :=
  ⟨x.quotes.put quote⟩

/-- RUST: execution/deterministic.rs:67-84. -/
def quote (x : DeterministicExecutor) (inputMint outputMint : String) (amount : UInt64) :
    Except ExecutionError Quote :=
  match x.quotes.find? (inputMint, outputMint, amount, 0) with
  | some q => .ok q
  | none =>
      .error (.quote ("no deterministic quote for " ++ inputMint ++ "->" ++ outputMint ++ " amount=" ++
        toString amount.toNat))

/-- RUST: execution/deterministic.rs:86-107. -/
def execute (request : ExecutionRequest) (uuid : String) (now : Time) : Except ExecutionError Fill := do
  let priceUsd ← request.valueBasis.priceFill request.quote.inputAmount request.inputDecimals
    request.quote.outputAmount request.outputDecimals
  return {
    orderId := request.orderId
    signature := "replay:" ++ uuid
    inputAmount := request.quote.inputAmount
    outputAmount := request.quote.outputAmount
    priceUsd := priceUsd.2
    feesUsd := 0
    slippageBps := 0
    confirmedAt := now
    latencyMs := 0
    feeLamports := 0
    inputValueUsd := some priceUsd.1
    expectedOutputAmount := some request.quote.outputAmount }

/-- The quote of a key is the one that was registered last under it. -/
theorem find?_registerQuote (x : DeterministicExecutor) (q : Quote)
    (key : String × String × UInt64 × UInt16) :
    (x.registerQuote q).quotes.find? key =
      if key = quoteKey q then some q else x.quotes.find? key :=
  Table.find?_put x.quotes q key

/-- A replayed quote is the one that was registered for the exact amount. -/
theorem quote_eq_ok (x : DeterministicExecutor) (inputMint outputMint : String) (amount : UInt64)
    (q : Quote) :
    x.quote inputMint outputMint amount = .ok q ↔
      x.quotes.find? (inputMint, outputMint, amount, 0) = some q := by
  unfold quote
  cases x.quotes.find? (inputMint, outputMint, amount, 0) with
  | none => exact ⟨fun h => (by cases h), fun h => (by cases h)⟩
  | some r => exact ⟨fun h => (by cases h; rfl), fun h => (by cases h; rfl)⟩

/-- A quote that is served is for what was asked. -/
theorem inputAmount_of_quote {x : DeterministicExecutor} {inputMint outputMint : String}
    {amount : UInt64} {q : Quote} (h : x.quote inputMint outputMint amount = .ok q) :
    q.inputAmount = amount := by
  have hkey := Table.find?_key ((quote_eq_ok _ _ _ _ _).mp h)
  unfold quoteKey at hkey
  simp only [Prod.mk.injEq] at hkey
  exact hkey.2.2.1

end DeterministicExecutor

/-- The store and the executor of replay mode. -/
structure ReplayState where
  db : Db
  executor : DeterministicExecutor

/-- The meaning of the operations in replay mode: the executor is the deterministic one. -/
def replayExec (e : Env) : (o : Op) → ReplayState → Res o × ReplayState
  | .registerQuote q, s => ((), { s with executor := s.executor.registerQuote q })
  | .quote inputMint outputMint amount _, s => (s.executor.quote inputMint outputMint amount, s)
  | .execute r, s => (DeterministicExecutor.execute r (e.answer .newUuid) e.clock, s)
  | o, s => ((exec e o s.db).1, { s with db := (exec e o s.db).2 })

/-- The store, the executor of replay mode, and the outside world. -/
def replayWorld : Machine Op Res ReplayState Env := ⟨replayExec⟩

end SolanaBot.Model
