import SolanaBot.Model.Execution

/-!
# The paper executor

`PaperExecutor::execute` (`execution/paper.rs`): the checks of the quote, the injected failures,
the haircut and the slippage of the simulated fill, its price and its fees. Quotes, the health
check and the registration of quotes are handed on to the inner executor.

The times of the two clock readings and the random identifier are arguments.
-/

set_option autoImplicit false

namespace SolanaBot.Model

/-- RUST: execution/paper.rs:10-21. -/
structure PaperExecutor where
  fillHaircutBps : UInt32
  baseFeeLamports : UInt64
  priorityFeeLamports : UInt64
  callCounter : UInt64
  failEveryN : UInt64
deriving DecidableEq

namespace PaperExecutor

/-- RUST: execution/paper.rs:34-43. -/
def withFailureInjection (fillHaircutBps : UInt32) (failEveryN : UInt64) : PaperExecutor :=
  { fillHaircutBps, baseFeeLamports := 5000, priorityFeeLamports := 10000, callCounter := 0
    failEveryN }

/-- RUST: execution/paper.rs:23-32. -/
def new (fillHaircutBps : UInt32) : PaperExecutor := withFailureInjection fillHaircutBps 0

/-- RUST: execution/paper.rs:57-66. -/
def checkQuote (r : ExecutionRequest) (now : Time) : Except ExecutionError Unit :=
  let age := now - r.quote.observedAt
  if age < 0 ∨ age > seconds 300 then .error .staleQuote
  else if r.quote.outputAmount = 0 ∨ r.quote.priceImpactBps > r.maxPriceImpactBps ∨
      r.quote.outputAmount < r.minOutputAmount then .error .invalidQuote
  else .ok ()

/-- RUST: execution/paper.rs:68-76. The counter wraps around, as an atomic one does. -/
def injectFailure (x : PaperExecutor) : Except ExecutionError Unit × PaperExecutor :=
  if x.failEveryN > 0 then
    let count := x.callCounter + 1
    if count % x.failEveryN = 0 then
      (.error (.transaction "paper: simulated transaction failure"), { x with callCounter := count })
    else (.ok (), { x with callCounter := count })
  else (.ok (), x)

/-- RUST: execution/paper.rs:79-80. -/
def haircutOutput (fillHaircutBps : UInt32) (quoted : UInt64) : UInt64 :=
  let haircut : UInt64 := if fillHaircutBps ≤ 10000 then 10000 - fillHaircutBps.toUInt64 else 0
  saturatingMul quoted haircut / 10000

/-- RUST: execution/paper.rs:86. -/
def slippageBps (priceImpactBps : UInt32) : UInt32 := priceImpactBps / 3 + 5

/-- RUST: execution/paper.rs:87. -/
def slippedOutput (output : UInt64) (slippageBps : UInt32) : UInt64 :=
  saturatingMul output (10000 - slippageBps.toUInt64) / 10000

/-- RUST: execution/paper.rs:78-90. The amount that the simulated fill receives. -/
def simulatedOutput (x : PaperExecutor) (r : ExecutionRequest) : Except ExecutionError UInt64 :=
  let output := haircutOutput x.fillHaircutBps r.quote.outputAmount
  if output < r.minOutputAmount then .error .invalidQuote
  else
    let afterSlippage := slippedOutput output (slippageBps r.quote.priceImpactBps)
    if afterSlippage < r.minOutputAmount then .error .invalidQuote
    else .ok afterSlippage

/-- RUST: execution/paper.rs:92-117. -/
def fillOf (x : PaperExecutor) (r : ExecutionRequest) (output : UInt64) (uuid : String)
    (confirmedAt : Time) : Except ExecutionError Fill := do
  let (valueUsd, priceUsd) ← r.valueBasis.priceFill r.quote.inputAmount r.inputDecimals output
    r.outputDecimals
  let feeLamports := x.baseFeeLamports + x.priorityFeeLamports
  return {
    orderId := r.orderId
    signature := "paper:" ++ uuid
    inputAmount := r.quote.inputAmount
    outputAmount := output
    priceUsd
    feesUsd := feeUsd feeLamports none
    slippageBps := slippageBps r.quote.priceImpactBps
    confirmedAt
    latencyMs := 0
    feeLamports
    inputValueUsd := some valueUsd
    expectedOutputAmount := some r.quote.outputAmount }

/-- RUST: execution/paper.rs:56-118. The answer, and the executor with its counter. -/
def execute (x : PaperExecutor) (r : ExecutionRequest) (now : Time) (uuid : String)
    (confirmedAt : Time) : Except ExecutionError Fill × PaperExecutor :=
  match checkQuote r now with
  | .error e => (.error e, x)
  | .ok () =>
      match x.injectFailure with
      | (.error e, x) => (.error e, x)
      | (.ok (), x) =>
          (x.simulatedOutput r >>= fun output => x.fillOf r output uuid confirmedAt, x)

/-! ## What the parts keep -/

/-- A checked quote has an impact that the request allows. -/
theorem checkQuote_impact {r : ExecutionRequest} {now : Time} (h : checkQuote r now = .ok ()) :
    r.quote.priceImpactBps ≤ r.maxPriceImpactBps := by
  unfold checkQuote at h
  simp only at h
  split at h
  · cases h
  · split at h
    · cases h
    · rename_i hquote
      exact UInt32.not_lt.mp fun hlt => hquote (.inr (.inl hlt))

/-- The counter is all that an injected failure changes. -/
theorem injectFailure_fillHaircutBps (x : PaperExecutor) :
    x.injectFailure.2.fillHaircutBps = x.fillHaircutBps := by
  unfold injectFailure
  simp only
  split
  · split
    · rfl
    · rfl
  · rfl

/-- A simulated output is the quoted one after haircut and slippage. -/
theorem simulatedOutput_eq_ok {x : PaperExecutor} {r : ExecutionRequest} {output : UInt64}
    (h : x.simulatedOutput r = .ok output) :
    output = slippedOutput (haircutOutput x.fillHaircutBps r.quote.outputAmount)
      (slippageBps r.quote.priceImpactBps) := by
  unfold simulatedOutput at h
  simp only at h
  split at h
  · cases h
  · split at h
    · cases h
    · cases h
      rfl

/-- A simulated fill carries the output that was simulated and the one that was quoted. -/
theorem fillOf_eq_ok {x : PaperExecutor} {r : ExecutionRequest} {output : UInt64} {uuid : String}
    {confirmedAt : Time} {fill : Fill} (h : x.fillOf r output uuid confirmedAt = .ok fill) :
    fill.outputAmount = output ∧ fill.expectedOutputAmount = some r.quote.outputAmount := by
  unfold fillOf at h
  cases hprice : r.valueBasis.priceFill r.quote.inputAmount r.inputDecimals output
      r.outputDecimals with
  | error e =>
      rw [hprice] at h
      cases h
  | ok v =>
      rw [hprice] at h
      cases h
      exact ⟨rfl, rfl⟩

end PaperExecutor

end SolanaBot.Model
