import SolanaBot.Library.Interleaving
import SolanaBot.Model.DecimalText
import SolanaBot.Model.Jupiter

/-!
# Quotes and the rate limiter

`JupiterExecutor::quote` and the backoff window that all requests of an executor share
(`execution/jupiter.rs:24-32, 137-161 and 262-350`). The trading session and the exit monitor hold the
same executor, so the window is the shared state of their requests. The requests of
`SolanaBot.Model.Jupiter` are among the operations here.

The price impact is a floating-point number; what the source reads of it is part of the reply.
-/

set_option autoImplicit false

namespace SolanaBot.Model

open SolanaBot.Library

/-! ## The window -/

/-- RUST: execution/jupiter.rs:27-32. The counter of the source is `consecutive_429s`. -/
structure RateLimitState where
  backoffUntil : Option Time
  consecutive429s : UInt32
deriving DecidableEq

namespace RateLimitState

/-- RUST: execution/jupiter.rs:26. -/
def default : RateLimitState := ⟨none, 0⟩

/-- RUST: execution/jupiter.rs:137-143, in milliseconds. The window is in force up to its last
moment. -/
def rateLimitRemaining (s : RateLimitState) (now : Time) : Option ℕ :=
  match s.backoffUntil with
  | some last => if now ≤ last then some (last - now).toNat else none
  | none => none

/-- RUST: execution/jupiter.rs:149-151. The wait after the refusal `n` in a row, in seconds. -/
def backoffSecs (n : UInt32) (retryAfter : Option UInt64) : UInt64 :=
  min (retryAfter.getD (2 ^ min n.toNat 6)) 120

/-- RUST: execution/jupiter.rs:144-154. -/
def recordRateLimit (s : RateLimitState) (now : Time) (retryAfter : Option UInt64) :
    UInt64 × RateLimitState :=
  let consecutive429s := saturatingSucc s.consecutive429s
  let secs := backoffSecs consecutive429s retryAfter
  (secs, { backoffUntil := some (now + seconds secs.toNat), consecutive429s })

/-- RUST: execution/jupiter.rs:155-161. -/
def clearRateLimit (_ : RateLimitState) : RateLimitState :=
  { backoffUntil := none, consecutive429s := 0 }

end RateLimitState

/-! ## Requests -/

/-- What can be wrong with the price impact of a quote. -/
inductive ImpactFault where
  | unreadable
  | negativeOrNonFinite
deriving DecidableEq

/-- What is read of the JSON of a quote: the text of the whole, the price impact in basis points,
and the amounts where they are strings. -/
structure QuoteBody where
  route : String
  priceImpactBps : Except ImpactFault UInt32
  inAmount : Option String
  outAmount : Option String
deriving DecidableEq

/-- The reply to a quote request. -/
inductive QuoteReply where
  | transport (error : String)
  | rateLimited (retryAfter : Option UInt64)
  | httpError (error : String)
  | badJson (error : String)
  | body (quote : QuoteBody)
deriving DecidableEq

/-- What the users of an executor ask of its window and of the outside world. -/
inductive QuoteOp where
  | rateLimitRemaining
  | getQuote (inputMint outputMint : String) (amount : UInt64) (slippageBps : UInt16)
      (apiKey : Option String)
  | net (o : NetOp)

/-- The answers. -/
def QuoteRes : QuoteOp → Type
  | .rateLimitRemaining => Option ℕ
  | .getQuote .. => QuoteReply
  | .net o => NetRes o

/-- A part of a quote, which stops at the first error. -/
abbrev Quoting (α : Type) := Prog.Fallible QuoteOp QuoteRes ExecutionError α

/-- A request whose answer is looked at. -/
def consult (o : QuoteOp) : Quoting (QuoteRes o) :=
  monadLift (Prog.perform o : Prog QuoteOp QuoteRes (QuoteRes o))

/-- The error of a quote. -/
def reject {α : Type} (e : ExecutionError) : Quoting α := ExceptT.mk (pure (.error e))

/-- A part of the execution, with the window shared. -/
def Execution.shared {α : Type} (p : Execution α) : Quoting α :=
  ExceptT.mk ((ExceptT.run p).interpret fun o => Prog.perform (.net o))

/-- RUST: execution/jupiter.rs:324-331. -/
def parseAmount (name : String) : Option String → Except ExecutionError UInt64
  | none => .error (.quote ("missing " ++ name))
  | some text =>
      match parseU64Text text.toList with
      | some n => .ok n
      | none => .error (.quote ("invalid " ++ name))

namespace JupiterExecutor

/-- RUST: execution/jupiter.rs:324-349. -/
def readQuote (inputMint outputMint : String) (body : QuoteBody) : Quoting Quote := do
  match body.priceImpactBps with
  | .error .unreadable => reject (.quote "invalid price impact")
  | .error .negativeOrNonFinite => reject (.quote "invalid negative/non-finite price impact")
  | .ok priceImpactBps =>
      let inputAmount ← ExceptT.mk (pure (parseAmount "inAmount" body.inAmount))
      let outputAmount ← ExceptT.mk (pure (parseAmount "outAmount" body.outAmount))
      let observedAt ← consult (.net .utcNow)
      return { inputMint, outputMint, inputAmount, outputAmount, priceImpactBps, route := body.route,
               observedAt }

/-- RUST: execution/jupiter.rs:286-349. The request, once the window has let it pass. -/
def requestQuote (x : JupiterExecutor) (inputMint outputMint : String) (amount : UInt64)
    (slippageBps : UInt16) : Quoting Quote := do
  let apiKey ← x.apiKey.shared
  match ← consult (.getQuote inputMint outputMint amount slippageBps apiKey) with
  | .transport e => reject (.quote e)
  | .rateLimited retryAfter =>
      let secs : UInt64 ← consult (.net (.recordRateLimit retryAfter))
      reject (.unavailable ("Jupiter HTTP 429 rate-limited; backing off " ++ toString secs ++ "s"))
  | .httpError e => reject (.quote e)
  | .badJson e => reject (.quote e)
  | .body body =>
      let _ ← consult (.net .clearRateLimit)
      readQuote inputMint outputMint body

/-- RUST: execution/jupiter.rs:262-350. -/
def quote (x : JupiterExecutor) (inputMint outputMint : String) (amount : UInt64)
    (slippageBps : UInt16) : Quoting Quote := do
  if amount = 0 then reject (.quote "quote amount must be non-zero")
  else
    let remaining : Option ℕ ← consult .rateLimitRemaining
    match remaining with
    | some ms =>
        reject (.unavailable ("Jupiter rate-limited; retry in " ++ toString (ms / 1000) ++ "s"))
    | none => x.requestQuote inputMint outputMint amount slippageBps

end JupiterExecutor

/-! ## The shared window -/

/-- What an operation meets: the clock, and the answer of the outside world. -/
structure QuoteEnv where
  now : Time
  answer : (o : QuoteOp) → QuoteRes o

/-- The operations on the window; all others leave it alone. -/
def execLimited (e : QuoteEnv) : (o : QuoteOp) → RateLimitState → QuoteRes o × RateLimitState
  | .rateLimitRemaining, s => (s.rateLimitRemaining e.now, s)
  | .net (.recordRateLimit retryAfter), s => s.recordRateLimit e.now retryAfter
  | .net .clearRateLimit, s => ((), s.clearRateLimit)
  | o, s => (e.answer o, s)

/-- The window of an executor, and its users. -/
def limited : Machine QuoteOp QuoteRes RateLimitState QuoteEnv := ⟨execLimited⟩

/-- A user of the executor: it asks for quotes and executes swaps, and goes on by what it was
answered. -/
inductive IsUser (x : JupiterExecutor) : Prog QuoteOp QuoteRes Unit → Prop
  | done : IsUser x (.done ())
  | quote (inputMint outputMint : String) (amount : UInt64) (slippageBps : UInt16)
      {rest : Except ExecutionError Quote → Prog QuoteOp QuoteRes Unit}
      (hrest : ∀ answer, IsUser x (rest answer)) :
      IsUser x ((x.quote inputMint outputMint amount slippageBps).run >>= rest)
  | execute (r : ExecutionRequest)
      {rest : Except ExecutionError Fill → Prog QuoteOp QuoteRes Unit}
      (hrest : ∀ answer, IsUser x (rest answer)) :
      IsUser x ((x.execute r).shared.run >>= rest)

end SolanaBot.Model
