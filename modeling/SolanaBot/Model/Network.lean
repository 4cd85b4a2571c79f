import SolanaBot.Library.Resumption
import SolanaBot.Model.Rpc

/-!
# Requests over the network

The HTTP requests of the live executor and of the RPC pool (`data/rpc.rs:116-233`), as
programs over `NetOp`. Every reply is arbitrary within its type. A request that is sent is
answered or fails within the timeout of its client.

The result of a JSON-RPC call is typed by its method: what the caller reads of the JSON
value. The semaphore that bounds concurrent `getTransaction` calls is never closed, and is
left out.
-/

set_option autoImplicit false

namespace SolanaBot.Model

open SolanaBot.Library

/-- The JSON-RPC methods that the execution of a swap uses. -/
inductive RpcMethod where
  | sendTransaction (wire : String)
  | getSignatureStatuses (signature : String)
  | getTransaction (signature : String)
deriving DecidableEq

/-- What is read of the result of a method: the signature if it is a string, the entry of the
signature, the transaction; `none` for a JSON null. -/
def RpcMethod.Value : RpcMethod → Type
  | .sendTransaction _ => Option String
  | .getSignatureStatuses _ => Option SignatureStatus
  | .getTransaction _ => Option Transaction

/-- Values of a method can be compared. -/
instance : (m : RpcMethod) → DecidableEq m.Value
  | .sendTransaction _ => inferInstanceAs (DecidableEq (Option String))
  | .getSignatureStatuses _ => inferInstanceAs (DecidableEq (Option SignatureStatus))
  | .getTransaction _ => inferInstanceAs (DecidableEq (Option Transaction))

/-- An HTTP request that brought no result. -/
inductive HttpFailure where
  | transport (error : String)
  | rateLimited (status : String) (retryAfter : Option UInt64)
  /-- A JSON object with an `error` member. -/
  | rpcError (status : String) (message : Option String)
  | badBody (status error : String)
deriving DecidableEq

/-- RUST: data/rpc.rs:180-229, the line that is pushed to the errors. -/
def HttpFailure.line (endpoint : String) : HttpFailure → String
  | .transport e => endpoint ++ ": " ++ e
  | .rateLimited status _ => endpoint ++ " [" ++ status ++ "]: 429 rate-limited"
  | .rpcError status message => endpoint ++ " [" ++ status ++ "]: " ++ message.getD "unknown"
  | .badBody status e => endpoint ++ " [" ++ status ++ "]: " ++ e

/-- RUST: execution/jupiter.rs:365-371. The constant members of the body are left out. -/
structure SwapBody where
  quoteResponse : String
  userPublicKey : String
  prioritizationFeeLamports : UInt64
  apiKey : Option String
deriving DecidableEq

/-- The reply of the swap provider. -/
inductive SwapReply where
  | transport (error : String)
  | rateLimited (retryAfter : Option UInt64)
  | httpError (error : String)
  | badJson (error : String)
  | body (swapTransaction : Option String)
deriving DecidableEq

/-- What can go wrong when the signer's secret is read. -/
inductive SecretFault where
  | absent
  | notBytes
  | invalidKeypair
deriving DecidableEq

/-- What can go wrong when the provider's transaction is decoded. -/
inductive DecodeFault where
  | encoding
  | transaction
deriving DecidableEq

/-- What can go wrong when the transaction is signed and serialized. -/
inductive SignFault where
  | sign
  | serialize
deriving DecidableEq

/-- What the executor asks of the outside world. -/
inductive NetOp where
  | utcNow
  | instant
  | sleep (ms : ℕ)
  /-- A sleep after the clock was read as `since`, and the next reading of the clock. -/
  | pause (ms : ℕ) (since : Time)
  | readSigner (name : String)
  | readApiKey (name : String)
  | postSwap (body : SwapBody)
  /-- The window of the rate limiter is shared with other tasks. -/
  | recordRateLimit (retryAfter : Option UInt64)
  | clearRateLimit
  | decode (encoded : String)
  | validate (unsigned payer : String) (allowedProgramIds : List String)
  | sign (unsigned : String)
  | post (endpoint : String) (method : RpcMethod)

/-- The answers. Transactions are opaque texts. A sleep takes at least its time. -/
def NetRes : NetOp → Type
  | .utcNow => Time
  | .instant => Time
  | .sleep _ => Unit
  | .pause ms since => { t : Time // since + ms ≤ t }
  | .readSigner _ => Except SecretFault String
  | .readApiKey _ => Except String (Option String)
  | .postSwap _ => SwapReply
  | .recordRateLimit _ => UInt64
  | .clearRateLimit => Unit
  | .decode _ => Except DecodeFault String
  | .validate .. => Except String Unit
  | .sign _ => Except SignFault String
  | .post _ method => Except HttpFailure method.Value

/-- A computation that uses the network. -/
abbrev Net (α : Type) := Prog NetOp NetRes α

/-- Perform an operation and use its answer at the type that `NetRes` gives it. -/
abbrev request (o : NetOp) : Net (NetRes o) := Prog.perform o

/-- RUST: data/rpc.rs:46-57. -/
structure RpcPool where
  endpoints : List String
  maxAttempts : ℕ
deriving DecidableEq

namespace RpcPool

/-- RUST: data/rpc.rs:120-133. -/
def withAttempts (endpoints : List String) (maxAttempts : ℕ) : RpcPool :=
  { endpoints, maxAttempts := max maxAttempts 1 }

/-- RUST: data/rpc.rs:10-21. -/
def rateLimitBackoff (step : UInt32) : ℕ := min (350 * 2 ^ min step.toNat 4) 5000

/-- RUST: data/rpc.rs:187-194. -/
def backoff (step : UInt32) : Option UInt64 → ℕ
  | some secs => min (secs.toNat * 1000) 5000
  | none => rateLimitBackoff step

/-- RUST: data/rpc.rs:171-229, one pass over the endpoints: the first result, or the errors so
far and the number of rate limited requests so far. -/
def tryEndpoints (method : RpcMethod) :
    List String → List String → UInt32 → Net (Except (List String × UInt32) method.Value)
  | [], errors, step => return .error (errors, step)
  | endpoint :: endpoints, errors, step => do
      let reply ← request (.post endpoint method)
      match reply with
      | .ok value => return .ok value
      | .error (.rateLimited status retryAfter) =>
          let _ ← request (.sleep (backoff step retryAfter))
          tryEndpoints method endpoints
            (errors ++ [(HttpFailure.rateLimited status retryAfter).line endpoint])
            (saturatingSucc step)
      | .error failure => tryEndpoints method endpoints (errors ++ [failure.line endpoint]) step

/-- RUST: data/rpc.rs:166-170, before every pass but the first. -/
def betweenPasses (attempt : ℕ) : Net Unit :=
  if attempt > 0 then do
    let _ ← request (.sleep (500 * 2 ^ min attempt 4))
    return ()
  else return ()

/-- RUST: data/rpc.rs:165-232, the passes that remain. -/
def tryPasses (pool : RpcPool) (method : RpcMethod) :
    ℕ → ℕ → List String → UInt32 → Net (Except RpcError method.Value)
  | 0, _, errors, _ => return .error (.unavailable ("; ".intercalate errors))
  | passes + 1, attempt, errors, step => do
      betweenPasses attempt
      let pass ← tryEndpoints method pool.endpoints errors step
      match pass with
      | .ok value => return .ok value
      | .error (errors, step) => tryPasses pool method passes (attempt + 1) errors step

/-- RUST: data/rpc.rs:161-233. -/
def call (pool : RpcPool) (method : RpcMethod) : Net (Except RpcError method.Value) :=
  pool.tryPasses method pool.maxAttempts 0 [] 0

/-- RUST: data/rpc.rs:286-310. -/
def signatureStatus (pool : RpcPool) (signature : String) :
    Net (Except RpcError (Option SignatureStatus)) :=
  pool.call (.getSignatureStatuses signature)

/-- RUST: data/rpc.rs:319-331. -/
def transaction (pool : RpcPool) (signature : String) :
    Net (Except RpcError (Option Transaction)) :=
  pool.call (.getTransaction signature)

end RpcPool

end SolanaBot.Model
