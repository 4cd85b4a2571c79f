import Mathlib.Data.List.Infix
import SolanaBot.Model.Network

/-!
# The live executor

`JupiterExecutor::execute` (`execution/jupiter.rs`): the checks of the quote, the provider's
transaction, its submission, the polling of its confirmation, the verification of its outcome,
and the fill. To the trading tasks all of it is one operation with an arbitrary answer
(`Op.execute`).
-/

set_option autoImplicit false

namespace SolanaBot.Model

open SolanaBot.Library

/-- RUST: execution/jupiter.rs:37-50. Durations are in milliseconds. -/
structure JupiterExecutor where
  rpc : RpcPool
  signerEnv : Option String
  apiKeyEnv : Option String
  maxQuoteAgeSecs : Int
  maxFeeLamports : UInt64
  allowedProgramIds : List String
  priorityFeeLamports : UInt64
  confirmTimeout : ℕ
  confirmPoll : ℕ
  /-- RUST: config/types.rs:362-366. -/
  confirmPoll_pos : 0 < confirmPoll

/-- A part of the execution, which stops at the first error. -/
abbrev Execution (α : Type) := Prog.Fallible NetOp NetRes ExecutionError α

/-- A request whose answer is looked at. -/
def inquire (o : NetOp) : Execution (NetRes o) := monadLift (request o)

/-- A computed error, passed on with `?`. -/
def ensure {α : Type} (r : Except ExecutionError α) : Execution α := ExceptT.mk (pure r)

/-! ## Refusals -/

/-- The lower case of a character, as far as it can contain ASCII letters: besides the ASCII
capitals these are the Kelvin sign and the dotted capital I. -/
def lowerChar (c : Char) : List Char :=
  if c.isUpper then [c.toLower]
  else if c = '\u212A' then ['k']
  else if c = '\u0130' then ['i', '\u0307']
  else [c]

/-- RUST: str::to_lowercase, up to characters that are no ASCII letters. -/
def lowercase (s : String) : List Char := s.toList.flatMap lowerChar

/-- RUST: execution/jupiter.rs:167-169, the texts that are searched for. -/
def refusalTexts : List String := ["simulation failed", "blockhash", "block hash"]

/-- RUST: execution/jupiter.rs:166-170. -/
def isRefusal (detail : String) : Bool :=
  refusalTexts.any fun text => decide (text.toList <:+: lowercase detail)

/-- RUST: execution/jupiter.rs:162-178. -/
def classifySubmitError (detail : String) : ExecutionError :=
  if isRefusal detail then
    .transaction ("submission refused deterministically: " ++ detail)
  else .unknown none ("submission not confirmed: " ++ detail)

namespace JupiterExecutor

/-! ## Fees -/

/-- RUST: execution/jupiter.rs:112-121. -/
def verifyOnchainFee (feeLamports maxFeeLamports : UInt64) : Except ExecutionError Unit :=
  if feeLamports > maxFeeLamports then
    .error (.policy ("on-chain transaction fee " ++ toString feeLamports ++
      " lamports exceeds configured maximum " ++ toString maxFeeLamports))
  else .ok ()

/-- RUST: execution/jupiter.rs:122-136. -/
def verifyPresubmissionFee (priorityFeeLamports maxFeeLamports : UInt64) :
    Except ExecutionError Unit :=
  let estimatedTotal := priorityFeeLamports + 5000
  if estimatedTotal > maxFeeLamports then
    .error (.policy ("estimated transaction fee " ++ toString estimatedTotal ++
      " lamports (priority " ++ toString priorityFeeLamports ++
      " + base 5000) exceeds configured maximum " ++ toString maxFeeLamports))
  else .ok ()

/-! ## Before the submission -/

/-- RUST: execution/jupiter.rs:354-362. -/
def checkQuote (x : JupiterExecutor) (r : ExecutionRequest) (now : Time) :
    Except ExecutionError Unit :=
  if now - r.quote.observedAt > seconds x.maxQuoteAgeSecs then .error .staleQuote
  else if r.quote.priceImpactBps > r.maxPriceImpactBps then .error .invalidQuote
  else if r.quote.outputAmount = 0 ∨ r.quote.outputAmount < r.minOutputAmount then
    .error .invalidQuote
  else .ok ()

/-- RUST: execution/jupiter.rs:83-95. The public key of the signer. -/
def signer (x : JupiterExecutor) : Execution String := do
  match x.signerEnv with
  | none =>
      ensure (.error (.unavailable "live signer environment variable is not configured"))
  | some name =>
      match ← inquire (.readSigner name) with
      | .ok key => return key
      | .error .absent => ensure (.error (.unavailable "live signer secret is absent"))
      | .error .notBytes => ensure (.error (.unavailable "live signer must be a JSON byte array"))
      | .error .invalidKeypair => ensure (.error (.unavailable "invalid signer keypair"))

/-- RUST: execution/jupiter.rs:96-111. -/
def apiKey (x : JupiterExecutor) : Execution (Option String) := do
  match x.apiKeyEnv with
  | none => return none
  | some "" => return none
  | some name =>
      match ← inquire (.readApiKey name) with
      | .ok none => return none
      | .ok (some "") => return none
      | .ok (some key) => return some key
      | .error e => ensure (.error (.unavailable ("Jupiter API key env var error: " ++ e)))

/-- RUST: execution/jupiter.rs:379-409. The encoded transaction of the provider. -/
def requestSwap (body : SwapBody) : Execution String := do
  match ← inquire (.postSwap body) with
  | .transport e => ensure (.error (.transaction e))
  | .rateLimited retryAfter =>
      let secs : UInt64 ← inquire (.recordRateLimit retryAfter)
      ensure (.error (.unavailable ("Jupiter swap HTTP 429 rate-limited; backing off " ++
        toString secs ++ "s")))
  | .httpError e => ensure (.error (.transaction e))
  | .badJson e => ensure (.error (.transaction e))
  | .body encoded =>
      let _ ← inquire .clearRateLimit
      match encoded with
      | some encoded => return encoded
      | none => ensure (.error (.transaction "provider omitted transaction"))

/-- RUST: execution/jupiter.rs:410-430. The signed transaction in its wire format. -/
def signTransaction (x : JupiterExecutor) (owner encoded : String) : Execution String := do
  match ← inquire (.decode encoded) with
  | .error .encoding =>
      ensure (.error (.transaction "invalid provider transaction encoding"))
  | .error .transaction => ensure (.error (.transaction "invalid provider transaction"))
  | .ok unsigned =>
      match ← inquire (.validate unsigned owner x.allowedProgramIds) with
      | .error e => ensure (.error (.policy e))
      | .ok () =>
          match ← inquire (.sign unsigned) with
          | .ok wire => return wire
          | .error .sign => ensure (.error (.transaction "could not sign provider transaction"))
          | .error .serialize => ensure (.error (.transaction "could not serialize transaction"))

/-- RUST: execution/jupiter.rs:354-430. The owner and the transaction to submit. -/
def prepare (x : JupiterExecutor) (r : ExecutionRequest) : Execution (String × String) := do
  let now ← inquire .utcNow
  ensure (x.checkQuote r now)
  let owner ← x.signer
  let apiKey ← x.apiKey
  ensure (verifyPresubmissionFee x.priorityFeeLamports x.maxFeeLamports)
  let encoded ← requestSwap
    { quoteResponse := r.quote.route
      userPublicKey := owner
      prioritizationFeeLamports := x.priorityFeeLamports
      apiKey }
  let wire ← x.signTransaction owner encoded
  return (owner, wire)

/-! ## From the submission on -/

/-- RUST: execution/jupiter.rs:431-435. The signature. -/
def submit (x : JupiterExecutor) (wire : String) : Net (Except ExecutionError String) := do
  let sent ← x.rpc.call (.sendTransaction wire)
  match sent with
  | .ok (some signature) => return .ok signature
  | .ok none =>
      return .error (.unknown none "missing transaction signature in submission response")
  | .error e =>
      if e.isAvailability then return .error (classifySubmitError e.toText)
      else return .error (.unknown none e.toText)

/-- RUST: execution/jupiter.rs:229-258, the turns of the loop after the clock was read as `now`. -/
def awaitLoop (x : JupiterExecutor) (signature : String) (deadline : Time) :
    ℕ → Time → Net (Except ExecutionError Unit)
  | 0, _ => return .error (.unknown (some signature) "confirmation window elapsed")
  | turns + 1, now => do
      let t ← request (.pause x.confirmPoll now)
      if t.val ≥ deadline then
        return .error (.unknown (some signature) "confirmation window elapsed")
      else
        let status ← x.rpc.signatureStatus signature
        match status with
        | .ok (some status) =>
            match status.err with
            | some err => return .error (.transaction ("on-chain failure: " ++ err))
            | none =>
                if status.isConfirmedOrFinalized then return .ok ()
                else x.awaitLoop signature deadline turns t.val
        | .ok none => x.awaitLoop signature deadline turns t.val
        | .error e =>
            if e.isAvailability then x.awaitLoop signature deadline turns t.val
            else return .error (.unknown (some signature) e.toText)

/-- The turns until the window has elapsed: every turn sleeps for `confirmPoll`. -/
def confirmTurns (x : JupiterExecutor) : ℕ := x.confirmTimeout / x.confirmPoll + 1

/-- RUST: execution/jupiter.rs:227-259. -/
def awaitConfirmation (x : JupiterExecutor) (signature : String) :
    Net (Except ExecutionError Unit) := do
  let now : Time ← request .instant
  x.awaitLoop signature (now + x.confirmTimeout) x.confirmTurns now

/-- RUST: execution/jupiter.rs:188-225, the tries that remain. -/
def verifyTries (x : JupiterExecutor) (signature inputMint outputMint owner : String)
    (expectedInput : UInt64) : ℕ → Net (Except ExecutionError ChainSwapOutcome)
  | 0 => return .error (.unknown (some signature) "transaction not indexed after confirmation")
  | tries + 1 => do
      let tx ← x.rpc.transaction signature
      match tx with
      | .ok (some tx) =>
          match parseSwapTransaction tx inputMint outputMint owner expectedInput with
          | .executed o => return .ok o
          | .failed err => return .error (.transaction ("on-chain failure: " ++ err))
          | .unverifiable detail => return .error (.unknown (some signature) detail)
      | .ok none =>
          let _ ← request (.sleep 400)
          x.verifyTries signature inputMint outputMint owner expectedInput tries
      | .error e =>
          if e.isAvailability then
            let _ ← request (.sleep 400)
            x.verifyTries signature inputMint outputMint owner expectedInput tries
          else return .error (.unknown (some signature) e.toText)

/-- RUST: execution/jupiter.rs:179-226. -/
def verifyOutcome (x : JupiterExecutor) (signature inputMint outputMint owner : String)
    (expectedInput : UInt64) : Net (Except ExecutionError ChainSwapOutcome) :=
  x.verifyTries signature inputMint outputMint owner expectedInput 3

/-- RUST: u64::try_from on a number of milliseconds, with the largest value for an overflow. -/
def latency (elapsed : Int) : UInt64 := (toU64 elapsed).getD (UInt64.ofNat (2 ^ 64 - 1))

/-- RUST: execution/jupiter.rs:446-466. The fill of a verified outcome. -/
def priceOutcome (x : JupiterExecutor) (r : ExecutionRequest) (signature : String)
    (started : Time) (outcome : ChainSwapOutcome) : Execution Fill := do
  ensure (verifyOnchainFee outcome.feeLamports x.maxFeeLamports)
  let value ← ensure (r.valueBasis.priceFill outcome.inputAmount r.inputDecimals
    outcome.outputAmount r.outputDecimals)
  let confirmedAt ← inquire .utcNow
  let finished : Time ← inquire .instant
  return {
    orderId := r.orderId
    signature
    inputAmount := outcome.inputAmount
    outputAmount := outcome.outputAmount
    priceUsd := value.2
    feesUsd := 0
    slippageBps := 0
    confirmedAt
    latencyMs := latency (finished - started)
    feeLamports := outcome.feeLamports
    inputValueUsd := some value.1
    expectedOutputAmount := some r.quote.outputAmount }

/-- RUST: execution/jupiter.rs:436-466. What follows the submission. -/
def settle (x : JupiterExecutor) (r : ExecutionRequest) (owner signature : String)
    (started : Time) : Execution Fill := do
  ExceptT.mk (x.awaitConfirmation signature)
  let outcome ← ExceptT.mk (x.verifyOutcome signature r.quote.inputMint r.quote.outputMint owner
    r.quote.inputAmount)
  x.priceOutcome r signature started outcome

/-- RUST: execution/jupiter.rs:352-467. -/
def execute (x : JupiterExecutor) (r : ExecutionRequest) : Execution Fill := do
  let started ← inquire .instant
  let p ← x.prepare r
  let signature ← ExceptT.mk (x.submit p.2)
  x.settle r p.1 signature started

end JupiterExecutor

end SolanaBot.Model
