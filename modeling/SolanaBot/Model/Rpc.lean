import SolanaBot.Model.Execution

/-!
# Answers of the RPC pool

The answer types and the error type of `data/rpc.rs`, and the reconciliation of one
signature from two such answers (`execution/jupiter.rs:483-532`). A JSON value that
is only printed is its text.
-/

set_option autoImplicit false

namespace SolanaBot.Model

/-- RUST: data/rpc.rs:30-38. -/
inductive RpcError where
  | unavailable (detail : String)
  | http (detail : String)
  | invalid (detail : String)
deriving DecidableEq

/-- RUST: data/rpc.rs:39-45. -/
def RpcError.isAvailability : RpcError → Bool
  | .unavailable _ | .http _ => true
  | .invalid _ => false

/-- RUST: data/rpc.rs:30-38, the error texts. -/
def RpcError.toText : RpcError → String
  | .unavailable d => "no RPC endpoint succeeded: " ++ d
  | .http d => "HTTP client: " ++ d
  | .invalid d => "invalid RPC response: " ++ d

/-- RUST: data/rpc.rs:66-71. The slot is not read. -/
structure SignatureStatus where
  err : Option String
  confirmationStatus : Option String
deriving DecidableEq

/-- RUST: data/rpc.rs:74-79. -/
def SignatureStatus.isConfirmedOrFinalized (s : SignatureStatus) : Bool :=
  s.confirmationStatus = some "confirmed" || s.confirmationStatus = some "finalized"

/-- RUST: data/rpc.rs:82-87. -/
structure TokenBalance where
  mint : String
  amount : UInt64
  decimals : UInt8
deriving DecidableEq

/-- RUST: execution/jupiter.rs:491-509, the reading of the signature status: an answer, or
the error or the silence that `reconcile_signature` returns without fetching the transaction. -/
def readStatus (signature : String) (status : Except RpcError (Option SignatureStatus)) :
    Except ExecutionError Bool :=
  match status with
  | .error e => .error (.unknown (some signature) e.toText)
  | .ok none => .ok false
  | .ok (some s) =>
      match s.err with
      | some err => .error (.transaction ("on-chain failure: " ++ err))
      | none => .ok s.isConfirmedOrFinalized

/-- RUST: execution/jupiter.rs:510-531, the reading of the fetched transaction. -/
def readTransaction (signature inputMint outputMint owner : String) (expectedInput : UInt64)
    (tx : Except RpcError (Option Transaction)) :
    Except ExecutionError (Option ChainSwapOutcome) :=
  match tx with
  | .error e => .error (.unknown (some signature) e.toText)
  | .ok none => .ok none
  | .ok (some tx) =>
      match parseSwapTransaction tx inputMint outputMint owner expectedInput with
      | .executed o => .ok (some o)
      | .failed err => .error (.transaction ("on-chain failure: " ++ err))
      | .unverifiable detail => .error (.unknown (some signature) detail)

end SolanaBot.Model
