import SolanaBot.Model.Effects
import SolanaBot.Model.Network

/-!
# The start of a live session

`validate_live_startup` (`main.rs:379-466`): the checks before a live session, and the identity of the
wallet that it leaves in the store for the next one. The key `runtime:signer` of the key-value table is
read and written by nothing else, so it is kept beside the database.
-/

set_option autoImplicit false

namespace SolanaBot.Model

/-- The store of a live bot. -/
structure LiveStore where
  signer : Option String
  db : Db

/-- What the checks meet: the environment variables, the balance of the wallet, and the failures of the
statements on the store. -/
structure StartEnv where
  /-- The public key of the secret in a variable. -/
  readSigner : String → Except SecretFault String
  readVar : String → Option String
  balanceLamports : String → Except String UInt64
  /-- The stored signer cannot be read. -/
  signerFault : Option String
  killSwitchFault : Option String
  ordersFault : Option String
  /-- The second reading of the orders, for the number in a warning. -/
  countFault : Option String
  writeFault : Option String

/-- RUST: main.rs:386-399. The public key of the trading wallet. -/
def liveSigner (c : Config) (e : StartEnv) : Except String String :=
  match c.execution.liveSignerEnv with
  | none => .error "live mode requires live_signer_env"
  | some name =>
      match e.readSigner name with
      | .ok signer => .ok signer
      | .error .absent => .error ("live signer env var " ++ name ++ " not set")
      | .error .notBytes => .error "live signer env var must contain a JSON byte array"
      | .error .invalidKeypair => .error "live signer is not a valid Solana keypair"

/-- RUST: main.rs:401-412. -/
def checkApiKey (c : Config) (e : StartEnv) : Except String Unit :=
  match c.execution.jupiterApiKeyEnv with
  | none => .error "live mode requires jupiter_api_key_env"
  | some name =>
      match e.readVar name with
      | none => .error ("Jupiter API key env var " ++ name ++ " not set")
      | some key => rejectIf (isBlank key = true) ("Jupiter API key env var " ++ name ++ " is empty")

/-- RUST: main.rs:419. A tenth of a SOL. -/
def solRequired : UInt64 := 100000000

/-- RUST: main.rs:415-427. -/
def checkBalance (e : StartEnv) (signer : String) : Except String Unit :=
  match e.balanceLamports signer with
  | .error _ => .error "failed to read wallet SOL balance"
  | .ok balance =>
      rejectIf (balance < solRequired) ("trading wallet " ++ signer ++ " has insufficient SOL: " ++
        toString balance ++ " lamports (need at least " ++ toString solRequired ++ ")")

/-- RUST: main.rs:432-442. A stored signer that cannot be read is passed over. -/
def checkStoredSigner (e : StartEnv) (s : LiveStore) (signer : String) : Except String Unit :=
  match e.signerFault, s.signer with
  | none, some stored =>
      rejectIf (stored ≠ signer) ("signer mismatch: configured wallet " ++ signer ++
        ", persisted wallet " ++ stored ++
        ". This may indicate a different wallet was used previously.")
  | _, _ => .ok ()

/-- RUST: main.rs:452-461. Unresolved orders are only counted for a warning. -/
def checkInterlocks (e : StartEnv) (db : Db) : Except String Unit :=
  match e.killSwitchFault, db.killSwitch with
  | some msg, _ => .error msg
  | none, some _ =>
      .error "persisted kill switch is latched; operator review required before trading"
  | none, none =>
      match e.ordersFault with
      | some msg => .error msg
      | none =>
          if db.incompleteOrders.orders.isEmpty then .ok ()
          else
            match e.countFault with
            | some msg => .error msg
            | none => .ok ()

/-- RUST: main.rs:379-461. The signer that has passed the checks. -/
def checkLiveStartup (c : Config) (e : StartEnv) (s : LiveStore) : Except String String := do
  let signer ← liveSigner c e
  checkApiKey c e
  checkBalance e signer
  checkStoredSigner e s signer
  checkInterlocks e s.db
  return signer

/-- RUST: main.rs:379-466. -/
def validateLiveStartup (c : Config) (e : StartEnv) (s : LiveStore) : Except String Unit × LiveStore :=
  match checkLiveStartup c e s with
  | .error msg => (.error msg, s)
  | .ok signer =>
      match e.writeFault with
      | some msg => (.error msg, s)
      | none => (.ok (), { s with signer := some signer })

end SolanaBot.Model
