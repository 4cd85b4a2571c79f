import SolanaBot.Library.Interleaving
import SolanaBot.Model.Config
import SolanaBot.Model.Rpc
import SolanaBot.Model.Storage

/-!
# The operations of the trading tasks

The session, the exit monitor, the operator's commands and the reconcilers are tasks
(`Prog`) over one set of operations: statements on the shared store, and calls to the
outside world (clock, executor, RPC, feeds). Between two operations a task only
computes, so every point at which tasks can interleave is an operation.

`world` gives the operations their meaning on the database. Each performed operation
meets an `Env`: whether its statement fails, the time, and the answer of the outside
world. An answer of the outside world is arbitrary, within its type.

Some operations carry the in-memory record from which their argument was derived
(`SaveBasis`, `copy`, `seen`). These annotations are not looked at by `world`.
-/

set_option autoImplicit false

namespace SolanaBot.Model

open SolanaBot.Library

/-- RUST: runtime.rs:40-70. The timestamps that are only logged are left out. -/
structure CandidateInput where
  mint : String
  tokenDecimals : Option UInt8
  baseMintDecimals : Option UInt8
  inputAmount : UInt64
  positionUsd : Decimal
  expectedGrossReturnPct : Decimal
  market : MarketSnapshot
  safety : TokenSafety
  wallets : List WalletStats
  costs : CostModel
  detectionTimestamp : Time
deriving DecidableEq

/-- How a saved position came out of the record that the task had loaded. -/
inductive SaveBasis where
  | marked (copy : Position) (price : Decimal)
  | adopted (copy : Position) (onChainAmount : UInt64) (decimals : UInt8) (now : Time)
deriving DecidableEq

/-- What a task asks of the store and of the outside world. -/
inductive Op where
  -- the store
  | positions
  | savePosition (basis : SaveBasis) (p : Position)
  /-- `seen` is what the task read in its check for exits in flight. -/
  | reserveOrder (seen : List OrderRecord) (o : OrderRecord)
  | updateOrder (copy o : OrderRecord)
  | incompleteOrders
  | orders
  | fillTransaction (t : FillTransaction)
  | unaccountedFill (fill : Fill) (order : OrderRecord)
  | setLastLiquidity (mint : String) (liquidityUsd : Decimal)
  | lastLiquidity (mint : String)
  | isSignalInvalidated (signalId : String)
  | emergencyStop
  | killSwitchReason
  | latchKillSwitch (reason : String)
  | getDay
  | getDayStartEquity
  | getTradesToday
  | putDay (day : Int)
  | putDayStartEquity (equity : Decimal)
  | putTradesToday (trades : UInt32)
  -- clocks, identifiers, orders of iteration, number texts
  | now
  | instant
  | newUuid
  | hashOrder (keys : List String)
  | parseU64 (d : Decimal)
  | parseU32 (d : Decimal)
  -- executor, RPC and feeds
  | quote (inputMint outputMint : String) (amount : UInt64) (slippageBps : UInt16)
  | execute (request : ExecutionRequest)
  | registerQuote (quote : Quote)
  | tokenBalances (owner : String)
  | signatureStatus (signature : String)
  | transaction (signature : String)
  | fetchSolPriceUsd
  | newWalletMonitor
  | walletMonitorTick
  | collectFromJsonl (path : String) (now : Time) (maxDataAgeSecs : Int)

/-- The answers. A failed statement answers with its message. -/
def Res : Op → Type
  | .positions => Except String (List Position)
  | .savePosition .. => Except String Unit
  | .reserveOrder .. => Except String Bool
  | .updateOrder .. => Except String Unit
  | .incompleteOrders => Except String IncompleteOrders
  | .orders => Except String (List OrderRecord)
  | .fillTransaction _ => Except String Unit × OrderRecord
  | .unaccountedFill .. => Except String Unit
  | .setLastLiquidity .. => Except String Unit
  | .lastLiquidity _ => Except String (Option LiquidityEvidence)
  | .isSignalInvalidated _ => Except String Bool
  | .emergencyStop => Except String (Option String)
  | .killSwitchReason => Except String (Option String)
  | .latchKillSwitch _ => Except String Unit
  | .getDay => Except String (Option Int)
  | .getDayStartEquity => Except String (Option Decimal)
  | .getTradesToday => Except String (Option UInt32)
  | .putDay _ => Except String Unit
  | .putDayStartEquity _ => Except String Unit
  | .putTradesToday _ => Except String Unit
  | .now => Time
  | .instant => Time
  | .newUuid => String
  -- a hash map iterates over its keys in some order
  | .hashOrder keys => { l : List String // l.Perm keys }
  -- the text of a decimal is an integer's only if the decimal is one
  | .parseU64 d => { n : Option UInt64 // ∀ v, n = some v → dec v = d }
  | .parseU32 d => { n : Option UInt32 // ∀ v, n = some v → (v.toNat : ℚ) = d }
  | .quote .. => Except ExecutionError Quote
  | .execute _ => Except ExecutionError Fill
  | .registerQuote _ => Unit
  | .tokenBalances _ => Except RpcError (List TokenBalance)
  | .signatureStatus _ => Except RpcError (Option SignatureStatus)
  | .transaction _ => Except RpcError (Option Transaction)
  | .fetchSolPriceUsd => Except RpcError (Option Decimal)
  | .newWalletMonitor => Except String Unit
  | .walletMonitorTick => Except String (List CandidateInput)
  | .collectFromJsonl .. => List CandidateInput

/-- A task of the bot. -/
abbrev Task (α : Type) := Prog Op Res α

/-- A task that may stop with an error (`anyhow::Result`). -/
abbrev Attempt (α : Type) := Prog.Fallible Op Res String α

/-- A statement whose error is passed on with `?`. -/
def attempt {α : Type} (t : Task (Except String α)) : Attempt α := ExceptT.mk t

/-- A statement or call whose answer, error or not, is looked at. -/
def ask {α : Type} (t : Task α) : Attempt α := monadLift t

/-- Perform an operation and use its answer at the type that `Res` gives it. -/
abbrev call (o : Op) : Task (Res o) := Prog.perform o

namespace Store

/-- Reads all positions. -/
abbrev positions : Task (Except String (List Position)) := call .positions

/-- Writes a position. -/
abbrev savePosition (basis : SaveBasis) (p : Position) : Task (Except String Unit) :=
  call (.savePosition basis p)

/-- Reserves an order. -/
abbrev reserveOrder (seen : List OrderRecord) (o : OrderRecord) : Task (Except String Bool) :=
  call (.reserveOrder seen o)

/-- Writes an order that was read as the copy. -/
abbrev updateOrder (copy o : OrderRecord) : Task (Except String Unit) := call (.updateOrder copy o)

/-- Reads the orders that are not terminal. -/
abbrev incompleteOrders : Task (Except String IncompleteOrders) := call .incompleteOrders

/-- Reads all orders. -/
abbrev orders : Task (Except String (List OrderRecord)) := call .orders

/-- Accounts for a fill in one transaction. -/
abbrev fillTransaction (t : FillTransaction) : Task (Except String Unit × OrderRecord) :=
  call (.fillTransaction t)

/-- Records a fill that cannot be accounted for. -/
abbrev unaccountedFill (fill : Fill) (order : OrderRecord) : Task (Except String Unit) :=
  call (.unaccountedFill fill order)

/-- Writes the last liquidity of a mint. -/
abbrev setLastLiquidity (mint : String) (usd : Decimal) : Task (Except String Unit) :=
  call (.setLastLiquidity mint usd)

/-- Reads the last liquidity of a mint. -/
abbrev lastLiquidity (mint : String) : Task (Except String (Option LiquidityEvidence)) :=
  call (.lastLiquidity mint)

/-- Asks whether a signal is invalidated. -/
abbrev isSignalInvalidated (signalId : String) : Task (Except String Bool) :=
  call (.isSignalInvalidated signalId)

/-- Reads the emergency stop. -/
abbrev emergencyStop : Task (Except String (Option String)) := call .emergencyStop

/-- Reads why the kill switch is latched. -/
abbrev killSwitchReason : Task (Except String (Option String)) := call .killSwitchReason

/-- Latches the kill switch. -/
abbrev latchKillSwitch (reason : String) : Task (Except String Unit) :=
  call (.latchKillSwitch reason)

end Store

/-- RUST: Utc::now. -/
abbrev clock : Task Time := call .now

/-- RUST: Instant::now. -/
abbrev instant : Task Time := call .instant

/-- RUST: Decimal::to_string and str::parse. -/
abbrev parseU64 (d : Decimal) : Task { n : Option UInt64 // ∀ v, n = some v → dec v = d } :=
  call (.parseU64 d)

/-- RUST: Decimal::to_string and str::parse. -/
abbrev parseU32 (d : Decimal) :
    Task { n : Option UInt32 // ∀ v, n = some v → (v.toNat : ℚ) = d } :=
  call (.parseU32 d)

/-- RUST: Uuid::new_v4. -/
abbrev newUuid : Task String := call .newUuid

/-- The keys of a hash map in the order in which it is iterated over. -/
abbrev hashOrder (keys : List String) : Task { l : List String // l.Perm keys } :=
  call (.hashOrder keys)

namespace Executor

/-- Asks the executor for a quote. -/
abbrev quote (inputMint outputMint : String) (amount : UInt64) (slippageBps : UInt16) :
    Task (Except ExecutionError Quote) := call (.quote inputMint outputMint amount slippageBps)

/-- Asks the executor to execute a request. -/
abbrev execute (request : ExecutionRequest) : Task (Except ExecutionError Fill) :=
  call (.execute request)

/-- Registers a quote for the executor. -/
abbrev registerQuote (quote : Quote) : Task Unit := call (.registerQuote quote)

end Executor

namespace Rpc

/-- Asks an endpoint for the balances of an owner. -/
abbrev tokenBalances (owner : String) : Task (Except RpcError (List TokenBalance)) :=
  call (.tokenBalances owner)

/-- Asks an endpoint for the status of a signature. -/
abbrev signatureStatus (signature : String) : Task (Except RpcError (Option SignatureStatus)) :=
  call (.signatureStatus signature)

/-- Asks an endpoint for the transaction of a signature. -/
abbrev transaction (signature : String) : Task (Except RpcError (Option Transaction)) :=
  call (.transaction signature)

/-- Asks for the price of SOL. -/
abbrev fetchSolPriceUsd : Task (Except RpcError (Option Decimal)) := call .fetchSolPriceUsd

end Rpc

namespace Feed

/-- Reads the records of the feed. -/
abbrev collectFromJsonl (path : String) (now : Time) (maxDataAgeSecs : Int) :
    Task (List CandidateInput) := call (.collectFromJsonl path now maxDataAgeSecs)

/-- Starts the wallet monitor. -/
abbrev newWalletMonitor : Task (Except String Unit) := call .newWalletMonitor

/-- Takes what the wallet monitor has found. -/
abbrev walletMonitorTick : Task (Except String (List CandidateInput)) := call .walletMonitorTick

end Feed

/-- What the operation meets when it is performed. -/
structure Env where
  /-- The failure of a single statement. -/
  fault : Option String
  /-- The failures inside a transaction. -/
  txFaults : TxFaults
  clock : Time
  answer : (o : Op) → Res o

/-- A statement that fails, or answers and changes the database. -/
def statement {α : Type} (e : Env) (r : α × Db) (db : Db) : Except String α × Db :=
  match e.fault with
  | some msg => (.error msg, db)
  | none => (.ok r.1, r.2)

/-- The meaning of the operations on the database. -/
def exec (e : Env) : (o : Op) → Db → Res o × Db
  | .positions, db => statement e (db.positions.rows, db) db
  | .savePosition _ p, db => statement e ((), db.savePosition p) db
  | .reserveOrder _ o, db =>
      match e.fault with
      | some msg => (.error msg, db)
      | none => db.reserveOrder o
  | .updateOrder _ o, db => statement e ((), db.updateOrder o) db
  | .incompleteOrders, db => statement e (db.incompleteOrders, db) db
  | .orders, db => statement e (db.allOrders, db) db
  | .fillTransaction t, db => runFillTransaction e.txFaults t db
  | .unaccountedFill fill order, db => recordUnaccountedFill e.txFaults fill order db
  | .setLastLiquidity mint usd, db => statement e ((), db.setLastLiquidity mint usd e.clock) db
  | .lastLiquidity mint, db => statement e (db.liquidity.find? mint, db) db
  | .isSignalInvalidated id, db => statement e (db.invalidatedSignals.contains id, db) db
  | .emergencyStop, db => statement e (db.emergencyStop, db) db
  | .killSwitchReason, db => statement e (db.killSwitch, db) db
  | .latchKillSwitch reason, db => statement e ((), { db with killSwitch := some reason }) db
  | .getDay, db => statement e (db.day, db) db
  | .getDayStartEquity, db => statement e (db.dayStartEquity, db) db
  | .getTradesToday, db => statement e (db.tradesToday, db) db
  | .putDay day, db => statement e ((), { db with day := some day }) db
  | .putDayStartEquity equity, db => statement e ((), { db with dayStartEquity := some equity }) db
  | .putTradesToday trades, db => statement e ((), { db with tradesToday := some trades }) db
  | .now, db => (e.clock, db)
  | .instant, db => (e.answer .instant, db)
  | .newUuid, db => (e.answer .newUuid, db)
  | .hashOrder keys, db => (e.answer (.hashOrder keys), db)
  | .parseU64 d, db => (e.answer (.parseU64 d), db)
  | .parseU32 d, db => (e.answer (.parseU32 d), db)
  | .quote i o a s, db => (e.answer (.quote i o a s), db)
  | .execute r, db => (e.answer (.execute r), db)
  | .registerQuote q, db => (e.answer (.registerQuote q), db)
  | .tokenBalances owner, db => (e.answer (.tokenBalances owner), db)
  | .signatureStatus sig, db => (e.answer (.signatureStatus sig), db)
  | .transaction sig, db => (e.answer (.transaction sig), db)
  | .fetchSolPriceUsd, db => (e.answer .fetchSolPriceUsd, db)
  | .newWalletMonitor, db => (e.answer .newWalletMonitor, db)
  | .walletMonitorTick, db => (e.answer .walletMonitorTick, db)
  | .collectFromJsonl p t a, db => (e.answer (.collectFromJsonl p t a), db)

/-- The store and the outside world. -/
def world : Machine Op Res Db Env := ⟨exec⟩

/-- What the tasks are given: configuration, what the executor says about itself, and the
hash function of the idempotency keys. -/
structure Deps where
  config : Config
  live : Bool
  signerPubkey : Option String
  /-- The lower-case hexadecimal SHA-256 digest. -/
  sha256 : List UInt8 → String

/-! ## Which operations write what -/

/-- The operations that write orders, positions or fills. -/
def Op.Writes : Op → Prop
  | .savePosition .. | .reserveOrder .. | .updateOrder .. | .fillTransaction _
  | .unaccountedFill .. => True
  | _ => False

/-- A condition that says something about the writes only is decided write by write. -/
def Op.decideWrites {P : Op → Prop} (other : ∀ op : Op, ¬ op.Writes → P op)
    (save : ∀ basis p, Decidable (P (.savePosition basis p)))
    (reserve : ∀ seen o, Decidable (P (.reserveOrder seen o)))
    (update : ∀ copy o, Decidable (P (.updateOrder copy o)))
    (fill : ∀ t, Decidable (P (.fillTransaction t)))
    (unaccounted : ∀ f o, Decidable (P (.unaccountedFill f o))) (op : Op) : Decidable (P op) := by
  cases op
  case savePosition basis p => exact save basis p
  case reserveOrder seen o => exact reserve seen o
  case updateOrder copy o => exact update copy o
  case fillTransaction t => exact fill t
  case unaccountedFill f o => exact unaccounted f o
  all_goals exact isTrue (other _ id)

/-- A statement without a fault succeeds. -/
theorem statement_of_unfaulted {α : Type} {e : Env} (h : e.fault = none) (r : α × Db) (db : Db) :
    statement e r db = (.ok r.1, r.2) := by
  unfold statement
  rw [h]

/-- A statement with a fault fails and changes nothing. -/
theorem statement_of_fault {α : Type} {e : Env} {message : String} (h : e.fault = some message)
    (r : α × Db) (db : Db) : statement e r db = (.error message, db) := by
  unfold statement
  rw [h]

/-- Every other operation leaves orders, positions and fills alone. -/
theorem exec_of_not_writes {e : Env} {o : Op} {db : Db} (h : ¬ o.Writes) :
    (exec e o db).2.orders = db.orders ∧ (exec e o db).2.positions = db.positions ∧
      (exec e o db).2.fills = db.fills := by
  cases o
  case savePosition => exact absurd trivial h
  case reserveOrder => exact absurd trivial h
  case updateOrder => exact absurd trivial h
  case fillTransaction => exact absurd trivial h
  case unaccountedFill => exact absurd trivial h
  all_goals
    unfold exec
    first
      | exact ⟨rfl, rfl, rfl⟩
      | (unfold statement; cases e.fault <;> exact ⟨rfl, rfl, rfl⟩)

end SolanaBot.Model
