import Mathlib.Data.String.Basic
import SolanaBot.Library.OrderedTable
import SolanaBot.Library.TableViews
import SolanaBot.Model.OperatorCommands

/-!
# The tables of the store

`storage/state.rs` below the typed `Db`: the rows of texts that SQLite holds, and the statements that
write and read them. The positions, the liquidity, the invalidated signals, the interlocks and what is
remembered of a session share the table `kv`, under keys with different beginnings; everything is
stored as JSON. The columns `order_kind`, `position_id` and `side` repeat the payload and are never
read, nor is `created_at` of a fill; they are left out, as is the table of observations, which no task
writes.
-/

set_option autoImplicit false

namespace SolanaBot.Model

open SolanaBot.Library

/-! ## JSON -/

/-- RUST: serde_json::Value, as a member of an object. In a number, an array or an object nothing is
read. -/
inductive JsonMember where
  | null
  | bool (b : Bool)
  | str (s : String)
  | other
deriving DecidableEq

/-- A member of an object, under its name. -/
structure JsonField where
  name : String
  value : JsonMember
deriving DecidableEq

/-- RUST: serde_json::Map, a `BTreeMap`: the names are different and in their order. -/
abbrev JsonObject := OrderedTable JsonField.name

/-- RUST: serde_json::json!. The members are inserted one after the other. -/
def jsonObject (fields : List JsonField) : JsonObject :=
  fields.foldl OrderedTable.insert (OrderedTable.empty JsonField.name)

/-- RUST: serde_json::Value. -/
inductive JsonValue where
  | obj (fields : JsonObject)
  | other

/-- RUST: serde_json::Value, indexed by a key. -/
def JsonValue.get : JsonValue → String → JsonMember
  | .obj fields, key => ((fields.find? key).map JsonField.value).getD .null
  | .other, _ => .null

/-- RUST: serde_json::Value::as_str. -/
def JsonMember.asStr : JsonMember → Option String
  | .str s => some s
  | _ => none

/-- RUST: serde_json::Value::as_bool. -/
def JsonMember.asBool : JsonMember → Option Bool
  | .bool b => some b
  | _ => none

/-- The texts that values are stored as: `serde_json` for each type, and the texts of decimals, times
and dates inside a JSON string. -/
structure Serde where
  position : Codec Position
  order : Codec OrderRecord
  fill : Codec Fill
  string : Codec String
  decimal : Codec Decimal
  count : Codec UInt32
  /-- `serde_json::to_string` of an object. -/
  object : JsonObject → String
  /-- `serde_json::from_str` of a value. -/
  value : String → Except String JsonValue
  /-- `Decimal::to_string` and `str::parse`. -/
  decimalText : Codec Decimal
  /-- `DateTime::to_rfc3339` and `DateTime::parse_from_rfc3339`. -/
  timestamp : Codec Time
  /-- `NaiveDate::to_string`. -/
  date : Codec Int

/-- An object is read back from what it is written as. -/
def Serde.ReadsObject (S : Serde) (fields : List JsonField) : Prop :=
  S.value (S.object (jsonObject fields)) = .ok (.obj (jsonObject fields))

/-! ## Rows -/

/-- A row of the table `kv`. -/
structure KvRow where
  key : String
  value : String
  updatedAt : String

/-- A row of the table `orders`. -/
structure StoredOrder where
  id : String
  idempotencyKey : String
  state : String
  payload : String
  updatedAt : String

/-- A row of the table `fills`. -/
structure StoredFill where
  orderId : String
  payload : String

/-- RUST: storage/state.rs:35. -/
structure RawStore where
  kv : Table KvRow.key
  orders : Table StoredOrder.id
  fills : Table StoredFill.orderId

/-- RUST: storage/state.rs:28-55, a new file. -/
def RawStore.new : RawStore := ⟨.empty _, .empty _, .empty _⟩

/-- RUST: storage/state.rs:13-16, how an error of the deserialization is reported. -/
def serialization {α : Type} : Except String α → Except String α
  | .ok a => .ok a
  | .error e => .error ("serialization: " ++ e)

namespace RawStore

/-! ## The table of keys and values -/

/-- RUST: storage/state.rs:108-112. -/
def put (s : RawStore) (key value stamp : String) : RawStore :=
  { s with kv := s.kv.put ⟨key, value, stamp⟩ }

/-- The text under a key. -/
def text (s : RawStore) (key : String) : Option String := (s.kv.find? key).map KvRow.value

/-- RUST: storage/state.rs:113-126. -/
def get {α : Type} (s : RawStore) (decode : String → Except String α) (key : String) :
    Except String (Option α) :=
  match s.text key with
  | none => .ok none
  | some value => serialization ((decode value).map some)

/-- SQLite's `LIKE 'position:%'`, which does not distinguish the cases of the ASCII letters. -/
def likePosition (key : String) : Bool :=
  "position:".toList.isPrefixOf (key.toList.map Char.toLower)

/-- RUST: storage/state.rs:72-80. -/
def positions (s : RawStore) (S : Serde) : Except String (List Position) :=
  serialization (((s.kv.rows.filter fun r => likePosition r.key).map KvRow.value).mapM
    S.position.decode)

/-- RUST: storage/state.rs:62-64. -/
def savePosition (s : RawStore) (S : Serde) (p : Position) (stamp : String) : RawStore :=
  s.put ("position:" ++ p.mint) (S.position.encode p) stamp

/-- RUST: storage/state.rs:59-61, with the serialized statistics of the wallet. -/
def saveWallet (s : RawStore) (wallet payload stamp : String) : RawStore :=
  s.put ("wallet:" ++ wallet) payload stamp

/-- RUST: storage/state.rs:204. -/
def stopFields (S : Serde) (reason : String) (now : Time) : List JsonField :=
  [⟨"reason", .str reason⟩, ⟨"at", .str (S.timestamp.encode now)⟩]

/-- RUST: storage/state.rs:201-206. -/
def setEmergencyStop (s : RawStore) (S : Serde) (reason : String) (now : Time) (stamp : String) :
    RawStore :=
  s.put "risk:emergency_stop" (S.object (jsonObject (stopFields S reason now))) stamp

/-- RUST: storage/state.rs:207-211. -/
def clearEmergencyStop (s : RawStore) : RawStore :=
  { s with kv := s.kv.erase "risk:emergency_stop" }

/-- RUST: storage/state.rs:212-227, the reason in a stored value. -/
def stopReason (v : JsonValue) : String := (v.get "reason").asStr.getD "unspecified"

/-- RUST: storage/state.rs:212-227. -/
def emergencyStop (s : RawStore) (S : Serde) : Except String (Option String) :=
  (s.get S.value "risk:emergency_stop").map fun v => v.map stopReason

/-- RUST: storage/state.rs:228-230. -/
def latchKillSwitch (s : RawStore) (S : Serde) (reason stamp : String) : RawStore :=
  s.put "risk:kill_switch" (S.string.encode reason) stamp

/-- RUST: storage/state.rs:231-233. -/
def killSwitchReason (s : RawStore) (S : Serde) : Except String (Option String) :=
  s.get S.string.decode "risk:kill_switch"

/-- RUST: storage/state.rs:245-248. -/
def liquidityFields (S : Serde) (liquidityUsd : Decimal) (now : Time) : List JsonField :=
  [⟨"liquidity_usd", .str (S.decimalText.encode liquidityUsd)⟩,
    ⟨"observed_at", .str (S.timestamp.encode now)⟩]

/-- RUST: storage/state.rs:238-251. -/
def setLastLiquidity (s : RawStore) (S : Serde) (mint : String) (liquidityUsd : Decimal) (now : Time)
    (stamp : String) : RawStore :=
  s.put ("liquidity:" ++ mint) (S.object (jsonObject (liquidityFields S liquidityUsd now))) stamp

/-- RUST: storage/state.rs:261-273, the observation in a stored value. -/
def liquidityOf (S : Serde) (v : JsonValue) : Option (Decimal × Time) := do
  let liquidity ← (v.get "liquidity_usd").asStr.bind fun s => (S.decimalText.decode s).toOption
  let observedAt ← (v.get "observed_at").asStr.bind fun s => (S.timestamp.decode s).toOption
  return (liquidity, observedAt)

/-- RUST: storage/state.rs:255-277. -/
def lastLiquidity (s : RawStore) (S : Serde) (mint : String) :
    Except String (Option (Decimal × Time)) :=
  (s.get S.value ("liquidity:" ++ mint)).map fun v => v.bind (liquidityOf S)

/-- RUST: storage/state.rs:282. -/
def invalidatedFields (S : Serde) (now : Time) : List JsonField :=
  [⟨"invalidated", .bool true⟩, ⟨"at", .str (S.timestamp.encode now)⟩]

/-- RUST: storage/state.rs:279-284. -/
def setSignalInvalidated (s : RawStore) (S : Serde) (signalId : String) (now : Time)
    (stamp : String) : RawStore :=
  s.put ("invalidated:" ++ signalId) (S.object (jsonObject (invalidatedFields S now))) stamp

/-- RUST: storage/state.rs:286-293. -/
def isSignalInvalidated (s : RawStore) (S : Serde) (signalId : String) : Except String Bool :=
  (s.get S.value ("invalidated:" ++ signalId)).map fun v =>
    (v.bind fun v => (v.get "invalidated").asBool).getD false

/-- RUST: runtime.rs:1879. -/
def putDay (s : RawStore) (S : Serde) (day : Int) (stamp : String) : RawStore :=
  s.put "runtime:day" (S.string.encode (S.date.encode day)) stamp

/-- RUST: runtime.rs:924. The text of the day is compared with the one of the present day; here it is
read as the day that it is the text of. -/
def day (s : RawStore) (S : Serde) : Except String (Option Int) := do
  match ← s.get S.string.decode "runtime:day" with
  | none => return none
  | some text => return (S.date.decode text).toOption

/-- RUST: runtime.rs:1880-1883. -/
def putDayStartEquity (s : RawStore) (S : Serde) (equity : Decimal) (stamp : String) : RawStore :=
  s.put "runtime:day_start_equity" (S.decimal.encode equity) stamp

/-- RUST: runtime.rs:925. -/
def dayStartEquity (s : RawStore) (S : Serde) : Except String (Option Decimal) :=
  s.get S.decimal.decode "runtime:day_start_equity"

/-- RUST: runtime.rs:1884. -/
def putTradesToday (s : RawStore) (S : Serde) (trades : UInt32) (stamp : String) : RawStore :=
  s.put "runtime:trades_today" (S.count.encode trades) stamp

/-- RUST: runtime.rs:926. -/
def tradesToday (s : RawStore) (S : Serde) : Except String (Option UInt32) :=
  s.get S.count.decode "runtime:trades_today"

/-- RUST: main.rs:463. -/
def putSigner (s : RawStore) (S : Serde) (signer stamp : String) : RawStore :=
  s.put "runtime:signer" (S.string.encode signer) stamp

/-- RUST: main.rs:432. -/
def signer (s : RawStore) (S : Serde) : Except String (Option String) :=
  s.get S.string.decode "runtime:signer"

/-! ## The tables of orders and fills -/

/-- The row of an order. -/
def orderRow (S : Serde) (idempotencyKey : String) (o : OrderRecord) (stamp : String) : StoredOrder :=
  { id := o.id, idempotencyKey, state := o.state.toText, payload := S.order.encode o
    updatedAt := stamp }

/-- RUST: storage/state.rs:127-158. -/
def reserveOrder (s : RawStore) (S : Serde) (o : OrderRecord) (stamp : String) :
    Except String Bool × RawStore :=
  match Db.checkOrder o with
  | .error e => (.error e, s)
  | .ok () =>
      if s.orders.rows.any fun r => r.id = o.id ∨ r.idempotencyKey = o.idempotencyKey then
        (.ok false, s)
      else (.ok true, { s with orders := s.orders.put (orderRow S o.idempotencyKey o stamp) })

/-- RUST: storage/state.rs:159-163. -/
def updateOrder (s : RawStore) (S : Serde) (o : OrderRecord) (stamp : String) : RawStore :=
  match s.orders.find? o.id with
  | none => s
  | some r => { s with orders := s.orders.update (orderRow S r.idempotencyKey o stamp) }

/-- RUST: storage/state.rs:164-175. -/
def incompleteOrders (s : RawStore) (S : Serde) : Except String (List OrderRecord) :=
  serialization (((s.orders.rows.filter fun r =>
    ["Pending", "Submitted", "Unknown"].contains r.state).map StoredOrder.payload).mapM S.order.decode)

/-- RUST: storage/state.rs:176-185. -/
def allOrders (s : RawStore) (S : Serde) : Except String (List OrderRecord) :=
  serialization (((s.orders.rows.mergeSort fun r r' => r.updatedAt ≤ r'.updatedAt).map
    StoredOrder.payload).mapM S.order.decode)

/-- RUST: storage/state.rs:81-85. -/
def saveFill (s : RawStore) (S : Serde) (fill : Fill) : RawStore :=
  { s with fills := s.fills.put ⟨fill.orderId, S.fill.encode fill⟩ }

/-- RUST: storage/state.rs:186-198. -/
def fillForOrder (s : RawStore) (S : Serde) (orderId : String) : Except String (Option Fill) :=
  match s.fills.find? orderId with
  | none => .ok none
  | some r => serialization ((S.fill.decode r.payload).map some)

end RawStore

/-! ## Transactions -/

/-- RUST: storage/state.rs:300-316 with the closures of runtime.rs:315-380, 703-741 and 1761-1805. The
statements write to the connection; an error rolls the tables back to the `BEGIN`. -/
def rawFillTransaction (S : Serde) (faults : TxFaults) (t : FillTransaction) (stamp : String)
    (s : RawStore) : (Except String Unit × OrderRecord) × RawStore :=
  let rollback (e : String) (placed : OrderRecord) :
      (Except String Unit × OrderRecord) × RawStore := ((.error e, placed), s)
  match faults .begin with
  | some e => rollback e t.order
  | none =>
  match faults .insertFill with
  | some e => rollback e t.order
  | none =>
  let written := s.saveFill S t.fill
  match faults .loadPortfolio with
  | some e => rollback e t.order
  | none =>
  match written.positions S with
  | .error e => rollback e t.order
  | .ok stored =>
  match t.account (Portfolio.empty.load stored) with
  | (.error e, _) => rollback e t.order
  | (.ok (), pf) =>
  match faults .savePosition with
  | some e => rollback e t.order
  | none =>
  let written := match pf.position t.mint with
    | some p => written.savePosition S p stamp
    | none => written
  match t.signed.transition .confirmed with
  | .error e => rollback (t.refusal e) t.signed
  | .ok placed =>
  match faults .updateOrder with
  | some e => rollback e placed
  | none =>
  let written := written.updateOrder S placed stamp
  match faults .commit with
  | some e => rollback e placed
  | none => ((.ok (), placed), written)

/-- RUST: runtime.rs:277-310. -/
def rawUnaccountedFill (S : Serde) (faults : TxFaults) (fill : Fill) (order : OrderRecord)
    (stamp : String) (s : RawStore) : Except String Unit × RawStore :=
  match faults .begin with
  | some e => (.error e, s)
  | none =>
  match faults .insertFill with
  | some e => (.error e, s)
  | none =>
  let written := s.saveFill S fill
  match (unaccountedOrder fill order).transition .failed with
  | .error e => (.error e, s)
  | .ok o =>
  match faults .updateOrder with
  | some e => (.error e, s)
  | none =>
  let written := written.updateOrder S o stamp
  match faults .commit with
  | some e => (.error e, s)
  | none => (.ok (), written)

/-! ## The calls of the store -/

/-- A call of the store, by a task or by an operator's command. -/
inductive StoreCall where
  | positions
  | savePosition (basis : SaveBasis) (p : Position)
  | reserveOrder (seen : List OrderRecord) (o : OrderRecord)
  | updateOrder (copy o : OrderRecord)
  | incompleteOrders
  | orders
  | fillTransaction (t : FillTransaction)
  | unaccountedFill (fill : Fill) (order : OrderRecord)
  | fillForOrder (orderId : String)
  | setLastLiquidity (mint : String) (liquidityUsd : Decimal)
  | lastLiquidity (mint : String)
  | setSignalInvalidated (signalId : String)
  | isSignalInvalidated (signalId : String)
  | setEmergencyStop (reason : String)
  | clearEmergencyStop
  | emergencyStop
  | latchKillSwitch (reason : String)
  | killSwitchReason
  | putDay (day : Int)
  | getDay
  | putDayStartEquity (equity : Decimal)
  | getDayStartEquity
  | putTradesToday (trades : UInt32)
  | getTradesToday
  | saveWallet (wallet payload : String)
  | putSigner (signer : String)
  | getSigner

/-- What a call answers. -/
inductive Reply where
  | done
  | flag (b : Bool)
  | text (s : Option String)
  | day (d : Option Int)
  | amount (d : Option Decimal)
  | count (n : Option UInt32)
  | positions (ps : List Position)
  | orders (os : List OrderRecord)
  | fill (f : Option Fill)
  | liquidity (l : Option (Decimal × Time))
  | recorded (r : Except String Unit) (placed : OrderRecord)

/-- A statement that fails, or writes. -/
def rawWrite (e : Env) (s written : RawStore) : Except String Reply × RawStore :=
  match e.fault with
  | some msg => (.error msg, s)
  | none => (.ok .done, written)

/-- A statement that fails, or reads. -/
def rawRead {α : Type} (e : Env) (answer : Except String α) (reply : α → Reply) (s : RawStore) :
    Except String Reply × RawStore :=
  match e.fault with
  | some msg => (.error msg, s)
  | none => (answer.map reply, s)

/-- The calls on the tables. -/
def rawExec (S : Serde) (e : Env) (call : StoreCall) (s : RawStore) :
    Except String Reply × RawStore :=
  let stamp := S.timestamp.encode e.clock
  match call with
  | .positions => rawRead e (s.positions S) .positions s
  | .savePosition _ p => rawWrite e s (s.savePosition S p stamp)
  | .reserveOrder _ o =>
      match Db.checkOrder o, e.fault with
      | .ok (), some msg => (.error msg, s)
      | _, _ => ((s.reserveOrder S o stamp).1.map .flag, (s.reserveOrder S o stamp).2)
  | .updateOrder _ o => rawWrite e s (s.updateOrder S o stamp)
  | .incompleteOrders => rawRead e (s.incompleteOrders S) .orders s
  | .orders => rawRead e (s.allOrders S) .orders s
  | .fillTransaction t =>
      let r := rawFillTransaction S e.txFaults t stamp s
      (.ok (.recorded r.1.1 r.1.2), r.2)
  | .unaccountedFill fill order =>
      let r := rawUnaccountedFill S e.txFaults fill order stamp s
      (r.1.map fun _ => .done, r.2)
  | .fillForOrder orderId => rawRead e (s.fillForOrder S orderId) .fill s
  | .setLastLiquidity mint usd => rawWrite e s (s.setLastLiquidity S mint usd e.clock stamp)
  | .lastLiquidity mint => rawRead e (s.lastLiquidity S mint) .liquidity s
  | .setSignalInvalidated id => rawWrite e s (s.setSignalInvalidated S id e.clock stamp)
  | .isSignalInvalidated id => rawRead e (s.isSignalInvalidated S id) .flag s
  | .setEmergencyStop reason => rawWrite e s (s.setEmergencyStop S reason e.clock stamp)
  | .clearEmergencyStop => rawWrite e s s.clearEmergencyStop
  | .emergencyStop => rawRead e (s.emergencyStop S) .text s
  | .latchKillSwitch reason => rawWrite e s (s.latchKillSwitch S reason stamp)
  | .killSwitchReason => rawRead e (s.killSwitchReason S) .text s
  | .putDay day => rawWrite e s (s.putDay S day stamp)
  | .getDay => rawRead e (s.day S) .day s
  | .putDayStartEquity equity => rawWrite e s (s.putDayStartEquity S equity stamp)
  | .getDayStartEquity => rawRead e (s.dayStartEquity S) .amount s
  | .putTradesToday trades => rawWrite e s (s.putTradesToday S trades stamp)
  | .getTradesToday => rawRead e (s.tradesToday S) .count s
  | .saveWallet wallet payload => rawWrite e s (s.saveWallet wallet payload stamp)
  | .putSigner signer => rawWrite e s (s.putSigner S signer stamp)
  | .getSigner => rawRead e (s.signer S) .text s

end SolanaBot.Model
