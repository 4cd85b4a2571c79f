import SolanaBot.Model.Prelude

/-!
# The connections of the wallet subscription

`collector/wallet_ws.rs:101-214`: the task that connects to a WebSocket endpoint, subscribes to the logs
of every wallet, hands the messages on, and connects again when the connection has ended. What a
connection meets is a value: whether it opens, which requests can be sent, and the messages until the
stream ends. What the handling of a message does is in `SolanaBot.Model.WalletFeeds`.
-/

set_option autoImplicit false

namespace SolanaBot.Model

/-- RUST: collector/wallet_ws.rs:55-65. -/
structure WalletWsManager where
  endpoints : List String
  wallets : List String
  maxReconnectAttempts : UInt32

/-- RUST: collector/wallet_ws.rs:12. In milliseconds. -/
def WS_RECONNECT_BASE_MS : ℕ := 1000

/-- RUST: collector/wallet_ws.rs:14. -/
def WS_RECONNECT_MAX_MS : ℕ := 30000

/-! ## A connection -/

/-- A message of the socket, as far as the loop tells them apart. -/
inductive WsMessage where
  | text (text : String)
  | ping (data : List UInt8)
  | close
  | other
deriving DecidableEq

/-- What a connection meets. -/
structure Connection where
  opened : Except String Unit
  sends : ℕ → Except String Unit
  messages : List (Except String WsMessage)

/-- What is done on a connection. -/
inductive WsAction where
  /-- The request to be told of the wallet's transactions. -/
  | subscribe (id : ℕ) (wallet : String)
  | handle (text : String)
  | pong (data : List UInt8)
deriving DecidableEq

/-- RUST: collector/wallet_ws.rs:165-179, from the wallet `idx` on. -/
def subscribeAll (sends : ℕ → Except String Unit) : ℕ → List String → List WsAction × Except String Unit
  | _, [] => ([], .ok ())
  | idx, wallet :: wallets =>
      match sends idx with
      | .error e =>
          ([.subscribe (idx + 1) wallet], .error ("failed to send subscribe for " ++ wallet ++ ": " ++ e))
      | .ok () =>
          let r := subscribeAll sends (idx + 1) wallets
          (.subscribe (idx + 1) wallet :: r.1, r.2)

/-- RUST: collector/wallet_ws.rs:188-213. The error of a message that cannot be handled is only
logged. -/
def readMessages : List (Except String WsMessage) → List WsAction × Except String Unit
  | [] => ([], .ok ())
  | .error e :: _ => ([], .error ("WebSocket receive error: " ++ e))
  | .ok .close :: _ => ([], .ok ())
  | .ok (.text text) :: messages =>
      let r := readMessages messages
      (.handle text :: r.1, r.2)
  | .ok (.ping data) :: messages =>
      let r := readMessages messages
      (.pong data :: r.1, r.2)
  | .ok .other :: messages => readMessages messages

namespace WalletWsManager

/-- RUST: collector/wallet_ws.rs:159-214. -/
def connectAndSubscribe (m : WalletWsManager) (endpoint : String) (c : Connection) :
    List WsAction × Except String Unit :=
  match c.opened with
  | .error e => ([], .error ("WebSocket connect failed to " ++ endpoint ++ ": " ++ e))
  | .ok () =>
      match subscribeAll c.sends 0 m.wallets with
      | (actions, .error e) => (actions, .error e)
      | (actions, .ok ()) =>
          let r := readMessages c.messages
          (actions ++ r.1, r.2)

/-! ## Connecting again -/

/-- A connection that has ended, and the wait after it. -/
structure Attempt where
  endpoint : String
  actions : List WsAction
  outcome : Except String Unit
  delayMs : Option ℕ
deriving DecidableEq

/-- Where the task stands. -/
inductive Standing where
  | noEndpoints
  | noWallets
  | gaveUp
  | connecting (endpoint : String)
deriving DecidableEq

/-- RUST: collector/wallet_ws.rs:111-112. The index is a `usize` in the source. -/
structure Reconnecting where
  consecutiveFailures : UInt32
  endpointIdx : ℕ

variable (m : WalletWsManager)

/-- RUST: collector/wallet_ws.rs:125. -/
def endpointAt (h : m.endpoints ≠ []) (idx : ℕ) : String :=
  m.endpoints.get ⟨idx % m.endpoints.length, Nat.mod_lt _ (List.length_pos_iff.mpr h)⟩

/-- RUST: collector/wallet_ws.rs:144-146. The wait after the failure `n` in a row. -/
def reconnectDelay (n : UInt32) : ℕ := min (WS_RECONNECT_BASE_MS * 2 ^ min n.toNat 5) WS_RECONNECT_MAX_MS

/-- RUST: collector/wallet_ws.rs:133-155, the connection has ended. -/
def afterConnection (s : Reconnecting) : Except String Unit → Option ℕ × Reconnecting
  | .ok () => (none, { s with consecutiveFailures := 0 })
  | .error _ =>
      let consecutiveFailures := s.consecutiveFailures + 1
      (some (reconnectDelay consecutiveFailures),
        { consecutiveFailures, endpointIdx := s.endpointIdx + 1 })

/-- RUST: collector/wallet_ws.rs:114-156, over the connections that have ended. -/
def reconnect (h : m.endpoints ≠ []) : Reconnecting → List Connection → List Attempt × Standing
  | s, [] =>
      if s.consecutiveFailures ≥ m.maxReconnectAttempts then ([], .gaveUp)
      else ([], .connecting (m.endpointAt h s.endpointIdx))
  | s, c :: cs =>
      if s.consecutiveFailures ≥ m.maxReconnectAttempts then ([], .gaveUp)
      else
        let endpoint := m.endpointAt h s.endpointIdx
        let r := m.connectAndSubscribe endpoint c
        let next := afterConnection s r.2
        let rest := reconnect h next.2 cs
        ({ endpoint, actions := r.1, outcome := r.2, delayMs := next.1 } :: rest.1, rest.2)

/-- RUST: collector/wallet_ws.rs:101-157. -/
def run (cs : List Connection) : List Attempt × Standing :=
  if h : m.endpoints = [] then ([], .noEndpoints)
  else if m.wallets = [] then ([], .noWallets)
  else m.reconnect h ⟨0, 0⟩ cs

end WalletWsManager

end SolanaBot.Model
