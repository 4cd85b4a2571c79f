import SolanaBot.Model.SessionLoop

/-!
# The operator's commands

The commands of `main.rs` that work on the store of a bot: the emergency stop and its removal, the
check before a start, and one reconciliation. Every command begins with `base_setup`, and some go on
with the health of the RPC and the construction of the executor: what comes before the command's own
work is the argument `setup`, and a command whose setup fails does nothing.
-/

set_option autoImplicit false

namespace SolanaBot.Model

open SolanaBot.Library

/-! ## Interlocks in the store -/

namespace Db

/-- RUST: storage/state.rs:201-206. -/
def setEmergencyStop (db : Db) (reason : String) : Db := { db with emergencyStop := some reason }

/-- RUST: storage/state.rs:207-211. -/
def clearEmergencyStop (db : Db) : Db := { db with emergencyStop := none }

/-- RUST: storage/state.rs:279-284. -/
def setSignalInvalidated (db : Db) (signalId : String) : Db :=
  if db.invalidatedSignals.contains signalId then db
  else { db with invalidatedSignals := db.invalidatedSignals ++ [signalId] }

end Db

/-- A command that performs one statement on the store. -/
def statementCommand (setup : Except String Unit) (fault : Option String) (f : Db → Db) (db : Db) :
    Except String Unit × Db :=
  match setup, fault with
  | .error e, _ => (.error e, db)
  | .ok (), some e => (.error e, db)
  | .ok (), none => (.ok (), f db)

/-- RUST: main.rs:365-370. -/
def emergencyStopCommand (setup : Except String Unit) (fault reason : Option String) (db : Db) :
    Except String Unit × Db :=
  statementCommand setup fault (fun db => db.setEmergencyStop (reason.getD "operator halt")) db

/-- RUST: main.rs:372-377. -/
def clearEmergencyStopCommand (setup : Except String Unit) (fault : Option String) (db : Db) :
    Except String Unit × Db :=
  statementCommand setup fault Db.clearEmergencyStop db

/-! ## Checks and reconciliation -/

/-- RUST: main.rs:258-284. `signer` says whether the signer of a live bot can be read, `executor`
whether the executor can be built and is healthy. -/
def checkCommand (setup : Except String Unit) (mode : Mode) (signer executor : Except String Unit) :
    Attempt Unit := do
  attempt (pure setup)
  match ← attempt Store.killSwitchReason with
  | some _ => throw "persisted kill switch is latched; operator review is required"
  | none =>
      let incomplete ← attempt Store.incompleteOrders
      if incomplete.orders.isEmpty then
        if mode = .live then attempt (pure signer)
        attempt (pure executor)
      else throw "unreconciled orders exist; refusing new entries"

/-- RUST: main.rs:318-333. -/
def reconcileCommand (setup : Except String Unit) (deps : Deps) : Attempt ReconcileSummary := do
  attempt (pure setup)
  let summary ← runReconciliation deps
  if summary.unresolvedOrders > 0 ∨ summary.onchainErrors > 0 then
    throw "reconciliation incomplete; operator review required"
  else return summary

end SolanaBot.Model
