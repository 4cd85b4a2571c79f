import SolanaBot.Model.Entries

/-!
# Session loop and operator exit

The tick and the life of a session (`runtime.rs:855-1316`), and the operator's command
that exits every open position (`runtime.rs:1886-2002`). The shutdown signal may come
after any number of ticks, so the loop has the number of its ticks as an argument.
-/

set_option autoImplicit false

namespace SolanaBot.Model

open SolanaBot.Library

/-- RUST: runtime.rs:1276-1297, why a tick makes no entries. -/
def entriesAllowed (config : Config) (s : SessionState) (incomplete : List OrderRecord) : Bool :=
  !s.emergencyActive && !s.risk.killSwitch.tripped && incomplete.isEmpty &&
    (config.walletMonitorEnabled || config.runtime.collectorEnabled ||
      config.runtime.signalFeedPath.getD "" != "")

/-- RUST: runtime.rs:996-1299. The incomplete orders are read only when neither interlock holds. -/
def tick (deps : Deps) : Session Unit := do
  let now ← look clock
  modify (rollDay now)
  refreshSolPrice deps now
  periodicReconciliation deps
  let _ ← look (reconcilePendingOrders deps).run
  readEmergencyStop
  readKillSwitch
  modify fun s => { s with candidates := Table.empty _ }
  ingestFeed deps now
  ingestWalletMonitor deps now
  markEquity deps
  processExits deps
  let s ← get
  if s.emergencyActive || s.risk.killSwitch.tripped then return ()
  else
    let incomplete ← orStop Store.incompleteOrders
    if entriesAllowed deps.config s incomplete.orders then processEntries deps else return ()

/-- RUST: runtime.rs:1878-1886. -/
def persistSessionState : Session Unit := do
  let s ← get
  orStop (call (.putDay s.dayKey) : Task (Except String Unit))
  orStop (call (.putDayStartEquity s.risk.state.dayStartEquityUsd) : Task (Except String Unit))
  orStop (call (.putTradesToday s.risk.state.tradesToday) : Task (Except String Unit))

/-- RUST: runtime.rs:956-965. The error of a tick is logged, an error of the persistence ends
the session. -/
def sessionTicks (deps : Deps) : ℕ → Session Unit
  | 0 => return ()
  | n + 1 => do
      let s ← get
      let r ← look ((tick deps).run.run s)
      set r.2
      persistSessionState
      sessionTicks deps n

/-- RUST: runtime.rs:858-875, the state before anything was restored. -/
def newSessionState (deps : Deps) (portfolio : Portfolio) : SessionState :=
  let opened := portfolio.openPositions
  let capital := deps.config.risk.startingCapitalUsd
  { portfolio
    risk := ((RiskEngine.new deps.config.risk capital).setOpenPositions opened.length).setTotalExposure
      (aggregateExposure opened)
    candidates := Table.empty _
    seenSignals := []
    dayKey := 0
    emergencyActive := false
    walletMonitor := false
    solPriceUsd := none
    solPriceFetchedAt := none
    lastPositionReconcile := 0 }

/-- RUST: runtime.rs:921-932. The daily-loss window, as persisted. -/
def restoreDay : Session Unit := do
  let now ← look clock
  modify fun s => { s with dayKey := dayOf now }
  let storedDay ← orStop (call .getDay : Task (Except String (Option Int)))
  let storedStart ← orStop (call .getDayStartEquity : Task (Except String (Option Decimal)))
  let storedTrades ← orStop (call .getTradesToday : Task (Except String (Option UInt32)))
  if storedDay = some (dayOf now) then
    modify fun s => { s with
      risk := { s.risk with
        state := { s.risk.state with
          dayStartEquityUsd := storedStart.getD s.risk.state.dayStartEquityUsd
          tradesToday := storedTrades.getD 0 } } }
  else return ()

/-- RUST: runtime.rs:937-940. -/
def restoreEmergencyStop : Session Unit := do
  match ← orStop Store.emergencyStop with
  | some _ => modify fun s => { s with emergencyActive := true }
  | none => return ()

/-- RUST: runtime.rs:897-919. -/
def startWalletMonitor (deps : Deps) : Session Unit := do
  if deps.config.walletMonitorEnabled then
    match ← look Feed.newWalletMonitor with
    | .ok () => modify fun s => { s with walletMonitor := true }
    | .error _ => return ()
  else return ()

/-- RUST: runtime.rs:942-952. An error of the first reconciliation ends the session. -/
def startupReconciliation (deps : Deps) : Session ReconcileSummary :=
  if deps.live then orStop (runReconciliation deps).run
  else orStop (reconcilePendingOrders deps).run

/-- RUST: runtime.rs:971-977. -/
def finalReconciliation (deps : Deps) : Session Unit := do
  if deps.live then
    let _ ← look (reconcilePendingOrders deps).run
    return ()
  else return ()

/-- RUST: runtime.rs:897-983, after the portfolio was loaded and the exit monitor spawned. -/
def sessionBody (deps : Deps) (ticks : ℕ) : Session Unit := do
  startWalletMonitor deps
  restoreDay
  readKillSwitch
  restoreEmergencyStop
  let _ ← startupReconciliation deps
  let t ← look instant
  modify fun s => { s with lastPositionReconcile := t }
  sessionTicks deps ticks
  finalReconciliation deps

/-- RUST: runtime.rs:852-984. A session that is shut down after `ticks` ticks. -/
def runSession (deps : Deps) (ticks : ℕ) : Task Unit := do
  match ← Store.positions with
  | .error _ => return ()
  | .ok stored =>
      let portfolio := Portfolio.empty.load stored
      let _ ← (sessionBody deps ticks).run.run (newSessionState deps portfolio)
      return ()

/-! ## Exiting everything -/

/-- RUST: runtime.rs:1919-1937, the balances by mint; a later account replaces an earlier one. -/
def fetchBalances (deps : Deps) : Task (List TokenBalance) := do
  if deps.live then
    match deps.signerPubkey with
    | none => return []
    | some owner =>
        match ← Rpc.tokenBalances owner with
        | .ok balances => return balances
        | .error _ => return []
  else return []

/-- RUST: runtime.rs:1945-1962. Trusted internal quantity first, then the chain. -/
def quantityToSell (position : Position) (balances : List TokenBalance) (mint : String) :
    Option UInt64 :=
  match position.trustedRemaining with
  | some trusted => some trusted
  | none =>
      match balanceByMint balances mint with
      | some b => if b.amount = 0 then none else some b.amount
      | none => none

/-- RUST: runtime.rs:1939-1994, one turn of the loop; the count of exits attempted. -/
def exitPosition (deps : Deps) (balances : List TokenBalance) (exited : ℕ) (mint : String) :
    Session ℕ := do
  match (← get).portfolio.position mint with
  | none => return exited
  | some position =>
      match quantityToSell position balances mint with
      | none => return exited
      | some remaining =>
          match exitTerms position with
          | .error _ => return exited
          | .ok _ =>
              let incomplete ← orStop Store.incompleteOrders
              if incomplete.orders.any (isExitOf position.positionId) then return exited
              else
                attemptExit deps mint remaining "manual_exit"
                return exited + 1

/-- RUST: runtime.rs:1888-1996. -/
def exitAllPositions (deps : Deps) : Task (Except String ℕ) := do
  match ← Store.positions with
  | .error e => return .error e
  | .ok stored =>
      let portfolio := Portfolio.empty.load stored
      let s : SessionState :=
        { newSessionState deps portfolio with
          risk := RiskEngine.new deps.config.risk deps.config.risk.startingCapitalUsd
          emergencyActive := true }
      let mints ← hashOrder (portfolio.openPositions.map Position.mint)
      let balances ← fetchBalances deps
      let r ← (mints.val.foldlM (exitPosition deps balances) 0 : Session ℕ).run.run s
      return r.1

end SolanaBot.Model
