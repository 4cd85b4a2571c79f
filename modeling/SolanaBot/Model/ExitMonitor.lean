import SolanaBot.Model.Session

/-!
# The exit monitor

`exit_monitor.rs`: an independent task that reconciles stale orders, loads the stored
positions, marks them by a cached or fresh sell quote, saves the marks, and exits the
positions for which a reason is found.
-/

set_option autoImplicit false

namespace SolanaBot.Model

open SolanaBot.Library

/-- A cached sell quote, RUST: exit_monitor.rs:46-47. -/
structure CachedQuote where
  mint : String
  quote : Quote
  fetchedAt : Time

/-- RUST: exit_monitor.rs:43-48, without the constant parts. -/
structure MonitorState where
  quoteCache : Table CachedQuote.mint
  portfolio : Portfolio

/-- A part of a monitor tick. -/
abbrev Monitor (α : Type) := Prog.Stateful Op Res MonitorState String α

/-- A statement or call whose answer, error or not, is looked at. -/
def Monitor.look {α : Type} (t : Task α) : Monitor α := monadLift t

/-- A statement whose error is passed on with `?`. -/
def Monitor.orStop {α : Type} (t : Task (Except String α)) : Monitor α := do
  match ← Monitor.look t with
  | .ok a => return a
  | .error e => throw e

/-- RUST: exit_monitor.rs:61-74. -/
def cachedQuote (deps : Deps) (mint : String) : Monitor (Option Quote) := do
  let ttl := deps.config.runtime.quoteCacheTtlSecs
  if ttl = 0 then return none
  else
    match (← get).quoteCache.find? mint with
    | none => return none
    | some c =>
        let t ← Monitor.look instant
        if t - c.fetchedAt < seconds ttl then return some c.quote else return none

/-- RUST: exit_monitor.rs:165-184 and 193-206. The mark that a quote for `remaining` implies. -/
def markFromQuote (q : Quote) (terms : ExitTerms) (remaining : UInt64) : Option Decimal :=
  match units q.outputAmount terms.baseDecimals, units remaining terms.tokenDecimals with
  | .ok baseUnits, .ok tokenUnits =>
      if tokenUnits = 0 then none else some (baseUnits * terms.basePrice / tokenUnits)
  | _, _ => none

/-- RUST: exit_monitor.rs:162-215. The mark, the impact of its quote, and the quote if it was
fetched now. -/
def monitorMark (deps : Deps) (mint : String) (terms : ExitTerms) (remaining : UInt64) :
    Monitor (Option (Decimal × UInt32 × Option Quote)) := do
  match ← cachedQuote deps mint with
  | some q => return (markFromQuote q terms remaining).map fun mark => (mark, q.priceImpactBps, none)
  | none =>
      match ← Monitor.look (Executor.quote mint terms.baseMint remaining
          deps.config.execution.slippageBps) with
      | .error _ => return none
      | .ok q =>
          return (markFromQuote q terms remaining).map fun mark => (mark, q.priceImpactBps, some q)

/-- RUST: exit_monitor.rs:222-224. -/
def cacheQuote (mint : String) : Option Quote → Monitor Unit
  | none => return ()
  | some q => do
      let t ← Monitor.look instant
      modify fun s => { s with quoteCache := s.quoteCache.put ⟨mint, q, t⟩ }

/-- RUST: exit_monitor.rs:233-273. Persisted evidence while it is fresh, else what the impact of
the mark quote implies. -/
def monitorLiquidity (deps : Deps) (mint : String) (mark : Decimal) (remaining : UInt64)
    (tokenDecimals : UInt8) (impactBps : UInt32) : Task Decimal := do
  match ← persistedLiquidity deps mint with
  | some liq => return liq
  | none =>
      let refreshed := estimateLiquidityUsd (probeUsd mark remaining tokenDecimals) impactBps
      let _ ← Store.setLastLiquidity mint refreshed
      return refreshed

/-- RUST: exit_monitor.rs:277-283. An unreadable flag counts as invalidated. -/
def monitorInvalidated (signalId : String) : Task Bool := do
  match ← Store.isSignalInvalidated signalId with
  | .ok v => return v
  | .error _ => return true

/-- RUST: exit_monitor.rs:228-312, the end of one turn: find a reason to exit, and exit.
`position` is the record before the mark. -/
def monitorExit (deps : Deps) (position : Position) (mint : String) (remaining : UInt64)
    (tokenDecimals : UInt8) (mark : Decimal) (impactBps : UInt32) : Monitor Unit := do
  let liquidity ← Monitor.look (monitorLiquidity deps mint mark remaining tokenDecimals impactBps)
  let invalidated ← Monitor.look (monitorInvalidated position.signalId)
  let now ← Monitor.look clock
  match exitReason position mark (some liquidity) deps.config.risk.minLiquidityUsd invalidated now
      deps.config.strategy with
  | none => return ()
  | some reason =>
      let r ← Monitor.look (executeExitOrder deps mint reason.asStr (← get).portfolio)
      modify fun s => { s with portfolio := r.2 }

/-- RUST: exit_monitor.rs:216-224. Mark the loaded record and save it as a whole. -/
def saveMark (mint : String) (mark : Decimal) (fetched : Option Quote) : Monitor Bool := do
  let loaded := (← get).portfolio
  let marked := loaded.markToMarket mint mark
  modify fun s => { s with portfolio := marked.2 }
  match marked.1, loaded.position mint, marked.2.position mint with
  | .ok _, some copy, some p =>
      let _ ← Monitor.look (Store.savePosition (.marked copy mark) p)
      cacheQuote mint fetched
      return true
  | .ok _, _, _ =>
      cacheQuote mint fetched
      return true
  | .error _, _, _ => return false

/-- RUST: exit_monitor.rs:133-312, one turn of the loop. -/
def monitorPosition (deps : Deps) (mint : String) : Monitor Unit := do
  match (← get).portfolio.position mint with
  | none => return ()
  | some position =>
      if position.state ≠ .open then return ()
      else
        match position.trustedRemaining with
        | none => return ()
        | some remaining =>
            let incomplete ← Monitor.orStop Store.incompleteOrders
            if incomplete.orders.any (isExitOf position.positionId) then return ()
            else
              match exitTerms position with
              | .error _ => return ()
              | .ok terms =>
                  match ← monitorMark deps mint terms remaining with
                  | none => return ()
                  | some (mark, impactBps, fetched) =>
                      if ← saveMark mint mark fetched then
                        monitorExit deps position mint remaining terms.tokenDecimals mark impactBps
                      else return ()

/-- RUST: exit_monitor.rs:101-313. -/
def monitorTick (deps : Deps) : Monitor Unit := do
  Monitor.look (reconcileStaleOrders deps)
  let stored ← Monitor.orStop Store.positions
  modify fun s => { s with portfolio := Portfolio.empty.load stored }
  let _ ← Monitor.orStop Store.emergencyStop
  let _ ← Monitor.orStop Store.killSwitchReason
  let mints ← Monitor.look (hashOrder ((← get).portfolio.openPositions.map Position.mint))
  mints.val.foldlM (fun _ mint => monitorPosition deps mint) ()

/-- RUST: exit_monitor.rs:81-97. The error of a tick is logged; the cache survives it. -/
def monitorTicks (deps : Deps) : ℕ → MonitorState → Task Unit
  | 0, _ => return ()
  | n + 1, s => do
      let r ← (monitorTick deps).run.run s
      monitorTicks deps n r.2

/-- RUST: exit_monitor.rs:51-57 and 81-97. A monitor that is shut down after `ticks` ticks. -/
def runMonitor (deps : Deps) (ticks : ℕ) : Task Unit :=
  monitorTicks deps ticks ⟨Table.empty _, Portfolio.empty⟩

end SolanaBot.Model
