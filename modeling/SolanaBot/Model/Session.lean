import SolanaBot.Model.ExitExecution
import SolanaBot.Model.Risk
import SolanaBot.Model.Strategy

/-!
# The trading session

`runtime.rs`: the state of a session, its tick (day window, prices, reconciliation,
interlocks, ingestion, equity, exits, entries), and its life from the start to the
final reconciliation. A tick that stops with an error keeps the state it has reached,
and the session goes on with the next tick.
-/

set_option autoImplicit false

namespace SolanaBot.Model

open SolanaBot.Library

/-- RUST: runtime.rs:831-847. Of the collector and the wallet monitor only their presence is
local; what they deliver comes from the environment. -/
structure SessionState where
  portfolio : Portfolio
  risk : RiskEngine
  candidates : Table CandidateInput.mint
  seenSignals : List String
  dayKey : Int
  emergencyActive : Bool
  walletMonitor : Bool
  solPriceUsd : Option Decimal
  solPriceFetchedAt : Option Time
  lastPositionReconcile : Time

/-- A part of the session: it works on the session state and may stop with an error. -/
abbrev Session (α : Type) := Prog.Stateful Op Res SessionState String α

/-- A statement or call whose answer, error or not, is looked at. -/
def look {α : Type} (t : Task α) : Session α := monadLift t

/-- A statement or a task whose error is passed on with `?`. -/
def orStop {α : Type} (t : Task (Except String α)) : Session α := do
  match ← look t with
  | .ok a => return a
  | .error e => throw e

/-- The date of `now`, RUST: runtime.rs:1006. -/
def dayOf (now : Time) : Int := now / 86400000

/-- RUST: runtime.rs:402-407. -/
def aggregateExposure (positions : List Position) : Decimal :=
  (positions.filterMap Position.entryCostUsd).sum

/-- RUST: runtime.rs:507-513. -/
def equityUsd (starting : Decimal) (positions : List Position) : Decimal :=
  starting + (positions.map fun p => p.realizedPnlUsd + p.unrealizedPnlUsd).sum

/-! ## Start of a tick -/

/-- RUST: runtime.rs:1005-1012. -/
def rollDay (now : Time) (s : SessionState) : SessionState :=
  if dayOf now = s.dayKey then s
  else
    { s with
      dayKey := dayOf now
      risk := { s.risk with
        state := { s.risk.state with
          dayStartEquityUsd := s.risk.state.equityUsd
          tradesToday := 0 } } }

/-- RUST: runtime.rs:1014-1038. A price older than two minutes is fetched again. -/
def refreshSolPrice (deps : Deps) (now : Time) : Session Unit := do
  let s ← get
  if deps.live ∧ !(s.solPriceFetchedAt.any fun t => numSeconds (now - t) < 120) then
    match ← look Rpc.fetchSolPriceUsd with
    | .ok (some price) =>
        if price > 0 then
          modify fun s => { s with solPriceUsd := some price, solPriceFetchedAt := some now }
        else modify fun s => { s with solPriceUsd := none }
    | _ => modify fun s => { s with solPriceUsd := none }
  else return ()

/-- RUST: runtime.rs:1040-1057. -/
def periodicReconciliation (deps : Deps) : Session Unit := do
  if deps.live ∧ deps.config.runtime.reconcileIntervalSecs > 0 then
    let t ← look instant
    if t - (← get).lastPositionReconcile ≥ seconds deps.config.runtime.reconcileIntervalSecs then
      let _ ← look (reconcilePositionsOnchain deps).run
      let t ← look instant
      modify fun s => { s with lastPositionReconcile := t }
    else return ()
  else return ()

/-- RUST: runtime.rs:1069-1082. An unreadable emergency stop counts as engaged. -/
def readEmergencyStop : Session Unit := do
  match ← look Store.emergencyStop with
  | .ok (some _) => modify fun s => { s with emergencyActive := true }
  | .ok none => modify fun s => { s with emergencyActive := false }
  | .error _ => modify fun s => { s with emergencyActive := true }

/-- RUST: runtime.rs:1084-1088 and 933-936. A latched kill switch trips the one of the session. -/
def readKillSwitch : Session Unit := do
  match ← orStop Store.killSwitchReason with
  | some _ =>
      modify fun s => { s with risk := { s.risk with killSwitch := s.risk.killSwitch.forceTrip } }
  | none => return ()

/-! ## Ingestion -/

/-- RUST: runtime.rs:1097-1113. -/
def feedPath (config : Config) : Option String :=
  (config.runtime.replayDatasetPath.filter fun s => s ≠ "").or
    (if config.walletMonitorEnabled then none
     else config.runtime.signalFeedPath.filter fun s => s ≠ "")

/-- RUST: runtime.rs:1136-1138 and 1206-1209, the tokens bought with the USD value. -/
def rawTokens (c : CandidateInput) : Decimal :=
  c.positionUsd / c.market.priceUsd * 1000000 * 1000000000 / 1000000

/-- RUST: runtime.rs:1139-1150 and 1210-1219. The message also prints the two amounts. -/
def tokenAmount (c : CandidateInput) : Session UInt64 := do
  let n ← look (parseU64 (rawTokens c))
  match n.val.filter fun v => v > 0 with
  | some v => return v
  | none => throw ("failed to compute token amount for " ++ c.mint)

/-- RUST: runtime.rs:1171-1179 and 1237-1245. -/
def registerQuote (deps : Deps) (c : CandidateInput) (tokens : UInt64) (impactBps : UInt32)
    (source : String) (now : Time) : Session Unit := do
  let _ ← look (Executor.registerQuote
    { inputMint := deps.config.strategy.baseMint
      outputMint := c.mint
      inputAmount := c.inputAmount
      outputAmount := tokens
      priceImpactBps := impactBps
      route := "\x7b\"source\":\"" ++ source ++ "\"\x7d"
      observedAt := now })
  return ()

/-- RUST: runtime.rs:1120-1180, one turn of the loop over the feed. -/
def ingestFeedCandidate (deps : Deps) (now : Time) (c : CandidateInput) : Session Unit := do
  let _ ← look (Store.setLastLiquidity c.mint c.market.liquidityUsd)
  match deps.config.economics.solPriceUsd with
  | none => return ()
  | some solPrice =>
      if solPrice ≤ 0 then return ()
      else if c.market.priceUsd > 0 then
        let tokens ← tokenAmount c
        let impact ← look (parseU32 c.costs.input.avgPriceImpactBps)
        match impact.val with
        | none => throw ("failed to parse price_impact_bps for " ++ c.mint)
        | some impactBps => registerQuote deps c tokens impactBps "replay" now
      else throw ("candidate " ++ c.mint ++ " has zero price_usd; cannot compute token amount")

/-- RUST: runtime.rs:1191-1246, one turn of the loop over the wallet monitor's candidates. A
zero price and an unreadable impact skip the candidate here. -/
def ingestMonitorCandidate (deps : Deps) (now : Time) (c : CandidateInput) : Session Unit := do
  let _ ← look (Store.setLastLiquidity c.mint c.market.liquidityUsd)
  match (← get).solPriceUsd with
  | none => return ()
  | some solPrice =>
      if solPrice ≤ 0 then return ()
      else if c.market.priceUsd > 0 then
        let tokens ← tokenAmount c
        let impact ← look (parseU32 c.costs.input.avgPriceImpactBps)
        match impact.val with
        | none => return ()
        | some impactBps => registerQuote deps c tokens impactBps "wallet_monitor" now
      else return ()

/-- RUST: runtime.rs:1181-1183 and 1247-1249. -/
def insertCandidates (cs : List CandidateInput) (s : SessionState) : SessionState :=
  { s with candidates := cs.foldl Table.put s.candidates }

/-- RUST: runtime.rs:1093-1184. -/
def ingestFeed (deps : Deps) (now : Time) : Session Unit := do
  match feedPath deps.config with
  | none => return ()
  | some path =>
      let cs ← look (Feed.collectFromJsonl path now deps.config.rpc.maxDataAgeSecs)
      cs.foldlM (fun _ c => ingestFeedCandidate deps now c) ()
      modify (insertCandidates cs)

/-- RUST: runtime.rs:1186-1260. -/
def ingestWalletMonitor (deps : Deps) (now : Time) : Session Unit := do
  if (← get).walletMonitor then
    match ← look Feed.walletMonitorTick with
    | .error _ => return ()
    | .ok cs =>
        cs.foldlM (fun _ c => ingestMonitorCandidate deps now c) ()
        modify (insertCandidates cs)
  else return ()

/-- RUST: runtime.rs:1266-1269. -/
def latchDrawdown : Session Unit := do
  if (← get).risk.killSwitch.tripped then
    match ← orStop Store.killSwitchReason with
    | none => orStop (Store.latchKillSwitch "drawdown limit reached")
    | some _ => return ()
  else return ()

/-- RUST: runtime.rs:1262-1271. -/
def markEquity (deps : Deps) : Session Unit := do
  let opened := (← get).portfolio.openPositions
  modify fun s => { s with
    risk := s.risk.observeEquity (equityUsd deps.config.risk.startingCapitalUsd opened) }
  latchDrawdown
  modify fun s => { s with
    risk := (s.risk.setOpenPositions opened.length).setTotalExposure (aggregateExposure opened) }

/-! ## Exits -/

/-- RUST: runtime.rs:475-491. -/
def markPriceFromQuote (quoteOutputAtomic : UInt64) (baseDecimals : UInt8) (basePriceUsd : Decimal)
    (tokenRemainingAtomic : UInt64) (tokenDecimals : UInt8) : Option Decimal :=
  if tokenRemainingAtomic = 0 ∨ quoteOutputAtomic = 0 then none
  else
    match units quoteOutputAtomic baseDecimals, units tokenRemainingAtomic tokenDecimals with
    | .ok baseUnits, .ok tokenUnits =>
        if tokenUnits = 0 then none else some (baseUnits * basePriceUsd / tokenUnits)
    | _, _ => none

/-- The liquidity that the store remembers, unless it is too old.
RUST: runtime.rs:1340-1365 and exit_monitor.rs:234-259. -/
def persistedLiquidity (deps : Deps) (mint : String) : Task (Option Decimal) := do
  match ← Store.lastLiquidity mint with
  | .ok (some evidence) =>
      let maxAge := deps.config.runtime.maxLiquidityAgeSecs
      if maxAge > 0 then
        let now ← clock
        if now - evidence.observedAt > seconds maxAge then return none
        else return some evidence.liquidityUsd
      else return some evidence.liquidityUsd
  | .ok none => return none
  | .error _ => return none

/-- RUST: runtime.rs:1334-1366. The candidate of this tick first, then the store. -/
def exitLiquidity (deps : Deps) (candidate : Option CandidateInput) (mint : String) :
    Task (Option Decimal) :=
  match candidate with
  | some c => return some c.market.liquidityUsd
  | none => persistedLiquidity deps mint

/-- RUST: runtime.rs:1368-1379. An unreadable flag counts as invalidated. -/
def signalInvalidated (signalId : String) : Task Bool := do
  if signalId = "" then return false
  else
    match ← Store.isSignalInvalidated signalId with
    | .ok v => return v
    | .error _ => return true

/-- The USD value of the quantity that a mark quote was asked for. -/
def probeUsd (mark : Decimal) (remaining : UInt64) (tokenDecimals : UInt8) : Decimal :=
  mark * dec remaining / dec (pow10 tokenDecimals)

/-- RUST: runtime.rs:1414-1460. -/
def deriveMark (deps : Deps) (baseMint : Option String) (mint : String) (remaining : UInt64)
    (baseDecimals tokenDecimals : UInt8) (basePrice : Decimal) : Task (Option Decimal) := do
  match baseMint with
  | none => return none
  | some baseMint =>
      match ← Executor.quote mint baseMint remaining deps.config.execution.slippageBps with
      | .error _ => return none
      | .ok q =>
          match markPriceFromQuote q.outputAmount baseDecimals basePrice remaining tokenDecimals with
          | none => return none
          | some mark =>
              let _ ← Store.setLastLiquidity mint
                (estimateLiquidityUsd (probeUsd mark remaining tokenDecimals) q.priceImpactBps)
              return some mark

/-- RUST: runtime.rs:1463-1523. -/
def attemptExit (deps : Deps) (mint : String) (remaining : UInt64) (reason : String) :
    Session Unit := do
  match (← get).risk.authorizeExit remaining with
  | .error _ => return ()
  | .ok () =>
      let r ← look (executeExitOrder deps mint reason (← get).portfolio)
      modify fun s => { s with portfolio := r.2 }
      match r.1 with
      | .confirmed fill =>
          modify fun s =>
            let exposure := ((s.portfolio.position mint).bind Position.entryCostUsd).getD 0
            let risk := (s.risk.registerExit exposure).recordExecutionSuccess
            { s with risk := if fill.outputAmount = 0 then risk.recordExecutionFailure.2 else risk }
      | .failed _ =>
          let failure := (← get).risk.recordExecutionFailure
          modify fun s => { s with risk := failure.2 }
          if failure.1 then orStop (Store.latchKillSwitch "consecutive execution failures")
          else return ()
      | .unknown => return ()
      | .skipped _ => return ()

/-- RUST: runtime.rs:1393-1409, the end of one turn: mark the position, and exit if a reason
is found. `position` is the record before the mark. -/
def markAndExit (deps : Deps) (position : Position) (mint : String) (remaining : UInt64)
    (liquidity : Option Decimal) (invalidated : Bool) (mark : Decimal) : Session Unit := do
  let marked := (← get).portfolio.markToMarket mint mark
  modify fun s => { s with portfolio := marked.2 }
  match marked.1 with
  | .error e => throw e
  | .ok _ =>
      let now ← look clock
      match exitReason position mark liquidity deps.config.risk.minLiquidityUsd invalidated now
          deps.config.strategy with
      | none => return ()
      | some reason => attemptExit deps mint remaining reason.asStr

/-- RUST: runtime.rs:1310-1410, one turn of the loop. -/
def processExit (deps : Deps) (mint : String) : Session Unit := do
  let s ← get
  match s.portfolio.position mint with
  | none => return ()
  | some position =>
      match position.trustedRemaining with
      | none => return ()
      | some remaining =>
          let incomplete ← orStop Store.incompleteOrders
          if incomplete.orders.any (isExitOf position.positionId) then return ()
          else
            match position.baseEntryPriceUsd, position.baseMintDecimals, position.tokenDecimals with
            | some basePrice, some baseDecimals, some tokenDecimals =>
                let liquidity ← look (exitLiquidity deps (s.candidates.find? mint) mint)
                let invalidated ← look (signalInvalidated position.signalId)
                match ← look (deriveMark deps position.baseMint mint remaining baseDecimals
                    tokenDecimals basePrice) with
                | none => return ()
                | some mark => markAndExit deps position mint remaining liquidity invalidated mark
            | _, _, _ => return ()

/-- RUST: runtime.rs:1301-1412. -/
def processExits (deps : Deps) : Session Unit := do
  let mints ← look (hashOrder ((← get).portfolio.openPositions.map Position.mint))
  mints.val.foldlM (fun _ mint => processExit deps mint) ()

end SolanaBot.Model
