import SolanaBot.Model.Session

/-!
# The entry pipeline

`process_entries` of `runtime.rs`: every candidate passes the cost gate, the strategy,
the sizing, a fresh quote and the risk engine before its order is reserved, submitted
and recorded.
-/

set_option autoImplicit false

namespace SolanaBot.Model

open SolanaBot.Library

/-- What the first checks of a candidate establish. -/
structure ScreenedCandidate where
  tokenDecimals : UInt8
  baseMintDecimals : UInt8
  expected : ExpectedValue
  wallets : List WalletStats

/-- RUST: runtime.rs:1536-1617. No open position, a fresh detection, known decimals, a cost model
for the proposed size that passes the gate, and an expected value. -/
def screenCandidate (config : Config) (s : SessionState) (c : CandidateInput) (now : Time) :
    Option ScreenedCandidate :=
  if (s.portfolio.position c.mint).any Position.isOpen then none
  else if numSeconds (now - c.detectionTimestamp) > config.rpc.maxDataAgeSecs then none
  else
    match c.tokenDecimals, c.baseMintDecimals with
    | some tokenDecimals, some baseMintDecimals =>
        if c.costs.input.positionSizeUsd ≠ c.positionUsd then none
        else
          match authorizeEntry s.risk.killSwitch ⟨config.economics.roundTripCostThresholdPct⟩
              c.costs with
          | .error _ => none
          | .ok () =>
              match ExpectedValue.estimate c.expectedGrossReturnPct c.costs 0 0
                  config.economics.uncertaintyHaircutPct with
              | .error _ => none
              | .ok expected =>
                  some
                    { tokenDecimals
                      baseMintDecimals
                      expected
                      wallets := c.wallets.filter fun w => w.updatedAt ≤ c.market.observedAt }
    | _, _ => none

/-- The first checks, and what comes out of them. -/
theorem screenCandidate_eq_some_iff {config : Config} {s : SessionState} {c : CandidateInput}
    {now : Time} {screened : ScreenedCandidate} :
    screenCandidate config s c now = some screened ↔
      ¬(s.portfolio.position c.mint).any Position.isOpen = true ∧
      ¬numSeconds (now - c.detectionTimestamp) > config.rpc.maxDataAgeSecs ∧
      c.tokenDecimals = some screened.tokenDecimals ∧
      c.baseMintDecimals = some screened.baseMintDecimals ∧
      c.costs.input.positionSizeUsd = c.positionUsd ∧
      authorizeEntry s.risk.killSwitch ⟨config.economics.roundTripCostThresholdPct⟩ c.costs = .ok () ∧
      ExpectedValue.estimate c.expectedGrossReturnPct c.costs 0 0
        config.economics.uncertaintyHaircutPct = .ok screened.expected ∧
      screened.wallets = c.wallets.filter fun w => w.updatedAt ≤ c.market.observedAt := by
  unfold screenCandidate
  constructor
  · intro h
    split at h
    · cases h
    · rename_i hopen
      split at h
      · cases h
      · rename_i hfresh
        split at h
        · rename_i tokenDecimals baseMintDecimals htoken hbase
          split at h
          · cases h
          · rename_i hsize
            split at h
            · cases h
            · rename_i hauthorized
              split at h
              · cases h
              · rename_i expected hexpected
                cases h
                exact ⟨hopen, hfresh, htoken, hbase, not_not.mp hsize, hauthorized, hexpected, rfl⟩
        · cases h
  · rintro ⟨hopen, hfresh, htoken, hbase, hsize, hauthorized, hexpected, hwallets⟩
    rw [if_neg hopen, if_neg hfresh, htoken, hbase]
    dsimp only
    rw [if_neg (not_not.mpr hsize), hauthorized, hexpected, ← hwallets]

/-- RUST: runtime.rs:3065-3079. -/
def computeLiveInputAmountAtomic (sizedUsd solPriceUsd : Decimal) (tokenDecimals : UInt8) :
    Except ExecutionError Decimal :=
  if solPriceUsd ≤ 0 then .error (.policy "sol_price_usd must be positive")
  else if tokenDecimals > 18 then .error (.policy "token decimals overflow")
  else .ok (sizedUsd * solPriceUsd * 1000000000 / dec (pow10 tokenDecimals))

/-- RUST: runtime.rs:1618-1672. The atomic input amount and the USD size of the entry. -/
def sizeEntry (config : Config) (s : SessionState) (c : CandidateInput) (tokenDecimals : UInt8) :
    Task (Option (UInt64 × Decimal)) := do
  if config.mode = .live then
    let maxPos := (s.risk.maxPositionUsd config.strategy.stopLossPct).getD 0
    if maxPos ≤ 0 then return none
    else
      let sized := if c.positionUsd > 0 ∧ c.positionUsd ≤ maxPos then c.positionUsd else maxPos
      match computeLiveInputAmountAtomic sized (s.solPriceUsd.getD 0) tokenDecimals with
      | .error _ => return none
      | .ok atomic =>
          let n ← parseU64 atomic
          return some (n.val.getD 0, min atomic config.risk.maxLiveCapitalUsd)
  else
    let n ← parseU64 c.positionUsd
    return some (n.val.getD 0, c.positionUsd)

/-- What an accepted candidate is entered with. -/
structure EntryContext where
  mint : String
  costs : CostModel
  tokenDecimals : UInt8
  baseMintDecimals : UInt8
  signalId : String
  positionId : String
  inputAmountAtomic : UInt64
  positionUsd : Decimal

/-- RUST: runtime.rs:1709-1713. -/
def entryIdempotencyKey (sha256 : List UInt8 → String) (signalId mint : String)
    (inputAmountAtomic : UInt64) : String :=
  sha256 (textBytes signalId ++ textBytes mint ++ leBytes 8 inputAmountAtomic.toNat)

/-- RUST: runtime.rs:1714-1732. -/
def entryOrder (deps : Deps) (ctx : EntryContext) (id : String) (now : Time) : OrderRecord :=
  { id
    signalId := ctx.signalId
    mint := ctx.mint
    kind := .entry
    positionId := some ctx.positionId
    side := .buy
    inputMint := some deps.config.strategy.baseMint
    outputMint := some ctx.mint
    inputAmountAtomic := some ctx.inputAmountAtomic
    inputValueUsd := some ctx.positionUsd
    outputMintDecimals := some ctx.tokenDecimals
    state := .pending
    idempotencyKey :=
      entryIdempotencyKey deps.sha256 ctx.signalId ctx.mint ctx.inputAmountAtomic
    createdAt := now
    signature := none
    error := none }

/-- The transaction of an executed entry. -/
def entryTransaction (deps : Deps) (ctx : EntryContext) (fill : Fill) (placed : OrderRecord) :
    FillTransaction :=
  { fill
    mint := ctx.mint
    order := placed
    accounting := .entry (some deps.config.strategy.baseMint) ctx.tokenDecimals
      ctx.baseMintDecimals ctx.positionId fill.priceUsd ctx.signalId ctx.costs
    source := .direct }

/-- RUST: runtime.rs:1866-1869. A failure of the execution is counted. -/
def countFailure : Session Unit := do
  let failure := (← get).risk.recordExecutionFailure
  modify fun s => { s with risk := failure.2 }
  if failure.1 then orStop (Store.latchKillSwitch "consecutive execution failures")
  else return ()

/-- RUST: runtime.rs:1757-1852. A fill was executed: record it, or mark the order unknown. -/
def persistEntry (deps : Deps) (ctx : EntryContext) (fill : Fill) (placed : OrderRecord)
    (minOutputAmount : UInt64) : Session Unit := do
  let fill := finalizeFill fill (← get).solPriceUsd
  match ← look (Store.fillTransaction (entryTransaction deps ctx fill placed)) with
  | (.ok (), _) =>
      modify fun s =>
        { s with
          portfolio := (s.portfolio.applyEntry ctx.mint deps.config.strategy.baseMint
            ctx.tokenDecimals ctx.baseMintDecimals ctx.positionId fill fill.priceUsd ctx.signalId
            ctx.costs).2
          risk := (s.risk.registerTrade ctx.positionUsd).recordExecutionSuccess }
      if fill.outputAmount < minOutputAmount then countFailure else return ()
  | (.error e, placed) => orStop (Store.updateOrder placed (unpersistedOrder placed fill e))

/-- RUST: runtime.rs:1738-1872. From the reserved order to its outcome. -/
def submitEntry (deps : Deps) (ctx : EntryContext) (order : OrderRecord) (quote : Quote) :
    Session Unit := do
  let minOutputAmount := minOutput quote deps.config.execution.slippageBps
  let placed := order.transitionOrKeep .submitted
  orStop (Store.updateOrder order placed)
  match ← look (Executor.execute
      { orderId := order.id
        quote
        maxSlippageBps := deps.config.risk.maxSlippageBps
        maxPriceImpactBps := deps.config.execution.maxPriceImpactBps
        minOutputAmount
        inputDecimals := ctx.baseMintDecimals
        outputDecimals := ctx.tokenDecimals
        valueBasis := .inputValueUsd ctx.positionUsd }) with
  | .ok fill => persistEntry deps ctx fill placed minOutputAmount
  | .error (.unknown signature detail) =>
      orStop (Store.updateOrder placed (unknownOrder placed signature detail))
  | .error e =>
      orStop (Store.updateOrder placed (placed.reported .failed e.toText))
      countFailure

/-- RUST: runtime.rs:1733-1873. An order whose idempotency key is taken is not submitted. -/
def submitReserved (deps : Deps) (ctx : EntryContext) (order : OrderRecord) (quote : Quote)
    (reserved : Bool) : Session Unit :=
  if reserved then submitEntry deps ctx order quote else return ()

/-- RUST: runtime.rs:1673-1873. A fresh quote, the risk engine, the reservation. -/
def placeEntry (deps : Deps) (c : CandidateInput) (screened : ScreenedCandidate)
    (signal : TradeSignal) (inputAmountAtomic : UInt64) (positionUsd : Decimal) (now : Time) :
    Session Unit := do
  let config := deps.config
  match ← look (Executor.quote config.strategy.baseMint c.mint inputAmountAtomic
      config.execution.slippageBps) with
  | .error _ => return ()
  | .ok quote =>
      let risk := (← get).risk
      match risk.authorize positionUsd c.market.liquidityUsd config.execution.slippageBps.toUInt32
          quote.priceImpactBps now with
      | .error _ => return ()
      | .ok () =>
          match risk.validatePositionSize positionUsd config.strategy.stopLossPct with
          | .error _ => return ()
          | .ok () =>
              let positionId ← look newUuid
              let id ← look newUuid
              let ctx : EntryContext :=
                { mint := c.mint
                  costs := c.costs
                  tokenDecimals := screened.tokenDecimals
                  baseMintDecimals := screened.baseMintDecimals
                  signalId := signal.id
                  positionId
                  inputAmountAtomic
                  positionUsd }
              let order := entryOrder deps ctx id now
              let reserved ← orStop (Store.reserveOrder [] order)
              submitReserved deps ctx order quote reserved
              modify fun s => { s with seenSignals := signal.id :: s.seenSignals }

/-- RUST: runtime.rs:1532-1873, one turn of the loop. -/
def processEntry (deps : Deps) (now : Time) (mint : String) : Session Unit := do
  let config := deps.config
  match (← get).candidates.find? mint with
  | none => return ()
  | some c =>
      match screenCandidate config (← get) c now with
      | none => return ()
      | some screened =>
          let t ← look clock
          let uuid ← look newUuid
          match evaluateSignal config mint screened.wallets c.market c.safety screened.expected t
              uuid with
          | .rejected _ => return ()
          | .accepted signal =>
              if signal.id ∈ (← get).seenSignals then return ()
              else
                modify fun s => { s with
                  risk := s.risk.setOpenPositions s.portfolio.openPositions.length }
                match ← look (sizeEntry config (← get) c screened.tokenDecimals) with
                | none => return ()
                | some (inputAmountAtomic, positionUsd) =>
                    if positionUsd ≤ 0 ∨ positionUsd > config.risk.maxLiveCapitalUsd then return ()
                    else placeEntry deps c screened signal inputAmountAtomic positionUsd now

/-- RUST: runtime.rs:1525-1876. -/
def processEntries (deps : Deps) : Session Unit := do
  let now ← look clock
  let mints ← look (hashOrder ((← get).candidates.rows.map CandidateInput.mint))
  mints.val.foldlM (fun _ mint => processEntry deps now mint) ()

end SolanaBot.Model
