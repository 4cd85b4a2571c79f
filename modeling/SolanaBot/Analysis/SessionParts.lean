import SolanaBot.Analysis.BackgroundTasks
import SolanaBot.Analysis.CandidateIngestion
import SolanaBot.Analysis.RiskLimits
import SolanaBot.Library.Triples

/-!
# The parts of a session

A session cut at the points that the results about it speak of: the state in which a tick
decides about entries, and the call of `authorize` for one candidate. What the session does to
its risk engine on the way is one of few moves at a time (`RiskMove`), whatever the operations
answer and whatever the other tasks do in between.
-/

set_option autoImplicit false

namespace SolanaBot.Analysis

open SolanaBot.Library SolanaBot.Model

/-! ## Cuts -/

/-- The tick before it marks the equity. -/
def beforeMarking (deps : Deps) : Session Unit := do
  let now ← beforeIngestion deps
  ingestion deps now

/-- Before the exits the session ingests and marks its equity. -/
theorem beforeExits_eq (deps : Deps) :
    beforeExits deps = (do
      beforeMarking deps
      markEquity deps) := by
  unfold beforeExits beforeMarking
  simp only [bind_assoc]

/-- The tick before it decides about entries. -/
def beforeEntries (deps : Deps) : Session Unit := do
  beforeExits deps
  processExits deps

/-- Whether the tick makes entries. -/
def entryGate (deps : Deps) : Session Bool := do
  let s ← get
  if s.emergencyActive || s.risk.killSwitch.tripped then return false
  else
    let incomplete ← orStop Store.incompleteOrders
    return entriesAllowed deps.config s incomplete.orders

/-- The end of the tick. -/
def makeEntries (deps : Deps) : Session Unit := do
  if ← entryGate deps then processEntries deps else return ()

/-- A tick makes its entries at its end. -/
theorem tick_eq_entries (deps : Deps) :
    tick deps = (do
      beforeEntries deps
      makeEntries deps) := by
  rw [tick_eq]
  unfold beforeEntries exitsAndEntries makeEntries entryGate
  simp only [bind_assoc]
  refine congrArg _ (funext fun _ => congrArg _ (funext fun _ => congrArg _ (funext fun s => ?_)))
  split
  · rfl
  · simp only [bind_assoc, pure_bind]

/-- What the risk engine is asked about. -/
structure EntryCall where
  candidate : CandidateInput
  screened : ScreenedCandidate
  signal : TradeSignal
  inputAmountAtomic : UInt64
  positionUsd : Decimal
  quote : Quote

/-- A turn over a candidate up to the call of `authorize`, if it gets there. -/
def beforeAuthorize (deps : Deps) (now : Time) (mint : String) : Session (Option EntryCall) := do
  let config := deps.config
  match (← get).candidates.find? mint with
  | none => return none
  | some c =>
      match screenCandidate config (← get) c now with
      | none => return none
      | some screened =>
          let t ← look clock
          let uuid ← look newUuid
          match evaluateSignal config mint screened.wallets c.market c.safety screened.expected t
              uuid with
          | .rejected _ => return none
          | .accepted signal =>
              if signal.id ∈ (← get).seenSignals then return none
              else
                modify fun s => { s with
                  risk := s.risk.setOpenPositions s.portfolio.openPositions.length }
                match ← look (sizeEntry config (← get) c screened.tokenDecimals) with
                | none => return none
                | some (inputAmountAtomic, positionUsd) =>
                    if positionUsd ≤ 0 ∨ positionUsd > config.risk.maxLiveCapitalUsd then return none
                    else
                      match ← look (Executor.quote config.strategy.baseMint c.mint inputAmountAtomic
                          config.execution.slippageBps) with
                      | .error _ => return none
                      | .ok quote =>
                          return some ⟨c, screened, signal, inputAmountAtomic, positionUsd, quote⟩

/-- The answer of the risk engine. -/
def EntryCall.authorize (deps : Deps) (call : EntryCall) (risk : RiskEngine) (now : Time) :
    Except RiskError Unit :=
  risk.authorize call.positionUsd call.candidate.market.liquidityUsd
    deps.config.execution.slippageBps.toUInt32 call.quote.priceImpactBps now

/-- What the order of the call is made with. -/
def EntryCall.context (call : EntryCall) (positionId : String) : EntryContext :=
  { mint := call.candidate.mint
    costs := call.candidate.costs
    tokenDecimals := call.screened.tokenDecimals
    baseMintDecimals := call.screened.baseMintDecimals
    signalId := call.signal.id
    positionId
    inputAmountAtomic := call.inputAmountAtomic
    positionUsd := call.positionUsd }

/-- The rest of a turn after the call was prepared. -/
def decideEntry (deps : Deps) (now : Time) (call : EntryCall) : Session Unit := do
  let risk := (← get).risk
  match call.authorize deps risk now with
  | .error _ => return ()
  | .ok () =>
      match risk.validatePositionSize call.positionUsd deps.config.strategy.stopLossPct with
      | .error _ => return ()
      | .ok () =>
          let positionId ← look newUuid
          let id ← look newUuid
          let order := entryOrder deps (call.context positionId) id now
          let reserved ← orStop (Store.reserveOrder [] order)
          submitReserved deps (call.context positionId) order call.quote reserved
          modify fun s => { s with seenSignals := call.signal.id :: s.seenSignals }

/-- A turn asks the risk engine and decides. -/
theorem processEntry_eq (deps : Deps) (now : Time) (mint : String) :
    processEntry deps now mint = (do
      match ← beforeAuthorize deps now mint with
      | none => return ()
      | some call => decideEntry deps now call) := by
  unfold processEntry beforeAuthorize placeEntry decideEntry
  simp only [bind_assoc]
  refine congrArg _ (funext fun s => ?_)
  cases s.candidates.find? mint with
  | none => rfl
  | some c =>
      simp only [bind_assoc]
      refine congrArg _ (funext fun s => ?_)
      cases screenCandidate deps.config s c now with
      | none => rfl
      | some screened =>
          simp only [bind_assoc]
          refine congrArg _ (funext fun t => congrArg _ (funext fun uuid => ?_))
          cases evaluateSignal deps.config mint screened.wallets c.market c.safety screened.expected t
            uuid with
          | rejected reason => rfl
          | accepted signal =>
              simp only [bind_assoc]
              refine congrArg _ (funext fun s => ?_)
              by_cases hseen : signal.id ∈ s.seenSignals
              · simp only [hseen, if_true]
                rfl
              · simp only [hseen, if_false, bind_assoc]
                refine congrArg _ (funext fun _ => congrArg _ (funext fun s => congrArg _
                  (funext fun sized => ?_)))
                cases sized with
                | none => rfl
                | some sized =>
                    obtain ⟨inputAmountAtomic, positionUsd⟩ := sized
                    dsimp only
                    by_cases hsize : positionUsd ≤ 0 ∨ positionUsd > deps.config.risk.maxLiveCapitalUsd
                    · simp only [hsize, if_true]
                      rfl
                    · simp only [hsize, if_false, bind_assoc]
                      refine congrArg _ (funext fun answer => ?_)
                      cases answer with
                      | error e => rfl
                      | ok quote => rfl

/-- The end of the start of a session. -/
def reconcileAtStart (deps : Deps) : Session Unit := do
  restoreEmergencyStop
  let _ ← startupReconciliation deps
  let t ← look instant
  modify fun s => { s with lastPositionReconcile := t }

/-- A session before its first tick. -/
def sessionStart (deps : Deps) : Session Unit := do
  startWalletMonitor deps
  restoreDay
  readKillSwitch
  reconcileAtStart deps

/-- A session is its start, its ticks and its last reconciliation. -/
theorem sessionBody_eq (deps : Deps) (ticks : ℕ) :
    sessionBody deps ticks = (do
      sessionStart deps
      sessionTicks deps ticks
      finalReconciliation deps) := by
  unfold sessionBody sessionStart reconcileAtStart
  simp only [bind_assoc]

/-- One tick and the persistence after it. -/
def tickAndPersist (deps : Deps) : Session Unit := do
  let s ← get
  let r ← look ((tick deps).run.run s)
  set r.2
  persistSessionState

/-- The ticks are the first one and the others. -/
theorem sessionTicks_succ (deps : Deps) (n : ℕ) :
    sessionTicks deps (n + 1) = (do
      tickAndPersist deps
      sessionTicks deps n) := by
  unfold tickAndPersist
  simp only [bind_assoc]
  rfl

/-- The ticks of a session can be cut anywhere. -/
theorem sessionTicks_add (deps : Deps) (n m : ℕ) :
    sessionTicks deps (n + m) = (do
      sessionTicks deps n
      sessionTicks deps m) := by
  induction n with
  | zero =>
      rw [Nat.zero_add]
      exact (pure_bind () fun _ => sessionTicks deps m).symm
  | succ n ih =>
      rw [Nat.succ_add, sessionTicks_succ, sessionTicks_succ, ih]
      simp only [bind_assoc]

/-- The ticks of a session up to the call of `authorize` in the turn `k` of the tick `n`, if they
get there. -/
def ticksUntilAuthorize (deps : Deps) (n k : ℕ) : Session (Option (EntryCall × Time)) := do
  sessionTicks deps n
  beforeEntries deps
  if ← entryGate deps then
    let now ← look clock
    let mints ← look (hashOrder ((← get).candidates.rows.map CandidateInput.mint))
    (mints.val.take k).foldlM (fun _ mint => processEntry deps now mint) ()
    match mints.val[k]? with
    | none => return none
    | some mint =>
        let call ← beforeAuthorize deps now mint
        return call.map fun c => (c, now)
  else return none

/-- The end of a tick up to the call of `authorize` in the turn `k`, if it gets there. -/
def authorizing (deps : Deps) (k : ℕ) : Session (Option (EntryCall × Time)) := do
  if ← entryGate deps then
    let now ← look clock
    let mints ← look (hashOrder ((← get).candidates.rows.map CandidateInput.mint))
    (mints.val.take k).foldlM (fun _ mint => processEntry deps now mint) ()
    match mints.val[k]? with
    | none => return none
    | some mint =>
        let call ← beforeAuthorize deps now mint
        return call.map fun c => (c, now)
  else return none

/-- What comes before a call of `authorize` is the ticks, the stages before the entries and the turns.
-/
theorem ticksUntilAuthorize_eq (deps : Deps) (n k : ℕ) :
    ticksUntilAuthorize deps n k = (do
      sessionTicks deps n
      beforeEntries deps
      authorizing deps k) := rfl

/-- A session up to the call of `authorize` in the turn `k` of the tick `n`, if it gets there. -/
def untilAuthorize (deps : Deps) (n k : ℕ) : Session (Option (EntryCall × Time)) := do
  sessionStart deps
  ticksUntilAuthorize deps n k

/-- The call that a run has ended with. -/
def callOf (r : Except String (Option (EntryCall × Time))) : Option (EntryCall × Time) :=
  match r with
  | .ok call => call
  | .error _ => none

/-- A run that reaches the call returns it. -/
theorem eq_of_callOf {r : Except String (Option (EntryCall × Time))} (h : (callOf r).isSome) :
    r = .ok (some ((callOf r).get h)) := by
  cases r with
  | error e => cases h
  | ok call =>
      cases call with
      | none => cases h
      | some c => rfl

/-- A statement whose error is passed on. -/
theorem triple_orStop {σ ε α : Type} {m : Machine Op Res σ ε} {env : ℕ → ε}
    {R G : ε → Op → σ → Prop} {P E : SessionState → σ → Prop} {Q : α → SessionState → σ → Prop}
    {t : Model.Task (Except String α)}
    (h : ∀ s, Prog.TaskTriple m env R G (P s) t fun r db =>
      match r with
      | .ok a => Q a s db
      | .error _ => E s db) :
    Prog.Triple m env R G P (orStop t) Q E := by
  refine Prog.triple_bind (Prog.triple_lift h) fun r => ?_
  cases r with
  | ok a => exact Prog.triple_pure fun _ _ hs => hs
  | error e => exact Prog.triple_throw fun _ _ hs => hs

/-! ## What a session does to its risk engine -/

/-- One move of the risk engine. -/
inductive RiskMove (r : RiskEngine) : RiskEngine → Prop where
  | window (start : Decimal) (trades : UInt32) : RiskMove r
      { r with state := { r.state with dayStartEquityUsd := start, tradesToday := trades } }
  | trip : RiskMove r { r with killSwitch := r.killSwitch.forceTrip }
  | observeEquity (equity : Decimal) : RiskMove r (r.observeEquity equity)
  | setOpenPositions (count : ℕ) : RiskMove r (r.setOpenPositions count)
  | setTotalExposure (exposure : Decimal) : RiskMove r (r.setTotalExposure exposure)
  | registerTrade (exposure : Decimal) : RiskMove r (r.registerTrade exposure)
  | registerExit (exposure : Decimal) : RiskMove r (r.registerExit exposure)
  | recordExecutionSuccess : RiskMove r r.recordExecutionSuccess
  | recordExecutionFailure : RiskMove r r.recordExecutionFailure.2

/-! ## What a session keeps -/

section Preserves

variable {σ ε α β : Type} (m : Machine Op Res σ ε) (env : ℕ → ε) (R : ε → Op → σ → Prop)
  (I E : SessionState → σ → Prop)

/-- As long as the steps meet `R`, the part of a session keeps `I`, or stops with an error in a state
that meets `E`. -/
def Preserves (p : Session α) : Prop :=
  Prog.Triple m env R (fun _ _ _ => True) I p (fun _ => I) E

/-- The portfolio has no open position of the mint. -/
def NotOpen (mint : String) (pf : Portfolio) : Prop :=
  (pf.position mint).any Position.isOpen = false

/-- What an invariant needs of the parts that neither trade nor change the portfolio or the risk
engine. -/
structure QuietInvariant : Prop where
  op : ∀ i o db s, Indirect o → R (env i) o db → I s db → I s (m.exec (env i) o db).2
  frame : ∀ s s' db, s'.portfolio = s.portfolio → s'.risk = s.risk → I s db → I s' db
  error : ∀ s db, I s db → E s db

/-- What an invariant of the exits and entries of a tick needs. -/
structure TickInvariant (deps : Deps) : Prop extends QuietInvariant m env R I E where
  counted : ∀ s db, I s db →
    I { s with risk := s.risk.setOpenPositions s.portfolio.openPositions.length } db
  marked : ∀ s mint price db, I s db →
    I { s with portfolio := (s.portfolio.markToMarket mint price).2 } db
  failed : Preserves m env R I E countFailure
  exited : ∀ mint remaining reason, Preserves m env R I E (attemptExit deps mint remaining reason)
  entered : ∀ ctx fill placed minOutputAmount, placed.inputValueUsd = some ctx.positionUsd →
    Prog.Triple m env R (fun _ _ _ => True) (fun s db => I s db ∧ NotOpen ctx.mint s.portfolio)
      (persistEntry deps ctx fill placed minOutputAmount) (fun _ => I) E

/-- What an invariant of a whole session needs. -/
structure RunInvariant (deps : Deps) : Prop extends TickInvariant m env R I E deps where
  window : ∀ s start trades db, I s db →
    I { s with risk := { s.risk with
      state := { s.risk.state with dayStartEquityUsd := start, tradesToday := trades } } } db
  trip : ∀ s db, I s db →
    I { s with risk := { s.risk with killSwitch := s.risk.killSwitch.forceTrip } } db
  equity : Preserves m env R I E (markEquity deps)
  caught : ∀ s db, E s db → I s db

variable {m env R I E} {deps : Deps}

/-- A value preserves the invariant. -/
theorem preserves_pure (a : α) : Preserves m env R I E (pure a : Session α) :=
  Prog.triple_pure fun _ _ h => h

/-- Reading the session's state preserves it. -/
theorem preserves_get : Preserves m env R I E (get : Session SessionState) :=
  Prog.triple_get fun _ _ h => h

/-- A change that keeps the invariant preserves it. -/
theorem preserves_modify {g : SessionState → SessionState} (h : ∀ s db, I s db → I (g s) db) :
    Preserves m env R I E (modify g : Session PUnit) :=
  Prog.triple_modify h

/-- Two parts preserve it if each does. -/
theorem preserves_bind {p : Session α} {f : α → Session β} (hp : Preserves m env R I E p)
    (hf : ∀ a, Preserves m env R I E (f a)) : Preserves m env R I E (p >>= f) :=
  Prog.triple_bind hp hf

/-- Nothing is said about the end after an error. -/
theorem preserves_anyError {p : Session α} (h : Preserves m env R I E p) :
    Preserves m env R I (fun _ _ => True) p :=
  h.conseq (fun _ _ hs => hs) (fun _ _ _ hs => hs) fun _ _ _ => trivial

/-- Started with more than `I`. -/
theorem triple_of_preserves {P : SessionState → σ → Prop} {p : Session α}
    (hP : ∀ s db, P s db → I s db) (h : Preserves m env R I E p) :
    Prog.Triple m env R (fun _ _ _ => True) P p (fun _ => I) E :=
  h.conseq hP (fun _ _ _ hs => hs) fun _ _ hs => hs

/-- A loop preserves it if its turns do. -/
theorem preserves_foldlM {f : β → α → Session β} (as : List α)
    (h : ∀ b a, Preserves m env R I E (f b a)) (b : β) : Preserves m env R I E (as.foldlM f b) :=
  Prog.triple_foldlM as (fun b a _ => h b a) b

section Quiet

variable (h : QuietInvariant m env R I E)

include h

/-- A fact about the portfolio and the risk engine is kept as well. -/
theorem QuietInvariant.and_fact (P : Portfolio → RiskEngine → Prop) :
    QuietInvariant m env R (fun s db => I s db ∧ P s.portfolio s.risk) E where
  op i o db s ho hR hs := ⟨h.op i o db s ho hR hs.1, hs.2⟩
  frame s s' db hportfolio hrisk hs := by
    rw [hportfolio, hrisk]
    exact ⟨h.frame s s' db hportfolio hrisk hs.1, hs.2⟩
  error s db hs := h.error s db hs.1

/-- A change of other fields. -/
theorem preserves_frame {g : SessionState → SessionState}
    (hportfolio : ∀ s, (g s).portfolio = s.portfolio) (hrisk : ∀ s, (g s).risk = s.risk) :
    Preserves m env R I E (modify g : Session PUnit) :=
  preserves_modify fun s db => h.frame s (g s) db (hportfolio s) (hrisk s)

/-- An error ends with it. -/
theorem preserves_throw (e : String) : Preserves m env R I E (throw e : Session α) :=
  Prog.triple_throw h.error

/-- A task that does not write the store itself preserves it. -/
theorem preserves_look {t : Model.Task α} (ht : t.Performs Indirect) :
    Preserves m env R I E (look t) :=
  Prog.triple_lift fun s => Prog.task_of_performs ht fun i o db ho hR hs =>
    ⟨trivial, h.op i o db s ho hR hs⟩

/-- So does one that can end the session. -/
theorem preserves_orStop {t : Model.Task (Except String α)} (ht : t.Performs Indirect) :
    Preserves m env R I E (orStop t) := by
  refine preserves_bind (preserves_look h ht) fun answer => ?_
  cases answer with
  | ok a => exact preserves_pure a
  | error e => exact preserves_throw h e

/-- What runs in the background is looked at. -/
theorem preserves_background {t : Model.Task α} (ht : t.Performs Background) :
    Preserves m env R I E (look t) :=
  preserves_look h (ht.mono fun _ => Background.indirect)

/-- A task that only watches preserves it. -/
theorem preserves_watching {t : Model.Task α} (ht : t.Performs Watching) :
    Preserves m env R I E (look t) :=
  preserves_background h (ht.mono fun _ ho => ho.1)

/-- The price of SOL does not matter to the invariant. -/
theorem preserves_refreshSolPrice (deps : Deps) (now : Time) :
    Preserves m env R I E (refreshSolPrice deps now) := by
  refine preserves_bind preserves_get fun s => ?_
  split
  · refine preserves_bind (preserves_look h (performs_call rfl)) fun answer => ?_
    split
    · split
      · exact preserves_frame h (fun _ => rfl) fun _ => rfl
      · exact preserves_frame h (fun _ => rfl) fun _ => rfl
    · exact preserves_frame h (fun _ => rfl) fun _ => rfl
  · exact preserves_pure _

/-- The reconciliation of a tick preserves it. -/
theorem preserves_periodicReconciliation (deps : Deps) :
    Preserves m env R I E (periodicReconciliation deps) := by
  unfold periodicReconciliation
  split
  · refine preserves_bind (preserves_look h (performs_call rfl)) fun _ =>
      preserves_bind preserves_get fun _ => ?_
    split
    · exact preserves_bind (preserves_background h (background_reconcilePositionsOnchain deps))
        fun _ => preserves_bind (preserves_look h (performs_call rfl)) fun _ =>
        preserves_frame h (fun _ => rfl) fun _ => rfl
    · exact preserves_pure _
  · exact preserves_pure _

/-- Reading the emergency stop preserves it. -/
theorem preserves_readEmergencyStop : Preserves m env R I E readEmergencyStop := by
  refine preserves_bind (preserves_look h (performs_call rfl)) fun answer => ?_
  split <;> exact preserves_frame h (fun _ => rfl) fun _ => rfl

/-- Computing the amount of a candidate preserves it. -/
theorem preserves_tokenAmount (c : CandidateInput) : Preserves m env R I E (tokenAmount c) := by
  refine preserves_bind (preserves_look h (performs_call rfl)) fun n => ?_
  split
  · exact preserves_pure _
  · exact preserves_throw h _

/-- Registering a quote preserves it. -/
theorem preserves_registerQuote (deps : Deps) (c : CandidateInput) (tokens : UInt64)
    (impactBps : UInt32) (source : String) (now : Time) :
    Preserves m env R I E (registerQuote deps c tokens impactBps source now) :=
  preserves_bind (preserves_look h (performs_call rfl)) fun _ => preserves_pure _

/-- A candidate of the feed preserves it. -/
theorem preserves_ingestFeedCandidate (deps : Deps) (now : Time) (c : CandidateInput) :
    Preserves m env R I E (ingestFeedCandidate deps now c) := by
  refine preserves_bind (preserves_look h (performs_call rfl)) fun _ => ?_
  split
  · exact preserves_pure _
  · split
    · exact preserves_pure _
    · split
      · refine preserves_bind (preserves_tokenAmount h c) fun tokens =>
          preserves_bind (preserves_look h (performs_call rfl)) fun impact => ?_
        split
        · exact preserves_throw h _
        · exact preserves_registerQuote h _ _ _ _ _ _
      · exact preserves_throw h _

/-- A candidate of the wallet monitor preserves it. -/
theorem preserves_ingestMonitorCandidate (deps : Deps) (now : Time) (c : CandidateInput) :
    Preserves m env R I E (ingestMonitorCandidate deps now c) := by
  refine preserves_bind (preserves_look h (performs_call rfl)) fun _ =>
    preserves_bind preserves_get fun s => ?_
  split
  · exact preserves_pure _
  · split
    · exact preserves_pure _
    · split
      · refine preserves_bind (preserves_tokenAmount h c) fun tokens =>
          preserves_bind (preserves_look h (performs_call rfl)) fun impact => ?_
        split
        · exact preserves_pure _
        · exact preserves_registerQuote h _ _ _ _ _ _
      · exact preserves_pure _

/-- The ingestion preserves it. -/
theorem preserves_ingestion (deps : Deps) (now : Time) :
    Preserves m env R I E (ingestion deps now) := by
  refine preserves_bind ?_ fun _ => ?_
  · unfold ingestFeed
    split
    · exact preserves_pure _
    · exact preserves_bind (preserves_look h (performs_call rfl)) fun _ => preserves_bind
        (preserves_foldlM _ (fun _ c => preserves_ingestFeedCandidate h deps now c) _)
          fun _ => preserves_frame h (fun _ => rfl) fun _ => rfl
  · refine preserves_bind preserves_get fun s => ?_
    split
    · refine preserves_bind (preserves_look h (performs_call rfl)) fun answer => ?_
      split
      · exact preserves_pure _
      · exact preserves_bind
          (preserves_foldlM _ (fun _ c => preserves_ingestMonitorCandidate h deps now c) _)
          fun _ => preserves_frame h (fun _ => rfl) fun _ => rfl
    · exact preserves_pure _

/-- The gate in front of the entries preserves it. -/
theorem preserves_entryGate (deps : Deps) : Preserves m env R I E (entryGate deps) := by
  refine preserves_bind preserves_get fun s => ?_
  split
  · exact preserves_pure _
  · exact preserves_bind (preserves_orStop h (performs_call rfl)) fun _ => preserves_pure _

/-- Storing the session's state preserves it. -/
theorem preserves_persistSessionState : Preserves m env R I E persistSessionState :=
  preserves_bind preserves_get fun _ =>
    preserves_bind (preserves_orStop h (performs_call rfl)) fun _ =>
    preserves_bind (preserves_orStop h (performs_call rfl)) fun _ =>
    preserves_orStop h (performs_call rfl)

/-- Restoring the emergency stop preserves it. -/
theorem preserves_restoreEmergencyStop : Preserves m env R I E restoreEmergencyStop := by
  refine preserves_bind (preserves_orStop h (performs_call rfl)) fun reason => ?_
  split
  · exact preserves_frame h (fun _ => rfl) fun _ => rfl
  · exact preserves_pure _

/-- Starting the wallet monitor preserves it. -/
theorem preserves_startWalletMonitor (deps : Deps) :
    Preserves m env R I E (startWalletMonitor deps) := by
  unfold startWalletMonitor
  split
  · refine preserves_bind (preserves_look h (performs_call rfl)) fun answer => ?_
    split
    · exact preserves_frame h (fun _ => rfl) fun _ => rfl
    · exact preserves_pure _
  · exact preserves_pure _

/-- The reconciliation at the start preserves it. -/
theorem preserves_startupReconciliation (deps : Deps) :
    Preserves m env R I E (startupReconciliation deps) := by
  unfold startupReconciliation
  split
  · exact preserves_orStop h ((background_runReconciliation deps).mono fun _ => Background.indirect)
  · exact preserves_orStop h
      ((background_reconcilePendingOrders deps).mono fun _ => Background.indirect)

/-- So does what a session makes of its result. -/
theorem preserves_reconcileAtStart (deps : Deps) :
    Preserves m env R I E (reconcileAtStart deps) :=
  preserves_bind (preserves_restoreEmergencyStop h) fun _ =>
    preserves_bind (preserves_startupReconciliation h deps) fun _ =>
    preserves_bind (preserves_look h (performs_call rfl)) fun _ =>
    preserves_frame h (fun _ => rfl) fun _ => rfl

/-- Latching the kill switch preserves it. -/
theorem preserves_latchDrawdown : Preserves m env R I E latchDrawdown := by
  refine preserves_bind preserves_get fun s => ?_
  split
  · refine preserves_bind (preserves_orStop h (performs_call rfl)) fun reason => ?_
    cases reason with
    | none => exact preserves_orStop h (performs_call rfl)
    | some text => exact preserves_pure _
  · exact preserves_pure _

end Quiet

/-! ### Exits and entries -/

section Tick

variable (h : TickInvariant m env R I E deps)

include h

/-- Marking a position and exiting it preserves it. -/
theorem preserves_markAndExit (position : Position) (mint : String) (remaining : UInt64)
    (liquidity : Option Decimal) (invalidated : Bool) (mark : Decimal) :
    Preserves m env R I E (markAndExit deps position mint remaining liquidity invalidated mark) := by
  refine Prog.triple_get_bind fun s => ?_
  refine Prog.triple_bind (M := fun _ => I) (Prog.triple_modify ?_) fun _ => ?_
  · rintro s' db ⟨rfl, hs⟩
    exact h.marked _ mint mark db hs
  · split
    · exact preserves_throw h.toQuietInvariant _
    · refine preserves_bind (preserves_look h.toQuietInvariant (performs_call rfl)) fun now => ?_
      split
      · exact preserves_pure _
      · exact h.exited _ _ _

/-- The exit turn of one position preserves it. -/
theorem preserves_processExit (mint : String) :
    Preserves m env R I E (processExit deps mint) := by
  have hq := h.toQuietInvariant
  refine preserves_bind preserves_get fun s => ?_
  split
  · exact preserves_pure _
  · split
    · exact preserves_pure _
    · refine preserves_bind (preserves_orStop hq (performs_call rfl)) fun incomplete => ?_
      split
      · exact preserves_pure _
      · split
        · refine preserves_bind (preserves_watching hq (watching_exitLiquidity _ _ _))
            fun liquidity =>
            preserves_bind (preserves_watching hq (watching_signalInvalidated _))
            fun invalidated =>
            preserves_bind (preserves_watching hq (watching_deriveMark _ _ _ _ _ _ _))
            fun mark => ?_
          split
          · exact preserves_pure _
          · exact preserves_markAndExit h _ _ _ _ _ _
        · exact preserves_pure _

/-- The exit stage preserves it. -/
theorem preserves_processExits : Preserves m env R I E (processExits deps) :=
  preserves_bind preserves_get fun _ =>
    preserves_bind (preserves_look h.toQuietInvariant (performs_call rfl)) fun _ =>
    preserves_foldlM _ (fun _ mint => preserves_processExit h mint) _

omit h in
/-- A candidate that passes the first checks has no open position. -/
theorem notOpen_of_screened {config : Config} {s : SessionState} {c : CandidateInput} {now : Time}
    {screened : ScreenedCandidate} (hscreened : screenCandidate config s c now = some screened) :
    NotOpen c.mint s.portfolio := by
  obtain ⟨hopen, -⟩ := screenCandidate_eq_some_iff.mp hscreened
  exact Bool.eq_false_of_not_eq_true hopen

/-- The risk engine is asked about a mint without an open position, and knows how many are open. -/
theorem triple_beforeAuthorize (now : Time) (mint : String) :
    Prog.Triple m env R (fun _ _ _ => True) I (beforeAuthorize deps now mint)
      (fun call s db => I s db ∧ ∀ c, call = some c →
        NotOpen c.candidate.mint s.portfolio ∧
          s.risk.state.openPositions = s.portfolio.openPositions.length) E := by
  refine Prog.triple_bind preserves_get fun s => ?_
  split
  · exact Prog.triple_pure fun _ _ hs => ⟨hs, fun _ hc => (by cases hc)⟩
  · rename_i c _
    refine Prog.triple_get_bind fun s => ?_
    split
    · refine Prog.triple_pure ?_
      rintro s' db ⟨rfl, hs⟩
      exact ⟨hs, fun _ hc => (by cases hc)⟩
    · rename_i screened hscreened
      -- from here on the mint has no open position
      have hq := h.toQuietInvariant.and_fact fun pf _ => NotOpen c.mint pf
      refine Prog.Triple.conseq (P := fun s db => I s db ∧ NotOpen c.mint s.portfolio)
        (Q := fun call s db => I s db ∧ ∀ x, call = some x → x.candidate = c ∧
          NotOpen c.mint s.portfolio ∧
            s.risk.state.openPositions = s.portfolio.openPositions.length) (E := E)
        ?_ ?_ ?_ fun _ _ hs => hs
      · refine Prog.triple_bind (preserves_look hq (performs_call rfl)) fun t =>
          Prog.triple_bind (preserves_look hq (performs_call rfl)) fun uuid => ?_
        split
        · exact Prog.triple_pure fun _ _ hs => ⟨hs.1, fun _ hc => (by cases hc)⟩
        · refine Prog.triple_bind preserves_get fun s => ?_
          split
          · exact Prog.triple_pure fun _ _ hs => ⟨hs.1, fun _ hc => (by cases hc)⟩
          · have hq := h.toQuietInvariant.and_fact fun pf r =>
              NotOpen c.mint pf ∧ r.state.openPositions = pf.openPositions.length
            refine Prog.triple_bind (Prog.triple_modify fun s db hs =>
              ⟨h.counted s db hs.1, hs.2, rfl⟩) fun _ => Prog.triple_bind preserves_get fun s =>
              Prog.triple_bind (preserves_look hq (performs_sizeEntry (fun _ => rfl) _ _ _ _))
              fun sized => ?_
            split
            · exact Prog.triple_pure fun _ _ hs => ⟨hs.1, fun _ hc => (by cases hc)⟩
            · split
              · exact Prog.triple_pure fun _ _ hs => ⟨hs.1, fun _ hc => (by cases hc)⟩
              · refine Prog.triple_bind (preserves_look hq (performs_call rfl)) fun answer => ?_
                split
                · exact Prog.triple_pure fun _ _ hs => ⟨hs.1, fun _ hc => (by cases hc)⟩
                · refine Prog.triple_pure fun _ _ hs => ⟨hs.1, ?_⟩
                  rintro x hx
                  cases hx
                  exact ⟨rfl, hs.2⟩
      · rintro s' db ⟨rfl, hs⟩
        exact ⟨hs, notOpen_of_screened hscreened⟩
      · rintro call s' db ⟨hs, hcall⟩
        refine ⟨hs, fun x hx => ?_⟩
        obtain ⟨hx, hopen, hcount⟩ := hcall x hx
        exact ⟨hx ▸ hopen, hcount⟩

/-- An entry of the recorded value is submitted from a state in which nothing of its mint is open. -/
theorem triple_submitEntry (ctx : EntryContext) (order : OrderRecord) (quote : Quote)
    (hvalue : order.inputValueUsd = some ctx.positionUsd) :
    Prog.Triple m env R (fun _ _ _ => True) (fun s db => I s db ∧ NotOpen ctx.mint s.portfolio)
      (submitEntry deps ctx order quote) (fun _ => I) E := by
  have hq := h.toQuietInvariant.and_fact fun pf _ => NotOpen ctx.mint pf
  refine Prog.triple_bind (preserves_orStop hq (performs_call rfl)) fun _ =>
    Prog.triple_bind (preserves_look hq (performs_call rfl)) fun answer => ?_
  split
  · refine h.entered ctx _ _ _ ?_
    obtain ⟨s, hplaced, -⟩ := order.transitionOrKeep_spec .submitted
    rw [hplaced]
    exact hvalue
  · exact triple_of_preserves (fun _ _ hs => hs.1)
      (preserves_orStop h.toQuietInvariant (performs_call rfl))
  · exact triple_of_preserves (fun _ _ hs => hs.1)
      (preserves_bind (preserves_orStop h.toQuietInvariant (performs_call rfl)) fun _ => h.failed)

/-- The decision on an entry restores the invariant. -/
theorem triple_decideEntry (now : Time) (call : EntryCall) :
    Prog.Triple m env R (fun _ _ _ => True)
      (fun s db => I s db ∧ NotOpen call.candidate.mint s.portfolio) (decideEntry deps now call)
      (fun _ => I) E := by
  have hq := h.toQuietInvariant.and_fact fun pf _ => NotOpen call.candidate.mint pf
  refine Prog.triple_bind preserves_get fun s => ?_
  dsimp only
  split
  · exact Prog.triple_pure fun _ _ hs => hs.1
  · split
    · exact Prog.triple_pure fun _ _ hs => hs.1
    · refine Prog.triple_bind (preserves_look hq (performs_call rfl)) fun positionId =>
        Prog.triple_bind (preserves_look hq (performs_call rfl)) fun id =>
        Prog.triple_bind (preserves_orStop hq (performs_call rfl)) fun reserved =>
        Prog.triple_bind (M := fun _ => I) ?_ fun _ =>
          preserves_frame h.toQuietInvariant (fun _ => rfl) fun _ => rfl
      unfold submitReserved
      split
      · exact triple_submitEntry h (call.context positionId) _ _ rfl
      · exact Prog.triple_pure fun _ _ hs => hs.1

/-- The entry turn of one candidate preserves it. -/
theorem preserves_processEntry (now : Time) (mint : String) :
    Preserves m env R I E (processEntry deps now mint) := by
  rw [processEntry_eq]
  refine Prog.triple_bind (triple_beforeAuthorize h now mint) fun call => ?_
  cases call with
  | none => exact Prog.triple_pure fun _ _ hs => hs.1
  | some call =>
      exact (triple_decideEntry h now call).conseq (fun _ _ hs => ⟨hs.1, (hs.2 call rfl).1⟩)
        (fun _ _ _ hs => hs) fun _ _ hs => hs

/-- The entry stage preserves it. -/
theorem preserves_makeEntries : Preserves m env R I E (makeEntries deps) := by
  refine preserves_bind (preserves_entryGate h.toQuietInvariant deps) fun entering => ?_
  cases entering with
  | false => exact preserves_pure _
  | true =>
      exact preserves_bind (preserves_look h.toQuietInvariant (performs_call rfl)) fun now =>
        preserves_bind preserves_get fun s =>
        preserves_bind (preserves_look h.toQuietInvariant (performs_call rfl)) fun mints =>
        preserves_foldlM _ (fun _ mint => preserves_processEntry h now mint) _

/-- At the call of `authorize` the risk engine knows how many positions are open. -/
theorem triple_authorizing (k : ℕ) :
    Prog.Triple m env R (fun _ _ _ => True) I (authorizing deps k)
      (fun call s db => I s db ∧
        (call.isSome = true → s.risk.state.openPositions = s.portfolio.openPositions.length)) E := by
  refine Prog.triple_bind (preserves_entryGate h.toQuietInvariant deps) fun entering => ?_
  cases entering with
  | false => exact Prog.triple_pure fun _ _ hs => ⟨hs, fun hc => (by cases hc)⟩
  | true =>
      refine Prog.triple_bind (preserves_look h.toQuietInvariant (performs_call rfl)) fun now =>
        Prog.triple_bind preserves_get fun s =>
        Prog.triple_bind (preserves_look h.toQuietInvariant (performs_call rfl)) fun mints =>
        Prog.triple_bind
          (preserves_foldlM _ (fun _ mint => preserves_processEntry h now mint) _) fun _ => ?_
      split
      · exact Prog.triple_pure fun _ _ hs => ⟨hs, fun hc => (by cases hc)⟩
      · refine Prog.triple_bind (triple_beforeAuthorize h _ _) fun call =>
          Prog.triple_pure fun s db hs => ⟨hs.1, fun hc => ?_⟩
        cases call with
        | none => cases hc
        | some c => exact (hs.2 c rfl).2

/-- The turns before a call of `authorize` preserve it. -/
theorem preserves_authorizing (k : ℕ) : Preserves m env R I E (authorizing deps k) :=
  (triple_authorizing h k).conseq (fun _ _ hs => hs) (fun _ _ _ hs => hs.1) fun _ _ hs => hs

end Tick

/-! ### Whole sessions -/

section Run

variable (h : RunInvariant m env R I E deps)

include h

/-- Reading the kill switch preserves it. -/
theorem preserves_readKillSwitch : Preserves m env R I E readKillSwitch := by
  refine preserves_bind (preserves_orStop h.toQuietInvariant (performs_call rfl)) fun reason => ?_
  cases reason with
  | none => exact preserves_pure _
  | some text => exact preserves_modify fun s db hs => h.trip s db hs

/-- The change of the day preserves it. -/
theorem preserves_rollDay (now : Time) :
    Preserves m env R I E (modify (rollDay now) : Session PUnit) := by
  refine preserves_modify fun s db hs => ?_
  unfold rollDay
  split
  · exact hs
  · have hwindow := h.window s s.risk.state.equityUsd 0 db hs
    refine h.frame _ _ db ?_ ?_ hwindow
    · rfl
    · rfl

/-- What comes before the marking of the equity preserves it. -/
theorem preserves_beforeMarking : Preserves m env R I E (beforeMarking deps) := by
  have hq := h.toQuietInvariant
  refine preserves_bind (preserves_bind (preserves_look hq (performs_call rfl)) fun now =>
    preserves_bind ?_ fun _ => preserves_pure _) fun now => preserves_ingestion hq deps now
  exact preserves_bind (preserves_rollDay h now) fun _ =>
    preserves_bind (preserves_refreshSolPrice hq deps now) fun _ =>
    preserves_bind (preserves_periodicReconciliation hq deps) fun _ =>
    preserves_bind (preserves_background hq (background_reconcilePendingOrders deps)) fun _ =>
    preserves_bind (preserves_readEmergencyStop hq) fun _ =>
    preserves_bind (preserves_readKillSwitch h) fun _ =>
      preserves_frame hq (fun _ => rfl) fun _ => rfl

/-- What comes before the exits preserves it. -/
theorem preserves_beforeExits : Preserves m env R I E (beforeExits deps) := by
  rw [beforeExits_eq]
  exact preserves_bind (preserves_beforeMarking h) fun _ => h.equity

/-- What comes before the entries preserves it. -/
theorem preserves_beforeEntries : Preserves m env R I E (beforeEntries deps) :=
  preserves_bind (preserves_beforeExits h) fun _ => preserves_processExits h.toTickInvariant

/-- A tick preserves it. -/
theorem preserves_tick : Preserves m env R I E (tick deps) := by
  rw [tick_eq_entries]
  exact preserves_bind (preserves_beforeEntries h) fun _ => preserves_makeEntries h.toTickInvariant

/-- The error of a tick is caught. -/
theorem preserves_tickAndPersist : Preserves m env R I E (tickAndPersist deps) :=
  Prog.triple_caught
    ((preserves_tick h).conseq (fun _ _ hs => hs) (fun _ _ _ hs => hs) h.caught)
    (preserves_persistSessionState h.toQuietInvariant)

/-- All ticks preserve it. -/
theorem preserves_sessionTicks (n : ℕ) : Preserves m env R I E (sessionTicks deps n) := by
  induction n with
  | zero => exact preserves_pure _
  | succ n ih =>
      rw [sessionTicks_succ]
      exact preserves_bind (preserves_tickAndPersist h) fun _ => ih

/-- Restoring the day preserves it. -/
theorem preserves_restoreDay : Preserves m env R I E restoreDay := by
  have hq := h.toQuietInvariant
  refine preserves_bind (preserves_look hq (performs_call rfl)) fun now =>
    preserves_bind (preserves_frame hq (fun _ => rfl) fun _ => rfl) fun _ =>
    preserves_bind (preserves_orStop hq (performs_call rfl)) fun storedDay =>
    preserves_bind (preserves_orStop hq (performs_call rfl)) fun storedStart =>
    preserves_bind (preserves_orStop hq (performs_call rfl)) fun storedTrades => ?_
  split
  · exact preserves_modify fun s db hs => h.window s _ _ db hs
  · exact preserves_pure _

/-- The start of a session preserves it. -/
theorem preserves_sessionStart : Preserves m env R I E (sessionStart deps) :=
  preserves_bind (preserves_startWalletMonitor h.toQuietInvariant deps) fun _ =>
    preserves_bind (preserves_restoreDay h) fun _ =>
    preserves_bind (preserves_readKillSwitch h) fun _ =>
    preserves_reconcileAtStart h.toQuietInvariant deps

/-- The ticks up to a call of `authorize` preserve it. -/
theorem preserves_ticksUntilAuthorize (n k : ℕ) :
    Preserves m env R I E (ticksUntilAuthorize deps n k) :=
  preserves_bind (preserves_sessionTicks h n) fun _ =>
    preserves_bind (preserves_beforeEntries h) fun _ =>
    preserves_authorizing h.toTickInvariant k

/-- A session up to a call of `authorize` preserves it. -/
theorem preserves_untilAuthorize (n k : ℕ) : Preserves m env R I E (untilAuthorize deps n k) :=
  preserves_bind (preserves_sessionStart h) fun _ => preserves_ticksUntilAuthorize h n k

end Run

end Preserves

/-! ## Invariants of the risk engine -/

section Keeps

variable {σ ε α : Type} (m : Machine Op Res σ ε) (env : ℕ → ε) (R : ε → Op → σ → Prop)
  (I : RiskEngine → σ → Prop) (E : SessionState → σ → Prop)

/-- As long as the steps meet `R`, the part of a session keeps `I`, of its risk engine and the store,
or stops with an error in a state that meets `E`. -/
def Keeps (p : Session α) : Prop := Preserves m env R (fun s db => I s.risk db) E p

/-- The engine after a confirmed exit. -/
def exitedRisk (r : RiskEngine) (exposure : Decimal) (fill : Fill) : RiskEngine :=
  let risk := (r.registerExit exposure).recordExecutionSuccess
  if fill.outputAmount = 0 then risk.recordExecutionFailure.2 else risk

/-- What an invariant of the operations needs. -/
structure StoreInvariant : Prop where
  op : ∀ i o db r, R (env i) o db → I r db → I r (m.exec (env i) o db).2
  error : ∀ s db, I s.risk db → E s db

/-- What an invariant of the exits and entries of a tick needs. -/
structure TradingInvariant (deps : Deps) : Prop extends StoreInvariant m env R I E where
  positions : ∀ r n db, I r db → I (r.setOpenPositions n) db
  entered : ∀ r x db, I r db → I (r.registerTrade x).recordExecutionSuccess db
  failed : Keeps m env R I E countFailure
  exited : ∀ mint reason pf r, Prog.TaskTriple m env R (fun _ _ _ => True) (I r)
    (executeExitOrder deps mint reason pf) fun x db => I r db ∧ ∀ fill, x.1 = .confirmed fill →
      ∀ exposure, I (exitedRisk r exposure fill) db

/-- What an invariant of a whole session needs. -/
structure SessionInvariant (deps : Deps) : Prop extends TradingInvariant m env R I E deps where
  window : ∀ r start trades db, I r db →
    I { r with state := { r.state with dayStartEquityUsd := start, tradesToday := trades } } db
  trip : ∀ r db, I r db → I { r with killSwitch := r.killSwitch.forceTrip } db
  equity : ∀ r equity db, I r db → I (r.observeEquity equity) db
  exposure : ∀ r exposure db, I r db → I (r.setTotalExposure exposure) db
  caught : ∀ s db, E s db → I s.risk db

variable {m env R I E} {deps : Deps}

/-- An invariant of the risk state and the store is one that the quiet parts of a session preserve. -/
theorem StoreInvariant.quiet (h : StoreInvariant m env R I E) :
    QuietInvariant m env R (fun s db => I s.risk db) E where
  op i o db s _ hR hs := h.op i o db s.risk hR hs
  frame s s' db _ hrisk hs := by rwa [hrisk]
  error := h.error

/-- An operation of any kind. -/
theorem StoreInvariant.look (h : StoreInvariant m env R I E) (t : Model.Task α) :
    Keeps m env R I E (look t) :=
  Prog.triple_lift fun s => Prog.task_of_ops t fun i o db hR hs => ⟨trivial, h.op i o db s.risk hR hs⟩

section Trading

variable (h : TradingInvariant m env R I E deps)

include h

/-- The attempt of an exit keeps a trading invariant. -/
theorem TradingInvariant.attemptExit (mint : String) (remaining : UInt64) (reason : String) :
    Keeps m env R I E (attemptExit deps mint remaining reason) := by
  refine preserves_bind preserves_get fun s => ?_
  split
  · exact preserves_pure _
  · -- what a confirmed exit promises is kept until the risk engine learns of it
    refine preserves_bind preserves_get fun s => Prog.triple_bind
      (M := fun x s db => I s.risk db ∧ ∀ fill, x.1 = .confirmed fill →
        ∀ exposure, I (exitedRisk s.risk exposure fill) db)
      (Prog.triple_lift fun s => h.exited mint reason _ s.risk) fun r =>
      Prog.triple_bind (M := fun _ s db => I s.risk db ∧ ∀ fill, r.1 = .confirmed fill →
        ∀ exposure, I (exitedRisk s.risk exposure fill) db) (Prog.triple_modify fun _ _ hs => hs)
        fun _ => ?_
    split
    · rename_i fill hfill
      exact Prog.triple_modify fun s db hs => hs.2 fill hfill _
    · exact h.failed.conseq (fun _ _ hs => hs.1) (fun _ _ _ hs => hs) fun _ _ hs => hs
    · exact Prog.triple_pure fun _ _ hs => hs.1
    · exact Prog.triple_pure fun _ _ hs => hs.1

/-- The accounting of an entry keeps it. -/
theorem TradingInvariant.persistEntry (ctx : EntryContext) (fill : Fill) (placed : OrderRecord)
    (minOutputAmount : UInt64) :
    Keeps m env R I E (persistEntry deps ctx fill placed minOutputAmount) := by
  refine preserves_bind preserves_get fun s =>
    preserves_bind (h.toStoreInvariant.look _) fun answer => ?_
  split
  · refine preserves_bind (preserves_modify fun s db hs => h.entered s.risk _ db hs) fun _ => ?_
    split
    · exact h.failed
    · exact preserves_pure _
  · exact preserves_orStop h.toStoreInvariant.quiet (performs_call rfl)

/-- A trading invariant is one of the ticks. -/
theorem TradingInvariant.tick : TickInvariant m env R (fun s db => I s.risk db) E deps where
  toQuietInvariant := h.toStoreInvariant.quiet
  counted s db hs := h.positions s.risk _ db hs
  marked _ _ _ _ hs := hs
  failed := h.failed
  exited := h.attemptExit
  entered ctx fill placed minOutputAmount _ :=
    (h.persistEntry ctx fill placed minOutputAmount).conseq (fun _ _ hs => hs.1) (fun _ _ _ hs => hs)
      fun _ _ hs => hs

end Trading

/-- A session invariant is one of the runs. -/
theorem SessionInvariant.run (h : SessionInvariant m env R I E deps) :
    RunInvariant m env R (fun s db => I s.risk db) E deps where
  toTickInvariant := h.toTradingInvariant.tick
  window s start trades db hs := h.window s.risk start trades db hs
  trip s db hs := h.trip s.risk db hs
  equity := preserves_bind preserves_get fun _ =>
    preserves_bind (preserves_modify fun s db hs => h.equity s.risk _ db hs) fun _ =>
    preserves_bind (preserves_latchDrawdown h.toStoreInvariant.quiet) fun _ =>
      preserves_modify fun _ db hs => h.exposure _ _ db (h.positions _ _ db hs)
  caught := h.caught

end Keeps

/-! ### The moves of a session -/

section Moves

variable {σ ε : Type} (m : Machine Op Res σ ε) (env : ℕ → ε) (R : ε → Op → σ → Prop)
  {I : RiskEngine → Prop} (hI : ∀ r r', RiskMove r r' → I r → I r')

include hI

/-- Counting a failure is a move of the risk state. -/
theorem keeps_countFailure_of_moves :
    Keeps m env R (fun r _ => I r) (fun s _ => I s.risk) countFailure := by
  refine Prog.triple_get_bind fun l => Prog.triple_bind (M := fun _ s _ => I s.risk)
    (Prog.triple_modify ?_) fun _ => ?_
  · rintro s _ ⟨rfl, hs⟩
    exact hI _ _ .recordExecutionFailure hs
  · have hop : StoreInvariant m env R (fun r _ => I r) (fun s _ => I s.risk) :=
      ⟨fun _ _ _ _ _ h => h, fun _ _ h => h⟩
    split
    · exact preserves_orStop hop.quiet (performs_call rfl)
    · exact Prog.triple_pure fun _ _ h => h

/-- Whatever happens, a session keeps what every move of the risk engine keeps. -/
theorem sessionInvariant_of_moves (deps : Deps) :
    SessionInvariant m env R (fun r _ => I r) (fun s _ => I s.risk) deps where
  op _ _ _ _ _ h := h
  error _ _ h := h
  positions r n _ h := hI _ _ (.setOpenPositions n) h
  entered r x _ h := hI _ _ .recordExecutionSuccess (hI _ _ (.registerTrade x) h)
  failed := keeps_countFailure_of_moves m env R hI
  exited mint reason pf r := by
    refine (Prog.task_of_ops _ fun _ _ _ _ h => ⟨trivial, h⟩).conseq (fun _ h => h) fun x db h => ?_
    refine ⟨h, fun fill _ exposure => ?_⟩
    have hexit : I (r.registerExit exposure).recordExecutionSuccess :=
      hI _ _ .recordExecutionSuccess (hI _ _ (.registerExit exposure) h)
    unfold exitedRisk
    split
    · exact hI _ _ .recordExecutionFailure hexit
    · exact hexit
  window r start trades _ h := hI _ _ (.window start trades) h
  trip _ _ h := hI _ _ .trip h
  equity _ equity _ h := hI _ _ (.observeEquity equity) h
  exposure _ exposure _ h := hI _ _ (.setTotalExposure exposure) h
  caught _ _ h := h

end Moves

end SolanaBot.Analysis
