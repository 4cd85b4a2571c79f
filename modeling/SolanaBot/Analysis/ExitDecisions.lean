import SolanaBot.Analysis.CandidateIngestion
import SolanaBot.Model.ExitMonitor

/-!
# The two exit decisions

The session and the exit monitor decide about the same positions. Their turns over a position are
cut where the reason to exit is known (`processExit_eq`, `monitorPosition_eq`), and both decisions
are computed (`sessionReason_eq`, `monitorReason_eq`). They are the same exactly if the two
differences between the loops make no difference: what stands in for missing evidence of liquidity,
and what a quote of nothing means (`exit_decisions_agree_iff`).
-/

set_option autoImplicit false

namespace SolanaBot.Analysis

open SolanaBot.Library SolanaBot.Model

/-! ## The decisions -/

/-- A turn of the session up to the reason to exit, with the quantity to sell. -/
def exitDecision (deps : Deps) (mint : String) : Session (Option (UInt64 × ExitReason)) := do
  let s ← get
  match s.portfolio.position mint with
  | none => return none
  | some position =>
      match position.trustedRemaining with
      | none => return none
      | some remaining =>
          let incomplete ← orStop Store.incompleteOrders
          if incomplete.orders.any (isExitOf position.positionId) then return none
          else
            match position.baseEntryPriceUsd, position.baseMintDecimals, position.tokenDecimals with
            | some basePrice, some baseDecimals, some tokenDecimals =>
                let liquidity ← look (exitLiquidity deps (s.candidates.find? mint) mint)
                let invalidated ← look (signalInvalidated position.signalId)
                match ← look (deriveMark deps position.baseMint mint remaining baseDecimals
                    tokenDecimals basePrice) with
                | none => return none
                | some mark =>
                    let marked := (← get).portfolio.markToMarket mint mark
                    modify fun s => { s with portfolio := marked.2 }
                    match marked.1 with
                    | .error e => throw e
                    | .ok _ =>
                        let now ← look clock
                        return (exitReason position mark liquidity deps.config.risk.minLiquidityUsd
                          invalidated now deps.config.strategy).map fun reason => (remaining, reason)
            | _, _, _ => return none

/-- A turn of the session decides, and attempts an exit if there is a reason. -/
theorem processExit_eq (deps : Deps) (mint : String) :
    processExit deps mint = (do
      match ← exitDecision deps mint with
      | none => return ()
      | some (remaining, reason) => attemptExit deps mint remaining reason.asStr) := by
  unfold processExit exitDecision markAndExit
  simp only [bind_assoc]
  refine congrArg _ (funext fun s => ?_)
  cases s.portfolio.position mint with
  | none => rfl
  | some position =>
      dsimp only
      cases position.trustedRemaining with
      | none => rfl
      | some remaining =>
          simp only [bind_assoc]
          refine congrArg _ (funext fun incomplete => ?_)
          by_cases hflight : incomplete.orders.any (isExitOf position.positionId)
          · simp only [hflight, if_true]
            rfl
          · simp only [hflight, Bool.false_eq_true, if_false]
            rcases position.baseEntryPriceUsd with _ | basePrice
            · rfl
            · rcases position.baseMintDecimals with _ | baseDecimals
              · rfl
              · rcases position.tokenDecimals with _ | tokenDecimals
                · rfl
                · simp only [bind_assoc]
                  refine congrArg _ (funext fun liquidity => congrArg _ (funext fun invalidated =>
                    congrArg _ (funext fun mark => ?_)))
                  cases mark with
                  | none => rfl
                  | some mark =>
                      simp only [bind_assoc]
                      refine congrArg _ (funext fun s => congrArg _ (funext fun _ => ?_))
                      cases (s.portfolio.markToMarket mint mark).1 with
                      | error e => rfl
                      | ok value =>
                          simp only [bind_assoc, pure_bind]
                          refine congrArg _ (funext fun now => ?_)
                          cases exitReason position mark liquidity deps.config.risk.minLiquidityUsd
                            invalidated now deps.config.strategy with
                          | none => rfl
                          | some reason => rfl

/-- A turn of the exit monitor up to the reason to exit. -/
def monitorDecision (deps : Deps) (mint : String) : Monitor (Option ExitReason) := do
  match (← get).portfolio.position mint with
  | none => return none
  | some position =>
      if position.state ≠ .open then return none
      else
        match position.trustedRemaining with
        | none => return none
        | some remaining =>
            let incomplete ← Monitor.orStop Store.incompleteOrders
            if incomplete.orders.any (isExitOf position.positionId) then return none
            else
              match exitTerms position with
              | .error _ => return none
              | .ok terms =>
                  match ← monitorMark deps mint terms remaining with
                  | none => return none
                  | some (mark, impactBps, fetched) =>
                      if ← saveMark mint mark fetched then
                        let liquidity ← Monitor.look
                          (monitorLiquidity deps mint mark remaining terms.tokenDecimals impactBps)
                        let invalidated ← Monitor.look (monitorInvalidated position.signalId)
                        let now ← Monitor.look clock
                        return exitReason position mark (some liquidity)
                          deps.config.risk.minLiquidityUsd invalidated now deps.config.strategy
                      else return none

/-- A turn of the exit monitor decides, and exits if there is a reason. -/
theorem monitorPosition_eq (deps : Deps) (mint : String) :
    monitorPosition deps mint = (do
      match ← monitorDecision deps mint with
      | none => return ()
      | some reason =>
          let r ← Monitor.look (executeExitOrder deps mint reason.asStr (← get).portfolio)
          modify fun s => { s with portfolio := r.2 }) := by
  unfold monitorPosition monitorDecision monitorExit
  simp only [bind_assoc]
  refine congrArg _ (funext fun s => ?_)
  cases s.portfolio.position mint with
  | none => rfl
  | some position =>
      dsimp only
      by_cases hopen : position.state ≠ .open
      · simp only [hopen, if_true, ne_eq, not_false_eq_true]
        rfl
      · simp only [hopen, if_false]
        cases position.trustedRemaining with
        | none => rfl
        | some remaining =>
            simp only [bind_assoc]
            refine congrArg _ (funext fun incomplete => ?_)
            by_cases hflight : incomplete.orders.any (isExitOf position.positionId)
            · simp only [hflight, if_true]
              rfl
            · simp only [hflight, Bool.false_eq_true, if_false]
              cases exitTerms position with
              | error r => rfl
              | ok terms =>
                  simp only [bind_assoc]
                  refine congrArg _ (funext fun marked => ?_)
                  rcases marked with _ | ⟨mark, impactBps, fetched⟩
                  · rfl
                  · simp only [bind_assoc]
                    refine congrArg _ (funext fun saved => ?_)
                    cases saved with
                    | false => rfl
                    | true =>
                        rw [if_pos rfl, if_pos rfl, bind_assoc]
                        refine congrArg _ (funext fun liquidity => ?_)
                        rw [bind_assoc]
                        refine congrArg _ (funext fun invalidated => ?_)
                        rw [bind_assoc]
                        refine congrArg _ (funext fun now => ?_)
                        cases exitReason position mark (some liquidity)
                          deps.config.risk.minLiquidityUsd invalidated now deps.config.strategy with
                        | none => rfl
                        | some reason => rfl

/-- The reason for which a turn of the session exits, if it does. -/
def sessionReason (deps : Deps) (e : Env) (s : SessionState) (db : Db) (mint : String) :
    Option ExitReason :=
  match (Prog.runS world (fun _ => e) (exitDecision deps mint) 0 s db).1.1 with
  | .ok r => r.map Prod.snd
  | .error _ => none

/-- The reason for which a turn of the exit monitor exits, if it does. -/
def monitorReason (deps : Deps) (e : Env) (s : MonitorState) (db : Db) (mint : String) :
    Option ExitReason :=
  match (Prog.runS world (fun _ => e) (monitorDecision deps mint) 0 s db).1.1 with
  | .ok r => r
  | .error _ => none

/-! ## What the parts of the turns find -/

section Parts

variable {deps : Deps} {e : Env} (hfault : e.fault = none) (i : ℕ) (db : Db) (mint : String)

/-- The persisted evidence, unless it is missing or too old. -/
def persistedEvidence (deps : Deps) (e : Env) (db : Db) (mint : String) : Option Decimal :=
  match db.liquidity.find? mint with
  | none => none
  | some evidence =>
      if deps.config.runtime.maxLiquidityAgeSecs > 0 ∧
          e.clock - evidence.observedAt > seconds deps.config.runtime.maxLiquidityAgeSecs then none
      else some evidence.liquidityUsd

include hfault

/-- Reading the incomplete orders returns them and changes nothing. -/
theorem incompleteOrders_run :
    Prog.run world (fun _ => e) Store.incompleteOrders i db =
      (.ok db.incompleteOrders, db, i + 1) :=
  congrArg (fun r : Except String IncompleteOrders × Db => (r.1, r.2, i + 1))
    (statement_of_unfaulted hfault _ _)

/-- Reading the last liquidity returns it and changes nothing. -/
theorem lastLiquidity_run :
    Prog.run world (fun _ => e) (Store.lastLiquidity mint) i db =
      (.ok (db.liquidity.find? mint), db, i + 1) :=
  congrArg (fun r : Except String (Option LiquidityEvidence) × Db => (r.1, r.2, i + 1))
    (statement_of_unfaulted hfault _ _)

/-- Asking for an invalidated signal changes nothing. -/
theorem isSignalInvalidated_run (signalId : String) :
    Prog.run world (fun _ => e) (Store.isSignalInvalidated signalId) i db =
      (.ok (db.invalidatedSignals.contains signalId), db, i + 1) :=
  congrArg (fun r : Except String Bool × Db => (r.1, r.2, i + 1)) (statement_of_unfaulted hfault _ _)

/-- The persisted liquidity is the evidence in the store. -/
theorem persistedLiquidity_run :
    (Prog.run world (fun _ => e) (persistedLiquidity deps mint) i db).1 =
        persistedEvidence deps e db mint ∧
      (Prog.run world (fun _ => e) (persistedLiquidity deps mint) i db).2.1 = db := by
  unfold persistedLiquidity persistedEvidence
  rw [Prog.run_bind, lastLiquidity_run hfault]
  dsimp only
  cases db.liquidity.find? mint with
  | none => exact ⟨rfl, rfl⟩
  | some evidence =>
      dsimp only
      by_cases hage : deps.config.runtime.maxLiquidityAgeSecs > 0
      · simp only [hage, if_true, true_and]
        rw [Prog.run_bind, clock_run]
        dsimp only
        split
        · exact ⟨rfl, rfl⟩
        · exact ⟨rfl, rfl⟩
      · simp only [hage, if_false, false_and]
        exact ⟨rfl, rfl⟩

/-- The monitor asks for the signal, whatever it is called. -/
theorem monitorInvalidated_run (signalId : String) :
    (Prog.run world (fun _ => e) (monitorInvalidated signalId) i db).1 =
        db.invalidatedSignals.contains signalId ∧
      (Prog.run world (fun _ => e) (monitorInvalidated signalId) i db).2.1 = db := by
  unfold monitorInvalidated
  rw [Prog.run_bind, isSignalInvalidated_run hfault]
  exact ⟨rfl, rfl⟩

/-- The session does not ask for a signal without a name. -/
theorem signalInvalidated_run (signalId : String) :
    (Prog.run world (fun _ => e) (signalInvalidated signalId) i db).1 =
        (signalId ≠ "" && db.invalidatedSignals.contains signalId) ∧
      (Prog.run world (fun _ => e) (signalInvalidated signalId) i db).2.1 = db := by
  unfold signalInvalidated
  by_cases hid : signalId = ""
  · simp only [hid, if_true]
    exact ⟨rfl, rfl⟩
  · simp only [hid, if_false]
    exact ⟨(monitorInvalidated_run hfault i db signalId).1.trans (by simp [hid]),
      (monitorInvalidated_run hfault i db signalId).2⟩

end Parts

/-! ## The decisions, computed -/

section Decisions

variable (deps : Deps) (e : Env) (db : Db) (mint : String) (p : Position) (remaining : UInt64)

/-- What both turns do before they look at a quote. -/
def decided (verdict : ExitTerms → Quote → Option ExitReason) : Option ExitReason :=
  if db.incompleteOrders.orders.any (isExitOf p.positionId) then none
  else
    match exitTerms p with
    | .error _ => none
    | .ok terms =>
        match (e.answer (.quote mint terms.baseMint remaining deps.config.execution.slippageBps) :
          Except ExecutionError Quote) with
        | .error _ => none
        | .ok q => verdict terms q

/-- What the session makes of a quote. -/
def sessionVerdict (terms : ExitTerms) (q : Quote) : Option ExitReason :=
  match markPriceFromQuote q.outputAmount terms.baseDecimals terms.basePrice remaining
      terms.tokenDecimals with
  | none => none
  | some mark =>
      if p.entryCostUsd.isNone then none
      else exitReason p mark (persistedEvidence deps e db mint) deps.config.risk.minLiquidityUsd
        (p.signalId ≠ "" && db.invalidatedSignals.contains p.signalId) e.clock deps.config.strategy

/-- The evidence of the exit monitor: what is persisted, or what the quote implies. -/
def monitorEvidence (terms : ExitTerms) (q : Quote) (mark : Decimal) : Decimal :=
  (persistedEvidence deps e db mint).getD
    (estimateLiquidityUsd (probeUsd mark remaining terms.tokenDecimals) q.priceImpactBps)

/-- What the exit monitor makes of a quote. -/
def monitorVerdict (terms : ExitTerms) (q : Quote) : Option ExitReason :=
  match markFromQuote q terms remaining with
  | none => none
  | some mark =>
      if p.entryCostUsd.isNone then none
      else exitReason p mark (some (monitorEvidence deps e db mint remaining terms q mark))
        deps.config.risk.minLiquidityUsd (db.invalidatedSignals.contains p.signalId) e.clock
        deps.config.strategy

variable {deps e db mint p remaining}

/-- A position is marked unless its entry cost is missing. -/
theorem markToMarket_isOk {pf : Portfolio} (mark : Decimal) (hp : pf.position mint = some p)
    (htrusted : p.trustedRemaining = some remaining) :
    (pf.markToMarket mint mark).1.isOk = p.entryCostUsd.isSome := by
  have hremaining : p.remainingQuantityAtomic = some remaining := by
    unfold Position.trustedRemaining at htrusted
    split at htrusted
    · cases htrusted
    · split at htrusted
      · cases htrusted
      · exact htrusted
  unfold Portfolio.markToMarket
  rw [hp]
  dsimp only
  rw [hremaining]
  dsimp only
  cases p.entryCostUsd <;> rfl

/-- The mark that the session derives from a quote. -/
theorem deriveMark_run (i : ℕ) (baseDecimals tokenDecimals : UInt8) (basePrice : Decimal)
    (baseMint : String) :
    (Prog.run world (fun _ => e) (deriveMark deps (some baseMint) mint remaining baseDecimals
        tokenDecimals basePrice) i db).1 =
      match (e.answer (.quote mint baseMint remaining deps.config.execution.slippageBps) :
        Except ExecutionError Quote) with
      | .error _ => none
      | .ok q => markPriceFromQuote q.outputAmount baseDecimals basePrice remaining tokenDecimals := by
  unfold deriveMark
  dsimp only
  rw [Prog.run_bind, quote_run]
  dsimp only
  cases (e.answer (.quote mint baseMint remaining deps.config.execution.slippageBps) :
    Except ExecutionError Quote) with
  | error err => rfl
  | ok q =>
      dsimp only
      cases markPriceFromQuote q.outputAmount baseDecimals basePrice remaining tokenDecimals with
      | none => rfl
      | some mark =>
          dsimp only
          rw [Prog.run_bind]
          rfl

/-- Why the session exits: the mark of its quote, and the rules on it. -/
theorem sessionReason_eq (hfault : e.fault = none) {s : SessionState}
    (hp : s.portfolio.position mint = some p) (hcandidate : s.candidates.find? mint = none)
    (htrusted : p.trustedRemaining = some remaining) :
    sessionReason deps e s db mint =
      decided deps e db mint p remaining (sessionVerdict deps e db mint p remaining) := by
  unfold sessionReason exitDecision decided
  rw [Prog.runS_get_bind, hp]
  dsimp only
  rw [htrusted]
  dsimp only
  rw [Prog.runS_bind, orStop_run, incompleteOrders_run hfault]
  dsimp only
  by_cases hflight : db.incompleteOrders.orders.any (isExitOf p.positionId)
  · simp only [hflight, if_true]
    rfl
  · simp only [hflight, Bool.false_eq_true, if_false]
    unfold exitTerms
    rcases hprice : p.baseEntryPriceUsd with _ | basePrice
    · rfl
    · rcases hbase : p.baseMintDecimals with _ | baseDecimals
      · rfl
      · rcases htoken : p.tokenDecimals with _ | tokenDecimals
        · rfl
        · dsimp only
          have hliquidity : exitLiquidity deps none mint = persistedLiquidity deps mint := rfl
          rw [look_run, hcandidate, hliquidity, (persistedLiquidity_run hfault _ db mint).1,
            (persistedLiquidity_run hfault _ db mint).2, look_run,
            (signalInvalidated_run hfault _ db p.signalId).1,
            (signalInvalidated_run hfault _ db p.signalId).2, look_run]
          rcases hmint : p.baseMint with _ | baseMint
          · rfl
          · rw [deriveMark_run]
            dsimp only
            cases (e.answer (.quote mint baseMint remaining deps.config.execution.slippageBps) :
              Except ExecutionError Quote) with
            | error err => rfl
            | ok q =>
                dsimp only
                unfold sessionVerdict
                dsimp only
                cases hmark : markPriceFromQuote q.outputAmount baseDecimals basePrice remaining
                    tokenDecimals with
                | none => rfl
                | some mark =>
                    dsimp only
                    rw [Prog.runS_get_bind, Prog.runS_modify_bind]
                    have hok := markToMarket_isOk mark hp htrusted
                    cases hmarked : (s.portfolio.markToMarket mint mark).1 with
                    | error msg =>
                        rw [hmarked] at hok
                        have hcost : p.entryCostUsd.isNone = true :=
                          Option.isSome_eq_false_iff.mp hok.symm
                        rw [if_pos hcost]
                        rfl
                    | ok value =>
                        rw [hmarked] at hok
                        have hcost : ¬ p.entryCostUsd.isNone = true := by
                          rw [Option.isNone_iff_eq_none]
                          exact Option.isSome_iff_ne_none.mp hok.symm
                        rw [if_neg hcost]
                        dsimp only
                        rw [look_run, clock_run, Prog.runS_pure]
                        dsimp only
                        rw [Option.map_map]
                        exact congrFun Option.map_id _

/-- A look of the monitor runs its task. -/
theorem monitorLook_run {α β : Type} (env : ℕ → Env) (i : ℕ) (s : MonitorState) (db : Db)
    (t : Model.Task α) (f : α → Monitor β) :
    Prog.runS world env (Monitor.look t >>= f) i s db =
      Prog.runS world env (f (t.run world env i db).1) (t.run world env i db).2.2 s
        (t.run world env i db).2.1 :=
  Prog.runS_lift_bind _ _ _ _ _ _ _

/-- So does a task that can end the turn. -/
theorem monitorOrStop_run {α : Type} (env : ℕ → Env) (i : ℕ) (s : MonitorState) (db : Db)
    (t : Model.Task (Except String α)) :
    Prog.runS world env (Monitor.orStop t) i s db =
      (((t.run world env i db).1, s), (t.run world env i db).2) := by
  unfold Monitor.orStop
  rw [monitorLook_run]
  cases (t.run world env i db).1 <;> rfl

/-- Without a cached quote the exit monitor asks for one. -/
theorem monitorMark_run (deps : Deps) (e : Env) (db : Db) (remaining : UInt64) (i : ℕ)
    {s : MonitorState} (hcache : s.quoteCache.find? mint = none)
    (terms : ExitTerms) :
    ∃ j, Prog.runS world (fun _ => e) (monitorMark deps mint terms remaining) i s db =
      ((.ok (match (e.answer (.quote mint terms.baseMint remaining
          deps.config.execution.slippageBps) : Except ExecutionError Quote) with
        | .error _ => none
        | .ok q => (markFromQuote q terms remaining).map fun mark =>
            (mark, q.priceImpactBps, some q)), s), db, j) := by
  have hcached : Prog.runS world (fun _ => e) (cachedQuote deps mint) i s db =
      ((.ok none, s), db, i) := by
    unfold cachedQuote
    dsimp only
    split
    · rfl
    · rw [Prog.runS_get_bind, hcache]
      rfl
  unfold monitorMark
  rw [Prog.runS_bind, hcached]
  dsimp only
  rw [monitorLook_run, quote_run]
  dsimp only
  cases (e.answer (.quote mint terms.baseMint remaining deps.config.execution.slippageBps) :
    Except ExecutionError Quote) with
  | error err => exact ⟨i + 1, rfl⟩
  | ok q => exact ⟨i + 1, rfl⟩

/-- Saving a position leaves the evidence alone. -/
theorem savePosition_run (i : ℕ) (basis : SaveBasis) (saved : Position) :
    (Prog.run world (fun _ => e) (Store.savePosition basis saved) i db).2.1.liquidity =
        db.liquidity ∧
      (Prog.run world (fun _ => e) (Store.savePosition basis saved) i db).2.1.invalidatedSignals =
        db.invalidatedSignals := by
  change (statement e ((), db.savePosition saved) db).2.liquidity = _ ∧
    (statement e ((), db.savePosition saved) db).2.invalidatedSignals = _
  unfold statement
  cases e.fault <;> exact ⟨rfl, rfl⟩

/-- The mark is saved, unless the entry cost is missing, and the evidence stays as it is. -/
theorem saveMark_run (e : Env) (db : Db) (i : ℕ) {s : MonitorState} (hp : s.portfolio.position mint = some p)
    (htrusted : p.trustedRemaining = some remaining) (mark : Decimal) (q : Quote) :
    ∃ s' db' j, Prog.runS world (fun _ => e) (saveMark mint mark (some q)) i s db =
        ((.ok p.entryCostUsd.isSome, s'), db', j) ∧
      db'.liquidity = db.liquidity ∧ db'.invalidatedSignals = db.invalidatedSignals := by
  have hok := markToMarket_isOk mark hp htrusted
  unfold saveMark
  rw [Prog.runS_get_bind, Prog.runS_modify_bind]
  cases hmarked : (s.portfolio.markToMarket mint mark).1 with
  | error msg =>
      rw [hmarked] at hok
      rw [← hok]
      exact ⟨_, _, _, rfl, rfl, rfl⟩
  | ok value =>
      rw [hmarked] at hok
      rw [← hok, hp]
      cases (s.portfolio.markToMarket mint mark).2.position mint with
      | none => exact ⟨_, _, _, rfl, rfl, rfl⟩
      | some marked =>
          dsimp only
          rw [monitorLook_run]
          exact ⟨_, _, _, rfl, savePosition_run i _ marked⟩

/-- The evidence that the exit monitor finds, or makes of its quote. -/
theorem monitorLiquidity_run (hfault : e.fault = none) (i : ℕ) (mark : Decimal)
    (tokenDecimals : UInt8) (impactBps : UInt32) :
    (Prog.run world (fun _ => e)
        (monitorLiquidity deps mint mark remaining tokenDecimals impactBps) i db).1 =
      (persistedEvidence deps e db mint).getD
        (estimateLiquidityUsd (probeUsd mark remaining tokenDecimals) impactBps) ∧
      (Prog.run world (fun _ => e) (monitorLiquidity deps mint mark remaining tokenDecimals
        impactBps) i db).2.1.invalidatedSignals = db.invalidatedSignals := by
  unfold monitorLiquidity
  rw [Prog.run_bind, (persistedLiquidity_run hfault i db mint).1,
    (persistedLiquidity_run hfault i db mint).2]
  cases persistedEvidence deps e db mint with
  | some liq => exact ⟨rfl, rfl⟩
  | none =>
      dsimp only
      rw [Prog.run_bind]
      refine ⟨rfl, ?_⟩
      change (statement e ((), db.setLastLiquidity mint _ e.clock) db).2.invalidatedSignals = _
      unfold statement
      cases e.fault <;> rfl

/-- Why the monitor exits: the mark of its quote, and the rules on it. -/
theorem monitorReason_eq (hfault : e.fault = none) {s : MonitorState}
    (hp : s.portfolio.position mint = some p) (hcache : s.quoteCache.find? mint = none)
    (htrusted : p.trustedRemaining = some remaining) :
    monitorReason deps e s db mint =
      decided deps e db mint p remaining (monitorVerdict deps e db mint p remaining) := by
  have hopen : p.state = .open := by
    unfold Position.trustedRemaining at htrusted
    split at htrusted
    · cases htrusted
    · rename_i hopen
      unfold Position.isOpen at hopen
      simpa using hopen
  unfold monitorReason monitorDecision decided
  rw [Prog.runS_get_bind, hp]
  dsimp only
  rw [if_neg (not_not.mpr hopen), htrusted]
  dsimp only
  rw [Prog.runS_bind, monitorOrStop_run, incompleteOrders_run hfault]
  dsimp only
  by_cases hflight : db.incompleteOrders.orders.any (isExitOf p.positionId)
  · simp only [hflight, if_true]
    rfl
  · simp only [hflight, Bool.false_eq_true, if_false]
    cases hterms : exitTerms p with
    | error r => rfl
    | ok terms =>
        dsimp only
        obtain ⟨j, hmark⟩ := monitorMark_run deps e db remaining (0 + 1) hcache terms
        rw [Prog.runS_bind, hmark]
        dsimp only
        cases (e.answer (.quote mint terms.baseMint remaining deps.config.execution.slippageBps) :
          Except ExecutionError Quote) with
        | error err => rfl
        | ok q =>
            dsimp only
            unfold monitorVerdict
            cases markFromQuote q terms remaining with
            | none => rfl
            | some mark =>
                obtain ⟨s', db', k, hsave, hliquidity, hsignals⟩ :=
                  saveMark_run e db j hp htrusted mark q
                dsimp only [Option.map_some]
                rw [Prog.runS_bind, hsave]
                dsimp only
                cases hcost : p.entryCostUsd with
                | none => rfl
                | some cost =>
                    have hevidence : persistedEvidence deps e db' mint =
                        persistedEvidence deps e db mint := by
                      unfold persistedEvidence
                      rw [hliquidity]
                    simp only [Option.isSome_some, Option.isNone_some, if_true, Bool.false_eq_true,
                      if_false]
                    rw [monitorLook_run, (monitorLiquidity_run hfault k mark _ _).1, monitorLook_run,
                      (monitorInvalidated_run hfault _ _ _).1,
                      (monitorLiquidity_run hfault k mark _ _).2, monitorLook_run, clock_run,
                      Prog.runS_pure, hevidence, hsignals]
                    rfl

/-! ## When the decisions agree -/

/-- The session's mark is the monitor's, unless the quote is for nothing. -/
theorem markPriceFromQuote_eq (terms : ExitTerms) (q : Quote) :
    markPriceFromQuote q.outputAmount terms.baseDecimals terms.basePrice remaining
        terms.tokenDecimals =
      if q.outputAmount = 0 then none else markFromQuote q terms remaining := by
  unfold markPriceFromQuote markFromQuote
  by_cases houtput : q.outputAmount = 0
  · rw [if_pos (.inr houtput), if_pos houtput]
  · rw [if_neg houtput]
    by_cases hremaining : remaining = 0
    · rw [if_pos (.inl hremaining), hremaining]
      -- nothing left to sell has no units
      unfold units
      cases checkedPow10 terms.baseDecimals with
      | none => rfl
      | some d =>
          cases checkedPow10 terms.tokenDecimals with
          | none => rfl
          | some d' =>
              have hzero : dec 0 / dec d' = 0 := by
                rw [show dec 0 = 0 from rfl, zero_div]
              dsimp only
              rw [if_pos hzero]
    · exact if_neg (not_or.mpr ⟨hremaining, houtput⟩)

/-- A quote for nothing marks the position at zero. -/
theorem mark_of_nothing {terms : ExitTerms} {q : Quote} {mark : Decimal}
    (houtput : q.outputAmount = 0) (hmark : markFromQuote q terms remaining = some mark) :
    mark = 0 := by
  unfold markFromQuote at hmark
  rw [houtput] at hmark
  unfold units at hmark
  cases hbase : checkedPow10 terms.baseDecimals with
  | none =>
      rw [hbase] at hmark
      cases hmark
  | some d =>
      rw [hbase] at hmark
      dsimp only at hmark
      split at hmark
      · rename_i hunits htoken
        cases hunits
        split at hmark
        · cases hmark
        · cases hmark
          rw [show dec 0 = 0 from rfl, zero_div, zero_mul, zero_div]
      · cases hmark

/-- Nothing speaks for an exit at a mark of zero. -/
structure HeldAtZero (deps : Deps) (p : Position) (liquidity : Decimal) (invalidated : Bool)
    (now : Time) : Prop where
  liquid : deps.config.risk.minLiquidityUsd ≤ liquidity
  valid : invalidated = false
  entered : 0 < p.entryPriceUsd
  stopLoss : 100 < deps.config.strategy.stopLossPct
  takeProfit : -100 < deps.config.strategy.takeProfitPct
  trailing : p.highWaterPriceUsd * (1 - deps.config.strategy.trailingStopPct / 100) < 0
  holding : numMinutes (now - p.entryTime) < deps.config.strategy.maxHoldingMinutes

/-- A mark of zero gives no reason exactly if no rule but the stop would fire. -/
theorem exitReason_zero_iff {liquidity : Decimal} {invalidated : Bool} {now : Time} :
    exitReason p 0 (some liquidity) deps.config.risk.minLiquidityUsd invalidated now
        deps.config.strategy = none ↔ HeldAtZero deps p liquidity invalidated now := by
  have hloss : 0 < p.entryPriceUsd → (0 - p.entryPriceUsd) / p.entryPriceUsd * 100 = -100 := by
    intro hentered
    rw [zero_sub, neg_div, div_self hentered.ne', neg_mul, one_mul]
  unfold exitReason
  dsimp only
  constructor
  · intro h
    obtain ⟨hliquid, h⟩ := rule_passed h
    obtain ⟨hvalid, h⟩ := rule_passed h
    obtain ⟨hentered, h⟩ := rule_passed h
    rw [hloss (not_le.mp hentered)] at h
    obtain ⟨hstop, h⟩ := rule_passed h
    obtain ⟨hprofit, h⟩ := rule_passed h
    obtain ⟨htrailing, h⟩ := rule_passed h
    obtain ⟨hholding, -⟩ := rule_passed h
    exact ⟨not_lt.mp hliquid, Bool.eq_false_of_not_eq_true hvalid, not_le.mp hentered,
      neg_lt_neg_iff.mp (not_le.mp hstop), not_le.mp hprofit, not_le.mp htrailing,
      not_le.mp hholding⟩
  · intro h
    rw [if_neg (not_lt.mpr h.liquid), if_neg (by rw [h.valid]; exact Bool.false_ne_true),
      if_neg (not_le.mpr h.entered), hloss h.entered,
      if_neg (not_le.mpr (neg_lt_neg_iff.mpr h.stopLoss)), if_neg (not_le.mpr h.takeProfit),
      if_neg (not_le.mpr h.trailing), if_neg (not_le.mpr h.holding)]

/-- In a liquid market no exit is made for its liquidity, and without an invalidated signal none for
the signal. -/
theorem exitReason_of_liquid (p : Position) (mark : Decimal) (now : Time) (c : StrategyConfig)
    {liquidity minLiquidity : Decimal} (hliquid : ¬ liquidity < minLiquidity) (invalidated : Bool) :
    exitReason p mark (some liquidity) minLiquidity invalidated now c ≠
        some .liquidityDeterioration ∧
      (exitReason p mark (some liquidity) minLiquidity invalidated now c = some .signalInvalidated ↔
        invalidated = true) := by
  unfold exitReason
  dsimp only
  rw [if_neg hliquid]
  cases invalidated with
  | true => exact ⟨fun h => (by cases h), ⟨fun _ => rfl, fun _ => rfl⟩⟩
  | false =>
      simp only [Bool.false_eq_true, if_false, iff_false]
      split
      · exact ⟨fun h => (by cases h), fun h => (by cases h)⟩
      · split
        · exact ⟨fun h => (by cases h), fun h => (by cases h)⟩
        · split
          · exact ⟨fun h => (by cases h), fun h => (by cases h)⟩
          · split
            · exact ⟨fun h => (by cases h), fun h => (by cases h)⟩
            · split
              · exact ⟨fun h => (by cases h), fun h => (by cases h)⟩
              · exact ⟨fun h => (by cases h), fun h => (by cases h)⟩

/-- Too little liquidity is a reason whatever the mark is. -/
theorem exitReason_of_illiquid {mark liquidity minLiquidity : Decimal} {invalidated : Bool}
    {now : Time} {c : StrategyConfig} (h : liquidity < minLiquidity) :
    exitReason p mark (some liquidity) minLiquidity invalidated now c =
      some .liquidityDeterioration := by
  unfold exitReason
  dsimp only
  rw [if_pos h]

/-- Two decisions on the same mark: missing evidence and an invalidated signal matter exactly while
the market is liquid. -/
theorem exitReason_evidence_iff {mark liquidity minLiquidity : Decimal} {evidence : Option Decimal}
    {invalidated invalidated' : Bool} {now : Time} {c : StrategyConfig}
    (hevidence : evidence.getD liquidity = liquidity)
    (hflag : invalidated = true → invalidated' = true) :
    exitReason p mark evidence minLiquidity invalidated now c =
        exitReason p mark (some liquidity) minLiquidity invalidated' now c ↔
      liquidity < minLiquidity ∨ (evidence.isSome = true ∧ invalidated = invalidated') := by
  by_cases hliquid : liquidity < minLiquidity
  · rw [exitReason_of_illiquid hliquid]
    refine ⟨fun _ => .inl hliquid, fun _ => ?_⟩
    cases evidence with
    | none => rfl
    | some liq =>
        obtain rfl : liq = liquidity := hevidence
        exact exitReason_of_illiquid hliquid
  · obtain ⟨hnot, hsignal⟩ := exitReason_of_liquid p mark now c hliquid invalidated'
    cases evidence with
    | none =>
        refine ⟨fun h => absurd h.symm hnot, ?_⟩
        rintro (h | ⟨h, -⟩)
        · exact absurd h hliquid
        · cases h
    | some liq =>
        obtain rfl : liq = liquidity := hevidence
        constructor
        · intro h
          refine .inr ⟨rfl, ?_⟩
          have hsignal' := (exitReason_of_liquid p mark now c hliquid invalidated).2
          rw [h, hsignal] at hsignal'
          cases invalidated <;> cases invalidated' <;> simp_all
        · rintro (h | ⟨-, rfl⟩)
          · exact absurd h hliquid
          · rfl

/-- When the two verdicts on a quote are the same. -/
def VerdictsAgree (deps : Deps) (e : Env) (db : Db) (mint : String) (p : Position)
    (remaining : UInt64) (terms : ExitTerms) (q : Quote) : Prop :=
  ∀ mark, markFromQuote q terms remaining = some mark → p.entryCostUsd.isSome = true →
    if q.outputAmount = 0 then
      HeldAtZero deps p (monitorEvidence deps e db mint remaining terms q mark)
        (db.invalidatedSignals.contains p.signalId) e.clock
    else
      monitorEvidence deps e db mint remaining terms q mark < deps.config.risk.minLiquidityUsd ∨
        ((persistedEvidence deps e db mint).isSome = true ∧
          ¬ (p.signalId = "" ∧ db.invalidatedSignals.contains "" = true))

/-- The two verdicts on a quote agree exactly under their condition. -/
theorem verdicts_agree_iff (terms : ExitTerms) (q : Quote) :
    sessionVerdict deps e db mint p remaining terms q =
        monitorVerdict deps e db mint p remaining terms q ↔
      VerdictsAgree deps e db mint p remaining terms q := by
  unfold sessionVerdict monitorVerdict VerdictsAgree
  rw [markPriceFromQuote_eq]
  cases hmark : markFromQuote q terms remaining with
  | none =>
      rw [ite_self]
      exact ⟨fun _ mark h => (by cases h), fun _ => rfl⟩
  | some mark =>
      simp only [Option.some.injEq, forall_eq']
      cases hcost : p.entryCostUsd with
      | none =>
          simp only [Option.isNone_none, if_true, Option.isSome_none, Bool.false_eq_true,
            false_implies, iff_true]
          split <;> rfl
      | some cost =>
          simp only [Option.isNone_some, Bool.false_eq_true, if_false, Option.isSome_some,
            forall_const]
          by_cases houtput : q.outputAmount = 0
          · rw [if_pos houtput, if_pos houtput]
            obtain rfl := mark_of_nothing houtput hmark
            rw [← exitReason_zero_iff]
            exact eq_comm
          · rw [if_neg houtput, if_neg houtput]
            dsimp only
            refine (exitReason_evidence_iff ?_ ?_).trans (or_congr_right (and_congr_right fun _ => ?_))
            · unfold monitorEvidence
              cases persistedEvidence deps e db mint <;> rfl
            · intro h
              exact (Bool.and_eq_true_iff.mp h).2
            · by_cases hid : p.signalId = ""
              · simp [hid]
              · simp [hid]

/-- While the statements fail neither of the two decides for an exit. -/
theorem decided_of_fault (deps : Deps) (db : Db) {msg : String} (hfault : e.fault = some msg) {s : SessionState}
    {t : MonitorState} (hs : s.portfolio.position mint = some p)
    (ht : t.portfolio.position mint = some p) (htrusted : p.trustedRemaining = some remaining) :
    sessionReason deps e s db mint = none ∧ monitorReason deps e t db mint = none := by
  have hfails : ∀ i, Prog.run world (fun _ => e) Store.incompleteOrders i db =
      (.error msg, db, i + 1) := by
    intro i
    have hstatement : statement e (db.incompleteOrders, db) db = (.error msg, db) := by
      unfold statement
      rw [hfault]
    exact congrArg (fun r : Except String IncompleteOrders × Db => (r.1, r.2, i + 1)) hstatement
  constructor
  · unfold sessionReason exitDecision
    rw [Prog.runS_get_bind, hs]
    dsimp only
    rw [htrusted]
    dsimp only
    rw [Prog.runS_bind, orStop_run, hfails]
  · unfold monitorReason monitorDecision
    rw [Prog.runS_get_bind, ht]
    dsimp only
    by_cases hopen : p.state ≠ .open
    · rw [if_pos hopen]
      rfl
    · rw [if_neg hopen, htrusted]
      dsimp only
      rw [Prog.runS_bind, monitorOrStop_run, hfails]

/-- **The exit decisions.** The session and the exit monitor, with the same record of a position
whose quantity is trusted, on the same store, with the same quote and at the same time, and the
session without a candidate record and the monitor without a cached quote for the mint, decide
alike exactly if their verdicts on the quote agree, when they ask for one and get it. -/
theorem exit_decisions_agree_iff (deps : Deps) (e : Env) (db : Db) (mint : String) (p : Position)
    (remaining : UInt64) (s : SessionState) (ms : MonitorState)
    (hs : s.portfolio.position mint = some p) (hms : ms.portfolio.position mint = some p)
    (hcandidate : s.candidates.find? mint = none) (hcache : ms.quoteCache.find? mint = none)
    (htrusted : p.trustedRemaining = some remaining) :
    sessionReason deps e s db mint = monitorReason deps e ms db mint ↔
      ∀ terms q, e.fault = none →
        db.incompleteOrders.orders.any (isExitOf p.positionId) = false →
        exitTerms p = .ok terms →
        (e.answer (.quote mint terms.baseMint remaining deps.config.execution.slippageBps) :
          Except ExecutionError Quote) = .ok q →
        VerdictsAgree deps e db mint p remaining terms q := by
  cases hfault : e.fault with
  | some msg =>
      obtain ⟨hsession, hmonitor⟩ := decided_of_fault deps db hfault hs hms htrusted
      refine ⟨fun _ terms q h => (by cases h), fun _ => ?_⟩
      rw [hsession, hmonitor]
  | none =>
      rw [sessionReason_eq hfault hs hcandidate htrusted, monitorReason_eq hfault hms hcache htrusted]
      unfold decided
      by_cases hflight : db.incompleteOrders.orders.any (isExitOf p.positionId) = true
      · rw [if_pos hflight, if_pos hflight]
        refine ⟨fun _ terms q _ hclear => ?_, fun _ => rfl⟩
        rw [hflight] at hclear
        cases hclear
      · rw [if_neg hflight, if_neg hflight]
        cases hterms : exitTerms p with
        | error r => exact ⟨fun _ terms q _ _ h => (by cases h), fun _ => rfl⟩
        | ok terms =>
            dsimp only
            cases hquote : (e.answer (.quote mint terms.baseMint remaining
                deps.config.execution.slippageBps) : Except ExecutionError Quote) with
            | error err =>
                refine ⟨fun _ terms' q _ _ h h' => ?_, fun _ => rfl⟩
                cases h
                rw [hquote] at h'
                cases h'
            | ok q =>
                refine (verdicts_agree_iff terms q).trans
                  ⟨fun h terms' q' _ _ hterms' hquote' => ?_,
                    fun h => h terms q rfl (Bool.eq_false_of_not_eq_true hflight) rfl hquote⟩
                cases hterms'
                rw [hquote] at hquote'
                cases hquote'
                exact h

end Decisions

/-! ## A position that only one of them sells -/

/-- The sample world in which the sample position is quoted at the given output and impact. -/
def quotedEnv (outputAmount : UInt64) (impactBps : UInt32) : Env :=
  { sampleEnv with
    answer := fun
      | .quote i o a _ => .ok { sampleQuote i o a with outputAmount, priceImpactBps := impactBps }
      | o => sampleAnswer o }

/-- The exit monitor with the sample position, at the begin of its loop. -/
def holdingMonitor : MonitorState := ⟨Table.empty _, sampleDb.loadPortfolio⟩

/-- On a quote of one for one both decide the same. -/
theorem exit_decisions_agree_iff_sample :
    sessionReason (sampleDeps false) (quotedEnv 10 0) (holdingSession (sampleDeps false)) sampleDb
        "token" =
      monitorReason (sampleDeps false) (quotedEnv 10 0) holdingMonitor sampleDb "token" := by
  refine (exit_decisions_agree_iff (sampleDeps false) (quotedEnv 10 0) sampleDb "token"
    samplePosition 100 (holdingSession (sampleDeps false)) holdingMonitor (by decide +kernel)
    (by decide +kernel) rfl rfl (by decide +kernel)).mpr ?_
  intro terms q _ _ _ hquote mark _ _
  cases hquote
  -- an impact of zero proves no liquidity
  have hnothing : monitorEvidence (sampleDeps false) (quotedEnv 10 0) sampleDb "token" 100 terms
      { sampleQuote "token" terms.baseMint 100 with outputAmount := 10, priceImpactBps := 0 } mark = 0 :=
    rfl
  have hsome : ¬ (10 : UInt64) = 0 := by decide
  rw [if_neg hsome, hnothing]
  exact .inl (by decide)

/-- A position whose liquidity was never observed, and which is quoted at its entry price with an
impact of one basis point: the session sells it for its liquidity, the exit monitor keeps it. A
quote for nothing, with fresh evidence: the exit monitor sells it at its stop loss, the session
keeps it. -/
theorem decisions_differ :
    (sessionReason (sampleDeps false) (quotedEnv 10 1) (holdingSession (sampleDeps false)) sampleDb
          "token" = some .liquidityDeterioration ∧
        monitorReason (sampleDeps false) (quotedEnv 10 1) holdingMonitor sampleDb "token" = none) ∧
      sessionReason (sampleDeps false) (quotedEnv 0 1) (holdingSession (sampleDeps false))
          (sampleDb.setLastLiquidity "token" 5000 0) "token" = none ∧
        monitorReason (sampleDeps false) (quotedEnv 0 1) holdingMonitor
          (sampleDb.setLastLiquidity "token" 5000 0) "token" = some .stopLoss := by
  decide +kernel

end SolanaBot.Analysis
