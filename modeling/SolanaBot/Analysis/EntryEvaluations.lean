import SolanaBot.Analysis.EntryOperations
import SolanaBot.Library.Turns

/-!
# Evaluations of candidates

A turn of `process_entries` over a record is a cascade of checks, the last of which is made by the
store when the order is to be reserved. What the checks see is fixed by the state in which the turn
begins and by the answers of the operations that it makes one after the other. A turn reserves an
order exactly if all checks pass (`reservedAt_eq`).
-/

set_option autoImplicit false

namespace SolanaBot.Analysis

open SolanaBot.Library SolanaBot.Model

/-! ## Cuts -/

/-- The end of a tick up to the turn `k` over the candidates, if it gets there: the time of the turns
and whose turn it is. -/
def evaluating (deps : Deps) (k : ℕ) : Session (Option (Time × String)) := do
  if ← entryGate deps then
    let now ← look clock
    let mints ← look (hashOrder ((← get).candidates.rows.map CandidateInput.mint))
    (mints.val.take k).foldlM (fun _ mint => processEntry deps now mint) ()
    return mints.val[k]?.map fun mint => (now, mint)
  else return none

/-- The call of `authorize` is made in the turn over a candidate. -/
theorem authorizing_eq (deps : Deps) (k : ℕ) :
    authorizing deps k = (do
      match ← evaluating deps k with
      | none => return none
      | some (now, mint) =>
          let call ← beforeAuthorize deps now mint
          return call.map fun c => (c, now)) := by
  unfold authorizing evaluating
  rw [bind_assoc]
  refine congrArg _ (funext fun entering => ?_)
  cases entering with
  | false => rfl
  | true =>
      simp only [if_true, bind_assoc, pure_bind]
      refine congrArg _ (funext fun now => congrArg _ (funext fun s => congrArg _
        (funext fun mints => congrArg _ (funext fun _ => ?_))))
      cases mints.val[k]? <;> rfl

/-- A session up to the turn `k` over the candidates of the tick `n`, if it gets there. -/
def untilEvaluation (deps : Deps) (n k : ℕ) : Session (Option (Time × String)) := do
  sessionStart deps
  sessionTicks deps n
  beforeEntries deps
  evaluating deps k

/-- The turn over a record, and where it begins. -/
structure Evaluation (σ : Type) where
  now : Time
  candidate : CandidateInput
  index : ℕ
  state : SessionState
  shared : σ

section Begin

variable {σ : Type} {r : (Except String (Option (Time × String)) × SessionState) × σ × ℕ}

/-- The turn that a run of `untilEvaluation` ends before. -/
def evaluationOf (r : (Except String (Option (Time × String)) × SessionState) × σ × ℕ) :
    Option (Evaluation σ) :=
  match r with
  | ((.ok (some (now, mint)), s), x, i) =>
      (s.candidates.find? mint).map fun c => ⟨now, c, i, s, x⟩
  | _ => none

/-- The record is the one that is stored under the mint whose turn it is. -/
theorem find?_of_evaluationOf {e : Evaluation σ} (h : evaluationOf r = some e) :
    e.state.candidates.find? e.candidate.mint = some e.candidate := by
  unfold evaluationOf at h
  split at h
  · rename_i now mint s x i
    obtain ⟨c, hfind, rfl⟩ := Option.map_eq_some_iff.mp h
    have hmint : c.mint = mint := Table.find?_key hfind
    dsimp only
    rw [hmint]
    exact hfind
  · cases h

end Begin

/-- What the executor is asked for. -/
structure EntryRequest where
  candidate : CandidateInput
  screened : ScreenedCandidate
  signal : TradeSignal
  inputAmountAtomic : UInt64
  positionUsd : Decimal

/-- A turn over a candidate up to the request of its quote, if it gets there. -/
def untilRequest (deps : Deps) (now : Time) (mint : String) : Session (Option EntryRequest) := do
  let config := deps.config
  match (← get).candidates.find? mint with
  | none => return none
  | some c =>
      match screenCandidate config (← get) c now with
      | none => return none
      | some screened =>
          let t ← look clock
          let uuid ← look newUuid
          match evaluateSignal config mint screened.wallets c.market c.safety screened.expected t
              uuid with
          | .rejected _ => return none
          | .accepted signal =>
              if signal.id ∈ (← get).seenSignals then return none
              else
                modify fun s => { s with
                  risk := s.risk.setOpenPositions s.portfolio.openPositions.length }
                match ← look (sizeEntry config (← get) c screened.tokenDecimals) with
                | none => return none
                | some (inputAmountAtomic, positionUsd) =>
                    if positionUsd ≤ 0 ∨ positionUsd > config.risk.maxLiveCapitalUsd then return none
                    else return some ⟨c, screened, signal, inputAmountAtomic, positionUsd⟩

/-- The call of `authorize` comes with the quote that was asked for. -/
def EntryRequest.call (r : EntryRequest) (quote : Quote) : EntryCall :=
  ⟨r.candidate, r.screened, r.signal, r.inputAmountAtomic, r.positionUsd, quote⟩

/-- What the executor was asked for before the call of `authorize`. -/
def EntryCall.request (call : EntryCall) : EntryRequest :=
  ⟨call.candidate, call.screened, call.signal, call.inputAmountAtomic, call.positionUsd⟩

/-- A turn asks for its quote and then the risk engine. -/
theorem beforeAuthorize_eq (deps : Deps) (now : Time) (mint : String) :
    beforeAuthorize deps now mint = (do
      match ← untilRequest deps now mint with
      | none => return none
      | some r =>
          match ← look (Executor.quote deps.config.strategy.baseMint r.candidate.mint
              r.inputAmountAtomic deps.config.execution.slippageBps) with
          | .error _ => return none
          | .ok quote => return some (r.call quote)) := by
  unfold beforeAuthorize untilRequest
  simp only [bind_assoc]
  refine congrArg _ (funext fun s => ?_)
  cases s.candidates.find? mint with
  | none => rfl
  | some c =>
      simp only [bind_assoc]
      refine congrArg _ (funext fun s => ?_)
      cases screenCandidate deps.config s c now with
      | none => rfl
      | some screened =>
          simp only [bind_assoc]
          refine congrArg _ (funext fun t => congrArg _ (funext fun uuid => ?_))
          cases evaluateSignal deps.config mint screened.wallets c.market c.safety screened.expected t
            uuid with
          | rejected reason => rfl
          | accepted signal =>
              simp only [bind_assoc]
              refine congrArg _ (funext fun s => ?_)
              by_cases hseen : signal.id ∈ s.seenSignals
              · simp only [hseen, if_true]
                rfl
              · simp only [hseen, if_false, bind_assoc]
                refine congrArg _ (funext fun _ => congrArg _ (funext fun s => congrArg _
                  (funext fun sized => ?_)))
                cases sized with
                | none => rfl
                | some sized =>
                    obtain ⟨inputAmountAtomic, positionUsd⟩ := sized
                    dsimp only
                    by_cases hsize : positionUsd ≤ 0 ∨ positionUsd > deps.config.risk.maxLiveCapitalUsd
                    · simp only [hsize, if_true]
                      rfl
                    · simp only [hsize, if_false]
                      rfl

/-! ## The checks of a turn -/

/-- The number whose text becomes the atomic input amount, and the USD size of the entry. -/
def entrySize (config : Config) (s : SessionState) (c : CandidateInput) (tokenDecimals : UInt8) :
    Option (Decimal × Decimal) :=
  if config.mode = .live then
    let maxPos := (s.risk.maxPositionUsd config.strategy.stopLossPct).getD 0
    if maxPos ≤ 0 then none
    else
      let sized := if c.positionUsd > 0 ∧ c.positionUsd ≤ maxPos then c.positionUsd else maxPos
      match computeLiveInputAmountAtomic sized (s.solPriceUsd.getD 0) tokenDecimals with
      | .error _ => none
      | .ok atomic => some (atomic, min atomic config.risk.maxLiveCapitalUsd)
  else some (c.positionUsd, c.positionUsd)

/-- The size of an entry is computed, and then its amount is read. -/
theorem sizeEntry_eq (config : Config) (s : SessionState) (c : CandidateInput)
    (tokenDecimals : UInt8) :
    sizeEntry config s c tokenDecimals =
      match entrySize config s c tokenDecimals with
      | none => pure none
      | some (atomic, usd) => do
          let n ← parseU64 atomic
          return some (n.val.getD 0, usd) := by
  unfold sizeEntry entrySize
  split
  · dsimp only
    split
    · rfl
    · cases computeLiveInputAmountAtomic _ _ _ <;> rfl
  · rfl

/-- The integer that the text of a number is read as. -/
def readAmount (e : Env) (d : Decimal) : UInt64 := (e.answer (.parseU64 d)).val.getD 0

/-- The session when it sizes an entry: the risk engine knows how many positions are open. -/
def counted (s : SessionState) : SessionState :=
  { s with risk := s.risk.setOpenPositions s.portfolio.openPositions.length }

/-- The shared state after what the others do before the operations from `i` to `i + n - 1`, which
themselves leave it alone. -/
def storeAfter {σ : Type} (env : ℕ → Env × (σ → σ)) (i : ℕ) : ℕ → σ → σ
  | 0, x => x
  | n + 1, x => storeAfter env (i + 1) n ((env i).2 x)

/-- What a turn asks the executor for if its checks pass up to there. -/
def preparedRequest {σ : Type} (deps : Deps) (env : ℕ → Env × (σ → σ)) (e : Evaluation σ) :
    Option EntryRequest :=
  match screenCandidate deps.config e.state e.candidate e.now with
  | none => none
  | some screened =>
      match evaluateSignal deps.config e.candidate.mint screened.wallets e.candidate.market
          e.candidate.safety screened.expected (env e.index).1.clock (newId (env (e.index + 1)).1) with
      | .rejected _ => none
      | .accepted signal =>
          if signal.id ∈ e.state.seenSignals then none
          else
            match entrySize deps.config (counted e.state) e.candidate screened.tokenDecimals with
            | none => none
            | some (atomic, usd) =>
                if usd ≤ 0 ∨ usd > deps.config.risk.maxLiveCapitalUsd then none
                else
                  some ⟨e.candidate, screened, signal, readAmount (env (e.index + 2)).1 atomic, usd⟩

/-- What a turn asks the risk engine about if its checks pass up to there. -/
def preparedCall (deps : Deps) (env : ℕ → Env × (Db → Db)) (e : Evaluation Db) : Option EntryCall :=
  match preparedRequest deps env e with
  | none => none
  | some r =>
      match ((env (e.index + 3)).1.answer (.quote deps.config.strategy.baseMint r.candidate.mint
          r.inputAmountAtomic deps.config.execution.slippageBps) : Except ExecutionError Quote) with
      | .error _ => none
      | .ok quote => some (r.call quote)

/-- The order that a turn reserves. -/
def orderOf (deps : Deps) (env : ℕ → Env × (Db → Db)) (e : Evaluation Db) (call : EntryCall) :
    OrderRecord :=
  entryOrder deps (call.context (newId (env (e.index + 4)).1)) (newId (env (e.index + 5)).1) e.now

/-- All checks of a turn pass. -/
structure Passes (deps : Deps) (env : ℕ → Env × (Db → Db)) (e : Evaluation Db) (call : EntryCall) :
    Prop where
  candidate : call.candidate = e.candidate
  /-- No open position, a fresh record, known decimals, the cost gate and an expected value. -/
  screened : screenCandidate deps.config e.state e.candidate e.now = some call.screened
  /-- The strategy issues a signal with a new identifier. -/
  accepted : evaluateSignal deps.config e.candidate.mint call.screened.wallets e.candidate.market
    e.candidate.safety call.screened.expected (env e.index).1.clock
    (newId (env (e.index + 1)).1) = .accepted call.signal
  unseen : newId (env (e.index + 1)).1 ∉ e.state.seenSignals
  sized : (entrySize deps.config (counted e.state) e.candidate call.screened.tokenDecimals).map
    (fun size => (readAmount (env (e.index + 2)).1 size.1, size.2)) =
      some (call.inputAmountAtomic, call.positionUsd)
  positive : 0 < call.positionUsd
  capped : call.positionUsd ≤ deps.config.risk.maxLiveCapitalUsd
  quoted : ((env (e.index + 3)).1.answer (.quote deps.config.strategy.baseMint e.candidate.mint
    call.inputAmountAtomic deps.config.execution.slippageBps) : Except ExecutionError Quote) =
      .ok call.quote
  authorized : call.authorize deps (counted e.state).risk e.now = .ok ()
  sizable : (counted e.state).risk.validatePositionSize call.positionUsd
    deps.config.strategy.stopLossPct = .ok ()
  /-- The store answers. -/
  recorded : (env (e.index + 6)).1.fault = none
  /-- Neither the identifier of the order nor its key is taken. -/
  idFree : (storeAfter env e.index 7 e.shared).orders.find? (newId (env (e.index + 5)).1) = none
  keyFree : ∀ r ∈ (storeAfter env e.index 7 e.shared).orders.rows, r.idempotencyKey ≠
    entryIdempotencyKey deps.sha256 (newId (env (e.index + 1)).1) e.candidate.mint
      call.inputAmountAtomic

/-- The identifier of an accepted signal is the one that was drawn. -/
theorem id_of_accepted {config : Config} {mint : String} {wallets : List WalletStats}
    {market : MarketSnapshot} {safety : TokenSafety} {expected : ExpectedValue} {now : Time}
    {uuid : String} {signal : TradeSignal}
    (h : evaluateSignal config mint wallets market safety expected now uuid = .accepted signal) :
    signal.id = uuid := by
  unfold evaluateSignal at h
  dsimp only at h
  repeat' split at h
  all_goals cases h
  rfl

/-- When a turn prepares a request, and which one. -/
theorem preparedRequest_eq_some {σ : Type} (deps : Deps) (env : ℕ → Env × (σ → σ))
    (e : Evaluation σ) (r : EntryRequest) :
    preparedRequest deps env e = some r ↔ r.candidate = e.candidate ∧
      screenCandidate deps.config e.state e.candidate e.now = some r.screened ∧
      evaluateSignal deps.config e.candidate.mint r.screened.wallets e.candidate.market
        e.candidate.safety r.screened.expected (env e.index).1.clock
        (newId (env (e.index + 1)).1) = .accepted r.signal ∧
      newId (env (e.index + 1)).1 ∉ e.state.seenSignals ∧
      (entrySize deps.config (counted e.state) e.candidate r.screened.tokenDecimals).map
        (fun size => (readAmount (env (e.index + 2)).1 size.1, size.2)) =
          some (r.inputAmountAtomic, r.positionUsd) ∧
      (0 < r.positionUsd ∧ r.positionUsd ≤ deps.config.risk.maxLiveCapitalUsd) := by
  obtain ⟨candidate, screened', signal', amount', usd'⟩ := r
  constructor
  · intro h
    unfold preparedRequest at h
    split at h
    · cases h
    · rename_i screened hscreened
      split at h
      · cases h
      · rename_i signal haccepted
        split at h
        · cases h
        · rename_i hunseen
          split at h
          · cases h
          · rename_i atomic usd hsize
            split at h
            · cases h
            · rename_i hbounds
              cases h
              rw [id_of_accepted haccepted] at hunseen
              refine ⟨rfl, hscreened, haccepted, hunseen, ?_, ?_⟩
              · rw [hsize]
                rfl
              · exact ⟨lt_of_not_ge fun h => hbounds (.inl h), le_of_not_gt fun h => hbounds (.inr h)⟩
  · rintro ⟨hcandidate, hscreened, haccepted, hunseen, hsize, hpositive, hcapped⟩
    obtain ⟨⟨atomic, usd⟩, hentry, hread⟩ := Option.map_eq_some_iff.mp hsize
    obtain ⟨hamount, husd⟩ := Prod.mk.inj hread
    dsimp only at hamount husd
    rw [← id_of_accepted haccepted] at hunseen
    rw [← husd] at hpositive hcapped
    have hbounds : ¬ (usd ≤ 0 ∨ usd > deps.config.risk.maxLiveCapitalUsd) :=
      fun h => h.elim (not_le_of_gt hpositive) (not_lt_of_ge hcapped)
    unfold preparedRequest
    rw [hscreened]
    dsimp only
    rw [haccepted]
    dsimp only
    rw [if_neg hunseen, hentry]
    dsimp only
    rw [if_neg hbounds, hamount, ← hcandidate, husd]

/-- When a turn makes a call of `authorize`, and which one. -/
theorem preparedCall_eq_some (deps : Deps) (env : ℕ → Env × (Db → Db)) (e : Evaluation Db)
    (call : EntryCall) :
    preparedCall deps env e = some call ↔ preparedRequest deps env e = some call.request ∧
      ((env (e.index + 3)).1.answer (.quote deps.config.strategy.baseMint call.candidate.mint
        call.inputAmountAtomic deps.config.execution.slippageBps) : Except ExecutionError Quote) =
          .ok call.quote := by
  unfold preparedCall
  constructor
  · intro h
    split at h
    · cases h
    · rename_i r hr
      split at h
      · cases h
      · rename_i quote hquote
        cases h
        exact ⟨hr, hquote⟩
  · rintro ⟨hr, hquote⟩
    rw [hr]
    dsimp only
    unfold EntryCall.request
    dsimp only
    rw [hquote]
    rfl

/-! ## The run of a turn -/

section Runs

variable {deps : Deps} {env : ℕ → Env × (Db → Db)} {e : Evaluation Db}

/-- A look among others runs its task among them. -/
theorem among_look {σ α β : Type} {m : Machine Op Res σ Env} {env : ℕ → Env × (σ → σ)}
    (t : Model.Task α) (f : α → Session β) (i : ℕ) (s : SessionState) (x : σ) :
    Prog.runS m.among env (look t >>= f) i s x =
      Prog.runS m.among env (f (t.run m.among env i x).1) (t.run m.among env i x).2.2 s
        (t.run m.among env i x).2.1 :=
  Prog.runS_lift_bind _ _ _ _ _ _ _

/-- A call among others meets the store they have made. -/
theorem among_call {σ : Type} {m : Machine Op Res σ Env} {env : ℕ → Env × (σ → σ)} (o : Op) (i : ℕ)
    (x : σ) :
    Prog.run m.among env (call o) i x = ((m.exec (env i).1 o ((env i).2 x)).1,
      (m.exec (env i).1 o ((env i).2 x)).2, i + 1) := rfl

/-- The machine answers the reads of a turn out of the environment. -/
structure Reads {σ : Type} (m : Machine Op Res σ Env) : Prop where
  now : ∀ e x, m.exec e .now x = (e.clock, x)
  newUuid : ∀ e x, m.exec e .newUuid x = (e.answer .newUuid, x)
  parseU64 : ∀ e d x, m.exec e (.parseU64 d) x = (e.answer (.parseU64 d), x)

/-- Reads of the outside world do not change the store. -/
theorem reads_world : Reads world := ⟨fun _ _ => rfl, fun _ _ => rfl, fun _ _ _ => rfl⟩

section

variable {σ : Type} {m : Machine Op Res σ Env} {env : ℕ → Env × (σ → σ)}

/-- Reading the clock returns the time. -/
theorem reads_clock (hm : Reads m) (i : ℕ) (x : σ) :
    Prog.run m.among env clock i x = ((env i).1.clock, (env i).2 x, i + 1) := by
  refine (among_call .now i x).trans ?_
  rw [hm.now]
  rfl

/-- A new id is the one that the outside world gives. -/
theorem reads_newUuid (hm : Reads m) (i : ℕ) (x : σ) :
    Prog.run m.among env newUuid i x = (newId (env i).1, (env i).2 x, i + 1) := by
  refine (among_call .newUuid i x).trans ?_
  rw [hm.newUuid]
  rfl

/-- An amount that is read from its text. -/
theorem reads_amount (hm : Reads m) (atomic usd : Decimal) (i : ℕ) (x : σ) :
    Prog.run m.among env (do
      let n ← parseU64 atomic
      return some (n.val.getD 0, usd)) i x =
      (some (readAmount (env i).1 atomic, usd), (env i).2 x, i + 1) := by
  have hparse : Prog.run m.among env (parseU64 atomic) i x =
      ((env i).1.answer (.parseU64 atomic), (env i).2 x, i + 1) := by
    refine (among_call (.parseU64 atomic) i x).trans ?_
    rw [hm.parseU64]
  rw [Prog.run_bind, hparse]
  rfl

end

/-- The checks before the executor is asked, one operation after the other. -/
theorem untilRequest_run (deps : Deps) {σ : Type} {m : Machine Op Res σ Env} (hm : Reads m)
    (env : ℕ → Env × (σ → σ)) {e : Evaluation σ}
    (hfind : e.state.candidates.find? e.candidate.mint = some e.candidate) :
    match preparedRequest deps env e with
    | none => (Prog.runS m.among env (untilRequest deps e.now e.candidate.mint) e.index e.state
        e.shared).1.1 = .ok none
    | some r => Prog.runS m.among env (untilRequest deps e.now e.candidate.mint) e.index e.state
        e.shared = ((.ok (some r), counted e.state), storeAfter env e.index 3 e.shared, e.index + 3) := by
  unfold untilRequest preparedRequest
  rw [Prog.runS_get_bind, hfind]
  dsimp only
  rw [Prog.runS_get_bind]
  cases screenCandidate deps.config e.state e.candidate e.now with
  | none => rfl
  | some screened =>
      dsimp only
      rw [among_look, reads_clock hm, among_look, reads_newUuid hm]
      dsimp only
      cases evaluateSignal deps.config e.candidate.mint screened.wallets e.candidate.market
          e.candidate.safety screened.expected (env e.index).1.clock
          (newId (env (e.index + 1)).1) with
      | rejected reason => rfl
      | accepted signal =>
          dsimp only
          rw [Prog.runS_get_bind]
          by_cases hseen : signal.id ∈ e.state.seenSignals
          · rw [if_pos hseen, if_pos hseen]
            rfl
          · have hcount : (modify fun s => { s with
                risk := s.risk.setOpenPositions s.portfolio.openPositions.length } : Session PUnit) =
                modify counted := rfl
            rw [if_neg hseen, if_neg hseen, hcount, Prog.runS_modify_bind, Prog.runS_get_bind,
              among_look, sizeEntry_eq]
            cases entrySize deps.config (counted e.state) e.candidate screened.tokenDecimals with
            | none => rfl
            | some size =>
                obtain ⟨atomic, usd⟩ := size
                dsimp only
                rw [reads_amount hm]
                dsimp only
                by_cases hbounds : usd ≤ 0 ∨ usd > deps.config.risk.maxLiveCapitalUsd
                · rw [if_pos hbounds, if_pos hbounds]
                  rfl
                · rw [if_neg hbounds, if_neg hbounds]
                  rfl

/-- The checks before the risk engine. -/
theorem beforeAuthorize_run (deps : Deps) (env : ℕ → Env × (Db → Db))
    (hfind : e.state.candidates.find? e.candidate.mint = some e.candidate) :
    match preparedCall deps env e with
    | none => (Prog.runS world.among env (beforeAuthorize deps e.now e.candidate.mint) e.index e.state
        e.shared).1.1 = .ok none
    | some call => Prog.runS world.among env (beforeAuthorize deps e.now e.candidate.mint) e.index
        e.state e.shared =
          ((.ok (some call), counted e.state), storeAfter env e.index 4 e.shared, e.index + 4) := by
  have hrun := untilRequest_run deps reads_world env hfind
  rw [beforeAuthorize_eq]
  unfold preparedCall
  cases hrequest : preparedRequest deps env e with
  | none =>
      rw [hrequest] at hrun
      dsimp only at hrun ⊢
      rw [Prog.runS_bind]
      rcases hends : Prog.runS world.among env (untilRequest deps e.now e.candidate.mint) e.index
        e.state e.shared with ⟨⟨r, s⟩, x, i⟩
      rw [hends] at hrun
      cases (show r = .ok none from hrun)
      rfl
  | some r =>
      rw [hrequest] at hrun
      dsimp only at hrun ⊢
      rw [Prog.runS_bind, hrun]
      dsimp only
      rw [among_look]
      have hquote : (Prog.run world.among env (Executor.quote deps.config.strategy.baseMint
          r.candidate.mint r.inputAmountAtomic deps.config.execution.slippageBps) (e.index + 3)
          (storeAfter env e.index 3 e.shared)) =
          ((env (e.index + 3)).1.answer (.quote deps.config.strategy.baseMint r.candidate.mint
            r.inputAmountAtomic deps.config.execution.slippageBps),
            storeAfter env e.index 4 e.shared, e.index + 4) := rfl
      rw [hquote]
      cases ((env (e.index + 3)).1.answer (.quote deps.config.strategy.baseMint r.candidate.mint
          r.inputAmountAtomic deps.config.execution.slippageBps) : Except ExecutionError Quote) with
      | error x => rfl
      | ok quote => rfl

/-! ## The reservation of a turn -/

/-- What an observer sees reserved, among others. -/
def reservationAmong (x : Env × (Db → Db)) (o : Op) (db : Db) : List OrderRecord :=
  reservation x.1 o (x.2 db)

/-- A settling operation among others records no reservation. -/
theorem reservationAmong_of_settling (x : Env × (Db → Db)) (o : Op) (db : Db) (h : Settling o) :
    reservationAmong x o db = [] := reservation_of_settling h

/-- The orders that a turn reserves. -/
def reservedAt (deps : Deps) (env : ℕ → Env × (Db → Db)) (e : Evaluation Db) : List OrderRecord :=
  Prog.recordedS world.among env reservationAmong (processEntry deps e.now e.candidate.mint) e.index
    e.state e.shared

/-- The risk engine agrees, and the store takes the order. -/
structure Granted (deps : Deps) (env : ℕ → Env × (Db → Db)) (e : Evaluation Db) (call : EntryCall) :
    Prop where
  authorized : call.authorize deps (counted e.state).risk e.now = .ok ()
  sizable : (counted e.state).risk.validatePositionSize call.positionUsd
    deps.config.strategy.stopLossPct = .ok ()
  recorded : (env (e.index + 6)).1.fault = none
  taken : ((storeAfter env e.index 7 e.shared).reserveOrder (orderOf deps env e call)).1.toOption =
    some true

/-- The risk engine agrees with the call. -/
def Agreed (deps : Deps) (e : Evaluation Db) (call : EntryCall) : Prop :=
  call.authorize deps (counted e.state).risk e.now = .ok () ∧
    (counted e.state).risk.validatePositionSize call.positionUsd
      deps.config.strategy.stopLossPct = .ok ()

section Noted

variable {γ : Type} {note : Env × (Db → Db) → Op → Db → List γ}

/-- A reservation that no other one follows. -/
theorem notedS_reserveOrder (hnote : ∀ x o db, Settling o → note x o db = []) (order : OrderRecord)
    (f : Bool → Session Unit) (hf : ∀ reserved, Prog.PerformsS Settling (f reserved)) (i : ℕ)
    (s : SessionState) (db : Db) :
    Prog.recordedS world.among env note (orStop (Store.reserveOrder [] order) >>= f) i s db =
      note (env i) (.reserveOrder [] order) db := by
  unfold orStop
  rw [bind_assoc]
  refine (Prog.recordedS_lift_bind (Store.reserveOrder [] order) _ i s db).trans ?_
  refine (congrArg (List.append _) (?_ : _ = [])).trans ?_
  · cases (Prog.run world.among env (Store.reserveOrder [] order) i db).1 with
    | ok reserved => exact Prog.recordedS_of_performs hnote (hf reserved) _ _ _
    | error x => rfl
  · change (note (env i) (.reserveOrder [] order) db ++ []) ++ [] = _
    rw [List.append_nil, List.append_nil]

open Classical in
/-- An observer of reservations sees the one that the risk engine agrees with. -/
theorem notedS_decideEntry (hnote : ∀ x o db, Settling o → note x o db = []) (call : EntryCall) :
    Prog.recordedS world.among env note (decideEntry deps e.now call) (e.index + 4)
      (counted e.state) (storeAfter env e.index 4 e.shared) =
        if Agreed deps e call then note (env (e.index + 6)) (.reserveOrder [] (orderOf deps env e call))
          (storeAfter env e.index 6 e.shared) else [] := by
  unfold decideEntry
  rw [Prog.recordedS_get_bind]
  dsimp only
  cases hauthorize : call.authorize deps (counted e.state).risk e.now with
  | error x =>
      have hnot : ¬ Agreed deps e call := fun h => by
        have := h.1
        rw [hauthorize] at this
        cases this
      rw [if_neg hnot]
      rfl
  | ok u =>
      dsimp only
      cases hsize : (counted e.state).risk.validatePositionSize call.positionUsd
          deps.config.strategy.stopLossPct with
      | error x =>
          have hnot : ¬ Agreed deps e call := fun h => by
            have := h.2
            rw [hsize] at this
            cases this
          rw [if_neg hnot]
          rfl
      | ok u =>
          dsimp only
          rw [if_pos ⟨hauthorize, hsize⟩]
          have hid : ∀ j db, Prog.recorded world.among env note newUuid j db = [] := fun j db =>
            Prog.recorded_of_performs hnote (performs_call (show Settling .newUuid from trivial)) j db
          refine (Prog.recordedS_lift_bind newUuid _ _ _ _).trans ?_
          rw [hid, List.nil_append]
          refine (Prog.recordedS_lift_bind newUuid _ _ _ _).trans ?_
          rw [hid, List.nil_append]
          refine notedS_reserveOrder hnote (orderOf deps env e call) _ (fun reserved => ?_) _ _ _
          exact Prog.performsS_bind (settling_submitReserved deps _ _ _ _) fun _ =>
            Prog.performsS_modify _

/-- What an observer of reservations sees of a turn is after its call of `authorize`. -/
theorem notedS_processEntry (hnote : ∀ x o db, Settling o → note x o db = [])
    (hfind : e.state.candidates.find? e.candidate.mint = some e.candidate) :
    Prog.recordedS world.among env note (processEntry deps e.now e.candidate.mint) e.index e.state
      e.shared =
      match preparedCall deps env e with
      | none => []
      | some call => Prog.recordedS world.among env note (decideEntry deps e.now call)
          (e.index + 4) (counted e.state) (storeAfter env e.index 4 e.shared) := by
  have hrun := beforeAuthorize_run deps env hfind
  have hquiet : Prog.recordedS world.among env note
      (beforeAuthorize deps e.now e.candidate.mint) e.index e.state e.shared = [] :=
    Prog.recordedS_of_performs hnote
      ((quiet_beforeAuthorize deps e.now e.candidate.mint).mono settling_of_quiet) _ _ _
  rw [processEntry_eq, Prog.recordedS_bind, hquiet, List.nil_append]
  cases hcall : preparedCall deps env e with
  | none =>
      rw [hcall] at hrun
      rcases hends : Prog.runS world.among env (beforeAuthorize deps e.now e.candidate.mint) e.index
        e.state e.shared with ⟨⟨r, s⟩, db, i⟩
      rw [hends] at hrun
      cases (show r = .ok none from hrun)
      rfl
  | some call =>
      rw [hcall] at hrun
      rw [hrun]

end Noted

open Classical in
/-- The decision reserves the order of the call exactly if it is granted. -/
theorem reservedS_decideEntry (call : EntryCall) :
    Prog.recordedS world.among env reservationAmong (decideEntry deps e.now call) (e.index + 4)
      (counted e.state) (storeAfter env e.index 4 e.shared) =
        if Granted deps env e call then [orderOf deps env e call] else [] := by
  rw [notedS_decideEntry reservationAmong_of_settling]
  change (if Agreed deps e call then
    (if (env (e.index + 6)).1.fault.isNone && ((storeAfter env e.index 7 e.shared).reserveOrder
      (orderOf deps env e call)).1.toOption = some true then [orderOf deps env e call] else [])
    else []) = _
  rw [← ite_and]
  refine if_congr ⟨fun h => ?_, fun h => ⟨⟨h.authorized, h.sizable⟩, ?_⟩⟩ rfl rfl
  · simp only [Bool.and_eq_true, decide_eq_true_eq, Option.isNone_iff_eq_none] at h
    exact ⟨h.1.1, h.1.2, h.2.1, h.2.2⟩
  · simp [h.recorded, h.taken]

/-- The order of an entry passes the checks of the store. -/
theorem checkOrder_entryOrder (ctx : EntryContext) (id : String) (now : Time) :
    Db.checkOrder (entryOrder deps ctx id now) = .ok () := rfl

/-- The store takes an entry whose identifier and key are free. -/
theorem granted_iff {call : EntryCall} (hcandidate : call.candidate = e.candidate)
    (hid : call.signal.id = newId (env (e.index + 1)).1) :
    Granted deps env e call ↔ call.authorize deps (counted e.state).risk e.now = .ok () ∧
      (counted e.state).risk.validatePositionSize call.positionUsd
        deps.config.strategy.stopLossPct = .ok () ∧
      (env (e.index + 6)).1.fault = none ∧
      (storeAfter env e.index 7 e.shared).orders.find? (newId (env (e.index + 5)).1) = none ∧
      ∀ r ∈ (storeAfter env e.index 7 e.shared).orders.rows, r.idempotencyKey ≠
        entryIdempotencyKey deps.sha256 (newId (env (e.index + 1)).1) e.candidate.mint
          call.inputAmountAtomic := by
  have hkey : (orderOf deps env e call).idempotencyKey = entryIdempotencyKey deps.sha256
      (newId (env (e.index + 1)).1) e.candidate.mint call.inputAmountAtomic := by
    rw [← hcandidate, ← hid]
    rfl
  have htaken := reserveOrder_accepts_iff (storeAfter env e.index 7 e.shared) (orderOf deps env e call)
  rw [hkey] at htaken
  constructor
  · intro h
    exact ⟨h.authorized, h.sizable, h.recorded, (htaken.mp h.taken).2⟩
  · rintro ⟨hauthorized, hsizable, hrecorded, hfree⟩
    exact ⟨hauthorized, hsizable, hrecorded, htaken.mpr ⟨checkOrder_entryOrder _ _ _, hfree⟩⟩

/-- The checks of a turn are those before the risk engine and those from there on. -/
theorem passes_iff (call : EntryCall) :
    Passes deps env e call ↔ preparedCall deps env e = some call ∧ Granted deps env e call := by
  rw [preparedCall_eq_some, preparedRequest_eq_some]
  unfold EntryCall.request
  dsimp only
  constructor
  · intro h
    refine ⟨⟨⟨h.candidate, h.screened, h.accepted, h.unseen, h.sized, h.positive, h.capped⟩, ?_⟩, ?_⟩
    · rw [h.candidate]
      exact h.quoted
    rw [granted_iff h.candidate (id_of_accepted h.accepted)]
    exact ⟨h.authorized, h.sizable, h.recorded, h.idFree, h.keyFree⟩
  · rintro ⟨⟨⟨hcandidate, hscreened, haccepted, hunseen, hsized, hpositive, hcapped⟩, hquoted⟩,
      hgranted⟩
    rw [hcandidate] at hquoted
    rw [granted_iff hcandidate (id_of_accepted haccepted)] at hgranted
    obtain ⟨hauthorized, hsizable, hrecorded, hid, hkey⟩ := hgranted
    exact ⟨hcandidate, hscreened, haccepted, hunseen, hsized, hpositive, hcapped, hquoted, hauthorized,
      hsizable, hrecorded, hid, hkey⟩

/-- **A turn over a record reserves an order exactly if all of its checks pass**, and no other
order than that one. -/
theorem reservedAt_eq (deps : Deps) (env : ℕ → Env × (Db → Db))
    (hfind : e.state.candidates.find? e.candidate.mint = some e.candidate) :
    (∀ call, Passes deps env e call → reservedAt deps env e = [orderOf deps env e call]) ∧
      ((∀ call, ¬ Passes deps env e call) → reservedAt deps env e = []) := by
  unfold reservedAt
  rw [notedS_processEntry reservationAmong_of_settling hfind]
  constructor
  · intro call h
    rw [passes_iff] at h
    rw [h.1]
    exact (reservedS_decideEntry call).trans (if_pos h.2)
  · intro h
    cases hcall : preparedCall deps env e with
    | none => rfl
    | some call =>
        have hnot : ¬ Granted deps env e call := fun hgranted =>
          h call ((passes_iff call).mpr ⟨hcall, hgranted⟩)
        exact (reservedS_decideEntry call).trans (if_neg hnot)

end Runs

end SolanaBot.Analysis
