import SolanaBot.Analysis.EntryIdempotency
import SolanaBot.Analysis.Interlocks
import SolanaBot.Analysis.KillSwitch
import SolanaBot.Analysis.LossCooldown
import SolanaBot.Analysis.RaisedCosts
import SolanaBot.Analysis.SessionFields

/-!
# What an entry has been checked for

An entry is reserved at the end of a cascade of checks, and some of them were made earlier in the
tick, on a state that has changed since. `Admitted` collects what holds of the order and of the state
in which its turn begins, in terms of the configuration. Every entry that a session ever reserves is
admitted, in every interleaving, with any failures and any answers of the outside world
(`entries_admitted`).
-/

set_option autoImplicit false

namespace SolanaBot.Analysis

open SolanaBot.Library SolanaBot.Model

/-- The wallets of a record that were scored before its market was observed. -/
def scoredInTime (c : CandidateInput) : List WalletStats :=
  c.wallets.filter fun w => w.updatedAt ≤ c.market.observedAt

/-- The net return that the cost model of a record leaves of its expected gross return. -/
def ExpectsNet (config : Config) (c : CandidateInput) (net : Decimal) : Prop :=
  ∃ expected : ExpectedValue, expected.netReturnPct = net ∧
    ExpectedValue.estimate c.expectedGrossReturnPct c.costs 0 0
      config.economics.uncertaintyHaircutPct = .ok expected

/-- The limits on the USD size of an entry. -/
structure SizeAdmitted (config : Config) (s : SessionState) (c : CandidateInput) (impactBps : UInt32)
    (usd : Decimal) : Prop where
  /-- The limits of the risk engine, for the number of positions that are open now. -/
  limits : OtherLimitsPassed (counted s).risk usd c.market.liquidityUsd
    config.execution.slippageBps.toUInt32 impactBps
  capital : usd ≤ config.risk.maxLiveCapitalUsd
  /-- What is lost at the stop-loss stays below the risk of one trade. -/
  stopLoss : 0 < config.strategy.stopLossPct
  atRisk : usd * config.strategy.stopLossPct ≤
    s.risk.state.equityUsd * config.risk.maxRiskPerTradePercent

/-- What an entry has been checked for: the record `c` at the time `now` of the tick and the time `t` of
the signal, in the state `s` of the session. -/
structure Admitted (config : Config) (s : SessionState) (c : CandidateInput) (now t : Time)
    (impactBps : UInt32) (order : OrderRecord) : Prop where
  /-- The limits are the configured ones. -/
  configured : s.risk.config = config.risk
  running : s.emergencyActive = false
  single : NotOpen c.mint s.portfolio
  fresh : numSeconds (now - c.detectionTimestamp) ≤ config.rpc.maxDataAgeSecs
  costs : ValidCosts c.costs.input ∧ costPct c.costs.input ≤ config.economics.roundTripCostThresholdPct
  priced : c.costs.input.positionSizeUsd = c.positionUsd
  signal : ∃ net, ExpectsNet config c net ∧
    PassesRules config (scoredInTime c) c.market c.safety t net
  size : ∃ usd, order.inputValueUsd = some usd ∧ SizeAdmitted config s c impactBps usd
  order : order.mint = c.mint ∧ order.kind = .entry ∧ order.side = .buy ∧ order.state = .pending ∧
    order.inputMint = some config.strategy.baseMint ∧ order.outputMint = some c.mint

/-! ## The state of a turn -/

section Turns

variable {deps : Deps} {env : ℕ → Env × (Db → Db)}

/-- The turns before an evaluation preserve an invariant of the runs. -/
theorem preserves_evaluating {I E : SessionState → Db → Prop}
    {R : Env × (Db → Db) → Op → Db → Prop} (h : RunInvariant world.among env R I E deps) (k : ℕ) :
    Preserves world.among env R I E (evaluating deps k) := by
  refine preserves_bind (preserves_entryGate h.toQuietInvariant deps) fun entering => ?_
  cases entering with
  | false => exact preserves_pure _
  | true =>
      exact preserves_bind (preserves_look h.toQuietInvariant (performs_call rfl)) fun now =>
        preserves_bind preserves_get fun s =>
        preserves_bind (preserves_look h.toQuietInvariant (performs_call rfl)) fun mints =>
        preserves_bind (preserves_foldlM _ (fun _ mint => preserves_processEntry h.toTickInvariant now mint)
          _) fun _ => preserves_pure _

/-- A session up to an evaluation preserves it. -/
theorem preserves_untilEvaluation {I E : SessionState → Db → Prop}
    {R : Env × (Db → Db) → Op → Db → Prop} (h : RunInvariant world.among env R I E deps) (n k : ℕ) :
    Preserves world.among env R I E (untilEvaluation deps n k) :=
  preserves_bind (preserves_sessionStart h) fun _ => preserves_bind (preserves_sessionTicks h n) fun _ =>
    preserves_bind (preserves_beforeEntries h) fun _ => preserves_evaluating h k

/-- A turn begins in the state with which the run up to it ends. -/
theorem run_of_evaluationOf {r : (Except String (Option (Time × String)) × SessionState) × Db × ℕ}
    {e : Evaluation Db} (h : evaluationOf r = some e) :
    e.state = r.1.2 ∧ ∃ begun, r.1.1 = .ok (some begun) := by
  unfold evaluationOf at h
  split at h
  · obtain ⟨c, -, rfl⟩ := Option.map_eq_some_iff.mp h
    exact ⟨rfl, _, rfl⟩
  · cases h

/-- Whatever every move of the risk engine keeps holds at every turn. -/
theorem risk_of_evaluation {I : RiskEngine → Prop} (hI : ∀ r r', RiskMove r r' → I r → I r')
    {n k i : ℕ} {s : SessionState} {db : Db} (hs : I s.risk) {e : Evaluation Db}
    (h : evaluationOf (Prog.runS world.among env (untilEvaluation deps n k) i s db) = some e) :
    I e.state.risk := by
  have hends := Prog.Triple.ends (preserves_untilEvaluation
    (sessionInvariant_of_moves world.among env (fun _ _ _ => True) hI deps).run n k) hs
    (Prog.always_of_forall (fun _ _ _ => trivial) _ i db)
  rw [(run_of_evaluationOf h).1]
  exact hends

/-- A triple about what a run reaches without an error. -/
abbrev ArrivesWith {α : Type} (env : ℕ → Env × (Db → Db)) (P : SessionState → Prop) (p : Session α)
    (Q : α → SessionState → Prop) : Prop :=
  Prog.Triple world.among env Unrestricted Unrestricted (fun s _ => P s) p (fun a s _ => Q a s)
    fun _ _ => True

/-- Every part arrives somewhere. -/
theorem arrives_any {α : Type} (p : Session α) : ArrivesWith env (fun _ => True) p fun _ _ => True :=
  Prog.triple_of_ops p fun _ _ _ _ _ => ⟨trivial, trivial⟩

/-- What keeps a field arrives with its value. -/
theorem arrives_of_keepsField {α γ : Type} {f : SessionState → γ} {v : γ} {p : Session α}
    (h : KeepsField world.among env f v p) : ArrivesWith env (fun s => f s = v) p fun _ s => f s = v :=
  h.conseq (fun _ _ hs => hs) (fun _ _ _ hs => hs) fun _ _ _ => trivial

/-- A session that makes entries has not been stopped. -/
theorem arrives_entryGate : ArrivesWith env (fun _ => True) (entryGate deps)
    fun entering s => entering = true → s.emergencyActive = false := by
  refine Prog.triple_get_bind fun s => ?_
  split
  · exact Prog.triple_pure fun _ _ _ hentering => by cases hentering
  · rename_i hgate
    refine (Prog.triple_bind (arrives_of_keepsField
      (keepsField_orStop (f := SessionState.emergencyActive) (v := false) Store.incompleteOrders))
      fun incomplete => Prog.triple_pure fun _ _ hs _ => hs).conseq ?_ (fun _ _ _ hs => hs)
      fun _ _ hs => hs
    rintro l db ⟨rfl, -⟩
    rw [Bool.or_eq_true, not_or] at hgate
    exact Bool.eq_false_of_not_eq_true hgate.1

/-- An evaluation begins only if the session is not stopped. -/
theorem arrives_evaluating (k : ℕ) : ArrivesWith env (fun _ => True) (evaluating deps k)
    fun begun s => begun.isSome = true → s.emergencyActive = false := by
  refine Prog.triple_bind arrives_entryGate fun entering => ?_
  cases entering with
  | false => exact Prog.triple_pure fun _ _ _ hbegun => by cases hbegun
  | true =>
      have hkeeps : KeepsField world.among env SessionState.emergencyActive false (do
          let now ← look clock
          let mints ← look (hashOrder ((← get).candidates.rows.map CandidateInput.mint))
          (mints.val.take k).foldlM (fun _ mint => processEntry deps now mint) ()
          return mints.val[k]?.map fun mint => (now, mint)) :=
        keepsField_bind (keepsField_look _) fun now => keepsField_bind keepsField_get fun s =>
          keepsField_bind (keepsField_look _) fun mints =>
          keepsField_bind (keepsField_foldlM _ (fun _ mint =>
            keepsField_processEntry leftAlone_emergencyActive deps now mint) _) fun _ =>
          keepsField_pure _
      exact (arrives_of_keepsField hkeeps).conseq (fun _ _ hs => hs rfl) (fun _ _ _ hs _ => hs)
        fun _ _ hs => hs

/-- A session that evaluates a candidate is not stopped. -/
theorem running_of_evaluation {n k i : ℕ} {s : SessionState} {db : Db} {e : Evaluation Db}
    (h : evaluationOf (Prog.runS world.among env (untilEvaluation deps n k) i s db) = some e) :
    e.state.emergencyActive = false := by
  have harrives : ArrivesWith env (fun _ => True) (untilEvaluation deps n k)
      fun begun s => begun.isSome = true → s.emergencyActive = false :=
    Prog.triple_bind (arrives_any _) fun _ => Prog.triple_bind (arrives_any _) fun _ =>
      Prog.triple_bind (arrives_any _) fun _ => arrives_evaluating k
  obtain ⟨hstate, begun, hok⟩ := run_of_evaluationOf h
  rw [hstate]
  exact harrives.of_ok trivial (Prog.always_of_forall (fun _ _ _ => trivial) _ i db) hok rfl

/-! ## From the checks to the limits -/

/-- What the two size checks of the risk engine say. -/
theorem Passes.sizeAdmitted {e : Evaluation Db} {call : EntryCall} (h : Passes deps env e call)
    (hcool : e.state.risk.state.cooldownUntil = none) (hconfig : e.state.risk.config = deps.config.risk) :
    SizeAdmitted deps.config e.state e.candidate call.quote.priceImpactBps call.positionUsd := by
  have hlimits := (authorize_ok_iff (r := (counted e.state).risk) hcool).mp h.authorized
  rw [h.candidate] at hlimits
  have hsizable := h.sizable
  unfold RiskEngine.validatePositionSize RiskEngine.maxPositionUsd at hsizable
  by_cases hstop : deps.config.strategy.stopLossPct ≤ 0
  · rw [if_pos hstop] at hsizable
    cases hsizable
  · rw [if_neg hstop] at hsizable
    have hpositive : 0 < deps.config.strategy.stopLossPct := not_le.mp hstop
    dsimp only at hsizable
    split at hsizable
    · cases hsizable
    · rename_i hsize
      refine ⟨hlimits, h.capped, hpositive, ?_⟩
      have hrisk := (le_div_iff₀ hpositive).mp (not_lt.mp hsize)
      rw [← hconfig]
      exact hrisk

/-- **A turn that passes its checks admits its order.** -/
theorem Passes.admitted {e : Evaluation Db} {call : EntryCall} (h : Passes deps env e call)
    (hconfig : e.state.risk.config = deps.config.risk)
    (hcool : e.state.risk.state.cooldownUntil = none) (hrunning : e.state.emergencyActive = false) :
    Admitted deps.config e.state e.candidate e.now (env e.index).1.clock call.quote.priceImpactBps
      (orderOf deps env e call) := by
  obtain ⟨hopen, hfresh, -, -, hpriced, hgate, hestimate, hwallets⟩ :=
    screenCandidate_eq_some_iff.mp h.screened
  obtain ⟨-, hcosts⟩ := authorizeEntry_eq_ok_iff.mp hgate
  have hrules := (evaluateSignal_accepted_iff e.candidate.mint call.screened.expected _).mp
    ⟨_, h.accepted⟩
  rw [hwallets] at hrules
  exact
    { configured := hconfig
      running := hrunning
      single := Bool.eq_false_of_not_eq_true hopen
      fresh := not_lt.mp hfresh
      costs := hcosts
      priced := hpriced
      signal := ⟨_, ⟨_, rfl, hestimate⟩, hrules⟩
      size := ⟨_, rfl, h.sizeAdmitted hcool hconfig⟩
      order := ⟨congrArg CandidateInput.mint h.candidate, rfl, rfl, rfl, rfl,
        congrArg (fun c : CandidateInput => some c.mint) h.candidate⟩ }

end Turns

/-- **Every entry is admitted.** In every run of a session among other tasks, every entry that is ever
reserved comes from a turn over a candidate record that passed all checks: the session was not
stopped, nothing was open in the mint, the record was fresh, its costs were valid and below the
threshold, the strategy's rules passed, and the size kept all configured limits, with the price impact
of the quote that the executor has answered in that turn for the amount of the order. -/
theorem entries_admitted (deps : Deps) (env : ℕ → Env × (Db → Db)) (i : ℕ) (stored : List Position)
    (db : Db) (ticks : ℕ) :
    ∀ order ∈ Prog.recordedS world.among env entryNote (sessionBody deps ticks) i
      (newSessionState deps (Portfolio.empty.load stored)) db,
    ∃ n < ticks, ∃ k e amount quote, evaluationOf (Prog.runS world.among env (untilEvaluation deps n k)
        i (newSessionState deps (Portfolio.empty.load stored)) db) = some e ∧
      order.inputAmountAtomic = some amount ∧
      ((env (e.index + 3)).1.answer (.quote deps.config.strategy.baseMint e.candidate.mint amount
        deps.config.execution.slippageBps) : Except ExecutionError Quote) = .ok quote ∧
      Admitted deps.config e.state e.candidate e.now (env e.index).1.clock quote.priceImpactBps
        order := by
  intro order horder
  obtain ⟨n, hn, k, e, heval, hmem⟩ := session_entries i _ db ticks horder
  have hconfig : e.state.risk.config = deps.config.risk :=
    risk_of_evaluation (I := fun r => r.config = deps.config.risk)
      (fun _ _ hmove h => hmove.config.trans h) rfl heval
  have hcool : e.state.risk.state.cooldownUntil = none :=
    risk_of_evaluation (I := fun r => r.state.cooldownUntil = none)
      (fun _ _ hmove h => hmove.cooldown.trans h) rfl heval
  obtain ⟨hpass, hnone⟩ := reservedAt_eq deps env (find?_of_evaluationOf heval)
  by_cases hcall : ∃ call, Passes deps env e call
  · obtain ⟨call, hpasses⟩ := hcall
    rw [hpass call hpasses, List.mem_singleton] at hmem
    subst hmem
    exact ⟨n, hn, k, e, _, _, heval, rfl, hpasses.quoted,
      hpasses.admitted hconfig hcool (running_of_evaluation heval)⟩
  · rw [hnone (not_exists.mp hcall)] at hmem
    cases hmem

/-- The entry of a record that is refused by the executor. -/
theorem entries_admitted_sample :
    ∃ order ∈ Prog.recordedS world.among refusedSession.env entryNote (sessionBody feedDeps 1) 0
      (newSessionState feedDeps (Portfolio.empty.load [])) Db.new,
    ∃ n < 1, ∃ k e amount quote, evaluationOf (Prog.runS world.among refusedSession.env
        (untilEvaluation feedDeps n k) 0 (newSessionState feedDeps (Portfolio.empty.load [])) Db.new) =
          some e ∧
      order.inputAmountAtomic = some amount ∧
      ((refusedSession.env (e.index + 3)).1.answer (.quote feedDeps.config.strategy.baseMint
        e.candidate.mint amount feedDeps.config.execution.slippageBps) : Except ExecutionError Quote) =
          .ok quote ∧
      Admitted feedDeps.config e.state e.candidate e.now (refusedSession.env e.index).1.clock
        quote.priceImpactBps order := by
  have hsome : 0 < (Prog.recordedS world.among refusedSession.env entryNote (sessionBody feedDeps 1) 0
      (newSessionState feedDeps (Portfolio.empty.load [])) Db.new).length := by
    unfold Prog.recordedS
    decide +kernel
  obtain ⟨order, horder⟩ := List.exists_mem_of_length_pos hsome
  exact ⟨order, horder, entries_admitted feedDeps refusedSession.env 0 [] Db.new 1 order horder⟩

end SolanaBot.Analysis
