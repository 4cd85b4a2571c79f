import SolanaBot.Analysis.EntryEvaluations

/-!
# How often a record is entered

A bot runs session after session, and evaluates a candidate record in many turns. The key of an entry
is computed from an identifier that is drawn in the turn itself, so that it tells nothing about the
turns before: the store can tell two turns apart, and never that they are about one record. A record is
entered once and under one key exactly if no turn over it gets as far as the store after one that did
(`entry_idempotent_iff`): the checks before the store are all that stops a second entry.
-/

set_option autoImplicit false

namespace SolanaBot.Analysis

open SolanaBot.Library SolanaBot.Model

/-! ## Sessions and their turns -/

/-- A session among others: what its operations meet, the positions that it starts with, its store,
and the tick and the turn before which it is stopped. -/
structure SessionRun where
  env : ℕ → Env × (Db → Db)
  index : ℕ
  stored : List Position
  db : Db
  stopTick : ℕ
  stopTurn : ℕ

/-- A turn over a candidate: the session, the tick and the place in the tick. -/
structure TurnPoint where
  session : ℕ
  tick : ℕ
  turn : ℕ
deriving DecidableEq

/-- The turns in their order. -/
def TurnPoint.Before (p q : TurnPoint) : Prop :=
  p.session < q.session ∨ p.session = q.session ∧
    (p.tick < q.tick ∨ p.tick = q.tick ∧ p.turn < q.turn)

/-- Of two turns one comes first. -/
theorem TurnPoint.before_or_before {p q : TurnPoint} (h : p ≠ q) : p.Before q ∨ q.Before p := by
  obtain ⟨session, tick, turn⟩ := p
  obtain ⟨session', tick', turn'⟩ := q
  unfold TurnPoint.Before
  rw [ne_eq, TurnPoint.mk.injEq] at h
  dsimp only
  omega

/-- A turn does not come before itself. -/
theorem TurnPoint.Before.ne {p q : TurnPoint} (h : p.Before q) : p ≠ q := by
  rintro rfl
  unfold TurnPoint.Before at h
  omega

/-- The turn over a record, if the session gets there. -/
def SessionRun.evaluation (deps : Deps) (run : SessionRun) (n k : ℕ) : Option (Evaluation Db) :=
  if n < run.stopTick ∨ n = run.stopTick ∧ k < run.stopTurn then
    evaluationOf (Prog.runS world.among run.env (untilEvaluation deps n k) run.index
      (newSessionState deps (Portfolio.empty.load run.stored)) run.db)
  else none

section Session

variable {deps : Deps} {env : ℕ → Env × (Db → Db)}

/-- What an observer sees reserved who looks at entries only. -/
abbrev entryNote (x : Env × (Db → Db)) (o : Op) (db : Db) : List OrderRecord :=
  (reservationAmong x o db).filter fun order => order.kind = .entry

/-- What reserves no entry is not noted as one. -/
theorem entryNote_of_noEntry (x : Env × (Db → Db)) (o : Op) (db : Db) (h : NoEntry o) :
    entryNote x o db = [] := by
  cases o with
  | reserveOrder seen order =>
      have hkind : order.kind ≠ .entry := of_decide_eq_false h
      unfold entryNote reservationAmong reservation
      dsimp only
      split
      · simp [hkind]
      · rfl
  | _ => rfl

/-- The entry of a turn is the one that its record reserves. -/
theorem turn_entries {now : Time} {mint : String} {i : ℕ} {s : SessionState} {db : Db}
    {order : OrderRecord}
    (h : order ∈ Prog.recordedS world.among env entryNote (processEntry deps now mint) i s db) :
    ∃ e, evaluationOf ((.ok (some (now, mint)), s), db, i) = some e ∧
      order ∈ reservedAt deps env e := by
  cases hfind : s.candidates.find? mint with
  | none =>
      unfold processEntry at h
      rw [Prog.recordedS_get_bind, hfind] at h
      cases h
  | some c =>
      have hmint : c.mint = mint := Table.find?_key hfind
      refine ⟨⟨now, c, i, s, db⟩, ?_, ?_⟩
      · unfold evaluationOf
        dsimp only
        rw [hfind]
        rfl
      · have hfilter := @Prog.recorded_filter _ _ _ _ _ _ world.among env reservationAmong
          (fun order => order.kind = .entry) ((ExceptT.run (processEntry deps now mint)).run s) i db
        change order ∈ Prog.recorded world.among env entryNote _ i db at h
        rw [hfilter] at h
        unfold reservedAt
        dsimp only
        rw [hmint]
        exact (List.mem_filter.mp h).1

/-- Every entry of the stage was reserved in the turn over a candidate. -/
theorem makeEntries_entries (i : ℕ) (s : SessionState) (db : Db) {order : OrderRecord}
    (h : order ∈ Prog.recordedS world.among env entryNote (makeEntries deps) i s db) :
    ∃ k e, evaluationOf (Prog.runS world.among env (evaluating deps k) i s db) = some e ∧
      order ∈ reservedAt deps env e := by
  have hgate : Prog.PerformsS NoEntry (entryGate deps) := performs_entryGate deps rfl
  unfold makeEntries at h
  rw [Prog.recordedS_bind, Prog.recordedS_of_performs entryNote_of_noEntry hgate,
    List.nil_append] at h
  rcases hrun : Prog.runS world.among env (entryGate deps) i s db with ⟨⟨r, s₁⟩, db₁, i₁⟩
  rw [hrun] at h
  rcases r with x | ⟨_ | _⟩
  · cases h
  · cases h
  · dsimp only at h
    rw [if_pos rfl] at h
    unfold processEntries at h
    -- the clock and the order of the candidates come first, and reserve nothing
    change order ∈ Prog.recordedS world.among env entryNote (monadLift clock >>= _) i₁ s₁ db₁ at h
    rw [Prog.recordedS_lift_bind, Prog.recordedS_get_bind] at h
    change order ∈ [] ++ Prog.recordedS world.among env entryNote
      (monadLift (hashOrder _) >>= _) _ _ _ at h
    rw [List.nil_append, Prog.recordedS_lift_bind] at h
    change order ∈ [] ++ _ at h
    rw [List.nil_append, Prog.recordedS_foldlM] at h
    obtain ⟨turn, hturn, horder⟩ := List.mem_flatMap.mp h
    obtain ⟨k, helem, hbefore⟩ := Prog.turns_get _ _ _ _ _ turn hturn
    obtain ⟨e, heval, hmem⟩ := turn_entries horder
    refine ⟨k, e, ?_, hmem⟩
    unfold evaluating
    rw [Prog.runS_bind, hrun]
    dsimp only
    rw [if_pos rfl, among_look, Prog.runS_get_bind, among_look, Prog.runS_bind, hbefore]
    dsimp only
    rw [helem]
    exact heval

/-- Every entry of a tick was reserved in such a turn. -/
theorem tick_entries (i : ℕ) (s : SessionState) (db : Db) {order : OrderRecord}
    (h : order ∈ Prog.recordedS world.among env entryNote (tick deps) i s db) :
    ∃ k e, evaluationOf (Prog.runS world.among env (do beforeEntries deps; evaluating deps k) i s db) =
      some e ∧ order ∈ reservedAt deps env e := by
  rw [tick_eq_entries, Prog.recordedS_bind,
    Prog.recordedS_of_performs entryNote_of_noEntry (noEntry_beforeEntries deps), List.nil_append] at h
  rcases hrun : Prog.runS world.among env (beforeEntries deps) i s db with ⟨⟨r, s'⟩, db', i'⟩
  rw [hrun] at h
  cases r with
  | error x => cases h
  | ok u =>
      obtain ⟨k, e, heval, hmem⟩ := makeEntries_entries i' s' db' h
      refine ⟨k, e, ?_, hmem⟩
      rw [Prog.runS_bind, hrun]
      exact heval

/-- The persistence after a tick reserves nothing. -/
theorem tickAndPersist_entries (i : ℕ) (s : SessionState) (db : Db) {order : OrderRecord}
    (h : order ∈ Prog.recordedS world.among env entryNote (tickAndPersist deps) i s db) :
    order ∈ Prog.recordedS world.among env entryNote (tick deps) i s db := by
  change order ∈ Prog.recordedS world.among env entryNote
    (look ((tick deps).run.run s) >>= fun r => set r.2 >>= fun _ => persistSessionState) i s db at h
  have hrest : ∀ r : Except String Unit × SessionState, Prog.PerformsS NoEntry
      (set r.2 >>= fun _ => persistSessionState : Session Unit) := fun r =>
    Prog.performsS_bind (Prog.performsS_set _) fun _ => noEntry_persistSessionState
  have hsplit := @Prog.recordedS_lift_bind _ _ _ _ _ _ _ _ _ world.among env entryNote
    ((tick deps).run.run s) (fun r => set r.2 >>= fun _ => persistSessionState) i s db
  rw [Prog.recordedS_of_performs entryNote_of_noEntry (hrest _), List.append_nil] at hsplit
  exact hsplit.subst (motive := fun l => order ∈ l) h

/-- Every entry of the ticks was reserved in such a turn of one of them. -/
theorem sessionTicks_entries (ticks : ℕ) (i : ℕ) (s : SessionState) (db : Db) {order : OrderRecord}
    (h : order ∈ Prog.recordedS world.among env entryNote (sessionTicks deps ticks) i s db) :
    ∃ n < ticks, ∃ k e, evaluationOf (Prog.runS world.among env
      (do sessionTicks deps n; beforeEntries deps; evaluating deps k) i s db) = some e ∧
        order ∈ reservedAt deps env e := by
  induction ticks generalizing i s db with
  | zero => cases h
  | succ ticks ih =>
      rw [sessionTicks_succ, Prog.recordedS_bind] at h
      rcases List.mem_append.mp h with hhere | hlater
      · obtain ⟨k, e, heval, hmem⟩ := tick_entries i s db (tickAndPersist_entries i s db hhere)
        exact ⟨0, Nat.succ_pos _, k, e, heval, hmem⟩
      · rcases hrun : Prog.runS world.among env (tickAndPersist deps) i s db with ⟨⟨r, s'⟩, db', i'⟩
        rw [hrun] at hlater
        cases r with
        | error x => cases hlater
        | ok u =>
            obtain ⟨n, hn, k, e, heval, hmem⟩ := ih i' s' db' hlater
            refine ⟨n + 1, Nat.succ_lt_succ hn, k, e, ?_, hmem⟩
            rw [sessionTicks_succ, bind_assoc, Prog.runS_bind, hrun]
            exact heval

/-- Every entry that a session reserves is reserved in a turn over a record. -/
theorem session_entries (i : ℕ) (s : SessionState) (db : Db) (ticks : ℕ) {order : OrderRecord}
    (h : order ∈ Prog.recordedS world.among env entryNote (sessionBody deps ticks) i s db) :
    ∃ n < ticks, ∃ k e, evaluationOf
      (Prog.runS world.among env (untilEvaluation deps n k) i s db) = some e ∧
        order ∈ reservedAt deps env e := by
  rw [sessionBody_eq, Prog.recordedS_bind, Prog.recordedS_of_performs entryNote_of_noEntry
    ((background_sessionStart deps).mono fun _ => Background.noEntry), List.nil_append] at h
  rcases hrun : Prog.runS world.among env (sessionStart deps) i s db with ⟨⟨r, s'⟩, db', i'⟩
  rw [hrun] at h
  cases r with
  | error x => cases h
  | ok u =>
      have hfinal : ∀ u : Unit, Prog.PerformsS NoEntry (finalReconciliation deps) := fun _ =>
        (background_finalReconciliation deps).mono fun _ => Background.noEntry
      dsimp only at h
      rw [Prog.recordedS_bind_of_performs entryNote_of_noEntry _ hfinal] at h
      obtain ⟨n, hn, k, e, heval, hmem⟩ := sessionTicks_entries ticks i' s' db' h
      refine ⟨n, hn, k, e, ?_, hmem⟩
      unfold untilEvaluation
      rw [Prog.runS_bind, hrun]
      exact heval

end Session

/-! ## The key of a turn -/

section Turn

variable {deps : Deps} {env : ℕ → Env × (Db → Db)} {e : Evaluation Db}

/-- All checks of a turn pass that come before the store. -/
structure Cleared (deps : Deps) (env : ℕ → Env × (Db → Db)) (e : Evaluation Db) (call : EntryCall) :
    Prop where
  candidate : call.candidate = e.candidate
  /-- No open position, a fresh record, known decimals, the cost gate and an expected value. -/
  screened : screenCandidate deps.config e.state e.candidate e.now = some call.screened
  /-- The strategy issues a signal with a new identifier. -/
  accepted : evaluateSignal deps.config e.candidate.mint call.screened.wallets e.candidate.market
    e.candidate.safety call.screened.expected (env e.index).1.clock
    (newId (env (e.index + 1)).1) = .accepted call.signal
  unseen : newId (env (e.index + 1)).1 ∉ e.state.seenSignals
  sized : (entrySize deps.config (counted e.state) e.candidate call.screened.tokenDecimals).map
    (fun size => (readAmount (env (e.index + 2)).1 size.1, size.2)) =
      some (call.inputAmountAtomic, call.positionUsd)
  positive : 0 < call.positionUsd
  capped : call.positionUsd ≤ deps.config.risk.maxLiveCapitalUsd
  quoted : ((env (e.index + 3)).1.answer (.quote deps.config.strategy.baseMint e.candidate.mint
    call.inputAmountAtomic deps.config.execution.slippageBps) : Except ExecutionError Quote) =
      .ok call.quote
  agreed : Agreed deps e call

/-- The checks before the store are those before the risk engine and its own. -/
theorem cleared_iff (call : EntryCall) :
    Cleared deps env e call ↔ preparedCall deps env e = some call ∧ Agreed deps e call := by
  rw [preparedCall_eq_some, preparedRequest_eq_some]
  unfold EntryCall.request
  dsimp only
  constructor
  · intro h
    refine ⟨⟨⟨h.candidate, h.screened, h.accepted, h.unseen, h.sized, h.positive, h.capped⟩, ?_⟩,
      h.agreed⟩
    rw [h.candidate]
    exact h.quoted
  · rintro ⟨⟨⟨hcandidate, hscreened, haccepted, hunseen, hsized, hpositive, hcapped⟩, hquoted⟩, hagreed⟩
    rw [hcandidate] at hquoted
    exact ⟨hcandidate, hscreened, haccepted, hunseen, hsized, hpositive, hcapped, hquoted, hagreed⟩

/-- A turn that passes all checks passes those before the store. -/
theorem cleared_of_passes {call : EntryCall} (h : Passes deps env e call) : Cleared deps env e call := by
  obtain ⟨hcall, hgranted⟩ := (passes_iff call).mp h
  exact (cleared_iff call).mpr ⟨hcall, hgranted.authorized, hgranted.sizable⟩

/-- What an observer notes who looks at the keys with which the store is asked. -/
def keyNote (_ : Env × (Db → Db)) (o : Op) (_ : Db) : List String :=
  match o with
  | .reserveOrder _ order => [order.idempotencyKey]
  | _ => []

/-- A settling operation asks for no key. -/
theorem keyNote_of_settling (x : Env × (Db → Db)) (o : Op) (db : Db) (h : Settling o) :
    keyNote x o db = [] := by
  cases o with
  | reserveOrder seen order => exact h.elim
  | _ => rfl

/-- The keys with which a turn asks the store. -/
def askedAt (deps : Deps) (env : ℕ → Env × (Db → Db)) (e : Evaluation Db) : List String :=
  Prog.recordedS world.among env keyNote (processEntry deps e.now e.candidate.mint) e.index e.state
    e.shared

/-- **A turn asks the store under one key, if its checks get so far**, and under none otherwise. -/
theorem askedAt_eq (deps : Deps) (env : ℕ → Env × (Db → Db))
    (hfind : e.state.candidates.find? e.candidate.mint = some e.candidate) :
    (∀ call, Cleared deps env e call →
        askedAt deps env e = [(orderOf deps env e call).idempotencyKey]) ∧
      ((∀ call, ¬ Cleared deps env e call) → askedAt deps env e = []) := by
  unfold askedAt
  rw [notedS_processEntry keyNote_of_settling hfind]
  constructor
  · intro call h
    obtain ⟨hcall, hagreed⟩ := (cleared_iff call).mp h
    rw [hcall]
    dsimp only
    rw [notedS_decideEntry keyNote_of_settling, if_pos hagreed]
    rfl
  · intro h
    cases hcall : preparedCall deps env e with
    | none => rfl
    | some call =>
        have hnot : ¬ Agreed deps e call := fun hagreed =>
          h call ((cleared_iff call).mpr ⟨hcall, hagreed⟩)
        dsimp only
        rw [notedS_decideEntry keyNote_of_settling, if_neg hnot]

end Turn

section History

variable (deps : Deps) (history : ℕ → SessionRun) (c : CandidateInput)

/-- The turn over the record. -/
def evaluationAt (p : TurnPoint) : Option (Evaluation Db) :=
  ((history p.session).evaluation deps p.tick p.turn).filter fun e => e.candidate = c

/-- The entries that are reserved in the turn over the record. -/
def entriesAt (p : TurnPoint) : List OrderRecord :=
  match evaluationAt deps history c p with
  | none => []
  | some e => reservedAt deps (history p.session).env e

/-- The keys with which the turn over the record asks the store. -/
def keysAt (p : TurnPoint) : List String :=
  match evaluationAt deps history c p with
  | none => []
  | some e => askedAt deps (history p.session).env e

/-- The turn over the record passes the checks before the store. -/
def ClearedAt (p : TurnPoint) : Prop :=
  ∃ e ∈ evaluationAt deps history c p, ∃ call, Cleared deps (history p.session).env e call

/-- In all turns together at most one entry is reserved for the record, and the key with which the
store is asked does not depend on the turn. -/
structure EntryIdempotent : Prop where
  once : ∀ ps : List TurnPoint, ps.Nodup → (ps.flatMap (entriesAt deps history c)).length ≤ 1
  sameKey : ∀ p q, ∀ key ∈ keysAt deps history c p, ∀ key' ∈ keysAt deps history c q, key = key'

/-- Different turns draw identifiers that lead to different keys: what a fresh identifier and a digest
are used for. -/
def FreshKeys : Prop :=
  ∀ p q, p ≠ q → ∀ key ∈ keysAt deps history c p, key ∉ keysAt deps history c q

variable {deps history c}

/-- The record of a turn is found under its mint. -/
theorem find?_of_evaluationAt {p : TurnPoint} {e : Evaluation Db}
    (h : evaluationAt deps history c p = some e) :
    e.state.candidates.find? e.candidate.mint = some e.candidate := by
  have hsome := (Option.filter_eq_some_iff.mp h).1
  unfold SessionRun.evaluation at hsome
  split at hsome
  · exact find?_of_evaluationOf hsome
  · cases hsome

/-- A turn asks the store under one key if it is cleared. -/
theorem keysAt_of_cleared {p : TurnPoint} (h : ClearedAt deps history c p) :
    ∃ key, keysAt deps history c p = [key] := by
  obtain ⟨e, heval, call, hcleared⟩ := h
  have heval : evaluationAt deps history c p = some e := heval
  have hasked := (askedAt_eq deps (history p.session).env (find?_of_evaluationAt heval)).1 call hcleared
  refine ⟨_, Eq.trans ?_ hasked⟩
  unfold keysAt
  rw [heval]

/-- A turn that is not cleared does not ask the store. -/
theorem keysAt_of_not_cleared {p : TurnPoint} (h : ¬ ClearedAt deps history c p) :
    keysAt deps history c p = [] := by
  unfold keysAt
  cases heval : evaluationAt deps history c p with
  | none => rfl
  | some e =>
      exact (askedAt_eq deps _ (find?_of_evaluationAt heval)).2 fun call hcleared =>
        h ⟨e, heval, call, hcleared⟩

/-- A turn reserves at most one order, and none if it is not cleared. -/
theorem length_entriesAt (p : TurnPoint) :
    (entriesAt deps history c p).length ≤ 1 ∧
      (¬ ClearedAt deps history c p → (entriesAt deps history c p).length = 0) := by
  unfold entriesAt ClearedAt
  cases heval : evaluationAt deps history c p with
  | none => exact ⟨Nat.zero_le 1, fun _ => rfl⟩
  | some e =>
      obtain ⟨hone, hnone⟩ := reservedAt_eq deps (history p.session).env (find?_of_evaluationAt heval)
      dsimp only
      by_cases hpasses : ∃ call, Passes deps (history p.session).env e call
      · obtain ⟨call, hcall⟩ := hpasses
        rw [hone call hcall]
        exact ⟨le_rfl, fun h => absurd ⟨e, rfl, call, cleared_of_passes hcall⟩ h⟩
      · rw [hnone fun call hcall => hpasses ⟨call, hcall⟩]
        exact ⟨Nat.zero_le 1, fun _ => rfl⟩

/-- If no turn gets as far as the store after one that did, the record is entered once and under one
key, whatever identifiers are drawn. -/
theorem idempotent_of_cleared_once
    (h : ∀ p q : TurnPoint, p.Before q → ClearedAt deps history c p → ¬ ClearedAt deps history c q) :
    EntryIdempotent deps history c := by
  have hone : ∀ p q : TurnPoint, p ≠ q → ¬ ClearedAt deps history c p ∨ ¬ ClearedAt deps history c q := by
    intro p q hne
    rcases TurnPoint.before_or_before hne with hpq | hqp
    · exact or_iff_not_imp_left.mpr fun hp => h p q hpq (not_not.mp hp)
    · exact or_iff_not_imp_right.mpr fun hq => h q p hqp (not_not.mp hq)
  refine ⟨?_, fun p q key hkey key' hkey' => ?_⟩
  · refine length_flatMap_le_one_iff.mpr ⟨fun p => (length_entriesAt p).1, fun p q hne => ?_⟩
    have hp := @length_entriesAt deps history c p
    have hq := @length_entriesAt deps history c q
    rcases hone p q hne with hnot | hnot
    · rw [hp.2 hnot, Nat.zero_add]
      exact hq.1
    · rw [hq.2 hnot, Nat.add_zero]
      exact hp.1
  · by_cases hpq : p = q
    · subst hpq
      by_cases hcleared : ClearedAt deps history c p
      · obtain ⟨k, hk⟩ := keysAt_of_cleared hcleared
        rw [hk, List.mem_singleton] at hkey hkey'
        rw [hkey, hkey']
      · rw [keysAt_of_not_cleared hcleared] at hkey
        cases hkey
    · rcases hone p q hpq with hnot | hnot
      · rw [keysAt_of_not_cleared hnot] at hkey
        cases hkey
      · rw [keysAt_of_not_cleared hnot] at hkey'
        cases hkey'

/-- **Entries of a record.** In every history of sessions, whatever each of them finds in its store
and wherever it is stopped: the record is entered at most once, and under a key that does not depend on
the turn, exactly if no turn over it gets as far as the store after one that did. -/
theorem entry_idempotent_iff (deps : Deps) (history : ℕ → SessionRun) (c : CandidateInput)
    (hfresh : FreshKeys deps history c) :
    EntryIdempotent deps history c ↔ ∀ p q : TurnPoint, p.Before q → ClearedAt deps history c p →
      ¬ ClearedAt deps history c q := by
  refine ⟨fun h p q hbefore hp hq => ?_, idempotent_of_cleared_once⟩
  obtain ⟨key, hkey⟩ := keysAt_of_cleared hp
  obtain ⟨key', hkey'⟩ := keysAt_of_cleared hq
  have hsame : key = key' := h.sameKey p q key (by simp [hkey]) key' (by simp [hkey'])
  exact hfresh p q hbefore.ne key (by simp [hkey]) (by simp [hkey', hsame])

end History

/-! ## A record that is delivered again -/

/-- The sample world with a record in its feed, in which everything is executed, and new identifiers
are drawn at every step. -/
def executingAnswer (j : ℕ) : (o : Op) → Res o
  | .newUuid => "id-" ++ toString j
  | o => feedAnswer [tradableRecord] o

/-- A session in that world, stopped after its first turn. -/
def enteringSession : SessionRun :=
  { env := fun j => ({ sampleEnv with answer := executingAnswer j }, id)
    index := 0, stored := [], db := Db.new, stopTick := 0, stopTurn := 1 }

/-- What the session leaves behind. -/
def enteredEnd : (Except String Unit × SessionState) × Db × ℕ :=
  Prog.runS world.among enteringSession.env (do sessionStart feedDeps; sessionTicks feedDeps 1)
    enteringSession.index (newSessionState feedDeps (Portfolio.empty.load [])) enteringSession.db

/-- The session, and a second one with the store that it leaves behind. -/
def enteredHistory (session : ℕ) : SessionRun :=
  match session with
  | 0 => enteringSession
  | 1 => { enteringSession with
      index := enteredEnd.2.2, db := enteredEnd.2.1, stored := enteredEnd.2.1.positions.rows }
  | _ => { enteringSession with stopTurn := 0 }

/-- Only the first turn of the first session asks the store. -/
theorem keysAt_enteredHistory {p : TurnPoint} {key : String}
    (h : key ∈ keysAt feedDeps enteredHistory tradableRecord p) : p = ⟨0, 0, 0⟩ := by
  obtain ⟨session, tick, turn⟩ := p
  have hturn : ∀ run : SessionRun, ¬ (tick < run.stopTick ∨ tick = run.stopTick ∧
      turn < run.stopTurn) → enteredHistory session = run → False := by
    intro run hstopped hrun
    unfold keysAt evaluationAt SessionRun.evaluation at h
    dsimp only at h
    rw [hrun, if_neg hstopped] at h
    cases h
  match session with
  | 0 =>
      have hfirst : tick = 0 ∧ turn = 0 := by
        by_contra hlater
        exact hturn enteringSession (by simp [enteringSession]; omega) rfl
      rw [hfirst.1, hfirst.2]
  | 1 =>
      have hfirst : tick = 0 ∧ turn = 0 := by
        by_contra hlater
        exact hturn (enteredHistory 1) (by simp [enteredHistory, enteringSession]; omega) rfl
      rw [hfirst.1, hfirst.2] at h
      have hnone : keysAt feedDeps enteredHistory tradableRecord ⟨1, 0, 0⟩ = [] := by decide +kernel
      rw [hnone] at h
      cases h
  | session + 2 =>
      exact (hturn (enteredHistory (session + 2)) (by simp [enteredHistory, enteringSession]) rfl).elim

/-- The second session evaluates the record again, and finds its position open. -/
theorem entry_idempotent_iff_sample :
    EntryIdempotent feedDeps enteredHistory tradableRecord ∧
      (entriesAt feedDeps enteredHistory tradableRecord ⟨0, 0, 0⟩).length = 1 ∧
      (evaluationAt feedDeps enteredHistory tradableRecord ⟨1, 0, 0⟩).isSome = true := by
  refine ⟨(entry_idempotent_iff feedDeps enteredHistory tradableRecord ?_).mpr ?_, ?_, ?_⟩
  · intro p q hne key hp hq
    exact hne ((keysAt_enteredHistory hp).trans (keysAt_enteredHistory hq).symm)
  · intro p q hbefore hp hq
    obtain ⟨key, hkey⟩ := keysAt_of_cleared hp
    obtain ⟨key', hkey'⟩ := keysAt_of_cleared hq
    have hfirst : p = ⟨0, 0, 0⟩ := @keysAt_enteredHistory p key (by simp [hkey])
    have hsecond : q = ⟨0, 0, 0⟩ := @keysAt_enteredHistory q key' (by simp [hkey'])
    exact hbefore.ne (hfirst.trans hsecond.symm)
  · decide +kernel
  · decide +kernel

/-! ## A record that is entered again -/

/-- The sample world with a record in its feed that refuses every execution, and new identifiers at
every step. -/
def refusingAnswer (j : ℕ) : (o : Op) → Res o
  | .newUuid => "id-" ++ toString j
  | .execute _ => .error (.policy "refused")
  | o => feedAnswer [tradableRecord] o

/-- A session of one tick in that world. -/
def refusedSession : SessionRun :=
  { env := fun j => ({ sampleEnv with answer := refusingAnswer j }, id)
    index := 0, stored := [], db := Db.new, stopTick := 1, stopTurn := 0 }

/-- What the session leaves behind. -/
def refusedEnd : (Except String Unit × SessionState) × Db × ℕ :=
  Prog.runS world.among refusedSession.env (do sessionStart feedDeps; sessionTicks feedDeps 1)
    refusedSession.index (newSessionState feedDeps (Portfolio.empty.load [])) refusedSession.db

/-- The session, and a second one with the store that it leaves behind. -/
def restartedHistory (session : ℕ) : SessionRun :=
  match session with
  | 0 => refusedSession
  | 1 => { refusedSession with index := refusedEnd.2.2, db := refusedEnd.2.1 }
  | _ => { refusedSession with stopTick := 0 }

/-- After its execution has failed, the record is entered again by the next session, under another
key. -/
theorem entered_again :
    ¬ EntryIdempotent feedDeps restartedHistory tradableRecord ∧
      ([⟨0, 0, 0⟩, ⟨1, 0, 0⟩].flatMap (entriesAt feedDeps restartedHistory tradableRecord)).map
        (fun o => (o.kind, o.signalId)) = [(.entry, "id-24"), (.entry, "id-60")] := by
  have htwo : ¬ ([⟨0, 0, 0⟩, ⟨1, 0, 0⟩].flatMap
      (entriesAt feedDeps restartedHistory tradableRecord)).length ≤ 1 := by decide +kernel
  exact ⟨fun h => htwo (h.once [⟨0, 0, 0⟩, ⟨1, 0, 0⟩] (by decide)), by decide +kernel⟩

end SolanaBot.Analysis
