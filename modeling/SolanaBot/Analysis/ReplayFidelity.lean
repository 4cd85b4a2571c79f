import Mathlib.Tactic.FieldSimp
import Mathlib.Tactic.Linarith
import Mathlib.Tactic.NormNum
import Mathlib.Tactic.Positivity
import Mathlib.Tactic.Ring
import SolanaBot.Analysis.EntryEvaluations
import SolanaBot.Analysis.SessionFields
import SolanaBot.Model.Replay

/-!
# What replay mode makes of a record

Ingestion registers a quote for a record of the feed, and the turn over the record asks for one. The
quote is registered under the record's input amount, and asked for under the integer that the text of
its USD size is; its output amount is in units of `10 ^ 9` whatever the decimals of the token. The
record is replayed at its market price exactly if neither makes a difference (`replay_fidelity_iff`).
-/

set_option autoImplicit false

namespace SolanaBot.Analysis

open SolanaBot.Library SolanaBot.Model

/-! ## Prices -/

/-- The atomic units of a token that a USD value buys at a price. -/
def atomsAt (usd price : Decimal) (decimals : UInt8) : Decimal := usd / price * 10 ^ decimals.toNat

/-- The tokens of a record in units of `10 ^ 9`. -/
theorem rawTokens_eq (c : CandidateInput) : rawTokens c = c.positionUsd / c.market.priceUsd * 10 ^ 9 := by
  unfold rawTokens
  ring

/-- `n` units of `10 ^ 9` are as many units of `10 ^ d`, up to one, in two cases only. -/
theorem scaled_close_iff {n : ℕ} (hn : 0 < n) (d : ℕ) :
    |(n : ℚ) / 10 ^ 9 * 10 ^ d - n| ≤ 1 ↔ d = 9 ∨ d < 9 ∧ n = 1 := by
  have hone : (1 : ℚ) ≤ n := by exact_mod_cast hn
  have hten : ∀ k : ℕ, k ≠ 0 → (10 : ℚ) ≤ 10 ^ k := fun k hk => by
    calc (10 : ℚ) = 10 ^ 1 := (pow_one 10).symm
      _ ≤ 10 ^ k := pow_le_pow_right₀ (by norm_num) (Nat.one_le_iff_ne_zero.mpr hk)
  rcases lt_trichotomy d 9 with hlt | heq | hgt
  · -- fewer decimals: at most a tenth of the units is left
    have hscale : (n : ℚ) / 10 ^ 9 * 10 ^ d = n / 10 ^ (9 - d) := by
      have hsplit : (10 : ℚ) ^ 9 = 10 ^ (9 - d) * 10 ^ d := by
        rw [← pow_add, Nat.sub_add_cancel hlt.le]
      rw [hsplit]
      field_simp
    have hleft : (0 : ℚ) < n / 10 ^ (9 - d) := div_pos (by linarith) (by positivity)
    have htenth : (n : ℚ) / 10 ^ (9 - d) ≤ n / 10 :=
      div_le_div_of_nonneg_left (by linarith) (by norm_num) (hten _ (by omega))
    rw [hscale, abs_sub_comm, abs_of_nonneg (by linarith)]
    constructor
    · intro h
      have hsmall : (n : ℚ) < 2 := by linarith
      have hnat : n < 2 := by exact_mod_cast hsmall
      exact .inr ⟨hlt, by omega⟩
    · rintro (rfl | ⟨-, rfl⟩)
      · exact absurd hlt (lt_irrefl 9)
      · rw [Nat.cast_one] at *
        linarith
  · subst heq
    simp
  · -- more decimals: there are at least nine times as many units too many
    have hscale : (n : ℚ) / 10 ^ 9 * 10 ^ d = n * 10 ^ (d - 9) := by
      have hsplit : (10 : ℚ) ^ d = 10 ^ 9 * 10 ^ (d - 9) := by
        rw [← pow_add, Nat.add_sub_cancel' hgt.le]
      rw [hsplit]
      field_simp
    have hmany : (n : ℚ) * 10 ≤ n * 10 ^ (d - 9) :=
      mul_le_mul_of_nonneg_left (hten _ (by omega)) (by linarith)
    rw [hscale]
    constructor
    · intro h
      have := (abs_le.mp h).2
      linarith
    · rintro (rfl | ⟨hlt, -⟩)
      · exact absurd hgt (lt_irrefl 9)
      · exact absurd hlt (Nat.lt_asymm hgt)

/-! ## The quote of a record -/

/-- The key under which the quote of a record is registered. -/
def recordKey (deps : Deps) (c : CandidateInput) : String × String × UInt64 × UInt16 :=
  (deps.config.strategy.baseMint, c.mint, c.inputAmount, 0)

/-- The quote is the one that a record is registered with: its route, and the tokens that its value
buys at its market price. -/
structure QuoteOf (deps : Deps) (c : CandidateInput) (q : Quote) : Prop where
  key : quoteKey q = recordKey deps c
  outputAmount : dec q.outputAmount = rawTokens c
  positive : 0 < q.outputAmount

/-- The executor has the quote of the record. -/
def QuoteRegistered (deps : Deps) (c : CandidateInput) (x : DeterministicExecutor) : Prop :=
  ∃ q, x.quotes.find? (recordKey deps c) = some q ∧ QuoteOf deps c q

/-- Registering the quote of a record. -/
theorem quoteRegistered_self {deps : Deps} {c : CandidateInput} (x : DeterministicExecutor) {q : Quote}
    (hq : QuoteOf deps c q) : QuoteRegistered deps c (x.registerQuote q) := by
  refine ⟨q, ?_, hq⟩
  rw [DeterministicExecutor.find?_registerQuote, if_pos hq.key.symm]

/-- The quotes of other mints do not take its place. -/
theorem QuoteRegistered.other {deps : Deps} {c : CandidateInput} {x : DeterministicExecutor}
    (h : QuoteRegistered deps c x) {q : Quote} (hmint : q.outputMint ≠ c.mint) :
    QuoteRegistered deps c (x.registerQuote q) := by
  obtain ⟨r, hfind, hr⟩ := h
  refine ⟨r, ?_, hr⟩
  have hkey : recordKey deps c ≠ quoteKey q := fun heq => hmint (congrArg (fun k => k.2.1) heq).symm
  rw [DeterministicExecutor.find?_registerQuote, if_neg hkey]
  exact hfind

/-! ## Ingestion -/

section Ingestion

variable {deps : Deps} {env : ℕ → Env × (ReplayState → ReplayState)}
  (hothers : ∀ i x, ((env i).2 x).executor = x.executor)

/-- A triple of replay mode about the session and the executor. Nothing is said after an error. -/
def Replays {α : Type} (env : ℕ → Env × (ReplayState → ReplayState))
    (P : SessionState → DeterministicExecutor → Prop) (p : Session α)
    (Q : α → SessionState → DeterministicExecutor → Prop) : Prop :=
  Prog.Triple replayWorld.among env Unrestricted Unrestricted (fun s x => P s x.executor) p
    (fun a s x => Q a s x.executor) fun _ _ => True

section Rules

variable {α β : Type} {P : SessionState → DeterministicExecutor → Prop}

/-- A value replays. -/
theorem replays_pure {a : α} {Q : α → SessionState → DeterministicExecutor → Prop}
    (h : ∀ s x, P s x → Q a s x) : Replays env P (pure a) Q :=
  Prog.triple_pure fun s x hs => h s x.executor hs

/-- An error replays anything. -/
theorem replays_throw {e : String} {Q : α → SessionState → DeterministicExecutor → Prop} :
    Replays env P (throw e) Q :=
  Prog.triple_throw fun _ _ _ => trivial

/-- Two parts replay one after the other. -/
theorem replays_bind {p : Session α} {f : α → Session β}
    {M : α → SessionState → DeterministicExecutor → Prop}
    {Q : β → SessionState → DeterministicExecutor → Prop} (hp : Replays env P p M)
    (hf : ∀ a, Replays env (M a) (f a) Q) : Replays env P (p >>= f) Q :=
  Prog.triple_bind hp hf

/-- Reading the session's state replays. -/
theorem replays_get {Q : SessionState → SessionState → DeterministicExecutor → Prop}
    (h : ∀ s x, P s x → Q s s x) : Replays env P get Q :=
  Prog.triple_get fun s x hs => h s x.executor hs

/-- A change of the session's state replays. -/
theorem replays_modify {g : SessionState → SessionState}
    {Q : PUnit → SessionState → DeterministicExecutor → Prop}
    (h : ∀ s x, P s x → Q ⟨⟩ (g s) x) : Replays env P (modify g) Q :=
  Prog.triple_modify fun s x hs => h s x.executor hs

/-- A loop replays what its turns have done. -/
theorem replays_foldlM_done {f : β → α → Session β}
    {J : List α → SessionState → DeterministicExecutor → Prop}
    (h : ∀ done b a, Replays env (J done) (f b a) fun _ => J (done ++ [a])) (as : List α) (b : β) :
    Replays env (J []) (as.foldlM f b) fun _ => J as :=
  Prog.triple_foldlM_done (J := fun done s (x : ReplayState) => J done s x.executor) h as b

/-- Whatever a part of a session does. -/
theorem replays_any {α : Type} (p : Session α) :
    Replays env (fun _ _ => True) p fun _ _ _ => True :=
  (Prog.triple_of_ops (I := fun _ => True) p fun _ _ _ _ _ => ⟨trivial, trivial⟩).conseq
    (fun _ _ _ => trivial) (fun _ _ _ _ => trivial) fun _ _ _ => trivial

/-- A tick begins its ingestion without candidates. -/
theorem replays_beforeIngestion :
    Replays env (fun _ _ => True) (beforeIngestion deps) fun _ s _ => s.candidates = Table.empty _ :=
  replays_bind (replays_any _) fun _ => replays_bind
    (replays_bind (replays_any _) fun _ => replays_bind (replays_any _) fun _ =>
      replays_bind (replays_any _) fun _ => replays_bind (replays_any _) fun _ =>
      replays_bind (replays_any _) fun _ => replays_bind (replays_any _) fun _ =>
      replays_modify fun _ _ _ => rfl) fun _ => replays_pure fun _ _ hs => hs

end Rules

/-- An operation that registers no quote leaves the executor. -/
theorem executor_replayExec {e : Env} {o : Op} {x : ReplayState} (h : KeepsQuotes o) :
    (replayExec e o x).2.executor = x.executor := by
  cases o with
  | registerQuote q => cases h
  | _ => rfl

include hothers

/-- What leaves the quotes alone keeps what is known about the executor. -/
theorem replays_look {α : Type} {J : SessionState → DeterministicExecutor → Prop}
    {t : Model.Task α} (ht : t.Performs KeepsQuotes) : Replays env J (look t) fun _ => J :=
  Prog.triple_lift fun s => Prog.task_of_performs ht fun i o x ho _ hx => by
    refine ⟨trivial, ?_⟩
    change J s (replayExec (env i).1 o ((env i).2 x)).2.executor
    rw [executor_replayExec ho, hothers]
    exact hx

/-- A registered quote is that of the record, if its tokens are read exactly. -/
theorem replays_registerQuote {J J' : SessionState → DeterministicExecutor → Prop}
    (c : CandidateInput) (tokens : UInt64) (impactBps : UInt32) (source : String) (now : Time)
    (h : ∀ s x q, q.outputMint = c.mint →
      (dec tokens = rawTokens c → 0 < tokens → QuoteOf deps c q) → J s x → J' s (x.registerQuote q)) :
    Replays env J (registerQuote deps c tokens impactBps source now) fun _ => J' := by
  refine replays_bind (M := fun _ => J')
    (Prog.triple_lift fun s => Prog.task_perform fun i x hx _ => ⟨trivial, ?_⟩) fun _ =>
    replays_pure fun _ _ hx => hx
  refine h s ((env i).2 x).executor _ rfl (fun hraw hpos => ⟨rfl, hraw, hpos⟩) ?_
  rw [hothers]
  exact hx

/-- The token amount of a record is the one that its value buys. -/
theorem replays_tokenAmount {J : SessionState → DeterministicExecutor → Prop} (c : CandidateInput) :
    Replays env J (tokenAmount c) fun v s x => J s x ∧ dec v = rawTokens c ∧ 0 < v := by
  refine replays_bind (replays_look hothers (performs_call rfl)) fun n => ?_
  split
  · rename_i v hv
    obtain ⟨hval, hpos⟩ := Option.filter_eq_some_iff.mp hv
    exact replays_pure fun _ _ hx => ⟨hx, n.property v hval, of_decide_eq_true hpos⟩
  · exact replays_throw

/-- The records of the feed up to a point: the last one of its mint has its quote. -/
def FeedRegistered (deps : Deps) (c : CandidateInput) (done : List CandidateInput) (s : SessionState)
    (x : DeterministicExecutor) : Prop :=
  s.candidates = Table.empty _ ∧
    ((done.foldl Table.put (Table.empty CandidateInput.mint)).find? c.mint = some c →
      QuoteRegistered deps c x)

/-- A turn over the feed. -/
theorem replays_ingestFeedCandidate {p : Decimal} (hsol : deps.config.economics.solPriceUsd = some p)
    (hp : 0 < p) (now : Time) (c r : CandidateInput) (done : List CandidateInput) :
    Replays env (FeedRegistered deps c done) (ingestFeedCandidate deps now r)
      fun _ => FeedRegistered deps c (done ++ [r]) := by
  refine replays_bind (replays_look hothers (performs_call rfl)) fun _ => ?_
  rw [hsol]
  dsimp only
  rw [if_neg (not_le_of_gt hp)]
  split
  · refine replays_bind (replays_tokenAmount hothers r) fun tokens =>
      replays_bind (replays_look hothers (performs_call rfl)) fun impact => ?_
    split
    · exact replays_throw
    · refine replays_registerQuote hothers r tokens _ _ now ?_
      rintro s x q hmint hquote ⟨⟨hempty, hdone⟩, hraw, hpos⟩
      refine ⟨hempty, fun hlast => ?_⟩
      rw [List.foldl_append, List.foldl_cons, List.foldl_nil, Table.find?_put] at hlast
      by_cases hsame : c.mint = r.mint
      · rw [if_pos hsame] at hlast
        cases hlast
        exact quoteRegistered_self x (hquote hraw hpos)
      · rw [if_neg hsame] at hlast
        exact (hdone hlast).other fun heq => hsame (heq.symm.trans hmint)
  · exact replays_throw

/-- The candidates of a tick: the quote of the record is registered if it is the one of its mint. -/
def CandidateRegistered (deps : Deps) (c : CandidateInput) (s : SessionState)
    (x : DeterministicExecutor) : Prop :=
  s.candidates.find? c.mint = some c → QuoteRegistered deps c x

/-- After the ingestion of the feed every candidate is registered. -/
theorem replays_ingestFeed {p : Decimal} (hsol : deps.config.economics.solPriceUsd = some p)
    (hp : 0 < p) (now : Time) (c : CandidateInput) :
    Replays env (fun s _ => s.candidates = Table.empty _) (ingestFeed deps now)
      fun _ => CandidateRegistered deps c := by
  have hstart : ∀ (s : SessionState) (x : DeterministicExecutor), s.candidates = Table.empty _ →
      CandidateRegistered deps c s x := by
    intro s x hempty hfind
    rw [hempty] at hfind
    cases hfind
  unfold ingestFeed
  split
  · exact replays_pure hstart
  · refine replays_bind (replays_look hothers (performs_call rfl)) fun cs =>
      replays_bind (M := fun _ => FeedRegistered deps c cs) ?_ fun _ =>
      replays_modify fun s x hs hlast => ?_
    · have hloop : Replays env (FeedRegistered deps c [])
          (cs.foldlM (fun _ r => ingestFeedCandidate deps now r) ()) fun _ => FeedRegistered deps c cs :=
        replays_foldlM_done (fun done _ r => replays_ingestFeedCandidate hothers hsol hp now c r done)
          cs ()
      exact hloop.conseq (fun s x hs => ⟨hs, fun hfind => (by cases hfind)⟩) (fun _ _ _ hs => hs)
        fun _ _ hs => hs
    · refine hs.2 ?_
      unfold insertCandidates at hlast
      dsimp only at hlast
      rwa [hs.1] at hlast

/-- A turn over a record of the wallet monitor, which has no price to register a quote with. -/
theorem replays_ingestMonitorCandidate (K : DeterministicExecutor → Prop) (now : Time)
    (r : CandidateInput) :
    Replays env (fun s x => s.solPriceUsd = none ∧ K x) (ingestMonitorCandidate deps now r)
      fun _ s x => s.solPriceUsd = none ∧ K x := by
  refine replays_bind (replays_look hothers (performs_call rfl)) fun _ =>
    replays_bind (replays_get (Q := fun l s x => l.solPriceUsd = none ∧ s.solPriceUsd = none ∧ K x)
      fun s x hs => ⟨hs.1, hs⟩) fun l => ?_
  cases hprice : l.solPriceUsd with
  | none => exact replays_pure fun _ _ hs => hs.2
  | some price => exact fun _ _ _ hs => (by cases hs.1)

/-- The wallet monitor registers no quotes. -/
theorem replays_ingestWalletMonitor (K : DeterministicExecutor → Prop) (now : Time) :
    Replays env (fun s x => s.solPriceUsd = none ∧ K x) (ingestWalletMonitor deps now)
      fun _ _ => K := by
  refine replays_bind (replays_get (Q := fun _ s x => s.solPriceUsd = none ∧ K x) fun _ _ hs => hs)
    fun s => ?_
  split
  · refine replays_bind (replays_look hothers (performs_call rfl)) fun answer => ?_
    split
    · exact replays_pure fun _ _ hs => hs.2
    · rename_i cs
      exact replays_bind (replays_foldlM_done (J := fun _ s x => s.solPriceUsd = none ∧ K x)
        (fun _ _ r => replays_ingestMonitorCandidate hothers K now r) cs ()) fun _ =>
        replays_modify fun _ _ hs => hs.2
  · exact replays_pure fun _ _ hs => hs.2

end Ingestion

/-! ## From the ingestion to the request -/

/-- The rest of a tick after the ingestion, up to the request in the turn `k`, if it gets there. -/
def requesting (deps : Deps) (k : ℕ) : Session (Option EntryRequest) := do
  markEquity deps
  processExits deps
  match ← evaluating deps k with
  | none => return none
  | some (now, mint) => untilRequest deps now mint

section Requests

variable (deps : Deps)

/-- Up to its request a turn registers no quote. -/
theorem keepsQuotes_untilRequest (now : Time) (mint : String) :
    Prog.PerformsS KeepsQuotes (untilRequest deps now mint) := by
  refine Prog.performsS_bind Prog.performsS_get fun s => ?_
  split
  · exact Prog.performsS_pure _
  · refine Prog.performsS_bind Prog.performsS_get fun s => ?_
    split
    · exact Prog.performsS_pure _
    · refine Prog.performsS_bind (performsS_look (performs_call rfl)) fun t =>
        Prog.performsS_bind (performsS_look (performs_call rfl)) fun uuid => ?_
      split
      · exact Prog.performsS_pure _
      · refine Prog.performsS_bind Prog.performsS_get fun s => ?_
        split
        · exact Prog.performsS_pure _
        · refine Prog.performsS_bind (Prog.performsS_modify _) fun _ =>
            Prog.performsS_bind Prog.performsS_get fun s =>
            Prog.performsS_bind (performsS_look (performs_sizeEntry (fun _ => rfl) _ _ _ _))
              fun sized => ?_
          split
          · exact Prog.performsS_pure _
          · split <;> exact Prog.performsS_pure _

/-- No turn gives the executor a quote. -/
theorem keepsQuotes_processEntry (now : Time) (mint : String) :
    Prog.PerformsS KeepsQuotes (processEntry deps now mint) := by
  rw [processEntry_eq]
  have hbefore : Prog.PerformsS KeepsQuotes (beforeAuthorize deps now mint) :=
    performs_beforeAuthorize (S := KeepsQuotes) deps rfl rfl (fun _ => rfl) (fun _ _ _ _ => rfl) now mint
  refine Prog.performsS_bind hbefore fun call => ?_
  cases call with
  | none => exact Prog.performsS_pure _
  | some call =>
      refine Prog.performsS_bind Prog.performsS_get fun s => ?_
      dsimp only
      split
      · exact Prog.performsS_pure _
      · split
        · exact Prog.performsS_pure _
        · refine Prog.performsS_bind (performsS_look (performs_call rfl)) fun positionId =>
            Prog.performsS_bind (performsS_look (performs_call rfl)) fun id =>
            Prog.performsS_bind (performsS_orStop (performs_call rfl)) fun reserved =>
            Prog.performsS_bind (performs_submitReserved (S := KeepsQuotes) deps (fun _ _ => rfl)
              (fun _ => rfl) (fun _ => rfl) (fun _ => rfl) _ _ _ _) fun _ => Prog.performsS_modify _

/-- The turns before it register none. -/
theorem keepsQuotes_evaluating (k : ℕ) : Prog.PerformsS KeepsQuotes (evaluating deps k) := by
  refine Prog.performsS_bind (performs_entryGate deps rfl) fun entering => ?_
  split
  · exact Prog.performsS_bind (performsS_look (performs_call rfl)) fun now =>
      Prog.performsS_bind Prog.performsS_get fun s =>
      Prog.performsS_bind (performsS_look (performs_call rfl)) fun mints =>
      Prog.performsS_bind (Prog.performsS_foldlM _ (fun _ mint => keepsQuotes_processEntry deps now mint) _)
        fun _ => Prog.performsS_pure _
  · exact Prog.performsS_pure _

/-- After the ingestion no quote is registered. -/
theorem keepsQuotes_requesting (k : ℕ) : Prog.PerformsS KeepsQuotes (requesting deps k) := by
  refine Prog.performsS_bind ((exitStage_markEquity deps).mono fun _ h => h.2) fun _ =>
    Prog.performsS_bind ((exitStage_processExits deps).mono fun _ h => h.2) fun _ =>
    Prog.performsS_bind (keepsQuotes_evaluating deps k) fun turn => ?_
  cases turn with
  | none => exact Prog.performsS_pure _
  | some turn => exact keepsQuotes_untilRequest deps turn.1 turn.2

end Requests

/-- The replay answers reads without changing the store. -/
theorem reads_replayWorld : Reads replayWorld :=
  ⟨fun _ _ => rfl, fun _ _ => rfl, fun _ _ _ => rfl⟩

/-- In replay mode the USD size of an entry is the one of the record. -/
theorem entrySize_replay {config : Config} (hmode : config.mode = .replay) (s : SessionState)
    (c : CandidateInput) (tokenDecimals : UInt8) :
    entrySize config s c tokenDecimals = some (c.positionUsd, c.positionUsd) := by
  unfold entrySize
  rw [if_neg (by rw [hmode]; exact Mode.noConfusion)]

/-- A request is made in the turn over its record, right after the text of its size was read. -/
theorem request_origin {deps : Deps} (hmode : deps.config.mode = .replay)
    {env : ℕ → Env × (ReplayState → ReplayState)} {i k j : ℕ} {s₁ s : SessionState}
    {x₁ x : ReplayState} {r : EntryRequest}
    (hrun : Prog.runS replayWorld.among env (requesting deps k) i s₁ x₁ = ((.ok (some r), s), x, j)) :
    r.candidate.tokenDecimals = some r.screened.tokenDecimals ∧
      r.candidate.baseMintDecimals = some r.screened.baseMintDecimals ∧
      r.inputAmountAtomic = readAmount (env (j - 1)).1 r.candidate.positionUsd ∧
      0 < r.candidate.positionUsd := by
  obtain ⟨-, s₂, x₂, i₂, -, hrest⟩ := Prog.runS_bind_ok _ _ hrun
  obtain ⟨-, s₃, x₃, i₃, -, hrest⟩ := Prog.runS_bind_ok _ _ hrest
  obtain ⟨turn, s₄, x₄, i₄, -, hturn⟩ := Prog.runS_bind_ok _ _ hrest
  cases turn with
  | none => cases hturn
  | some turn =>
      obtain ⟨now, mint⟩ := turn
      cases hfind : s₄.candidates.find? mint with
      | none =>
          have hnone : Prog.runS replayWorld.among env (untilRequest deps now mint) i₄ s₄ x₄ =
              ((.ok none, s₄), x₄, i₄) := by
            unfold untilRequest
            rw [Prog.runS_get_bind, hfind]
            rfl
          rw [hnone] at hturn
          cases hturn
      | some c =>
          have hmint : c.mint = mint := Table.find?_key hfind
          have hruns := untilRequest_run deps reads_replayWorld env
            (e := ⟨now, c, i₄, s₄, x₄⟩) (by rw [hmint]; exact hfind)
          dsimp only at hturn hruns
          rw [hmint, hturn] at hruns
          cases hprepared : preparedRequest deps env ⟨now, c, i₄, s₄, x₄⟩ with
          | none =>
              rw [hprepared] at hruns
              cases hruns
          | some r' =>
              rw [hprepared] at hruns
              cases hruns
              obtain ⟨hcandidate, hscreened, -, -, hsize, hpositive, -⟩ :=
                (preparedRequest_eq_some deps env _ r).mp hprepared
              rw [entrySize_replay hmode] at hsize
              obtain ⟨hamount, husd⟩ := Prod.mk.inj (Option.some.inj hsize)
              obtain ⟨-, -, htoken, hbase, -⟩ := screenCandidate_eq_some_iff.mp hscreened
              rw [hcandidate]
              rw [← husd] at hpositive
              exact ⟨htoken, hbase, hamount.symm, hpositive⟩

/-! ## The price of the fill -/

/-- The quote that is served for the request of a record is the one it was registered with, and its
fill is priced at the market price of the record, up to one atomic unit of its token. -/
def FaithfulReplay (deps : Deps) (c : CandidateInput) (amount : UInt64) (x : DeterministicExecutor) :
    Prop :=
  ∃ q, x.quote deps.config.strategy.baseMint c.mint amount = .ok q ∧ QuoteOf deps c q ∧
    ∀ r : ExecutionRequest, r.quote = q → c.baseMintDecimals = some r.inputDecimals →
      c.tokenDecimals = some r.outputDecimals → r.valueBasis = .inputValueUsd c.positionUsd →
      ∀ uuid now, ∃ fill, DeterministicExecutor.execute r uuid now = .ok fill ∧
        |atomsAt c.positionUsd c.market.priceUsd r.outputDecimals -
          atomsAt c.positionUsd fill.priceUsd r.outputDecimals| ≤ 1

/-- What replay makes of a record depends on its amounts and its decimals. -/
def Replayable (c : CandidateInput) (amount : UInt64) : Prop :=
  amount = c.inputAmount ∧ ∃ tokenDecimals baseMintDecimals : UInt8,
    c.tokenDecimals = some tokenDecimals ∧ c.baseMintDecimals = some baseMintDecimals ∧
      baseMintDecimals.toNat < 20 ∧
      (tokenDecimals.toNat = 9 ∨ tokenDecimals.toNat < 9 ∧ rawTokens c = 1)

section Pricing

variable {deps : Deps} {c : CandidateInput} {q : Quote} (hq : QuoteOf deps c q)

include hq

/-- The units of a registered quote at its market price. -/
theorem atomsAt_market (decimals : UInt8) :
    atomsAt c.positionUsd c.market.priceUsd decimals =
      (q.outputAmount.toNat : ℚ) / 10 ^ 9 * 10 ^ decimals.toNat := by
  have hraw : (q.outputAmount.toNat : ℚ) = c.positionUsd / c.market.priceUsd * 10 ^ 9 :=
    hq.outputAmount.trans (rawTokens_eq c)
  unfold atomsAt
  rw [hraw, mul_div_assoc, div_self (by norm_num), mul_one]

/-- The units of its fill at the price of the fill. -/
theorem atomsAt_fill (hpositive : 0 < c.positionUsd) (decimals : UInt8) :
    atomsAt c.positionUsd (c.positionUsd / (dec q.outputAmount / 10 ^ decimals.toNat)) decimals =
      q.outputAmount.toNat := by
  have hpow : (0 : ℚ) < 10 ^ decimals.toNat := pow_pos (by norm_num) _
  have hamount : (0 : ℚ) < dec q.outputAmount := by
    have := hq.positive
    unfold dec
    exact_mod_cast this
  unfold atomsAt
  rw [div_div_cancel₀ hpositive.ne', div_mul_cancel₀ _ hpow.ne']
  rfl

/-- The units of the token as a count. -/
theorem outputAmount_pos : 0 < q.outputAmount.toNat := by
  have := hq.positive
  exact this

/-- A record is of one token exactly if its quote is. -/
theorem rawTokens_eq_one_iff : rawTokens c = 1 ↔ q.outputAmount.toNat = 1 := by
  rw [← hq.outputAmount]
  unfold dec
  exact Nat.cast_eq_one

/-- The fill of a purchase at the registered quote. -/
theorem execute_close_iff (hpositive : 0 < c.positionUsd) {r : ExecutionRequest} (hr : r.quote = q)
    (hbasis : r.valueBasis = .inputValueUsd c.positionUsd) (uuid : String) (now : Time) :
    (∃ fill, DeterministicExecutor.execute r uuid now = .ok fill ∧
      |atomsAt c.positionUsd c.market.priceUsd r.outputDecimals -
        atomsAt c.positionUsd fill.priceUsd r.outputDecimals| ≤ 1) ↔
      r.inputDecimals.toNat < 20 ∧
        (r.outputDecimals.toNat = 9 ∨ r.outputDecimals.toNat < 9 ∧ rawTokens c = 1) := by
  rw [rawTokens_eq_one_iff hq]
  have hclose := scaled_close_iff (outputAmount_pos hq) r.outputDecimals.toNat
  constructor
  · rintro ⟨fill, hfill, hprice⟩
    unfold DeterministicExecutor.execute at hfill
    rw [hr, hbasis] at hfill
    cases hpriced : (ValueBasis.inputValueUsd c.positionUsd).priceFill q.inputAmount r.inputDecimals
        q.outputAmount r.outputDecimals with
    | error e =>
        rw [hpriced] at hfill
        cases hfill
    | ok value =>
        obtain ⟨hin, hout, hne⟩ := (ValueBasis.priceFill_isOk_iff _ _ _ _ _).mp ⟨value, hpriced⟩
        rw [ValueBasis.priceFill_inputValueUsd_eq hin hout hne] at hfill
        cases hfill
        rw [atomsAt_market hq, atomsAt_fill hq hpositive] at hprice
        exact ⟨hin, hclose.mp hprice⟩
  · rintro ⟨hin, hout⟩
    have hne : q.outputAmount ≠ 0 := fun hzero => by
      have hpos := outputAmount_pos hq
      rw [hzero] at hpos
      exact absurd hpos (by decide)
    have hlt : r.outputDecimals.toNat < 20 := by omega
    unfold DeterministicExecutor.execute
    rw [hr, hbasis, ValueBasis.priceFill_inputValueUsd_eq hin hlt hne]
    refine ⟨_, rfl, ?_⟩
    rw [atomsAt_market hq, atomsAt_fill hq hpositive]
    exact hclose.mpr hout

end Pricing

/-- An executor with the quote of a record replays it as far as its amounts and decimals allow. -/
theorem faithful_iff {deps : Deps} {c : CandidateInput} {amount : UInt64} {x : DeterministicExecutor}
    (hregistered : QuoteRegistered deps c x) (hpositive : 0 < c.positionUsd)
    (htoken : c.tokenDecimals.isSome) (hbase : c.baseMintDecimals.isSome) :
    FaithfulReplay deps c amount x ↔ Replayable c amount := by
  obtain ⟨tokenDecimals, htoken⟩ := Option.isSome_iff_exists.mp htoken
  obtain ⟨baseMintDecimals, hbase⟩ := Option.isSome_iff_exists.mp hbase
  constructor
  · rintro ⟨q, hserved, hq, hpriced⟩
    have hamount : amount = c.inputAmount := by
      rw [← DeterministicExecutor.inputAmount_of_quote hserved]
      exact congrArg (fun k => k.2.2.1) hq.key
    have hfill := hpriced ⟨"", q, 0, 0, 0, baseMintDecimals, tokenDecimals,
      .inputValueUsd c.positionUsd⟩ rfl hbase htoken rfl "" 0
    obtain ⟨hin, hout⟩ := (execute_close_iff hq hpositive rfl rfl "" 0).mp hfill
    exact ⟨hamount, tokenDecimals, baseMintDecimals, htoken, hbase, hin, hout⟩
  · rintro ⟨rfl, td, bd, htd, hbd, hin, hout⟩
    obtain ⟨q, hfind, hq⟩ := hregistered
    refine ⟨q, (DeterministicExecutor.quote_eq_ok _ _ _ _ _).mpr hfind, hq, ?_⟩
    intro r hr hrbase hrtoken hbasis uuid now
    rw [hbd] at hrbase
    rw [htd] at hrtoken
    cases hrbase
    cases hrtoken
    exact (execute_close_iff hq hpositive hr hbasis uuid now).mpr ⟨hin, hout⟩

/-! ## The run -/

/-- A session up to the feed of the tick `n`. -/
def feeding (deps : Deps) (n : ℕ) : Session Time := do
  sessionStart deps
  sessionTicks deps n
  let now ← beforeIngestion deps
  ingestFeed deps now
  return now

/-- The rest of the tick up to the request in the turn `k`, if it gets there. -/
def requestingAfterFeed (deps : Deps) (now : Time) (k : ℕ) : Session (Option EntryRequest) := do
  ingestWalletMonitor deps now
  requesting deps k

section Run

variable {deps : Deps} {env : ℕ → Env × (ReplayState → ReplayState)} {α : Type}

/-- What a triple of replay mode says about a run that it is started in. -/
theorem Replays.of_run {P : SessionState → DeterministicExecutor → Prop} {p : Session α}
    {Q : α → SessionState → DeterministicExecutor → Prop} (h : Replays env P p Q) {i i' : ℕ}
    {s s' : SessionState} {x x' : ReplayState} {a : α} (hs : P s x.executor)
    (hrun : Prog.runS replayWorld.among env p i s x = ((.ok a, s'), x', i')) : Q a s' x'.executor := by
  have hend := h.of_ok (i := i) (l := s) (s := x) hs (Prog.always_of_forall (fun _ _ _ => trivial) _ _ _)
    (a := a) (by rw [hrun])
  rwa [hrun] at hend

/-- Without a live executor the session has no price when it has read its feed. -/
theorem noPrice_feeding (hlive : deps.live = false) (n : ℕ) (portfolio : Portfolio) {i i' : ℕ}
    {s' : SessionState} {x x' : ReplayState} {now : Time}
    (hrun : Prog.runS replayWorld.among env (feeding deps n) i (newSessionState deps portfolio) x =
      ((.ok now, s'), x', i')) : s'.solPriceUsd = none := by
  have hkeeps : KeepsPrice replayWorld.among env none (feeding deps n) :=
    keepsField_bind (keepsPrice_sessionStart deps) fun _ =>
      keepsField_bind (keepsPrice_sessionTicks hlive n) fun _ =>
      keepsField_bind (keepsPrice_beforeIngestion hlive) fun _ =>
      keepsField_bind (keepsPrice_ingestFeed deps _) fun _ => keepsField_pure _
  have hend := hkeeps.of_ok (i := i) (l := newSessionState deps portfolio) (s := x) rfl
    (Prog.always_of_forall (fun _ _ _ => trivial) _ _ _) (a := now) (by rw [hrun])
  rwa [hrun] at hend

/-- The executor has the quote of a record that the feed delivered. -/
theorem registered_feeding (hothers : ∀ i x, ((env i).2 x).executor = x.executor) {p : Decimal}
    (hsol : deps.config.economics.solPriceUsd = some p) (hp : 0 < p) (n : ℕ) (c : CandidateInput) :
    Replays env (fun _ _ => True) (feeding deps n) fun _ => CandidateRegistered deps c :=
  replays_bind (replays_any _) fun _ => replays_bind (replays_any _) fun _ =>
    replays_bind replays_beforeIngestion fun now =>
    replays_bind (replays_ingestFeed hothers hsol hp now c) fun _ => replays_pure fun _ _ hs => hs

/-- The executor still has it when the request is made. -/
theorem registered_requesting (hothers : ∀ i x, ((env i).2 x).executor = x.executor)
    (c : CandidateInput) (now : Time) (k : ℕ) :
    Replays env (fun s x => s.solPriceUsd = none ∧ QuoteRegistered deps c x)
      (requestingAfterFeed deps now k) fun _ _ x => QuoteRegistered deps c x :=
  replays_bind (replays_ingestWalletMonitor hothers (QuoteRegistered deps c) now) fun _ =>
    (Prog.triple_of_performs (I := fun x : ReplayState => QuoteRegistered deps c x.executor)
      (keepsQuotes_requesting deps k) fun i o x ho _ hx => by
        refine ⟨trivial, ?_⟩
        change QuoteRegistered deps c (replayExec (env i).1 o ((env i).2 x)).2.executor
        rw [executor_replayExec ho, hothers]
        exact hx).conseq (fun _ _ hs => hs) (fun _ _ _ hs => hs) fun _ _ _ => trivial

end Run

/-- **In replay mode a record of the feed is replayed at its market price exactly if the text of its
USD size reads as its input amount, and its token has nine decimals** (or fewer, and its value buys
one unit only). The record was delivered in the tick `n`, and its turn asks for a quote. -/
theorem replay_fidelity_iff (deps : Deps) (hmode : deps.config.mode = .replay)
    (hlive : deps.live = false) {p : Decimal} (hsol : deps.config.economics.solPriceUsd = some p)
    (hp : 0 < p) (env : ℕ → Env × (ReplayState → ReplayState))
    (hothers : ∀ i x, ((env i).2 x).executor = x.executor) (n k : ℕ) (portfolio : Portfolio)
    {i₀ i j : ℕ} {s₁ s : SessionState} {x₀ x₁ x : ReplayState} {now : Time} {c : CandidateInput}
    {r : EntryRequest}
    (hfed : Prog.runS replayWorld.among env (feeding deps n) i₀ (newSessionState deps portfolio) x₀ =
      ((.ok now, s₁), x₁, i)) (hrecord : s₁.candidates.find? c.mint = some c)
    (hrequest : Prog.runS replayWorld.among env (requestingAfterFeed deps now k) i s₁ x₁ =
      ((.ok (some r), s), x, j)) (hc : r.candidate = c) :
    FaithfulReplay deps c r.inputAmountAtomic x.executor ↔
      Replayable c (readAmount (env (j - 1)).1 c.positionUsd) := by
  have hregistered : QuoteRegistered deps c x₁.executor :=
    (registered_feeding hothers hsol hp n c).of_run trivial hfed hrecord
  have hprice := noPrice_feeding hlive n portfolio hfed
  have hkept : QuoteRegistered deps c x.executor :=
    (registered_requesting hothers c now k).of_run ⟨hprice, hregistered⟩ hrequest
  obtain ⟨-, s₂, x₂, i₂, -, hrest⟩ := Prog.runS_bind_ok _ _ hrequest
  obtain ⟨htoken, hbase, hamount, hpositive⟩ := request_origin hmode hrest
  rw [hc] at htoken hbase hamount hpositive
  rw [hamount]
  exact faithful_iff hkept hpositive (by rw [htoken]; rfl) (by rw [hbase]; rfl)

/-! ### Samples -/

/-- The sample bot in replay mode. -/
def replayDeps : Deps :=
  { feedDeps with
    config := { feedDeps.config with
      mode := .replay
      economics := { feedDeps.config.economics with solPriceUsd := some 150 } } }

/-- Every answer is the sample one, with the record in the feed. -/
def replayEnv (c : CandidateInput) : ℕ → Env × (ReplayState → ReplayState) :=
  fun _ => (feedEnv [c], id)

/-- The sample session when it has read its first feed. -/
def fedSession (c : CandidateInput) : (Except String Time × SessionState) × ReplayState × ℕ :=
  Prog.runS replayWorld.among (replayEnv c) (feeding replayDeps 0) 0
    (newSessionState replayDeps Portfolio.empty) ⟨sampleDb, .new⟩

/-- The sample session when it asks for its first quote. -/
def askingSession (c : CandidateInput) :
    (Except String (Option EntryRequest) × SessionState) × ReplayState × ℕ :=
  Prog.runS replayWorld.among (replayEnv c) (requestingAfterFeed replayDeps 0 0) (fedSession c).2.2
    (fedSession c).1.2 (fedSession c).2.1

/-- What the sample session asks for, and the executor that it asks. -/
def askedFor (c : CandidateInput) : Option (EntryRequest × DeterministicExecutor) :=
  match askingSession c with
  | ((.ok (some r), _), x, _) => some (r, x.executor)
  | _ => none

/-- The price of a token at the quote that is served for a request, if one is. -/
def replayedPrice (e : EntryRequest × DeterministicExecutor) : Option Decimal := do
  let q ← (e.2.quote replayDeps.config.strategy.baseMint e.1.candidate.mint
    e.1.inputAmountAtomic).toOption
  let fill ← (DeterministicExecutor.execute ⟨"", q, 0, 0, 0, e.1.screened.baseMintDecimals,
    e.1.screened.tokenDecimals, .inputValueUsd e.1.positionUsd⟩ "" 0).toOption
  return fill.priceUsd

/-- A record worth 10 USD whose token has nine decimals. -/
def nineDecimals : CandidateInput := { tradableRecord with tokenDecimals := some 9 }

/-- The record with six decimals. -/
def sixDecimals : CandidateInput := { tradableRecord with tokenDecimals := some 6 }

/-- The record with its input amount in units of `10 ^ 6`. -/
def microAmount : CandidateInput := { nineDecimals with inputAmount := 10000000 }

/-- What a record is asked for is asked in a session. -/
theorem askingSession_of_askedFor {c : CandidateInput} {r : EntryRequest}
    {executor : DeterministicExecutor} (h : askedFor c = some (r, executor)) :
    ∃ s x j, askingSession c = ((.ok (some r), s), x, j) ∧ executor = x.executor := by
  unfold askedFor at h
  split at h
  · rename_i r' s x j heq
    cases h
    exact ⟨s, x, j, heq, rfl⟩
  · cases h

/-- A record with nine decimals is replayed faithfully. -/
theorem replay_fidelity_iff_sample :
    ∃ r executor, askedFor nineDecimals = some (r, executor) ∧ r.candidate = nineDecimals ∧
      FaithfulReplay replayDeps nineDecimals r.inputAmountAtomic executor := by
  have hasks : (askedFor nineDecimals).any (fun e => decide (e.1.candidate = nineDecimals)) = true := by
    decide +kernel
  obtain ⟨⟨r, executor⟩, hasked, hcandidate⟩ := (Option.any_eq_true _ _).mp hasks
  have hc : r.candidate = nineDecimals := of_decide_eq_true hcandidate
  obtain ⟨s, x, j, hrequest, rfl⟩ := askingSession_of_askedFor hasked
  have hfed : fedSession nineDecimals =
      ((.ok 0, (fedSession nineDecimals).1.2), (fedSession nineDecimals).2) := by
    have hok : (fedSession nineDecimals).1.1 = .ok 0 := by decide +kernel
    rw [← hok]
  refine ⟨r, x.executor, hasked, hc, ?_⟩
  refine (replay_fidelity_iff replayDeps rfl rfl (p := 150) rfl (by norm_num) (replayEnv nineDecimals)
    (fun _ _ => rfl) 0 0 Portfolio.empty hfed (by decide +kernel) hrequest hc).mpr ?_
  have hread : readAmount (feedEnv [nineDecimals]) nineDecimals.positionUsd = nineDecimals.inputAmount := by
    decide +kernel
  exact ⟨hread, 9, 0, rfl, rfl, by decide, .inl rfl⟩

/-- An input amount in units of `10 ^ 6` is not the number of the USD size: the executor has no quote
for the request. With six decimals the quote is found, and a token with a market price of 2 USD is
bought at a fifth of a cent. -/
theorem replay_unfaithful :
    (∃ r executor, askedFor microAmount = some (r, executor) ∧ r.candidate = microAmount ∧
      ¬ FaithfulReplay replayDeps microAmount r.inputAmountAtomic executor) ∧
    sixDecimals.market.priceUsd = 2 ∧ (askedFor sixDecimals).map replayedPrice = some (some (1 / 500)) := by
  refine ⟨?_, rfl, by decide +kernel⟩
  have hmisses : (askedFor microAmount).any (fun e => decide (e.1.candidate = microAmount) &&
      (e.2.quote replayDeps.config.strategy.baseMint microAmount.mint e.1.inputAmountAtomic).toOption.isNone)
        = true := by
    decide +kernel
  obtain ⟨⟨r, executor⟩, hasked, hmiss⟩ := (Option.any_eq_true _ _).mp hmisses
  rw [Bool.and_eq_true] at hmiss
  refine ⟨r, executor, hasked, of_decide_eq_true hmiss.1, ?_⟩
  rintro ⟨q, hserved, -⟩
  have hnone := hmiss.2
  dsimp only at hnone
  rw [hserved] at hnone
  cases hnone

end SolanaBot.Analysis
