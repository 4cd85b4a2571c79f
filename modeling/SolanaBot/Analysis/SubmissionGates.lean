import SolanaBot.Analysis.LandedSwaps

/-!
# The gates before a submission

Whatever the provider, the environment and the RPC endpoints answer: a request that submits a
transaction is preceded, in this order, by a reading of the clock at which the quote is fresh, the
signer, the provider's transaction for that signer, its decoding, its validation, and its signature
(`submissions_gated`). All submissions of a run send the same bytes, no more often than there are
endpoints and passes, and none after one was answered.

A fill is returned only on the evidence of the endpoints: the accepted submission, a confirmation
without an error, and a transaction in which the swap was found with the amounts of the fill
(`fills_evidenced`).
-/

set_option autoImplicit false

namespace SolanaBot.Analysis

open SolanaBot.Library SolanaBot.Model

/-! ## What comes before a submission -/

/-- The way of a transaction from the provider to its submission. -/
structure Submission where
  now : Time
  signerName : String
  owner : String
  apiKey : Option String
  encoded : String
  unsigned : String
  wire : String

/-- The exchanges that lead to a submission. -/
def Submission.exchanges (s : Submission) (x : JupiterExecutor) (r : ExecutionRequest) : NetTrace :=
  [⟨.utcNow, s.now⟩, ⟨.readSigner s.signerName, Except.ok s.owner⟩,
    ⟨.postSwap ⟨r.quote.route, s.owner, x.priorityFeeLamports, s.apiKey⟩, SwapReply.body (some s.encoded)⟩,
    ⟨.decode s.encoded, Except.ok s.unsigned⟩,
    ⟨.validate s.unsigned s.owner x.allowedProgramIds, Except.ok ()⟩,
    ⟨.sign s.unsigned, Except.ok s.wire⟩]

/-- The exchanges of a submission have taken place, and its quote and its fee are admitted. -/
structure Gated (x : JupiterExecutor) (r : ExecutionRequest) (s : Submission) (t : NetTrace) : Prop where
  exchanges : (s.exchanges x r).Sublist t
  signer : x.signerEnv = some s.signerName
  fresh : s.now - r.quote.observedAt ≤ seconds x.maxQuoteAgeSecs
  impact : r.quote.priceImpactBps ≤ r.maxPriceImpactBps
  output : r.quote.outputAmount ≠ 0 ∧ r.minOutputAmount ≤ r.quote.outputAmount
  fee : x.priorityFeeLamports + 5000 ≤ x.maxFeeLamports

/-- More exchanges keep a submission gated. -/
theorem Gated.mono {x : JupiterExecutor} {r : ExecutionRequest} {s : Submission} {t t' : NetTrace}
    (h : Gated x r s t) (ht : t.Sublist t') : Gated x r s t' :=
  { h with exchanges := h.exchanges.trans ht }

section Prepare

variable {x : JupiterExecutor} {r : ExecutionRequest} {t : NetTrace}

/-- A signer was read from its variable. -/
theorem signer_exchange {owner : String}
    (h : Prog.Trace (ExceptT.run x.signer) t (.ok owner)) :
    ∃ name, x.signerEnv = some name ∧ t = [⟨.readSigner name, Except.ok owner⟩] := by
  unfold JupiterExecutor.signer at h
  split at h
  · cases (ensure_trace h).2
  · rename_i name hname
    obtain ⟨e, -, heq⟩ | ⟨t₁, t₂, key, rfl, h₁, h₂⟩ := Prog.trace_bindE h
    · cases heq
    obtain ⟨key', rfl, heq⟩ := inquire_trace h₁
    cases heq
    split at h₂
    · obtain ⟨rfl, heq⟩ := Prog.trace_done_iff.mp h₂
      cases heq
      exact ⟨name, hname, rfl⟩
    all_goals cases (ensure_trace h₂).2

/-- A swap that was built was answered with a text. -/
theorem requestSwap_exchange {body : SwapBody} {encoded : String}
    (h : Prog.Trace (ExceptT.run (JupiterExecutor.requestSwap body)) t (.ok encoded)) :
    [(⟨.postSwap body, SwapReply.body (some encoded)⟩ : Exchange NetOp NetRes)].Sublist t := by
  unfold JupiterExecutor.requestSwap at h
  obtain ⟨e, -, heq⟩ | ⟨t₁, t₂, answer, rfl, h₁, h₂⟩ := Prog.trace_bindE h
  · cases heq
  obtain ⟨answer', rfl, heq⟩ := inquire_trace h₁
  cases heq
  split at h₂
  · cases (ensure_trace h₂).2
  · obtain ⟨e, -, heq⟩ | ⟨t₃, t₄, secs, rfl, -, h₄⟩ := Prog.trace_bindE h₂
    · cases heq
    · cases (ensure_trace h₄).2
  · cases (ensure_trace h₂).2
  · cases (ensure_trace h₂).2
  · obtain ⟨e, -, heq⟩ | ⟨t₃, t₄, _, rfl, -, h₄⟩ := Prog.trace_bindE h₂
    · cases heq
    split at h₄
    · obtain ⟨rfl, heq⟩ := Prog.trace_done_iff.mp h₄
      cases heq
      exact List.sublist_append_left _ _
    · cases (ensure_trace h₄).2

/-- A transaction was decoded, validated and signed, in this order. -/
theorem signTransaction_exchanges {owner encoded wire : String}
    (h : Prog.Trace (ExceptT.run (x.signTransaction owner encoded)) t (.ok wire)) :
    ∃ unsigned, t = [⟨.decode encoded, Except.ok unsigned⟩,
      ⟨.validate unsigned owner x.allowedProgramIds, Except.ok ()⟩,
      ⟨.sign unsigned, Except.ok wire⟩] := by
  unfold JupiterExecutor.signTransaction at h
  obtain ⟨e, -, heq⟩ | ⟨t₁, t₂, decoded, rfl, h₁, h₂⟩ := Prog.trace_bindE h
  · cases heq
  obtain ⟨decoded', rfl, heq⟩ := inquire_trace h₁
  cases heq
  split at h₂
  · cases (ensure_trace h₂).2
  · cases (ensure_trace h₂).2
  rename_i unsigned
  obtain ⟨e, -, heq⟩ | ⟨t₃, t₄, valid, rfl, h₃, h₄⟩ := Prog.trace_bindE h₂
  · cases heq
  obtain ⟨valid', rfl, heq⟩ := inquire_trace h₃
  cases heq
  split at h₄
  · cases (ensure_trace h₄).2
  obtain ⟨e, -, heq⟩ | ⟨t₅, t₆, signed, rfl, h₅, h₆⟩ := Prog.trace_bindE h₄
  · cases heq
  obtain ⟨signed', rfl, heq⟩ := inquire_trace h₅
  cases heq
  split at h₆
  · obtain ⟨rfl, heq⟩ := Prog.trace_done_iff.mp h₆
    cases heq
    exact ⟨unsigned, rfl⟩
  all_goals cases (ensure_trace h₆).2

/-- A quote that passes is fresh, within the impact limit and the minimum output. -/
theorem checkQuote_ok {now : Time} {u : Unit} (h : x.checkQuote r now = .ok u) :
    now - r.quote.observedAt ≤ seconds x.maxQuoteAgeSecs ∧
      r.quote.priceImpactBps ≤ r.maxPriceImpactBps ∧
      r.quote.outputAmount ≠ 0 ∧ r.minOutputAmount ≤ r.quote.outputAmount := by
  unfold JupiterExecutor.checkQuote at h
  split at h
  · cases h
  · rename_i hfresh
    split at h
    · cases h
    · rename_i himpact
      split at h
      · cases h
      · rename_i houtput
        rw [not_or] at houtput
        exact ⟨Int.not_lt.mp hfresh, UInt32.not_lt.mp himpact, houtput.1, UInt64.not_lt.mp houtput.2⟩

/-- A fee that passes is within its limit. -/
theorem verifyPresubmissionFee_ok {priorityFee maxFee : UInt64} {u : Unit}
    (h : JupiterExecutor.verifyPresubmissionFee priorityFee maxFee = .ok u) :
    priorityFee + 5000 ≤ maxFee := by
  unfold JupiterExecutor.verifyPresubmissionFee at h
  dsimp only at h
  split at h
  · cases h
  · rename_i hfee
    exact UInt64.not_lt.mp hfee

/-- What is prepared for the submission has passed the gates. -/
theorem prepare_gated {p : String × String}
    (h : Prog.Trace (ExceptT.run (x.prepare r)) t (.ok p)) :
    ∃ s : Submission, s.owner = p.1 ∧ s.wire = p.2 ∧ Gated x r s t := by
  unfold JupiterExecutor.prepare at h
  have hfee := @verifyPresubmissionFee_ok x.priorityFeeLamports x.maxFeeLamports
  generalize JupiterExecutor.verifyPresubmissionFee x.priorityFeeLamports x.maxFeeLamports = fee
    at h hfee
  obtain ⟨e, -, heq⟩ | ⟨t₁, rest₁, now, rfl, hnow, h₁⟩ := Prog.trace_bindE h
  · cases heq
  obtain ⟨now', rfl, heq⟩ := inquire_trace hnow
  cases heq
  obtain ⟨e, -, heq⟩ | ⟨t₂, rest₂, _, rfl, hcheck, h₂⟩ := Prog.trace_bindE h₁
  · cases heq
  obtain ⟨rfl, hchecked⟩ := ensure_trace hcheck
  obtain ⟨hfresh, himpact, houtput⟩ := checkQuote_ok hchecked.symm
  obtain ⟨e, -, heq⟩ | ⟨t₃, rest₃, owner, rfl, howner, h₃⟩ := Prog.trace_bindE h₂
  · cases heq
  obtain ⟨name, hname, rfl⟩ := signer_exchange howner
  obtain ⟨e, -, heq⟩ | ⟨t₄, rest₄, key, rfl, -, h₄⟩ := Prog.trace_bindE h₃
  · cases heq
  obtain ⟨e, -, heq⟩ | ⟨t₅, rest₅, _, rfl, hpaid, h₅⟩ := Prog.trace_bindE h₄
  · cases heq
  obtain ⟨rfl, hadmitted⟩ := ensure_trace hpaid
  obtain ⟨e, -, heq⟩ | ⟨t₆, rest₆, encoded, rfl, hswap, h₆⟩ := Prog.trace_bindE h₅
  · cases heq
  obtain ⟨e, -, heq⟩ | ⟨t₇, t₈, wire, rfl, hwire, h₇⟩ := Prog.trace_bindE h₆
  · cases heq
  obtain ⟨unsigned, rfl⟩ := signTransaction_exchanges hwire
  obtain ⟨rfl, heq⟩ := Prog.trace_done_iff.mp h₇
  cases heq
  refine ⟨⟨now, name, owner, key, encoded, unsigned, wire⟩, rfl, rfl,
    ⟨?_, hname, hfresh, himpact, houtput, hfee hadmitted.symm⟩⟩
  have hprovided := (requestSwap_exchange hswap).append
    (List.Sublist.refl [⟨.decode encoded, Except.ok unsigned⟩,
      ⟨.validate unsigned owner x.allowedProgramIds, Except.ok ()⟩,
      ⟨.sign unsigned, Except.ok wire⟩])
  rw [List.append_nil]
  exact ((hprovided.trans (List.sublist_append_right t₄ _)).cons_cons _).cons_cons _

end Prepare

/-! ## How often a transaction is submitted -/

/-- At most `n` requests, all of which failed except possibly the last one. -/
def Attempted (m : RpcMethod) (n : ℕ) (t : NetTrace) : Prop :=
  (replies m t).length ≤ n ∧
    ∃ failed last, replies m t = failed ++ last ∧ last.length ≤ 1 ∧
      ∀ reply ∈ failed, ∃ failure, reply.2 = .error failure

section Attempts

variable {m : RpcMethod} {n : ℕ} {t : NetTrace}

/-- Nothing was attempted where no reply came. -/
theorem Attempted.none (h : replies m t = []) : Attempted m n t := by
  refine ⟨?_, [], [], h, Nat.zero_le 1, fun reply hreply => absurd hreply List.not_mem_nil⟩
  rw [h]
  exact Nat.zero_le n

/-- One attempt that was answered. -/
theorem Attempted.succeeded (endpoint : String) (v : m.Value) :
    Attempted m (n + 1) [posted endpoint m (.ok v)] := by
  refine ⟨?_, [], [(endpoint, .ok v)], ?_, Nat.le_refl 1,
    fun reply hreply => absurd hreply List.not_mem_nil⟩
  · rw [replies_post]
    exact Nat.succ_le_succ (Nat.zero_le n)
  · rw [replies_post]
    rfl

/-- A failed request before other requests. -/
theorem Attempted.failed (h : Attempted m n t) (endpoint : String) (failure : HttpFailure) :
    Attempted m (n + 1) (posted endpoint m (.error failure) :: t) := by
  obtain ⟨hcount, failed, last, hparts, hlast, hfailed⟩ := h
  refine ⟨?_, (endpoint, .error failure) :: failed, last, ?_, hlast, fun reply hreply => ?_⟩
  · rw [replies_post]
    exact Nat.succ_le_succ hcount
  · rw [replies_post, hparts]
    rfl
  · rcases List.mem_cons.mp hreply with rfl | hmem
    · exact ⟨failure, rfl⟩
    · exact hfailed reply hmem

/-- Requests that all failed, before other requests. -/
theorem Attempted.append {t' : NetTrace} {n' : ℕ} (hcount : (replies m t).length ≤ n)
    (hfailed : ∀ reply ∈ replies m t, ∃ failure, reply.2 = .error failure)
    (h : Attempted m n' t') : Attempted m (n + n') (t ++ t') := by
  obtain ⟨hcount', failed, last, hparts, hlast, hfailed'⟩ := h
  refine ⟨?_, replies m t ++ failed, last, ?_, hlast, fun reply hreply => ?_⟩
  · rw [replies_append, List.length_append]
    exact Nat.add_le_add hcount hcount'
  · rw [replies_append, hparts, List.append_assoc]
  · exact (List.mem_append.mp hreply).elim (hfailed reply) (hfailed' reply)

/-- A pass attempts every endpoint once at most, and stops at an answer. -/
theorem tryEndpoints_attempted {endpoints errors : List String} {step : UInt32}
    {res : Except (List String × UInt32) m.Value}
    (h : (RpcPool.tryEndpoints m endpoints errors step).Trace t res) :
    Attempted m endpoints.length t := by
  induction endpoints generalizing errors step t with
  | nil =>
      obtain ⟨rfl, -⟩ := Prog.trace_done_iff.mp h
      exact .none rfl
  | cons endpoint endpoints ih =>
      unfold RpcPool.tryEndpoints at h
      obtain ⟨r, t', rfl, h'⟩ := Prog.trace_perform_bind_iff.mp h
      change Except HttpFailure m.Value at r
      cases r with
      | ok v =>
          obtain ⟨rfl, -⟩ := Prog.trace_done_iff.mp h'
          exact .succeeded endpoint v
      | error failure =>
          cases failure with
          | rateLimited status retryAfter =>
              obtain ⟨u, t'', rfl, h''⟩ := Prog.trace_perform_bind_iff.mp h'
              have hrest : Attempted m endpoints.length t'' := ih h''
              have hslept : Attempted m endpoints.length
                  (⟨.sleep (RpcPool.backoff step retryAfter), u⟩ :: t'') := hrest
              exact hslept.failed endpoint _
          | transport e => exact (ih h').failed endpoint _
          | rpcError status message => exact (ih h').failed endpoint _
          | badBody status e => exact (ih h').failed endpoint _

/-- The passes attempt as often as passes and endpoints allow. -/
theorem tryPasses_attempted {pool : RpcPool} {passes attempt : ℕ} {errors : List String}
    {step : UInt32} {res : Except RpcError m.Value}
    (h : (pool.tryPasses m passes attempt errors step).Trace t res) :
    Attempted m (passes * pool.endpoints.length) t := by
  induction passes generalizing attempt errors step t with
  | zero =>
      obtain ⟨rfl, -⟩ := Prog.trace_done_iff.mp h
      exact .none rfl
  | succ passes ih =>
      unfold RpcPool.tryPasses at h
      obtain ⟨t₀, t₁, _, rfl, hpause, h⟩ := Prog.trace_bind_iff.mp h
      have hquiet : replies m t₀ = [] := by
        unfold RpcPool.betweenPasses at hpause
        split at hpause
        · obtain ⟨u, t₂, rfl, h₂⟩ := Prog.trace_perform_bind_iff.mp hpause
          obtain ⟨rfl, -⟩ := Prog.trace_done_iff.mp h₂
          rfl
        · obtain ⟨rfl, -⟩ := Prog.trace_done_iff.mp hpause
          rfl
      obtain ⟨t₂, t₃, pass, rfl, hpass, h⟩ := Prog.trace_bind_iff.mp h
      have hattempted := tryEndpoints_attempted hpass
      have hskip : ∀ k t', Attempted m k t' → Attempted m k (t₀ ++ t') := by
        intro k t' ht'
        have hnone : ∀ reply ∈ replies m t₀, ∃ failure, reply.2 = .error failure := by
          rw [hquiet]
          exact fun _ hreply => absurd hreply List.not_mem_nil
        have := Attempted.append (n := 0) (by rw [hquiet]; exact Nat.le_refl 0) hnone ht'
        rwa [Nat.zero_add] at this
      refine hskip _ _ ?_
      cases pass with
      | ok v =>
          obtain ⟨rfl, -⟩ := Prog.trace_done_iff.mp h
          rw [List.append_nil, Nat.succ_mul]
          exact ⟨hattempted.1.trans (Nat.le_add_left _ _), hattempted.2⟩
      | error p =>
          obtain ⟨errors', step'⟩ := p
          have hfailed := (tryEndpoints_trace m pool.endpoints errors step hpass).1.failed_iff.mpr rfl
          rw [Nat.succ_mul, Nat.add_comm]
          exact .append hattempted.1 hfailed (ih h)

end Attempts

/-! ## After the submission -/

/-- A reply that was given is an exchange of the trace. -/
theorem mem_replies_iff {m : RpcMethod} {t : NetTrace} {endpoint : String}
    {r : Except HttpFailure m.Value} : (endpoint, r) ∈ replies m t ↔ posted endpoint m r ∈ t := by
  unfold replies
  rw [List.mem_filterMap]
  constructor
  · rintro ⟨⟨op, res⟩, hmem, hreply⟩
    cases op with
    | post endpoint' m' =>
        by_cases hm : m' = m
        · subst hm
          simp only [reply, dite_true, Option.some.injEq] at hreply
          cases hreply
          exact hmem
        · simp [reply, hm] at hreply
    | _ => cases hreply
  · intro hmem
    refine ⟨_, hmem, ?_⟩
    simp [posted, reply]

section Settle

variable {x : JupiterExecutor} {r : ExecutionRequest} {signature : String} {t : NetTrace}

/-- The confirmation that ends the polling. -/
theorem awaitLoop_confirmed {deadline : Time} {turns : ℕ} {now : Time}
    (h : (x.awaitLoop signature deadline turns now).Trace t (.ok ())) :
    ∃ endpoint, ∃ status : SignatureStatus,
      posted endpoint (.getSignatureStatuses signature) (.ok (some status)) ∈ t ∧
        status.err = none ∧ status.isConfirmedOrFinalized = true := by
  induction turns generalizing now t with
  | zero => cases (Prog.trace_done_iff.mp h).2
  | succ turns ih =>
      unfold JupiterExecutor.awaitLoop at h
      obtain ⟨later, t₁, rfl, hturn⟩ := Prog.trace_perform_bind_iff.mp h
      split at hturn
      · cases (Prog.trace_done_iff.mp hturn).2
      obtain ⟨t₂, t₃, status, rfl, hcall, hnext⟩ := Prog.trace_bind_iff.mp hturn
      have hagain : (x.awaitLoop signature deadline turns later.val).Trace t₃ (.ok ()) →
          ∃ endpoint, ∃ status : SignatureStatus,
            posted endpoint (.getSignatureStatuses signature) (.ok (some status)) ∈
                ⟨.pause x.confirmPoll now, later⟩ :: (t₂ ++ t₃) ∧
              status.err = none ∧ status.isConfirmedOrFinalized = true := by
        intro hrest
        obtain ⟨endpoint, status, hmem, hstatus⟩ := ih hrest
        exact ⟨endpoint, status, List.mem_cons_of_mem _ (List.mem_append_right _ hmem), hstatus⟩
      split at hnext
      · rename_i status
        split at hnext
        · cases (Prog.trace_done_iff.mp hnext).2
        · rename_i hclean
          split at hnext
          · rename_i hconfirmed
            obtain ⟨endpoint, hmem⟩ := ((call_trace hcall).1.answered (some status)).mpr rfl
            exact ⟨endpoint, status, List.mem_cons_of_mem _
              (List.mem_append_left _ (mem_replies_iff.mp hmem)), hclean, hconfirmed⟩
          · exact hagain hnext
      · exact hagain hnext
      · split at hnext
        · exact hagain hnext
        · cases (Prog.trace_done_iff.mp hnext).2

/-- The fill of an outcome. -/
theorem priceOutcome_fill {started : Time} {o : ChainSwapOutcome} {fill : Fill}
    (h : Prog.Trace (ExceptT.run (x.priceOutcome r signature started o)) t (.ok fill)) :
    fill.orderId = r.orderId ∧ fill.signature = signature ∧ fill.inputAmount = o.inputAmount ∧
      fill.outputAmount = o.outputAmount ∧ fill.feeLamports = o.feeLamports ∧
      o.feeLamports ≤ x.maxFeeLamports := by
  unfold JupiterExecutor.priceOutcome at h
  obtain ⟨e, -, heq⟩ | ⟨t₁, rest₁, u, rfl, hfee, h₁⟩ := Prog.trace_bindE h
  · cases heq
  obtain ⟨rfl, hadmitted⟩ := ensure_trace hfee
  obtain ⟨e, -, heq⟩ | ⟨t₂, rest₂, value, rfl, -, h₂⟩ := Prog.trace_bindE h₁
  · cases heq
  obtain ⟨e, -, heq⟩ | ⟨t₃, rest₃, confirmedAt, rfl, -, h₃⟩ := Prog.trace_bindE h₂
  · cases heq
  obtain ⟨e, -, heq⟩ | ⟨t₄, rest₄, finished, rfl, -, h₄⟩ := Prog.trace_bindE h₃
  · cases heq
  obtain ⟨rfl, heq⟩ := Prog.trace_done_iff.mp h₄
  cases heq
  refine ⟨rfl, rfl, rfl, rfl, rfl, ?_⟩
  unfold JupiterExecutor.verifyOnchainFee at hadmitted
  split at hadmitted
  · cases hadmitted
  · rename_i hle
    exact UInt64.not_lt.mp hle

/-- After the submission no transaction is submitted. -/
theorem settle_submits_nothing {owner : String} {started : Time} {res : Except ExecutionError Fill}
    (h : Prog.Trace (ExceptT.run (x.settle r owner signature started)) t res) (wire : String) :
    replies (.sendTransaction wire) t = [] := by
  unfold JupiterExecutor.settle at h
  rcases Prog.trace_bindE h with ⟨e, hawait, -⟩ | ⟨t₁, rest₁, _, rfl, hawait, h₁⟩
  · exact (awaitConfirmation_trace hawait).1 _ nofun
  have hawaited := (awaitConfirmation_trace hawait).1 (.sendTransaction wire) nofun
  rcases Prog.trace_bindE h₁ with ⟨e, hverify, -⟩ | ⟨t₂, t₃, o, rfl, hverify, hprice⟩
  · rw [replies_append, hawaited, (verifyTries_trace hverify).sends (.sendTransaction wire) nofun,
      List.nil_append]
  · rw [replies_append, replies_append, hawaited,
      (verifyTries_trace hverify).sends (.sendTransaction wire) nofun, (priceOutcome_trace hprice).1,
      List.nil_append, List.nil_append]

end Settle

/-! ## Every run of the executor -/

/-- A submission is attempted as often at most. -/
theorem submit_attempted {x : JupiterExecutor} {wire : String} {t : NetTrace}
    {res : Except ExecutionError String} (h : (x.submit wire).Trace t res) :
    Attempted (.sendTransaction wire) (x.rpc.maxAttempts * x.rpc.endpoints.length) t := by
  obtain ⟨t₁, t₂, sent, rfl, hcall, hrest⟩ := Prog.trace_bind_iff.mp h
  have hattempted : Attempted (.sendTransaction wire)
      (x.rpc.maxAttempts * x.rpc.endpoints.length) t₁ := tryPasses_attempted hcall
  have hend : t₂ = [] := by
    split at hrest
    · exact (Prog.trace_done_iff.mp hrest).1
    · exact (Prog.trace_done_iff.mp hrest).1
    · split at hrest <;> exact (Prog.trace_done_iff.mp hrest).1
  rw [hend, List.append_nil]
  exact hattempted

/-- Before the submission, nothing is asked of the RPC endpoints. -/
theorem prepare_quiet {x : JupiterExecutor} {r : ExecutionRequest} {t : NetTrace} (started : Time)
    {res : Except ExecutionError (String × String)}
    (h : Prog.Trace (ExceptT.run (x.prepare r)) t res) :
    ∀ e ∈ ([⟨.instant, started⟩] ++ t : NetTrace), isPost e.op = false := by
  intro e he
  rcases List.mem_append.mp he with he | he
  · obtain rfl := List.mem_singleton.mp he
    rfl
  · exact (h.permitted (prepare_noPost x r (K := ∅)) e he).choose_spec

/-- Exchanges that post nothing get no reply. -/
theorem replies_of_quiet {t : NetTrace} (h : ∀ e ∈ t, isPost e.op = false) (m : RpcMethod) :
    replies m t = [] := by
  refine List.eq_nil_iff_forall_not_mem.mpr fun reply hreply => ?_
  have hpost := h _ (mem_replies_iff.mp hreply)
  cases hpost

/-- A run of the executor either submits nothing, or submits what it has prepared and then settles. -/
theorem execute_trace {x : JupiterExecutor} {r : ExecutionRequest} {t : NetTrace}
    {res : Except ExecutionError Fill} (h : Prog.Trace (ExceptT.run (x.execute r)) t res) :
    ((∀ e ∈ t, isPost e.op = false) ∧ ∃ e, res = .error e) ∨
      ∃ started : Time, ∃ s : Submission, ∃ before submission after : NetTrace,
        t = before ++ (submission ++ after) ∧ (∀ e ∈ before, isPost e.op = false) ∧
          Gated x r s before ∧
          ∃ sent, (x.submit s.wire).Trace submission sent ∧
            match sent with
            | .error e => after = [] ∧ res = .error e
            | .ok signature =>
                Prog.Trace (ExceptT.run (x.settle r s.owner signature started)) after res := by
  unfold JupiterExecutor.execute at h
  rcases Prog.trace_bindE h with ⟨e, hstart, rfl⟩ | ⟨t₀, rest₀, started, rfl, hstart, h₀⟩
  · cases (inquire_trace hstart).choose_spec.2
  obtain ⟨started', rfl, -⟩ := inquire_trace hstart
  rcases Prog.trace_bindE h₀ with ⟨e, hprepare, rfl⟩ | ⟨t₁, rest₁, p, rfl, hprepare, h₁⟩
  · exact .inl ⟨prepare_quiet _ hprepare, e, rfl⟩
  obtain ⟨s, howner, hwire, hgated⟩ := prepare_gated hprepare
  have hquiet := prepare_quiet started' hprepare
  have hgated' : Gated x r s ([⟨.instant, started'⟩] ++ t₁) :=
    hgated.mono (List.sublist_append_right _ _)
  rw [← howner, ← hwire] at h₁
  rcases Prog.trace_bindE h₁ with ⟨e, hsubmit, rfl⟩ | ⟨t₂, t₃, signature, rfl, hsubmit, hsettle⟩
  · refine .inr ⟨started, s, [⟨.instant, started'⟩] ++ t₁, rest₁, [], ?_, hquiet, hgated', .error e,
      hsubmit, rfl, rfl⟩
    rw [List.append_nil, List.append_assoc]
  · refine .inr ⟨started, s, [⟨.instant, started'⟩] ++ t₁, t₂, t₃, ?_, hquiet, hgated',
      .ok signature, hsubmit, hsettle⟩
    rw [List.append_assoc]

/-- **Every submission has passed the gates.** A run submits at most one transaction, after all the
exchanges of its `Submission`; it stops at the first answer with a result, and tries at most as often as
the pool has endpoints and passes. -/
theorem submissions_gated (x : JupiterExecutor) (r : ExecutionRequest) (t : NetTrace)
    (res : Except ExecutionError Fill) (hrun : Prog.Trace (ExceptT.run (x.execute r)) t res) :
    ∃ s : Submission,
      (∀ t₁ t₂ endpoint wire (reply : Except HttpFailure (RpcMethod.sendTransaction wire).Value),
        t = t₁ ++ posted endpoint (.sendTransaction wire) reply :: t₂ →
          wire = s.wire ∧ Gated x r s t₁) ∧
        Attempted (.sendTransaction s.wire) (x.rpc.maxAttempts * x.rpc.endpoints.length) t := by
  rcases execute_trace hrun with ⟨hquiet, -⟩ | ⟨started, s, before, submission, after, rfl, hquiet,
    hgated, sent, hsubmit, hafter⟩
  · refine ⟨⟨0, "", "", none, "", "", ""⟩, fun t₁ t₂ endpoint wire reply hsplit => ?_,
      .none (replies_of_quiet hquiet _)⟩
    have hpost := hquiet (posted endpoint (.sendTransaction wire) reply)
      (by rw [hsplit]; exact List.mem_append_right _ (List.mem_cons_self ..))
    cases hpost
  have hsilent : ∀ wire, replies (.sendTransaction wire) after = [] := by
    intro wire
    cases sent with
    | error e =>
        rw [hafter.1]
        rfl
    | ok signature => exact settle_submits_nothing hafter wire
  refine ⟨s, fun t₁ t₂ endpoint wire reply hsplit => ?_, ?_⟩
  · have hnot : posted endpoint (.sendTransaction wire) reply ∉ before := fun hmem => by
      have hpost := hquiet _ hmem
      cases hpost
    obtain ⟨between, rfl, hrest⟩ := exists_append_of_notMem hsplit hnot
    refine ⟨?_, hgated.mono (List.sublist_append_left _ _)⟩
    have hmem : posted endpoint (.sendTransaction wire) reply ∈ submission ++ after := by
      rw [hrest]
      exact List.mem_append_right _ (List.mem_cons_self ..)
    rcases List.mem_append.mp hmem with hmem | hmem
    · by_contra hne
      have honly := (submit_trace hsubmit).1 (.sendTransaction wire) fun heq => hne
        (RpcMethod.sendTransaction.inj heq)
      have hreply := mem_replies_iff.mpr hmem
      rw [honly] at hreply
      exact List.not_mem_nil hreply
    · have hreply := mem_replies_iff.mpr hmem
      rw [hsilent] at hreply
      exact absurd hreply List.not_mem_nil
  · have hreplies : replies (.sendTransaction s.wire) (before ++ (submission ++ after)) =
        replies (.sendTransaction s.wire) submission := by
      rw [replies_append, replies_append, replies_of_quiet hquiet, hsilent, List.nil_append,
        List.append_nil]
    unfold Attempted
    rw [hreplies]
    exact submit_attempted hsubmit

/-- What the endpoints have said before a fill is returned. -/
structure Evidenced (x : JupiterExecutor) (r : ExecutionRequest) (s : Submission) (fill : Fill)
    (t : NetTrace) : Prop where
  accepted : ∃ submitted status fetched : String, ∃ found : SignatureStatus, ∃ tx : Transaction,
    ∃ o : ChainSwapOutcome,
      [posted submitted (.sendTransaction s.wire) (.ok (some fill.signature)),
        posted status (.getSignatureStatuses fill.signature) (.ok (some found)),
        posted fetched (.getTransaction fill.signature) (.ok (some tx))].Sublist t ∧
      found.err = none ∧ found.isConfirmedOrFinalized = true ∧
      parseSwapTransaction tx r.quote.inputMint r.quote.outputMint s.owner r.quote.inputAmount =
        .executed o ∧
      fill.inputAmount = o.inputAmount ∧ fill.outputAmount = o.outputAmount ∧
      fill.feeLamports = o.feeLamports ∧ o.feeLamports ≤ x.maxFeeLamports

/-- **Every fill is evidenced.** A fill that a run returns carries the identifier of its order, and the
endpoints have accepted its submission, confirmed it without an error, and returned a transaction in
which the swap has the amounts and the fee of the fill. -/
theorem fills_evidenced (x : JupiterExecutor) (r : ExecutionRequest) (t : NetTrace) (fill : Fill)
    (hrun : Prog.Trace (ExceptT.run (x.execute r)) t (.ok fill)) :
    fill.orderId = r.orderId ∧ ∃ s : Submission, Gated x r s t ∧ Evidenced x r s fill t := by
  rcases execute_trace hrun with ⟨-, e, heq⟩ | ⟨started, s, before, submission, after, rfl, -, hgated,
    sent, hsubmit, hafter⟩
  · cases heq
  cases sent with
  | error e => cases hafter.2
  | ok signature =>
      unfold JupiterExecutor.settle at hafter
      obtain ⟨e, -, heq⟩ | ⟨t₁, rest₁, _, rfl, hawait, h₁⟩ := Prog.trace_bindE hafter
      · cases heq
      obtain ⟨e, -, heq⟩ | ⟨t₂, t₃, o, rfl, hverify, hprice⟩ := Prog.trace_bindE h₁
      · cases heq
      obtain ⟨hid, rfl, hinput, houtput, hfee, hcap⟩ := priceOutcome_fill hprice
      obtain ⟨submitted, haccepted⟩ := (submit_trace hsubmit).2.1 _ rfl
      obtain ⟨now, t₄, rfl, hloop⟩ := Prog.trace_perform_bind_iff.mp hawait
      obtain ⟨status, found, hfound, hclean, hconfirmed⟩ := awaitLoop_confirmed hloop
      obtain ⟨fetched, tx, hfetched, hparse⟩ := (verifyTries_trace hverify).ok o rfl
      refine ⟨hid, s, hgated.mono (List.sublist_append_left _ _), submitted, status, fetched, found,
        tx, o, ?_, hclean, hconfirmed, hparse, hinput, houtput, hfee, hcap⟩
      have hsent := List.singleton_sublist.mpr (mem_replies_iff.mp haccepted)
      have hpolled := List.singleton_sublist.mpr (List.mem_cons_of_mem ⟨.instant, now⟩ hfound)
      have hread := List.singleton_sublist.mpr (mem_replies_iff.mp hfetched)
      have hsettled := hpolled.append (hread.trans (List.sublist_append_left t₂ t₃))
      exact (hsent.append hsettled).trans (List.sublist_append_right before _)

/-- The sale at endpoints that know its transaction is submitted once, and passes the gates. -/
theorem submissions_gated_sample :
    ∃ s : Submission,
      (∀ t₁ t₂ endpoint wire (reply : Except HttpFailure (RpcMethod.sendTransaction wire).Value),
        (sampleRun indexed).1 = t₁ ++ posted endpoint (.sendTransaction wire) reply :: t₂ →
          wire = s.wire ∧ Gated sampleExecutor sampleSale s t₁) ∧
        Attempted (.sendTransaction s.wire) (1 * 2) (sampleRun indexed).1 :=
  submissions_gated sampleExecutor sampleSale _ _ (Prog.trace_record _ _ _)

/-- It returns a fill, which is evidenced. -/
theorem fills_evidenced_sample :
    ∃ fill, (sampleRun indexed).2 = .ok fill ∧ fill.orderId = "order" ∧ ∃ s : Submission,
      Gated sampleExecutor sampleSale s (sampleRun indexed).1 ∧
        Evidenced sampleExecutor sampleSale s fill (sampleRun indexed).1 := by
  have hok : ((sampleRun indexed).2.toOption).isSome = true := by decide +kernel
  cases hres : (sampleRun indexed).2 with
  | error e =>
      rw [hres] at hok
      cases hok
  | ok fill =>
      have hrun : Prog.Trace (ExceptT.run (sampleExecutor.execute sampleSale)) (sampleRun indexed).1
          (.ok fill) := hres ▸ Prog.trace_record _ _ _
      exact ⟨fill, rfl, fills_evidenced sampleExecutor sampleSale _ fill hrun⟩

end SolanaBot.Analysis
