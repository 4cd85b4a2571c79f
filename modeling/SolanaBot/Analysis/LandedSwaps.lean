import Mathlib.Tactic.Linarith
import SolanaBot.Analysis.RpcTraces

/-!
# Swaps that landed

What `execute` returns when the transaction that it submitted landed and succeeded, whatever
the provider and the RPC endpoints answered in accordance with that (`Landing.Explains`). It
returns a fill or `Unknown` exactly if

* no failure of a submission is read as a refusal while no endpoint accepted it
  (`RefusalRead`), and
* the transaction, if it was fetched, has a fee within the cap and a price (`Accepts`).

The first condition is about the error text, which joins the failures of all endpoints: an
endpoint that relays the transaction and then times out is followed by one that refuses it
(`landed_swap_failed`).
-/

set_option autoImplicit false

namespace SolanaBot.Analysis

open SolanaBot.Library SolanaBot.Model

/-! ## The history of the chain -/

/-- The outcomes that leave the order open. -/
def isUnknown : ExecutionError → Bool
  | .unknown .. => true
  | _ => false

/-- A fill, or an outcome that is still to be found out. -/
def Reported (res : Except ExecutionError Fill) : Prop := ∀ e, res = .error e → isUnknown e

/-- Whether `Reported` holds can be evaluated. -/
instance (res : Except ExecutionError Fill) : Decidable (Reported res) :=
  match res with
  | .ok _ => isTrue fun _ h => nomatch h
  | .error e => decidable_of_iff (isUnknown e) ⟨fun h e' he => by cases he; exact h, fun h => h e rfl⟩

/-- A failure after which the node may have passed the transaction on. A rate limited request
and a refusal before the submission exclude it. -/
def mayRelay : HttpFailure → Bool
  | .rateLimited .. => false
  | .rpcError _ message => !isRefusal (message.getD "unknown")
  | .transport _ | .badBody .. => true

/-- The signers that were read. -/
def signers (t : NetTrace) : List String :=
  t.filterMap fun
    | ⟨.readSigner _, r⟩ => Except.toOption (ε := SecretFault) r
    | _ => none

/-- The transactions that were signed. -/
def signed (t : NetTrace) : List String :=
  t.filterMap fun
    | ⟨.sign _, r⟩ => Except.toOption (ε := SignFault) r
    | _ => none

/-- A transaction that landed on the chain and succeeded. -/
structure Landing where
  owner : String
  wire : String
  signature : String
  transaction : Transaction
  succeeded : ∀ m, transaction.txMeta = some m → m.err = none

/-- The endpoints answered in accordance with the landed transaction. -/
structure Landing.Explains (chain : Landing) (t : NetTrace) : Prop where
  owner : ∀ owner ∈ signers t, owner = chain.owner
  wire : ∀ wire ∈ signed t, wire = chain.wire
  /-- Some endpoint may have relayed the transaction. -/
  relayed : ∃ r ∈ replies (.sendTransaction chain.wire) t, ∀ failure, r.2 = .error failure →
    mayRelay failure
  signature : ∀ endpoint signature,
    (endpoint, .ok (some signature)) ∈ replies (.sendTransaction chain.wire) t →
      signature = chain.signature
  status : ∀ endpoint (status : SignatureStatus),
    (endpoint, .ok (some status)) ∈ replies (.getSignatureStatuses chain.signature) t →
      status.err = none
  transaction : ∀ endpoint tx,
    (endpoint, .ok (some tx)) ∈ replies (.getTransaction chain.signature) t →
      tx = chain.transaction

/-! ## The conditions -/

/-- No endpoint accepted the submission, and the failure of one of them is read as a refusal. -/
def RefusalRead (wire : String) (t : NetTrace) : Prop :=
  (∀ r ∈ replies (.sendTransaction wire) t, ∃ failure, r.2 = .error failure) ∧
    ∃ line ∈ failureLines (.sendTransaction wire) t, isRefusal line

/-- Some endpoint returned the landed transaction. -/
def Fetched (chain : Landing) (t : NetTrace) : Prop :=
  ∃ endpoint tx, (endpoint, .ok (some tx)) ∈ replies (.getTransaction chain.signature) t

/-- A swap that is found in the transaction has a fee within the cap and a price. -/
def Accepts (x : JupiterExecutor) (r : ExecutionRequest) (owner : String) (tx : Transaction) :
    Prop :=
  ∀ o, parseSwapTransaction tx r.quote.inputMint r.quote.outputMint owner r.quote.inputAmount =
      .executed o →
    o.feeLamports ≤ x.maxFeeLamports ∧
      r.valueBasis.Prices o.inputAmount r.inputDecimals o.outputAmount r.outputDecimals

/-! ## Before the submission -/

/-- The JSON-RPC requests. -/
def isPost : NetOp → Bool
  | .post .. => true
  | _ => false

/-- No JSON-RPC requests. -/
def noPost : Discipline NetOp NetRes Unit where
  permits _ o := isPost o = false
  learns _ _ := ∅
  mono _ h := h

/-- A part that posts nothing gets no reply. -/
theorem replies_of_noPost {α : Type} {p : Net α} {t : NetTrace} {a : α} (h : p.Trace t a)
    (hp : p.Follows noPost ∅) (m : RpcMethod) : replies m t = [] := by
  refine List.filterMap_eq_nil_iff.mpr fun x hx => ?_
  obtain ⟨_, hpost⟩ := h.permitted hp x hx
  obtain ⟨op, res⟩ := x
  cases op
  case post endpoint m' => exact nomatch hpost
  all_goals rfl

/-- An inquiry that is no post posts nothing. -/
theorem inquire_noPost {o : NetOp} (ho : isPost o = false) {K : Set Unit} :
    Prog.FollowsE noPost K (inquire o) := Prog.followsE_lift (Prog.follows_perform ho)

/-- A check posts nothing. -/
theorem ensure_noPost {α : Type} {r : Except ExecutionError α} {K : Set Unit} :
    Prog.FollowsE noPost K (ensure r) := trivial

/-- Reading the signer posts nothing. -/
theorem signer_noPost (x : JupiterExecutor) {K : Set Unit} :
    Prog.FollowsE noPost K x.signer := by
  unfold JupiterExecutor.signer
  split
  · exact ensure_noPost
  · refine Prog.followsE_bind (inquire_noPost rfl) fun r _ _ => ?_
    split
    · exact Prog.followsE_pure _
    all_goals exact ensure_noPost

/-- Reading the API key posts nothing. -/
theorem apiKey_noPost (x : JupiterExecutor) {K : Set Unit} :
    Prog.FollowsE noPost K x.apiKey := by
  unfold JupiterExecutor.apiKey
  split
  · exact Prog.followsE_pure _
  · exact Prog.followsE_pure _
  · refine Prog.followsE_bind (inquire_noPost rfl) fun r _ _ => ?_
    split
    · exact Prog.followsE_pure _
    · exact Prog.followsE_pure _
    · exact Prog.followsE_pure _
    · exact ensure_noPost

/-- Requesting the swap posts nothing. -/
theorem requestSwap_noPost (body : SwapBody) {K : Set Unit} :
    Prog.FollowsE noPost K (JupiterExecutor.requestSwap body) := by
  unfold JupiterExecutor.requestSwap
  refine Prog.followsE_bind (inquire_noPost rfl) fun r _ _ => ?_
  split
  · exact ensure_noPost
  · exact Prog.followsE_bind (inquire_noPost rfl) fun _ _ _ => ensure_noPost
  · exact ensure_noPost
  · exact ensure_noPost
  · refine Prog.followsE_bind (inquire_noPost rfl) fun _ _ _ => ?_
    split
    · exact Prog.followsE_pure _
    · exact ensure_noPost

/-- Signing posts nothing. -/
theorem signTransaction_noPost (x : JupiterExecutor) (owner encoded : String) {K : Set Unit} :
    Prog.FollowsE noPost K (x.signTransaction owner encoded) := by
  unfold JupiterExecutor.signTransaction
  refine Prog.followsE_bind (inquire_noPost rfl) fun r _ _ => ?_
  split
  · exact ensure_noPost
  · exact ensure_noPost
  · refine Prog.followsE_bind (inquire_noPost rfl) fun r _ _ => ?_
    split
    · exact ensure_noPost
    · refine Prog.followsE_bind (inquire_noPost rfl) fun r _ _ => ?_
      split
      · exact Prog.followsE_pure _
      all_goals exact ensure_noPost

/-- The preparation of a submission posts nothing. -/
theorem prepare_noPost (x : JupiterExecutor) (r : ExecutionRequest) {K : Set Unit} :
    Prog.FollowsE noPost K (x.prepare r) := by
  unfold JupiterExecutor.prepare
  -- the outcome of the check plays no role here, and is not to be computed
  generalize JupiterExecutor.verifyPresubmissionFee x.priorityFeeLamports x.maxFeeLamports = fee
  refine Prog.followsE_bind (inquire_noPost rfl) fun now _ _ => ?_
  refine Prog.followsE_bind ensure_noPost fun _ _ _ => ?_
  refine Prog.followsE_bind (signer_noPost x) fun owner _ _ => ?_
  refine Prog.followsE_bind (apiKey_noPost x) fun key _ _ => ?_
  refine Prog.followsE_bind ensure_noPost fun _ _ _ => ?_
  refine Prog.followsE_bind (requestSwap_noPost _) fun encoded _ _ => ?_
  refine Prog.followsE_bind (signTransaction_noPost x owner encoded) fun wire _ _ => ?_
  exact Prog.followsE_pure _

/-- An inquiry is one exchange, with its reply. -/
theorem inquire_trace {o : NetOp} {t : NetTrace} {res : Except ExecutionError (NetRes o)}
    (h : Prog.Trace (ExceptT.run (inquire o)) t res) : ∃ r, t = [⟨o, r⟩] ∧ res = .ok r := by
  obtain ⟨r, t', rfl, hdone⟩ := Prog.trace_call_iff.mp h
  obtain ⟨rfl, rfl⟩ := Prog.trace_done_iff.mp hdone
  exact ⟨r, rfl, rfl⟩

/-- A check is no exchange. -/
theorem ensure_trace {α : Type} {r res : Except ExecutionError α} {t : NetTrace}
    (h : Prog.Trace (ExceptT.run (ensure r)) t res) : t = [] ∧ res = r :=
  Prog.trace_done_iff.mp h

/-- The signers of two traces. -/
@[simp] theorem signers_append (t₁ t₂ : NetTrace) :
    signers (t₁ ++ t₂) = signers t₁ ++ signers t₂ := List.filterMap_append

/-- The signed transactions of two traces. -/
@[simp] theorem signed_append (t₁ t₂ : NetTrace) :
    signed (t₁ ++ t₂) = signed t₁ ++ signed t₂ := List.filterMap_append

/-- The owner is a signer that was read. -/
theorem signer_trace {x : JupiterExecutor} {t : NetTrace} {owner : String}
    (h : Prog.Trace (ExceptT.run x.signer) t (.ok owner)) : owner ∈ signers t := by
  unfold JupiterExecutor.signer at h
  split at h
  · exact nomatch (ensure_trace h).2
  · obtain ⟨e, h, heq⟩ | ⟨t₁, t₂, r, rfl, h₁, h₂⟩ := Prog.trace_bindE h
    · exact nomatch heq
    · obtain ⟨r', rfl, heq⟩ := inquire_trace h₁
      cases heq
      split at h₂
      · obtain ⟨rfl, heq⟩ := Prog.trace_done_iff.mp h₂
        cases heq
        exact List.mem_singleton_self _
      all_goals exact nomatch (ensure_trace h₂).2

/-- The submitted transaction was signed. -/
theorem signTransaction_trace {x : JupiterExecutor} {owner encoded wire : String} {t : NetTrace}
    (h : Prog.Trace (ExceptT.run (x.signTransaction owner encoded)) t (.ok wire)) :
    wire ∈ signed t := by
  unfold JupiterExecutor.signTransaction at h
  obtain ⟨e, -, heq⟩ | ⟨t₁, t₂, r, rfl, h₁, h₂⟩ := Prog.trace_bindE h
  · exact nomatch heq
  obtain ⟨unsigned, rfl, heq⟩ := inquire_trace h₁
  cases heq
  rw [signed_append, List.mem_append]
  refine .inr ?_
  split at h₂
  · exact nomatch (ensure_trace h₂).2
  · exact nomatch (ensure_trace h₂).2
  obtain ⟨e, -, heq⟩ | ⟨t₃, t₄, r, rfl, h₃, h₄⟩ := Prog.trace_bindE h₂
  · exact nomatch heq
  obtain ⟨valid, rfl, heq⟩ := inquire_trace h₃
  cases heq
  rw [signed_append, List.mem_append]
  refine .inr ?_
  split at h₄
  · exact nomatch (ensure_trace h₄).2
  obtain ⟨e, -, heq⟩ | ⟨t₅, t₆, r, rfl, h₅, h₆⟩ := Prog.trace_bindE h₄
  · exact nomatch heq
  obtain ⟨wire', rfl, heq⟩ := inquire_trace h₅
  cases heq
  split at h₆
  · obtain ⟨rfl, heq⟩ := Prog.trace_done_iff.mp h₆
    cases heq
    exact List.mem_singleton_self _
  all_goals exact nomatch (ensure_trace h₆).2

/-- What is submitted was signed, for a signer that was read. -/
theorem prepare_trace {x : JupiterExecutor} {r : ExecutionRequest} {t : NetTrace}
    {p : String × String} (h : Prog.Trace (ExceptT.run (x.prepare r)) t (.ok p)) :
    p.1 ∈ signers t ∧ p.2 ∈ signed t := by
  unfold JupiterExecutor.prepare at h
  generalize JupiterExecutor.verifyPresubmissionFee x.priorityFeeLamports x.maxFeeLamports = fee
    at h
  obtain ⟨e, -, heq⟩ | ⟨t₁, _, now, rfl, -, h⟩ := Prog.trace_bindE h
  · exact nomatch heq
  obtain ⟨e, -, heq⟩ | ⟨t₂, _, _, rfl, -, h⟩ := Prog.trace_bindE h
  · exact nomatch heq
  obtain ⟨e, -, heq⟩ | ⟨t₃, _, owner, rfl, howner, h⟩ := Prog.trace_bindE h
  · exact nomatch heq
  obtain ⟨e, -, heq⟩ | ⟨t₄, _, key, rfl, -, h⟩ := Prog.trace_bindE h
  · exact nomatch heq
  obtain ⟨e, -, heq⟩ | ⟨t₅, _, _, rfl, -, h⟩ := Prog.trace_bindE h
  · exact nomatch heq
  obtain ⟨e, -, heq⟩ | ⟨t₆, _, encoded, rfl, -, h⟩ := Prog.trace_bindE h
  · exact nomatch heq
  obtain ⟨e, -, heq⟩ | ⟨t₇, t₈, wire, rfl, hwire, h⟩ := Prog.trace_bindE h
  · exact nomatch heq
  obtain ⟨rfl, heq⟩ := Prog.trace_done_iff.mp h
  cases heq
  have howner' := signer_trace howner
  have hwire' := signTransaction_trace hwire
  simp [howner', hwire']

/-! ## From the submission on -/

/-- The trace sends requests with the method `m` only. -/
def OnlySends (m : RpcMethod) (t : NetTrace) : Prop := ∀ m', m' ≠ m → replies m' t = []

/-- Nothing is sent in an empty trace. -/
theorem OnlySends.nil (m : RpcMethod) : OnlySends m [] := fun _ _ => rfl

/-- Two traces that send one method only. -/
theorem OnlySends.append {m : RpcMethod} {t₁ t₂ : NetTrace} (h₁ : OnlySends m t₁)
    (h₂ : OnlySends m t₂) : OnlySends m (t₁ ++ t₂) := by
  intro m' hm'
  rw [replies_append, h₁ m' hm', h₂ m' hm', List.append_nil]

/-- Nothing was answered exactly if every request failed. -/
theorem Answers.failed_iff {m : RpcMethod} {t : NetTrace} {value : Option m.Value}
    (h : Answers m t value) :
    (∀ r ∈ replies m t, ∃ failure, r.2 = .error failure) ↔ value = none := by
  constructor
  · intro hall
    cases value with
    | none => rfl
    | some v =>
        obtain ⟨endpoint, hmem⟩ := (h.answered v).mpr rfl
        obtain ⟨failure, hfailure⟩ := hall _ hmem
        exact nomatch hfailure
  · rintro rfl ⟨endpoint, r⟩ hmem
    cases r with
    | error failure => exact ⟨failure, rfl⟩
    | ok v => exact nomatch (h.answered v).mp ⟨endpoint, hmem⟩

/-- The submission ends with an error other than `Unknown` exactly if a refusal is read. -/
theorem submit_trace {x : JupiterExecutor} {wire : String} {t : NetTrace}
    {res : Except ExecutionError String} (h : (x.submit wire).Trace t res) :
    OnlySends (.sendTransaction wire) t ∧
      (∀ signature, res = .ok signature → ∃ endpoint,
        (endpoint, .ok (some signature)) ∈ replies (.sendTransaction wire) t) ∧
      (RefusalRead wire t ↔ ∃ e, res = .error e ∧ isUnknown e = false) := by
  obtain ⟨t₁, t₂, sent, rfl, hcall, h⟩ := Prog.trace_bind_iff.mp h
  obtain ⟨hanswers, herror⟩ := call_trace hcall
  have hfailed := hanswers.failed_iff
  cases sent with
  | ok value =>
      have haccepted : ¬ RefusalRead wire (t₁ ++ []) := by
        rintro ⟨hall, -⟩
        rw [List.append_nil] at hall
        exact nomatch hfailed.mp hall
      cases value with
      | some signature =>
          obtain ⟨rfl, rfl⟩ := Prog.trace_done_iff.mp h
          refine ⟨?_, ?_, ?_⟩
          · rw [List.append_nil]
            exact hanswers.others
          · rintro _ ⟨⟩
            rw [List.append_nil]
            exact (hanswers.answered _).mpr rfl
          · simpa using haccepted
      | none =>
          obtain ⟨rfl, rfl⟩ := Prog.trace_done_iff.mp h
          refine ⟨?_, fun _ heq => (nomatch heq), ?_⟩
          · rw [List.append_nil]
            exact hanswers.others
          · simpa [isUnknown] using haccepted
  | error e =>
      obtain rfl := herror e rfl
      obtain ⟨rfl, rfl⟩ := Prog.trace_done_iff.mp h
      rw [List.append_nil]
      refine ⟨hanswers.others, fun _ heq => (nomatch heq), ?_⟩
      unfold RefusalRead
      rw [and_iff_right (hfailed.mpr rfl), ← isRefusal_unavailable]
      unfold classifySubmitError
      split
      · rename_i hrefusal
        simp [hrefusal, isUnknown]
      · rename_i hrefusal
        simp [hrefusal, isUnknown]

/-- The polling ends with an error other than `Unknown` only if an endpoint reported one. -/
theorem awaitLoop_trace {x : JupiterExecutor} {signature : String} {deadline : Time} {turns : ℕ}
    {now : Time} {t : NetTrace} {res : Except ExecutionError Unit}
    (h : (x.awaitLoop signature deadline turns now).Trace t res) :
    OnlySends (.getSignatureStatuses signature) t ∧
      ∀ e, res = .error e → isUnknown e ∨ ∃ endpoint, ∃ status : SignatureStatus,
        (endpoint, .ok (some status)) ∈ replies (.getSignatureStatuses signature) t ∧
          status.err ≠ none := by
  induction turns generalizing now t with
  | zero =>
      obtain ⟨rfl, rfl⟩ := Prog.trace_done_iff.mp h
      exact ⟨.nil _, fun e heq => .inl (by cases heq; rfl)⟩
  | succ turns ih =>
      unfold JupiterExecutor.awaitLoop at h
      obtain ⟨later, t₁, rfl, hturn⟩ := Prog.trace_perform_bind_iff.mp h
      split at hturn
      · obtain ⟨rfl, rfl⟩ := Prog.trace_done_iff.mp hturn
        exact ⟨fun _ _ => rfl, fun e heq => .inl (by cases heq; rfl)⟩
      obtain ⟨t₂, t₃, status, rfl, hcall, h⟩ := Prog.trace_bind_iff.mp hturn
      obtain ⟨hanswers, herror⟩ := call_trace hcall
      have hagain : (x.awaitLoop signature deadline turns later.val).Trace t₃ res →
          OnlySends (.getSignatureStatuses signature) (t₂ ++ t₃) ∧
          ∀ e, res = .error e → isUnknown e ∨ ∃ endpoint, ∃ status : SignatureStatus,
            (endpoint, .ok (some status)) ∈
                replies (.getSignatureStatuses signature) (t₂ ++ t₃) ∧ status.err ≠ none := by
        intro h
        obtain ⟨hsends, hres⟩ := ih h
        refine ⟨OnlySends.append hanswers.others hsends, fun e heq => ?_⟩
        rcases hres e heq with hunknown | ⟨endpoint, status, hmem, herr⟩
        · exact .inl hunknown
        · refine .inr ⟨endpoint, status, ?_, herr⟩
          rw [replies_append, List.mem_append]
          exact .inr hmem
      cases status with
      | error e =>
          obtain rfl := herror e rfl
          exact hagain h
      | ok status =>
          cases status with
          | none => exact hagain h
          | some status =>
              cases herr : status.err with
              | none =>
                  simp only [herr] at h
                  split at h
                  · obtain ⟨rfl, rfl⟩ := Prog.trace_done_iff.mp h
                    refine ⟨?_, fun _ heq => (nomatch heq)⟩
                    rw [List.append_nil]
                    exact hanswers.others
                  · exact hagain h
              | some err =>
                  simp only [herr] at h
                  obtain ⟨rfl, rfl⟩ := Prog.trace_done_iff.mp h
                  rw [List.append_nil]
                  refine ⟨hanswers.others, fun e heq => .inr ?_⟩
                  obtain ⟨endpoint, hmem⟩ := (hanswers.answered (some status)).mpr rfl
                  exact ⟨endpoint, status, hmem, by rw [herr]; exact Option.some_ne_none _⟩

/-- Every turn of the polling takes at least `confirmPoll`, so no more turns are needed than the
window is long: further ones do not change the program. -/
theorem awaitLoop_enough (x : JupiterExecutor) (signature : String) (deadline : Int)
    (turns extra : ℕ) (now : Int) (h : deadline - now < (turns + 1) * x.confirmPoll) :
    x.awaitLoop signature deadline (turns + extra + 1) now =
      x.awaitLoop signature deadline (turns + 1) now := by
  induction turns generalizing now with
  | zero =>
      unfold JupiterExecutor.awaitLoop
      refine congrArg (request _ >>= ·) (funext fun later => ?_)
      have hlater : @LE.le Int _ (now + x.confirmPoll) later.val := later.property
      have helapsed : @LE.le Int _ deadline later.val := by
        push_cast at h
        linarith
      rw [if_pos helapsed, if_pos helapsed]
  | succ turns ih =>
      rw [Nat.add_right_comm turns 1 extra]
      unfold JupiterExecutor.awaitLoop
      refine congrArg (request _ >>= ·) (funext fun later => ?_)
      have hlater : @LE.le Int _ (now + x.confirmPoll) later.val := later.property
      have hrest : deadline - (later.val : Int) < (turns + 1) * x.confirmPoll := by
        push_cast at h
        linarith
      rw [ih later.val hrest]

/-- The turns of `awaitConfirmation` are enough. -/
theorem awaitConfirmation_enough (x : JupiterExecutor) (signature : String) (extra : ℕ)
    (now : Int) :
    x.awaitLoop signature (now + x.confirmTimeout) (x.confirmTurns + extra) now =
      x.awaitLoop signature (now + x.confirmTimeout) x.confirmTurns now := by
  unfold JupiterExecutor.confirmTurns
  rw [Nat.add_right_comm]
  refine awaitLoop_enough x signature _ _ extra now ?_
  have hlt := Nat.lt_mul_div_succ x.confirmTimeout x.confirmPoll_pos
  rw [add_sub_cancel_left, mul_comm]
  exact_mod_cast hlt

/-! ## The verification of the outcome -/

/-- A swap is found in a fetched transaction. With `find` as the reading of the transaction, the
verification ends with an error other than `Unknown` only if a fetched transaction failed, and
with `Unknown` only if no swap is found in what was fetched. -/
structure Verified (find : Transaction → SwapOutcome) (signature : String) (t : NetTrace)
    (res : Except ExecutionError ChainSwapOutcome) : Prop where
  sends : OnlySends (.getTransaction signature) t
  ok : ∀ o, res = .ok o → ∃ endpoint tx,
    (endpoint, .ok (some tx)) ∈ replies (.getTransaction signature) t ∧ find tx = .executed o
  error : ∀ e, res = .error e →
    (isUnknown e ∧ ∀ endpoint tx,
      (endpoint, .ok (some tx)) ∈ replies (.getTransaction signature) t →
        ∀ o, find tx ≠ .executed o) ∨
    ∃ endpoint tx, (endpoint, .ok (some tx)) ∈ replies (.getTransaction signature) t ∧
      ∃ err, find tx = .failed err

/-- Tries that fetched nothing come before the others. -/
theorem Verified.append {find : Transaction → SwapOutcome} {signature : String} {t₁ t₂ : NetTrace}
    {res : Except ExecutionError ChainSwapOutcome}
    (hsends : OnlySends (.getTransaction signature) t₁)
    (hnone : ∀ endpoint (tx : Transaction),
      (endpoint, .ok (some tx)) ∉ replies (.getTransaction signature) t₁)
    (h : Verified find signature t₂ res) : Verified find signature (t₁ ++ t₂) res := by
  have hmem : ∀ endpoint (tx : Transaction),
      (endpoint, .ok (some tx)) ∈ replies (.getTransaction signature) (t₁ ++ t₂) ↔
        (endpoint, .ok (some tx)) ∈ replies (.getTransaction signature) t₂ := by
    intro endpoint tx
    rw [replies_append, List.mem_append, or_iff_right (hnone endpoint tx)]
  refine ⟨hsends.append h.sends, fun o heq => ?_, fun e heq => ?_⟩
  · obtain ⟨endpoint, tx, htx, hfind⟩ := h.ok o heq
    exact ⟨endpoint, tx, (hmem endpoint tx).mpr htx, hfind⟩
  · rcases h.error e heq with ⟨hunknown, hall⟩ | ⟨endpoint, tx, htx, hfailed⟩
    · exact .inl ⟨hunknown, fun endpoint tx htx => hall endpoint tx ((hmem endpoint tx).mp htx)⟩
    · exact .inr ⟨endpoint, tx, (hmem endpoint tx).mpr htx, hfailed⟩

/-- The tries to verify read the transaction of the signature only, and say what they read. -/
theorem verifyTries_trace {x : JupiterExecutor} {signature inputMint outputMint owner : String}
    {expectedInput : UInt64} {tries : ℕ} {t : NetTrace}
    {res : Except ExecutionError ChainSwapOutcome}
    (h : (x.verifyTries signature inputMint outputMint owner expectedInput tries).Trace t res) :
    Verified (fun tx => parseSwapTransaction tx inputMint outputMint owner expectedInput) signature
      t res := by
  induction tries generalizing t with
  | zero =>
      obtain ⟨rfl, rfl⟩ := Prog.trace_done_iff.mp h
      refine ⟨.nil _, fun _ heq => (nomatch heq), fun e heq => .inl ?_⟩
      cases heq
      exact ⟨rfl, fun _ _ hmem => absurd hmem List.not_mem_nil⟩
  | succ tries ih =>
      unfold JupiterExecutor.verifyTries at h
      obtain ⟨t₁, t₂, tx, rfl, hcall, h⟩ := Prog.trace_bind_iff.mp h
      obtain ⟨hanswers, herror⟩ := call_trace hcall
      -- a try that fetched nothing is followed by a sleep and the remaining tries
      have hagain : (∀ endpoint (tx : Transaction),
            (endpoint, .ok (some tx)) ∉ replies (.getTransaction signature) t₁) →
          (request (.sleep 400) >>= fun _ =>
            x.verifyTries signature inputMint outputMint owner expectedInput tries).Trace t₂ res →
          Verified (fun tx => parseSwapTransaction tx inputMint outputMint owner expectedInput)
            signature (t₁ ++ t₂) res := by
        intro hnone h
        obtain ⟨u, t₃, rfl, hrest⟩ := Prog.trace_perform_bind_iff.mp h
        obtain ⟨hsends, hok, herr⟩ := ih hrest
        exact .append hanswers.others hnone ⟨hsends, hok, herr⟩
      cases tx with
      | error e =>
          obtain rfl := herror e rfl
          refine hagain (fun endpoint tx hmem => ?_) h
          exact nomatch (hanswers.answered (some tx)).mp ⟨endpoint, hmem⟩
      | ok tx =>
          cases tx with
          | none =>
              refine hagain (fun endpoint tx hmem => ?_) h
              exact nomatch (hanswers.answered (some tx)).mp ⟨endpoint, hmem⟩
          | some tx =>
              obtain ⟨endpoint, hmem⟩ := (hanswers.answered (some tx)).mpr rfl
              have honly : ∀ endpoint (tx' : Transaction),
                  (endpoint, .ok (some tx')) ∈ replies (.getTransaction signature) t₁ →
                    tx' = tx := by
                intro endpoint tx' hmem'
                have heq := (hanswers.answered (some tx')).mp ⟨endpoint, hmem'⟩
                exact (Option.some.inj (Option.some.inj heq)).symm
              cases hparse : parseSwapTransaction tx inputMint outputMint owner expectedInput with
              | executed o =>
                  simp only [hparse] at h
                  obtain ⟨rfl, rfl⟩ := Prog.trace_done_iff.mp h
                  rw [List.append_nil]
                  refine ⟨hanswers.others, fun o' heq => ?_, fun _ heq => (nomatch heq)⟩
                  cases heq
                  exact ⟨endpoint, tx, hmem, hparse⟩
              | failed err =>
                  simp only [hparse] at h
                  obtain ⟨rfl, rfl⟩ := Prog.trace_done_iff.mp h
                  rw [List.append_nil]
                  exact ⟨hanswers.others, fun _ heq => (nomatch heq),
                    fun e heq => .inr ⟨endpoint, tx, hmem, err, hparse⟩⟩
              | unverifiable detail =>
                  simp only [hparse] at h
                  obtain ⟨rfl, rfl⟩ := Prog.trace_done_iff.mp h
                  rw [List.append_nil]
                  refine ⟨hanswers.others, fun _ heq => (nomatch heq), fun e heq => .inl ?_⟩
                  cases heq
                  refine ⟨rfl, fun endpoint tx' hmem' o => ?_⟩
                  rw [honly endpoint tx' hmem', hparse]
                  exact nofun

/-! ## The fill -/

/-- A fill that cannot be priced is no unknown outcome. -/
theorem priceFill_isUnknown {basis : ValueBasis} {inputAmount outputAmount : UInt64}
    {inputDecimals outputDecimals : UInt8} {e : ExecutionError}
    (h : basis.priceFill inputAmount inputDecimals outputAmount outputDecimals = .error e) :
    isUnknown e = false := by
  unfold ValueBasis.priceFill at h
  by_cases hin : inputDecimals.toNat < 20
  · rw [units_eq_ok hin] at h
    by_cases hout : outputDecimals.toNat < 20
    · rw [units_eq_ok hout] at h
      simp only [bind, Except.bind] at h
      cases basis with
      | inputValueUsd v =>
          simp only at h
          split at h
          · cases h
            rfl
          · cases h
      | outputUnitPriceUsd p =>
          simp only at h
          split at h
          · cases h
            rfl
          · cases h
    · rw [units_eq_error hout] at h
      cases h
      rfl
  · rw [units_eq_error hin] at h
    cases h
    rfl

/-- The fill is returned exactly if the fee is within the cap and the swap has a price. -/
theorem priceOutcome_trace {x : JupiterExecutor} {r : ExecutionRequest} {signature : String}
    {started : Time} {o : ChainSwapOutcome} {t : NetTrace} {res : Except ExecutionError Fill}
    (h : Prog.Trace (ExceptT.run (x.priceOutcome r signature started o)) t res) :
    (∀ m, replies m t = []) ∧ (Reported res ↔ o.feeLamports ≤ x.maxFeeLamports ∧
      r.valueBasis.Prices o.inputAmount r.inputDecimals o.outputAmount r.outputDecimals) := by
  unfold JupiterExecutor.priceOutcome at h
  have hfee : ∀ u, JupiterExecutor.verifyOnchainFee o.feeLamports x.maxFeeLamports = .ok u →
      o.feeLamports ≤ x.maxFeeLamports := by
    intro u hu
    unfold JupiterExecutor.verifyOnchainFee at hu
    split at hu
    · cases hu
    · rename_i hle
      exact UInt64.not_lt.mp hle
  rcases Prog.trace_bindE h with ⟨e, h₁, rfl⟩ | ⟨t₁, t₂, u, rfl, h₁, hrest⟩
  · obtain ⟨rfl, heq⟩ := ensure_trace h₁
    refine ⟨fun _ => rfl, ?_⟩
    unfold JupiterExecutor.verifyOnchainFee at heq
    split at heq
    · rename_i hgt
      cases heq
      have hnot : ¬ o.feeLamports ≤ x.maxFeeLamports := UInt64.not_le.mpr hgt
      simp [Reported, isUnknown, hnot]
    · cases heq
  obtain ⟨rfl, hu⟩ := ensure_trace h₁
  have hle := hfee u hu.symm
  rw [List.nil_append, ← ValueBasis.priceFill_isOk_iff, and_iff_right hle]
  rcases Prog.trace_bindE hrest with ⟨e, h₂, rfl⟩ | ⟨t₃, t₄, v, rfl, h₂, hfill⟩
  · obtain ⟨rfl, he⟩ := ensure_trace h₂
    refine ⟨fun _ => rfl, ?_⟩
    simp [Reported, priceFill_isUnknown he.symm, ← he]
  obtain ⟨rfl, hv⟩ := ensure_trace h₂
  rw [List.nil_append, ← hv]
  obtain ⟨e, h₃, rfl⟩ | ⟨t₅, t₆, confirmedAt, rfl, h₃, hclock⟩ := Prog.trace_bindE hfill
  · obtain ⟨_, -, heq⟩ := inquire_trace h₃
    cases heq
  obtain ⟨_, rfl, -⟩ := inquire_trace h₃
  obtain ⟨e, h₄, rfl⟩ | ⟨t₇, t₈, finished, rfl, h₄, hdone⟩ := Prog.trace_bindE hclock
  · obtain ⟨_, -, heq⟩ := inquire_trace h₄
    cases heq
  obtain ⟨_, rfl, -⟩ := inquire_trace h₄
  obtain ⟨rfl, rfl⟩ := Prog.trace_done_iff.mp hdone
  refine ⟨fun _ => rfl, ?_⟩
  exact ⟨fun _ => ⟨v, rfl⟩, fun _ e heq => nomatch heq⟩

/-! ## The result -/

/-- The wait for the confirmation asks for the status only, and fails for sure only where it read an
error. -/
theorem awaitConfirmation_trace {x : JupiterExecutor} {signature : String} {t : NetTrace}
    {res : Except ExecutionError Unit} (h : (x.awaitConfirmation signature).Trace t res) :
    OnlySends (.getSignatureStatuses signature) t ∧
      ∀ e, res = .error e → isUnknown e ∨ ∃ endpoint, ∃ status : SignatureStatus,
        (endpoint, .ok (some status)) ∈ replies (.getSignatureStatuses signature) t ∧
          status.err ≠ none := by
  obtain ⟨now, t', rfl, hloop⟩ := Prog.trace_perform_bind_iff.mp h
  obtain ⟨hsends, hres⟩ := awaitLoop_trace hloop
  exact ⟨hsends, hres⟩

/-- What follows the submission of a transaction that landed. -/
theorem settle_trace {x : JupiterExecutor} {r : ExecutionRequest} {chain : Landing}
    {started : Time} {t : NetTrace} {res : Except ExecutionError Fill}
    (h : Prog.Trace (ExceptT.run (x.settle r chain.owner chain.signature started)) t res)
    (hstatus : ∀ endpoint (status : SignatureStatus),
      (endpoint, .ok (some status)) ∈ replies (.getSignatureStatuses chain.signature) t →
        status.err = none)
    (htransaction : ∀ endpoint (tx : Transaction),
      (endpoint, .ok (some tx)) ∈ replies (.getTransaction chain.signature) t →
        tx = chain.transaction) :
    (∀ wire, replies (.sendTransaction wire) t = []) ∧
      (Reported res ↔ (Fetched chain t → Accepts x r chain.owner chain.transaction)) := by
  unfold JupiterExecutor.settle at h
  rcases Prog.trace_bindE h with ⟨e, hawait, rfl⟩ | ⟨t₁, t', _, rfl, hawait, hrest⟩
  · -- the confirmation ended with an error
    obtain ⟨hsends, hres⟩ := awaitConfirmation_trace hawait
    refine ⟨fun wire => hsends (.sendTransaction wire) nofun, ?_⟩
    have hunknown : isUnknown e := by
      rcases hres e rfl with hunknown | ⟨endpoint, status, hmem, herr⟩
      · exact hunknown
      · exact absurd (hstatus endpoint status hmem) herr
    have hfetched : ¬ Fetched chain t := by
      rintro ⟨endpoint, tx, hmem⟩
      rw [hsends (.getTransaction chain.signature) nofun] at hmem
      exact absurd hmem List.not_mem_nil
    exact iff_of_true (fun e' heq => by cases heq; exact hunknown) fun hf => absurd hf hfetched
  obtain ⟨hawaited, -⟩ := awaitConfirmation_trace hawait
  have hfetches : ∀ t₂, replies (.getTransaction chain.signature) (t₁ ++ t₂) =
      replies (.getTransaction chain.signature) t₂ := by
    intro t₂
    rw [replies_append, hawaited (.getTransaction chain.signature) nofun, List.nil_append]
  rcases Prog.trace_bindE hrest with ⟨e, hverify, rfl⟩ | ⟨t₂, t₃, o, rfl, hverify, hprice⟩
  · -- the verification ended with an error
    have hverified := verifyTries_trace hverify
    refine ⟨fun wire => ?_, ?_⟩
    · rw [replies_append, hawaited (.sendTransaction wire) nofun,
        hverified.sends (.sendTransaction wire) nofun, List.nil_append]
    rcases hverified.error e rfl with ⟨hunknown, hnone⟩ | ⟨endpoint, tx, hmem, err, hfailed⟩
    · refine iff_of_true (fun e' heq => by cases heq; exact hunknown) ?_
      rintro ⟨endpoint, tx, hmem⟩ o hparse
      obtain rfl := htransaction endpoint tx hmem
      rw [hfetches] at hmem
      exact absurd hparse (hnone endpoint _ hmem o)
    · obtain rfl := htransaction endpoint tx (by rw [hfetches]; exact hmem)
      exact absurd hfailed (parseSwapTransaction_ne_failed chain.succeeded err)
  · -- a swap was found in the transaction
    have hverified := verifyTries_trace hverify
    obtain ⟨hsends, hreported⟩ := priceOutcome_trace hprice
    refine ⟨fun wire => ?_, ?_⟩
    · rw [replies_append, replies_append, hawaited (.sendTransaction wire) nofun,
        hverified.sends (.sendTransaction wire) nofun, hsends, List.nil_append, List.nil_append]
    obtain ⟨endpoint, tx, hmem, hparse⟩ := hverified.ok o rfl
    have hfetched : (endpoint, .ok (some tx)) ∈
        replies (.getTransaction chain.signature) (t₁ ++ (t₂ ++ t₃)) := by
      rw [hfetches, replies_append, hsends, List.append_nil]
      exact hmem
    obtain rfl := htransaction endpoint tx hfetched
    rw [hreported]
    constructor
    · intro haccepted _ o' hparse'
      obtain rfl := SwapOutcome.executed.inj (hparse.symm.trans hparse')
      exact haccepted
    · intro haccepts
      exact haccepts ⟨endpoint, _, hfetched⟩ o hparse

/-- **What a landed swap is reported as**: a fill or `Unknown`, exactly if no refusal is read from
the submission and the fetched transaction is accepted. -/
theorem landed_reported_iff (x : JupiterExecutor) (r : ExecutionRequest) (chain : Landing)
    (t : NetTrace) (res : Except ExecutionError Fill)
    (hrun : Prog.Trace (ExceptT.run (x.execute r)) t res) (hchain : chain.Explains t) :
    Reported res ↔ ¬ RefusalRead chain.wire t ∧
      (Fetched chain t → Accepts x r chain.owner chain.transaction) := by
  unfold JupiterExecutor.execute at hrun
  rcases Prog.trace_bindE hrun with ⟨e, hstart, rfl⟩ | ⟨t₀, t', started, rfl, hstart, hrun₁⟩
  · obtain ⟨_, -, heq⟩ := inquire_trace hstart
    cases heq
  obtain ⟨started', rfl, -⟩ := inquire_trace hstart
  rcases Prog.trace_bindE hrun₁ with ⟨e, hprepare, rfl⟩ | ⟨t₁, t'', p, rfl, hprepare, hrun₂⟩
  · -- without a submission nothing lands
    obtain ⟨x, hx, -⟩ := hchain.relayed
    rw [replies_append, replies_of_noPost hprepare (prepare_noPost _ r)] at hx
    exact absurd hx List.not_mem_nil
  obtain ⟨howner, hwire⟩ := prepare_trace hprepare
  have hprepared := replies_of_noPost hprepare (prepare_noPost x r)
  obtain ⟨owner, wire⟩ := p
  have howner' : owner ∈ signers ([⟨.instant, started'⟩] ++ (t₁ ++ t'')) := by
    rw [signers_append, signers_append]
    exact List.mem_append_right _ (List.mem_append_left _ howner)
  have hwire' : wire ∈ signed ([⟨.instant, started'⟩] ++ (t₁ ++ t'')) := by
    rw [signed_append, signed_append]
    exact List.mem_append_right _ (List.mem_append_left _ hwire)
  obtain rfl := hchain.owner owner howner'
  obtain rfl := hchain.wire wire hwire'
  have hreplies : ∀ m, replies m ([⟨.instant, started'⟩] ++ (t₁ ++ t'')) = replies m t'' := by
    intro m
    rw [replies_append, replies_append, hprepared]
    rfl
  have hrefusal : ∀ t, replies (.sendTransaction chain.wire) t =
        replies (.sendTransaction chain.wire) ([⟨.instant, started'⟩] ++ (t₁ ++ t'')) →
      (RefusalRead chain.wire ([⟨.instant, started'⟩] ++ (t₁ ++ t'')) ↔
        RefusalRead chain.wire t) := by
    intro t ht
    unfold RefusalRead failureLines
    rw [ht]
  rcases Prog.trace_bindE hrun₂ with ⟨e, hsubmit, rfl⟩ | ⟨t₂, t₃, signature, rfl, hsubmit, hsettle⟩
  · -- the submission ended with an error
    obtain ⟨hsends, -, hread⟩ := submit_trace hsubmit
    have hfetched : ¬ Fetched chain ([⟨.instant, started'⟩] ++ (t₁ ++ t'')) := by
      rintro ⟨endpoint, tx, hmem⟩
      rw [hreplies, hsends (.getTransaction chain.signature) nofun] at hmem
      exact absurd hmem List.not_mem_nil
    rw [hrefusal t'' (hreplies _).symm, hread, and_iff_left fun hf => absurd hf hfetched]
    constructor
    · rintro hreported ⟨e', heq, hknown⟩
      cases heq
      have hunknown := hreported e rfl
      rw [hknown] at hunknown
      exact nomatch hunknown
    · intro hnot e' heq
      cases heq
      cases hknown : isUnknown e with
      | true => rfl
      | false => exact absurd ⟨e, rfl, hknown⟩ hnot
  · -- the submission was accepted
    obtain ⟨hsends, haccepted, hread⟩ := submit_trace hsubmit
    have hfetches : ∀ m, m ≠ .sendTransaction chain.wire →
        replies m ([⟨.instant, started'⟩] ++ (t₁ ++ (t₂ ++ t₃))) = replies m t₃ := by
      intro m hm
      rw [hreplies, replies_append, hsends m hm, List.nil_append]
    obtain ⟨endpoint, hmem⟩ := haccepted signature rfl
    have hmem' : (endpoint, .ok (some signature)) ∈ replies (.sendTransaction chain.wire)
        ([⟨.instant, started'⟩] ++ (t₁ ++ (t₂ ++ t₃))) := by
      rw [hreplies, replies_append, List.mem_append]
      exact .inl hmem
    obtain rfl := hchain.signature endpoint signature hmem'
    obtain ⟨hquiet, hreported⟩ := settle_trace hsettle
      (fun endpoint status h => hchain.status endpoint status
        (by rw [hfetches (.getSignatureStatuses chain.signature) nofun]; exact h))
      (fun endpoint tx h => hchain.transaction endpoint tx
        (by rw [hfetches (.getTransaction chain.signature) nofun]; exact h))
    have hnot : ¬ RefusalRead chain.wire t₂ := by
      rw [hread]
      rintro ⟨e, heq, -⟩
      exact nomatch heq
    rw [hrefusal t₂ (by rw [hreplies, replies_append, hquiet, List.append_nil]),
      and_iff_right hnot, hreported]
    unfold Fetched
    rw [hfetches (.getTransaction chain.signature) nofun]

/-! ## A swap that landed and is reported as failed -/

/-- An executor with two endpoints. -/
def sampleExecutor : JupiterExecutor where
  rpc := RpcPool.withAttempts ["https://a", "https://b"] 1
  signerEnv := some "SIGNER"
  apiKeyEnv := none
  maxQuoteAgeSecs := 5
  maxFeeLamports := 500000
  allowedProgramIds := []
  priorityFeeLamports := 10000
  confirmTimeout := 60000
  confirmPoll := 500
  confirmPoll_pos := by decide

/-- The sale of 100 tokens for 200 units of the base mint. -/
def sampleSale : ExecutionRequest :=
  { orderId := "order"
    quote :=
      { inputMint := "token", outputMint := "base", inputAmount := 100, outputAmount := 200
        priceImpactBps := 0, route := "route", observedAt := 0 }
    maxSlippageBps := 100
    maxPriceImpactBps := 100
    minOutputAmount := 200
    inputDecimals := 0
    outputDecimals := 0
    valueBasis := .outputUnitPriceUsd 1 }

/-- The transaction of the sale, as the chain has it. -/
def sampleLanding : Landing where
  owner := "owner"
  wire := "wire"
  signature := "signature"
  transaction :=
    { accountKeys := none
      blockTime := none
      txMeta := some
        { err := none, fee := some 5000, preBalances := none, postBalances := none
          preTokenBalances := [⟨some 0, some "token", some "owner", some 100⟩,
            ⟨some 1, some "base", some "owner", some 0⟩]
          postTokenBalances := [⟨some 0, some "token", some "owner", some 0⟩,
            ⟨some 1, some "base", some "owner", some 200⟩] } }
  succeeded := by
    intro m hm
    cases hm
    rfl

/-- The replies of the endpoints to a request. -/
abbrev Replies := (endpoint : String) → (m : RpcMethod) → Except HttpFailure m.Value

/-- The outside world up to the submission, with the given replies of the endpoints. -/
def sampleAnswers (post : Replies) : ℕ → (o : NetOp) → NetRes o
  | _, .utcNow => (0 : Int)
  | _, .instant => (0 : Int)
  | _, .sleep _ => ()
  | _, .pause ms since => ⟨since + ms, Int.le_refl _⟩
  | _, .readSigner _ => .ok "owner"
  | _, .readApiKey _ => .ok none
  | _, .postSwap _ => .body (some "encoded")
  | _, .recordRateLimit _ => (2 : UInt64)
  | _, .clearRateLimit => ()
  | _, .decode _ => .ok "unsigned"
  | _, .validate .. => .ok ()
  | _, .sign _ => .ok "wire"
  | _, .post endpoint m => post endpoint m

/-- The first endpoint relays the submission, and its reply is lost; the second one then knows the
transaction already. -/
def lostReply : Replies
  | "https://a", .sendTransaction _ => .error (.transport "operation timed out")
  | _, .sendTransaction _ => .error (.rpcError "200 OK" (some
      "Transaction simulation failed: This transaction has already been processed"))
  | _, _ => .error (.transport "operation timed out")

/-- The endpoints know the transaction. -/
def indexed : Replies
  | _, .sendTransaction _ => .ok (some "signature")
  | _, .getSignatureStatuses _ => .ok (some ⟨none, some "confirmed"⟩)
  | _, .getTransaction _ => .ok (some sampleLanding.transaction)

/-- The run of the sale with the given replies of the endpoints. -/
def sampleRun (post : Replies) : NetTrace × Except ExecutionError Fill :=
  Prog.record (sampleAnswers post) (ExceptT.run (sampleExecutor.execute sampleSale)) 0

/-- A lost reply is explained by a swap that has landed. -/
theorem explains_lostReply : sampleLanding.Explains (sampleRun lostReply).1 where
  owner := by decide
  wire := by decide
  relayed := ⟨("https://a", .error (.transport "operation timed out")), List.mem_cons_self ..,
    by rintro _ ⟨⟩; rfl⟩
  signature := by
    intro endpoint signature h
    have hfailed : ∀ r ∈ replies (.sendTransaction "wire") (sampleRun lostReply).1,
        ∃ failure, r.2 = .error failure := by
      rintro r (_ | ⟨_, _ | ⟨_, h⟩⟩)
      · exact ⟨_, rfl⟩
      · exact ⟨_, rfl⟩
      · exact absurd h List.not_mem_nil
    obtain ⟨_, heq⟩ := hfailed _ h
    exact nomatch heq
  status := fun _ _ h => absurd h List.not_mem_nil
  transaction := fun _ _ h => absurd h List.not_mem_nil

/-- So is one that is found later. -/
theorem explains_indexed : sampleLanding.Explains (sampleRun indexed).1 := by
  have hsent : replies (.sendTransaction "wire") (sampleRun indexed).1 =
      [("https://a", .ok (some "signature"))] := by decide +kernel
  have hstatus : replies (.getSignatureStatuses "signature") (sampleRun indexed).1 =
      [("https://a", .ok (some ⟨none, some "confirmed"⟩))] := by decide +kernel
  have htransaction : replies (.getTransaction "signature") (sampleRun indexed).1 =
      [("https://a", .ok (some sampleLanding.transaction))] := by decide +kernel
  constructor
  case owner => decide +kernel
  case wire => decide +kernel
  case relayed =>
    refine ⟨("https://a", .ok (some "signature")), ?_, nofun⟩
    exact hsent ▸ List.mem_singleton_self _
  case signature =>
    intro endpoint signature h
    have heq := List.mem_singleton.mp (hsent ▸ h)
    cases heq
    rfl
  case status =>
    intro endpoint status h
    have heq := List.mem_singleton.mp (hstatus ▸ h)
    cases heq
    rfl
  case transaction =>
    intro endpoint tx h
    have heq := List.mem_singleton.mp (htransaction ▸ h)
    cases heq
    rfl

/-- The swap that is found later is reported exactly if it is accepted. -/
theorem landed_reported_iff_sample :
    Reported (sampleRun indexed).2 ↔ ¬ RefusalRead "wire" (sampleRun indexed).1 ∧
      (Fetched sampleLanding (sampleRun indexed).1 →
        Accepts sampleExecutor sampleSale "owner" sampleLanding.transaction) :=
  landed_reported_iff sampleExecutor sampleSale sampleLanding _ _ (Prog.trace_record _ _ _)
    explains_indexed

/-- **A swap that landed is reported as failed**: the first endpoint relays it and times out, the
second one refuses it because it was already processed. -/
theorem landed_swap_failed :
    sampleLanding.Explains (sampleRun lostReply).1 ∧
      Prog.Trace (ExceptT.run (sampleExecutor.execute sampleSale)) (sampleRun lostReply).1
        (sampleRun lostReply).2 ∧ ¬ Reported (sampleRun lostReply).2 :=
  ⟨explains_lostReply, Prog.trace_record _ _ _, by decide +kernel⟩

end SolanaBot.Analysis
