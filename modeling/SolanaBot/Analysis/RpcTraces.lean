import SolanaBot.Library.Patterns
import SolanaBot.Library.Traces
import SolanaBot.Model.Jupiter

/-!
# What the RPC pool makes of the replies

`replies m t` are the replies that the requests with the method `m` got in the trace `t`.
A call of the pool sends requests with its own method only; it succeeds with a value exactly
if some endpoint answered with that value (`Answers`), and otherwise its error lists the
failures of all requests in order (`call_trace`). The error text of a submission counts as a
refusal exactly if the failure of a single request does (`isRefusal_unavailable`).
-/

set_option autoImplicit false

namespace SolanaBot.Analysis

open SolanaBot.Library SolanaBot.Model

/-- The network operations of a run with their answers. -/
abbrev NetTrace := List (Exchange NetOp NetRes)

/-- A request with the method `m` and its reply. -/
def posted (endpoint : String) (m : RpcMethod) (r : Except HttpFailure m.Value) :
    Exchange NetOp NetRes := ⟨.post endpoint m, r⟩

/-- The reply to a request with the method `m`, and the endpoint it came from. -/
def reply (m : RpcMethod) :
    Exchange NetOp NetRes → Option (String × Except HttpFailure m.Value)
  | ⟨.post endpoint m', r⟩ => if h : m' = m then some (endpoint, h ▸ r) else none
  | _ => none

/-- The replies to the requests with the method `m`. -/
def replies (m : RpcMethod) (t : NetTrace) : List (String × Except HttpFailure m.Value) :=
  t.filterMap (reply m)

/-- No exchange brings no reply. -/
@[simp] theorem replies_nil (m : RpcMethod) : replies m [] = [] := rfl

/-- The replies of two traces. -/
@[simp] theorem replies_append (m : RpcMethod) (t₁ t₂ : NetTrace) :
    replies m (t₁ ++ t₂) = replies m t₁ ++ replies m t₂ := List.filterMap_append

/-- A post of the method brings its reply. -/
@[simp] theorem replies_post (m : RpcMethod) (endpoint : String)
    (r : Except HttpFailure m.Value) (t : NetTrace) :
    replies m (posted endpoint m r :: t) = (endpoint, r) :: replies m t := by
  unfold replies posted
  rw [List.filterMap_cons]
  simp [reply]

/-- A post of another method brings none. -/
theorem replies_post_of_ne {m m' : RpcMethod} (h : m' ≠ m) (endpoint : String)
    (r : Except HttpFailure m'.Value) (t : NetTrace) :
    replies m (posted endpoint m' r :: t) = replies m t := by
  unfold replies posted
  rw [List.filterMap_cons]
  simp [reply, h]

/-- Sleeping brings none. -/
@[simp] theorem replies_sleep (m : RpcMethod) (ms : ℕ) (r : NetRes (.sleep ms)) (t : NetTrace) :
    replies m (⟨.sleep ms, r⟩ :: t) = replies m t := rfl

/-- Pausing brings none. -/
@[simp] theorem replies_pause (m : RpcMethod) (ms : ℕ) (since : Time)
    (r : NetRes (.pause ms since)) (t : NetTrace) :
    replies m (⟨.pause ms since, r⟩ :: t) = replies m t := rfl

/-- The line of the error text for a request that failed. -/
def failureLine {α : Type} : String × Except HttpFailure α → Option String
  | (endpoint, .error failure) => some (failure.line endpoint)
  | (_, .ok _) => none

/-- The lines of the error text, in the order of the requests. -/
def failureLines (m : RpcMethod) (t : NetTrace) : List String :=
  (replies m t).filterMap failureLine

/-- The trace sends requests with the method `m` only, and `value` is what was answered. -/
structure Answers (m : RpcMethod) (t : NetTrace) (value : Option m.Value) : Prop where
  others : ∀ m', m' ≠ m → replies m' t = []
  answered : ∀ v, (∃ endpoint, (endpoint, .ok v) ∈ replies m t) ↔ value = some v

/-- Without a reply there is no answer. -/
theorem Answers.nil (m : RpcMethod) : Answers m [] none :=
  ⟨fun _ _ => rfl, fun v => by simp⟩

/-- A failed request before other requests. -/
theorem Answers.failed {m : RpcMethod} {t : NetTrace} {value : Option m.Value}
    (h : Answers m t value) (endpoint : String) (failure : HttpFailure) :
    Answers m (posted endpoint m (.error failure) :: t) value := by
  refine ⟨fun m' hm' => ?_, fun v => ?_⟩
  · rw [replies_post_of_ne (Ne.symm hm')]
    exact h.others m' hm'
  · rw [replies_post, ← h.answered v]
    simp

/-- A reply with a value is the answer. -/
theorem Answers.succeeded {m : RpcMethod} (endpoint : String) (v : m.Value) :
    Answers m [posted endpoint m (.ok v)] (some v) := by
  refine ⟨fun m' hm' => ?_, fun v' => ?_⟩
  · rw [replies_post_of_ne (Ne.symm hm')]
    rfl
  · rw [replies_post]
    simp [eq_comm]

/-- A sleep between requests. -/
theorem Answers.slept {m : RpcMethod} {t : NetTrace} {value : Option m.Value}
    (h : Answers m t value) (ms : ℕ) (r : NetRes (.sleep ms)) :
    Answers m (⟨.sleep ms, r⟩ :: t) value :=
  ⟨fun m' hm' => h.others m' hm', h.answered⟩

/-- Requests that all failed, before other requests. -/
theorem Answers.append {m : RpcMethod} {t₁ t₂ : NetTrace} {value : Option m.Value}
    (h₁ : Answers m t₁ none) (h₂ : Answers m t₂ value) : Answers m (t₁ ++ t₂) value := by
  refine ⟨fun m' hm' => ?_, fun v => ?_⟩
  · rw [replies_append, h₁.others m' hm', h₂.others m' hm', List.append_nil]
  · rw [replies_append, ← h₂.answered v]
    have hnone := h₁.answered v
    simp only [List.mem_append, exists_or]
    rw [or_iff_right]
    exact fun h => nomatch hnone.mp h

/-- One pass over the endpoints. -/
theorem tryEndpoints_trace (m : RpcMethod) (endpoints errors : List String) (step : UInt32)
    {t : NetTrace} {res : Except (List String × UInt32) m.Value}
    (h : (RpcPool.tryEndpoints m endpoints errors step).Trace t res) :
    Answers m t res.toOption ∧
      ∀ errors' step', res = .error (errors', step') → errors' = errors ++ failureLines m t := by
  induction endpoints generalizing errors step t with
  | nil =>
      obtain ⟨rfl, rfl⟩ := Prog.trace_done_iff.mp h
      refine ⟨Answers.nil m, fun errors' step' heq => ?_⟩
      cases heq
      simp [failureLines]
  | cons endpoint endpoints ih =>
      unfold RpcPool.tryEndpoints at h
      obtain ⟨r, t', rfl, h'⟩ := Prog.trace_perform_bind_iff.mp h
      change Except HttpFailure m.Value at r
      cases r with
      | ok v =>
          obtain ⟨rfl, rfl⟩ := Prog.trace_done_iff.mp h'
          exact ⟨.succeeded endpoint v, fun _ _ heq => nomatch heq⟩
      | error failure =>
          have hline : ∀ t, failureLines m (posted endpoint m (.error failure) :: t) =
              failure.line endpoint :: failureLines m t := by
            intro t
            simp [failureLines, failureLine]
          have hrest : ∀ step' t, (RpcPool.tryEndpoints m endpoints
              (errors ++ [failure.line endpoint]) step').Trace t res →
              Answers m t res.toOption ∧ ∀ errors' step'', res = .error (errors', step'') →
                errors' = errors ++ failureLines m (posted endpoint m (.error failure) :: t) := by
            intro step' t ht
            obtain ⟨hanswers, herrors⟩ := ih _ _ ht
            refine ⟨hanswers, fun errors' step'' heq => ?_⟩
            rw [herrors errors' step'' heq, hline, List.append_assoc, List.singleton_append]
          cases failure with
          | rateLimited status retryAfter =>
              obtain ⟨u, t'', rfl, h''⟩ := Prog.trace_perform_bind_iff.mp h'
              obtain ⟨hanswers, herrors⟩ := hrest _ _ h''
              exact ⟨(hanswers.slept _ u).failed endpoint _, herrors⟩
          | transport e =>
              obtain ⟨hanswers, herrors⟩ := hrest _ _ h'
              exact ⟨hanswers.failed endpoint _, herrors⟩
          | rpcError status message =>
              obtain ⟨hanswers, herrors⟩ := hrest _ _ h'
              exact ⟨hanswers.failed endpoint _, herrors⟩
          | badBody status e =>
              obtain ⟨hanswers, herrors⟩ := hrest _ _ h'
              exact ⟨hanswers.failed endpoint _, herrors⟩

/-- The passes that remain. -/
theorem tryPasses_trace (pool : RpcPool) (m : RpcMethod) (passes attempt : ℕ)
    (errors : List String) (step : UInt32) {t : NetTrace} {res : Except RpcError m.Value}
    (h : (pool.tryPasses m passes attempt errors step).Trace t res) :
    Answers m t res.toOption ∧
      ∀ e, res = .error e → e = .unavailable ("; ".intercalate (errors ++ failureLines m t)) := by
  induction passes generalizing attempt errors step t with
  | zero =>
      obtain ⟨rfl, rfl⟩ := Prog.trace_done_iff.mp h
      refine ⟨Answers.nil m, fun e heq => ?_⟩
      cases heq
      simp [failureLines]
  | succ passes ih =>
      unfold RpcPool.tryPasses at h
      -- the sleep before a later pass adds nothing to the replies
      obtain ⟨t₀, t₁, _, rfl, h₀, h⟩ := Prog.trace_bind_iff.mp h
      have hslept : ∀ t' value, Answers m t' value → Answers m (t₀ ++ t') value ∧
          failureLines m (t₀ ++ t') = failureLines m t' := by
        intro t' value h'
        unfold RpcPool.betweenPasses at h₀
        split at h₀
        · obtain ⟨u, t₂, rfl, h₂⟩ := Prog.trace_perform_bind_iff.mp h₀
          obtain ⟨rfl, -⟩ := Prog.trace_done_iff.mp h₂
          exact ⟨h'.slept _ u, rfl⟩
        · obtain ⟨rfl, -⟩ := Prog.trace_done_iff.mp h₀
          exact ⟨h', rfl⟩
      obtain ⟨t₂, t₃, pass, rfl, hpass, h⟩ := Prog.trace_bind_iff.mp h
      obtain ⟨hanswers, herrors⟩ := tryEndpoints_trace m pool.endpoints errors step hpass
      cases pass with
      | ok v =>
          obtain ⟨rfl, rfl⟩ := Prog.trace_done_iff.mp h
          rw [List.append_nil]
          exact ⟨(hslept _ _ hanswers).1, fun _ heq => nomatch heq⟩
      | error p =>
          obtain ⟨errors', step'⟩ := p
          obtain rfl := herrors errors' step' rfl
          obtain ⟨hanswers', herrors'⟩ := ih _ _ _ h
          obtain ⟨hall, hlines⟩ := hslept _ _ (hanswers.append hanswers')
          refine ⟨hall, fun e heq => ?_⟩
          rw [herrors' e heq, hlines, List.append_assoc]
          unfold failureLines
          rw [replies_append, List.filterMap_append]

/-- A call succeeds exactly with what was answered; its error lists the failed requests. -/
theorem call_trace {pool : RpcPool} {m : RpcMethod} {t : NetTrace} {res : Except RpcError m.Value}
    (h : (pool.call m).Trace t res) :
    Answers m t res.toOption ∧
      ∀ e, res = .error e → e = .unavailable ("; ".intercalate (failureLines m t)) :=
  tryPasses_trace pool m _ _ [] _ h

/-! ## Refusals -/

/-- Joined texts in lower case are the joined texts in lower case. -/
theorem lowercase_intercalate (lines : List String) :
    lowercase ("; ".intercalate lines) = [';', ' '].intercalate (lines.map lowercase) := by
  unfold lowercase
  rw [String.toList_intercalate, flatMap_intercalate, List.map_map]
  rfl

/-- The searched texts do not reach over a separator of the error text. -/
theorem refusalTexts_separated : ∀ text ∈ refusalTexts,
    text.toList ≠ [] ∧ ';' ∉ text.toList ∧ ':' ∉ text.toList ∧ text.toList.head? ≠ some ' ' := by
  decide

/-- The text of an unavailable pool is a refusal exactly if one of its lines is. -/
theorem isRefusal_unavailable (lines : List String) :
    isRefusal (RpcError.unavailable ("; ".intercalate lines)).toText ↔
      ∃ line ∈ lines, isRefusal line := by
  unfold isRefusal
  simp only [List.any_eq_true, decide_eq_true_eq]
  have htext : lowercase (RpcError.unavailable ("; ".intercalate lines)).toText =
      "no rpc endpoint succeeded".toList ++ ':' :: ' ' :: lowercase ("; ".intercalate lines) := by
    unfold RpcError.toText lowercase
    rw [String.toList_append, List.flatMap_append]
    rfl
  rw [htext, lowercase_intercalate]
  constructor
  · rintro ⟨text, htext, hinfix⟩
    obtain ⟨hne, hsemi, hcolon, hhead⟩ := refusalTexts_separated text htext
    rw [infix_append_cons_iff hcolon, infix_cons_iff_of_head hne hhead,
      infix_intercalate_iff hne hsemi hhead] at hinfix
    rcases hinfix with hinfix | ⟨l, hl, hinfix⟩
    · -- the fixed words contain none of the texts
      have hfixed : ∀ text ∈ refusalTexts,
          ¬ text.toList <:+: "no rpc endpoint succeeded".toList := by decide
      exact absurd hinfix (hfixed text htext)
    · obtain ⟨line, hline, rfl⟩ := List.mem_map.mp hl
      exact ⟨line, hline, text, htext, hinfix⟩
  · rintro ⟨line, hline, text, htext, hinfix⟩
    obtain ⟨hne, hsemi, hcolon, hhead⟩ := refusalTexts_separated text htext
    refine ⟨text, htext, ?_⟩
    rw [infix_append_cons_iff hcolon, infix_cons_iff_of_head hne hhead,
      infix_intercalate_iff hne hsemi hhead]
    exact .inr ⟨lowercase line, List.mem_map_of_mem hline, hinfix⟩

end SolanaBot.Analysis
