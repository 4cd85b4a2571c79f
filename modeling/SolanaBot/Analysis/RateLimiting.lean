import SolanaBot.Analysis.LandedSwaps
import SolanaBot.Library.Backoff
import SolanaBot.Library.Permissions
import SolanaBot.Model.QuoteRequests

/-!
# The rate limiter

The users of an executor share its backoff window. Whatever they do, and in whatever order, the window
is the one of the last refusal, and is gone after a success; the wait doubles with every refusal in a row
(`window_run`). A check that finds no window permits one quote request of the same user. So while the
checks find the window in force, each user sends one request at most, and only if it had checked before
and has sent none since (`quotes_held_back`).
-/

set_option autoImplicit false

namespace SolanaBot.Analysis

open SolanaBot.Library SolanaBot.Model

/-! ## The window -/

/-- What can happen to the window. -/
inductive WindowEvent where
  | refused (now : Time) (retryAfter : Option UInt64)
  | succeeded
deriving DecidableEq

/-- The event is a refusal. -/
def WindowEvent.isRefused : WindowEvent → Bool
  | .refused .. => true
  | .succeeded => false

/-- What an operation does to the window. -/
def windowEvent (e : QuoteEnv) : QuoteOp → Option WindowEvent
  | .net (.recordRateLimit retryAfter) => some (.refused e.now retryAfter)
  | .net .clearRateLimit => some .succeeded
  | _ => none

/-- What happened to the window along a schedule, oldest first. -/
def windowEvents (users : Pool QuoteOp QuoteRes RateLimitState) (schedule : List (Label QuoteEnv)) :
    List WindowEvent :=
  users.history limited (fun e o _ events => events ++ (windowEvent e o).toList) [] schedule

/-- The refusals since the last success. -/
def refusalsInRow (events : List WindowEvent) : ℕ := trailing WindowEvent.isRefused events

/-- The wait in seconds after a refusal: what was asked for, or a power of two, and two minutes at
most. -/
def waitSecs (refusals : ℕ) (retryAfter : Option UInt64) : ℕ :=
  min (retryAfter.elim (doubling 1 6 64 refusals) UInt64.toNat) 120

/-- The last moment of the window, if there is one. -/
def windowEnd (events : List WindowEvent) : Option Time :=
  match events.getLast? with
  | some (.refused now retryAfter) => some (now + seconds (waitSecs (refusalsInRow events) retryAfter))
  | _ => none

/-- The window is the one that the events have left. -/
structure LeftBy (s : RateLimitState) (events : List WindowEvent) : Prop where
  refusals : s.consecutive429s.toNat = min (refusalsInRow events) (2 ^ 32 - 1)
  backoffUntil : s.backoffUntil = windowEnd events

/-- The counter goes up by one and stops at its greatest value. -/
theorem saturatingSucc_toNat (n : UInt32) : (saturatingSucc n).toNat = min (n.toNat + 1) (2 ^ 32 - 1) := by
  have hn := n.toNat_lt
  unfold saturatingSucc
  split
  · rw [UInt32.toNat_add, UInt32.toNat_one]
    omega
  · omega

/-- The wait of the source, from its counter. -/
theorem backoffSecs_toNat {n : UInt32} {refusals : ℕ} (hn : n.toNat = min refusals (2 ^ 32 - 1))
    (retryAfter : Option UInt64) :
    (RateLimitState.backoffSecs n retryAfter).toNat = waitSecs refusals retryAfter := by
  have hmin : ∀ a : UInt64, (min a 120).toNat = min a.toNat 120 := by
    intro a
    change (if a ≤ 120 then a else 120).toNat = min a.toNat 120
    rw [min_def, apply_ite UInt64.toNat]
    rfl
  have hdoublings : min n.toNat 6 = min refusals 6 := by omega
  unfold RateLimitState.backoffSecs waitSecs
  rw [hmin, hdoublings]
  cases retryAfter with
  | some secs => rfl
  | none =>
      have hpow : ∀ k ≤ 6, ((2 : UInt64) ^ k).toNat = min (1 * 2 ^ k) 64 := by decide
      exact congrArg (min · 120) (hpow _ (min_le_right _ _))

/-- After a refusal the window ends after the wait. -/
theorem windowEnd_refused (events : List WindowEvent) (now : Time) (retryAfter : Option UInt64) :
    windowEnd (events ++ [.refused now retryAfter]) =
      some (now + seconds (waitSecs (refusalsInRow events + 1) retryAfter)) := by
  unfold windowEnd refusalsInRow
  rw [List.getLast?_append, trailing_snoc]
  rfl

/-- The state after a refusal is the one that its events leave. -/
theorem leftBy_refused {s : RateLimitState} {events : List WindowEvent} (h : LeftBy s events)
    (now : Time) (retryAfter : Option UInt64) :
    LeftBy (s.recordRateLimit now retryAfter).2 (events ++ [.refused now retryAfter]) := by
  have hcount : (saturatingSucc s.consecutive429s).toNat =
      min (refusalsInRow events + 1) (2 ^ 32 - 1) := by
    rw [saturatingSucc_toNat, h.refusals]
    omega
  constructor
  · unfold refusalsInRow
    rw [trailing_snoc]
    exact hcount
  · rw [windowEnd_refused, ← backoffSecs_toNat hcount retryAfter]
    rfl

/-- After a success there is no window. -/
theorem leftBy_succeeded (events : List WindowEvent) :
    LeftBy ⟨none, 0⟩ (events ++ [.succeeded]) := by
  constructor
  · unfold refusalsInRow
    rw [trailing_snoc]
    rfl
  · unfold windowEnd
    rw [List.getLast?_append]
    rfl

/-- One operation leaves the window of its event. -/
theorem window_exec (e : QuoteEnv) (o : QuoteOp) (s : RateLimitState) (events : List WindowEvent)
    (h : LeftBy s events) :
    LeftBy (limited.exec e o s).2 (events ++ (windowEvent e o).toList) := by
  have hkept : LeftBy s (events ++ []) := by rwa [List.append_nil]
  cases o with
  | net o =>
      cases o with
      | recordRateLimit retryAfter => exact leftBy_refused h e.now retryAfter
      | clearRateLimit => exact leftBy_succeeded events
      | _ => exact hkept
  | _ => exact hkept

/-- A run leaves the window of its events. -/
theorem window_run {users : Pool QuoteOp QuoteRes RateLimitState} (hfresh : users.shared = .default)
    (schedule : List (Label QuoteEnv)) :
    LeftBy (users.run limited schedule).shared (windowEvents users schedule) := by
  have hstart : LeftBy users.shared [] := by
    rw [hfresh]
    exact ⟨rfl, rfl⟩
  exact Pool.history_preserves window_exec hstart schedule

/-! ## Quote requests -/

/-- A check that finds no window permits a quote request. -/
def checkPermits : Permissions QuoteOp QuoteRes Unit where
  earns
    | .rateLimitRemaining, answer =>
        match (answer : Option ℕ) with
        | none => some ()
        | some _ => none
    | _, _ => none
  uses
    | .getQuote .. => some ()
    | _ => none

/-- An exchange with the network needs no check. -/
theorem idle_net (o : NetOp) : checkPermits.Idle (.net o) := ⟨rfl, fun _ => rfl⟩

/-- A part of the executor that exchanges only needs no check. -/
theorem performs_shared {α : Type} (p : Execution α) :
    Prog.PerformsE checkPermits.Idle p.shared :=
  Prog.performs_interpret (fun o _ => Prog.performs_perform (idle_net o)) (Prog.performs_true _)

/-- An inquiry needs no check. -/
theorem performs_consult_net (o : NetOp) :
    Prog.PerformsE checkPermits.Idle (consult (.net o)) :=
  Prog.performsE_lift (Prog.performs_perform (idle_net o))

/-- Reading a quote needs no check. -/
theorem performs_readQuote (inputMint outputMint : String) (body : QuoteBody) :
    Prog.PerformsE checkPermits.Idle (JupiterExecutor.readQuote inputMint outputMint body) := by
  unfold JupiterExecutor.readQuote
  split
  · trivial
  · trivial
  · have hparse : ∀ r : Except ExecutionError UInt64,
        Prog.PerformsE checkPermits.Idle (ExceptT.mk (pure r) : Quoting UInt64) := fun _ => trivial
    apply Prog.performsE_bind (hparse _)
    intro inputAmount
    apply Prog.performsE_bind (hparse _)
    intro outputAmount
    exact Prog.performsE_bind (performs_consult_net _) fun _ => Prog.performsE_pure _

section Users

variable (x : JupiterExecutor)

/-- A request needs one check. -/
theorem within_requestQuote (inputMint outputMint : String) (amount : UInt64) (slippageBps : UInt16) :
    Prog.WithinE checkPermits (some ()) (x.requestQuote inputMint outputMint amount slippageBps) := by
  apply Prog.withinE_bind_of_performs (performs_shared _)
  intro apiKey
  -- the request uses the permission of the check up
  apply Prog.withinE_lift_perform_bind (fun _ h => h)
  intro reply
  apply Prog.withinE_of_performs
  split
  · trivial
  · exact Prog.performsE_bind (performs_consult_net _) fun _ => trivial
  · trivial
  · trivial
  · exact Prog.performsE_bind (performs_consult_net _) fun _ => performs_readQuote _ _ _

/-- A quote makes the check that its request needs. -/
theorem within_quote (inputMint outputMint : String) (amount : UInt64) (slippageBps : UInt16) :
    Prog.WithinE checkPermits none (x.quote inputMint outputMint amount slippageBps) := by
  unfold JupiterExecutor.quote
  split
  · trivial
  · apply Prog.withinE_lift_perform_bind (by simp [checkPermits])
    intro remaining
    cases remaining with
    | some ms => trivial
    | none => exact within_requestQuote x inputMint outputMint amount slippageBps

/-- **A user requests only quotes that it has checked.** -/
theorem isUser_within {p : Prog QuoteOp QuoteRes Unit} (h : IsUser x p) :
    p.Within checkPermits none := by
  induction h with
  | done => trivial
  | quote inputMint outputMint amount slippageBps hrest ih =>
      exact Prog.within_bind (within_quote x inputMint outputMint amount slippageBps) ih
  | execute r hrest ih => exact Prog.within_bind_of_performs (performs_shared _) ih

end Users

/-- What a user performs, with the answers that it gets. -/
abbrev UserTrace := List ((o : QuoteOp) × QuoteRes o)

/-- A quote request. -/
def isQuoteRequest : QuoteOp → Bool
  | .getQuote .. => true
  | _ => false

/-- A check that finds no window. -/
def passesCheck : ((o : QuoteOp) × QuoteRes o) → Bool
  | ⟨.rateLimitRemaining, answer⟩ => (answer : Option ℕ).isNone
  | _ => false

/-- The quote requests that a user has sent. -/
def quotesSent (trace : UserTrace) : ℕ := trace.countP fun x => isQuoteRequest x.1

/-- The user has checked, has found no window, and has sent no request since. -/
def HasChecked (trace : UserTrace) : Prop :=
  ∃ earlier check later, trace = earlier ++ check :: later ∧ passesCheck check = true ∧
    ∀ x ∈ later, isQuoteRequest x.1 = false

/-- The requests are the operations that use a permission up. -/
theorem uses_isSome (o : QuoteOp) : (checkPermits.uses o).isSome = isQuoteRequest o := by
  cases o <;> rfl

/-- Permission is given by a check that finds no window. -/
theorem passesCheck_of_earns {x : (o : QuoteOp) × QuoteRes o}
    (h : checkPermits.earns x.1 x.2 = some ()) : passesCheck x = true := by
  obtain ⟨o, answer⟩ := x
  cases o with
  | rateLimitRemaining =>
      cases answer with
      | none => rfl
      | some ms => cases h
  | _ => cases h

/-- Who holds the permission to send a request has checked. -/
theorem hasChecked_of_held {trace : UserTrace}
    (h : checkPermits.heldAfter none trace = some ()) : HasChecked trace := by
  induction trace using List.reverseRecOn with
  | nil => cases h
  | append_singleton trace x ih =>
      have hlast : checkPermits.after (checkPermits.heldAfter none trace) x.1 x.2 = some () := by
        simpa [Permissions.heldAfter] using h
      unfold Permissions.after at hlast
      cases hearned : checkPermits.earns x.1 x.2 with
      | some t => exact ⟨trace, x, [], rfl, passesCheck_of_earns hearned, by simp⟩
      | none =>
          rw [hearned, Option.none_or, uses_isSome] at hlast
          cases hrequest : isQuoteRequest x.1 with
          | true =>
              rw [hrequest] at hlast
              cases hlast
          | false =>
              rw [hrequest] at hlast
              obtain ⟨earlier, check, later, rfl, hpasses, hlater⟩ := ih hlast
              refine ⟨earlier, check, later ++ [x], by simp, hpasses, fun y hy => ?_⟩
              rcases List.mem_append.mp hy with hy | hy
              · exact hlater y hy
              · rw [List.mem_singleton.mp hy]
                exact hrequest

/-- The check finds the window in force. -/
def FindsWindow (e : QuoteEnv) : QuoteOp → RateLimitState → Prop
  | .rateLimitRemaining, s => (s.rateLimitRemaining e.now).isSome = true
  | _, _ => True

/-- Whether a check finds the window in force can be evaluated. -/
instance decidableFindsWindow (e : QuoteEnv) : (o : QuoteOp) → (s : RateLimitState) →
    Decidable (FindsWindow e o s)
  | .rateLimitRemaining, s => inferInstanceAs (Decidable ((s.rateLimitRemaining e.now).isSome = true))
  | .getQuote .., _ => .isTrue trivial
  | .net _, _ => .isTrue trivial

/-- A check that finds the window in force permits nothing. -/
theorem not_earned_of_findsWindow {e : QuoteEnv} {o : QuoteOp} {s : RateLimitState}
    (h : FindsWindow e o s) : checkPermits.earns o (limited.exec e o s).1 = none := by
  cases o with
  | rateLimitRemaining =>
      obtain ⟨ms, hremaining⟩ := Option.isSome_iff_exists.mp h
      exact congrArg (checkPermits.earns .rateLimitRemaining) hremaining
  | _ => rfl

/-- A user that earns no permission sends one request at most, for which it had checked before. -/
theorem quotesSent_le {before during : UserTrace} (h : checkPermits.Granted none (before ++ during))
    (hearns : ∀ x ∈ during, checkPermits.earns x.1 x.2 = none) :
    quotesSent during ≤ 1 ∧ (0 < quotesSent during → HasChecked before) := by
  have hgranted := (Permissions.granted_append.mp h).2
  have hle := Permissions.length_uses_le hgranted hearns
  have hcount : (during.filterMap fun x => checkPermits.uses x.1).length = quotesSent during := by
    rw [List.length_filterMap_eq_countP]
    simp only [uses_isSome]
    rfl
  rw [hcount] at hle
  cases hheld : checkPermits.heldAfter none before with
  | none =>
      rw [hheld] at hle
      have hnone : quotesSent during = 0 := Nat.le_zero.mp hle
      exact ⟨by omega, fun hsent => by omega⟩
  | some t =>
      rw [hheld] at hle
      exact ⟨hle, fun _ => hasChecked_of_held hheld⟩

/-- **Quotes are held back.** In every interleaving of the users of an executor, with any answers: the
window is the one that the last refusal or success has left; and while the checks find it in force, no
user sends more than one quote request, and who sends one had checked before, had found no window, and
had sent no request since. -/
theorem quotes_held_back (x : JupiterExecutor) (users : Pool QuoteOp QuoteRes RateLimitState)
    (before during : List (Label QuoteEnv)) (husers : ∀ p ∈ users.procs, IsUser x p)
    (hfresh : users.shared = .default)
    (hwindow : (users.run limited before).Meets limited FindsWindow during) (i : ℕ) :
    LeftBy (users.run limited before).shared (windowEvents users before) ∧
      quotesSent ((users.run limited before).trace limited i during) ≤ 1 ∧
      (0 < quotesSent ((users.run limited before).trace limited i during) →
        HasChecked (users.trace limited i before)) := by
  have hwithin : ∀ p, users.procs[i]? = some p → p.Within checkPermits none := by
    intro p hp
    exact isUser_within x (husers p (List.mem_of_getElem? hp))
  have hgranted := Pool.granted_trace (m := limited) hwithin (before ++ during)
  rw [Pool.trace_append] at hgranted
  refine ⟨window_run hfresh before, quotesSent_le hgranted ?_⟩
  exact Pool.forall_trace (fun e o s => not_earned_of_findsWindow) hwindow

/-- A user that asks for the given number of quotes. -/
def sampleUser : ℕ → Prog QuoteOp QuoteRes Unit
  | 0 => .done ()
  | n + 1 => (sampleExecutor.quote "base" "token" 1000 50).run >>= fun _ => sampleUser n

/-- The sample's users are users of the executor. -/
theorem sampleUser_isUser (n : ℕ) : IsUser sampleExecutor (sampleUser n) := by
  induction n with
  | zero => exact .done
  | succ n ih => exact .quote _ _ _ _ fun _ => ih

/-- Two users of a fresh executor. -/
def sampleUsers : Pool QuoteOp QuoteRes RateLimitState := ⟨.default, [sampleUser 2, sampleUser 1]⟩

/-- A turn of a user at the given second, in which every request is refused. -/
def refusedTurn (user : ℕ) (secs : Int) : Label QuoteEnv :=
  ⟨user,
    { now := seconds secs
      answer := fun o => match o with
        | .rateLimitRemaining => (none : Option ℕ)
        | .getQuote .. => QuoteReply.rateLimited none
        | .net o => sampleAnswers indexed 0 o }⟩

/-- The turns up to a refusal: both users check, and the first one sends its request. -/
def refusedTurns : List (Label QuoteEnv) :=
  [refusedTurn 0 0, refusedTurn 1 0, refusedTurn 0 0, refusedTurn 0 0]

/-- Both users have checked, and the first one is refused: the second one sends its request all the
same, for which it had checked, and the first one waits. -/
theorem quotes_held_back_sample :
    HasChecked (sampleUsers.trace limited 1 refusedTurns) ∧
      quotesSent ((sampleUsers.run limited refusedTurns).trace limited 0
        [refusedTurn 1 1, refusedTurn 0 1]) = 0 ∧
      (sampleUsers.run limited refusedTurns).shared = ⟨some 2000, 1⟩ := by
  have husers : ∀ p ∈ sampleUsers.procs, IsUser sampleExecutor p := by
    intro p hp
    simp only [sampleUsers, List.mem_cons, List.not_mem_nil, or_false] at hp
    rcases hp with rfl | rfl
    · exact sampleUser_isUser 2
    · exact sampleUser_isUser 1
  have hsent : 0 < quotesSent ((sampleUsers.run limited refusedTurns).trace limited 1
      [refusedTurn 1 1, refusedTurn 0 1]) := by decide
  exact ⟨(quotes_held_back sampleExecutor sampleUsers refusedTurns [refusedTurn 1 1, refusedTurn 0 1]
    husers rfl (by decide) 1).2.2 hsent, by decide, by decide⟩

end SolanaBot.Analysis
