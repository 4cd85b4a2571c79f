import SolanaBot.Library.Backoff
import SolanaBot.Model.WalletSubscription

/-!
# The reconnection law

The task of the subscription goes on to the next endpoint after every failure, with a wait that doubles
with every failure in a row, and gives up at the first moment at which the configured number of failures
in a row is reached (`reconnect_lawful`). No message is handled before every wallet has been subscribed
(`subscribes_first`). With as many attempts as there are endpoints, the task gives up only when every
endpoint has failed (`every_endpoint_failed`).
-/

set_option autoImplicit false

namespace SolanaBot.Analysis

open SolanaBot.Library SolanaBot.Model SolanaBot.Model.WalletWsManager

/-! ## One connection -/

/-- The requests that subscribe the wallets, numbered from `id` on. -/
def subscriptions (id : ℕ) (wallets : List String) : List WsAction :=
  (wallets.zipIdx id).map fun x => .subscribe x.2 x.1

/-- The action subscribes. -/
def isSubscription : WsAction → Bool
  | .subscribe .. => true
  | _ => false

/-- First the wallets are subscribed, in their order; all that is done besides comes after the last
of them. -/
structure SubscribesFirst (wallets : List String) (actions : List WsAction)
    (outcome : Except String Unit) : Prop where
  split : ∃ requests others, actions = requests ++ others ∧
    requests <+: subscriptions 1 wallets ∧
    (∀ a ∈ others, isSubscription a = false) ∧
    (others ≠ [] ∨ outcome = .ok () → requests = subscriptions 1 wallets)

/-- The subscriptions are sent in their order, all of them unless one fails. -/
theorem subscribeAll_requests (sends : ℕ → Except String Unit) (idx : ℕ) (wallets : List String) :
    (subscribeAll sends idx wallets).1 <+: subscriptions (idx + 1) wallets ∧
      ((subscribeAll sends idx wallets).2 = .ok () →
        (subscribeAll sends idx wallets).1 = subscriptions (idx + 1) wallets) := by
  induction wallets generalizing idx with
  | nil => exact ⟨List.prefix_rfl, fun _ => rfl⟩
  | cons wallet wallets ih =>
      have hall : subscriptions (idx + 1) (wallet :: wallets) =
          .subscribe (idx + 1) wallet :: subscriptions (idx + 2) wallets := rfl
      obtain ⟨hleading, hsent⟩ := ih (idx + 1)
      unfold subscribeAll
      rw [hall]
      split
      · exact ⟨List.prefix_append [_] _, by simp⟩
      · exact ⟨(List.prefix_cons_inj _).mpr hleading, fun hok => congrArg (_ :: ·) (hsent hok)⟩

/-- Reading messages subscribes to nothing. -/
theorem readMessages_handles (messages : List (Except String WsMessage)) :
    ∀ a ∈ (readMessages messages).1, isSubscription a = false := by
  induction messages with
  | nil => simp [readMessages]
  | cons msg messages ih =>
      cases msg with
      | error e => simp [readMessages]
      | ok msg =>
          cases msg with
          | text text => simpa [readMessages, isSubscription] using ih
          | ping data => simpa [readMessages, isSubscription] using ih
          | close => simp [readMessages]
          | other => simpa [readMessages] using ih

/-- A connection subscribes to all wallets before it reads. -/
theorem subscribes_first (m : WalletWsManager) (endpoint : String) (c : Connection) :
    SubscribesFirst m.wallets (m.connectAndSubscribe endpoint c).1
      (m.connectAndSubscribe endpoint c).2 := by
  constructor
  unfold connectAndSubscribe
  split
  · exact ⟨[], [], rfl, List.nil_prefix, by simp, by simp⟩
  · obtain ⟨hleading, hsent⟩ := subscribeAll_requests c.sends 0 m.wallets
    split
    · next actions e hsubscribed =>
        rw [hsubscribed] at hleading
        exact ⟨actions, [], (List.append_nil _).symm, hleading, by simp, by simp⟩
    · next actions hsubscribed =>
        rw [hsubscribed] at hleading hsent
        exact ⟨actions, _, rfl, hleading, readMessages_handles c.messages, fun _ => hsent rfl⟩

/-! ## The loop -/

section Loop

variable (m : WalletWsManager) (h : m.endpoints ≠ [])

/-- The connection has failed. -/
def failedAttempt (a : Attempt) : Bool := !a.outcome.isOk

/-- The attempt that follows the past ones, with the given connection. -/
def attemptAfter (past : List Attempt) (c : Connection) : Attempt :=
  let endpoint := m.endpointAt h (past.countP failedAttempt)
  let r := m.connectAndSubscribe endpoint c
  { endpoint, actions := r.1, outcome := r.2
    delayMs := if r.2.isOk then none
      else some (doubling 1000 5 30000 (trailing failedAttempt past + 1)) }

/-- The state of the loop after the past attempts. -/
structure After (past : List Attempt) (s : Reconnecting) : Prop where
  failures : s.consecutiveFailures.toNat = trailing failedAttempt past
  endpointIdx : s.endpointIdx = past.countP failedAttempt

variable {m} {past : List Attempt} {s : Reconnecting}

/-- The loop gives up exactly after as many failures in a row. -/
theorem After.below_iff (hs : After past s) :
    s.consecutiveFailures ≥ m.maxReconnectAttempts ↔
      m.maxReconnectAttempts.toNat ≤ trailing failedAttempt past := by
  rw [ge_iff_le, UInt32.le_iff_toNat_le, hs.failures]

/-- The counter does not overflow below the maximum. -/
theorem failures_succ (hs : After past s) (hmax : s.consecutiveFailures < m.maxReconnectAttempts) :
    (s.consecutiveFailures + 1).toNat = trailing failedAttempt past + 1 := by
  have hlt := UInt32.lt_iff_toNat_lt.mp hmax
  have hmax32 := m.maxReconnectAttempts.toNat_lt
  rw [UInt32.toNat_add, UInt32.toNat_one, hs.failures] at *
  omega

/-- The attempt that the state makes is the one that the past asks for. -/
theorem attempt_eq (hs : After past s) (hmax : s.consecutiveFailures < m.maxReconnectAttempts)
    (c : Connection) :
    ({ endpoint := m.endpointAt h s.endpointIdx
       actions := (m.connectAndSubscribe (m.endpointAt h s.endpointIdx) c).1
       outcome := (m.connectAndSubscribe (m.endpointAt h s.endpointIdx) c).2
       delayMs := (afterConnection s (m.connectAndSubscribe (m.endpointAt h s.endpointIdx) c).2).1 } :
      Attempt) = attemptAfter m h past c := by
  unfold attemptAfter
  rw [← hs.endpointIdx, ← failures_succ hs hmax]
  dsimp only
  congr 1
  cases (m.connectAndSubscribe (m.endpointAt h s.endpointIdx) c).2 <;> rfl

/-- The state after an attempt is behind it. -/
theorem after_attempt (hs : After past s) (hmax : s.consecutiveFailures < m.maxReconnectAttempts)
    (a : Attempt) : After (past ++ [a]) (afterConnection s a.outcome).2 := by
  have hsucc := failures_succ hs hmax
  cases houtcome : a.outcome with
  | ok u =>
      have hok : failedAttempt a = false := by simp [failedAttempt, houtcome, Except.isOk, Except.toBool]
      constructor
      · rw [trailing_snoc, hok]
        rfl
      · rw [List.countP_append, List.countP_singleton, hok]
        exact hs.endpointIdx
  | error e =>
      have hfailed : failedAttempt a = true := by
        simp [failedAttempt, houtcome, Except.isOk, Except.toBool]
      constructor
      · rw [trailing_snoc, hfailed]
        exact hsucc
      · rw [List.countP_append, List.countP_singleton, hfailed]
        exact congrArg (· + 1) hs.endpointIdx

/-- What the loop has done from the past on, over the connections that have ended. -/
structure Lawful (m : WalletWsManager) (h : m.endpoints ≠ []) (past : List Attempt)
    (cs : List Connection) (r : List Attempt × Standing) : Prop where
  /-- Each attempt is the next one, and is made only below the maximum. -/
  attempts : ∀ before a after, r.1 = before ++ a :: after →
    trailing failedAttempt (past ++ before) < m.maxReconnectAttempts.toNat ∧
      ∃ c, cs[before.length]? = some c ∧ a = attemptAfter m h (past ++ before) c
  standing : r.2 = .gaveUp ∧
      trailing failedAttempt (past ++ r.1) = m.maxReconnectAttempts.toNat ∨
    r.2 = .connecting (m.endpointAt h ((past ++ r.1).countP failedAttempt)) ∧
      trailing failedAttempt (past ++ r.1) < m.maxReconnectAttempts.toNat ∧ r.1.length = cs.length

/-- The loop has nothing left to do. -/
theorem lawful_nil (cs : List Connection) (st : Standing)
    (hst : st = .gaveUp ∧ trailing failedAttempt past = m.maxReconnectAttempts.toNat ∨
      st = .connecting (m.endpointAt h (past.countP failedAttempt)) ∧
        trailing failedAttempt past < m.maxReconnectAttempts.toNat ∧ cs = []) :
    Lawful m h past cs ([], st) where
  attempts := by simp
  standing := by
    rw [List.append_nil]
    rcases hst with hgaveUp | ⟨hconnecting, hlt, rfl⟩
    · exact .inl hgaveUp
    · exact .inr ⟨hconnecting, hlt, rfl⟩

/-- One more attempt, made before the others. -/
theorem lawful_cons {c : Connection} {cs : List Connection} {r : List Attempt × Standing}
    (hlt : trailing failedAttempt past < m.maxReconnectAttempts.toNat)
    (hrest : Lawful m h (past ++ [attemptAfter m h past c]) cs r) :
    Lawful m h past (c :: cs) (attemptAfter m h past c :: r.1, r.2) where
  attempts := by
    intro before a after hsplit
    cases before with
    | nil =>
        obtain ⟨rfl, -⟩ := List.cons.inj hsplit
        rw [List.append_nil]
        exact ⟨hlt, c, rfl, rfl⟩
    | cons first before =>
        obtain ⟨rfl, htail⟩ := List.cons.inj hsplit
        have hnext := hrest.attempts before a after htail
        rwa [List.append_assoc] at hnext
  standing := by
    have hstanding := hrest.standing
    rw [List.append_assoc] at hstanding
    rcases hstanding with hgaveUp | ⟨hconnecting, hbelow, hlength⟩
    · exact .inl hgaveUp
    · exact .inr ⟨hconnecting, hbelow, congrArg (· + 1) hlength⟩

/-- The rest of the loop follows the law. -/
theorem lawful_reconnect (hs : After past s)
    (hle : trailing failedAttempt past ≤ m.maxReconnectAttempts.toNat) (cs : List Connection) :
    Lawful m h past cs (m.reconnect h s cs) := by
  induction cs generalizing past s with
  | nil =>
      unfold reconnect
      split
      · next hmax => exact lawful_nil h [] _ (.inl ⟨rfl, le_antisymm hle (hs.below_iff.mp hmax)⟩)
      · next hmax =>
          have hlt := Nat.lt_of_not_le fun hle => hmax (hs.below_iff.mpr hle)
          exact lawful_nil h [] _ (.inr ⟨by rw [hs.endpointIdx], hlt, rfl⟩)
  | cons c cs ih =>
      unfold reconnect
      split
      · next hmax => exact lawful_nil h _ _ (.inl ⟨rfl, le_antisymm hle (hs.below_iff.mp hmax)⟩)
      · next hmax =>
          have hlt := Nat.lt_of_not_le fun hle => hmax (hs.below_iff.mpr hle)
          have hbelow := UInt32.not_le.mp hmax
          have houtcome : (m.connectAndSubscribe (m.endpointAt h s.endpointIdx) c).2 =
              (attemptAfter m h past c).outcome := by
            unfold attemptAfter
            rw [hs.endpointIdx]
          dsimp only
          rw [attempt_eq h hs hbelow, houtcome]
          apply lawful_cons h hlt
          apply ih (after_attempt hs hbelow _)
          rw [trailing_snoc]
          split <;> omega

/-- The loop gives up only when every endpoint has failed, if there are attempts for all of them. -/
theorem every_endpoint_failed {attempts : List Attempt} {st : Standing} {cs : List Connection}
    (hlaw : Lawful m h [] cs (attempts, st)) (hgaveUp : st = .gaveUp)
    (hmany : m.endpoints.length ≤ m.maxReconnectAttempts.toNat) {endpoint : String}
    (hendpoint : endpoint ∈ m.endpoints) :
    ∃ a ∈ attempts.drop (attempts.length - m.maxReconnectAttempts.toNat),
      failedAttempt a = true ∧ a.endpoint = endpoint := by
  have htrailing : trailing failedAttempt attempts = m.maxReconnectAttempts.toNat := by
    rcases hlaw.standing with ⟨-, hmax⟩ | ⟨hconnecting, -⟩
    · exact hmax
    · cases hgaveUp.symm.trans hconnecting
  have hle := trailing_le_length failedAttempt attempts
  rw [← htrailing] at hmany ⊢
  obtain ⟨e, he, rfl⟩ := List.getElem_of_mem hendpoint
  -- the failures at the end go through the endpoints in turn
  obtain ⟨j, hj, hround⟩ := exists_mod_eq he
    ((attempts.take (attempts.length - trailing failedAttempt attempts)).countP failedAttempt)
  set start := attempts.length - trailing failedAttempt attempts with hstart
  have hindex : start + j < attempts.length := by omega
  have hmem : attempts[start + j] ∈ attempts.drop start := by
    rw [List.mem_drop_iff_getElem]
    exact ⟨j, by omega, rfl⟩
  refine ⟨attempts[start + j], hmem, of_mem_drop_trailing hmem, ?_⟩
  have hsplit : attempts = attempts.take (start + j) ++ attempts[start + j] ::
      attempts.drop (start + j + 1) := by
    rw [← List.drop_eq_getElem_cons hindex, List.take_append_drop]
  obtain ⟨-, c, -, hattempt⟩ := hlaw.attempts _ _ _ hsplit
  have hcount : (attempts.take (start + j)).countP failedAttempt =
      (attempts.take start).countP failedAttempt + j := countP_take_trailing (by omega)
  rw [hattempt, List.nil_append]
  unfold attemptAfter endpointAt
  simp only [List.get_eq_getElem, hcount, hround]

end Loop

/-- **The reconnection law.** Whatever the connections meet: every attempt is the next endpoint's, after
as many failures as there were, with the wait of the failures in a row; none is made once the maximum of
these is reached, and the loop gives up just then; on every connection the wallets are subscribed before
anything else; and with attempts for all endpoints the loop gives up only when each of them has failed
among the last ones. -/
theorem reconnect_lawful (m : WalletWsManager) (h : m.endpoints ≠ []) (hwallets : m.wallets ≠ [])
    (cs : List Connection) :
    Lawful m h [] cs (m.run cs) ∧
      (∀ a ∈ (m.run cs).1, SubscribesFirst m.wallets a.actions a.outcome) ∧
      ((m.run cs).2 = .gaveUp → m.endpoints.length ≤ m.maxReconnectAttempts.toNat →
        ∀ endpoint ∈ m.endpoints,
          ∃ a ∈ (m.run cs).1.drop ((m.run cs).1.length - m.maxReconnectAttempts.toNat),
            failedAttempt a = true ∧ a.endpoint = endpoint) := by
  have hlaw : Lawful m h [] cs (m.run cs) := by
    unfold WalletWsManager.run
    rw [dif_neg h, if_neg hwallets]
    exact lawful_reconnect h ⟨rfl, rfl⟩ (Nat.zero_le _) cs
  refine ⟨hlaw, fun a ha => ?_, fun hgaveUp hmany endpoint hendpoint => ?_⟩
  · obtain ⟨before, after, hsplit⟩ := List.append_of_mem ha
    obtain ⟨-, c, -, rfl⟩ := hlaw.attempts before a after hsplit
    exact subscribes_first m _ c
  · exact every_endpoint_failed h hlaw hgaveUp hmany hendpoint

/-- Two endpoints, one of which is closed by its server in between. -/
def sampleManager : WalletWsManager :=
  { endpoints := ["wss://a", "wss://b"], wallets := ["w"], maxReconnectAttempts := 2 }

/-- A connection that does not open, and one that ends. -/
def sampleConnections : List Connection :=
  [⟨.error "refused", fun _ => .ok (), []⟩, ⟨.ok (), fun _ => .ok (), [.ok (.text "log"), .ok .close]⟩,
    ⟨.error "refused", fun _ => .ok (), []⟩, ⟨.ok (), fun _ => .error "reset", []⟩,
    ⟨.ok (), fun _ => .ok (), []⟩]

/-- Four connections and their delays, until the loop gives up. -/
theorem reconnect_lawful_sample :
    Lawful sampleManager (by decide) [] sampleConnections (sampleManager.run sampleConnections) ∧
      (sampleManager.run sampleConnections).1.map Attempt.endpoint =
        ["wss://a", "wss://b", "wss://b", "wss://a"] ∧
      (sampleManager.run sampleConnections).1.map Attempt.delayMs =
        [some 2000, none, some 2000, some 4000] ∧
      (sampleManager.run sampleConnections).2 = .gaveUp :=
  ⟨(reconnect_lawful sampleManager (by decide) (by decide) sampleConnections).1, by decide, by decide,
    by decide⟩

end SolanaBot.Analysis
