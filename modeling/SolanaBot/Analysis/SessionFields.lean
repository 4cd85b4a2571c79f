import SolanaBot.Analysis.SessionParts

/-!
# Fields of a session that its parts leave alone

The SOL price of a session is fetched for a live executor only, and no other part of a session touches
it: without a live executor a session starts without a price (`newSessionState`) and never gets one.
The day of a session is left alone from its restoration to the first tick.
-/

set_option autoImplicit false

namespace SolanaBot.Analysis

open SolanaBot.Library SolanaBot.Model

section Fields

variable {σ ε α β γ : Type} (m : Machine Op Res σ ε) (env : ℕ → ε) (f : SessionState → γ) (v : γ)

/-- In every run, whatever the steps. -/
abbrev Unrestricted (_ : ε) (_ : Op) (_ : σ) : Prop := True

/-- A part of a session that leaves a field alone. -/
def KeepsField (p : Session α) : Prop :=
  Prog.Triple m env Unrestricted Unrestricted (fun s _ => f s = v) p (fun _ s _ => f s = v) fun s _ => f s = v

variable {m env f v}

/-- A value keeps the field. -/
theorem keepsField_pure (a : α) : KeepsField m env f v (pure a : Session α) :=
  Prog.triple_pure fun _ _ hs => hs

/-- An error keeps it. -/
theorem keepsField_throw (e : String) : KeepsField m env f v (throw e : Session α) :=
  Prog.triple_throw fun _ _ hs => hs

/-- Reading the session's state keeps it. -/
theorem keepsField_get : KeepsField m env f v (get : Session SessionState) :=
  Prog.triple_get fun _ _ hs => hs

/-- A change of other fields keeps it. -/
theorem keepsField_modify {g : SessionState → SessionState} (h : ∀ s, f (g s) = f s) :
    KeepsField m env f v (modify g : Session PUnit) :=
  Prog.triple_modify fun s _ hs => (h s).trans hs

/-- Two parts keep it if each does. -/
theorem keepsField_bind {p : Session α} {q : α → Session β} (hp : KeepsField m env f v p)
    (hq : ∀ a, KeepsField m env f v (q a)) : KeepsField m env f v (p >>= q) :=
  Prog.triple_bind hp hq

/-- What a session looks at does not know its state. -/
theorem keepsField_look (t : Model.Task α) : KeepsField m env f v (look t) :=
  Prog.triple_lift fun s => Prog.task_of_performs (I := fun _ => f s = v)
    (Prog.performs_true t) fun _ _ _ _ _ hs => ⟨trivial, hs⟩

/-- A task that can end the session keeps it. -/
theorem keepsField_orStop (t : Model.Task (Except String α)) : KeepsField m env f v (orStop t) := by
  refine keepsField_bind (keepsField_look t) fun answer => ?_
  cases answer with
  | ok a => exact keepsField_pure a
  | error e => exact keepsField_throw e

/-- A loop keeps it if its turns do. -/
theorem keepsField_foldlM {q : β → α → Session β} (as : List α)
    (h : ∀ b a, KeepsField m env f v (q b a)) (b : β) : KeepsField m env f v (as.foldlM q b) :=
  Prog.triple_foldlM as (fun b a _ => h b a) b

end Fields

/-! ## The start of a session -/

section Start

variable {σ ε γ : Type} {m : Machine Op Res σ ε} {env : ℕ → ε} {f : SessionState → γ} {v : γ}

/-- Reading the kill switch keeps every field but the switch. -/
theorem keepsField_readKillSwitch (hf : ∀ (s : SessionState) k,
    f { s with risk := { s.risk with killSwitch := k } } = f s) :
    KeepsField m env f v readKillSwitch := by
  refine keepsField_bind (keepsField_orStop _) fun reason => ?_
  split
  · exact keepsField_modify fun s => hf s _
  · exact keepsField_pure _

/-- The reconciliation at the start keeps every field but what it sets. -/
theorem keepsField_reconcileAtStart (deps : Deps)
    (hemergency : ∀ (s : SessionState) b, f { s with emergencyActive := b } = f s)
    (hreconcile : ∀ (s : SessionState) t, f { s with lastPositionReconcile := t } = f s) :
    KeepsField m env f v (reconcileAtStart deps) := by
  refine keepsField_bind (keepsField_bind (keepsField_orStop _) fun reason => ?_) fun _ =>
    keepsField_bind ?_ fun _ => keepsField_bind (keepsField_look _) fun _ =>
    keepsField_modify fun s => hreconcile s _
  · split
    · exact keepsField_modify fun s => hemergency s _
    · exact keepsField_pure _
  · unfold startupReconciliation
    split <;> exact keepsField_orStop _

end Start

/-! ## What a tick leaves alone -/

/-- A field that a tick leaves alone from its ingestion to its end. -/
structure LeftAlone {γ : Type} (f : SessionState → γ) : Prop where
  portfolio : ∀ s pf, f { s with portfolio := pf } = f s
  risk : ∀ s r, f { s with risk := r } = f s
  candidates : ∀ s cs, f { s with candidates := cs } = f s
  seenSignals : ∀ s ids, f { s with seenSignals := ids } = f s

section LeftAlone

variable {σ ε γ : Type} {m : Machine Op Res σ ε} {env : ℕ → ε} {f : SessionState → γ} {v : γ}
  (hf : LeftAlone f) (deps : Deps)

include hf

/-! ### Exits and entries -/

/-- Counting a failure keeps the field. -/
theorem keepsField_countFailure : KeepsField m env f v countFailure := by
  refine keepsField_bind keepsField_get fun _ =>
    keepsField_bind (keepsField_modify fun s => hf.risk s _) fun _ => ?_
  split
  · exact keepsField_orStop _
  · exact keepsField_pure _

/-- The attempt of an exit keeps it. -/
theorem keepsField_attemptExit (mint : String) (remaining : UInt64) (reason : String) :
    KeepsField m env f v (attemptExit deps mint remaining reason) := by
  refine keepsField_bind keepsField_get fun _ => ?_
  split
  · exact keepsField_pure _
  · refine keepsField_bind keepsField_get fun _ =>
      keepsField_bind (keepsField_look _) fun _ =>
      keepsField_bind (keepsField_modify fun s => hf.portfolio s _) fun _ => ?_
    split
    · exact keepsField_modify fun s => hf.risk s _
    · exact keepsField_countFailure hf
    · exact keepsField_pure _
    · exact keepsField_pure _

/-- The exit turn of one position keeps it. -/
theorem keepsField_processExit (mint : String) : KeepsField m env f v (processExit deps mint) := by
  refine keepsField_bind keepsField_get fun _ => ?_
  split
  · exact keepsField_pure _
  · split
    · exact keepsField_pure _
    · refine keepsField_bind (keepsField_orStop _) fun _ => ?_
      split
      · exact keepsField_pure _
      · split
        · refine keepsField_bind (keepsField_look _) fun _ =>
            keepsField_bind (keepsField_look _) fun _ =>
            keepsField_bind (keepsField_look _) fun _ => ?_
          split
          · exact keepsField_pure _
          · refine keepsField_bind keepsField_get fun _ =>
              keepsField_bind (keepsField_modify fun s => hf.portfolio s _) fun _ => ?_
            split
            · exact keepsField_throw _
            · refine keepsField_bind (keepsField_look _) fun _ => ?_
              split
              · exact keepsField_pure _
              · exact keepsField_attemptExit hf deps _ _ _
        · exact keepsField_pure _

/-- The exit stage keeps it. -/
theorem keepsField_processExits : KeepsField m env f v (processExits deps) :=
  keepsField_bind keepsField_get fun _ => keepsField_bind (keepsField_look _) fun _ =>
    keepsField_foldlM _ (fun _ mint => keepsField_processExit hf deps mint) _

/-- The accounting of an entry keeps it. -/
theorem keepsField_persistEntry (ctx : EntryContext) (fill : Fill) (placed : OrderRecord)
    (minOutputAmount : UInt64) :
    KeepsField m env f v (persistEntry deps ctx fill placed minOutputAmount) := by
  refine keepsField_bind keepsField_get fun _ => keepsField_bind (keepsField_look _) fun _ => ?_
  split
  · refine keepsField_bind (keepsField_modify fun s =>
      (hf.risk { s with portfolio := _ } _).trans (hf.portfolio s _)) fun _ => ?_
    split
    · exact keepsField_countFailure hf
    · exact keepsField_pure _
  · exact keepsField_orStop _

/-- Submitting a reserved entry keeps it. -/
theorem keepsField_submitReserved (ctx : EntryContext) (order : OrderRecord) (quote : Quote)
    (reserved : Bool) : KeepsField m env f v (submitReserved deps ctx order quote reserved) := by
  unfold submitReserved
  split
  · refine keepsField_bind (keepsField_orStop _) fun _ => keepsField_bind (keepsField_look _) fun _ => ?_
    split
    · exact keepsField_persistEntry hf deps _ _ _ _
    · exact keepsField_orStop _
    · exact keepsField_bind (keepsField_orStop _) fun _ => keepsField_countFailure hf
  · exact keepsField_pure _

/-- Placing an entry keeps it. -/
theorem keepsField_placeEntry (c : CandidateInput) (screened : ScreenedCandidate)
    (signal : TradeSignal) (inputAmountAtomic : UInt64) (positionUsd : Decimal) (now : Time) :
    KeepsField m env f v (placeEntry deps c screened signal inputAmountAtomic positionUsd now) := by
  refine keepsField_bind (keepsField_look _) fun _ => ?_
  split
  · exact keepsField_pure _
  · refine keepsField_bind keepsField_get fun _ => ?_
    dsimp only
    split
    · exact keepsField_pure _
    · split
      · exact keepsField_pure _
      · exact keepsField_bind (keepsField_look _) fun _ => keepsField_bind (keepsField_look _) fun _ =>
          keepsField_bind (keepsField_orStop _) fun _ =>
          keepsField_bind (keepsField_submitReserved hf deps _ _ _ _) fun _ =>
            keepsField_modify fun s => hf.seenSignals s _

/-- The entry turn of one candidate keeps it. -/
theorem keepsField_processEntry (now : Time) (mint : String) :
    KeepsField m env f v (processEntry deps now mint) := by
  refine keepsField_bind keepsField_get fun _ => ?_
  split
  · exact keepsField_pure _
  · refine keepsField_bind keepsField_get fun _ => ?_
    split
    · exact keepsField_pure _
    · refine keepsField_bind (keepsField_look _) fun _ => keepsField_bind (keepsField_look _) fun _ => ?_
      split
      · exact keepsField_pure _
      · refine keepsField_bind keepsField_get fun _ => ?_
        split
        · exact keepsField_pure _
        · refine keepsField_bind (keepsField_modify fun s => hf.risk s _) fun _ =>
            keepsField_bind keepsField_get fun _ => keepsField_bind (keepsField_look _) fun _ => ?_
          split
          · exact keepsField_pure _
          · split
            · exact keepsField_pure _
            · exact keepsField_placeEntry hf deps _ _ _ _ _ _

/-- The entry stage keeps it. -/
theorem keepsField_makeEntries : KeepsField m env f v (makeEntries deps) := by
  refine keepsField_bind (keepsField_bind keepsField_get fun _ => ?_) fun entering => ?_
  · split
    · exact keepsField_pure _
    · exact keepsField_bind (keepsField_orStop _) fun _ => keepsField_pure _
  · split
    · exact keepsField_bind (keepsField_look _) fun _ => keepsField_bind keepsField_get fun _ =>
        keepsField_bind (keepsField_look _) fun _ =>
        keepsField_foldlM _ (fun _ mint => keepsField_processEntry hf deps _ mint) _
    · exact keepsField_pure _

/-! ### Ingestion and equity -/

omit hf in
/-- Registering a candidate's quote keeps the field. -/
theorem keepsField_register (c : CandidateInput) (source : String) (now : Time)
    (missing : Session Unit) (hmissing : KeepsField m env f v missing) :
    KeepsField m env f v (do
      let tokens ← tokenAmount c
      let impact ← look (parseU32 c.costs.input.avgPriceImpactBps)
      match impact.val with
      | none => missing
      | some impactBps => registerQuote deps c tokens impactBps source now) := by
  refine keepsField_bind (keepsField_bind (keepsField_look _) fun _ => ?_) fun tokens =>
    keepsField_bind (keepsField_look _) fun impact => ?_
  · split
    · exact keepsField_pure _
    · exact keepsField_throw _
  · split
    · exact hmissing
    · exact keepsField_bind (keepsField_look _) fun _ => keepsField_pure _

/-- The feed keeps it. -/
theorem keepsField_ingestFeed (now : Time) : KeepsField m env f v (ingestFeed deps now) := by
  unfold ingestFeed
  split
  · exact keepsField_pure _
  · refine keepsField_bind (keepsField_look _) fun cs =>
      keepsField_bind (keepsField_foldlM cs (fun _ c => ?_) ()) fun _ =>
        keepsField_modify fun s => hf.candidates s _
    refine keepsField_bind (keepsField_look _) fun _ => ?_
    split
    · exact keepsField_pure _
    · split
      · exact keepsField_pure _
      · split
        · exact keepsField_register deps c "replay" now _ (keepsField_throw _)
        · exact keepsField_throw _

/-- The wallet monitor keeps it. -/
theorem keepsField_ingestWalletMonitor (now : Time) :
    KeepsField m env f v (ingestWalletMonitor deps now) := by
  refine keepsField_bind keepsField_get fun _ => ?_
  split
  · refine keepsField_bind (keepsField_look _) fun _ => ?_
    split
    · exact keepsField_pure _
    · rename_i cs
      refine keepsField_bind (keepsField_foldlM cs (fun _ c => ?_) ()) fun _ =>
        keepsField_modify fun s => hf.candidates s _
      refine keepsField_bind (keepsField_look _) fun _ => keepsField_bind keepsField_get fun _ => ?_
      split
      · exact keepsField_pure _
      · split
        · exact keepsField_pure _
        · split
          · exact keepsField_register deps c "wallet_monitor" now _ (keepsField_pure _)
          · exact keepsField_pure _
  · exact keepsField_pure _

/-- Marking the equity keeps it. -/
theorem keepsField_markEquity : KeepsField m env f v (markEquity deps) := by
  refine keepsField_bind keepsField_get fun _ => keepsField_bind (keepsField_modify fun s => hf.risk s _)
    fun _ => keepsField_bind (keepsField_bind keepsField_get fun _ => ?_) fun _ =>
    keepsField_modify fun s => hf.risk s _
  split
  · refine keepsField_bind (keepsField_orStop _) fun reason => ?_
    split
    · exact keepsField_orStop _
    · exact keepsField_pure _
  · exact keepsField_pure _

end LeftAlone

/-! ## The SOL price -/

section SolPrice

variable {σ ε : Type} (m : Machine Op Res σ ε) (env : ℕ → ε) (v : Option Decimal)

/-- A part of a session that leaves its SOL price alone. -/
abbrev KeepsPrice {α : Type} (p : Session α) : Prop := KeepsField m env SessionState.solPriceUsd v p

variable {m env v}

variable (deps : Deps)

/-- The price of SOL is left alone by everything but its refresh. -/
theorem leftAlone_solPriceUsd : LeftAlone SessionState.solPriceUsd :=
  ⟨fun _ _ => rfl, fun _ _ => rfl, fun _ _ => rfl, fun _ _ => rfl⟩

/-- The feed keeps the price. -/
theorem keepsPrice_ingestFeed (now : Time) : KeepsPrice m env v (ingestFeed deps now) :=
  keepsField_ingestFeed leftAlone_solPriceUsd deps now

/-! ### Ticks and sessions -/

/-- The start of a session keeps the price. -/
theorem keepsPrice_sessionStart : KeepsPrice m env v (sessionStart deps) := by
  refine keepsField_bind ?_ fun _ => keepsField_bind ?_ fun _ =>
    keepsField_bind (keepsField_readKillSwitch fun _ _ => rfl) fun _ =>
    keepsField_reconcileAtStart deps (fun _ _ => rfl) fun _ _ => rfl
  · unfold startWalletMonitor
    split
    · refine keepsField_bind (keepsField_look _) fun _ => ?_
      split
      · exact keepsField_modify fun _ => rfl
      · exact keepsField_pure _
    · exact keepsField_pure _
  · refine keepsField_bind (keepsField_look _) fun _ =>
      keepsField_bind (keepsField_modify fun _ => rfl) fun _ =>
      keepsField_bind (keepsField_orStop _) fun _ => keepsField_bind (keepsField_orStop _) fun _ =>
      keepsField_bind (keepsField_orStop _) fun _ => ?_
    split
    · exact keepsField_modify fun _ => rfl
    · exact keepsField_pure _

section Offline

variable {deps} (hlive : deps.live = false)

include hlive

/-- Without a live executor no price is fetched. -/
theorem keepsPrice_prepareTick (now : Time) : KeepsPrice m env v (prepareTick deps now) := by
  refine keepsField_bind (keepsField_modify fun s => ?_) fun _ =>
    keepsField_bind (keepsField_bind keepsField_get fun _ => ?_) fun _ =>
    keepsField_bind ?_ fun _ => keepsField_bind (keepsField_look _) fun _ =>
    keepsField_bind (keepsField_bind (keepsField_look _) fun _ => ?_) fun _ =>
    keepsField_bind (keepsField_readKillSwitch fun _ _ => rfl) fun _ => keepsField_modify fun _ => rfl
  · unfold rollDay
    split <;> rfl
  · rw [hlive, if_neg fun h => (by cases h.1)]
    exact keepsField_pure _
  · unfold periodicReconciliation
    rw [hlive, if_neg fun h => (by cases h.1)]
    exact keepsField_pure _
  · split <;> exact keepsField_modify fun _ => rfl

/-- What comes before the ingestion keeps a price that is not refreshed. -/
theorem keepsPrice_beforeIngestion : KeepsPrice m env v (beforeIngestion deps) :=
  keepsField_bind (keepsField_look _) fun _ =>
    keepsField_bind (keepsPrice_prepareTick hlive _) fun _ => keepsField_pure _

/-- A tick keeps it. -/
theorem keepsPrice_tick : KeepsPrice m env v (tick deps) := by
  rw [tick_eq_entries]
  unfold beforeEntries
  rw [beforeExits_eq]
  exact keepsField_bind (keepsField_bind (keepsField_bind
    (keepsField_bind (keepsPrice_beforeIngestion hlive) fun _ =>
      keepsField_bind (keepsPrice_ingestFeed deps _) fun _ =>
      keepsField_ingestWalletMonitor leftAlone_solPriceUsd deps _)
    fun _ => keepsField_markEquity leftAlone_solPriceUsd deps)
    fun _ => keepsField_processExits leftAlone_solPriceUsd deps)
    fun _ => keepsField_makeEntries leftAlone_solPriceUsd deps

/-- All ticks keep it. -/
theorem keepsPrice_sessionTicks (n : ℕ) : KeepsPrice m env v (sessionTicks deps n) := by
  induction n with
  | zero => exact keepsField_pure _
  | succ n ih =>
      rw [sessionTicks_succ]
      have hpersist : KeepsPrice m env v persistSessionState :=
        keepsField_bind keepsField_get fun _ => keepsField_bind (keepsField_orStop _) fun _ =>
        keepsField_bind (keepsField_orStop _) fun _ => keepsField_orStop _
      exact keepsField_bind (Prog.triple_caught (keepsPrice_tick hlive) hpersist) fun _ => ih

end Offline

end SolPrice

end SolanaBot.Analysis
