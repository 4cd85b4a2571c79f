import SolanaBot.Model.SessionLoop

/-!
# What runs in the background of a trade

The reconcilers and what a session looks at before it decides: none of them reserves or executes an
order, records a fill right after its execution, or writes what the store remembers of a session.
-/

set_option autoImplicit false

namespace SolanaBot.Analysis

open SolanaBot.Library SolanaBot.Model

/-- The operation asks for the reservation of an entry. -/
def reservesEntry : Op → Bool
  | .reserveOrder _ o => o.kind = .entry
  | _ => false

/-- The operation records a fill right after its execution. -/
def recordsFill : Op → Bool
  | .fillTransaction t => t.source = .direct
  | _ => false

/-- The operation writes what the store remembers of a session besides orders, positions and
fills. -/
def writesKeys : Op → Bool
  | .latchKillSwitch _ | .putDay _ | .putDayStartEquity _ | .putTradesToday _ => true
  | _ => false

/-- The operation gives the executor a quote. -/
def registersQuote : Op → Bool
  | .registerQuote _ => true
  | _ => false

/-- The operation asks for the reservation or the execution of an order. -/
def trades : Op → Bool
  | .reserveOrder .. | .execute _ => true
  | _ => false

/-- The operations that reserve no entry. -/
abbrev NoEntry (o : Op) : Prop := reservesEntry o = false

/-- The operations that record no fill, except of an order that was left behind. -/
abbrev Indirect (o : Op) : Prop := recordsFill o = false

/-- The operations in the background. -/
abbrev Background (o : Op) : Prop := (trades o || recordsFill o || writesKeys o) = false

/-- The operation reads an interlock. -/
def readsInterlock : Op → Bool
  | .emergencyStop | .killSwitchReason => true
  | _ => false

/-- The operations that leave the quotes of the executor alone. -/
abbrev KeepsQuotes (o : Op) : Prop := registersQuote o = false

/-- The operations with which a position is watched. -/
abbrev Watching (o : Op) : Prop := Background o ∧ KeepsQuotes o ∧ readsInterlock o = false

/-- Background work does not trade. -/
theorem Background.idle {o : Op} (h : Background o) : trades o = false :=
  (Bool.or_eq_false_iff.mp (Bool.or_eq_false_iff.mp h).1).1

/-- What does not trade reserves no entry. -/
theorem noEntry_of_idle {o : Op} (h : trades o = false) : NoEntry o := by
  cases o with
  | reserveOrder => cases h
  | _ => rfl

/-- Background work reserves no entry. -/
theorem Background.noEntry {o : Op} (h : Background o) : NoEntry o := noEntry_of_idle h.idle

/-- Background work writes positions in transactions only. -/
theorem Background.indirect {o : Op} (h : Background o) : Indirect o :=
  (Bool.or_eq_false_iff.mp (Bool.or_eq_false_iff.mp h).1).2

/-- Background work writes none of the session's keys. -/
theorem Background.keys {o : Op} (h : Background o) : writesKeys o = false :=
  (Bool.or_eq_false_iff.mp h).2

/-- A call performs its operation. -/
theorem performs_call {S : Op → Prop} {o : Op} (h : S o) : (call o).Performs S :=
  Prog.performs_perform h

/-- A question that can fail performs what its task performs. -/
theorem performsE_ask {S : Op → Prop} {α : Type} {t : Model.Task α} (h : t.Performs S) :
    Prog.PerformsE S (ask t) := Prog.performsE_lift h

/-- An attempt performs what its task performs. -/
theorem performsE_attempt {S : Op → Prop} {α : Type} {t : Model.Task (Except String α)}
    (h : t.Performs S) : Prog.PerformsE S (attempt t) := h

/-- A look of the session performs what its task performs. -/
theorem performsS_look {S : Op → Prop} {α : Type} {t : Model.Task α} (h : t.Performs S) :
    Prog.PerformsS S (look t) := Prog.performsS_lift h

/-- So does a task that can end the session. -/
theorem performsS_orStop {S : Op → Prop} {α : Type} {t : Model.Task (Except String α)}
    (h : t.Performs S) : Prog.PerformsS S (orStop t) := by
  refine Prog.performsS_bind (performsS_look h) fun answer => ?_
  cases answer with
  | ok a => exact Prog.performsS_pure _
  | error e => exact Prog.performsS_throw _

section Reconcilers

/-- Reading a signature from the chain is background work. -/
theorem background_reconcileSignature (signature inputMint outputMint owner : String)
    (expectedInput : UInt64) :
    (reconcileSignature signature inputMint outputMint owner expectedInput).Performs Background := by
  refine Prog.performs_bind (performs_call rfl) fun status => ?_
  split
  · trivial
  · trivial
  · exact Prog.performs_bind (performs_call rfl) fun _ => trivial

/-- Recording a reconciled fill is background work. -/
theorem background_recordReconciledFill (deps : Deps) (order : OrderRecord)
    (outcome : ChainSwapOutcome) (signature : String) :
    Prog.PerformsE Background (recordReconciledFill deps order outcome signature) := by
  refine Prog.performsE_bind (performsE_ask ?_) fun position => ?_
  · unfold storedPosition
    split
    · trivial
    · refine Prog.performs_bind (performs_call rfl) fun _ => ?_
      split <;> trivial
  · split
    · trivial
    · refine Prog.performsE_bind (performsE_ask (performs_call rfl)) fun now => ?_
      split
      · exact Prog.performsE_bind (performsE_attempt (performs_call rfl)) fun _ => trivial
      · refine Prog.performsE_bind (performsE_ask (performs_call rfl)) fun now =>
          Prog.performsE_bind (performsE_ask (performs_call rfl)) fun r => ?_
        split <;> trivial

/-- Settling a verdict is background work. -/
theorem background_settleVerdict (deps : Deps) (age : Int) (order : OrderRecord) (signature : String)
    (summary : ReconcileSummary) (verdict : Except ExecutionError (Option ChainSwapOutcome)) :
    Prog.PerformsE Background (settleVerdict deps age order signature summary verdict) := by
  unfold settleVerdict
  split
  · refine Prog.performsE_bind (performsE_ask (background_recordReconciledFill _ _ _ _)) fun r => ?_
    split <;> trivial
  · split
    · exact Prog.performsE_bind (performsE_attempt (performs_call rfl)) fun _ => trivial
    · trivial
  · exact Prog.performsE_bind (performsE_attempt (performs_call rfl)) fun _ => trivial
  · trivial

/-- The startup reconciliation of the orders is background work. -/
theorem background_reconcilePendingOrders (deps : Deps) :
    Prog.PerformsE Background (reconcilePendingOrders deps) := by
  refine Prog.performsE_bind (performsE_ask (performs_call rfl)) fun now =>
    Prog.performsE_bind (performsE_attempt (performs_call rfl)) fun incomplete =>
    Prog.performsE_foldlM _ (fun summary order => ?_) _
  have hupdate : ∀ (o : OrderRecord) (s : ReconcileSummary),
      Prog.PerformsE Background (attempt (Store.updateOrder order o) >>= fun _ => pure s) := fun o s =>
    Prog.performsE_bind (performsE_attempt (performs_call rfl)) fun _ => trivial
  unfold reconcilePendingOrder
  dsimp only
  split
  · exact hupdate _ _
  · split
    · exact hupdate _ _
    · trivial
  · exact hupdate _ _
  · split
    · exact Prog.performsE_bind (performsE_ask (background_reconcileSignature _ _ _ _ _)) fun verdict =>
        background_settleVerdict _ _ _ _ _ _
    · trivial

section Onchain

variable {S : Op → Prop}

/-- Adopting a balance of the chain saves a position. -/
theorem performs_saveAdopted (hsave : ∀ basis p, S (.savePosition basis p)) (before after : Portfolio)
    (mint : String) (amount : UInt64) (decimals : UInt8) (now : Time) :
    Prog.PerformsE S (saveAdopted before after mint amount decimals now) := by
  unfold saveAdopted
  split
  · exact performsE_attempt (performs_call (hsave _ _))
  · trivial

/-- What the reconciler of the on-chain balances performs. -/
theorem performs_reconcilePositionsOnchain (hclock : S .now) (hhash : ∀ mints, S (.hashOrder mints))
    (hbalances : ∀ owner, S (.tokenBalances owner)) (hpositions : S .positions)
    (hsave : ∀ basis p, S (.savePosition basis p)) (deps : Deps) :
    Prog.PerformsE S (reconcilePositionsOnchain deps) := by
  unfold reconcilePositionsOnchain
  split
  · trivial
  · refine Prog.performsE_bind (performsE_ask (performs_call (hbalances _))) fun balances => ?_
    split
    · trivial
    · refine Prog.performsE_bind (performsE_attempt (performs_call hpositions)) fun stored =>
        Prog.performsE_bind (performsE_ask (performs_call (hhash _))) fun mints =>
        Prog.performsE_bind (Prog.performsE_foldlM _ (fun s mint => ?_) _) fun _ => trivial
      refine Prog.performsE_bind (performsE_ask (performs_call hclock)) fun now => ?_
      split
      · dsimp only
        split
        · exact Prog.performsE_bind (performs_saveAdopted hsave _ _ _ _ _ _) fun _ => trivial
        · trivial
      · dsimp only
        split
        · refine Prog.performsE_bind (performs_saveAdopted hsave _ _ _ _ _ _) fun _ => ?_
          split <;> trivial
        · trivial
        · trivial

end Onchain

/-- The reconciliation of the positions is background work. -/
theorem background_reconcilePositionsOnchain (deps : Deps) :
    Prog.PerformsE Background (reconcilePositionsOnchain deps) :=
  performs_reconcilePositionsOnchain (S := Background) rfl (fun _ => rfl) (fun _ => rfl) rfl
    (fun _ _ => rfl) deps

/-- A whole reconciliation is background work. -/
theorem background_runReconciliation (deps : Deps) :
    Prog.PerformsE Background (runReconciliation deps) :=
  Prog.performsE_bind (background_reconcilePendingOrders deps) fun _ =>
    Prog.performsE_bind (background_reconcilePositionsOnchain deps) fun _ => trivial

end Reconcilers

section Reads

/-- A mark is derived by watching. -/
theorem watching_deriveMark (deps : Deps) (baseMint : Option String) (mint : String)
    (remaining : UInt64) (baseDecimals tokenDecimals : UInt8) (basePrice : Decimal) :
    (deriveMark deps baseMint mint remaining baseDecimals tokenDecimals basePrice).Performs
      Watching := by
  unfold deriveMark
  split
  · trivial
  · refine Prog.performs_bind (performs_call ⟨rfl, rfl, rfl⟩) fun answer => ?_
    split
    · trivial
    · split
      · trivial
      · exact Prog.performs_bind (performs_call ⟨rfl, rfl, rfl⟩) fun _ => trivial

/-- The last liquidity is read by watching. -/
theorem watching_persistedLiquidity (deps : Deps) (mint : String) :
    (persistedLiquidity deps mint).Performs Watching := by
  refine Prog.performs_bind (performs_call ⟨rfl, rfl, rfl⟩) fun answer => ?_
  split
  · dsimp only
    split
    · refine Prog.performs_bind (performs_call ⟨rfl, rfl, rfl⟩) fun now => ?_
      split <;> trivial
    · trivial
  · trivial
  · trivial

/-- The liquidity for an exit is found by watching. -/
theorem watching_exitLiquidity (deps : Deps) (candidate : Option CandidateInput) (mint : String) :
    (exitLiquidity deps candidate mint).Performs Watching := by
  unfold exitLiquidity
  split
  · trivial
  · exact watching_persistedLiquidity deps mint

/-- An invalidated signal is asked for by watching. -/
theorem watching_signalInvalidated (signalId : String) :
    (signalInvalidated signalId).Performs Watching := by
  unfold signalInvalidated
  split
  · trivial
  · refine Prog.performs_bind (performs_call ⟨rfl, rfl, rfl⟩) fun answer => ?_
    split <;> trivial

/-- Sizing an entry reads at most one number. -/
theorem performs_sizeEntry {S : Op → Prop} (h : ∀ d, S (.parseU64 d)) (config : Config)
    (s : SessionState) (c : CandidateInput) (tokenDecimals : UInt8) :
    (sizeEntry config s c tokenDecimals).Performs S := by
  unfold sizeEntry
  split
  · dsimp only
    split
    · trivial
    · split
      · trivial
      · exact Prog.performs_bind (performs_call (h _)) fun _ => trivial
  · exact Prog.performs_bind (performs_call (h _)) fun _ => trivial

end Reads

end SolanaBot.Analysis
