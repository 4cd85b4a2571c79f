import SolanaBot.Analysis.Interlocks
import SolanaBot.Library.TwoRuns

/-!
# Exits do not know the interlocks

Interlocks halt entries and nothing else: an exit reduces risk, and is allowed under every interlock.
Whether the emergency stop is engaged, the kill switch tripped or its latch set makes no difference to
the exits of a session, to the turns of the exit monitor, or to the operator's exit from all positions:
two runs that differ in the interlocks only perform the same operations, get the same answers, and end
in states that differ in the interlocks only (`exits_ignore_interlocks`).
-/

set_option autoImplicit false

namespace SolanaBot.Analysis

open SolanaBot.Library SolanaBot.Model

/-- The store without its interlocks. -/
def unlockedDb (db : Db) : Db := { db with emergencyStop := none, killSwitch := none }

/-- The risk engine without its kill switch being tripped. -/
def unlockedRisk (r : RiskEngine) : RiskEngine :=
  { r with killSwitch := { r.killSwitch with tripped := false } }

/-- The state of a session without its interlocks. -/
def unlocked (s : SessionState) : SessionState :=
  { s with emergencyActive := false, risk := unlockedRisk s.risk }

/-- The stores differ in the interlocks only. -/
abbrev SameButInterlocks (db db' : Db) : Prop := unlockedDb db = unlockedDb db'

/-- The states differ in the interlocks only. -/
abbrev SameTrading (s s' : SessionState) : Prop := unlocked s = unlocked s'

/-! ## Operations -/

/-- Updating an order does not look at the interlocks. -/
theorem unlockedDb_updateOrder (db : Db) (o : OrderRecord) :
    unlockedDb (db.updateOrder o) = (unlockedDb db).updateOrder o := by
  unfold Db.updateOrder
  rw [show (unlockedDb db).orders = db.orders from rfl]
  split <;> rfl

/-- Nor does reserving one. -/
theorem unlockedDb_reserveOrder (db : Db) (o : OrderRecord) :
    (unlockedDb db).reserveOrder o = ((db.reserveOrder o).1, unlockedDb (db.reserveOrder o).2) := by
  unfold Db.reserveOrder
  rw [show (unlockedDb db).orders = db.orders from rfl]
  split
  · rfl
  · split <;> rfl

/-- Nor does recording a fill that cannot be accounted for. -/
theorem unlockedDb_recordUnaccountedFill (faults : TxFaults) (fill : Fill) (order : OrderRecord)
    (db : Db) : recordUnaccountedFill faults fill order (unlockedDb db) =
      ((recordUnaccountedFill faults fill order db).1,
        unlockedDb (recordUnaccountedFill faults fill order db).2) := by
  have hupdate := unlockedDb_updateOrder (db.saveFill fill)
  unfold recordUnaccountedFill
  split
  · rfl
  · split
    · rfl
    · split
      · rfl
      · split
        · rfl
        · split
          · rfl
          · exact Prod.ext rfl (hupdate _).symm

/-- Nor does a fill transaction. -/
theorem unlockedDb_runFillTransaction (faults : TxFaults) (t : FillTransaction) (db : Db) :
    runFillTransaction faults t (unlockedDb db) =
      ((runFillTransaction faults t db).1, unlockedDb (runFillTransaction faults t db).2) := by
  unfold runFillTransaction
  rw [show (unlockedDb db).loadPortfolio = db.loadPortfolio from rfl]
  dsimp only
  split
  · rfl
  · split
    · rfl
    · split
      · rfl
      · split
        · rfl
        · split
          · rfl
          · split
            · rfl
            · split
              · rfl
              · split
                · rfl
                · refine Prod.ext rfl ?_
                  dsimp only
                  rw [unlockedDb_updateOrder]
                  split <;> rfl

/-- Without its interlocks the store gives the same answers, and is changed in the same way. -/
theorem exec_unlockedDb (e : Env) {o : Op} (h : readsInterlock o = false) (db : Db) :
    (exec e o (unlockedDb db)).1 = (exec e o db).1 ∧
      unlockedDb (exec e o (unlockedDb db)).2 = unlockedDb (exec e o db).2 := by
  cases o with
  | emergencyStop => cases h
  | killSwitchReason => cases h
  | reserveOrder seen o =>
      unfold exec
      dsimp only
      split
      · exact ⟨rfl, rfl⟩
      · rw [unlockedDb_reserveOrder]
        exact ⟨rfl, rfl⟩
  | updateOrder copy o =>
      unfold exec statement
      split
      · exact ⟨rfl, rfl⟩
      · refine ⟨rfl, ?_⟩
        dsimp only
        rw [unlockedDb_updateOrder, unlockedDb_updateOrder]
        rfl
  | fillTransaction t =>
      unfold exec
      dsimp only
      rw [unlockedDb_runFillTransaction]
      exact ⟨rfl, rfl⟩
  | unaccountedFill fill order =>
      unfold exec
      dsimp only
      rw [unlockedDb_recordUnaccountedFill]
      exact ⟨rfl, rfl⟩
  | _ =>
      first
        | exact ⟨rfl, rfl⟩
        | (unfold exec statement; split <;> exact ⟨rfl, rfl⟩)

/-! ## States of a session -/

section States

variable {s s' : SessionState} (hs : SameTrading s s')

include hs

/-- The same trading has the same portfolio. -/
theorem SameTrading.portfolio : s.portfolio = s'.portfolio := by
  have h := congrArg SessionState.portfolio hs
  exact h

/-- It has the same candidates. -/
theorem SameTrading.candidates : s.candidates = s'.candidates := by
  have h := congrArg SessionState.candidates hs
  exact h

/-- It has the same risk engine but for the switch. -/
theorem SameTrading.risk : unlockedRisk s.risk = unlockedRisk s'.risk := by
  have h := congrArg SessionState.risk hs
  exact h

/-- It is kept under a change of the portfolio. -/
theorem SameTrading.with_portfolio {pf pf' : Portfolio} (h : pf = pf') :
    SameTrading { s with portfolio := pf } { s' with portfolio := pf' } := by
  subst h
  exact congrArg (fun s : SessionState => { s with portfolio := pf }) hs

/-- It is kept under a change of the risk engine. -/
theorem SameTrading.with_risk {r r' : RiskEngine} (h : unlockedRisk r = unlockedRisk r') :
    SameTrading { s with risk := r } { s' with risk := r' } := by
  change { unlocked s with risk := unlockedRisk r } = { unlocked s' with risk := unlockedRisk r' }
  rw [h]
  exact congrArg (fun s : SessionState => { s with risk := unlockedRisk r' }) hs

end States

/-- Whether a failure trips the kill switch does not depend on whether it is tripped. -/
theorem recordExecutionFailure_unlockedRisk (r : RiskEngine) :
    (unlockedRisk r).recordExecutionFailure.1 = r.recordExecutionFailure.1 ∧
      unlockedRisk (unlockedRisk r).recordExecutionFailure.2 =
        unlockedRisk r.recordExecutionFailure.2 := by
  unfold RiskEngine.recordExecutionFailure
  dsimp only
  rw [show (unlockedRisk r).consecutiveFailures = r.consecutiveFailures from rfl,
    show (unlockedRisk r).config = r.config from rfl]
  split <;> exact ⟨rfl, rfl⟩

/-- Recording an exit does not look at the switch. -/
theorem exitedRisk_unlockedRisk (r : RiskEngine) (exposure : Decimal) (fill : Fill) :
    unlockedRisk (exitedRisk (unlockedRisk r) exposure fill) =
      unlockedRisk (exitedRisk r exposure fill) := by
  unfold exitedRisk
  dsimp only
  split
  · exact (recordExecutionFailure_unlockedRisk (r.registerExit exposure).recordExecutionSuccess).2
  · rfl

/-! ## Two runs -/

section Runs

variable (deps : Deps) {env : ℕ → Env × (Db → Db)}

/-- The others do not react to the interlocks. -/
def OthersBlind (env : ℕ → Env × (Db → Db)) : Prop :=
  ∀ j db db', SameButInterlocks db db' → SameButInterlocks ((env j).2 db) ((env j).2 db')

/-- An operation that reads no interlock does the same on stores that differ in these only. -/
theorem blind_of_not_reads (hothers : OthersBlind env) {o : Op} (h : readsInterlock o = false) :
    Prog.Blind world.among env SameButInterlocks o := by
  intro i db db' hsame
  have hmoved := hothers i db db' hsame
  obtain ⟨hanswer, hdb⟩ := exec_unlockedDb (env i).1 h ((env i).2 db)
  obtain ⟨hanswer', hdb'⟩ := exec_unlockedDb (env i).1 h ((env i).2 db')
  rw [hmoved] at hanswer hdb
  exact ⟨hanswer.symm.trans hanswer', hdb.symm.trans hdb'⟩

/-- What is sold without a look at the interlocks. -/
theorem agree_of_exiting (hothers : OthersBlind env) {α : Type} {t : Model.Task α}
    (ht : t.Performs Exiting) : Prog.Agree world.among env SameButInterlocks Eq t t :=
  Prog.agree_of_performs (ht.mono fun _ ho => blind_of_not_reads hothers ho.2)

/-- A part of a session that the interlocks make no difference to. -/
abbrev Indifferent {α : Type} (env : ℕ → Env × (Db → Db)) (p q : Session α) : Prop :=
  Prog.AgreeS world.among env SameButInterlocks SameTrading p q

variable (hothers : OthersBlind env)

include hothers

/-- A look of the session is indifferent if its task only exits. -/
theorem indifferent_look {α : Type} {t : Model.Task α} (ht : t.Performs Exiting) :
    Indifferent env (look t) (look t) :=
  Prog.agreeS_lift (ht.mono fun _ ho => blind_of_not_reads hothers ho.2)

/-- A look that only watches is indifferent. -/
theorem indifferent_watching {α : Type} {t : Model.Task α} (ht : t.Performs Watching) :
    Indifferent env (look t) (look t) :=
  indifferent_look hothers (ht.mono fun _ => exiting_of_watching)

/-- So is a task that can end the session. -/
theorem indifferent_orStop {α : Type} {t : Model.Task (Except String α)} (ht : t.Performs Exiting) :
    Indifferent env (orStop t) (orStop t) := by
  refine Prog.agreeS_bind (indifferent_look hothers ht) fun answer => ?_
  cases answer with
  | ok a => exact Prog.agreeS_pure a
  | error e => exact Prog.agreeS_throw e

/-- Counting a failure is indifferent. -/
theorem indifferent_countFailure : Indifferent env countFailure countFailure := by
  refine Prog.agreeS_get_bind fun s s' hs => ?_
  obtain ⟨htrips, hrisk⟩ := recordExecutionFailure_unlockedRisk s.risk
  obtain ⟨htrips', hrisk'⟩ := recordExecutionFailure_unlockedRisk s'.risk
  rw [hs.risk] at htrips hrisk
  dsimp only
  rw [← htrips, htrips']
  refine Prog.agreeS_bind (Prog.agreeS_modify fun l l' hl => ?_) fun _ => ?_
  · exact hl.with_risk (hrisk.symm.trans hrisk')
  · split
    · exact indifferent_orStop hothers (performs_call ⟨rfl, rfl⟩)
    · exact Prog.agreeS_pure _

/-- The attempt of an exit is indifferent. -/
theorem indifferent_attemptExit (mint : String) (remaining : UInt64) (reason : String) :
    Indifferent env (attemptExit deps mint remaining reason)
      (attemptExit deps mint remaining reason) := by
  refine Prog.agreeS_get_bind fun s s' _ => ?_
  -- whether an exit is authorized depends on the quantity alone
  rw [show s.risk.authorizeExit remaining = s'.risk.authorizeExit remaining from rfl]
  split
  · exact Prog.agreeS_pure _
  · refine Prog.agreeS_get_bind fun s s' hs => ?_
    rw [hs.portfolio]
    refine Prog.agreeS_bind (indifferent_look hothers (exiting_executeExitOrder deps _ _ _)) fun r =>
      Prog.agreeS_bind (Prog.agreeS_modify fun l l' hl => hl.with_portfolio rfl) fun _ => ?_
    split
    · rename_i fill _
      refine Prog.agreeS_modify fun l l' hl => ?_
      have hrisk := exitedRisk_unlockedRisk l.risk
        (((l.portfolio.position mint).bind Position.entryCostUsd).getD 0) fill
      rw [hl.risk] at hrisk
      have hafter := hrisk.symm.trans (exitedRisk_unlockedRisk l'.risk _ fill)
      refine hl.with_risk (hafter.trans ?_)
      rw [hl.portfolio]
      rfl
    · exact indifferent_countFailure hothers
    · exact Prog.agreeS_pure _
    · exact Prog.agreeS_pure _

/-- Marking a position and exiting it is indifferent. -/
theorem indifferent_markAndExit (position : Position) (mint : String) (remaining : UInt64)
    (liquidity : Option Decimal) (invalidated : Bool) (mark : Decimal) :
    Indifferent env (markAndExit deps position mint remaining liquidity invalidated mark)
      (markAndExit deps position mint remaining liquidity invalidated mark) := by
  refine Prog.agreeS_get_bind fun s s' hs => ?_
  rw [hs.portfolio]
  refine Prog.agreeS_bind (Prog.agreeS_modify fun l l' hl => hl.with_portfolio rfl) fun _ => ?_
  split
  · exact Prog.agreeS_throw _
  · refine Prog.agreeS_bind (indifferent_look hothers (performs_call ⟨rfl, rfl⟩)) fun now => ?_
    split
    · exact Prog.agreeS_pure _
    · exact indifferent_attemptExit deps hothers _ _ _

/-- The exit turn of one position is indifferent. -/
theorem indifferent_processExit (mint : String) :
    Indifferent env (processExit deps mint) (processExit deps mint) := by
  refine Prog.agreeS_get_bind fun s s' hs => ?_
  rw [hs.portfolio, hs.candidates]
  split
  · exact Prog.agreeS_pure _
  · split
    · exact Prog.agreeS_pure _
    · refine Prog.agreeS_bind (indifferent_orStop hothers (performs_call ⟨rfl, rfl⟩))
        fun incomplete => ?_
      split
      · exact Prog.agreeS_pure _
      · split
        · refine Prog.agreeS_bind (indifferent_watching hothers (watching_exitLiquidity deps _ _))
            fun liquidity => Prog.agreeS_bind
              (indifferent_watching hothers (watching_signalInvalidated _)) fun invalidated =>
            Prog.agreeS_bind (indifferent_watching hothers (watching_deriveMark deps _ _ _ _ _ _))
              fun mark => ?_
          split
          · exact Prog.agreeS_pure _
          · exact indifferent_markAndExit deps hothers _ _ _ _ _ _
        · exact Prog.agreeS_pure _

/-- The exit stage is indifferent. -/
theorem indifferent_processExits : Indifferent env (processExits deps) (processExits deps) := by
  refine Prog.agreeS_get_bind fun s s' hs => ?_
  rw [hs.portfolio]
  exact Prog.agreeS_bind (indifferent_look hothers (performs_call ⟨rfl, rfl⟩)) fun mints =>
    Prog.agreeS_foldlM _ (fun _ mint => indifferent_processExit deps hothers mint) _

end Runs

/-- **Exits ignore the interlocks.** Two runs from stores and sessions that differ in the interlocks
only perform the same operations with the same answers, and end with the same result in stores and
sessions that differ in the interlocks only: the exits of a session's tick, a turn of the exit monitor
over a position, and the operator's exit from all positions. -/
theorem exits_ignore_interlocks (deps : Deps) (env : ℕ → Env × (Db → Db)) (hothers : OthersBlind env) :
    Prog.AgreeS world.among env SameButInterlocks SameTrading (processExits deps) (processExits deps) ∧
      (∀ mint, Prog.AgreeS world.among env SameButInterlocks Eq (monitorPosition deps mint)
        (monitorPosition deps mint)) ∧
      Prog.Agree world.among env SameButInterlocks Eq (exitAllPositions deps) (exitAllPositions deps) := by
  refine ⟨indifferent_processExits deps hothers, fun mint s s' hs => ?_,
    agree_of_exiting hothers (exiting_exitAllPositions deps)⟩
  subst hs
  intro i db db' hdb
  obtain ⟨hseen, hresult, hend⟩ :=
    agree_of_exiting hothers (exiting_monitorPosition deps mint s) i db db' hdb
  rw [hresult] at *
  exact ⟨hseen, ⟨rfl, rfl⟩, hend⟩

/-- The sample position is sold by a session that the operator has stopped, too. -/
theorem exits_ignore_interlocks_sample :
    Prog.exchanges world.among (fun _ => (sampleEnv, id))
        ((processExits (sampleDeps false)).run.run (holdingSession (sampleDeps false))) 0 sampleDb =
      Prog.exchanges world.among (fun _ => (sampleEnv, id))
        ((processExits (sampleDeps false)).run.run
          { holdingSession (sampleDeps false) with emergencyActive := true }) 0
        (sampleDb.setEmergencyStop "halt") ∧
    ((Prog.exchanges world.among (fun _ => (sampleEnv, id))
        ((processExits (sampleDeps false)).run.run (holdingSession (sampleDeps false))) 0
        sampleDb).map fun x => x.op).any (fun o => recordsFill o) = true := by
  have hlocal : SameTrading (holdingSession (sampleDeps false))
      { holdingSession (sampleDeps false) with emergencyActive := true } := rfl
  have hstore : SameButInterlocks sampleDb (sampleDb.setEmergencyStop "halt") := rfl
  have hagree := exits_ignore_interlocks (sampleDeps false) (fun _ => (sampleEnv, id)) fun _ _ _ h => h
  exact ⟨(hagree.1 _ _ hlocal 0 _ _ hstore).1, by decide +kernel⟩

end SolanaBot.Analysis
