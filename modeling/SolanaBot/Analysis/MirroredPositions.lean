import SolanaBot.Analysis.LossCooldown
import SolanaBot.Analysis.EntryReservations
import SolanaBot.Analysis.ReconciledAgreement

/-!
# What the risk engine is asked with

The session keeps the open positions in memory, and so do the counters of its risk engine, while
the exit monitor and the reconcilers write to the store. As long as the other writers neither close
nor open a position nor change an entry cost, the memory mirrors the store (`Mirrors`), and what the
risk engine is asked with is what the store says, if the fills since the equity was marked change
the exposure by what is registered (`authorize_sees_store`).
-/

set_option autoImplicit false

namespace SolanaBot.Analysis

open SolanaBot.Library SolanaBot.Model

/-! ## Holdings -/

/-- What the limits see of a position. -/
def holding (p : Position) : Bool × Option Decimal := (p.isOpen, p.entryCostUsd)

/-- Its part of the exposure. -/
def stake (h : Bool × Option Decimal) : Decimal := if h.1 then h.2.getD 0 else 0

/-- The same positions are open, and at the same entry costs. -/
def SameHoldings (t u : Table Position.mint) : Prop :=
  ∀ mint, (t.find? mint).map holding = (u.find? mint).map holding

/-- Every table holds what it holds. -/
theorem SameHoldings.refl (t : Table Position.mint) : SameHoldings t t := fun _ => rfl

/-- Holding the same is symmetric. -/
theorem SameHoldings.symm {t u : Table Position.mint} (h : SameHoldings t u) : SameHoldings u t :=
  fun mint => (h mint).symm

/-- Holding the same is transitive. -/
theorem SameHoldings.trans {t u v : Table Position.mint} (h : SameHoldings t u)
    (h' : SameHoldings u v) : SameHoldings t v :=
  fun mint => (h mint).trans (h' mint)

/-- Whether `SameHoldings` holds can be evaluated. -/
instance (t u : Table Position.mint) : Decidable (SameHoldings t u) :=
  decidable_of_iff (∀ p ∈ t.rows ++ u.rows,
      (t.find? p.mint).map holding = (u.find? p.mint).map holding) (by
    constructor
    · intro h mint
      cases ht : t.find? mint with
      | some p =>
          have hp := h p (List.mem_append_left _ (Table.find?_mem ht))
          rwa [Table.find?_key ht, ht] at hp
      | none =>
          cases hu : u.find? mint with
          | some p =>
              have hp := h p (List.mem_append_right _ (Table.find?_mem hu))
              rwa [Table.find?_key hu, ht, hu] at hp
          | none => rfl
    · exact fun h p _ => h p.mint)

/-- The exposure is the sum of the stakes of what is held. -/
theorem aggregateExposure_eq (t : Table Position.mint) :
    aggregateExposure (Portfolio.openPositions ⟨t⟩) =
      (t.rows.map fun p => stake (holding p)).sum := by
  unfold aggregateExposure Portfolio.openPositions
  induction t.rows with
  | nil => rfl
  | cons p l ih =>
      rw [List.map_cons, List.sum_cons, ← ih, List.filter_cons]
      unfold stake holding
      cases p.isOpen with
      | false => simp
      | true => cases hc : p.entryCostUsd <;> simp [hc]

/-- The limits see the same of the same holdings. -/
theorem SameHoldings.limits {t u : Table Position.mint} (h : SameHoldings t u) :
    (Portfolio.openPositions ⟨t⟩).length = (Portfolio.openPositions ⟨u⟩).length ∧
      aggregateExposure (Portfolio.openPositions ⟨t⟩) =
        aggregateExposure (Portfolio.openPositions ⟨u⟩) := by
  have hperm := Table.perm_of_find?_map h
  constructor
  · have hcount := hperm.countP_eq fun x => x.2.1
    rw [List.countP_map, List.countP_map] at hcount
    unfold Portfolio.openPositions
    rw [← List.countP_eq_length_filter, ← List.countP_eq_length_filter]
    exact hcount
  · have hsum := (hperm.map fun x => stake x.2).sum_eq
    rw [List.map_map, List.map_map] at hsum
    rw [aggregateExposure_eq, aggregateExposure_eq]
    exact hsum

/-- The loaded portfolio has the stored holdings. -/
theorem sameHoldings_loadPortfolio (db : Db) :
    SameHoldings db.loadPortfolio.positions db.positions := by
  intro mint
  exact congrArg (Option.map holding) (Db.position_loadPortfolio db mint)

/-- Equal holdings of one mint are put into both tables. -/
theorem SameHoldings.put {t u : Table Position.mint} (h : SameHoldings t u) {p q : Position}
    (hmint : p.mint = q.mint) (hholding : holding p = holding q) :
    SameHoldings (t.put p) (u.put q) := by
  intro mint
  rw [Table.find?_put, Table.find?_put, hmint]
  split
  · exact congrArg some hholding
  · exact h mint

/-- A record is replaced by one with the same holding. -/
theorem sameHoldings_put {t : Table Position.mint} {p q : Position} (h : t.find? q.mint = some p)
    (hholding : holding q = holding p) : SameHoldings (t.put q) t := by
  intro mint
  rw [Table.find?_put]
  split
  · rename_i hmint
    rw [hmint, h]
    exact congrArg some hholding
  · rfl

/-- The exposure after a record was replaced. -/
theorem aggregateExposure_put {t : Table Position.mint} {p q : Position}
    (h : t.find? q.mint = some p) :
    aggregateExposure (Portfolio.openPositions ⟨t.put q⟩) + stake (holding p) =
      aggregateExposure (Portfolio.openPositions ⟨t⟩) + stake (holding q) := by
  rw [aggregateExposure_eq, aggregateExposure_eq]
  exact Table.sum_map_put (fun p => stake (holding p)) h

/-- The exposure after a record was added. -/
theorem aggregateExposure_put_new {t : Table Position.mint} {q : Position}
    (h : t.find? q.mint = none) :
    aggregateExposure (Portfolio.openPositions ⟨t.put q⟩) =
      aggregateExposure (Portfolio.openPositions ⟨t⟩) + stake (holding q) := by
  have hrows : (t.put q).rows = t.rows ++ [q] := by
    unfold Table.put
    rw [dif_neg ((Table.find?_eq_none_iff t q.mint).mp h)]
  rw [aggregateExposure_eq, aggregateExposure_eq, hrows, List.map_append, List.sum_append]
  simp

/-- The entry cost of a mint. -/
def costOf (t : Table Position.mint) (mint : String) : Decimal :=
  ((t.find? mint).bind Position.entryCostUsd).getD 0

/-- Tables that hold the same have the same costs. -/
theorem SameHoldings.cost {t u : Table Position.mint} (h : SameHoldings t u) (mint : String) :
    costOf t mint = costOf u mint := by
  have hmint := h mint
  unfold costOf
  cases ht : t.find? mint <;> cases hu : u.find? mint <;> rw [ht, hu] at hmint <;>
    simp_all [holding]

/-! ## Steps -/

/-- The step leaves the stored holdings alone, unless it records a fill of the session itself. -/
structure Tracked (e : Env × (Db → Db)) (o : Op) (db : Db) : Prop where
  others : SameHoldings (e.2 db).positions db.positions
  reconciled : Indirect o → SameHoldings (exec e.1 o (e.2 db)).2.positions (e.2 db).positions

/-- Whether `Tracked` holds can be evaluated. -/
instance (e : Env × (Db → Db)) (o : Op) (db : Db) : Decidable (Tracked e o db) :=
  decidable_of_iff (SameHoldings (e.2 db).positions db.positions ∧
      (Indirect o → SameHoldings (exec e.1 o (e.2 db)).2.positions (e.2 db).positions))
    ⟨fun h => ⟨h.1, h.2⟩, fun h => ⟨h.1, h.2⟩⟩

/-- The fill changes the exposure by what the session registers for it: an entry costs what was
asked for, and nothing is left of an earlier position; an exit sells all that remains, and the other
positions do not add up to less than nothing. -/
def RegisteredAs (t : FillTransaction) (db : Db) : Prop :=
  match t.accounting with
  | .entry .. =>
      costOf db.positions t.mint + t.fill.inputValueUsd.getD 0 = t.order.inputValueUsd.getD 0
  | .exit stored .. =>
      stored.bind Position.remainingQuantityAtomic = some t.fill.inputAmount ∧
        costOf db.positions t.mint ≤ aggregateExposure db.loadPortfolio.openPositions
  | .reconciledExit .. => True

/-- Whether `RegisteredAs` holds can be evaluated. -/
instance (t : FillTransaction) (db : Db) : Decidable (RegisteredAs t db) := by
  unfold RegisteredAs
  cases t.accounting <;> infer_instance

/-- Every recorded fill of the session changes the exposure by what is registered for it. -/
def Registered (e : Env × (Db → Db)) (o : Op) (db : Db) : Prop :=
  match o with
  | .fillTransaction t =>
      t.source = .direct → t.failure e.1.txFaults (e.2 db) = none → RegisteredAs t (e.2 db)
  | _ => True

/-- An operation that does not write registers everything it writes. -/
theorem registered_of_not_writes (e : Env × (Db → Db)) (db : Db) (op : Op) (h : ¬ op.Writes) :
    Registered e op db := by
  cases op <;> first | trivial | exact absurd trivial h

/-- Whether `Registered` holds can be evaluated. -/
instance (e : Env × (Db → Db)) (op : Op) (db : Db) : Decidable (Registered e op db) :=
  op.decideWrites (registered_of_not_writes e db) (fun _ _ => instDecidableTrue)
    (fun _ _ => instDecidableTrue) (fun _ _ => instDecidableTrue)
    (fun t => inferInstanceAs (Decidable (t.source = .direct →
      t.failure e.1.txFaults (e.2 db) = none → RegisteredAs t (e.2 db))))
    (fun _ _ => instDecidableTrue)

/-! ## The invariant -/

/-- The portfolio holds what the store does. -/
def Mirrors (pf : Portfolio) (db : Db) : Prop := SameHoldings pf.positions db.positions

/-- The portfolio mirrors the store, and within the part of the tick that `W` speaks of the exposure
is that of the portfolio. -/
def Synced (W : Prop) (s : SessionState) (db : Db) : Prop :=
  Mirrors s.portfolio db ∧
    (W → s.risk.state.totalExposureUsd = aggregateExposure s.portfolio.openPositions)

/-- What every step meets. -/
def SyncedStep (W : Prop) (e : Env × (Db → Db)) (o : Op) (db : Db) : Prop :=
  Tracked e o db ∧ (W → Registered e o db)

variable {W : Prop} {deps : Deps} {env : ℕ → Env × (Db → Db)}

/-- A portfolio mirrors the store after the others' synced changes. -/
theorem Mirrors.others {pf : Portfolio} {db : Db} (h : Mirrors pf db) {e : Env × (Db → Db)} {o : Op}
    (hstep : SyncedStep W e o db) : Mirrors pf (e.2 db) :=
  SameHoldings.trans h hstep.1.others.symm

/-- It mirrors the store after a synced step that writes no position itself. -/
theorem Mirrors.step {pf : Portfolio} {db : Db} (h : Mirrors pf db) {e : Env × (Db → Db)} {o : Op}
    (ho : Indirect o) (hstep : SyncedStep W e o db) : Mirrors pf (world.among.exec e o db).2 :=
  SameHoldings.trans (h.others hstep) (hstep.1.reconciled ho).symm

/-- The quiet parts of a session leave portfolio and store in step. -/
theorem quietInvariant_synced :
    QuietInvariant world.among env (SyncedStep W) (Synced W) fun s db => Mirrors s.portfolio db where
  op i o db s ho hR hs := ⟨hs.1.step ho hR, hs.2⟩
  frame s s' db hportfolio hrisk hs := by
    unfold Synced
    rw [hportfolio, hrisk]
    exact hs
  error _ _ hs := hs.1

/-- A mark changes no holding. -/
theorem sameHoldings_markToMarket (pf : Portfolio) (mint : String) (price : Decimal) :
    SameHoldings (pf.markToMarket mint price).2.positions pf.positions := by
  cases hr : (pf.markToMarket mint price).1 with
  | ok value =>
      obtain ⟨p, remaining, cost, hp, -, -, -, hput⟩ := Portfolio.markToMarket_ok hr
      rw [hput]
      refine sameHoldings_put (p := p) ?_ rfl
      rw [← Portfolio.mint_of_position hp] at hp
      exact hp
  | error e =>
      rcases Portfolio.markToMarket_error hr with hsame | ⟨p, high, value, hp, hput⟩
      · rw [hsame]
        exact .refl _
      · rw [hput]
        refine sameHoldings_put (p := p) ?_ rfl
        rw [← Portfolio.mint_of_position hp] at hp
        exact hp

/-- A counted failure leaves the exposure alone. -/
theorem exposure_recordExecutionFailure (r : RiskEngine) :
    r.recordExecutionFailure.2.state = r.state := by
  unfold RiskEngine.recordExecutionFailure
  dsimp only
  split <;> rfl

/-- Counting a failure leaves them in step. -/
theorem preserves_countFailure :
    Preserves world.among env (SyncedStep W) (Synced W) (fun s db => Mirrors s.portfolio db)
      countFailure := by
  refine Prog.triple_get_bind fun s => Prog.triple_bind (M := fun _ => Synced W)
    (Prog.triple_modify ?_) fun _ => ?_
  · rintro s' db ⟨rfl, hs⟩
    unfold Synced
    rw [exposure_recordExecutionFailure]
    exact hs
  · split
    · exact preserves_orStop quietInvariant_synced (performs_call rfl)
    · exact preserves_pure _

/-! ### Entries -/

/-- What an entry makes of a holding: it is open, and its cost grows by the value. -/
theorem holding_entered (old : Option Position) (mint baseMint : String)
    (tokenDecimals baseMintDecimals : UInt8) (positionId : String) (fill : Fill) (price v : Decimal)
    (signalId : String) (costModel : CostModel) :
    holding (.entered old mint baseMint tokenDecimals baseMintDecimals positionId fill price v
      signalId costModel) = (true, some ((old.bind Position.entryCostUsd).getD 0 + v)) := by
  cases old with
  | none => simp [Position.entered, Position.ofEntry, holding, Position.isOpen]
  | some p => simp [Position.entered, Position.mergeEntry, holding, Position.isOpen]

/-- A fill transaction stores the position it accounts for. -/
theorem positions_applied {t : FillTransaction} {db : Db} {p : Position}
    (h : (t.account db.loadPortfolio).2.position t.mint = some p) :
    (t.applied db).positions = db.positions.put p := by
  unfold FillTransaction.applied
  simp only [h, Db.positions_updateOrder]
  rfl

/-- The exposure grows by the cost of an entry in a mint that has no open position. -/
theorem aggregateExposure_entered {t : Table Position.mint} {q : Position} {v : Decimal}
    (hopen : NotOpen q.mint ⟨t⟩) (hq : holding q = (true, some (costOf t q.mint + v))) :
    aggregateExposure (Portfolio.openPositions ⟨t.put q⟩) =
      aggregateExposure (Portfolio.openPositions ⟨t⟩) + (costOf t q.mint + v) := by
  have hstake : stake (holding q) = costOf t q.mint + v := by
    rw [hq]
    rfl
  cases hp : t.find? q.mint with
  | none => rw [aggregateExposure_put_new hp, hstake]
  | some p =>
      have hsum := aggregateExposure_put hp
      have hclosed : p.isOpen = false := by
        have hfound : Portfolio.position ⟨t⟩ q.mint = some p := hp
        unfold NotOpen at hopen
        rwa [hfound] at hopen
      have hnothing : stake (holding p) = 0 := by
        unfold stake holding
        rw [hclosed]
        rfl
      rwa [hnothing, add_zero, hstake] at hsum

/-- The session and the store record an entry alike, at the cost that is registered. -/
theorem synced_entered {s : SessionState} {db : Db} (h : Synced W s db) {ctx : EntryContext}
    (hopen : NotOpen ctx.mint s.portfolio) {fill : Fill} {placed : OrderRecord}
    (hvalue : placed.inputValueUsd = some ctx.positionUsd)
    (hok : ((entryTransaction deps ctx fill placed).account db.loadPortfolio).1 = .ok ())
    (hregistered : W → RegisteredAs (entryTransaction deps ctx fill placed) db) :
    Synced W { s with
      portfolio := (s.portfolio.applyEntry ctx.mint deps.config.strategy.baseMint ctx.tokenDecimals
        ctx.baseMintDecimals ctx.positionId fill fill.priceUsd ctx.signalId ctx.costs).2
      risk := (s.risk.registerTrade ctx.positionUsd).recordExecutionSuccess }
      ((entryTransaction deps ctx fill placed).applied db) := by
  obtain ⟨hmirrors, hexposure⟩ := h
  obtain ⟨hfill, v, hv, hstored⟩ := Portfolio.applyEntry_ok hok
  have hok' : (s.portfolio.applyEntry ctx.mint deps.config.strategy.baseMint ctx.tokenDecimals
      ctx.baseMintDecimals ctx.positionId fill fill.priceUsd ctx.signalId ctx.costs).1 = .ok () :=
    (Portfolio.applyEntry_ok_iff ..).mpr ⟨hfill, by rw [show fill.inputValueUsd = some v from hv]; rfl⟩
  obtain ⟨-, v', hv', hput⟩ := Portfolio.applyEntry_ok hok'
  obtain rfl : v = v' := Option.some.inj (hv.symm.trans hv')
  obtain ⟨p, hp⟩ : ∃ p, p = Position.entered (s.portfolio.position ctx.mint) ctx.mint
    deps.config.strategy.baseMint ctx.tokenDecimals ctx.baseMintDecimals ctx.positionId fill
    fill.priceUsd v ctx.signalId ctx.costs := ⟨_, rfl⟩
  obtain ⟨q, hq⟩ : ∃ q, q = Position.entered (db.loadPortfolio.position ctx.mint) ctx.mint
    deps.config.strategy.baseMint ctx.tokenDecimals ctx.baseMintDecimals ctx.positionId fill
    fill.priceUsd v ctx.signalId ctx.costs := ⟨_, rfl⟩
  rw [← hp] at hput
  have hpmint : p.mint = ctx.mint := by rw [hp, AccountingOp.entered_mint]
  have hqmint : q.mint = ctx.mint := by rw [hq, AccountingOp.entered_mint]
  have hpholding : holding p = (true, some (costOf s.portfolio.positions ctx.mint + v)) := by
    rw [hp, holding_entered]
    rfl
  have hqholding : holding q = (true, some (costOf db.positions ctx.mint + v)) := by
    rw [hq, holding_entered, Db.position_loadPortfolio]
    rfl
  have hfound : ((entryTransaction deps ctx fill placed).account db.loadPortfolio).2.position
      ctx.mint = some q := by
    have hposition := Portfolio.position_put db.loadPortfolio q ctx.mint
    rw [if_pos hqmint.symm, hq] at hposition
    rw [hq]
    exact (congrArg (fun pf => Portfolio.position pf ctx.mint) hstored).trans hposition
  constructor
  · unfold Mirrors
    rw [hput, positions_applied hfound]
    refine SameHoldings.put hmirrors (hpmint.trans hqmint.symm) ?_
    rw [hpholding, hqholding, SameHoldings.cost hmirrors]
  · intro hw
    have hsize : costOf s.portfolio.positions ctx.mint + v = ctx.positionUsd := by
      have hsize := hregistered hw
      unfold RegisteredAs entryTransaction at hsize
      dsimp only at hsize
      rw [hvalue, show fill.inputValueUsd = some v from hv] at hsize
      rw [SameHoldings.cost hmirrors]
      exact hsize
    change s.risk.state.totalExposureUsd + ctx.positionUsd = _
    rw [hput, aggregateExposure_entered (v := v) (by rw [hpmint]; exact hopen)
      (by rw [hpmint]; exact hpholding), hexposure hw, hpmint, hsize]

/-- The accounting of an entry leaves portfolio, store and exposure in step. -/
theorem synced_persistEntry (ctx : EntryContext) (fill : Fill) (placed : OrderRecord)
    (minOutputAmount : UInt64) (hvalue : placed.inputValueUsd = some ctx.positionUsd) :
    Prog.Triple world.among env (SyncedStep W) (fun _ _ _ => True)
      (fun s db => Synced W s db ∧ NotOpen ctx.mint s.portfolio)
      (persistEntry deps ctx fill placed minOutputAmount) (fun _ => Synced W)
      fun s db => Mirrors s.portfolio db := by
  refine Prog.triple_get_bind fun s => ?_
  dsimp only
  -- if the entry is recorded, the session has to follow
  refine Prog.triple_bind (M := fun answer s' db =>
    (answer.1 = .ok () → Synced W { s' with
      portfolio := (s'.portfolio.applyEntry ctx.mint deps.config.strategy.baseMint ctx.tokenDecimals
        ctx.baseMintDecimals ctx.positionId (finalizeFill fill s.solPriceUsd)
        (finalizeFill fill s.solPriceUsd).priceUsd ctx.signalId ctx.costs).2
      risk := (s'.risk.registerTrade ctx.positionUsd).recordExecutionSuccess } db) ∧
    (answer.1 ≠ .ok () → Synced W s' db))
    (Prog.triple_lift fun s' => Prog.task_perform ?_) fun answer => ?_
  · rintro i db ⟨rfl, hs, hopen⟩ hstep
    refine ⟨trivial, ?_⟩
    have hothers : Synced W s' ((env i).2 db) := ⟨hs.1.others hstep, hs.2⟩
    simp only [Machine.among_exec]
    unfold world exec
    dsimp only
    rcases runFillTransaction_cases (env i).1.txFaults
        (entryTransaction deps ctx (finalizeFill fill s'.solPriceUsd) placed) ((env i).2 db) with
      ⟨f, msg, -, hrun⟩ | ⟨hfailure, hok, -, hrun⟩
    · rw [hrun]
      exact ⟨fun h => (by cases h), fun _ => hothers⟩
    · rw [hrun]
      refine ⟨fun _ => ?_, fun h => absurd rfl h⟩
      exact synced_entered hothers hopen hvalue hok fun hw => hstep.2 hw rfl hfailure
  · split
    · refine Prog.triple_bind (M := fun _ => Synced W) (Prog.triple_modify fun s' db hs => hs.1 rfl)
        fun _ => ?_
      split
      · exact preserves_countFailure
      · exact preserves_pure _
    · exact triple_of_preserves (fun s' db hs => hs.2 (by simp))
        (preserves_orStop quietInvariant_synced (performs_call rfl))

/-! ### Exits -/

/-- What an exit order does to the portfolio: it mirrors the store, and the exposure is what is left
after the registration of a confirmed exit, or the portfolio is as before. -/
def ExitSynced (W : Prop) (pf : Portfolio) (mint : String) (x : ExitExecResult × Portfolio)
    (db : Db) : Prop :=
  Mirrors x.2 db ∧
    match x.1 with
    | .confirmed _ => W → aggregateExposure x.2.openPositions =
        max (aggregateExposure pf.openPositions - costOf x.2.positions mint) 0
    | _ => x.2 = pf

/-- An exit without a fill leaves the portfolio as it was. -/
theorem ExitSynced.unchanged {pf : Portfolio} {mint : String} {x : ExitExecResult × Portfolio} {db : Db}
    (h : ExitSynced W pf mint x db) (hnot : ∀ fill, x.1 ≠ .confirmed fill) : x.2 = pf := by
  obtain ⟨x, pf'⟩ := x
  cases x with
  | confirmed fill => exact absurd rfl (hnot fill)
  | _ => exact h.2

/-- A triple of an exit order. -/
abbrev ExitTriple (W : Prop) (env : ℕ → Env × (Db → Db)) {α : Type} (pf : Portfolio)
    (t : Model.Task α) (Q : α → Db → Prop) : Prop :=
  Prog.TaskTriple world.among env (SyncedStep W) (fun _ _ _ => True) (Mirrors pf) t Q

section ExitOrders

variable {pf : Portfolio} {mint : String}

/-- A task that writes no position itself leaves portfolio and store in step. -/
theorem mirrors_task {α : Type} {t : Model.Task α} (ht : t.Performs Indirect) :
    ExitTriple W env pf t fun _ => Mirrors pf :=
  Prog.task_of_performs ht fun _ _ _ ho hR hs => ⟨trivial, hs.step ho hR⟩

/-- An order that is not confirmed leaves the portfolio as it was. -/
theorem exitSynced_unconfirmed {x : ExitExecResult} (h : ∀ fill, x ≠ .confirmed fill) :
    ExitTriple W env pf (pure (x, pf)) (ExitSynced W pf mint) := by
  refine Prog.task_done fun db hs => ⟨hs, ?_⟩
  cases x with
  | confirmed fill => exact absurd rfl (h fill)
  | _ => rfl

/-- What an exit makes of a holding: it closes when nothing remains, and its cost stays. -/
theorem holding_afterExit (p : Position) (fill : Fill) (newRemaining : UInt64) (realized : Decimal)
    (reason : String) (now : Time) :
    holding (p.afterExit fill newRemaining realized reason now) =
      (if newRemaining = 0 then false else p.isOpen, p.entryCostUsd) := by
  unfold Position.afterExit holding Position.isOpen
  dsimp only
  split
  · rfl
  · rfl

/-- The exposure after a position was closed. -/
theorem aggregateExposure_closed {t : Table Position.mint} {p q : Position} (hmint : q.mint = p.mint)
    (hcopy : (t.find? p.mint).map holding = some (holding p)) (hopen : p.isOpen = true)
    (hq : holding q = (false, p.entryCostUsd)) :
    aggregateExposure (Portfolio.openPositions ⟨(t.put p).put q⟩) =
        aggregateExposure (Portfolio.openPositions ⟨t⟩) - p.entryCostUsd.getD 0 ∧
      costOf ((t.put p).put q) p.mint = p.entryCostUsd.getD 0 := by
  obtain ⟨old, hold, holding_old⟩ := Option.map_eq_some_iff.mp hcopy
  have hsame := (sameHoldings_put hold holding_old.symm).limits.2
  have hfound : (t.put p).find? q.mint = some p := by
    rw [hmint]
    exact Table.find?_put_self t p
  have hsum := aggregateExposure_put hfound
  have hstake : stake (holding p) = p.entryCostUsd.getD 0 := by
    unfold stake holding
    rw [hopen]
    rfl
  have hnothing : stake (holding q) = 0 := by
    rw [hq]
    rfl
  rw [hstake, hnothing, add_zero, hsame] at hsum
  refine ⟨eq_sub_of_add_eq hsum, ?_⟩
  have hcost : q.entryCostUsd = p.entryCostUsd := congrArg Prod.snd hq
  unfold costOf
  rw [← hmint, Table.find?_put_self, Option.bind_some, hcost]

/-- An accepted exit puts a record that is closed if everything was sold. -/
theorem applyExit_put {pf : Portfolio} {p : Position} (hp : pf.position p.mint = some p) {fill : Fill}
    {reason : String} {now : Time} (hok : (pf.applyExit p.mint fill reason now).1.isOk = true) :
    ∃ q, (pf.applyExit p.mint fill reason now).2 = ⟨pf.positions.put q⟩ ∧ q.mint = p.mint ∧
      holding q = (if p.remainingQuantityAtomic = some fill.inputAmount then false else p.isOpen,
        p.entryCostUsd) := by
  cases hr : (pf.applyExit p.mint fill reason now).1 with
  | error e =>
      rw [hr] at hok
      cases hok
  | ok out =>
      obtain ⟨old, remaining, newRemaining, proceeds, cost, hold, hremaining, hsub, -, -, -, -, hput⟩ :=
        Portfolio.applyExit_ok hr
      obtain rfl : p = old := Option.some.inj (hp.symm.trans hold)
      refine ⟨_, hput, p.afterExit_mint .., ?_⟩
      rw [holding_afterExit, hremaining]
      have hsold := toNat_checkedSub hsub
      have hiff : newRemaining = 0 ↔ some remaining = some fill.inputAmount := by
        rw [Option.some.injEq, ← UInt64.toNat_inj, ← UInt64.toNat_inj, UInt64.toNat_zero]
        omega
      simp only [hiff]

/-- Whether an exit is accepted depends on the position, the quantity, and that there is a value. -/
theorem applyExit_isOk_congr {pf pf' : Portfolio} {mint reason reason' : String} {fill fill' : Fill}
    {now now' : Time} (hposition : pf.position mint = pf'.position mint)
    (hinput : fill.inputAmount = fill'.inputAmount)
    (hvalue : fill.inputValueUsd.isSome = fill'.inputValueUsd.isSome) :
    (pf.applyExit mint fill reason now).1.isOk = (pf'.applyExit mint fill' reason' now').1.isOk := by
  unfold Portfolio.applyExit
  rw [hposition, hinput]
  cases pf'.position mint with
  | none => rfl
  | some p =>
      dsimp only
      cases p.remainingQuantityAtomic with
      | none => rfl
      | some remaining =>
          dsimp only
          cases checkedSub remaining fill'.inputAmount with
          | none => rfl
          | some newRemaining =>
              cases hv : fill.inputValueUsd <;> cases hv' : fill'.inputValueUsd
              · rfl
              · rw [hv, hv'] at hvalue
                cases hvalue
              · rw [hv, hv'] at hvalue
                cases hvalue
              · cases p.entryCostUsd with
                | none => rfl
                | some cost =>
                    dsimp only
                    split <;> rfl

/-- The accounting of an exit is accepted as the sale of its copy is. -/
theorem account_exit {fill : Fill} {placed : OrderRecord} {p : Position} (pf : Portfolio)
    (mint reason : String) (now : Time) :
    ((exitTransaction fill placed (some p) mint reason now).account pf).1.isOk =
      ((pf.syncPosition p).applyExit mint fill reason now).1.isOk := by
  change (((pf.syncPosition p).applyExit mint fill reason now).1.map fun _ => ()).isOk = _
  cases ((pf.syncPosition p).applyExit mint fill reason now).1 <;> rfl

/-- The session and the store record an exit alike. -/
theorem exitSynced_confirmed {db : Db} (hmirrors : Mirrors pf db) {p : Position}
    (hmint : p.mint = mint) (hcopy : (pf.position mint).map holding = some (holding p))
    (hopen : p.isOpen = true) {fill : Fill} {placed : OrderRecord} {reason : String} {now : Time}
    (now' : Time)
    (hok : ((exitTransaction fill placed (some p) mint reason now).account db.loadPortfolio).1 = .ok ())
    (hregistered : W → RegisteredAs (exitTransaction fill placed (some p) mint reason now) db) :
    ExitSynced W pf mint (.confirmed fill, ((pf.syncPosition p).applyExit mint fill reason now').2)
      ((exitTransaction fill placed (some p) mint reason now).applied db) := by
  subst hmint
  have hsynced : ∀ pf' : Portfolio, (pf'.syncPosition p).position p.mint = some p :=
    fun pf' => Table.find?_put_self _ p
  have hstored : ((db.loadPortfolio.syncPosition p).applyExit p.mint fill reason now).1.isOk = true := by
    rw [← account_exit, hok]
    rfl
  have hmemory : ((pf.syncPosition p).applyExit p.mint fill reason now').1.isOk = true := by
    rw [applyExit_isOk_congr ((hsynced pf).trans (hsynced db.loadPortfolio).symm) rfl rfl]
    exact hstored
  obtain ⟨q, hq, hqmint, hqholding⟩ := applyExit_put (hsynced pf) hmemory
  obtain ⟨q', hq', hqmint', hqholding'⟩ := applyExit_put (hsynced db.loadPortfolio) hstored
  have hfound : ((exitTransaction fill placed (some p) p.mint reason now).account
      db.loadPortfolio).2.position p.mint = some q' := by
    have hposition := Portfolio.position_put (db.loadPortfolio.syncPosition p) q' p.mint
    rw [if_pos hqmint'.symm] at hposition
    exact (congrArg (fun pf => Portfolio.position pf p.mint) hq').trans hposition
  have hcopied : SameHoldings (pf.positions.put p) pf.positions := by
    obtain ⟨old, hold, hsame⟩ := Option.map_eq_some_iff.mp hcopy
    exact sameHoldings_put hold hsame.symm
  have hmirrored : SameHoldings ((pf.positions.put p).put q) (db.positions.put q') :=
    SameHoldings.put (hcopied.trans hmirrors) (hqmint.trans hqmint'.symm)
      (hqholding.trans hqholding'.symm)
  refine ⟨?_, fun hw => ?_⟩
  · unfold Mirrors
    rw [positions_applied hfound, hq]
    exact hmirrored
  · obtain ⟨hall, hothers⟩ := hregistered hw
    have hsold : p.remainingQuantityAtomic = some fill.inputAmount := hall
    rw [if_pos hsold] at hqholding
    obtain ⟨hexposure, hcost⟩ := aggregateExposure_closed hqmint hcopy hopen hqholding
    have hpaid : costOf pf.positions p.mint = p.entryCostUsd.getD 0 := by
      rw [← SameHoldings.cost hcopied]
      unfold costOf
      rw [Table.find?_put_self]
      rfl
    have hmarked : aggregateExposure db.loadPortfolio.openPositions =
        aggregateExposure pf.openPositions :=
      (((sameHoldings_loadPortfolio db).trans hmirrors.symm).limits).2
    change costOf db.positions p.mint ≤ _ at hothers
    rw [hmarked, ← SameHoldings.cost hmirrors, hpaid] at hothers
    dsimp only
    rw [hq]
    have hnonneg : 0 ≤ aggregateExposure pf.openPositions - p.entryCostUsd.getD 0 :=
      sub_nonneg.mpr hothers
    have hcost' : costOf (Portfolio.positions ⟨(pf.syncPosition p).positions.put q⟩) p.mint =
        p.entryCostUsd.getD 0 := hcost
    rw [hcost', max_eq_left hnonneg]
    exact hexposure

/-- An update of the order is logged, and the portfolio stays as it was. -/
theorem exitSynced_logged (copy o : OrderRecord) {x : ExitExecResult}
    (h : ∀ fill, x ≠ .confirmed fill) :
    ExitTriple W env pf (updateOrderLogged copy o >>= fun _ => pure (x, pf))
      (ExitSynced W pf mint) :=
  Prog.task_bind (mirrors_task (Prog.performs_bind (performs_call rfl) fun _ => trivial))
    fun _ => exitSynced_unconfirmed h

/-- The accounting of an exit leaves portfolio and store in step. -/
theorem persistExit_synced {p : Position} (hmint : p.mint = mint)
    (hcopy : (pf.position mint).map holding = some (holding p)) (hopen : p.isOpen = true)
    (fill : Fill) (placed : OrderRecord) (reason : String) :
    ExitTriple W env pf (persistExit deps fill placed (some p) mint reason pf)
      (ExitSynced W pf mint) := by
  generalize hfill : finalizeFill fill deps.config.economics.solPriceUsd = fill'
  unfold persistExit
  dsimp only
  rw [hfill]
  refine Prog.task_bind (mirrors_task (performs_call rfl)) fun now => ?_
  -- once the exit is recorded, the session has to follow
  refine Prog.task_bind (M := fun answer db =>
    (answer.1 = .ok () → ∀ now', ExitSynced W pf mint
      (.confirmed fill', ((pf.syncPosition p).applyExit mint fill' reason now').2) db) ∧
    (answer.1 ≠ .ok () → Mirrors pf db)) (Prog.task_perform ?_) fun answer => ?_
  · intro i db hs hstep
    refine ⟨trivial, ?_⟩
    have hothers := hs.others hstep
    simp only [Machine.among_exec]
    unfold world exec
    dsimp only
    rcases runFillTransaction_cases (env i).1.txFaults
        (exitTransaction fill' placed (some p) mint reason now) ((env i).2 db) with
      ⟨f, msg, -, hrun⟩ | ⟨hfailure, hok, -, hrun⟩
    · rw [hrun]
      exact ⟨fun h => (by cases h), fun _ => hothers⟩
    · rw [hrun]
      refine ⟨fun _ now' => ?_, fun h => absurd rfl h⟩
      exact exitSynced_confirmed hothers hmint hcopy hopen now' hok
        fun hw => hstep.2 hw rfl hfailure
  · split
    · refine Prog.task_bind (M := fun _ db => ∀ now', ExitSynced W pf mint
        (.confirmed fill', ((pf.syncPosition p).applyExit mint fill' reason now').2) db)
        (Prog.task_perform fun i db hs hstep => ⟨trivial, fun now' => ?_⟩) fun now' =>
        Prog.task_done fun db hs => hs now'
      exact ⟨(hs.1 rfl now').1.step rfl hstep, (hs.1 rfl now').2⟩
    · refine (exitSynced_logged _ _ ?_).conseq (fun db hs => hs.2 (by simp)) fun _ _ hs => hs
      exact fun _ h => nomatch h

/-- What follows the reservation of an exit leaves them in step. -/
theorem submitExit_synced {p : Position} (hmint : p.mint = mint)
    (hcopy : (pf.position mint).map holding = some (holding p)) (hopen : p.isOpen = true)
    (order : OrderRecord) (terms : ExitTerms) (remaining : UInt64) (reason : String) :
    ExitTriple W env pf (submitExit deps order terms remaining (some p) mint reason pf)
      (ExitSynced W pf mint) := by
  unfold submitExit
  dsimp only
  refine Prog.task_bind (mirrors_task (performs_call rfl)) fun answer => ?_
  split
  · exact exitSynced_logged _ _ fun _ h => nomatch h
  · split
    · exact exitSynced_logged _ _ fun _ h => nomatch h
    · refine Prog.task_bind (mirrors_task (Prog.performs_bind (performs_call rfl) fun _ => trivial))
        fun _ => Prog.task_bind (mirrors_task (performs_call rfl)) fun answer => ?_
      split
      · exact persistExit_synced hmint hcopy hopen _ _ _
      · exact exitSynced_logged _ _ fun _ h => nomatch h
      · exact exitSynced_logged _ _ fun _ h => nomatch h

/-- An exit leaves them in step. -/
theorem executeExitOrder_synced (reason : String) :
    ExitTriple W env pf (executeExitOrder deps mint reason pf) (ExitSynced W pf mint) := by
  refine Prog.task_bind (mirrors_task (performs_call rfl)) fun now => Prog.task_bind
    (M := fun answer db => Mirrors pf db ∧ ∀ stored, answer = .ok stored →
      ∀ p, (stored.find? fun p => p.mint = mint) = some p →
        (pf.position mint).map holding = some (holding p))
    (Prog.task_perform fun i db hs hstep => ⟨trivial, hs.step rfl hstep, ?_⟩) fun answer => ?_
  · have hothers := hs.others hstep
    simp only [Machine.among_exec]
    unfold world exec statement
    dsimp only
    cases (env i).1.fault with
    | some msg => exact fun _ h => nomatch h
    | none =>
        intro stored hstored p hp
        cases hstored
        have hfound : ((env i).2 db).positions.find? mint = some p := hp
        have hmint := hothers mint
        rw [hfound] at hmint
        exact hmint
  · refine Prog.task_of_fact fun hcopies => ?_
    split
    · exact exitSynced_unconfirmed fun _ h => nomatch h
    · rename_i stored
      split
      · rename_i hrefused
        exact exitSynced_unconfirmed (exitTarget_error hrefused)
      · rename_i position remaining htarget
        obtain ⟨hfound, hmint, hopen⟩ := exitTarget_ok htarget
        have hcopy := hcopies stored rfl position hfound
        refine Prog.task_bind (mirrors_task (performs_call rfl)) fun incomplete => ?_
        split
        · exact exitSynced_unconfirmed fun _ h => nomatch h
        · split
          · exact exitSynced_unconfirmed fun _ h => nomatch h
          · split
            · rename_i hrefused
              exact exitSynced_unconfirmed (exitTerms_error hrefused)
            · unfold reserveExit
              refine Prog.task_bind (mirrors_task (performs_call rfl)) fun orders => ?_
              split
              · exact exitSynced_unconfirmed fun _ h => nomatch h
              · dsimp only
                split
                · exact exitSynced_unconfirmed fun _ h => nomatch h
                · refine Prog.task_bind (mirrors_task (performs_call rfl)) fun id =>
                    Prog.task_bind (mirrors_task (performs_call rfl)) fun reserved => ?_
                  split
                  · exact exitSynced_unconfirmed fun _ h => nomatch h
                  · exact exitSynced_unconfirmed fun _ h => nomatch h
                  · rw [hfound]
                    exact submitExit_synced hmint hcopy hopen _ _ _ _

end ExitOrders

/-- An exit lowers the exposure by what is released, not below zero. -/
theorem exposure_exitedRisk (r : RiskEngine) (x : Decimal) (fill : Fill) :
    (exitedRisk r x fill).state.totalExposureUsd = max (r.state.totalExposureUsd - x) 0 := by
  unfold exitedRisk
  dsimp only
  split
  · rw [exposure_recordExecutionFailure]
    rfl
  · rfl

/-- The attempt of an exit leaves portfolio and store in step. -/
theorem preserves_attemptExit (mint : String) (remaining : UInt64) (reason : String) :
    Preserves world.among env (SyncedStep W) (Synced W) (fun s db => Mirrors s.portfolio db)
      (attemptExit deps mint remaining reason) := by
  refine preserves_bind preserves_get fun s => ?_
  split
  · exact preserves_pure _
  · refine Prog.triple_get_bind fun s => ?_
    refine Prog.triple_bind (M := fun x s' db => ExitSynced W s.portfolio mint x db ∧
        (W → s'.risk.state.totalExposureUsd = aggregateExposure s.portfolio.openPositions))
      (Prog.triple_lift fun s' => ?_) fun r => ?_
    · rintro i db ⟨rfl, hs⟩ hR
      obtain ⟨hG, hend⟩ := (executeExitOrder_synced reason : ExitTriple W env s'.portfolio
        (executeExitOrder deps mint reason s'.portfolio) _) i db hs.1 hR
      exact ⟨hG, hend, hs.2⟩
    · refine Prog.triple_bind (M := fun _ s' db => Mirrors s'.portfolio db ∧
          s'.portfolio = r.2 ∧ ExitSynced W s.portfolio mint r db ∧
          (W → s'.risk.state.totalExposureUsd = aggregateExposure s.portfolio.openPositions))
        (Prog.triple_modify fun s' db hs => ⟨hs.1.1, rfl, hs⟩) fun _ => ?_
      have hsame : (∀ fill, r.1 ≠ .confirmed fill) → ∀ (s' : SessionState) (db : Db),
          (Mirrors s'.portfolio db ∧ s'.portfolio = r.2 ∧ ExitSynced W s.portfolio mint r db ∧
            (W → s'.risk.state.totalExposureUsd = aggregateExposure s.portfolio.openPositions)) →
          Synced W s' db := by
        rintro hnot s' db ⟨hmirrors, hportfolio, hexit, hexposure⟩
        refine ⟨hmirrors, ?_⟩
        rw [hportfolio, hexit.unchanged hnot]
        exact hexposure
      split
      · rename_i fill hconfirmed
        refine Prog.triple_modify ?_
        rintro s' db ⟨hmirrors, hportfolio, hexit, hexposure⟩
        refine ⟨hmirrors, fun hw => ?_⟩
        have hleft := hexit.2
        rw [hconfirmed] at hleft
        have hrisk := exposure_exitedRisk s'.risk
          (((s'.portfolio.position mint).bind Position.entryCostUsd).getD 0) fill
        refine hrisk.trans ?_
        rw [hexposure hw, hportfolio]
        exact (hleft hw).symm
      · rename_i e hfailed
        refine triple_of_preserves (hsame fun fill h => ?_) preserves_countFailure
        rw [hfailed] at h
        cases h
      · rename_i hunknown
        refine Prog.triple_pure (hsame fun fill h => ?_)
        rw [hunknown] at h
        cases h
      · rename_i e hskipped
        refine Prog.triple_pure (hsame fun fill h => ?_)
        rw [hskipped] at h
        cases h

/-! ## Runs -/

/-- Within a tick, after the equity was marked. -/
theorem tickInvariant_synced :
    TickInvariant world.among env (SyncedStep W) (Synced W) (fun s db => Mirrors s.portfolio db)
      deps where
  toQuietInvariant := quietInvariant_synced
  counted _ _ hs := hs
  marked s mint price db hs := by
    have hmarked := sameHoldings_markToMarket s.portfolio mint price
    refine ⟨hmarked.trans hs.1, fun hw => ?_⟩
    exact (hs.2 hw).trans hmarked.limits.2.symm
  failed := preserves_countFailure
  exited := preserves_attemptExit
  entered ctx fill placed minOutputAmount hvalue := synced_persistEntry ctx fill placed
    minOutputAmount hvalue

/-- Marking the equity sets the exposure to that of the portfolio. -/
theorem markEquity_synced :
    Prog.Triple world.among env (SyncedStep False) (fun _ _ _ => True) (Synced False)
      (markEquity deps) (fun _ => Synced True) fun s db => Mirrors s.portfolio db := by
  refine Prog.triple_get_bind fun s => ?_
  have hq : QuietInvariant world.among env (SyncedStep False) (fun s' db => Synced False s' db ∧
      s'.portfolio.openPositions = s.portfolio.openPositions) fun s db => Mirrors s.portfolio db :=
    quietInvariant_synced.and_fact fun pf _ => pf.openPositions = s.portfolio.openPositions
  refine Prog.triple_bind (M := fun _ s' db => Synced False s' db ∧
    s'.portfolio.openPositions = s.portfolio.openPositions) (Prog.triple_modify ?_) fun _ =>
    Prog.triple_bind (preserves_latchDrawdown hq) fun _ => Prog.triple_modify ?_
  · rintro s' db ⟨rfl, hs⟩
    exact ⟨⟨hs.1, fun h => h.elim⟩, rfl⟩
  · rintro s' db ⟨hs, hopened⟩
    exact ⟨hs.1, fun _ => congrArg aggregateExposure hopened.symm⟩

/-- Over a whole session the portfolio mirrors the store. -/
theorem runInvariant_synced :
    RunInvariant world.among env (SyncedStep False) (Synced False)
      (fun s db => Mirrors s.portfolio db) deps where
  toTickInvariant := tickInvariant_synced
  window _ _ _ _ hs := ⟨hs.1, fun h => h.elim⟩
  trip _ _ hs := ⟨hs.1, fun h => h.elim⟩
  equity := markEquity_synced.conseq (fun _ _ hs => hs) (fun _ _ _ hs => ⟨hs.1, fun h => h.elim⟩)
    fun _ _ hs => hs
  caught _ _ hs := ⟨hs, fun h => h.elim⟩

/-- A session up to the point of the tick `n` where the equity is marked. -/
def untilMarked (deps : Deps) (n : ℕ) : Session Unit := do
  sessionStart deps
  sessionTicks deps n
  beforeExits deps

/-- The tick from there, up to the call of `authorize` in the turn `k`, if it gets there. -/
def markedUntilAuthorize (deps : Deps) (k : ℕ) : Session (Option (EntryCall × Time)) := do
  processExits deps
  authorizing deps k

/-- A session up to a call of `authorize` is one up to its last marking, and the rest. -/
theorem untilAuthorize_eq (deps : Deps) (n k : ℕ) :
    untilAuthorize deps n k = (do
      untilMarked deps n
      markedUntilAuthorize deps k) := by
  unfold untilAuthorize untilMarked markedUntilAuthorize
  rw [ticksUntilAuthorize_eq]
  unfold beforeEntries
  simp only [bind_assoc]

/-- When the equity is marked, the exposure is that of the portfolio. -/
theorem untilMarked_synced (n : ℕ) :
    Prog.Triple world.among env (SyncedStep False) (fun _ _ _ => True) (Synced False)
      (untilMarked deps n) (fun _ => Synced True) fun s db => Mirrors s.portfolio db := by
  unfold untilMarked
  rw [beforeExits_eq]
  exact Prog.triple_bind (preserves_sessionStart runInvariant_synced) fun _ =>
    Prog.triple_bind (preserves_sessionTicks runInvariant_synced n) fun _ =>
    Prog.triple_bind (preserves_beforeMarking runInvariant_synced) fun _ => markEquity_synced

/-- From there to the call of `authorize` the figures stay those of the portfolio. -/
theorem markedUntilAuthorize_synced (k : ℕ) :
    Prog.Triple world.among env (SyncedStep True) (fun _ _ _ => True) (Synced True)
      (markedUntilAuthorize deps k) (fun call s db => Synced True s db ∧
        (call.isSome = true → s.risk.state.openPositions = s.portfolio.openPositions.length))
      fun s db => Mirrors s.portfolio db :=
  Prog.triple_bind (preserves_processExits tickInvariant_synced) fun _ =>
    triple_authorizing tickInvariant_synced k

/-- After the equity was marked, every fill is registered as it is. -/
def FillsRegistered (deps : Deps) (env : ℕ → Env × (Db → Db)) (k : ℕ)
    (marked : (Except String Unit × SessionState) × Db × ℕ) : Prop :=
  match marked with
  | ((.ok _, s), db, i) => Prog.AlwaysS world.among env Registered (markedUntilAuthorize deps k) i s db
  | ((.error _, _), _, _) => True

/-- Whether `FillsRegistered` holds can be evaluated. -/
instance (deps : Deps) (env : ℕ → Env × (Db → Db)) (k : ℕ)
    (marked : (Except String Unit × SessionState) × Db × ℕ) :
    Decidable (FillsRegistered deps env k marked) :=
  match marked with
  | ((.ok _, s), db, i) => inferInstanceAs (Decidable (Prog.Always world.among env Registered
      ((ExceptT.run (markedUntilAuthorize deps k)).run s) i db))
  | ((.error _, _), _, _) => isTrue trivial

/-- The feed has two records that can be traded, and everything is executed. -/
def twoEntriesRun : (Except String (Option (EntryCall × Time)) × SessionState) × Db × ℕ :=
  Prog.runS world.among (twoRecordsEnv executesAll) (untilAuthorize feedDeps 0 1) 0
    (newSessionState feedDeps (Portfolio.empty.load [])) Db.new

/-- One tick of the exit monitor, in a world that executes everything. -/
def monitored (db : Db) : Db :=
  (Prog.run world (fun j => (twoRecordsEnv executesAll (1000 + j)).1) (runMonitor feedDeps 1) 0 db).2.1

/-- The exit monitor has its tick before the first step of the session. -/
def monitoredEnv (j : ℕ) : Env × (Db → Db) :=
  ((twoRecordsEnv executesAll j).1, if j = 0 then monitored else id)

/-- The session that holds the sample position, up to its first entry. -/
def monitoredRun : (Except String (Option (EntryCall × Time)) × SessionState) × Db × ℕ :=
  Prog.runS world.among monitoredEnv (untilAuthorize feedDeps 0 0) 0
    (newSessionState feedDeps (Portfolio.empty.load sampleDb.positions.rows)) sampleDb

end SolanaBot.Analysis
