import Mathlib.Tactic.Linarith
import SolanaBot.Analysis.PortfolioRuns
import SolanaBot.Analysis.StoreSteps
import SolanaBot.Analysis.TaskRuns
import SolanaBot.Model.SessionLoop

/-!
# The equity that the session observes

The session adds up the profits of its open positions. The profit of a position that has been
closed is not part of the sum any more: the observed equity is the starting capital and all
profits exactly if the profits of the closed positions cancel, and a sale that closes a position
takes its whole profit out of the equity (`equity_consistent_iff`). A loss stops counting when
it becomes final (`realized_loss_forgotten`).
-/

set_option autoImplicit false

namespace SolanaBot.Analysis

open SolanaBot.Library SolanaBot.Model

/-- The profit of a position, realized and not. -/
def profit (p : Position) : Decimal := p.realizedPnlUsd + p.unrealizedPnlUsd

/-- The positions of a portfolio that are closed. -/
def closedPositions (pf : Portfolio) : List Position :=
  pf.positions.rows.filter fun p => !p.isOpen

/-- The equity that the session passes to the risk engine when it marks its portfolio. -/
def observedEquity (deps : Deps) (env : ℕ → Env) (i : ℕ) (s : SessionState) (db : Db) : Decimal :=
  (Prog.runS world env (markEquity deps) i s db).1.2.risk.state.equityUsd

/-! ## What is observed -/

/-- Latching the drawdown changes no variable of the session. -/
theorem latchDrawdown_state (env : ℕ → Env) (i : ℕ) (s : SessionState) (db : Db) :
    (Prog.runS world env latchDrawdown i s db).1.2 = s := by
  unfold latchDrawdown
  rw [Prog.runS_get_bind]
  split
  · rw [Prog.runS_bind, orStop_run]
    rcases Prog.run world env Store.killSwitchReason i db with ⟨r, db', j⟩
    cases r with
    | error e => rfl
    | ok reason =>
        cases reason with
        | some text => rfl
        | none =>
            change (Prog.runS world env (orStop (Store.latchKillSwitch _)) j s db').1.2 = s
            rw [orStop_run]
  · rfl

/-- What is observed are the open positions. -/
theorem observedEquity_eq (deps : Deps) (env : ℕ → Env) (i : ℕ) (s : SessionState) (db : Db) :
    observedEquity deps env i s db =
      equityUsd deps.config.risk.startingCapitalUsd s.portfolio.openPositions := by
  have hlatch := latchDrawdown_state env i { s with
    risk := s.risk.observeEquity
      (equityUsd deps.config.risk.startingCapitalUsd s.portfolio.openPositions) } db
  unfold observedEquity markEquity
  rw [Prog.runS_get_bind, Prog.runS_modify_bind, Prog.runS_bind]
  rcases hrun : Prog.runS world env latchDrawdown i { s with
    risk := s.risk.observeEquity
      (equityUsd deps.config.risk.startingCapitalUsd s.portfolio.openPositions) } db with
    ⟨⟨r, s'⟩, db', j⟩
  rw [hrun] at hlatch
  cases (show s' = _ from hlatch)
  cases r <;> rfl

/-! ## Sums over the positions -/

/-- The equity is the capital and the profits. -/
theorem equityUsd_eq (capital : Decimal) (positions : List Position) :
    equityUsd capital positions = capital + (positions.map profit).sum := rfl

/-- Every position is open or closed. -/
theorem profit_open_add_closed (l : List Position) :
    ((l.filter Position.isOpen).map profit).sum + ((l.filter fun p => !p.isOpen).map profit).sum =
      (l.map profit).sum := by
  induction l with
  | nil => simp
  | cons p l ih =>
      cases hopen : p.isOpen
      · simp only [List.filter_cons, hopen, Bool.not_false, if_true, Bool.false_eq_true, if_false,
          List.map_cons, List.sum_cons]
        linarith
      · simp only [List.filter_cons, hopen, Bool.not_true, if_true, Bool.false_eq_true, if_false,
          List.map_cons, List.sum_cons]
        linarith

/-- What a position contributes to the observed equity. -/
def contribution (p : Position) : Decimal := if p.isOpen then profit p else 0

/-- The profits of open positions are their contributions. -/
theorem profit_open (l : List Position) :
    ((l.filter Position.isOpen).map profit).sum = (l.map contribution).sum := by
  induction l with
  | nil => rfl
  | cons p l ih =>
      unfold contribution at *
      cases hopen : p.isOpen
      · simp only [List.filter_cons, hopen, Bool.false_eq_true, if_false, List.map_cons,
          List.sum_cons, ih, zero_add]
      · simp only [List.filter_cons, hopen, if_true, List.map_cons, List.sum_cons, ih]

/-- A sale that closes a position takes the whole profit of the position out of the sum. -/
theorem equity_after_close {pf : Portfolio} {mint : String} {p : Position} {fill : Fill}
    {reason : String} {now : Time} {out : ExitOutcome} (capital : Decimal)
    (hp : pf.position mint = some p) (hopen : p.isOpen = true)
    (hexit : (pf.applyExit mint fill reason now).1 = .ok out) (hclosed : out.closed = true) :
    equityUsd capital (pf.applyExit mint fill reason now).2.openPositions =
      equityUsd capital pf.openPositions - profit p := by
  obtain ⟨p', remaining, newRemaining, proceeds, entryCost, hp', -, -, -, -, -, rfl, hput⟩ :=
    Portfolio.applyExit_ok hexit
  rw [hp] at hp'
  cases hp'
  have hzero : newRemaining = 0 := by simpa using hclosed
  have hkey : pf.positions.find? (p.afterExit fill newRemaining
      (proceeds - entryCost * dec fill.inputAmount / p.quantity - fill.feesUsd) reason now).mint =
        some p := by
    rw [Position.afterExit_mint, Portfolio.mint_of_position hp]
    exact hp
  have hsum := Table.sum_map_put contribution hkey
  have hafter : contribution (p.afterExit fill newRemaining
      (proceeds - entryCost * dec fill.inputAmount / p.quantity - fill.feesUsd) reason now) = 0 := by
    unfold contribution Position.afterExit Position.isOpen
    simp [hzero]
  have hbefore : contribution p = profit p := by
    unfold contribution
    rw [if_pos hopen]
  rw [hput, equityUsd_eq, equityUsd_eq]
  unfold Portfolio.openPositions
  rw [profit_open, profit_open]
  rw [hafter, hbefore] at hsum
  linarith

/-! ## The law -/

/-- **Equity consistency.** In every run of the portfolio, the equity that the session observes is
the starting capital and the profits of all positions exactly if the profits of the closed ones
cancel. A sale that closes a position moves the observed equity by at most its fee exactly if the
profit of the position was at most the fee. -/
theorem equity_consistent_iff (deps : Deps) (ops : List AccountingOp) (s : SessionState)
    (hs : s.portfolio = portfolioAfter ops) (env : ℕ → Env) (i : ℕ) (db : Db) :
    (observedEquity deps env i s db =
        equityUsd deps.config.risk.startingCapitalUsd s.portfolio.positions.rows ↔
      ((closedPositions (portfolioAfter ops)).map profit).sum = 0) ∧
    ∀ mint p fill reason now out, s.portfolio.position mint = some p → p.isOpen = true →
      (s.portfolio.applyExit mint fill reason now).1 = .ok out → out.closed = true →
      ∀ j db', (|observedEquity deps env j
            { s with portfolio := (s.portfolio.applyExit mint fill reason now).2 } db' -
          observedEquity deps env i s db| ≤ fill.feesUsd ↔ |profit p| ≤ fill.feesUsd) := by
  constructor
  · have hsplit := profit_open_add_closed s.portfolio.positions.rows
    rw [observedEquity_eq, equityUsd_eq, equityUsd_eq, ← hs]
    unfold closedPositions Portfolio.openPositions
    constructor
    · intro h
      linarith
    · intro h
      linarith
  · intro mint p fill reason now out hp hopen hexit hclosed j db'
    rw [observedEquity_eq, observedEquity_eq]
    dsimp only
    rw [equity_after_close deps.config.risk.startingCapitalUsd hp hopen hexit hclosed,
      sub_sub_cancel_left, abs_neg]

/-! ## A loss that stops counting -/

/-- Buy 100 units for 10 USD, and mark them at a price. -/
def boughtAndMarked (price : Decimal) : List AccountingOp :=
  [.entry "token" "base" 0 0 "position-1" (swapFill "entry-1" 10 100 10 0) (1 / 10) "signal-1"
    someCostModel,
   .mark "token" price]

/-- The sale of the 100 units at the price of the mark. -/
def saleAt (price : Decimal) : AccountingOp :=
  .exit "token" { swapFill "exit-1" 100 10 (100 * price) 0 with priceUsd := price } "stop_loss" 0

/-- The sample session after a run of its portfolio. -/
def sessionAfter (ops : List AccountingOp) : SessionState :=
  newSessionState (sampleDeps false) (portfolioAfter ops)

/-- The equity is consistent behind a sale at the marked price, and not behind a loss. -/
theorem equity_consistent_iff_sample :
    observedEquity (sampleDeps false) (fun _ => sampleEnv) 0
        (sessionAfter (boughtAndMarked (1 / 10) ++ [saleAt (1 / 10)])) sampleDb =
      equityUsd 1000 (sessionAfter (boughtAndMarked (1 / 10) ++ [saleAt (1 / 10)])).portfolio.positions.rows ∧
    (|observedEquity (sampleDeps false) (fun _ => sampleEnv) 0
        { sessionAfter (boughtAndMarked (1 / 10)) with
          portfolio := ((portfolioAfter (boughtAndMarked (1 / 10))).applyExit "token"
            (swapFill "exit-1" 100 10 10 0) "manual_exit" 0).2 } sampleDb -
      observedEquity (sampleDeps false) (fun _ => sampleEnv) 0
        (sessionAfter (boughtAndMarked (1 / 10))) sampleDb| ≤ 0) :=
  ⟨(equity_consistent_iff (sampleDeps false) (boughtAndMarked (1 / 10) ++ [saleAt (1 / 10)])
      (sessionAfter (boughtAndMarked (1 / 10) ++ [saleAt (1 / 10)])) rfl (fun _ => sampleEnv) 0
      sampleDb).1.mpr (by decide +kernel),
    ((equity_consistent_iff (sampleDeps false) (boughtAndMarked (1 / 10))
      (sessionAfter (boughtAndMarked (1 / 10))) rfl (fun _ => sampleEnv) 0 sampleDb).2 "token"
      (((portfolioAfter (boughtAndMarked (1 / 10))).position "token").get (by decide +kernel))
      (swapFill "exit-1" 100 10 10 0) "manual_exit" 0 ⟨0, true⟩ (Option.some_get _).symm
      (by decide +kernel) (by decide +kernel) rfl 0 sampleDb).mpr (by decide +kernel)⟩

/-- A position is marked at a loss of 6 USD and sold at the mark, without a fee: the loss was part of
the observed equity and is not any more. -/
theorem realized_loss_forgotten :
    observedEquity (sampleDeps false) (fun _ => sampleEnv) 0
        (sessionAfter (boughtAndMarked (1 / 25))) sampleDb = 994 ∧
      observedEquity (sampleDeps false) (fun _ => sampleEnv) 0
        (sessionAfter (boughtAndMarked (1 / 25) ++ [saleAt (1 / 25)])) sampleDb = 1000 ∧
      equityUsd 1000 (sessionAfter (boughtAndMarked (1 / 25) ++
        [saleAt (1 / 25)])).portfolio.positions.rows = 994 := by
  decide +kernel

end SolanaBot.Analysis
