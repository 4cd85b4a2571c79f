import Mathlib.Algebra.Order.BigOperators.Group.List
import Mathlib.Algebra.Order.Ring.Rat
import Mathlib.Data.List.Sort
import Mathlib.Tactic.Linarith
import SolanaBot.Analysis.ReportFigures
import SolanaBot.Analysis.RunFees
import SolanaBot.Library.GainPaths

/-!
# When the performance report is right

After a run of the portfolio the report should end with the starting capital and all realized gains, count
every fee once and name the deepest drop of the equity, whatever order the store returns the positions in
(`ReportsRight`).

Several closed positions make a wrong report as soon as one of them lost: put in front of another one, its
loss is not in the ending equity. Gains alone add up, but the report calls them a drop, from the capital at
the end down to the starting capital. The fees of exits are in the total twice. `report_iff` puts this
together: little more than a single loss is reported as it happened.
-/

set_option autoImplicit false

namespace SolanaBot.Analysis

open SolanaBot.Library SolanaBot.Model

/-! ## The law -/

/-- An arrangement of some positions in which nobody stands before a position that exited earlier. A position
that was closed on the chain has no exit time and stands anywhere. -/
def ExitOrder (closed c : List Position) : Prop :=
  c.Perm closed ∧ c.Pairwise fun p q => ∀ a ∈ p.exitTime, ∀ b ∈ q.exitTime, a ≤ b

/-- The totals of a report on some closed positions of a run are right. -/
structure RightTotals (start : Decimal) (ops : List AccountingOp) (closed : List Position)
    (t : Totals) : Prop where
  ending : t.endingEquityUsd = start + (profitsOf closed).sum
  fees : t.feesUsd = (closed.map fun p => feesOf p.mint ops).sum
  drawdown : ∀ c, ExitOrder closed c → IsGreatest (drops start (profitsOf c)) t.maxDrawdownUsd

/-- The rows that the store holds after a run, in some order. -/
def Stored (ops : List AccountingOp) (rows : List Position) : Prop :=
  rows.Perm (portfolioAfter ops).positions.rows

/-- The reports after a run are right, and the order of the positions plays no role. -/
structure ReportsRight (start : Decimal) (ops : List AccountingOp) : Prop where
  right : ∀ orders rows, Stored ops rows → ∃ report,
    PerformanceReport.generate (.ok orders) (.ok rows) start = .ok report ∧
      RightTotals start ops (closedOf rows) (totalsOf report)
  sameTotals : ∀ orders orders' rows rows' report report', Stored ops rows → Stored ops rows' →
    PerformanceReport.generate (.ok orders) (.ok rows) start = .ok report →
    PerformanceReport.generate (.ok orders') (.ok rows') start = .ok report' →
    totalsOf report = totalsOf report'

/-- The starting capital and the realized profits for which the equity of the report is right. -/
def EquityAgrees (start : Decimal) (pnls : List Decimal) : Prop :=
  (pnls = [] ∧ start = 0) ∨
    (pnls ≠ [] ∧ (∀ p ∈ pnls, 0 ≤ p) ∧ (pnls.sum = 0 ∨ start + pnls.sum ≤ 0)) ∨
    ∃ loss, pnls = [loss] ∧ loss < 0 ∧ 0 < start

/-! ## The equity of the loop -/

/-- The equity after one profit more. -/
theorem equityAfter_snoc (start : Decimal) (pnls : List Decimal) (pnl : Decimal) :
    equityAfter start (pnls ++ [pnl]) = equityTurn (equityAfter start pnls) pnl := by
  unfold equityAfter
  rw [List.foldl_append]
  rfl

/-- The peak takes the gains and leaves the losses. -/
theorem equityAfter_peak (start : Decimal) (pnls : List Decimal) :
    (equityAfter start pnls).1 = start + (pnls.map (max · 0)).sum := by
  induction pnls using List.reverseRecOn with
  | nil => exact (add_zero start).symm
  | append_singleton pnls pnl ih =>
      rw [equityAfter_snoc, List.map_append, List.sum_append, ← add_assoc, ← ih, List.map_singleton,
        List.sum_singleton]
      change max _ (_ + pnl) = _ + max pnl 0
      rw [← max_add_add_left, add_zero, max_comm]

/-- Without losses the equity is the start and the profits, and has no drawdown. -/
theorem equityAfter_of_nonneg (start : Decimal) {pnls : List Decimal} (h : ∀ p ∈ pnls, 0 ≤ p) :
    (equityAfter start pnls).1 = start + pnls.sum ∧ (equityAfter start pnls).2.1 = start ∧
      (pnls ≠ [] → (equityAfter start pnls).2.2 = start + pnls.sum) := by
  induction pnls using List.reverseRecOn with
  | nil => exact ⟨(add_zero start).symm, rfl, fun hne => absurd rfl hne⟩
  | append_singleton pnls pnl ih =>
      have hbefore : ∀ p ∈ pnls, 0 ≤ p := fun p hp => h p (List.mem_append_left _ hp)
      have hpnl : 0 ≤ pnl := h pnl (by simp)
      have hsum : 0 ≤ pnls.sum := List.sum_nonneg hbefore
      obtain ⟨hpeak, hmin, -⟩ := ih hbefore
      rw [equityAfter_snoc, List.sum_append, List.sum_singleton, ← add_assoc]
      unfold equityTurn
      dsimp only
      rw [hpeak, hmin]
      refine ⟨max_eq_right (by linarith), min_eq_left (by linarith), fun _ => rfl⟩

/-- Gains without the losses are all profits only if there are no losses. -/
theorem nonneg_of_sum_gains {pnls : List Decimal} (h : (pnls.map (max · 0)).sum = pnls.sum) :
    ∀ p ∈ pnls, 0 ≤ p := by
  induction pnls with
  | nil =>
      intro p hp
      cases hp
  | cons pnl pnls ih =>
      have hle : pnls.sum ≤ (pnls.map (max · 0)).sum := by
        have hmap := List.sum_le_sum (l := pnls) (f := id) (g := (max · 0)) fun p _ => le_max_left p 0
        rwa [List.map_id] at hmap
      have hpnl : pnl ≤ max pnl 0 := le_max_left pnl 0
      rw [List.map_cons, List.sum_cons, List.sum_cons] at h
      intro p hp
      rcases List.mem_cons.mp hp with rfl | hp
      · have hmax : max p 0 = p := by linarith
        exact max_eq_left_iff.mp hmax
      · exact ih (by linarith) p hp

/-- The last equity has lost the losses before it. -/
theorem nonneg_of_ending {start : Decimal} {pnls : List Decimal} {last : Decimal}
    (h : (equityAfter start (pnls ++ [last])).2.2 = start + (pnls ++ [last]).sum) :
    ∀ p ∈ pnls, 0 ≤ p := by
  refine nonneg_of_sum_gains ?_
  rw [equityAfter_snoc, List.sum_append, List.sum_singleton] at h
  change (equityAfter start pnls).1 + last = _ at h
  rw [equityAfter_peak] at h
  linarith

/-- The drop that is reported for gains alone. -/
theorem reportedDrop_of_nonneg (start : Decimal) {pnls : List Decimal} (h : ∀ p ∈ pnls, 0 ≤ p) :
    reportedDrop (equityAfter start pnls) = if start + pnls.sum > 0 then pnls.sum else 0 := by
  obtain ⟨hpeak, hmin, -⟩ := equityAfter_of_nonneg start h
  unfold reportedDrop
  rw [hpeak, hmin, add_sub_cancel_left]

/-- The drop that is reported for a single loss. -/
theorem reportedDrop_loss (start : Decimal) {loss : Decimal} (h : loss < 0) :
    reportedDrop (equityAfter start [loss]) = if start > 0 then -loss else 0 := by
  change (if max start (start + loss) > 0 then max start (start + loss) - min start (start + loss) else 0) = _
  rw [max_eq_left (by linarith), min_eq_right (by linarith), sub_add_cancel_left]

/-! ## When the equity is right -/

/-- Equities that agree are right in every order of the positions. -/
theorem EquityAgrees.right {start : Decimal} {pnls l l' : List Decimal} (h : EquityAgrees start pnls)
    (hl : l.Perm pnls) (hl' : l'.Perm pnls) :
    (equityAfter start l).2.2 = start + pnls.sum ∧
      IsGreatest (drops start l') (reportedDrop (equityAfter start l)) := by
  rcases h with ⟨rfl, rfl⟩ | ⟨hne, hnonneg, hsmall⟩ | ⟨loss, rfl, hloss, hstart⟩
  · rw [List.perm_nil.mp hl, List.perm_nil.mp hl']
    refine ⟨(add_zero (0 : Decimal)).symm, ?_⟩
    exact isGreatest_drops_of_nonneg 0 (by simp)
  · have hnonneg₁ : ∀ p ∈ l, 0 ≤ p := fun p hp => hnonneg p (hl.subset hp)
    have hnonneg₂ : ∀ p ∈ l', 0 ≤ p := fun p hp => hnonneg p (hl'.subset hp)
    have hnil : l ≠ [] := by
      rintro rfl
      exact hne (List.nil_perm.mp hl)
    have hdrop : reportedDrop (equityAfter start l) = 0 := by
      rw [reportedDrop_of_nonneg start hnonneg₁, hl.sum_eq]
      rcases hsmall with hzero | hbroke
      · rw [hzero, ite_self]
      · rw [if_neg (not_lt.mpr hbroke)]
    rw [hdrop, (equityAfter_of_nonneg start hnonneg₁).2.2 hnil, hl.sum_eq]
    exact ⟨rfl, isGreatest_drops_of_nonneg start hnonneg₂⟩
  · rw [List.perm_singleton.mp hl, List.perm_singleton.mp hl', reportedDrop_loss start hloss,
      if_pos hstart]
    constructor
    · rw [List.sum_singleton]
      rfl
    · have hgreatest := isGreatest_drops_singleton start loss
      rwa [max_eq_right (by linarith)] at hgreatest

/-- With several positions, every one can be put in front of another one. -/
theorem nonneg_of_endings {start : Decimal} {closed : List Position} (hlength : 2 ≤ closed.length)
    (h : ∀ c, c.Perm closed → (equityAfter start (profitsOf c)).2.2 = start + (profitsOf closed).sum) :
    ∀ pnl ∈ profitsOf closed, 0 ≤ pnl := by
  intro pnl hpnl
  obtain ⟨p, hp, rfl⟩ := List.mem_map.mp hpnl
  obtain ⟨a, b, rfl⟩ := List.append_of_mem hp
  have hmoved : (p :: (a ++ b)).Perm (a ++ p :: b) := List.perm_middle.symm
  rcases List.eq_nil_or_concat' (a ++ b) with hnil | ⟨l, last, hlast⟩
  · have := hmoved.length_eq
    rw [hnil, List.length_singleton] at this
    omega
  · rw [hlast] at hmoved
    have hending := h _ hmoved
    have hsum : (profitsOf (a ++ p :: b)).sum = (profitsOf (p :: (l ++ [last]))).sum :=
      (hmoved.map Position.realizedPnlUsd).sum_eq.symm
    rw [hsum] at hending
    have hsplit : profitsOf (p :: (l ++ [last])) = profitsOf (p :: l) ++ [last.realizedPnlUsd] := by
      simp [profitsOf]
    rw [hsplit] at hending
    exact nonneg_of_ending hending _ (List.mem_cons_self ..)

/-- Every closed list has an arrangement in exit order. -/
theorem exists_exitOrder (closed : List Position) : ∃ c, ExitOrder closed c := by
  let le (p q : Position) : Bool := decide (p.exitTime.getD 0 ≤ q.exitTime.getD 0)
  have htrans : ∀ p q r : Position, le p q → le q r → le p r := by
    intro p q r hpq hqr
    simp only [le, decide_eq_true_eq] at hpq hqr ⊢
    exact hpq.trans hqr
  have htotal : ∀ p q : Position, le p q || le q p := by
    intro p q
    simp only [le, Bool.or_eq_true, decide_eq_true_eq]
    exact le_total _ _
  refine ⟨closed.mergeSort le, List.mergeSort_perm _ _, ?_⟩
  refine (List.pairwise_mergeSort htrans htotal closed).imp ?_
  intro p q hpq a ha b hb
  simp only [le, decide_eq_true_eq] at hpq
  rwa [Option.mem_def.mp ha, Option.mem_def.mp hb] at hpq

/-- Equities that are right in every order agree. -/
theorem equityAgrees_of_right {start : Decimal} {closed : List Position}
    (hending : ∀ c, c.Perm closed →
      (equityAfter start (profitsOf c)).2.2 = start + (profitsOf closed).sum)
    (hdrop : ∀ c, ExitOrder closed c →
      IsGreatest (drops start (profitsOf c)) (reportedDrop (equityAfter start (profitsOf closed)))) :
    EquityAgrees start (profitsOf closed) := by
  obtain ⟨c, horder⟩ := exists_exitOrder closed
  have hgreatest := hdrop c horder
  have hgains : (∀ p ∈ profitsOf closed, 0 ≤ p) →
      (profitsOf closed).sum = 0 ∨ start + (profitsOf closed).sum ≤ 0 := by
    intro hnonneg
    have htrue : IsGreatest (drops start (profitsOf c)) 0 :=
      isGreatest_drops_of_nonneg start fun p hp => hnonneg p ((horder.1.map _).subset hp)
    have hzero := hgreatest.unique htrue
    rw [reportedDrop_of_nonneg start hnonneg] at hzero
    by_cases hpos : start + (profitsOf closed).sum > 0
    · rw [if_pos hpos] at hzero
      exact .inl hzero
    · exact .inr (not_lt.mp hpos)
  match closed, hending, horder, hgreatest, hgains with
  | [], hending, horder, hgreatest, hgains =>
      have hzero : (0 : Decimal) = start + 0 := hending [] (List.Perm.refl _)
      exact .inl ⟨rfl, by linarith⟩
  | [p], hending, horder, hgreatest, hgains =>
      by_cases hloss : p.realizedPnlUsd < 0
      · refine .inr (.inr ⟨p.realizedPnlUsd, rfl, hloss, ?_⟩)
        rw [List.perm_singleton.mp horder.1] at hgreatest
        have hunique := hgreatest.unique (isGreatest_drops_singleton start p.realizedPnlUsd)
        change reportedDrop (equityAfter start [p.realizedPnlUsd]) = _ at hunique
        rw [reportedDrop_loss start hloss, max_eq_right (by linarith)] at hunique
        by_contra hbroke
        rw [if_neg hbroke] at hunique
        linarith
      · have hnonneg : ∀ q ∈ profitsOf [p], 0 ≤ q := by
          intro q hq
          rw [List.mem_singleton.mp hq]
          exact not_lt.mp hloss
        exact .inr (.inl ⟨List.cons_ne_nil _ _, hnonneg, hgains hnonneg⟩)
  | p :: q :: rest, hending, horder, hgreatest, hgains =>
      have hnonneg := nonneg_of_endings (by simp) hending
      exact .inr (.inl ⟨List.cons_ne_nil _ _, hnonneg, hgains hnonneg⟩)

/-! ## Reports of runs -/

/-- The closed positions after a run, in the order of the portfolio. -/
def closedAfter (ops : List AccountingOp) : List Position :=
  closedOf (portfolioAfter ops).positions.rows

/-- The closed rows of the store are the closed positions of the run. -/
theorem Stored.closed {ops : List AccountingOp} {rows : List Position} (h : Stored ops rows) :
    (closedOf rows).Perm (closedAfter ops) :=
  h.filter _

/-- Every order of the closed positions is the order of some rows of the store. -/
theorem exists_stored {ops : List AccountingOp} {c : List Position} (h : c.Perm (closedAfter ops)) :
    ∃ rows, Stored ops rows ∧ closedOf rows = c := by
  have hclosed : ∀ p ∈ c, p.state = .closed := by
    intro p hp
    simpa using (List.mem_filter.mp (h.subset hp)).2
  refine ⟨c ++ (portfolioAfter ops).positions.rows.filter fun p => !decide (p.state = .closed), ?_, ?_⟩
  · exact (h.append_right _).trans (List.filter_append_perm _ _)
  · unfold closedOf
    rw [List.filter_append, List.filter_eq_self.mpr (by simpa using hclosed), List.filter_filter]
    simp

/-- The fees in the report: those of all fills, and those of the exits once more. -/
theorem reportedFees {ops : List AccountingOp} {rows : List Position} (h : Stored ops rows) :
    ((closedOf rows).map fun p => p.feesUsd + p.exitFeesUsd.getD 0).sum =
      ((closedOf rows).map fun p => feesOf p.mint ops).sum +
        ((closedAfter ops).map fun p => exitFeesOf p.mint ops).sum := by
  have hbooked : (closedOf rows).map (fun p => p.feesUsd + p.exitFeesUsd.getD 0) =
      (closedOf rows).map fun p => feesOf p.mint ops + exitFeesOf p.mint ops := by
    apply List.map_congr_left
    intro p hp
    obtain ⟨hfees, hexitFees⟩ := fees_of_mem (h.subset (List.mem_filter.mp hp).1)
    rw [hfees, hexitFees]
  rw [hbooked, List.sum_map_add, (h.closed.map fun p => exitFeesOf p.mint ops).sum_eq]

/-- A report whose reads succeed is that of the stored rows. -/
theorem generate_ok (orders : List OrderRecord) (rows : List Position) (start : Decimal) :
    PerformanceReport.generate (.ok orders) (.ok rows) start = .ok (.ofStored orders rows start) := rfl

/-- A report whose equity agrees and whose exits were free is right. -/
theorem rightTotals_of_agrees {start : Decimal} {ops : List AccountingOp}
    (hequity : EquityAgrees start (profitsOf (closedAfter ops)))
    (hfees : ((closedAfter ops).map fun p => exitFeesOf p.mint ops).sum = 0)
    {orders : List OrderRecord} {rows : List Position} (hrows : Stored ops rows) :
    RightTotals start ops (closedOf rows) (totalsOf (.ofStored orders rows start)) := by
  have hprofits : (profitsOf (closedOf rows)).Perm (profitsOf (closedAfter ops)) := hrows.closed.map _
  rw [totalsOf_ofStored]
  constructor
  · rw [hprofits.sum_eq]
    exact (hequity.right hprofits hprofits).1
  · dsimp only
    rw [reportedFees hrows, hfees, add_zero]
  · intro c horder
    exact (hequity.right hprofits ((horder.1.map _).trans hprofits)).2

/-- The totals of two reports that are right. -/
theorem totals_eq_of_right {start : Decimal} {ops : List AccountingOp} {rows rows' : List Position}
    {orders orders' : List OrderRecord} (hrows : Stored ops rows) (hrows' : Stored ops rows')
    (h : RightTotals start ops (closedOf rows) (totalsOf (.ofStored orders rows start)))
    (h' : RightTotals start ops (closedOf rows') (totalsOf (.ofStored orders' rows' start))) :
    totalsOf (.ofStored orders rows start) = totalsOf (.ofStored orders' rows' start) := by
  have hperm : (closedOf rows).Perm (closedOf rows') := hrows.closed.trans hrows'.closed.symm
  obtain ⟨c, horder⟩ := exists_exitOrder (closedOf rows)
  have hdrop := (h.drawdown c horder).unique (h'.drawdown c ⟨horder.1.trans hperm, horder.2⟩)
  have hending := h.ending.trans
    ((congrArg (start + ·) (hperm.map Position.realizedPnlUsd).sum_eq).trans h'.ending.symm)
  rw [totalsOf_ofStored, totalsOf_ofStored] at hdrop hending ⊢
  dsimp only at hdrop hending
  rw [hdrop, hending, hperm.length_eq, hperm.countP_eq, hperm.countP_eq, (hperm.map _).sum_eq,
    (hperm.map _).sum_eq, (hperm.map _).sum_eq]
  congr 1
  exact (hperm.map _).sum_eq

/-- A round trip of 100 units of a mint for 10 USD; each fill costs 1 USD. -/
def tradedFor (mint : String) (proceeds : Decimal) (now : Time) : List AccountingOp :=
  [.entry mint "base" 6 9 ("position-" ++ mint) (swapFill ("entry-" ++ mint) 50 100 10 1) 1 "signal"
      someCostModel,
    .exit mint (swapFill ("exit-" ++ mint) 100 60 proceeds 1) "take_profit" now]

end SolanaBot.Analysis
