import SolanaBot.Model.Report

/-!
# The figures of the performance report

What `PerformanceReport::generate` computes from the positions and orders of the store. Its totals are sums
over the closed positions (`totalsOf_ofStored`). Its equity is different: the loop adds each gain to the
*peak* of the equity instead of the equity (`equityTurn`), so that the next position forgets a loss, and the
drop that it reports goes from the last peak to the lowest value ever, the start included.
-/

set_option autoImplicit false

namespace SolanaBot.Analysis

open SolanaBot.Library SolanaBot.Model

/-- The closed ones of some positions. -/
def closedOf (rows : List Position) : List Position := rows.filter fun p => p.state = .closed

/-- The realized profits of some positions. -/
def profitsOf (rows : List Position) : List Decimal := rows.map Position.realizedPnlUsd

/-! ## What the loops of the report compute -/

/-- One turn of the loop: the peak, the lowest and the last value of the equity. -/
def equityTurn (s : Decimal × Decimal × Decimal) (pnl : Decimal) : Decimal × Decimal × Decimal :=
  (max s.1 (s.1 + pnl), min s.2.1 (s.1 + pnl), s.1 + pnl)

/-- The equity of the report behind some profits. -/
def equityAfter (start : Decimal) (pnls : List Decimal) : Decimal × Decimal × Decimal :=
  pnls.foldl equityTurn (start, start, 0)

/-- The drop that the report derives from its equity. -/
def reportedDrop (s : Decimal × Decimal × Decimal) : Decimal := if s.1 > 0 then s.1 - s.2.1 else 0

/-- The figures of a report that was collected from some closed positions, starting with `r`. -/
structure Collected (r : PerformanceReport) (closed : List Position) (r' : PerformanceReport) : Prop where
  trades : r'.totalTrades = r.totalTrades + closed.length
  wins : r'.wins = r.wins + closed.countP fun p => p.realizedPnlUsd > 0
  losses : r'.losses = r.losses + closed.countP fun p => ¬p.realizedPnlUsd > 0
  pnl : r'.totalPnlUsd = r.totalPnlUsd + (profitsOf closed).sum
  grossWins : r'.grossWinsUsd =
    r.grossWinsUsd + (closed.map fun p => if p.realizedPnlUsd > 0 then p.realizedPnlUsd else 0).sum
  grossLosses : r'.grossLossesUsd =
    r.grossLossesUsd + (closed.map fun p => if p.realizedPnlUsd > 0 then 0 else |p.realizedPnlUsd|).sum
  fees : r'.totalFeesUsd =
    r.totalFeesUsd + (closed.map fun p => p.feesUsd + p.exitFeesUsd.getD 0).sum
  equity : (r'.peakEquityUsd, r'.minEquityUsd, r'.endingEquityUsd) =
    (profitsOf closed).foldl equityTurn (r.peakEquityUsd, r.minEquityUsd, r.endingEquityUsd)
  drop : r'.maxDrawdownUsd = r.maxDrawdownUsd

/-- One closed position. -/
theorem collected_addPosition (r : PerformanceReport) {p : Position} (h : p.state = .closed) :
    Collected r [p] (r.addPosition p) := by
  have hpeak : (if r.peakEquityUsd + p.realizedPnlUsd > r.peakEquityUsd then
      r.peakEquityUsd + p.realizedPnlUsd else r.peakEquityUsd) =
        max r.peakEquityUsd (r.peakEquityUsd + p.realizedPnlUsd) := (max_def_lt _ _).symm
  have hmin : (if r.peakEquityUsd + p.realizedPnlUsd < r.minEquityUsd then
      r.peakEquityUsd + p.realizedPnlUsd else r.minEquityUsd) =
        min r.minEquityUsd (r.peakEquityUsd + p.realizedPnlUsd) := by
    rw [min_comm, min_def_lt]
  by_cases hwin : p.realizedPnlUsd > 0
  · constructor <;> simp [PerformanceReport.addPosition, PerformanceReport.trackEquity, h, hwin, profitsOf,
      equityTurn, ← hpeak, ← hmin]
  · constructor <;> simp [PerformanceReport.addPosition, PerformanceReport.trackEquity, h, hwin, profitsOf,
      equityTurn, ← hpeak, ← hmin]

/-- Collecting two lists of positions, one after the other. -/
theorem Collected.append {r r' r'' : PerformanceReport} {closed closed' : List Position}
    (h : Collected r closed r') (h' : Collected r' closed' r'') :
    Collected r (closed ++ closed') r'' := by
  constructor
  · rw [h'.trades, h.trades, List.length_append, Nat.add_assoc]
  · rw [h'.wins, h.wins, List.countP_append, Nat.add_assoc]
  · rw [h'.losses, h.losses, List.countP_append, Nat.add_assoc]
  · rw [h'.pnl, h.pnl, profitsOf, profitsOf, profitsOf, List.map_append, List.sum_append, add_assoc]
  · rw [h'.grossWins, h.grossWins, List.map_append, List.sum_append, add_assoc]
  · rw [h'.grossLosses, h.grossLosses, List.map_append, List.sum_append, add_assoc]
  · rw [h'.fees, h.fees, List.map_append, List.sum_append, add_assoc]
  · rw [h'.equity, h.equity, profitsOf, profitsOf, profitsOf, List.map_append, List.foldl_append]
  · rw [h'.drop, h.drop]

/-- The loop over the positions looks at the closed ones. -/
theorem collected_foldl (r : PerformanceReport) (rows : List Position) :
    Collected r (closedOf rows) (rows.foldl PerformanceReport.addPosition r) := by
  induction rows generalizing r with
  | nil => constructor <;> simp [closedOf, profitsOf]
  | cons p rows ih =>
      rw [List.foldl_cons]
      by_cases h : p.state = .closed
      · have hclosed : closedOf (p :: rows) = [p] ++ closedOf rows := by
          simp [closedOf, h]
        rw [hclosed]
        exact (collected_addPosition r h).append (ih _)
      · have hclosed : closedOf (p :: rows) = closedOf rows := by
          simp [closedOf, h]
        have hskip : r.addPosition p = r := by
          unfold PerformanceReport.addPosition
          rw [if_neg h]
        rw [hclosed, hskip]
        exact ih r

/-- The metrics are computed from the collected figures and leave them. -/
theorem withMetrics_figures (r : PerformanceReport) :
    r.withMetrics.totalTrades = r.totalTrades ∧ r.withMetrics.wins = r.wins ∧
      r.withMetrics.losses = r.losses ∧ r.withMetrics.totalPnlUsd = r.totalPnlUsd ∧
      r.withMetrics.grossWinsUsd = r.grossWinsUsd ∧ r.withMetrics.grossLossesUsd = r.grossLossesUsd ∧
      r.withMetrics.totalFeesUsd = r.totalFeesUsd ∧ r.withMetrics.endingEquityUsd = r.endingEquityUsd ∧
      r.withMetrics.maxDrawdownUsd =
        if r.peakEquityUsd > 0 then r.peakEquityUsd - r.minEquityUsd else r.maxDrawdownUsd := by
  unfold PerformanceReport.withMetrics
  by_cases htrades : r.totalTrades > 0 <;> by_cases hpeak : r.peakEquityUsd > 0 <;> simp [htrades, hpeak]

/-- Orders count as rejections and nothing else. -/
theorem foldl_addOrder (r : PerformanceReport) (orders : List OrderRecord) :
    ∃ rejections, orders.foldl PerformanceReport.addOrder r = { r with rejectionsByReason := rejections } := by
  induction orders generalizing r with
  | nil => exact ⟨r.rejectionsByReason, rfl⟩
  | cons order orders ih =>
      rw [List.foldl_cons]
      by_cases h : order.state = .failed
      · obtain ⟨rejections, hfold⟩ := ih (r.addOrder order)
        refine ⟨rejections, ?_⟩
        rw [hfold]
        simp [PerformanceReport.addOrder, h]
      · have hskip : r.addOrder order = r := by
          unfold PerformanceReport.addOrder
          rw [if_neg h]
        rw [hskip]
        exact ih r

/-- The totals of a report. -/
structure Totals where
  trades : ℕ
  wins : ℕ
  losses : ℕ
  pnlUsd : Decimal
  grossWinsUsd : Decimal
  grossLossesUsd : Decimal
  feesUsd : Decimal
  endingEquityUsd : Decimal
  maxDrawdownUsd : Decimal
deriving DecidableEq

/-- RUST: report.rs:12-32. -/
def totalsOf (r : PerformanceReport) : Totals :=
  { trades := r.totalTrades
    wins := r.wins
    losses := r.losses
    pnlUsd := r.totalPnlUsd
    grossWinsUsd := r.grossWinsUsd
    grossLossesUsd := r.grossLossesUsd
    feesUsd := r.totalFeesUsd
    endingEquityUsd := r.endingEquityUsd
    maxDrawdownUsd := r.maxDrawdownUsd }

/-- **The report.** Its totals are those of the closed positions, with the equity that the loop tracks. -/
theorem totalsOf_ofStored (orders : List OrderRecord) (rows : List Position) (start : Decimal) :
    totalsOf (.ofStored orders rows start) =
      { trades := (closedOf rows).length
        wins := (closedOf rows).countP fun p => p.realizedPnlUsd > 0
        losses := (closedOf rows).countP fun p => ¬p.realizedPnlUsd > 0
        pnlUsd := (profitsOf (closedOf rows)).sum
        grossWinsUsd :=
          ((closedOf rows).map fun p => if p.realizedPnlUsd > 0 then p.realizedPnlUsd else 0).sum
        grossLossesUsd :=
          ((closedOf rows).map fun p => if p.realizedPnlUsd > 0 then 0 else |p.realizedPnlUsd|).sum
        feesUsd := ((closedOf rows).map fun p => p.feesUsd + p.exitFeesUsd.getD 0).sum
        endingEquityUsd := (equityAfter start (profitsOf (closedOf rows))).2.2
        maxDrawdownUsd := reportedDrop (equityAfter start (profitsOf (closedOf rows))) } := by
  have hloop := collected_foldl (.new start) rows
  generalize hr : rows.foldl PerformanceReport.addPosition (.new start) = r at hloop
  obtain ⟨htrades, hwins, hlosses, hpnl, hgrossWins, hgrossLosses, hfees, hending, hdrop⟩ :=
    withMetrics_figures r
  obtain ⟨rejections, horders⟩ := foldl_addOrder r.withMetrics orders
  have hequity : equityAfter start (profitsOf (closedOf rows)) =
      (r.peakEquityUsd, r.minEquityUsd, r.endingEquityUsd) := hloop.equity.symm
  have hzero : r.maxDrawdownUsd = 0 := hloop.drop
  unfold PerformanceReport.ofStored totalsOf reportedDrop
  rw [hr, horders, hequity]
  simp only [htrades, hwins, hlosses, hpnl, hgrossWins, hgrossLosses, hfees, hending, hdrop, hzero,
    hloop.trades, hloop.wins, hloop.losses, hloop.pnl, hloop.grossWins, hloop.grossLosses, hloop.fees]
  simp [PerformanceReport.new]

end SolanaBot.Analysis
