import Mathlib.Tactic.Ring
import SolanaBot.Analysis.SimulatedExits
import SolanaBot.Library.GainPaths
import SolanaBot.Model.BacktestRun

/-!
# Statistics of trades

The single passes of the statistics against what they stand for: the drawdown is the greatest drop of a
prefix of the usable trades below its peak, the losing streak the length of the longest run of losses. They
are the library's loops over a path and over runs, on the usable trades only, so that a trade without a
known outcome changes nothing wherever it stands (`statistics_of_usable`).
-/

set_option autoImplicit false

namespace SolanaBot.Analysis

open SolanaBot.Library SolanaBot.Model

/-- The net results of the usable trades, in order. -/
def usablePnls (trades : List SimulatedTrade) : List Decimal :=
  (trades.filter SimulatedTrade.isUsable).map SimulatedTrade.netPnlUsd

/-- The drop from a peak, in percent of it. -/
def dropPct (peak equity : Decimal) : Decimal := if peak > 0 then (peak - equity) / peak * 100 else 0

/-- The loop over the equity is the library's loop over a path. -/
theorem drawdownTurn_eq : drawdownTurn = pathTurn dropPct := by
  have hmax : ∀ a b : Decimal, (if b > a then b else a) = max a b := fun a b => (max_def_lt a b).symm
  funext s netPnl
  unfold drawdownTurn pathTurn
  dsimp only
  rw [hmax, hmax]
  rfl

/-- The loop over the streaks is the library's loop over runs. -/
theorem streakTurn_eq : streakTurn = runTurn fun netPnl : Decimal => netPnl ≤ 0 := by
  funext s netPnl
  unfold streakTurn runTurn
  split
  · congr 1
    split
    · omega
    · omega
  · rfl

/-- Ambiguous and censored trades inserted anywhere. -/
inductive Padded : List SimulatedTrade → List SimulatedTrade → Prop where
  | nil : Padded [] []
  | keep (t : SimulatedTrade) {l l' : List SimulatedTrade} (h : Padded l l') :
      Padded (t :: l) (t :: l')
  | insert (t : SimulatedTrade) (hunusable : t.isAmbiguous = true ∨ t.isCensored = true)
      {l l' : List SimulatedTrade} (h : Padded l l') : Padded l (t :: l')

/-- What is inserted is filtered out again. -/
theorem Padded.usable {l l' : List SimulatedTrade} (h : Padded l l') :
    l'.filter SimulatedTrade.isUsable = l.filter SimulatedTrade.isUsable := by
  induction h with
  | nil => rfl
  | keep t h ih => rw [List.filter_cons, List.filter_cons, ih]
  | insert t hunusable h ih =>
      have hfalse : t.isUsable = false := by
        unfold SimulatedTrade.isUsable
        rcases hunusable with hambiguous | hcensored
        · rw [hambiguous]
          rfl
        · rw [hcensored, Bool.not_true, Bool.and_false]
      rw [List.filter_cons_of_neg (by rw [hfalse]; exact Bool.false_ne_true), ih]

/-- The figures that trades without a known outcome must not change. -/
structure SameFigures (a b : BacktestStatistics) : Prop where
  drawdown : a.maxDrawdownPct = b.maxDrawdownPct
  streak : a.longestLosingStreak = b.longestLosingStreak
  expectancy : a.expectancyPerTradePct = b.expectancyPerTradePct
  winRate : a.winRate = b.winRate
  profitFactor : a.profitFactor = b.profitFactor
  standardError : a.standardError = b.standardError

/-- Trades that are not usable change no figure. -/
theorem sameFigures_of_padded {l l' : List SimulatedTrade} (h : Padded l l')
    (totalSignals totalSignals' rejectedCount rejectedCount' : ℕ) (startingCapitalUsd : Decimal)
    (isSyntheticData isSyntheticData' : Bool) :
    SameFigures (computeStatistics l totalSignals rejectedCount startingCapitalUsd isSyntheticData)
      (computeStatistics l' totalSignals' rejectedCount' startingCapitalUsd isSyntheticData') := by
  have husable := h.usable
  constructor
  all_goals
    unfold computeStatistics
    rw [husable]

section Figures

variable (trades : List SimulatedTrade) (totalSignals rejectedCount : ℕ) {startingCapitalUsd : Decimal}
  (isSyntheticData : Bool)

/-- The drawdown is the greatest one of a prefix. -/
theorem maxDrawdownPct_isGreatest (hstart : 0 < startingCapitalUsd) :
    IsGreatest
      { d | ∃ p, p <+: usablePnls trades ∧
        d = 100 * (pathPeak startingCapitalUsd p - pathAt startingCapitalUsd p) /
          pathPeak startingCapitalUsd p }
      (computeStatistics trades totalSignals rejectedCount startingCapitalUsd
        isSyntheticData).maxDrawdownPct := by
  have hnone : dropPct startingCapitalUsd startingCapitalUsd = 0 := by
    unfold dropPct
    rw [sub_self, zero_div, zero_mul, ite_self]
  have hmeasures : prefixMeasures dropPct startingCapitalUsd (usablePnls trades) =
      { d | ∃ p, p <+: usablePnls trades ∧
        d = 100 * (pathPeak startingCapitalUsd p - pathAt startingCapitalUsd p) /
          pathPeak startingCapitalUsd p } := by
    unfold prefixMeasures
    congr 1
    funext d
    refine propext (exists_congr fun p => and_congr_right fun _ => ?_)
    have hpeak : 0 < pathPeak startingCapitalUsd p := hstart.trans_le (start_le_pathPeak _ _)
    unfold dropPct
    rw [if_pos hpeak, mul_comm (100 : Decimal), div_mul_eq_mul_div]
  obtain ⟨worst, hfold, hgreatest⟩ := foldl_pathTurn dropPct startingCapitalUsd (usablePnls trades)
  have hworst : (computeStatistics trades totalSignals rejectedCount startingCapitalUsd
      isSyntheticData).maxDrawdownPct = worst := by
    change ((usablePnls trades).foldl drawdownTurn
      (startingCapitalUsd, startingCapitalUsd, 0)).2.2 = worst
    rw [drawdownTurn_eq, ← hnone, hfold]
  rw [hworst, ← hmeasures]
  exact hgreatest

/-- The losing streak is the longest run of losses. -/
theorem longestLosingStreak_isGreatest :
    IsGreatest (runLengths (fun netPnl : Decimal => netPnl ≤ 0) (usablePnls trades))
      (computeStatistics trades totalSignals rejectedCount startingCapitalUsd
        isSyntheticData).longestLosingStreak := by
  change IsGreatest _ ((usablePnls trades).foldl streakTurn (0, 0)).2
  rw [streakTurn_eq]
  exact (foldl_runTurn (usablePnls trades)).2

/-- **Statistics.** The drawdown and the losing streak are the greatest ones over the usable trades, and
with the other figures they do not see trades without a known outcome, wherever these are inserted. -/
theorem statistics_of_usable (hstart : 0 < startingCapitalUsd) :
    IsGreatest
      { d | ∃ p, p <+: usablePnls trades ∧
        d = 100 * (pathPeak startingCapitalUsd p - pathAt startingCapitalUsd p) /
          pathPeak startingCapitalUsd p }
      (computeStatistics trades totalSignals rejectedCount startingCapitalUsd
        isSyntheticData).maxDrawdownPct ∧
    IsGreatest
      { n | ∃ run, run <:+: usablePnls trades ∧ (∀ netPnl ∈ run, netPnl ≤ 0) ∧ n = run.length }
      (computeStatistics trades totalSignals rejectedCount startingCapitalUsd
        isSyntheticData).longestLosingStreak ∧
    ∀ trades' totalSignals' rejectedCount' isSyntheticData', Padded trades trades' →
      SameFigures
        (computeStatistics trades totalSignals rejectedCount startingCapitalUsd isSyntheticData)
        (computeStatistics trades' totalSignals' rejectedCount' startingCapitalUsd
          isSyntheticData') :=
  ⟨maxDrawdownPct_isGreatest trades totalSignals rejectedCount isSyntheticData hstart,
    longestLosingStreak_isGreatest trades totalSignals rejectedCount isSyntheticData,
    fun _ totalSignals' rejectedCount' isSyntheticData' h => sameFigures_of_padded h totalSignals
      totalSignals' rejectedCount rejectedCount' startingCapitalUsd isSyntheticData isSyntheticData'⟩

end Figures

/-- The sample trade, with a net result of its own. -/
def tradeWith (netPnlUsd : Decimal) (isCensored : Bool) : SimulatedTrade :=
  { sampleTrade with netPnlUsd, isCensored }

/-- Of a thousand dollars a gain of 100 and losses of 220 leave a drop of a fifth below the peak, in a
streak of two losses, with a censored trade among them or without. -/
theorem statistics_of_usable_sample :
    let trades := [tradeWith 100 false, tradeWith (-20) false, tradeWith (-200) false]
    (20 : Decimal) ∈ { d | ∃ p, p <+: usablePnls trades ∧
        d = 100 * (pathPeak 1000 p - pathAt 1000 p) / pathPeak 1000 p } ∧
      SameFigures (computeStatistics trades 3 0 1000 false)
        (computeStatistics [tradeWith 100 false, tradeWith (-20) false, tradeWith (-900) true,
          tradeWith (-200) false] 4 0 1000 false) := by
  intro trades
  have hstart : (0 : Decimal) < 1000 := by norm_num
  obtain ⟨hdrawdown, -, hpadded⟩ := statistics_of_usable trades 3 0 false hstart
  refine ⟨?_, hpadded _ 4 0 false ?_⟩
  · have hvalue : (computeStatistics trades 3 0 1000 false).maxDrawdownPct = 20 := by decide +kernel
    rw [← hvalue]
    exact hdrawdown.1
  · exact .keep _ (.keep _ (.insert _ (.inr rfl) (.keep _ .nil)))

end SolanaBot.Analysis
