import SolanaBot.Analysis.RecordConservation

/-!
# Isolation of the out-of-sample verdict

What a backtest says about the out-of-sample split is a function of the flag for synthetic data and of
the returns of the usable trades of the split (`oos_of_returns`). Two runs that agree on these say the
same, whatever else they simulated (`oos_isolated`).
-/

set_option autoImplicit false

namespace SolanaBot.Analysis

open SolanaBot.Model

/-- The out-of-sample trades whose outcome is known. -/
def usableOos (result : BacktestResult) : List SimulatedTrade :=
  (tradesOf .outOfSample result.allTrades).filter SimulatedTrade.isUsable

/-- The standard error of the mean of a list of returns. -/
def returnError (returns : List Decimal) : Decimal :=
  let n : Decimal := (returns.length : ℚ)
  let variance :=
    if n > 1 then
      (returns.map fun r => (r - meanOrZero returns) * (r - meanOrZero returns)).sum / (n - 1)
    else 0
  if n > 0 then decimalSqrt variance / decimalSqrt n else 0

/-- The interval around the mean of a list of returns. -/
def returnInterval (returns : List Decimal) : Decimal × Decimal :=
  ci95 (meanOrZero returns) (returnError returns)

/-- The verdict on a list of returns that is not empty. -/
def verdictOn (isSyntheticData : Bool) (returns : List Decimal) : OosVerdict :=
  if isSyntheticData then .syntheticData
  else if returns.length < minOosTradesForVerdict then .insufficientOosSample
  else if (returnInterval returns).1 > 0 then .positiveExpectancy
  else if (returnInterval returns).2 < 0 then .negativeExpectancy
  else .inconclusive

/-- The mean and its error are those of the returns of the usable trades. -/
theorem computeStatistics_returns (trades : List SimulatedTrade) (totalSignals rejectedCount : ℕ)
    (capital : Decimal) (isSyntheticData : Bool) :
    let stats := computeStatistics trades totalSignals rejectedCount capital isSyntheticData
    let returns := (trades.filter SimulatedTrade.isUsable).map SimulatedTrade.netReturnPct
    stats.expectancyPerTradePct = meanOrZero returns ∧ stats.standardError = returnError returns := by
  refine ⟨rfl, ?_⟩
  unfold computeStatistics returnError
  dsimp only
  rw [List.length_map]

section Run

variable {hasher : Hasher} {parse : String → Except String HistoricalSignal} {config : Config}
  {bt : BacktestConfig} {content : Except String String} {result : BacktestResult}

/-- What a run says about the out-of-sample split. -/
theorem oos_statistics (h : runBacktest hasher parse config bt content = some (.ok result)) :
    let returns := (usableOos result).map SimulatedTrade.netReturnPct
    let stats := result.statistics
    stats.oosUsableTrades = (usableOos result).length ∧
      stats.oosTotalTrades = (tradesOf .outOfSample result.allTrades).length ∧
      stats.isSyntheticData = bt.isSyntheticData ∧
      stats.oosMeanReturnPct = meanOrZero returns ∧
      (stats.oosCi95LowerPct, stats.oosCi95UpperPct) = returnInterval returns ∧
      stats.oosVerdict = computeOosVerdict stats := by
  obtain ⟨text, loaded, done, rfl, -, -, htrades, -, -, -, -, -, hstatistics⟩ :=
    runBacktest_ok hasher parse config bt h
  have hexclusive := run_exclusive hasher parse config bt h
  have hcounted : CountedUsable (tradesOf .outOfSample result.allTrades) :=
    countedUsable fun t ht => hexclusive t (List.mem_of_mem_filter ht)
  obtain ⟨hmean, herror⟩ := computeStatistics_returns (tradesOf .outOfSample done.trades)
    (tradesOf .outOfSample done.trades).length 0 bt.capitalUsd bt.isSyntheticData
  dsimp only
  refine ⟨?_, ?_, ?_, ?_, ?_, ?_⟩
  · unfold usableOos
    rw [← List.countP_eq_length_filter, ← hcounted.usable, hstatistics, htrades]
    rfl
  · rw [hstatistics, htrades]
    rfl
  · rw [hstatistics]
    rfl
  · unfold usableOos
    rw [hstatistics, htrades]
    exact hmean
  · unfold usableOos returnInterval
    rw [hstatistics, htrades, ← herror]
    rfl
  · rw [hstatistics]
    rfl

/-- **The out-of-sample results are a function of the returns.** -/
theorem oos_of_returns (h : runBacktest hasher parse config bt content = some (.ok result))
    (hne : usableOos result ≠ []) :
    let returns := (usableOos result).map SimulatedTrade.netReturnPct
    result.statistics.oosMeanReturnPct = meanOrZero returns ∧
      (result.statistics.oosCi95LowerPct, result.statistics.oosCi95UpperPct) =
        returnInterval returns ∧
      result.statistics.oosVerdict = verdictOn bt.isSyntheticData returns := by
  obtain ⟨husable, htotal, hsynthetic, hmean, hinterval, hverdict⟩ := oos_statistics h
  intro returns
  refine ⟨hmean, hinterval, ?_⟩
  have hlength : 0 < (usableOos result).length := List.length_pos_iff.mpr hne
  have hall : 0 < (tradesOf .outOfSample result.allTrades).length :=
    lt_of_lt_of_le hlength (List.length_filter_le _ _)
  have hlower : result.statistics.oosCi95LowerPct = (returnInterval returns).1 :=
    congrArg Prod.fst hinterval
  have hupper : result.statistics.oosCi95UpperPct = (returnInterval returns).2 :=
    congrArg Prod.snd hinterval
  rw [hverdict]
  unfold computeOosVerdict verdictOn
  rw [hsynthetic, htotal, husable, if_neg hall.ne', if_neg hlength.ne', hlower, hupper, List.length_map]
  split
  · rfl
  · split
    · rfl
    · by_cases hpositive : (returnInterval returns).1 > 0
      · rw [if_neg fun hzero => absurd hzero.1 (not_le.mpr hpositive), if_pos hpositive]
      · by_cases hnegative : (returnInterval returns).2 < 0
        · rw [if_neg fun hzero => absurd hzero.2 (not_le.mpr hnegative)]
        · rw [if_pos ⟨not_lt.mp hpositive, not_lt.mp hnegative⟩, if_neg hpositive, if_neg hnegative]

/-- A positive verdict needs a sample, an interval above zero and data that is not synthetic. -/
theorem positive_verdict (h : runBacktest hasher parse config bt content = some (.ok result))
    (hpositive : result.statistics.oosVerdict = .positiveExpectancy) :
    minOosTradesForVerdict ≤ (usableOos result).length ∧ 0 < result.statistics.oosCi95LowerPct ∧
      bt.isSyntheticData = false := by
  obtain ⟨husable, -, hsynthetic, -, -, hverdict⟩ := oos_statistics h
  rw [hverdict] at hpositive
  unfold computeOosVerdict at hpositive
  rw [hsynthetic, husable] at hpositive
  repeat' split at hpositive
  all_goals cases hpositive
  rename_i hreal _ _ hsample _ hlower
  exact ⟨not_lt.mp hsample, hlower, by simpa using hreal⟩

end Run

section Isolation

variable {hasher hasher' : Hasher} {parse parse' : String → Except String HistoricalSignal}
  {config config' : Config} {bt bt' : BacktestConfig} {content content' : Except String String}
  {result result' : BacktestResult}

/-- **The out-of-sample split is isolated.** Two runs with the same flag and the same returns of the
usable out-of-sample trades, of which there are some, have the same verdict, mean and interval, whatever
their configurations, files and other trades are. A positive verdict has a sample, an interval above
zero and data that is not synthetic. -/
theorem oos_isolated (h : runBacktest hasher parse config bt content = some (.ok result))
    (h' : runBacktest hasher' parse' config' bt' content' = some (.ok result')) :
    (bt.isSyntheticData = bt'.isSyntheticData →
      (usableOos result).map SimulatedTrade.netReturnPct =
        (usableOos result').map SimulatedTrade.netReturnPct → usableOos result ≠ [] →
      result.statistics.oosVerdict = result'.statistics.oosVerdict ∧
        result.statistics.oosMeanReturnPct = result'.statistics.oosMeanReturnPct ∧
        result.statistics.oosCi95LowerPct = result'.statistics.oosCi95LowerPct ∧
        result.statistics.oosCi95UpperPct = result'.statistics.oosCi95UpperPct) ∧
    (result.statistics.oosVerdict = .positiveExpectancy →
      minOosTradesForVerdict ≤ (usableOos result).length ∧ 0 < result.statistics.oosCi95LowerPct ∧
        bt.isSyntheticData = false) := by
  refine ⟨fun hsynthetic hreturns hne => ?_, positive_verdict h⟩
  have hne' : usableOos result' ≠ [] := by
    intro hnil
    rw [hnil, List.map_nil, List.map_eq_nil_iff] at hreturns
    exact hne hreturns
  obtain ⟨hmean, hinterval, hverdict⟩ := oos_of_returns h hne
  obtain ⟨hmean', hinterval', hverdict'⟩ := oos_of_returns h' hne'
  rw [hreturns] at hmean hinterval hverdict
  obtain ⟨hlower, hupper⟩ := Prod.mk.inj (hinterval.trans hinterval'.symm)
  exact ⟨by rw [hverdict, hverdict', hsynthetic], hmean.trans hmean'.symm, hlower, hupper⟩

end Isolation

/-! ## Two runs over other records -/

/-- A run whose records after the first second are out of sample. -/
def oosBacktest (capitalUsd : Decimal) : BacktestConfig :=
  { sampleBacktest with
    capitalUsd
    split := { sampleBacktest.split with oosStart := some 60001 } }

/-- A candle that reaches both the stop loss and the target. -/
def spanningCandle : PriceObservation :=
  { sampleClose 120000 100 with
    openUsd := some 100, highUsd := some 130, lowUsd := some 80, closeUsd := some 100 }

/-- The record of a line: the sixth is in the training split, the seventh has an ambiguous interval and
the eighth ends without an exit. -/
def splitRecord (line : String) : HistoricalSignal :=
  let mint := "TokenTokenTokenTokenTokenTokenToken" ++ line
  let training := { sampleSignal with mint, market := { sampleSignal.market with mint } }
  let record := { training with signalTimestamp := 61000 }
  if line = "6" then training
  else if line = "7" then { record with priceHistory := [sampleClose 61000 100, spanningCandle] }
  else if line = "8" then { record with priceHistory := [sampleClose 61000 100] }
  else { record with priceHistory := [sampleClose 61000 100, sampleClose 120000 125] }

/-- A run over the records of some lines. -/
def splitRun (capitalUsd : Decimal) (text : String) : Option (Except RunError BacktestResult) :=
  runBacktest sampleHasher (fun line => .ok (splitRecord line)) sampleConfig (oosBacktest capitalUsd)
    (.ok text)

/-- The simulation of some records. -/
def simulated (capitalUsd : Decimal) (lines : List String) : Option Simulating :=
  (prefilterSignals (lines.map splitRecord)).1.foldlM
    (simulateRecord sampleHasher sampleConfig (oosBacktest capitalUsd))
    { trades := [], strategyRejections := [], rangeExcluded := [], tradeIndex := 0 }

/-- What is looked at after a simulation: how many trades there are, and the returns of the usable ones
out of sample. -/
def countAndReturns (trades : List SimulatedTrade) : ℕ × List Decimal :=
  (trades.length,
    ((tradesOf .outOfSample trades).filter SimulatedTrade.isUsable).map SimulatedTrade.netReturnPct)

/-- A run over lines in the order of their records has the trades of the simulation. -/
theorem splitRun_of_simulated (capitalUsd : Decimal) (text : String) (lines : List String)
    (outcome : ℕ × List Decimal)
    (hread : ((linesOf text.toList).zipIdx.foldl (loadLine fun line => .ok (splitRecord line))
      { signals := [], rejectedCount := 0, rejectionReasons := [], seenSignalKeys := [] }).signals =
        lines.map splitRecord)
    (hsorted : (lines.map splitRecord).Pairwise fun a b => a.signalTimestamp ≤ b.signalTimestamp)
    (houtcome : (simulated capitalUsd lines).map (fun done => countAndReturns done.trades) =
      some outcome) :
    ∃ result, splitRun capitalUsd text = some (.ok result) ∧
      countAndReturns result.allTrades = outcome := by
  obtain ⟨loaded, hloaded, hsignals⟩ := load_sorted hread hsorted
  obtain ⟨done, hdone, htrades⟩ := Option.map_eq_some_iff.mp houtcome
  have hboundaries : (oosBacktest capitalUsd).split.validateBoundaries = .ok () := rfl
  unfold simulated at hdone
  unfold splitRun runBacktest
  rw [hboundaries, hloaded]
  dsimp only
  rw [hsignals, hdone]
  exact ⟨_, rfl, htrades⟩

/-- Equal returns have their common value as mean. -/
theorem meanOrZero_replicate {n : ℕ} (hn : n ≠ 0) (r : Decimal) :
    meanOrZero (List.replicate n r) = r := by
  have hne : List.replicate n r ≠ [] := by
    intro hnil
    exact hn ((List.replicate_eq_nil_iff r).mp hnil)
  have hcast : (n : ℚ) ≠ 0 := Nat.cast_ne_zero.mpr hn
  unfold meanOrZero
  rw [if_neg hne, List.sum_replicate, List.length_replicate, nsmul_eq_mul]
  exact mul_div_cancel_left₀ r hcast

/-- Equal returns have no standard error. -/
theorem returnError_replicate (n : ℕ) (r : Decimal) : returnError (List.replicate n r) = 0 := by
  by_cases hn : n = 0
  · subst hn
    rfl
  · have hdeviations : (List.replicate n r).map (fun x =>
        (x - meanOrZero (List.replicate n r)) * (x - meanOrZero (List.replicate n r))) =
          List.replicate n 0 := by
      rw [List.map_replicate, meanOrZero_replicate hn, sub_self, mul_zero]
    have hroot : decimalSqrt 0 = 0 := if_pos le_rfl
    unfold returnError
    dsimp only
    rw [hdeviations, List.sum_replicate, nsmul_zero, zero_div, ite_self, hroot, zero_div, ite_self]

/-- Five equal returns above zero are a positive expectancy. -/
theorem verdictOn_replicate : verdictOn false (List.replicate 5 (5677 / 250)) = .positiveExpectancy := by
  unfold verdictOn returnInterval ci95
  rw [returnError_replicate, meanOrZero_replicate (by decide)]
  decide +kernel

/-- The lines of the second run, in the order of their records. -/
def mixedLines : List String := ["6", "1", "2", "8", "3", "4", "7", "5"]

/-- Two runs with other capitals, of which the second has a training record, an ambiguous and a censored
one besides: they have the same verdict, which is a positive one. -/
theorem oos_isolated_sample :
    ∃ result result', splitRun 100 "1\n2\n3\n4\n5" = some (.ok result) ∧
      splitRun 200 "6\n1\n2\n8\n3\n4\n7\n5" = some (.ok result') ∧
      result.allTrades.length = 5 ∧ result'.allTrades.length = 8 ∧
      result'.statistics.oosVerdict = .positiveExpectancy ∧ 0 < result'.statistics.oosCi95LowerPct := by
  obtain ⟨result, hrun, houtcome⟩ := splitRun_of_simulated 100 "1\n2\n3\n4\n5"
    ["1", "2", "3", "4", "5"] (5, List.replicate 5 (5677 / 250)) (by decide +kernel)
    (by decide +kernel) (by decide +kernel)
  obtain ⟨result', hrun', houtcome'⟩ := splitRun_of_simulated 200
    "6\n1\n2\n8\n3\n4\n7\n5" mixedLines (8, List.replicate 5 (5677 / 250)) (by decide +kernel)
    (by decide +kernel) (by decide +kernel)
  have hreturns : (usableOos result).map SimulatedTrade.netReturnPct = List.replicate 5 (5677 / 250) :=
    congrArg Prod.snd houtcome
  have hreturns' : (usableOos result').map SimulatedTrade.netReturnPct =
      List.replicate 5 (5677 / 250) := congrArg Prod.snd houtcome'
  have hne : usableOos result ≠ [] := by
    intro hnil
    rw [hnil] at hreturns
    cases hreturns
  have hpositive : result.statistics.oosVerdict = .positiveExpectancy := by
    rw [(oos_of_returns hrun hne).2.2, hreturns]
    exact verdictOn_replicate
  obtain ⟨hsame, -⟩ := oos_isolated hrun hrun'
  obtain ⟨hverdict, -⟩ := hsame rfl (hreturns.trans hreturns'.symm) hne
  have hpositive' := hverdict.symm.trans hpositive
  exact ⟨result, result', hrun, hrun', congrArg Prod.fst houtcome, congrArg Prod.fst houtcome',
    hpositive', ((oos_isolated hrun' hrun).2 hpositive').2.1⟩

end SolanaBot.Analysis
