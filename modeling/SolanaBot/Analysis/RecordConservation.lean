import SolanaBot.Analysis.SimulatedExits
import SolanaBot.Library.Partitions
import SolanaBot.Model.BacktestRun

/-!
# Conservation of records

Every data line of the input of a backtest ends in exactly one list of its result. Each stage
of the pipeline classifies what it is given: the loader into malformed lines and signals
(`load_classifies`), the prefilter into structural rejections and accepted signals
(`prefilter_classifies`), the simulation into excluded, rejected and traded signals
(`simulate_classifies`). The classifications are put together line by line with the library's
`exists_refine`, across the sorting of the signals with `exists_forall₂_of_perm`.

The counts of the statistics follow, and the trades of a split are partitioned because the walk
never leaves a trade both ambiguous and censored (`flags_exclusive`).
-/

set_option autoImplicit false

namespace SolanaBot.Analysis

open SolanaBot.Library SolanaBot.Model

/-! ## The loader -/

section Loader

variable (parse : String → Except String HistoricalSignal)

/-- The lines that hold data, with their index. -/
def dataLines (text : String) : List (List Char × ℕ) :=
  (linesOf text.toList).zipIdx.filter fun line => isDataLine line.1

/-- What the loader makes of a data line: a malformed record of that line, or the valid signal
that the line holds. -/
def LoadedAs (line : List Char × ℕ) : MalformedRecord ⊕ HistoricalSignal → Prop
  | .inl m => m.line = line.2 + 1
  | .inr signal => parse (String.ofList (trimChars line.1)) = .ok signal ∧
      validateSignal signal = .ok ()

/-- A turn of the loader skips a line that holds no data and classifies one that does. -/
theorem loadLine_cases (st : Loading) (line : List Char × ℕ) :
    (isDataLine line.1 = false ∧ loadLine parse st line = st) ∨
      (isDataLine line.1 = true ∧ ∃ f, LoadedAs parse line f ∧
        (loadLine parse st line).rejectionReasons = st.rejectionReasons ++ lefts [f] ∧
        (loadLine parse st line).rejectedCount = st.rejectedCount + (lefts [f]).length ∧
        (loadLine parse st line).signals = st.signals ++ rights [f]) := by
  unfold loadLine
  cases hdata : isDataLine line.1 with
  | false => exact .inl ⟨rfl, by simp⟩
  | true =>
      refine .inr ⟨rfl, ?_⟩
      have hrefused : ∀ defect, ∃ f, LoadedAs parse line f ∧
          (st.refuse (line.2 + 1) defect).rejectionReasons = st.rejectionReasons ++ lefts [f] ∧
          (st.refuse (line.2 + 1) defect).rejectedCount =
            st.rejectedCount + (lefts [f]).length ∧
          (st.refuse (line.2 + 1) defect).signals = st.signals ++ rights [f] := by
        intro defect
        exact ⟨.inl { line := line.2 + 1, defect }, rfl, rfl, rfl, by simp [Loading.refuse]⟩
      simp only [if_true]
      cases hparse : parse (String.ofList (trimChars line.1)) with
      | error e => exact hrefused (.json e)
      | ok signal =>
          dsimp only
          cases hvalid : validateSignal signal with
          | error defect => exact hrefused defect
          | ok _ =>
              dsimp only
              by_cases hkey : (signal.mint, signal.signalTimestamp) ∈ st.seenSignalKeys
              · rw [if_pos hkey]
                exact hrefused .duplicate
              · rw [if_neg hkey]
                exact ⟨.inr signal, ⟨hparse, hvalid⟩, by simp, by simp, by simp⟩

/-- The loader classifies every data line once. -/
theorem load_classifies (lines : List (List Char × ℕ)) (st : Loading) :
    ∃ fs, List.Forall₂ (LoadedAs parse) (lines.filter fun line => isDataLine line.1) fs ∧
      (lines.foldl (loadLine parse) st).rejectionReasons = st.rejectionReasons ++ lefts fs ∧
      (lines.foldl (loadLine parse) st).rejectedCount = st.rejectedCount + (lefts fs).length ∧
      (lines.foldl (loadLine parse) st).signals = st.signals ++ rights fs := by
  induction lines generalizing st with
  | nil => exact ⟨[], .nil, by simp, by simp, by simp⟩
  | cons line lines ih =>
      obtain ⟨fs, hfs, hreasons, hcount, hsignals⟩ := ih (loadLine parse st line)
      rcases loadLine_cases parse st line with
        ⟨hdata, hsame⟩ | ⟨hdata, f, hf, hreasons', hcount', hsignals'⟩
      · rw [hsame] at hreasons hcount hsignals
        refine ⟨fs, ?_, ?_, ?_, ?_⟩
        · rw [List.filter_cons_of_neg (by simp [hdata])]
          exact hfs
        · rw [List.foldl_cons, hsame, hreasons]
        · rw [List.foldl_cons, hsame, hcount]
        · rw [List.foldl_cons, hsame, hsignals]
      · refine ⟨f :: fs, ?_, ?_, ?_, ?_⟩
        · rw [List.filter_cons_of_pos (by simp [hdata])]
          exact .cons hf hfs
        · rw [List.foldl_cons, hreasons, hreasons', List.append_assoc, ← lefts_append]
          rfl
        · rw [List.foldl_cons, hcount, hcount', Nat.add_assoc, ← List.length_append,
            ← lefts_append]
          rfl
        · rw [List.foldl_cons, hsignals, hsignals', List.append_assoc, ← rights_append]
          rfl

/-- A loaded file classifies its data lines, and hands on the valid signals in the order of
their timestamps. -/
theorem loadHistoricalSignals_classifies {text : String} {loaded : LoadResult}
    (h : loadHistoricalSignals parse (.ok text) = .ok loaded) :
    ∃ fs, List.Forall₂ (LoadedAs parse) (dataLines text) fs ∧
      loaded.rejectionReasons = lefts fs ∧ loaded.rejectedCount = (lefts fs).length ∧
      (rights fs).Perm loaded.signals := by
  obtain ⟨fs, hfs, hreasons, hcount, hsignals⟩ := load_classifies parse
    (linesOf text.toList).zipIdx
    { signals := [], rejectedCount := 0, rejectionReasons := [], seenSignalKeys := [] }
  cases h
  refine ⟨fs, hfs, hreasons, ?_, ?_⟩
  · rw [hcount, Nat.zero_add]
  · rw [List.nil_append] at hsignals
    rw [← hsignals]
    exact (List.mergeSort_perm _ _).symm

end Loader

/-- A file whose records are in the order of their times is loaded as it is. -/
theorem load_sorted {parse : String → Except String HistoricalSignal} {text : String}
    {signals : List HistoricalSignal}
    (hread : ((linesOf text.toList).zipIdx.foldl (loadLine parse)
      { signals := [], rejectedCount := 0, rejectionReasons := [], seenSignalKeys := [] }).signals =
        signals)
    (hsorted : signals.Pairwise fun a b => a.signalTimestamp ≤ b.signalTimestamp) :
    ∃ loaded, loadHistoricalSignals parse (.ok text) = .ok loaded ∧ loaded.signals = signals := by
  refine ⟨_, rfl, ?_⟩
  dsimp only
  rw [hread]
  exact List.mergeSort_of_pairwise (hsorted.imp fun h => decide_eq_true h)

/-- A file of one line that holds a valid record is loaded. -/
theorem load_one_line {signal : HistoricalSignal} (hvalid : validateSignal signal = .ok ()) :
    loadHistoricalSignals (fun _ => .ok signal) (.ok "a") =
      .ok { signals := [signal], rejectedCount := 0, rejectionReasons := [] } := by
  have hlines : (linesOf "a".toList).zipIdx = [(['a'], 0)] := by decide +kernel
  unfold loadHistoricalSignals
  dsimp only [bind, Except.bind, pure, Except.pure]
  rw [hlines]
  simp [loadLine, isDataLine, trimChars, charIsWhitespace, hvalid]

/-! ## The prefilter -/

/-- What the prefilter makes of a signal. -/
def Prefiltered (signal : HistoricalSignal) :
    SignalRejection StructuralDefect ⊕ HistoricalSignal → Prop
  | .inl r => structuralDefect signal = some r.reason ∧ r = signal.rejection r.reason
  | .inr signal' => structuralDefect signal = none ∧ signal' = signal

/-- The prefilter classifies every signal once. -/
theorem prefilter_classifies (signals : List HistoricalSignal) :
    ∃ fs, List.Forall₂ Prefiltered signals fs ∧ lefts fs = (prefilterSignals signals).2 ∧
      rights fs = (prefilterSignals signals).1 := by
  induction signals with
  | nil => exact ⟨[], .nil, rfl, rfl⟩
  | cons signal signals ih =>
      obtain ⟨fs, hfs, hlefts, hrights⟩ := ih
      unfold prefilterSignals at hlefts hrights ⊢
      dsimp only at hlefts hrights ⊢
      cases hdefect : structuralDefect signal with
      | some defect =>
          refine ⟨.inl (signal.rejection defect) :: fs, .cons ⟨hdefect, rfl⟩ hfs, ?_, ?_⟩
          · rw [lefts_inl, hlefts, List.filterMap_cons_some (by rw [hdefect]; rfl)]
          · rw [rights_inl, hrights, List.filter_cons_of_neg (by simp [hdefect])]
      | none =>
          refine ⟨.inr signal :: fs, .cons ⟨hdefect, rfl⟩ hfs, ?_, ?_⟩
          · rw [lefts_inr, hlefts, List.filterMap_cons_none (by rw [hdefect]; rfl)]
          · rw [rights_inr, hrights, List.filter_cons_of_pos (by simp [hdefect])]

/-! ## The simulation -/

/-- What the simulation makes of an accepted signal. -/
inductive Simulated where
  | excluded (r : SignalRejection SplitGap)
  | rejected (r : SignalRejection SimRejection)
  | traded (t : SimulatedTrade)

namespace Simulated

/-- Why a record was excluded, if it was. -/
def excluded? : Simulated → Option (SignalRejection SplitGap)
  | .excluded r => some r
  | _ => none

/-- Why a record was rejected, if it was. -/
def rejected? : Simulated → Option (SignalRejection SimRejection)
  | .rejected r => some r
  | _ => none

/-- The trade of a record, if there is one. -/
def traded? : Simulated → Option SimulatedTrade
  | .traded t => some t
  | _ => none

/-- No signal is lost between the three. -/
theorem length_partition (os : List Simulated) :
    (os.filterMap traded?).length +
      ((os.filterMap rejected?).length + (os.filterMap excluded?).length) = os.length := by
  induction os with
  | nil => rfl
  | cons o os ih =>
      cases o with
      | excluded r =>
          simp only [List.filterMap_cons, traded?, rejected?, excluded?, List.length_cons]
          omega
      | rejected r =>
          simp only [List.filterMap_cons, traded?, rejected?, excluded?, List.length_cons]
          omega
      | traded t =>
          simp only [List.filterMap_cons, traded?, rejected?, excluded?, List.length_cons]
          omega

end Simulated

section Simulation

variable (hasher : Hasher) (config : Config) (bt : BacktestConfig)

/-- An outcome of the simulation is one of the signal it was given. -/
def SimulatedAs (signal : HistoricalSignal) : Simulated → Prop
  | .excluded r => (classifySplitWithExclusion signal.signalTimestamp bt.split).2 = some r.reason ∧
      r = signal.rejection r.reason
  | .rejected r => ∃ split index,
      classifySplitWithExclusion signal.signalTimestamp bt.split = (split, none) ∧
      simulateSignal hasher config (CostAssumptions.fromConfig bt) split index signal =
        some (.error r.reason) ∧ r = signal.rejection r.reason
  | .traded t => ∃ split index,
      classifySplitWithExclusion signal.signalTimestamp bt.split = (split, none) ∧
      simulateSignal hasher config (CostAssumptions.fromConfig bt) split index signal =
        some (.ok t)

/-- One turn of the simulation adds one outcome to one list. -/
theorem simulateRecord_some {st st' : Simulating} {signal : HistoricalSignal}
    (h : simulateRecord hasher config bt st signal = some st') :
    ∃ o, SimulatedAs hasher config bt signal o ∧
      st'.trades = st.trades ++ [o].filterMap Simulated.traded? ∧
      st'.strategyRejections = st.strategyRejections ++ [o].filterMap Simulated.rejected? ∧
      st'.rangeExcluded = st.rangeExcluded ++ [o].filterMap Simulated.excluded? := by
  unfold simulateRecord at h
  rcases hclass : classifySplitWithExclusion signal.signalTimestamp bt.split with ⟨split, gap⟩
  rw [hclass] at h
  cases gap with
  | some gap =>
      simp only [Option.some.injEq] at h
      subst h
      exact ⟨.excluded (signal.rejection gap), ⟨by rw [hclass]; rfl, rfl⟩, by
        simp [Simulated.traded?], by simp [Simulated.rejected?], by simp [Simulated.excluded?]⟩
  | none =>
      dsimp only at h
      cases hsim : simulateSignal hasher config (CostAssumptions.fromConfig bt) split
          st.tradeIndex signal with
      | none =>
          rw [hsim] at h
          cases h
      | some outcome =>
          rw [hsim, Option.map_some, Option.some.injEq] at h
          cases outcome with
          | ok trade =>
              subst h
              exact ⟨.traded trade, ⟨split, st.tradeIndex, hclass, hsim⟩, by
                simp [Simulated.traded?], by simp [Simulated.rejected?], by
                simp [Simulated.excluded?]⟩
          | error reason =>
              subst h
              exact ⟨.rejected (signal.rejection reason),
                ⟨split, st.tradeIndex, hclass, hsim, rfl⟩, by simp [Simulated.traded?], by
                simp [Simulated.rejected?], by simp [Simulated.excluded?]⟩

/-- The simulation classifies every accepted signal once. -/
theorem simulate_classifies (signals : List HistoricalSignal) {st st' : Simulating}
    (h : signals.foldlM (simulateRecord hasher config bt) st = some st') :
    ∃ os, List.Forall₂ (SimulatedAs hasher config bt) signals os ∧
      st'.trades = st.trades ++ os.filterMap Simulated.traded? ∧
      st'.strategyRejections = st.strategyRejections ++ os.filterMap Simulated.rejected? ∧
      st'.rangeExcluded = st.rangeExcluded ++ os.filterMap Simulated.excluded? := by
  induction signals generalizing st with
  | nil =>
      rw [List.foldlM_nil] at h
      cases h
      exact ⟨[], .nil, by simp, by simp, by simp⟩
  | cons signal signals ih =>
      rw [List.foldlM_cons] at h
      cases hturn : simulateRecord hasher config bt st signal with
      | none =>
          rw [hturn] at h
          cases h
      | some st₁ =>
          rw [hturn] at h
          obtain ⟨o, ho, htrades, hrejected, hexcluded⟩ :=
            simulateRecord_some hasher config bt hturn
          obtain ⟨os, hos, htrades', hrejected', hexcluded'⟩ := ih h
          refine ⟨o :: os, .cons ho hos, ?_, ?_, ?_⟩
          · rw [htrades', htrades, List.append_assoc, ← List.filterMap_append]
            rfl
          · rw [hrejected', hrejected, List.append_assoc, ← List.filterMap_append]
            rfl
          · rw [hexcluded', hexcluded, List.append_assoc, ← List.filterMap_append]
            rfl

end Simulation

/-! ## The flags of a trade -/

/-- A simulated trade has at most one of the two flags. -/
theorem flags_exclusive {hasher : Hasher} {config : Config} {costAssumptions : CostAssumptions}
    {split : Split} {index : ℕ} {signal : HistoricalSignal} {trade : SimulatedTrade}
    (h : simulateSignal hasher config costAssumptions split index signal = some (.ok trade)) :
    (trade.isAmbiguous = false ∨ trade.isCensored = false) ∧ trade.split = split := by
  unfold simulateSignal at h
  cases hrefusal : entryRefusal hasher config signal with
  | none => simp [hrefusal] at h
  | some refusal =>
      cases refusal with
      | some reason => simp [hrefusal] at h
      | none =>
          simp only [hrefusal, Option.map_some, Option.some.injEq, Except.ok.injEq] at h
          subst h
          refine ⟨?_, rfl⟩
          have hcensored := isCensored_iff config signal hasher costAssumptions split index
          have hstopped := walkHistory_stoppedAt config signal
          cases hindex : exitIndex config signal with
          | none =>
              rw [hindex] at hstopped
              exact .inl hstopped.2
          | some k =>
              right
              rw [hindex] at hcensored
              simpa using hcensored

/-- The trades of a list are partitioned into usable, ambiguous and censored ones. -/
theorem countP_partition {trades : List SimulatedTrade}
    (h : ∀ t ∈ trades, t.isAmbiguous = false ∨ t.isCensored = false) :
    trades.countP SimulatedTrade.isUsable + trades.countP SimulatedTrade.isAmbiguous +
      trades.countP SimulatedTrade.isCensored = trades.length := by
  induction trades with
  | nil => rfl
  | cons t trades ih =>
      have hrest := ih fun u hu => h u (List.mem_cons_of_mem _ hu)
      have hone := h t List.mem_cons_self
      have hsum : (if t.isUsable = true then 1 else 0) + (if t.isAmbiguous = true then 1 else 0) +
          (if t.isCensored = true then 1 else 0) = 1 := by
        unfold SimulatedTrade.isUsable
        rcases hone with hone | hone
        · by_cases hcensored : t.isCensored = true
          · simp [hone, hcensored]
          · simp [hone, hcensored]
        · by_cases hambiguous : t.isAmbiguous = true
          · simp [hone, hambiguous]
          · simp [hone, hambiguous]
      rw [List.countP_cons, List.countP_cons, List.countP_cons, List.length_cons]
      omega

/-- A partitioned list is subtracted from without an underflow, and what is left counts the
usable trades. -/
structure CountedUsable (trades : List SimulatedTrade) : Prop where
  fits : trades.countP SimulatedTrade.isAmbiguous + trades.countP SimulatedTrade.isCensored ≤
    trades.length
  usable : usableCount trades = trades.countP SimulatedTrade.isUsable
  exclusive : ∀ t ∈ trades,
    (t.isUsable = true ∧ t.isAmbiguous = false ∧ t.isCensored = false) ∨
      (t.isUsable = false ∧ t.isAmbiguous = true ∧ t.isCensored = false) ∨
      (t.isUsable = false ∧ t.isAmbiguous = false ∧ t.isCensored = true)

/-- Trades that are not both ambiguous and censored are counted right. -/
theorem countedUsable {trades : List SimulatedTrade}
    (h : ∀ t ∈ trades, t.isAmbiguous = false ∨ t.isCensored = false) : CountedUsable trades := by
  have hpartition := countP_partition h
  refine ⟨by omega, ?_, ?_⟩
  · unfold usableCount
    omega
  · intro t ht
    have hone := h t ht
    unfold SimulatedTrade.isUsable
    cases hambiguous : t.isAmbiguous <;> cases hcensored : t.isCensored <;>
      simp_all

/-! ## The run -/

section Run

variable (hasher : Hasher) (parse : String → Except String HistoricalSignal) (config : Config)
  (bt : BacktestConfig)

/-- Where a data line ends: among the malformed records, among the structural rejections, or
where the simulation of its signal puts it. -/
abbrev Fate := MalformedRecord ⊕ SignalRejection StructuralDefect ⊕ Simulated

/-- The fate of a data line is about what the line holds. -/
def FateOf : List Char × ℕ → Fate → Prop :=
  Refined (LoadedAs parse) (Refined Prefiltered (SimulatedAs hasher config bt))

/-- The lists of a result hold the fates of the data lines, each list those of its kind. -/
structure HoldsFates (result : BacktestResult) (fates : List Fate) : Prop where
  malformed : result.malformedRecords = lefts fates
  structural : result.structuralRejections.Perm (lefts (rights fates))
  excluded : result.rangeExcluded.Perm
    ((rights (rights fates)).filterMap Simulated.excluded?)
  strategy : result.strategyRejections.Perm
    ((rights (rights fates)).filterMap Simulated.rejected?)
  trades : result.allTrades.Perm ((rights (rights fates)).filterMap Simulated.traded?)

/-- What a run that returns went through: the loaded file, the finished simulation and the
result put together from them. -/
theorem runBacktest_ok {content : Except String String} {result : BacktestResult}
    (h : runBacktest hasher parse config bt content = some (.ok result)) :
    ∃ text loaded done, content = .ok text ∧
      loadHistoricalSignals parse (.ok text) = .ok loaded ∧
      (prefilterSignals loaded.signals).1.foldlM (simulateRecord hasher config bt)
        { trades := [], strategyRejections := [], rangeExcluded := [], tradeIndex := 0 } =
          some done ∧
      result.allTrades = done.trades ∧
      result.strategyRejections = done.strategyRejections ∧
      result.rangeExcluded = done.rangeExcluded ∧
      result.structuralRejections = (prefilterSignals loaded.signals).2 ∧
      result.malformedRecords = loaded.rejectionReasons ∧
      result.totalSignals = loaded.signals.length + loaded.rejectedCount ∧
      result.statistics = runStatistics bt done.trades
        (loaded.signals.length + loaded.rejectedCount)
        ((prefilterSignals loaded.signals).2.length + done.strategyRejections.length +
          done.rangeExcluded.length) := by
  unfold runBacktest at h
  cases hbounds : bt.split.validateBoundaries with
  | error e => simp [hbounds] at h
  | ok _ =>
      rw [hbounds] at h
      cases hloaded : loadHistoricalSignals parse content with
      | error e => simp [hloaded] at h
      | ok loaded =>
          rw [hloaded] at h
          dsimp only at h
          rw [Option.map_eq_some_iff] at h
          obtain ⟨done, hdone, h⟩ := h
          cases h
          cases content with
          | error e => cases hloaded
          | ok text =>
              exact ⟨text, loaded, done, rfl, hloaded, hdone, rfl, rfl, rfl, rfl, rfl, rfl, rfl⟩

/-- Every data line of a run has one fate, and the lists of the result hold the fates. -/
theorem run_holdsFates {text : String} {result : BacktestResult}
    (h : runBacktest hasher parse config bt (.ok text) = some (.ok result)) :
    ∃ fates, List.Forall₂ (FateOf hasher parse config bt) (dataLines text) fates ∧
      HoldsFates result fates := by
  obtain ⟨text', loaded, done, htext, hloaded, hdone, htrades, hstrategy, hexcluded, hstructural,
    hmalformed, -, -⟩ := runBacktest_ok hasher parse config bt h
  cases htext
  -- the three stages
  obtain ⟨lines, hlines, hreasons, -, hsorted⟩ := loadHistoricalSignals_classifies parse hloaded
  obtain ⟨filtered, hfiltered, hrejections, haccepted⟩ := prefilter_classifies loaded.signals
  obtain ⟨outcomes, houtcomes, htraded, hrejected, hranged⟩ :=
    simulate_classifies hasher config bt _ hdone
  -- put together, across the sorting that the loader does
  rw [← haccepted] at houtcomes
  obtain ⟨sorted, hsortedFates, hsortedLefts, hsortedRights⟩ := exists_refine hfiltered houtcomes
  obtain ⟨unsorted, hunsorted, hperm⟩ := exists_forall₂_of_perm hsorted hsortedFates
  obtain ⟨fates, hfates, hlefts, hrights⟩ := exists_refine hlines hunsorted
  have hsimulated : (rights (rights fates)).Perm outcomes := by
    rw [hrights, ← hsortedRights]
    exact hperm.filterMap _
  refine ⟨fates, hfates, ?_, ?_, ?_, ?_, ?_⟩
  · rw [hmalformed, hlefts, hreasons]
  · rw [hstructural, ← hrejections, ← hsortedLefts, hrights]
    exact (hperm.filterMap _).symm
  · rw [hexcluded, hranged]
    exact (hsimulated.filterMap _).symm
  · rw [hstrategy, hrejected]
    exact (hsimulated.filterMap _).symm
  · rw [htrades, htraded]
    exact (hsimulated.filterMap _).symm

/-- The trades of a run come from the simulation, so none has both flags. -/
theorem trades_exclusive {lines : List (List Char × ℕ)} {fates : List Fate}
    (hfates : List.Forall₂ (FateOf hasher parse config bt) lines fates) :
    ∀ t ∈ (rights (rights fates)).filterMap Simulated.traded?,
      t.isAmbiguous = false ∨ t.isCensored = false := by
  intro t ht
  induction hfates with
  | nil => cases ht
  | @cons line fate lines fates hfate _ ih =>
      rcases fate with m | r | o
      · exact ih ht
      · exact ih ht
      · cases o with
        | excluded r => exact ih ht
        | rejected r => exact ih ht
        | traded u =>
            rcases List.mem_cons.mp ht with rfl | ht
            · obtain ⟨signal, -, accepted, -, split, index, -, hsim⟩ := hfate
              exact (flags_exclusive hsim).1
            · exact ih ht

/-- No trade of a run has both flags. -/
theorem run_exclusive {text : String} {result : BacktestResult}
    (h : runBacktest hasher parse config bt (.ok text) = some (.ok result)) :
    ∀ t ∈ result.allTrades, t.isAmbiguous = false ∨ t.isCensored = false := by
  obtain ⟨fates, hfates, hholds⟩ := run_holdsFates hasher parse config bt h
  exact fun t ht => trades_exclusive hasher parse config bt hfates t (hholds.trades.subset ht)

/-- **Records are conserved.** In a run that returns, every data line ends in exactly one list of
the result, the counts add up to the data lines, and in each split the usable, the ambiguous and
the censored trades are a partition that the subtractions count. -/
theorem records_conserved {content : Except String String} {result : BacktestResult}
    (h : runBacktest hasher parse config bt content = some (.ok result)) :
    (∃ text fates, content = .ok text ∧
      List.Forall₂ (FateOf hasher parse config bt) (dataLines text) fates ∧
      HoldsFates result fates ∧ result.totalSignals = (dataLines text).length) ∧
    result.statistics.totalSignals = result.totalSignals ∧
    result.statistics.acceptedTrades + result.statistics.rejectedSignals +
      result.malformedRecords.length = result.totalSignals ∧
    (∀ split, CountedUsable (tradesOf split result.allTrades)) ∧
    result.statistics.trainUsableTrades =
      (tradesOf .train result.allTrades).countP SimulatedTrade.isUsable ∧
    result.statistics.validationUsableTrades =
      (tradesOf .validation result.allTrades).countP SimulatedTrade.isUsable ∧
    result.statistics.oosUsableTrades =
      (tradesOf .outOfSample result.allTrades).countP SimulatedTrade.isUsable := by
  obtain ⟨text, loaded, done, rfl, hloaded, -, htrades, hstrategy, hexcluded, hstructural,
    hmalformed, htotal, hstatistics⟩ := runBacktest_ok hasher parse config bt h
  obtain ⟨fates, hfates, hholds⟩ := run_holdsFates hasher parse config bt h
  obtain ⟨lines, hlines, -, hcount, hsorted⟩ := loadHistoricalSignals_classifies parse hloaded
  have hexclusive := run_exclusive hasher parse config bt h
  have hcounted : ∀ split, CountedUsable (tradesOf split result.allTrades) :=
    fun split => countedUsable fun t ht => hexclusive t (List.mem_of_mem_filter ht)
  have hlength : result.totalSignals = (dataLines text).length := by
    rw [htotal, ← hsorted.length_eq, hcount, hlines.length_eq,
      ← length_lefts_add_length_rights lines]
    omega
  refine ⟨⟨text, fates, rfl, hfates, hholds, hlength⟩, ?_, ?_, hcounted, ?_, ?_, ?_⟩
  · rw [hstatistics, htotal]
    rfl
  · -- the counts of the lists, and the lengths of the fates that they hold
    have hsum := length_lefts_add_length_rights fates
    have hsum' := length_lefts_add_length_rights (rights fates)
    have houtcomes := Simulated.length_partition (rights (rights fates))
    have hlines := hfates.length_eq
    have hm := congrArg List.length hholds.malformed
    have hs := hholds.structural.length_eq
    have he := hholds.excluded.length_eq
    have hr := hholds.strategy.length_eq
    have ht := hholds.trades.length_eq
    have hrejected : result.statistics.rejectedSignals = result.structuralRejections.length +
        result.strategyRejections.length + result.rangeExcluded.length := by
      rw [hstatistics, hstructural, hstrategy, hexcluded]
      rfl
    have haccepted : result.statistics.acceptedTrades = result.allTrades.length := by
      rw [hstatistics, htrades]
      rfl
    rw [hrejected, haccepted, hlength]
    omega
  · rw [← (hcounted .train).usable, hstatistics, htrades]
    rfl
  · rw [← (hcounted .validation).usable, hstatistics, htrades]
    rfl
  · rw [← (hcounted .outOfSample).usable, hstatistics, htrades]
    rfl

/-- A run without splits. -/
def sampleBacktest : BacktestConfig :=
  { split := { trainEnd := none, validationStart := none, validationEnd := none, oosStart := none }
    costs :=
      { entrySwapFeeBps := none, entryPriorityFeeUsd := none, entrySlippageBps := none
        entryPriceImpactBps := none, exitSwapFeeBps := none, exitPriorityFeeUsd := none
        exitSlippageBps := none, exitPriceImpactBps := none, failedTxRate := none
        failedTxCostUsd := none }
    capitalUsd := 100
    isSyntheticData := false }

/-- A file with a comment, the sample record and a copy of it. -/
theorem records_conserved_sample :
    ∃ result, runBacktest sampleHasher (fun _ => .ok sampleSignal) sampleConfig sampleBacktest
        (.ok "#\na\nb") = some (.ok result) ∧
      result.statistics.acceptedTrades + result.statistics.rejectedSignals +
        result.malformedRecords.length = 2 := by
  have hvalid : validateSignal sampleSignal = .ok () := by decide +kernel
  have hread : (linesOf "#\na\nb".toList).zipIdx.foldl (loadLine fun _ => .ok sampleSignal)
      { signals := [], rejectedCount := 0, rejectionReasons := [], seenSignalKeys := [] } =
      { signals := [sampleSignal], rejectedCount := 1
        rejectionReasons := [{ line := 3, defect := .duplicate }]
        seenSignalKeys := [(sampleSignal.mint, sampleSignal.signalTimestamp)] } := by
    have hlines : (linesOf "#\na\nb".toList).zipIdx = [(['#'], 0), (['a'], 1), (['b'], 2)] := by
      decide +kernel
    rw [hlines]
    simp [loadLine, isDataLine, trimChars, charIsWhitespace, hvalid, Loading.refuse]
  have hloaded : loadHistoricalSignals (fun _ => .ok sampleSignal) (.ok "#\na\nb") =
      .ok { signals := [sampleSignal], rejectedCount := 1
            rejectionReasons := [{ line := 3, defect := .duplicate }] } := by
    unfold loadHistoricalSignals
    dsimp only [bind, Except.bind, pure, Except.pure]
    rw [hread]
    simp only [List.mergeSort_singleton]
  have hentered : entryRefusal sampleHasher sampleConfig sampleSignal = some none := by
    decide +kernel
  have hrecord : ∃ done, simulateRecord sampleHasher sampleConfig sampleBacktest
      { trades := [], strategyRejections := [], rangeExcluded := [], tradeIndex := 0 }
      sampleSignal = some done := by
    unfold simulateRecord simulateSignal
    rw [hentered]
    exact ⟨_, rfl⟩
  have hrun : ∃ result, runBacktest sampleHasher (fun _ => .ok sampleSignal) sampleConfig
      sampleBacktest (.ok "#\na\nb") = some (.ok result) ∧ result.totalSignals = 2 := by
    obtain ⟨done, hdone⟩ := hrecord
    have hfold : (prefilterSignals [sampleSignal]).1.foldlM
        (simulateRecord sampleHasher sampleConfig sampleBacktest)
        { trades := [], strategyRejections := [], rangeExcluded := [], tradeIndex := 0 } =
        some done := by
      have haccepted : (prefilterSignals [sampleSignal]).1 = [sampleSignal] := by decide +kernel
      rw [haccepted, List.foldlM_cons, hdone]
      rfl
    have hboundaries : sampleBacktest.split.validateBoundaries = .ok () := rfl
    unfold runBacktest
    rw [hloaded, hboundaries]
    dsimp only
    rw [hfold]
    exact ⟨_, rfl, rfl⟩
  obtain ⟨result, hresult, htotal⟩ := hrun
  exact ⟨result, hresult,
    (records_conserved sampleHasher _ sampleConfig sampleBacktest hresult).2.2.1.trans htotal⟩

end Run

end SolanaBot.Analysis
