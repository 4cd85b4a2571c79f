import SolanaBot.Analysis.CandleShape
import SolanaBot.Model.HistoricalValidation

/-!
# The strict validator and the loader

The validator (historical/validate.rs:59-177) drops duplicates among all the records that parse, the
loader among the valid ones. In closed form both keep the first of each key (`firstsBy`), of all
parsed records and of the valid ones, so that the loader never accepts more records than the
validator has counted (`loaded_length_le`), and the difference of the two does not underflow.

If the loader refuses no line, the two passes go through the same states (`scan_of_accepting`), and
what remains of the validator's checks is the comparison of the two position sizes.
-/

set_option autoImplicit false

namespace SolanaBot.Analysis

open SolanaBot.Library SolanaBot.Model

section Passes

variable (parse : String → Except String HistoricalSignal)

/-- The record that a line holds, if it parses. -/
def parsedSignal (line : List Char × ℕ) : Option HistoricalSignal :=
  if isDataLine line.1 then
    match parse (String.ofList (trimChars line.1)) with
    | .ok s => some s
    | .error _ => none
  else none

/-- The record that a line holds, if it is valid. -/
def validSignal (line : List Char × ℕ) : Option HistoricalSignal :=
  (parsedSignal parse line).filter fun s => validateSignal s = .ok ()

/-! ## Closed forms -/

/-- The signals of the first pass are the first of each key among those that parse. -/
theorem scan_signals (lines : List (List Char × ℕ)) (st : Scan) :
    (lines.foldl (scanLine parse) st).signals =
      st.signals ++ firstsBy HistoricalSignal.key st.seenKeys
        (lines.filterMap (parsedSignal parse)) := by
  induction lines generalizing st with
  | nil => simp [firstsBy]
  | cons line lines ih =>
      rw [List.foldl_cons, ih, List.filterMap_cons]
      unfold scanLine parsedSignal
      by_cases hdata : isDataLine line.1
      swap
      · simp only [hdata, Bool.false_eq_true, if_false]
      simp only [hdata, if_true]
      cases hparse : parse (String.ofList (trimChars line.1)) with
      | error e => rfl
      | ok s =>
          dsimp only
          by_cases hkey : s.key ∈ st.seenKeys
          · rw [if_pos (List.contains_iff_mem.mpr hkey), firstsBy_cons_of_mem hkey]
          · rw [if_neg (mt List.contains_iff_mem.mp hkey), firstsBy_cons_of_notMem hkey,
              List.append_assoc]
            rfl

/-- The signals of the loader are the first of each key among the valid ones. -/
theorem load_signals (lines : List (List Char × ℕ)) (st : Loading) :
    (lines.foldl (loadLine parse) st).signals =
      st.signals ++ firstsBy HistoricalSignal.key st.seenSignalKeys
        (lines.filterMap (validSignal parse)) := by
  induction lines generalizing st with
  | nil => simp [firstsBy]
  | cons line lines ih =>
      rw [List.foldl_cons, ih, List.filterMap_cons]
      unfold loadLine validSignal parsedSignal
      by_cases hdata : isDataLine line.1
      swap
      · simp only [hdata, Bool.false_eq_true, if_false, Option.filter_none]
      simp only [hdata, if_true]
      cases hparse : parse (String.ofList (trimChars line.1)) with
      | error e => rfl
      | ok s =>
          dsimp only
          cases hvalid : validateSignal s with
          | error defect =>
              simp only [hvalid, Option.filter_some, reduceCtorEq, decide_false,
                Bool.false_eq_true, if_false]
              rfl
          | ok u =>
              simp only [hvalid, Option.filter_some, decide_true, if_true]
              by_cases hkey : s.key ∈ st.seenSignalKeys
              · rw [firstsBy_cons_of_mem hkey]
                unfold HistoricalSignal.key at hkey
                rw [if_pos hkey]
                rfl
              · rw [firstsBy_cons_of_notMem hkey]
                unfold HistoricalSignal.key at hkey ⊢
                rw [if_neg hkey, List.append_assoc]
                rfl

/-- A loaded file without the error of reading it. -/
theorem loadHistoricalSignals_ok (text : String) : ∃ loaded,
    loadHistoricalSignals parse (.ok text) = .ok loaded ∧
      loaded.rejectionReasons = ((linesOf text.toList).zipIdx.foldl (loadLine parse)
        { signals := [], rejectedCount := 0, rejectionReasons := [],
          seenSignalKeys := [] }).rejectionReasons ∧
      loaded.signals = ((linesOf text.toList).zipIdx.foldl (loadLine parse)
        { signals := [], rejectedCount := 0, rejectionReasons := [],
          seenSignalKeys := [] }).signals.mergeSort fun a b =>
            a.signalTimestamp ≤ b.signalTimestamp :=
  ⟨_, rfl, rfl, rfl⟩

/-- **The loader accepts no more records than the validator counts.** The keys of the valid records
are keys of parsed records. -/
theorem loaded_length_le {text : String} {loaded : LoadResult}
    (h : loadHistoricalSignals parse (.ok text) = .ok loaded) :
    loaded.signals.length ≤ (scanLines parse text).signals.length := by
  obtain ⟨loaded', hloaded, -, hsignals⟩ := loadHistoricalSignals_ok parse text
  cases h.symm.trans hloaded
  unfold scanLines
  rw [hsignals, List.length_mergeSort, load_signals, scan_signals, List.nil_append, List.nil_append]
  apply length_firstsBy_le
  intro k hk
  obtain ⟨s, hs, rfl⟩ := List.mem_map.mp hk
  obtain ⟨line, hline, hvalid⟩ := List.mem_filterMap.mp hs
  rw [validSignal, Option.filter_eq_some_iff] at hvalid
  exact List.mem_map_of_mem (List.mem_filterMap.mpr ⟨line, hline, hvalid.1⟩)

/-! ## Files that are accepted as a whole -/

/-- The reasons of a prefix of the lines stay. -/
theorem rejectionReasons_of_foldl {lines : List (List Char × ℕ)} {st : Loading}
    (h : (lines.foldl (loadLine parse) st).rejectionReasons = []) : st.rejectionReasons = [] := by
  obtain ⟨fs, -, hreasons, -, -⟩ := load_classifies parse lines st
  rw [hreasons] at h
  exact (List.append_eq_nil_iff.mp h).1

/-- A line that the loader does not refuse: what both passes do with it. -/
theorem loadLine_accepted {line : List Char × ℕ} {st : Loading}
    (h : (loadLine parse st line).rejectionReasons = []) (sc : Scan)
    (hkeys : sc.seenKeys = st.seenSignalKeys) (hsignals : sc.signals = st.signals) :
    (scanLine parse sc line).seenKeys = (loadLine parse st line).seenSignalKeys ∧
      (scanLine parse sc line).signals = (loadLine parse st line).signals ∧
      (scanLine parse sc line).jsonInvalid = sc.jsonInvalid ∧
      (scanLine parse sc line).issues = sc.issues ∧
      (scanLine parse sc line).duplicateCount = sc.duplicateCount := by
  have hrefused : ∀ n defect, (st.refuse n defect).rejectionReasons ≠ [] := by
    intro n defect hnil
    exact List.append_ne_nil_of_right_ne_nil _ (List.cons_ne_nil _ _) hnil
  unfold loadLine at h ⊢
  unfold scanLine
  by_cases hdata : isDataLine line.1
  swap
  · simp only [hdata, Bool.false_eq_true, if_false]
    exact ⟨hkeys, hsignals, trivial, trivial, trivial⟩
  simp only [hdata, if_true] at h ⊢
  cases hparse : parse (String.ofList (trimChars line.1)) with
  | error e =>
      rw [hparse] at h
      exact absurd h (hrefused _ _)
  | ok s =>
      rw [hparse] at h
      dsimp only at h ⊢
      cases hvalid : validateSignal s with
      | error defect =>
          rw [hvalid] at h
          exact absurd h (hrefused _ _)
      | ok u =>
          rw [hvalid] at h
          dsimp only at h ⊢
          unfold HistoricalSignal.key
          by_cases hkey : (s.mint, s.signalTimestamp) ∈ st.seenSignalKeys
          · rw [if_pos hkey] at h
            exact absurd h (hrefused _ _)
          · rw [if_neg hkey, hkeys, if_neg (mt List.contains_iff_mem.mp hkey), hsignals]
            exact ⟨rfl, rfl, rfl, rfl, rfl⟩

/-- If the loader refuses no line, the first pass goes through the same records and finds
nothing. -/
theorem scan_of_accepting {lines : List (List Char × ℕ)} {st : Loading} {sc : Scan}
    (h : (lines.foldl (loadLine parse) st).rejectionReasons = [])
    (hkeys : sc.seenKeys = st.seenSignalKeys) (hsignals : sc.signals = st.signals) :
    (lines.foldl (scanLine parse) sc).signals = (lines.foldl (loadLine parse) st).signals ∧
      (lines.foldl (scanLine parse) sc).jsonInvalid = sc.jsonInvalid ∧
      (lines.foldl (scanLine parse) sc).issues = sc.issues ∧
      (lines.foldl (scanLine parse) sc).duplicateCount = sc.duplicateCount := by
  induction lines generalizing st sc with
  | nil => exact ⟨hsignals, rfl, rfl, rfl⟩
  | cons line lines ih =>
      rw [List.foldl_cons] at h
      obtain ⟨hkeys', hsignals', hjson, hissues, hdup⟩ :=
        loadLine_accepted parse (rejectionReasons_of_foldl parse h) sc hkeys hsignals
      obtain ⟨hall, hjson', hissues', hdup'⟩ := ih h hkeys' hsignals'
      rw [List.foldl_cons, List.foldl_cons]
      exact ⟨hall, hjson'.trans hjson, hissues'.trans hissues, hdup'.trans hdup⟩

/-- The loader accepts every data line exactly if it gives no reason to reject one. -/
theorem accepts_all_iff {text : String} {loaded : LoadResult}
    (h : loadHistoricalSignals parse (.ok text) = .ok loaded) :
    loaded.signals.length = (dataLines text).length ↔ loaded.rejectionReasons = [] := by
  obtain ⟨fs, hfs, hreasons, -, hsignals⟩ := loadHistoricalSignals_classifies parse h
  have hparts := length_lefts_add_length_rights fs
  rw [← hsignals.length_eq, hfs.length_eq, hreasons, ← List.length_eq_zero_iff]
  omega

/-! ## Accepted records -/

/-- Sorted signals are in chronological order. -/
theorem signalsChronological_of_pairwise {l : List HistoricalSignal}
    (h : l.Pairwise fun a b => a.signalTimestamp ≤ b.signalTimestamp) :
    signalsChronological l = true := by
  induction l with
  | nil => rfl
  | cons a l ih =>
      rw [List.pairwise_cons] at h
      cases l with
      | nil => rfl
      | cons b l =>
          have hab : a.signalTimestamp ≤ b.signalTimestamp := h.1 b List.mem_cons_self
          unfold signalsChronological
          rw [ih h.2, Bool.and_true, decide_eq_true hab]

/-- What is loaded is in chronological order. -/
theorem loaded_chronological {text : String} {loaded : LoadResult}
    (h : loadHistoricalSignals parse (.ok text) = .ok loaded) :
    signalsChronological loaded.signals = true := by
  obtain ⟨loaded', hloaded, -, hsignals⟩ := loadHistoricalSignals_ok parse text
  cases h.symm.trans hloaded
  rw [hsignals]
  apply signalsChronological_of_pairwise
  have htrans : ∀ a b c : HistoricalSignal, decide (a.signalTimestamp ≤ b.signalTimestamp) = true →
      decide (b.signalTimestamp ≤ c.signalTimestamp) = true →
      decide (a.signalTimestamp ≤ c.signalTimestamp) = true := by
    intro a b c hab hbc
    rw [decide_eq_true_eq] at hab hbc ⊢
    exact le_trans hab hbc
  have htotal : ∀ a b : HistoricalSignal, (decide (a.signalTimestamp ≤ b.signalTimestamp) ||
      decide (b.signalTimestamp ≤ a.signalTimestamp)) = true := by
    intro a b
    rw [Bool.or_eq_true, decide_eq_true_eq, decide_eq_true_eq]
    exact le_total _ _
  exact (List.pairwise_mergeSort htrans htotal _).imp of_decide_eq_true

/-- Of an accepted record, only the two position sizes can be at odds. -/
theorem missingData_eq_nil_iff {s : HistoricalSignal} (h : ValidSignal s) :
    missingData s = [] ↔ s.costs.input.positionSizeUsd = s.positionUsd := by
  unfold missingData
  cases hhistory : s.priceHistory with
  | nil => exact absurd hhistory h.history_nonempty
  | cons first rest =>
      have hfirst : ¬ first.timestamp < s.signalTimestamp := by
        have hvalid := h.observations first (by rw [hhistory]; exact List.mem_cons_self)
        exact not_lt.mpr hvalid.not_before
      simp only [reduceCtorEq, if_false, List.head?_cons, hfirst, List.nil_append]
      by_cases hsize : s.costs.input.positionSizeUsd = s.positionUsd
      · simp [hsize]
      · simp [hsize]

/-! ## The verdict -/

/-- The condition on a file under which the strict validator accepts it. -/
def AcceptedAsSized (text : String) : Prop :=
  ∃ loaded, loadHistoricalSignals parse (.ok text) = .ok loaded ∧
    loaded.signals.length = (dataLines text).length ∧
    ∀ s ∈ loaded.signals, s.costs.input.positionSizeUsd = s.positionUsd

/-- The report is returned in both modes, and the strict one looks whether it is clean. -/
theorem validate_eq {text : String} {loaded : LoadResult}
    (h : loadHistoricalSignals parse (.ok text) = .ok loaded) :
    ∃ report : HistoricalValidationReport,
      (∀ strict, validate parse strict (.ok text) =
        some (if strict ∧ report.isClean = false then .error (.notClean report) else .ok report)) ∧
      report.rejectedRecords = (scanLines parse text).signals.length +
        (scanLines parse text).jsonInvalid - loaded.signals.length ∧
      report.pitViolations = loaded.rejectionReasons.length ∧
      report.missingDataRecords = (loaded.signals.flatMap missingData).length ∧
      report.duplicateRecords = (scanLines parse text).duplicateCount ∧
      report.chronologicalOrderOk = true ∧
      report.issues = (scanLines parse text).issues ++
        loaded.rejectionReasons.map .loadTimeRejection ++ loaded.signals.flatMap missingData := by
  have hle : loaded.signals.length ≤
      (scanLines parse text).signals.length + (scanLines parse text).jsonInvalid :=
    (loaded_length_le parse h).trans (Nat.le_add_right _ _)
  have hordered := loaded_chronological parse h
  unfold validate
  simp only [h, usizeSub, if_pos hle, hordered, if_true, List.append_nil]
  exact ⟨_, fun _ => rfl, rfl, rfl, rfl, rfl, rfl, rfl⟩

/-- **Strict validation is acceptance of every line, with consistent sizes.** For every content of
the file the subtraction does not underflow, in both modes. The strict validator accepts the file
exactly if the loader accepts every data line and every accepted record is sized as its cost model
assumes. -/
theorem validate_strict_iff (text : String) :
    (∀ strict, validate parse strict (.ok text) ≠ none) ∧
      ((∃ report, validate parse true (.ok text) = some (.ok report)) ↔
        AcceptedAsSized parse text) := by
  obtain ⟨loaded, hload, hreasons, hsignals⟩ := loadHistoricalSignals_ok parse text
  obtain ⟨report, hvalidate, hrejected, hpit, hmissing, hdup, hordered, hissues⟩ :=
    validate_eq parse hload
  refine ⟨fun strict => by rw [hvalidate]; exact Option.some_ne_none _, ?_⟩
  have hsized : loaded.signals.flatMap missingData = [] ↔
      ∀ s ∈ loaded.signals, s.costs.input.positionSizeUsd = s.positionUsd := by
    rw [List.flatMap_eq_nil_iff]
    apply forall₂_congr
    intro s hs
    exact missingData_eq_nil_iff (valid_of_loaded hload hs)
  have hclean : (∃ r, validate parse true (.ok text) = some (.ok r)) ↔ report.isClean = true := by
    rw [hvalidate]
    cases hc : report.isClean <;> simp
  rw [hclean]
  constructor
  · intro h
    simp only [HistoricalValidationReport.isClean, decide_eq_true_eq] at h
    obtain ⟨-, hnopit, hnomissing, -⟩ := h
    rw [hpit, List.length_eq_zero_iff] at hnopit
    rw [hmissing, List.length_eq_zero_iff] at hnomissing
    exact ⟨loaded, hload, (accepts_all_iff parse hload).mpr hnopit, hsized.mp hnomissing⟩
  · rintro ⟨loaded', hload', hall, hsizes⟩
    cases hload.symm.trans hload'
    have hnone : loaded.rejectionReasons = [] := (accepts_all_iff parse hload).mp hall
    have hscan : (scanLines parse text).signals.length = loaded.signals.length ∧
        (scanLines parse text).jsonInvalid = 0 ∧ (scanLines parse text).issues = [] ∧
        (scanLines parse text).duplicateCount = 0 := by
      rw [hsignals, List.length_mergeSort]
      apply And.imp_left (congrArg List.length)
      exact scan_of_accepting parse (hreasons.symm.trans hnone) rfl rfl
    obtain ⟨hsame, hjson, hscanned, hduplicates⟩ := hscan
    have hnomissing := hsized.mpr hsizes
    simp only [HistoricalValidationReport.isClean, decide_eq_true_eq]
    refine ⟨?_, ?_, ?_, hdup.trans hduplicates, hordered, ?_⟩
    · rw [hrejected, hsame, hjson, Nat.add_zero, Nat.sub_self]
    · rw [hpit, hnone, List.length_nil]
    · rw [hmissing, hnomissing, List.length_nil]
    · rw [hissues, hscanned, hnone, hnomissing, List.map_nil, List.append_nil, List.append_nil]

end Passes

end SolanaBot.Analysis
