import SolanaBot.Library.Firsts
import SolanaBot.Model.BacktestData

/-!
# Validation of the historical dataset

`historical/validate.rs`: the report on a dataset. The validator reads the lines once itself, where it
drops duplicates before any other check, and once through the loader of the backtest, which checks a
record first and looks for duplicates among the accepted ones. The number of rejected records is
the difference of the two counts, an unsigned subtraction.
-/

set_option autoImplicit false

namespace SolanaBot.Model

open SolanaBot.Library

/-- What the report lists. RUST: historical/validate.rs:77-138. -/
inductive ValidationIssue where
  | duplicateSignal (line : ℕ) (mint : String) (signalTimestamp : Time)
  | invalidJson (line : ℕ) (e : String)
  | loadTimeRejection (reason : MalformedRecord)
  | outOfOrder
  | emptyHistory (signalTimestamp : Time)
  | historyPrecedesSignal (signalTimestamp : Time)
  | sizeMismatch (signalTimestamp : Time) (costSize positionUsd : Decimal)
deriving DecidableEq

/-- RUST: the formats of historical/validate.rs:77-138. -/
def ValidationIssue.toText (p : Printer) : ValidationIssue → String
  | .duplicateSignal line mint t =>
      "line " ++ toString line ++ ": duplicate signal (" ++ mint ++ " @ " ++ p.time t ++ ")"
  | .invalidJson line e => "line " ++ toString line ++ ": invalid JSON: " ++ e
  | .loadTimeRejection r => "load-time rejection: " ++ r.toText p
  | .outOfOrder => "signals not in chronological order"
  | .emptyHistory t => p.time t ++ ": empty price_history"
  | .historyPrecedesSignal t =>
      p.time t ++ ": price_history[0].timestamp precedes signal_timestamp"
  | .sizeMismatch t costSize positionUsd =>
      p.time t ++ ": costs.input.position_size_usd (" ++ p.decimal costSize ++
        ") != signal.position_usd (" ++ p.decimal positionUsd ++ ")"

/-- RUST: historical/validate.rs:15-29, without the path. -/
structure HistoricalValidationReport where
  records : ℕ
  validRecords : ℕ
  rejectedRecords : ℕ
  pitViolations : ℕ
  missingDataRecords : ℕ
  duplicateRecords : ℕ
  chronologicalOrderOk : Bool
  dateRange : Option (Time × Time)
  uniqueTokens : ℕ
  uniqueWallets : ℕ
  issues : List ValidationIssue

/-- RUST: historical/validate.rs:31-40. -/
def HistoricalValidationReport.isClean (r : HistoricalValidationReport) : Bool :=
  r.rejectedRecords = 0 ∧ r.pitViolations = 0 ∧ r.missingDataRecords = 0 ∧
    r.duplicateRecords = 0 ∧ r.chronologicalOrderOk ∧ r.issues = []

/-- Why the validator fails. RUST: historical/validate.rs:62-63 and 162-173. -/
inductive ValidationFailure where
  | unreadable (e : String)
  | notClean (report : HistoricalValidationReport)

/-- The local variables of the first pass. RUST: historical/validate.rs:64-68. -/
structure Scan where
  signals : List HistoricalSignal
  jsonInvalid : ℕ
  issues : List ValidationIssue
  seenKeys : List (String × Time)
  duplicateCount : ℕ

/-- What identifies a signal. RUST: historical/validate.rs:76 and backtest/data.rs:124. -/
def HistoricalSignal.key (s : HistoricalSignal) : String × Time := (s.mint, s.signalTimestamp)

/-- RUST: historical/validate.rs:69-93, one turn of the loop over the lines. -/
def scanLine (parse : String → Except String HistoricalSignal) (st : Scan)
    (line : List Char × ℕ) : Scan :=
  if isDataLine line.1 then
    match parse (String.ofList (trimChars line.1)) with
    | .ok s =>
        if st.seenKeys.contains s.key then
          { st with
            duplicateCount := st.duplicateCount + 1
            issues := st.issues ++ [.duplicateSignal (line.2 + 1) s.mint s.signalTimestamp] }
        else
          { st with
            signals := st.signals ++ [s]
            seenKeys := s.key :: st.seenKeys }
    | .error e =>
        { st with
          jsonInvalid := st.jsonInvalid + 1
          issues := st.issues ++ [.invalidJson (line.2 + 1) e] }
  else st

/-- RUST: historical/validate.rs:102-110. Two consecutive signals in the wrong order. -/
def signalsChronological : List HistoricalSignal → Bool
  | a :: b :: rest =>
      decide (a.signalTimestamp ≤ b.signalTimestamp) && signalsChronological (b :: rest)
  | _ => true

/-- RUST: historical/validate.rs:112-139, what is missing from one accepted record. Every issue
counts as one record. -/
def missingData (s : HistoricalSignal) : List ValidationIssue :=
  (if s.priceHistory = [] then [.emptyHistory s.signalTimestamp] else []) ++
    (match s.priceHistory.head? with
      | some first =>
          if first.timestamp < s.signalTimestamp then [.historyPrecedesSignal s.signalTimestamp]
          else []
      | none => []) ++
    if s.costs.input.positionSizeUsd ≠ s.positionUsd then
      [.sizeMismatch s.signalTimestamp s.costs.input.positionSizeUsd s.positionUsd]
    else []

/-- RUST: historical/validate.rs:145-152. -/
def dateRange (sorted : List HistoricalSignal) : Option (Time × Time) :=
  match sorted.head?, sorted.getLast? with
  | some first, some last => some (first.signalTimestamp, last.signalTimestamp)
  | _, _ => none

/-- An unsigned difference, if it does not underflow. -/
def usizeSub (a b : ℕ) : Option ℕ := if b ≤ a then some (a - b) else none

/-- The first pass over a file. RUST: historical/validate.rs:64-93. -/
def scanLines (parse : String → Except String HistoricalSignal) (text : String) : Scan :=
  (linesOf text.toList).zipIdx.foldl (scanLine parse)
    { signals := [], jsonInvalid := 0, issues := [], seenKeys := [], duplicateCount := 0 }

/-- RUST: historical/validate.rs:59-177. `none` is an underflow of the subtraction, on which a
debug build panics. -/
def validate (parse : String → Except String HistoricalSignal) (strict : Bool)
    (content : Except String String) :
    Option (Except ValidationFailure HistoricalValidationReport) :=
  match content with
  | .error e => some (.error (.unreadable e))
  | .ok text =>
      let scan := scanLines parse text
      match loadHistoricalSignals parse content with
      | .error e => some (.error (.unreadable e))
      | .ok loaded =>
          let sorted := loaded.signals
          let ordered := signalsChronological sorted
          let missing := sorted.flatMap missingData
          let totalRecords := scan.signals.length + scan.jsonInvalid
          match usizeSub totalRecords sorted.length with
          | none => none
          | some rejectedRecords =>
              let report : HistoricalValidationReport :=
                { records := totalRecords
                  validRecords := sorted.length
                  rejectedRecords
                  pitViolations := loaded.rejectionReasons.length
                  missingDataRecords := missing.length
                  duplicateRecords := scan.duplicateCount
                  chronologicalOrderOk := ordered
                  dateRange := dateRange sorted
                  uniqueTokens := (firstsBy HistoricalSignal.mint [] sorted).length
                  uniqueWallets :=
                    (firstsBy WalletStats.wallet [] (sorted.flatMap HistoricalSignal.wallets)).length
                  issues := scan.issues ++ loaded.rejectionReasons.map .loadTimeRejection ++
                    (if ordered then [] else [.outOfOrder]) ++ missing }
              some (if strict ∧ report.isClean = false then .error (.notClean report)
                else .ok report)

end SolanaBot.Model
