import Mathlib.Data.Finset.Insert
import SolanaBot.Model.BacktestData
import SolanaBot.Model.Effects

/-!
# The recorded history

`history.rs`: live candidates are appended to a file, one JSON line each, behind a header of comments;
and a file is read back into a report. The file holds a text, which may end within a line if a write was
cut. Mints and wallets are base58, and the rest is numbers, times and fixed names: the text is ASCII, so
that a write is never cut within a character. `serde_json` and the debug text of a string are parameters,
and so is what the file system answers.
-/

set_option autoImplicit false

namespace SolanaBot.Model

/-- RUST: history.rs:60-71. -/
structure HistoryRecord where
  recordedAt : Time
  source : String
  candidate : CandidateInput
deriving DecidableEq

/-- The JSON of a record, and the debug text of a string. -/
structure HistoryFormat where
  toJson : HistoryRecord → Except String String
  fromStr : String → Except String HistoryRecord
  debugText : String → String

/-! ## The recorder -/

/-- How a `write_all` ends. An error leaves something of the text unwritten. -/
inductive WriteEnd where
  | whole
  | cut (written : ℕ) (error : String)

/-- What the calls of `record` get from the file system and from the clock. -/
structure HistoryEnv where
  now : Time
  createDir : Except String Unit
  openCreate : Except String Unit
  /-- The opening and the metadata in `file_is_empty`. -/
  probe : Except String Unit
  metadata : Except String Unit
  /-- One write for each line of the header. -/
  headerWrites : ℕ → WriteEnd
  openAppend : Except String Unit
  jsonWrite : WriteEnd
  feedWrite : WriteEnd

/-- RUST: history.rs:91-95. The recorder, and the text of its file; one that is not there has no text. -/
structure HistoryRecorder where
  file : List Char
  seenMintsThisSession : Finset String
  fileCreated : Bool

/-- The text of the file after a write at its end. -/
def writeAll (e : WriteEnd) (text file : List Char) : Except String Unit × List Char :=
  match e with
  | .whole => (.ok (), file ++ text)
  | .cut written error => (.error error, file ++ text.dropLast.take written)

/-- RUST: history.rs:120-132. -/
def historyHeader : List String :=
  ["# Historical data collected by \x60cargo run -- collect-history\x60.",
   "# Each line is one CandidateInput as observed live by the",
   "# production collector. Strict PIT (point-in-time) validation",
   "# applies: any feature.observed_at must be <= market.observed_at",
   "# and every wallet.updated_at must be <= market.observed_at.",
   "#",
   "# KNOWN LIMITATIONS of this recorded data:",
   "# - wallet score and trades are heuristic, not historical PnL",
   "# - no subsequent price observations are recorded (no forward",
   "#   price path for exit simulation)",
   "# - holder_top10_pct, creator_suspicious, abnormal_activity,",
   "#   liquidity_change_pct are hard-coded defaults",
   "#"]

/-- The lines are written one after the other, until a write is cut. -/
def writeLines : (ℕ → WriteEnd) → List String → List Char → Except String Unit × List Char
  | _, [], file => (.ok (), file)
  | ends, line :: lines, file =>
      match writeAll (ends 0) (line.toList ++ ['\n']) file with
      | (.error e, file) => (.error e, file)
      | (.ok (), file) => writeLines (fun i => ends (i + 1)) lines file

namespace HistoryRecorder

/-- RUST: history.rs:98-104. -/
def new (file : List Char) : HistoryRecorder := ⟨file, ∅, false⟩

/-- RUST: history.rs:138-143. A file that cannot be opened counts as empty. -/
def fileIsEmpty (r : HistoryRecorder) (e : HistoryEnv) : Except String Bool :=
  match e.probe, e.metadata with
  | .error _, _ => .ok true
  | .ok (), .error msg => .error msg
  | .ok (), .ok () => .ok r.file.isEmpty

/-- RUST: history.rs:107-136. -/
def ensureFile (r : HistoryRecorder) (e : HistoryEnv) : Except String Unit × HistoryRecorder :=
  if r.fileCreated then (.ok (), r)
  else
    match e.createDir, e.openCreate, r.fileIsEmpty e with
    | .error msg, _, _ => (.error msg, r)
    | .ok (), .error msg, _ => (.error msg, r)
    | .ok (), .ok (), .error msg => (.error msg, r)
    | .ok (), .ok (), .ok false => (.ok (), { r with fileCreated := true })
    | .ok (), .ok (), .ok true =>
        match writeLines e.headerWrites historyHeader r.file with
        | (.error msg, file) => (.error msg, { r with file })
        | (.ok (), file) => (.ok (), { r with file, fileCreated := true })

/-- RUST: history.rs:161-166. The line of a record at the end of the file. -/
def appendRecord (f : HistoryFormat) (r : HistoryRecorder) (e : HistoryEnv) (rec : HistoryRecord) :
    Except String Bool × HistoryRecorder :=
  match f.toJson rec, e.openAppend with
  | .error msg, _ => (.error msg, r)
  | .ok _, .error msg => (.error msg, r)
  | .ok json, .ok () =>
      match writeAll e.jsonWrite json.toList r.file with
      | (.error msg, file) => (.error msg, { r with file })
      | (.ok (), file) =>
          match writeAll e.feedWrite ['\n'] file with
          | (.error msg, file) => (.error msg, { r with file })
          | (.ok (), file) => (.ok true, { r with file })

/-- The record that a call makes of a candidate. RUST: history.rs:156-160. -/
def recordOf (e : HistoryEnv) (c : CandidateInput) : HistoryRecord := ⟨e.now, "collect_live", c⟩

/-- RUST: history.rs:147-167. The mint is seen even if the line is not written. -/
def record (f : HistoryFormat) (r : HistoryRecorder) (e : HistoryEnv) (c : CandidateInput) :
    Except String Bool × HistoryRecorder :=
  match r.ensureFile e with
  | (.error msg, r) => (.error msg, r)
  | (.ok (), r) =>
      if c.mint = "" then (.ok false, r)
      else if c.mint ∈ r.seenMintsThisSession then (.ok false, r)
      else
        { r with seenMintsThisSession := insert c.mint r.seenMintsThisSession }.appendRecord f e
          (recordOf e c)

/-- RUST: main.rs:714-745. The candidates that were collected, with the answers to their calls; an
error is only logged. -/
def recordAll (f : HistoryFormat) : HistoryRecorder → List (CandidateInput × HistoryEnv) →
    List (HistoryRecord × Except String Bool) × HistoryRecorder
  | r, [] => ([], r)
  | r, (c, e) :: calls =>
      let (answer, r) := r.record f e c
      let (answers, r) := recordAll f r calls
      ((recordOf e c, answer) :: answers, r)

end HistoryRecorder

/-! ## The validator -/

/-- RUST: history.rs:75-86. -/
structure HistoryValidationReport where
  path : String
  totalLines : ℕ
  parseableLines : ℕ
  unparseableLines : List String
  duplicateMints : List String
  records : List HistoryRecord
  futureDatedCount : ℕ
  missingDecimalsCount : ℕ
  costMismatchCount : ℕ
  missingWalletPitCount : ℕ

/-- The local variables of the loop. RUST: history.rs:205-217. -/
structure HistoryScan extends HistoryValidationReport where
  seenMints : List String

/-- RUST: history.rs:205-217. -/
def HistoryScan.start (path : String) : HistoryScan :=
  { path, totalLines := 0, parseableLines := 0, unparseableLines := [], duplicateMints := [], records := []
    futureDatedCount := 0, missingDecimalsCount := 0, costMismatchCount := 0
    missingWalletPitCount := 0, seenMints := [] }

/-- RUST: history.rs:242-268. A record that is read at the given time. -/
def HistoryScan.keep (st : HistoryScan) (now : Time) (rec : HistoryRecord) : HistoryScan :=
  let c := rec.candidate
  { path := st.path
    totalLines := st.totalLines
    parseableLines := st.parseableLines + 1
    unparseableLines := st.unparseableLines
    duplicateMints := if c.mint ∈ st.seenMints then st.duplicateMints ++ [c.mint] else st.duplicateMints
    seenMints := c.mint :: st.seenMints
    futureDatedCount := st.futureDatedCount +
      if c.market.observedAt > now ∨ c.safety.observedAt > now then 1 else 0
    missingDecimalsCount := st.missingDecimalsCount +
      if c.tokenDecimals = none ∨ c.baseMintDecimals = none then 1 else 0
    costMismatchCount := st.costMismatchCount +
      if c.costs.input.positionSizeUsd ≠ c.positionUsd then 1 else 0
    missingWalletPitCount := st.missingWalletPitCount +
      if ∃ w ∈ c.wallets, w.updatedAt > c.market.observedAt then 1 else 0
    records := st.records ++ [rec] }

/-- RUST: history.rs:287-294, the same as `isValidSolanaMint`. -/
def isValidHistoryMint (s : String) : Bool := isValidSolanaMint s

/-- RUST: history.rs:218-276, one turn of the loop over the lines. -/
def historyLine (f : HistoryFormat) (now : ℕ → Time) (st : HistoryScan) (line : List Char × ℕ) :
    HistoryScan :=
  if isDataLine line.1 then
    let st := { st with totalLines := st.totalLines + 1 }
    let refused (why : String) : HistoryScan :=
      { st with unparseableLines := st.unparseableLines ++
          ["line " ++ toString (line.2 + 1) ++ ": " ++ why] }
    match f.fromStr (String.ofList (trimChars line.1)) with
    | .error e => refused e
    | .ok rec =>
        if isValidHistoryMint rec.candidate.mint then st.keep (now line.2) rec
        else refused ("invalid mint address " ++ f.debugText rec.candidate.mint)
  else st

/-- RUST: history.rs:202-278. The content of the file, or the error of reading it; the clock is read at
each line. -/
def validateHistory (f : HistoryFormat) (path : String) (content : Except String (List Char))
    (now : ℕ → Time) : Except String HistoryValidationReport :=
  match content with
  | .error e => .error ("read " ++ path ++ ": " ++ e)
  | .ok text =>
      .ok ((linesOf text).zipIdx.foldl (historyLine f now) (.start path)).toHistoryValidationReport

end SolanaBot.Model
