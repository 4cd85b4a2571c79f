import SolanaBot.Library.ResumableLog
import SolanaBot.Model.HistoricalDataset

/-!
# The resumable build

`historical/build.rs`: the run over the mints and the grid of signal times, which appends a line for
every signal that can be built and writes the set of the written signals to the resume file. What a run
does to the disk is recorded as a list of steps, so that a crash can cut it anywhere. A run reads the
resume file once, when the builder is created.

What the providers return is a parameter. A panic or an I/O error in the course of a run is one of the
crashes.
-/

set_option autoImplicit false

namespace SolanaBot.Model

open SolanaBot.Library

/-- A JSON text, which has no line break. RUST: historical/build.rs:152-153. -/
structure DatasetLine where
  text : List Char
  oneLine : '\n' ∉ text

/-- RUST: historical/build.rs:48-72, what the run itself reads. -/
structure BuildOptions where
  mints : List String
  start : Time
  endAt : Time
  signalsPerMint : ℕ
  futureWindowMinutes : Int

/-- What the providers make of the requests of a run: the candles of a window, and the line of a
signal (`build_one` and its JSON text). RUST: historical/build.rs:141-145 and 151-153. -/
structure BuildSources where
  fetchWindow : String → Time → Time → Except String (List OhlcvCandle)
  buildOne : String → Time → List OhlcvCandle → Except String DatasetLine

/-- RUST: historical/build.rs:283-297. -/
def computeSignalGrid (start endAt : Time) (signalsPerMint : ℕ) : List Time :=
  if signalsPerMint ≤ 1 ∨ endAt ≤ start then [start]
  else
    let span := numSeconds (endAt - start)
    let step := span.tdiv (max ((signalsPerMint : Int) - 1) 1)
    (List.range signalsPerMint).map fun i => start + seconds (i * step)

/-- RUST: historical/build.rs:147. `timestamp` counts whole seconds, rounded down. -/
def signalKey (mint : String) (signalTimestamp : Time) : String :=
  mint ++ "|" ++ toString (signalTimestamp / 1000)

/-- RUST: historical/build.rs:74-83, without the output path and the providers' names. -/
structure BuildReport where
  totalSignals : ℕ
  acceptedSignals : ℕ
  skippedSignals : ℕ
  dateRange : Option (Time × Time)
  uniqueTokens : ℕ

/-- The local variables of a run, and its steps on the disk so far. A window that cannot be fetched
ends the run. RUST: historical/build.rs:127-133. -/
structure Building where
  steps : List (LogStep String)
  written : List String
  accepted : ℕ
  skipped : ℕ
  earliest : Option Time
  latest : Option Time
  failed : Option String

/-- RUST: historical/build.rs:146-177, one turn of the loop over the grid. -/
def buildSignal (sources : BuildSources) (mint : String) (candles : List OhlcvCandle)
    (st : Building) (sigTs : Time) : Building :=
  let key := signalKey mint sigTs
  if key ∈ st.written then { st with skipped := st.skipped + 1 }
  else
    match sources.buildOne mint sigTs candles with
    | .ok line =>
        { st with
          steps := st.steps ++ LogStep.entrySteps line.text (key :: st.written)
          written := key :: st.written
          accepted := st.accepted + 1
          earliest := some ((st.earliest.map fun t => min t sigTs).getD sigTs)
          latest := some ((st.latest.map fun t => max t sigTs).getD sigTs) }
    | .error _ => { st with skipped := st.skipped + 1 }

/-- RUST: historical/build.rs:134-182, one turn of the loop over the mints. -/
def buildMint (sources : BuildSources) (options : BuildOptions) (grid : List Time)
    (st : Building) (mint : String) : Building :=
  match st.failed with
  | some _ => st
  | none =>
      match sources.fetchWindow mint (options.start - minutes (24 * 60))
          (options.endAt + minutes options.futureWindowMinutes) with
      | .error e => { st with failed := some e }
      | .ok candles => grid.foldl (buildSignal sources mint candles) st

/-- RUST: historical/build.rs:121-182. A run of a builder that has loaded the written keys. -/
def buildRun (sources : BuildSources) (options : BuildOptions) (written : List String) : Building :=
  options.mints.foldl
    (buildMint sources options
      (computeSignalGrid options.start options.endAt options.signalsPerMint))
    { steps := [], written, accepted := 0, skipped := 0, earliest := none, latest := none
      failed := none }

/-- RUST: historical/build.rs:183-209. -/
def buildReport (options : BuildOptions) (run : Building) : Except String BuildReport :=
  match run.failed with
  | some e => .error ("OHLCV error: " ++ e)
  | none =>
      let grid := computeSignalGrid options.start options.endAt options.signalsPerMint
      .ok
        { totalSignals := options.mints.length * grid.length
          acceptedSignals := run.accepted
          skippedSignals := run.skipped
          dateRange := run.earliest.bind fun a => run.latest.map fun b => (a, b)
          uniqueTokens := (firstsBy id [] options.mints).length }

/-- The disk before the first run. RUST: historical/build.rs:319-324. -/
def emptyDisk : LogDisk String := { log := [], staged := [], marked := [] }

/-- A run that crashes after a number of its steps. A new builder has loaded the resume file. -/
def crashedBuild (sources : BuildSources) (options : BuildOptions) (d : LogDisk String) (n : ℕ) :
    LogDisk String :=
  ((buildRun sources options d.marked).steps.take n).foldl LogStep.apply d

/-- A run to its end. -/
def completedBuild (sources : BuildSources) (options : BuildOptions) (d : LogDisk String) :
    LogDisk String :=
  (buildRun sources options d.marked).steps.foldl LogStep.apply d

end SolanaBot.Model
