import SolanaBot.Model.Domain

/-!
# Backtest data

`backtest/data.rs` and `backtest/split.rs`: the historical record that the
backtester reads, its strict validation, the loader of a JSONL file, the
prefilter, and the assignment of a record to a split. The JSON parser is a
parameter; a refusal carries the values that its text prints.
-/

set_option autoImplicit false

namespace SolanaBot.Model

/-! ## Records -/

/-- RUST: backtest/data.rs:16-36. -/
structure PriceObservation where
  timestamp : Time
  priceUsd : Decimal
  liquidityUsd : Decimal
  openUsd : Option Decimal
  highUsd : Option Decimal
  lowUsd : Option Decimal
  closeUsd : Option Decimal
  volume : Option Decimal
deriving DecidableEq

namespace PriceObservation

/-- RUST: backtest/data.rs:40-42. -/
def effectiveOpen (o : PriceObservation) : Decimal := o.openUsd.getD o.priceUsd

/-- RUST: backtest/data.rs:45-47. -/
def effectiveHigh (o : PriceObservation) : Decimal := o.highUsd.getD o.priceUsd

/-- RUST: backtest/data.rs:50-52. -/
def effectiveLow (o : PriceObservation) : Decimal := o.lowUsd.getD o.priceUsd

/-- RUST: backtest/data.rs:55-57. -/
def effectiveClose (o : PriceObservation) : Decimal := o.closeUsd.getD o.priceUsd

end PriceObservation

/-- RUST: backtest/data.rs:66-96. -/
structure HistoricalSignal where
  signalTimestamp : Time
  mint : String
  market : MarketSnapshot
  safety : TokenSafety
  wallets : List WalletStats
  costs : CostModel
  positionUsd : Decimal
  expectedGrossReturnPct : Decimal
  tokenDecimals : UInt8
  baseMintDecimals : UInt8
  priceHistory : List PriceObservation
deriving DecidableEq

/-! ## Validation -/

/-- Why a line of the input is malformed. RUST: backtest/data.rs:129-145 and 177-338. -/
inductive RecordDefect where
  | json (e : String)
  | duplicate
  | emptyHistory
  | invalidMint (mint : String)
  | unsorted
  | precedesSignal (observed signal : Time)
  | nonPositive (field : String) (observed : Time) (value : Decimal)
  | negativeLiquidity (observed : Time) (value : Decimal)
  | highBelowLow (observed : Time) (high low : Decimal)
  | positionNotPositive
  | expectedReturnNegative
  | implausibleDecimals (field : String) (value : UInt8)
  | lookAhead (field : String) (observed signal : Time)
  | marketPriceNotPositive
  | marketLiquidityNegative
  | tokenAgeNegative
  | noWallets
  | walletLookAhead (index : ℕ) (updated signal : Time)
  | walletAfterMarket (index : ℕ) (updated observed : Time)
  | invalidPubkey (index : ℕ) (wallet : String)
deriving DecidableEq

/-- How the source prints a time, an amount and a quoted string. -/
structure Printer where
  time : Time → String
  decimal : Decimal → String
  quoted : String → String

/-- RUST: the formats of backtest/data.rs:129-145 and 177-338, behind "line {line}: ". -/
def RecordDefect.toText (p : Printer) : RecordDefect → String
  | .json e => e
  | .duplicate => "duplicate signal (same mint + signal_timestamp)"
  | .emptyHistory => "price_history is empty; cannot determine trade outcome"
  | .invalidMint mint =>
      "invalid mint address " ++ p.quoted mint ++ " (expected 32-44 base58 chars)"
  | .unsorted => "price_history is not chronologically sorted"
  | .precedesSignal observed signal =>
      "price observation " ++ p.time observed ++ " precedes signal timestamp " ++ p.time signal
  | .nonPositive field observed value =>
      "price observation " ++ p.time observed ++ " has non-positive " ++ field ++ " " ++
        p.decimal value
  | .negativeLiquidity observed value =>
      "price observation " ++ p.time observed ++ " has negative liquidity_usd " ++
        p.decimal value
  | .highBelowLow observed high low =>
      "price observation " ++ p.time observed ++ " has high (" ++ p.decimal high ++
        ") < low (" ++ p.decimal low ++ ")"
  | .positionNotPositive => "position_usd must be positive"
  | .expectedReturnNegative => "expected_gross_return_pct must be non-negative"
  | .implausibleDecimals field value =>
      field ++ " (" ++ toString value.toNat ++ ") implausibly large (max 18)"
  | .lookAhead field observed signal =>
      field ++ " (" ++ p.time observed ++ ") is AFTER signal_timestamp (" ++ p.time signal ++
        ") — look-ahead bias"
  | .marketPriceNotPositive => "market.price_usd must be positive"
  | .marketLiquidityNegative => "market.liquidity_usd must be non-negative"
  | .tokenAgeNegative => "safety.token_age_secs must be non-negative"
  | .noWallets => "no wallets in signal"
  | .walletLookAhead index updated signal =>
      "wallet[" ++ toString index ++ "].updated_at (" ++ p.time updated ++
        ") is AFTER signal_timestamp (" ++ p.time signal ++ ") — look-ahead bias"
  | .walletAfterMarket index updated observed =>
      "wallet[" ++ toString index ++ "].updated_at (" ++ p.time updated ++
        ") is AFTER market.observed_at (" ++ p.time observed ++
        ") — wallet data was not yet available when the market was observed"
  | .invalidPubkey index wallet =>
      "wallet[" ++ toString index ++ "].wallet (" ++ p.quoted wallet ++
        ") is not a valid Solana pubkey"

/-- A rejection reason of the loader: the line and what is wrong with it. -/
structure MalformedRecord where
  line : ℕ
  defect : RecordDefect
deriving DecidableEq

/-- RUST: the texts that backtest/data.rs:129-145 pushes. -/
def MalformedRecord.toText (p : Printer) (m : MalformedRecord) : String :=
  match m.defect with
  | .json e => "JSON parse error at line " ++ toString m.line ++ ": " ++ e
  | d => "line " ++ toString m.line ++ ": " ++ d.toText p

/-- RUST: backtest/data.rs:165-172. -/
def isValidSolanaMint (s : String) : Bool :=
  32 ≤ s.utf8ByteSize && s.utf8ByteSize ≤ 44 &&
    s.toList.all fun c => c.isAlphanum && c != '0' && c != 'O' && c != 'I' && c != 'l'

/-- RUST: backtest/data.rs:341-343. -/
def isValidSolanaPubkey (s : String) : Bool := isValidSolanaMint s

/-- RUST: backtest/data.rs:189-195, over the windows of two observations. -/
def chronological : List PriceObservation → Bool
  | a :: b :: rest => decide (a.timestamp ≤ b.timestamp) && chronological (b :: rest)
  | _ => true

/-- RUST: backtest/data.rs:216-247, one of the four explicit prices of a candle. -/
def positiveWhenGiven (field : String) (observed : Time) (value : Option Decimal) :
    Except RecordDefect Unit :=
  match value with
  | none => .ok ()
  | some v => rejectIf (v ≤ 0) (.nonPositive field observed v)

/-- RUST: backtest/data.rs:196-257, one turn of the loop over the price history. -/
def validateObservation (signalTimestamp : Time) (obs : PriceObservation) :
    Except RecordDefect Unit := do
  rejectIf (obs.timestamp < signalTimestamp) (.precedesSignal obs.timestamp signalTimestamp)
  rejectIf (obs.priceUsd ≤ 0) (.nonPositive "price_usd" obs.timestamp obs.priceUsd)
  rejectIf (obs.liquidityUsd < 0) (.negativeLiquidity obs.timestamp obs.liquidityUsd)
  positiveWhenGiven "open_usd" obs.timestamp obs.openUsd
  positiveWhenGiven "high_usd" obs.timestamp obs.highUsd
  positiveWhenGiven "low_usd" obs.timestamp obs.lowUsd
  positiveWhenGiven "close_usd" obs.timestamp obs.closeUsd
  rejectIf (obs.effectiveHigh < obs.effectiveLow)
    (.highBelowLow obs.timestamp obs.effectiveHigh obs.effectiveLow)

/-- RUST: backtest/data.rs:317-336, one turn of the loop over the wallets. -/
def validateWallet (signal : HistoricalSignal) (wallet : WalletStats × ℕ) :
    Except RecordDefect Unit := do
  rejectIf (wallet.1.updatedAt > signal.signalTimestamp)
    (.walletLookAhead wallet.2 wallet.1.updatedAt signal.signalTimestamp)
  rejectIf (wallet.1.updatedAt > signal.market.observedAt)
    (.walletAfterMarket wallet.2 wallet.1.updatedAt signal.market.observedAt)
  rejectIf (isValidSolanaPubkey wallet.1.wallet = false)
    (.invalidPubkey wallet.2 wallet.1.wallet)

/-- RUST: backtest/data.rs:177-338, without the line number. -/
def validateSignal (signal : HistoricalSignal) : Except RecordDefect Unit := do
  rejectIf (signal.priceHistory = []) .emptyHistory
  rejectIf (isValidSolanaMint signal.mint = false) (.invalidMint signal.mint)
  rejectIf (chronological signal.priceHistory = false) .unsorted
  signal.priceHistory.forM (validateObservation signal.signalTimestamp)
  rejectIf (signal.positionUsd ≤ 0) .positionNotPositive
  rejectIf (signal.expectedGrossReturnPct < 0) .expectedReturnNegative
  rejectIf (signal.tokenDecimals > 18) (.implausibleDecimals "token_decimals" signal.tokenDecimals)
  rejectIf (signal.baseMintDecimals > 18)
    (.implausibleDecimals "base_mint_decimals" signal.baseMintDecimals)
  rejectIf (signal.market.observedAt > signal.signalTimestamp)
    (.lookAhead "market.observed_at" signal.market.observedAt signal.signalTimestamp)
  rejectIf (signal.market.priceUsd ≤ 0) .marketPriceNotPositive
  rejectIf (signal.market.liquidityUsd < 0) .marketLiquidityNegative
  rejectIf (signal.safety.observedAt > signal.signalTimestamp)
    (.lookAhead "safety.observed_at" signal.safety.observedAt signal.signalTimestamp)
  rejectIf (signal.safety.tokenAgeSecs < 0) .tokenAgeNegative
  rejectIf (signal.costs.observedAt > signal.signalTimestamp)
    (.lookAhead "costs.observed_at" signal.costs.observedAt signal.signalTimestamp)
  rejectIf (signal.wallets = []) .noWallets
  signal.wallets.zipIdx.forM (validateWallet signal)

/-! ## The loader -/

/-- RUST: str::lines. A carriage return at the end of a line falls to the `trim` behind it. -/
def linesOf : List Char → List (List Char)
  | [] => []
  | c :: cs =>
      if c = '\n' then [] :: linesOf cs
      else
        match linesOf cs with
        | [] => [[c]]
        | l :: ls => (c :: l) :: ls

/-- RUST: str::trim. -/
def trimChars (cs : List Char) : List Char :=
  ((cs.dropWhile charIsWhitespace).reverse.dropWhile charIsWhitespace).reverse

/-- RUST: backtest/data.rs:117-119. A line that is neither empty nor a comment. -/
def isDataLine (line : List Char) : Bool :=
  match trimChars line with
  | [] => false
  | c :: _ => c != '#'

/-- RUST: backtest/data.rs:97-103. -/
structure LoadResult where
  signals : List HistoricalSignal
  rejectedCount : ℕ
  rejectionReasons : List MalformedRecord

/-- The local variables of the loader. RUST: backtest/data.rs:112-115. -/
structure Loading extends LoadResult where
  seenSignalKeys : List (String × Time)

/-- A line that is refused. RUST: backtest/data.rs:129-134 and 138-146. -/
def Loading.refuse (st : Loading) (line : ℕ) (defect : RecordDefect) : Loading :=
  { st with
    rejectedCount := st.rejectedCount + 1
    rejectionReasons := st.rejectionReasons ++ [{ line, defect }] }

/-- RUST: backtest/data.rs:116-148, one turn of the loop over the lines. -/
def loadLine (parse : String → Except String HistoricalSignal) (st : Loading)
    (line : List Char × ℕ) : Loading :=
  if isDataLine line.1 then
    match parse (String.ofList (trimChars line.1)) with
    | .error e => st.refuse (line.2 + 1) (.json e)
    | .ok signal =>
        match validateSignal signal with
        | .error defect => st.refuse (line.2 + 1) defect
        | .ok () =>
            let key := (signal.mint, signal.signalTimestamp)
            if key ∈ st.seenSignalKeys then st.refuse (line.2 + 1) .duplicate
            else
              { st with
                signals := st.signals ++ [signal]
                seenSignalKeys := key :: st.seenSignalKeys }
  else st

/-- RUST: backtest/data.rs:109-158. The content of the file, or the error of reading it. -/
def loadHistoricalSignals (parse : String → Except String HistoricalSignal)
    (content : Except String String) : Except String LoadResult := do
  let text ← content
  let loaded := (linesOf text.toList).zipIdx.foldl (loadLine parse)
    { signals := [], rejectedCount := 0, rejectionReasons := [], seenSignalKeys := [] }
  return { loaded.toLoadResult with
           signals := loaded.signals.mergeSort fun a b => a.signalTimestamp ≤ b.signalTimestamp }

/-! ## The prefilter -/

/-- RUST: backtest/data.rs:347-351. The timestamp is kept as a time. -/
structure SignalRejection (Reason : Type) where
  reason : Reason
  mint : String
  signalTimestamp : Time

/-- Why the prefilter refuses a record. RUST: backtest/data.rs:366 and 375. -/
inductive StructuralDefect where
  | emptyHistory
  | mintMismatch
deriving DecidableEq

/-- Its text in the report. -/
def StructuralDefect.toText : StructuralDefect → String
  | .emptyHistory => "empty price_history"
  | .mintMismatch => "mint mismatch (market.mint != signal.mint)"

/-- RUST: backtest/data.rs:364-380, what the prefilter finds wrong with one record. -/
def structuralDefect (signal : HistoricalSignal) : Option StructuralDefect :=
  if signal.priceHistory = [] then some .emptyHistory
  else if signal.market.mint ≠ signal.mint then some .mintMismatch
  else none

/-- A rejection of the record. RUST: backtest/data.rs:365-369. -/
def HistoricalSignal.rejection {Reason : Type} (signal : HistoricalSignal) (reason : Reason) :
    SignalRejection Reason :=
  { reason, mint := signal.mint, signalTimestamp := signal.signalTimestamp }

/-- RUST: backtest/data.rs:358-384. The accepted records and the refused ones, in order. -/
def prefilterSignals (signals : List HistoricalSignal) :
    List HistoricalSignal × List (SignalRejection StructuralDefect) :=
  (signals.filter fun s => (structuralDefect s).isNone,
    signals.filterMap fun s => (structuralDefect s).map s.rejection)

/-! ## Splits -/

/-- RUST: backtest/split.rs:6-10. -/
inductive Split where
  | train
  | validation
  | outOfSample
deriving DecidableEq, Repr

/-- RUST: backtest/split.rs:25-34. -/
structure SplitConfig where
  trainEnd : Option Time
  validationStart : Option Time
  validationEnd : Option Time
  oosStart : Option Time

/-- RUST: backtest/split.rs:51-73. Two boundaries in the wrong order. -/
inductive BoundaryError where
  | trainEndAfterValidationStart (trainEnd validationStart : Time)
  | validationStartNotBeforeEnd (validationStart validationEnd : Time)
  | validationEndAfterOosStart (validationEnd oosStart : Time)
deriving DecidableEq

/-- Its text in the report. -/
def BoundaryError.toText (p : Printer) : BoundaryError → String
  | .trainEndAfterValidationStart te vs =>
      "train_end (" ++ p.time te ++ ") must be <= validation_start (" ++ p.time vs ++ ")"
  | .validationStartNotBeforeEnd vs ve =>
      "validation_start (" ++ p.time vs ++ ") must be < validation_end (" ++ p.time ve ++ ")"
  | .validationEndAfterOosStart ve os =>
      "validation_end (" ++ p.time ve ++ ") must be <= oos_start (" ++ p.time os ++ ")"

/-- One ordered pair of boundaries, checked where both are configured. -/
def checkBoundaries (earlier later : Option Time) (wrong : Time → Time → Bool)
    (e : Time → Time → BoundaryError) : Except BoundaryError Unit :=
  match earlier, later with
  | some a, some b => rejectIf (wrong a b) (e a b)
  | _, _ => .ok ()

/-- RUST: backtest/split.rs:50-76. -/
def SplitConfig.validateBoundaries (c : SplitConfig) : Except BoundaryError Unit := do
  checkBoundaries c.trainEnd c.validationStart (fun te vs => te > vs)
    .trainEndAfterValidationStart
  checkBoundaries c.validationStart c.validationEnd (fun vs ve => vs ≥ ve)
    .validationStartNotBeforeEnd
  checkBoundaries c.validationEnd c.oosStart (fun ve os => ve > os)
    .validationEndAfterOosStart

/-- RUST: backtest/split.rs:114-121. A signal between the validation and the OOS period. -/
structure SplitGap where
  timestamp : Time
  validationEnd : Time
  oosStart : Time
deriving DecidableEq

/-- Its text in the report. -/
def SplitGap.toText (p : Printer) (g : SplitGap) : String :=
  "signal at " ++ p.time g.timestamp ++ " falls between validation_end (" ++
    p.time g.validationEnd ++ ") and oos_start (" ++ p.time g.oosStart ++ ")"

/-- RUST: backtest/split.rs:89-128. -/
def classifySplitWithExclusion (ts : Time) (c : SplitConfig) : Split × Option SplitGap :=
  if ∃ oosStart ∈ c.oosStart, ts ≥ oosStart then (.outOfSample, none)
  else if c.oosStart = none ∧ ∃ valEnd ∈ c.validationEnd, ts ≥ valEnd then (.outOfSample, none)
  else if ∃ valStart ∈ c.validationStart, ∃ valEnd ∈ c.validationEnd,
      ts ≥ valStart ∧ ts < valEnd then (.validation, none)
  else
    match c.validationEnd, c.oosStart with
    | some ve, some os =>
        if ts ≥ ve ∧ ts < os then
          (.train, some { timestamp := ts, validationEnd := ve, oosStart := os })
        else (.train, none)
    | _, _ => (.train, none)

end SolanaBot.Model
