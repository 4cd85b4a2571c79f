import SolanaBot.Library.Faults
import SolanaBot.Library.OrderedTable
import SolanaBot.Model.HistoricalDataset

/-!
# The provider of candles

`historical/ohlcv.rs`: a window is fetched in pages of `page_seconds`, and the candles of the pages are
merged by the second of their open time. How a page is fetched is a parameter with a state of its own.
The fraction of a second decides which pages are asked for, so that times are in nanoseconds here, with
the range that chrono gives them.
-/

set_option autoImplicit false

namespace SolanaBot.Model

open SolanaBot.Library

/-! ## Times with their range -/

/-- RUST: chrono::DateTime::MIN_UTC, the first of January of the year -262143. -/
def MIN_UTC : Int := -8334601228800 * 10 ^ 9

/-- RUST: chrono::DateTime::MAX_UTC, the end of the year 262142. -/
def MAX_UTC : Int := 8210266876800 * 10 ^ 9 - 1

/-- RUST: chrono::DateTime<Utc>, in nanoseconds. -/
structure DateTimeUtc where
  nanos : Int
  min_le : MIN_UTC ≤ nanos
  le_max : nanos ≤ MAX_UTC
deriving DecidableEq

namespace DateTimeUtc

/-- RUST: chrono::DateTime::timestamp, in whole seconds, rounded down. -/
def timestamp (t : DateTimeUtc) : Int := t.nanos / 10 ^ 9

/-- RUST: chrono::DateTime::timestamp_subsec_nanos. -/
def subsecNanos (t : DateTimeUtc) : Int := t.nanos % 10 ^ 9

/-- The time at a number of nanoseconds. Outside of the range the operators of chrono panic. -/
def ofNanos (nanos : Int) : Except Fault DateTimeUtc :=
  if h : MIN_UTC ≤ nanos ∧ nanos ≤ MAX_UTC then .ok ⟨nanos, h.1, h.2⟩ else .error .overflow

/-- RUST: the operator + of a time and a duration. -/
def add (t : DateTimeUtc) (d : Int) : Except Fault DateTimeUtc := ofNanos (t.nanos + d)

/-- RUST: the operator - of a time and a duration. -/
def sub (t : DateTimeUtc) (d : Int) : Except Fault DateTimeUtc := ofNanos (t.nanos - d)

/-- RUST: Ord::min. -/
def earlier (t u : DateTimeUtc) : DateTimeUtc := if t.nanos ≤ u.nanos then t else u

end DateTimeUtc

/-- A second in nanoseconds. -/
def SECOND : Int := 10 ^ 9

/-- RUST: chrono::Duration::seconds, in nanoseconds. Milliseconds of a duration have 64 bits, and more
seconds panic. -/
def durationSeconds (secs : Int) : Except Fault Int :=
  if -9223372036854775 ≤ secs ∧ secs ≤ 9223372036854775 then .ok (secs * SECOND)
  else .error .overflow

/-! ## Windows -/

/-- RUST: historical/ohlcv.rs:161-174. -/
inductive OhlcvError where
  | missingApiKey
  | http (e : String)
  | rateLimited (retryAfterSecs : UInt64)
  | provider (e : String)
  | invalid (e : String)
  | io (e : String)
deriving DecidableEq

/-- Why a fetch returns no candles. -/
inductive FetchStop where
  | panic (fault : Fault)
  | failed (error : OhlcvError)
deriving DecidableEq

/-- The second of the open time, the key of the merged candles. RUST: historical/ohlcv.rs:314. -/
def OhlcvCandle.second (c : OhlcvCandle) : Int := c.timestamp / 1000

/-- How a page is fetched: the state is what is left between the calls. -/
abbrev PageSource (σ : Type) :=
  DateTimeUtc → DateTimeUtc → σ → Except OhlcvError (List OhlcvCandle) × σ

/-- The local variables of the loop over the pages. RUST: historical/ohlcv.rs:303-306. -/
structure WindowLoop where
  all : OrderedTable OhlcvCandle.second
  pageStart : DateTimeUtc
  pages : ℕ

/-- RUST: historical/ohlcv.rs:308. -/
def pageEnd (pageStart : DateTimeUtc) (pageStep : Int) (to' : DateTimeUtc) :
    Except Fault DateTimeUtc := do
  let next ← pageStart.add pageStep
  let last ← next.sub SECOND
  return last.earlier to'

/-- RUST: historical/ohlcv.rs:307-317. Without fuel the loop is still running. -/
def fetchPages {σ : Type} (fetchPage : PageSource σ) (to' : DateTimeUtc) (pageStep : Int) :
    ℕ → WindowLoop → σ → Option (Except FetchStop WindowLoop × σ)
  | 0, _, _ => none
  | fuel + 1, st, s =>
      if st.pageStart.nanos ≤ to'.nanos then
        match pageEnd st.pageStart pageStep to' with
        | .error fault => some (.error (.panic fault), s)
        | .ok pageEnd =>
            match fetchPage st.pageStart pageEnd s with
            | (.error e, s) => some (.error (.failed e), s)
            | (.ok page, s) =>
                match pageEnd.add SECOND with
                | .error fault => some (.error (.panic fault), s)
                | .ok pageStart =>
                    fetchPages fetchPage to' pageStep fuel
                      { all := page.foldl OrderedTable.insert st.all
                        pageStart
                        pages := st.pages + 1 } s
      else some (.ok st, s)

/-- RUST: historical/ohlcv.rs:290-326. The directory of the cache is created first. -/
def fetchWindow {σ : Type} (fetchPage : PageSource σ) (cacheDir : Except OhlcvError Unit)
    (pageSeconds : Int) (from' to' : DateTimeUtc) (fuel : ℕ) (s : σ) :
    Option (Except FetchStop (List OhlcvCandle) × σ) :=
  if from'.nanos > to'.nanos then
    some (.error (.failed (.invalid "from must be <= to for OHLCV fetch")), s)
  else
    match cacheDir with
    | .error e => some (.error (.failed e), s)
    | .ok _ =>
        match durationSeconds pageSeconds with
        | .error fault => some (.error (.panic fault), s)
        | .ok pageStep =>
            match fetchPages fetchPage to' pageStep fuel
                { all := .empty OhlcvCandle.second, pageStart := from', pages := 0 } s with
            | none => none
            | some (.error stop, s) => some (.error stop, s)
            | some (.ok st, s) => some (.ok st.all.rows, s)

/-! ## The pages of GeckoTerminal -/

/-- RUST: the cast of f64 to i64, towards zero and no further than the bounds. -/
def asI64 (x : ℚ) : Int := max (-2 ^ 63) (min (2 ^ 63 - 1) (x.num.tdiv x.den))

/-- A number of a row as a decimal. RUST: historical/ohlcv.rs:770-774, `Decimal::try_from` is outside. -/
def rowNumber (toDecimal : ℚ → Except String Decimal) (name : String) (x : ℚ) :
    Except OhlcvError Decimal :=
  match toDecimal x with
  | .ok value => .ok value
  | .error e => .error (.invalid ("bad " ++ name ++ ": " ++ e))

/-- RUST: historical/ohlcv.rs:764-796, one turn of the loop over the rows. A row may be skipped. -/
def geckoCandle (toDecimal : ℚ → Except String Decimal) (row : List ℚ) :
    Except OhlcvError (Option OhlcvCandle) :=
  match row with
  | ts :: o :: h :: l :: c :: v :: _ => do
      let ts := asI64 ts
      let o ← rowNumber toDecimal "open" o
      let h ← rowNumber toDecimal "high" h
      let l ← rowNumber toDecimal "low" l
      let c ← rowNumber toDecimal "close" c
      let v ← rowNumber toDecimal "volume" v
      if ¬ (MIN_UTC ≤ ts * SECOND ∧ ts * SECOND ≤ MAX_UTC) then
        .error (.invalid ("bad unix timestamp " ++ toString ts))
      else if o ≤ 0 ∨ h ≤ 0 ∨ l ≤ 0 ∨ c ≤ 0 then return none
      else if h < l then return none
      else
        return some
          { timestamp := seconds ts
            openUsd := o
            highUsd := h
            lowUsd := l
            closeUsd := c
            volumeUsd := some v
            liquidityUsd := none }
  | _ => return none

/-- RUST: historical/ohlcv.rs:760-800. -/
def parseGeckoterminalCandles (toDecimal : ℚ → Except String Decimal) (rows : List (List ℚ)) :
    Except OhlcvError (List OhlcvCandle) := do
  let out ← rows.mapM (geckoCandle toDecimal)
  return out.reduceOption.mergeSort fun a b => a.timestamp ≤ b.timestamp

/-- The candles of a fetch, and whether it warned that it stops at the last page it may ask for.
RUST: historical/ohlcv.rs:455-458. -/
structure GeckoFetch where
  candles : List OhlcvCandle
  reachedMaxPages : Bool

/-- RUST: historical/ohlcv.rs:454-534. `left` pages may still be asked for; the network answers a page
with its rows. -/
def geckoPages (toDecimal : ℚ → Except String Decimal)
    (answer : ℕ → Except OhlcvError (List (List ℚ))) (fromTs toTs : Int) :
    ℕ → ℕ → List OhlcvCandle → Except OhlcvError GeckoFetch
  | 0, _, all => .ok { candles := all, reachedMaxPages := true }
  | left + 1, page, all =>
      match answer page with
      | .error e => .error e
      | .ok rows =>
          match parseGeckoterminalCandles toDecimal rows with
          | .error e => .error e
          | .ok candles =>
              if candles.length = 0 then .ok { candles := all, reachedMaxPages := false }
              else
                let all := all ++ candles.filter fun c => fromTs ≤ c.second ∧ c.second ≤ toTs
                let oldestTs := (candles.map OhlcvCandle.second).min?.getD 0
                if oldestTs > fromTs ∧ candles.length ≥ 100 then
                  geckoPages toDecimal answer fromTs toTs left (page + 1) all
                else .ok { candles := all, reachedMaxPages := false }

/-- RUST: historical/ohlcv.rs:437-543. The pool of the token is found first. -/
def fetchPageGeckoterminal (toDecimal : ℚ → Except String Decimal) (pool : Except OhlcvError String)
    (answer : String → ℕ → Except OhlcvError (List (List ℚ))) (from' to' : DateTimeUtc) :
    Except OhlcvError GeckoFetch :=
  match pool with
  | .error e => .error e
  | .ok poolId => geckoPages toDecimal (answer poolId) from'.timestamp to'.timestamp 50 1 []

end SolanaBot.Model
