import Mathlib.Data.Finset.Insert
import SolanaBot.Model.Effects

/-!
# The candidate collector

`collector/mod.rs`: candidates are read from the lines of a file, or handed over as a batch. Both
loops validate a record, skip it if its mint has been seen, and keep the set of the seen mints
between their calls. The JSON parser is a parameter, and so is what reading the file gives.
-/

set_option autoImplicit false

namespace SolanaBot.Model

/-- RUST: collector/mod.rs:37-39. -/
structure CandidateCollector where
  seen : Finset String
deriving DecidableEq

/-- The local variables of the two loops. RUST: collector/mod.rs:63 and 92. -/
structure Collecting extends CandidateCollector where
  candidates : List CandidateInput
deriving DecidableEq

/-- RUST: collector/mod.rs:312-340. Why a candidate is refused; the seen mints are not read. -/
def validateCandidate (c : CandidateInput) (now : Time) (maxDataAgeSecs : Int) : Option String :=
  if c.market.observedAt > now ∨ c.safety.observedAt > now then some "future-dated candidate"
  else
    let marketAge := numSeconds (now - c.market.observedAt)
    let safetyAge := numSeconds (now - c.safety.observedAt)
    if marketAge > maxDataAgeSecs then
      some ("market data too old: " ++ toString marketAge ++ "s > " ++ toString maxDataAgeSecs ++
        "s")
    else if safetyAge > maxDataAgeSecs then
      some ("safety data too old: " ++ toString safetyAge ++ "s > " ++ toString maxDataAgeSecs ++
        "s")
    else if c.tokenDecimals = none ∨ c.baseMintDecimals = none then
      some "missing canonical mint decimals"
    else if c.costs.input.positionSizeUsd ≠ c.positionUsd then
      some "position and economic model disagree"
    else none

/-- RUST: collector/mod.rs:72-77 and 98-103. A valid record is kept if its mint is new. -/
def Collecting.keepNew (st : Collecting) (c : CandidateInput) : Collecting :=
  if c.mint ∈ st.seen then st
  else { seen := insert c.mint st.seen, candidates := st.candidates ++ [c] }

/-- RUST: collector/mod.rs:66-78. A record of the file. The mint of a refused one is seen. -/
def jsonlRecord (now : Time) (maxDataAgeSecs : Int) (st : Collecting) (c : CandidateInput) :
    Collecting :=
  match validateCandidate c now maxDataAgeSecs with
  | some _ => { st with seen := insert c.mint st.seen }
  | none => st.keepNew c

/-- RUST: collector/mod.rs:93-104. A record of the batch. -/
def batchRecord (now : Time) (maxDataAgeSecs : Int) (st : Collecting) (c : CandidateInput) :
    Collecting :=
  match validateCandidate c now maxDataAgeSecs with
  | some _ => st
  | none => st.keepNew c

/-- RUST: str::lines. A line ends with a line feed, or with a carriage return and a line feed. -/
def textLines : List Char → List (List Char)
  | [] => []
  | c :: cs =>
      if c = '\n' then [] :: textLines cs
      else if c = '\r' ∧ cs.head? = some '\n' then textLines cs
      else
        match textLines cs with
        | [] => [[c]]
        | l :: ls => (c :: l) :: ls

/-- RUST: collector/mod.rs:64-81, one turn of the loop over the lines. A blank line and a malformed
one are skipped. -/
def jsonlLine (parse : String → Except String CandidateInput) (now : Time) (maxDataAgeSecs : Int)
    (st : Collecting) (line : String) : Collecting :=
  if isBlank line then st
  else
    match parse line with
    | .ok c => jsonlRecord now maxDataAgeSecs st c
    | .error _ => st

namespace CandidateCollector

/-- RUST: collector/mod.rs:50-83. The content of the file, or the error of reading it. -/
def collectFromJsonl (parse : String → Except String CandidateInput)
    (content : Except String String) (now : Time) (maxDataAgeSecs : Int)
    (collector : CandidateCollector) : Collecting :=
  match content with
  | .error _ => { collector with candidates := [] }
  | .ok text =>
      ((textLines text.toList).map String.ofList).foldl (jsonlLine parse now maxDataAgeSecs)
        { collector with candidates := [] }

/-- RUST: collector/mod.rs:86-105. -/
def collectBatch (batch : List CandidateInput) (now : Time) (maxDataAgeSecs : Int)
    (collector : CandidateCollector) : Collecting :=
  batch.foldl (batchRecord now maxDataAgeSecs) { collector with candidates := [] }

end CandidateCollector

end SolanaBot.Model
