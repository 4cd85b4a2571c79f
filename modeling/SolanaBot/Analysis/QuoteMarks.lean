import Mathlib.Algebra.GroupWithZero.Units.Basic
import SolanaBot.Analysis.ExitDecisions
import SolanaBot.Analysis.MonitorMarkings
import SolanaBot.Analysis.ProfitLaw

/-!
# Marks and the quantities of their quotes

A quote prices the quantity that it was asked for. The exit monitor divides the output of a quote by the
quantity that the position has at the moment, and its cache knows nothing of quantities, so that a quote that
was fetched before a partial exit, a second entry or an adoption of the chain balance prices another quantity.
A mark agrees with its quote exactly if the quantity is still that of the quote (`Marking.agrees_iff`), and
all marks of a run do exactly if this is so at each of them (`monitor_marks_iff`).
-/

set_option autoImplicit false

namespace SolanaBot.Analysis

open SolanaBot.Library SolanaBot.Model

/-! ## One mark -/

/-- The mark is the price that the quote implies at its own quantity. -/
def Marking.Agrees (m : Marking) : Prop :=
  markPriceFromQuote m.quote.outputAmount m.terms.baseDecimals m.terms.basePrice m.quote.inputAmount
    m.terms.tokenDecimals = some m.mark

/-- The quote is for the quantity that the position has, and for something; a base token without a price
makes every quantity equal. -/
def Marking.AtItsQuantity (m : Marking) : Prop :=
  m.quote.outputAmount ≠ 0 ∧ m.quote.inputAmount ≠ 0 ∧
    (m.quote.inputAmount = m.remaining ∨ m.terms.basePrice = 0)

/-- Whether `Agrees` holds can be evaluated. -/
instance (m : Marking) : Decidable m.Agrees := inferInstanceAs (Decidable (_ = _))

/-- Whether `AtItsQuantity` holds can be evaluated. -/
instance (m : Marking) : Decidable m.AtItsQuantity := inferInstanceAs (Decidable (_ ∧ _))

/-- An amount is zero exactly if its decimal is. -/
theorem dec_eq_zero_iff {n : UInt64} : dec n = 0 ↔ n = 0 := by
  constructor
  · intro h
    by_contra hn
    exact (dec_pos hn).ne' h
  · rintro rfl
    rfl

/-- Amounts are equal exactly if their decimals are. -/
theorem dec_eq_dec_iff {a b : UInt64} : dec a = dec b ↔ a = b := by
  unfold dec
  rw [Nat.cast_inj, UInt64.toNat_inj]

/-- Units are counted in a power of ten that depends on the decimals only. -/
theorem units_ok {amount : UInt64} {decimals : UInt8} {u : Decimal}
    (h : units amount decimals = .ok u) :
    ∃ one : Decimal, one ≠ 0 ∧ ∀ amount', units amount' decimals = .ok (dec amount' / one) := by
  unfold units at h ⊢
  cases hpow : checkedPow10 decimals with
  | none =>
      rw [hpow] at h
      cases h
  | some d =>
      refine ⟨dec d, ?_, fun _ => rfl⟩
      unfold checkedPow10 at hpow
      by_cases hfits : 10 ^ decimals.toNat < 2 ^ 64
      · rw [if_pos hfits] at hpow
        cases hpow
        unfold dec
        rw [UInt64.toNat_ofNat_of_lt' hfits]
        exact Nat.cast_ne_zero.mpr (Nat.pow_pos (by omega)).ne'
      · rw [if_neg hfits] at hpow
        cases hpow

/-- How the mark of a quote comes about, with the units of the two tokens. -/
theorem Marking.units (m : Marking) : ∃ baseOne tokenOne : Decimal, baseOne ≠ 0 ∧ tokenOne ≠ 0 ∧
    (∀ a, Model.units a m.terms.baseDecimals = .ok (dec a / baseOne)) ∧
    (∀ a, Model.units a m.terms.tokenDecimals = .ok (dec a / tokenOne)) ∧ m.remaining ≠ 0 ∧
    m.mark = dec m.quote.outputAmount / baseOne * m.terms.basePrice / (dec m.remaining / tokenOne) := by
  have hmarked := m.marked
  unfold markFromQuote at hmarked
  cases hbase : Model.units m.quote.outputAmount m.terms.baseDecimals with
  | error e =>
      rw [hbase] at hmarked
      cases hmarked
  | ok baseUnits =>
      cases htoken : Model.units m.remaining m.terms.tokenDecimals with
      | error e =>
          rw [hbase, htoken] at hmarked
          cases hmarked
      | ok tokenUnits =>
          obtain ⟨baseOne, hbaseOne, hbaseUnits⟩ := units_ok hbase
          obtain ⟨tokenOne, htokenOne, htokenUnits⟩ := units_ok htoken
          rw [hbaseUnits, htokenUnits] at hmarked
          dsimp only at hmarked
          by_cases hzero : dec m.remaining / tokenOne = 0
          · rw [if_pos hzero] at hmarked
            cases hmarked
          · rw [if_neg hzero] at hmarked
            refine ⟨baseOne, tokenOne, hbaseOne, htokenOne, hbaseUnits, htokenUnits, ?_, ?_⟩
            · intro h
              rw [h, show dec 0 = 0 from rfl, zero_div] at hzero
              exact hzero rfl
            · exact (Option.some.inj hmarked).symm

/-- **One mark.** It agrees with its quote exactly if the quote is for the quantity that is marked. -/
theorem Marking.agrees_iff (m : Marking) : m.Agrees ↔ m.AtItsQuantity := by
  obtain ⟨baseOne, tokenOne, hbaseOne, htokenOne, hbase, htoken, hremaining, hmark⟩ := m.units
  unfold Agrees AtItsQuantity markPriceFromQuote
  by_cases houtput : m.quote.outputAmount = 0
  · rw [if_pos (.inr houtput)]
    exact ⟨fun h => (by cases h), fun h => absurd houtput h.1⟩
  · by_cases hinput : m.quote.inputAmount = 0
    · rw [if_pos (.inl hinput)]
      exact ⟨fun h => (by cases h), fun h => absurd hinput h.2.1⟩
    · have hunits : dec m.quote.inputAmount / tokenOne ≠ 0 :=
        div_ne_zero (fun h => hinput (dec_eq_zero_iff.mp h)) htokenOne
      have hvalue : dec m.quote.outputAmount / baseOne ≠ 0 :=
        div_ne_zero (fun h => houtput (dec_eq_zero_iff.mp h)) hbaseOne
      rw [if_neg (not_or.mpr ⟨hinput, houtput⟩), hbase, htoken]
      dsimp only
      rw [if_neg hunits, Option.some.injEq, hmark]
      have hprices : dec m.quote.outputAmount / baseOne * m.terms.basePrice /
            (dec m.quote.inputAmount / tokenOne) =
          dec m.quote.outputAmount / baseOne * m.terms.basePrice / (dec m.remaining / tokenOne) ↔
          m.quote.inputAmount = m.remaining ∨ m.terms.basePrice = 0 := by
        by_cases hprice : m.terms.basePrice = 0
        · simp [hprice]
        · rw [div_eq_mul_inv _ (dec m.quote.inputAmount / tokenOne),
            div_eq_mul_inv _ (dec m.remaining / tokenOne), mul_right_inj' (mul_ne_zero hvalue hprice),
            inv_inj, div_left_inj' htokenOne, dec_eq_dec_iff]
          simp [hprice]
      rw [hprices]
      exact ⟨fun h => ⟨houtput, hinput, h⟩, fun h => h.2.2⟩

/-! ## Runs -/

/-- **The marks of a run.** However ticks of the exit monitor and other tasks follow each other, a mark
agrees with its quote exactly if the position has the quantity of the quote when it is marked, so that all
marks of a run agree exactly if this is so at each of them. A quote that is not fetched for its mark was
fetched for an earlier mark of the same mint. -/
theorem monitor_marks_iff (deps : Deps) (run : MonitorRun) :
    (∀ t k m, run.marking deps t k = some m → (m.Agrees ↔ m.AtItsQuantity)) ∧
      ((∀ t k m, run.marking deps t k = some m → m.Agrees) ↔
        ∀ t k m, run.marking deps t k = some m → m.AtItsQuantity) ∧
      ∀ t k m, run.marking deps t k = some m → m.fetched = false →
        ∃ c, run.FetchedBefore deps t k c ∧ c.mint = m.mint ∧ c.quote = m.quote := by
  refine ⟨fun t k m _ => m.agrees_iff, ?_, fun t k m => MonitorRun.cached_fetchedBefore⟩
  constructor
  · intro h t k m hmarking
    exact m.agrees_iff.mp (h t k m hmarking)
  · intro h t k m hmarking
    exact m.agrees_iff.mpr (h t k m hmarking)

/-- The sample configuration with a cache for a minute. -/
def cachingDeps : Deps :=
  { sampleDeps false with config := { sampleConfig with
      runtime := { sampleConfig.runtime with quoteCacheTtlSecs := 60 } } }

/-- Two ticks; in between the chain balance of the sample position is found to be 50 of its 100 units. -/
def halvedRun : MonitorRun :=
  { env := fun i => (quotedEnv 10 1, if i < 14 then id else fun db =>
      db.savePosition (samplePosition.reconcileWithChain "token" 50 0 0).2)
    index := 0
    db := sampleDb
    ticks := 2 }

/-- The quote of the first tick, 10 base units for 100 tokens, marks 50 tokens at twice its price. -/
theorem cached_quote_doubles_mark :
    ¬ ∀ t k m, halvedRun.marking cachingDeps t k = some m → m.Agrees := by
  intro h
  have hmark : (halvedRun.marking cachingDeps 1 0).map (fun m => decide m.Agrees) = some false := by
    decide +kernel
  obtain ⟨m, hmarking, hfalse⟩ := Option.map_eq_some_iff.mp hmark
  exact of_decide_eq_false hfalse (h 1 0 m hmarking)

end SolanaBot.Analysis
