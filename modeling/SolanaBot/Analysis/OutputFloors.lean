import SolanaBot.Analysis.BackgroundTasks
import SolanaBot.Analysis.StoreSteps
import SolanaBot.Library.CappedScale
import SolanaBot.Library.Validators
import SolanaBot.Model.Paper

/-!
# The floors of the output amounts

The minimum output of a trade, the outputs of a simulated fill and the realised slippage are
shares of atomic amounts, computed with a saturating product of 64 bits. Each is the exact floor
up to a bound on the product, and smaller beyond it.

1. The source's expressions are capped shares (`toNat_saturatingScale`).
2. Every request of an entry or an exit carries the minimum output (`requested_submitEntry`,
   `requested_submitExit`), and every simulated fill the slipped output (`simulated_execute`).
3. Each of the four is exact exactly below its bound; the slipped output has none.
-/

set_option autoImplicit false

namespace SolanaBot.Analysis

open SolanaBot.Library SolanaBot.Model

/-- A saturating product, divided, is a share with a capped product. -/
theorem toNat_saturatingScale (a n b : UInt64) :
    (saturatingMul a n / b).toNat = cappedScale maxU64 a.toNat n.toNat b.toNat := by
  rw [UInt64.toNat_div, toNat_saturatingMul_eq_min]
  rfl

/-! ## Requests and fills -/

/-- The request carries the limits that the configuration sets for its quote. -/
structure Requested (c : Config) (r : ExecutionRequest) : Prop where
  minimum : r.minOutputAmount = minOutput r.quote c.execution.slippageBps
  impact : r.maxPriceImpactBps = c.execution.maxPriceImpactBps

/-- What is handed to the executor carries the limits. -/
def RequestedOp (c : Config) : Op → Prop
  | .execute r => Requested c r
  | _ => True

/-- The accounting of an exit requests nothing. -/
theorem requested_persistExit (deps : Deps) (fill : Fill) (placed : OrderRecord)
    (stored : Option Position) (mint reason : String) (pf : Portfolio) :
    (persistExit deps fill placed stored mint reason pf).Performs (RequestedOp deps.config) := by
  refine Prog.performs_bind (performs_call trivial) fun now =>
    Prog.performs_bind (performs_call trivial) fun answer => ?_
  split
  · exact Prog.performs_bind (performs_call trivial) fun _ => trivial
  · exact Prog.performs_bind (performs_call trivial) fun _ => trivial

/-- An exit is requested with the minimum output of its quote. -/
theorem requested_submitExit (deps : Deps) (order : OrderRecord) (terms : ExitTerms)
    (remaining : UInt64) (stored : Option Position) (mint reason : String) (pf : Portfolio) :
    (submitExit deps order terms remaining stored mint reason pf).Performs
      (RequestedOp deps.config) := by
  refine Prog.performs_bind (performs_call trivial) fun answer => ?_
  split
  · exact Prog.performs_bind (performs_call trivial) fun _ => trivial
  · split
    · exact Prog.performs_bind (performs_call trivial) fun _ => trivial
    · refine Prog.performs_bind (performs_call trivial) fun _ =>
        Prog.performs_bind (performs_call ⟨rfl, rfl⟩) fun answer => ?_
      split
      · exact requested_persistExit ..
      · exact Prog.performs_bind (performs_call trivial) fun _ => trivial
      · exact Prog.performs_bind (performs_call trivial) fun _ => trivial

/-- Counting a failure requests nothing. -/
theorem requested_countFailure (c : Config) : Prog.PerformsS (RequestedOp c) countFailure := by
  refine Prog.performsS_bind Prog.performsS_get fun s =>
    Prog.performsS_bind (Prog.performsS_modify _) fun _ => ?_
  split
  · exact performsS_orStop (performs_call trivial)
  · exact Prog.performsS_pure _

/-- The accounting of an entry requests nothing. -/
theorem requested_persistEntry (deps : Deps) (ctx : EntryContext) (fill : Fill)
    (placed : OrderRecord) (minOutputAmount : UInt64) :
    Prog.PerformsS (RequestedOp deps.config)
      (persistEntry deps ctx fill placed minOutputAmount) := by
  refine Prog.performsS_bind Prog.performsS_get fun s =>
    Prog.performsS_bind (performsS_look (performs_call trivial)) fun answer => ?_
  split
  · refine Prog.performsS_bind (Prog.performsS_modify _) fun _ => ?_
    split
    · exact requested_countFailure _
    · exact Prog.performsS_pure _
  · exact performsS_orStop (performs_call trivial)

/-- An entry is requested with the minimum output of its quote. -/
theorem requested_submitEntry (deps : Deps) (ctx : EntryContext) (order : OrderRecord)
    (quote : Quote) :
    Prog.PerformsS (RequestedOp deps.config) (submitEntry deps ctx order quote) := by
  refine Prog.performsS_bind (performsS_orStop (performs_call trivial)) fun _ =>
    Prog.performsS_bind (performsS_look (performs_call ⟨rfl, rfl⟩)) fun answer => ?_
  split
  · exact requested_persistEntry _ _ _ _ _
  · exact performsS_orStop (performs_call trivial)
  · exact Prog.performsS_bind (performsS_orStop (performs_call trivial)) fun _ =>
      requested_countFailure _

/-- A simulated fill received the slipped output of a quote whose impact the request allows. -/
theorem simulated_execute {x : PaperExecutor} {r : ExecutionRequest} {now confirmedAt : Time}
    {uuid : String} {fill : Fill} (h : (x.execute r now uuid confirmedAt).1 = .ok fill) :
    r.quote.priceImpactBps ≤ r.maxPriceImpactBps ∧
    fill.expectedOutputAmount = some r.quote.outputAmount ∧
    fill.outputAmount =
      PaperExecutor.slippedOutput
        (PaperExecutor.haircutOutput x.fillHaircutBps r.quote.outputAmount)
        (PaperExecutor.slippageBps r.quote.priceImpactBps) := by
  unfold PaperExecutor.execute at h
  split at h
  · cases h
  · rename_i hcheck
    split at h
    · cases h
    · rename_i x' hinject
      have hhaircut : x'.fillHaircutBps = x.fillHaircutBps := by
        rw [← PaperExecutor.injectFailure_fillHaircutBps x, hinject]
      cases houtput : x'.simulatedOutput r with
      | error e =>
          rw [houtput] at h
          cases h
      | ok output =>
          rw [houtput] at h
          obtain ⟨hamount, hexpected⟩ := PaperExecutor.fillOf_eq_ok h
          refine ⟨PaperExecutor.checkQuote_impact hcheck, hexpected, ?_⟩
          rw [hamount, PaperExecutor.simulatedOutput_eq_ok houtput, hhaircut]

/-! ## The four floors -/

/-- The share of the quoted output that is left after a haircut in basis points. -/
def leftAfter (quoted bps : ℕ) : ℕ := scale quoted (10000 - bps) 10000

/-- The shortfall of a fill against its quote in basis points. -/
def shortfallBps (fill : Fill) : ℕ :=
  match fill.expectedOutputAmount with
  | none => 0
  | some expected =>
      min (scale (expected.toNat - fill.outputAmount.toNat) 10000 expected.toNat) (2 ^ 32 - 1)

/-- The amounts of a trade are the exact floors. -/
structure ExactFloors (slippageBps : UInt16) (fillHaircutBps : UInt32) (quote : Quote)
    (fill : Fill) : Prop where
  minimum : (minOutput quote slippageBps).toNat =
    leftAfter quote.outputAmount.toNat slippageBps.toNat
  haircut : (PaperExecutor.haircutOutput fillHaircutBps quote.outputAmount).toNat =
    leftAfter quote.outputAmount.toNat fillHaircutBps.toNat
  slipped :
    (PaperExecutor.slippedOutput (PaperExecutor.haircutOutput fillHaircutBps quote.outputAmount)
      (PaperExecutor.slippageBps quote.priceImpactBps)).toNat =
    leftAfter (leftAfter quote.outputAmount.toNat fillHaircutBps.toNat)
      (quote.priceImpactBps.toNat / 3 + 5)
  realised : fill.realisedSlippageBps.toNat = shortfallBps fill

/-- The products stay below the multiple of the divisor that follows the greatest number. -/
structure ProductsFit (slippageBps : UInt16) (fillHaircutBps : UInt32) (quote : Quote)
    (fill : Fill) : Prop where
  minimum : quote.outputAmount.toNat * (10000 - slippageBps.toNat) < (maxU64 / 10000 + 1) * 10000
  haircut : quote.outputAmount.toNat * (10000 - fillHaircutBps.toNat) <
    (maxU64 / 10000 + 1) * 10000
  realised : ∀ expected, fill.expectedOutputAmount = some expected →
    fill.outputAmount < expected →
    (expected.toNat - fill.outputAmount.toNat) * 10000 <
      (maxU64 / expected.toNat + 1) * expected.toNat

/-- The minimum output is the capped scaling of the quoted one. -/
theorem toNat_minOutput (quote : Quote) {slippageBps : UInt16} (h : slippageBps.toNat ≤ 10000) :
    (minOutput quote slippageBps).toNat =
      cappedScale maxU64 quote.outputAmount.toNat (10000 - slippageBps.toNat) 10000 := by
  have hle : slippageBps.toUInt64 ≤ 10000 := by
    rw [UInt64.le_iff_toNat_le, UInt16.toNat_toUInt64]
    exact h
  unfold minOutput
  rw [toNat_saturatingScale, UInt64.toNat_sub_of_le _ _ hle, UInt16.toNat_toUInt64]
  rfl

/-- The output after the haircut is the capped scaling of the quoted one. -/
theorem toNat_haircutOutput (fillHaircutBps : UInt32) (quoted : UInt64) :
    (PaperExecutor.haircutOutput fillHaircutBps quoted).toNat =
      cappedScale maxU64 quoted.toNat (10000 - fillHaircutBps.toNat) 10000 := by
  unfold PaperExecutor.haircutOutput
  rw [toNat_saturatingScale]
  congr 1
  split
  · rename_i h
    have hle : fillHaircutBps.toUInt64 ≤ 10000 := by
      rw [UInt64.le_iff_toNat_le, UInt32.toNat_toUInt64]
      exact UInt32.le_iff_toNat_le.mp h
    rw [UInt64.toNat_sub_of_le _ _ hle, UInt32.toNat_toUInt64]
    rfl
  · rename_i h
    have hnat : ¬ fillHaircutBps.toNat ≤ 10000 := fun hle => h (UInt32.le_iff_toNat_le.mpr hle)
    rw [UInt64.toNat_zero]
    omega

/-- The slippage that is simulated, without overflow. -/
theorem toNat_slippageBps (priceImpactBps : UInt32) :
    (PaperExecutor.slippageBps priceImpactBps).toNat = priceImpactBps.toNat / 3 + 5 := by
  have hlt := priceImpactBps.toNat_lt
  unfold PaperExecutor.slippageBps
  rw [UInt32.toNat_add, UInt32.toNat_div]
  simp only [UInt32.reduceToNat]
  omega

/-- The slipped output is an exact floor: what is left after the haircut is too small for its
product to be capped. -/
theorem toNat_slippedOutput (fillHaircutBps : UInt32) (quoted : UInt64) {priceImpactBps : UInt32}
    (h : priceImpactBps.toNat ≤ 10000) :
    (PaperExecutor.slippedOutput (PaperExecutor.haircutOutput fillHaircutBps quoted)
      (PaperExecutor.slippageBps priceImpactBps)).toNat =
    leftAfter (PaperExecutor.haircutOutput fillHaircutBps quoted).toNat
      (priceImpactBps.toNat / 3 + 5) := by
  have hslip : (PaperExecutor.slippageBps priceImpactBps).toUInt64.toNat =
      priceImpactBps.toNat / 3 + 5 := by
    rw [UInt32.toNat_toUInt64, toNat_slippageBps]
  have hle : (PaperExecutor.slippageBps priceImpactBps).toUInt64 ≤ 10000 := by
    rw [UInt64.le_iff_toNat_le, hslip]
    simp only [UInt64.reduceToNat]
    omega
  unfold PaperExecutor.slippedOutput leftAfter
  rw [toNat_saturatingScale, UInt64.toNat_sub_of_le _ _ hle, hslip]
  refine cappedScale_eq_scale (Nat.sub_le _ _) ?_
  rw [toNat_haircutOutput]
  exact cappedScale_le

/-- The realised slippage is the capped share of the shortfall; the cap of 32 bits is never
reached. -/
theorem toNat_realisedSlippageBps {fill : Fill} {expected : UInt64}
    (hexpected : fill.expectedOutputAmount = some expected) (hshort : fill.outputAmount < expected) :
    fill.realisedSlippageBps.toNat =
      cappedScale maxU64 (expected.toNat - fill.outputAmount.toNat) 10000 expected.toNat := by
  have hne : expected ≠ 0 := fun h0 => by simp [h0] at hshort
  have hcond : ¬ (expected = 0 ∨ fill.outputAmount ≥ expected) := by
    rintro (h0 | hge)
    · exact hne h0
    · exact absurd hshort (UInt64.not_lt.mpr hge)
  have hbps : (saturatingMul (expected - fill.outputAmount) 10000 / expected).toNat =
      cappedScale maxU64 (expected.toNat - fill.outputAmount.toNat) 10000 expected.toNat := by
    rw [toNat_saturatingScale, UInt64.toNat_sub_of_le _ _ (UInt64.le_of_lt hshort)]
    rfl
  have hbound : cappedScale maxU64 (expected.toNat - fill.outputAmount.toNat) 10000
      expected.toNat ≤ 10000 := cappedScale_le_of_le (Nat.sub_le _ _)
  unfold Fill.realisedSlippageBps
  simp only [hexpected, if_neg hcond]
  rw [if_pos (by omega), UInt32.toNat_ofNat', hbps]
  omega

/-- The realised slippage is the floor of the shortfall exactly if its product fits. -/
theorem realised_iff (fill : Fill) :
    fill.realisedSlippageBps.toNat = shortfallBps fill ↔
      ∀ expected, fill.expectedOutputAmount = some expected → fill.outputAmount < expected →
        (expected.toNat - fill.outputAmount.toNat) * 10000 <
          (maxU64 / expected.toNat + 1) * expected.toNat := by
  cases hexpected : fill.expectedOutputAmount with
  | none => simp [Fill.realisedSlippageBps, shortfallBps, hexpected]
  | some expected =>
      by_cases hshort : fill.outputAmount < expected
      · have hpos : 0 < expected.toNat := by
          have hlt := UInt64.lt_iff_toNat_lt.mp hshort
          omega
        have hbound : scale (expected.toNat - fill.outputAmount.toNat) 10000 expected.toNat ≤
            10000 := Nat.div_le_of_le_mul (Nat.mul_le_mul_right _ (Nat.sub_le _ _))
        have hspec : shortfallBps fill =
            scale (expected.toNat - fill.outputAmount.toNat) 10000 expected.toNat := by
          unfold shortfallBps
          simp only [hexpected]
          omega
        rw [toNat_realisedSlippageBps hexpected hshort, hspec, cappedScale_eq_scale_iff hpos]
        constructor
        · rintro hfits _ ⟨⟩ -
          exact hfits
        · exact fun hfits => hfits expected rfl hshort
      · have hge : expected.toNat ≤ fill.outputAmount.toNat :=
          UInt64.le_iff_toNat_le.mp (UInt64.not_lt.mp hshort)
        have hspec : shortfallBps fill = 0 := by
          unfold shortfallBps scale
          simp only [hexpected, Nat.sub_eq_zero_of_le hge, Nat.zero_mul, Nat.zero_div, Nat.zero_min]
        have hcode : fill.realisedSlippageBps = 0 := by
          unfold Fill.realisedSlippageBps
          simp only [hexpected]
          exact if_pos (.inr (UInt64.not_lt.mp hshort))
        rw [hspec, hcode]
        exact ⟨fun _ _ h hlt => absurd (Option.some.inj h ▸ hlt) hshort, fun _ => rfl⟩

/-- A valid configuration limits the slippage and the impact to the whole. -/
theorem limits_of_validate {c : Config} (hvalid : c.validate = .ok ()) :
    c.execution.slippageBps.toNat ≤ 10000 ∧ c.execution.maxPriceImpactBps.toNat ≤ 10000 := by
  simp only [Config.validate, check_bind_eq_ok, refuseIf, rejectIf_eq_ok] at hvalid
  obtain ⟨-, -, -, -, -, -, -, -, -, himpact, -, -, -, -, -, -, -, -, -, -, hslippage, -⟩ := hvalid
  have hbps : c.execution.slippageBps ≤ 10000 :=
    UInt16.not_lt.mp fun h => hslippage (.inr (.inr (.inr h)))
  have hmax : c.execution.maxPriceImpactBps ≤ 10000 :=
    UInt32.not_lt.mp fun h => himpact (.inr h)
  exact ⟨UInt16.le_iff_toNat_le.mp hbps, UInt32.le_iff_toNat_le.mp hmax⟩

/-- **Floors.** Under a valid configuration the minimum output, the simulated outputs and the
realised slippage are the exact floors if and only if no product is capped. -/
theorem floors_exact_iff {c : Config} (hvalid : c.validate = .ok ()) (fillHaircutBps : UInt32)
    {quote : Quote} (himpact : quote.priceImpactBps ≤ c.execution.maxPriceImpactBps)
    (fill : Fill) :
    ExactFloors c.execution.slippageBps fillHaircutBps quote fill ↔
      ProductsFit c.execution.slippageBps fillHaircutBps quote fill := by
  obtain ⟨hslippage, hmax⟩ := limits_of_validate hvalid
  have himpact' : quote.priceImpactBps.toNat ≤ 10000 :=
    (UInt32.le_iff_toNat_le.mp himpact).trans hmax
  have hminimum : (minOutput quote c.execution.slippageBps).toNat =
      leftAfter quote.outputAmount.toNat c.execution.slippageBps.toNat ↔
      quote.outputAmount.toNat * (10000 - c.execution.slippageBps.toNat) <
        (maxU64 / 10000 + 1) * 10000 := by
    rw [toNat_minOutput quote hslippage]
    exact cappedScale_eq_scale_iff (by decide)
  have hhaircut : (PaperExecutor.haircutOutput fillHaircutBps quote.outputAmount).toNat =
      leftAfter quote.outputAmount.toNat fillHaircutBps.toNat ↔
      quote.outputAmount.toNat * (10000 - fillHaircutBps.toNat) <
        (maxU64 / 10000 + 1) * 10000 := by
    rw [toNat_haircutOutput]
    exact cappedScale_eq_scale_iff (by decide)
  constructor
  · intro h
    exact ⟨hminimum.mp h.minimum, hhaircut.mp h.haircut, (realised_iff fill).mp h.realised⟩
  · intro h
    refine ⟨hminimum.mpr h.minimum, hhaircut.mpr h.haircut, ?_, (realised_iff fill).mpr h.realised⟩
    rw [toNat_slippedOutput fillHaircutBps quote.outputAmount himpact', hhaircut.mpr h.haircut]

/-- A quote for a billion tokens of nine decimals. -/
def sampleLargeQuote : Quote := sampleQuote "base" "token" 1000000000000000000

/-- The fill of a tenth less. -/
def sampleLargeFill : Fill :=
  { orderId := "o", signature := "s", inputAmount := 1000000000000000000
    outputAmount := 900000000000000000, priceUsd := 1, feesUsd := 0, slippageBps := 0
    confirmedAt := 0, latencyMs := 0, feeLamports := 0, inputValueUsd := none
    expectedOutputAmount := some 1000000000000000000 }

/-- The floors of a large quote are exact if its products fit. -/
theorem floors_exact_iff_sample : sampleConfig.validate = .ok () ∧
    (ExactFloors sampleConfig.execution.slippageBps 50 sampleLargeQuote sampleLargeFill ↔
      ProductsFit sampleConfig.execution.slippageBps 50 sampleLargeQuote sampleLargeFill) :=
  ⟨by decide +kernel, floors_exact_iff (by decide +kernel) 50 (by decide) sampleLargeFill⟩

/-- A capped product lowers the minimum output of the large quote to a fraction of a percent. -/
theorem floors_not_exact :
    ¬ ∀ (c : Config) (fillHaircutBps : UInt32) (quote : Quote) (fill : Fill),
      c.validate = .ok () → quote.priceImpactBps ≤ c.execution.maxPriceImpactBps →
      ExactFloors c.execution.slippageBps fillHaircutBps quote fill := by
  intro h
  have hexact := h sampleConfig 50 sampleLargeQuote sampleLargeFill (by decide +kernel) (by decide)
  have hminimum : (minOutput sampleLargeQuote sampleConfig.execution.slippageBps).toNat =
      1844674407370955 := by decide +kernel
  have hfloor : leftAfter sampleLargeQuote.outputAmount.toNat
      sampleConfig.execution.slippageBps.toNat = 990000000000000000 := by decide +kernel
  have heq := hexact.minimum
  omega

end SolanaBot.Analysis
