import Mathlib.Data.Nat.Cast.Order.Ring
import SolanaBot.Analysis.PortfolioRuns
import SolanaBot.Model.Strategy

/-!
# Entering a mint again

Positions are keyed by their mint, and a purchase merges into whatever record exists. A
closed record keeps the quantity of all purchases so far, which is positive after every run
(`quantity_pos`), and a purchase adds to it. So no purchase into a closed position gives the
record of a first purchase (`reentry_never_fresh`), and the decision to exit the new cycle can
depend on the old one (`closed_cycle_decides`).
-/

set_option autoImplicit false

namespace SolanaBot.Analysis

open SolanaBot.Model

/-- Two records describe the same cycle of a position: what it holds, what it cost, since when and
on which signal, its high-water mark, and how it was exited. -/
structure SameCycle (p q : Position) : Prop where
  positionId : p.positionId = q.positionId
  quantity : p.quantity = q.quantity
  remaining : p.remainingQuantityAtomic = q.remainingQuantityAtomic
  entryCost : p.entryCostUsd = q.entryCostUsd
  entryPrice : p.entryPriceUsd = q.entryPriceUsd
  entryTime : p.entryTime = q.entryTime
  signalId : p.signalId = q.signalId
  baseEntryPrice : p.baseEntryPriceUsd = q.baseEntryPriceUsd
  highWaterPrice : p.highWaterPriceUsd = q.highWaterPriceUsd
  exitSignature : p.exitSignature = q.exitSignature
  exitFees : p.exitFeesUsd = q.exitFeesUsd
  exitTime : p.exitTime = q.exitTime
  exitReason : p.exitReason = q.exitReason

/-! ## The quantity of a record -/

/-- A movement leaves a positive quantity, if it finds one or is the first purchase. -/
theorem Moved.quantity_pos {old : Option Position} {mv : Movement} {p' : Position}
    (h : Moved old mv p') (hold : ∀ p, old = some p → 0 < p.quantity) : 0 < p'.quantity := by
  have hbought : ∀ {n : UInt64}, n ≠ 0 → 0 < dec n := by
    intro n hn
    unfold dec
    rw [Nat.cast_pos, Nat.pos_iff_ne_zero]
    exact fun hzero => hn (UInt64.toNat_inj.mp hzero)
  cases h with
  | opened fill v _ hfill hv hremaining hstate hquantity =>
      rw [hquantity]
      exact hbought hfill
  | added p fill v _ hfill hv hremaining hstate hquantity =>
      rw [hquantity]
      exact add_pos (hold p rfl) (hbought hfill)
  | sold p fill _ _ _ _ _ _ _ _ _ _ _ _ hquantity =>
      rw [hquantity]
      exact hold p rfl
  | adopted p _ _ _ _ hquantity =>
      rw [hquantity]
      exact hold p rfl
  | marked p _ _ _ _ _ _ _ _ _ hquantity =>
      rw [hquantity]
      exact hold p rfl

/-- Every record of a run has a positive quantity. -/
theorem quantity_pos (ops : List AccountingOp) (mint : String) :
    ∀ p, (portfolioAfter ops).position mint = some p → 0 < p.quantity := by
  induction ops using List.reverseRecOn with
  | nil => exact fun p hp => nomatch hp
  | append_singleton ops op ih =>
      intro p hp
      rw [portfolioAfter_concat] at hp
      obtain ⟨hframe, hown⟩ := op.position_apply (portfolioAfter ops)
      by_cases hmint : mint = op.mint
      · subst hmint
        cases hmove : (op.apply (portfolioAfter ops)).1 with
        | none =>
            rw [hmove] at hown
            rcases hown with hsame | ⟨q, high, value, hq, hq'⟩
            · exact ih p (hsame.trans hp)
            · rw [hp] at hq'
              cases hq'
              exact ih q hq
        | some mv =>
            rw [hmove] at hown
            obtain ⟨p', hp', hmoved⟩ := hown
            rw [hp] at hp'
            cases hp'
            exact hmoved.quantity_pos ih
      · exact ih p ((hframe mint hmint).symm.trans hp)

/-! ## A purchase into a closed position -/

/-- **A purchase into an existing record never starts a fresh cycle**, after whatever run; in
particular not when the record is closed. -/
theorem reentry_never_fresh (ops : List AccountingOp) (mint : String) (p : Position)
    (hposition : (portfolioAfter ops).position mint = some p) (baseMint : String)
    (tokenDecimals baseMintDecimals : UInt8) (positionId : String) (fill : Fill) (price : Decimal)
    (signalId : String) (costModel : CostModel)
    (haccepted : ((portfolioAfter ops).applyEntry mint baseMint tokenDecimals baseMintDecimals
      positionId fill price signalId costModel).1 = .ok ())
    (merged fresh : Position)
    (hmerged : ((portfolioAfter ops).applyEntry mint baseMint tokenDecimals baseMintDecimals
      positionId fill price signalId costModel).2.position mint = some merged)
    (hfresh : (Portfolio.empty.applyEntry mint baseMint tokenDecimals baseMintDecimals positionId fill
      price signalId costModel).2.position mint = some fresh) :
    ¬ SameCycle merged fresh := by
  intro hsame
  obtain ⟨hfill, v, hv, hput⟩ := Portfolio.applyEntry_ok haccepted
  obtain ⟨-, v', hv', hput'⟩ := Portfolio.applyEntry_ok
    ((Portfolio.applyEntry_ok_iff Portfolio.empty mint baseMint tokenDecimals baseMintDecimals
      positionId fill price signalId costModel).mpr ⟨hfill, by rw [hv]; rfl⟩)
  rw [hput, Portfolio.position_put, AccountingOp.entered_mint, if_pos rfl] at hmerged
  rw [hput', Portfolio.position_put, AccountingOp.entered_mint, if_pos rfl] at hfresh
  cases hmerged
  cases hfresh
  -- the merged record has the quantity of the closed one in addition
  have hquantity := hsame.quantity
  rw [hposition] at hquantity
  change p.quantity + dec fill.outputAmount = dec fill.outputAmount at hquantity
  have hpos := quantity_pos ops mint p hposition
  rw [add_eq_right.mp hquantity] at hpos
  exact lt_irrefl _ hpos

/-! ## A cycle that is decided by the one before -/

/-- Buy 100 units for 10 USD, and sell all of them. -/
def closedCycle : List AccountingOp :=
  [.entry "token" "base" 0 0 "position-1" (swapFill "entry-1" 10 100 10 0) (1 / 10) "signal-1"
    someCostModel,
   .exit "token" { swapFill "exit-1" 100 10 10 0 with priceUsd := 1 / 10 } "manual_exit" 0]

/-- The second purchase, two hours later. -/
def secondFill : Fill := { swapFill "entry-2" 10 100 10 0 with confirmedAt := seconds 7200 }

/-- The position after the second purchase into `pf`. -/
def secondCycle (pf : Portfolio) : Option Position :=
  (pf.applyEntry "token" "base" 0 0 "position-2" secondFill (1 / 10) "signal-2"
    someCostModel).2.position "token"

/-- A strategy that holds a position for an hour. -/
def hourStrategy : StrategyConfig :=
  { baseMint := "base", minWalletScore := 50, minWalletSamples := 5, minConsensusWallets := 2
    minSignalScore := 50, minTokenAgeSecs := 60, stopLossPct := 10, takeProfitPct := 20
    trailingStopPct := 10, maxHoldingMinutes := 60 }

/-- A second cycle behind a closed one is not that of a fresh portfolio. -/
theorem reentry_never_fresh_sample :
    ¬ SameCycle ((secondCycle (portfolioAfter closedCycle)).get (by decide +kernel))
      ((secondCycle Portfolio.empty).get (by decide +kernel)) :=
  reentry_never_fresh closedCycle "token"
    (((portfolioAfter closedCycle).position "token").get (by decide +kernel))
    (Option.some_get _).symm "base" 0 0 "position-2" secondFill (1 / 10) "signal-2" someCostModel
    (by decide +kernel) _ _ (Option.some_get _).symm (Option.some_get _).symm

/-- One minute after the second purchase the merged position is to be sold for its age, which is
the age of the closed cycle; a fresh one is to be kept. -/
theorem closed_cycle_decides :
    ((portfolioAfter closedCycle).position "token").map Position.state = some .closed ∧
      (secondCycle (portfolioAfter closedCycle)).bind (fun p =>
        exitReason p (1 / 10) (some 1000) 1000 false (seconds 7260) hourStrategy) =
          some .timeLimit ∧
      (secondCycle Portfolio.empty).bind (fun p =>
        exitReason p (1 / 10) (some 1000) 1000 false (seconds 7260) hourStrategy) = none := by
  decide +kernel

end SolanaBot.Analysis
