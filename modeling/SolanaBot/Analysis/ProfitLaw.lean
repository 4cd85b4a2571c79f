import Mathlib.Tactic.FieldSimp
import Mathlib.Tactic.Linarith
import Mathlib.Tactic.Ring
import SolanaBot.Analysis.PortfolioRuns

/-!
# Profit and fees

Whenever a position has just been marked or just been closed, its realized and its
unrealized profit should add up to the exit proceeds, plus the value of what is left,
minus the entry costs, minus all fees, each fee counted once (`ProfitLaw`).

The accounting counts fees differently: an exit fee is deducted in the realized profit
and again, through `fees_usd`, in the unrealized one; an entry fee is deducted in the
unrealized profit only, so it vanishes at a close. In addition a purchase changes the
cost per unit of the quantity that is already gone, although the cost charged for its
sale stays what it was (`Turnover.repriced`). `profitLaw_iff` says that the law holds
exactly when these effects cancel.
-/

set_option autoImplicit false

namespace SolanaBot.Analysis

open SolanaBot.Model

/-- Money and quantities of one mint, summed over a run. -/
structure Turnover where
  entryCosts : Decimal
  entryFees : Decimal
  proceeds : Decimal
  exitFees : Decimal
  /-- Units ever bought. -/
  bought : Decimal
  /-- Units on the position, as its 64-bit counter has them. -/
  held : ℕ
  /-- The cost that purchases moved onto quantities already gone: the change in the average
  cost of `bought - held` units that no sale accounts for. -/
  repriced : Decimal

namespace Turnover

/-- The turnover of a mint that was never traded. -/
def zero : Turnover := ⟨0, 0, 0, 0, 0, 0, 0⟩

/-- The average entry cost of the units that are gone. -/
def costOfGone (t : Turnover) : Decimal := t.entryCosts * (t.bought - t.held) / t.bought

/-- One movement more. -/
def record (t : Turnover) : Movement → Turnover
  | .bought fill =>
      let t' : Turnover := { t with
        entryCosts := t.entryCosts + fill.inputValueUsd.getD 0
        entryFees := t.entryFees + fill.feesUsd
        bought := t.bought + dec fill.outputAmount
        held := min (t.held + fill.outputAmount.toNat) (2 ^ 64 - 1) }
      { t' with repriced := t.repriced + (t'.costOfGone - t.costOfGone) }
  | .sold fill => { t with
      proceeds := t.proceeds + fill.inputValueUsd.getD 0
      exitFees := t.exitFees + fill.feesUsd
      held := t.held - fill.inputAmount.toNat }
  | .adopted amount =>
      let t' : Turnover := { t with held := if amount = 0 then t.held else amount.toNat }
      { t' with repriced := t.repriced + (t'.costOfGone - t.costOfGone) }
  | .marked _ => t

end Turnover

/-- The turnover of a mint after a run. -/
def turnoverAfter (mint : String) (ops : List AccountingOp) : Turnover :=
  (play Turnover.record .zero mint ops).2

/-- Profit is proceeds plus the value of the rest, minus costs, minus every fee once. -/
def ProfitLaw (p : Position) (t : Turnover) (restValue : Decimal) : Prop :=
  p.realizedPnlUsd + p.unrealizedPnlUsd =
    t.proceeds + restValue - t.entryCosts - (t.entryFees + t.exitFees)

/-- How the accounting fields of a position follow from its turnover. -/
structure Booked (p : Position) (t : Turnover) : Prop where
  remaining : ∃ r, p.remainingQuantityAtomic = some r ∧ t.held = r.toNat
  entryCost : p.entryCostUsd = some t.entryCosts
  quantity : p.quantity = t.bought
  bought_pos : 0 < t.bought
  fees : p.feesUsd = t.entryFees + t.exitFees
  realized : p.realizedPnlUsd = t.proceeds - (t.costOfGone - t.repriced) - t.exitFees

/-- The same for a mint that may have no position yet. -/
def BookedAt : Option Position → Turnover → Prop
  | none, t => t = .zero
  | some p, t => Booked p t

/-- Positions with the same books are booked alike. -/
theorem BookedAt.of_sameBooks {o o' : Option Position} {t : Turnover} (h : SameBooks o o')
    (hbooked : BookedAt o t) : BookedAt o' t := by
  rcases h with rfl | ⟨q, high, value, rfl, rfl⟩
  · exact hbooked
  · exact ⟨hbooked.remaining, hbooked.entryCost, hbooked.quantity, hbooked.bought_pos,
      hbooked.fees, hbooked.realized⟩

/-- An amount that is not zero is positive. -/
theorem dec_pos {n : UInt64} (h : n ≠ 0) : 0 < dec n := by
  have hnat : 0 < n.toNat := by
    by_contra hzero
    exact h (UInt64.toNat_inj.mp (by simpa using hzero))
  exact Nat.cast_pos.mpr hnat

/-- Every movement keeps the books. -/
theorem Moved.booked {o : Option Position} {mv : Movement} {p' : Position} {t : Turnover}
    (h : Moved o mv p') (hbooked : BookedAt o t) : Booked p' (t.record mv) := by
  cases h with
  | opened fill v _ hfill hv hremaining hstate hquantity hcost hfees hrealized =>
      have ht : t = .zero := hbooked
      subst ht
      have hlt := fill.outputAmount.toNat_lt
      have hheld : min (0 + fill.outputAmount.toNat) (2 ^ 64 - 1) = fill.outputAmount.toNat := by
        omega
      refine ⟨⟨_, hremaining, hheld⟩, ?_, ?_, ?_, ?_, ?_⟩
      · simp [hcost, Turnover.record, Turnover.zero, hv]
      · simp [hquantity, Turnover.record, Turnover.zero]
      · simpa [Turnover.record, Turnover.zero] using dec_pos hfill
      · simp [hfees, Turnover.record, Turnover.zero]
      · simp [hrealized, Turnover.record, Turnover.zero, Turnover.costOfGone]
  | added p fill v _ hfill hv hremaining hstate hquantity hcost hfees hrealized =>
      obtain ⟨⟨r, hr, hheld⟩, hcost₀, hquantity₀, hpos, hfees₀, hrealized₀⟩ := hbooked
      rw [hr, Option.getD_some] at hremaining
      refine ⟨⟨_, hremaining, ?_⟩, ?_, ?_, ?_, ?_, ?_⟩
      · rw [toNat_saturatingAdd_eq_min, ← hheld]
        rfl
      · simp [hcost, hcost₀, Turnover.record, hv]
      · simp [hquantity, hquantity₀, Turnover.record]
      · exact add_pos hpos (dec_pos hfill)
      · rw [hfees, hfees₀]
        simp only [Turnover.record]
        ring
      · rw [hrealized, hrealized₀]
        simp only [Turnover.record, Turnover.costOfGone]
        ring
  | sold p fill remaining newRemaining proceeds entryCost _ hr hsub hv hc hremaining hstate
      hunrealized hquantity hcost hfees hrealized =>
      obtain ⟨⟨r, hr', hheld⟩, hcost₀, hquantity₀, hpos, hfees₀, hrealized₀⟩ := hbooked
      rw [hr] at hr'
      cases hr'
      rw [hcost₀] at hc
      cases hc
      have hexact := toNat_checkedSub hsub
      have hheld' : t.held - fill.inputAmount.toNat = newRemaining.toNat := by omega
      refine ⟨⟨_, hremaining, hheld'⟩, hcost.trans hcost₀, hquantity.trans hquantity₀, hpos,
        ?_, ?_⟩
      · rw [hfees, hfees₀]
        simp only [Turnover.record]
        ring
      · have hcast : ((t.held - fill.inputAmount.toNat : ℕ) : ℚ) = t.held - dec fill.inputAmount := by
          rw [Nat.cast_sub (by omega)]
          rfl
        rw [hrealized, hrealized₀, hquantity₀]
        simp only [Turnover.record, Turnover.costOfGone, hv, Option.getD_some, hcast]
        field_simp
        ring
  | adopted p amount _ hopen hremaining hquantity hcost hfees hrealized =>
      obtain ⟨⟨r, hr, hheld⟩, hcost₀, hquantity₀, hpos, hfees₀, hrealized₀⟩ := hbooked
      refine ⟨?_, hcost.trans hcost₀, hquantity.trans hquantity₀, hpos, hfees.trans hfees₀, ?_⟩
      · by_cases hzero : amount = 0
        · subst hzero
          by_cases hr0 : p.remainingQuantityAtomic = some 0
          · simp only [hr0, ne_eq, not_true_eq_false, and_false, if_false] at hremaining
            rw [hr] at hr0
            cases hr0
            exact ⟨0, hremaining.1, by simpa [Turnover.record] using hheld⟩
          · rw [if_pos ⟨rfl, hr0⟩] at hremaining
            exact ⟨r, hremaining.1.trans hr, by simpa [Turnover.record] using hheld⟩
        · rw [if_neg fun h => hzero h.1] at hremaining
          exact ⟨amount, hremaining.1, by simp [Turnover.record, hzero]⟩
      · rw [hrealized, hrealized₀]
        simp only [Turnover.record, Turnover.costOfGone]
        ring
  | marked p price remaining entryCost _ hr hc hunrealized hremaining hstate hquantity hcost hfees
      hrealized =>
      obtain ⟨⟨r, hr', hheld⟩, hcost₀, hquantity₀, hpos, hfees₀, hrealized₀⟩ := hbooked
      exact ⟨⟨r, hremaining.trans hr', hheld⟩, hcost.trans hcost₀, hquantity.trans hquantity₀, hpos,
        hfees.trans hfees₀, hrealized.trans hrealized₀⟩

/-- One operation keeps the books of the recorded mint. -/
theorem playOp_booked {mint : String} {s : Portfolio × Turnover}
    (hbooked : BookedAt (s.1.position mint) s.2) (op : AccountingOp) :
    BookedAt ((playOp Turnover.record mint s op).1.position mint)
      (playOp Turnover.record mint s op).2 := by
  rcases playOp_cases Turnover.record mint s op with
    ⟨-, hbooks, hturnover⟩ | ⟨mv, p', -, -, hmoved, hp', hturnover⟩
  · rw [hturnover]
    exact hbooked.of_sameBooks hbooks
  · rw [hturnover, hp']
    exact hmoved.booked hbooked

/-- The books are right after every run. -/
theorem bookedAt_play (mint : String) (ops : List AccountingOp) :
    BookedAt ((play Turnover.record .zero mint ops).1.position mint)
      (play Turnover.record .zero mint ops).2 := by
  induction ops using List.reverseRecOn with
  | nil => rfl
  | append_singleton ops op ih =>
      rw [play_concat]
      exact playOp_booked ih op

/-! ## Marks and closes -/

/-- The operation marks a position, or closes it by an exit. -/
def AccountingOp.settles (pf : Portfolio) : AccountingOp → Bool
  | .mark m price => (pf.markToMarket m price).1.isOk
  | .exit m fill reason now =>
      match (pf.applyExit m fill reason now).1 with
      | .ok out => out.closed
      | .error _ => false
  | .entry .. | .reconcile .. => false

/-- What is left of the settled position is worth, `r` being its remaining quantity: the marked
value, or nothing after a close. -/
def AccountingOp.restValue (r : UInt64) : AccountingOp → Decimal
  | .mark _ price => price * dec r
  | _ => 0

/-- When the accounting of a mark, or of a close, counts every fee once: the exit fees equal
the cost moved by repricing; the entry fees cancel it. -/
def Turnover.FeesBalance (t : Turnover) : AccountingOp → Prop
  | .mark .. => t.exitFees = t.repriced
  | _ => t.entryFees + t.repriced = 0

/-- The profit law after `ops` and one more operation, if that marks or closes a position. -/
def ProfitLawAfter (ops : List AccountingOp) (op : AccountingOp) : Prop :=
  op.settles (portfolioAfter ops) → ∀ p r,
    (portfolioAfter (ops ++ [op])).position op.mint = some p →
    p.remainingQuantityAtomic = some r →
    ProfitLaw p (turnoverAfter op.mint (ops ++ [op])) (op.restValue r)

/-- A mark deducts all fees, and the realized profit has the exit fees deducted already. -/
theorem Moved.profitLaw_marked {o : Option Position} {p' : Position} {price : Decimal}
    {t : Turnover} {r : UInt64} (h : Moved o (.marked price) p') (hbooked : BookedAt o t)
    (hr : p'.remainingQuantityAtomic = some r) :
    ProfitLaw p' t (price * dec r) ↔ t.exitFees = t.repriced := by
  cases h with
  | marked p price remaining entryCost _ hr₀ hc hunrealized hremaining hstate hquantity hcost
      hfees hrealized =>
      obtain ⟨⟨r', hr', hheld⟩, hcost₀, hquantity₀, hpos, hfees₀, hrealized₀⟩ := hbooked
      rw [hr₀] at hr' hremaining
      cases hr'
      rw [hremaining] at hr
      cases hr
      rw [hcost₀] at hc
      cases hc
      have hheld' : (t.held : ℚ) = dec r := by
        rw [hheld]
        rfl
      have hprofit : p'.realizedPnlUsd + p'.unrealizedPnlUsd =
          t.proceeds + price * dec r - t.entryCosts - (t.entryFees + t.exitFees) +
            (t.repriced - t.exitFees) := by
        rw [hunrealized, hrealized, hrealized₀, hfees₀, hquantity₀, if_neg hpos.ne',
          Turnover.costOfGone, hheld']
        field_simp
        ring
      unfold ProfitLaw
      rw [hprofit]
      constructor
      · intro h
        linarith
      · intro h
        rw [h]
        ring

/-- A close leaves the realized profit, which never had the entry fees deducted. -/
theorem Moved.profitLaw_closed {o : Option Position} {p' : Position} {fill : Fill}
    {t : Turnover} (h : Moved o (.sold fill) p') (hbooked : Booked p' t)
    (hr : p'.remainingQuantityAtomic = some 0) :
    ProfitLaw p' t 0 ↔ t.entryFees + t.repriced = 0 := by
  cases h with
  | sold p _ remaining newRemaining proceeds entryCost _ hr₀ hsub hv hc hremaining hstate
      hunrealized =>
      rw [hremaining] at hr
      cases hr
      obtain ⟨⟨r', hr', hheld⟩, -, -, hpos, -, hrealized⟩ := hbooked
      rw [hremaining] at hr'
      cases hr'
      have hheld' : (t.held : ℚ) = 0 := by
        rw [hheld]
        rfl
      have hprofit : p'.realizedPnlUsd + p'.unrealizedPnlUsd =
          t.proceeds + 0 - t.entryCosts - (t.entryFees + t.exitFees) +
            (t.entryFees + t.repriced) := by
        rw [hunrealized rfl, hrealized, Turnover.costOfGone, hheld']
        field_simp
        ring
      unfold ProfitLaw
      rw [hprofit]
      constructor
      · intro h
        linarith
      · intro h
        rw [h]
        ring

/-- A settling operation moves its position: it marks it, or sells the rest of it. -/
theorem AccountingOp.movement_of_settles {op : AccountingOp} {pf : Portfolio}
    (h : op.settles pf) :
    (∃ m price, op = .mark m price ∧ (op.apply pf).1 = some (.marked price)) ∨
      ∃ m fill reason now p', op = .exit m fill reason now ∧
        (op.apply pf).1 = some (.sold fill) ∧ (op.apply pf).2.position m = some p' ∧
        p'.remainingQuantityAtomic = some 0 := by
  cases op with
  | entry m baseMint td bd pid fill price sid cost => cases h
  | reconcile m amount decimals now => cases h
  | mark m price =>
      refine .inl ⟨m, price, rfl, ?_⟩
      simp only [settles] at h
      cases hmark : (pf.markToMarket m price).1 with
      | ok value => simp only [apply, hmark]
      | error e => simp [hmark, Except.isOk, Except.toBool] at h
  | exit m fill reason now =>
      simp only [settles] at h
      cases hexit : (pf.applyExit m fill reason now).1 with
      | error e => simp [hexit] at h
      | ok out =>
          obtain ⟨p, remaining, newRemaining, proceeds, entryCost, hp, -, -, -, -, -, rfl, hput⟩ :=
            Portfolio.applyExit_ok hexit
          simp only [hexit, decide_eq_true_eq] at h
          subst h
          refine .inr ⟨m, fill, reason, now, p.afterExit fill 0
            (proceeds - entryCost * dec fill.inputAmount / p.quantity - fill.feesUsd) reason now,
            rfl, by simp only [apply, hexit], ?_, rfl⟩
          simp only [apply, hput]
          rw [Portfolio.position_put, Position.afterExit_mint, Portfolio.mint_of_position hp,
            if_pos rfl]

/-- **When profit is conserved.** Whenever an operation has marked or closed a position, the
profit law holds exactly if the fees balance: at a mark, if the exit fees paid so far equal the
repricing; at a close, if entry fees and repricing cancel. -/
theorem profitLaw_iff (ops : List AccountingOp) (op : AccountingOp) :
    ProfitLawAfter ops op ↔ (op.settles (portfolioAfter ops) →
      (turnoverAfter op.mint (ops ++ [op])).FeesBalance op) := by
  have hbefore := bookedAt_play op.mint ops
  have hafter := bookedAt_play op.mint (ops ++ [op])
  have hfst : (play Turnover.record .zero op.mint ops).1 = portfolioAfter ops := play_fst ..
  refine forall_congr' fun hsettles => ?_
  -- The position that the operation leaves, and how it got there.
  obtain ⟨mv, p', hmv, hmoved, hp', hturnover⟩ : ∃ mv p',
      (op.apply (portfolioAfter ops)).1 = some mv ∧
      Moved ((portfolioAfter ops).position op.mint) mv p' ∧
      (portfolioAfter (ops ++ [op])).position op.mint = some p' ∧
      turnoverAfter op.mint (ops ++ [op]) = (turnoverAfter op.mint ops).record mv := by
    rcases playOp_cases Turnover.record op.mint (play Turnover.record .zero op.mint ops) op with
      ⟨hidle, -, -⟩ | ⟨mv, p', -, hmv, hmoved, hp', hturnover⟩
    · rw [hfst] at hidle
      rcases AccountingOp.movement_of_settles hsettles with
        ⟨m, price, -, hmv⟩ | ⟨m, fill, reason, now, p', -, hmv, -⟩
      all_goals simp [hidle rfl] at hmv
    · rw [hfst] at hmv hmoved
      rw [← play_concat, play_fst] at hp'
      rw [← play_concat] at hturnover
      exact ⟨mv, p', hmv, hmoved, hp', hturnover⟩
  rw [hfst] at hbefore
  rw [play_fst, hp'] at hafter
  have hbooked : Booked p' (turnoverAfter op.mint (ops ++ [op])) := hafter
  obtain ⟨r, hr, -⟩ := hbooked.remaining
  have honly : (∀ p r, (portfolioAfter (ops ++ [op])).position op.mint = some p →
      p.remainingQuantityAtomic = some r →
      ProfitLaw p (turnoverAfter op.mint (ops ++ [op])) (op.restValue r)) ↔
        ProfitLaw p' (turnoverAfter op.mint (ops ++ [op])) (op.restValue r) := by
    constructor
    · intro h
      exact h p' r hp' hr
    · intro h q r' hq hr'
      rw [hp'] at hq
      cases hq
      rw [hr] at hr'
      cases hr'
      exact h
  rw [honly]
  rcases AccountingOp.movement_of_settles hsettles with
    ⟨m, price, rfl, hmark⟩ | ⟨m, fill, reason, now, q, rfl, hsold, hq, hr₀⟩
  · rw [hmark] at hmv
    cases hmv
    rw [hturnover]
    exact hmoved.profitLaw_marked hbefore hr
  · rw [hsold] at hmv
    cases hmv
    rw [portfolioAfter_concat] at hp'
    rw [show (AccountingOp.exit m fill reason now).mint = m from rfl, hq] at hp'
    cases hp'
    exact hmoved.profitLaw_closed hbooked hr₀

/-- Buy for 10 USD at a fee of 1 USD, sell everything for 10 USD at a fee of 1 USD. -/
def roundTrip : List AccountingOp × AccountingOp :=
  ([.entry "token" "base" 6 9 "position-1" (swapFill "order-1" 10 100 10 1) 1 "signal"
      someCostModel],
   .exit "token" (swapFill "order-2" 100 10 10 1) "stop_loss" 0)

/-- The round trip costs two fees, and the closed position reports a loss of one. -/
theorem profitLaw_fails : ¬ ∀ ops op, ProfitLawAfter ops op := by
  intro hlaw
  have hpos : ((portfolioAfter (roundTrip.1 ++ [roundTrip.2])).position "token").map
      (fun p => (p.remainingQuantityAtomic, p.realizedPnlUsd, p.unrealizedPnlUsd)) =
        some (some 0, -1, 0) := by
    decide +kernel
  obtain ⟨p, hp, hfields⟩ := Option.map_eq_some_iff.mp hpos
  simp only [Prod.mk.injEq] at hfields
  have hp' := hlaw roundTrip.1 roundTrip.2 (by decide +kernel) p 0 hp hfields.1
  unfold ProfitLaw at hp'
  rw [hfields.2.1, hfields.2.2] at hp'
  revert hp'
  decide +kernel

end SolanaBot.Analysis
