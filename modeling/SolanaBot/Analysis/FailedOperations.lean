import SolanaBot.Analysis.UnknownAmounts

/-!
# Failed accounting operations

Entries, exits and reconciliations check everything before they write, so a refused one leaves
every position as it was. A mark writes the high-water mark and the current value of the position
before it looks up the entry cost, and reports afterwards that it cannot mark. The exception is
exactly this one: a position with a quantity and without an entry cost, marked to a price that
moves one of the two fields (`failure_keeps_positions_iff`).
-/

set_option autoImplicit false

namespace SolanaBot.Analysis

open SolanaBot.Library SolanaBot.Model

/-- The message of a failed call. -/
def failure? {α : Type} : Except String α → Option String
  | .error e => some e
  | .ok _ => none

namespace AccountingOp

/-- The error that an operation on a portfolio returns. -/
def error? (pf : Portfolio) : AccountingOp → Option String
  | .entry m baseMint td bd pid fill price sid cost =>
      failure? (pf.applyEntry m baseMint td bd pid fill price sid cost).1
  | .exit m fill reason now => failure? (pf.applyExit m fill reason now).1
  | .reconcile m amount decimals now => failure? (pf.reconcileWithChain m amount decimals now).1
  | .mark m price => failure? (pf.markToMarket m price).1

/-- A mark that moves the high-water mark or the current value of a position that has a quantity
and lacks its entry cost. -/
def MarksUncosted (pf : Portfolio) : AccountingOp → Prop
  | .mark m price => ∃ p remaining, pf.position m = some p ∧
      p.remainingQuantityAtomic = some remaining ∧ p.entryCostUsd = none ∧
      (p.highWaterPriceUsd < price ∨ p.currentValueUsd ≠ price * dec remaining)
  | _ => False

end AccountingOp

/-- The failure of a result is its error. -/
theorem failure?_eq_some {α : Type} {r : Except String α} {e : String} :
    failure? r = some e ↔ r = .error e := by
  cases r with
  | error e' => simp [failure?]
  | ok a => simp [failure?]

/-- What a mark does to a position that has a quantity and lacks its entry cost. -/
theorem markToMarket_uncosted {pf : Portfolio} {m : String} (price : Decimal) {p : Position}
    {remaining : UInt64} (hp : pf.position m = some p)
    (hr : p.remainingQuantityAtomic = some remaining) (hc : p.entryCostUsd = none) :
    (pf.markToMarket m price).1 =
        .error "position missing entry_cost_usd; cannot mark to market" ∧
      (pf.markToMarket m price).2.position m = some { p with
        highWaterPriceUsd := max p.highWaterPriceUsd price
        currentValueUsd := price * dec remaining } := by
  unfold Portfolio.markToMarket
  simp only [hp, hr, hc, true_and]
  exact position_put_same hp rfl

/-- A mark that fails without having found such a position has written nothing. -/
theorem markToMarket_error_same {pf : Portfolio} {m : String} {price : Decimal} {e : String}
    (h : (pf.markToMarket m price).1 = .error e)
    (hfound : ∀ p remaining, pf.position m = some p →
      p.remainingQuantityAtomic = some remaining → p.entryCostUsd = none → False) :
    (pf.markToMarket m price).2 = pf := by
  unfold Portfolio.markToMarket at h ⊢
  cases hp : pf.position m with
  | none => rfl
  | some p =>
      cases hr : p.remainingQuantityAtomic with
      | none => simp only [hr]
      | some remaining =>
          cases hc : p.entryCostUsd with
          | none => exact (hfound p remaining hp hr hc).elim
          | some entryCost => simp [hp, hr, hc] at h

/-- The two fields that such a mark writes are the old ones exactly if the price moves neither. -/
theorem marked_eq_iff {p : Position} {price value : Decimal} :
    ({ p with highWaterPriceUsd := max p.highWaterPriceUsd price, currentValueUsd := value } :
      Position) = p ↔ ¬ (p.highWaterPriceUsd < price ∨ p.currentValueUsd ≠ value) := by
  constructor
  · intro h
    have hhigh : max p.highWaterPriceUsd price = p.highWaterPriceUsd :=
      congrArg Position.highWaterPriceUsd h
    have hvalue : value = p.currentValueUsd := congrArg Position.currentValueUsd h
    rw [max_eq_left_iff] at hhigh
    rintro (hlt | hne)
    · exact absurd hhigh (not_le.mpr hlt)
    · exact hne hvalue.symm
  · intro h
    push Not at h
    obtain ⟨hhigh, hvalue⟩ := h
    rw [max_eq_left hhigh, ← hvalue]

namespace AccountingOp

/-- What is left to see of an operation is its own mint. -/
theorem unchanged_iff (op : AccountingOp) (pf : Portfolio) :
    (∀ m, (op.apply pf).2.position m = pf.position m) ↔
      (op.apply pf).2.position op.mint = pf.position op.mint := by
  constructor
  · intro h
    exact h op.mint
  · intro h m
    by_cases hm : m = op.mint
    · rw [hm, h]
    · exact (op.position_apply pf).1 m hm

/-- **A failed operation changes no position, with one exception.** For every portfolio and every
call: if it returns an error, every position is what it was before, exactly unless it is a mark
that moves the fields of a position with a quantity and without an entry cost. -/
theorem failure_keeps_positions_iff (op : AccountingOp) (pf : Portfolio) :
    (∀ e, op.error? pf = some e → ∀ m, (op.apply pf).2.position m = pf.position m) ↔
      ¬ op.MarksUncosted pf := by
  cases op with
  | entry m baseMint td bd pid fill price sid cost =>
      refine iff_of_true ?_ fun h => h
      intro e he m'
      have herror := Portfolio.applyEntry_error (failure?_eq_some.mp he)
      simp only [apply, herror]
  | exit m fill reason now =>
      refine iff_of_true ?_ fun h => h
      intro e he m'
      have herror := Portfolio.applyExit_error (failure?_eq_some.mp he)
      simp only [apply, herror]
  | reconcile m amount decimals now =>
      refine iff_of_true ?_ fun h => h
      intro e he m'
      have herror := failure?_eq_some.mp he
      apply Portfolio.reconcileWithChain_not_true
      rw [herror]
      intro h
      cases h
  | mark m price =>
      constructor
      · rintro h ⟨p, remaining, hp, hr, hc, hmoves⟩
        obtain ⟨herror, hstored⟩ := markToMarket_uncosted price hp hr hc
        have hsame := h _ (failure?_eq_some.mpr herror) m
        simp only [apply, hstored, hp, Option.some.injEq] at hsame
        exact marked_eq_iff.mp hsame hmoves
      · intro h e he
        have herror := failure?_eq_some.mp he
        rw [unchanged_iff]
        by_cases hfound : ∃ p remaining, pf.position m = some p ∧
            p.remainingQuantityAtomic = some remaining ∧ p.entryCostUsd = none
        · obtain ⟨p, remaining, hp, hr, hc⟩ := hfound
          simp only [apply, mint, (markToMarket_uncosted price hp hr hc).2, hp,
            Option.some.injEq]
          rw [marked_eq_iff]
          intro hmoves
          exact h ⟨p, remaining, hp, hr, hc, hmoves⟩
        · have hsame := markToMarket_error_same herror fun p remaining hp hr hc =>
            hfound ⟨p, remaining, hp, hr, hc⟩
          simp only [apply, hsame]

end AccountingOp

/-- The legacy position after its quantity was established on the chain: its cost is unknown. -/
def uncostedPortfolio : Portfolio :=
  Portfolio.empty.load [{ legacyPosition with
    remainingQuantityAtomic := some 1000
    reconciliationStatus := .adjustedOnChain }]

/-- Marking it to a price of 2 fails and moves its high-water mark and its current value. -/
theorem failed_mark_moves :
    (AccountingOp.mark "mint" 2).error? uncostedPortfolio =
        some "position missing entry_cost_usd; cannot mark to market" ∧
      (uncostedPortfolio.position "mint").map
        (fun p => (p.highWaterPriceUsd, p.currentValueUsd)) = some (1, 1000) ∧
      (((AccountingOp.mark "mint" 2).apply uncostedPortfolio).2.position "mint").map
        (fun p => (p.highWaterPriceUsd, p.currentValueUsd)) = some (2, 2000) := by
  refine ⟨rfl, ?_, ?_⟩
  · decide +kernel
  · decide +kernel

end SolanaBot.Analysis
