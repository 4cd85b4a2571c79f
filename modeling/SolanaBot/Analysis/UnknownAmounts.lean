import SolanaBot.Library.Prefixes
import SolanaBot.Analysis.PortfolioRuns

/-!
# Unknown amounts of a position

A legacy record may lack its remaining quantity, its entry cost or its entry fees. The comments
of `apply_entry` (portfolio/mod.rs:82-117) promise that an entry leaves such a field unknown until
it is repaired. Its body counts the missing amount as zero (`unwrap_or`) and stores the sum, and
makes the position sellable along the way. All other operations keep an unknown field unknown,
except that a reconciliation may establish the quantity. So the fields stay unknown exactly as
long as no entry for the mint is accepted (`missing_stays_iff`).
-/

set_option autoImplicit false

namespace SolanaBot.Analysis

open SolanaBot.Library SolanaBot.Model

/-- The amounts that a record may lack. -/
inductive AmountField where
  | remainingQuantity
  | entryCost
  | entryFees

/-- The record does not hold the amount. -/
def AmountField.Missing (p : Position) : AmountField → Prop
  | .remainingQuantity => p.remainingQuantityAtomic = none
  | .entryCost => p.entryCostUsd = none
  | .entryFees => p.entryFeesUsd = none

namespace AccountingOp

/-- An entry fill for the mint that is not refused. -/
def Adds (mint : String) : AccountingOp → Prop
  | .entry m _ _ _ _ fill _ _ _ => m = mint ∧ fill.outputAmount ≠ 0 ∧ fill.inputValueUsd.isSome
  | _ => False

/-- A reconciliation of the mint. -/
def Reconciles (mint : String) : AccountingOp → Prop
  | .reconcile m _ _ _ => m = mint
  | _ => False

end AccountingOp

/-- The portfolio after operations on a given one. -/
def portfolioFrom (pf : Portfolio) (ops : List AccountingOp) : Portfolio :=
  ops.foldl (fun pf op => (op.apply pf).2) pf

/-- A missing quantity is not trusted. -/
theorem Position.trustedRemaining_of_none {p : Position} (h : p.remainingQuantityAtomic = none) :
    p.trustedRemaining = none := by
  unfold Position.trustedRemaining
  rw [h]
  split
  · rfl
  · split <;> rfl

/-! ## One operation -/

/-- What the operations other than an accepted entry leave in the record of a mint. -/
structure Carried (reconciles : Prop) (p p' : Position) : Prop where
  quantity : ¬ reconciles → p.remainingQuantityAtomic = none → p'.remainingQuantityAtomic = none
  cost : p'.entryCostUsd = p.entryCostUsd
  fees : p'.entryFeesUsd = p.entryFeesUsd

/-- Doing nothing carries every field. -/
theorem Carried.refl (r : Prop) (p : Position) : Carried r p p :=
  ⟨fun _ h => h, rfl, rfl⟩

/-- A missing field stays missing unless it is repaired. -/
theorem Carried.missing {r : Prop} {p p' : Position} (h : Carried r p p') {field : AmountField}
    (hr : field = .remainingQuantity → ¬ r) (hmissing : field.Missing p) : field.Missing p' := by
  cases field with
  | remainingQuantity => exact h.quantity (hr rfl) hmissing
  | entryCost => exact h.cost.trans hmissing
  | entryFees => exact h.fees.trans hmissing

/-- A record put in place of the one that was found is the one found next. -/
theorem position_put_same {pf : Portfolio} {mint : String} {p p' : Position}
    (hp : pf.position mint = some p) (hmint : p'.mint = p.mint) :
    Portfolio.position ⟨pf.positions.put p'⟩ mint = some p' :=
  (AccountingOp.position_of_put rfl (hmint.trans (Portfolio.mint_of_position hp))).2

/-- A merged entry knows all three amounts, whatever the record lacked. -/
theorem not_missing_mergeEntry (field : AmountField) (p : Position) (fill : Fill)
    (price v : Decimal) : ¬ field.Missing (p.mergeEntry fill price v) := by
  intro h
  cases field <;> cases h

/-- An exit carries the fields. -/
theorem carried_afterExit {p : Position} {remaining : UInt64}
    (hr : p.remainingQuantityAtomic = some remaining) (fill : Fill) (newRemaining : UInt64)
    (realized : Decimal) (reason : String) (now : Time) (r : Prop) :
    Carried r p (p.afterExit fill newRemaining realized reason now) := by
  constructor
  · intro _ hnone
    rw [hr] at hnone
    cases hnone
  · unfold Position.afterExit
    dsimp only
    split <;> rfl
  · unfold Position.afterExit
    dsimp only
    split <;> rfl

/-- A reconciliation repairs the remaining quantity only. -/
theorem carried_reconcileWithChain (p : Position) (mint : String) (amount : UInt64)
    (decimals : UInt8) (now : Time) :
    Carried True p (p.reconcileWithChain mint amount decimals now).2 := by
  constructor
  · intro h
    exact absurd trivial h
  · unfold Position.reconcileWithChain
    repeat' split
    all_goals rfl
  · unfold Position.reconcileWithChain
    repeat' split
    all_goals rfl

/-- An accepted entry leaves no amount missing. -/
theorem applyEntry_known {pf : Portfolio} {mint : String} {p : Position}
    (hp : pf.position mint = some p) {baseMint : String} {td bd : UInt8} {pid : String} {fill : Fill}
    {price : Decimal} {sid : String} {cost : CostModel}
    (hok : (pf.applyEntry mint baseMint td bd pid fill price sid cost).1 = .ok ()) :
    ∃ p', (pf.applyEntry mint baseMint td bd pid fill price sid cost).2.position mint = some p' ∧
      ∀ field : AmountField, ¬ field.Missing p' := by
  obtain ⟨-, v, -, hput⟩ := Portfolio.applyEntry_ok hok
  rw [hp] at hput
  refine ⟨p.mergeEntry fill price v, ?_, fun field => not_missing_mergeEntry field p fill price v⟩
  rw [hput]
  exact position_put_same hp rfl

/-- An exit of the portfolio carries the fields of the position. -/
theorem applyExit_carries {pf : Portfolio} {mint : String} {p : Position}
    (hp : pf.position mint = some p) (fill : Fill) (reason : String) (now : Time) :
    ∃ p', (pf.applyExit mint fill reason now).2.position mint = some p' ∧ Carried False p p' := by
  cases h : (pf.applyExit mint fill reason now).1 with
  | error e =>
      rw [Portfolio.applyExit_error h]
      exact ⟨p, hp, Carried.refl _ p⟩
  | ok out =>
      obtain ⟨q, remaining, newRemaining, proceeds, entryCost, hq, hr, -, -, -, -, -, hput⟩ :=
        Portfolio.applyExit_ok h
      cases hp.symm.trans hq
      refine ⟨p.afterExit fill newRemaining out.realizedPnlUsd reason now, ?_,
        carried_afterExit hr fill newRemaining _ reason now _⟩
      rw [hput]
      exact position_put_same hp (Position.afterExit_mint p fill newRemaining _ reason now)

/-- A reconciliation of the portfolio carries them but for the quantity. -/
theorem reconcileWithChain_carries {pf : Portfolio} {mint : String} {p : Position}
    (hp : pf.position mint = some p) (amount : UInt64) (decimals : UInt8) (now : Time) :
    ∃ p', (pf.reconcileWithChain mint amount decimals now).2.position mint = some p' ∧
      Carried True p p' := by
  refine ⟨(p.reconcileWithChain mint amount decimals now).2, ?_,
    carried_reconcileWithChain p mint amount decimals now⟩
  simp only [Portfolio.reconcileWithChain, hp]
  exact position_put_same hp (Position.reconcileWithChain_mint p mint amount decimals now)

/-- A mark of the portfolio carries them. -/
theorem markToMarket_carries {pf : Portfolio} {mint : String} {p : Position}
    (hp : pf.position mint = some p) (price : Decimal) :
    ∃ p', (pf.markToMarket mint price).2.position mint = some p' ∧ Carried False p p' := by
  cases h : (pf.markToMarket mint price).1 with
  | error e =>
      rcases Portfolio.markToMarket_error h with hsame | ⟨q, high, value, hq, hput⟩
      · rw [hsame]
        exact ⟨p, hp, Carried.refl _ p⟩
      · cases hp.symm.trans hq
        refine ⟨{ p with highWaterPriceUsd := high, currentValueUsd := value }, ?_,
          fun _ hnone => hnone, rfl, rfl⟩
        rw [hput]
        exact position_put_same hp rfl
  | ok value =>
      obtain ⟨q, remaining, entryCost, hq, hr, hc, -, hput⟩ := Portfolio.markToMarket_ok h
      cases hp.symm.trans hq
      obtain ⟨p', hput, hmint, hcarried⟩ : ∃ p', (pf.markToMarket mint price).2 =
          ⟨pf.positions.put p'⟩ ∧ p'.mint = p.mint ∧ Carried False p p' :=
        ⟨_, hput, rfl, fun _ hnone => hnone, rfl, rfl⟩
      refine ⟨p', ?_, hcarried⟩
      rw [hput]
      exact position_put_same hp hmint

namespace AccountingOp

/-- **What one operation does to the record of a mint.** An accepted entry for the mint makes
all three amounts known; every other operation carries them. -/
theorem apply_carries (op : AccountingOp) {pf : Portfolio} {mint : String} {p : Position}
    (hp : pf.position mint = some p) :
    ∃ p', (op.apply pf).2.position mint = some p' ∧
      (op.Adds mint → ∀ field : AmountField, ¬ field.Missing p') ∧
      (¬ op.Adds mint → Carried (op.Reconciles mint) p p') := by
  by_cases hmint : op.mint = mint
  swap
  · -- the record of another mint is not touched
    refine ⟨p, ?_, ?_, fun _ => Carried.refl _ p⟩
    · rw [(op.position_apply pf).1 mint (Ne.symm hmint), hp]
    · intro hadds
      cases op with
      | entry m => exact absurd hadds.1 hmint
      | exit => exact hadds.elim
      | reconcile => exact hadds.elim
      | mark => exact hadds.elim
  subst hmint
  cases op with
  | entry m baseMint td bd pid fill price sid cost =>
      have hiff := Portfolio.applyEntry_ok_iff pf m baseMint td bd pid fill price sid cost
      cases h : (pf.applyEntry m baseMint td bd pid fill price sid cost).1 with
      | ok u =>
          obtain ⟨p', hp', hknown⟩ := applyEntry_known hp h
          exact ⟨p', hp', fun _ => hknown, fun hnot => absurd ⟨rfl, hiff.mp h⟩ hnot⟩
      | error e =>
          have hrefused : ¬ (AccountingOp.entry m baseMint td bd pid fill price sid cost).Adds m := by
            intro hadds
            rw [hiff.mpr hadds.2] at h
            cases h
          refine ⟨p, ?_, fun hadds => absurd hadds hrefused, fun _ => Carried.refl _ p⟩
          exact (congrArg (·.position m) (Portfolio.applyEntry_error h)).trans hp
  | exit m fill reason now =>
      obtain ⟨p', hp', hcarried⟩ := applyExit_carries hp fill reason now
      exact ⟨p', hp', fun h => h.elim, fun _ => hcarried⟩
  | reconcile m amount decimals now =>
      obtain ⟨p', hp', hcarried⟩ := reconcileWithChain_carries hp amount decimals now
      refine ⟨p', hp', fun h => h.elim, fun _ => ?_⟩
      simpa [Reconciles, mint] using hcarried
  | mark m price =>
      obtain ⟨p', hp', hcarried⟩ := markToMarket_carries hp price
      exact ⟨p', hp', fun h => h.elim, fun _ => hcarried⟩

end AccountingOp

/-! ## Runs -/

/-- The record of a mint exists and lacks an amount; a record without quantity is not sellable. -/
def LacksAmount (field : AmountField) (mint : String) (pf : Portfolio) : Prop :=
  ∃ p, pf.position mint = some p ∧ field.Missing p ∧
    (field = .remainingQuantity → p.trustedRemaining = none)

/-- The portfolio lacks an amount exactly if its position does. -/
theorem lacksAmount_iff {field : AmountField} {mint : String} {pf : Portfolio} {p : Position}
    (hp : pf.position mint = some p) : LacksAmount field mint pf ↔ field.Missing p := by
  constructor
  · rintro ⟨q, hq, hmissing, -⟩
    cases hp.symm.trans hq
    exact hmissing
  · intro hmissing
    refine ⟨p, hp, hmissing, ?_⟩
    rintro rfl
    exact Position.trustedRemaining_of_none hmissing

/-- **Unknown amounts stay unknown exactly without accepted entries.** In every run of entries,
exits and marks on a position that lacks an amount, and of reconciliations unless the amount is
the quantity, the amount is unknown in every state of the run, and the quantity is never trusted
while it is unknown, if and only if the run has no entry fill for the mint with an output amount
and a value. -/
theorem missing_stays_iff (field : AmountField) (mint : String) (pf : Portfolio) (p : Position)
    (hp : pf.position mint = some p) (hmissing : field.Missing p) (ops : List AccountingOp)
    (hops : field = .remainingQuantity → ∀ op ∈ ops, ¬ op.Reconciles mint) :
    (∀ before, before <+: ops → LacksAmount field mint (portfolioFrom pf before)) ↔
      ∀ op ∈ ops, ¬ op.Adds mint := by
  apply foldl_prefix_iff
  · intro op hop pf hlacks hadds
    obtain ⟨q, hq, hmissing, -⟩ := hlacks
    obtain ⟨q', hq', -, hcarried⟩ := op.apply_carries hq
    rw [lacksAmount_iff hq']
    exact (hcarried hadds).missing (fun hfield => hops hfield op hop) hmissing
  · intro op _ pf hlacks hadds
    obtain ⟨q, hq, -, -⟩ := hlacks
    obtain ⟨q', hq', hknown, -⟩ := op.apply_carries hq
    rw [lacksAmount_iff hq']
    exact hknown hadds field
  · exact (lacksAmount_iff hp).mpr hmissing

/-! ## A legacy record -/

/-- A record from before the accounting fields: an open position of unknown quantity. -/
def legacyPosition : Position :=
  { Position.ofEntry "mint" "base" 6 9 "id" (swapFill "order" 10 1000 50 1) 1 50 "signal"
      someCostModel with
    remainingQuantityAtomic := none
    entryCostUsd := none
    entryFeesUsd := none
    reconciliationStatus := .unverified }

/-- The portfolio that holds it. -/
def legacyPortfolio : Portfolio := Portfolio.empty.load [legacyPosition]

/-- An entry of another 700 units. -/
def laterEntry : AccountingOp :=
  .entry "mint" "base" 6 9 "id" (swapFill "order" 10 700 35 1) 1 "signal" someCostModel

/-- A record whose quantity and cost were repaired, and whose fees are still unknown. -/
def feelessPosition : Position :=
  { legacyPosition with
    remainingQuantityAtomic := some 1000
    entryCostUsd := some 50
    reconciliationStatus := .reconciled }

/-- The portfolio that holds it. -/
def feelessPortfolio : Portfolio := Portfolio.empty.load [feelessPosition]

/-- The position is marked, and a part of it is sold. -/
def feelessOps : List AccountingOp :=
  [.mark "mint" 3, .exit "mint" (swapFill "order" 400 1 30 0) "stop" 0]

/-- The mark and the exit are accepted, and leave the fees as unknown as they were. -/
theorem missing_stays_legacy :
    (∀ before, before <+: feelessOps →
      LacksAmount .entryFees "mint" (portfolioFrom feelessPortfolio before)) ∧
      ((portfolioFrom feelessPortfolio feelessOps).position "mint").map
        (fun p => (p.highWaterPriceUsd, p.remainingQuantityAtomic)) = some (3, some 600) := by
  have hstays := missing_stays_iff .entryFees "mint" feelessPortfolio feelessPosition rfl rfl feelessOps
    (by simp)
  refine ⟨hstays.mpr fun op hop => ?_, by decide +kernel⟩
  simp only [feelessOps, List.mem_cons, List.not_mem_nil, or_false] at hop
  rcases hop with rfl | rfl
  · exact fun hadds => hadds
  · exact fun hadds => hadds

/-- One entry replaces the unknown quantity, cost and fees by its own, and the 700 units it
bought become a trusted balance. -/
theorem legacy_amounts_invented :
    legacyPosition.remainingQuantityAtomic = none ∧ legacyPosition.entryCostUsd = none ∧
      legacyPosition.entryFeesUsd = none ∧ legacyPosition.trustedRemaining = none ∧
      ((portfolioFrom legacyPortfolio [laterEntry]).position "mint").map
        (fun p => (p.remainingQuantityAtomic, p.entryCostUsd, p.entryFeesUsd, p.trustedRemaining)) =
        some (some 700, some 35, some 1, some 700) := by
  refine ⟨rfl, rfl, rfl, rfl, ?_⟩
  decide +kernel

end SolanaBot.Analysis
