import Mathlib.Data.List.Induction
import SolanaBot.Model.Portfolio

/-!
# Runs of accounting operations

A run applies the four accounting operations of the portfolio in any order, to any
mints, successful or not. `Movement` is what a successful operation did to the
position of its mint; a run keeps, for one mint, a record of its movements next to
the portfolio. The record is not read by the operations.

`AccountingOp.position_apply` reduces a run to the life of a single position.
-/

set_option autoImplicit false

namespace SolanaBot.Analysis

open SolanaBot.Model

/-- A call of one of the accounting operations of `Portfolio`. -/
inductive AccountingOp where
  | entry (mint baseMint : String) (tokenDecimals baseMintDecimals : UInt8) (positionId : String)
      (fill : Fill) (price : Decimal) (signalId : String) (costModel : CostModel)
  | exit (mint : String) (fill : Fill) (exitReason : String) (now : Time)
  | reconcile (mint : String) (onChainAmount : UInt64) (decimals : UInt8) (now : Time)
  | mark (mint : String) (price : Decimal)

/-- What a successful operation did to the position of its mint. -/
inductive Movement where
  | bought (fill : Fill)
  | sold (fill : Fill)
  | adopted (amount : UInt64)
  | marked (price : Decimal)

namespace AccountingOp

/-- The mint whose position the operation is about. -/
def mint : AccountingOp → String
  | .entry m .. | .exit m .. | .reconcile m .. | .mark m _ => m

/-- The portfolio after the operation, and its movement if it succeeded. A reconciliation of
a position that is not open adopts nothing (`Ok(false)`). -/
def apply (pf : Portfolio) : AccountingOp → Option Movement × Portfolio
  | .entry m baseMint td bd pid fill price sid cost =>
      let r := pf.applyEntry m baseMint td bd pid fill price sid cost
      (match r.1 with | .ok _ => some (.bought fill) | .error _ => none, r.2)
  | .exit m fill reason now =>
      let r := pf.applyExit m fill reason now
      (match r.1 with | .ok _ => some (.sold fill) | .error _ => none, r.2)
  | .reconcile m amount decimals now =>
      let r := pf.reconcileWithChain m amount decimals now
      (match r.1 with | .ok true => some (.adopted amount) | _ => none, r.2)
  | .mark m price =>
      let r := pf.markToMarket m price
      (match r.1 with | .ok _ => some (.marked price) | .error _ => none, r.2)

end AccountingOp

/-- What a movement makes of the position it is about. Only the accounting fields that the
laws of this development speak of are described. -/
inductive Moved : Option Position → Movement → Position → Prop
  /-- A first entry. -/
  | opened (fill : Fill) (v : Decimal) (p' : Position) (hfill : fill.outputAmount ≠ 0)
      (hv : fill.inputValueUsd = some v)
      (hremaining : p'.remainingQuantityAtomic = some fill.outputAmount)
      (hstate : p'.state = .open) (hquantity : p'.quantity = dec fill.outputAmount)
      (hcost : p'.entryCostUsd = some v) (hfees : p'.feesUsd = fill.feesUsd)
      (hrealized : p'.realizedPnlUsd = 0) : Moved none (.bought fill) p'
  /-- An entry merged into an existing record, open or closed. -/
  | added (p : Position) (fill : Fill) (v : Decimal) (p' : Position)
      (hfill : fill.outputAmount ≠ 0) (hv : fill.inputValueUsd = some v)
      (hremaining : p'.remainingQuantityAtomic =
        some (saturatingAdd (p.remainingQuantityAtomic.getD 0) fill.outputAmount))
      (hstate : p'.state = .open) (hquantity : p'.quantity = p.quantity + dec fill.outputAmount)
      (hcost : p'.entryCostUsd = some (p.entryCostUsd.getD 0 + v))
      (hfees : p'.feesUsd = p.feesUsd + fill.feesUsd)
      (hrealized : p'.realizedPnlUsd = p.realizedPnlUsd) : Moved (some p) (.bought fill) p'
  /-- An exit, partial or full. -/
  | sold (p : Position) (fill : Fill) (remaining newRemaining : UInt64)
      (proceeds entryCost : Decimal) (p' : Position)
      (hr : p.remainingQuantityAtomic = some remaining)
      (hsub : checkedSub remaining fill.inputAmount = some newRemaining)
      (hv : fill.inputValueUsd = some proceeds) (hc : p.entryCostUsd = some entryCost)
      (hremaining : p'.remainingQuantityAtomic = some newRemaining)
      (hstate : p'.state = if newRemaining = 0 then .closed else p.state)
      (hunrealized : newRemaining = 0 → p'.unrealizedPnlUsd = 0)
      (hquantity : p'.quantity = p.quantity) (hcost : p'.entryCostUsd = p.entryCostUsd)
      (hfees : p'.feesUsd = p.feesUsd + fill.feesUsd)
      (hrealized : p'.realizedPnlUsd = p.realizedPnlUsd +
        (proceeds - entryCost * dec fill.inputAmount / p.quantity - fill.feesUsd)) :
      Moved (some p) (.sold fill) p'
  /-- A chain balance taken over. -/
  | adopted (p : Position) (amount : UInt64) (p' : Position) (hopen : p.state = .open)
      (hremaining : if amount = 0 ∧ p.remainingQuantityAtomic ≠ some 0 then
        p'.remainingQuantityAtomic = p.remainingQuantityAtomic ∧ p'.state = .closed
      else p'.remainingQuantityAtomic = some amount ∧ p'.state = .open)
      (hquantity : p'.quantity = p.quantity) (hcost : p'.entryCostUsd = p.entryCostUsd)
      (hfees : p'.feesUsd = p.feesUsd) (hrealized : p'.realizedPnlUsd = p.realizedPnlUsd) :
      Moved (some p) (.adopted amount) p'
  /-- A mark. -/
  | marked (p : Position) (price : Decimal) (remaining : UInt64) (entryCost : Decimal)
      (p' : Position) (hr : p.remainingQuantityAtomic = some remaining)
      (hc : p.entryCostUsd = some entryCost)
      (hunrealized : p'.unrealizedPnlUsd = price * dec remaining -
        entryCost * dec remaining / (if p.quantity = 0 then 1 else p.quantity) - p.feesUsd)
      (hremaining : p'.remainingQuantityAtomic = p.remainingQuantityAtomic)
      (hstate : p'.state = p.state) (hquantity : p'.quantity = p.quantity)
      (hcost : p'.entryCostUsd = p.entryCostUsd) (hfees : p'.feesUsd = p.feesUsd)
      (hrealized : p'.realizedPnlUsd = p.realizedPnlUsd) : Moved (some p) (.marked price) p'

/-- Two records that agree in the fields a movement changes, up to the display fields that a
failed mark writes. -/
def SameBooks (p p' : Option Position) : Prop :=
  p = p' ∨ ∃ q high value, p = some q ∧
    p' = some { q with highWaterPriceUsd := high, currentValueUsd := value }

namespace AccountingOp

/-- An entry moves its position by what was bought. -/
theorem entry_moved {pf : Portfolio} {mint baseMint : String}
    {tokenDecimals baseMintDecimals : UInt8} {positionId : String} {fill : Fill} {price v : Decimal}
    {signalId : String} {costModel : CostModel} (hfill : fill.outputAmount ≠ 0)
    (hv : fill.inputValueUsd = some v) :
    Moved (pf.position mint) (.bought fill) (.entered (pf.position mint) mint baseMint
      tokenDecimals baseMintDecimals positionId fill price v signalId costModel) := by
  cases pf.position mint with
  | none => exact .opened fill v _ hfill hv rfl rfl rfl rfl rfl rfl
  | some p => exact .added p fill v _ hfill hv rfl rfl rfl rfl rfl rfl

/-- An exit moves its position by what was sold. -/
theorem exit_moved {p : Position} {fill : Fill} {remaining newRemaining : UInt64}
    {proceeds entryCost : Decimal} {reason : String} {now : Time}
    (hr : p.remainingQuantityAtomic = some remaining)
    (hsub : checkedSub remaining fill.inputAmount = some newRemaining)
    (hv : fill.inputValueUsd = some proceeds) (hc : p.entryCostUsd = some entryCost) :
    Moved (some p) (.sold fill) (p.afterExit fill newRemaining
      (proceeds - entryCost * dec fill.inputAmount / p.quantity - fill.feesUsd) reason now) := by
  refine .sold p fill remaining newRemaining proceeds entryCost _ hr hsub hv hc ?_ ?_ ?_ ?_ ?_ ?_ ?_
  all_goals
    unfold Position.afterExit
    dsimp only
    by_cases hzero : newRemaining = 0 <;> simp [hzero]

/-- The position entered is of the mint. -/
theorem entered_mint {pf : Portfolio} {mint baseMint : String}
    {tokenDecimals baseMintDecimals : UInt8} {positionId : String} {fill : Fill}
    {price v : Decimal} {signalId : String} {costModel : CostModel} :
    (Position.entered (pf.position mint) mint baseMint tokenDecimals baseMintDecimals positionId
      fill price v signalId costModel).mint = mint := by
  cases h : pf.position mint with
  | none => rfl
  | some p =>
      have hmint : p.mint = mint := Portfolio.mint_of_position h
      exact hmint

/-- A record that is put back is the one of its mint, and the other mints keep theirs. -/
theorem position_of_put {pf pf' : Portfolio} {p : Position} {m : String}
    (hput : pf' = ⟨pf.positions.put p⟩) (hmint : p.mint = m) :
    (∀ m', m' ≠ m → pf'.position m' = pf.position m') ∧ pf'.position m = some p := by
  subst hput hmint
  constructor
  · intro m' hm'
    rw [Portfolio.position_put, if_neg hm']
  · rw [Portfolio.position_put, if_pos rfl]

/-- **What one operation does.** Positions of other mints stay as they are. The position of
its own mint moves if the operation succeeds, and keeps its books if it does not. -/
theorem position_apply (op : AccountingOp) (pf : Portfolio) :
    (∀ m, m ≠ op.mint → (op.apply pf).2.position m = pf.position m) ∧
      match (op.apply pf).1 with
      | none => SameBooks (pf.position op.mint) ((op.apply pf).2.position op.mint)
      | some mv => ∃ p', (op.apply pf).2.position op.mint = some p' ∧
          Moved (pf.position op.mint) mv p' := by
  cases op with
  | entry m baseMint td bd pid fill price sid cost =>
      cases h : (pf.applyEntry m baseMint td bd pid fill price sid cost).1 with
      | error e =>
          simp only [apply, h, mint, Portfolio.applyEntry_error h]
          exact ⟨fun _ _ => trivial, .inl rfl⟩
      | ok u =>
          obtain ⟨hfill, v, hv, hput⟩ := Portfolio.applyEntry_ok h
          obtain ⟨hothers, hself⟩ := position_of_put hput entered_mint
          simp only [apply, h, mint]
          exact ⟨hothers, _, hself, entry_moved hfill hv⟩
  | exit m fill reason now =>
      cases h : (pf.applyExit m fill reason now).1 with
      | error e =>
          simp only [apply, h, mint, Portfolio.applyExit_error h]
          exact ⟨fun _ _ => trivial, .inl rfl⟩
      | ok out =>
          obtain ⟨p, remaining, newRemaining, proceeds, entryCost, hp, hr, hsub, hv, hc, -, rfl,
            hput⟩ := Portfolio.applyExit_ok h
          have hmint := Portfolio.mint_of_position hp
          obtain ⟨hothers, hself⟩ :=
            position_of_put hput ((Position.afterExit_mint p fill newRemaining _ reason now).trans hmint)
          simp only [apply, h, mint]
          exact ⟨hothers, _, hself, hp ▸ exit_moved hr hsub hv hc⟩
  | reconcile m amount decimals now =>
      by_cases h : (pf.reconcileWithChain m amount decimals now).1 = .ok true
      · obtain ⟨p, p', hp, hopen, hmint, hquantity, hcost, hfees, hrealized, hremaining, hput⟩ :=
          Portfolio.reconcileWithChain_true h
        obtain ⟨hothers, hself⟩ := position_of_put hput (hmint.trans (Portfolio.mint_of_position hp))
        simp only [apply, h, mint]
        exact ⟨hothers, p', hself,
          hp ▸ .adopted p amount p' hopen hremaining hquantity hcost hfees hrealized⟩
      · have hsame := Portfolio.reconcileWithChain_not_true h
        have hnone : (apply pf (.reconcile m amount decimals now)).1 = none := by
          unfold apply
          dsimp only
          split
          · exact absurd ‹_› h
          · rfl
        rw [hnone]
        exact ⟨fun m' _ => hsame m', .inl (hsame m).symm⟩
  | mark m price =>
      cases h : (pf.markToMarket m price).1 with
      | error e =>
          simp only [apply, h, mint]
          rcases Portfolio.markToMarket_error h with hsame | ⟨p, high, value, hp, hput⟩
          · rw [hsame]
            exact ⟨fun _ _ => rfl, .inl rfl⟩
          · have hmint := Portfolio.mint_of_position hp
            obtain ⟨hothers, hself⟩ := position_of_put hput hmint
            exact ⟨hothers, .inr ⟨p, high, value, hp, hself⟩⟩
      | ok value =>
          obtain ⟨p, remaining, entryCost, hp, hr, hc, rfl, hput⟩ := Portfolio.markToMarket_ok h
          have hmint := Portfolio.mint_of_position hp
          obtain ⟨hothers, hself⟩ := position_of_put hput hmint
          simp only [apply, h, mint]
          refine ⟨hothers, _, hself, ?_⟩
          rw [hp]
          exact .marked p price remaining entryCost _ hr hc rfl rfl rfl rfl rfl rfl rfl

end AccountingOp

/-! ## Runs -/

/-- The portfolio after a run from the empty portfolio. -/
def portfolioAfter (ops : List AccountingOp) : Portfolio :=
  ops.foldl (fun pf op => (op.apply pf).2) Portfolio.empty

/-- One operation more. -/
theorem portfolioAfter_concat (ops : List AccountingOp) (op : AccountingOp) :
    portfolioAfter (ops ++ [op]) = (op.apply (portfolioAfter ops)).2 := by
  simp [portfolioAfter]

section Record

variable {γ : Type} (record : γ → Movement → γ)

/-- One operation, with the movements of one mint recorded. -/
def playOp (mint : String) (s : Portfolio × γ) (op : AccountingOp) : Portfolio × γ :=
  ((op.apply s.1).2,
    if op.mint = mint then
      match (op.apply s.1).1 with
      | some mv => record s.2 mv
      | none => s.2
    else s.2)

/-- A run from the empty portfolio, with the record of one mint. -/
def play (init : γ) (mint : String) (ops : List AccountingOp) : Portfolio × γ :=
  ops.foldl (playOp record mint) (Portfolio.empty, init)

/-- The record does not influence the portfolio. -/
theorem play_fst (init : γ) (mint : String) (ops : List AccountingOp) :
    (play record init mint ops).1 = portfolioAfter ops := by
  unfold play portfolioAfter
  generalize Portfolio.empty = pf
  induction ops generalizing pf init with
  | nil => rfl
  | cons op ops ih => exact ih _ _

/-- The record of one operation more. -/
theorem play_concat (init : γ) (mint : String) (ops : List AccountingOp) (op : AccountingOp) :
    play record init mint (ops ++ [op]) = playOp record mint (play record init mint ops) op := by
  simp [play]

/-- What one operation does to the position of the recorded mint and to the record. -/
theorem playOp_cases (mint : String) (s : Portfolio × γ) (op : AccountingOp) :
    ((op.mint = mint → (op.apply s.1).1 = none) ∧
        SameBooks (s.1.position mint) ((playOp record mint s op).1.position mint) ∧
        (playOp record mint s op).2 = s.2) ∨
      ∃ mv p', op.mint = mint ∧ (op.apply s.1).1 = some mv ∧
        Moved (s.1.position mint) mv p' ∧
        (playOp record mint s op).1.position mint = some p' ∧
        (playOp record mint s op).2 = record s.2 mv := by
  obtain ⟨hframe, hown⟩ := op.position_apply s.1
  by_cases hm : op.mint = mint
  · subst hm
    unfold playOp
    cases h : (op.apply s.1).1 with
    | none =>
        rw [h] at hown
        exact .inl ⟨fun _ => rfl, hown, by simp⟩
    | some mv =>
        rw [h] at hown
        obtain ⟨p', hp', hmoved⟩ := hown
        exact .inr ⟨mv, p', rfl, rfl, hmoved, hp', by simp⟩
  · refine .inl ⟨fun h => absurd h hm, .inl (hframe mint (Ne.symm hm)).symm, ?_⟩
    simp [playOp, hm]

end Record

/-! ## Sample inputs -/

/-- A cost model whose numbers play no role below. -/
def someCostModel : CostModel :=
  { observedAt := 0
    input :=
      { positionSizeUsd := 10, avgPriorityFeeUsd := 0, avgSwapFeeBps := 1, avgSlippageBps := 1
        avgPriceImpactBps := 1, failedTxRate := 0, avgFailedTxCostUsd := 0
        assumedWinLossRatio := 1, assumedAvgLossPct := 1 }
    source := "fixture"
    isLiveSnapshot := false }

/-- A swap of `inputAmount` for `outputAmount` worth `value` USD that costs `fees`. -/
def swapFill (orderId : String) (inputAmount outputAmount : UInt64) (value fees : Decimal) : Fill :=
  { orderId, signature := "signature", inputAmount, outputAmount, priceUsd := 1, feesUsd := fees
    slippageBps := 0, confirmedAt := 0, latencyMs := 0, feeLamports := 5000
    inputValueUsd := some value, expectedOutputAmount := none }

end SolanaBot.Analysis
