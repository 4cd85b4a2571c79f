import Mathlib.Algebra.Group.Prod
import SolanaBot.Analysis.PortfolioRuns

/-!
# The fees of a run

Every fill of a run pays its fee once. A position keeps two sums of these fees: one over all fills of its
mint, and one over its exits (`bookedFees_after`).
-/

set_option autoImplicit false

namespace SolanaBot.Analysis

open SolanaBot.Model

/-- The successful movements of a mint in a run, in their order. -/
def movementsOf (mint : String) (ops : List AccountingOp) : List Movement :=
  (play (fun done mv => done ++ [mv]) [] mint ops).2

/-- The fee that a movement pays. -/
def Movement.fee : Movement → Decimal
  | .bought fill | .sold fill => fill.feesUsd
  | .adopted _ | .marked _ => 0

/-- The fee that a movement pays for leaving the position. -/
def Movement.exitFee : Movement → Decimal
  | .sold fill => fill.feesUsd
  | .bought _ | .adopted _ | .marked _ => 0

/-- The fees of the fills of a mint, each once. -/
def feesOf (mint : String) (ops : List AccountingOp) : Decimal :=
  ((movementsOf mint ops).map Movement.fee).sum

/-- The fees of the exits of a mint, each once. -/
def exitFeesOf (mint : String) (ops : List AccountingOp) : Decimal :=
  ((movementsOf mint ops).map Movement.exitFee).sum

/-- The two sums of fees in a position. -/
def bookedFees : Option Position → Decimal × Decimal
  | none => 0
  | some p => (p.feesUsd, p.exitFeesUsd.getD 0)

/-- What a movement adds to the two sums. -/
def Movement.bookedFees (mv : Movement) : Decimal × Decimal := (mv.fee, mv.exitFee)

/-- A reconciliation books no fee. -/
theorem reconcileWithChain_bookedFees (p : Position) (mint : String) (amount : UInt64)
    (decimals : UInt8) (now : Time) :
    bookedFees (some (p.reconcileWithChain mint amount decimals now).2) = bookedFees (some p) := by
  unfold Position.reconcileWithChain
  repeat' split
  all_goals rfl

namespace AccountingOp

/-- One operation adds the fees of its movement. -/
theorem bookedFees_apply (op : AccountingOp) (pf : Portfolio) :
    bookedFees ((op.apply pf).2.position op.mint) =
      bookedFees (pf.position op.mint) + ((op.apply pf).1.map Movement.bookedFees).getD 0 := by
  cases op with
  | entry m baseMint td bd pid fill price sid cost =>
      cases h : (pf.applyEntry m baseMint td bd pid fill price sid cost).1 with
      | error e =>
          simp only [apply, h, mint, Portfolio.applyEntry_error h]
          exact (add_zero _).symm
      | ok u =>
          obtain ⟨-, v, -, hput⟩ := Portfolio.applyEntry_ok h
          simp only [apply, h, mint, hput]
          rw [Portfolio.position_put, entered_mint, if_pos rfl]
          cases pf.position m with
          | none => simp [bookedFees, Position.entered, Position.ofEntry, Movement.bookedFees,
              Movement.fee, Movement.exitFee]
          | some p => simp [bookedFees, Position.entered, Position.mergeEntry, Movement.bookedFees,
              Movement.fee, Movement.exitFee]
  | exit m fill reason now =>
      cases h : (pf.applyExit m fill reason now).1 with
      | error e =>
          simp only [apply, h, mint, Portfolio.applyExit_error h]
          exact (add_zero _).symm
      | ok out =>
          obtain ⟨p, remaining, newRemaining, -, -, hp, -, -, -, -, -, -, hput⟩ :=
            Portfolio.applyExit_ok h
          simp only [apply, h, mint, hput]
          rw [Portfolio.position_put, Position.afterExit_mint, Portfolio.mint_of_position hp, if_pos rfl,
            hp]
          unfold Position.afterExit
          by_cases hzero : newRemaining = 0 <;>
            simp [hzero, bookedFees, Movement.bookedFees, Movement.fee, Movement.exitFee]
  | reconcile m amount decimals now =>
      have hnothing : ((apply pf (.reconcile m amount decimals now)).1.map
          Movement.bookedFees).getD 0 = 0 := by
        unfold apply
        dsimp only
        split <;> rfl
      rw [hnothing, add_zero]
      simp only [apply, mint, Portfolio.reconcileWithChain]
      cases hp : pf.position m with
      | none => rw [hp]
      | some p =>
          rw [Portfolio.position_put, Position.reconcileWithChain_mint, Portfolio.mint_of_position hp,
            if_pos rfl]
          exact reconcileWithChain_bookedFees p m amount decimals now
  | mark m price =>
      cases h : (pf.markToMarket m price).1 with
      | error e =>
          simp only [apply, h, mint]
          rcases Portfolio.markToMarket_error h with hsame | ⟨p, high, value, hp, hput⟩
          · rw [hsame]
            exact (add_zero _).symm
          · rw [hput, Portfolio.position_put, Portfolio.mint_of_position hp, if_pos rfl, hp]
            exact (add_zero _).symm
      | ok value =>
          obtain ⟨p, remaining, entryCost, hp, -, -, -, hput⟩ := Portfolio.markToMarket_ok h
          simp only [apply, h, mint, hput]
          rw [Portfolio.position_put, Portfolio.mint_of_position hp, if_pos rfl, hp]
          exact (add_zero _).symm

end AccountingOp

/-- **Fees of a run.** A position keeps the fees of all fills of its mint, and those of its exits. -/
theorem bookedFees_after (mint : String) (ops : List AccountingOp) :
    bookedFees ((portfolioAfter ops).position mint) = (feesOf mint ops, exitFeesOf mint ops) := by
  induction ops using List.reverseRecOn with
  | nil => rfl
  | append_singleton ops op ih =>
      have hpf := play_fst (fun done mv => done ++ [mv]) [] mint ops
      by_cases hm : op.mint = mint
      · subst hm
        rw [portfolioAfter_concat, op.bookedFees_apply, ih]
        unfold feesOf exitFeesOf movementsOf
        rw [play_concat]
        simp only [playOp, if_true, hpf]
        cases (op.apply (portfolioAfter ops)).1 with
        | none => exact add_zero _
        | some mv =>
            simp only [List.map_append, List.sum_append]
            simp [Movement.bookedFees]
      · have hframe := (op.position_apply (portfolioAfter ops)).1 mint (Ne.symm hm)
        rw [portfolioAfter_concat, hframe, ih]
        unfold feesOf exitFeesOf movementsOf
        rw [play_concat]
        simp only [playOp, if_neg hm]

/-- The fees in a position that a run has stored. -/
theorem fees_of_mem {p : Position} {ops : List AccountingOp}
    (h : p ∈ (portfolioAfter ops).positions.rows) :
    p.feesUsd = feesOf p.mint ops ∧ p.exitFeesUsd.getD 0 = exitFeesOf p.mint ops := by
  have hfound : (portfolioAfter ops).position p.mint = some p := Library.Table.find?_of_mem h
  have hbooked := bookedFees_after p.mint ops
  rw [hfound] at hbooked
  exact ⟨congrArg Prod.fst hbooked, congrArg Prod.snd hbooked⟩

end SolanaBot.Analysis
