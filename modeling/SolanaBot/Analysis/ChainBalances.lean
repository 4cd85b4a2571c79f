import SolanaBot.Analysis.BackgroundTasks
import SolanaBot.Analysis.StoreSteps
import SolanaBot.Library.Triples

/-!
# Balances of a mint

A wallet may hold several token accounts of one mint. Both places that turn the accounts into
a balance by mint collect them into a map, where the last account of a mint replaces the others.
So the balance is the total exactly if the other accounts are empty (`chainAmount_eq_total_iff`).
The reconciler saves nothing but positions that have adopted this balance
(`adopts_reconcilePositionsOnchain`), and the operator's exit sizes an untrusted position by it.
-/

set_option autoImplicit false

namespace SolanaBot.Analysis

open SolanaBot.Library SolanaBot.Model

/-! ## The balance of a mint -/

section Balance

variable (balances : List TokenBalance) (mint : String)

/-- The accounts of one mint, in the order of the answer. -/
def accountsOf : List TokenBalance := balances.filter fun b => b.mint = mint

/-- What the accounts of the mint hold together. -/
def chainTotal : ℕ := ((accountsOf balances mint).map fun b => b.amount.toNat).sum

/-- The balance by mint, zero without an account. -/
def chainAmount : UInt64 := ((balanceByMint balances mint).map TokenBalance.amount).getD 0

/-- Every account of the mint but the last one is empty. -/
def OthersEmpty : Prop := ∀ b ∈ (accountsOf balances mint).dropLast, b.amount = 0

variable {balances mint}

/-- In the map by mint the last account stays. -/
theorem balanceByMint_eq_getLast? :
    balanceByMint balances mint = (accountsOf balances mint).getLast? := by
  unfold balanceByMint accountsOf
  rw [← List.head?_filter, List.filter_reverse, List.head?_reverse]

/-- **The balance by mint is the total exactly if the other accounts are empty.** -/
theorem chainAmount_eq_total_iff :
    (chainAmount balances mint).toNat = chainTotal balances mint ↔ OthersEmpty balances mint := by
  unfold chainAmount chainTotal OthersEmpty
  rw [balanceByMint_eq_getLast?]
  rcases List.eq_nil_or_concat (accountsOf balances mint) with hnil | ⟨others, last, hsplit⟩
  · rw [hnil]
    exact ⟨fun _ b hb => absurd hb List.not_mem_nil, fun _ => rfl⟩
  · rw [hsplit, List.concat_eq_append, List.getLast?_append_of_ne_nil _ (List.cons_ne_nil _ _),
      List.dropLast_concat, List.map_append, List.sum_append]
    have hothers : (others.map fun b => b.amount.toNat).sum = 0 ↔ ∀ b ∈ others, b.amount = 0 := by
      rw [List.sum_eq_zero_iff_forall_eq_nat, List.forall_mem_map]
      exact forall₂_congr fun b _ => UInt64.toNat_inj (b := 0)
    rw [← hothers]
    simp

end Balance

/-! ## What the reconciler adopts -/

/-- A saved position that has adopted a balance has adopted the balance of its mint: the total
exactly if the other accounts are empty. -/
def AdoptsBalance (balances : List TokenBalance) : Op → Prop
  | .savePosition (.adopted copy onChainAmount _ _) _ =>
      onChainAmount = chainAmount balances copy.mint ∧
        (onChainAmount.toNat = chainTotal balances copy.mint ↔ OthersEmpty balances copy.mint)
  | _ => True

section Reconciler

variable {balances : List TokenBalance}

/-- What is saved as adopted is the balance of the chain. -/
theorem adopts_saveAdopted (before after : Portfolio) (mint : String) (decimals : UInt8)
    (now : Time) :
    Prog.PerformsE (AdoptsBalance balances)
      (saveAdopted before after mint (chainAmount balances mint) decimals now) := by
  unfold saveAdopted
  split
  · rename_i copy p hcopy hp
    have hmint : copy.mint = mint := Portfolio.mint_of_position hcopy
    refine Prog.performsE_mk (Prog.performs_perform ?_)
    unfold AdoptsBalance
    dsimp only
    rw [hmint]
    exact ⟨rfl, chainAmount_eq_total_iff⟩
  · exact Prog.performsE_pure _

/-- The reconciliation of a position adopts balances of the chain only. -/
theorem adopts_reconcilePosition (s : ReconcileSummary × Portfolio) (mint : String) :
    Prog.PerformsE (AdoptsBalance balances) (reconcilePosition balances s mint) := by
  unfold reconcilePosition
  refine Prog.performsE_bind (Prog.performsE_lift (Prog.performs_perform trivial)) fun now => ?_
  cases hbalance : balanceByMint balances mint with
  | none =>
      have hamount : (0 : UInt64) = chainAmount balances mint := by
        unfold chainAmount
        rw [hbalance]
        rfl
      dsimp only
      split
      · rw [hamount]
        exact Prog.performsE_bind (adopts_saveAdopted _ _ _ _ _) fun _ => Prog.performsE_pure _
      · exact Prog.performsE_pure _
  | some balance =>
      have hamount : balance.amount = chainAmount balances mint := by
        unfold chainAmount
        rw [hbalance]
        rfl
      dsimp only
      split
      · rw [hamount]
        refine Prog.performsE_bind (adopts_saveAdopted _ _ _ _ _) fun _ => ?_
        split
        · exact Prog.performsE_pure _
        · exact Prog.performsE_pure _
      · exact Prog.performsE_pure _
      · exact Prog.performsE_pure _

/-- In a run whose RPC returns these accounts, every position that the reconciler saves has adopted
the balance of its mint. -/
theorem adopts_reconcilePositionsOnchain (deps : Deps) {env : ℕ → Env × (Db → Db)}
    (hanswer : ∀ j owner, (env j).1.answer (.tokenBalances owner) = .ok balances) (i : ℕ) (db : Db) :
    (reconcilePositionsOnchain deps).run.Always world.among env
      (fun _ o _ => AdoptsBalance balances o) i db := by
  unfold reconcilePositionsOnchain
  split
  · trivial
  · rename_i owner howner
    refine ⟨trivial, ?_⟩
    have hread : ((world.among.exec (env i) (.tokenBalances owner) db).1 :
        Except RpcError (List TokenBalance)) = .ok balances := hanswer i owner
    revert hread
    generalize (world.among.exec (env i) (.tokenBalances owner) db).1 = answer
    generalize (world.among.exec (env i) (.tokenBalances owner) db).2 = db'
    intro hread
    subst hread
    refine Prog.always_of_performs (S := AdoptsBalance balances) ?_ (fun _ _ _ h => h) _ _
    exact Prog.performsE_bind (performsE_attempt (performs_call trivial)) fun stored =>
      Prog.performsE_bind (performsE_ask (performs_call trivial)) fun mints =>
      Prog.performsE_bind (Prog.performsE_foldlM _ adopts_reconcilePosition _) fun s => trivial

end Reconciler

/-! ## Both uses -/

/-- **The amount adopted for a position, and the amount at which an untrusted position is sold, is
the total of the accounts of its mint exactly if all of them but the last one are empty.** The
reconciler runs among any others. -/
theorem chain_amount_total_iff (deps : Deps) (env : ℕ → Env × (Db → Db)) (i : ℕ) (db : Db)
    (balances : List TokenBalance)
    (hanswer : ∀ j owner, (env j).1.answer (.tokenBalances owner) = .ok balances) :
    (reconcilePositionsOnchain deps).run.Always world.among env
      (fun _ o _ => AdoptsBalance balances o) i db ∧
    ∀ position mint, Position.trustedRemaining position = none →
      (((quantityToSell position balances mint).getD 0).toNat = chainTotal balances mint ↔
        OthersEmpty balances mint) := by
  refine ⟨adopts_reconcilePositionsOnchain deps hanswer i db, fun position mint huntrusted => ?_⟩
  have hquantity : (quantityToSell position balances mint).getD 0 = chainAmount balances mint := by
    unfold quantityToSell chainAmount
    rw [huntrusted]
    cases balanceByMint balances mint with
    | none => rfl
    | some b =>
        dsimp only [Option.map_some, Option.getD_some]
        by_cases hzero : b.amount = 0
        · rw [if_pos hzero, hzero]
          rfl
        · rw [if_neg hzero]
          rfl
  rw [hquantity]
  exact chainAmount_eq_total_iff

/-- A wallet with its hundred units of the token in two accounts. -/
def twoAccounts : List TokenBalance :=
  [{ mint := "token", amount := 60, decimals := 0 }, { mint := "token", amount := 40, decimals := 0 }]

/-- The sample world with given token accounts. -/
def accountsEnv (balances : List TokenBalance) : Env :=
  { sampleEnv with
    answer := fun
      | .tokenBalances _ => .ok balances
      | o => sampleAnswer o }

/-- The sample position, its quantity not known. -/
def untrustedPosition : Position :=
  { samplePosition with reconciliationStatus := .unverified }

/-- With one more account that is empty, first in the list, the total is found. -/
theorem chain_amount_total_sample :
    ((quantityToSell untrustedPosition
      [{ mint := "token", amount := 0, decimals := 0 },
        { mint := "token", amount := 40, decimals := 0 }] "token").getD 0).toNat = 40 :=
  ((chain_amount_total_iff (sampleDeps true)
    (fun _ => (accountsEnv [{ mint := "token", amount := 0, decimals := 0 },
      { mint := "token", amount := 40, decimals := 0 }], id)) 0 sampleDb _ (fun _ _ => rfl)).2
    untrustedPosition "token" rfl).mpr (by unfold OthersEmpty; decide)

/-- The position of a hundred units is cut down to the forty of the second account. -/
theorem later_account_replaces :
    chainTotal twoAccounts "token" = 100 ∧
      (((reconcilePositionsOnchain (sampleDeps true)).run.run world
          (fun _ => accountsEnv twoAccounts) 0 sampleDb).2.1.positions.find? "token").bind
        Position.remainingQuantityAtomic = some 40 ∧
      quantityToSell untrustedPosition twoAccounts "token" = some 40 := by
  decide +kernel

end SolanaBot.Analysis
