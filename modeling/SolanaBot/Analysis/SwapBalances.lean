import SolanaBot.Model.Execution

/-!
# What a confirmed swap did to the balances of its owner

`parse_swap_transaction` derives the amounts of a swap from the changes of the token accounts whose
owner is named in the balances after the transaction. The owner may have held other accounts before
it: those that the transaction closed or gave away. Their change is missed, and the direction of the
input change is not looked at. The amounts are those of the owner's total balances exactly if neither
makes a difference (`parse_swap_iff`).
-/

set_option autoImplicit false

namespace SolanaBot.Analysis

open SolanaBot.Model

/-! ## Balances of an owner -/

/-- The account is listed with the owner. -/
def heldIn (entries : List TokenBalanceEntry) (owner : String) (idx : UInt64) : Bool :=
  entries.any fun e => e.accountIndex = some idx ∧ e.owner = some owner

/-- The balance change of a mint, summed over the accounts that are selected. -/
def changeOver (m : TxMeta) (mint : String) (held : UInt64 → Bool) : Int :=
  (((tokenDeltas m).filter fun d => d.2.1 = mint ∧ held d.1).map fun d => d.2.2).sum

/-- The change of the owner's total balance, over all accounts that the owner held before or after. -/
def ownerChange (m : TxMeta) (owner mint : String) : Int :=
  changeOver m mint fun idx =>
    heldIn m.preTokenBalances owner idx || heldIn m.postTokenBalances owner idx

/-- The change of the accounts that the owner held before and no longer after: those that were closed
or given away. -/
def departedChange (m : TxMeta) (owner mint : String) : Int :=
  changeOver m mint fun idx =>
    heldIn m.preTokenBalances owner idx && !heldIn m.postTokenBalances owner idx

/-- The accounts are split by who holds them. -/
theorem changeOver_or (m : TxMeta) (mint : String) (before after : UInt64 → Bool) :
    changeOver m mint (fun idx => before idx || after idx) =
      changeOver m mint after + changeOver m mint fun idx => before idx && !after idx := by
  unfold changeOver
  induction tokenDeltas m with
  | nil => rfl
  | cons d ds ih =>
      by_cases hmint : d.2.1 = mint
      · cases hbefore : before d.1 <;> cases hafter : after d.1 <;>
          simp_all [add_assoc, add_left_comm]
      · simpa [List.filter_cons, hmint] using ih

/-- The owner of an account index, looked up in the balances after the transaction. -/
theorem any_ownerForIndex (m : TxMeta) (owner : String) (idx : UInt64) :
    ((ownerForIndex m).any fun o => o.1 = idx ∧ o.2 = owner) =
      heldIn m.postTokenBalances owner idx := by
  unfold ownerForIndex heldIn
  induction m.postTokenBalances with
  | nil => rfl
  | cons e es ih =>
      rw [List.any_cons, ← ih, List.filterMap_cons]
      cases hidx : e.accountIndex with
      | none => simp
      | some i =>
          cases howner : e.owner with
          | none => simp
          | some o => simp

/-- The parser sees the change of the accounts that the owner holds afterwards. -/
theorem deltaFor_eq (m : TxMeta) (owner mint : String) :
    deltaFor m owner mint = ownerChange m owner mint - departedChange m owner mint := by
  have hafter : deltaFor m owner mint = changeOver m mint (heldIn m.postTokenBalances owner) := by
    unfold deltaFor changeOver
    simp only [any_ownerForIndex]
  unfold ownerChange departedChange
  rw [changeOver_or, hafter]
  omega

/-! ## The amounts of a swap -/

/-- An amount of atomic units that is not zero. -/
def IsAmount (d : Int) : Prop := 0 < d ∧ d < 2 ^ 64

/-- Whether `IsAmount` holds can be evaluated. -/
instance (d : Int) : Decidable (IsAmount d) := inferInstanceAs (Decidable (_ ∧ _))

/-- A positive number is converted exactly if it is in range. -/
theorem toU64_eq_some_iff {d : Int} (hd : 0 < d) (v : UInt64) : toU64 d = some v ↔ d = v.toNat := by
  unfold toU64
  constructor
  · intro h
    split at h
    · rename_i hfits
      cases h
      rw [UInt64.toNat_ofNat', Nat.mod_eq_of_lt (by omega)]
      omega
    · cases h
  · intro h
    have hv := v.toNat_lt
    rw [if_pos ⟨hd.le, by omega⟩, h, Int.toNat_natCast, UInt64.ofNat_toNat]

/-- The input amount that is read off the balances. -/
theorem swapInputAmount_eq_ok {m : TxMeta} {inputMint owner : String} {expectedInput v : UInt64}
    (hmint : inputMint ≠ WSOL_MINT) :
    swapInputAmount m inputMint owner expectedInput = .ok v ↔
      deltaFor m owner inputMint ≠ 0 ∧ |deltaFor m owner inputMint| = v.toNat := by
  unfold swapInputAmount
  rw [if_neg hmint]
  dsimp only
  by_cases hzero : deltaFor m owner inputMint = 0
  · rw [if_pos hzero]
    exact ⟨fun h => (by cases h), fun h => absurd hzero h.1⟩
  · have hread := toU64_eq_some_iff (abs_pos.mpr hzero) v
    rw [if_neg hzero, Int.natCast_natAbs]
    cases hfits : toU64 |deltaFor m owner inputMint| with
    | none =>
        rw [hfits] at hread
        exact ⟨fun h => (by cases h), fun h => (by cases hread.mpr h.2)⟩
    | some w =>
        rw [hfits] at hread
        exact ⟨fun h => (by cases h; exact ⟨hzero, hread.mp rfl⟩),
          fun h => (by cases hread.mpr h.2; rfl)⟩

/-- The output amount that is read off the balances. -/
theorem swapOutputAmount_eq_ok {tx : Transaction} {m : TxMeta} {outputMint owner : String}
    {feeLamports v : UInt64} (hmint : outputMint ≠ WSOL_MINT) :
    swapOutputAmount tx m outputMint owner feeLamports = .ok v ↔
      0 < deltaFor m owner outputMint ∧ deltaFor m owner outputMint = v.toNat := by
  unfold swapOutputAmount
  rw [if_neg hmint]
  dsimp only
  by_cases hpos : deltaFor m owner outputMint ≤ 0
  · rw [if_pos hpos]
    exact ⟨fun h => (by cases h), fun h => absurd h.1 (not_lt.mpr hpos)⟩
  · have hread := toU64_eq_some_iff (not_le.mp hpos) v
    rw [if_neg hpos]
    cases hfits : toU64 (deltaFor m owner outputMint) with
    | none =>
        rw [hfits] at hread
        exact ⟨fun h => (by cases h), fun h => (by cases hread.mpr h.2)⟩
    | some w =>
        rw [hfits] at hread
        exact ⟨fun h => (by cases h; exact ⟨not_le.mp hpos, hread.mp rfl⟩),
          fun h => (by cases hread.mpr h.2; rfl)⟩

/-- The transaction succeeded, and its fee is known. -/
def Succeeded (tx : Transaction) (m : TxMeta) : Prop :=
  tx.txMeta = some m ∧ m.err = none ∧ m.fee.isSome

/-- A swap with the given amounts is reported. -/
def Reports (tx : Transaction) (inputMint outputMint owner : String) (expectedInput : UInt64)
    (inputAmount outputAmount : UInt64) : Prop :=
  ∃ outcome, parseSwapTransaction tx inputMint outputMint owner expectedInput = .executed outcome ∧
    outcome.inputAmount = inputAmount ∧ outcome.outputAmount = outputAmount

/-- The swap that the owner's total balances show: the input decreased by the one amount, and the
output increased by the other. -/
def TotalsShow (tx : Transaction) (inputMint outputMint owner : String)
    (inputAmount outputAmount : UInt64) : Prop :=
  ∃ m, Succeeded tx m ∧ 0 < inputAmount ∧ ownerChange m owner inputMint = -inputAmount.toNat ∧
    0 < outputAmount ∧ ownerChange m owner outputMint = outputAmount.toNat

/-- What the accounts that departed hide makes no difference. If the totals show a swap, the output
departed with nothing, and the input with nothing or with twice its own change, which only turns the
sign around; otherwise what is left shows no change of the input or no increase of the output. -/
def NothingHidden (m : TxMeta) (inputMint outputMint owner : String) : Prop :=
  if IsAmount (-ownerChange m owner inputMint) ∧ IsAmount (ownerChange m owner outputMint) then
    departedChange m owner outputMint = 0 ∧ (departedChange m owner inputMint = 0 ∨
      departedChange m owner inputMint = 2 * ownerChange m owner inputMint)
  else
    ¬ (IsAmount |ownerChange m owner inputMint - departedChange m owner inputMint| ∧
      IsAmount (ownerChange m owner outputMint - departedChange m owner outputMint))

section Parse

variable {tx : Transaction} {inputMint outputMint owner : String} {expectedInput : UInt64}

/-- What is reported, from the changes that the parser sees. -/
theorem reports_iff (hinput : inputMint ≠ WSOL_MINT) (houtput : outputMint ≠ WSOL_MINT)
    (a b : UInt64) :
    Reports tx inputMint outputMint owner expectedInput a b ↔ ∃ m, Succeeded tx m ∧
      (deltaFor m owner inputMint ≠ 0 ∧ |deltaFor m owner inputMint| = a.toNat) ∧
      0 < deltaFor m owner outputMint ∧ deltaFor m owner outputMint = b.toNat := by
  unfold Reports Succeeded parseSwapTransaction
  cases hmeta : tx.txMeta with
  | none => simp
  | some m =>
      simp only [Option.some.injEq, and_assoc, exists_eq_left']
      cases herr : m.err with
      | some err => simp
      | none =>
          cases hfee : m.fee with
          | none => simp
          | some feeLamports =>
              have hin := @swapInputAmount_eq_ok m inputMint owner expectedInput a hinput
              have hout := @swapOutputAmount_eq_ok tx m outputMint owner feeLamports b houtput
              rw [← and_assoc (a := _ ≠ _), ← hin, ← hout]
              cases swapInputAmount m inputMint owner expectedInput with
              | error detail => simp
              | ok inputAmount =>
                  dsimp only
                  cases swapOutputAmount tx m outputMint owner feeLamports with
                  | error detail => simp
                  | ok outputAmount => simp

/-- The amounts of two pairs of changes are the same. -/
theorem amounts_agree_iff (input output departedIn departedOut : Int) :
    (∀ a b : UInt64, (input - departedIn ≠ 0 ∧ |input - departedIn| = a.toNat) ∧
        (0 < output - departedOut ∧ output - departedOut = b.toNat) ↔
      0 < a ∧ input = -a.toNat ∧ 0 < b ∧ output = b.toNat) ↔
    if IsAmount (-input) ∧ IsAmount output then
      departedOut = 0 ∧ (departedIn = 0 ∨ departedIn = 2 * input)
    else ¬ (IsAmount |input - departedIn| ∧ IsAmount (output - departedOut)) := by
  have hamount : ∀ {d : Int}, IsAmount d → ∃ v : UInt64, d = v.toNat ∧ 0 < v := by
    rintro d ⟨hpos, hlt⟩
    have hnat : ((UInt64.ofNat d.toNat).toNat : Int) = d := by
      rw [UInt64.toNat_ofNat', Nat.mod_eq_of_lt (by omega)]
      omega
    exact ⟨UInt64.ofNat d.toNat, hnat.symm, by rw [UInt64.lt_iff_toNat_lt, UInt64.toNat_zero]; omega⟩
  have hpositive : ∀ v : UInt64, 0 < v ↔ 0 < (v.toNat : Int) := by
    intro v
    rw [UInt64.lt_iff_toNat_lt, UInt64.toNat_zero, Int.natCast_pos]
  split
  · rename_i hswap
    obtain ⟨a, ha, hapos⟩ := hamount hswap.1
    obtain ⟨b, hb, hbpos⟩ := hamount hswap.2
    constructor
    · intro h
      obtain ⟨⟨-, hin⟩, -, hout⟩ := (h a b).mpr ⟨hapos, by omega, hbpos, hb⟩
      refine ⟨by omega, ?_⟩
      rcases abs_choice (input - departedIn) with habs | habs
      · exact .inr (by omega)
      · exact .inl (by omega)
    · rintro ⟨rfl, hin⟩ v w
      have habs : |input - departedIn| = -input := by
        have hneg := hswap.1.1
        rcases hin with rfl | rfl
        · rw [sub_zero, abs_of_neg (by omega)]
        · rw [abs_of_pos (by omega)]
          omega
      have hsum := hswap.1.1
      have hout := hswap.2.1
      rw [habs, hpositive, hpositive, sub_zero]
      rcases hin with rfl | rfl <;> omega
  · rename_i hnone
    constructor
    · rintro h ⟨hin, hout⟩
      obtain ⟨a, ha, -⟩ := hamount hin
      obtain ⟨b, hb, -⟩ := hamount hout
      obtain ⟨hapos, hinput, hbpos, houtput⟩ := (h a b).mp ⟨⟨abs_pos.mp hin.1, ha⟩, hout.1, hb⟩
      rw [hpositive] at hapos hbpos
      have hlt := a.toNat_lt
      have hlt' := b.toNat_lt
      exact hnone ⟨⟨by omega, by omega⟩, by omega, by omega⟩
    · intro hhidden a b
      have hlt := a.toNat_lt
      have hlt' := b.toNat_lt
      constructor
      · rintro ⟨⟨hne, hin⟩, hpos, hout⟩
        have habs := abs_pos.mpr hne
        exact absurd ⟨⟨habs, by omega⟩, hpos, by omega⟩ hhidden
      · rintro ⟨hapos, hinput, hbpos, houtput⟩
        rw [hpositive] at hapos hbpos
        exact absurd ⟨⟨by omega, by omega⟩, by omega, by omega⟩ hnone

/-- **A swap between two tokens is reported with the changes of the owner's total balances exactly if
nothing that matters is hidden** in accounts that the owner held before only. -/
theorem parse_swap_iff (tx : Transaction) (inputMint outputMint owner : String)
    (expectedInput : UInt64) (hinput : inputMint ≠ WSOL_MINT) (houtput : outputMint ≠ WSOL_MINT) :
    (∀ a b, Reports tx inputMint outputMint owner expectedInput a b ↔
      TotalsShow tx inputMint outputMint owner a b) ↔
    ∀ m, Succeeded tx m → NothingHidden m inputMint outputMint owner := by
  by_cases hsucceeded : ∃ m, Succeeded tx m
  · obtain ⟨m, hm⟩ := hsucceeded
    have honly : ∀ m', Succeeded tx m' ↔ m' = m := fun m' =>
      ⟨fun h => Option.some.inj (h.1.symm.trans hm.1), fun h => h ▸ hm⟩
    unfold TotalsShow NothingHidden
    simp only [reports_iff hinput houtput, honly, exists_eq_left, forall_eq, deltaFor_eq]
    exact amounts_agree_iff _ _ _ _
  · have hnone : ∀ m, ¬ Succeeded tx m := fun m hm => hsucceeded ⟨m, hm⟩
    unfold TotalsShow
    simp only [reports_iff hinput houtput, hnone, false_and, exists_false, IsEmpty.forall_iff,
      implies_true]

end Parse

/-! ## A sale that closes its account -/

/-- The owner held 100 units of the one token and gets 40 units of the other. The account of the
first is among the balances afterwards if `kept`. -/
def saleOf (kept : Bool) : Transaction where
  accountKeys := none
  blockTime := none
  txMeta := some {
    err := none
    fee := some 5000
    preBalances := none
    postBalances := none
    preTokenBalances := [⟨some 1, some "sold", some "owner", some 100⟩]
    postTokenBalances :=
      if kept then
        [⟨some 1, some "sold", some "owner", some 0⟩, ⟨some 2, some "bought", some "owner", some 40⟩]
      else [⟨some 2, some "bought", some "owner", some 40⟩] }

/-- The swap is found when the emptied account stays open. -/
theorem parse_swap_iff_sample :
    ("sold" ≠ WSOL_MINT ∧ "bought" ≠ WSOL_MINT) ∧
      ((∀ a b, Reports (saleOf true) "sold" "bought" "owner" 100 a b ↔
          TotalsShow (saleOf true) "sold" "bought" "owner" a b) ↔
        ∀ m, Succeeded (saleOf true) m → NothingHidden m "sold" "bought" "owner") ∧
      Reports (saleOf true) "sold" "bought" "owner" 100 100 40 :=
  ⟨by decide, parse_swap_iff (saleOf true) "sold" "bought" "owner" 100 (by decide) (by decide),
    ⟨100, 40, 5000, none⟩, by decide +kernel, rfl, rfl⟩

/-- The same sale with the account closed settles by the totals, and nothing is reported. -/
theorem closed_account_unreported :
    ¬ ∀ (tx : Transaction) (inputMint outputMint owner : String) (expectedInput : UInt64),
      inputMint ≠ WSOL_MINT → outputMint ≠ WSOL_MINT → inputMint ≠ outputMint → ∀ a b,
        Reports tx inputMint outputMint owner expectedInput a b ↔
          TotalsShow tx inputMint outputMint owner a b := by
  intro hclaim
  have hsettles : TotalsShow (saleOf false) "sold" "bought" "owner" 100 40 :=
    ⟨_, ⟨rfl, rfl, rfl⟩, by decide, by decide +kernel, by decide, by decide +kernel⟩
  obtain ⟨outcome, hrun, -⟩ := (hclaim (saleOf false) "sold" "bought" "owner" 100 (by decide)
    (by decide) (by decide) 100 40).mpr hsettles
  have hnone : parseSwapTransaction (saleOf false) "sold" "bought" "owner" 100 =
      .unverifiable "no owner delta for input mint sold" := by
    decide +kernel
  rw [hnone] at hrun
  cases hrun

end SolanaBot.Analysis
