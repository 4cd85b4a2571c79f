import Mathlib.Algebra.Order.BigOperators.Group.List
import SolanaBot.Analysis.SwapFidelity

/-!
# The swaps that the parser misses

A wallet swapped if it lost one token and gained another one, or gained a token for SOL, or lost one for
SOL (`Swapped`). The thresholds of the three kinds are strict on both sides, so that a swap of tokens
that comes with exactly the threshold of SOL is none of them; and the fee of a sponsor may bring a
purchase below the threshold. These are the only swaps that are missed (`swap_found_iff`).
-/

set_option autoImplicit false

namespace SolanaBot.Analysis

open SolanaBot.Library SolanaBot.Model

variable (m : SwapMeta) (wallet : String)

/-- The wallet gained a token other than SOL. -/
def GainedToken : Prop := ∃ mint, mint ≠ WSOL_MINT ∧ 0 < ownChange m wallet mint

/-- The wallet lost a token other than SOL. -/
def LostToken : Prop := ∃ mint, mint ≠ WSOL_MINT ∧ ownChange m wallet mint < 0

variable (r : WalletReading)

/-- The wallet swapped: tokens for tokens, SOL for tokens, or tokens for SOL. -/
def Swapped : Prop :=
  (LostToken r.txMeta wallet ∧ GainedToken r.txMeta wallet) ∨
    (GainedToken r.txMeta wallet ∧ MIN_SWAP_LAMPORTS < r.ownSpent wallet) ∨
    (LostToken r.txMeta wallet ∧ r.ownSpent wallet < -MIN_SWAP_LAMPORTS)

/-- The fee, if another account paid it. -/
def sponsoredFee : Int := if r.idx = 0 then 0 else r.fee.toNat

/-- The swap falls between the kinds: it exchanges tokens at the threshold of SOL, or it is a purchase
that the fee of a sponsor brings down to the threshold. -/
def InGap : Prop :=
  (LostToken r.txMeta wallet ∧ GainedToken r.txMeta wallet ∧
      |r.ownSpent wallet - sponsoredFee r| = MIN_SWAP_LAMPORTS) ∨
    (GainedToken r.txMeta wallet ∧ ¬ LostToken r.txMeta wallet ∧
      MIN_SWAP_LAMPORTS < r.ownSpent wallet ∧
      r.ownSpent wallet ≤ MIN_SWAP_LAMPORTS + sponsoredFee r)

variable {m wallet r}

/-- Totals that fit are seen as they are. -/
theorem seenChange_of_fit {mint : String} (h : TotalsFit m wallet mint) :
    seenChange m wallet mint = ownChange m wallet mint := by
  unfold seenChange ownChange TotalsFit at *
  omega

/-- Where the totals fit, what is seen as spent is what the wallet spent, less a sponsored fee. -/
theorem seenSpent_of_fit (h : TotalsFit r.txMeta wallet WSOL_MINT) :
    r.seenSpent wallet = r.ownSpent wallet - sponsoredFee r := by
  unfold WalletReading.seenSpent WalletReading.ownSpent sponsoredFee
  rw [seenChange_of_fit h]
  split
  · omega
  · omega

section Kinds

variable (order : KeyOrder) (tx : SwapTransaction) (hfit : ∀ mint, TotalsFit r.txMeta wallet mint)
include hfit

/-- A purchase spends more than the threshold and gains a token. -/
theorem isPurchase_iff :
    IsPurchase (factsOf order tx wallet r) ↔
      MIN_SWAP_LAMPORTS < r.ownSpent wallet - sponsoredFee r ∧ GainedToken r.txMeta wallet := by
  have hgained := gained_ne_nil_iff order r.txMeta wallet
  simp only [seenChange_of_fit (hfit _)] at hgained
  rw [← seenSpent_of_fit (hfit WSOL_MINT)]
  exact and_congr_right fun _ => hgained

/-- A sale receives more than the threshold and loses a token. -/
theorem isSale_iff :
    IsSale (factsOf order tx wallet r) ↔
      r.ownSpent wallet - sponsoredFee r < -MIN_SWAP_LAMPORTS ∧ LostToken r.txMeta wallet := by
  have hlost := lost_ne_nil_iff order r.txMeta wallet
  simp only [seenChange_of_fit (hfit _), Left.neg_pos_iff] at hlost
  rw [← seenSpent_of_fit (hfit WSOL_MINT)]
  exact and_congr_right fun _ => hlost

/-- A swap of tokens loses one and gains one, for less SOL than the threshold. -/
theorem isTokenSwap_iff :
    IsTokenSwap (factsOf order tx wallet r) ↔
      LostToken r.txMeta wallet ∧ GainedToken r.txMeta wallet ∧
        |r.ownSpent wallet - sponsoredFee r| < MIN_SWAP_LAMPORTS := by
  rw [isTokenSwap_factsOf_iff, seenSpent_of_fit (hfit WSOL_MINT)]
  simp only [seenChange_of_fit (hfit _), Left.neg_pos_iff]
  exact ⟨fun ⟨hspent, hgained, hlost⟩ => ⟨hlost, hgained, hspent⟩,
    fun ⟨hlost, hgained, hspent⟩ => ⟨hspent, hgained, hlost⟩⟩

end Kinds

/-- **Completeness.** Among the swaps of a wallet the parser reports exactly those outside the gap. -/
theorem swap_found_iff (order : KeyOrder) {tx : SwapTransaction} (hreads : ReadsWallet tx wallet r)
    (hdex : InvokesDex tx r) (hfit : ∀ mint, TotalsFit r.txMeta wallet mint) :
    (Swapped wallet r → ∃ swap, parseSwapFromTransaction order tx wallet = some swap) ↔
      ¬ InGap wallet r := by
  have hsponsored : 0 ≤ sponsoredFee r := by
    unfold sponsoredFee
    split
    · exact le_rfl
    · exact Int.natCast_nonneg _
  rw [parseSwap_found_iff hreads hdex, isPurchase_iff order tx hfit, isSale_iff order tx hfit,
    isTokenSwap_iff order tx hfit]
  unfold Swapped InGap MIN_SWAP_LAMPORTS
  rw [Int.abs_eq_natAbs]
  generalize r.ownSpent wallet = spent, sponsoredFee r = fee at *
  by_cases hlost : LostToken r.txMeta wallet
  · by_cases hgained : GainedToken r.txMeta wallet
    · -- SOL, tokens or neither: only the threshold itself is left out
      simp only [hlost, hgained, true_and, and_true, true_or, not_true, false_and, or_false,
        forall_const]
      omega
    · simp only [hlost, hgained, true_and, and_true, false_and, and_false, false_or, or_false,
        not_false_eq_true, iff_true]
      omega
  · by_cases hgained : GainedToken r.txMeta wallet
    · simp only [hlost, hgained, true_and, and_true, false_and, and_false, false_or, or_false,
        not_false_eq_true]
      omega
    · simp only [hlost, hgained, false_and, and_false, or_false, not_false_eq_true, false_implies]

/-- Each total is part of the sum of all amounts. -/
theorem totalOf_le (entries : List OwnedBalance) (mint : String) :
    totalOf entries wallet mint ≤ (entries.map fun e => (e.amount.getD 0).toNat).sum :=
  (List.filter_sublist.map _).sum_le_sum fun _ _ => Nat.zero_le _

/-- The tokens of the sample before and after. -/
def samplePre : List OwnedBalance := [⟨some "payer", some "bonk", some 5000000, some 6⟩]

/-- What the payer holds after the sample. -/
def samplePost : List OwnedBalance := [⟨some "payer", some "wif", some 7000000, some 6⟩]

/-- A swap of a token for another one, with exactly the threshold of SOL besides the fee. -/
def boundarySwap : SwapTransaction := sampleSwapTx 8994000 5000000 5000000 samplePre samplePost

/-- What is read of the payer. -/
def boundaryReading : WalletReading :=
  { sampleReading 8994000 5000000 5000000 samplePre samplePost with
    idx := 0
    preSol := 9000000
    postSol := 8994000 }

/-- The reading at the boundary reads its transaction. -/
theorem boundaryReading_reads : ReadsWallet boundarySwap "payer" boundaryReading :=
  ⟨rfl, rfl, rfl, rfl, _, _, rfl, rfl, rfl, rfl, rfl⟩

/-- It invokes a venue. -/
theorem boundaryReading_dex : InvokesDex boundarySwap boundaryReading :=
  ⟨some 2, List.mem_singleton_self _, 2, rfl, by decide +kernel⟩

/-- Its totals fit. -/
theorem boundaryReading_fit (mint : String) : TotalsFit boundaryReading.txMeta "payer" mint :=
  ⟨(totalOf_le samplePre mint).trans (by decide), (totalOf_le samplePost mint).trans (by decide)⟩

/-- A swap at the boundary is found exactly if it is not in the gap. -/
theorem swap_found_iff_boundary :
    (Swapped "payer" boundaryReading →
        ∃ swap, parseSwapFromTransaction keysAsListed boundarySwap "payer" = some swap) ↔
      ¬ InGap "payer" boundaryReading :=
  swap_found_iff keysAsListed boundaryReading_reads boundaryReading_dex boundaryReading_fit

/-- The swap at the threshold is missed. -/
theorem swap_not_found :
    parseSwapFromTransaction keysAsListed boundarySwap "payer" = none ∧
    ¬ ∀ order tx wallet r, ReadsWallet tx wallet r → InvokesDex tx r →
      (∀ mint, TotalsFit r.txMeta wallet mint) → Swapped wallet r →
      ∃ swap, parseSwapFromTransaction order tx wallet = some swap := by
  have hnone : parseSwapFromTransaction keysAsListed boundarySwap "payer" = none := by
    decide +kernel
  refine ⟨hnone, fun h => ?_⟩
  have hlost : LostToken boundaryReading.txMeta "payer" := ⟨"bonk", by decide, by decide +kernel⟩
  have hgained : GainedToken boundaryReading.txMeta "payer" := ⟨"wif", by decide, by decide +kernel⟩
  obtain ⟨swap, hswap⟩ := h keysAsListed boundarySwap "payer" boundaryReading
    boundaryReading_reads boundaryReading_dex boundaryReading_fit (.inl ⟨hlost, hgained⟩)
  rw [hnone] at hswap
  cases hswap

end SolanaBot.Analysis
