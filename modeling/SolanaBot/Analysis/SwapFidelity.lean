import SolanaBot.Analysis.SwapReadings

/-!
# The legs of a parsed swap and the wallet's own changes

A swap is faithful if its legs are what the wallet itself spent and received: its lamports and wrapped
SOL, less the fee if the wallet paid it, and the exact totals of its tokens; and if a fee that another
account paid makes no difference (`FaithfulSwap`). The parser takes the fee off in any case and adds
balances with a cap, so that its swaps are faithful exactly if the wallet paid the fee, or the fee does
not matter, and no total is beyond 64 bits (`swaps_faithful_iff`).

1. A leg with a cap is the exact one exactly if the totals fit (`seenChange_eq_ownChange_iff`).
2. A fee changes the SOL leg of every purchase and sale, and turns a swap of tokens into a purchase
   exactly if it hides enough SOL (`purchase_withoutFee_iff`, `sale_withoutFee_iff`,
   `tokens_withoutFee_iff`).
-/

set_option autoImplicit false

namespace SolanaBot.Analysis

open SolanaBot.Library SolanaBot.Model

/-! ## The wallet's own changes -/

/-- The change of what the wallet holds of a mint. -/
def ownChange (m : SwapMeta) (wallet mint : String) : Int :=
  (totalOf m.postTokenBalances wallet mint : Int) - totalOf m.preTokenBalances wallet mint

/-- The totals of the wallet's accounts of a mint are within 64 bits. -/
def TotalsFit (m : SwapMeta) (wallet mint : String) : Prop :=
  totalOf m.preTokenBalances wallet mint ≤ maxU64 ∧ totalOf m.postTokenBalances wallet mint ≤ maxU64

/-- A change that is seen is the exact one only if no total was capped. -/
theorem seenChange_eq_ownChange_iff {m : SwapMeta} {wallet mint : String}
    (h : seenChange m wallet mint ≠ 0) :
    seenChange m wallet mint = ownChange m wallet mint ↔ TotalsFit m wallet mint := by
  unfold seenChange ownChange TotalsFit at *
  omega

/-- The SOL that the wallet spent itself: its lamports and wrapped SOL, and not the fee that it paid. -/
def WalletReading.ownSpent (r : WalletReading) (wallet : String) : Int :=
  -(r.native + ownChange r.txMeta wallet WSOL_MINT) - if r.idx = 0 then (r.fee.toNat : Int) else 0

/-- The legs are the wallet's own: SOL that goes in was spent, and SOL that comes out was received. -/
structure OwnLegs (r : WalletReading) (wallet : String) (swap : ParsedSwap) : Prop where
  solIn : swap.inputMint = WSOL_MINT → (swap.inputAmount.toNat : Int) = r.ownSpent wallet
  solOut : swap.outputMint = WSOL_MINT → (swap.outputAmount.toNat : Int) = -r.ownSpent wallet
  tokenIn : swap.inputMint ≠ WSOL_MINT →
    (swap.inputAmount.toNat : Int) = -ownChange r.txMeta wallet swap.inputMint
  tokenOut : swap.outputMint ≠ WSOL_MINT →
    (swap.outputAmount.toNat : Int) = ownChange r.txMeta wallet swap.outputMint

/-- The amounts and the direction of a swap. -/
def legsOf (swap : ParsedSwap) : String × String × UInt64 × UInt64 × SwapDirection :=
  (swap.inputMint, swap.outputMint, swap.inputAmount, swap.outputAmount, swap.direction)

/-- The transaction as if it had no fee. -/
def withoutFee (tx : SwapTransaction) : SwapTransaction :=
  { tx with txMeta := tx.txMeta.map fun m => { m with fee := some 0 } }

/-- A swap is faithful to the wallet: its legs are the wallet's own, and a fee that another account
paid makes no difference to them. -/
structure FaithfulSwap (order : KeyOrder) (tx : SwapTransaction) (wallet : String)
    (r : WalletReading) (swap : ParsedSwap) : Prop where
  legs : OwnLegs r wallet swap
  fee : r.idx ≠ 0 →
    (parseSwapFromTransaction order (withoutFee tx) wallet).map legsOf = some (legsOf swap)

/-! ## Without the fee -/

/-- The reading as if there had been no fee. -/
def WalletReading.withoutFee (r : WalletReading) : WalletReading :=
  { r with txMeta := { r.txMeta with fee := some 0 } }

/-- The transaction without its fee is read with the fee put back. -/
theorem ReadsWallet.withoutFee {tx : SwapTransaction} {wallet : String} {r : WalletReading}
    (h : ReadsWallet tx wallet r) : ReadsWallet (Analysis.withoutFee tx) wallet r.withoutFee where
  found := by
    unfold Analysis.withoutFee
    rw [h.found]
    rfl
  succeeded := h.succeeded
  keys := h.keys
  position := h.position
  balances := h.balances

/-- Without the fee as much more is seen as spent. -/
theorem seenSpent_withoutFee (r : WalletReading) (wallet : String) :
    r.withoutFee.seenSpent wallet = r.seenSpent wallet + r.fee.toNat := by
  have hzero : r.withoutFee.fee = 0 := rfl
  have hrest : r.withoutFee.seenSpent wallet =
      -r.native - seenChange r.txMeta wallet WSOL_MINT - r.withoutFee.fee.toNat := rfl
  rw [hrest, hzero]
  unfold WalletReading.seenSpent
  simp

section Fee

variable {order : KeyOrder} {tx : SwapTransaction} {wallet : String} {r : WalletReading}

/-- The facts without the fee: the same tokens, and the fee is added to what was spent. -/
def feelessFacts (order : KeyOrder) (tx : SwapTransaction) (wallet : String) (r : WalletReading) :
    SwapFacts :=
  { factsOf order tx wallet r with
    fee := 0
    totalSolSpent := r.seenSpent wallet + r.fee.toNat }

/-- The swap of a transaction without its fee is judged by the facts without it. -/
theorem parse_withoutFee (hreads : ReadsWallet tx wallet r) (hdex : InvokesDex tx r) :
    parseSwapFromTransaction order (withoutFee tx) wallet =
      swapVerdict (feelessFacts order tx wallet r) wallet := by
  rw [parseSwap_of_reads hreads.withoutFee hdex]
  unfold feelessFacts factsOf
  rw [seenSpent_withoutFee]
  rfl

/-- `as u64` keeps the lowest 64 bits. -/
theorem toNat_wrapU64 (n : Int) : ((wrapU64 n).toNat : Int) = n % 2 ^ 64 := by
  unfold wrapU64
  rw [UInt64.toNat_ofNat']
  omega

/-- A wrapped number is the one it should be exactly if that is in range and no wrap came between. -/
theorem toNat_wrapU64_eq_iff (n x : Int) :
    ((wrapU64 n).toNat : Int) = x ↔ (0 ≤ x ∧ x < 2 ^ 64) ∧ (2 ^ 64 : Int) ∣ n - x := by
  rw [toNat_wrapU64]
  omega

/-- A fee is seen in the lowest 64 bits. -/
theorem wrapU64_sub_fee_iff (n : Int) (fee : UInt64) :
    wrapU64 n = wrapU64 (n + fee.toNat) ↔ fee = 0 := by
  have hlt := fee.toNat_lt
  have h := toNat_wrapU64 n
  have h' := toNat_wrapU64 (n + fee.toNat)
  rw [← UInt64.toNat_inj, ← UInt64.toNat_inj, UInt64.toNat_zero]
  omega

/-- The fee is in the SOL leg of a purchase. -/
theorem purchase_withoutFee_iff (hreads : ReadsWallet tx wallet r) (hdex : InvokesDex tx r)
    (h : IsPurchase (factsOf order tx wallet r)) {token : String × UInt64 × UInt8}
    (htoken : primaryToken (factsOf order tx wallet r).gained = some token) :
    (parseSwapFromTransaction order (withoutFee tx) wallet).map legsOf =
      some (legsOf ((factsOf order tx wallet r).swap wallet .buy
        (WSOL_MINT, wrapU64 (r.seenSpent wallet), 9) token)) ↔ r.fee = 0 := by
  have hspent : MIN_SWAP_LAMPORTS < r.seenSpent wallet := h.1
  have hpurchase : IsPurchase (feelessFacts order tx wallet r) :=
    ⟨by change MIN_SWAP_LAMPORTS < r.seenSpent wallet + r.fee.toNat; omega, h.2⟩
  obtain ⟨token', htoken', hverdict⟩ := verdict_purchase wallet hpurchase
  cases htoken.symm.trans htoken'
  rw [parse_withoutFee hreads hdex, hverdict, Option.map_some, Option.some_inj,
    ← wrapU64_sub_fee_iff (r.seenSpent wallet) r.fee]
  unfold legsOf SwapFacts.swap
  simp only [Prod.mk.injEq, true_and, and_true]
  exact eq_comm

/-- The fee is in the SOL leg of a sale, or makes it one. -/
theorem sale_withoutFee_iff (hreads : ReadsWallet tx wallet r) (hdex : InvokesDex tx r)
    (h : IsSale (factsOf order tx wallet r)) {token : String × UInt64 × UInt8}
    (htoken : primaryToken (factsOf order tx wallet r).lost = some token) :
    (parseSwapFromTransaction order (withoutFee tx) wallet).map legsOf =
      some (legsOf ((factsOf order tx wallet r).swap wallet .sell token
        (WSOL_MINT, wrapU64 (-r.seenSpent wallet), 9))) ↔ r.fee = 0 := by
  have hspent : r.seenSpent wallet < -MIN_SWAP_LAMPORTS := h.1
  obtain ⟨hgained, hlost⟩ := factsOf_mints order tx wallet r
  rw [parse_withoutFee hreads hdex]
  by_cases hstill : r.seenSpent wallet + r.fee.toNat < -MIN_SWAP_LAMPORTS
  · have hsale : IsSale (feelessFacts order tx wallet r) := ⟨hstill, h.2⟩
    obtain ⟨token', htoken', hverdict⟩ := verdict_sale wallet hsale
    cases htoken.symm.trans htoken'
    have hadd : -r.seenSpent wallet = -(r.seenSpent wallet + r.fee.toNat) + r.fee.toNat := by omega
    rw [hverdict, Option.map_some, Option.some_inj,
      ← wrapU64_sub_fee_iff (-(r.seenSpent wallet + r.fee.toNat)) r.fee, ← hadd]
    unfold legsOf SwapFacts.swap
    simp only [Prod.mk.injEq, true_and, and_true]
    exact Iff.rfl
  · -- without the fee there is no sale, and every other swap is a purchase
    have hfee : r.fee ≠ 0 := by
      intro hzero
      rw [hzero] at hstill
      exact hstill (by simpa using hspent)
    refine iff_of_false (fun hlegs => ?_) hfee
    obtain ⟨swap, hswap, hsame⟩ := Option.map_eq_some_iff.mp hlegs
    have hnosale : ¬ IsSale (feelessFacts order tx wallet r) := fun hsale => hstill hsale.1
    have hbuy := direction_of_not_isSale (f := feelessFacts order tx wallet r) hgained hlost hnosale
      hswap
    have hsell : swap.direction = .sell := congrArg (fun legs => legs.2.2.2.2) hsame
    rw [hbuy] at hsell
    cases hsell

/-- A swap of tokens is one without the fee if the fee hides no more than the threshold. -/
theorem tokens_withoutFee_iff (hreads : ReadsWallet tx wallet r) (hdex : InvokesDex tx r)
    (h : IsTokenSwap (factsOf order tx wallet r)) {input output : String × UInt64 × UInt8}
    (hinput : primaryToken (factsOf order tx wallet r).lost = some input)
    (houtput : primaryToken (factsOf order tx wallet r).gained = some output) :
    (parseSwapFromTransaction order (withoutFee tx) wallet).map legsOf =
      some (legsOf ((factsOf order tx wallet r).swap wallet .buy input output)) ↔
      r.seenSpent wallet + r.fee.toNat < MIN_SWAP_LAMPORTS := by
  have hsmall := h.2.2
  change ((r.seenSpent wallet).natAbs : Int) < MIN_SWAP_LAMPORTS at hsmall
  obtain ⟨hgained, hlost⟩ := factsOf_mints order tx wallet r
  rw [parse_withoutFee hreads hdex]
  by_cases hhidden : r.seenSpent wallet + r.fee.toNat < MIN_SWAP_LAMPORTS
  · have htokens : IsTokenSwap (feelessFacts order tx wallet r) := by
      refine ⟨h.1, h.2.1, ?_⟩
      change ((r.seenSpent wallet + r.fee.toNat).natAbs : Int) < MIN_SWAP_LAMPORTS
      omega
    obtain ⟨input', output', hinput', houtput', hverdict⟩ :=
      verdict_tokens wallet htokens hgained hlost
    cases hinput.symm.trans hinput'
    cases houtput.symm.trans houtput'
    rw [hverdict, Option.map_some]
    exact iff_of_true rfl hhidden
  · refine iff_of_false (fun hlegs => ?_) hhidden
    by_cases hpurchase : IsPurchase (feelessFacts order tx wallet r)
    · -- the SOL that the fee hid is the input
      obtain ⟨token, -, hverdict⟩ := verdict_purchase wallet hpurchase
      rw [hverdict, Option.map_some, Option.some_inj] at hlegs
      have hmint : WSOL_MINT = input.1 := congrArg Prod.fst hlegs
      exact hlost input (mem_of_primaryToken hinput) hmint.symm
    · -- on the threshold there is no swap
      have hnone := verdict_none wallet hpurchase
        (fun hsale => by
          have hreceived : r.seenSpent wallet + r.fee.toNat < -MIN_SWAP_LAMPORTS := hsale.1
          unfold MIN_SWAP_LAMPORTS at *
          omega)
        (fun htokens => by
          have hless : ((r.seenSpent wallet + r.fee.toNat).natAbs : Int) < MIN_SWAP_LAMPORTS :=
            htokens.2.2
          omega)
      rw [hnone] at hlegs
      cases hlegs

end Fee

/-! ## Faithful swaps -/

/-- The SOL leg of a swap is the wallet's own: another account paid no fee, what the caps take off the
totals of wrapped SOL cancels out, and the leg is within 64 bits. -/
structure SolLegFits (r : WalletReading) (wallet : String) (leg : Int) : Prop where
  fee : r.idx = 0 ∨ r.fee = 0
  wrapped : (2 ^ 64 : Int) ∣
    ownChange r.txMeta wallet WSOL_MINT - seenChange r.txMeta wallet WSOL_MINT
  range : 0 ≤ leg ∧ leg < 2 ^ 64

/-- The condition under which the parser reports a wallet's own legs, by the kind of the swap. -/
structure LegsFit (order : KeyOrder) (tx : SwapTransaction) (wallet : String)
    (r : WalletReading) : Prop where
  purchase : IsPurchase (factsOf order tx wallet r) →
    SolLegFits r wallet (r.ownSpent wallet) ∧
      ∀ token, primaryToken (factsOf order tx wallet r).gained = some token →
        TotalsFit r.txMeta wallet token.1
  sale : IsSale (factsOf order tx wallet r) →
    SolLegFits r wallet (-r.ownSpent wallet) ∧
      ∀ token, primaryToken (factsOf order tx wallet r).lost = some token →
        TotalsFit r.txMeta wallet token.1
  tokens : IsTokenSwap (factsOf order tx wallet r) →
    (r.idx = 0 ∨ r.seenSpent wallet + r.fee.toNat < MIN_SWAP_LAMPORTS) ∧
      (∀ token, primaryToken (factsOf order tx wallet r).lost = some token →
        TotalsFit r.txMeta wallet token.1) ∧
      ∀ token, primaryToken (factsOf order tx wallet r).gained = some token →
        TotalsFit r.txMeta wallet token.1

section Faithful

variable {order : KeyOrder} {tx : SwapTransaction} {wallet : String} {r : WalletReading}

/-- Where no other account paid a fee, only the caps of wrapped SOL separate what is seen spent from
what was spent. -/
theorem seenSpent_sub_ownSpent (h : r.idx = 0 ∨ r.fee = 0) :
    r.seenSpent wallet - r.ownSpent wallet =
      ownChange r.txMeta wallet WSOL_MINT - seenChange r.txMeta wallet WSOL_MINT := by
  unfold WalletReading.seenSpent WalletReading.ownSpent
  by_cases hpayer : r.idx = 0
  · rw [if_pos hpayer]
    omega
  · rw [if_neg hpayer, h.resolve_left hpayer, UInt64.toNat_zero]
    omega

/-- The amount of a gained token is the wallet's own exactly if its totals fit. -/
theorem gained_own_iff {token : String × UInt64 × UInt8}
    (htoken : primaryToken (factsOf order tx wallet r).gained = some token) :
    (token.2.1.toNat : Int) = ownChange r.txMeta wallet token.1 ↔
      TotalsFit r.txMeta wallet token.1 := by
  obtain ⟨-, hpos, hamount, -⟩ :=
    (mem_gained_iff order r.txMeta wallet token).mp (mem_of_primaryToken htoken)
  rw [hamount]
  exact seenChange_eq_ownChange_iff hpos.ne'

/-- The amount of a lost token is the wallet's own exactly if its totals fit. -/
theorem lost_own_iff {token : String × UInt64 × UInt8}
    (htoken : primaryToken (factsOf order tx wallet r).lost = some token) :
    (token.2.1.toNat : Int) = -ownChange r.txMeta wallet token.1 ↔
      TotalsFit r.txMeta wallet token.1 := by
  obtain ⟨-, hpos, hamount, -⟩ :=
    (mem_lost_iff order r.txMeta wallet token).mp (mem_of_primaryToken htoken)
  rw [hamount, neg_inj]
  exact seenChange_eq_ownChange_iff (by omega)

/-- A purchase is faithful exactly if its SOL leg and its token's totals fit. -/
theorem faithful_purchase_iff (hreads : ReadsWallet tx wallet r) (hdex : InvokesDex tx r)
    (h : IsPurchase (factsOf order tx wallet r)) {token : String × UInt64 × UInt8}
    (htoken : primaryToken (factsOf order tx wallet r).gained = some token) :
    FaithfulSwap order tx wallet r ((factsOf order tx wallet r).swap wallet .buy
        (WSOL_MINT, wrapU64 (r.seenSpent wallet), 9) token) ↔
      SolLegFits r wallet (r.ownSpent wallet) ∧ TotalsFit r.txMeta wallet token.1 := by
  have hmint := (factsOf_mints order tx wallet r).1 token (mem_of_primaryToken htoken)
  have hleg := toNat_wrapU64_eq_iff (r.seenSpent wallet) (r.ownSpent wallet)
  constructor
  · intro hfaithful
    have hfee : r.idx = 0 ∨ r.fee = 0 := by
      by_cases hpayer : r.idx = 0
      · exact .inl hpayer
      · exact .inr ((purchase_withoutFee_iff hreads hdex h htoken).mp (hfaithful.fee hpayer))
    obtain ⟨hrange, hwrapped⟩ := hleg.mp (hfaithful.legs.solIn rfl)
    rw [seenSpent_sub_ownSpent hfee] at hwrapped
    exact ⟨⟨hfee, hwrapped, hrange⟩, (gained_own_iff htoken).mp (hfaithful.legs.tokenOut hmint)⟩
  · rintro ⟨⟨hfee, hwrapped, hrange⟩, hfit⟩
    rw [← seenSpent_sub_ownSpent hfee] at hwrapped
    refine ⟨⟨fun _ => hleg.mpr ⟨hrange, hwrapped⟩, fun hout => absurd hout hmint,
      fun hin => absurd rfl hin, fun _ => (gained_own_iff htoken).mpr hfit⟩, fun hpayer => ?_⟩
    exact (purchase_withoutFee_iff hreads hdex h htoken).mpr (hfee.resolve_left hpayer)

/-- A sale is faithful exactly if its SOL leg and its token's totals fit. -/
theorem faithful_sale_iff (hreads : ReadsWallet tx wallet r) (hdex : InvokesDex tx r)
    (h : IsSale (factsOf order tx wallet r)) {token : String × UInt64 × UInt8}
    (htoken : primaryToken (factsOf order tx wallet r).lost = some token) :
    FaithfulSwap order tx wallet r ((factsOf order tx wallet r).swap wallet .sell token
        (WSOL_MINT, wrapU64 (-r.seenSpent wallet), 9)) ↔
      SolLegFits r wallet (-r.ownSpent wallet) ∧ TotalsFit r.txMeta wallet token.1 := by
  have hmint := (factsOf_mints order tx wallet r).2 token (mem_of_primaryToken htoken)
  have hleg := toNat_wrapU64_eq_iff (-r.seenSpent wallet) (-r.ownSpent wallet)
  have hneg : -r.seenSpent wallet - -r.ownSpent wallet =
      -(r.seenSpent wallet - r.ownSpent wallet) := by omega
  constructor
  · intro hfaithful
    have hfee : r.idx = 0 ∨ r.fee = 0 := by
      by_cases hpayer : r.idx = 0
      · exact .inl hpayer
      · exact .inr ((sale_withoutFee_iff hreads hdex h htoken).mp (hfaithful.fee hpayer))
    obtain ⟨hrange, hwrapped⟩ := hleg.mp (hfaithful.legs.solOut rfl)
    rw [hneg, Int.dvd_neg, seenSpent_sub_ownSpent hfee] at hwrapped
    exact ⟨⟨hfee, hwrapped, hrange⟩, (lost_own_iff htoken).mp (hfaithful.legs.tokenIn hmint)⟩
  · rintro ⟨⟨hfee, hwrapped, hrange⟩, hfit⟩
    rw [← seenSpent_sub_ownSpent hfee, ← Int.dvd_neg, ← hneg] at hwrapped
    refine ⟨⟨fun hin => absurd hin hmint, fun _ => hleg.mpr ⟨hrange, hwrapped⟩,
      fun _ => (lost_own_iff htoken).mpr hfit, fun hout => absurd rfl hout⟩, fun hpayer => ?_⟩
    exact (sale_withoutFee_iff hreads hdex h htoken).mpr (hfee.resolve_left hpayer)

/-- A swap of tokens is faithful exactly if the fee does not hide it and both totals fit. -/
theorem faithful_tokens_iff (hreads : ReadsWallet tx wallet r) (hdex : InvokesDex tx r)
    (h : IsTokenSwap (factsOf order tx wallet r)) {input output : String × UInt64 × UInt8}
    (hinput : primaryToken (factsOf order tx wallet r).lost = some input)
    (houtput : primaryToken (factsOf order tx wallet r).gained = some output) :
    FaithfulSwap order tx wallet r ((factsOf order tx wallet r).swap wallet .buy input output) ↔
      (r.idx = 0 ∨ r.seenSpent wallet + r.fee.toNat < MIN_SWAP_LAMPORTS) ∧
        TotalsFit r.txMeta wallet input.1 ∧ TotalsFit r.txMeta wallet output.1 := by
  have hin := (factsOf_mints order tx wallet r).2 input (mem_of_primaryToken hinput)
  have hout := (factsOf_mints order tx wallet r).1 output (mem_of_primaryToken houtput)
  constructor
  · intro hfaithful
    refine ⟨?_, (lost_own_iff hinput).mp (hfaithful.legs.tokenIn hin),
      (gained_own_iff houtput).mp (hfaithful.legs.tokenOut hout)⟩
    by_cases hpayer : r.idx = 0
    · exact .inl hpayer
    · exact .inr ((tokens_withoutFee_iff hreads hdex h hinput houtput).mp (hfaithful.fee hpayer))
  · rintro ⟨hfee, hfitIn, hfitOut⟩
    refine ⟨⟨fun h => absurd h hin, fun h => absurd h hout,
      fun _ => (lost_own_iff hinput).mpr hfitIn, fun _ => (gained_own_iff houtput).mpr hfitOut⟩,
      fun hpayer => ?_⟩
    exact (tokens_withoutFee_iff hreads hdex h hinput houtput).mpr (hfee.resolve_left hpayer)

end Faithful

/-- **Faithful swaps.** Every swap that the parser reports is faithful to the wallet if and only if the
legs fit. -/
theorem swaps_faithful_iff (order : KeyOrder) (tx : SwapTransaction) (wallet : String) :
    (∀ swap r, parseSwapFromTransaction order tx wallet = some swap → ReadsWallet tx wallet r →
        FaithfulSwap order tx wallet r swap) ↔
      ∀ r, ReadsWallet tx wallet r → InvokesDex tx r → LegsFit order tx wallet r := by
  constructor
  · intro h r hreads hdex
    have hparse := @parseSwap_of_reads order _ _ _ hreads hdex
    refine ⟨fun hpurchase => ?_, fun hsale => ?_, fun htokens => ?_⟩
    · obtain ⟨token, htoken, hverdict⟩ := verdict_purchase wallet hpurchase
      have hfit := (faithful_purchase_iff hreads hdex hpurchase htoken).mp
        (h _ r (hparse.trans hverdict) hreads)
      refine ⟨hfit.1, fun token' htoken' => ?_⟩
      cases htoken.symm.trans htoken'
      exact hfit.2
    · obtain ⟨token, htoken, hverdict⟩ := verdict_sale wallet hsale
      have hfit := (faithful_sale_iff hreads hdex hsale htoken).mp
        (h _ r (hparse.trans hverdict) hreads)
      refine ⟨hfit.1, fun token' htoken' => ?_⟩
      cases htoken.symm.trans htoken'
      exact hfit.2
    · obtain ⟨hgained, hlost⟩ := factsOf_mints order tx wallet r
      obtain ⟨input, output, hinput, houtput, hverdict⟩ :=
        verdict_tokens wallet htokens hgained hlost
      have hfit := (faithful_tokens_iff hreads hdex htokens hinput houtput).mp
        (h _ r (hparse.trans hverdict) hreads)
      refine ⟨hfit.1, fun token' htoken' => ?_, fun token' htoken' => ?_⟩
      · cases hinput.symm.trans htoken'
        exact hfit.2.1
      · cases houtput.symm.trans htoken'
        exact hfit.2.2
  · intro h swap r' hswap hreads'
    obtain ⟨r, hreads, hdex, hverdict⟩ := verdict_of_parseSwap hswap
    rw [hreads'.unique hreads]
    have hfit := h r hreads hdex
    cases hverdict with
    | purchase hpurchase htoken =>
        obtain ⟨hleg, htotals⟩ := hfit.purchase hpurchase
        exact (faithful_purchase_iff hreads hdex hpurchase htoken).mpr ⟨hleg, htotals _ htoken⟩
    | sale hsale htoken =>
        obtain ⟨hleg, htotals⟩ := hfit.sale hsale
        exact (faithful_sale_iff hreads hdex hsale htoken).mpr ⟨hleg, htotals _ htoken⟩
    | tokens htokens hinput houtput =>
        obtain ⟨hfee, hin, hout⟩ := hfit.tokens htokens
        exact (faithful_tokens_iff hreads hdex htokens hinput houtput).mpr
          ⟨hfee, hin _ hinput, hout _ houtput⟩

/-- A sponsored purchase of five tokens for a million lamports. -/
def sponsoredPurchase : SwapTransaction :=
  sampleSwapTx 8995000 5000000 4000000 [] [⟨some "w", some "bonk", some 5000000, some 6⟩]

/-- The fee of the sponsor is taken off the wallet's million. -/
theorem swaps_not_faithful :
    (parseSwapFromTransaction keysAsListed sponsoredPurchase "w").map legsOf =
      some (WSOL_MINT, "bonk", 995000, 5000000, .buy) ∧
    ¬ ∀ order tx wallet swap r, parseSwapFromTransaction order tx wallet = some swap →
      ReadsWallet tx wallet r → FaithfulSwap order tx wallet r swap := by
  have hlegs : (parseSwapFromTransaction keysAsListed sponsoredPurchase "w").map legsOf =
      some (WSOL_MINT, "bonk", 995000, 5000000, .buy) := by decide +kernel
  refine ⟨hlegs, fun h => ?_⟩
  obtain ⟨swap, hswap, hsame⟩ := Option.map_eq_some_iff.mp hlegs
  have hfaithful := h keysAsListed sponsoredPurchase "w" swap _ hswap
    (sampleReading_reads 8995000 5000000 4000000 []
      [⟨some "w", some "bonk", some 5000000, some 6⟩])
  have hmint : swap.inputMint = WSOL_MINT := congrArg Prod.fst hsame
  have hamount : swap.inputAmount = 995000 := congrArg (fun legs => legs.2.2.1) hsame
  have hspent := hfaithful.legs.solIn hmint
  rw [hamount] at hspent
  exact absurd hspent (by decide +kernel)

end SolanaBot.Analysis
