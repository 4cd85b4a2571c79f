import SolanaBot.Analysis.SwapCandidates

/-!
# Swaps and the order of the balances

The verdict on a transaction is the same for every order in which its token balances are listed, and for
every order of the hash maps, exactly if its legs have one candidate each (`orderBlind_iff`): one mint
changed most, or one of those that were not held before, and its entries name the same decimals.
-/

set_option autoImplicit false

namespace SolanaBot.Analysis

open SolanaBot.Library SolanaBot.Model

/-! ## Transactions with another listing -/

/-- The transaction with its token balances listed otherwise. -/
def relisted (tx : SwapTransaction) (pre post : List OwnedBalance) : SwapTransaction :=
  { tx with txMeta := tx.txMeta.map fun m => listedAs m pre post }

/-- What is read of it. -/
def WalletReading.relisted (r : WalletReading) (pre post : List OwnedBalance) : WalletReading :=
  { r with txMeta := listedAs r.txMeta pre post }

section Readings

variable {tx : SwapTransaction} {wallet : String} {r : WalletReading} {pre post : List OwnedBalance}

/-- A relisted transaction is read as the relisted reading. -/
theorem reads_relisted (h : ReadsWallet tx wallet r) :
    ReadsWallet (relisted tx pre post) wallet (r.relisted pre post) :=
  ⟨congrArg (Option.map fun m => listedAs m pre post) h.found, h.succeeded, h.keys, h.position,
    h.balances⟩

/-- Every reading of a relisted transaction is one of the transaction. -/
theorem reads_of_relisted (h : ReadsWallet (relisted tx pre post) wallet r) :
    ∃ r', ReadsWallet tx wallet r' ∧ r = r'.relisted pre post := by
  obtain ⟨m, hm, hlisted⟩ := Option.map_eq_some_iff.mp h.found
  obtain ⟨m', keys, idx, preSol, postSol⟩ := r
  cases hlisted
  exact ⟨⟨m, keys, idx, preSol, postSol⟩, ⟨hm, h.succeeded, h.keys, h.position, h.balances⟩, rfl⟩

/-- The listing does not matter to the venue. -/
theorem invokesDex_relisted :
    InvokesDex (relisted tx pre post) (r.relisted pre post) ↔ InvokesDex tx r := Iff.rfl

end Readings

/-- Without a reading of a transaction that calls a known program there is no swap. -/
theorem parseSwap_eq_none {order : KeyOrder} {tx : SwapTransaction} {wallet : String}
    (h : ∀ r, ReadsWallet tx wallet r → ¬ InvokesDex tx r) :
    parseSwapFromTransaction order tx wallet = none := by
  refine Option.eq_none_iff_forall_ne_some.mpr fun swap hswap => ?_
  obtain ⟨r, hreads, hdex, -⟩ := (parseSwap_eq_some_iff order tx wallet swap).mp hswap
  exact h r hreads hdex

/-- The facts with other gained and lost tokens. -/
def withTokens (f : SwapFacts) (gained lost : List (String × UInt64 × UInt8)) : SwapFacts :=
  { f with gained, lost }

section Listed

variable (order order' : KeyOrder) (tx : SwapTransaction) (wallet : String) (r : WalletReading)
variable (pre post : List OwnedBalance)

/-- The tokens gained and lost in another listing. -/
def listedGains : List (String × UInt64 × UInt8) :=
  pickedTokens order (listedAs r.txMeta pre post) wallet (seenChange r.txMeta wallet)

/-- The tokens lost, in the order of the listing. -/
def listedLosses : List (String × UInt64 × UInt8) :=
  pickedTokens order (listedAs r.txMeta pre post) wallet fun mint => -seenChange r.txMeta wallet mint

variable {wallet r pre post} (hlisting : Listing r.txMeta pre post)
include hlisting

/-- Another listing changes the tokens alone. -/
theorem factsOf_relisted :
    factsOf order (relisted tx pre post) wallet (r.relisted pre post) =
      withTokens (factsOf order' tx wallet r) (listedGains order wallet r pre post)
        (listedLosses order wallet r pre post) := by
  have hgained := changesOf_gained order (listedAs r.txMeta pre post) wallet
  have hlost := changesOf_lost order (listedAs r.txMeta pre post) wallet
  have hspent : (r.relisted pre post).seenSpent wallet = r.seenSpent wallet := by
    unfold WalletReading.seenSpent
    rw [show seenChange (r.relisted pre post).txMeta wallet = seenChange r.txMeta wallet from
      seenChange_listedAs hlisting wallet]
    rfl
  rw [seenChange_listedAs hlisting wallet] at hgained hlost
  unfold factsOf
  rw [hspent]
  exact congrArg₂ (fun gained lost => withTokens (factsOf order' tx wallet r) gained lost)
    hgained hlost

/-- A token is gained in every listing or in none. -/
theorem listedGains_eq_nil_iff :
    listedGains order wallet r pre post = [] ↔ (factsOf order' tx wallet r).gained = [] := by
  have hamount := seenAmount_gain r.txMeta wallet
  have hlisted := pickedTokens_ne_nil_iff order (seenAmount_listedAs hlisting wallet hamount)
  have hfacts : (factsOf order' tx wallet r).gained ≠ [] ↔ _ :=
    gained_ne_nil_iff order' r.txMeta wallet
  exact not_iff_not.mp (hlisted.trans hfacts.symm)

/-- Something is lost in one listing exactly if it is in the other. -/
theorem listedLosses_eq_nil_iff :
    listedLosses order wallet r pre post = [] ↔ (factsOf order' tx wallet r).lost = [] := by
  have hamount := seenAmount_loss r.txMeta wallet
  have hlisted := pickedTokens_ne_nil_iff order (seenAmount_listedAs hlisting wallet hamount)
  have hfacts : (factsOf order' tx wallet r).lost ≠ [] ↔ _ := lost_ne_nil_iff order' r.txMeta wallet
  exact not_iff_not.mp (hlisted.trans hfacts.symm)

/-- With one candidate the same gain is picked. -/
theorem primary_listedGains (hone : OneCandidate r.txMeta wallet (seenChange r.txMeta wallet)) :
    primaryToken (listedGains order wallet r pre post) =
      primaryToken (factsOf order' tx wallet r).gained :=
  (primary_eq_of_oneCandidate (seenAmount_gain r.txMeta wallet) hone hlisting order order').trans
    (congrArg primaryToken (changesOf_gained order' r.txMeta wallet).symm)

/-- With one candidate the primary token lost does not depend on the listing. -/
theorem primary_listedLosses
    (hone : OneCandidate r.txMeta wallet fun mint => -seenChange r.txMeta wallet mint) :
    primaryToken (listedLosses order wallet r pre post) =
      primaryToken (factsOf order' tx wallet r).lost :=
  (primary_eq_of_oneCandidate (seenAmount_loss r.txMeta wallet) hone hlisting order order').trans
    (congrArg primaryToken (changesOf_lost order' r.txMeta wallet).symm)

/-- The verdict on another listing. -/
theorem parseSwap_relisted (hreads : ReadsWallet tx wallet r) (hdex : InvokesDex tx r) :
    parseSwapFromTransaction order (relisted tx pre post) wallet =
      swapVerdict (withTokens (factsOf order' tx wallet r)
        (listedGains order wallet r pre post) (listedLosses order wallet r pre post)) wallet := by
  rw [parseSwap_of_reads (reads_relisted hreads) (invokesDex_relisted.mpr hdex),
    factsOf_relisted order order' tx hlisting]

end Listed

/-! ## Verdicts on other tokens -/

/-- The verdict depends on the tokens that are picked for the legs of its kind. -/
theorem swapVerdict_withTokens (f : SwapFacts) (wallet : String)
    {gained lost : List (String × UInt64 × UInt8)} (hgained : gained = [] ↔ f.gained = [])
    (hlost : lost = [] ↔ f.lost = [])
    (hbuy : MIN_SWAP_LAMPORTS < f.totalSolSpent → primaryToken gained = primaryToken f.gained)
    (hsell : f.totalSolSpent < -MIN_SWAP_LAMPORTS → primaryToken lost = primaryToken f.lost)
    (htokens : IsTokenSwap f →
      primaryToken gained = primaryToken f.gained ∧ primaryToken lost = primaryToken f.lost) :
    swapVerdict (withTokens f gained lost) wallet = swapVerdict f wallet := by
  have hbuySwap : (withTokens f gained lost).buySwap wallet = f.buySwap wallet := by
    by_cases hpurchase : IsPurchase f
    · have hpurchase' : IsPurchase (withTokens f gained lost) :=
        ⟨hpurchase.1, mt hgained.mp hpurchase.2⟩
      refine (if_pos hpurchase').trans (Eq.trans ?_ (if_pos hpurchase).symm)
      exact congrArg (Option.map _) (hbuy hpurchase.1)
    · have hpurchase' : ¬ IsPurchase (withTokens f gained lost) :=
        fun h => hpurchase ⟨h.1, mt hgained.mpr h.2⟩
      rw [buySwap_eq_none wallet hpurchase, buySwap_eq_none wallet hpurchase']
  have hsellSwap : (withTokens f gained lost).sellSwap wallet = f.sellSwap wallet := by
    by_cases hsale : IsSale f
    · have hsale' : IsSale (withTokens f gained lost) := ⟨hsale.1, mt hlost.mp hsale.2⟩
      refine (if_pos hsale').trans (Eq.trans ?_ (if_pos hsale).symm)
      exact congrArg (Option.map _) (hsell hsale.1)
    · have hsale' : ¬ IsSale (withTokens f gained lost) :=
        fun h => hsale ⟨h.1, mt hlost.mpr h.2⟩
      rw [sellSwap_eq_none wallet hsale, sellSwap_eq_none wallet hsale']
  have htokenSwap : (withTokens f gained lost).tokenSwap wallet = f.tokenSwap wallet := by
    by_cases hswap : IsTokenSwap f
    · have hswap' : IsTokenSwap (withTokens f gained lost) :=
        ⟨mt hlost.mp hswap.1, mt hgained.mp hswap.2.1, hswap.2.2⟩
      obtain ⟨hsameGained, hsameLost⟩ := htokens hswap
      refine (if_pos hswap').trans (Eq.trans ?_ (if_pos hswap).symm)
      unfold withTokens
      dsimp only
      rw [hsameGained, hsameLost]
      rfl
    · have hswap' : ¬ IsTokenSwap (withTokens f gained lost) :=
        fun h => hswap ⟨mt hlost.mpr h.1, mt hgained.mpr h.2.1, h.2.2⟩
      rw [tokenSwap_eq_none wallet hswap, tokenSwap_eq_none wallet hswap']
  unfold swapVerdict
  rw [hbuySwap, hsellSwap, htokenSwap]

/-! ## Decided legs -/

/-- A property of the amounts that the verdict names: of what was gained in a purchase, of what was lost
in a sale, and of both in a swap of tokens. -/
structure OnLegs (r : WalletReading) (wallet : String) (P : (String → Int) → Prop) : Prop where
  purchase : MIN_SWAP_LAMPORTS < r.seenSpent wallet → P (seenChange r.txMeta wallet)
  sale : r.seenSpent wallet < -MIN_SWAP_LAMPORTS → P fun mint => -seenChange r.txMeta wallet mint
  tokens : |r.seenSpent wallet| < MIN_SWAP_LAMPORTS →
    (∃ mint, mint ≠ WSOL_MINT ∧ 0 < seenChange r.txMeta wallet mint) →
    (∃ mint, mint ≠ WSOL_MINT ∧ 0 < -seenChange r.txMeta wallet mint) →
    P (seenChange r.txMeta wallet) ∧ P fun mint => -seenChange r.txMeta wallet mint

/-- Each leg of the verdict has one candidate. -/
def Decided (r : WalletReading) (wallet : String) : Prop :=
  OnLegs r wallet (OneCandidate r.txMeta wallet)

/-- The parser comes to the same verdict in every order of the token balances and of the hash maps. -/
def OrderBlind (tx : SwapTransaction) (wallet : String) : Prop :=
  ∀ m, tx.txMeta = some m → ∀ pre post, Listing m pre post → ∀ order order',
    parseSwapFromTransaction order (relisted tx pre post) wallet =
      parseSwapFromTransaction order' tx wallet

/-- Where every reading is decided the order does not matter. -/
theorem orderBlind_of_decided {tx : SwapTransaction} {wallet : String}
    (h : ∀ r, ReadsWallet tx wallet r → InvokesDex tx r → Decided r wallet) : OrderBlind tx wallet := by
  intro m hm pre post hlisting order order'
  by_cases hreading : ∃ r, ReadsWallet tx wallet r ∧ InvokesDex tx r
  · obtain ⟨r, hreads, hdex⟩ := hreading
    cases hreads.found.symm.trans hm
    have hdecided := h r hreads hdex
    rw [parseSwap_relisted order order' tx hlisting hreads hdex, parseSwap_of_reads hreads hdex]
    refine swapVerdict_withTokens _ wallet (listedGains_eq_nil_iff order order' tx hlisting)
      (listedLosses_eq_nil_iff order order' tx hlisting)
      (fun hspent => primary_listedGains order order' tx hlisting (hdecided.purchase hspent))
      (fun hspent => primary_listedLosses order order' tx hlisting (hdecided.sale hspent))
      fun hswap => ?_
    obtain ⟨hspent, hgain, hloss⟩ := isTokenSwap_factsOf_iff.mp hswap
    obtain ⟨hgains, hlosses⟩ := hdecided.tokens hspent hgain hloss
    exact ⟨primary_listedGains order order' tx hlisting hgains,
      primary_listedLosses order order' tx hlisting hlosses⟩
  · have hnone : ∀ r, ReadsWallet tx wallet r → ¬ InvokesDex tx r :=
      fun r hreads hdex => hreading ⟨r, hreads, hdex⟩
    rw [parseSwap_eq_none hnone]
    refine parseSwap_eq_none fun r' hreads' hdex' => ?_
    obtain ⟨r, hreads, rfl⟩ := reads_of_relisted hreads'
    exact hnone r hreads (invokesDex_relisted.mp hdex')

/-! ## Every candidate becomes a leg -/

/-- Some order of the balances and of the hash maps brings a leg about. -/
def LegReached (tx : SwapTransaction) (wallet : String) (m : SwapMeta)
    (leg : ParsedSwap → String × UInt8) (c : String × UInt8) : Prop :=
  ∃ order pre post, Listing m pre post ∧ ∃ swap,
    parseSwapFromTransaction order (relisted tx pre post) wallet = some swap ∧ leg swap = c

/-- In no more than one way, if the orders do not matter. -/
theorem oneCandidate_of_orderBlind {tx : SwapTransaction} {wallet : String} {m : SwapMeta}
    {amount : String → Int} {leg : ParsedSwap → String × UInt8} (hm : tx.txMeta = some m)
    (hblind : OrderBlind tx wallet)
    (hreached : ∀ c, Candidate m wallet amount c → LegReached tx wallet m leg c) :
    OneCandidate m wallet amount := by
  intro c c' hc hc'
  obtain ⟨order, pre, post, hlisting, swap, hswap, rfl⟩ := hreached c hc
  obtain ⟨order', pre', post', hlisting', swap', hswap', rfl⟩ := hreached c' hc'
  rw [hblind m hm pre post hlisting order keysAsListed] at hswap
  rw [hblind m hm pre' post' hlisting' order' keysAsListed] at hswap'
  rw [Option.some.inj (hswap.symm.trans hswap')]

/-- The leg of a swap that comes in, and the one that goes out. -/
def boughtLeg (swap : ParsedSwap) : String × UInt8 := (swap.outputMint, swap.outputDecimals)

/-- The leg that is sold. -/
def soldLeg (swap : ParsedSwap) : String × UInt8 := (swap.inputMint, swap.inputDecimals)

section Reach

variable {tx : SwapTransaction} {wallet : String} {r : WalletReading}
variable (hreads : ReadsWallet tx wallet r) (hdex : InvokesDex tx r)
include hreads hdex

/-- Every candidate of a purchase is bought in some listing. -/
theorem legReached_purchase (hspent : MIN_SWAP_LAMPORTS < r.seenSpent wallet) (c : String × UInt8)
    (hc : Candidate r.txMeta wallet (seenChange r.txMeta wallet) c) :
    LegReached tx wallet r.txMeta boughtLeg c := by
  obtain ⟨order, pre, post, hlisting, t, ht, rfl⟩ :=
    primary_of_candidate (seenAmount_gain r.txMeta wallet) hc
  have hparse := parseSwap_relisted order keysAsListed tx hlisting hreads hdex
  have hpurchase : IsPurchase (withTokens (factsOf keysAsListed tx wallet r)
      (listedGains order wallet r pre post) (listedLosses order wallet r pre post)) :=
    ⟨hspent, List.ne_nil_of_mem (mem_of_primaryToken ht)⟩
  obtain ⟨token, htoken, hverdict⟩ := verdict_purchase wallet hpurchase
  cases htoken.symm.trans ht
  exact ⟨order, pre, post, hlisting, _, hparse.trans hverdict, rfl⟩

/-- Every candidate of a sale is sold in some listing. -/
theorem legReached_sale (hspent : r.seenSpent wallet < -MIN_SWAP_LAMPORTS) (c : String × UInt8)
    (hc : Candidate r.txMeta wallet (fun mint => -seenChange r.txMeta wallet mint) c) :
    LegReached tx wallet r.txMeta soldLeg c := by
  obtain ⟨order, pre, post, hlisting, t, ht, rfl⟩ :=
    primary_of_candidate (seenAmount_loss r.txMeta wallet) hc
  have hparse := parseSwap_relisted order keysAsListed tx hlisting hreads hdex
  have hsale : IsSale (withTokens (factsOf keysAsListed tx wallet r)
      (listedGains order wallet r pre post) (listedLosses order wallet r pre post)) :=
    ⟨hspent, List.ne_nil_of_mem (mem_of_primaryToken ht)⟩
  obtain ⟨token, htoken, hverdict⟩ := verdict_sale wallet hsale
  cases htoken.symm.trans ht
  exact ⟨order, pre, post, hlisting, _, hparse.trans hverdict, rfl⟩

/-- A swap of tokens names what is picked of either side. -/
theorem parseSwap_tokens (hspent : |r.seenSpent wallet| < MIN_SWAP_LAMPORTS)
    (hgain : ∃ mint, mint ≠ WSOL_MINT ∧ 0 < seenChange r.txMeta wallet mint)
    (hloss : ∃ mint, mint ≠ WSOL_MINT ∧ 0 < -seenChange r.txMeta wallet mint)
    (order : KeyOrder) {pre post : List OwnedBalance} (hlisting : Listing r.txMeta pre post) :
    ∃ input output, primaryToken (listedLosses order wallet r pre post) = some input ∧
      primaryToken (listedGains order wallet r pre post) = some output ∧
      ∃ swap, parseSwapFromTransaction order (relisted tx pre post) wallet = some swap ∧
        soldLeg swap = (input.1, input.2.2) ∧ boughtLeg swap = (output.1, output.2.2) := by
  have hmints := factsOf_mints order (relisted tx pre post) wallet (r.relisted pre post)
  rw [factsOf_relisted order keysAsListed tx hlisting] at hmints
  have hseen : IsTokenSwap (factsOf keysAsListed tx wallet r) :=
    isTokenSwap_factsOf_iff.mpr ⟨hspent, hgain, hloss⟩
  have hswap : IsTokenSwap (withTokens (factsOf keysAsListed tx wallet r)
      (listedGains order wallet r pre post) (listedLosses order wallet r pre post)) :=
    ⟨mt (listedLosses_eq_nil_iff order keysAsListed tx hlisting).mp hseen.1,
      mt (listedGains_eq_nil_iff order keysAsListed tx hlisting).mp hseen.2.1, hseen.2.2⟩
  obtain ⟨input, output, hinput, houtput, hverdict⟩ :=
    verdict_tokens wallet hswap hmints.1 hmints.2
  have hparse := parseSwap_relisted order keysAsListed tx hlisting hreads hdex
  exact ⟨input, output, hinput, houtput, _, hparse.trans hverdict, rfl, rfl⟩

/-- Where the order does not matter every reading is decided. -/
theorem decided_of_orderBlind (hblind : OrderBlind tx wallet) : Decided r wallet := by
  refine ⟨fun hspent => ?_, fun hspent => ?_, fun hspent hgain hloss => ⟨?_, ?_⟩⟩
  · exact oneCandidate_of_orderBlind hreads.found hblind (legReached_purchase hreads hdex hspent)
  · exact oneCandidate_of_orderBlind hreads.found hblind (legReached_sale hreads hdex hspent)
  · refine @oneCandidate_of_orderBlind tx wallet _ _ boughtLeg hreads.found hblind fun c hc => ?_
    obtain ⟨order, pre, post, hlisting, t, ht, rfl⟩ :=
      primary_of_candidate (seenAmount_gain r.txMeta wallet) hc
    obtain ⟨input, output, -, houtput, swap, hswap, -, hleg⟩ :=
      parseSwap_tokens hreads hdex hspent hgain hloss order hlisting
    cases houtput.symm.trans ht
    exact ⟨order, pre, post, hlisting, swap, hswap, hleg⟩
  · refine @oneCandidate_of_orderBlind tx wallet _ _ soldLeg hreads.found hblind fun c hc => ?_
    obtain ⟨order, pre, post, hlisting, t, ht, rfl⟩ :=
      primary_of_candidate (seenAmount_loss r.txMeta wallet) hc
    obtain ⟨input, output, hinput, -, swap, hswap, hleg, -⟩ :=
      parseSwap_tokens hreads hdex hspent hgain hloss order hlisting
    cases hinput.symm.trans ht
    exact ⟨order, pre, post, hlisting, swap, hswap, hleg⟩

end Reach

/-- **Order of the balances.** The verdict does not depend on the orders exactly if its legs have one
candidate each. -/
theorem orderBlind_iff (tx : SwapTransaction) (wallet : String) :
    OrderBlind tx wallet ↔ ∀ r, ReadsWallet tx wallet r → InvokesDex tx r → Decided r wallet :=
  ⟨fun hblind _ hreads hdex => decided_of_orderBlind hreads hdex hblind, orderBlind_of_decided⟩

/-- Two tokens are bought at once, in equal amounts. -/
def twinPost : List OwnedBalance :=
  [⟨some "w", some "bonk", some 5000000, some 6⟩, ⟨some "w", some "wif", some 5000000, some 6⟩]

/-- A purchase of two tokens in one transaction. -/
def twinPurchase : SwapTransaction := sampleSwapTx 8995000 2000000 1000000 [] twinPost

/-- The maps are walked backwards. -/
def reverseOrder : KeyOrder := ⟨List.reverse, List.reverse_perm⟩

/-- The token that is reported of two equal gains is the one that its hash map comes to last. -/
theorem swap_depends_on_order :
    (parseSwapFromTransaction keysAsListed twinPurchase "w").map boughtLeg = some ("wif", 6) ∧
      (parseSwapFromTransaction reverseOrder twinPurchase "w").map boughtLeg = some ("bonk", 6) ∧
      ¬ ∀ tx wallet, OrderBlind tx wallet := by
  have hforwards : (parseSwapFromTransaction keysAsListed twinPurchase "w").map boughtLeg =
      some ("wif", 6) := by decide +kernel
  have hbackwards : (parseSwapFromTransaction reverseOrder twinPurchase "w").map boughtLeg =
      some ("bonk", 6) := by decide +kernel
  refine ⟨hforwards, hbackwards, fun h => ?_⟩
  have hsame := h twinPurchase "w" _ rfl [] twinPost ⟨List.Perm.refl _, List.Perm.refl _⟩
    reverseOrder keysAsListed
  have hlegs := congrArg (Option.map boughtLeg) hsame
  rw [hforwards] at hlegs
  exact absurd (hlegs.symm.trans hbackwards) (by decide)

end SolanaBot.Analysis
