import SolanaBot.Analysis.OwnedTokens
import SolanaBot.Analysis.TokenConservation

/-!
# What the swap parser reads and what it decides

The parser goes on if the transaction succeeded, names the wallet among its accounts and lists the
balances (`ReadsWallet`), and calls a known program (`InvokesDex`). What it then knows is `factsOf` the
reading (`swapFacts_eq_some_iff`), and its verdict is a purchase, a sale or a swap of tokens by the
SOL that it sees spent (`verdict_purchase`, `verdict_sale`, `verdict_tokens`, `verdict_of_parseSwap`).
-/

set_option autoImplicit false

namespace SolanaBot.Analysis

open SolanaBot.Library SolanaBot.Model

/-! ## Readings -/

/-- What the parser reads of a transaction before it looks at programs and tokens. -/
structure WalletReading where
  txMeta : SwapMeta
  keys : List String
  /-- The position of the wallet among the accounts. -/
  idx : ℕ
  preSol : UInt64
  postSol : UInt64

/-- The reading of a transaction. -/
structure ReadsWallet (tx : SwapTransaction) (wallet : String) (r : WalletReading) : Prop where
  found : tx.txMeta = some r.txMeta
  succeeded : r.txMeta.err = none
  keys : buildAllAccountKeys tx r.txMeta = some r.keys
  position : (r.keys.findIdx? fun k => k = wallet) = some r.idx
  balances : ∃ pre post, r.txMeta.preBalances = some pre ∧ r.txMeta.postBalances = some post ∧
    pre.length = post.length ∧ pre[r.idx]? = some (some r.preSol) ∧
      post[r.idx]? = some (some r.postSol)

namespace WalletReading

/-- The fee of the transaction. -/
def fee (r : WalletReading) : UInt64 := r.txMeta.fee.getD 0

/-- The change of the wallet's lamports. -/
def native (r : WalletReading) : Int := (r.postSol.toNat : Int) - r.preSol.toNat

/-- The SOL that the parser sees spent. -/
def seenSpent (r : WalletReading) (wallet : String) : Int :=
  -r.native - seenChange r.txMeta wallet WSOL_MINT - r.fee.toNat

end WalletReading

/-- The transaction calls a known program, at the top level or from another program. -/
def InvokesDex (tx : SwapTransaction) (r : WalletReading) : Prop :=
  ∃ idx ∈ tx.instructions ++ r.txMeta.innerInstructions.flatten, ∃ i, idx = some i ∧
    (dexOf r.keys i).isSome

/-- No known program is called "unknown". -/
theorem dexOf_ne_unknown {keys : List String} {i : UInt64} {dex : String}
    (h : dexOf keys i = some dex) : dex ≠ "unknown" := by
  unfold dexOf at h
  obtain ⟨key, -, h⟩ := Option.bind_eq_some_iff.mp h
  obtain ⟨program, hprogram, h⟩ := Option.bind_eq_some_iff.mp h
  have hnames : ∀ p ∈ DEX_PROGRAMS, p.2 ≠ "unknown" := by decide
  split at h
  · cases h
  · cases h
    exact hnames program (List.mem_of_find?_eq_some hprogram)

/-- A venue is detected exactly if a program of one is invoked. -/
theorem detectDex_ne_unknown_iff (tx : SwapTransaction) (r : WalletReading) :
    detectDex tx r.txMeta r.keys ≠ "unknown" ↔ InvokesDex tx r := by
  unfold detectDex InvokesDex
  cases hfind : (tx.instructions ++ r.txMeta.innerInstructions.flatten).findSome? fun idx =>
      idx.bind (dexOf r.keys) with
  | none =>
      rw [List.findSome?_eq_none_iff] at hfind
      refine ⟨fun h => absurd rfl h, ?_⟩
      rintro ⟨_, hmem, i, rfl, hdex⟩
      have hnone : dexOf r.keys i = none := hfind _ hmem
      rw [hnone] at hdex
      cases hdex
  | some dex =>
      obtain ⟨idx, hmem, hdex⟩ := List.exists_of_findSome?_eq_some hfind
      obtain ⟨i, rfl, hknown⟩ := Option.bind_eq_some_iff.mp hdex
      refine ⟨fun _ => ⟨some i, hmem, i, rfl, ?_⟩, fun _ => dexOf_ne_unknown hknown⟩
      rw [hknown]
      rfl

/-- What the parser knows from a reading. -/
def factsOf (order : KeyOrder) (tx : SwapTransaction) (wallet : String) (r : WalletReading) :
    SwapFacts :=
  { signature := tx.signature.getD ""
    slot := tx.slot.getD 0
    blockTime := tx.blockTime.getD 0
    fee := r.fee
    dex := detectDex tx r.txMeta r.keys
    totalSolSpent := r.seenSpent wallet
    gained := (changesOf order r.txMeta wallet).gained
    lost := (changesOf order r.txMeta wallet).lost }

/-- What is gained or lost is no wrapped SOL. -/
theorem factsOf_mints (order : KeyOrder) (tx : SwapTransaction) (wallet : String)
    (r : WalletReading) :
    (∀ t ∈ (factsOf order tx wallet r).gained, t.1 ≠ WSOL_MINT) ∧
      ∀ t ∈ (factsOf order tx wallet r).lost, t.1 ≠ WSOL_MINT :=
  ⟨fun t ht => ((mem_gained_iff order r.txMeta wallet t).mp ht).1,
    fun t ht => ((mem_lost_iff order r.txMeta wallet t).mp ht).1⟩

/-- A transaction has one reading. -/
theorem ReadsWallet.unique {tx : SwapTransaction} {wallet : String} {r r' : WalletReading}
    (h : ReadsWallet tx wallet r) (h' : ReadsWallet tx wallet r') : r = r' := by
  obtain ⟨m, keys, idx, preSol, postSol⟩ := r
  obtain ⟨m', keys', idx', preSol', postSol'⟩ := r'
  obtain ⟨pre, post, hpre, hpost, -, hpreAt, hpostAt⟩ := h.balances
  obtain ⟨pre', post', hpre', hpost', -, hpreAt', hpostAt'⟩ := h'.balances
  cases h.found.symm.trans h'.found
  cases h.keys.symm.trans h'.keys
  cases h.position.symm.trans h'.position
  cases hpre.symm.trans hpre'
  cases hpost.symm.trans hpost'
  cases hpreAt.symm.trans hpreAt'
  cases hpostAt.symm.trans hpostAt'
  rfl

/-- **Facts.** The parser gets to know the facts of its reading, of a transaction that calls a known
program. -/
theorem swapFacts_eq_some_iff (order : KeyOrder) (tx : SwapTransaction) (wallet : String)
    (f : SwapFacts) :
    swapFacts order tx wallet = some f ↔
      ∃ r, ReadsWallet tx wallet r ∧ InvokesDex tx r ∧ f = factsOf order tx wallet r := by
  unfold swapFacts
  constructor
  · intro h
    obtain ⟨m, hm, h⟩ := Option.bind_eq_some_iff.mp h
    dsimp only at h
    split at h
    · cases h
    rename_i herr
    obtain ⟨keys, hkeys, h⟩ := Option.bind_eq_some_iff.mp h
    obtain ⟨idx, hidx, h⟩ := Option.bind_eq_some_iff.mp h
    obtain ⟨pre, hpre, h⟩ := Option.bind_eq_some_iff.mp h
    obtain ⟨post, hpost, h⟩ := Option.bind_eq_some_iff.mp h
    split at h
    · cases h
    rename_i hlengths
    obtain ⟨preEntry, hpreAt, h⟩ := Option.bind_eq_some_iff.mp h
    obtain ⟨preSol, hpreSol, h⟩ := Option.bind_eq_some_iff.mp h
    obtain ⟨postEntry, hpostAt, h⟩ := Option.bind_eq_some_iff.mp h
    obtain ⟨postSol, hpostSol, h⟩ := Option.bind_eq_some_iff.mp h
    subst hpreSol hpostSol
    split at h
    · cases h
    rename_i hdex
    cases h
    let r : WalletReading := ⟨m, keys, idx, preSol, postSol⟩
    have hreads : ReadsWallet tx wallet r :=
      ⟨hm, Option.not_isSome_iff_eq_none.mp herr, hkeys, hidx,
        pre, post, hpre, hpost, not_not.mp fun hne => hlengths (.inl hne), hpreAt, hpostAt⟩
    refine ⟨r, hreads, (detectDex_ne_unknown_iff tx r).mp hdex, ?_⟩
    unfold factsOf WalletReading.seenSpent
    rw [← changesOf_wsolDelta order]
    rfl
  · rintro ⟨r, hreads, hdex, rfl⟩
    obtain ⟨pre, post, hpre, hpost, hlengths, hpreAt, hpostAt⟩ := hreads.balances
    have hinside : r.idx < pre.length := (List.getElem?_eq_some_iff.mp hpreAt).1
    have hguard : ¬ (pre.length ≠ post.length ∨ r.idx ≥ pre.length) := by
      rintro (hne | hge)
      · exact hne hlengths
      · omega
    have hknown := (detectDex_ne_unknown_iff tx r).mpr hdex
    simp only [hreads.found, hreads.succeeded, hreads.keys, hreads.position, hpre, hpost, hpreAt,
      hpostAt, Option.bind_eq_bind, Option.bind_some, Option.isSome_none, Bool.false_eq_true,
      if_false, if_neg hguard, if_neg hknown]
    unfold factsOf WalletReading.seenSpent
    rw [← changesOf_wsolDelta order]
    rfl

/-! ## Verdicts -/

/-- The verdict on the facts: the first of the three kinds of swaps. -/
def swapVerdict (f : SwapFacts) (wallet : String) : Option ParsedSwap :=
  ((f.buySwap wallet).or (f.sellSwap wallet)).or (f.tokenSwap wallet)

section Verdicts

variable {f : SwapFacts} (wallet : String)

/-- SOL was spent and a token gained. -/
def IsPurchase (f : SwapFacts) : Prop := MIN_SWAP_LAMPORTS < f.totalSolSpent ∧ f.gained ≠ []

/-- SOL was received and a token lost. -/
def IsSale (f : SwapFacts) : Prop := f.totalSolSpent < -MIN_SWAP_LAMPORTS ∧ f.lost ≠ []

/-- One token was lost and another one gained, and the SOL hardly changed. -/
def IsTokenSwap (f : SwapFacts) : Prop :=
  f.lost ≠ [] ∧ f.gained ≠ [] ∧ (f.totalSolSpent.natAbs : Int) < MIN_SWAP_LAMPORTS

/-- A purchase is no sale. -/
theorem not_isSale_of_isPurchase (h : IsPurchase f) : ¬ IsSale f := by
  intro hsale
  have hspent := h.1
  have hreceived := hsale.1
  unfold MIN_SWAP_LAMPORTS at *
  omega

/-- A swap of tokens is neither of the other two. -/
theorem IsTokenSwap.not_sol (h : IsTokenSwap f) : ¬ IsPurchase f ∧ ¬ IsSale f := by
  have hspent := h.2.2
  unfold MIN_SWAP_LAMPORTS at hspent
  refine ⟨fun hpurchase => ?_, fun hsale => ?_⟩
  · have hbuy := hpurchase.1
    unfold MIN_SWAP_LAMPORTS at hbuy
    omega
  · have hsell := hsale.1
    unfold MIN_SWAP_LAMPORTS at hsell
    omega

/-- What is no purchase makes no purchase swap. -/
theorem buySwap_eq_none (h : ¬ IsPurchase f) : f.buySwap wallet = none := if_neg h

/-- What is no sale makes no sale swap. -/
theorem sellSwap_eq_none (h : ¬ IsSale f) : f.sellSwap wallet = none := if_neg h

/-- What is no swap of tokens makes none. -/
theorem tokenSwap_eq_none (h : ¬ IsTokenSwap f) : f.tokenSwap wallet = none := if_neg h

/-- A purchase is a buy of the primary token for what was spent. -/
theorem verdict_purchase (h : IsPurchase f) :
    ∃ token, primaryToken f.gained = some token ∧ swapVerdict f wallet =
      some (f.swap wallet .buy (WSOL_MINT, wrapU64 f.totalSolSpent, 9) token) := by
  obtain ⟨token, htoken⟩ := Option.isSome_iff_exists.mp (primaryToken_isSome h.2)
  have hbuy : f.buySwap wallet =
      some (f.swap wallet .buy (WSOL_MINT, wrapU64 f.totalSolSpent, 9) token) :=
    (if_pos h).trans (by rw [htoken, Option.map_some])
  refine ⟨token, htoken, ?_⟩
  unfold swapVerdict
  rw [hbuy, Option.some_or, Option.some_or]

/-- A sale is a sell of the primary token for what was received. -/
theorem verdict_sale (h : IsSale f) :
    ∃ token, primaryToken f.lost = some token ∧ swapVerdict f wallet =
      some (f.swap wallet .sell token (WSOL_MINT, wrapU64 (-f.totalSolSpent), 9)) := by
  obtain ⟨token, htoken⟩ := Option.isSome_iff_exists.mp (primaryToken_isSome h.2)
  have hsell : f.sellSwap wallet =
      some (f.swap wallet .sell token (WSOL_MINT, wrapU64 (-f.totalSolSpent), 9)) :=
    (if_pos h).trans (by rw [htoken, Option.map_some])
  refine ⟨token, htoken, ?_⟩
  unfold swapVerdict
  rw [buySwap_eq_none wallet fun hbuy => not_isSale_of_isPurchase hbuy h, hsell, Option.none_or,
    Option.some_or]

/-- A swap of tokens is a buy for the primary token that was lost. -/
theorem verdict_tokens (h : IsTokenSwap f) (hgained : ∀ t ∈ f.gained, t.1 ≠ WSOL_MINT)
    (hlost : ∀ t ∈ f.lost, t.1 ≠ WSOL_MINT) :
    ∃ input output, primaryToken f.lost = some input ∧ primaryToken f.gained = some output ∧
      swapVerdict f wallet = some (f.swap wallet .buy input output) := by
  obtain ⟨input, hinput⟩ := Option.isSome_iff_exists.mp (primaryToken_isSome h.1)
  obtain ⟨output, houtput⟩ := Option.isSome_iff_exists.mp (primaryToken_isSome h.2.1)
  have htokens : f.tokenSwap wallet = some (f.swap wallet .buy input output) := by
    unfold SwapFacts.tokenSwap
    rw [if_pos ⟨h.1, h.2.1, h.2.2⟩, hinput, houtput]
    dsimp only
    rw [if_neg (hlost input (mem_of_primaryToken hinput)),
      if_neg (hgained output (mem_of_primaryToken houtput))]
  refine ⟨input, output, hinput, houtput, ?_⟩
  unfold swapVerdict
  rw [buySwap_eq_none wallet h.not_sol.1, sellSwap_eq_none wallet h.not_sol.2, htokens,
    Option.none_or, Option.none_or]

/-- Anything else is no swap. -/
theorem verdict_none (hbuy : ¬ IsPurchase f) (hsell : ¬ IsSale f) (htokens : ¬ IsTokenSwap f) :
    swapVerdict f wallet = none := by
  unfold swapVerdict
  rw [buySwap_eq_none wallet hbuy, sellSwap_eq_none wallet hsell, tokenSwap_eq_none wallet htokens]
  rfl

/-- How a swap comes to be reported. -/
inductive Verdict (f : SwapFacts) (wallet : String) : ParsedSwap → Prop where
  | purchase (h : IsPurchase f) {token : String × UInt64 × UInt8}
      (htoken : primaryToken f.gained = some token) :
      Verdict f wallet (f.swap wallet .buy (WSOL_MINT, wrapU64 f.totalSolSpent, 9) token)
  | sale (h : IsSale f) {token : String × UInt64 × UInt8}
      (htoken : primaryToken f.lost = some token) :
      Verdict f wallet (f.swap wallet .sell token (WSOL_MINT, wrapU64 (-f.totalSolSpent), 9))
  | tokens (h : IsTokenSwap f) {input output : String × UInt64 × UInt8}
      (hinput : primaryToken f.lost = some input) (houtput : primaryToken f.gained = some output) :
      Verdict f wallet (f.swap wallet .buy input output)

/-- A reported swap is of one of the three kinds. -/
theorem verdict_of_some {wallet : String} {swap : ParsedSwap}
    (hgained : ∀ t ∈ f.gained, t.1 ≠ WSOL_MINT) (hlost : ∀ t ∈ f.lost, t.1 ≠ WSOL_MINT)
    (h : swapVerdict f wallet = some swap) : Verdict f wallet swap := by
  by_cases hpurchase : IsPurchase f
  · obtain ⟨token, htoken, hverdict⟩ := verdict_purchase wallet hpurchase
    cases hverdict.symm.trans h
    exact .purchase hpurchase htoken
  by_cases hsale : IsSale f
  · obtain ⟨token, htoken, hverdict⟩ := verdict_sale wallet hsale
    cases hverdict.symm.trans h
    exact .sale hsale htoken
  by_cases htokens : IsTokenSwap f
  · obtain ⟨input, output, hinput, houtput, hverdict⟩ :=
      verdict_tokens wallet htokens hgained hlost
    cases hverdict.symm.trans h
    exact .tokens htokens hinput houtput
  · cases (verdict_none wallet hpurchase hsale htokens).symm.trans h

/-- A swap that is no sale is reported as a purchase. -/
theorem direction_of_not_isSale {wallet : String} {swap : ParsedSwap}
    (hgained : ∀ t ∈ f.gained, t.1 ≠ WSOL_MINT) (hlost : ∀ t ∈ f.lost, t.1 ≠ WSOL_MINT)
    (hsale : ¬ IsSale f) (h : swapVerdict f wallet = some swap) : swap.direction = .buy := by
  cases verdict_of_some hgained hlost h with
  | purchase => rfl
  | sale hsale' => exact absurd hsale' hsale
  | tokens => rfl

end Verdicts

/-- A transaction without facts is no swap, and otherwise the facts decide. -/
theorem parseSwap_eq_some_iff (order : KeyOrder) (tx : SwapTransaction) (wallet : String)
    (swap : ParsedSwap) :
    parseSwapFromTransaction order tx wallet = some swap ↔
      ∃ r, ReadsWallet tx wallet r ∧ InvokesDex tx r ∧
        swapVerdict (factsOf order tx wallet r) wallet = some swap := by
  unfold parseSwapFromTransaction
  simp only [Option.bind_eq_bind, Option.bind_eq_some_iff, swapFacts_eq_some_iff]
  constructor
  · rintro ⟨f, ⟨r, hreads, hdex, rfl⟩, h⟩
    exact ⟨r, hreads, hdex, h⟩
  · rintro ⟨r, hreads, hdex, h⟩
    exact ⟨_, ⟨r, hreads, hdex, rfl⟩, h⟩

/-- What is reported of a transaction is one of the three kinds. -/
theorem verdict_of_parseSwap {order : KeyOrder} {tx : SwapTransaction} {wallet : String}
    {swap : ParsedSwap} (h : parseSwapFromTransaction order tx wallet = some swap) :
    ∃ r, ReadsWallet tx wallet r ∧ InvokesDex tx r ∧
      Verdict (factsOf order tx wallet r) wallet swap := by
  obtain ⟨r, hreads, hdex, hverdict⟩ := (parseSwap_eq_some_iff order tx wallet swap).mp h
  obtain ⟨hgained, hlost⟩ := factsOf_mints order tx wallet r
  exact ⟨r, hreads, hdex, verdict_of_some hgained hlost hverdict⟩

/-- The verdict on a transaction with a reading. -/
theorem parseSwap_of_reads {order : KeyOrder} {tx : SwapTransaction} {wallet : String}
    {r : WalletReading} (hreads : ReadsWallet tx wallet r) (hdex : InvokesDex tx r) :
    parseSwapFromTransaction order tx wallet = swapVerdict (factsOf order tx wallet r) wallet := by
  have hfacts := (swapFacts_eq_some_iff order tx wallet _).mpr ⟨r, hreads, hdex, rfl⟩
  unfold parseSwapFromTransaction
  rw [hfacts]
  rfl

/-- A swap is found if it is of one of the three kinds. -/
theorem parseSwap_found_iff {order : KeyOrder} {tx : SwapTransaction} {wallet : String}
    {r : WalletReading} (hreads : ReadsWallet tx wallet r) (hdex : InvokesDex tx r) :
    (∃ swap, parseSwapFromTransaction order tx wallet = some swap) ↔
      IsPurchase (factsOf order tx wallet r) ∨ IsSale (factsOf order tx wallet r) ∨
        IsTokenSwap (factsOf order tx wallet r) := by
  rw [parseSwap_of_reads hreads hdex]
  obtain ⟨hgained, hlost⟩ := factsOf_mints order tx wallet r
  constructor
  · rintro ⟨swap, hswap⟩
    cases verdict_of_some hgained hlost hswap with
    | purchase h => exact .inl h
    | sale h => exact .inr (.inl h)
    | tokens h => exact .inr (.inr h)
  · rintro (hpurchase | hsale | htokens)
    · obtain ⟨token, -, hverdict⟩ := verdict_purchase wallet hpurchase
      exact ⟨_, hverdict⟩
    · obtain ⟨token, -, hverdict⟩ := verdict_sale wallet hsale
      exact ⟨_, hverdict⟩
    · obtain ⟨input, output, -, -, hverdict⟩ := verdict_tokens wallet htokens hgained hlost
      exact ⟨_, hverdict⟩

/-- Tokens were swapped if one is seen gained and another one lost, for hardly any SOL. -/
theorem isTokenSwap_factsOf_iff {order : KeyOrder} {tx : SwapTransaction} {wallet : String}
    {r : WalletReading} :
    IsTokenSwap (factsOf order tx wallet r) ↔
      |r.seenSpent wallet| < MIN_SWAP_LAMPORTS ∧
        (∃ mint, mint ≠ WSOL_MINT ∧ 0 < seenChange r.txMeta wallet mint) ∧
        ∃ mint, mint ≠ WSOL_MINT ∧ 0 < -seenChange r.txMeta wallet mint := by
  rw [Int.abs_eq_natAbs, ← gained_ne_nil_iff order, ← lost_ne_nil_iff order]
  exact ⟨fun ⟨hlost, hgained, hspent⟩ => ⟨hspent, hgained, hlost⟩,
    fun ⟨hspent, hgained, hlost⟩ => ⟨hlost, hgained, hspent⟩⟩

/-! ## A sample transaction -/

/-- The maps are walked in the order of insertion. -/
def keysAsListed : KeyOrder := ⟨id, List.Perm.refl⟩

/-- The metadata of a transaction of two accounts and an exchange, with a fee of 5000 lamports. -/
def sampleSwapMeta (payerSol preSol postSol : UInt64) (pre post : List OwnedBalance) : SwapMeta :=
  { err := none
    fee := some 5000
    preBalances := some [some 9000000, some preSol, some 1]
    postBalances := some [some payerSol, some postSol, some 1]
    preTokenBalances := pre
    postTokenBalances := post
    loadedWritable := []
    loadedReadonly := []
    innerInstructions := [] }

/-- A transaction that "payer" pays for. The wallet "w" is the second account. -/
def sampleSwapTx (payerSol preSol postSol : UInt64) (pre post : List OwnedBalance) :
    SwapTransaction :=
  { accountKeys :=
      some (["payer", "w", "JUP6LkbZbjS1jKKwapdHNy74zcZ3tLUZoi5QNyVTaV4"].map AccountKey.plain)
    instructions := [some 2]
    signature := some "signature"
    slot := some 1
    blockTime := some 1700000000
    txMeta := some (sampleSwapMeta payerSol preSol postSol pre post) }

/-- What is read of the wallet. -/
def sampleReading (payerSol preSol postSol : UInt64) (pre post : List OwnedBalance) :
    WalletReading :=
  { txMeta := sampleSwapMeta payerSol preSol postSol pre post
    keys := ["payer", "w", "JUP6LkbZbjS1jKKwapdHNy74zcZ3tLUZoi5QNyVTaV4"]
    idx := 1
    preSol
    postSol }

/-- The sample's reading reads its transaction. -/
theorem sampleReading_reads (payerSol preSol postSol : UInt64) (pre post : List OwnedBalance) :
    ReadsWallet (sampleSwapTx payerSol preSol postSol pre post) "w"
      (sampleReading payerSol preSol postSol pre post) :=
  ⟨rfl, rfl, rfl, rfl, _, _, rfl, rfl, rfl, rfl, rfl⟩

end SolanaBot.Analysis
