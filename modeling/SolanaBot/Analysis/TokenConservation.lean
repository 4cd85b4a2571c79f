import Mathlib.Algebra.Order.BigOperators.Group.List
import Mathlib.Tactic.Linarith
import SolanaBot.Model.WalletAccumulator

/-!
# Tokens in the open lots

The accumulator takes the input leg of a purchase for SOL, and that of a sale for the token it has lots
of. The parser also returns swaps of one token for another, as purchases. Without these the lots hold
what the swaps acquired, less what they gave up, and every amount taken for SOL is one
(`tokens_conserved_iff`).
-/

set_option autoImplicit false

namespace SolanaBot.Analysis

open SolanaBot.Library SolanaBot.Model

/-! ## Legs -/

/-- A transaction on its way into the accumulator: the order in which the hash maps of its parsing are
walked, and the readings of the clock in `absorb_swap`. -/
structure TxInput where
  tx : SwapTransaction
  order : KeyOrder
  now : ClockReadings

/-- The swaps that the parser returns, one after the other. -/
def parsedSwaps (wallet : String) (inputs : List TxInput) : List (ParsedSwap × ClockReadings) :=
  inputs.filterMap fun i => (parseSwapFromTransaction i.order i.tx wallet).map fun swap => (swap, i.now)

/-- The accumulator after the transactions. -/
def accumulated (wallet : String) (inputs : List TxInput) : WalletAccumulator :=
  (parsedSwaps wallet inputs).foldl (fun acc s => acc.absorb s.1 s.2) .new

/-- The tokens in the open lots of a mint. -/
def heldTokens (acc : WalletAccumulator) (mint : String) : Decimal :=
  ((acc.openPositions mint).map OpenPosition.tokensReceived).sum

/-- What a swap does to the tokens of a mint: it acquires its output, and gives up its input, of which
there may be too little. -/
def netTurn (mint : String) (net : Decimal) (swap : ParsedSwap) : Decimal :=
  let acquired := if swap.outputMint = mint then net + swap.outputLeg else net
  if swap.inputMint = mint then max (acquired - swap.inputLeg) 0 else acquired

/-- The tokens of a mint that the swaps acquired, less those that they gave up. -/
def netTokens (mint : String) (swaps : List (ParsedSwap × ClockReadings)) : Decimal :=
  swaps.foldl (fun net s => netTurn mint net s.1) 0

/-- The leg of a swap that is SOL, if one is. -/
def solLeg (swap : ParsedSwap) : Option Decimal :=
  if swap.inputMint = WSOL_MINT then some swap.inputLeg
  else if swap.outputMint = WSOL_MINT then some swap.outputLeg
  else none

/-- What the accumulator records as SOL: the cost of the lot of a purchase, and the proceeds of a sale. -/
def recordedSol (swap : ParsedSwap) : Decimal :=
  match swap.direction with
  | .buy => swap.inputLeg
  | .sell => swap.outputLeg

/-- The lots hold no more than what is left, and every amount recorded as SOL is the SOL leg of its
swap. -/
structure TokensConserved (wallet : String) (inputs : List TxInput) : Prop where
  held : ∀ mint, mint ≠ WSOL_MINT →
    heldTokens (accumulated wallet inputs) mint ≤ netTokens mint (parsedSwaps wallet inputs)
  sol : ∀ s ∈ parsedSwaps wallet inputs, solLeg s.1 = some (recordedSol s.1)

/-- The transaction swaps one token for another: it succeeds and calls a known program, the SOL of the
wallet hardly changes, and one token decreases while another one increases. -/
def SwapsTokens (i : TxInput) (wallet : String) : Prop :=
  ∃ f, swapFacts i.order i.tx wallet = some f ∧ f.lost ≠ [] ∧ f.gained ≠ [] ∧
    (f.totalSolSpent.natAbs : Int) < MIN_SWAP_LAMPORTS

/-! ## What the accumulator records -/

/-- A purchase adds a lot that costs the recorded SOL. -/
theorem absorb_buy {swap : ParsedSwap} (h : swap.direction = .buy) (acc : WalletAccumulator)
    (now : ClockReadings) :
    (acc.absorb swap now).openPositions = Function.update acc.openPositions swap.outputMint
      (acc.openPositions swap.outputMint ++
        [⟨recordedSol swap, swap.outputLeg, swap.timestamp now.fallback⟩]) := by
  unfold WalletAccumulator.absorb WalletAccumulator.recordObservation ParsedSwap.tradedMint recordedSol
  rw [h]
  rfl

/-- A sale consumes lots, for the recorded SOL. -/
theorem absorb_sell {swap : ParsedSwap} (h : swap.direction = .sell) (acc : WalletAccumulator)
    (now : ClockReadings) :
    (acc.absorb swap now).openPositions =
      if swap.inputLeg ≤ 0 then acc.openPositions
      else Function.update acc.openPositions swap.inputMint
        (sellLots (recordedSol swap / swap.inputLeg) (swap.timestamp now.fallback)
          (acc.openPositions swap.inputMint) swap.inputLeg).1 := by
  unfold WalletAccumulator.absorb WalletAccumulator.recordObservation ParsedSwap.tradedMint recordedSol
  rw [h]
  dsimp only
  unfold WalletAccumulator.recordSell
  split <;> rfl

/-- Nothing is owed in a queue of lots. -/
def SoundLots (queue : List OpenPosition) : Prop := ∀ lot ∈ queue, 0 ≤ lot.tokensReceived

/-- The lots lose what is sold, as far as there is something to sell. -/
theorem sellLots_sum (price : Decimal) (time : Time) (queue : List OpenPosition) {amount : Decimal}
    (hamount : 0 ≤ amount) (hsound : SoundLots queue) :
    SoundLots (sellLots price time queue amount).1 ∧
      ((sellLots price time queue amount).1.map OpenPosition.tokensReceived).sum =
        max ((queue.map OpenPosition.tokensReceived).sum - amount) 0 := by
  induction queue generalizing amount with
  | nil =>
      refine ⟨hsound, ?_⟩
      rw [List.map_nil, List.sum_nil, zero_sub]
      exact (max_eq_right (neg_nonpos.mpr hamount)).symm
  | cons front queue ih =>
      have hrest : SoundLots queue := fun lot hlot => hsound lot (List.mem_cons_of_mem _ hlot)
      have hfront := hsound front List.mem_cons_self
      have hsum : 0 ≤ (queue.map OpenPosition.tokensReceived).sum :=
        List.sum_nonneg fun x hx => by
          obtain ⟨lot, hlot, rfl⟩ := List.mem_map.mp hx
          exact hrest lot hlot
      unfold sellLots
      rw [List.map_cons, List.sum_cons]
      by_cases hnone : amount ≤ 0
      · rw [if_pos hnone, le_antisymm hnone hamount, sub_zero, max_eq_left (by linarith)]
        exact ⟨hsound, rfl⟩
      by_cases hempty : front.tokensReceived ≤ 0
      · rw [if_neg hnone, if_pos hempty, le_antisymm hempty hfront, zero_add]
        exact ih hamount hrest
      rw [if_neg hnone, if_neg hempty]
      dsimp only
      by_cases hall : front.tokensReceived ≤ amount
      · -- the lot is used up
        rw [min_eq_left hall, sub_self, if_pos rfl]
        obtain ⟨hleft, heq⟩ := ih (sub_nonneg.mpr hall) hrest
        refine ⟨hleft, ?_⟩
        rw [heq]
        congr 1
        linarith
      · have hpart := not_le.mp hall
        rw [min_eq_right hpart.le, if_neg (by linarith)]
        refine ⟨fun lot hlot => ?_, ?_⟩
        · rcases List.mem_cons.mp hlot with rfl | hlot
          · exact sub_nonneg.mpr hpart.le
          · exact hrest lot hlot
        · rw [List.map_cons, List.sum_cons, max_eq_left (by linarith)]
          exact sub_add_eq_add_sub _ _ _

/-- The units of a leg are not negative. -/
theorem legUnits_nonneg (amount : UInt64) (decimals : UInt8) : 0 ≤ legUnits amount decimals := by
  unfold legUnits dec
  exact div_nonneg (Nat.cast_nonneg _) (Nat.cast_nonneg _)

/-! ## What the parser returns -/

/-- One turn of the search for the largest amount. -/
def largerOf (best : Option (String × UInt64 × UInt8)) (t : String × UInt64 × UInt8) :
    Option (String × UInt64 × UInt8) :=
  match best with
  | none => some t
  | some b => if b.2.1 ≤ t.2.1 then some t else some b

/-- The largest so far is one of the tokens or the one it began with. -/
theorem mem_of_foldl_largerOf {tokens : List (String × UInt64 × UInt8)}
    {best : Option (String × UInt64 × UInt8)} {t : String × UInt64 × UInt8}
    (h : tokens.foldl largerOf best = some t) : t ∈ tokens ∨ best = some t := by
  induction tokens generalizing best with
  | nil => exact .inr h
  | cons x tokens ih =>
      rcases ih h with hmem | hbest
      · exact .inl (List.mem_cons_of_mem _ hmem)
      · cases best with
        | none =>
            cases hbest
            exact .inl List.mem_cons_self
        | some b =>
            unfold largerOf at hbest
            dsimp only at hbest
            split at hbest
            · cases hbest
              exact .inl List.mem_cons_self
            · exact .inr hbest

/-- The token with the largest amount is one of them. -/
theorem mem_of_maxByAmount {tokens : List (String × UInt64 × UInt8)} {t : String × UInt64 × UInt8}
    (h : maxByAmount tokens = some t) : t ∈ tokens := by
  change tokens.foldl largerOf none = some t at h
  exact (mem_of_foldl_largerOf h).resolve_right nofun

/-- There is a largest as soon as there was one. -/
theorem isSome_foldl_largerOf (tokens : List (String × UInt64 × UInt8)) (b : String × UInt64 × UInt8) :
    (tokens.foldl largerOf (some b)).isSome := by
  induction tokens generalizing b with
  | nil => rfl
  | cons x tokens ih =>
      rw [List.foldl_cons]
      unfold largerOf
      dsimp only
      split
      · exact ih x
      · exact ih b

/-- Of some tokens one is the largest. -/
theorem maxByAmount_isSome {tokens : List (String × UInt64 × UInt8)} (h : tokens ≠ []) :
    (maxByAmount tokens).isSome := by
  cases tokens with
  | nil => exact absurd rfl h
  | cons x tokens => exact isSome_foldl_largerOf tokens x

/-- The primary token is one of them. -/
theorem mem_of_primaryToken {tokens : List (String × UInt64 × UInt8)} {t : String × UInt64 × UInt8}
    (h : primaryToken tokens = some t) : t ∈ tokens := by
  unfold primaryToken at h
  rcases Option.or_eq_some_iff.mp h with hlarge | ⟨-, hany⟩
  · exact List.mem_of_mem_filter (mem_of_maxByAmount hlarge)
  · exact mem_of_maxByAmount hany

/-- Of some tokens one is the primary. -/
theorem primaryToken_isSome {tokens : List (String × UInt64 × UInt8)} (h : tokens ≠ []) :
    (primaryToken tokens).isSome := by
  unfold primaryToken
  rw [Option.isSome_or, maxByAmount_isSome h, Bool.or_true]

section Facts

variable {order : KeyOrder} {tx : SwapTransaction} {wallet : String} {f : SwapFacts}

/-- Neither the tokens that were gained nor those that were lost are wrapped SOL. -/
theorem swapFacts_tokens (h : swapFacts order tx wallet = some f) :
    (∀ t ∈ f.gained, t.1 ≠ WSOL_MINT) ∧ ∀ t ∈ f.lost, t.1 ≠ WSOL_MINT := by
  obtain ⟨-, pre, post, hgained, hlost⟩ := swapFacts_origin h
  unfold balanceChanges at hgained hlost
  constructor
  · intro t ht
    rw [hgained, List.mem_filterMap] at ht
    obtain ⟨mint, -, hsome⟩ := ht
    dsimp only at hsome
    split at hsome
    · rename_i hmint
      cases hsome
      exact hmint.1
    · cases hsome
  · intro t ht
    rw [hlost, List.mem_filterMap] at ht
    obtain ⟨mint, -, hsome⟩ := ht
    dsimp only at hsome
    split at hsome
    · rename_i hmint
      cases hsome
      exact hmint.1
    · cases hsome

/-- The three kinds of swaps: a purchase for SOL, a sale for SOL, and a swap of one token for another. -/
theorem parseSwap_cases {swap : ParsedSwap}
    (h : parseSwapFromTransaction order tx wallet = some swap) :
    (swap.direction = .buy ∧ swap.inputMint = WSOL_MINT ∧ swap.outputMint ≠ WSOL_MINT) ∨
      (swap.direction = .sell ∧ swap.inputMint ≠ WSOL_MINT ∧ swap.outputMint = WSOL_MINT) ∨
      ∃ f, swapFacts order tx wallet = some f ∧ f.lost ≠ [] ∧ f.gained ≠ [] ∧
        (f.totalSolSpent.natAbs : Int) < MIN_SWAP_LAMPORTS := by
  unfold parseSwapFromTransaction at h
  simp only [Option.bind_eq_bind, Option.bind_eq_some_iff] at h
  obtain ⟨f, hf, h⟩ := h
  obtain ⟨hgained, hlost⟩ := swapFacts_tokens hf
  rcases Option.or_eq_some_iff.mp h with h | ⟨-, h⟩
  · rcases Option.or_eq_some_iff.mp h with h | ⟨-, h⟩
    · left
      unfold SwapFacts.buySwap at h
      split at h
      · obtain ⟨token, htoken, rfl⟩ := Option.map_eq_some_iff.mp h
        exact ⟨rfl, rfl, hgained token (mem_of_primaryToken htoken)⟩
      · cases h
    · right; left
      unfold SwapFacts.sellSwap at h
      split at h
      · obtain ⟨token, htoken, rfl⟩ := Option.map_eq_some_iff.mp h
        exact ⟨rfl, hlost token (mem_of_primaryToken htoken), rfl⟩
      · cases h
  · right; right
    unfold SwapFacts.tokenSwap at h
    split at h
    · rename_i htokens
      exact ⟨f, hf, htokens⟩
    · cases h

/-- A swap of one token for another is returned with two legs that are no SOL. -/
theorem parseSwap_of_tokens (hf : swapFacts order tx wallet = some f) (hlost : f.lost ≠ [])
    (hgained : f.gained ≠ []) (hsol : (f.totalSolSpent.natAbs : Int) < MIN_SWAP_LAMPORTS) :
    ∃ swap, parseSwapFromTransaction order tx wallet = some swap ∧ swap.direction = .buy ∧
      swap.inputMint ≠ WSOL_MINT ∧ swap.outputMint ≠ WSOL_MINT := by
  obtain ⟨input, hinput⟩ := Option.isSome_iff_exists.mp (primaryToken_isSome hlost)
  obtain ⟨output, houtput⟩ := Option.isSome_iff_exists.mp (primaryToken_isSome hgained)
  obtain ⟨hgainedMints, hlostMints⟩ := swapFacts_tokens hf
  have hin := hlostMints input (mem_of_primaryToken hinput)
  have hout := hgainedMints output (mem_of_primaryToken houtput)
  have hbuy : f.buySwap wallet = none := by
    unfold SwapFacts.buySwap MIN_SWAP_LAMPORTS at *
    rw [if_neg (fun h => by omega)]
  have hsell : f.sellSwap wallet = none := by
    unfold SwapFacts.sellSwap MIN_SWAP_LAMPORTS at *
    rw [if_neg (fun h => by omega)]
  refine ⟨f.swap wallet .buy input output, ?_, rfl, hin, hout⟩
  unfold parseSwapFromTransaction
  rw [hf]
  simp only [Option.bind_eq_bind, Option.bind_some]
  rw [hbuy, hsell, Option.none_or, Option.none_or]
  unfold SwapFacts.tokenSwap
  rw [if_pos ⟨hlost, hgained, hsol⟩, hinput, houtput]
  dsimp only
  rw [if_neg hin, if_neg hout]

end Facts

/-! ## Conservation -/

/-- Swaps for SOL in both directions keep the lots at what is left. -/
theorem held_eq_net {swaps : List (ParsedSwap × ClockReadings)}
    (hswaps : ∀ s ∈ swaps,
      (s.1.direction = .buy ∧ s.1.inputMint = WSOL_MINT ∧ s.1.outputMint ≠ WSOL_MINT) ∨
        (s.1.direction = .sell ∧ s.1.inputMint ≠ WSOL_MINT ∧ s.1.outputMint = WSOL_MINT))
    {mint : String} (hmint : mint ≠ WSOL_MINT) (acc : WalletAccumulator)
    (hsound : SoundLots (acc.openPositions mint)) :
    heldTokens (swaps.foldl (fun acc s => acc.absorb s.1 s.2) acc) mint =
      swaps.foldl (fun net s => netTurn mint net s.1) (heldTokens acc mint) := by
  induction swaps generalizing acc with
  | nil => rfl
  | cons s swaps ih =>
      have hnonneg : 0 ≤ heldTokens acc mint := List.sum_nonneg fun x hx => by
        obtain ⟨lot, hlot, rfl⟩ := List.mem_map.mp hx
        exact hsound lot hlot
      have hstep : SoundLots ((acc.absorb s.1 s.2).openPositions mint) ∧
          heldTokens (acc.absorb s.1 s.2) mint = netTurn mint (heldTokens acc mint) s.1 := by
        unfold heldTokens at hnonneg ⊢
        unfold netTurn
        dsimp only
        rcases hswaps s List.mem_cons_self with ⟨hdir, hin, hout⟩ | ⟨hdir, hin, hout⟩
        · have hother : s.1.inputMint ≠ mint := fun h => hmint (h.symm.trans hin)
          rw [absorb_buy hdir, if_neg hother]
          by_cases hsame : s.1.outputMint = mint
          · rw [hsame, Function.update_self, if_pos rfl]
            refine ⟨fun lot hlot => ?_, ?_⟩
            · rcases List.mem_append.mp hlot with hold | hnew
              · exact hsound lot hold
              · cases List.mem_singleton.mp hnew
                exact legUnits_nonneg _ _
            · rw [List.map_append, List.sum_append, List.map_singleton, List.sum_singleton]
          · rw [Function.update_of_ne (Ne.symm hsame), if_neg hsame]
            exact ⟨hsound, rfl⟩
        · have hother : s.1.outputMint ≠ mint := fun h => hmint (h.symm.trans hout)
          rw [absorb_sell hdir, if_neg hother]
          by_cases hsame : s.1.inputMint = mint
          · rw [if_pos hsame]
            by_cases hzero : s.1.inputLeg ≤ 0
            · rw [if_pos hzero, le_antisymm hzero (legUnits_nonneg _ _), sub_zero,
                max_eq_left hnonneg]
              exact ⟨hsound, rfl⟩
            · rw [if_neg hzero, hsame, Function.update_self]
              exact sellLots_sum _ _ _ (not_le.mp hzero).le hsound
          · rw [if_neg hsame]
            split
            · exact ⟨hsound, rfl⟩
            · rw [Function.update_of_ne (Ne.symm hsame)]
              exact ⟨hsound, rfl⟩
      rw [List.foldl_cons, List.foldl_cons, ← hstep.2]
      exact ih (fun s' hs' => hswaps s' (List.mem_cons_of_mem _ hs')) _ hstep.1

/-- **Tokens are conserved, and SOL is recorded as SOL, exactly if no transaction swaps one token for
another.** -/
theorem tokens_conserved_iff (wallet : String) (inputs : List TxInput) :
    TokensConserved wallet inputs ↔ ∀ i ∈ inputs, ¬ SwapsTokens i wallet := by
  constructor
  · rintro h i hi ⟨f, hf, hlost, hgained, hsol⟩
    obtain ⟨swap, hparse, -, hin, hout⟩ := parseSwap_of_tokens hf hlost hgained hsol
    have hmem : (swap, i.now) ∈ parsedSwaps wallet inputs :=
      List.mem_filterMap.mpr ⟨i, hi, by rw [hparse]; rfl⟩
    have hleg := h.sol _ hmem
    unfold solLeg at hleg
    rw [if_neg hin, if_neg hout] at hleg
    cases hleg
  · intro h
    have hswaps : ∀ s ∈ parsedSwaps wallet inputs,
        (s.1.direction = .buy ∧ s.1.inputMint = WSOL_MINT ∧ s.1.outputMint ≠ WSOL_MINT) ∨
          (s.1.direction = .sell ∧ s.1.inputMint ≠ WSOL_MINT ∧ s.1.outputMint = WSOL_MINT) := by
      intro s hs
      obtain ⟨i, hi, hmap⟩ := List.mem_filterMap.mp hs
      obtain ⟨swap, hparse, rfl⟩ := Option.map_eq_some_iff.mp hmap
      rcases parseSwap_cases hparse with hbuy | hsell | htokens
      · exact .inl hbuy
      · exact .inr hsell
      · exact absurd htokens (h i hi)
    refine ⟨fun mint hmint => ?_, fun s hs => ?_⟩
    · unfold accumulated
      rw [held_eq_net hswaps hmint .new (fun lot hlot => by cases hlot)]
      rfl
    · unfold solLeg recordedSol
      rcases hswaps s hs with ⟨hdir, hin, -⟩ | ⟨hdir, hin, hout⟩
      · rw [if_pos hin, hdir]
      · rw [if_neg hin, if_pos hout, hdir]

/-- A purchase of five tokens for one SOL, then a swap of all of them for seven of another token. -/
def rotation : List TxInput :=
  let keys := ["w", "JUP6LkbZbjS1jKKwapdHNy74zcZ3tLUZoi5QNyVTaV4"].map AccountKey.plain
  let tx (sol sol' : UInt64) (pre post : List OwnedBalance) (time : Int) (signature : String) :
      SwapTransaction :=
    { accountKeys := some keys
      instructions := [some 1]
      signature := some signature
      slot := some 1
      blockTime := some time
      txMeta := some
        { err := none, fee := some 5000
          preBalances := some [some sol, some 1], postBalances := some [some sol', some 1]
          preTokenBalances := pre, postTokenBalances := post
          loadedWritable := [], loadedReadonly := [], innerInstructions := [] } }
  let input (tx : SwapTransaction) : TxInput := ⟨tx, ⟨id, fun _ => List.Perm.refl _⟩, ⟨0, 0⟩⟩
  [input (tx 10000000000 8999995000 []
      [⟨some "w", some "bonk", some 5000000, some 6⟩] 1700000000 "first"),
    input (tx 8999995000 8999990000 [⟨some "w", some "bonk", some 5000000, some 6⟩]
      [⟨some "w", some "bonk", some 0, some 6⟩, ⟨some "w", some "wif", some 7000000, some 6⟩]
      1700000060 "second")]

/-- The tokens that were given up stay in the lots, and their amount is recorded as the SOL spent on the
others. -/
theorem rotation_unconserved :
    heldTokens (accumulated "w" rotation) "bonk" = 5 ∧
      netTokens "bonk" (parsedSwaps "w" rotation) = 0 ∧
      ((accumulated "w" rotation).openPositions "wif").map OpenPosition.solSpent = [5] ∧
      ¬ ∀ wallet inputs, TokensConserved wallet inputs := by
  have hheld : heldTokens (accumulated "w" rotation) "bonk" = 5 := by decide +kernel
  have hnet : netTokens "bonk" (parsedSwaps "w" rotation) = 0 := by decide +kernel
  refine ⟨hheld, hnet, by decide +kernel, fun h => ?_⟩
  have hle := (h "w" rotation).held "bonk" (by decide)
  rw [hheld, hnet] at hle
  exact absurd hle (by decide +kernel)

end SolanaBot.Analysis
