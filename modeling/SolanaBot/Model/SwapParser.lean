import SolanaBot.Library.Firsts
import SolanaBot.Model.Execution

/-!
# Swaps of a wallet

`collector/swap_parser.rs`: the swap that a transaction is for a wallet, read off the changes of its
lamports and of the token balances that it owns. The order in which the hash maps of the balances are
walked is a parameter.
-/

set_option autoImplicit false

namespace SolanaBot.Model

open SolanaBot.Library

/-! ## Transactions -/

/-- An entry of the token balances. Missing or malformed parts are `none`. -/
structure OwnedBalance where
  owner : Option String
  mint : Option String
  amount : Option UInt64
  decimals : Option UInt64
deriving DecidableEq

/-- The metadata of a transaction, as far as the parser reads it. Missing arrays of token balances, of
loaded addresses and of instructions are empty. -/
structure SwapMeta where
  err : Option String
  fee : Option UInt64
  preBalances : Option (List (Option UInt64))
  postBalances : Option (List (Option UInt64))
  preTokenBalances : List OwnedBalance
  postTokenBalances : List OwnedBalance
  loadedWritable : List (Option String)
  loadedReadonly : List (Option String)
  innerInstructions : List (List (Option UInt64))
deriving DecidableEq

/-- A `getTransaction` response. An instruction is given by the index of its program. -/
structure SwapTransaction where
  accountKeys : Option (List AccountKey)
  instructions : List (Option UInt64)
  signature : Option String
  slot : Option UInt64
  blockTime : Option Int
  txMeta : Option SwapMeta
deriving DecidableEq

/-- RUST: collector/swap_parser.rs:41-44. -/
inductive SwapDirection where
  | buy
  | sell
deriving DecidableEq, Repr

/-- RUST: collector/swap_parser.rs:47-61. -/
structure ParsedSwap where
  wallet : String
  inputMint : String
  outputMint : String
  inputAmount : UInt64
  outputAmount : UInt64
  inputDecimals : UInt8
  outputDecimals : UInt8
  direction : SwapDirection
  feeLamports : UInt64
  dex : String
  slot : UInt64
  blockTime : Int
  signature : String
deriving DecidableEq

/-! ## Keys and programs -/

/-- RUST: collector/swap_parser.rs:6-38. -/
def DEX_PROGRAMS : List (String × String) :=
  [("JUP6LkbZbjS1jKKwapdHNy74zcZ3tLUZoi5QNyVTaV4", "jupiter_v6"),
    ("JUP4Fb2cqiRUcaTHdrPC8h2gNsA2ETXiPDD33WcGuJB", "jupiter_v4"),
    ("JUP3jqKShLTC4TXbKQ9sRMSMgGKHGSuR3wHkJz2Bjqp", "jupiter_v3"),
    ("675kPX9MHTjS2zt1qfr1NYHuzeLXfQM9H24wFSUt1Mp8", "raydium_amm"),
    ("CAMMCzo5YL8w4VFF8KVHrK22GGUsp5VTaW7grrKgrWqK", "raydium_clmm"),
    ("CPMMoo8L3F4NbTegBCKVNunggL7H1ZpdTHKxQB5qKP1C", "raydium_cpmm"),
    ("whirLbMiicVdio4qvUfM5KAg6Ct8VwpYzGff3uctyCc", "orca_whirlpool"),
    ("PhoeNiXZ8ByJGLkxNfZRnkUfjvmuYqLR89jjFHGqdXY", "phoenix"),
    ("LBUZKhRxPF3XUpBCjp4YzTKgLccjZhTSK9PK88t2jzdc", "meteora_dlmm"),
    ("Eo7WjKq67rjJQSZxS6z3YkapzS3LLjgeF31Rr9oFk7JE", "meteora_dyn_amm"),
    ("SSwapUtyTFBdGF1rCvjz4wp4Y8tE1dPi54Fo8SPauX6", "saber"),
    ("SwaPpA9LAaLfeLi3a68M4DjnLqgtticKg6CnyNwgAC8", "saber"),
    ("jupiter6ooCZ...ignored", "ignore")]

/-- RUST: collector/swap_parser.rs:63-68. -/
def extractPubkey : AccountKey → Option String
  | .plain key => some key
  | .parsed pubkey => pubkey

/-- RUST: collector/swap_parser.rs:97-129. The static keys, then the loaded ones. -/
def buildAllAccountKeys (tx : SwapTransaction) (m : SwapMeta) : Option (List String) :=
  tx.accountKeys.map fun staticKeys =>
    staticKeys.filterMap extractPubkey ++ m.loadedWritable.filterMap id ++
      m.loadedReadonly.filterMap id

/-- RUST: collector/swap_parser.rs:140-149, the closure `check`. The placeholder of the table is no
match for the callers. -/
def dexOf (allKeys : List String) (programIdx : UInt64) : Option String := do
  let key ← allKeys[programIdx.toNat]?
  let program ← DEX_PROGRAMS.find? fun p => p.1 = key
  if program.2 = "ignore" then none else return program.2

/-- RUST: collector/swap_parser.rs:135-177. -/
def detectDex (tx : SwapTransaction) (m : SwapMeta) (allKeys : List String) : String :=
  ((tx.instructions ++ m.innerInstructions.flatten).findSome? fun idx =>
    idx.bind (dexOf allKeys)).getD "unknown"

/-! ## Balances -/

/-- An order in which a hash map with the given keys is walked. -/
structure KeyOrder where
  order : List String → List String
  perm : ∀ keys, (order keys).Perm keys

/-- The amount and the decimals of each mint. The first entry of a mint gives its decimals. -/
abbrev OwnedTokens := List (String × UInt64 × UInt8)

/-- The amount and the decimals under a mint. -/
def tokensOf (tokens : OwnedTokens) (mint : String) : Option (UInt64 × UInt8) :=
  (tokens.find? fun t => t.1 = mint).map Prod.snd

/-- RUST: collector/swap_parser.rs:75-87, one entry of the wallet. -/
def addBalance (tokens : OwnedTokens) (mint : String) (amount : UInt64) (decimals : UInt8) :
    OwnedTokens :=
  if tokens.any fun t => t.1 = mint then
    tokens.map fun t => if t.1 = mint then (t.1, saturatingAdd t.2.1 amount, t.2.2) else t
  else tokens ++ [(mint, amount, decimals)]

/-- RUST: collector/swap_parser.rs:70-91. -/
def parseTokenBalancesForOwner (balances : List OwnedBalance) (wallet : String) : OwnedTokens :=
  balances.foldl (fun tokens e =>
    if e.owner = some wallet then
      match e.mint with
      | none => tokens
      | some mint => addBalance tokens mint (e.amount.getD 0) (e.decimals.getD 0).toUInt8
    else tokens) []

/-- What the balances of a wallet say about a transaction. -/
structure BalanceChanges where
  wsolDelta : Int
  gained : List (String × UInt64 × UInt8)
  lost : List (String × UInt64 × UInt8)

/-- RUST: collector/swap_parser.rs:220-226. Every mint once, in the orders of the two maps. -/
def allMints (order : KeyOrder) (pre post : OwnedTokens) : List String :=
  firstsBy id [] (order.order (pre.map Prod.fst) ++ order.order (post.map Prod.fst))

/-- RUST: collector/swap_parser.rs:233-241. -/
def mintDelta (pre post : OwnedTokens) (mint : String) : Int :=
  (((tokensOf post mint).map fun t => (t.1.toNat : Int)).getD 0) -
    ((tokensOf pre mint).map fun t => (t.1.toNat : Int)).getD 0

/-- RUST: collector/swap_parser.rs:235-239. -/
def mintDecimals (pre post : OwnedTokens) (mint : String) : UInt8 :=
  (((tokensOf post mint).or (tokensOf pre mint)).map Prod.snd).getD 0

/-- RUST: collector/swap_parser.rs:228-249. -/
def balanceChanges (order : KeyOrder) (pre post : OwnedTokens) : BalanceChanges :=
  let mints := allMints order pre post
  { wsolDelta := if WSOL_MINT ∈ mints then mintDelta pre post WSOL_MINT else 0
    gained := mints.filterMap fun mint =>
      let delta := mintDelta pre post mint
      if mint ≠ WSOL_MINT ∧ delta > 0 then
        some (mint, UInt64.ofNat delta.toNat, mintDecimals pre post mint)
      else none
    lost := mints.filterMap fun mint =>
      let delta := mintDelta pre post mint
      if mint ≠ WSOL_MINT ∧ delta < 0 then
        some (mint, UInt64.ofNat (-delta).toNat, mintDecimals pre post mint)
      else none }

/-! ## Swaps -/

/-- RUST: collector/swap_parser.rs:179-180. -/
def DUST_LAMPORTS : UInt64 := 1000

/-- RUST: collector/swap_parser.rs:180. -/
def MIN_SWAP_LAMPORTS : Int := 1000

/-- RUST: Iterator::max_by_key, the last of the greatest. -/
def maxByAmount (tokens : List (String × UInt64 × UInt8)) : Option (String × UInt64 × UInt8) :=
  tokens.foldl (fun best t =>
    match best with
    | none => some t
    | some b => if b.2.1 ≤ t.2.1 then some t else some b) none

/-- RUST: collector/swap_parser.rs:267-271. The largest amount that is no dust, or the largest. -/
def primaryToken (tokens : List (String × UInt64 × UInt8)) : Option (String × UInt64 × UInt8) :=
  (maxByAmount (tokens.filter fun t => t.2.1 ≥ DUST_LAMPORTS)).or (maxByAmount tokens)

/-- RUST: `as u64` on an i128. -/
def wrapU64 (n : Int) : UInt64 := UInt64.ofNat (n % 2 ^ 64).toNat

/-- What the parser finds before it looks for a swap. -/
structure SwapFacts where
  signature : String
  slot : UInt64
  blockTime : Int
  fee : UInt64
  dex : String
  totalSolSpent : Int
  gained : List (String × UInt64 × UInt8)
  lost : List (String × UInt64 × UInt8)

/-- RUST: collector/swap_parser.rs:186-263. -/
def swapFacts (order : KeyOrder) (tx : SwapTransaction) (wallet : String) : Option SwapFacts := do
  let m ← tx.txMeta
  if m.err.isSome then none
  else
    let fee := m.fee.getD 0
    let allAccountKeys ← buildAllAccountKeys tx m
    let walletIdx ← allAccountKeys.findIdx? fun k => k = wallet
    let preBalances ← m.preBalances
    let postBalances ← m.postBalances
    if preBalances.length ≠ postBalances.length ∨ walletIdx ≥ preBalances.length then none
    else
      let preSol ← (← preBalances[walletIdx]?)
      let postSol ← (← postBalances[walletIdx]?)
      let changes := balanceChanges order (parseTokenBalancesForOwner m.preTokenBalances wallet)
        (parseTokenBalancesForOwner m.postTokenBalances wallet)
      let nativeSolChange : Int := postSol.toNat - preSol.toNat
      let dex := detectDex tx m allAccountKeys
      if dex = "unknown" then none
      else
        return {
          signature := tx.signature.getD ""
          slot := tx.slot.getD 0
          blockTime := tx.blockTime.getD 0
          fee
          dex
          totalSolSpent := -nativeSolChange - changes.wsolDelta - fee.toNat
          gained := changes.gained
          lost := changes.lost }

/-- What is found comes from the transaction: its signature, and the changes of two balances. -/
theorem swapFacts_origin {order : KeyOrder} {tx : SwapTransaction} {wallet : String} {f : SwapFacts}
    (h : swapFacts order tx wallet = some f) :
    f.signature = tx.signature.getD "" ∧ ∃ pre post,
      f.gained = (balanceChanges order pre post).gained ∧
        f.lost = (balanceChanges order pre post).lost := by
  unfold swapFacts at h
  obtain ⟨m, -, h⟩ := Option.bind_eq_some_iff.mp h
  dsimp only at h
  split at h
  · cases h
  · obtain ⟨keys, -, h⟩ := Option.bind_eq_some_iff.mp h
    obtain ⟨idx, -, h⟩ := Option.bind_eq_some_iff.mp h
    obtain ⟨preBalances, -, h⟩ := Option.bind_eq_some_iff.mp h
    obtain ⟨postBalances, -, h⟩ := Option.bind_eq_some_iff.mp h
    split at h
    · cases h
    · obtain ⟨preEntry, -, h⟩ := Option.bind_eq_some_iff.mp h
      obtain ⟨preSol, -, h⟩ := Option.bind_eq_some_iff.mp h
      obtain ⟨postEntry, -, h⟩ := Option.bind_eq_some_iff.mp h
      obtain ⟨postSol, -, h⟩ := Option.bind_eq_some_iff.mp h
      split at h
      · cases h
      · cases h
        exact ⟨rfl, _, _, rfl, rfl⟩

/-- A swap with the given legs. -/
def SwapFacts.swap (f : SwapFacts) (wallet : String) (direction : SwapDirection)
    (input output : String × UInt64 × UInt8) : ParsedSwap :=
  { wallet
    inputMint := input.1
    outputMint := output.1
    inputAmount := input.2.1
    outputAmount := output.2.1
    inputDecimals := input.2.2
    outputDecimals := output.2.2
    direction
    feeLamports := f.fee
    dex := f.dex
    slot := f.slot
    blockTime := f.blockTime
    signature := f.signature }

/-- RUST: collector/swap_parser.rs:265-289. -/
def SwapFacts.buySwap (f : SwapFacts) (wallet : String) : Option ParsedSwap :=
  if f.totalSolSpent > MIN_SWAP_LAMPORTS ∧ f.gained ≠ [] then
    (primaryToken f.gained).map fun token =>
      f.swap wallet .buy (WSOL_MINT, wrapU64 f.totalSolSpent, 9) token
  else none

/-- RUST: collector/swap_parser.rs:291-315. -/
def SwapFacts.sellSwap (f : SwapFacts) (wallet : String) : Option ParsedSwap :=
  if f.totalSolSpent < -MIN_SWAP_LAMPORTS ∧ f.lost ≠ [] then
    (primaryToken f.lost).map fun token =>
      f.swap wallet .sell token (WSOL_MINT, wrapU64 (-f.totalSolSpent), 9)
  else none

/-- RUST: collector/swap_parser.rs:317-358. -/
def SwapFacts.tokenSwap (f : SwapFacts) (wallet : String) : Option ParsedSwap :=
  if f.lost ≠ [] ∧ f.gained ≠ [] ∧ (f.totalSolSpent.natAbs : Int) < MIN_SWAP_LAMPORTS then
    match primaryToken f.lost, primaryToken f.gained with
    | some input, some output =>
        let direction :=
          if input.1 = WSOL_MINT then .buy
          else if output.1 = WSOL_MINT then .sell
          else .buy
        some (f.swap wallet direction input output)
    | _, _ => none
  else none

/-- RUST: collector/swap_parser.rs:186-361. -/
def parseSwapFromTransaction (order : KeyOrder) (tx : SwapTransaction) (wallet : String) :
    Option ParsedSwap := do
  let f ← swapFacts order tx wallet
  ((f.buySwap wallet).or (f.sellSwap wallet)).or (f.tokenSwap wallet)

end SolanaBot.Model
