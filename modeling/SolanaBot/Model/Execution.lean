import Mathlib.Data.List.Dedup
import Mathlib.Data.Nat.Cast.Order.Ring
import SolanaBot.Model.Domain

/-!
# The executor interface

Quotes, value bases, execution requests and errors of `execution/executor.rs`, the
enrichment of a fill (`execution/jupiter.rs:478-481`) and the reading of a confirmed
transaction (`execution/reconcile.rs`).

A `getTransaction` response is modelled by the fields that the parser reads: an
absent or ill-typed JSON field is `none`.
-/

set_option autoImplicit false

namespace SolanaBot.Model

/-- RUST: execution/executor.rs:8-16. The route is the provider's JSON text. -/
structure Quote where
  inputMint : String
  outputMint : String
  inputAmount : UInt64
  outputAmount : UInt64
  priceImpactBps : UInt32
  route : String
  observedAt : Time
deriving DecidableEq

/-- RUST: execution/executor.rs:82-102. -/
inductive ExecutionError where
  | quote (detail : String)
  | staleQuote
  | invalidQuote
  | policy (detail : String)
  | unknown (signature : Option String) (detail : String)
  | transaction (detail : String)
  | unavailable (detail : String)
deriving DecidableEq

/-- The `Debug` text of an optional string. -/
def debugOption : Option String → String
  | none => "None"
  | some s => "Some(\"" ++ s ++ "\")"

/-- RUST: execution/executor.rs:83-102, the error texts. -/
def ExecutionError.toText : ExecutionError → String
  | .quote d => "quote unavailable: " ++ d
  | .staleQuote => "quote is stale"
  | .invalidQuote => "quote violates slippage/impact/receive limit"
  | .policy d => "transaction policy rejected: " ++ d
  | .unknown s d =>
      "transaction outcome is unknown; reconcile before retrying (signature=" ++ debugOption s ++
        "): " ++ d
  | .transaction d => "transaction failed on-chain: " ++ d
  | .unavailable d => "execution backend unavailable: " ++ d

/-- RUST: execution/executor.rs:60-67. -/
def units (amount : UInt64) (decimals : UInt8) : Except ExecutionError Decimal :=
  match checkedPow10 decimals with
  | none => .error (.policy "decimals overflow")
  | some d => .ok (dec amount / dec d)

/-- RUST: execution/executor.rs:22-28. -/
inductive ValueBasis where
  | inputValueUsd (v : Decimal)
  | outputUnitPriceUsd (p : Decimal)
deriving DecidableEq

/-- RUST: execution/executor.rs:31-57. The USD value of the trade and the USD price of one
traded token. -/
def ValueBasis.priceFill (basis : ValueBasis) (inputAmount : UInt64) (inputDecimals : UInt8)
    (outputAmount : UInt64) (outputDecimals : UInt8) :
    Except ExecutionError (Decimal × Decimal) := do
  let inputUnits ← units inputAmount inputDecimals
  let outputUnits ← units outputAmount outputDecimals
  match basis with
  | .inputValueUsd v =>
      if outputUnits ≤ 0 then .error .invalidQuote
      else .ok (v, v / outputUnits)
  | .outputUnitPriceUsd p =>
      if inputUnits ≤ 0 then .error .invalidQuote
      else
        let value := outputUnits * p
        .ok (value, value / inputUnits)

/-- The trades that get a value and a price: both amounts can be brought to units, and the one
that the price is divided by is not zero. -/
def ValueBasis.Prices (basis : ValueBasis) (inputAmount : UInt64) (inputDecimals : UInt8)
    (outputAmount : UInt64) (outputDecimals : UInt8) : Prop :=
  inputDecimals.toNat < 20 ∧ outputDecimals.toNat < 20 ∧
    match basis with
    | .inputValueUsd _ => outputAmount ≠ 0
    | .outputUnitPriceUsd _ => inputAmount ≠ 0

/-- The powers of ten below `2 ^ 64`. -/
theorem ten_pow_lt_iff (n : ℕ) : 10 ^ n < 2 ^ 64 ↔ n < 20 := by
  constructor
  · intro h
    by_contra hn
    have hpow : 10 ^ 20 ≤ 10 ^ n := Nat.pow_le_pow_right (by decide) (by omega)
    omega
  · intro h
    have hpow : 10 ^ n ≤ 10 ^ 19 := Nat.pow_le_pow_right (by decide) (by omega)
    omega

/-- Below twenty decimals the units are computed. -/
theorem units_eq_ok {amount : UInt64} {decimals : UInt8} (h : decimals.toNat < 20) :
    units amount decimals = .ok (dec amount / 10 ^ decimals.toNat) := by
  have hlt := (ten_pow_lt_iff _).mpr h
  have hnat : (UInt64.ofNat (10 ^ decimals.toNat)).toNat = 10 ^ decimals.toNat := by
    rw [UInt64.toNat_ofNat', Nat.mod_eq_of_lt hlt]
  unfold units checkedPow10
  rw [if_pos hlt]
  simp [dec, hnat]

/-- From twenty decimals on they are refused. -/
theorem units_eq_error {amount : UInt64} {decimals : UInt8} (h : ¬ decimals.toNat < 20) :
    units amount decimals = .error (.policy "decimals overflow") := by
  unfold units checkedPow10
  rw [if_neg (mt (ten_pow_lt_iff _).mp h)]

/-- An amount in units is positive if it is not zero. -/
theorem units_le_zero_iff (amount : UInt64) (decimals : UInt8) :
    dec amount / 10 ^ decimals.toNat ≤ 0 ↔ amount = 0 := by
  have hpow : (0 : ℚ) < 10 ^ decimals.toNat := pow_pos (by decide) _
  rw [div_le_iff₀ hpow, zero_mul]
  unfold dec
  rw [← Nat.cast_zero, Nat.cast_le, Nat.le_zero, ← UInt64.toNat_zero, UInt64.toNat_inj]

/-- A fill is priced exactly if the trade can be. -/
theorem ValueBasis.priceFill_isOk_iff (basis : ValueBasis) (inputAmount : UInt64)
    (inputDecimals : UInt8) (outputAmount : UInt64) (outputDecimals : UInt8) :
    (∃ v, basis.priceFill inputAmount inputDecimals outputAmount outputDecimals = .ok v) ↔
      basis.Prices inputAmount inputDecimals outputAmount outputDecimals := by
  unfold ValueBasis.priceFill ValueBasis.Prices
  by_cases hin : inputDecimals.toNat < 20
  · rw [units_eq_ok hin]
    by_cases hout : outputDecimals.toNat < 20
    · rw [units_eq_ok hout]
      simp only [bind, Except.bind, units_le_zero_iff, hin, hout, true_and]
      cases basis with
      | inputValueUsd v => by_cases hzero : outputAmount = 0 <;> simp [hzero]
      | outputUnitPriceUsd p => by_cases hzero : inputAmount = 0 <;> simp [hzero]
    · rw [units_eq_error hout]
      simp [bind, Except.bind, hout]
  · rw [units_eq_error hin]
    simp [bind, Except.bind, hin]

/-- A purchase is priced by what was paid for the units that were bought. -/
theorem ValueBasis.priceFill_inputValueUsd_eq {inputDecimals outputDecimals : UInt8}
    {outputAmount : UInt64} (hin : inputDecimals.toNat < 20) (hout : outputDecimals.toNat < 20)
    (hamount : outputAmount ≠ 0) (v : Decimal) (inputAmount : UInt64) :
    (ValueBasis.inputValueUsd v).priceFill inputAmount inputDecimals outputAmount outputDecimals =
      .ok (v, v / (dec outputAmount / 10 ^ outputDecimals.toNat)) := by
  unfold priceFill
  rw [units_eq_ok hin, units_eq_ok hout]
  simp only [bind, Except.bind, units_le_zero_iff, if_neg hamount]

/-- A sale is worth what was received, at the price of the base, and is priced by the units sold. -/
theorem ValueBasis.priceFill_outputUnitPriceUsd_eq {inputDecimals outputDecimals : UInt8}
    {inputAmount : UInt64} (hin : inputDecimals.toNat < 20) (hout : outputDecimals.toNat < 20)
    (hamount : inputAmount ≠ 0) (p : Decimal) (outputAmount : UInt64) :
    (ValueBasis.outputUnitPriceUsd p).priceFill inputAmount inputDecimals outputAmount
        outputDecimals =
      .ok (dec outputAmount / 10 ^ outputDecimals.toNat * p,
        dec outputAmount / 10 ^ outputDecimals.toNat * p /
          (dec inputAmount / 10 ^ inputDecimals.toNat)) := by
  unfold priceFill
  rw [units_eq_ok hin, units_eq_ok hout]
  simp only [bind, Except.bind, units_le_zero_iff, if_neg hamount]

/-- RUST: execution/executor.rs:70-79. -/
structure ExecutionRequest where
  orderId : String
  quote : Quote
  maxSlippageBps : UInt32
  maxPriceImpactBps : UInt32
  minOutputAmount : UInt64
  inputDecimals : UInt8
  outputDecimals : UInt8
  valueBasis : ValueBasis
deriving DecidableEq

/-- RUST: execution/executor.rs:128-133. -/
def feeUsd (feeLamports : UInt64) (solPriceUsd : Option Decimal) : Decimal :=
  match solPriceUsd with
  | some p => dec feeLamports / 1000000000 * p
  | none => 0

/-- RUST: execution/jupiter.rs:478-481. -/
def finalizeFill (fill : Fill) (solPriceUsd : Option Decimal) : Fill :=
  { fill with
    slippageBps := fill.realisedSlippageBps
    feesUsd := feeUsd fill.feeLamports solPriceUsd }

/-! ## Confirmed transactions -/

/-- RUST: execution/reconcile.rs:11. -/
def WSOL_MINT : String := "So11111111111111111111111111111111111111112"

/-- One entry of `preTokenBalances` or `postTokenBalances`. -/
structure TokenBalanceEntry where
  accountIndex : Option UInt64
  mint : Option String
  owner : Option String
  amount : Option UInt64
deriving DecidableEq

/-- An element of the account keys: a plain string, or an object with a `pubkey`. -/
inductive AccountKey where
  | plain (key : String)
  | parsed (pubkey : Option String)
deriving DecidableEq

/-- `key["pubkey"].as_str()`: indexing a plain string gives null. -/
def AccountKey.pubkey : AccountKey → Option String
  | .plain _ => none
  | .parsed k => k

/-- The `meta` object of a transaction. A missing balance array is empty. -/
structure TxMeta where
  err : Option String
  fee : Option UInt64
  preBalances : Option (List (Option Int))
  postBalances : Option (List (Option Int))
  preTokenBalances : List TokenBalanceEntry
  postTokenBalances : List TokenBalanceEntry
deriving DecidableEq

/-- A `getTransaction` response. -/
structure Transaction where
  accountKeys : Option (List AccountKey)
  txMeta : Option TxMeta
  blockTime : Option Int
deriving DecidableEq

/-- RUST: execution/reconcile.rs:15-20. -/
structure ChainSwapOutcome where
  inputAmount : UInt64
  outputAmount : UInt64
  feeLamports : UInt64
  blockTime : Option Int
deriving DecidableEq

/-- RUST: execution/reconcile.rs:23-29. -/
inductive SwapOutcome where
  | failed (err : String)
  | executed (outcome : ChainSwapOutcome)
  | unverifiable (detail : String)
deriving DecidableEq

/-- RUST: execution/reconcile.rs:33-46, the closure `parse`. -/
def parseBalances (entries : List TokenBalanceEntry) : List (UInt64 × String × UInt64) :=
  entries.filterMap fun e => do
    let idx ← e.accountIndex
    let mint ← e.mint
    let amount ← e.amount
    return (idx, mint, amount)

/-- The balance of an account in a parsed balance array, zero when it is not listed. -/
def balanceOf (balances : List (UInt64 × String × UInt64)) (idx : UInt64) (mint : String) : Int :=
  ((balances.find? fun b => b.1 = idx ∧ b.2.1 = mint).map fun b => (b.2.2.toNat : Int)).getD 0

/-- RUST: execution/reconcile.rs:32-69. Balance changes by account index and mint. -/
def tokenDeltas (m : TxMeta) : List (UInt64 × String × Int) :=
  let pre := parseBalances m.preTokenBalances
  let post := parseBalances m.postTokenBalances
  let keys := ((pre ++ post).map fun b => (b.1, b.2.1)).dedup
  keys.map fun k => (k.1, k.2, balanceOf post k.1 k.2 - balanceOf pre k.1 k.2)

/-- RUST: execution/reconcile.rs:72-85. -/
def ownerForIndex (m : TxMeta) : List (UInt64 × String) :=
  m.postTokenBalances.filterMap fun e => do
    let idx ← e.accountIndex
    let owner ← e.owner
    return (idx, owner)

/-- RUST: execution/reconcile.rs:87-95. -/
def nativeDeltaForOwner (tx : Transaction) (m : TxMeta) (owner : String) : Option Int := do
  let keys ← tx.accountKeys
  let idx ← keys.findIdx? fun k => k.pubkey = some owner
  let pre ← (← m.preBalances)[idx]?
  let post ← (← m.postBalances)[idx]?
  return (← post) - (← pre)

/-- RUST: u64::try_from on an i128. -/
def toU64 (d : Int) : Option UInt64 :=
  if 0 ≤ d ∧ d < 2 ^ 64 then some (UInt64.ofNat d.toNat) else none

/-- RUST: execution/reconcile.rs:126-134, the closure `delta_for`. -/
def deltaFor (m : TxMeta) (owner mint : String) : Int :=
  let owners := ownerForIndex m
  (((tokenDeltas m).filter fun d =>
    d.2.1 = mint ∧ owners.any fun o => o.1 = d.1 ∧ o.2 = owner).map fun d => d.2.2).sum

/-- RUST: execution/reconcile.rs:136-151. -/
def swapInputAmount (m : TxMeta) (inputMint owner : String) (expectedInput : UInt64) :
    Except String UInt64 :=
  if inputMint = WSOL_MINT then .ok expectedInput
  else
    let d := deltaFor m owner inputMint
    if d = 0 then .error ("no owner delta for input mint " ++ inputMint)
    else
      match toU64 (d.natAbs : Int) with
      | some v => .ok v
      | none => .error "input delta overflow"

/-- RUST: execution/reconcile.rs:153-179. -/
def swapOutputAmount (tx : Transaction) (m : TxMeta) (outputMint owner : String)
    (feeLamports : UInt64) : Except String UInt64 :=
  if outputMint = WSOL_MINT then
    match nativeDeltaForOwner tx m owner with
    | some d =>
        if d > 0 then
          match toU64 (d + feeLamports.toNat) with
          | some v => .ok v
          | none => .error "output delta overflow"
        else .error "no positive native delta for wrapped-SOL output"
    | none => .error "no positive native delta for wrapped-SOL output"
  else
    let d := deltaFor m owner outputMint
    if d ≤ 0 then .error ("no positive owner delta for output mint " ++ outputMint)
    else
      match toU64 d with
      | some v => .ok v
      | none => .error "output delta overflow"

/-- RUST: execution/reconcile.rs:105-187. -/
def parseSwapTransaction (tx : Transaction) (inputMint outputMint owner : String)
    (expectedInput : UInt64) : SwapOutcome :=
  match tx.txMeta with
  | none => .unverifiable "missing transaction metadata"
  | some m =>
      match m.err with
      | some err => .failed err
      | none =>
          match m.fee with
          | none => .unverifiable "missing fee metadata"
          | some feeLamports =>
              match swapInputAmount m inputMint owner expectedInput with
              | .error detail => .unverifiable detail
              | .ok inputAmount =>
                  match swapOutputAmount tx m outputMint owner feeLamports with
                  | .error detail => .unverifiable detail
                  | .ok outputAmount =>
                      .executed { inputAmount, outputAmount, feeLamports, blockTime := tx.blockTime }

/-- Only a transaction with an error in its metadata is read as failed. -/
theorem parseSwapTransaction_ne_failed {tx : Transaction} {inputMint outputMint owner : String}
    {expectedInput : UInt64} (h : ∀ m, tx.txMeta = some m → m.err = none) (err : String) :
    parseSwapTransaction tx inputMint outputMint owner expectedInput ≠ .failed err := by
  unfold parseSwapTransaction
  cases hm : tx.txMeta with
  | none => simp
  | some m =>
      simp only [h m hm]
      split
      · simp
      · split
        · simp
        · split <;> simp

end SolanaBot.Model
