import SolanaBot.Analysis.SwapBalances
import SolanaBot.Model.SwapParser

/-!
# The encodings of the account keys

A `getTransaction` response lists the account keys as strings, or as objects with a `pubkey`. The
swap parser reads both (`extractPubkey_encodings`), the verification of a landed trade only the
objects: with strings it finds no owner, and so no proceeds in SOL. Everything else it reads is
independent of the keys, so the two encodings get the same verdict exactly if the trade is not
seen to have brought its owner any lamports (`parseSwapTransaction_encodings_iff`).
-/

set_option autoImplicit false

namespace SolanaBot.Analysis

open SolanaBot.Model

/-- The two encodings of a key. -/
inductive KeyEncoding where
  | json
  | jsonParsed

/-- A key in an encoding. -/
def KeyEncoding.encode : KeyEncoding → String → AccountKey
  | .json, key => .plain key
  | .jsonParsed, key => .parsed (some key)

/-- The transaction with its keys in an encoding. -/
def withKeys (encoding : KeyEncoding) (keys : Option (List String)) (txMeta : Option TxMeta)
    (blockTime : Option Int) : Transaction :=
  { accountKeys := keys.map fun keys => keys.map encoding.encode, txMeta, blockTime }

/-- The swap parser reads the same keys from both encodings. -/
theorem extractPubkey_encodings (encoding : KeyEncoding) (keys : List String) :
    (keys.map encoding.encode).filterMap extractPubkey = keys := by
  have hkey : ∀ key, extractPubkey (encoding.encode key) = some key := by
    cases encoding with
    | json => exact fun _ => rfl
    | jsonParsed => exact fun _ => rfl
  rw [List.filterMap_map]
  exact (List.filterMap_congr fun key _ => hkey key).trans List.filterMap_some

/-! ## Proceeds in SOL -/

/-- The change of the lamports of the account that the owner is listed with first. -/
def lamportChange (keys : Option (List String)) (m : TxMeta) (owner : String) : Option Int := do
  let idx ← (← keys).findIdx? fun key => key = owner
  let pre ← (← m.preBalances)[idx]?
  let post ← (← m.postBalances)[idx]?
  return (← post) - (← pre)

/-- Objects with a `pubkey` give the lamport change of the owner. -/
theorem nativeDeltaForOwner_parsed (keys : Option (List String)) (m : TxMeta)
    (txMeta : Option TxMeta) (blockTime : Option Int) (owner : String) :
    nativeDeltaForOwner (withKeys .jsonParsed keys txMeta blockTime) m owner =
      lamportChange keys m owner := by
  cases keys with
  | none => rfl
  | some keys =>
      have hfind : (keys.map KeyEncoding.jsonParsed.encode).findIdx?
          (fun k => k.pubkey = some owner) = keys.findIdx? fun key => key = owner := by
        rw [List.findIdx?_map]
        congr 1
        funext key
        simp [KeyEncoding.encode, AccountKey.pubkey]
      unfold nativeDeltaForOwner lamportChange withKeys
      simp only [Option.map_some, Option.bind_eq_bind, Option.bind_some, hfind]

/-- Strings have no `pubkey`, and no owner is found. -/
theorem nativeDeltaForOwner_plain (keys : Option (List String)) (m : TxMeta)
    (txMeta : Option TxMeta) (blockTime : Option Int) (owner : String) :
    nativeDeltaForOwner (withKeys .json keys txMeta blockTime) m owner = none := by
  cases keys with
  | none => rfl
  | some keys =>
      have hfind : (keys.map KeyEncoding.json.encode).findIdx?
          (fun k => k.pubkey = some owner) = none := by
        rw [List.findIdx?_eq_none_iff]
        intro k hk
        obtain ⟨key, -, rfl⟩ := List.mem_map.mp hk
        simp [KeyEncoding.encode, AccountKey.pubkey]
      unfold nativeDeltaForOwner withKeys
      simp only [Option.map_some, Option.bind_eq_bind, Option.bind_some, hfind, Option.bind_none]

/-- The input leg of a trade can be verified. -/
def InputVerified (m : TxMeta) (inputMint owner : String) : Prop :=
  inputMint = WSOL_MINT ∨
    deltaFor m owner inputMint ≠ 0 ∧ |deltaFor m owner inputMint| < 2 ^ 64

/-- The input of a swap is read exactly if it can be verified. -/
theorem swapInputAmount_isOk_iff (m : TxMeta) (inputMint owner : String) (expectedInput : UInt64) :
    (∃ v, swapInputAmount m inputMint owner expectedInput = .ok v) ↔
      InputVerified m inputMint owner := by
  unfold InputVerified
  by_cases hmint : inputMint = WSOL_MINT
  · exact ⟨fun _ => .inl hmint, fun _ => ⟨expectedInput, if_pos hmint⟩⟩
  · simp only [swapInputAmount_eq_ok hmint, hmint, false_or, exists_and_left]
    refine and_congr_right fun _ => ⟨?_, fun hlt => ?_⟩
    · rintro ⟨v, hv⟩
      have hlt := v.toNat_lt
      rw [hv]
      exact_mod_cast hlt
    · refine ⟨UInt64.ofNat (deltaFor m owner inputMint).natAbs, ?_⟩
      rw [Int.abs_eq_natAbs] at hlt ⊢
      rw [UInt64.toNat_ofNat', Nat.mod_eq_of_lt (by exact_mod_cast hlt)]

/-- The output leg reads the same under both encodings, unless lamports came in. -/
theorem swapOutputAmount_encodings_iff (keys : Option (List String)) (m : TxMeta)
    (txMeta : Option TxMeta) (blockTime : Option Int) (outputMint owner : String)
    (fee : UInt64) :
    swapOutputAmount (withKeys .json keys txMeta blockTime) m outputMint owner fee =
      swapOutputAmount (withKeys .jsonParsed keys txMeta blockTime) m outputMint owner fee ↔
      ¬ (outputMint = WSOL_MINT ∧ ∃ d, lamportChange keys m owner = some d ∧ 0 < d) := by
  by_cases hmint : outputMint = WSOL_MINT
  · unfold swapOutputAmount
    simp only [hmint, true_and, nativeDeltaForOwner_plain, nativeDeltaForOwner_parsed]
    cases hchange : lamportChange keys m owner with
    | none => simp
    | some d =>
        by_cases hpos : 0 < d
        · -- the strings report no proceeds, the objects an amount or an overflow
          have hproceeds : ∃ d', some d = some d' ∧ 0 < d' := ⟨d, rfl, hpos⟩
          simp only [gt_iff_lt, if_pos hpos, hproceeds, not_true, iff_false]
          cases toU64 (d + fee.toNat) with
          | none => simp
          | some v => simp
        · simp [hpos]
  · refine ⟨fun _ h => hmint h.1, fun _ => ?_⟩
    unfold swapOutputAmount
    rw [if_neg hmint, if_neg hmint]

/-! ## Verdicts -/

/-- The verdict on a trade whose input leg is verified. -/
def verdictOf (inputAmount feeLamports : UInt64) (blockTime : Option Int) :
    Except String UInt64 → SwapOutcome
  | .error detail => .unverifiable detail
  | .ok outputAmount => .executed { inputAmount, outputAmount, feeLamports, blockTime }

/-- Verdicts on one input differ in the output only. -/
theorem verdictOf_inj {inputAmount feeLamports : UInt64} {blockTime : Option Int}
    {output output' : Except String UInt64} :
    verdictOf inputAmount feeLamports blockTime output =
      verdictOf inputAmount feeLamports blockTime output' ↔ output = output' := by
  constructor
  · intro h
    cases output with
    | error detail =>
        cases output' with
        | error detail' => cases h; rfl
        | ok v' => cases h
    | ok v =>
        cases output' with
        | error detail' => cases h
        | ok v' => cases h; rfl
  · rintro rfl
    rfl

/-- The part of a trade that is read before the output leg: success, fee and input. -/
def InputRead (m : TxMeta) (inputMint owner : String) : Prop :=
  m.err = none ∧ m.fee.isSome ∧ InputVerified m inputMint owner

/-- From there on the verdict is that on the output leg. -/
theorem parseSwapTransaction_of_inputRead {m : TxMeta} {inputMint owner : String}
    (hread : InputRead m inputMint owner) (expectedInput : UInt64) :
    ∃ inputAmount fee, ∀ (encoding : KeyEncoding) (keys : Option (List String))
      (blockTime : Option Int) (outputMint : String),
      parseSwapTransaction (withKeys encoding keys (some m) blockTime) inputMint outputMint owner
          expectedInput =
        verdictOf inputAmount fee blockTime
          (swapOutputAmount (withKeys encoding keys (some m) blockTime) m outputMint owner fee) := by
  obtain ⟨herr, hfee, hinput⟩ := hread
  obtain ⟨fee, hfee⟩ := Option.isSome_iff_exists.mp hfee
  obtain ⟨v, hv⟩ := (swapInputAmount_isOk_iff m inputMint owner expectedInput).mpr hinput
  refine ⟨v, fee, fun encoding keys blockTime outputMint => ?_⟩
  unfold parseSwapTransaction
  simp only [withKeys, herr, hfee, hv]
  split
  · rename_i detail houtput
    rw [houtput]
    rfl
  · rename_i v' houtput
    rw [houtput]
    rfl

/-- Up to there the keys are not looked at. -/
theorem parseSwapTransaction_of_not_inputRead {m : TxMeta} {inputMint owner : String}
    (hread : ¬ InputRead m inputMint owner) (keys : Option (List String)) (blockTime : Option Int)
    (outputMint : String) (expectedInput : UInt64) :
    parseSwapTransaction (withKeys .json keys (some m) blockTime) inputMint outputMint owner
        expectedInput =
      parseSwapTransaction (withKeys .jsonParsed keys (some m) blockTime) inputMint outputMint owner
        expectedInput := by
  unfold parseSwapTransaction
  cases herr : m.err with
  | some e => simp only [withKeys, herr]
  | none =>
      cases hfee : m.fee with
      | none => simp only [withKeys, herr, hfee]
      | some fee =>
          cases hinput : swapInputAmount m inputMint owner expectedInput with
          | error detail => simp only [withKeys, herr, hfee, hinput]
          | ok v =>
              have hverified := (swapInputAmount_isOk_iff m inputMint owner expectedInput).mp ⟨v, hinput⟩
              exact absurd ⟨herr, Option.isSome_iff_exists.mpr ⟨fee, hfee⟩, hverified⟩ hread

/-- The trade sold into SOL: its transaction succeeded, its input is verified and its owner has
more lamports than before. -/
structure SoldIntoSol (keys : Option (List String)) (m : TxMeta)
    (inputMint outputMint owner : String) : Prop where
  read : InputRead m inputMint owner
  output : outputMint = WSOL_MINT
  proceeds : ∃ d, lamportChange keys m owner = some d ∧ 0 < d

/-- **Encodings.** A trade gets the same verdict under both encodings of the keys if and only if
it did not sell into SOL. -/
theorem parseSwapTransaction_encodings_iff (keys : Option (List String)) (txMeta : Option TxMeta)
    (blockTime : Option Int) (inputMint outputMint owner : String) (expectedInput : UInt64) :
    parseSwapTransaction (withKeys .json keys txMeta blockTime) inputMint outputMint owner
        expectedInput =
      parseSwapTransaction (withKeys .jsonParsed keys txMeta blockTime) inputMint outputMint owner
        expectedInput ↔
      ∀ m ∈ txMeta, ¬ SoldIntoSol keys m inputMint outputMint owner := by
  cases txMeta with
  | none => exact ⟨fun _ m hm => absurd hm nofun, fun _ => rfl⟩
  | some m =>
      simp only [Option.mem_some_iff, forall_eq']
      by_cases hread : InputRead m inputMint owner
      · obtain ⟨v, fee, hverdict⟩ := parseSwapTransaction_of_inputRead hread expectedInput
        rw [hverdict, hverdict, verdictOf_inj, swapOutputAmount_encodings_iff]
        exact not_congr ⟨fun h => ⟨hread, h.1, h.2⟩, fun h => ⟨h.output, h.proceeds⟩⟩
      · exact ⟨fun _ h => hread h.read,
          fun _ => parseSwapTransaction_of_not_inputRead hread keys blockTime outputMint _⟩

/-- A sale of a thousand tokens for lamports, by the account that paid the fee. -/
def sampleSolSale : TxMeta :=
  { err := none
    fee := some 5000
    preBalances := some [some 1000000]
    postBalances := some [some 2000000]
    preTokenBalances := [{ accountIndex := some 1, mint := some "token", owner := some "owner"
                           amount := some 1000 }]
    postTokenBalances := [{ accountIndex := some 1, mint := some "token", owner := some "owner"
                            amount := some 0 }] }

/-- The sale is reconciled when its keys are objects, and not when they are strings. -/
theorem parseSwapTransaction_encodings_differ :
    parseSwapTransaction (withKeys .json (some ["owner"]) (some sampleSolSale) none) "token" WSOL_MINT
        "owner" 1000 ≠
      parseSwapTransaction (withKeys .jsonParsed (some ["owner"]) (some sampleSolSale) none) "token"
        WSOL_MINT "owner" 1000 := by
  decide +kernel

end SolanaBot.Analysis
