import Mathlib.Logic.Function.Basic
import SolanaBot.Library.Base64
import SolanaBot.Model.Rpc

/-!
# The policy for provider transactions

`execution/policy.rs`: the transaction that a quote provider has built is signed only if its accounts
resolve, the bot is its one signer and pays for it, and it calls allowed programs only. The addresses
of a v0 transaction come in part from lookup tables, which are read through
`RpcPool::fetch_accounts_base64` (`data/rpc.rs`) and kept by the resolver.

The text of a public key, its parsing and the base64 engine belong to other libraries and are
parameters (`PolicyEnv`), as is the answer of the RPC pool: one resolution asks for a table once, or
stops with its error. Of an account in the answer only its data is read; a part that is missing or
of another type is `none`.
-/

set_option autoImplicit false

namespace SolanaBot.Model

open SolanaBot.Library

/-- RUST: solana_sdk::pubkey::Pubkey, 32 bytes. -/
structure Pubkey where
  bytes : List UInt8
  length_eq : bytes.length = 32
deriving DecidableEq

/-- RUST: Pubkey::new_from_array, of a slice that was tried into an array. -/
def Pubkey.ofBytes (bytes : List UInt8) : Option Pubkey :=
  if h : bytes.length = 32 then some ⟨bytes, h⟩ else none

/-- RUST: execution/policy.rs:6-22. -/
inductive PolicyError where
  | malformedAlt (detail : String)
  | altFetchFailed (detail : String)
  | signers
  | payer
  | programId (id : String)
  | program (id : String)
  | accountIndex
deriving DecidableEq

/-- RUST: execution/policy.rs:6-22, the error texts. -/
def PolicyError.toText : PolicyError → String
  | .malformedAlt d => "address lookup table data is malformed: " ++ d
  | .altFetchFailed d => "failed to fetch address lookup table from chain: " ++ d
  | .signers => "transaction has unexpected signer layout"
  | .payer => "transaction payer differs from configured signer"
  | .programId id => "invalid allowed program id: " ++ id
  | .program id => "unexpected program: " ++ id
  | .accountIndex => "instruction references an invalid account index"

/-! ## Parameters -/

/-- RUST: base64::engine::general_purpose::STANDARD. A text that it decodes is padded. -/
structure Base64Engine where
  encode : List UInt8 → String
  decode : String → Except String (List UInt8)
  decode_encode : ∀ bytes, decode (encode bytes) = .ok bytes
  length_of_decode : ∀ text bytes, decode text = .ok bytes → text.length % 4 = 0

/-- The `data` of an account: an array of texts. -/
structure AccountData where
  data : Option (List (Option String))
deriving DecidableEq

/-- What the policy asks other libraries and the RPC pool. An answer without a `value` array is
`none`, and so is an account that does not exist. -/
structure PolicyEnv where
  pubkeyText : Pubkey → String
  parsePubkey : String → Option Pubkey
  base64 : Base64Engine
  getMultipleAccounts : List String → Except RpcError (Option (List (Option AccountData)))

/-! ## Lookup tables -/

/-- RUST: data/rpc.rs:555-565. The text that is read from an account. -/
def accountText (account : AccountData) : Option String := do
  (← (← account.data)[1]?)

/-- RUST: data/rpc.rs:535-568. -/
def fetchAccountsBase64 (env : PolicyEnv) (pubkeys : List String) :
    Except RpcError (List (Option String)) :=
  if pubkeys = [] then .ok []
  else
    match env.getMultipleAccounts pubkeys with
    | .error e => .error e
    | .ok none => .error (.invalid "missing value array in getMultipleAccounts")
    | .ok (some accounts) => .ok (accounts.map fun account => account.bind accountText)

/-- RUST: execution/policy.rs:93-100. The addresses, 32 bytes each. -/
def parseAddresses (keyText : String) (addrBytes : List UInt8) :
    Except PolicyError (List Pubkey) :=
  (List.range (addrBytes.length / 32)).mapM fun i =>
    match Pubkey.ofBytes ((addrBytes.drop (i * 32)).take 32) with
    | some key => .ok key
    | none => .error (.malformedAlt (keyText ++ ": addr[" ++ toString i ++ "] slice error"))

/-- RUST: execution/policy.rs:62-100. The addresses of a table: a header of 11 bytes, and then 32
bytes for each. -/
def parseAltTable (keyText : String) (raw : List UInt8) : Except PolicyError (List Pubkey) :=
  if raw.length < 11 then
    .error (.malformedAlt (keyText ++ ": data too short (" ++ toString raw.length ++
      " bytes, minimum 11)"))
  else if raw.getD 0 0 ≠ 1 then
    .error (.malformedAlt (keyText ++ ": invalid discriminator [" ++ toString (raw.getD 0 0) ++ "]"))
  else if raw.getD 1 0 > 1 then
    .error (.malformedAlt (keyText ++ ": invalid status [" ++ toString (raw.getD 1 0) ++ "]"))
  else
    let addrBytes := raw.drop 11
    if addrBytes.length % 32 ≠ 0 then
      .error (.malformedAlt (keyText ++ ": address data length " ++ toString addrBytes.length ++
        " is not a multiple of 32"))
    else parseAddresses keyText addrBytes

/-- RUST: execution/policy.rs:49-100. The addresses of a table that the resolver does not have. -/
def fetchTable (env : PolicyEnv) (altKey : Pubkey) : Except PolicyError (List Pubkey) :=
  let keyText := env.pubkeyText altKey
  match fetchAccountsBase64 env [keyText] with
  | .error e => .error (.altFetchFailed (keyText ++ ": " ++ e.toText))
  | .ok accounts =>
      match accounts.head?.join with
      | none => .error (.altFetchFailed (keyText ++ ": account not found"))
      | some data =>
          match env.base64.decode data with
          | .error e => .error (.malformedAlt (keyText ++ ": invalid base64: " ++ e))
          | .ok raw => parseAltTable keyText raw

/-- RUST: execution/policy.rs:27-30. The tables that were read. -/
structure AltResolver where
  cache : Pubkey → Option (List Pubkey)

/-- RUST: execution/policy.rs:32-38. -/
def AltResolver.new : AltResolver := { cache := fun _ => none }

/-- RUST: execution/policy.rs:45-105. -/
def AltResolver.fetchAltAddresses (env : PolicyEnv) (resolver : AltResolver) (altKey : Pubkey) :
    Except PolicyError (List Pubkey) × AltResolver :=
  match resolver.cache altKey with
  | some addrs => (.ok addrs, resolver)
  | none =>
      match fetchTable env altKey with
      | .error e => (.error e, resolver)
      | .ok addrs =>
          (.ok addrs, { cache := Function.update resolver.cache altKey (some addrs) })

/-! ## Transactions -/

/-- RUST: solana_sdk::instruction::CompiledInstruction. Its data is not read. -/
structure CompiledInstruction where
  programIdIndex : UInt8
  accounts : List UInt8
deriving DecidableEq

/-- RUST: solana_sdk::message::v0::MessageAddressTableLookup. -/
structure AddressTableLookup where
  accountKey : Pubkey
  writableIndexes : List UInt8
  readonlyIndexes : List UInt8
deriving DecidableEq

/-- The parts that both message formats have. -/
structure LegacyMessage where
  numRequiredSignatures : UInt8
  accountKeys : List Pubkey
  instructions : List CompiledInstruction
deriving DecidableEq

/-- RUST: solana_sdk::message::v0::Message. -/
structure V0Message extends LegacyMessage where
  addressTableLookups : List AddressTableLookup
deriving DecidableEq

/-- RUST: solana_sdk::message::VersionedMessage. -/
inductive VersionedMessage where
  | legacy (m : LegacyMessage)
  | v0 (m : V0Message)
deriving DecidableEq

/-- RUST: execution/policy.rs:147-155 and 156-164. The two loops over the indexes of a lookup, which
name the access in their error. -/
def takeIndexes (access keyText : String) (addrs : List Pubkey) (indexes : List UInt8) :
    Except PolicyError (List Pubkey) :=
  indexes.mapM fun idx =>
    match addrs[idx.toNat]? with
    | some key => .ok key
    | none =>
        .error (.malformedAlt ("ALT " ++ keyText ++ " " ++ access ++ " index " ++ toString idx ++
          " exceeds table length " ++ toString addrs.length))

/-- The addresses that the lookups of a transaction load. -/
structure LoadedAddresses where
  writable : List Pubkey
  readonly : List Pubkey
deriving DecidableEq

/-- RUST: execution/policy.rs:142-165, one turn of the loop. -/
def takeLookup (env : PolicyEnv) (lookup : AddressTableLookup) (addrs : List Pubkey)
    (loaded : LoadedAddresses) : Except PolicyError LoadedAddresses := do
  let keyText := env.pubkeyText lookup.accountKey
  let writable ← takeIndexes "writable" keyText addrs lookup.writableIndexes
  let readonly ← takeIndexes "readonly" keyText addrs lookup.readonlyIndexes
  return { writable := loaded.writable ++ writable, readonly := loaded.readonly ++ readonly }

/-- RUST: execution/policy.rs:142-165. -/
def resolveLookups (env : PolicyEnv) : List AddressTableLookup → LoadedAddresses → AltResolver →
    Except PolicyError LoadedAddresses × AltResolver
  | [], loaded, resolver => (.ok loaded, resolver)
  | lookup :: lookups, loaded, resolver =>
      match resolver.fetchAltAddresses env lookup.accountKey with
      | (.error e, resolver) => (.error e, resolver)
      | (.ok addrs, resolver) =>
          match takeLookup env lookup addrs loaded with
          | .error e => (.error e, resolver)
          | .ok loaded => resolveLookups env lookups loaded resolver

/-- RUST: execution/policy.rs:123-176. The key list of a v0 message. -/
def resolveV0Accounts (env : PolicyEnv) (m : V0Message) (resolver : AltResolver) :
    Except PolicyError (List Pubkey) × AltResolver :=
  match resolveLookups env m.addressTableLookups ⟨[], []⟩ resolver with
  | (.error e, resolver) => (.error e, resolver)
  | (.ok loaded, resolver) =>
      (.ok (m.accountKeys ++ loaded.writable ++ loaded.readonly), resolver)

/-- RUST: execution/policy.rs:184-187. -/
def parseAllowlist (env : PolicyEnv) (allowed : List String) : Except PolicyError (List Pubkey) :=
  allowed.mapM fun s =>
    match env.parsePubkey s with
    | some key => .ok key
    | none => .error (.programId s)

/-- RUST: execution/policy.rs:211-222, one instruction. -/
def checkInstruction (env : PolicyEnv) (allow keys : List Pubkey) (ix : CompiledInstruction) :
    Except PolicyError Unit :=
  match keys[ix.programIdIndex.toNat]? with
  | none => .error .accountIndex
  | some program =>
      if program ∉ allow then .error (.program (env.pubkeyText program))
      else if ix.accounts.any fun i => keys[i.toNat]?.isNone then .error .accountIndex
      else .ok ()

/-- RUST: execution/policy.rs:205-223. What is checked once the keys are known. -/
def checkMessage (env : PolicyEnv) (signer : Pubkey) (allow keys : List Pubkey) (required : UInt8)
    (instructions : List CompiledInstruction) : Except PolicyError Unit :=
  if required ≠ 1 then .error .signers
  else if keys.head? ≠ some signer then .error .payer
  else instructions.forM (checkInstruction env allow keys)

/-- RUST: execution/policy.rs:178-224. -/
def validateProviderTransaction (env : PolicyEnv) (tx : VersionedMessage) (signer : Pubkey)
    (allowed : List String) (resolver : AltResolver) : Except PolicyError Unit × AltResolver :=
  match parseAllowlist env allowed with
  | .error e => (.error e, resolver)
  | .ok allow =>
      match tx with
      | .legacy m =>
          (checkMessage env signer allow m.accountKeys m.numRequiredSignatures m.instructions,
            resolver)
      | .v0 m =>
          match resolveV0Accounts env m resolver with
          | (.error e, resolver) => (.error e, resolver)
          | (.ok keys, resolver) =>
              (checkMessage env signer allow keys m.numRequiredSignatures m.instructions, resolver)

/-! ## Base64 -/

/-- An engine for the standard alphabet with padding. -/
def standardBase64 : Base64Engine where
  encode bytes := String.ofList (Base64.encodeBytes bytes)
  decode text :=
    match Base64.decodeSymbols text.toList with
    | some bytes => .ok bytes
    | none => .error "Invalid padding"
  decode_encode bytes := by
    simp only [String.toList_ofList, Base64.decodeSymbols_encodeBytes]
  length_of_decode text bytes h := by
    split at h
    · rename_i symbols hsymbols
      rw [← String.length_toList]
      exact Base64.length_of_decodeSymbols hsymbols
    · cases h

end SolanaBot.Model
