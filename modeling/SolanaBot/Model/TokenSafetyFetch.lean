import SolanaBot.Model.TokenUnits

/-!
# Fetching the safety of a token

`collector/token_data.rs` and the paged `getSignaturesForAddress` of `data/rpc.rs`: the walk back through
the signatures of a mint that proves its age, and the record that comes out of it. The answers of the
network and the two readings of the clock come from outside.
-/

set_option autoImplicit false

namespace SolanaBot.Model

/-- RUST: collector/token_data.rs:10. -/
def AGE_PAGE_LIMIT : ℕ := 200

/-- RUST: collector/token_data.rs:14. -/
def MAX_AGE_PAGES : ℕ := 10

/-- An element of the array that the network answers: its two fields that are read here, where they
have the right type. -/
structure RawSignature where
  signature : Option String
  blockTime : Option Int
deriving DecidableEq

/-- RUST: data/rpc.rs:93-99, the fields that the age is computed from. -/
structure DatedSignature where
  signature : String
  blockTime : Option Int
deriving DecidableEq

/-- RUST: data/rpc.rs:406-411, one turn of the loop over the answered entries. -/
def RawSignature.read (e : RawSignature) : Except RpcError DatedSignature :=
  match e.signature with
  | none => .error (.invalid "signature entry missing signature")
  | some signature => .ok { signature, blockTime := e.blockTime }

/-- RUST: data/rpc.rs:389-429. What the call answers may be no array. -/
def signaturesForAddressPaged (answer : Except RpcError (Option (List RawSignature))) :
    Except RpcError (List DatedSignature) := do
  match ← answer with
  | none => .error (.invalid "missing signatures array")
  | some entries => entries.mapM RawSignature.read

/-- RUST: data/rpc.rs:102-107, the amount of one of the largest accounts. -/
structure TokenLargestAccount where
  amount : UInt64
deriving DecidableEq

/-- What the network answers about a mint: its account, its largest holders, and the page of signatures
before a cursor. The calls for pages are numbered. -/
structure TokenRpc where
  mintAccount : Except RpcError (Option MintAccount)
  largestAccounts : Except RpcError (List TokenLargestAccount)
  signatures : ℕ → Option String → Except RpcError (Option (List RawSignature))

/-- RUST: i64::saturating_sub. -/
def saturatingSubI64 (a b : Int) : Int := max (-2 ^ 63) (min (2 ^ 63 - 1) (a - b))

/-- RUST: collector/token_data.rs:68-74. The share is cut down to 32 bits. -/
def holderTop10Pct (supply : UInt64) (holders : List TokenLargestAccount) : Option Decimal :=
  if supply > 0 ∧ holders ≠ [] then
    let top10Sum := ((holders.take 10).map fun h => h.amount.toNat).sum
    some (((top10Sum * 10000 / supply.toNat % 2 ^ 32 : ℕ) : ℚ) / 100)
  else none

/-- The local variables of the walk. RUST: collector/token_data.rs:83-85. -/
structure AgeWalk where
  oldest : Option Int
  before : Option String
  exhausted : Bool

/-- RUST: collector/token_data.rs:96-101. -/
def olderTime (oldest : Option Int) (entry : DatedSignature) : Option Int :=
  match entry.blockTime with
  | some bt =>
      match oldest with
      | some prev => some (min prev bt)
      | none => some bt
  | none => oldest

/-- RUST: collector/token_data.rs:86-121. `left` pages may still be asked for. -/
def walkAge (signatures : ℕ → Option String → Except RpcError (Option (List RawSignature)))
    (cutoff : Int) : ℕ → ℕ → AgeWalk → Except RpcError AgeWalk
  | 0, _, st => .ok st
  | left + 1, idx, st =>
      match signaturesForAddressPaged (signatures idx st.before) with
      | .error e => .error e
      | .ok page =>
          if page = [] then .ok { st with exhausted := true }
          else
            let oldest := page.foldl olderTime st.oldest
            if oldest.any (· ≤ cutoff) then .ok { st with oldest }
            else if page.length < AGE_PAGE_LIMIT then .ok { st with oldest, exhausted := true }
            else
              match page.getLast? with
              | none => .ok { st with oldest, exhausted := true }
              | some last =>
                  walkAge signatures cutoff left (idx + 1)
                    { st with oldest, before := some last.signature }

/-- RUST: collector/token_data.rs:81-82. -/
def ageCutoff (nowTs minTokenAgeSecs : Int) : Int := saturatingSubI64 nowTs (max minTokenAgeSecs 0)

/-- RUST: collector/token_data.rs:34-144. The clock is read in seconds before the walk and once more
behind it. -/
def fetchTokenSafety (rpc : TokenRpc) (minTokenAgeSecs nowTs : Int) (observedAt : Time) :
    Except String (Option TokenSafety) :=
  match mintAccountInfo rpc.mintAccount with
  | .error e => .error ("mint_account_info RPC failed: " ++ e.toText)
  | .ok none => .ok none
  | .ok (some info) =>
      if !info.isInitialized then .ok none
      else
        match rpc.largestAccounts with
        | .error e => .error ("token_largest_accounts RPC failed: " ++ e.toText)
        | .ok holders =>
            match holderTop10Pct info.supply holders with
            | none => .ok none
            | some holderTop10Pct =>
                let cutoff := ageCutoff nowTs minTokenAgeSecs
                match walkAge rpc.signatures cutoff MAX_AGE_PAGES 0
                    { oldest := none, before := none, exhausted := false } with
                | .error e => .error ("signatures_for_address RPC failed: " ++ e.toText)
                | .ok walked =>
                    match walked.oldest with
                    | none => .ok none
                    | some oldestTs =>
                        if !walked.exhausted ∧ oldestTs > cutoff then .ok none
                        else
                          .ok (some
                            { mintAuthorityPresent := info.mintAuthority.isSome
                              freezeAuthorityPresent := info.freezeAuthority.isSome
                              holderTop10Pct
                              tokenAgeSecs := saturatingSubI64 nowTs oldestTs
                              liquidityLockedOrBurned := none
                              sellable := none
                              routeAvailable := none
                              creatorSuspicious := none
                              abnormalActivity := none
                              liquidityChangePct := none
                              observedAt })

end SolanaBot.Model
