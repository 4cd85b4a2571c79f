import Mathlib.Logic.Function.Basic
import SolanaBot.Model.OhlcvProvider
import SolanaBot.Model.Rpc

/-!
# Fetching history with a cache on the disk

`historical/wallet.rs` and the cache of `historical/ohlcv.rs`: the trades of a wallet are walked through a
page of a thousand signatures at a time and written to a file of the wallet, and every page of candles is
written to a file of its own. A file that is there is read instead of the network. The files hold the
values themselves; the disk does not fail.
-/

set_option autoImplicit false

namespace SolanaBot.Model

open SolanaBot.Library

/-! ## The trades of a wallet -/

/-- RUST: historical/wallet.rs:102-109. -/
inductive WalletReconstructionError where
  | rpc (e : RpcError)
  | invalid (e : String)
  | io (e : String)
deriving DecidableEq

/-- An element of the array that `getSignaturesForAddress` answers: what is read of it, where it has the
right type. RUST: historical/wallet.rs:188-196. -/
structure SignatureItem where
  signature : Option String
  blockTime : Option Int
  slot : Option UInt64
  failed : Bool
deriving DecidableEq

/-- RUST: historical/wallet.rs:192-194. The time of a block, if chrono has it. -/
def blockTimeOf (secs : Option Int) : Option Time :=
  secs.bind fun t =>
    if MIN_UTC ≤ t * SECOND ∧ t * SECOND ≤ MAX_UTC then some (seconds t) else none

/-- RUST: historical/wallet.rs:202-210. Only the time and the signature are known. -/
def enumeratedTrade (wallet : String) (blockTime : Time) (signature : String) (slot : Option UInt64) :
    WalletTrade :=
  { wallet, mint := "", side := .buy, notionalUsd := 0, blockTime, signature, slot }

/-- RUST: historical/wallet.rs:187-214, one turn of the loop over the items: the trades so far, and the
last signature of the page. -/
def readItem (wallet : String) (st : List WalletTrade × Option String) (item : SignatureItem) :
    Except WalletReconstructionError (List WalletTrade × Option String) :=
  match item.signature with
  | none => .error (.invalid "missing signature")
  | some sig =>
      if item.failed then .ok (st.1, some sig)
      else
        match blockTimeOf item.blockTime with
        | some t => .ok (st.1 ++ [enumeratedTrade wallet t sig item.slot], some sig)
        | none => .ok (st.1, some sig)

/-- What the network answers to the page of signatures before a cursor; it may be no array. -/
abbrev SignatureRpc := Option String → Except RpcError (Option (List SignatureItem))

/-- RUST: historical/wallet.rs:161-223. Without fuel the loop is still running. -/
def fetchTrades (call : SignatureRpc) (wallet : String) (maxSignatures : ℕ) :
    ℕ → Option String → List WalletTrade →
      Option (Except WalletReconstructionError (List WalletTrade))
  | 0, _, _ => none
  | fuel + 1, before, all =>
      match call before with
      | .error e => some (.error (.rpc e))
      | .ok none => some (.error (.invalid "getSignaturesForAddress did not return array"))
      | .ok (some items) =>
          if items.length = 0 then some (.ok all)
          else
            match items.foldlM (readItem wallet) (all, none) with
            | .error e => some (.error e)
            | .ok (all, lastSig) =>
                if all.length ≥ maxSignatures ∨ lastSig = none then some (.ok all)
                else if items.length < 1000 then some (.ok all)
                else fetchTrades call wallet maxSignatures fuel lastSig all

/-! ## The files -/

/-- RUST: historical/wallet.rs:401-405. -/
def sanitize (s : String) : String :=
  s.map fun c => if c.isAlphanum then c else '_'

/-- RUST: historical/wallet.rs:233-236, the part of the path that is not fixed. -/
def walletFile (wallet : String) : String := sanitize wallet

/-- RUST: historical/ohlcv.rs:644-659, the parts of the path that are not fixed. They are joined by
underscores, and no part but the first has one. -/
structure PageFile where
  safeMint : String
  interval : OhlcvInterval
  fromTs : Int
  toTs : Int
  pageSeconds : Int
deriving DecidableEq

/-- RUST: historical/ohlcv.rs:644-659. -/
def cachePath (pageSeconds : Int) (mint : String) (interval : OhlcvInterval)
    (from' to' : DateTimeUtc) : PageFile :=
  { safeMint := mint.map fun c => if c = '/' then '_' else c
    interval
    fromTs := from'.timestamp
    toTs := to'.timestamp
    pageSeconds }

/-- The files of both caches. -/
structure FetchCache where
  trades : String → Option (List WalletTrade)
  candles : PageFile → Option (List OhlcvCandle)

/-- No files. -/
def FetchCache.empty : FetchCache := ⟨fun _ => none, fun _ => none⟩

/-- RUST: historical/wallet.rs:140-159. -/
def fetchWalletTrades (call : SignatureRpc) (wallet : String) (asOf : Time) (maxSignatures fuel : ℕ)
    (disk : FetchCache) :
    Option (Except WalletReconstructionError (List WalletTrade)) × FetchCache :=
  let upTo := fun trades : List WalletTrade =>
    (trades.filter fun t => t.blockTime ≤ asOf).mergeSort fun a b => a.blockTime ≤ b.blockTime
  match disk.trades (walletFile wallet) with
  | some cached => (some (.ok (upTo cached)), disk)
  | none =>
      match fetchTrades call wallet maxSignatures fuel none [] with
      | none => (none, disk)
      | some (.error e) => (some (.error e), disk)
      | some (.ok raw) =>
          (some (.ok (upTo raw)),
            { disk with trades := Function.update disk.trades (walletFile wallet) (some raw) })

/-- What one of the two providers makes of the request for a page. RUST: historical/ohlcv.rs:341-346. -/
abbrev PageProvider :=
  String → OhlcvInterval → DateTimeUtc → DateTimeUtc → Except OhlcvError (List OhlcvCandle)

/-- RUST: historical/ohlcv.rs:330-349. -/
def fetchPage (provider : PageProvider) (pageSeconds : Int) (mint : String) (interval : OhlcvInterval) :
    PageSource FetchCache :=
  fun from' to' disk =>
    let path := cachePath pageSeconds mint interval from' to'
    match disk.candles path with
    | some cached => (.ok cached, disk)
    | none =>
        match provider mint interval from' to' with
        | .error e => (.error e, disk)
        | .ok candles =>
            (.ok candles, { disk with candles := Function.update disk.candles path (some candles) })

end SolanaBot.Model
