import SolanaBot.Model.WalletAccumulator

/-!
# The wallet monitor

`collector/wallet_monitor.rs`: the rebuild of the history of a wallet, the poll for its new
transactions, and the swaps that arrive over the subscription. What the network answers, the readings of
the clock and the orders in which hash sets are walked come from outside. A candidate is its mint; what
the data of the token say about it is an answer, too.
-/

set_option autoImplicit false

namespace SolanaBot.Model

/-! ## State -/

/-- RUST: config/types.rs, as far as the monitor reads it here. The price of SOL is there when the
monitor starts (collector/wallet_monitor.rs:420-431). -/
structure MonitorConfig where
  solPriceUsd : Decimal
  maxHistorySignatures : ℕ
  consensusWindowSecs : ℕ
  minConsensusWallets : ℕ

/-- RUST: collector/wallet_monitor.rs:372-413. Maps without an entry give an empty accumulator and an
empty set. -/
structure WalletMonitor where
  config : MonitorConfig
  wallets : List String
  processedSigs : String → List String
  accumulators : String → WalletAccumulator
  walletTracker : WalletTracker
  seenMints : List String
  offeredMints : List String
  walletPollIdx : ℕ
  rebuilt : List String
  initialRebuildDone : Bool
  pendingCandidates : List String
  solPrice : Option Decimal

/-- RUST: data/rpc.rs:93-99. -/
structure SignatureEntry where
  signature : String
  err : Option String
deriving DecidableEq

/-- What `getTransaction` answers. -/
inductive TransactionAnswer where
  | found (tx : SwapTransaction)
  | missing
  | failed

/-- A turn of one of the loops over signatures: the entry, what is answered when it is fetched, the order
of the hash maps in its parsing, the clock when its swap is absorbed, and whether the lock of the shared
set is taken. -/
structure SignatureTurn where
  sig : SignatureEntry
  answer : TransactionAnswer
  order : KeyOrder
  now : ClockReadings
  locked : Bool

/-- RUST: collector/wallet_ws.rs:19-25. -/
structure WsSwapEvent where
  wallet : String
  swap : ParsedSwap
deriving DecidableEq

/-- RUST: collector/wallet_monitor.rs:30. -/
def DEFAULT_REBUILD_PAGE : ℕ := 200

/-- RUST: collector/wallet_monitor.rs:32. -/
def MAX_REBUILD_PAGES : ℕ := 5

/-- RUST: collector/wallet_monitor.rs:34. -/
def MAX_TRANSACTIONS_PER_TICK : ℕ := 12

/-- A character of the base58 alphabet. -/
def isBase58 (c : Char) : Bool :=
  ('1' ≤ c ∧ c ≤ '9') ∨ ('A' ≤ c ∧ c ≤ 'H') ∨ ('J' ≤ c ∧ c ≤ 'N') ∨ ('P' ≤ c ∧ c ≤ 'Z') ∨
    ('a' ≤ c ∧ c ≤ 'k') ∨ ('m' ≤ c ∧ c ≤ 'z')

/-- RUST: collector/wallet_monitor.rs:1506-1512. -/
def isValidSolanaAddress (addr : String) : Bool :=
  32 ≤ addr.utf8ByteSize ∧ addr.utf8ByteSize ≤ 44 ∧ addr.toList.all isBase58

/-! ## Absorbing -/

/-- What absorbing swaps works on: the accumulator, and the observations of the call. -/
structure Absorption where
  accumulator : WalletAccumulator
  observations : List WalletTradeObservation

/-- RUST: collector/wallet_monitor.rs:725-761, 1096-1098 and 1173-1180. The program is counted, then the
swap is absorbed. -/
def Absorption.take (a : Absorption) (wallet : String) (solPrice : Decimal)
    (s : ParsedSwap × ClockReadings) : Absorption :=
  let absorbed := absorbSwap (a.accumulator.observeDex s.1.dex) s.1 a.observations solPrice wallet s.2
  { accumulator := absorbed.1, observations := absorbed.2 }

/-- RUST: collector/wallet_monitor.rs:767, 780-788, 1107-1116 and 1182-1191. The observations received by
then are recorded, and the statistics if there are any trades. -/
def trackAbsorbed (tracker : WalletTracker) (a : Absorption) (wallet : String) (now : Time) :
    WalletTracker :=
  let observed := (a.observations.filter fun o => o.receivedAt ≤ now).foldl WalletTracker.observe tracker
  let stats := a.accumulator.buildStats wallet now
  if stats.trades > 0 then observed.upsert stats else observed

namespace WalletMonitor

/-- RUST: collector/wallet_monitor.rs:475-497. -/
def new (config : MonitorConfig) (wallets : List String) : WalletMonitor :=
  { config, wallets, processedSigs := fun _ => [], accumulators := fun _ => .new
    walletTracker := .new .default, seenMints := [], offeredMints := [], walletPollIdx := 0
    rebuilt := [], initialRebuildDone := false, pendingCandidates := [], solPrice := none }

/-! ## Candidates -/

/-- RUST: collector/wallet_monitor.rs:1206-1453. `collected` says whether the data of the token and of
the wallets make a candidate. -/
def checkAndBuildCandidate (m : WalletMonitor) (mint : String) (newCandidates : List String)
    (now : Time) (collected : Bool) : WalletMonitor × List String :=
  let consensus := m.walletTracker.qualifiedConsensusAt mint now (seconds m.config.consensusWindowSecs)
  if mint ∈ m.seenMints ∧ mint ∈ newCandidates then (m, newCandidates)
  else if consensus.length < m.config.minConsensusWallets then (m, newCandidates)
  else if collected then
    ({ m with seenMints := m.seenMints.insert mint, offeredMints := m.offeredMints.insert mint },
      newCandidates ++ [mint])
  else (m, newCandidates)

/-- RUST: collector/wallet_monitor.rs:1118-1128. A mint that was bought is offered once, at a price. -/
def offerMint (now : Time) (collected : String → Bool) (s : WalletMonitor × List String)
    (mint : String) : WalletMonitor × List String :=
  if mint ∈ s.1.offeredMints ∨ s.1.solPrice = none then s
  else s.1.checkAndBuildCandidate mint s.2 now (collected mint)

/-! ## The rebuild -/

/-- RUST: collector/wallet_monitor.rs:622-651. The pages, each of them before the last signature of the
one read last, as `page` answers them. -/
def collectPages (page : ℕ → Option String → Option (List SignatureEntry)) :
    ℕ → ℕ → Option String → List SignatureEntry
  | 0, _, _ => []
  | left + 1, idx, before =>
      match page idx before with
      | none => []
      | some entries =>
          if entries.length < DEFAULT_REBUILD_PAGE then entries
          else
            match entries.getLast? with
            | none => entries
            | some last => entries ++ collectPages page left (idx + 1) (some last.signature)

/-- RUST: collector/wallet_monitor.rs:615-621. -/
def rebuildPages (m : WalletMonitor) : ℕ :=
  min (max (max m.config.maxHistorySignatures DEFAULT_REBUILD_PAGE / DEFAULT_REBUILD_PAGE) 1)
    MAX_REBUILD_PAGES

/-- RUST: collector/wallet_monitor.rs:443-446. -/
def historyScanBudget (m : WalletMonitor) : ℕ :=
  min (max m.config.maxHistorySignatures 1) (DEFAULT_REBUILD_PAGE * MAX_REBUILD_PAGES)

/-- RUST: collector/wallet_monitor.rs:615-655. -/
def rebuildSignatures (m : WalletMonitor)
    (page : ℕ → Option String → Option (List SignatureEntry)) : List SignatureEntry :=
  (collectPages page m.rebuildPages 0 none).take m.historyScanBudget

end WalletMonitor

/-- The locals of the rebuild, as far as they outlive it. -/
structure RebuildState where
  processed : List String
  absorption : Absorption
  recentBuyMints : List String

/-- RUST: collector/wallet_monitor.rs:657-678. -/
def RebuildState.empty : RebuildState :=
  { processed := [], absorption := ⟨.new, []⟩, recentBuyMints := [] }

/-- RUST: collector/wallet_monitor.rs:732-752. -/
def recentBuy (swap : ParsedSwap) (nowForWindow : Time) (window : ℕ) : Bool :=
  swap.direction = .buy ∧ swap.blockTime ≤ nowForWindow / 1000 ∧
    nowForWindow / 1000 - swap.blockTime ≤ window

/-- RUST: collector/wallet_monitor.rs:680-764, one signature. -/
def rebuildTurn (config : MonitorConfig) (wallet : String) (nowForWindow : Time) (s : RebuildState)
    (t : SignatureTurn) : RebuildState :=
  if t.sig.err.isSome then s
  else
    match t.answer with
    | .missing => s
    | .failed => s
    | .found tx =>
        let s := { s with processed := s.processed.insert t.sig.signature }
        match parseSwapFromTransaction t.order tx wallet with
        | none => s
        | some swap =>
            { s with
              absorption := s.absorption.take wallet config.solPriceUsd (swap, t.now)
              recentBuyMints :=
                if recentBuy swap nowForWindow config.consensusWindowSecs then
                  s.recentBuyMints.insert swap.outputMint
                else s.recentBuyMints }

namespace WalletMonitor

/-- RUST: collector/wallet_monitor.rs:849-890. Without a price no further mint is looked at. -/
def offerRecentBuy (now : Time) (collected : String → Bool) (m : WalletMonitor) (mint : String) :
    WalletMonitor :=
  let offered := offerMint now collected (m, []) mint
  { offered.1 with pendingCandidates := offered.1.pendingCandidates ++ offered.2 }

/-- RUST: collector/wallet_monitor.rs:766-891. What the rebuild leaves. -/
def finishRebuild (m : WalletMonitor) (wallet : String) (s : RebuildState) (now : Time)
    (order : KeyOrder) (collected : String → Bool) : WalletMonitor :=
  (order.order s.recentBuyMints).foldl (offerRecentBuy now collected)
    { m with
      accumulators := Function.update m.accumulators wallet s.absorption.accumulator
      processedSigs := Function.update m.processedSigs wallet s.processed
      rebuilt := m.rebuilt.insert wallet
      walletTracker := trackAbsorbed m.walletTracker s.absorption wallet now }

/-- RUST: collector/wallet_monitor.rs:597-907, for the signatures that were read. -/
def rebuildWalletHistory (m : WalletMonitor) (wallet : String) (turns : List SignatureTurn)
    (nowForWindow now : Time) (order : KeyOrder) (collected : String → Bool) : WalletMonitor :=
  if isValidSolanaAddress wallet then
    m.finishRebuild wallet (turns.foldl (rebuildTurn m.config wallet nowForWindow) .empty) now order
      collected
  else m

end WalletMonitor

/-! ## The poll -/

/-- What the loop of the poll works on: the processed signatures of the wallet, the shared set, the count
of the fetched transactions and their swaps. -/
structure PollState where
  processed : List String
  seen : List String
  txCount : ℕ
  swaps : List (ParsedSwap × ClockReadings)

/-- RUST: collector/wallet_monitor.rs:1028-1088, one signature. Once the count is reached, no later
signature is taken either. `none` where the lock of the shared set panics. -/
def pollTurn (wallet : String) (s : PollState) (t : SignatureTurn) : Option PollState :=
  if t.sig.err.isSome then some s
  else if t.sig.signature ∈ s.processed then some s
  else if s.txCount ≥ MAX_TRANSACTIONS_PER_TICK then some s
  else
    match t.answer with
    | .missing => some s
    | .failed => some s
    | .found tx =>
        if t.locked then
          some {
            processed := s.processed.insert t.sig.signature
            seen := s.seen.insert t.sig.signature
            txCount := s.txCount + 1
            swaps :=
              match parseSwapFromTransaction t.order tx wallet with
              | none => s.swaps
              | some swap => s.swaps ++ [(swap, t.now)] }
        else none

namespace WalletMonitor

/-- The mints that swaps bought, each once. -/
def boughtMints (swaps : List (ParsedSwap × ClockReadings)) : List String :=
  swaps.foldl (fun mints s =>
    match s.1.direction with
    | .buy => mints.insert s.1.outputMint
    | .sell => mints) []

/-- RUST: collector/wallet_monitor.rs:1090-1130. The swaps of the tick are absorbed. -/
def finishPoll (m : WalletMonitor) (wallet : String) (swaps : List (ParsedSwap × ClockReadings))
    (newCandidates : List String) (now : Time) (order : KeyOrder) (collected : String → Bool) :
    WalletMonitor × List String :=
  let a := swaps.foldl (fun a s => a.take wallet m.config.solPriceUsd s) ⟨m.accumulators wallet, []⟩
  let mints := boughtMints swaps
  (order.order mints).foldl (offerMint now collected)
    ({ m with
        accumulators := Function.update m.accumulators wallet a.accumulator
        seenMints := mints.foldl (fun seen mint => seen.insert mint) m.seenMints
        walletTracker := trackAbsorbed m.walletTracker a wallet now }, newCandidates)

/-- RUST: collector/wallet_monitor.rs:995-1131, with the shared set; `page` is the answer of
`getSignaturesForAddress`. -/
def pollWallet (m : WalletMonitor) (wallet : String) (seen : List String)
    (page : Option (List SignatureTurn)) (now : Time) (order : KeyOrder) (collected : String → Bool) :
    Option (WalletMonitor × List String) :=
  if wallet ∉ m.rebuilt then some (m, seen)
  else
    match page with
    | none => some (m, seen)
    | some [] => some (m, seen)
    | some turns => do
        let s ← turns.foldlM (pollTurn wallet) ⟨m.processedSigs wallet, seen, 0, []⟩
        let polled := { m with processedSigs := Function.update m.processedSigs wallet s.processed }
        return ((polled.finishPoll wallet s.swaps [] now order collected).1, s.seen)

/-! ## The subscription -/

/-- RUST: collector/wallet_monitor.rs:1137-1204. -/
def processWsSwapEvent (m : WalletMonitor) (event : WsSwapEvent) (newCandidates : List String)
    (now : Time) (readings : ClockReadings) (collected : Bool) : WalletMonitor × List String :=
  match m.solPrice with
  | none => (m, newCandidates)
  | some solPrice =>
      let a := Absorption.take ⟨m.accumulators event.wallet, []⟩ event.wallet solPrice
        (event.swap, readings)
      let m := { m with
        accumulators := Function.update m.accumulators event.wallet a.accumulator
        walletTracker := trackAbsorbed m.walletTracker a event.wallet now }
      match event.swap.direction with
      | .sell => (m, newCandidates)
      | .buy =>
          let mint := event.swap.outputMint
          let m := { m with seenMints := m.seenMints.insert mint }
          if mint ∈ m.offeredMints then (m, newCandidates)
          else m.checkAndBuildCandidate mint newCandidates now collected

end WalletMonitor

end SolanaBot.Model
