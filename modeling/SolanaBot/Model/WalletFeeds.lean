import SolanaBot.Model.WalletMonitor

/-!
# The wallet monitor and its subscription

`collector/wallet_monitor.rs` and `collector/wallet_ws.rs`: the ticks of the monitor and the task of the
subscription take turns. They share the set of the signatures that have been seen, and a channel of swap
events. A move is what one of them does between two points at which the other one can act, with the
answers it gets from outside.
-/

set_option autoImplicit false

namespace SolanaBot.Model

/-- RUST: collector/wallet_monitor.rs:450. -/
def CHANNEL_CAPACITY : ℕ := 256

/-- RUST: collector/wallet_monitor.rs:909. -/
def WALLETS_PER_TICK : ℕ := 8

/-! ## States -/

/-- Where the monitor stands in its tick; `now` is the clock at its beginning. -/
inductive MonitorPhase where
  | idle
  /-- It has read these events from the channel. -/
  | receiving (now : Time) (events : List WsSwapEvent)
  /-- These events are left to be processed. -/
  | draining (now : Time) (events : List WsSwapEvent) (candidates : List String)
  /-- These signatures are left to be fetched for the rebuild of a wallet. -/
  | rebuilding (wallet : String) (nowForWindow : Time) (left : List SignatureEntry) (s : RebuildState)
  /-- These wallets are left to be polled. -/
  | polling (now : Time) (left : List String) (candidates : List String)
  /-- These signatures are left to be fetched in the poll of a wallet. -/
  | scanning (now : Time) (wallets : List String) (candidates : List String) (wallet : String)
      (left : List SignatureEntry) (txCount : ℕ) (swaps : List (ParsedSwap × ClockReadings))
  /-- The task of the monitor has panicked. -/
  | stopped

/-- Where the subscription stands in the handling of a message. -/
inductive SubscriptionPhase where
  | idle
  | fetching (signature : String)
  /-- The swaps of these wallets are left to be sent. -/
  | sending (tx : SwapTransaction) (wallets : List String)

/-- The monitor with its phase, what was seen, the channel and the subscription. -/
structure WatchState where
  monitor : WalletMonitor
  phase : MonitorPhase
  seen : List String
  channel : List WsSwapEvent
  subscription : SubscriptionPhase

/-- RUST: collector/wallet_monitor.rs:415-503. -/
def WatchState.new (config : MonitorConfig) (wallets : List String) : WatchState :=
  { monitor := .new config wallets, phase := .idle, seen := [], channel := [], subscription := .idle }

/-! ## Moves -/

/-- What is answered when a signature is fetched, and what its parsing and its swap meet. -/
structure FetchAnswer where
  answer : TransactionAnswer
  order : KeyOrder
  now : ClockReadings
  locked : Bool

/-- What the monitor, its subscription and its timers can do. -/
inductive Move where
  | setSolPrice (price : Option Decimal)
  | beginTick (now : Time)
  | receive
  | processEvent (readings : ClockReadings) (collected : Bool)
  | sweep (nowForWindow : Time) (page : ℕ → Option String → Option (List SignatureEntry))
  | inspect (a : FetchAnswer)
  | finishRebuild (now : Time) (order : KeyOrder) (collected : String → Bool)
  | readPage (page : Option (List SignatureEntry))
  | finishPoll (order : KeyOrder) (collected : String → Bool)
  | endTick
  | notify (signature : String)
  | fetched (answer : TransactionAnswer)
  | send (order : KeyOrder)

namespace WatchState

/-- RUST: collector/wallet_monitor.rs:912-930. -/
def beginTick (w : WatchState) (now : Time) : Option WatchState :=
  match w.phase with
  | .idle =>
      if w.monitor.wallets = [] then some w
      else if w.monitor.pendingCandidates ≠ [] then
        some { w with monitor := { w.monitor with pendingCandidates := [] } }
      else some { w with phase := .receiving now [] }
  | _ => none

/-- RUST: collector/wallet_monitor.rs:937-942. -/
def receive (w : WatchState) : Option WatchState :=
  match w.phase with
  | .receiving now events =>
      match w.channel with
      | event :: channel => some { w with phase := .receiving now (events ++ [event]), channel }
      | [] => some { w with phase := .draining now events [] }
  | _ => none

/-- RUST: collector/wallet_monitor.rs:943-946. -/
def processEvent (w : WatchState) (readings : ClockReadings) (collected : Bool) : Option WatchState :=
  match w.phase with
  | .draining now (event :: events) candidates =>
      let processed := w.monitor.processWsSwapEvent event candidates now readings collected
      some { w with monitor := processed.1, phase := .draining now events processed.2 }
  | _ => none

/-- RUST: collector/wallet_monitor.rs:977-982. The wallets to be polled in this tick. -/
def pollBatch (m : WalletMonitor) : List String :=
  let total := m.wallets.length
  (List.range' (m.walletPollIdx % total) (min WALLETS_PER_TICK total)).filterMap fun i =>
    m.wallets[i % total]?

/-- RUST: collector/wallet_monitor.rs:977-980. -/
def beginPolls (w : WatchState) (now : Time) (candidates : List String) : WatchState :=
  let total := w.monitor.wallets.length
  { w with
    phase := .polling now (pollBatch w.monitor) candidates
    monitor := { w.monitor with
      walletPollIdx := (w.monitor.walletPollIdx % total + min WALLETS_PER_TICK total) % total } }

/-- RUST: collector/wallet_monitor.rs:961-980. One wallet is rebuilt in a tick, until all are. -/
def sweep (w : WatchState) (nowForWindow : Time)
    (page : ℕ → Option String → Option (List SignatureEntry)) : Option WatchState :=
  match w.phase with
  | .draining now [] candidates =>
      if w.monitor.initialRebuildDone then some (w.beginPolls now candidates)
      else
        match w.monitor.wallets.find? fun wallet => wallet ∉ w.monitor.rebuilt with
        | some wallet =>
            if isValidSolanaAddress wallet then
              some { w with
                phase := .rebuilding wallet nowForWindow (w.monitor.rebuildSignatures page) .empty }
            else some { w with phase := .idle }
        | none =>
            some (beginPolls { w with monitor := { w.monitor with initialRebuildDone := true } } now
              candidates)
  | _ => none

/-- One signature of the rebuild or of the poll. -/
def inspect (w : WatchState) (a : FetchAnswer) : Option WatchState :=
  match w.phase with
  | .rebuilding wallet nowForWindow (sig :: left) s =>
      some { w with
        phase := .rebuilding wallet nowForWindow left (rebuildTurn w.monitor.config wallet nowForWindow
          s ⟨sig, a.answer, a.order, a.now, a.locked⟩) }
  | .scanning now wallets candidates wallet (sig :: left) txCount swaps =>
      match pollTurn wallet ⟨w.monitor.processedSigs wallet, w.seen, txCount, swaps⟩
        ⟨sig, a.answer, a.order, a.now, a.locked⟩ with
      | none => some { w with phase := .stopped }
      | some s =>
          some { w with
            monitor := { w.monitor with
              processedSigs := Function.update w.monitor.processedSigs wallet s.processed }
            seen := s.seen
            phase := .scanning now wallets candidates wallet left s.txCount s.swaps }
  | _ => none

/-- RUST: collector/wallet_monitor.rs:766-891 and 969-972. -/
def finishRebuild (w : WatchState) (now : Time) (order : KeyOrder) (collected : String → Bool) :
    Option WatchState :=
  match w.phase with
  | .rebuilding wallet _ [] s =>
      some { w with phase := .idle, monitor := w.monitor.finishRebuild wallet s now order collected }
  | _ => none

/-- RUST: collector/wallet_monitor.rs:982-984 and 1001-1016. -/
def readPage (w : WatchState) (page : Option (List SignatureEntry)) : Option WatchState :=
  match w.phase with
  | .polling now (wallet :: wallets) candidates =>
      if wallet ∉ w.monitor.rebuilt then some { w with phase := .polling now wallets candidates }
      else
        match page with
        | none => some { w with phase := .polling now wallets candidates }
        | some [] => some { w with phase := .polling now wallets candidates }
        | some sigs => some { w with phase := .scanning now wallets candidates wallet sigs 0 [] }
  | _ => none

/-- RUST: collector/wallet_monitor.rs:1090-1130. -/
def finishPoll (w : WatchState) (order : KeyOrder) (collected : String → Bool) : Option WatchState :=
  match w.phase with
  | .scanning now wallets candidates wallet [] _ swaps =>
      let polled := w.monitor.finishPoll wallet swaps candidates now order collected
      some { w with monitor := polled.1, phase := .polling now wallets polled.2 }
  | _ => none

/-- RUST: collector/wallet_monitor.rs:992. -/
def endTick (w : WatchState) : Option WatchState :=
  match w.phase with
  | .polling _ [] _ => some { w with phase := .idle }
  | _ => none

/-- RUST: collector/wallet_monitor.rs:511-513. -/
def setSolPrice (w : WatchState) (price : Option Decimal) : Option WatchState :=
  match w.phase with
  | .idle => some { w with monitor := { w.monitor with solPrice := price } }
  | _ => none

/-- RUST: collector/wallet_ws.rs:235-243. -/
def notify (w : WatchState) (signature : String) : Option WatchState :=
  match w.subscription with
  | .idle =>
      if signature ∈ w.seen then some w
      else some { w with seen := w.seen.insert signature, subscription := .fetching signature }
  | _ => none

/-- RUST: collector/wallet_ws.rs:245-268. -/
def fetched (w : WatchState) (answer : TransactionAnswer) : Option WatchState :=
  match w.subscription with
  | .fetching signature =>
      match answer with
      | .found tx => some { w with subscription := .sending tx w.monitor.wallets }
      | .missing =>
          some { w with seen := w.seen.filter fun s => s ≠ signature, subscription := .idle }
      | .failed =>
          some { w with seen := w.seen.filter fun s => s ≠ signature, subscription := .idle }
  | _ => none

/-- RUST: collector/wallet_ws.rs:272-288. A full channel makes the task wait, and one that is closed ends
the handling. -/
def send (w : WatchState) (order : KeyOrder) : Option WatchState :=
  match w.subscription with
  | .sending _ [] => some { w with subscription := .idle }
  | .sending tx (wallet :: wallets) =>
      match parseSwapFromTransaction order tx wallet with
      | none => some { w with subscription := .sending tx wallets }
      | some swap =>
          match w.phase with
          | .stopped => some { w with subscription := .idle }
          | _ =>
              if w.channel.length < CHANNEL_CAPACITY then
                some { w with
                  channel := w.channel ++ [⟨wallet, swap⟩], subscription := .sending tx wallets }
              else none
  | _ => none

/-- A move, where it is possible. -/
def step (w : WatchState) : Move → Option WatchState
  | .setSolPrice price => w.setSolPrice price
  | .beginTick now => w.beginTick now
  | .receive => w.receive
  | .processEvent readings collected => w.processEvent readings collected
  | .sweep nowForWindow page => w.sweep nowForWindow page
  | .inspect a => w.inspect a
  | .finishRebuild now order collected => w.finishRebuild now order collected
  | .readPage page => w.readPage page
  | .finishPoll order collected => w.finishPoll order collected
  | .endTick => w.endTick
  | .notify signature => w.notify signature
  | .fetched answer => w.fetched answer
  | .send order => w.send order

end WatchState

end SolanaBot.Model
