import SolanaBot.Model.WalletFeeds

/-!
# What a move can do

For each move of the wallet monitor and of its subscription: where it is possible, and what it leaves.
-/

set_option autoImplicit false

namespace SolanaBot.Analysis

open SolanaBot.Library SolanaBot.Model

variable {w w' : WatchState}

/-- Setting the price of SOL is an action between two ticks. -/
theorem setSolPrice_cases {price : Option Decimal} (h : w.setSolPrice price = some w') :
    w.phase = .idle ∧ w' = { w with monitor := { w.monitor with solPrice := price } } := by
  unfold WatchState.setSolPrice at h
  split at h
  · rename_i hphase
    cases h
    exact ⟨hphase, rfl⟩
  · cases h

/-- What the beginning of a tick can do. -/
theorem beginTick_cases {now : Time} (h : w.beginTick now = some w') :
    w.phase = .idle ∧ (w' = w ∨
      w' = { w with monitor := { w.monitor with pendingCandidates := [] } } ∨
      w' = { w with phase := .receiving now [] }) := by
  unfold WatchState.beginTick at h
  split at h
  · rename_i hphase
    refine ⟨hphase, ?_⟩
    split at h
    · cases h
      exact .inl rfl
    · split at h
      · cases h
        exact .inr (.inl rfl)
      · cases h
        exact .inr (.inr rfl)
  · cases h

/-- What receiving can do: take an event of the channel, or go on to process them. -/
theorem receive_cases (h : w.receive = some w') :
    ∃ now events, w.phase = .receiving now events ∧
      ((∃ event channel, w.channel = event :: channel ∧
          w' = { w with phase := .receiving now (events ++ [event]), channel }) ∨
        (w.channel = [] ∧ w' = { w with phase := .draining now events [] })) := by
  unfold WatchState.receive at h
  split at h
  · rename_i now events hphase
    refine ⟨now, events, hphase, ?_⟩
    split at h
    · rename_i event channel hchannel
      cases h
      exact .inl ⟨event, channel, hchannel, rfl⟩
    · rename_i hchannel
      cases h
      exact .inr ⟨hchannel, rfl⟩
  · cases h

/-- Processing an event absorbs it as one of the subscription. -/
theorem processEvent_cases {readings : ClockReadings} {collected : Bool}
    (h : w.processEvent readings collected = some w') :
    ∃ now event events candidates, w.phase = .draining now (event :: events) candidates ∧
      w' = { w with
        monitor := (w.monitor.processWsSwapEvent event candidates now readings collected).1
        phase := .draining now events
          (w.monitor.processWsSwapEvent event candidates now readings collected).2 } := by
  unfold WatchState.processEvent at h
  split at h
  · rename_i now event events candidates hphase
    cases h
    exact ⟨now, event, events, candidates, hphase, rfl⟩
  · cases h

/-- After the events, the tick polls, rebuilds a wallet, or ends. -/
theorem sweep_cases {nowForWindow : Time} {page : ℕ → Option String → Option (List SignatureEntry)}
    (h : w.sweep nowForWindow page = some w') :
    ∃ now candidates, w.phase = .draining now [] candidates ∧
      ((∃ done idx, w' = { w with
          phase := .polling now (WatchState.pollBatch w.monitor) candidates
          monitor := { w.monitor with walletPollIdx := idx, initialRebuildDone := done } }) ∨
        (∃ wallet, w' = { w with
          phase := .rebuilding wallet nowForWindow (w.monitor.rebuildSignatures page) .empty }) ∨
        w' = { w with phase := .idle }) := by
  unfold WatchState.sweep at h
  split at h
  · rename_i now candidates hphase
    refine ⟨now, candidates, hphase, ?_⟩
    split at h
    · cases h
      exact .inl ⟨w.monitor.initialRebuildDone, _, rfl⟩
    · split at h
      · split at h
        · cases h
          exact .inr (.inl ⟨_, rfl⟩)
        · cases h
          exact .inr (.inr rfl)
      · cases h
        exact .inl ⟨true, _, rfl⟩
  · cases h

/-- The turn of a loop that an answer makes. -/
def turnOf (sig : SignatureEntry) (a : FetchAnswer) : SignatureTurn :=
  ⟨sig, a.answer, a.order, a.now, a.locked⟩

/-- What inspecting a signature can do in a rebuild or in a poll. -/
theorem inspect_cases {a : FetchAnswer} (h : w.inspect a = some w') :
    (∃ wallet nowForWindow sig left s, w.phase = .rebuilding wallet nowForWindow (sig :: left) s ∧
      w' = { w with
        phase := .rebuilding wallet nowForWindow left
          (rebuildTurn w.monitor.config wallet nowForWindow s (turnOf sig a)) }) ∨
    ∃ now wallets candidates wallet sig left txCount swaps,
      w.phase = .scanning now wallets candidates wallet (sig :: left) txCount swaps ∧
        ((w' = { w with phase := .stopped }) ∨
          ∃ s, pollTurn wallet ⟨w.monitor.processedSigs wallet, w.seen, txCount, swaps⟩
              (turnOf sig a) = some s ∧
            w' = { w with
              monitor := { w.monitor with
                processedSigs := Function.update w.monitor.processedSigs wallet s.processed }
              seen := s.seen
              phase := .scanning now wallets candidates wallet left s.txCount s.swaps }) := by
  unfold WatchState.inspect at h
  split at h
  · rename_i wallet nowForWindow sig left s hphase
    cases h
    exact .inl ⟨wallet, nowForWindow, sig, left, s, hphase, rfl⟩
  · rename_i now wallets candidates wallet sig left txCount swaps hphase
    refine .inr ⟨now, wallets, candidates, wallet, sig, left, txCount, swaps, hphase, ?_⟩
    split at h
    · cases h
      exact .inl rfl
    · rename_i s hturn
      cases h
      exact .inr ⟨s, hturn, rfl⟩
  · cases h

/-- A rebuild finishes when no signature is left. -/
theorem finishRebuild_cases {now : Time} {order : KeyOrder} {collected : String → Bool}
    (h : w.finishRebuild now order collected = some w') :
    ∃ wallet nowForWindow s, w.phase = .rebuilding wallet nowForWindow [] s ∧
      w' = { w with
        phase := .idle, monitor := w.monitor.finishRebuild wallet s now order collected } := by
  unfold WatchState.finishRebuild at h
  split at h
  · rename_i wallet nowForWindow s hphase
    cases h
    exact ⟨wallet, nowForWindow, s, hphase, rfl⟩
  · cases h

/-- The next wallet is passed over, or its signatures are read. -/
theorem readPage_cases {page : Option (List SignatureEntry)} (h : w.readPage page = some w') :
    ∃ now wallet wallets candidates, w.phase = .polling now (wallet :: wallets) candidates ∧
      (w' = { w with phase := .polling now wallets candidates } ∨
        ∃ sigs, w' = { w with phase := .scanning now wallets candidates wallet sigs 0 [] }) := by
  unfold WatchState.readPage at h
  split at h
  · rename_i now wallet wallets candidates hphase
    refine ⟨now, wallet, wallets, candidates, hphase, ?_⟩
    split at h
    · cases h
      exact .inl rfl
    · split at h
      · cases h
        exact .inl rfl
      · cases h
        exact .inl rfl
      · rename_i sigs _
        cases h
        exact .inr ⟨sigs, rfl⟩
  · cases h

/-- A poll finishes when no signature is left. -/
theorem finishPoll_cases {order : KeyOrder} {collected : String → Bool}
    (h : w.finishPoll order collected = some w') :
    ∃ now wallets candidates wallet txCount swaps,
      w.phase = .scanning now wallets candidates wallet [] txCount swaps ∧
        w' = { w with
          monitor := (w.monitor.finishPoll wallet swaps candidates now order collected).1
          phase := .polling now wallets
            (w.monitor.finishPoll wallet swaps candidates now order collected).2 } := by
  unfold WatchState.finishPoll at h
  split at h
  · rename_i now wallets candidates wallet txCount swaps hphase
    cases h
    exact ⟨now, wallets, candidates, wallet, txCount, swaps, hphase, rfl⟩
  · cases h

/-- A tick ends when no wallet is left. -/
theorem endTick_cases (h : w.endTick = some w') :
    (∃ now candidates, w.phase = .polling now [] candidates) ∧ w' = { w with phase := .idle } := by
  unfold WatchState.endTick at h
  split at h
  · rename_i now candidates hphase
    cases h
    exact ⟨⟨now, candidates, hphase⟩, rfl⟩
  · cases h

/-- A notification is dropped if its signature was seen, and is fetched otherwise. -/
theorem notify_cases {signature : String} (h : w.notify signature = some w') :
    w.subscription = .idle ∧ (w' = w ∨ signature ∉ w.seen ∧
      w' = { w with seen := w.seen.insert signature, subscription := .fetching signature }) := by
  unfold WatchState.notify at h
  split at h
  · rename_i hsubscription
    refine ⟨hsubscription, ?_⟩
    split at h
    · cases h
      exact .inl rfl
    · rename_i hnew
      cases h
      exact .inr ⟨hnew, rfl⟩
  · cases h

/-- What an answer can do: be sent, or be given up. -/
theorem fetched_cases {answer : TransactionAnswer} (h : w.fetched answer = some w') :
    ∃ signature, w.subscription = .fetching signature ∧
      ((∃ tx, answer = .found tx ∧
          w' = { w with subscription := .sending tx w.monitor.wallets }) ∨
        w' = { w with
          seen := w.seen.filter fun s => s ≠ signature, subscription := .idle }) := by
  unfold WatchState.fetched at h
  split at h
  · rename_i signature hsubscription
    refine ⟨signature, hsubscription, ?_⟩
    split at h
    · rename_i tx
      cases h
      exact .inl ⟨tx, rfl, rfl⟩
    · cases h
      exact .inr rfl
    · cases h
      exact .inr rfl
  · cases h

/-- The subscription sends the swap of the next wallet, passes it over, or ends the handling. -/
theorem send_cases {order : KeyOrder} (h : w.send order = some w') :
    ∃ tx wallets, w.subscription = .sending tx wallets ∧
      (w' = { w with subscription := .idle } ∨
        ∃ wallet rest, wallets = wallet :: rest ∧
          (w' = { w with subscription := .sending tx rest } ∨
            ∃ swap, parseSwapFromTransaction order tx wallet = some swap ∧
              w' = { w with
                channel := w.channel ++ [⟨wallet, swap⟩], subscription := .sending tx rest })) := by
  unfold WatchState.send at h
  split at h
  · rename_i tx hsubscription
    cases h
    exact ⟨tx, [], hsubscription, .inl rfl⟩
  · rename_i tx wallet rest hsubscription
    refine ⟨tx, wallet :: rest, hsubscription, ?_⟩
    split at h
    · cases h
      exact .inr ⟨wallet, rest, rfl, .inl rfl⟩
    · rename_i swap hswap
      split at h
      · cases h
        exact .inl rfl
      · split at h
        · cases h
          exact .inr ⟨wallet, rest, rfl, .inr ⟨swap, hswap, rfl⟩⟩
        · cases h
  · cases h

/-! ## A wallet and its purchases -/

/-- The wallet that the sample watches. -/
def watchedWallet : String := "5kqEvH3gnx5HUYA8UmK3Za5gF3kRpY3oUg3TCY4tJhPb"

/-- A purchase of five tokens for one SOL. -/
def purchaseTx (wallet signature : String) : SwapTransaction :=
  { accountKeys := some
      ([wallet, "JUP6LkbZbjS1jKKwapdHNy74zcZ3tLUZoi5QNyVTaV4"].map AccountKey.plain)
    instructions := [some 1]
    signature := some signature
    slot := some 1
    blockTime := some 1700000000
    txMeta := some
      { err := none, fee := some 5000
        preBalances := some [some 11000000000, some 1], postBalances := some [some 9999995000, some 1]
        preTokenBalances := [], postTokenBalances := [⟨some wallet, some "bonk", some 5000000, some 6⟩]
        loadedWritable := [], loadedReadonly := [], innerInstructions := [] } }

end SolanaBot.Analysis
