import SolanaBot.Library.Reordering
import SolanaBot.Model.WalletMonitor

/-!
# What the calls of the wallet monitor leave

Looking for candidates changes only what the monitor knows of mints. With that, what the rebuild, the
poll and an event leave is what they absorb.
-/

set_option autoImplicit false

namespace SolanaBot.Analysis

open SolanaBot.Library SolanaBot.Model

/-- An order in which hash maps may be walked. -/
def listOrder : KeyOrder := ⟨id, List.Perm.refl⟩

/-- The two monitors differ at most in what they know of mints. -/
structure SameButMints (m m' : WalletMonitor) : Prop where
  config : m'.config = m.config
  wallets : m'.wallets = m.wallets
  processedSigs : m'.processedSigs = m.processedSigs
  accumulators : m'.accumulators = m.accumulators
  walletTracker : m'.walletTracker = m.walletTracker
  walletPollIdx : m'.walletPollIdx = m.walletPollIdx
  rebuilt : m'.rebuilt = m.rebuilt
  initialRebuildDone : m'.initialRebuildDone = m.initialRebuildDone
  solPrice : m'.solPrice = m.solPrice

/-- A monitor differs from itself in nothing. -/
theorem SameButMints.refl (m : WalletMonitor) : SameButMints m m :=
  ⟨rfl, rfl, rfl, rfl, rfl, rfl, rfl, rfl, rfl⟩

/-- Differing in the mints only is transitive. -/
theorem SameButMints.trans {m m' m'' : WalletMonitor} (h : SameButMints m m')
    (h' : SameButMints m' m'') : SameButMints m m'' where
  config := h'.config.trans h.config
  wallets := h'.wallets.trans h.wallets
  processedSigs := h'.processedSigs.trans h.processedSigs
  accumulators := h'.accumulators.trans h.accumulators
  walletTracker := h'.walletTracker.trans h.walletTracker
  walletPollIdx := h'.walletPollIdx.trans h.walletPollIdx
  rebuilt := h'.rebuilt.trans h.rebuilt
  initialRebuildDone := h'.initialRebuildDone.trans h.initialRebuildDone
  solPrice := h'.solPrice.trans h.solPrice

section Candidates

variable (m : WalletMonitor) (mint : String) (newCandidates : List String) (now : Time)

/-- Building a candidate changes the collected mints only. -/
theorem checkAndBuildCandidate_same (collected : Bool) :
    SameButMints m (m.checkAndBuildCandidate mint newCandidates now collected).1 := by
  unfold WalletMonitor.checkAndBuildCandidate
  dsimp only
  split
  · exact .refl m
  · split
    · exact .refl m
    · split
      · exact ⟨rfl, rfl, rfl, rfl, rfl, rfl, rfl, rfl, rfl⟩
      · exact .refl m

/-- Offering a mint changes the collected mints only. -/
theorem offerMint_same (collected : String → Bool) (s : WalletMonitor × List String) :
    SameButMints s.1 (WalletMonitor.offerMint now collected s mint).1 := by
  unfold WalletMonitor.offerMint
  split
  · exact .refl s.1
  · exact checkAndBuildCandidate_same s.1 mint s.2 now (collected mint)

/-- So does offering a recent buy. -/
theorem offerRecentBuy_same (collected : String → Bool) :
    SameButMints m (WalletMonitor.offerRecentBuy now collected m mint) :=
  (offerMint_same mint now collected (m, [])).trans ⟨rfl, rfl, rfl, rfl, rfl, rfl, rfl, rfl, rfl⟩

end Candidates

section Calls

variable (m : WalletMonitor) (wallet : String) (now : Time) (order : KeyOrder)
  (collected : String → Bool)

/-- The end of a rebuild sets the accumulator, and offers mints. -/
theorem finishRebuild_same (s : RebuildState) :
    SameButMints
      { m with
        accumulators := Function.update m.accumulators wallet s.absorption.accumulator
        processedSigs := Function.update m.processedSigs wallet s.processed
        rebuilt := m.rebuilt.insert wallet
        walletTracker := trackAbsorbed m.walletTracker s.absorption wallet now }
      (m.finishRebuild wallet s now order collected) := by
  unfold WalletMonitor.finishRebuild
  exact foldl_keeps
    (fun mint _ m' h => h.trans (offerRecentBuy_same m' mint now collected)) (.refl _)

/-- What a poll absorbs. -/
def polledAbsorption (m : WalletMonitor) (wallet : String) (swaps : List (ParsedSwap × ClockReadings)) :
    Absorption :=
  swaps.foldl (fun a s => a.take wallet m.config.solPriceUsd s) ⟨m.accumulators wallet, []⟩

/-- The end of a poll sets the accumulator, and offers mints. -/
theorem finishPoll_same (swaps : List (ParsedSwap × ClockReadings)) (newCandidates : List String) :
    SameButMints
      { m with
        accumulators := Function.update m.accumulators wallet
          (polledAbsorption m wallet swaps).accumulator
        walletTracker := trackAbsorbed m.walletTracker (polledAbsorption m wallet swaps) wallet now }
      (m.finishPoll wallet swaps newCandidates now order collected).1 := by
  unfold WalletMonitor.finishPoll
  dsimp only
  exact foldl_keeps (f := WalletMonitor.offerMint now collected) (I := fun s => SameButMints _ s.1)
    (fun mint _ s h => h.trans (offerMint_same mint now collected s))
    ⟨rfl, rfl, rfl, rfl, rfl, rfl, rfl, rfl, rfl⟩

/-- What an event absorbs. -/
def eventAbsorption (m : WalletMonitor) (event : WsSwapEvent) (solPrice : Decimal)
    (readings : ClockReadings) : Absorption :=
  Absorption.take ⟨m.accumulators event.wallet, []⟩ event.wallet solPrice (event.swap, readings)

/-- Without a price of SOL an event is dropped. -/
theorem processWsSwapEvent_none (event : WsSwapEvent) (newCandidates : List String)
    (readings : ClockReadings) (collected : Bool) (h : m.solPrice = none) :
    m.processWsSwapEvent event newCandidates now readings collected = (m, newCandidates) := by
  unfold WalletMonitor.processWsSwapEvent
  rw [h]

/-- An event sets the accumulator of its wallet, and offers its mint. -/
theorem processWsSwapEvent_same (event : WsSwapEvent) (newCandidates : List String)
    (readings : ClockReadings) (collected : Bool) {solPrice : Decimal}
    (h : m.solPrice = some solPrice) :
    SameButMints
      { m with
        accumulators := Function.update m.accumulators event.wallet
          (eventAbsorption m event solPrice readings).accumulator
        walletTracker := trackAbsorbed m.walletTracker (eventAbsorption m event solPrice readings)
          event.wallet now }
      (m.processWsSwapEvent event newCandidates now readings collected).1 := by
  unfold WalletMonitor.processWsSwapEvent
  rw [h]
  dsimp only
  split
  · exact ⟨rfl, rfl, rfl, rfl, rfl, rfl, rfl, rfl, rfl⟩
  · split
    · exact ⟨rfl, rfl, rfl, rfl, rfl, rfl, rfl, rfl, rfl⟩
    · refine SameButMints.trans ?_ (checkAndBuildCandidate_same _ _ newCandidates now collected)
      exact ⟨rfl, rfl, rfl, rfl, rfl, rfl, rfl, rfl, rfl⟩

end Calls

end SolanaBot.Analysis
