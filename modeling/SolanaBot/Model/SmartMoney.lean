import SolanaBot.Library.Firsts
import SolanaBot.Library.Table
import SolanaBot.Model.WalletReconstruction

/-!
# Wallet tracking

`smart_money/tracker.rs`: the scored statistics of the wallets, the observed trades, and the consensus
of the qualified wallets that bought a mint.
-/

set_option autoImplicit false

namespace SolanaBot.Model

open SolanaBot.Library

/-- RUST: domain/wallet.rs:35-43. -/
structure WalletTradeObservation where
  wallet : String
  mint : String
  side : Side
  notionalUsd : Decimal
  observedAt : Time
  receivedAt : Time
  signature : String
deriving DecidableEq

/-- RUST: smart_money/tracker.rs:8-12. Statistics are keyed by their wallet. -/
structure WalletTracker where
  wallets : Table WalletStats.wallet
  observations : List WalletTradeObservation
  thresholds : SmartMoneyThresholds

namespace WalletTracker

/-- RUST: smart_money/tracker.rs:14-19. -/
def new (thresholds : SmartMoneyThresholds) : WalletTracker :=
  { wallets := Table.empty WalletStats.wallet, observations := [], thresholds }

/-- RUST: smart_money/tracker.rs:20-23. -/
def upsert (t : WalletTracker) (stats : WalletStats) : WalletTracker :=
  { t with wallets := t.wallets.put (scoreWallet stats t.thresholds) }

/-- RUST: smart_money/tracker.rs:24-26. -/
def observe (t : WalletTracker) (observation : WalletTradeObservation) : WalletTracker :=
  { t with observations := t.observations ++ [observation] }

end WalletTracker

/-- RUST: smart_money/tracker.rs:37-43. A purchase that was known at the time, and is not too old. -/
def WalletTradeObservation.countsAt (o : WalletTradeObservation) (mint : String) (asOf maxAge : Time) :
    Bool :=
  o.mint = mint ∧ o.side = .buy ∧ o.observedAt ≤ asOf ∧ o.receivedAt ≤ asOf ∧
    asOf - o.observedAt ≤ maxAge

/-- RUST: smart_money/tracker.rs:45-49. -/
def WalletStats.qualifiesAt (w : WalletStats) (asOf maxAge : Time) : Bool :=
  (w.tier = .qualified ∨ w.tier = .highConfidence) ∧ w.updatedAt ≤ asOf ∧ asOf - w.updatedAt ≤ maxAge

/-- RUST: smart_money/tracker.rs:51-55. What the set of the entities holds for a wallet. -/
def WalletStats.entityKey (w : WalletStats) : String := w.entityId.getD ("wallet:" ++ w.wallet)

namespace WalletTracker

/-- The qualified wallets behind the purchases, in the order of the observations. -/
def buyersAt (t : WalletTracker) (mint : String) (asOf maxAge : Time) : List WalletStats :=
  ((t.observations.filter fun o => o.countsAt mint asOf maxAge).filterMap fun o =>
    t.wallets.find? o.wallet).filter fun w => w.qualifiesAt asOf maxAge

/-- RUST: smart_money/tracker.rs:29-58. -/
def qualifiedConsensusAt (t : WalletTracker) (mint : String) (asOf maxAge : Time) :
    List WalletStats :=
  firstsBy WalletStats.entityKey [] (t.buyersAt mint asOf maxAge)

end WalletTracker

end SolanaBot.Model
