import SolanaBot.Model.Economics

/-!
# Domain records

Orders and fills (`domain/trade.rs`), positions (`domain/position.rs`), market
snapshots, token safety, wallet statistics and trade signals, with the predicates
the source defines on them. `OrderState.canTransition` is the state machine that
the persisted life of an order is meant to follow.
-/

set_option autoImplicit false

namespace SolanaBot.Model

/-! ## Orders and fills -/

/-- RUST: domain/trade.rs:9-29. -/
structure Fill where
  orderId : String
  signature : String
  inputAmount : UInt64
  outputAmount : UInt64
  priceUsd : Decimal
  feesUsd : Decimal
  slippageBps : UInt32
  confirmedAt : Time
  latencyMs : UInt64
  feeLamports : UInt64
  inputValueUsd : Option Decimal
  expectedOutputAmount : Option UInt64
deriving DecidableEq

/-- RUST: domain/trade.rs:32-42. -/
def Fill.realisedSlippageBps (f : Fill) : UInt32 :=
  match f.expectedOutputAmount with
  | none => 0
  | some expected =>
      if expected = 0 ∨ f.outputAmount ≥ expected then 0
      else
        let bps := saturatingMul (expected - f.outputAmount) 10000 / expected
        if bps.toNat < 2 ^ 32 then UInt32.ofNat bps.toNat else UInt32.ofNat (2 ^ 32 - 1)

/-- RUST: domain/trade.rs:44-53. -/
inductive OrderState where
  | pending
  | submitted
  | confirmed
  | failed
  | dropped
  | unknown
  | expired
  | reconciled
deriving DecidableEq, Repr

/-- RUST: domain/trade.rs:55-60. -/
def OrderState.isTerminal : OrderState → Bool
  | .confirmed | .failed | .dropped | .expired | .reconciled => true
  | .pending | .submitted | .unknown => false

/-- RUST: domain/trade.rs:64-82. -/
def OrderState.canTransition : OrderState → OrderState → Bool
  | .pending, .submitted | .pending, .failed | .pending, .expired | .pending, .unknown => true
  | .submitted, .confirmed | .submitted, .failed | .submitted, .expired
  | .submitted, .unknown => true
  | .unknown, .confirmed | .unknown, .failed | .unknown, .expired
  | .unknown, .reconciled => true
  | _, _ => false

/-- RUST: domain/trade.rs:84-88. -/
inductive OrderKind where
  | entry
  | exit
  | legacyUnknown
deriving DecidableEq, Repr

/-- RUST: domain/trade.rs:90-94. -/
inductive OrderSide where
  | buy
  | sell
  | unknown
deriving DecidableEq, Repr

/-- RUST: domain/trade.rs:102-131. -/
structure OrderRecord where
  id : String
  signalId : String
  mint : String
  kind : OrderKind
  positionId : Option String
  side : OrderSide
  inputMint : Option String
  outputMint : Option String
  inputAmountAtomic : Option UInt64
  inputValueUsd : Option Decimal
  outputMintDecimals : Option UInt8
  state : OrderState
  idempotencyKey : String
  createdAt : Time
  signature : Option String
  error : Option String
deriving DecidableEq

/-- The name of a state, as its `Debug` text has it. -/
def OrderState.toText : OrderState → String
  | .pending => "Pending"
  | .submitted => "Submitted"
  | .confirmed => "Confirmed"
  | .failed => "Failed"
  | .dropped => "Dropped"
  | .unknown => "Unknown"
  | .expired => "Expired"
  | .reconciled => "Reconciled"

/-- RUST: domain/trade.rs:134-147. The record with its new state, or the refusal. -/
def OrderRecord.transition (o : OrderRecord) (next : OrderState) : Except String OrderRecord :=
  if o.state = next then .ok o
  else if o.state.canTransition next then .ok { o with state := next }
  else .error ("illegal order transition " ++ o.state.toText ++ " -> " ++ next.toText)

/-- A refused transition that the caller only logs leaves the record as it was. -/
def OrderRecord.transitionOrKeep (o : OrderRecord) (next : OrderState) : OrderRecord :=
  match o.transition next with
  | .ok o' => o'
  | .error _ => o

/-! ### The life of an order -/

/-- A terminal state has no way out. -/
theorem OrderState.canTransition_of_isTerminal {s t : OrderState} (h : s.isTerminal) :
    s.canTransition t = false := by
  cases s <;> cases t <;> simp_all [isTerminal, canTransition]

/-- The states an order can have after one attempted transition: the old one, or one
that the state machine allows. -/
def OrderState.StepsTo (s t : OrderState) : Prop := s = t ∨ s.canTransition t

/-- From a terminal state there is no step. -/
theorem OrderState.StepsTo.eq_of_isTerminal {s t : OrderState} (h : s.StepsTo t)
    (hs : s.isTerminal) : t = s := by
  rcases h with rfl | h
  · rfl
  · rw [canTransition_of_isTerminal hs] at h
    cases h

/-- What a successful transition changes: the state only, along the state machine. -/
theorem OrderRecord.transition_eq_ok {o o' : OrderRecord} {next : OrderState}
    (h : o.transition next = .ok o') :
    o' = { o with state := next } ∧ o.state.StepsTo next := by
  unfold transition at h
  split at h
  · rename_i heq
    cases h
    exact ⟨by rw [← heq], .inl heq⟩
  · split at h
    · rename_i hcan
      cases h
      exact ⟨rfl, .inr hcan⟩
    · cases h

/-- What an attempted transition changes: at most the state, along the state machine. -/
theorem OrderRecord.transitionOrKeep_spec (o : OrderRecord) (next : OrderState) :
    ∃ s, o.transitionOrKeep next = { o with state := s } ∧ o.state.StepsTo s := by
  unfold transitionOrKeep
  cases h : o.transition next with
  | ok o' =>
      obtain ⟨rfl, hs⟩ := transition_eq_ok h
      exact ⟨next, rfl, hs⟩
  | error e => exact ⟨o.state, rfl, .inl rfl⟩

/-- The fields of an order that are fixed when it is reserved. -/
structure OrderRecord.SameOrder (o o' : OrderRecord) : Prop where
  id : o'.id = o.id
  mint : o'.mint = o.mint
  kind : o'.kind = o.kind
  positionId : o'.positionId = o.positionId
  inputAmountAtomic : o'.inputAmountAtomic = o.inputAmountAtomic

/-- An order is the same as itself. -/
theorem OrderRecord.SameOrder.refl (o : OrderRecord) : o.SameOrder o := ⟨rfl, rfl, rfl, rfl, rfl⟩

/-- Being the same order is symmetric. -/
theorem OrderRecord.SameOrder.symm {o o' : OrderRecord} (h : o.SameOrder o') : o'.SameOrder o :=
  ⟨h.id.symm, h.mint.symm, h.kind.symm, h.positionId.symm, h.inputAmountAtomic.symm⟩

/-- Being the same order is transitive. -/
theorem OrderRecord.SameOrder.trans {o o' o'' : OrderRecord} (h : o.SameOrder o')
    (h' : o'.SameOrder o'') : o.SameOrder o'' :=
  ⟨h'.id.trans h.id, h'.mint.trans h.mint, h'.kind.trans h.kind,
    h'.positionId.trans h.positionId, h'.inputAmountAtomic.trans h.inputAmountAtomic⟩

/-- What an update of an order record may change: the state along the state machine, and the
fields that report on the execution. -/
structure OrderRecord.Revises (o o' : OrderRecord) : Prop extends o.SameOrder o' where
  state : o.state.StepsTo o'.state

/-- An attempted transition is a revision, whatever signature and error it is reported with. -/
theorem OrderRecord.revises_transitionOrKeep (o : OrderRecord) (next : OrderState)
    (signature error : Option String) :
    o.Revises { o.transitionOrKeep next with signature, error } := by
  obtain ⟨s, h, hs⟩ := o.transitionOrKeep_spec next
  rw [h]
  exact ⟨⟨rfl, rfl, rfl, rfl, rfl⟩, hs⟩

/-! ## Positions -/

/-- RUST: domain/position.rs:9-13. -/
inductive PositionState where
  | open
  | closed
deriving DecidableEq, Repr

/-- RUST: domain/position.rs:16-23. -/
inductive ReconciliationStatus where
  | unverified
  | reconciled
  | adjustedOnChain
  | mismatch
  | closedOnChain
deriving DecidableEq, Repr

/-- RUST: domain/position.rs:26-28. -/
def ReconciliationStatus.quantityIsTrusted : ReconciliationStatus → Bool
  | .reconciled | .adjustedOnChain => true
  | .unverified | .mismatch | .closedOnChain => false

/-- RUST: domain/position.rs:34-91. -/
structure Position where
  mint : String
  positionId : Option String
  tokenMint : Option String
  baseMint : Option String
  entryInputAmountAtomic : Option UInt64
  entryOutputAmountAtomic : Option UInt64
  tokenDecimals : Option UInt8
  baseMintDecimals : Option UInt8
  entryFeesUsd : Option Decimal
  entrySlippageBps : Option UInt32
  entryCostModel : Option CostModel
  quantity : Decimal
  remainingQuantityAtomic : Option UInt64
  entryCostUsd : Option Decimal
  baseEntryPriceUsd : Option Decimal
  state : PositionState
  reconciliationStatus : ReconciliationStatus
  lastReconciledAt : Option Time
  exitSignature : Option String
  exitFeesUsd : Option Decimal
  exitTime : Option Time
  entryPriceUsd : Decimal
  entryTime : Time
  entrySignature : String
  highWaterPriceUsd : Decimal
  realizedPnlUsd : Decimal
  unrealizedPnlUsd : Decimal
  feesUsd : Decimal
  currentValueUsd : Decimal
  signalId : String
  exitReason : Option String
deriving DecidableEq

/-- RUST: domain/position.rs:96-98. -/
def Position.isOpen (p : Position) : Bool := p.state = .open

/-- RUST: domain/position.rs:101-109. -/
def Position.trustedRemaining (p : Position) : Option UInt64 :=
  if !p.isOpen then none
  else if !p.reconciliationStatus.quantityIsTrusted then none
  else p.remainingQuantityAtomic

/-! ## Market, safety, wallets and signals -/

/-- RUST: domain/market.rs:5-17. -/
structure MarketSnapshot where
  mint : String
  priceUsd : Decimal
  liquidityUsd : Decimal
  volume24hUsd : Decimal
  volatilityPct : Decimal
  buySellImbalance : Decimal
  observedAt : Time
  receivedAt : Time
  slot : Option UInt64
  priceImpactBps : Option UInt32
deriving DecidableEq

/-- RUST: domain/market.rs:19-21. -/
def MarketSnapshot.ageSeconds (m : MarketSnapshot) (now : Time) : Int :=
  numSeconds (now - m.observedAt)

/-- RUST: domain/token.rs:11-23. -/
structure TokenSafety where
  mintAuthorityPresent : Bool
  freezeAuthorityPresent : Bool
  holderTop10Pct : Decimal
  tokenAgeSecs : Int
  liquidityLockedOrBurned : Option Bool
  sellable : Option Bool
  routeAvailable : Option Bool
  creatorSuspicious : Option Bool
  abnormalActivity : Option Bool
  liquidityChangePct : Option Decimal
  observedAt : Time
deriving DecidableEq

/-- RUST: domain/wallet.rs:5-10. -/
inductive WalletTier where
  | candidate
  | observed
  | qualified
  | highConfidence
deriving DecidableEq, Repr

/-- RUST: domain/wallet.rs:12-33. -/
structure WalletStats where
  wallet : String
  entityId : Option String
  realizedPnlUsd : Decimal
  winRate : Decimal
  avgReturnPct : Decimal
  medianReturnPct : Decimal
  maxDrawdownPct : Decimal
  trades : UInt32
  recentReturnPct : Decimal
  concentrationPct : Decimal
  scamExposurePct : Decimal
  score : Decimal
  tier : WalletTier
  updatedAt : Time
  avgWinPct : Option Decimal
  avgLossPct : Option Decimal
deriving DecidableEq

/-- RUST: domain/wallet.rs:45-48. -/
inductive Side where
  | buy
  | sell
deriving DecidableEq, Repr

/-- RUST: domain/signal.rs:5-15. -/
structure SignalScore where
  walletScore : Decimal
  walletSampleSize : UInt32
  walletRecentScore : Decimal
  consensusScore : Decimal
  liquidityScore : Decimal
  momentumScore : Decimal
  riskScore : Decimal
  economicScore : Decimal
  finalSignalScore : Decimal
deriving DecidableEq

/-- RUST: domain/signal.rs:17-26. -/
structure TradeSignal where
  id : String
  mint : String
  wallets : List String
  side : Side
  score : SignalScore
  expectedGrossReturnPct : Decimal
  createdAt : Time
  reason : String
deriving DecidableEq

end SolanaBot.Model
