import SolanaBot.Model.SmartMoney

/-!
# Consensus of the entities behind the wallets

The consensus on a mint takes one wallet for each key of the qualified buyers. Its size depends on the
set of the keys alone, so that neither repeated observations nor further wallets of an entity add to it.
It takes one wallet for each entity exactly if no entity is named like the key of a wallet without one
(`consensus_law_iff`).
-/

set_option autoImplicit false

namespace SolanaBot.Analysis

open SolanaBot.Library SolanaBot.Model

/-! ## What a tracker knows -/

/-- What a tracker is told. -/
inductive TrackerCall where
  | upsert (stats : WalletStats)
  | observe (observation : WalletTradeObservation)

/-- A tracker after one call. -/
def callTracker (t : WalletTracker) : TrackerCall → WalletTracker
  | .upsert stats => t.upsert stats
  | .observe o => t.observe o

/-- A tracker after a sequence of calls. -/
def track (thresholds : SmartMoneyThresholds) (calls : List TrackerCall) : WalletTracker :=
  calls.foldl callTracker (WalletTracker.new thresholds)

/-- The wallets that the calls have stored. -/
def upserted (calls : List TrackerCall) : List WalletStats :=
  calls.filterMap fun
    | .upsert stats => some stats
    | .observe _ => none

/-- The trades that the calls have observed. -/
def observed (calls : List TrackerCall) : List WalletTradeObservation :=
  calls.filterMap fun
    | .upsert _ => none
    | .observe o => some o

/-- The wallets come from the one kind of calls, the observations from the other. -/
theorem foldl_callTracker (calls : List TrackerCall) (t : WalletTracker) :
    calls.foldl callTracker t =
      { (upserted calls).foldl WalletTracker.upsert t with
        observations := t.observations ++ observed calls } := by
  induction calls generalizing t with
  | nil =>
      change t = { t with observations := t.observations ++ [] }
      rw [List.append_nil]
  | cons call calls ih =>
      rw [List.foldl_cons, ih]
      cases call with
      | upsert stats => rfl
      | observe o =>
          have hwallets : ∀ (l : List WalletStats) (t : WalletTracker) (os : List WalletTradeObservation),
              { l.foldl WalletTracker.upsert (t.observe o) with observations := os } =
                { l.foldl WalletTracker.upsert t with observations := os } := by
            intro l
            induction l with
            | nil => exact fun t os => rfl
            | cons stats l ih => exact fun t os => ih (t.upsert stats) os
          change { (upserted calls).foldl WalletTracker.upsert (t.observe o) with
            observations := (t.observations ++ [o]) ++ observed calls } =
              { (upserted calls).foldl WalletTracker.upsert t with
                observations := t.observations ++ (o :: observed calls) }
          rw [hwallets, List.append_assoc]
          rfl

/-- The tracker has the observed trades. -/
theorem track_observations (thresholds : SmartMoneyThresholds) (calls : List TrackerCall) :
    (track thresholds calls).observations = observed calls := by
  unfold track
  rw [foldl_callTracker]
  rfl

/-- The wallets of a tracker are those that were upserted. -/
theorem track_wallets_congr (thresholds : SmartMoneyThresholds) {calls calls' : List TrackerCall}
    (h : upserted calls' = upserted calls) :
    (track thresholds calls').wallets = (track thresholds calls).wallets := by
  unfold track
  rw [foldl_callTracker, foldl_callTracker, h]

/-! ## Entities -/

/-- Who is behind a wallet: a known entity, or the wallet itself. -/
inductive Entity where
  | linked (id : String)
  | unlinked (wallet : String)
deriving DecidableEq

/-- The entity behind a wallet. -/
def entityOf (w : WalletStats) : Entity :=
  match w.entityId with
  | some id => .linked id
  | none => .unlinked w.wallet

section Consensus

variable (t : WalletTracker) (mint : String) (asOf maxAge : Time)

/-- A tracked wallet that is qualified and fresh, with a purchase of the mint in time. -/
def Buyer (w : WalletStats) : Prop :=
  (w.tier = .qualified ∨ w.tier = .highConfidence) ∧ w.updatedAt ≤ asOf ∧
    asOf - w.updatedAt ≤ maxAge ∧
    ∃ o ∈ t.observations, t.wallets.find? o.wallet = some w ∧ o.mint = mint ∧ o.side = .buy ∧
      o.observedAt ≤ asOf ∧ o.receivedAt ≤ asOf ∧ asOf - o.observedAt ≤ maxAge

/-- The consensus has one wallet for each entity behind a buyer, and none for another one. -/
structure OnePerEntity : Prop where
  buyers : ∀ w ∈ t.qualifiedConsensusAt mint asOf maxAge, Buyer t mint asOf maxAge w
  once : ((t.qualifiedConsensusAt mint asOf maxAge).map entityOf).Nodup
  every : ∀ w, Buyer t mint asOf maxAge w →
    entityOf w ∈ (t.qualifiedConsensusAt mint asOf maxAge).map entityOf

/-- No entity behind a buyer is named like the key of a buyer without an entity. -/
def NamedApart : Prop :=
  ∀ w w', Buyer t mint asOf maxAge w → Buyer t mint asOf maxAge w' → w.entityId = none →
    w'.entityId ≠ some ("wallet:" ++ w.wallet)

/-- The buyers are the wallets with a recent purchase that qualify. -/
theorem mem_buyersAt (w : WalletStats) :
    w ∈ t.buyersAt mint asOf maxAge ↔ Buyer t mint asOf maxAge w := by
  unfold WalletTracker.buyersAt Buyer WalletStats.qualifiesAt WalletTradeObservation.countsAt
  simp only [List.mem_filter, List.mem_filterMap, decide_eq_true_eq]
  constructor
  · rintro ⟨⟨o, ⟨ho, hcounts⟩, hfind⟩, htier, hupdated, hage⟩
    exact ⟨htier, hupdated, hage, o, ho, hfind, hcounts⟩
  · rintro ⟨htier, hupdated, hage, o, ho, hfind, hcounts⟩
    exact ⟨⟨o, ⟨ho, hcounts⟩, hfind⟩, htier, hupdated, hage⟩

variable {t mint asOf maxAge}

/-- The keys of two wallets are the same if their entities are, or if one is named like the other. -/
theorem entityKey_eq_iff (w w' : WalletStats) :
    w.entityKey = w'.entityKey ↔ entityOf w = entityOf w' ∨
      (w.entityId = none ∧ w'.entityId = some ("wallet:" ++ w.wallet)) ∨
      (w'.entityId = none ∧ w.entityId = some ("wallet:" ++ w'.wallet)) := by
  unfold WalletStats.entityKey entityOf
  cases w.entityId with
  | none =>
      cases w'.entityId with
      | none => simp
      | some id => simp [eq_comm]
  | some id =>
      cases w'.entityId with
      | none => simp
      | some id' => simp

/-- A wallet of the consensus is a buyer. -/
theorem consensus_subset {w : WalletStats} (h : w ∈ t.qualifiedConsensusAt mint asOf maxAge) :
    Buyer t mint asOf maxAge w :=
  (mem_buyersAt t mint asOf maxAge w).mp ((firstsBy_sublist [] _).subset h)

/-- The keys of the consensus are those of the buyers. -/
theorem mem_consensus_keys (k : String) :
    k ∈ (t.qualifiedConsensusAt mint asOf maxAge).map WalletStats.entityKey ↔
      ∃ w, Buyer t mint asOf maxAge w ∧ w.entityKey = k := by
  unfold WalletTracker.qualifiedConsensusAt
  rw [mem_map_firstsBy, and_iff_left List.not_mem_nil, List.mem_map]
  exact exists_congr fun w => and_congr_left fun _ => mem_buyersAt t mint asOf maxAge w

/-- One wallet for each entity is taken exactly if the names of the entities are apart. -/
theorem onePerEntity_iff :
    OnePerEntity t mint asOf maxAge ↔ NamedApart t mint asOf maxAge := by
  constructor
  · intro h w w' hw hw' hnone hnamed
    obtain ⟨u, hu, huentity⟩ := List.mem_map.mp (h.every w hw)
    obtain ⟨u', hu', huentity'⟩ := List.mem_map.mp (h.every w' hw')
    have hkey : u.entityKey = u'.entityKey := by
      rw [(entityKey_eq_iff u w).mpr (.inl huentity), (entityKey_eq_iff u' w').mpr (.inl huentity')]
      exact (entityKey_eq_iff w w').mpr (.inr (.inl ⟨hnone, hnamed⟩))
    have hsame : u = u' := List.inj_on_of_nodup_map (nodup_map_firstsBy [] _) hu hu' hkey
    rw [← hsame, huentity] at huentity'
    unfold entityOf at huentity'
    rw [hnone, hnamed] at huentity'
    cases huentity'
  · intro h
    have hinj : ∀ w w', Buyer t mint asOf maxAge w → Buyer t mint asOf maxAge w' →
        w.entityKey = w'.entityKey → entityOf w = entityOf w' := by
      intro w w' hw hw' hkey
      rcases (entityKey_eq_iff w w').mp hkey with heq | ⟨hnone, hnamed⟩ | ⟨hnone, hnamed⟩
      · exact heq
      · exact absurd hnamed (h w w' hw hw' hnone)
      · exact absurd hnamed (h w' w hw' hw hnone)
    refine ⟨fun w hw => consensus_subset hw, ?_, fun w hw => ?_⟩
    · have hkeys : ((t.qualifiedConsensusAt mint asOf maxAge).map WalletStats.entityKey).Nodup :=
        nodup_map_firstsBy [] (t.buyersAt mint asOf maxAge)
      rw [List.Nodup, List.pairwise_map] at hkeys ⊢
      refine hkeys.imp fun {w w'} hne heq => hne ?_
      exact (entityKey_eq_iff w w').mpr (.inl heq)
    · obtain ⟨u, hu, hkey⟩ := List.mem_map.mp ((mem_consensus_keys w.entityKey).mpr ⟨w, hw, rfl⟩)
      exact List.mem_map.mpr ⟨u, hu, hinj u w (consensus_subset hu) hw hkey⟩

end Consensus

/-! ## Other sequences of calls -/

section Calls

variable {thresholds : SmartMoneyThresholds} {calls calls' : List TrackerCall} {mint : String}
  {asOf maxAge : Time}

/-- Every buyer is still one where there are more observations. -/
theorem buyer_of_subset (hupserted : upserted calls' = upserted calls)
    (hobserved : ∀ o ∈ observed calls, o ∈ observed calls') {w : WalletStats}
    (h : Buyer (track thresholds calls) mint asOf maxAge w) :
    Buyer (track thresholds calls') mint asOf maxAge w := by
  obtain ⟨htier, hupdated, hage, o, ho, hfind, hcounts⟩ := h
  rw [track_observations] at ho
  refine ⟨htier, hupdated, hage, o, ?_, ?_, hcounts⟩
  · rw [track_observations]
    exact hobserved o ho
  · rw [track_wallets_congr thresholds hupserted]
    exact hfind

/-- Further observations leave the size alone if their wallets are untracked, or of an entity that is
counted already. -/
theorem size_of_counted (hupserted : upserted calls' = upserted calls)
    (hobserved : ∀ o ∈ observed calls, o ∈ observed calls')
    (hfurther : ∀ o ∈ observed calls', o ∈ observed calls ∨
      ∀ w, (track thresholds calls).wallets.find? o.wallet = some w → entityOf w ∈
        ((track thresholds calls).qualifiedConsensusAt mint asOf maxAge).map entityOf) :
    ((track thresholds calls').qualifiedConsensusAt mint asOf maxAge).length =
      ((track thresholds calls).qualifiedConsensusAt mint asOf maxAge).length := by
  have hkeys : ∀ k, k ∈ ((track thresholds calls').qualifiedConsensusAt mint asOf maxAge).map
      WalletStats.entityKey ↔ k ∈ ((track thresholds calls).qualifiedConsensusAt mint asOf maxAge).map
      WalletStats.entityKey := by
    intro k
    rw [mem_consensus_keys, mem_consensus_keys]
    constructor
    · rintro ⟨w, hw, rfl⟩
      obtain ⟨htier, hupdated, hage, o, ho, hfind, hcounts⟩ := hw
      rw [track_observations] at ho
      rw [track_wallets_congr thresholds hupserted] at hfind
      rcases hfurther o ho with hold | hcounted
      · exact ⟨w, ⟨htier, hupdated, hage, o, by rwa [track_observations], hfind, hcounts⟩, rfl⟩
      · obtain ⟨u, hu, hentity⟩ := List.mem_map.mp (hcounted w hfind)
        exact ⟨u, consensus_subset hu, (entityKey_eq_iff u w).mpr (.inl hentity)⟩
    · rintro ⟨w, hw, rfl⟩
      exact ⟨w, buyer_of_subset hupserted hobserved hw, rfl⟩
  unfold WalletTracker.qualifiedConsensusAt at hkeys ⊢
  refine length_firstsBy_congr fun k => ?_
  have h := hkeys k
  rwa [mem_map_firstsBy, mem_map_firstsBy, and_iff_left List.not_mem_nil,
    and_iff_left List.not_mem_nil] at h

/-- Observations that were not made or not received by then have no effect. -/
theorem consensus_of_known (hupserted : upserted calls' = upserted calls)
    (hknown : (observed calls').filter (fun o => o.observedAt ≤ asOf ∧ o.receivedAt ≤ asOf) =
      (observed calls).filter fun o => o.observedAt ≤ asOf ∧ o.receivedAt ≤ asOf) :
    (track thresholds calls').qualifiedConsensusAt mint asOf maxAge =
      (track thresholds calls).qualifiedConsensusAt mint asOf maxAge := by
  have hcounted : ∀ os : List WalletTradeObservation,
      os.filter (fun o => o.countsAt mint asOf maxAge) =
        (os.filter fun o => o.observedAt ≤ asOf ∧ o.receivedAt ≤ asOf).filter fun o =>
          o.countsAt mint asOf maxAge := by
    intro os
    rw [List.filter_filter]
    refine List.filter_congr fun o _ => ?_
    unfold WalletTradeObservation.countsAt
    rw [Bool.eq_iff_iff, Bool.and_eq_true, decide_eq_true_eq, decide_eq_true_eq]
    exact (and_iff_left_of_imp fun h => ⟨h.2.2.1, h.2.2.2.1⟩).symm
  unfold WalletTracker.qualifiedConsensusAt WalletTracker.buyersAt
  rw [track_observations, track_observations, track_wallets_congr thresholds hupserted,
    hcounted (observed calls'), hknown, ← hcounted]

end Calls

/-- What is asked of a consensus: one wallet for each entity behind a buyer, a size that depends neither
on the order of the observations nor on their number, and that further wallets of a counted entity leave
alone, and no effect of observations from later on. -/
structure ConsensusLaw (thresholds : SmartMoneyThresholds) (calls : List TrackerCall) (mint : String)
    (asOf maxAge : Time) : Prop where
  entities : OnePerEntity (track thresholds calls) mint asOf maxAge
  permuted : ∀ calls', upserted calls' = upserted calls →
    (∀ o, o ∈ observed calls' ↔ o ∈ observed calls) →
    ((track thresholds calls').qualifiedConsensusAt mint asOf maxAge).length =
      ((track thresholds calls).qualifiedConsensusAt mint asOf maxAge).length
  further : ∀ calls', upserted calls' = upserted calls →
    (∀ o ∈ observed calls, o ∈ observed calls') →
    (∀ o ∈ observed calls', o ∈ observed calls ∨
      ∀ w, (track thresholds calls).wallets.find? o.wallet = some w → entityOf w ∈
        ((track thresholds calls).qualifiedConsensusAt mint asOf maxAge).map entityOf) →
    ((track thresholds calls').qualifiedConsensusAt mint asOf maxAge).length =
      ((track thresholds calls).qualifiedConsensusAt mint asOf maxAge).length
  later : ∀ calls', upserted calls' = upserted calls →
    (observed calls').filter (fun o => o.observedAt ≤ asOf ∧ o.receivedAt ≤ asOf) =
      (observed calls).filter (fun o => o.observedAt ≤ asOf ∧ o.receivedAt ≤ asOf) →
    (track thresholds calls').qualifiedConsensusAt mint asOf maxAge =
      (track thresholds calls).qualifiedConsensusAt mint asOf maxAge

/-- **The consensus is one of entities exactly if their names are apart.** -/
theorem consensus_law_iff (thresholds : SmartMoneyThresholds) (calls : List TrackerCall)
    (mint : String) (asOf maxAge : Time) :
    ConsensusLaw thresholds calls mint asOf maxAge ↔
      NamedApart (track thresholds calls) mint asOf maxAge := by
  constructor
  · exact fun h => onePerEntity_iff.mp h.entities
  · intro h
    refine ⟨onePerEntity_iff.mpr h, fun calls' hupserted hsame => ?_,
      fun calls' hupserted hobserved hfurther => size_of_counted hupserted hobserved hfurther,
      fun calls' hupserted hknown => consensus_of_known hupserted hknown⟩
    exact size_of_counted hupserted (fun o ho => (hsame o).mpr ho) fun o ho => .inl ((hsame o).mp ho)

/-! ## An entity with the name of a wallet -/

/-- Statistics that qualify. -/
def provenStats (wallet : String) (entityId : Option String) : WalletStats :=
  { wallet, entityId, realizedPnlUsd := 50, winRate := 1, avgReturnPct := 30, medianReturnPct := 20
    maxDrawdownPct := 0, trades := 25, recentReturnPct := 15, concentrationPct := 0
    scamExposurePct := 0, score := 0, tier := .candidate, updatedAt := 0, avgWinPct := none
    avgLossPct := none }

/-- A purchase at the time of the statistics. -/
def purchaseBy (wallet : String) : WalletTradeObservation :=
  { wallet, mint := "mint", side := .buy, notionalUsd := 1, observedAt := 0, receivedAt := 0
    signature := "signature" }

/-- Two wallets that buy the mint: one without an entity, and one of the given entity. -/
def twoBuyers (entityId : String) : List TrackerCall :=
  [.upsert (provenStats "a" none), .upsert (provenStats "b" (some entityId)),
    .observe (purchaseBy "a"), .observe (purchaseBy "b")]

example : ((track .default (twoBuyers "entity")).qualifiedConsensusAt "mint" 0 0).map
    WalletStats.wallet = ["a", "b"] := by decide +kernel

/-- An entity with the name of the other wallet's key is not counted. -/
theorem named_entity_uncounted : ¬ ∀ (thresholds : SmartMoneyThresholds) (calls : List TrackerCall)
    (mint : String) (asOf maxAge : Time), ConsensusLaw thresholds calls mint asOf maxAge := by
  intro hclaim
  have hentities := (hclaim .default (twoBuyers "wallet:a") "mint" 0 0).entities
  have hbuyer : Buyer (track .default (twoBuyers "wallet:a")) "mint" 0 0
      (scoreWallet (provenStats "b" (some "wallet:a")) .default) :=
    (mem_buyersAt _ _ _ _ _).mp (by decide +kernel)
  exact absurd (hentities.every _ hbuyer) (by decide +kernel)

end SolanaBot.Analysis
