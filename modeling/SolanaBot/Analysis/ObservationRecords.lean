import SolanaBot.Analysis.EntityConsensus
import SolanaBot.Analysis.MonitorCalls
import SolanaBot.Analysis.MonitorMoves
import SolanaBot.Library.LoggedRuns

/-!
# Recorded purchases

The events and the poll of a tick record only what was received by the beginning of the tick, while the
time of receipt is read when a swap is absorbed, after it. A purchase whose receipt reads no later than
the tick began is recorded, and counts for the consensus (`purchases_recorded`).
-/

set_option autoImplicit false

namespace SolanaBot.Analysis

open SolanaBot.Library SolanaBot.Model

/-! ## What is absorbed -/

/-- What is to be recorded of a swap. -/
def dueObservation (wallet : String) (price : Decimal) (s : ParsedSwap × ClockReadings) :
    WalletTradeObservation :=
  s.1.observation wallet price (s.1.timestamp s.2.fallback) s.2.received

/-- The purchases that the events and the polls have absorbed. -/
def noteBuys (w : WatchState) (move : Move) (l : List WalletTradeObservation) :
    List WalletTradeObservation :=
  match move with
  | .processEvent readings _ =>
      match w.phase, w.monitor.solPrice with
      | .draining _ (event :: _) _, some price =>
          match event.swap.direction with
          | .buy => l ++ [dueObservation event.wallet price (event.swap, readings)]
          | .sell => l
      | _, _ => l
  | .finishPoll _ _ =>
      match w.phase with
      | .scanning _ _ _ wallet [] _ swaps =>
          l ++ (swaps.filter fun s => s.1.direction = .buy).map
            (dueObservation wallet w.monitor.config.solPriceUsd)
      | _ => l
  | _ => l

/-- The times at which the purchases of a move were received, each with the beginning of the tick. -/
def purchaseTimes (w : WatchState) : Move → List (Time × Time)
  | .processEvent readings _ =>
      match w.phase with
      | .draining now (event :: _) _ =>
          if event.swap.direction = .buy ∧ w.monitor.solPrice ≠ none then [(readings.received, now)]
          else []
      | _ => []
  | .finishPoll _ _ =>
      match w.phase with
      | .scanning now _ _ _ _ _ swaps =>
          (swaps.filter fun s => s.1.direction = .buy).map fun s => (s.2.received, now)
      | _ => []
  | _ => []

/-- No purchase is received later than its tick began. -/
def ReceivedInTime (w : WatchState) (move : Move) : Prop := ∀ p ∈ purchaseTimes w move, p.1 ≤ p.2

/-- Whether `ReceivedInTime` holds can be evaluated. -/
instance (w : WatchState) (move : Move) : Decidable (ReceivedInTime w move) :=
  inferInstanceAs (Decidable (∀ p ∈ purchaseTimes w move, p.1 ≤ p.2))

/-- The purchase is recorded. If its wallet qualifies later, within the age that counts, the consensus
has a wallet of the same entity. -/
structure RecordedPurchase (t : WalletTracker) (o : WalletTradeObservation) : Prop where
  recorded : o ∈ t.observations
  counted : ∀ asOf maxAge, o.observedAt ≤ asOf → o.receivedAt ≤ asOf → asOf - o.observedAt ≤ maxAge →
    ∀ stats, t.wallets.find? o.wallet = some stats →
      (stats.tier = .qualified ∨ stats.tier = .highConfidence) → stats.updatedAt ≤ asOf →
        asOf - stats.updatedAt ≤ maxAge →
          stats.entityKey ∈ (t.qualifiedConsensusAt o.mint asOf maxAge).map WalletStats.entityKey

/-- A buy among the observations is a recorded purchase. -/
theorem recordedPurchase_of_mem {t : WalletTracker} {o : WalletTradeObservation}
    (hmem : o ∈ t.observations) (hbuy : o.side = .buy) : RecordedPurchase t o where
  recorded := hmem
  counted _ _ hobserved hreceived hage stats hfind htier hupdated hfresh :=
    (mem_consensus_keys stats.entityKey).mpr ⟨stats,
      ⟨htier, hupdated, hfresh, o, hmem, hfind, rfl, hbuy, hobserved, hreceived, hage⟩, rfl⟩

/-! ## Absorbing -/

/-- Below the limit a swap appends its observation. -/
theorem take_observations {a : Absorption} (h : a.observations.length < MAX_OBSERVATIONS_PER_WALLET)
    (wallet : String) (price : Decimal) (s : ParsedSwap × ClockReadings) :
    (a.take wallet price s).observations = a.observations ++ [dueObservation wallet price s] := by
  unfold Absorption.take absorbSwap
  dsimp only
  rw [if_pos h]
  rfl

/-- A call that stays below its limit observes every swap. -/
theorem foldl_take_observations (wallet : String) (price : Decimal)
    {swaps : List (ParsedSwap × ClockReadings)} {a : Absorption}
    (h : a.observations.length + swaps.length ≤ MAX_OBSERVATIONS_PER_WALLET) :
    (swaps.foldl (fun a s => a.take wallet price s) a).observations =
      a.observations ++ swaps.map (dueObservation wallet price) := by
  induction swaps generalizing a with
  | nil => exact (List.append_nil _).symm
  | cons s swaps ih =>
      rw [List.length_cons] at h
      have hfirst := take_observations (show a.observations.length < MAX_OBSERVATIONS_PER_WALLET by omega)
        wallet price s
      rw [List.foldl_cons, ih (by rw [hfirst, List.length_append, List.length_singleton]; omega),
        hfirst, List.append_assoc]
      rfl

/-- Observing a list appends it. -/
theorem foldl_observe (t : WalletTracker) (os : List WalletTradeObservation) :
    (os.foldl WalletTracker.observe t).observations = t.observations ++ os := by
  induction os generalizing t with
  | nil => exact (List.append_nil _).symm
  | cons o os ih =>
      rw [List.foldl_cons, ih]
      exact List.append_assoc _ [o] os

/-- The observations that were received by then are recorded, after the others. -/
theorem trackAbsorbed_observations (t : WalletTracker) (a : Absorption) (wallet : String) (now : Time) :
    (trackAbsorbed t a wallet now).observations =
      t.observations ++ a.observations.filter fun o => o.receivedAt ≤ now := by
  unfold trackAbsorbed
  dsimp only
  split
  · exact foldl_observe t _
  · exact foldl_observe t _

/-- A purchase that is absorbed in time is recorded. -/
theorem mem_trackAbsorbed {t : WalletTracker} {a : Absorption} {wallet : String} {now : Time}
    {o : WalletTradeObservation} (hmem : o ∈ a.observations) (hreceived : o.receivedAt ≤ now) :
    o ∈ (trackAbsorbed t a wallet now).observations := by
  rw [trackAbsorbed_observations]
  exact List.mem_append_right _ (List.mem_filter.mpr ⟨hmem, decide_eq_true hreceived⟩)

/-! ## Runs -/

/-- A poll has found at most as many swaps as it has fetched transactions, which are limited. -/
def PollCounted : MonitorPhase → Prop
  | .scanning _ _ _ _ _ txCount swaps =>
      swaps.length ≤ txCount ∧ txCount ≤ MAX_TRANSACTIONS_PER_TICK
  | _ => True

/-- The purchases are recorded. -/
structure PurchasesKept (w : WatchState) (l : List WalletTradeObservation) : Prop where
  recorded : ∀ o ∈ l, o ∈ w.monitor.walletTracker.observations ∧ o.side = .buy
  poll : PollCounted w.phase

section Steps

variable {w w' : WatchState} {l : List WalletTradeObservation}

/-- A move that absorbs nothing. -/
theorem PurchasesKept.mono (h : PurchasesKept w l)
    (htracker : w'.monitor.walletTracker = w.monitor.walletTracker) (hpoll : PollCounted w'.phase) :
    PurchasesKept w' l :=
  ⟨by rw [htracker]; exact h.recorded, hpoll⟩

/-- A poll's swaps are within its counted transactions, and these within the limit of a tick. -/
theorem pollTurn_counted {wallet : String} {s s' : PollState} {t : SignatureTurn}
    (h : s.swaps.length ≤ s.txCount ∧ s.txCount ≤ MAX_TRANSACTIONS_PER_TICK)
    (hturn : pollTurn wallet s t = some s') :
    s'.swaps.length ≤ s'.txCount ∧ s'.txCount ≤ MAX_TRANSACTIONS_PER_TICK := by
  unfold pollTurn at hturn
  split at hturn
  · cases hturn
    exact h
  split at hturn
  · cases hturn
    exact h
  split at hturn
  · cases hturn
    exact h
  rename_i hbelow
  split at hturn
  · cases hturn
    exact h
  · cases hturn
    exact h
  · split at hturn
    · cases hturn
      dsimp only
      refine ⟨?_, not_le.mp hbelow⟩
      split
      · omega
      · rw [List.length_append, List.length_singleton]
        omega
    · cases hturn

/-- Processing an event keeps the purchases. -/
theorem kept_processEvent (h : PurchasesKept w l) {readings : ClockReadings} {collected : Bool}
    (hintime : ReceivedInTime w (.processEvent readings collected))
    (hmove : w.processEvent readings collected = some w') :
    PurchasesKept w' (noteBuys w (.processEvent readings collected) l) := by
  obtain ⟨now, event, events, candidates, hphase, rfl⟩ := processEvent_cases hmove
  unfold ReceivedInTime purchaseTimes at hintime
  unfold noteBuys
  rw [hphase] at hintime ⊢
  cases hprice : w.monitor.solPrice with
  | none =>
      have hkept := processWsSwapEvent_none w.monitor now event candidates readings collected hprice
      dsimp only
      rw [hkept]
      exact h.mono rfl trivial
  | some price =>
      have htracker : (w.monitor.processWsSwapEvent event candidates now readings
          collected).1.walletTracker = trackAbsorbed w.monitor.walletTracker
            (eventAbsorption w.monitor event price readings) event.wallet now :=
        (processWsSwapEvent_same w.monitor now event candidates readings collected hprice).walletTracker
      have hold : ∀ o ∈ w.monitor.walletTracker.observations,
          o ∈ (trackAbsorbed w.monitor.walletTracker (eventAbsorption w.monitor event price readings)
            event.wallet now).observations := fun o ho => by
        rw [trackAbsorbed_observations]
        exact List.mem_append_left _ ho
      refine ⟨fun o ho => ?_, trivial⟩
      dsimp only at ho ⊢
      rw [htracker]
      cases hdir : event.swap.direction with
      | sell =>
          rw [hdir] at ho
          exact ⟨hold o (h.recorded o ho).1, (h.recorded o ho).2⟩
      | buy =>
          rw [hdir] at ho
          rcases List.mem_append.mp ho with hbefore | hnew
          · exact ⟨hold o (h.recorded o hbefore).1, (h.recorded o hbefore).2⟩
          · rw [List.mem_singleton.mp hnew]
            refine ⟨mem_trackAbsorbed ?_ (hintime (readings.received, now) ?_), ?_⟩
            · have hobserved := take_observations
                (a := ⟨w.monitor.accumulators event.wallet, []⟩)
                (show 0 < MAX_OBSERVATIONS_PER_WALLET by decide) event.wallet price
                (event.swap, readings)
              unfold eventAbsorption
              rw [hobserved]
              exact List.mem_append_right _ List.mem_cons_self
            · dsimp only
              rw [if_pos ⟨hdir, by rw [hprice]; exact nofun⟩]
              exact List.mem_cons_self
            · unfold dueObservation ParsedSwap.observation ParsedSwap.side
              rw [hdir]

/-- Finishing a poll keeps the purchases. -/
theorem kept_finishPoll (h : PurchasesKept w l) {order : KeyOrder} {collected : String → Bool}
    (hintime : ReceivedInTime w (.finishPoll order collected))
    (hmove : w.finishPoll order collected = some w') :
    PurchasesKept w' (noteBuys w (.finishPoll order collected) l) := by
  obtain ⟨now, wallets, candidates, wallet, txCount, swaps, hphase, rfl⟩ := finishPoll_cases hmove
  have hpoll := h.poll
  unfold ReceivedInTime purchaseTimes at hintime
  unfold noteBuys
  rw [hphase] at hintime hpoll ⊢
  have htracker : (w.monitor.finishPoll wallet swaps candidates now order collected).1.walletTracker =
      trackAbsorbed w.monitor.walletTracker (polledAbsorption w.monitor wallet swaps) wallet now :=
    (finishPoll_same w.monitor wallet now order collected swaps candidates).walletTracker
  have hobserved : (polledAbsorption w.monitor wallet swaps).observations =
      swaps.map (dueObservation wallet w.monitor.config.solPriceUsd) := by
    have hbound : swaps.length ≤ MAX_TRANSACTIONS_PER_TICK := hpoll.1.trans hpoll.2
    unfold MAX_TRANSACTIONS_PER_TICK at hbound
    refine foldl_take_observations wallet w.monitor.config.solPriceUsd ?_
    change 0 + swaps.length ≤ 5000
    omega
  refine ⟨fun o ho => ?_, trivial⟩
  dsimp only at ho ⊢
  rw [htracker]
  rcases List.mem_append.mp ho with hbefore | hnew
  · refine ⟨?_, (h.recorded o hbefore).2⟩
    rw [trackAbsorbed_observations]
    exact List.mem_append_left _ (h.recorded o hbefore).1
  · obtain ⟨s, hs, rfl⟩ := List.mem_map.mp hnew
    obtain ⟨hswap, hdir⟩ := List.mem_filter.mp hs
    have hbuy : s.1.direction = .buy := of_decide_eq_true hdir
    refine ⟨mem_trackAbsorbed ?_ (hintime (s.2.received, now) (List.mem_map.mpr ⟨s, hs, rfl⟩)), ?_⟩
    · rw [hobserved]
      exact List.mem_map_of_mem hswap
    · unfold dueObservation ParsedSwap.observation ParsedSwap.side
      rw [hbuy]

/-- Every move records the purchases that it absorbs. -/
theorem kept_step (h : PurchasesKept w l) {move : Move} (hintime : ReceivedInTime w move)
    (hmove : w.step move = some w') : PurchasesKept w' (noteBuys w move l) := by
  cases move with
  | setSolPrice price =>
      obtain ⟨-, rfl⟩ := setSolPrice_cases hmove
      exact h.mono rfl h.poll
  | beginTick now =>
      obtain ⟨-, rfl | rfl | rfl⟩ := beginTick_cases hmove
      · exact h
      · exact h.mono rfl h.poll
      · exact h.mono rfl trivial
  | receive =>
      obtain ⟨now, events, -, ⟨event, channel, -, rfl⟩ | ⟨-, rfl⟩⟩ := receive_cases hmove
      all_goals exact h.mono rfl trivial
  | processEvent readings collected => exact kept_processEvent h hintime hmove
  | sweep nowForWindow page =>
      obtain ⟨now, candidates, -, ⟨done, idx, rfl⟩ | ⟨wallet, rfl⟩ | rfl⟩ := sweep_cases hmove
      all_goals exact h.mono rfl trivial
  | inspect a =>
      rcases inspect_cases hmove with ⟨wallet, nowForWindow, sig, left, s, -, rfl⟩ |
        ⟨now, wallets, candidates, wallet, sig, left, txCount, swaps, hphase, rfl | ⟨s, hturn, rfl⟩⟩
      · exact h.mono rfl trivial
      · exact h.mono rfl trivial
      · have hpoll := h.poll
        rw [hphase] at hpoll
        exact h.mono rfl (pollTurn_counted (s := ⟨_, _, txCount, swaps⟩) hpoll hturn)
  | finishRebuild now order collected =>
      obtain ⟨wallet, nowForWindow, s, -, rfl⟩ := finishRebuild_cases hmove
      have htracker : (w.monitor.finishRebuild wallet s now order collected).walletTracker =
          trackAbsorbed w.monitor.walletTracker s.absorption wallet now :=
        (finishRebuild_same w.monitor wallet now order collected s).walletTracker
      refine ⟨fun o ho => ⟨?_, (h.recorded o ho).2⟩, trivial⟩
      dsimp only
      rw [htracker, trackAbsorbed_observations]
      exact List.mem_append_left _ (h.recorded o ho).1
  | readPage page =>
      obtain ⟨now, wallet, wallets, candidates, -, rfl | ⟨sigs, rfl⟩⟩ := readPage_cases hmove
      · exact h.mono rfl trivial
      · exact h.mono rfl ⟨Nat.le_refl 0, Nat.zero_le _⟩
  | finishPoll order collected => exact kept_finishPoll h hintime hmove
  | endTick =>
      obtain ⟨-, rfl⟩ := endTick_cases hmove
      exact h.mono rfl trivial
  | notify signature =>
      obtain ⟨-, rfl | ⟨-, rfl⟩⟩ := notify_cases hmove
      · exact h
      · exact h.mono rfl h.poll
  | fetched answer =>
      obtain ⟨signature, -, ⟨tx, -, rfl⟩ | rfl⟩ := fetched_cases hmove
      all_goals exact h.mono rfl h.poll
  | send order =>
      obtain ⟨tx, wallets, -, rfl | ⟨wallet, rest, -, rfl | ⟨swap, -, rfl⟩⟩⟩ := send_cases hmove
      all_goals exact h.mono rfl h.poll

end Steps

/-- The moves of the monitor and of the subscription from the beginning, with the purchases that events
and polls absorb. -/
def purchaseRun (config : MonitorConfig) (wallets : List String) (moves : List Move) :
    Option (WatchState × List WalletTradeObservation) :=
  runLogged WatchState.step noteBuys (.new config wallets) [] moves

/-- **No purchase is lost** in a run in which none is received later than its tick began: every one that
an event or a poll has absorbed is recorded, and counts for the consensus. -/
theorem purchases_recorded (config : MonitorConfig) (wallets : List String) {moves : List Move}
    (hintime : MeetsLogged WatchState.step noteBuys (fun w _ move => ReceivedInTime w move)
      (.new config wallets) [] moves)
    {w : WatchState} {l : List WalletTradeObservation}
    (hrun : purchaseRun config wallets moves = some (w, l)) :
    ∀ o ∈ l, RecordedPurchase w.monitor.walletTracker o := by
  have hinitial : PurchasesKept (.new config wallets) [] :=
    ⟨fun _ ho => absurd ho List.not_mem_nil, trivial⟩
  have hstep : ∀ w l move w', PurchasesKept w l → ReceivedInTime w move →
      WatchState.step w move = some w' → PurchasesKept w' (noteBuys w move l) :=
    fun w l move w' h hC hmove => kept_step h hC hmove
  have hkept : PurchasesKept w l := runLogged_invariant hstep hinitial hintime hrun
  exact fun o ho => recordedPurchase_of_mem (hkept.recorded o ho).1 (hkept.recorded o ho).2

/-- The clock in a move. -/
def clockIn : Move → List Time
  | .beginTick now => [now]
  | .processEvent readings _ => [readings.fallback, readings.received]
  | .sweep nowForWindow _ => [nowForWindow]
  | .inspect a => [a.now.fallback, a.now.received]
  | .finishRebuild now _ _ => [now]
  | _ => []

/-- A purchase comes in an event, which a tick processes that began a second after midnight. -/
def purchaseEvent (received : Time) : List Move :=
  [.setSolPrice (some 150), .notify "first", .fetched (.found (purchaseTx watchedWallet "first")),
    .send listOrder, .send listOrder, .beginTick 1700006401000, .receive, .receive,
    .processEvent ⟨received, received⟩ false]

/-- A purchase that is received when the tick begins is recorded. -/
theorem purchases_recorded_sample :
    ∃ r, purchaseRun ⟨150, 1000, 900, 2⟩ [watchedWallet] (purchaseEvent 1700006401000) = some r ∧
      r.2.length = 1 ∧ ∀ o ∈ r.2, RecordedPurchase r.1.monitor.walletTracker o := by
  have hany : (purchaseRun ⟨150, 1000, 900, 2⟩ [watchedWallet] (purchaseEvent 1700006401000)).any
      (fun r => r.2.length = 1) = true := by decide +kernel
  obtain ⟨r, hrun, hlength⟩ := (Option.any_eq_true _ _).mp hany
  exact ⟨r, hrun, of_decide_eq_true hlength,
    purchases_recorded ⟨150, 1000, 900, 2⟩ [watchedWallet] (by decide +kernel) hrun⟩

/-- A purchase that is received a millisecond later is absorbed and not recorded. -/
theorem purchase_unrecorded :
    ((purchaseEvent 1700006401001).flatMap clockIn).Pairwise (· ≤ ·) ∧
      (purchaseRun ⟨150, 1000, 900, 2⟩ [watchedWallet] (purchaseEvent 1700006401001)).map
        (fun r => (r.2.length, r.1.monitor.walletTracker.observations)) = some (1, []) ∧
      ¬ ∀ config wallets moves, (moves.flatMap clockIn).Pairwise (· ≤ ·) →
        ∀ w l, purchaseRun config wallets moves = some (w, l) →
          ∀ o ∈ l, RecordedPurchase w.monitor.walletTracker o := by
  have hclock : ((purchaseEvent 1700006401001).flatMap clockIn).Pairwise (· ≤ ·) := by
    decide +kernel
  have hrun : (purchaseRun ⟨150, 1000, 900, 2⟩ [watchedWallet] (purchaseEvent 1700006401001)).map
      (fun r => (r.2.length, r.1.monitor.walletTracker.observations)) = some (1, []) := by
    decide +kernel
  refine ⟨hclock, hrun, fun hall => ?_⟩
  obtain ⟨⟨w, l⟩, hr, hfacts⟩ := Option.map_eq_some_iff.mp hrun
  obtain ⟨hlength, hnone⟩ := Prod.mk.inj hfacts
  obtain ⟨o, ho⟩ := List.exists_mem_of_length_pos (show 0 < l.length by rw [hlength]; decide)
  have hrecorded := (hall _ _ _ hclock w l hr o ho).recorded
  rw [hnone] at hrecorded
  cases hrecorded

end SolanaBot.Analysis
