import SolanaBot.Analysis.MonitorCalls
import SolanaBot.Analysis.MonitorMoves
import SolanaBot.Analysis.SwapOrder
import SolanaBot.Library.LoggedRuns

/-!
# The ways of a swap

A swap comes to the accumulator of its wallet over the subscription, in a rebuild or in a poll. The three
keep apart what they have handled in two sets, which they do not all look at. In a run in which no event
is processed whose signature the wallet has processed, and no poll takes a signature that came in an
event, each swap is absorbed once (`absorbed_once`).
-/

set_option autoImplicit false

namespace SolanaBot.Analysis

open SolanaBot.Library SolanaBot.Model

/-! ## What is absorbed -/

/-- What the accumulators have absorbed: the swaps in the current accumulator of each wallet, those in
the accumulator that is being rebuilt, and the signatures of the events among the former. -/
structure Absorptions where
  current : String → List TimedSwap
  rebuilding : List TimedSwap
  drained : String → List String

/-- Nothing has been absorbed. -/
def Absorptions.none : Absorptions :=
  { current := fun _ => [], rebuilding := [], drained := fun _ => [] }

/-- The signatures of some swaps. -/
def signaturesOf (swaps : List TimedSwap) : List String := swaps.map fun s => s.1.signature

/-- The swap that a turn of the rebuild absorbs. -/
def rebuiltSwap (wallet : String) (t : SignatureTurn) : Option TimedSwap :=
  if t.sig.err.isSome then none
  else
    match t.answer with
    | .found tx => (parseSwapFromTransaction t.order tx wallet).map fun swap => (swap, t.now)
    | _ => none

/-- What a move adds. A rebuild makes a new accumulator. -/
def noteAbsorbed (w : WatchState) (move : Move) (l : Absorptions) : Absorptions :=
  match move with
  | .processEvent readings _ =>
      match w.phase with
      | .draining _ (event :: _) _ =>
          if w.monitor.solPrice = none then l
          else
            { l with
              current := Function.update l.current event.wallet
                (l.current event.wallet ++ [(event.swap, readings)])
              drained := Function.update l.drained event.wallet
                (l.drained event.wallet ++ [event.swap.signature]) }
      | _ => l
  | .inspect a =>
      match w.phase with
      | .rebuilding wallet _ (sig :: _) _ =>
          { l with rebuilding := l.rebuilding ++ (rebuiltSwap wallet (turnOf sig a)).toList }
      | _ => l
  | .finishRebuild _ _ _ =>
      match w.phase with
      | .rebuilding wallet _ [] _ =>
          { current := Function.update l.current wallet l.rebuilding
            rebuilding := []
            drained := Function.update l.drained wallet [] }
      | _ => l
  | .finishPoll _ _ =>
      match w.phase with
      | .scanning _ _ _ wallet [] _ swaps =>
          { l with current := Function.update l.current wallet (l.current wallet ++ swaps) }
      | _ => l
  | _ => l

/-- The transaction that is found. -/
def foundIn : TransactionAnswer → Option SwapTransaction
  | .found tx => some tx
  | _ => none

/-- The signature that a loop fetches next. -/
def fetchedNext (w : WatchState) : Option String :=
  match w.phase with
  | .rebuilding _ _ (sig :: _) _ => some sig.signature
  | .scanning _ _ _ _ (sig :: _) _ _ => some sig.signature
  | _ => none

/-- The signature that the subscription fetches. -/
def notifiedOf (w : WatchState) : Option String :=
  match w.subscription with
  | .fetching signature => some signature
  | _ => none

/-- What the network promises: a page of signatures and the ones before it name a transaction once, and
the transaction of a signature has that signature. -/
def HonestRpc (w : WatchState) : Move → Prop
  | .sweep _ page => ((w.monitor.rebuildSignatures page).map SignatureEntry.signature).Nodup
  | .inspect a => ∀ tx ∈ foundIn a.answer, ∀ sig ∈ fetchedNext w, tx.signature = some sig
  | .fetched answer => ∀ tx ∈ foundIn answer, ∀ sig ∈ notifiedOf w, tx.signature = some sig
  | _ => True

/-- The event that is processed next. -/
def nextEvent (w : WatchState) : Option WsSwapEvent :=
  match w.phase with
  | .draining _ (event :: _) _ => some event
  | _ => none

/-- The wallet that is polled, and the signature that its poll fetches next. -/
def nextPolled (w : WatchState) : Option (String × String) :=
  match w.phase with
  | .scanning _ _ _ wallet (sig :: _) _ _ => some (wallet, sig.signature)
  | _ => none

/-- No event is processed whose signature its wallet has processed, and no poll takes a signature that
came in an event. -/
def OneWay (w : WatchState) (l : Absorptions) : Move → Prop
  | .processEvent _ _ => ∀ event ∈ nextEvent w, w.monitor.solPrice ≠ none →
      event.swap.signature ∉ w.monitor.processedSigs event.wallet
  | .inspect a => ∀ p ∈ nextPolled w, foundIn a.answer ≠ none →
      p.2 ∉ w.monitor.processedSigs p.1 → p.2 ∉ l.drained p.1
  | _ => True

/-- Whether `HonestRpc` holds can be evaluated. -/
instance (w : WatchState) : ∀ move, Decidable (HonestRpc w move)
  | .sweep _ page =>
      inferInstanceAs (Decidable ((w.monitor.rebuildSignatures page).map _).Nodup)
  | .inspect a =>
      inferInstanceAs (Decidable (∀ tx ∈ foundIn a.answer, ∀ sig ∈ fetchedNext w, tx.signature = some sig))
  | .fetched answer =>
      inferInstanceAs
        (Decidable (∀ tx ∈ foundIn answer, ∀ sig ∈ notifiedOf w, tx.signature = some sig))
  | .setSolPrice _ | .beginTick _ | .receive | .processEvent _ _ | .finishRebuild _ _ _
  | .readPage _ | .finishPoll _ _ | .endTick | .notify _ | .send _ => isTrue trivial

/-- Whether `OneWay` holds can be evaluated. -/
instance (w : WatchState) (l : Absorptions) : ∀ move, Decidable (OneWay w l move)
  | .processEvent _ _ =>
      inferInstanceAs (Decidable (∀ event ∈ nextEvent w, w.monitor.solPrice ≠ none →
        event.swap.signature ∉ w.monitor.processedSigs event.wallet))
  | .inspect a =>
      inferInstanceAs (Decidable (∀ p ∈ nextPolled w, foundIn a.answer ≠ none →
        p.2 ∉ w.monitor.processedSigs p.1 → p.2 ∉ l.drained p.1))
  | .setSolPrice _ | .beginTick _ | .receive | .sweep _ _ | .finishRebuild _ _ _ | .readPage _
  | .finishPoll _ _ | .endTick | .notify _ | .fetched _ | .send _ => isTrue trivial

/-! ## The events on their way -/

/-- The events that have been sent and not been processed. -/
def queuedEvents (w : WatchState) : List WsSwapEvent :=
  (match w.phase with
    | .receiving _ events => events
    | .draining _ events _ => events
    | _ => []) ++ w.channel

/-- Nothing of a transaction has been sent for the wallet. -/
structure Unsent (w : WatchState) (l : Absorptions) (wallet signature : String) : Prop where
  queued : ∀ e ∈ queuedEvents w, e.wallet = wallet → e.swap.signature ≠ signature
  drained : signature ∉ l.drained wallet

/-- The transaction that the subscription handles is seen, and not sent to the wallets that are left. -/
def SubscriptionSound (w : WatchState) (l : Absorptions) : Prop :=
  match w.subscription with
  | .idle => True
  | .fetching s => s ∈ w.seen ∧ ∀ wallet, Unsent w l wallet s
  | .sending tx wallets => ∃ s, tx.signature = some s ∧ s ∈ w.seen ∧ wallets.Nodup ∧
      ∀ wallet ∈ wallets, Unsent w l wallet s

/-- Every event is on its way once, and its signature is seen. -/
structure DeliveredOnce (w : WatchState) (l : Absorptions) : Prop where
  wallets : w.monitor.wallets.Nodup
  once : ((queuedEvents w).map fun e => (e.wallet, e.swap.signature)).Nodup
  seen : ∀ e ∈ queuedEvents w, e.swap.signature ∈ w.seen
  drainedSeen : ∀ wallet, ∀ s ∈ l.drained wallet, s ∈ w.seen
  fresh : ∀ e ∈ queuedEvents w, e.swap.signature ∉ l.drained e.wallet
  subscription : SubscriptionSound w l

section Delivery

variable {w w' : WatchState} {l l' : Absorptions}

/-- A signature stays unsent if nothing more is queued or drained. -/
theorem Unsent.mono {wallet signature : String} (h : Unsent w l wallet signature)
    (hqueued : ∀ e ∈ queuedEvents w', e ∈ queuedEvents w)
    (hdrained : signature ∈ l'.drained wallet → signature ∈ l.drained wallet) :
    Unsent w' l' wallet signature :=
  ⟨fun e he => h.queued e (hqueued e he), fun hs => h.drained (hdrained hs)⟩

/-- A move that sends and drains nothing, and sees at most more. -/
theorem DeliveredOnce.mono (h : DeliveredOnce w l)
    (hwallets : w'.monitor.wallets = w.monitor.wallets) (hqueued : queuedEvents w' = queuedEvents w)
    (hseen : ∀ s ∈ w.seen, s ∈ w'.seen)
    (hdrained : ∀ wallet, ∀ s ∈ l'.drained wallet, s ∈ l.drained wallet)
    (hsubscription : w'.subscription = w.subscription) : DeliveredOnce w' l' where
  wallets := by rw [hwallets]; exact h.wallets
  once := by rw [hqueued]; exact h.once
  seen e he := hseen _ (h.seen e (by rwa [hqueued] at he))
  drainedSeen wallet s hs := hseen s (h.drainedSeen wallet s (hdrained wallet s hs))
  fresh e he hs := h.fresh e (by rwa [hqueued] at he) (hdrained e.wallet _ hs)
  subscription := by
    have hunsent : ∀ wallet s, Unsent w l wallet s → Unsent w' l' wallet s := fun wallet s hs =>
      hs.mono (fun e he => by rwa [hqueued] at he) (hdrained wallet s)
    have hsound := h.subscription
    unfold SubscriptionSound at hsound ⊢
    rw [hsubscription]
    split at hsound
    · trivial
    · exact ⟨hseen _ hsound.1, fun wallet => hunsent wallet _ (hsound.2 wallet)⟩
    · obtain ⟨s, hname, hs, hnodup, hleft⟩ := hsound
      exact ⟨s, hname, hseen s hs, hnodup,
        fun wallet hwallet => hunsent wallet s (hleft wallet hwallet)⟩

/-- An event is processed. -/
theorem DeliveredOnce.drain (h : DeliveredOnce w l) (event : WsSwapEvent)
    (hqueued : queuedEvents w = event :: queuedEvents w')
    (hwallets : w'.monitor.wallets = w.monitor.wallets) (hseen : w'.seen = w.seen)
    (hsubscription : w'.subscription = w.subscription)
    (hdrained : ∀ wallet, ∀ s ∈ l'.drained wallet,
      s ∈ l.drained wallet ∨ wallet = event.wallet ∧ s = event.swap.signature) :
    DeliveredOnce w' l' := by
  have hsub : ∀ e ∈ queuedEvents w', e ∈ queuedEvents w := fun e he => by
    rw [hqueued]
    exact List.mem_cons_of_mem _ he
  have hfirst : event ∈ queuedEvents w := by
    rw [hqueued]
    exact List.mem_cons_self
  have honce := h.once
  rw [hqueued, List.map_cons, List.nodup_cons] at honce
  have hunsent : ∀ wallet s, Unsent w l wallet s → Unsent w' l' wallet s := by
    intro wallet s hs
    refine ⟨fun e he => hs.queued e (hsub e he), fun hmem => ?_⟩
    rcases hdrained wallet s hmem with hold | ⟨rfl, rfl⟩
    · exact hs.drained hold
    · exact hs.queued event hfirst rfl rfl
  refine ⟨by rw [hwallets]; exact h.wallets, honce.2, fun e he => ?_, fun wallet s hs => ?_,
    fun e he hs => ?_, ?_⟩
  · rw [hseen]
    exact h.seen e (hsub e he)
  · rw [hseen]
    rcases hdrained wallet s hs with hold | ⟨-, rfl⟩
    · exact h.drainedSeen wallet s hold
    · exact h.seen event hfirst
  · rcases hdrained e.wallet _ hs with hold | ⟨hwallet, hsignature⟩
    · exact h.fresh e (hsub e he) hold
    · exact honce.1 (List.mem_map.mpr ⟨e, he, Prod.ext hwallet hsignature⟩)
  · have hsound := h.subscription
    unfold SubscriptionSound at hsound ⊢
    rw [hsubscription, hseen]
    split at hsound
    · trivial
    · exact ⟨hsound.1, fun wallet => hunsent wallet _ (hsound.2 wallet)⟩
    · obtain ⟨s, hname, hs, hnodup, hleft⟩ := hsound
      exact ⟨s, hname, hs, hnodup, fun wallet hwallet => hunsent wallet s (hleft wallet hwallet)⟩

/-- A new signature is seen, and its transaction will be fetched. -/
theorem delivered_notify (h : DeliveredOnce w l) {signature : String}
    (hmove : w.notify signature = some w') : DeliveredOnce w' l := by
  obtain ⟨-, rfl | ⟨hnew, rfl⟩⟩ := notify_cases hmove
  · exact h
  · have hseen : ∀ s ∈ w.seen, s ∈ w.seen.insert signature := fun s hs =>
      List.mem_insert_iff.mpr (.inr hs)
    refine ⟨h.wallets, h.once, fun e he => hseen _ (h.seen e he),
      fun wallet s hs => hseen s (h.drainedSeen wallet s hs), h.fresh,
      List.mem_insert_iff.mpr (.inl rfl), fun wallet => ?_⟩
    exact ⟨fun e he _ heq => hnew (heq ▸ h.seen e he), fun hs => hnew (h.drainedSeen wallet _ hs)⟩

/-- The transaction is found, or its signature is forgotten. -/
theorem delivered_fetched (h : DeliveredOnce w l) {answer : TransactionAnswer}
    (hhonest : HonestRpc w (.fetched answer)) (hmove : w.fetched answer = some w') :
    DeliveredOnce w' l := by
  obtain ⟨signature, hphase, ⟨tx, hfound, rfl⟩ | rfl⟩ := fetched_cases hmove
  all_goals
    have hsound := h.subscription
    unfold SubscriptionSound at hsound
    rw [hphase] at hsound
  · exact ⟨h.wallets, h.once, h.seen, h.drainedSeen, h.fresh,
      signature, hhonest tx (by rw [hfound]; rfl) signature (by unfold notifiedOf; rw [hphase]; rfl),
      hsound.1, h.wallets,
      fun wallet _ => (hsound.2 wallet).mono (fun _ he => he) id⟩
  · refine ⟨h.wallets, h.once, fun e he => ?_, fun wallet s hs => ?_, h.fresh, trivial⟩
    · exact List.mem_filter.mpr ⟨h.seen e he,
        decide_eq_true ((hsound.2 e.wallet).queued e he rfl)⟩
    · exact List.mem_filter.mpr ⟨h.drainedSeen wallet s hs,
        decide_eq_true fun heq => (hsound.2 wallet).drained (heq ▸ hs)⟩

/-- The signature of a swap is the one of its transaction. -/
theorem parseSwap_signature {order : KeyOrder} {tx : SwapTransaction} {wallet : String}
    {swap : ParsedSwap} (h : parseSwapFromTransaction order tx wallet = some swap) {s : String}
    (hs : tx.signature = some s) : swap.signature = s := by
  unfold parseSwapFromTransaction at h
  obtain ⟨f, hf, hswap⟩ := Option.bind_eq_some_iff.mp h
  have hparts : ∃ direction input output, swap = f.swap wallet direction input output := by
    rcases Option.or_eq_some_iff.mp hswap with h | ⟨-, h⟩
    · rcases Option.or_eq_some_iff.mp h with h | ⟨-, h⟩
      · unfold SwapFacts.buySwap at h
        split at h
        · obtain ⟨token, -, rfl⟩ := Option.map_eq_some_iff.mp h
          exact ⟨_, _, _, rfl⟩
        · cases h
      · unfold SwapFacts.sellSwap at h
        split at h
        · obtain ⟨token, -, rfl⟩ := Option.map_eq_some_iff.mp h
          exact ⟨_, _, _, rfl⟩
        · cases h
    · unfold SwapFacts.tokenSwap at h
      split at h
      · split at h
        · cases h
          exact ⟨_, _, _, rfl⟩
        · cases h
      · cases h
  obtain ⟨direction, input, output, rfl⟩ := hparts
  exact (swapFacts_origin hf).1.trans (by rw [hs]; rfl)

/-- An event is sent to one of the wallets that are left, or a wallet is passed over. -/
theorem delivered_send (h : DeliveredOnce w l) {order : KeyOrder}
    (hmove : w.send order = some w') : DeliveredOnce w' l := by
  obtain ⟨tx, wallets, hphase, rfl | ⟨wallet, rest, rfl, rfl | ⟨swap, hswap, rfl⟩⟩⟩ :=
    send_cases hmove
  all_goals
    have hsound := h.subscription
    unfold SubscriptionSound at hsound
    rw [hphase] at hsound
    obtain ⟨s, hname, hs, hnodup, hleft⟩ := hsound
  · exact ⟨h.wallets, h.once, h.seen, h.drainedSeen, h.fresh, trivial⟩
  · exact ⟨h.wallets, h.once, h.seen, h.drainedSeen, h.fresh, s, hname, hs,
      (List.nodup_cons.mp hnodup).2, fun wallet' hmem =>
        (hleft wallet' (List.mem_cons_of_mem _ hmem)).mono (fun _ he => he) id⟩
  · have hsignature := parseSwap_signature hswap hname
    have hqueued : queuedEvents { w with
        channel := w.channel ++ [⟨wallet, swap⟩], subscription := .sending tx rest } =
        queuedEvents w ++ [⟨wallet, swap⟩] := (List.append_assoc _ _ _).symm
    have hunsent := hleft wallet List.mem_cons_self
    refine ⟨h.wallets, ?_, fun e he => ?_, h.drainedSeen, fun e he => ?_, s, hname, hs,
      (List.nodup_cons.mp hnodup).2, fun wallet' hmem => ?_⟩
    · rw [hqueued, List.map_append, List.map_singleton]
      refine List.nodup_append.mpr ⟨h.once, List.nodup_singleton _, ?_⟩
      intro p hp q hq heq
      obtain ⟨e, he, rfl⟩ := List.mem_map.mp hp
      rw [List.mem_singleton.mp hq] at heq
      exact hunsent.queued e he (Prod.mk.inj heq).1 ((Prod.mk.inj heq).2.trans hsignature)
    · rw [hqueued, List.mem_append, List.mem_singleton] at he
      rcases he with hold | rfl
      · exact h.seen e hold
      · rw [hsignature]
        exact hs
    · rw [hqueued, List.mem_append, List.mem_singleton] at he
      rcases he with hold | rfl
      · exact h.fresh e hold
      · rw [hsignature]
        exact hunsent.drained
    · have hother := hleft wallet' (List.mem_cons_of_mem _ hmem)
      refine ⟨fun e he => ?_, hother.drained⟩
      rw [hqueued, List.mem_append, List.mem_singleton] at he
      rcases he with hold | rfl
      · exact hother.queued e hold
      · intro heq
        change wallet = wallet' at heq
        rw [← heq] at hmem
        exact absurd hmem (List.nodup_cons.mp hnodup).1

/-- What a turn of a poll can do: nothing, or take the signature. -/
theorem pollTurn_cases {wallet : String} {s s' : PollState} {t : SignatureTurn}
    (h : pollTurn wallet s t = some s') :
    s' = s ∨ ∃ tx, t.answer = .found tx ∧ t.sig.signature ∉ s.processed ∧
      s'.processed = s.processed.insert t.sig.signature ∧
      s'.seen = s.seen.insert t.sig.signature ∧
      (s'.swaps = s.swaps ∨ ∃ swap, parseSwapFromTransaction t.order tx wallet = some swap ∧
        s'.swaps = s.swaps ++ [(swap, t.now)]) := by
  unfold pollTurn at h
  split at h
  · cases h
    exact .inl rfl
  split at h
  · cases h
    exact .inl rfl
  rename_i hnew
  split at h
  · cases h
    exact .inl rfl
  split at h
  · cases h
    exact .inl rfl
  · cases h
    exact .inl rfl
  · rename_i tx hfound
    split at h
    · cases h
      refine .inr ⟨tx, hfound, hnew, rfl, rfl, ?_⟩
      dsimp only
      cases hswap : parseSwapFromTransaction t.order tx wallet with
      | none => exact .inl rfl
      | some swap => exact .inr ⟨swap, rfl, rfl⟩
    · cases h

/-- Processing an event does not change the wallets. -/
theorem processWsSwapEvent_wallets (m : WalletMonitor) (event : WsSwapEvent)
    (candidates : List String) (now : Time) (readings : ClockReadings) (collected : Bool) :
    (m.processWsSwapEvent event candidates now readings collected).1.wallets = m.wallets := by
  cases hprice : m.solPrice with
  | none => rw [processWsSwapEvent_none m now event candidates readings collected hprice]
  | some price => exact (processWsSwapEvent_same m now event candidates readings collected hprice).wallets

/-- Processing an event delivers it once. -/
theorem delivered_processEvent (h : DeliveredOnce w l) {readings : ClockReadings} {collected : Bool}
    (hmove : w.processEvent readings collected = some w') :
    DeliveredOnce w' (noteAbsorbed w (.processEvent readings collected) l) := by
  obtain ⟨now, event, events, candidates, hphase, rfl⟩ := processEvent_cases hmove
  refine h.drain event ?_ (processWsSwapEvent_wallets _ _ _ _ _ _) rfl rfl ?_
  · unfold queuedEvents
    rw [hphase]
    rfl
  · intro wallet s hs
    unfold noteAbsorbed at hs
    rw [hphase] at hs
    dsimp only at hs
    split at hs
    · exact .inl hs
    · dsimp only at hs
      by_cases hwallet : wallet = event.wallet
      · rw [hwallet, Function.update_self, List.mem_append, List.mem_singleton] at hs
        rw [hwallet]
        exact hs.imp_right fun heq => ⟨rfl, heq⟩
      · rw [Function.update_of_ne hwallet] at hs
        exact .inl hs

/-- A turn of a loop over signatures sends nothing; a poll marks what it has fetched as seen. -/
theorem delivered_inspect (h : DeliveredOnce w l) {a : FetchAnswer}
    (hmove : w.inspect a = some w') : DeliveredOnce w' (noteAbsorbed w (.inspect a) l) := by
  rcases inspect_cases hmove with ⟨wallet, nowForWindow, sig, left, s, hphase, rfl⟩ |
    ⟨now, wallets, candidates, wallet, sig, left, txCount, swaps, hphase, rfl | ⟨s, hturn, rfl⟩⟩
  · refine h.mono rfl ?_ (fun _ => id) ?_ rfl
    · unfold queuedEvents
      rw [hphase]
    · unfold noteAbsorbed
      rw [hphase]
      exact fun _ _ => id
  all_goals
    unfold noteAbsorbed
    rw [hphase]
    refine h.mono rfl ?_ ?_ (fun _ _ => id) rfl
    · unfold queuedEvents
      rw [hphase]
  · exact fun _ => id
  · rcases pollTurn_cases hturn with rfl | ⟨-, -, -, -, hseen, -⟩
    · exact fun _ => id
    · intro x hx
      dsimp only
      rw [hseen]
      exact List.mem_insert_iff.mpr (.inr hx)

/-- The drained signatures of a rebuilt wallet are forgotten. -/
theorem delivered_finishRebuild (h : DeliveredOnce w l) {now : Time} {order : KeyOrder}
    {collected : String → Bool} (hmove : w.finishRebuild now order collected = some w') :
    DeliveredOnce w' (noteAbsorbed w (.finishRebuild now order collected) l) := by
  obtain ⟨wallet, nowForWindow, s, hphase, rfl⟩ := finishRebuild_cases hmove
  unfold noteAbsorbed
  rw [hphase]
  refine h.mono (finishRebuild_same w.monitor wallet now order collected s).wallets ?_
    (fun _ => id) ?_ rfl
  · unfold queuedEvents
    rw [hphase]
  · intro wallet' x hx
    dsimp only at hx
    by_cases hwallet : wallet' = wallet
    · rw [hwallet, Function.update_self] at hx
      cases hx
    · rwa [Function.update_of_ne hwallet] at hx

/-- Every move keeps the events on their way apart. -/
theorem delivered_step (h : DeliveredOnce w l) {move : Move} (hhonest : HonestRpc w move)
    (hmove : w.step move = some w') : DeliveredOnce w' (noteAbsorbed w move l) := by
  cases move with
  | setSolPrice price =>
      obtain ⟨-, rfl⟩ := setSolPrice_cases hmove
      exact h.mono rfl rfl (fun _ => id) (fun _ _ => id) rfl
  | beginTick now =>
      obtain ⟨hphase, rfl | rfl | rfl⟩ := beginTick_cases hmove
      · exact h
      · exact h.mono rfl rfl (fun _ => id) (fun _ _ => id) rfl
      · refine h.mono rfl ?_ (fun _ => id) (fun _ _ => id) rfl
        unfold queuedEvents
        rw [hphase]
  | receive =>
      obtain ⟨now, events, hphase, ⟨event, channel, hchannel, rfl⟩ | ⟨hchannel, rfl⟩⟩ :=
        receive_cases hmove
      · refine h.mono rfl ?_ (fun _ => id) (fun _ _ => id) rfl
        unfold queuedEvents
        rw [hphase, hchannel]
        exact List.append_assoc _ _ _
      · refine h.mono rfl ?_ (fun _ => id) (fun _ _ => id) rfl
        unfold queuedEvents
        rw [hphase]
  | processEvent readings collected => exact delivered_processEvent h hmove
  | sweep nowForWindow page =>
      obtain ⟨now, candidates, hphase, ⟨done, idx, rfl⟩ | ⟨wallet, rfl⟩ | rfl⟩ := sweep_cases hmove
      all_goals
        refine h.mono rfl ?_ (fun _ => id) (fun _ _ => id) rfl
        unfold queuedEvents
        rw [hphase]
  | inspect a => exact delivered_inspect h hmove
  | finishRebuild now order collected => exact delivered_finishRebuild h hmove
  | readPage page =>
      obtain ⟨now, wallet, wallets, candidates, hphase, rfl | ⟨sigs, rfl⟩⟩ := readPage_cases hmove
      all_goals
        refine h.mono rfl ?_ (fun _ => id) (fun _ _ => id) rfl
        unfold queuedEvents
        rw [hphase]
  | finishPoll order collected =>
      obtain ⟨now, wallets, candidates, wallet, txCount, swaps, hphase, rfl⟩ := finishPoll_cases hmove
      unfold noteAbsorbed
      rw [hphase]
      refine h.mono (finishPoll_same w.monitor wallet now order collected swaps candidates).wallets
        ?_ (fun _ => id) (fun _ _ => id) rfl
      unfold queuedEvents
      rw [hphase]
  | endTick =>
      obtain ⟨⟨now, candidates, hphase⟩, rfl⟩ := endTick_cases hmove
      refine h.mono rfl ?_ (fun _ => id) (fun _ _ => id) rfl
      unfold queuedEvents
      rw [hphase]
  | notify signature => exact delivered_notify h hmove
  | fetched answer => exact delivered_fetched h hhonest hmove
  | send order => exact delivered_send h hmove

end Delivery

/-! ## The swaps in the accumulators -/

/-- The rebuild has absorbed swaps of processed signatures, and the others are still to come. -/
structure RebuildSound (l : Absorptions) (left : List SignatureEntry) (s : RebuildState) : Prop where
  faithful : s.absorption.accumulator = swapFeed l.rebuilding
  once : (signaturesOf l.rebuilding).Nodup
  known : ∀ x ∈ signaturesOf l.rebuilding, x ∈ s.processed
  distinct : (left.map SignatureEntry.signature).Nodup
  new : ∀ sig ∈ left, sig.signature ∉ s.processed

/-- The swaps that a poll has found are not in the accumulator. -/
structure PollSound (m : WalletMonitor) (l : Absorptions) (wallet : String) (swaps : List TimedSwap) :
    Prop where
  once : (signaturesOf swaps).Nodup
  known : ∀ x ∈ signaturesOf swaps, x ∈ m.processedSigs wallet
  new : ∀ x ∈ signaturesOf swaps, x ∉ signaturesOf (l.current wallet)

/-- What a phase has read is absorbed once so far. -/
def PhaseSound (m : WalletMonitor) (l : Absorptions) : MonitorPhase → Prop
  | .rebuilding _ _ left s => RebuildSound l left s
  | .scanning _ _ _ wallet _ _ swaps => l.rebuilding = [] ∧ PollSound m l wallet swaps
  | _ => l.rebuilding = []

/-- The accumulators are those of the absorbed swaps, each of which came once: its signature is
processed, or it came in an event. -/
structure AbsorbedOnce (w : WatchState) (l : Absorptions) : Prop where
  faithful : ∀ wallet, w.monitor.accumulators wallet = swapFeed (l.current wallet)
  once : ∀ wallet, (signaturesOf (l.current wallet)).Nodup
  known : ∀ wallet, ∀ x ∈ signaturesOf (l.current wallet),
    x ∈ w.monitor.processedSigs wallet ∨ x ∈ l.drained wallet
  phase : PhaseSound w.monitor l w.phase

/-- Feeding two lists of swaps feeds one after the other. -/
theorem swapFeed_append (swaps swaps' : List TimedSwap) :
    swapFeed (swaps ++ swaps') = swaps'.foldl swapTurn (swapFeed swaps) := List.foldl_append

/-- The signatures of two lists of swaps. -/
theorem signaturesOf_append (swaps swaps' : List TimedSwap) :
    signaturesOf (swaps ++ swaps') = signaturesOf swaps ++ signaturesOf swaps' := List.map_append

/-- New elements behind a list without repetition. -/
theorem nodup_append_of_new {xs ys : List String} (hxs : xs.Nodup) (hys : ys.Nodup)
    (hnew : ∀ y ∈ ys, y ∉ xs) : (xs ++ ys).Nodup :=
  List.nodup_append.mpr ⟨hxs, hys, fun _ hx y hy heq => hnew y hy (heq ▸ hx)⟩

section Absorbed

variable {w w' : WatchState} {l : Absorptions}

/-- A move that absorbs nothing and leaves no loop. -/
theorem AbsorbedOnce.mono (h : AbsorbedOnce w l)
    (haccumulators : w'.monitor.accumulators = w.monitor.accumulators)
    (hprocessed : w'.monitor.processedSigs = w.monitor.processedSigs)
    (hphase : PhaseSound w'.monitor l w'.phase) : AbsorbedOnce w' l where
  faithful := by rw [haccumulators]; exact h.faithful
  once := h.once
  known := by rw [hprocessed]; exact h.known
  phase := hphase

/-- Swaps that are new in the accumulator of a wallet are absorbed. -/
theorem absorbed_append (h : AbsorbedOnce w l) (wallet : String) (swaps : List TimedSwap)
    {l' : Absorptions}
    (hcurrent : l'.current = Function.update l.current wallet (l.current wallet ++ swaps))
    (hdrained : ∀ wallet', ∀ x ∈ l.drained wallet', x ∈ l'.drained wallet')
    (haccumulators : w'.monitor.accumulators = Function.update w.monitor.accumulators wallet
      (swaps.foldl swapTurn (w.monitor.accumulators wallet)))
    (hprocessed : w'.monitor.processedSigs = w.monitor.processedSigs)
    (honce : (signaturesOf swaps).Nodup)
    (hnew : ∀ x ∈ signaturesOf swaps, x ∉ signaturesOf (l.current wallet))
    (hknown : ∀ x ∈ signaturesOf swaps,
      x ∈ w.monitor.processedSigs wallet ∨ x ∈ l'.drained wallet)
    (hphase : PhaseSound w'.monitor l' w'.phase) : AbsorbedOnce w' l' where
  faithful wallet' := by
    rw [hcurrent, haccumulators]
    by_cases hsame : wallet' = wallet
    · rw [hsame, Function.update_self, Function.update_self, swapFeed_append, h.faithful]
    · rw [Function.update_of_ne hsame, Function.update_of_ne hsame]
      exact h.faithful wallet'
  once wallet' := by
    rw [hcurrent]
    by_cases hsame : wallet' = wallet
    · rw [hsame, Function.update_self, signaturesOf_append]
      exact nodup_append_of_new (h.once wallet) honce hnew
    · rw [Function.update_of_ne hsame]
      exact h.once wallet'
  known wallet' x hx := by
    rw [hcurrent] at hx
    rw [hprocessed]
    by_cases hsame : wallet' = wallet
    · rw [hsame, Function.update_self, signaturesOf_append, List.mem_append] at hx
      rw [hsame]
      rcases hx with hold | hadded
      · exact (h.known wallet x hold).imp_right (hdrained wallet x)
      · exact hknown x hadded
    · rw [Function.update_of_ne hsame] at hx
      exact (h.known wallet' x hx).imp_right (hdrained wallet' x)
  phase := hphase

/-- A signature that no event brought, and that the wallet has not processed, is new. -/
theorem not_mem_current (h : AbsorbedOnce w l) {wallet x : String}
    (hprocessed : x ∉ w.monitor.processedSigs wallet) (hdrained : x ∉ l.drained wallet) :
    x ∉ signaturesOf (l.current wallet) := fun hx =>
  (h.known wallet x hx).elim hprocessed hdrained

/-- Processing an event absorbs its swap once. -/
theorem absorbed_processEvent (h : AbsorbedOnce w l) (hdelivered : DeliveredOnce w l)
    {readings : ClockReadings} {collected : Bool} (honeway : OneWay w l (.processEvent readings collected))
    (hmove : w.processEvent readings collected = some w') :
    AbsorbedOnce w' (noteAbsorbed w (.processEvent readings collected) l) := by
  obtain ⟨now, event, events, candidates, hphase, rfl⟩ := processEvent_cases hmove
  have hloop := h.phase
  rw [hphase] at hloop
  unfold noteAbsorbed
  rw [hphase]
  dsimp only
  cases hprice : w.monitor.solPrice with
  | none =>
      rw [if_pos rfl]
      have hkept := processWsSwapEvent_none w.monitor now event candidates readings collected hprice
      rw [hkept]
      exact h.mono rfl rfl hloop
  | some price =>
      rw [if_neg (Option.some_ne_none price)]
      have hsame := processWsSwapEvent_same w.monitor now event candidates readings collected hprice
      have hprocessed := honeway event (by unfold nextEvent; rw [hphase]; rfl)
        (by rw [hprice]; exact nofun)
      have hfresh := hdelivered.fresh event (by
        unfold queuedEvents
        rw [hphase]
        exact List.mem_cons_self)
      refine absorbed_append h event.wallet [(event.swap, readings)] rfl
        (fun wallet' x hx => ?_) ?_ hsame.processedSigs (List.nodup_singleton _) (fun x hx => ?_)
        (fun x hx => ?_) hloop
      · dsimp only
        by_cases hwallet : wallet' = event.wallet
        · rw [hwallet, Function.update_self]
          exact List.mem_append_left _ (hwallet ▸ hx)
        · rwa [Function.update_of_ne hwallet]
      · exact hsame.accumulators
      · rw [List.mem_singleton.mp hx]
        exact not_mem_current h hprocessed hfresh
      · dsimp only
        rw [List.mem_singleton.mp hx, Function.update_self]
        exact .inr (List.mem_append_right _ List.mem_cons_self)

/-- A turn of the rebuild absorbs the swap of a signature that was not processed before. -/
theorem rebuildSound_turn {left : List SignatureEntry} {s : RebuildState} {sig : SignatureEntry}
    (config : MonitorConfig) (wallet : String) (nowForWindow : Time) {t : SignatureTurn}
    (ht : t.sig = sig) (h : RebuildSound l (sig :: left) s)
    (hhonest : ∀ tx, t.answer = .found tx → tx.signature = some sig.signature) :
    RebuildSound { l with rebuilding := l.rebuilding ++ (rebuiltSwap wallet t).toList } left
      (rebuildTurn config wallet nowForWindow s t) := by
  obtain ⟨hhead, hdistinct⟩ := List.nodup_cons.mp h.distinct
  have hnew : ∀ sig' ∈ left, sig'.signature ∉ s.processed := fun sig' hmem =>
    h.new sig' (List.mem_cons_of_mem _ hmem)
  have hskip : RebuildSound { l with rebuilding := l.rebuilding ++ [] } left s := by
    rw [List.append_nil]
    exact ⟨h.faithful, h.once, h.known, hdistinct, hnew⟩
  unfold rebuildTurn rebuiltSwap
  by_cases hfailed : t.sig.err.isSome
  · rw [if_pos hfailed, if_pos hfailed]
    exact hskip
  rw [if_neg hfailed, if_neg hfailed]
  cases hanswer : t.answer with
  | missing => exact hskip
  | failed => exact hskip
  | found tx =>
      have hnew' : ∀ sig' ∈ left, sig'.signature ∉ s.processed.insert t.sig.signature := by
        intro sig' hmem hin
        rcases List.mem_insert_iff.mp hin with heq | hold
        · exact hhead (List.mem_map.mpr ⟨sig', hmem, by rw [heq, ht]⟩)
        · exact hnew sig' hmem hold
      have hmono : ∀ x ∈ s.processed, x ∈ s.processed.insert t.sig.signature := fun x hx =>
        List.mem_insert_iff.mpr (.inr hx)
      dsimp only
      cases hswap : parseSwapFromTransaction t.order tx wallet with
      | none =>
          rw [Option.map_none, Option.toList_none, List.append_nil]
          exact ⟨h.faithful, h.once, fun x hx => hmono x (h.known x hx), hdistinct, hnew'⟩
      | some swap =>
          have hsignature : swap.signature = t.sig.signature := by
            rw [parseSwap_signature hswap (hhonest tx hanswer), ht]
          rw [Option.map_some, Option.toList_some]
          refine ⟨?_, ?_, fun x hx => ?_, hdistinct, hnew'⟩
          · rw [swapFeed_append, ← h.faithful]
            rfl
          · rw [signaturesOf_append]
            refine nodup_append_of_new h.once (List.nodup_singleton _) fun y hy hin => ?_
            rw [List.mem_singleton.mp hy] at hin
            refine h.new sig List.mem_cons_self ?_
            rw [← ht, ← hsignature]
            exact h.known _ hin
          · rw [signaturesOf_append, List.mem_append] at hx
            rcases hx with hold | hadded
            · exact hmono x (h.known x hold)
            · rw [List.mem_singleton.mp hadded]
              exact List.mem_insert_iff.mpr (.inl hsignature)

/-- A turn of a poll forgets no processed signature. -/
theorem mem_processed_of_pollTurn {wallet : String} {s s' : PollState} {t : SignatureTurn}
    (hturn : pollTurn wallet s t = some s') {x : String} (hx : x ∈ s.processed) :
    x ∈ s'.processed := by
  rcases pollTurn_cases hturn with rfl | ⟨-, -, -, hprocessed, -, -⟩
  · exact hx
  · rw [hprocessed]
    exact List.mem_insert_iff.mpr (.inr hx)

/-- A turn of a poll finds the swap of a signature that is new in the accumulator. -/
theorem pollSound_turn {m : WalletMonitor} {wallet : String} {s s' : PollState} {t : SignatureTurn}
    (h : PollSound m l wallet s.swaps) (hstart : s.processed = m.processedSigs wallet)
    (hturn : pollTurn wallet s t = some s')
    (hhonest : ∀ tx, t.answer = .found tx → tx.signature = some t.sig.signature)
    (hnew : (∃ tx, t.answer = .found tx) → t.sig.signature ∉ s.processed →
      t.sig.signature ∉ signaturesOf (l.current wallet)) :
    PollSound { m with processedSigs := Function.update m.processedSigs wallet s'.processed } l
      wallet s'.swaps := by
  have hkept : ∀ x ∈ signaturesOf s.swaps,
      x ∈ Function.update m.processedSigs wallet s'.processed wallet := by
    intro x hx
    rw [Function.update_self]
    exact mem_processed_of_pollTurn hturn (hstart ▸ h.known x hx)
  rcases pollTurn_cases hturn with rfl | ⟨tx, hfound, hfresh, hprocessed, -, hnone | ⟨swap, hparse, hadded⟩⟩
  · exact ⟨h.once, hkept, h.new⟩
  · rw [hnone]
    exact ⟨h.once, hkept, h.new⟩
  · have hsignature : swap.signature = t.sig.signature :=
      parseSwap_signature hparse (hhonest tx hfound)
    rw [hadded]
    refine ⟨?_, fun x hx => ?_, fun x hx => ?_⟩
    · rw [signaturesOf_append]
      refine nodup_append_of_new h.once (List.nodup_singleton _) fun y hy hin => hfresh ?_
      rw [List.mem_singleton.mp hy] at hin
      have hold : swap.signature ∈ m.processedSigs wallet := h.known _ hin
      rwa [hsignature, ← hstart] at hold
    · rw [signaturesOf_append, List.mem_append] at hx
      rcases hx with hold | hone
      · exact hkept x hold
      · rw [List.mem_singleton.mp hone]
        dsimp only
        rw [Function.update_self, hprocessed]
        exact List.mem_insert_iff.mpr (.inl hsignature)
    · rw [signaturesOf_append, List.mem_append] at hx
      rcases hx with hold | hone
      · exact h.new x hold
      · rw [List.mem_singleton.mp hone]
        dsimp only
        rw [hsignature]
        exact hnew ⟨tx, hfound⟩ hfresh

/-- Inspecting a signature absorbs its swap once. -/
theorem absorbed_inspect (h : AbsorbedOnce w l) {a : FetchAnswer} (hhonest : HonestRpc w (.inspect a))
    (honeway : OneWay w l (.inspect a)) (hmove : w.inspect a = some w') :
    AbsorbedOnce w' (noteAbsorbed w (.inspect a) l) := by
  have hloop := h.phase
  rcases inspect_cases hmove with ⟨wallet, nowForWindow, sig, left, s, hphase, rfl⟩ |
    ⟨now, wallets, candidates, wallet, sig, left, txCount, swaps, hphase, hstopped | ⟨s, hturn, rfl⟩⟩
  · rw [hphase] at hloop
    unfold noteAbsorbed
    rw [hphase]
    have hasked : fetchedNext w = some sig.signature := by
      unfold fetchedNext
      rw [hphase]
    exact ⟨h.faithful, h.once, h.known, rebuildSound_turn w.monitor.config wallet nowForWindow rfl
      hloop fun tx hfound => hhonest tx (by rw [show a.answer = _ from hfound]; rfl) _ hasked⟩
  · rw [hphase] at hloop
    unfold noteAbsorbed
    rw [hphase, hstopped]
    exact ⟨h.faithful, h.once, h.known, hloop.1⟩
  · rw [hphase] at hloop
    obtain ⟨hrebuilding, hpoll⟩ := hloop
    have hasked : fetchedNext w = some sig.signature := by
      unfold fetchedNext
      rw [hphase]
    unfold noteAbsorbed
    rw [hphase]
    dsimp only
    refine ⟨h.faithful, h.once, fun wallet' x hx => (h.known wallet' x hx).imp_left fun hold => ?_,
      hrebuilding, pollSound_turn hpoll rfl hturn
        (fun tx hfound => hhonest tx (by rw [show a.answer = _ from hfound]; rfl) _ hasked) ?_⟩
    · dsimp only
      by_cases hsame : wallet' = wallet
      · rw [hsame] at hold ⊢
        rw [Function.update_self]
        exact mem_processed_of_pollTurn hturn hold
      · rwa [Function.update_of_ne hsame]
    · -- only a fetched transaction is absorbed, and no event has brought its signature
      rintro ⟨tx, hfound⟩ hfresh
      refine not_mem_current h hfresh (honeway (wallet, sig.signature)
        (by unfold nextPolled; rw [hphase]; rfl) ?_ hfresh)
      rw [show a.answer = _ from hfound]
      exact nofun

/-- The rebuilt accumulator takes the place of the current one. -/
theorem absorbed_finishRebuild (h : AbsorbedOnce w l) {now : Time} {order : KeyOrder}
    {collected : String → Bool} (hmove : w.finishRebuild now order collected = some w') :
    AbsorbedOnce w' (noteAbsorbed w (.finishRebuild now order collected) l) := by
  obtain ⟨wallet, nowForWindow, s, hphase, rfl⟩ := finishRebuild_cases hmove
  have hrebuild : RebuildSound l [] s := by
    have hloop := h.phase
    rwa [hphase] at hloop
  have hsame := finishRebuild_same w.monitor wallet now order collected s
  have haccumulators : (w.monitor.finishRebuild wallet s now order collected).accumulators =
      Function.update w.monitor.accumulators wallet s.absorption.accumulator := hsame.accumulators
  have hprocessed : (w.monitor.finishRebuild wallet s now order collected).processedSigs =
      Function.update w.monitor.processedSigs wallet s.processed := hsame.processedSigs
  unfold noteAbsorbed
  rw [hphase]
  dsimp only
  refine ⟨fun wallet' => ?_, fun wallet' => ?_, fun wallet' x hx => ?_, rfl⟩
  · dsimp only
    rw [haccumulators]
    by_cases hwallet : wallet' = wallet
    · rw [hwallet, Function.update_self, Function.update_self]
      exact hrebuild.faithful
    · rw [Function.update_of_ne hwallet, Function.update_of_ne hwallet]
      exact h.faithful wallet'
  · dsimp only
    by_cases hwallet : wallet' = wallet
    · rw [hwallet, Function.update_self]
      exact hrebuild.once
    · rw [Function.update_of_ne hwallet]
      exact h.once wallet'
  · dsimp only at hx ⊢
    rw [hprocessed]
    by_cases hwallet : wallet' = wallet
    · rw [hwallet, Function.update_self] at hx
      rw [hwallet, Function.update_self]
      exact .inl (hrebuild.known x hx)
    · rw [Function.update_of_ne hwallet] at hx
      rw [Function.update_of_ne hwallet, Function.update_of_ne hwallet]
      exact h.known wallet' x hx

/-- Finishing a poll absorbs its swaps once. -/
theorem absorbed_finishPoll (h : AbsorbedOnce w l) {order : KeyOrder} {collected : String → Bool}
    (hmove : w.finishPoll order collected = some w') :
    AbsorbedOnce w' (noteAbsorbed w (.finishPoll order collected) l) := by
  obtain ⟨now, wallets, candidates, wallet, txCount, swaps, hphase, rfl⟩ := finishPoll_cases hmove
  have hloop := h.phase
  rw [hphase] at hloop
  obtain ⟨hrebuilding, hpoll⟩ := hloop
  have hsame := finishPoll_same w.monitor wallet now order collected swaps candidates
  unfold noteAbsorbed
  rw [hphase]
  refine absorbed_append h wallet swaps rfl (fun _ _ => id) ?_
    hsame.processedSigs hpoll.once hpoll.new (fun x hx => .inl (hpoll.known x hx)) hrebuilding
  dsimp only
  rw [hsame.accumulators]
  unfold polledAbsorption
  rw [accumulator_absorb]

/-- Every move absorbs swaps that are new. -/
theorem absorbed_step (h : AbsorbedOnce w l) (hdelivered : DeliveredOnce w l) {move : Move}
    (hhonest : HonestRpc w move) (honeway : OneWay w l move) (hmove : w.step move = some w') :
    AbsorbedOnce w' (noteAbsorbed w move l) := by
  have hloop := h.phase
  cases move with
  | setSolPrice price =>
      obtain ⟨hphase, rfl⟩ := setSolPrice_cases hmove
      rw [hphase] at hloop
      exact h.mono rfl rfl (by rw [hphase]; exact hloop)
  | beginTick now =>
      obtain ⟨hphase, rfl | rfl | rfl⟩ := beginTick_cases hmove
      · exact h
      · rw [hphase] at hloop
        exact h.mono rfl rfl (by rw [hphase]; exact hloop)
      · rw [hphase] at hloop
        exact h.mono rfl rfl hloop
  | receive =>
      obtain ⟨now, events, hphase, ⟨event, channel, -, rfl⟩ | ⟨-, rfl⟩⟩ := receive_cases hmove
      all_goals
        rw [hphase] at hloop
        exact h.mono rfl rfl hloop
  | processEvent readings collected => exact absorbed_processEvent h hdelivered honeway hmove
  | sweep nowForWindow page =>
      obtain ⟨now, candidates, hphase, ⟨done, idx, rfl⟩ | ⟨wallet, rfl⟩ | rfl⟩ := sweep_cases hmove
      all_goals rw [hphase] at hloop
      · exact h.mono rfl rfl hloop
      · have hempty : l.rebuilding = [] := hloop
        refine h.mono rfl rfl ⟨?_, ?_, fun x hx => ?_, hhonest, fun _ _ => List.not_mem_nil⟩
        · rw [hempty]
          rfl
        · rw [hempty]
          exact List.nodup_nil
        · rw [hempty] at hx
          cases hx
      · exact h.mono rfl rfl hloop
  | inspect a => exact absorbed_inspect h hhonest honeway hmove
  | finishRebuild now order collected => exact absorbed_finishRebuild h hmove
  | readPage page =>
      obtain ⟨now, wallet, wallets, candidates, hphase, rfl | ⟨sigs, rfl⟩⟩ := readPage_cases hmove
      all_goals rw [hphase] at hloop
      · exact h.mono rfl rfl hloop
      · exact h.mono rfl rfl ⟨hloop, List.nodup_nil, fun _ hx => absurd hx List.not_mem_nil,
          fun _ hx => absurd hx List.not_mem_nil⟩
  | finishPoll order collected => exact absorbed_finishPoll h hmove
  | endTick =>
      obtain ⟨⟨now, candidates, hphase⟩, rfl⟩ := endTick_cases hmove
      rw [hphase] at hloop
      exact h.mono rfl rfl hloop
  | notify signature =>
      obtain ⟨-, rfl | ⟨-, rfl⟩⟩ := notify_cases hmove
      · exact h
      · exact h.mono rfl rfl hloop
  | fetched answer =>
      obtain ⟨signature, -, ⟨tx, -, rfl⟩ | rfl⟩ := fetched_cases hmove
      all_goals exact h.mono rfl rfl hloop
  | send order =>
      obtain ⟨tx, wallets, -, rfl | ⟨wallet, rest, rfl, rfl | ⟨swap, -, rfl⟩⟩⟩ := send_cases hmove
      all_goals exact h.mono rfl rfl hloop

end Absorbed

/-! ## Runs -/

/-- The moves of the monitor and of the subscription from the beginning, with what they absorb. -/
def watchRun (config : MonitorConfig) (wallets : List String) (moves : List Move) :
    Option (WatchState × Absorptions) :=
  runLogged WatchState.step noteAbsorbed (.new config wallets) .none moves

/-- What holds of every move of a run: the network keeps its promises, and no swap comes two ways. -/
def Watched (config : MonitorConfig) (wallets : List String) (moves : List Move) : Prop :=
  MeetsLogged WatchState.step noteAbsorbed (fun w l move => HonestRpc w move ∧ OneWay w l move)
    (.new config wallets) .none moves

/-- **Each swap is absorbed at most once**, in every interleaving of the subscription with rebuilds and
polls in which no swap comes two ways. -/
theorem absorbed_once (config : MonitorConfig) {wallets : List String} (hwallets : wallets.Nodup)
    {moves : List Move} (hwatched : Watched config wallets moves) {w : WatchState} {l : Absorptions}
    (hrun : watchRun config wallets moves = some (w, l)) (wallet : String) :
    w.monitor.accumulators wallet = swapFeed (l.current wallet) ∧
      (signaturesOf (l.current wallet)).Nodup := by
  have hinitial : DeliveredOnce (.new config wallets) .none ∧
      AbsorbedOnce (.new config wallets) .none :=
    ⟨⟨hwallets, List.nodup_nil, fun _ he => absurd he List.not_mem_nil,
        fun _ _ hs => absurd hs List.not_mem_nil, fun _ he => absurd he List.not_mem_nil, trivial⟩,
      ⟨fun _ => rfl, fun _ => List.nodup_nil, fun _ _ hx => absurd hx List.not_mem_nil, rfl⟩⟩
  have hstep : ∀ w l move w', DeliveredOnce w l ∧ AbsorbedOnce w l →
      HonestRpc w move ∧ OneWay w l move → WatchState.step w move = some w' →
        DeliveredOnce w' (noteAbsorbed w move l) ∧ AbsorbedOnce w' (noteAbsorbed w move l) :=
    fun w l move w' hI hC hmove => ⟨delivered_step hI.1 hC.1 hmove,
      absorbed_step hI.2 hI.1 hC.1 hC.2 hmove⟩
  have hinvariant : DeliveredOnce w l ∧ AbsorbedOnce w l :=
    runLogged_invariant hstep hinitial hwatched hrun
  exact ⟨hinvariant.2.faithful wallet, hinvariant.2.once wallet⟩

/-- The rebuild of a wallet that finds one transaction, after the subscription has sent a swap of the
wallet; the next tick processes the event. -/
def rebuildBeforeEvent (wallet sent rebuilt : String) : List Move :=
  [.setSolPrice (some 150), .beginTick 0, .receive,
    .notify sent, .fetched (.found (purchaseTx wallet sent)), .send listOrder, .send listOrder,
    .sweep 0 fun _ _ => some [⟨rebuilt, none⟩],
    .inspect ⟨.found (purchaseTx wallet rebuilt), listOrder, ⟨0, 0⟩, true⟩,
    .finishRebuild 0 listOrder fun _ => false,
    .beginTick 1000, .receive, .receive, .processEvent ⟨1000, 1000⟩ false]

/-- A rebuilt swap, and another one that came in an event, are both absorbed, once each. -/
theorem absorbed_once_sample :
    ∃ r, watchRun ⟨150, 1000, 900, 2⟩ [watchedWallet]
        (rebuildBeforeEvent watchedWallet "second" "first") = some r ∧
      signaturesOf (r.2.current watchedWallet) = ["first", "second"] ∧
      (signaturesOf (r.2.current watchedWallet)).Nodup := by
  have hwatched : Watched ⟨150, 1000, 900, 2⟩ [watchedWallet]
      (rebuildBeforeEvent watchedWallet "second" "first") := by
    unfold Watched
    decide +kernel
  have hany : (watchRun ⟨150, 1000, 900, 2⟩ [watchedWallet]
      (rebuildBeforeEvent watchedWallet "second" "first")).any (fun r =>
        signaturesOf (r.2.current watchedWallet) = ["first", "second"]) = true := by decide +kernel
  obtain ⟨r, hrun, hsignatures⟩ := (Option.any_eq_true _ _).mp hany
  exact ⟨r, hrun, of_decide_eq_true hsignatures,
    (absorbed_once ⟨150, 1000, 900, 2⟩ (List.nodup_singleton _) hwatched hrun watchedWallet).2⟩

/-- A swap that is rebuilt while its event is on its way is absorbed twice. -/
theorem rebuilt_and_delivered :
    (watchRun ⟨150, 1000, 900, 2⟩ [watchedWallet]
        (rebuildBeforeEvent watchedWallet "first" "first")).map
        (fun r => signaturesOf (r.2.current watchedWallet)) = some ["first", "first"] ∧
      ¬ ∀ config wallets moves, wallets.Nodup →
        MeetsLogged WatchState.step noteAbsorbed (fun w _ move => HonestRpc w move)
          (.new config wallets) .none moves →
        ∀ w l, watchRun config wallets moves = some (w, l) →
          ∀ wallet, (signaturesOf (l.current wallet)).Nodup := by
  have hrun : (watchRun ⟨150, 1000, 900, 2⟩ [watchedWallet]
      (rebuildBeforeEvent watchedWallet "first" "first")).map
      (fun r => signaturesOf (r.2.current watchedWallet)) = some ["first", "first"] := by
    decide +kernel
  refine ⟨hrun, fun hall => ?_⟩
  obtain ⟨r, hr, htwice⟩ := Option.map_eq_some_iff.mp hrun
  have honce := hall _ [watchedWallet] _ (List.nodup_singleton _) (by decide +kernel) r.1 r.2 hr
    watchedWallet
  rw [htwice] at honce
  exact absurd honce (by decide)

end SolanaBot.Analysis
