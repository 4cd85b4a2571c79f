import Mathlib.Data.List.Infix
import SolanaBot.Analysis.MonitorCalls
import SolanaBot.Analysis.SwapOrder

/-!
# Reading a history

The rebuild and the poll absorb the swaps of a wallet in the order in which their signatures arrive, the
newest first. The accumulator is the one of the chronological order, for every way of reading a history
and every failure on the way, exactly if its swaps are interchangeable (`replays_in_order_iff`).
-/

set_option autoImplicit false

namespace SolanaBot.Analysis

open SolanaBot.Library SolanaBot.Model

/-! ## Histories -/

/-- A transaction of a history, with the circumstances of its parsing and absorption. -/
structure HistoryTx where
  sig : SignatureEntry
  tx : SwapTransaction
  order : KeyOrder
  now : ClockReadings

/-- The transactions of a wallet, the newest first. -/
structure WalletHistory where
  txs : List HistoryTx
  distinct : (txs.map fun x => x.sig.signature).Nodup
  newestFirst : txs.Pairwise fun x y => y.tx.blockTime.getD 0 ≤ x.tx.blockTime.getD 0

/-- The swap that a transaction is for the wallet, if it did not fail. -/
def HistoryTx.swap (wallet : String) (x : HistoryTx) : Option TimedSwap :=
  if x.sig.err.isSome then none
  else (parseSwapFromTransaction x.order x.tx wallet).map fun swap => (swap, x.now)

/-- The swap of a transaction that has succeeded is the parsed one. -/
theorem HistoryTx.swap_of_succeeded (wallet : String) {x : HistoryTx} (h : ¬ x.sig.err.isSome) :
    x.swap wallet = (parseSwapFromTransaction x.order x.tx wallet).map fun swap => (swap, x.now) :=
  if_neg h

/-- The swaps of the transactions with the given signatures, the oldest first. -/
def chronological (h : WalletHistory) (wallet : String) (signatures : List String) : List TimedSwap :=
  (h.txs.reverse.filter fun x : HistoryTx => x.sig.signature ∈ signatures).filterMap (HistoryTx.swap wallet)

/-- What `getSignaturesForAddress` answers of the transactions so far: the newest ones before a
signature, or at all. -/
def pageOf (snapshot : List HistoryTx) (limit : ℕ) (before : Option String) : List SignatureEntry :=
  let older :=
    match before with
    | none => snapshot
    | some s => (snapshot.dropWhile fun x : HistoryTx => x.sig.signature ≠ s).tail
  (older.take limit).map HistoryTx.sig

/-- The fetch of the turn fails, or answers the transaction of the history. -/
def AnswersFrom (h : WalletHistory) (t : SignatureTurn) : Prop :=
  ∃ x ∈ h.txs, t.sig = x.sig ∧ (t.answer = .missing ∨ t.answer = .failed ∨
    t.answer = .found x.tx ∧ t.order = x.order ∧ t.now = x.now)

/-- The monitors that come out of rebuilding the wallet and polling it, from any of the answers that the
history allows: those of any moment of it, and failures. -/
inductive ReadsHistory (h : WalletHistory) (wallet : String) : WalletMonitor → Prop
  | start (config : MonitorConfig) (wallets : List String) : ReadsHistory h wallet (.new config wallets)
  | rebuild {m : WalletMonitor} {page : ℕ → Option String → Option (List SignatureEntry)}
      {snapshot : List HistoryTx} {turns : List SignatureTurn} (hm : ReadsHistory h wallet m)
      (hnew : wallet ∉ m.rebuilt) (hsnapshot : snapshot <:+ h.txs)
      (hpage : ∀ i before entries, page i before = some entries →
        entries = pageOf snapshot DEFAULT_REBUILD_PAGE before)
      (hturns : turns.map SignatureTurn.sig = m.rebuildSignatures page)
      (hanswers : ∀ t ∈ turns, AnswersFrom h t) (nowForWindow now : Time) (order : KeyOrder)
      (collected : String → Bool) :
      ReadsHistory h wallet (m.rebuildWalletHistory wallet turns nowForWindow now order collected)
  | poll {m m' : WalletMonitor} {seen seen' : List String} {answer : Option (List SignatureTurn)}
      {now : Time} {order : KeyOrder} {collected : String → Bool} (hm : ReadsHistory h wallet m)
      (hanswer : ∀ turns, answer = some turns → (∀ t ∈ turns, AnswersFrom h t) ∧
        ∃ snapshot, snapshot <:+ h.txs ∧ turns.map SignatureTurn.sig = pageOf snapshot 50 none)
      (hpolled : m.pollWallet wallet seen answer now order collected = some (m', seen')) :
      ReadsHistory h wallet m'

/-- The accumulator is the one of the chronological order, and no trade ends before it begins. -/
structure InOrder (h : WalletHistory) (wallet : String) (m : WalletMonitor) : Prop where
  state : m.accumulators wallet = swapFeed (chronological h wallet (m.processedSigs wallet))
  trades : ∀ t ∈ (m.accumulators wallet).completedTrades, t.entryTime ≤ t.exitTime

/-- Every way of reading the history leaves the accumulator of the chronological order. -/
def ReplaysInOrder (h : WalletHistory) (wallet : String) : Prop :=
  ∀ m, ReadsHistory h wallet m → InOrder h wallet m

/-! ## Pages -/

/-- What is left after a page is what its last signature leaves. -/
theorem dropWhile_last {snapshot : List HistoryTx}
    (hdistinct : (snapshot.map fun x => x.sig.signature).Nodup) {front : List HistoryTx}
    {x : HistoryTx} {rest : List HistoryTx} (hsplit : snapshot = front ++ x :: rest) :
    (snapshot.dropWhile fun y => y.sig.signature ≠ x.sig.signature).tail = rest := by
  subst hsplit
  have hfront : ∀ y ∈ front, (decide (y.sig.signature ≠ x.sig.signature)) = true := by
    intro y hy
    rw [List.map_append, List.map_cons] at hdistinct
    refine decide_eq_true fun heq => ?_
    exact (List.nodup_append.mp hdistinct).2.2 _ (List.mem_map_of_mem hy) _ List.mem_cons_self heq
  rw [List.dropWhile_append_of_pos hfront, List.dropWhile_cons_of_neg (by simp), List.tail_cons]

/-- The pages of a history are a part of it from where they begin. -/
theorem collectPages_prefix {snapshot : List HistoryTx}
    (hdistinct : (snapshot.map fun x => x.sig.signature).Nodup)
    {page : ℕ → Option String → Option (List SignatureEntry)}
    (hpage : ∀ i before entries, page i before = some entries →
      entries = pageOf snapshot DEFAULT_REBUILD_PAGE before)
    (left idx : ℕ) (before : Option String) {front older : List HistoryTx}
    (hsplit : snapshot = front ++ older)
    (holder : ∀ limit, pageOf snapshot limit before = (older.take limit).map HistoryTx.sig) :
    WalletMonitor.collectPages page left idx before <+: older.map HistoryTx.sig := by
  induction left generalizing idx before front older with
  | zero => exact List.nil_prefix
  | succ left ih =>
      unfold WalletMonitor.collectPages
      cases hentries : page idx before with
      | none => exact List.nil_prefix
      | some entries =>
          have heq := (hpage idx before entries hentries).trans (holder _)
          have htake : (older.take DEFAULT_REBUILD_PAGE).map HistoryTx.sig <+:
              older.map HistoryTx.sig := (List.take_prefix _ _).map _
          dsimp only
          split
          · rw [heq]
            exact htake
          · cases hlast : entries.getLast? with
            | none => rw [heq]; exact htake
            | some last =>
                -- the next page begins after the last signature of this one
                rw [heq, List.getLast?_map] at hlast
                obtain ⟨x, hx, rfl⟩ := Option.map_eq_some_iff.mp hlast
                obtain ⟨init, hinit⟩ := List.getLast?_eq_some_iff.mp hx
                have hparts : init ++ x :: older.drop DEFAULT_REBUILD_PAGE = older := by
                  have h := List.take_append_drop DEFAULT_REBUILD_PAGE older
                  rwa [hinit, List.append_assoc, List.singleton_append] at h
                have hsplit' : snapshot =
                    (front ++ init) ++ x :: older.drop DEFAULT_REBUILD_PAGE := by
                  rw [hsplit, List.append_assoc, hparts]
                have hread : snapshot =
                    (front ++ init ++ [x]) ++ older.drop DEFAULT_REBUILD_PAGE := by
                  rw [hsplit', List.append_assoc _ [x], List.singleton_append]
                have hrest := ih (idx + 1) (some x.sig.signature) hread
                  (fun limit => by
                    unfold pageOf
                    dsimp only
                    rw [dropWhile_last hdistinct hsplit'])
                have hwhole : older.map HistoryTx.sig = entries ++
                    (older.drop DEFAULT_REBUILD_PAGE).map HistoryTx.sig := by
                  rw [heq, ← List.map_append, List.take_append_drop]
                rw [hwhole]
                exact (List.prefix_append_right_inj entries).mpr hrest

/-! ## What has been read -/

/-- The transactions whose signatures are processed, in the order in which they were taken; the
accumulator was fed their swaps. -/
structure Taken (h : WalletHistory) (wallet : String) (processed : List String)
    (acc : WalletAccumulator) (taken : List HistoryTx) : Prop where
  subset : ∀ x ∈ taken, x ∈ h.txs
  nodup : taken.Nodup
  processed : ∀ s, s ∈ processed ↔ ∃ x ∈ taken, x.sig.signature = s
  acc : acc = swapFeed (taken.filterMap (HistoryTx.swap wallet))

section Reading

variable {h : WalletHistory} {wallet : String} {processed : List String} {acc : WalletAccumulator}
  {taken : List HistoryTx}

/-- In the beginning nothing is taken. -/
theorem taken_nil : Taken h wallet [] .new [] :=
  ⟨fun _ hx => absurd hx List.not_mem_nil, List.nodup_nil,
    fun _ => ⟨fun hs => absurd hs List.not_mem_nil, fun ⟨_, hx, _⟩ => absurd hx List.not_mem_nil⟩,
    rfl⟩

/-- One new transaction more is taken. -/
theorem Taken.snoc (ht : Taken h wallet processed acc taken) {x : HistoryTx} (hx : x ∈ h.txs)
    (hnew : x.sig.signature ∉ processed) :
    Taken h wallet (processed.insert x.sig.signature)
      ((x.swap wallet).elim acc (swapTurn acc)) (taken ++ [x]) where
  subset y hy := by
    rcases List.mem_append.mp hy with hold | hone
    · exact ht.subset y hold
    · rw [List.mem_singleton.mp hone]
      exact hx
  nodup := by
    have hnot : x ∉ taken := fun hold => hnew ((ht.processed _).mpr ⟨x, hold, rfl⟩)
    exact List.nodup_append.mpr ⟨ht.nodup, List.nodup_singleton x,
      fun y hy z hz heq => hnot (by rwa [← List.mem_singleton.mp hz, ← heq])⟩
  processed s := by
    rw [List.mem_insert_iff, ht.processed]
    constructor
    · rintro (rfl | ⟨y, hy, rfl⟩)
      · exact ⟨x, List.mem_append_right _ List.mem_cons_self, rfl⟩
      · exact ⟨y, List.mem_append_left _ hy, rfl⟩
    · rintro ⟨y, hy, rfl⟩
      rcases List.mem_append.mp hy with hold | hone
      · exact .inr ⟨y, hold, rfl⟩
      · exact .inl (by rw [List.mem_singleton.mp hone])
  acc := by
    rw [List.filterMap_append, swapFeed, List.foldl_append, ← swapFeed, ← ht.acc]
    cases hswap : x.swap wallet with
    | none => rw [List.filterMap_cons_none hswap]; rfl
    | some s => rw [List.filterMap_cons_some hswap]; rfl

/-- A history of interchangeable swaps is taken in order, whatever the order was. -/
theorem inOrder_of_taken (ht : Taken h wallet processed acc taken)
    (hfree : OrderFree (h.txs.filterMap (HistoryTx.swap wallet))) :
    acc = swapFeed (chronological h wallet processed) ∧ acc.completedTrades = [] := by
  have hnodup : (h.txs.reverse.filter fun x : HistoryTx => x.sig.signature ∈ processed).Nodup :=
    (List.nodup_reverse.mpr (List.Nodup.of_map _ h.distinct)).filter _
  have hperm : taken.Perm
      (h.txs.reverse.filter fun x : HistoryTx => x.sig.signature ∈ processed) := by
    refine (List.perm_ext_iff_of_nodup ht.nodup hnodup).mpr fun x => ?_
    rw [List.mem_filter, List.mem_reverse, decide_eq_true_eq, ht.processed]
    constructor
    · exact fun hx => ⟨ht.subset x hx, x, hx, rfl⟩
    · rintro ⟨hx, y, hy, hsame⟩
      have hxy := List.inj_on_of_nodup_map h.distinct (ht.subset y hy) hx hsame
      rwa [← hxy]
  have hfree' : OrderFree (taken.filterMap (HistoryTx.swap wallet)) := by
    have hsub : ∀ s ∈ taken.filterMap (HistoryTx.swap wallet),
        s ∈ h.txs.filterMap (HistoryTx.swap wallet) := by
      intro s hs
      obtain ⟨x, hx, hswap⟩ := List.mem_filterMap.mp hs
      exact List.mem_filterMap.mpr ⟨x, ht.subset x hx, hswap⟩
    exact fun a ha b hb => hfree a (hsub a ha) b (hsub b hb)
  rw [ht.acc]
  exact ⟨swapFeed_eq_of_perm (hperm.filterMap _) hfree', completedTrades_swapFeed hfree'⟩

/-- A signature that the rebuild takes is processed, and its swap is absorbed. -/
theorem rebuildTurn_taken {s : RebuildState} {t : SignatureTurn} (config : MonitorConfig)
    (nowForWindow : Time) (ht : Taken h wallet s.processed s.absorption.accumulator taken)
    (hanswer : AnswersFrom h t) (hnew : t.sig.signature ∉ s.processed) :
    ∃ taken', Taken h wallet (rebuildTurn config wallet nowForWindow s t).processed
        (rebuildTurn config wallet nowForWindow s t).absorption.accumulator taken' ∧
      ∀ sig ∈ (rebuildTurn config wallet nowForWindow s t).processed,
        sig ∈ s.processed ∨ sig = t.sig.signature := by
  obtain ⟨x, hx, hsig, hfetched⟩ := hanswer
  unfold rebuildTurn
  split
  · exact ⟨taken, ht, fun _ hsig => .inl hsig⟩
  rename_i hsucceeded
  rcases hfetched with hmissing | hfailed | ⟨hfound, horder, hnow⟩
  · rw [hmissing]
    exact ⟨taken, ht, fun _ hsig => .inl hsig⟩
  · rw [hfailed]
    exact ⟨taken, ht, fun _ hsig => .inl hsig⟩
  · rw [hfound, horder, hnow]
    rw [hsig] at hnew hsucceeded ⊢
    have hsnoc := ht.snoc hx hnew
    have hinsert : ∀ sig ∈ s.processed.insert x.sig.signature,
        sig ∈ s.processed ∨ sig = x.sig.signature := fun sig hmem =>
      (List.mem_insert_iff.mp hmem).symm
    rw [HistoryTx.swap_of_succeeded wallet hsucceeded] at hsnoc
    dsimp only
    cases hswap : parseSwapFromTransaction x.order x.tx wallet with
    | none =>
        rw [hswap] at hsnoc
        exact ⟨_, hsnoc, hinsert⟩
    | some swap =>
        rw [hswap] at hsnoc
        exact ⟨_, hsnoc, hinsert⟩

/-- A rebuild takes transactions of the history. -/
theorem rebuild_taken (config : MonitorConfig) (nowForWindow : Time) {turns : List SignatureTurn}
    (hdistinct : (turns.map fun t => t.sig.signature).Nodup)
    (hanswers : ∀ t ∈ turns, AnswersFrom h t) {s : RebuildState}
    (hnew : ∀ t ∈ turns, t.sig.signature ∉ s.processed)
    (ht : Taken h wallet s.processed s.absorption.accumulator taken) :
    ∃ taken', Taken h wallet (turns.foldl (rebuildTurn config wallet nowForWindow) s).processed
      (turns.foldl (rebuildTurn config wallet nowForWindow) s).absorption.accumulator taken' := by
  induction turns generalizing s taken with
  | nil => exact ⟨taken, ht⟩
  | cons t turns ih =>
      rw [List.map_cons, List.nodup_cons] at hdistinct
      obtain ⟨taken', ht', hprocessed⟩ := rebuildTurn_taken config nowForWindow ht
        (hanswers t List.mem_cons_self) (hnew t List.mem_cons_self)
      refine ih hdistinct.2 (fun t' ht' => hanswers t' (List.mem_cons_of_mem _ ht')) ?_ ht'
      intro t' hmem hold
      rcases hprocessed _ hold with hbefore | hsame
      · exact hnew t' (List.mem_cons_of_mem _ hmem) hbefore
      · exact hdistinct.1 (List.mem_map.mpr ⟨t', hmem, hsame⟩)

/-- A signature that the poll takes is processed, and its swap will be absorbed. -/
theorem pollTurn_taken {base : WalletAccumulator} {s s' : PollState} {t : SignatureTurn}
    (ht : Taken h wallet s.processed (s.swaps.foldl swapTurn base) taken)
    (hanswer : AnswersFrom h t) (hturn : pollTurn wallet s t = some s') :
    ∃ taken', Taken h wallet s'.processed (s'.swaps.foldl swapTurn base) taken' := by
  obtain ⟨x, hx, hsig, hfetched⟩ := hanswer
  unfold pollTurn at hturn
  split at hturn
  · cases hturn
    exact ⟨taken, ht⟩
  rename_i hsucceeded
  split at hturn
  · cases hturn
    exact ⟨taken, ht⟩
  rename_i hnew
  split at hturn
  · cases hturn
    exact ⟨taken, ht⟩
  rcases hfetched with hmissing | hfailed | ⟨hfound, horder, hnow⟩
  · rw [hmissing] at hturn
    cases hturn
    exact ⟨taken, ht⟩
  · rw [hfailed] at hturn
    cases hturn
    exact ⟨taken, ht⟩
  · rw [hfound, horder, hnow] at hturn
    dsimp only at hturn
    split at hturn
    · cases hturn
      rw [hsig] at hnew hsucceeded ⊢
      have hsnoc := ht.snoc hx hnew
      rw [HistoryTx.swap_of_succeeded wallet hsucceeded] at hsnoc
      dsimp only
      cases hswap : parseSwapFromTransaction x.order x.tx wallet with
      | none =>
          rw [hswap] at hsnoc
          exact ⟨_, hsnoc⟩
      | some swap =>
          rw [hswap] at hsnoc
          refine ⟨taken ++ [x], ?_⟩
          rw [List.foldl_append]
          exact hsnoc
    · cases hturn

/-- A poll takes transactions of the history. -/
theorem poll_taken (base : WalletAccumulator) {turns : List SignatureTurn} {s s' : PollState}
    (ht : Taken h wallet s.processed (s.swaps.foldl swapTurn base) taken)
    (hanswers : ∀ t ∈ turns, AnswersFrom h t)
    (hturns : turns.foldlM (pollTurn wallet) s = some s') :
    ∃ taken', Taken h wallet s'.processed (s'.swaps.foldl swapTurn base) taken' := by
  induction turns generalizing s taken with
  | nil =>
      cases hturns
      exact ⟨taken, ht⟩
  | cons t turns ih =>
      rw [List.foldlM_cons] at hturns
      obtain ⟨next, hturn, hrest⟩ := Option.bind_eq_some_iff.mp hturns
      obtain ⟨taken', ht'⟩ := pollTurn_taken ht (hanswers t List.mem_cons_self) hturn
      exact ih ht' (fun t' hmem => hanswers t' (List.mem_cons_of_mem _ hmem)) hrest

/-- A poll leaves the accumulator with the swaps that its turns found. -/
theorem pollWallet_taken {m m' : WalletMonitor} {seen seen' : List String}
    {answer : Option (List SignatureTurn)} {now : Time} {order : KeyOrder} {collected : String → Bool}
    (ht : Taken h wallet (m.processedSigs wallet) (m.accumulators wallet) taken)
    (hanswers : ∀ turns, answer = some turns → ∀ t ∈ turns, AnswersFrom h t)
    (hpolled : m.pollWallet wallet seen answer now order collected = some (m', seen')) :
    ∃ taken', Taken h wallet (m'.processedSigs wallet) (m'.accumulators wallet) taken' := by
  unfold WalletMonitor.pollWallet at hpolled
  split at hpolled
  · cases hpolled
    exact ⟨taken, ht⟩
  split at hpolled
  · cases hpolled
    exact ⟨taken, ht⟩
  · cases hpolled
    exact ⟨taken, ht⟩
  · rename_i turns _
    obtain ⟨s, hturns, hfinish⟩ := Option.bind_eq_some_iff.mp hpolled
    obtain ⟨taken', ht'⟩ := poll_taken (m.accumulators wallet) ht
      (hanswers turns rfl) hturns
    cases hfinish
    have hsame := finishPoll_same
      { m with processedSigs := Function.update m.processedSigs wallet s.processed } wallet now order
      collected s.swaps []
    refine ⟨taken', ?_⟩
    rw [hsame.processedSigs, hsame.accumulators]
    dsimp only
    rw [Function.update_self, Function.update_self]
    unfold polledAbsorption
    rw [accumulator_absorb]
    exact ht'

/-- A monitor that reads the history has taken transactions of it. -/
theorem reads_taken {m : WalletMonitor} (hm : ReadsHistory h wallet m) :
    ∃ taken, Taken h wallet (m.processedSigs wallet) (m.accumulators wallet) taken := by
  induction hm with
  | start config wallets => exact ⟨[], taken_nil⟩
  | @rebuild m page snapshot turns _ _ hsnapshot hpage hturns hanswers nowForWindow now order
      collected ih =>
      unfold WalletMonitor.rebuildWalletHistory
      split
      · have hdistinct : (turns.map fun t => t.sig.signature).Nodup := by
          have hsub : (m.rebuildSignatures page).Sublist (h.txs.map HistoryTx.sig) := by
            have hprefix := collectPages_prefix
              ((hsnapshot.sublist.map fun x => x.sig.signature).nodup h.distinct) hpage
              m.rebuildPages 0 none (List.nil_append _).symm (fun limit => rfl)
            exact ((List.take_sublist _ _).trans hprefix.sublist).trans (hsnapshot.sublist.map _)
          rw [← hturns] at hsub
          have hnodup := (hsub.map SignatureEntry.signature).nodup
            (by rw [List.map_map]; exact h.distinct)
          rwa [List.map_map] at hnodup
        obtain ⟨taken, ht⟩ := rebuild_taken m.config nowForWindow hdistinct hanswers
          (s := .empty) (fun _ _ => List.not_mem_nil) taken_nil
        refine ⟨taken, ?_⟩
        have hsame := finishRebuild_same m wallet now order collected
          (turns.foldl (rebuildTurn m.config wallet nowForWindow) .empty)
        rw [hsame.processedSigs, hsame.accumulators]
        dsimp only
        rw [Function.update_self, Function.update_self]
        exact ht
      · exact ih
  | poll hm hanswer hpolled ih =>
      obtain ⟨taken, ht⟩ := ih
      exact pollWallet_taken ht (fun turns hturns => (hanswer turns hturns).1) hpolled

end Reading

/-! ## Reading two transactions -/

/-- The turns over a part of the history of which only one transaction is found. -/
def findOnly (x : HistoryTx) (part : List HistoryTx) : List SignatureTurn :=
  part.map fun y =>
    { sig := y.sig
      answer := if y.sig.signature = x.sig.signature then .found y.tx else .missing
      order := y.order, now := y.now, locked := true }

/-- Without pages nothing is collected. -/
theorem collectPages_none (left idx : ℕ) (before : Option String) :
    WalletMonitor.collectPages (fun _ _ => none) left idx before = [] := by
  cases left <;> rfl

/-- A poll whose transactions are all missing has found nothing. -/
theorem foldlM_missing {wallet : String} {turns : List SignatureTurn} (s : PollState)
    (h : ∀ t ∈ turns, t.answer = .missing) : turns.foldlM (pollTurn wallet) s = some s := by
  induction turns with
  | nil => rfl
  | cons t turns ih =>
      have hturn : pollTurn wallet s t = some s := by
        unfold pollTurn
        rw [h t List.mem_cons_self]
        dsimp only
        rw [ite_self, ite_self, ite_self]
      rw [List.foldlM_cons, hturn]
      exact ih fun t' ht' => h t' (List.mem_cons_of_mem _ ht')

section Pairs

variable {h : WalletHistory} {wallet : String} {x : HistoryTx} {rest : List HistoryTx} {a : TimedSwap}

/-- The turns of a poll that finds only the newest transaction take that one. -/
theorem findOnly_run {processed : List String} (hsuffix : x :: rest <:+ h.txs) {swap : ParsedSwap}
    (hsucceeded : ¬x.sig.err.isSome) (hparse : parseSwapFromTransaction x.order x.tx wallet = some swap)
    (hnew : x.sig.signature ∉ processed) :
    (findOnly x ((x :: rest).take 50)).foldlM (pollTurn wallet) ⟨processed, [], 0, []⟩ =
      some ⟨processed.insert x.sig.signature, [x.sig.signature], 1, [(swap, x.now)]⟩ := by
  have hdistinct : ((x :: rest).map fun y => y.sig.signature).Nodup :=
    (hsuffix.sublist.map _).nodup h.distinct
  rw [List.map_cons, List.nodup_cons] at hdistinct
  have hfirst : pollTurn wallet ⟨processed, [], 0, []⟩
      { sig := x.sig, answer := .found x.tx, order := x.order, now := x.now, locked := true } =
        some ⟨processed.insert x.sig.signature, [x.sig.signature], 1, [(swap, x.now)]⟩ := by
    unfold pollTurn
    rw [if_neg hsucceeded, if_neg hnew,
      if_neg (Nat.not_le.mpr (by decide : 0 < MAX_TRANSACTIONS_PER_TICK))]
    dsimp only
    rw [if_pos rfl, hparse]
    rfl
  unfold findOnly
  rw [List.take_succ_cons, List.map_cons, List.foldlM_cons, if_pos rfl, hfirst]
  refine foldlM_missing _ fun t ht => ?_
  obtain ⟨y, hy, rfl⟩ := List.mem_map.mp ht
  exact if_neg fun heq => hdistinct.1 (List.mem_map.mpr ⟨y, List.mem_of_mem_take hy, heq⟩)

/-- These turns answer from the history, over a page of it. -/
theorem findOnly_answers (hsuffix : x :: rest <:+ h.txs) {turns : List SignatureTurn}
    (hturns : some (findOnly x ((x :: rest).take 50)) = some turns) :
    (∀ t ∈ turns, AnswersFrom h t) ∧
      ∃ snapshot, snapshot <:+ h.txs ∧ turns.map SignatureTurn.sig = pageOf snapshot 50 none := by
  obtain rfl := Option.some.inj hturns
  refine ⟨fun t ht => ?_, x :: rest, hsuffix, ?_⟩
  · obtain ⟨y, hy, rfl⟩ := List.mem_map.mp ht
    refine ⟨y, hsuffix.subset (List.mem_of_mem_take hy), rfl, ?_⟩
    by_cases hsame : y.sig.signature = x.sig.signature
    · exact .inr (.inr ⟨if_pos hsame, rfl, rfl⟩)
    · exact .inl (if_neg hsame)
  · unfold findOnly pageOf
    rw [List.map_map]
    rfl

/-- A poll of the history up to one of its transactions, that finds only this one, absorbs it. -/
theorem exists_poll {m : WalletMonitor} (hm : ReadsHistory h wallet m) (hrebuilt : wallet ∈ m.rebuilt)
    (hsuffix : x :: rest <:+ h.txs) (hswap : x.swap wallet = some a)
    (hnew : x.sig.signature ∉ m.processedSigs wallet) :
    ∃ m', ReadsHistory h wallet m' ∧ wallet ∈ m'.rebuilt ∧
      m'.accumulators wallet = swapTurn (m.accumulators wallet) a ∧
      m'.processedSigs wallet = (m.processedSigs wallet).insert x.sig.signature := by
  unfold HistoryTx.swap at hswap
  split at hswap
  · cases hswap
  rename_i hsucceeded
  obtain ⟨swap, hparse, rfl⟩ := Option.map_eq_some_iff.mp hswap
  have hturns := findOnly_run hsuffix hsucceeded hparse hnew
  let polled := { m with
    processedSigs := Function.update m.processedSigs wallet
      ((m.processedSigs wallet).insert x.sig.signature) }
  have hpolled : m.pollWallet wallet [] (some (findOnly x ((x :: rest).take 50))) 0 listOrder
      (fun _ => false) =
        some ((polled.finishPoll wallet [(swap, x.now)] [] 0 listOrder fun _ => false).1,
          [x.sig.signature]) := by
    unfold WalletMonitor.pollWallet
    rw [if_neg (not_not.mpr hrebuilt)]
    rw [show findOnly x ((x :: rest).take 50) = _ :: findOnly x (rest.take 49) from rfl] at hturns ⊢
    dsimp only
    rw [hturns]
    rfl
  have hsame := finishPoll_same polled wallet 0 listOrder (fun _ => false) [(swap, x.now)] []
  refine ⟨_, hm.poll (fun _ hturns => findOnly_answers hsuffix hturns) hpolled, ?_, ?_, ?_⟩
  · rw [hsame.rebuilt]
    exact hrebuilt
  · rw [hsame.accumulators]
    exact Function.update_self _ _ _
  · rw [hsame.processedSigs]
    exact Function.update_self _ _ _

end Pairs

/-- Two transactions in the history, the older one after the newer one. -/
theorem filter_two {l₁ l₃ l₄ : List HistoryTx} {x y : HistoryTx}
    (hdistinct : ((l₁ ++ x :: (l₃ ++ y :: l₄)).map fun z => z.sig.signature).Nodup) :
    (l₁ ++ x :: (l₃ ++ y :: l₄)).filter (fun z : HistoryTx =>
      z.sig.signature ∈ [y.sig.signature, x.sig.signature]) = [x, y] := by
  simp only [List.map_append, List.map_cons] at hdistinct
  obtain ⟨-, hfrom, hbefore⟩ := List.nodup_append.mp hdistinct
  obtain ⟨hx, hafter⟩ := List.nodup_cons.mp hfrom
  obtain ⟨-, hfrom', hbetween⟩ := List.nodup_append.mp hafter
  obtain ⟨hy, -⟩ := List.nodup_cons.mp hfrom'
  have hnone (l : List HistoryTx) (hl : ∀ z ∈ l, z.sig.signature ≠ y.sig.signature ∧
      z.sig.signature ≠ x.sig.signature) : l.filter (fun z : HistoryTx =>
        z.sig.signature ∈ [y.sig.signature, x.sig.signature]) = [] := by
    refine List.filter_eq_nil_iff.mpr fun z hz => ?_
    simp [hl z hz]
  rw [List.filter_append, List.filter_cons_of_pos (by simp), List.filter_append,
    List.filter_cons_of_pos (by simp), hnone l₁, hnone l₃, hnone l₄]
  · rfl
  · intro z hz
    have hmem := List.mem_map_of_mem (f := fun z : HistoryTx => z.sig.signature) hz
    refine ⟨fun heq => hy (heq ▸ hmem), fun heq => hx ?_⟩
    exact List.mem_append_right _ (List.mem_cons_of_mem _ (heq ▸ hmem))
  · intro z hz
    have hmem := List.mem_map_of_mem (f := fun z : HistoryTx => z.sig.signature) hz
    refine ⟨fun heq => hbetween _ hmem _ List.mem_cons_self heq, fun heq => hx ?_⟩
    exact List.mem_append_left _ (heq ▸ hmem)
  · intro z hz
    have hmem := List.mem_map_of_mem (f := fun z : HistoryTx => z.sig.signature) hz
    refine ⟨fun heq => ?_, fun heq => hbefore _ hmem _ List.mem_cons_self heq⟩
    exact hbefore _ hmem _ (List.mem_cons_of_mem _ (List.mem_append_right _ List.mem_cons_self)) heq

section Main

variable {h : WalletHistory} {wallet : String}

/-- A rebuild that reads nothing. -/
theorem exists_rebuilt (h : WalletHistory) (hvalid : isValidSolanaAddress wallet) :
    ∃ m, ReadsHistory h wallet m ∧ wallet ∈ m.rebuilt ∧ m.accumulators wallet = .new ∧
      m.processedSigs wallet = [] := by
  let m := WalletMonitor.new ⟨0, 0, 0, 0⟩ []
  have hturns : ([] : List SignatureTurn).map SignatureTurn.sig =
      m.rebuildSignatures fun _ _ => none := by
    unfold WalletMonitor.rebuildSignatures
    rw [collectPages_none]
    rfl
  have hstart : ReadsHistory h wallet m := .start _ _
  have hreads := hstart.rebuild List.not_mem_nil List.nil_suffix (fun _ _ _ h => by cases h) hturns
    (fun _ ht => absurd ht List.not_mem_nil) 0 0 listOrder (fun _ => false)
  unfold WalletMonitor.rebuildWalletHistory at hreads
  rw [if_pos hvalid, List.foldl_nil] at hreads
  have hsame := finishRebuild_same m wallet 0 listOrder (fun _ => false) .empty
  refine ⟨_, hreads, ?_, ?_, ?_⟩
  · rw [hsame.rebuilt]
    change wallet ∈ m.rebuilt.insert wallet
    exact List.mem_insert_iff.mpr (.inl rfl)
  · rw [hsame.accumulators]
    exact Function.update_self _ _ _
  · rw [hsame.processedSigs]
    exact Function.update_self _ _ _

/-- Two swaps of a history that is always replayed in order are interchangeable: polls that find one
transaction each absorb the newer one first. -/
theorem interchangeable_of_replays (hvalid : isValidSolanaAddress wallet)
    (hreplays : ReplaysInOrder h wallet) {l₁ l₃ l₄ : List HistoryTx} {x y : HistoryTx}
    (hsplit : h.txs = l₁ ++ x :: (l₃ ++ y :: l₄)) {a b : TimedSwap} (ha : x.swap wallet = some a)
    (hb : y.swap wallet = some b) : Interchangeable a b := by
  have hdistinct := h.distinct
  rw [hsplit] at hdistinct
  obtain ⟨m₀, hm₀, hrebuilt, hacc, hprocessed⟩ := exists_rebuilt h hvalid
  have hxrest : x :: (l₃ ++ y :: l₄) <:+ h.txs := by
    rw [hsplit]
    exact List.suffix_append _ _
  have hyrest : y :: l₄ <:+ h.txs := by
    rw [hsplit, ← List.cons_append, ← List.append_assoc]
    exact List.suffix_append _ _
  obtain ⟨m, hm, hmrebuilt, hmacc, hmprocessed⟩ := exists_poll hm₀ hrebuilt hxrest ha
    (by rw [hprocessed]; exact List.not_mem_nil)
  have hread : m.processedSigs wallet = [x.sig.signature] := by
    rw [hmprocessed, hprocessed]
    rfl
  have hynew : y.sig.signature ∉ m.processedSigs wallet := by
    rw [List.map_append, List.map_cons] at hdistinct
    have hx := (List.nodup_cons.mp (List.nodup_append.mp hdistinct).2.1).1
    rw [hread, List.mem_singleton]
    exact fun heq => hx (List.mem_map.mpr ⟨y, List.mem_append_right _ List.mem_cons_self, heq⟩)
  obtain ⟨m', hm', -, hacc', hprocessed'⟩ := exists_poll hm hmrebuilt hyrest hb hynew
  have hread' : m'.processedSigs wallet = [y.sig.signature, x.sig.signature] := by
    rw [hprocessed', List.insert_of_not_mem hynew, hread]
  have hchron : chronological h wallet [y.sig.signature, x.sig.signature] = [b, a] := by
    unfold chronological
    rw [List.filter_reverse, hsplit, filter_two hdistinct]
    change [y, x].filterMap _ = _
    rw [List.filterMap_cons_some hb, List.filterMap_cons_some ha, List.filterMap_nil]
  have hstate := (hreplays m' hm').state
  rw [hread', hchron, hacc', hmacc, hacc] at hstate
  exact interchangeable_of_swapFeed hstate

/-- A wallet whose address is invalid is neither rebuilt nor polled. -/
theorem reads_invalid (hinvalid : ¬ isValidSolanaAddress wallet) {m : WalletMonitor}
    (hm : ReadsHistory h wallet m) :
    wallet ∉ m.rebuilt ∧ m.accumulators wallet = .new ∧ m.processedSigs wallet = [] := by
  induction hm with
  | start config wallets => exact ⟨List.not_mem_nil, rfl, rfl⟩
  | rebuild _ _ _ _ _ _ nowForWindow now order collected ih =>
      unfold WalletMonitor.rebuildWalletHistory
      rw [if_neg hinvalid]
      exact ih
  | poll _ _ hpolled ih =>
      unfold WalletMonitor.pollWallet at hpolled
      rw [if_pos ih.1] at hpolled
      cases hpolled
      exact ih

/-- **Every way of reading a history leaves the accumulator of the chronological order, with no trade
that ends before it begins, exactly if the swaps of the history are interchangeable.** An invalid address
is not read at all. -/
theorem replays_in_order_iff (h : WalletHistory) (wallet : String) :
    ReplaysInOrder h wallet ↔
      (isValidSolanaAddress wallet → OrderFree (h.txs.filterMap (HistoryTx.swap wallet))) := by
  constructor
  · intro hreplays hvalid a ha b hb
    obtain ⟨x, hx, hxa⟩ := List.mem_filterMap.mp ha
    obtain ⟨y, hy, hyb⟩ := List.mem_filterMap.mp hb
    obtain ⟨l₁, l₂, hsplit⟩ := List.append_of_mem hx
    rw [hsplit, List.mem_append, List.mem_cons] at hy
    rcases hy with hbefore | rfl | hafter
    · obtain ⟨l₀, l₃, rfl⟩ := List.append_of_mem hbefore
      rw [List.append_assoc, List.cons_append] at hsplit
      exact interchangeable_symm (interchangeable_of_replays hvalid hreplays hsplit hyb hxa)
    · rw [hxa] at hyb
      cases hyb
      intro _
      cases hdir : a.1.direction with
      | buy => exact .inr (.inr ⟨rfl, rfl, rfl⟩)
      | sell => exact .inl ⟨rfl, .inl rfl⟩
    · obtain ⟨l₃, l₄, rfl⟩ := List.append_of_mem hafter
      exact interchangeable_of_replays hvalid hreplays hsplit hxa hyb
  · intro hfree m hm
    by_cases hvalid : isValidSolanaAddress wallet
    · obtain ⟨taken, ht⟩ := reads_taken hm
      obtain ⟨hstate, htrades⟩ := inOrder_of_taken ht (hfree hvalid)
      refine ⟨hstate, fun t htrade => ?_⟩
      rw [htrades] at htrade
      cases htrade
    · obtain ⟨-, hacc, hprocessed⟩ := reads_invalid hvalid hm
      refine ⟨?_, fun t htrade => ?_⟩
      · rw [hacc, hprocessed]
        unfold chronological
        rw [List.filter_eq_nil_iff.mpr (by simp)]
        rfl
      · rw [hacc] at htrade
        cases htrade

end Main

/-- A wallet sells five tokens, and buys five of them a minute later. -/
def soldThenBought : WalletHistory :=
  let wallet := "5kqEvH3gnx5HUYA8UmK3Za5gF3kRpY3oUg3TCY4tJhPb"
  let bonk (amount : UInt64) : List OwnedBalance := [⟨some wallet, some "bonk", some amount, some 6⟩]
  let tx (sol sol' amount amount' : UInt64) (time : Int) (signature : String) : HistoryTx :=
    { sig := ⟨signature, none⟩
      tx :=
        { accountKeys := some
            ([wallet, "JUP6LkbZbjS1jKKwapdHNy74zcZ3tLUZoi5QNyVTaV4"].map AccountKey.plain)
          instructions := [some 1]
          signature := some signature
          slot := some 1
          blockTime := some time
          txMeta := some
            { err := none, fee := some 5000
              preBalances := some [some sol, some 1], postBalances := some [some sol', some 1]
              preTokenBalances := bonk amount, postTokenBalances := bonk amount'
              loadedWritable := [], loadedReadonly := [], innerInstructions := [] } }
      order := listOrder
      now := ⟨0, 0⟩ }
  { txs :=
      [tx 11000000000 9999995000 0 5000000 1700000060 "purchase",
        tx 10000005000 11000000000 5000000 0 1700000000 "sale"]
    distinct := by decide
    newestFirst := by decide }

/-- The monitor after the rebuild of that history, with an answer to everything. -/
def rebuiltBackwards : WalletMonitor :=
  (WalletMonitor.new ⟨150, 1000, 900, 2⟩ []).rebuildWalletHistory
    "5kqEvH3gnx5HUYA8UmK3Za5gF3kRpY3oUg3TCY4tJhPb"
    (soldThenBought.txs.map fun x => ⟨x.sig, .found x.tx, x.order, x.now, true⟩)
    1700000120000 1700000121000 listOrder fun _ => false

/-- The rebuild matches the sale with the purchase after it. -/
theorem sale_matched_with_later_purchase :
    ((rebuiltBackwards.accumulators "5kqEvH3gnx5HUYA8UmK3Za5gF3kRpY3oUg3TCY4tJhPb").completedTrades.map
        fun t => (t.entryTime, t.exitTime)) = [(1700000060000, 1700000000000)] ∧
      ¬ ∀ h wallet, ReplaysInOrder h wallet := by
  have htrades : ((rebuiltBackwards.accumulators
      "5kqEvH3gnx5HUYA8UmK3Za5gF3kRpY3oUg3TCY4tJhPb").completedTrades.map
        fun t => (t.entryTime, t.exitTime)) = [(1700000060000, 1700000000000)] := by decide +kernel
  refine ⟨htrades, fun hall => ?_⟩
  have hreads : ReadsHistory soldThenBought "5kqEvH3gnx5HUYA8UmK3Za5gF3kRpY3oUg3TCY4tJhPb"
      rebuiltBackwards := by
    let page : ℕ → Option String → Option (List SignatureEntry) := fun _ before =>
      some (pageOf soldThenBought.txs DEFAULT_REBUILD_PAGE before)
    have hpage : ∀ i before entries, page i before = some entries →
        entries = pageOf soldThenBought.txs DEFAULT_REBUILD_PAGE before :=
      fun _ _ _ h => (Option.some.inj h).symm
    refine (ReadsHistory.start _ []).rebuild List.not_mem_nil (List.suffix_refl _) hpage
      (by decide +kernel) ?_ _ _ _ _
    intro t ht
    obtain ⟨x, hx, rfl⟩ := List.mem_map.mp ht
    exact ⟨x, hx, rfl, .inr (.inr ⟨rfl, rfl, rfl⟩)⟩
  have horder := (hall _ _ _ hreads).trades
  obtain ⟨t, ht, htimes⟩ := List.mem_map.mp (htrades ▸ List.mem_singleton_self _)
  have hle := horder t ht
  rw [(Prod.mk.inj htimes).1, (Prod.mk.inj htimes).2] at hle
  exact absurd hle (by decide)

end SolanaBot.Analysis
