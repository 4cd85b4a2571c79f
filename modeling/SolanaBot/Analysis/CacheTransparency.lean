import Mathlib.Algebra.Order.BigOperators.Group.List
import Mathlib.Data.List.Sort
import SolanaBot.Analysis.PageWindows
import SolanaBot.Analysis.WalletReads

/-!
# Reads through a stale cache

The trades of a wallet and the pages of candles are read from the disk if an earlier call has written
them (historical/wallet.rs:140-159, historical/ohlcv.rs:330-349). The name of a wallet's file has neither
the limit nor the time of the call, and the name of a page's file does not tell whether the candles of the
page were closed. A call therefore reads what the network had when its file was written.

The network is a history that only grows. The result of a call is the one without a cache if the reads
that wrote its files cover what the call itself would read: the same trades up to `as_of`, and the same
candles of each page (`ReadSafely`), which pages have whose candles were closed when they were first asked
for (`ReadSafely.of_closed`). In a run whose calls all do, every result is the one without a cache
(`cache_transparent`); a wallet that has traded since its file was written is the simplest run that fails
(`stale_wallet_file`).
-/

set_option autoImplicit false

namespace SolanaBot.Analysis

open SolanaBot.Library SolanaBot.Model

/-! ## The history and the calls -/

/-- What the network has at a time: the transactions of every wallet, the newest first, and the candles of
every market. -/
structure ChainHistory where
  now : Int
  signatures : String → List ChainSignature
  candles : String → OhlcvInterval → List OhlcvCandle
  distinct : ∀ wallet, ((signatures wallet).map ChainSignature.signature).Nodup

/-- A history is only added to: transactions at the head, and candles that were not closed yet. -/
structure ChainHistory.Grows (h h' : ChainHistory) : Prop where
  later : h.now ≤ h'.now
  signatures : ∀ wallet, h.signatures wallet <:+ h'.signatures wallet
  closed : ∀ mint interval c, c.second + interval.seconds ≤ h.now →
    (c ∈ h.candles mint interval ↔ c ∈ h'.candles mint interval)

/-- The candles that open from one second to another. -/
def ChainHistory.page (h : ChainHistory) (mint : String) (interval : OhlcvInterval)
    (fromTs toTs : Int) : List OhlcvCandle :=
  (h.candles mint interval).filter fun c => fromTs ≤ c.second ∧ c.second ≤ toTs

/-- The provider answers a page with its candles. -/
def ChainHistory.provider (h : ChainHistory) : PageProvider :=
  fun mint interval from' to' => .ok (h.page mint interval from'.timestamp to'.timestamp)

/-- The two calls of the pipeline. -/
inductive FetchCall where
  | walletTrades (wallet : String) (asOf : Time) (maxSignatures : ℕ)
  | window (mint : String) (interval : OhlcvInterval) (from' to' : DateTimeUtc)

/-- What a call returns, if it does. -/
inductive FetchResult where
  | trades (result : Option (Except WalletReconstructionError (List WalletTrade)))
  | candles (result : Option (Except FetchStop (List OhlcvCandle)))
deriving DecidableEq

/-- A call for a window. One that does not return leaves the files unchanged. -/
def runWindow (source : PageSource FetchCache) (pageSeconds : Int) (from' to' : DateTimeUtc) (fuel : ℕ)
    (disk : FetchCache) : FetchResult × FetchCache :=
  match fetchWindow source (.ok ()) pageSeconds from' to' fuel disk with
  | none => (.candles none, disk)
  | some (result, disk) => (.candles (some result), disk)

/-- A call against the history of its time. -/
def FetchCall.run (pageSeconds : Int) (fuel : ℕ) (h : ChainHistory) (disk : FetchCache) :
    FetchCall → FetchResult × FetchCache
  | .walletTrades wallet asOf maxSignatures =>
      let answered := fetchWalletTrades (signatureRpc (h.signatures wallet)) wallet asOf maxSignatures
        fuel disk
      (.trades answered.1, answered.2)
  | .window mint interval from' to' =>
      runWindow (fetchPage h.provider pageSeconds mint interval) pageSeconds from' to' fuel disk

/-- The files that calls leave behind. -/
def diskAfter (pageSeconds : Int) (fuel : ℕ) (calls : List (ChainHistory × FetchCall)) : FetchCache :=
  calls.foldl (fun disk c => (c.2.run pageSeconds fuel c.1 disk).2) .empty

/-- Every call returns what it would without the files of the calls before it. -/
def Transparent (pageSeconds : Int) (fuel : ℕ) (calls : List (ChainHistory × FetchCall)) : Prop :=
  ∀ before h call after, calls = before ++ (h, call) :: after →
    (call.run pageSeconds fuel h (diskAfter pageSeconds fuel before)).1 =
      (call.run pageSeconds fuel h .empty).1

/-! ## The condition -/

/-- A transaction that has a trade dated at or before a time. -/
def ChainSignature.upTo (asOf : Time) (e : ChainSignature) : Bool :=
  !e.failed && (blockTimeOf e.blockTime).any (· ≤ asOf)

/-- The first call for a wallet's file: its history, wallet and limit. -/
def writerOf (file : String) (calls : List (ChainHistory × FetchCall)) :
    Option (ChainHistory × String × ℕ) :=
  calls.findSome? fun c =>
    match c.2 with
    | .walletTrades wallet _ maxSignatures =>
        if walletFile wallet = file then some (c.1, wallet, maxSignatures) else none
    | .window .. => none

/-- The pages that a window is asked for in. -/
def PageOf (pageSeconds : Int) (from' to' start last : DateTimeUtc) : Prop :=
  (∃ k : ℕ, start.nanos = from'.nanos + k * (pageSeconds * SECOND)) ∧ start.nanos ≤ to'.nanos ∧
    last.nanos = min (start.nanos + pageSeconds * SECOND - SECOND) to'.nanos

/-- The files that a call reads have what it would be answered itself. For a wallet, the call that wrote
the file was for the same wallet, and a transaction with a trade up to `as_of` is covered by both reads or
by none. For a window, the candles of each of its pages are those that there were at every earlier call
for that page. -/
def ReadSafely (pageSeconds : Int) (before : List (ChainHistory × FetchCall)) (h : ChainHistory) :
    FetchCall → Prop
  | .walletTrades wallet asOf maxSignatures =>
      ∀ h₀ wallet₀ max₀, writerOf (walletFile wallet) before = some (h₀, wallet₀, max₀) →
        wallet₀ = wallet ∧ ∀ e ∈ h.signatures wallet, e.upTo asOf = true →
          (e ∈ (h.signatures wallet).take (signaturesRead wallet maxSignatures (h.signatures wallet)) ↔
            e ∈ (h₀.signatures wallet).take (signaturesRead wallet max₀ (h₀.signatures wallet)))
  | .window mint interval from' to' =>
      ∀ start last, PageOf pageSeconds from' to' start last →
        ∀ h₀ mint₀ from₀ to₀ start₀ last₀, (h₀, FetchCall.window mint₀ interval from₀ to₀) ∈ before →
          PageOf pageSeconds from₀ to₀ start₀ last₀ →
          cachePath pageSeconds mint₀ interval start₀ last₀ =
            cachePath pageSeconds mint interval start last →
          h₀.page mint₀ interval start.timestamp last.timestamp =
            h.page mint interval start.timestamp last.timestamp

/-- The candles of every market are kept in the order in which they open. -/
def ChainHistory.InOrder (h : ChainHistory) : Prop :=
  ∀ mint interval, (h.candles mint interval).Pairwise fun c c' => c.second < c'.second

/-- A page whose candles were closed is the same in every later history. -/
theorem ChainHistory.page_eq_of_closed {h₀ h : ChainHistory} (hgrows : h₀.Grows h)
    (hordered₀ : h₀.InOrder) (hordered : h.InOrder) {mint : String} {interval : OhlcvInterval}
    {fromTs toTs : Int} (hclosed : toTs + interval.seconds ≤ h₀.now) :
    h₀.page mint interval fromTs toTs = h.page mint interval fromTs toTs := by
  let opensBefore (c c' : OhlcvCandle) : Prop := c.second < c'.second
  have : Std.Irrefl opensBefore := ⟨fun c => lt_irrefl c.second⟩
  have : Std.Antisymm opensBefore := ⟨fun c c' hlt hgt => absurd hlt (lt_asymm hgt)⟩
  refine List.Pairwise.eq_of_mem_iff (r := opensBefore) ((hordered₀ mint interval).filter _)
    ((hordered mint interval).filter _) fun c => ?_
  simp only [page, List.mem_filter, decide_eq_true_eq]
  refine and_congr_left fun hin => hgrows.closed mint interval c ?_
  omega

/-- The page of a window ends with the window at the latest. -/
theorem PageOf.timestamp_le {pageSeconds : Int} {from' to' start last : DateTimeUtc}
    (h : PageOf pageSeconds from' to' start last) : last.timestamp ≤ to'.timestamp := by
  have hlast : last.nanos ≤ to'.nanos := by
    rw [h.2.2]
    exact min_le_right _ _
  unfold DateTimeUtc.timestamp
  exact Int.ediv_le_ediv (by decide) hlast

/-- A window is read safely if its candles were closed at every earlier call, and no other market has
the names of its files. -/
theorem ReadSafely.of_closed {pageSeconds : Int} {before : List (ChainHistory × FetchCall)}
    {h : ChainHistory} {mint : String} {interval : OhlcvInterval} {from' to' : DateTimeUtc}
    (hgrows : ∀ c ∈ before, c.1.Grows h) (hordered₀ : ∀ c ∈ before, c.1.InOrder) (hordered : h.InOrder)
    (hmint : ∀ mint₀ start last, cachePath pageSeconds mint₀ interval start last =
      cachePath pageSeconds mint interval start last → mint₀ = mint)
    (hclosed : ∀ c ∈ before, to'.timestamp + interval.seconds ≤ c.1.now) :
    ReadSafely pageSeconds before h (.window mint interval from' to') := by
  intro start last hpage h₀ mint₀ from₀ to₀ start₀ last₀ hbefore hpage₀ hpath
  have hname : mint₀ = mint := by
    apply hmint mint₀ start last
    have hsafe := congrArg PageFile.safeMint hpath
    unfold cachePath at hsafe ⊢
    exact congrArg (fun name => PageFile.mk name _ _ _ _) hsafe
  subst hname
  have hlast := hpage.timestamp_le
  have hthen := hclosed _ hbefore
  exact ChainHistory.page_eq_of_closed (hgrows _ hbefore) (hordered₀ _ hbefore) hordered (by omega)

/-- Every call of a run reads safely. -/
def ReadsSafely (pageSeconds : Int) (calls : List (ChainHistory × FetchCall)) : Prop :=
  ∀ before h call after, calls = before ++ (h, call) :: after → ReadSafely pageSeconds before h call

/-! ## Wallets -/

/-- What a call for a wallet reads without a file. -/
def walletRead (h : ChainHistory) (wallet : String) (maxSignatures : ℕ) : List WalletTrade :=
  enumeratedTrades wallet
    ((h.signatures wallet).take (signaturesRead wallet maxSignatures (h.signatures wallet)))

/-- What a call returns of the trades that it has read. -/
def tradesUpTo (asOf : Time) (trades : List WalletTrade) : List WalletTrade :=
  (trades.filter fun t => t.blockTime ≤ asOf).mergeSort fun a b => a.blockTime ≤ b.blockTime

/-- The trades of one signature more. -/
theorem enumeratedTrades_cons (wallet : String) (e : ChainSignature) (l : List ChainSignature) :
    enumeratedTrades wallet (e :: l) = (e.trade wallet).toList ++ enumeratedTrades wallet l := by
  unfold enumeratedTrades
  rw [List.filterMap_cons]
  cases e.trade wallet <;> rfl

/-- A trade up to a time is one of a signature up to it. -/
theorem filter_trade (wallet : String) (asOf : Time) (e : ChainSignature) :
    ((e.trade wallet).toList.filter fun t => t.blockTime ≤ asOf) =
      if e.upTo asOf = true then (e.trade wallet).toList else [] := by
  unfold ChainSignature.trade ChainSignature.upTo
  cases e.failed with
  | true => rfl
  | false =>
      cases blockTimeOf e.blockTime with
      | none => rfl
      | some t => by_cases h : t ≤ asOf <;> simp [enumeratedTrade, h]

/-- The trades up to a time are those of the transactions up to it. -/
theorem filter_enumeratedTrades (wallet : String) (asOf : Time) (l : List ChainSignature) :
    ((enumeratedTrades wallet l).filter fun t => t.blockTime ≤ asOf) =
      enumeratedTrades wallet (l.filter (ChainSignature.upTo asOf)) := by
  induction l with
  | nil => rfl
  | cons e l ih =>
      rw [enumeratedTrades_cons, List.filter_append, ih, filter_trade]
      by_cases hupTo : e.upTo asOf = true
      · rw [if_pos hupTo, List.filter_cons_of_pos hupTo, enumeratedTrades_cons]
      · rw [if_neg hupTo, List.filter_cons_of_neg hupTo, List.nil_append]

/-- Reads that cover the same trades up to a time return the same. -/
theorem tradesUpTo_eq {h h₀ : ChainHistory} (hgrows : h₀.Grows h) {wallet : String} {asOf : Time}
    {max max₀ : ℕ}
    (hcover : ∀ e ∈ h.signatures wallet, e.upTo asOf = true →
      (e ∈ (h.signatures wallet).take (signaturesRead wallet max (h.signatures wallet)) ↔
        e ∈ (h₀.signatures wallet).take (signaturesRead wallet max₀ (h₀.signatures wallet)))) :
    tradesUpTo asOf (walletRead h₀ wallet max₀) = tradesUpTo asOf (walletRead h wallet max) := by
  unfold tradesUpTo walletRead
  rw [filter_enumeratedTrades, filter_enumeratedTrades,
    filter_reads_eq (h.distinct wallet).of_map (hgrows.signatures wallet) hcover]

/-- A call for a wallet whose file is there. -/
theorem fetchWalletTrades_cached {disk : FetchCache} {wallet : String} {cached : List WalletTrade}
    (hfile : disk.trades (walletFile wallet) = some cached) (call : SignatureRpc) (asOf : Time)
    (maxSignatures fuel : ℕ) :
    fetchWalletTrades call wallet asOf maxSignatures fuel disk =
      (some (.ok (tradesUpTo asOf cached)), disk) := by
  unfold fetchWalletTrades
  rw [hfile]
  rfl

/-- A call for a wallet without a file. -/
theorem fetchWalletTrades_fresh {disk : FetchCache} {wallet : String}
    (hfile : disk.trades (walletFile wallet) = none) (h : ChainHistory) (asOf : Time)
    (maxSignatures : ℕ) {fuel : ℕ} (hfuel : (h.signatures wallet).length < fuel) :
    fetchWalletTrades (signatureRpc (h.signatures wallet)) wallet asOf maxSignatures fuel disk =
      (some (.ok (tradesUpTo asOf (walletRead h wallet maxSignatures))),
        { disk with
          trades := Function.update disk.trades (walletFile wallet)
            (some (walletRead h wallet maxSignatures)) }) := by
  unfold fetchWalletTrades
  rw [hfile, fetchTrades_reads maxSignatures (h.distinct wallet) hfuel]
  rfl

/-! ## Windows -/

/-- A source of pages whose content is given. -/
def givenPages (content : DateTimeUtc → DateTimeUtc → List OhlcvCandle) : PageSource Unit :=
  fun from' to' s => (.ok (content from' to'), s)

/-- A time has the nanoseconds it was made of. -/
theorem nanos_of_ofNanos {nanos : Int} {t : DateTimeUtc} (h : DateTimeUtc.ofNanos nanos = .ok t) :
    t.nanos = nanos := by
  unfold DateTimeUtc.ofNanos at h
  by_cases hrange : MIN_UTC ≤ nanos ∧ nanos ≤ MAX_UTC
  · rw [dif_pos hrange] at h
    cases h
    rfl
  · rw [dif_neg hrange] at h
    cases h

/-- The end of a page, in nanoseconds. -/
theorem nanos_of_pageEnd {start to' last : DateTimeUtc} {step : Int}
    (h : pageEnd start step to' = .ok last) :
    last.nanos = min (start.nanos + step - SECOND) to'.nanos := by
  unfold pageEnd DateTimeUtc.add DateTimeUtc.sub at h
  cases hpast : DateTimeUtc.ofNanos (start.nanos + step) with
  | error fault =>
      rw [hpast] at h
      cases h
  | ok past =>
      rw [hpast, ok_bind] at h
      cases hfull : DateTimeUtc.ofNanos (past.nanos - SECOND) with
      | error fault =>
          rw [hfull] at h
          cases h
      | ok full =>
          rw [hfull, ok_bind] at h
          cases h
          rw [earlier_nanos, nanos_of_ofNanos hfull, nanos_of_ofNanos hpast]

section Pages

variable {σ : Type} {source : PageSource σ} {I : σ → Prop} {pageSeconds : Int}
  {from' to' : DateTimeUtc} {content : DateTimeUtc → DateTimeUtc → List OhlcvCandle}

/-- The loop stands at a page of the window, or behind the window. -/
def AtPage (pageSeconds : Int) (from' to' start : DateTimeUtc) : Prop :=
  to'.nanos < start.nanos ∨ ∃ k : ℕ, start.nanos = from'.nanos + k * (pageSeconds * SECOND)

/-- The page after a page. -/
theorem AtPage.next {start last next : DateTimeUtc} {k : ℕ}
    (hstart : start.nanos = from'.nanos + k * (pageSeconds * SECOND))
    (hlast : pageEnd start (pageSeconds * SECOND) to' = .ok last)
    (hnext : last.add SECOND = .ok next) : AtPage pageSeconds from' to' next := by
  have hsecond : 0 < SECOND := by decide
  have hlastNanos := nanos_of_pageEnd hlast
  have hnextNanos : next.nanos = last.nanos + SECOND := nanos_of_ofNanos hnext
  rcases min_cases (start.nanos + pageSeconds * SECOND - SECOND) to'.nanos with
    ⟨hmin, -⟩ | ⟨hmin, -⟩
  · right
    refine ⟨k + 1, ?_⟩
    rw [hnextNanos, hlastNanos, hmin, sub_add_cancel, hstart]
    push_cast
    ring
  · left
    rw [hnextNanos, hlastNanos, hmin]
    omega

/-- A source that has the content of every page of the window is as good as that content, and keeps what
every page keeps. -/
theorem fetchPages_given
    (hsource : ∀ start last s, PageOf pageSeconds from' to' start last → I s →
      (source start last s).1 = .ok (content start last) ∧ I (source start last s).2)
    (fuel : ℕ) {st : WindowLoop} {s : σ} (hat : AtPage pageSeconds from' to' st.pageStart) (hI : I s) :
    (fetchPages source to' (pageSeconds * SECOND) fuel st s).map Prod.fst =
        (fetchPages (givenPages content) to' (pageSeconds * SECOND) fuel st ()).map Prod.fst ∧
      ∀ result s', fetchPages source to' (pageSeconds * SECOND) fuel st s = some (result, s') →
        I s' := by
  induction fuel generalizing st s with
  | zero => exact ⟨rfl, fun result s' h => by cases h⟩
  | succ fuel ih =>
      rw [fetchPages, fetchPages]
      by_cases hin : st.pageStart.nanos ≤ to'.nanos
      · rw [if_pos hin, if_pos hin]
        obtain ⟨k, hk⟩ := hat.resolve_left (not_lt.mpr hin)
        cases hlast : pageEnd st.pageStart (pageSeconds * SECOND) to' with
        | error fault =>
            refine ⟨rfl, fun result s' h => ?_⟩
            cases h
            exact hI
        | ok last =>
            obtain ⟨hcontent, hI'⟩ :=
              hsource st.pageStart last s ⟨⟨k, hk⟩, hin, nanos_of_pageEnd hlast⟩ hI
            cases hanswer : source st.pageStart last s with
            | mk answer s' =>
                rw [hanswer] at hcontent hI'
                dsimp only at hcontent hI'
                subst hcontent
                cases hnext : last.add SECOND with
                | error fault =>
                    refine ⟨by simp only [hanswer, hnext, givenPages, Option.map_some],
                      fun result s'' h => ?_⟩
                    simp only [hanswer, hnext] at h
                    cases h
                    exact hI'
                | ok next =>
                    simp only [hanswer, hnext, givenPages]
                    exact ih (AtPage.next hk hlast hnext) hI'
      · rw [if_neg hin, if_neg hin]
        refine ⟨rfl, fun result s' h => ?_⟩
        cases h
        exact hI

/-- The whole fetch from such a source. -/
theorem fetchWindow_given
    (hsource : ∀ start last s, PageOf pageSeconds from' to' start last → I s →
      (source start last s).1 = .ok (content start last) ∧ I (source start last s).2)
    (fuel : ℕ) {s : σ} (hI : I s) :
    (fetchWindow source (.ok ()) pageSeconds from' to' fuel s).map Prod.fst =
        (fetchWindow (givenPages content) (.ok ()) pageSeconds from' to' fuel ()).map Prod.fst ∧
      ∀ result s', fetchWindow source (.ok ()) pageSeconds from' to' fuel s = some (result, s') →
        I s' := by
  unfold fetchWindow
  by_cases hwrong : from'.nanos > to'.nanos
  · rw [if_pos hwrong, if_pos hwrong]
    refine ⟨rfl, fun result s' h => ?_⟩
    cases h
    exact hI
  rw [if_neg hwrong, if_neg hwrong]
  dsimp only
  by_cases hduration : -9223372036854775 ≤ pageSeconds ∧ pageSeconds ≤ 9223372036854775
  · have hseconds : durationSeconds pageSeconds = .ok (pageSeconds * SECOND) := if_pos hduration
    have hloop := @fetchPages_given σ source I pageSeconds from' to' content hsource fuel
      { all := .empty OhlcvCandle.second, pageStart := from', pages := 0 } s
      (.inr ⟨0, by rw [Nat.cast_zero, zero_mul, add_zero]⟩) hI
    rw [hseconds]
    dsimp only
    obtain ⟨hsame, hkeeps⟩ := hloop
    generalize fetchPages source to' (pageSeconds * SECOND) fuel _ s = cached at hsame hkeeps ⊢
    generalize fetchPages (givenPages content) to' (pageSeconds * SECOND) fuel _ () = given at hsame ⊢
    cases cached with
    | none =>
        cases given with
        | none => exact ⟨rfl, fun result s' h => by cases h⟩
        | some g => cases hsame
    | some c =>
        cases given with
        | none => cases hsame
        | some g =>
            obtain ⟨ending, s'⟩ := c
            obtain ⟨ending', u⟩ := g
            have hending : ending = ending' := Option.some.inj hsame
            subst hending
            have hkept := hkeeps ending s' rfl
            cases ending with
            | error stop => exact ⟨rfl, fun result s'' h => by cases h; exact hkept⟩
            | ok st => exact ⟨rfl, fun result s'' h => by cases h; exact hkept⟩
  · have hseconds : durationSeconds pageSeconds = .error .overflow := if_neg hduration
    rw [hseconds]
    refine ⟨rfl, fun result s' h => ?_⟩
    cases h
    exact hI

end Pages

/-! ## Runs -/

/-- A file of candles is one of those that a call for a window writes. -/
def WritesPage (pageSeconds : Int) (path : PageFile) (candles : List OhlcvCandle) (h : ChainHistory) :
    FetchCall → Prop
  | .walletTrades .. => False
  | .window mint interval from' to' =>
      ∃ start last, PageOf pageSeconds from' to' start last ∧
        path = cachePath pageSeconds mint interval start last ∧
        candles = h.page mint interval start.timestamp last.timestamp

/-- The files on the disk are those that the calls have written. A wallet's file is of the first call for
it. -/
structure DiskFrom (pageSeconds : Int) (before : List (ChainHistory × FetchCall)) (disk : FetchCache) :
    Prop where
  trades : ∀ file, disk.trades file =
    (writerOf file before).map fun w => walletRead w.1 w.2.1 w.2.2
  candles : ∀ path candles, disk.candles path = some candles →
    ∃ c ∈ before, WritesPage pageSeconds path candles c.1 c.2

/-- What the source of a call for a window keeps: the files that were there, and those of its pages. -/
structure KeepsFiles (pageSeconds : Int) (h : ChainHistory) (call : FetchCall) (disk disk' : FetchCache) :
    Prop where
  trades : disk'.trades = disk.trades
  candles : ∀ path candles, disk'.candles path = some candles →
    disk.candles path = some candles ∨ WritesPage pageSeconds path candles h call

/-- A page through the cache: its candles, if the files that are there have those of the history. -/
theorem fetchPage_given {pageSeconds : Int} {h : ChainHistory} {mint : String}
    {interval : OhlcvInterval} {from' to' : DateTimeUtc} {disk disk' : FetchCache}
    (hsafe : ∀ start last candles, PageOf pageSeconds from' to' start last →
      disk.candles (cachePath pageSeconds mint interval start last) = some candles →
      candles = h.page mint interval start.timestamp last.timestamp)
    (hkeeps : KeepsFiles pageSeconds h (.window mint interval from' to') disk disk')
    {start last : DateTimeUtc} (hpage : PageOf pageSeconds from' to' start last) :
    (fetchPage h.provider pageSeconds mint interval start last disk').1 =
        .ok (h.page mint interval start.timestamp last.timestamp) ∧
      KeepsFiles pageSeconds h (.window mint interval from' to') disk
        (fetchPage h.provider pageSeconds mint interval start last disk').2 := by
  unfold fetchPage
  dsimp only
  cases hfile : disk'.candles (cachePath pageSeconds mint interval start last) with
  | some cached =>
      refine ⟨?_, hkeeps⟩
      rcases hkeeps.candles _ _ hfile with hthere | ⟨start', last', -, hpath, hcandles⟩
      · exact congrArg Except.ok (hsafe start last cached hpage hthere)
      · -- another page of the call with the same seconds
        have hfrom := congrArg PageFile.fromTs hpath
        have hto := congrArg PageFile.toTs hpath
        dsimp only [cachePath] at hfrom hto
        change Except.ok cached = _
        rw [hcandles, hfrom, hto]
  | none =>
      refine ⟨rfl, hkeeps.trades, fun path candles hwritten => ?_⟩
      dsimp only [ChainHistory.provider] at hwritten
      by_cases hpath : path = cachePath pageSeconds mint interval start last
      · rw [hpath, Function.update_self] at hwritten
        cases hwritten
        exact .inr ⟨start, last, hpage, hpath, rfl⟩
      · rw [Function.update_of_ne hpath] at hwritten
        exact hkeeps.candles path candles hwritten

/-- The fuel that a call takes for the pages of a wallet. -/
def fuelOf (c : ChainHistory × FetchCall) : ℕ :=
  match c.2 with
  | .walletTrades wallet _ _ => (c.1.signatures wallet).length + 1
  | .window .. => 0

/-- The writer of a file is the first one. -/
theorem writerOf_snoc (file : String) (before : List (ChainHistory × FetchCall))
    (c : ChainHistory × FetchCall) :
    writerOf file (before ++ [c]) = (writerOf file before).or (writerOf file [c]) :=
  List.findSome?_append

/-- The writer of a file is one of the calls. -/
theorem mem_of_writerOf {file : String} {calls : List (ChainHistory × FetchCall)}
    {w : ChainHistory × String × ℕ} (h : writerOf file calls = some w) : ∃ c ∈ calls, c.1 = w.1 := by
  obtain ⟨c, hc, hwrites⟩ := List.exists_of_findSome?_eq_some h
  refine ⟨c, hc, ?_⟩
  split at hwrites
  · split at hwrites
    · cases hwrites
      rfl
    · cases hwrites
  · cases hwrites

/-- A call for a window over files that have the candles of its pages: it returns what is made of these,
and keeps the files. -/
theorem run_window_given {pageSeconds : Int} {h : ChainHistory} {disk : FetchCache} {mint : String}
    {interval : OhlcvInterval} {from' to' : DateTimeUtc}
    (hsafe : ∀ start last candles, PageOf pageSeconds from' to' start last →
      disk.candles (cachePath pageSeconds mint interval start last) = some candles →
      candles = h.page mint interval start.timestamp last.timestamp) (fuel : ℕ) :
    ((FetchCall.window mint interval from' to').run pageSeconds fuel h disk).1 =
        .candles ((fetchWindow (givenPages fun start last =>
          h.page mint interval start.timestamp last.timestamp) (.ok ()) pageSeconds from' to' fuel
          ()).map Prod.fst) ∧
      KeepsFiles pageSeconds h (.window mint interval from' to') disk
        ((FetchCall.window mint interval from' to').run pageSeconds fuel h disk).2 := by
  have hstart : KeepsFiles pageSeconds h (.window mint interval from' to') disk disk :=
    ⟨rfl, fun path candles hfile => .inl hfile⟩
  obtain ⟨hsame, hkeeps⟩ := @fetchWindow_given FetchCache
    (fetchPage h.provider pageSeconds mint interval)
    (KeepsFiles pageSeconds h (.window mint interval from' to') disk) pageSeconds from' to'
    (fun start last => h.page mint interval start.timestamp last.timestamp)
    (fun start last s hpage hI => fetchPage_given hsafe hI hpage) fuel disk hstart
  rw [← hsame]
  change (runWindow (fetchPage h.provider pageSeconds mint interval) pageSeconds from' to' fuel disk).1
      = _ ∧ KeepsFiles pageSeconds h _ disk
        (runWindow (fetchPage h.provider pageSeconds mint interval) pageSeconds from' to' fuel disk).2
  unfold runWindow
  cases hfetch : fetchWindow (fetchPage h.provider pageSeconds mint interval) (.ok ()) pageSeconds
      from' to' fuel disk with
  | none => exact ⟨rfl, hstart⟩
  | some answered => exact ⟨rfl, hkeeps answered.1 answered.2 hfetch⟩

/-- A read of a wallet writes the wallet's file. -/
theorem writerOf_wallet (file : String) (h : ChainHistory) (wallet : String) (asOf : Time)
    (maxSignatures : ℕ) :
    writerOf file [(h, .walletTrades wallet asOf maxSignatures)] =
      if walletFile wallet = file then some (h, wallet, maxSignatures) else none := by
  by_cases hfile : walletFile wallet = file <;> simp [writerOf, hfile]

/-- A page that was written stays written. -/
theorem writesPage_snoc {pageSeconds : Int} {path : PageFile} {candles : List OhlcvCandle}
    {before : List (ChainHistory × FetchCall)}
    (h : ∃ c ∈ before, WritesPage pageSeconds path candles c.1 c.2) (c' : ChainHistory × FetchCall) :
    ∃ c ∈ before ++ [c'], WritesPage pageSeconds path candles c.1 c.2 := by
  obtain ⟨c, hc, hwrites⟩ := h
  exact ⟨c, List.mem_append_left _ hc, hwrites⟩

/-- A read of a wallet is the fetch of its trades. -/
theorem run_wallet (pageSeconds : Int) (fuel : ℕ) (h : ChainHistory) (disk : FetchCache)
    (wallet : String) (asOf : Time) (maxSignatures : ℕ) :
    (FetchCall.walletTrades wallet asOf maxSignatures).run pageSeconds fuel h disk =
      (.trades (fetchWalletTrades (signatureRpc (h.signatures wallet)) wallet asOf maxSignatures fuel
          disk).1,
        (fetchWalletTrades (signatureRpc (h.signatures wallet)) wallet asOf maxSignatures fuel
          disk).2) :=
  rfl

/-- A call for a wallet without files. -/
theorem run_wallet_empty (pageSeconds : Int) (h : ChainHistory) (wallet : String) (asOf : Time)
    (maxSignatures : ℕ) {fuel : ℕ} (hfuel : (h.signatures wallet).length < fuel) :
    ((FetchCall.walletTrades wallet asOf maxSignatures).run pageSeconds fuel h .empty).1 =
      .trades (some (.ok (tradesUpTo asOf (walletRead h wallet maxSignatures)))) := by
  have hfile : FetchCache.empty.trades (walletFile wallet) = none := rfl
  rw [run_wallet, fetchWalletTrades_fresh hfile h asOf maxSignatures hfuel]

/-- A call for a wallet. -/
theorem run_wallet_safely {pageSeconds : Int} {before : List (ChainHistory × FetchCall)}
    {disk : FetchCache} (hdisk : DiskFrom pageSeconds before disk) {h : ChainHistory} {wallet : String}
    {asOf : Time} {maxSignatures : ℕ} (hgrows : ∀ c ∈ before, c.1.Grows h)
    (hsafe : ReadSafely pageSeconds before h (.walletTrades wallet asOf maxSignatures)) {fuel : ℕ}
    (hfuel : (h.signatures wallet).length < fuel) :
    ((FetchCall.walletTrades wallet asOf maxSignatures).run pageSeconds fuel h disk).1 =
        .trades (some (.ok (tradesUpTo asOf (walletRead h wallet maxSignatures)))) ∧
      DiskFrom pageSeconds (before ++ [(h, .walletTrades wallet asOf maxSignatures)])
        ((FetchCall.walletTrades wallet asOf maxSignatures).run pageSeconds fuel h disk).2 := by
  have hfile := hdisk.trades (walletFile wallet)
  rw [run_wallet]
  cases hwriter : writerOf (walletFile wallet) before with
  | none =>
      rw [hwriter] at hfile
      rw [fetchWalletTrades_fresh hfile h asOf maxSignatures hfuel]
      refine ⟨rfl, fun file => ?_, fun path candles hthere =>
        writesPage_snoc (hdisk.candles path candles hthere) _⟩
      rw [writerOf_snoc, writerOf_wallet]
      by_cases hsame : walletFile wallet = file
      · subst hsame
        rw [hwriter, if_pos rfl]
        exact Function.update_self _ _ _
      · rw [if_neg hsame, Option.or_none, ← hdisk.trades file]
        exact Function.update_of_ne (Ne.symm hsame) _ _
  | some writer =>
      obtain ⟨h₀, wallet₀, max₀⟩ := writer
      rw [hwriter] at hfile
      rw [fetchWalletTrades_cached hfile]
      obtain ⟨rfl, hcover⟩ := hsafe h₀ wallet₀ max₀ hwriter
      obtain ⟨c, hc, hc₀⟩ := mem_of_writerOf hwriter
      have hgrown : h₀.Grows h := by
        have hc' := hgrows c hc
        rwa [hc₀] at hc'
      refine ⟨?_, fun file => ?_, fun path candles hthere =>
        writesPage_snoc (hdisk.candles path candles hthere) _⟩
      · exact congrArg (fun trades => FetchResult.trades (some (.ok trades)))
          (tradesUpTo_eq hgrown hcover)
      · rw [writerOf_snoc, writerOf_wallet, hdisk.trades file]
        by_cases hsame : walletFile wallet₀ = file
        · subst hsame
          rw [hwriter, Option.some_or]
        · rw [if_neg hsame, Option.or_none]

/-- A call for a window. -/
theorem run_window_safely {pageSeconds : Int} {before : List (ChainHistory × FetchCall)}
    {disk : FetchCache} (hdisk : DiskFrom pageSeconds before disk) {h : ChainHistory} {mint : String}
    {interval : OhlcvInterval} {from' to' : DateTimeUtc}
    (hsafe : ReadSafely pageSeconds before h (.window mint interval from' to')) (fuel : ℕ) :
    ((FetchCall.window mint interval from' to').run pageSeconds fuel h disk).1 =
        ((FetchCall.window mint interval from' to').run pageSeconds fuel h .empty).1 ∧
      DiskFrom pageSeconds (before ++ [(h, .window mint interval from' to')])
        ((FetchCall.window mint interval from' to').run pageSeconds fuel h disk).2 := by
  have hthere : ∀ start last candles, PageOf pageSeconds from' to' start last →
      disk.candles (cachePath pageSeconds mint interval start last) = some candles →
      candles = h.page mint interval start.timestamp last.timestamp := by
    intro start last candles hpage hfile
    obtain ⟨⟨h₀, call₀⟩, hc, hwrites⟩ := hdisk.candles _ _ hfile
    cases call₀ with
    | walletTrades => exact hwrites.elim
    | window mint₀ interval₀ from₀ to₀ =>
        obtain ⟨start₀, last₀, hpage₀, hpath, hcandles⟩ := hwrites
        have hinterval : interval = interval₀ := congrArg PageFile.interval hpath
        have hfrom : start.timestamp = start₀.timestamp := congrArg PageFile.fromTs hpath
        have hto : last.timestamp = last₀.timestamp := congrArg PageFile.toTs hpath
        subst hinterval
        have hsame := hsafe start last hpage h₀ mint₀ from₀ to₀ start₀ last₀ hc hpage₀ hpath.symm
        rw [hcandles, ← hsame, hfrom, hto]
  have hnothing : ∀ start last candles, PageOf pageSeconds from' to' start last →
      FetchCache.empty.candles (cachePath pageSeconds mint interval start last) = some candles →
      candles = h.page mint interval start.timestamp last.timestamp := by
    intro start last candles _ hfile
    cases hfile
  obtain ⟨hresult, hkeeps⟩ := run_window_given hthere fuel
  obtain ⟨hresult', -⟩ := run_window_given hnothing fuel
  refine ⟨hresult.trans hresult'.symm, fun file => ?_, fun path candles hfile => ?_⟩
  · have hnone : writerOf file [(h, .window mint interval from' to')] = none := rfl
    rw [writerOf_snoc, hnone, Option.or_none, hkeeps.trades, hdisk.trades]
  · rcases hkeeps.candles path candles hfile with hbefore | hwrites
    · exact writesPage_snoc (hdisk.candles path candles hbefore) _
    · exact ⟨_, List.mem_append_right _ List.mem_cons_self, hwrites⟩

/-- **One call.** -/
theorem run_safely {pageSeconds : Int} {before : List (ChainHistory × FetchCall)} {disk : FetchCache}
    (hdisk : DiskFrom pageSeconds before disk) {h : ChainHistory} {call : FetchCall}
    (hgrows : ∀ c ∈ before, c.1.Grows h) (hsafe : ReadSafely pageSeconds before h call) {fuel : ℕ}
    (hfuel : fuelOf (h, call) ≤ fuel) :
    (call.run pageSeconds fuel h disk).1 = (call.run pageSeconds fuel h .empty).1 ∧
      DiskFrom pageSeconds (before ++ [(h, call)]) (call.run pageSeconds fuel h disk).2 := by
  cases call with
  | walletTrades wallet asOf maxSignatures =>
      obtain ⟨hresult, hdisk'⟩ := run_wallet_safely hdisk hgrows hsafe hfuel
      exact ⟨hresult.trans (run_wallet_empty pageSeconds h wallet asOf maxSignatures hfuel).symm, hdisk'⟩
  | window mint interval from' to' => exact run_window_safely hdisk hsafe fuel

/-- Earlier calls of safe reads are safe reads. -/
theorem ReadsSafely.of_append {pageSeconds : Int} {calls rest : List (ChainHistory × FetchCall)}
    (h : ReadsSafely pageSeconds (calls ++ rest)) : ReadsSafely pageSeconds calls := by
  intro before h' call after hcalls
  apply h before h' call (after ++ rest)
  rw [hcalls, List.append_assoc, List.cons_append]

/-- **A run.** The files behind it are those of its calls. -/
theorem diskFrom_diskAfter {pageSeconds : Int} {fuel : ℕ} (calls : List (ChainHistory × FetchCall))
    (hgrows : calls.Pairwise fun c c' => c.1.Grows c'.1) (hsafe : ReadsSafely pageSeconds calls)
    (hfuel : ∀ c ∈ calls, fuelOf c ≤ fuel) :
    DiskFrom pageSeconds calls (diskAfter pageSeconds fuel calls) := by
  induction calls using List.reverseRecOn with
  | nil => exact ⟨fun file => rfl, fun path candles hfile => by cases hfile⟩
  | append_singleton calls c ih =>
      rw [List.pairwise_append] at hgrows
      have hdisk := ih hgrows.1 hsafe.of_append fun c' hc' => hfuel c' (List.mem_append_left _ hc')
      have hlast : ReadSafely pageSeconds calls c.1 c.2 := hsafe calls c.1 c.2 [] rfl
      have hstep := run_safely hdisk (fun c' hc' => hgrows.2.2 c' hc' c List.mem_cons_self) hlast
        (hfuel c (List.mem_append_right _ List.mem_cons_self))
      unfold diskAfter
      rw [List.foldl_append]
      exact hstep.2

/-- **When the cache is not seen.** In every run against a history that is only added to, whose calls all
read safely, every call returns with enough fuel what it would return without the files of the calls
before it. -/
theorem cache_transparent (pageSeconds : Int) (calls : List (ChainHistory × FetchCall))
    (hgrows : calls.Pairwise fun c c' => c.1.Grows c'.1) (hsafe : ReadsSafely pageSeconds calls) :
    ∃ enough, ∀ fuel ≥ enough, Transparent pageSeconds fuel calls := by
  refine ⟨(calls.map fuelOf).sum, fun fuel hfuel before h call after hcalls => ?_⟩
  have henough : ∀ c ∈ calls, fuelOf c ≤ fuel := fun c hc =>
    (List.single_le_sum (fun _ _ => Nat.zero_le _) _ (List.mem_map_of_mem hc)).trans hfuel
  subst hcalls
  rw [List.pairwise_append] at hgrows
  have hdisk := diskFrom_diskAfter before hgrows.1 hsafe.of_append fun c hc =>
    henough c (List.mem_append_left _ hc)
  have hstep := run_safely hdisk (fun c hc => hgrows.2.2 c hc (h, call) List.mem_cons_self)
    (hsafe before h call after rfl)
    (henough (h, call) (List.mem_append_right _ List.mem_cons_self))
  exact hstep.1

/-! ## Two runs -/

/-- A wallet has traded once. -/
def tradedOnce : ChainHistory where
  now := 2000
  signatures := fun _ => [⟨"first", some 1000, none, false⟩]
  candles := fun _ _ => []
  distinct := fun _ => by decide

/-- It has traded once more. -/
def tradedTwice : ChainHistory where
  now := 4000
  signatures := fun _ => [⟨"second", some 3000, none, false⟩, ⟨"first", some 1000, none, false⟩]
  candles := fun _ _ => []
  distinct := fun _ => by decide

/-- The sample's history grows by a trade. -/
theorem tradedOnce_grows : tradedOnce.Grows tradedTwice :=
  ⟨by decide, fun _ => ⟨[⟨"second", some 3000, none, false⟩], rfl⟩, fun _ _ _ _ => Iff.rfl⟩

/-- A call before the second trade and one behind it. -/
def twoReads (asOf : Time) : List (ChainHistory × FetchCall) :=
  [(tradedOnce, .walletTrades "w" asOf 10), (tradedTwice, .walletTrades "w" asOf 10)]

/-- The two reads see a growing history. -/
theorem twoReads_grows (asOf : Time) : (twoReads asOf).Pairwise fun c c' => c.1.Grows c'.1 := by
  unfold twoReads
  rw [List.pairwise_pair]
  exact tradedOnce_grows

/-- Two reads are safe if the second is behind the first. -/
theorem readsSafely_pair {pageSeconds : Int} {h h' : ChainHistory} {call call' : FetchCall}
    (hfirst : ReadSafely pageSeconds [] h call) (hsecond : ReadSafely pageSeconds [(h, call)] h' call') :
    ReadsSafely pageSeconds [(h, call), (h', call')] := by
  intro before h₁ call₁ after hcalls
  match before with
  | [] =>
      cases hcalls
      exact hfirst
  | [c] =>
      cases hcalls
      exact hsecond
  | c :: c' :: before =>
      have hlength := congrArg List.length hcalls
      simp at hlength

/-- Reads up to a time before the second trade are transparent. -/
theorem cache_transparent_before_trade :
    ∃ enough, ∀ fuel ≥ enough, Transparent 604800 fuel (twoReads 2000000) := by
  apply cache_transparent 604800 (twoReads 2000000) (twoReads_grows 2000000)
  apply readsSafely_pair
  · intro h₀ wallet₀ max₀ hwriter
    cases hwriter
  · intro h₀ wallet₀ max₀ hwriter
    rw [writerOf_wallet, if_pos rfl] at hwriter
    cases hwriter
    rw [take_signaturesRead "w" 10 (show (tradedTwice.signatures "w").length < 1000 by decide),
      take_signaturesRead "w" 10 (show (tradedOnce.signatures "w").length < 1000 by decide)]
    exact ⟨rfl, by decide⟩

/-- With an `as_of` behind both trades, the second call returns the first one only. -/
theorem stale_wallet_file :
    ((twoReads 5000000).Pairwise fun c c' => c.1.Grows c'.1) ∧
      ∀ fuel ≥ 3, ¬ Transparent 604800 fuel (twoReads 5000000) := by
  refine ⟨twoReads_grows 5000000, fun fuel hfuel htransparent => ?_⟩
  have honce : (tradedOnce.signatures "w").length < fuel := lt_of_lt_of_le (by decide) hfuel
  have htwice : (tradedTwice.signatures "w").length < fuel := lt_of_lt_of_le (by decide) hfuel
  have hfile : (diskAfter 604800 fuel [(tradedOnce, .walletTrades "w" 5000000 10)]).trades
      (walletFile "w") = some (walletRead tradedOnce "w" 10) := by
    have hnone : FetchCache.empty.trades (walletFile "w") = none := rfl
    unfold diskAfter
    rw [List.foldl_cons, List.foldl_nil, run_wallet,
      fetchWalletTrades_fresh hnone tradedOnce 5000000 10 honce]
    exact Function.update_self _ _ _
  have hsecond := htransparent [(tradedOnce, .walletTrades "w" 5000000 10)] tradedTwice
    (.walletTrades "w" 5000000 10) [] rfl
  rw [run_wallet_empty 604800 tradedTwice "w" 5000000 10 htwice, run_wallet,
    fetchWalletTrades_cached hfile] at hsecond
  have hlength : (tradesUpTo 5000000 (walletRead tradedOnce "w" 10)).length =
      (tradesUpTo 5000000 (walletRead tradedTwice "w" 10)).length := by
    injection hsecond with hsome
    injection hsome with hok
    injection hok with htrades
    rw [htrades]
  unfold tradesUpTo walletRead at hlength
  rw [List.length_mergeSort, List.length_mergeSort, filter_enumeratedTrades, filter_enumeratedTrades,
    take_signaturesRead "w" 10 (show (tradedTwice.signatures "w").length < 1000 by decide),
    take_signaturesRead "w" 10 (show (tradedOnce.signatures "w").length < 1000 by decide)] at hlength
  exact absurd hlength (by decide)

end SolanaBot.Analysis
