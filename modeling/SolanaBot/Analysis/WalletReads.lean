import Mathlib.Data.Nat.Find
import SolanaBot.Library.Paging
import SolanaBot.Model.HistoryFetch

/-!
# What a fetch of a wallet's trades reads

`fetch_trades` (historical/wallet.rs:161-231) walks back through the signatures of a wallet, a page of a
thousand at a time, until it has as many trades as it was asked for or the history ends. Against a history
it therefore reads the signatures of its first pages, of as many as it takes (`pagesRead`), and returns
their trades (`fetchTrades_reads`). Which ones these are depends on the limit and on how long the history
is at the time.
-/

set_option autoImplicit false

namespace SolanaBot.Analysis

open SolanaBot.Library SolanaBot.Model

/-- A transaction of a wallet, as `getSignaturesForAddress` lists it. -/
structure ChainSignature where
  signature : String
  blockTime : Option Int
  slot : Option UInt64
  failed : Bool
deriving DecidableEq

/-- The element of the answer for it. -/
def ChainSignature.item (e : ChainSignature) : SignatureItem :=
  { signature := some e.signature, blockTime := e.blockTime, slot := e.slot, failed := e.failed }

/-- The trade that is enumerated for it: none if it failed or its time is not known. -/
def ChainSignature.trade (wallet : String) (e : ChainSignature) : Option WalletTrade :=
  if e.failed then none
  else (blockTimeOf e.blockTime).map fun t => enumeratedTrade wallet t e.signature e.slot

/-- The trades of signatures. -/
def enumeratedTrades (wallet : String) (signatures : List ChainSignature) : List WalletTrade :=
  signatures.filterMap (ChainSignature.trade wallet)

/-- A network that answers from a wallet's history: the next signatures behind the cursor, a thousand or
all that are left. -/
def signatureRpc (history : List ChainSignature) : SignatureRpc :=
  fun before =>
    .ok (some ((pageBehind ChainSignature.signature 1000 history before).map ChainSignature.item))

/-- The limit is reached within a number of pages, or the last of these is not full. -/
def Reaches (wallet : String) (maxSignatures : ℕ) (history : List ChainSignature) (pages : ℕ) : Prop :=
  maxSignatures ≤ (enumeratedTrades wallet (history.take (1000 * (pages + 1)))).length ∨
    history.length < 1000 * (pages + 1)

/-- Whether `Reaches` holds can be evaluated. -/
instance (wallet : String) (maxSignatures : ℕ) (history : List ChainSignature) :
    DecidablePred (Reaches wallet maxSignatures history) :=
  fun _ => inferInstanceAs (Decidable (_ ∨ _))

/-- Some number of pages reaches the end or the limit. -/
theorem reaches_some (wallet : String) (maxSignatures : ℕ) (history : List ChainSignature) :
    ∃ pages, Reaches wallet maxSignatures history pages :=
  ⟨history.length, .inr (by omega)⟩

/-- The pages that are read full before the last one. -/
def pagesRead (wallet : String) (maxSignatures : ℕ) (history : List ChainSignature) : ℕ :=
  Nat.find (reaches_some wallet maxSignatures history)

/-- The number of signatures on the pages that are read. -/
def signaturesRead (wallet : String) (maxSignatures : ℕ) (history : List ChainSignature) : ℕ :=
  1000 * (pagesRead wallet maxSignatures history + 1)

/-- The trades of two lists of signatures. -/
theorem enumeratedTrades_append (wallet : String) (l l' : List ChainSignature) :
    enumeratedTrades wallet (l ++ l') = enumeratedTrades wallet l ++ enumeratedTrades wallet l' :=
  List.filterMap_append

/-- The items of a page add their trades, and the last one leaves its signature. -/
theorem foldlM_readItem (wallet : String) (page : List ChainSignature) (all : List WalletTrade)
    (last : Option String) :
    (page.map ChainSignature.item).foldlM (readItem wallet) (all, last) =
      .ok (all ++ enumeratedTrades wallet page,
        (page.getLast?.map ChainSignature.signature).or last) := by
  induction page generalizing all last with
  | nil =>
      rw [List.map_nil, List.foldlM_nil, enumeratedTrades, List.filterMap_nil, List.append_nil]
      rfl
  | cons e page ih =>
      have hitem : readItem wallet (all, last) e.item =
          .ok (all ++ enumeratedTrades wallet [e], some e.signature) := by
        unfold readItem ChainSignature.item enumeratedTrades ChainSignature.trade
        cases hfailed : e.failed with
        | true => simp [hfailed]
        | false => cases hblock : blockTimeOf e.blockTime <;> simp [hfailed, hblock]
      rw [List.map_cons, List.foldlM_cons, hitem]
      change (page.map ChainSignature.item).foldlM (readItem wallet)
        (all ++ enumeratedTrades wallet [e], some e.signature) = _
      rw [ih, List.append_assoc, ← enumeratedTrades_append, List.singleton_append]
      rw [List.getLast?_cons]
      cases page.getLast? <;> rfl

/-- One turn of the walk against a history. -/
theorem fetchTrades_turn {history page : List ChainSignature} {before : Option String}
    (hpage : pageBehind ChainSignature.signature 1000 history before = page) (wallet : String)
    (maxSignatures fuel : ℕ) (all : List WalletTrade) :
    fetchTrades (signatureRpc history) wallet maxSignatures (fuel + 1) before all =
      if maxSignatures ≤ (all ++ enumeratedTrades wallet page).length ∧ page ≠ [] ∨ page.length < 1000
      then some (.ok (all ++ enumeratedTrades wallet page))
      else fetchTrades (signatureRpc history) wallet maxSignatures fuel
        (page.getLast?.map ChainSignature.signature) (all ++ enumeratedTrades wallet page) := by
  have hitems : signatureRpc history before = .ok (some (page.map ChainSignature.item)) := by
    rw [signatureRpc, hpage]
  rw [fetchTrades, hitems]
  simp only [foldlM_readItem, Option.or_none, List.length_map]
  by_cases hempty : page = []
  · rw [hempty]
    simp [enumeratedTrades]
  · have hlength : page.length ≠ 0 := mt List.length_eq_zero_iff.mp hempty
    have hlast : page.getLast?.map ChainSignature.signature ≠ none := by
      simpa using hempty
    rw [if_neg hlength]
    by_cases hreached : maxSignatures ≤ (all ++ enumeratedTrades wallet page).length
    · rw [if_pos (.inl hreached), if_pos (.inl ⟨hreached, hempty⟩)]
    · rw [if_neg (not_or.mpr ⟨hreached, hlast⟩)]
      by_cases hshort : page.length < 1000
      · rw [if_pos hshort, if_pos (.inr hshort)]
      · rw [if_neg hshort, if_neg (not_or.mpr ⟨fun h => hreached h.1, hshort⟩)]

/-- The state of the walk after full pages. -/
structure Walking (wallet : String) (maxSignatures : ℕ) (history read : List ChainSignature)
    (before : Option String) (pages : ℕ) : Prop where
  reading : Reading ChainSignature.signature history read before
  length_eq : read.length = 1000 * pages
  open_before : ∀ n < pages, ¬ Reaches wallet maxSignatures history n

/-- The read with the next page is the first part of the history with one page more. -/
theorem Walking.read_page {wallet : String} {maxSignatures : ℕ} {history read : List ChainSignature}
    {before : Option String} {pages : ℕ} (h : Walking wallet maxSignatures history read before pages) :
    read ++ pageBehind ChainSignature.signature 1000 history before =
      history.take (1000 * (pages + 1)) := by
  have hhistory := h.reading.rest
  have hlength := h.length_eq
  conv_rhs => rw [← hhistory]
  rw [List.take_append, List.take_of_length_le (by omega)]
  congr 2
  omega

/-- The next page is full unless the history ends on it. -/
theorem Walking.page_short_iff {wallet : String} {maxSignatures : ℕ}
    {history read : List ChainSignature} {before : Option String} {pages : ℕ}
    (h : Walking wallet maxSignatures history read before pages) :
    (pageBehind ChainSignature.signature 1000 history before).length < 1000 ↔
      history.length < 1000 * (pages + 1) := by
  have hlength := congrArg List.length h.read_page
  rw [List.length_append, h.length_eq, List.length_take] at hlength
  omega

/-- **What is read.** Against a history with distinct signatures, with enough fuel the walk ends, and it
returns the trades of the pages that it takes. -/
theorem fetchTrades_from {wallet : String} {maxSignatures : ℕ} {history : List ChainSignature}
    (hdistinct : (history.map ChainSignature.signature).Nodup) {pages : ℕ} {read : List ChainSignature}
    {before : Option String} (h : Walking wallet maxSignatures history read before pages) {fuel : ℕ}
    (hfuel : pagesRead wallet maxSignatures history < pages + fuel) :
    fetchTrades (signatureRpc history) wallet maxSignatures fuel before (enumeratedTrades wallet read) =
      some (.ok (enumeratedTrades wallet
        (history.take (signaturesRead wallet maxSignatures history)))) := by
  induction fuel generalizing pages read before with
  | zero =>
      -- the pages in front did not reach the limit
      have hreached : Reaches wallet maxSignatures history (pagesRead wallet maxSignatures history) :=
        Nat.find_spec _
      exact absurd hreached (h.open_before _ (by omega))
  | succ fuel ih =>
      have hread := h.read_page
      have hshort := h.page_short_iff
      rw [fetchTrades_turn rfl, ← enumeratedTrades_append, hread]
      by_cases hreaches : Reaches wallet maxSignatures history pages
      · have hpages : pagesRead wallet maxSignatures history = pages :=
          (Nat.find_eq_iff _).mpr ⟨hreaches, h.open_before⟩
        rw [signaturesRead, hpages]
        apply if_pos
        by_cases hends : history.length < 1000 * (pages + 1)
        · exact .inr (hshort.mpr hends)
        · left
          refine ⟨hreaches.resolve_right hends, fun hempty => hends (hshort.mp ?_)⟩
          rw [hempty]
          decide
      · obtain ⟨hlimit, hends⟩ := not_or.mp hreaches
        have hfull := mt hshort.mp hends
        rw [if_neg (not_or.mpr ⟨fun hstops => hlimit hstops.1, hfull⟩)]
        cases hlast : (pageBehind ChainSignature.signature 1000 history before).getLast? with
        | none =>
            rw [List.getLast?_eq_none_iff.mp hlast] at hfull
            exact absurd (by decide) hfull
        | some last =>
            have hnext : Walking wallet maxSignatures history (history.take (1000 * (pages + 1)))
                (some last.signature) (pages + 1) := by
              refine ⟨hread ▸ h.reading.next hdistinct hlast, ?_, fun n hn => ?_⟩
              · rw [List.length_take]
                omega
              · rcases Nat.lt_succ_iff_lt_or_eq.mp hn with hlt | rfl
                · exact h.open_before n hlt
                · exact hreaches
            exact ih hnext (by omega)

/-- **The trades of a wallet.** -/
theorem fetchTrades_reads {wallet : String} (maxSignatures : ℕ) {history : List ChainSignature}
    (hdistinct : (history.map ChainSignature.signature).Nodup) {fuel : ℕ}
    (hfuel : history.length < fuel) :
    fetchTrades (signatureRpc history) wallet maxSignatures fuel none [] =
      some (.ok (enumeratedTrades wallet
        (history.take (signaturesRead wallet maxSignatures history)))) := by
  have hstart : Walking wallet maxSignatures history [] none 0 :=
    ⟨Reading.start history, rfl, fun n hn => absurd hn (Nat.not_lt_zero n)⟩
  have hpages : pagesRead wallet maxSignatures history ≤ history.length :=
    Nat.find_min' _ (.inr (by omega))
  exact fetchTrades_from hdistinct hstart (by omega)

/-- A history of fewer than a thousand transactions is read whole. -/
theorem take_signaturesRead (wallet : String) (maxSignatures : ℕ) {history : List ChainSignature}
    (hshort : history.length < 1000) :
    history.take (signaturesRead wallet maxSignatures history) = history := by
  apply List.take_of_length_le
  unfold signaturesRead
  omega

end SolanaBot.Analysis
