import Mathlib.Data.List.ReduceOption
import SolanaBot.Library.Validators
import SolanaBot.Model.OhlcvProvider

/-!
# Candles behind a malformed row

`fetch_page_geckoterminal` (historical/ohlcv.rs:437-543) reads the pages of a pool, the newest first, until
a page reaches back to the start of the window or is not full. Whether a page is full is told from the
number of its candles, that is after malformed rows have been dropped. A page is therefore the last one
that is read unless it is `Full`: a hundred rows, all of them well formed and later than the start
(`geckoPages_read`). So the fetch is complete exactly if the pages in front of the last candle of the
window are full (`candles_complete_iff`), and one malformed row on such a page cuts the history off.
-/

set_option autoImplicit false

namespace SolanaBot.Analysis

open SolanaBot.Library SolanaBot.Model

variable {toDecimal : ℚ → Except String Decimal}

/-- A well-formed row of some rows has this candle. -/
def Shows (toDecimal : ℚ → Except String Decimal) (rows : List (List ℚ)) (c : OhlcvCandle) : Prop :=
  ∃ row ∈ rows, geckoCandle toDecimal row = .ok (some c)

/-- The rows have numbers that can be converted. -/
def Readable (toDecimal : ℚ → Except String Decimal) (rows : List (List ℚ)) : Prop :=
  ∀ row ∈ rows, ∃ o, geckoCandle toDecimal row = .ok o

/-- A page behind which the next one is asked for. -/
def Full (toDecimal : ℚ → Except String Decimal) (fromTs : Int) (rows : List (List ℚ)) : Prop :=
  rows.length = 100 ∧ ∀ row ∈ rows, ∃ c, geckoCandle toDecimal row = .ok (some c) ∧ fromTs < c.second

/-- A full page is readable. -/
theorem Full.readable {fromTs : Int} {rows : List (List ℚ)} (h : Full toDecimal fromTs rows) :
    Readable toDecimal rows := by
  intro row hrow
  obtain ⟨c, hc, -⟩ := h.2 row hrow
  exact ⟨some c, hc⟩

/-! ## One page -/

/-- A page is readable exactly if it is parsed. -/
theorem readable_iff {rows : List (List ℚ)} :
    Readable toDecimal rows ↔ ∃ candles, parseGeckoterminalCandles toDecimal rows = .ok candles := by
  unfold parseGeckoterminalCandles
  simp only [bind_eq_ok_iff, mapM_eq_ok_iff]
  constructor
  · intro h
    induction rows with
    | nil => exact ⟨_, [], .nil, rfl⟩
    | cons row rows ih =>
        obtain ⟨o, ho⟩ := h row List.mem_cons_self
        obtain ⟨-, out, hout, -⟩ := ih fun r hr => h r (List.mem_cons_of_mem row hr)
        exact ⟨_, o :: out, .cons ho hout, rfl⟩
  · rintro ⟨-, out, hout, -⟩ row hrow
    induction hout with
    | nil => cases hrow
    | cons hfirst _ ih =>
        rcases List.mem_cons.mp hrow with rfl | hrest
        · exact ⟨_, hfirst⟩
        · exact ih hrest

/-- What the rows of a page come to: their candles, one for each row only if none is skipped. -/
theorem parsed {rows : List (List ℚ)} {candles : List OhlcvCandle}
    (h : parseGeckoterminalCandles toDecimal rows = .ok candles) :
    (∀ c, c ∈ candles ↔ Shows toDecimal rows c) ∧ candles.length ≤ rows.length ∧
      (candles.length = rows.length ↔
        ∀ row ∈ rows, ∃ c, geckoCandle toDecimal row = .ok (some c)) := by
  unfold parseGeckoterminalCandles at h
  obtain ⟨out, hout, hsorted⟩ := bind_eq_ok_iff.mp h
  rw [mapM_eq_ok_iff] at hout
  cases hsorted
  simp only [List.mem_mergeSort, List.length_mergeSort]
  clear h
  induction hout with
  | nil => simp [Shows, List.reduceOption_nil]
  | @cons row o rows out hfirst _ ih =>
      obtain ⟨hmem, hle, hall⟩ := ih
      rw [List.forall_mem_cons, List.length_cons, hfirst]
      cases o with
      | none =>
          rw [List.reduceOption_cons_of_none]
          refine ⟨fun c => ?_, hle.trans (Nat.le_succ _), fun hlength => ?_, fun hrows => ?_⟩
          · rw [hmem c]
            simp [Shows, hfirst]
          · omega
          · obtain ⟨c, hc⟩ := hrows.1
            cases hc
      | some c =>
          rw [List.reduceOption_cons_of_some, List.length_cons, Nat.succ_inj, hall]
          refine ⟨fun c' => ?_, Nat.succ_le_succ hle, fun hrows => ⟨⟨c, rfl⟩, hrows⟩, And.right⟩
          rw [List.mem_cons, hmem c']
          simp [Shows, hfirst, eq_comm]

/-- The least of some numbers is above a bound if all are. -/
theorem lt_least_iff {l : List Int} (h : l ≠ []) (bound : Int) :
    bound < l.min?.getD 0 ↔ ∀ x ∈ l, bound < x := by
  obtain ⟨least, hleast⟩ := Option.isSome_iff_exists.mp (List.isSome_min?_of_ne_nil h)
  rw [hleast, Option.getD_some]
  exact List.le_min?_iff hleast

/-- When the loop goes on behind a page. -/
theorem full_iff {fromTs : Int} {rows : List (List ℚ)} (hpage : rows.length ≤ 100)
    {candles : List OhlcvCandle} (h : parseGeckoterminalCandles toDecimal rows = .ok candles) :
    Full toDecimal fromTs rows ↔
      fromTs < (candles.map OhlcvCandle.second).min?.getD 0 ∧ 100 ≤ candles.length := by
  obtain ⟨hmem, hle, hall⟩ := parsed h
  by_cases hcount : 100 ≤ candles.length
  · have hne : candles.map OhlcvCandle.second ≠ [] := by
      intro hnil
      rw [List.map_eq_nil_iff] at hnil
      rw [hnil] at hcount
      exact absurd hcount (by decide)
    rw [lt_least_iff hne, List.forall_mem_map]
    constructor
    · rintro ⟨-, hrows⟩
      refine ⟨fun c hc => ?_, hcount⟩
      obtain ⟨row, hrow, hshown⟩ := (hmem c).mp hc
      obtain ⟨c', hc', hlater⟩ := hrows row hrow
      rw [hshown] at hc'
      cases hc'
      exact hlater
    · rintro ⟨hlater, -⟩
      refine ⟨by omega, fun row hrow => ?_⟩
      obtain ⟨c, hc⟩ := hall.mp (by omega) row hrow
      exact ⟨c, hc, hlater c ((hmem c).mpr ⟨row, hrow, hc⟩)⟩
  · -- fewer candles than rows
    refine iff_of_false (fun hfull => hcount ?_) fun hgoes => hcount hgoes.2
    have hsame : candles.length = rows.length := by
      rw [hall]
      intro row hrow
      obtain ⟨c, hc, -⟩ := hfull.2 row hrow
      exact ⟨c, hc⟩
    have hhundred := hfull.1
    omega

/-! ## The loop -/

/-- A candle of the window. -/
def InWindow (fromTs toTs : Int) (c : OhlcvCandle) : Prop := fromTs ≤ c.second ∧ c.second ≤ toTs

/-- A page of a pool with these rows. Every page has a hundred rows, as far as there are any, and pages
are counted from one. -/
def geckoPage (history : List (List ℚ)) (page : ℕ) : List (List ℚ) :=
  (history.drop (100 * (page - 1))).take 100

/-- The loop over the pages of a pool. -/
abbrev readPages (toDecimal : ℚ → Except String Decimal) (history : List (List ℚ))
    (fromTs toTs : Int) : ℕ → ℕ → List OhlcvCandle → Except OhlcvError GeckoFetch :=
  geckoPages toDecimal (fun page => .ok (geckoPage history page)) fromTs toTs

variable {history : List (List ℚ)} {fromTs toTs : Int}

/-- A turn whose page has a number that cannot be converted. -/
theorem readPages_unreadable {page : ℕ}
    (hpage : ¬ Readable toDecimal (geckoPage history page)) (left : ℕ) (all : List OhlcvCandle) :
    ∃ e, readPages toDecimal history fromTs toTs (left + 1) page all = .error e := by
  cases hparsed : parseGeckoterminalCandles toDecimal (geckoPage history page) with
  | ok candles => exact absurd (readable_iff.mpr ⟨candles, hparsed⟩) hpage
  | error e =>
      refine ⟨e, ?_⟩
      rw [readPages, geckoPages]
      simp only [hparsed]

/-- Any other turn takes the candles of the window, and goes on exactly if the page is full. -/
theorem readPages_turn {page : ℕ} (hpage : Readable toDecimal (geckoPage history page)) (left : ℕ)
    (all : List OhlcvCandle) :
    ∃ all', (∀ c, c ∈ all' ↔
        c ∈ all ∨ Shows toDecimal (geckoPage history page) c ∧ InWindow fromTs toTs c) ∧
      (Full toDecimal fromTs (geckoPage history page) →
        readPages toDecimal history fromTs toTs (left + 1) page all =
          readPages toDecimal history fromTs toTs left (page + 1) all') ∧
      (¬ Full toDecimal fromTs (geckoPage history page) →
        readPages toDecimal history fromTs toTs (left + 1) page all =
          .ok { candles := all', reachedMaxPages := false }) := by
  obtain ⟨candles, hparsed⟩ := readable_iff.mp hpage
  have hlength : (geckoPage history page).length ≤ 100 := List.length_take_le _ _
  have hfullIff := @full_iff toDecimal fromTs _ hlength candles hparsed
  refine ⟨all ++ candles.filter fun c => fromTs ≤ c.second ∧ c.second ≤ toTs, fun c => ?_, ?_, ?_⟩
  · rw [List.mem_append, List.mem_filter, (parsed hparsed).1 c, decide_eq_true_iff]
    rfl
  · intro hfull
    have hgoes := hfullIff.mp hfull
    have hne : ¬ candles.length = 0 := by
      have hcount := hgoes.2
      omega
    rw [readPages, geckoPages]
    simp only [hparsed, if_neg hne]
    exact if_pos hgoes
  · intro hlast
    rw [readPages, geckoPages]
    simp only [hparsed]
    by_cases hnone : candles.length = 0
    · rw [if_pos hnone, List.length_eq_zero_iff.mp hnone, List.filter_nil, List.append_nil]
    · rw [if_neg hnone]
      exact if_neg (mt hfullIff.mpr hlast)

/-- How the loop ends that starts at a page, and up to which page it has read. -/
inductive PagesEnd (toDecimal : ℚ → Except String Decimal) (history : List (List ℚ))
    (fromTs toTs : Int) (left page : ℕ) (all : List OhlcvCandle) :
    Except OhlcvError GeckoFetch → Prop
  | maxPages (all' : List OhlcvCandle)
      (full : ∀ k, page ≤ k → k < page + left → Full toDecimal fromTs (geckoPage history k)) :
      PagesEnd toDecimal history fromTs toTs left page all
        (.ok { candles := all', reachedMaxPages := true })
  | unreadable (last : ℕ) (e : OhlcvError) (inside : page ≤ last ∧ last < page + left)
      (full : ∀ k, page ≤ k → k < last → Full toDecimal fromTs (geckoPage history k))
      (unreadable : ¬ Readable toDecimal (geckoPage history last)) :
      PagesEnd toDecimal history fromTs toTs left page all (.error e)
  | lastPage (last : ℕ) (all' : List OhlcvCandle) (inside : page ≤ last ∧ last < page + left)
      (full : ∀ k, page ≤ k → k < last → Full toDecimal fromTs (geckoPage history k))
      (readable : Readable toDecimal (geckoPage history last))
      (notFull : ¬ Full toDecimal fromTs (geckoPage history last))
      (candles : ∀ c, c ∈ all' ↔ c ∈ all ∨
        (∃ k, page ≤ k ∧ k ≤ last ∧ Shows toDecimal (geckoPage history k) c) ∧
          InWindow fromTs toTs c) :
      PagesEnd toDecimal history fromTs toTs left page all
        (.ok { candles := all', reachedMaxPages := false })

/-- A full page is put in front of those that follow it. -/
theorem full_from_page {page last : ℕ} (h : Full toDecimal fromTs (geckoPage history page))
    (hrest : ∀ k, page + 1 ≤ k → k < last → Full toDecimal fromTs (geckoPage history k)) :
    ∀ k, page ≤ k → k < last → Full toDecimal fromTs (geckoPage history k) := by
  intro k hge hlt
  rcases hge.eq_or_lt with rfl | hlater
  · exact h
  · exact hrest k hlater hlt

/-- What the pages show is on the first or on a later one. -/
theorem shown_from_page {page last : ℕ} (h : page ≤ last) {c : OhlcvCandle} :
    (∃ k, page ≤ k ∧ k ≤ last ∧ Shows toDecimal (geckoPage history k) c) ↔
      Shows toDecimal (geckoPage history page) c ∨
        ∃ k, page + 1 ≤ k ∧ k ≤ last ∧ Shows toDecimal (geckoPage history k) c := by
  constructor
  · rintro ⟨k, hge, hle, hc⟩
    rcases hge.eq_or_lt with rfl | hlater
    · exact .inl hc
    · exact .inr ⟨k, hlater, hle, hc⟩
  · rintro (hc | ⟨k, hge, hle, hc⟩)
    · exact ⟨page, le_rfl, h, hc⟩
    · exact ⟨k, by omega, hle, hc⟩

/-- **The whole loop.** -/
theorem readPages_end (left page : ℕ) (all : List OhlcvCandle) :
    PagesEnd toDecimal history fromTs toTs left page all
      (readPages toDecimal history fromTs toTs left page all) := by
  induction left generalizing page all with
  | zero => exact .maxPages all fun k hge hlt => by omega
  | succ left ih =>
      by_cases hreadable : Readable toDecimal (geckoPage history page)
      · obtain ⟨all', hall', hgoes, hstops⟩ :=
          @readPages_turn toDecimal history fromTs toTs page hreadable left all
        by_cases hfull : Full toDecimal fromTs (geckoPage history page)
        · rw [hgoes hfull]
          have hrest := ih (page + 1) all'
          generalize readPages toDecimal history fromTs toTs left (page + 1) all' = result at hrest ⊢
          cases hrest with
          | maxPages all'' full =>
              exact .maxPages all''
                (full_from_page hfull (by rwa [Nat.add_right_comm, Nat.add_assoc] at full))
          | unreadable last e inside full unreadable =>
              exact .unreadable last e (by omega) (full_from_page hfull full) unreadable
          | lastPage last all'' inside full readable notFull candles =>
              refine .lastPage last all'' (by omega) (full_from_page hfull full) readable notFull
                fun c => ?_
              rw [candles c, hall' c, or_assoc, ← or_and_right,
                shown_from_page (show page ≤ last by omega)]
        · rw [hstops hfull]
          refine .lastPage page all' (by omega) (fun k hge hlt => by omega) hreadable hfull fun c => ?_
          rw [hall' c, shown_from_page le_rfl]
          have hnone : ¬ ∃ k, page + 1 ≤ k ∧ k ≤ page ∧ Shows toDecimal (geckoPage history k) c := by
            rintro ⟨k, hge, hle, -⟩
            omega
          rw [or_iff_left hnone]
      · obtain ⟨e, he⟩ := readPages_unreadable hreadable left all
        rw [he]
        exact .unreadable page e (by omega) (fun k hge hlt => by omega) hreadable

/-! ## Completeness -/

/-- What is asked of a fetch from a pool with these rows, when no page fails: unless it stops at the last
page it may ask for, it returns every well-formed candle of the window. -/
def ReturnsCandles (toDecimal : ℚ → Except String Decimal) (history : List (List ℚ))
    (from' to' : DateTimeUtc) : Prop :=
  ∀ pool, match fetchPageGeckoterminal toDecimal (.ok pool)
      (fun _ page => .ok (geckoPage history page)) from' to' with
    | .error _ => False
    | .ok fetched =>
        fetched.reachedMaxPages = true ∨
          ∀ c, Shows toDecimal history c → InWindow from'.timestamp to'.timestamp c →
            c ∈ fetched.candles

/-- The candles of the window are returned exactly if the loop over the pages has them. -/
theorem returnsCandles_iff {from' to' : DateTimeUtc} :
    ReturnsCandles toDecimal history from' to' ↔
      match readPages toDecimal history from'.timestamp to'.timestamp 50 1 [] with
      | .error _ => False
      | .ok fetched =>
          fetched.reachedMaxPages = true ∨
            ∀ c, Shows toDecimal history c → InWindow from'.timestamp to'.timestamp c →
              c ∈ fetched.candles :=
  ⟨fun h => h "", fun h _ => h⟩

/-- **When the candles are complete.** Of the first fifty pages, each is full or no candle of the window is
missing up to it, and the first that is not full has only numbers that can be converted. -/
theorem candles_complete_iff (toDecimal : ℚ → Except String Decimal) (history : List (List ℚ))
    (from' to' : DateTimeUtc) :
    ReturnsCandles toDecimal history from' to' ↔
      (∀ page, 1 ≤ page → page ≤ 50 → Full toDecimal from'.timestamp (geckoPage history page) ∨
        ∀ c, Shows toDecimal history c → InWindow from'.timestamp to'.timestamp c →
          ∃ k, 1 ≤ k ∧ k ≤ page ∧ Shows toDecimal (geckoPage history k) c) ∧
      ∀ page, 1 ≤ page → page ≤ 50 →
        (∀ k, 1 ≤ k → k < page → Full toDecimal from'.timestamp (geckoPage history k)) →
          Readable toDecimal (geckoPage history page) := by
  have hend := @readPages_end toDecimal history from'.timestamp to'.timestamp 50 1 []
  rw [returnsCandles_iff]
  generalize readPages toDecimal history from'.timestamp to'.timestamp 50 1 [] = result at hend ⊢
  cases hend with
  | maxPages all' full =>
      refine iff_of_true (.inl rfl) ⟨fun page hge hle => .inl (full page hge (by omega)), ?_⟩
      intro page hge hle _
      exact (full page hge (by omega)).readable
  | unreadable last e inside full unreadable =>
      refine iff_of_false id fun hpages => unreadable ?_
      exact hpages.2 last inside.1 (by omega) full
  | lastPage last all' inside full readable notFull candles =>
      constructor
      · intro hreturns
        have hall : ∀ c, Shows toDecimal history c → InWindow from'.timestamp to'.timestamp c →
            ∃ k, 1 ≤ k ∧ k ≤ last ∧ Shows toDecimal (geckoPage history k) c := by
          intro c hc hwindow
          rcases hreturns with hmax | hall
          · cases hmax
          · rcases (candles c).mp (hall c hc hwindow) with hnil | hshown
            · cases hnil
            · exact hshown.1
        refine ⟨fun page hge hle => ?_, fun page hge hle hfull => ?_⟩
        · rcases lt_or_ge page last with hlt | hlast
          · exact .inl (full page hge hlt)
          · right
            intro c hc hwindow
            obtain ⟨k, hk, hkle, hshown⟩ := hall c hc hwindow
            exact ⟨k, hk, hkle.trans hlast, hshown⟩
        · rcases lt_trichotomy page last with hlt | rfl | hgt
          · exact (full page hge hlt).readable
          · exact readable
          · exact absurd (hfull last inside.1 hgt) notFull
      · rintro ⟨hpages, -⟩
        right
        intro c hc hwindow
        have hshown := (hpages last inside.1 (by omega)).resolve_left notFull c hc hwindow
        exact (candles c).mpr (.inr ⟨hshown, hwindow⟩)

/-- A short row, and behind it a candle for each of the hundred minutes before 1970-01-01T01:41. -/
def rowsBehindShort : List (List ℚ) :=
  [] :: (List.range 100).map fun i : ℕ => [6000 - 60 * (i : ℚ), 1, 1, 1, 1, 1]

/-- The last of these candles is not returned, as the short row ends the reading of the pages. -/
theorem candle_behind_short_row :
    ¬ ReturnsCandles .ok rowsBehindShort ⟨60 * 10 ^ 9, by decide, by decide⟩
      ⟨6000 * 10 ^ 9, by decide, by decide⟩ := by
  intro hreturns
  have hreadable : Readable .ok (geckoPage rowsBehindShort 1) := by
    intro row hrow
    have hok : ∀ row ∈ geckoPage rowsBehindShort 1, (geckoCandle .ok row).isOk = true := by
      decide +kernel
    cases hc : geckoCandle .ok row with
    | ok o => exact ⟨o, rfl⟩
    | error e =>
        have herror := hok row hrow
        rw [hc] at herror
        cases herror
  obtain ⟨all', hall', -, hstops⟩ :=
    @readPages_turn .ok rowsBehindShort 60 6000 1 hreadable 49 []
  have hlast : ¬ Full .ok 60 (geckoPage rowsBehindShort 1) := by
    intro hfull
    obtain ⟨c, hc, -⟩ := hfull.2 [] (by decide)
    cases hc
  -- the candle of 00:01 stands on the second page
  have hshown : Shows .ok rowsBehindShort ⟨seconds 60, 1, 1, 1, 1, some 1, none⟩ :=
    ⟨[60, 1, 1, 1, 1, 1], by decide +kernel, by decide +kernel⟩
  have hmissing : ∀ row ∈ geckoPage rowsBehindShort 1,
      geckoCandle .ok row ≠ .ok (some ⟨seconds 60, 1, 1, 1, 1, some 1, none⟩) := by
    decide +kernel
  have hfetched : readPages .ok rowsBehindShort 60 6000 50 1 [] =
      .ok { candles := all', reachedMaxPages := false } := hstops hlast
  have hread := returnsCandles_iff.mp hreturns
  change match readPages .ok rowsBehindShort 60 6000 50 1 [] with
    | .error _ => False
    | .ok fetched => _ at hread
  rw [hfetched] at hread
  rcases hread with hmax | hall
  · cases hmax
  · rcases (hall' _).mp (hall _ hshown ⟨by decide, by decide⟩) with hnil | ⟨⟨row, hrow, hc⟩, -⟩
    · cases hnil
    · exact hmissing row hrow hc

end SolanaBot.Analysis
