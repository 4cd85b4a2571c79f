import Mathlib.Tactic.Ring
import SolanaBot.Library.Spans
import SolanaBot.Model.OhlcvProvider

/-!
# The pages of a window

`fetch_window` (historical/ohlcv.rs:290-326) asks for a window page by page. A page ends a second before
the next one starts, or with the window, and the provider is sent whole seconds. The invariant of the
loop (`PageRun`) is that the seconds asked for are those from the start of the window up to the next page,
and that the merged candles have every second that a page returned. The loop ends when the next page
starts past the end of the window. If that start lies in the same second as the end, that second has not
been asked for: the case is that the fraction of a second of the start is the larger one and the page
length divides the whole seconds between the two (`fetch_window_iff`).
-/

set_option autoImplicit false

namespace SolanaBot.Analysis

open SolanaBot.Library SolanaBot.Model

/-- Answers to the pages asked for, the calls numbered. -/
abbrev PageAnswers := ℕ → DateTimeUtc → DateTimeUtc → Except OhlcvError (List OhlcvCandle)

/-- A source of pages that remembers the windows it was asked for. -/
def recordedPages (answer : PageAnswers) : PageSource (List (DateTimeUtc × DateTimeUtc)) :=
  fun from' to' asked => (answer asked.length from' to', asked ++ [(from', to')])

/-- The seconds that the windows cover, one window after the other. -/
def askedSeconds (asked : List (DateTimeUtc × DateTimeUtc)) : List Int :=
  asked.flatMap fun w => span w.1.timestamp w.2.timestamp

/-- A candle of one of the pages. -/
def Returned (answer : PageAnswers) (asked : List (DateTimeUtc × DateTimeUtc)) (c : OhlcvCandle) :
    Prop :=
  ∃ i w page, asked[i]? = some w ∧ answer i w.1 w.2 = .ok page ∧ c ∈ page

/-- What is asked of a fetch. A page that fails ends it; otherwise the windows follow one another without
a gap and without an overlap from the first second to the last, and the candles are strictly ascending by
their seconds and have all seconds that were returned. -/
def ReadsWindow (pageSeconds : Int) (from' to' : DateTimeUtc) : Prop :=
  ∀ answer : PageAnswers, ∃ result asked,
    (∃ enough, ∀ fuel ≥ enough,
      fetchWindow (recordedPages answer) (.ok ()) pageSeconds from' to' fuel [] =
        some (result, asked)) ∧
    match result with
    | .error (.panic _) => False
    | .error (.failed e) =>
        askedSeconds asked <+: span from'.timestamp to'.timestamp ∧
          ∃ front w, asked = front ++ [w] ∧ answer front.length w.1 w.2 = .error e
    | .ok candles =>
        askedSeconds asked = span from'.timestamp to'.timestamp ∧
          (candles.Pairwise fun a b => a.second < b.second) ∧
          ∀ c, Returned answer asked c → c.second ∈ candles.map OhlcvCandle.second

/-- The first of the times `from'`, `from' + page`, `from' + 2 page`, … behind the end of the window. -/
def pastWindow (pageSeconds : Int) (from' to' : DateTimeUtc) : Int :=
  from'.nanos + ((to'.nanos - from'.nanos) / (pageSeconds * SECOND) + 1) * (pageSeconds * SECOND)

/-- The state between two pages. -/
structure PageRun (answer : PageAnswers) (from' : DateTimeUtc) (st : WindowLoop)
    (asked : List (DateTimeUtc × DateTimeUtc)) : Prop where
  begun : from'.timestamp ≤ st.pageStart.timestamp
  seconds_eq : askedSeconds asked = span from'.timestamp (st.pageStart.timestamp - 1)
  kept : ∀ c, Returned answer asked c → c.second ∈ st.all.rows.map OhlcvCandle.second

/-- The seconds of one request more. -/
theorem askedSeconds_snoc (asked : List (DateTimeUtc × DateTimeUtc)) (w : DateTimeUtc × DateTimeUtc) :
    askedSeconds (asked ++ [w]) = askedSeconds asked ++ span w.1.timestamp w.2.timestamp := by
  simp [askedSeconds]

/-- What one request more returns is of it, or was returned before. -/
theorem returned_snoc {answer : PageAnswers} {asked : List (DateTimeUtc × DateTimeUtc)}
    {w : DateTimeUtc × DateTimeUtc} {c : OhlcvCandle} (h : Returned answer (asked ++ [w]) c) :
    Returned answer asked c ∨ ∃ page, answer asked.length w.1 w.2 = .ok page ∧ c ∈ page := by
  obtain ⟨i, v, page, hget, hanswer, hc⟩ := h
  rcases lt_or_ge i asked.length with hlt | hge
  · rw [List.getElem?_append_left hlt] at hget
    exact .inl ⟨i, v, page, hget, hanswer, hc⟩
  · have hlength : i < (asked ++ [w]).length := (List.getElem?_eq_some_iff.mp hget).1
    rw [List.length_append, List.length_singleton] at hlength
    have hi : i = asked.length := by omega
    subst hi
    rw [List.getElem?_append_right le_rfl, Nat.sub_self, List.getElem?_cons_zero] at hget
    cases hget
    exact .inr ⟨page, hanswer, hc⟩

/-- The seconds of the page that is asked for follow those before it. -/
theorem PageRun.asked_next {answer : PageAnswers} {from' : DateTimeUtc} {st : WindowLoop}
    {asked : List (DateTimeUtc × DateTimeUtc)} (h : PageRun answer from' st asked)
    {pageEnd : DateTimeUtc} (hend : st.pageStart.timestamp ≤ pageEnd.timestamp + 1) :
    askedSeconds (asked ++ [(st.pageStart, pageEnd)]) = span from'.timestamp pageEnd.timestamp := by
  have hbegun := h.begun
  rw [askedSeconds_snoc, h.seconds_eq]
  have happend := span_append (show from'.timestamp ≤ st.pageStart.timestamp - 1 + 1 by omega)
    (show st.pageStart.timestamp - 1 ≤ pageEnd.timestamp by omega)
  rwa [sub_add_cancel] at happend

/-- **One page.** -/
theorem PageRun.next {answer : PageAnswers} {from' : DateTimeUtc} {st : WindowLoop}
    {asked : List (DateTimeUtc × DateTimeUtc)} (h : PageRun answer from' st asked)
    {pageEnd pageStart : DateTimeUtc} (hend : st.pageStart.timestamp ≤ pageEnd.timestamp + 1)
    (hstart : pageStart.timestamp = pageEnd.timestamp + 1) {page : List OhlcvCandle}
    (hpage : answer asked.length st.pageStart pageEnd = .ok page) :
    PageRun answer from'
      { all := page.foldl OrderedTable.insert st.all, pageStart, pages := st.pages + 1 }
      (asked ++ [(st.pageStart, pageEnd)]) where
  begun := by
    have hbegun := h.begun
    change from'.timestamp ≤ pageStart.timestamp
    omega
  seconds_eq := by
    rw [h.asked_next hend]
    change _ = span from'.timestamp (pageStart.timestamp - 1)
    rw [hstart, add_sub_cancel_right]
  kept := by
    intro c hc
    change c.second ∈ (page.foldl OrderedTable.insert st.all).rows.map OhlcvCandle.second
    rw [OrderedTable.keys_foldl_insert]
    rcases returned_snoc hc with hbefore | ⟨page', hpage', hmem⟩
    · exact .inr (h.kept c hbefore)
    · rw [hpage] at hpage'
      cases hpage'
      exact .inl (List.mem_map_of_mem hmem)

/-! ## The loop -/

/-- Nanoseconds in the range of times are a time. -/
theorem ofNanos_ok {nanos : Int} (hmin : MIN_UTC ≤ nanos) (hmax : nanos ≤ MAX_UTC) :
    ∃ t, DateTimeUtc.ofNanos nanos = .ok t ∧ t.nanos = nanos :=
  ⟨⟨nanos, hmin, hmax⟩, dif_pos ⟨hmin, hmax⟩, rfl⟩

/-- Nanoseconds above the range are an overflow. -/
theorem ofNanos_of_lt {nanos : Int} (h : MAX_UTC < nanos) :
    DateTimeUtc.ofNanos nanos = .error .overflow := by
  apply dif_neg
  intro hrange
  exact absurd hrange.2 (not_le.mpr h)

/-- The earlier of two times has the lesser nanoseconds. -/
theorem earlier_nanos (t u : DateTimeUtc) : (t.earlier u).nanos = min t.nanos u.nanos := by
  unfold DateTimeUtc.earlier
  by_cases h : t.nanos ≤ u.nanos
  · rw [if_pos h, min_eq_left h]
  · rw [if_neg h, min_eq_right (not_le.mp h).le]

/-- The end of a page, and the start of the one behind it. -/
theorem pageEnd_ok {start : DateTimeUtc} (to' : DateTimeUtc) {step : Int} (hstep : SECOND ≤ step)
    (hmax : start.nanos + step ≤ MAX_UTC) :
    ∃ last next : DateTimeUtc, pageEnd start step to' = .ok last ∧ last.add SECOND = .ok next ∧
      last.nanos = min (start.nanos + step - SECOND) to'.nanos ∧
      next.nanos = last.nanos + SECOND := by
  have hmin := start.min_le
  have hsecond : 0 < SECOND := by decide
  obtain ⟨past, hpast, hpastNanos⟩ := ofNanos_ok (show MIN_UTC ≤ start.nanos + step by omega) hmax
  obtain ⟨full, hfull, hfullNanos⟩ := ofNanos_ok (show MIN_UTC ≤ past.nanos - SECOND by omega)
    (show past.nanos - SECOND ≤ MAX_UTC by omega)
  have hlast := earlier_nanos full to'
  have hge : MIN_UTC ≤ min full.nanos to'.nanos := le_min full.min_le to'.min_le
  have hle : min full.nanos to'.nanos ≤ full.nanos := min_le_left _ _
  obtain ⟨next, hnext, hnextNanos⟩ :=
    ofNanos_ok (show MIN_UTC ≤ (full.earlier to').nanos + SECOND by omega)
      (show (full.earlier to').nanos + SECOND ≤ MAX_UTC by omega)
  refine ⟨full.earlier to', next, ?_, hnext, ?_, hnextNanos⟩
  · unfold pageEnd DateTimeUtc.add DateTimeUtc.sub
    rw [hpast, ok_bind, hfull, ok_bind]
    rfl
  · rw [hlast, hfullNanos, hpastNanos]

/-- The end of a page above the range of times panics. -/
theorem pageEnd_panic {start to' : DateTimeUtc} {step : Int} (hmax : MAX_UTC < start.nanos + step) :
    pageEnd start step to' = .error .overflow := by
  unfold pageEnd DateTimeUtc.add
  rw [ofNanos_of_lt hmax]
  rfl

/-- One turn of the loop. -/
theorem fetchPages_turn (answer : PageAnswers) {to' : DateTimeUtc} {step : Int} {st : WindowLoop}
    {asked : List (DateTimeUtc × DateTimeUtc)} {last next : DateTimeUtc}
    (hstart : st.pageStart.nanos ≤ to'.nanos) (hlast : pageEnd st.pageStart step to' = .ok last)
    (hnext : last.add SECOND = .ok next) (fuel : ℕ) :
    fetchPages (recordedPages answer) to' step (fuel + 1) st asked =
      match answer asked.length st.pageStart last with
      | .error e => some (.error (.failed e), asked ++ [(st.pageStart, last)])
      | .ok page =>
          fetchPages (recordedPages answer) to' step fuel
            { all := page.foldl OrderedTable.insert st.all, pageStart := next, pages := st.pages + 1 }
            (asked ++ [(st.pageStart, last)]) := by
  rw [fetchPages, if_pos hstart]
  simp only [hlast, recordedPages]
  cases answer asked.length st.pageStart last with
  | error e => rfl
  | ok page => simp only [hnext]

/-- The fetch has ended with a page that failed. -/
def PageFailed (answer : PageAnswers) (from' to' : DateTimeUtc)
    (asked : List (DateTimeUtc × DateTimeUtc)) (e : OhlcvError) : Prop :=
  askedSeconds asked <+: span from'.timestamp to'.timestamp ∧
    ∃ front w, asked = front ++ [w] ∧ answer front.length w.1 w.2 = .error e

/-- A later time has no lesser timestamp. -/
theorem timestamp_mono {t u : DateTimeUtc} (h : t.nanos ≤ u.nanos) : t.timestamp ≤ u.timestamp :=
  Int.ediv_le_ediv (by decide) h

/-- One second later the timestamp is one more. -/
theorem timestamp_add_second {t u : DateTimeUtc} (h : u.nanos = t.nanos + SECOND) :
    u.timestamp = t.timestamp + 1 := by
  unfold DateTimeUtc.timestamp
  rw [h]
  exact Int.add_ediv_of_dvd_right ⟨1, rfl⟩

/-- A turn fails, or it leads to the next page. -/
theorem fetchPages_step (answer : PageAnswers) {from' to' : DateTimeUtc} {step : Int}
    (hstep : SECOND ≤ step) {st : WindowLoop} {asked : List (DateTimeUtc × DateTimeUtc)}
    (hrun : PageRun answer from' st asked) (hstart : st.pageStart.nanos ≤ to'.nanos)
    (hmax : st.pageStart.nanos + step ≤ MAX_UTC) :
    (∃ e asked', (∀ fuel, fetchPages (recordedPages answer) to' step (fuel + 1) st asked =
        some (.error (.failed e), asked')) ∧ PageFailed answer from' to' asked' e) ∨
      ∃ st' asked', (∀ fuel, fetchPages (recordedPages answer) to' step (fuel + 1) st asked =
          fetchPages (recordedPages answer) to' step fuel st' asked') ∧
        PageRun answer from' st' asked' ∧
        st'.pageStart.nanos = min (st.pageStart.nanos + step) (to'.nanos + SECOND) := by
  obtain ⟨last, next, hlast, hnext, hlastNanos, hnextNanos⟩ := pageEnd_ok to' hstep hmax
  have hturn := @fetchPages_turn answer to' step st asked last next hstart hlast hnext
  have hge : st.pageStart.nanos ≤ last.nanos := by
    rw [hlastNanos]
    exact le_min (by omega) hstart
  have hle : last.nanos ≤ to'.nanos := hlastNanos ▸ min_le_right _ _
  have hfollows : st.pageStart.timestamp ≤ last.timestamp + 1 :=
    (timestamp_mono hge).trans (by omega)
  cases hpage : answer asked.length st.pageStart last with
  | error e =>
      left
      refine ⟨e, asked ++ [(st.pageStart, last)], fun fuel => ?_, ?_, asked, _, rfl, hpage⟩
      · rw [hturn fuel, hpage]
      · rw [hrun.asked_next hfollows]
        exact span_prefix (hrun.begun.trans hfollows) (timestamp_mono hle)
  | ok page =>
      right
      refine ⟨_, asked ++ [(st.pageStart, last)], fun fuel => ?_,
        hrun.next hfollows (timestamp_add_second hnextNanos) hpage, ?_⟩
      · rw [hturn fuel, hpage]
      · change next.nanos = _
        rw [hnextNanos, hlastNanos, ← min_add_add_right, sub_add_cancel]

/-- How the loop ends, where `past` is the first start of a page behind the window. -/
def Ended (answer : PageAnswers) (from' to' : DateTimeUtc) (past : Int)
    (asked : List (DateTimeUtc × DateTimeUtc)) : Except FetchStop WindowLoop → Prop
  | .error (.panic _) => MAX_UTC < past
  | .error (.failed e) => PageFailed answer from' to' asked e
  | .ok st =>
      PageRun answer from' st asked ∧ past ≤ MAX_UTC ∧
        st.pageStart.nanos = min past (to'.nanos + SECOND)

/-- **The whole loop**, with `k` more full pages before the last one. -/
theorem fetchPages_ended (answer : PageAnswers) {from' to' : DateTimeUtc} {step past : Int}
    (hstep : SECOND ≤ step) (hbehind : to'.nanos < past) (hnear : past ≤ to'.nanos + step) (k : ℕ)
    {st : WindowLoop} {asked : List (DateTimeUtc × DateTimeUtc)}
    (hrun : PageRun answer from' st asked) (hpast : st.pageStart.nanos + (k + 1) * step = past) :
    ∃ result asked',
      (∀ fuel ≥ k + 2, fetchPages (recordedPages answer) to' step fuel st asked =
        some (result, asked')) ∧ Ended answer from' to' past asked' result := by
  have hsecond : 0 < SECOND := by decide
  induction k generalizing st asked with
  | zero =>
      have hstart : st.pageStart.nanos ≤ to'.nanos := by omega
      by_cases hmax : past ≤ MAX_UTC
      · rcases fetchPages_step answer hstep hrun hstart (by omega) with
          ⟨e, asked', hfetch, hfailed⟩ | ⟨st', asked', hfetch, hrun', hnext⟩
        · refine ⟨.error (.failed e), asked', fun fuel hfuel => ?_, hfailed⟩
          obtain ⟨fuel, rfl⟩ := Nat.exists_eq_add_of_le' (show 1 ≤ fuel by omega)
          exact hfetch fuel
        · -- the last page: the next one would start behind the window
          have hend : st'.pageStart.nanos = min past (to'.nanos + SECOND) := by
            rw [hnext, ← hpast, Nat.cast_zero, zero_add, one_mul]
          have hout : ¬ st'.pageStart.nanos ≤ to'.nanos := by
            rw [hend, not_le, lt_min_iff]
            exact ⟨hbehind, by omega⟩
          refine ⟨.ok st', asked', fun fuel hfuel => ?_, hrun', hmax, hend⟩
          obtain ⟨fuel, rfl⟩ := Nat.exists_eq_add_of_le' hfuel
          rw [hfetch (fuel + 1), fetchPages, if_neg hout]
      · refine ⟨.error (.panic .overflow), asked, fun fuel hfuel => ?_, not_le.mp hmax⟩
        obtain ⟨fuel, rfl⟩ := Nat.exists_eq_add_of_le' (show 1 ≤ fuel by omega)
        have hpanic : pageEnd st.pageStart step to' = .error .overflow :=
          pageEnd_panic (by omega)
        rw [fetchPages, if_pos hstart, hpanic]
  | succ k ih =>
      -- the page is full, as another one starts in the window
      have hfull : st.pageStart.nanos + step + (k + 1) * step = past := by
        rw [← hpast]
        push_cast
        ring
      have hmore : step ≤ (k + 1) * step := le_mul_of_one_le_left (by omega) (by omega)
      have hinside : st.pageStart.nanos + step ≤ to'.nanos := by omega
      have hstart : st.pageStart.nanos ≤ to'.nanos := by omega
      rcases fetchPages_step answer hstep hrun hstart (hinside.trans to'.le_max) with
        ⟨e, asked', hfetch, hfailed⟩ | ⟨st', asked', hfetch, hrun', hnext⟩
      · refine ⟨.error (.failed e), asked', fun fuel hfuel => ?_, hfailed⟩
        obtain ⟨fuel, rfl⟩ := Nat.exists_eq_add_of_le' (show 1 ≤ fuel by omega)
        exact hfetch fuel
      · have hnext' : st'.pageStart.nanos = st.pageStart.nanos + step := by
          rw [hnext]
          exact min_eq_left (by omega)
        obtain ⟨result, asked'', hrest, hended⟩ := ih hrun' (hnext' ▸ hfull)
        refine ⟨result, asked'', fun fuel hfuel => ?_, hended⟩
        obtain ⟨fuel, rfl⟩ := Nat.exists_eq_add_of_le' (show 1 ≤ fuel by omega)
        rw [hfetch fuel, hrest fuel (by omega)]

/-! ## The whole fetch -/

/-- The start of the first page behind the window, a whole number of pages from its start. -/
theorem pastWindow_spec {pageSeconds : Int} (hpage : 1 ≤ pageSeconds) {from' to' : DateTimeUtc}
    (h : from'.nanos ≤ to'.nanos) :
    ∃ k : ℕ, from'.nanos + (k + 1) * (pageSeconds * SECOND) = pastWindow pageSeconds from' to' ∧
      to'.nanos < pastWindow pageSeconds from' to' ∧
      pastWindow pageSeconds from' to' ≤ to'.nanos + pageSeconds * SECOND := by
  have hstep : 0 < pageSeconds * SECOND := mul_pos (by omega) (by decide)
  have hnonneg : 0 ≤ (to'.nanos - from'.nanos) / (pageSeconds * SECOND) :=
    Int.ediv_nonneg (by omega) hstep.le
  have hle := Int.ediv_mul_le (to'.nanos - from'.nanos) hstep.ne'
  have hlt := Int.lt_ediv_add_one_mul_self (to'.nanos - from'.nanos) hstep
  refine ⟨((to'.nanos - from'.nanos) / (pageSeconds * SECOND)).toNat, ?_, ?_, ?_⟩
  · rw [Int.toNat_of_nonneg hnonneg]
    rfl
  · unfold pastWindow
    omega
  · unfold pastWindow
    rw [add_mul, one_mul]
    omega

/-- A run of no page. -/
theorem PageRun.start (answer : PageAnswers) (from' : DateTimeUtc) :
    PageRun answer from' { all := .empty OhlcvCandle.second, pageStart := from', pages := 0 } [] where
  begun := le_rfl
  seconds_eq := (span_empty (by dsimp only; omega)).symm
  kept := by
    rintro c ⟨i, w, page, hget, -⟩
    cases hget

/-- The fetch ends, in one of three ways. -/
theorem fetchWindow_ended (answer : PageAnswers) {pageSeconds : Int} (hpage : 1 ≤ pageSeconds)
    {from' to' : DateTimeUtc} (h : from'.nanos ≤ to'.nanos) :
    ∃ ending asked, Ended answer from' to' (pastWindow pageSeconds from' to') asked ending ∧
      ∃ enough, ∀ fuel ≥ enough,
        fetchWindow (recordedPages answer) (.ok ()) pageSeconds from' to' fuel [] =
          some (ending.map fun st => st.all.rows, asked) := by
  obtain ⟨k, hpast, hbehind, hnear⟩ := pastWindow_spec hpage h
  have hfrom := from'.min_le
  by_cases hduration : pageSeconds ≤ 9223372036854775
  · have hstep : SECOND ≤ pageSeconds * SECOND := le_mul_of_one_le_left (by decide) hpage
    have hseconds : durationSeconds pageSeconds = .ok (pageSeconds * SECOND) :=
      if_pos ⟨by omega, hduration⟩
    obtain ⟨ending, asked, hloop, hended⟩ :=
      fetchPages_ended answer hstep hbehind hnear k (PageRun.start answer from') hpast
    refine ⟨ending, asked, hended, k + 2, fun fuel hfuel => ?_⟩
    simp only [fetchWindow, if_neg (not_lt.mpr h), hseconds, hloop fuel hfuel]
    cases ending <;> rfl
  · -- so long a page is no duration
    have hseconds : durationSeconds pageSeconds = .error .overflow := by
      apply if_neg
      omega
    refine ⟨.error (.panic .overflow), [], ?_, 0, fun fuel _ => ?_⟩
    · change MAX_UTC < pastWindow pageSeconds from' to'
      have hone : pageSeconds * SECOND ≤ (k + 1) * (pageSeconds * SECOND) :=
        le_mul_of_one_le_left (mul_nonneg (by omega) (by decide)) (by omega)
      unfold MIN_UTC at hfrom
      unfold MAX_UTC
      unfold SECOND at hone hpast
      omega
    · simp only [fetchWindow, if_neg (not_lt.mpr h), hseconds]
      rfl

/-- Behind the window, the next page starts in the second of its end exactly if the start has the larger
fraction of a second and the page length divides the whole seconds. -/
theorem pastWindow_same_second_iff {pageSeconds : Int} (hpage : 1 ≤ pageSeconds)
    {from' to' : DateTimeUtc} (h : from'.nanos ≤ to'.nanos) :
    pastWindow pageSeconds from' to' / 10 ^ 9 = to'.timestamp ↔
      to'.subsecNanos < from'.subsecNanos ∧ pageSeconds ∣ to'.timestamp - from'.timestamp := by
  obtain ⟨k, hpast, hbehind, hnear⟩ := pastWindow_spec hpage h
  have hnanos : pastWindow pageSeconds from' to' =
      from'.nanos + ((k + 1) * pageSeconds) * 10 ^ 9 := by
    rw [← hpast, ← mul_assoc]
    rfl
  have hsecond : pastWindow pageSeconds from' to' / 10 ^ 9 =
      from'.timestamp + (k + 1) * pageSeconds := by
    rw [hnanos]
    exact Int.add_mul_ediv_right _ _ (by decide)
  rw [hsecond]
  unfold SECOND at hnear
  constructor
  · intro hsame
    refine ⟨?_, k + 1, by rw [mul_comm pageSeconds]; omega⟩
    unfold DateTimeUtc.timestamp at hsame
    unfold DateTimeUtc.subsecNanos
    omega
  · rintro ⟨hfraction, m, hm⟩
    have hpages : (k + 1) * pageSeconds = pageSeconds * m := by
      unfold DateTimeUtc.timestamp at hm
      unfold DateTimeUtc.subsecNanos at hfraction
      rcases lt_trichotomy m (k + 1) with hlt | heq | hgt
      · -- the page before it would start behind the window as well
        have hmore : pageSeconds * (m + 1) ≤ pageSeconds * (k + 1) :=
          mul_le_mul_of_nonneg_left hlt (by omega)
        rw [mul_add, mul_one, mul_comm pageSeconds (k + 1)] at hmore
        omega
      · rw [heq, mul_comm]
      · -- it would still start in the window
        have hmore : pageSeconds * (k + 1 + 1) ≤ pageSeconds * m :=
          mul_le_mul_of_nonneg_left hgt (by omega)
        rw [mul_add, mul_one, mul_comm pageSeconds (k + 1)] at hmore
        omega
    omega

/-- A finished loop has asked for the whole window exactly if the next page starts in a later second. -/
theorem asked_all_iff {answer : PageAnswers} {from' to' : DateTimeUtc} {past : Int} {st : WindowLoop}
    {asked : List (DateTimeUtc × DateTimeUtc)} (hrun : PageRun answer from' st asked)
    (h : from'.nanos ≤ to'.nanos) (hbehind : to'.nanos < past)
    (hend : st.pageStart.nanos = min past (to'.nanos + SECOND)) :
    askedSeconds asked = span from'.timestamp to'.timestamp ↔ past / 10 ^ 9 ≠ to'.timestamp := by
  have hbegun := hrun.begun
  have hfrom := timestamp_mono h
  rw [hrun.seconds_eq, span_eq_iff (by omega) (by omega)]
  unfold DateTimeUtc.timestamp SECOND at *
  rcases min_cases past (to'.nanos + 10 ^ 9) with ⟨hmin, hle⟩ | ⟨hmin, hle⟩
  · rw [hmin] at hend
    omega
  · rw [hmin] at hend
    omega

/-- **When a window is read.** A fetch with pages of at least a second asks for all seconds of its window
exactly once and merges what is returned if and only if, first, the start of the page behind the window is
a time that can be represented, and second, the start of the window has no larger fraction of a second
than its end or the page length does not divide the whole seconds between the two. -/
theorem fetch_window_iff (pageSeconds : Int) (hpage : 1 ≤ pageSeconds) (from' to' : DateTimeUtc)
    (h : from'.nanos ≤ to'.nanos) :
    ReadsWindow pageSeconds from' to' ↔
      pastWindow pageSeconds from' to' ≤ MAX_UTC ∧
        ¬ (to'.subsecNanos < from'.subsecNanos ∧
          pageSeconds ∣ to'.timestamp - from'.timestamp) := by
  have hbehind : to'.nanos < pastWindow pageSeconds from' to' := by
    obtain ⟨k, -, hbehind, -⟩ := pastWindow_spec hpage h
    exact hbehind
  rw [← pastWindow_same_second_iff hpage h]
  constructor
  · intro hreads
    -- the network that answers every page with no candles
    obtain ⟨result, asked, ⟨enough, hfetch⟩, hread⟩ := hreads fun _ _ _ => .ok []
    obtain ⟨ending, asked', hended, enough', hfetch'⟩ :=
      fetchWindow_ended (fun _ _ _ => .ok []) hpage h
    have hsame := (hfetch (max enough enough') (le_max_left _ _)).symm.trans
      (hfetch' (max enough enough') (le_max_right _ _))
    cases hsame
    match ending, hended, hread with
    | .error (.panic _), _, hread => exact hread.elim
    | .error (.failed _), hended, _ =>
        obtain ⟨-, front, w, -, hfailed⟩ := hended
        cases hfailed
    | .ok st, ⟨hrun, hmax, hend⟩, hread =>
        exact ⟨hmax, (asked_all_iff hrun h hbehind hend).mp hread.1⟩
  · rintro ⟨hmax, hlater⟩ answer
    obtain ⟨ending, asked, hended, hfetch⟩ := fetchWindow_ended answer hpage h
    refine ⟨_, asked, hfetch, ?_⟩
    match ending, hended with
    | .error (.panic _), hpanic => exact absurd hmax (not_le.mpr hpanic)
    | .error (.failed _), hfailed => exact hfailed
    | .ok st, ⟨hrun, _, hend⟩ =>
        exact ⟨(asked_all_iff hrun h hbehind hend).mpr hlater, st.all.ascending, hrun.kept⟩

/-- The first of January 1970. -/
def epoch : DateTimeUtc := ⟨0, by decide, by decide⟩

/-- Half a second later. -/
def epochAndHalf : DateTimeUtc := ⟨500000000, by decide, by decide⟩

/-- The eighth of January 1970. -/
def epochWeek : DateTimeUtc := ⟨604800 * 10 ^ 9, by decide, by decide⟩

/-- A week that is one page is read. -/
theorem fetch_window_week : ReadsWindow 604800 epoch epochWeek :=
  (fetch_window_iff 604800 (by decide) epoch epochWeek (by decide)).mpr (by decide)

/-- A week from half a second past on, in pages of a week: the last second is not asked for. -/
theorem last_second_not_asked : ¬ ReadsWindow 604800 epochAndHalf epochWeek := by
  intro hreads
  obtain ⟨result, asked, ⟨enough, hfetch⟩, hread⟩ := hreads fun _ _ _ => .ok []
  have hrun : fetchWindow (recordedPages fun _ _ _ => .ok []) (.ok ()) 604800 epochAndHalf epochWeek
      (enough + 2) [] =
        some (.ok [], [(epochAndHalf, ⟨604799500000000, by decide, by decide⟩)]) := rfl
  rw [hfetch (enough + 2) (by omega)] at hrun
  cases hrun
  have hseconds : span 0 604799 = span 0 604800 := by
    rw [← List.append_nil (span 0 604799)]
    exact hread.1
  rw [span_eq_iff (by decide) (by decide)] at hseconds
  exact absurd hseconds (by decide)

end SolanaBot.Analysis
