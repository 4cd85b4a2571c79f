import Mathlib.Order.Bounds.Basic
import SolanaBot.Library.Paging
import SolanaBot.Model.TokenSafetyFetch

/-!
# The proof of a token's age

`fetch_token_safety` (collector/token_data.rs:30-144) walks back through the signatures of a mint, a page
at a time, until one of them is old enough, a page is not full, or ten pages are read. The network is
only asked to answer contiguous pages: runs of the history behind the cursor, of any length. The
invariant of the walk is that the signatures read so far are a first part of the history and that
`oldest` is the least of their block times (`walkAge_read`). The age is counted from a signature of the
mint in every case, and missing block times can only make it smaller (`token_age_proven`).

A page that is not full stops the walk as the end of the history. That is what the network promises
(data/rpc.rs:386-388), and with that promise the walk has then read everything. Without it a short page
in the middle of the history passes for its end (`short_page_unproven`).
-/

set_option autoImplicit false

namespace SolanaBot.Analysis

open SolanaBot.Library SolanaBot.Model

/-- The signatures of a mint, the newest first, none of them from before its creation. Block times are
numbers of 64 bits (data/rpc.rs:98). -/
structure MintHistory where
  entries : List DatedSignature
  created : Int
  distinct : (entries.map DatedSignature.signature).Nodup
  notBefore : ∀ e ∈ entries, ∀ bt, e.blockTime = some bt → created ≤ bt
  inRange : ∀ e ∈ entries, ∀ bt, e.blockTime = some bt → bt < 2 ^ 63

/-- The network fails, or answers a run of the history behind the cursor. The run may have any length. -/
def MintHistory.Contiguous (h : MintHistory) (rpc : TokenRpc) : Prop :=
  ∀ idx before page, signaturesForAddressPaged (rpc.signatures idx before) = .ok page →
    page <+: behind DatedSignature.signature h.entries before

/-- A page that is not full is all that is left of the history. RUST: data/rpc.rs:387-388, "Returns a
partial page (and no error) when the chain is exhausted". -/
def MintHistory.PartialAtEnd (h : MintHistory) (rpc : TokenRpc) : Prop :=
  ∀ idx before page, signaturesForAddressPaged (rpc.signatures idx before) = .ok page →
    page.length < AGE_PAGE_LIMIT → page = behind DatedSignature.signature h.entries before

/-- The block times of signatures, as far as they are known. -/
def blockTimes (read : List DatedSignature) : Set Int :=
  {bt | ∃ e ∈ read, e.blockTime = some bt}

/-- The least known block time of the signatures, if any is known. -/
def OldestOf (read : List DatedSignature) : Option Int → Prop
  | none => blockTimes read = ∅
  | some o => IsLeast (blockTimes read) o

/-- The block times of one signature more. -/
theorem blockTimes_snoc (read : List DatedSignature) (e : DatedSignature) :
    blockTimes (read ++ [e]) = blockTimes read ∪ {bt | e.blockTime = some bt} := by
  ext bt
  simp [blockTimes, or_and_right, exists_or]

/-- The oldest of one signature more. -/
theorem oldestOf_snoc {read : List DatedSignature} {o : Option Int} (h : OldestOf read o)
    (e : DatedSignature) : OldestOf (read ++ [e]) (olderTime o e) := by
  unfold olderTime
  cases hbt : e.blockTime with
  | none =>
      have hsame : blockTimes (read ++ [e]) = blockTimes read := by
        rw [blockTimes_snoc, hbt]
        simp
      cases o with
      | none => exact hsame.trans h
      | some prev =>
          change IsLeast (blockTimes (read ++ [e])) prev
          rw [hsame]
          exact h
  | some bt =>
      have hmore : blockTimes (read ++ [e]) = blockTimes read ∪ {bt} := by
        rw [blockTimes_snoc, hbt]
        ext x
        simp [eq_comm]
      cases o with
      | none =>
          change IsLeast (blockTimes (read ++ [e])) bt
          rw [hmore, show blockTimes read = ∅ from h, Set.empty_union]
          exact isLeast_singleton
      | some prev =>
          change IsLeast (blockTimes (read ++ [e])) (min prev bt)
          rw [hmore]
          exact IsLeast.union h isLeast_singleton

/-- A page keeps `oldest` the least block time of what was read. -/
theorem oldestOf_page (page : List DatedSignature) {read : List DatedSignature} {o : Option Int}
    (h : OldestOf read o) : OldestOf (read ++ page) (page.foldl olderTime o) := by
  induction page generalizing read o with
  | nil => rwa [List.append_nil]
  | cons e page ih =>
      have hnext := ih (oldestOf_snoc h e)
      rwa [List.append_assoc, List.singleton_append] at hnext

/-- What one turn of the walk does: it stops behind the page, exhausted only behind a page that is not
full, or goes on from the last signature of the page. -/
theorem walkAge_cases {signatures : ℕ → Option String → Except RpcError (Option (List RawSignature))}
    {cutoff : Int} {left idx : ℕ} {st walked : AgeWalk} (hopen : st.exhausted = false)
    (hwalk : walkAge signatures cutoff (left + 1) idx st = .ok walked) :
    ∃ page, signaturesForAddressPaged (signatures idx st.before) = .ok page ∧
      ((walked.oldest = page.foldl olderTime st.oldest ∧
          (walked.exhausted = true → page.length < AGE_PAGE_LIMIT)) ∨
        ∃ last, page.getLast? = some last ∧
          walkAge signatures cutoff left (idx + 1)
            { st with
              oldest := page.foldl olderTime st.oldest
              before := some last.signature } = .ok walked) := by
  unfold walkAge at hwalk
  cases hanswer : signaturesForAddressPaged (signatures idx st.before) with
  | error e =>
      rw [hanswer] at hwalk
      cases hwalk
  | ok page =>
      rw [hanswer] at hwalk
      dsimp only at hwalk
      refine ⟨page, rfl, ?_⟩
      by_cases hempty : page = []
      · -- an empty page: the history ends before it
        rw [if_pos hempty] at hwalk
        cases hwalk
        rw [hempty]
        exact .inl ⟨rfl, fun _ => by decide⟩
      rw [if_neg hempty] at hwalk
      by_cases hold : (page.foldl olderTime st.oldest).any (· ≤ cutoff)
      · -- a signature is old enough
        rw [if_pos hold] at hwalk
        cases hwalk
        refine .inl ⟨rfl, fun hexhausted => ?_⟩
        rw [hopen] at hexhausted
        cases hexhausted
      rw [if_neg hold] at hwalk
      by_cases hlt : page.length < AGE_PAGE_LIMIT
      · -- a short page is the last one
        rw [if_pos hlt] at hwalk
        cases hwalk
        exact .inl ⟨rfl, fun _ => hlt⟩
      rw [if_neg hlt] at hwalk
      cases hlast : page.getLast? with
      | none => exact absurd (List.getLast?_eq_none_iff.mp hlast) hempty
      | some last =>
          rw [hlast] at hwalk
          exact .inr ⟨last, rfl, hwalk⟩

/-- The last page that was asked for, behind the signatures `front`, is not full. -/
def EndsPartial (h : MintHistory) (rpc : TokenRpc) (read : List DatedSignature) : Prop :=
  ∃ front idx before page, Reading DatedSignature.signature h.entries front before ∧
    signaturesForAddressPaged (rpc.signatures idx before) = .ok page ∧
    page.length < AGE_PAGE_LIMIT ∧ read = front ++ page

/-- Where partial pages are the last ones, a walk that ends at one has read the whole history. -/
theorem EndsPartial.complete {h : MintHistory} {rpc : TokenRpc} {read : List DatedSignature}
    (hend : EndsPartial h rpc read) (hends : h.PartialAtEnd rpc) : read = h.entries := by
  obtain ⟨front, idx, before, page, hfront, hanswer, hshort, hread⟩ := hend
  have hpage := hends idx before page hanswer hshort
  rw [hread, hpage]
  exact hfront.rest

/-- **What the walk has read.** A first part of the history, with `oldest` as its least block time. The
walk is exhausted only at a page that is not full. -/
theorem walkAge_read {h : MintHistory} {rpc : TokenRpc} (hrpc : h.Contiguous rpc) {cutoff : Int}
    {left idx : ℕ} {st walked : AgeWalk} {read : List DatedSignature}
    (hread : Reading DatedSignature.signature h.entries read st.before)
    (holdest : OldestOf read st.oldest) (hopen : st.exhausted = false)
    (hwalk : walkAge rpc.signatures cutoff left idx st = .ok walked) :
    ∃ read', read' <+: h.entries ∧ OldestOf read' walked.oldest ∧
      (walked.exhausted = true → EndsPartial h rpc read') := by
  induction left generalizing idx st read with
  | zero =>
      cases hwalk
      refine ⟨read, hread.is_prefix, holdest, ?_⟩
      intro hexhausted
      rw [hopen] at hexhausted
      cases hexhausted
  | succ left ih =>
      obtain ⟨page, hanswer, hturn⟩ := walkAge_cases hopen hwalk
      have hpage := pageBehind_of_prefix (hrpc idx st.before page hanswer)
      have holdest' := oldestOf_page page holdest
      cases hturn with
      | inl hstop =>
          refine ⟨read ++ page, ?_, ?_, ?_⟩
          · rw [hpage]
            exact hread.prefix_page page.length
          · rw [hstop.1]
            exact holdest'
          · intro hexhausted
            exact ⟨read, idx, st.before, page, hread, hanswer, hstop.2 hexhausted, rfl⟩
      | inr hgoes =>
          obtain ⟨last, hlast, hnext⟩ := hgoes
          have hread' : Reading DatedSignature.signature h.entries (read ++ page)
              (some last.signature) := by
            rw [hpage] at hlast ⊢
            exact hread.next h.distinct hlast
          exact ih hread' (by exact holdest') (by exact hopen) hnext

/-- A difference that saturates is no greater than the difference, unless that is below all numbers of
64 bits. -/
theorem saturatingSubI64_le {a b : Int} (h : -2 ^ 63 ≤ a - b) : saturatingSubI64 a b ≤ a - b :=
  max_le h (min_le_right _ _)

/-- The walk behind a record, and the time that its age is counted from. -/
theorem fetchTokenSafety_some {rpc : TokenRpc} {minTokenAgeSecs nowTs : Int} {observedAt : Time}
    {safety : TokenSafety}
    (hok : fetchTokenSafety rpc minTokenAgeSecs nowTs observedAt = .ok (some safety)) :
    ∃ walked oldest, walkAge rpc.signatures (ageCutoff nowTs minTokenAgeSecs) MAX_AGE_PAGES 0
        { oldest := none, before := none, exhausted := false } = .ok walked ∧
      walked.oldest = some oldest ∧ safety.tokenAgeSecs = saturatingSubI64 nowTs oldest ∧
      (walked.exhausted = true ∨ oldest ≤ ageCutoff nowTs minTokenAgeSecs) := by
  unfold fetchTokenSafety at hok
  cases hmint : mintAccountInfo rpc.mintAccount with
  | error e => simp [hmint] at hok
  | ok info =>
      cases info with
      | none => simp [hmint] at hok
      | some info =>
          cases hinit : info.isInitialized with
          | false => simp [hmint, hinit] at hok
          | true =>
              cases hlargest : rpc.largestAccounts with
              | error e => simp [hmint, hinit, hlargest] at hok
              | ok holders =>
                  cases hpct : holderTop10Pct info.supply holders with
                  | none => simp [hmint, hinit, hlargest, hpct] at hok
                  | some pct =>
                      simp only [hmint, hinit, hlargest, hpct, Bool.not_true, Bool.false_eq_true,
                        if_false] at hok
                      split at hok
                      · cases hok
                      · rename_i walked hwalked
                        split at hok
                        · cases hok
                        · rename_i oldest holdest
                          split at hok
                          · cases hok
                          · rename_i hproven
                            cases hok
                            refine ⟨walked, oldest, hwalked, holdest, rfl, ?_⟩
                            by_cases hexhausted : walked.exhausted
                            · exact .inl hexhausted
                            · right
                              rw [not_and, not_lt] at hproven
                              exact hproven (by simpa using hexhausted)

/-- The reported age is counted from the least block time of a first part of the history, which is at or
before the cutoff or satisfies `ended`. -/
def AgeProven (h : MintHistory) (minTokenAgeSecs nowTs : Int) (safety : TokenSafety)
    (ended : List DatedSignature → Prop) : Prop :=
  ∃ read oldest, read <+: h.entries ∧ IsLeast (blockTimes read) oldest ∧
    safety.tokenAgeSecs = saturatingSubI64 nowTs oldest ∧
    (oldest ≤ ageCutoff nowTs minTokenAgeSecs ∨ ended read)

/-- The record does not make the mint older than it is. -/
def NotOverstated (h : MintHistory) (nowTs : Int) (safety : TokenSafety) : Prop :=
  safety.tokenAgeSecs ≤ nowTs - h.created

/-- **The age of a token is proven and not overstated.** For every history of a mint and every network
that answers contiguous pages of it: if a record is returned, its age is counted from the least block
time of the signatures that were read, and either that is at or before the cutoff or the walk ended at a
page that is not full, which is the end of the history where partial pages are the last ones. The age is
at most the time since the creation of the mint. The clock does not read a time before 1970. -/
theorem token_age_proven (h : MintHistory) (rpc : TokenRpc) (hrpc : h.Contiguous rpc)
    (minTokenAgeSecs nowTs : Int) (hnow : 0 ≤ nowTs) (observedAt : Time) (safety : TokenSafety)
    (hok : fetchTokenSafety rpc minTokenAgeSecs nowTs observedAt = .ok (some safety)) :
    AgeProven h minTokenAgeSecs nowTs safety (EndsPartial h rpc) ∧
      (h.PartialAtEnd rpc →
        AgeProven h minTokenAgeSecs nowTs safety fun read => read = h.entries) ∧
      NotOverstated h nowTs safety := by
  obtain ⟨walked, oldest, hwalked, holdest, hsecs, hproven⟩ := fetchTokenSafety_some hok
  obtain ⟨read, hfirst, hleast, hexhausted⟩ :=
    walkAge_read hrpc (Reading.start h.entries) (by simp [OldestOf, blockTimes]) rfl hwalked
  rw [holdest] at hleast
  have hended : oldest ≤ ageCutoff nowTs minTokenAgeSecs ∨ EndsPartial h rpc read := by
    cases hproven with
    | inl hend => exact .inr (hexhausted hend)
    | inr hcutoff => exact .inl hcutoff
  refine ⟨⟨read, oldest, hfirst, hleast, hsecs, hended⟩, ?_, ?_⟩
  · intro hends
    exact ⟨read, oldest, hfirst, hleast, hsecs, hended.imp_right fun hend => hend.complete hends⟩
  · obtain ⟨e, he, hbt⟩ := hleast.1
    have hcreated : h.created ≤ oldest := h.notBefore e (hfirst.subset he) oldest hbt
    have hrange : oldest < 2 ^ 63 := h.inRange e (hfirst.subset he) oldest hbt
    calc safety.tokenAgeSecs = saturatingSubI64 nowTs oldest := hsecs
      _ ≤ nowTs - oldest := saturatingSubI64_le (by omega)
      _ ≤ nowTs - h.created := sub_le_sub_left hcreated nowTs

/-- A network that answers from the history of a mint, at most `limit` signatures to a page. -/
def MintHistory.rpc (h : MintHistory) (limit : ℕ) : TokenRpc where
  mintAccount := .ok (some ⟨none, none, some (some 100), some 6, some true⟩)
  largestAccounts := .ok [⟨50⟩]
  signatures := fun _ before =>
    .ok (some ((pageBehind DatedSignature.signature limit h.entries before).map
      fun e => ⟨some e.signature, e.blockTime⟩))

/-- Signatures that the network writes out are read back. -/
theorem mapM_read (es : List DatedSignature) :
    (es.map fun e => (⟨some e.signature, e.blockTime⟩ : RawSignature)).mapM RawSignature.read
      = .ok es := by
  induction es with
  | nil => rfl
  | cons e es ih =>
      rw [List.map_cons, List.mapM_cons, ih]
      rfl

/-- Such a network answers contiguous pages. -/
theorem MintHistory.contiguous_rpc (h : MintHistory) (limit : ℕ) : h.Contiguous (h.rpc limit) := by
  intro idx before page hpage
  have hanswer : signaturesForAddressPaged ((h.rpc limit).signatures idx before) =
      .ok (pageBehind DatedSignature.signature limit h.entries before) := mapM_read _
  rw [hanswer] at hpage
  cases hpage
  exact List.take_prefix limit _

/-- A mint that was created at time 1000 and used twice since. -/
def youngMint : MintHistory where
  entries := [⟨"sell", some 4000⟩, ⟨"buy", some 3000⟩, ⟨"create", some 1000⟩]
  created := 1000
  distinct := by decide
  notBefore := by decide
  inRange := by decide

/-- The record of the mint with an age. -/
def youngSafety (tokenAgeSecs : Int) : TokenSafety where
  mintAuthorityPresent := false
  freezeAuthorityPresent := false
  holderTop10Pct := 50
  tokenAgeSecs := tokenAgeSecs
  liquidityLockedOrBurned := none
  sellable := none
  routeAvailable := none
  creatorSuspicious := none
  abnormalActivity := none
  liquidityChangePct := none
  observedAt := 5000000

/-- Read in one page, the age of the mint is the time since its creation. -/
theorem token_age_proven_young :
    AgeProven youngMint 4500 5000 (youngSafety 4000) (EndsPartial youngMint (youngMint.rpc 200)) ∧
      (youngMint.PartialAtEnd (youngMint.rpc 200) →
        AgeProven youngMint 4500 5000 (youngSafety 4000) fun read => read = youngMint.entries) ∧
      NotOverstated youngMint 5000 (youngSafety 4000) :=
  token_age_proven youngMint (youngMint.rpc 200) (youngMint.contiguous_rpc 200) 4500 5000
    (by decide) 5000000 (youngSafety 4000) (by decide +kernel)

/-- **A short page in the middle of the history passes for its end.** The network answers one signature
to a page. The walk stops behind the newest one, and a record is returned although that signature is
younger than the cutoff and two more are left. -/
theorem short_page_unproven :
    ¬ ∀ (h : MintHistory) (rpc : TokenRpc), h.Contiguous rpc →
      ∀ (minTokenAgeSecs nowTs : Int), 0 ≤ nowTs → ∀ (observedAt : Time) (safety : TokenSafety),
        fetchTokenSafety rpc minTokenAgeSecs nowTs observedAt = .ok (some safety) →
          AgeProven h minTokenAgeSecs nowTs safety (fun read => read = h.entries) ∧
            NotOverstated h nowTs safety := by
  intro hclaim
  obtain ⟨⟨read, oldest, -, hleast, hsecs, hended⟩, -⟩ :=
    hclaim youngMint (youngMint.rpc 1) (youngMint.contiguous_rpc 1) 3600 5000 (by decide) 5000000
      (youngSafety 1000) (by decide +kernel)
  have holdest : oldest = 4000 := by
    have hage : (1000 : Int) = saturatingSubI64 5000 oldest := hsecs
    unfold saturatingSubI64 at hage
    omega
  subst holdest
  cases hended with
  | inl hcutoff => exact absurd hcutoff (by decide)
  | inr hall =>
      have hcreate : (1000 : Int) ∈ blockTimes read := by
        rw [hall]
        exact ⟨⟨"create", some 1000⟩, by decide, rfl⟩
      have hle : (4000 : Int) ≤ 1000 := hleast.2 hcreate
      omega

end SolanaBot.Analysis
