import SolanaBot.Analysis.CandidateIngestion
import SolanaBot.Model.Collector

/-!
# Two ways into the collector

The lines of a file and a batch go through the same checks, but a record that the checks refuse leaves
its mint among the seen ones only in the file (`jsonlRecord`). The mint is then lost for every later
record. The two ways agree exactly if every refused record is of a mint that has been seen by then
(`collected_agree_iff`).

1. Only the records on the lines matter (`collectFromJsonl_eq_foldl`).
2. By induction on the records, the loops stay in the same state while the refused mints are seen.
3. At the first refused mint that is new they part, and never meet again (`Parted`).
-/

set_option autoImplicit false

namespace SolanaBot.Analysis

open SolanaBot.Model

/-! ## Records on lines -/

section Lines

variable (parse : String → Except String CandidateInput)

/-- The record on a line. A blank line and a malformed one have none. -/
def recordOn (line : String) : Option CandidateInput :=
  if isBlank line then none else (parse line).toOption

/-- The records on the lines of a text. -/
def recordsIn (text : String) : List CandidateInput :=
  ((textLines text.toList).map String.ofList).filterMap (recordOn parse)

/-- A line is skipped, or is its record. -/
theorem jsonlLine_eq (now : Time) (maxDataAgeSecs : Int) (st : Collecting) (line : String) :
    jsonlLine parse now maxDataAgeSecs st line =
      match recordOn parse line with
      | none => st
      | some c => jsonlRecord now maxDataAgeSecs st c := by
  unfold jsonlLine recordOn
  by_cases hblank : isBlank line = true
  · rw [if_pos hblank, if_pos hblank]
  · rw [if_neg hblank, if_neg hblank]
    cases parse line with
    | error e => rfl
    | ok c => rfl

/-- The loop over lines is the loop over their records. -/
theorem foldl_jsonlLine (now : Time) (maxDataAgeSecs : Int) (lines : List String)
    (st : Collecting) :
    lines.foldl (jsonlLine parse now maxDataAgeSecs) st =
      (lines.filterMap (recordOn parse)).foldl (jsonlRecord now maxDataAgeSecs) st := by
  induction lines generalizing st with
  | nil => rfl
  | cons line lines ih =>
      rw [List.foldl_cons, ih, jsonlLine_eq]
      cases hrecord : recordOn parse line with
      | none => rw [List.filterMap_cons_none hrecord]
      | some c => rw [List.filterMap_cons_some hrecord, List.foldl_cons]

/-- Of a text, the loop over the lines sees the records. -/
theorem collectFromJsonl_eq_foldl (text : String) (now : Time) (maxDataAgeSecs : Int)
    (collector : CandidateCollector) :
    collector.collectFromJsonl parse (.ok text) now maxDataAgeSecs =
      (recordsIn parse text).foldl (jsonlRecord now maxDataAgeSecs)
        { collector with candidates := [] } :=
  foldl_jsonlLine parse now maxDataAgeSecs _ _

/-- A text with one record on each line. -/
def asLines (render : CandidateInput → String) (cs : List CandidateInput) : String :=
  String.ofList (cs.flatMap fun c => (render c).toList ++ ['\n'])

/-- A line of the text is read back as it was written. -/
theorem textLines_append (line rest : List Char) (hfeed : '\n' ∉ line) (hreturn : '\r' ∉ line) :
    textLines (line ++ '\n' :: rest) = line :: textLines rest := by
  induction line with
  | nil =>
      rw [List.nil_append, textLines, if_pos rfl]
  | cons c line ih =>
      rw [List.mem_cons, not_or] at hfeed hreturn
      rw [List.cons_append, textLines, if_neg fun h => hfeed.1 h.symm,
        if_neg fun h => hreturn.1 h.1.symm, ih hfeed.2 hreturn.2]

/-- Every list of records has a text, if the parser reads what is rendered for each of them. -/
theorem recordsIn_asLines (render : CandidateInput → String) (cs : List CandidateInput)
    (hparse : ∀ c ∈ cs, parse (render c) = .ok c)
    (hline : ∀ c ∈ cs, '\n' ∉ (render c).toList ∧ '\r' ∉ (render c).toList)
    (hblank : ∀ c ∈ cs, isBlank (render c) = false) :
    recordsIn parse (asLines render cs) = cs := by
  unfold recordsIn asLines
  rw [String.toList_ofList]
  induction cs with
  | nil => rfl
  | cons c cs ih =>
      obtain ⟨hfeed, hreturn⟩ := hline c List.mem_cons_self
      have hrecord : recordOn parse (render c) = some c := by
        unfold recordOn
        rw [hblank c List.mem_cons_self, if_neg Bool.false_ne_true,
          hparse c List.mem_cons_self]
        rfl
      rw [List.flatMap_cons, List.append_assoc, List.singleton_append,
        textLines_append _ _ hfeed hreturn, List.map_cons, String.ofList_toList,
        List.filterMap_cons_some hrecord]
      rw [ih (fun c' hc' => hparse c' (List.mem_cons_of_mem _ hc'))
        (fun c' hc' => hline c' (List.mem_cons_of_mem _ hc'))
        (fun c' hc' => hblank c' (List.mem_cons_of_mem _ hc'))]

end Lines

/-! ## The two loops -/

section Loops

variable (now : Time) (maxDataAgeSecs : Int)

/-- Every record that is refused is of a mint that has been seen by then: before the call, or on an
earlier record that is valid. -/
def RefusedAreSeen (seen : Finset String) (cs : List CandidateInput) : Prop :=
  ∀ earlier c later, cs = earlier ++ c :: later → validateCandidate c now maxDataAgeSecs ≠ none →
    c.mint ∈ seen ∨
      ∃ c' ∈ earlier, validateCandidate c' now maxDataAgeSecs = none ∧ c'.mint = c.mint

variable {now maxDataAgeSecs}

/-- Nothing is refused in an empty list. -/
theorem refusedAreSeen_nil (seen : Finset String) : RefusedAreSeen now maxDataAgeSecs seen [] :=
  fun _ _ _ h => absurd h (by simp)

/-- A refused record must have been seen. -/
theorem refusedAreSeen_refused {seen : Finset String} {c : CandidateInput}
    {cs : List CandidateInput} (hc : validateCandidate c now maxDataAgeSecs ≠ none) :
    RefusedAreSeen now maxDataAgeSecs seen (c :: cs) ↔
      c.mint ∈ seen ∧ RefusedAreSeen now maxDataAgeSecs seen cs := by
  constructor
  · intro h
    refine ⟨?_, fun earlier r later hcs hr => ?_⟩
    · rcases h [] c cs rfl hc with hseen | ⟨_, hmem, -⟩
      · exact hseen
      · cases hmem
    · rcases h (c :: earlier) r later (by rw [hcs]; rfl) hr with hseen | ⟨c', hmem, hvalid, hmint⟩
      · exact .inl hseen
      · rcases List.mem_cons.mp hmem with rfl | hmem
        · exact absurd hvalid hc
        · exact .inr ⟨c', hmem, hvalid, hmint⟩
  · rintro ⟨hseen, h⟩ earlier r later hcs hr
    cases earlier with
    | nil =>
        obtain ⟨rfl, -⟩ := List.cons.inj hcs
        exact .inl hseen
    | cons first earlier =>
        obtain ⟨-, hrest⟩ := List.cons.inj hcs
        rcases h earlier r later hrest hr with hseen | ⟨c', hmem, hc'⟩
        · exact .inl hseen
        · exact .inr ⟨c', List.mem_cons_of_mem _ hmem, hc'⟩

/-- A valid record is seen from then on. -/
theorem refusedAreSeen_valid {seen : Finset String} {c : CandidateInput}
    {cs : List CandidateInput} (hc : validateCandidate c now maxDataAgeSecs = none) :
    RefusedAreSeen now maxDataAgeSecs seen (c :: cs) ↔
      RefusedAreSeen now maxDataAgeSecs (insert c.mint seen) cs := by
  constructor
  · intro h earlier r later hcs hr
    rw [Finset.mem_insert]
    rcases h (c :: earlier) r later (by rw [hcs]; rfl) hr with hseen | ⟨c', hmem, hvalid, hmint⟩
    · exact .inl (.inr hseen)
    · rcases List.mem_cons.mp hmem with rfl | hmem
      · exact .inl (.inl hmint.symm)
      · exact .inr ⟨c', hmem, hvalid, hmint⟩
  · intro h earlier r later hcs hr
    cases earlier with
    | nil =>
        obtain ⟨rfl, -⟩ := List.cons.inj hcs
        exact absurd hc hr
    | cons first earlier =>
        obtain ⟨rfl, hrest⟩ := List.cons.inj hcs
        rcases h earlier r later hrest hr with hseen | ⟨c', hmem, hc'⟩
        · rcases Finset.mem_insert.mp hseen with hmint | hseen
          · exact .inr ⟨c, List.mem_cons_self, hc, hmint.symm⟩
          · exact .inl hseen
        · exact .inr ⟨c', List.mem_cons_of_mem _ hmem, hc'⟩

/-- The file counts a refused record as seen. -/
theorem jsonlRecord_refused {c : CandidateInput}
    (hc : validateCandidate c now maxDataAgeSecs ≠ none) (st : Collecting) :
    jsonlRecord now maxDataAgeSecs st c = { st with seen := insert c.mint st.seen } := by
  unfold jsonlRecord
  cases h : validateCandidate c now maxDataAgeSecs with
  | none => exact absurd h hc
  | some reason => rfl

/-- The batch skips a refused record. -/
theorem batchRecord_refused {c : CandidateInput}
    (hc : validateCandidate c now maxDataAgeSecs ≠ none) (st : Collecting) :
    batchRecord now maxDataAgeSecs st c = st := by
  unfold batchRecord
  cases h : validateCandidate c now maxDataAgeSecs with
  | none => exact absurd h hc
  | some reason => rfl

/-- The file keeps a valid record if it is new. -/
theorem jsonlRecord_valid {c : CandidateInput}
    (hc : validateCandidate c now maxDataAgeSecs = none) (st : Collecting) :
    jsonlRecord now maxDataAgeSecs st c = st.keepNew c := by
  unfold jsonlRecord
  rw [hc]

/-- The batch keeps a valid record if it is new. -/
theorem batchRecord_valid {c : CandidateInput}
    (hc : validateCandidate c now maxDataAgeSecs = none) (st : Collecting) :
    batchRecord now maxDataAgeSecs st c = st.keepNew c := by
  unfold batchRecord
  rw [hc]

/-- A valid record leaves its mint among the seen ones. -/
theorem seen_keepNew (st : Collecting) (c : CandidateInput) :
    (st.keepNew c).seen = insert c.mint st.seen := by
  unfold Collecting.keepNew
  split
  · rename_i hseen
    exact (Finset.insert_eq_of_mem hseen).symm
  · rfl

/-- How many candidates of a mint are offered. -/
def offered (st : Collecting) (mint : String) : ℕ :=
  st.candidates.countP fun c => c.mint = mint

/-- A valid record is offered if it is the first of its mint. -/
theorem offered_keepNew (st : Collecting) (c : CandidateInput) (mint : String) :
    offered (st.keepNew c) mint =
      offered st mint + if c.mint = mint ∧ mint ∉ st.seen then 1 else 0 := by
  unfold Collecting.keepNew offered
  by_cases hseen : c.mint ∈ st.seen
  · have hnot : ¬ (c.mint = mint ∧ mint ∉ st.seen) := fun h => h.2 (h.1 ▸ hseen)
    rw [if_pos hseen, if_neg hnot, Nat.add_zero]
  · rw [if_neg hseen, List.countP_append, List.countP_singleton]
    by_cases hmint : c.mint = mint
    · rw [if_pos (decide_eq_true hmint), if_pos ⟨hmint, hmint ▸ hseen⟩]
    · rw [if_neg (by simpa using hmint), if_neg fun h => hmint h.1]

/-- The file has seen a mint, which the batch has not, or which it offers once more than the
file. -/
structure Parted (mint : String) (file batch : Collecting) : Prop where
  seen : mint ∈ file.seen
  ahead : (mint ∉ batch.seen ∧ offered file mint = offered batch mint) ∨
    offered file mint < offered batch mint

/-- Loops that have parted are in different states. -/
theorem Parted.ne {mint : String} {file batch : Collecting} (h : Parted mint file batch) :
    file ≠ batch := by
  rintro rfl
  rcases h.ahead with ⟨hnew, -⟩ | hlt
  · exact hnew h.seen
  · exact lt_irrefl _ hlt

/-- Loops that have parted do not meet in a turn. -/
theorem Parted.turn {mint : String} {file batch : Collecting} (h : Parted mint file batch)
    (c : CandidateInput) :
    Parted mint (jsonlRecord now maxDataAgeSecs file c)
      (batchRecord now maxDataAgeSecs batch c) := by
  by_cases hc : validateCandidate c now maxDataAgeSecs = none
  · rw [jsonlRecord_valid hc, batchRecord_valid hc]
    have hfile : offered (file.keepNew c) mint = offered file mint := by
      rw [offered_keepNew, if_neg fun hboth => hboth.2 h.seen, Nat.add_zero]
    refine ⟨by rw [seen_keepNew]; exact Finset.mem_insert_of_mem h.seen, ?_⟩
    rw [hfile, offered_keepNew, seen_keepNew, Finset.mem_insert]
    rcases h.ahead with ⟨hnew, heq⟩ | hlt
    · by_cases hmint : c.mint = mint
      · rw [if_pos ⟨hmint, hnew⟩]
        exact .inr (by omega)
      · rw [if_neg fun hboth => hmint hboth.1]
        exact .inl ⟨fun hin => hin.elim (fun heq => hmint heq.symm) hnew, heq⟩
    · exact .inr (lt_of_lt_of_le hlt (Nat.le_add_right _ _))
  · rw [jsonlRecord_refused hc, batchRecord_refused hc]
    exact ⟨Finset.mem_insert_of_mem h.seen, h.ahead⟩

/-- Where the two have parted they stay so. -/
theorem Parted.loops {mint : String} {file batch : Collecting} (h : Parted mint file batch)
    (cs : List CandidateInput) :
    Parted mint (cs.foldl (jsonlRecord now maxDataAgeSecs) file)
      (cs.foldl (batchRecord now maxDataAgeSecs) batch) := by
  induction cs generalizing file batch with
  | nil => exact h
  | cons c cs ih => exact ih (h.turn c)

/-- The loops agree exactly if every refused record is of a mint that has been seen. -/
theorem loops_agree_iff (cs : List CandidateInput) (st : Collecting) :
    cs.foldl (jsonlRecord now maxDataAgeSecs) st = cs.foldl (batchRecord now maxDataAgeSecs) st ↔
      RefusedAreSeen now maxDataAgeSecs st.seen cs := by
  induction cs generalizing st with
  | nil => exact iff_of_true rfl (refusedAreSeen_nil _)
  | cons c cs ih =>
      rw [List.foldl_cons, List.foldl_cons]
      by_cases hc : validateCandidate c now maxDataAgeSecs = none
      · rw [jsonlRecord_valid hc, batchRecord_valid hc, ih, seen_keepNew, refusedAreSeen_valid hc]
      · rw [jsonlRecord_refused hc, batchRecord_refused hc, refusedAreSeen_refused hc]
        by_cases hseen : c.mint ∈ st.seen
        · rw [Finset.insert_eq_of_mem hseen, ih, and_iff_right hseen]
        · have hparted : Parted c.mint { st with seen := insert c.mint st.seen } st :=
            ⟨Finset.mem_insert_self _ _, .inl ⟨hseen, rfl⟩⟩
          exact iff_of_false (hparted.loops cs).ne fun h => hseen h.1

end Loops

/-- **The two ways into the collector.** The lines of a text and the batch of its records emit the
same candidates and leave the same seen mints exactly if every record that is refused is of a mint
that has been seen by then. -/
theorem collected_agree_iff (parse : String → Except String CandidateInput) (text : String)
    (now : Time) (maxDataAgeSecs : Int) (collector : CandidateCollector) :
    collector.collectFromJsonl parse (.ok text) now maxDataAgeSecs =
        collector.collectBatch (recordsIn parse text) now maxDataAgeSecs ↔
      RefusedAreSeen now maxDataAgeSecs collector.seen (recordsIn parse text) := by
  rw [collectFromJsonl_eq_foldl]
  exact loops_agree_iff _ _

/-- A record of the feed whose market data is dated a second after the time it is read. -/
def futureRecord : CandidateInput :=
  { feedRecord 2 with market := { (feedRecord 2).market with observedAt := 1000 } }

/-- On the first line a record that is refused, on the second one a valid record of its mint: the
batch offers the second one, the file offers none. -/
theorem collected_differ :
    ∃ cs, cs = [futureRecord, feedRecord 2] ∧
      (∃ parse text, recordsIn parse text = cs) ∧
      ∀ parse text, recordsIn parse text = cs →
        (CandidateCollector.collectFromJsonl parse (.ok text) 0 60 ⟨∅⟩).candidates = [] ∧
        (CandidateCollector.collectBatch cs 0 60 ⟨∅⟩).candidates = [feedRecord 2] := by
  refine ⟨_, rfl, ⟨fun line => .ok (if line = "1" then futureRecord else feedRecord 2), "1\n2", ?_⟩,
    fun parse text h => ?_⟩
  · decide +kernel
  · rw [collectFromJsonl_eq_foldl, h]
    decide +kernel

end SolanaBot.Analysis
