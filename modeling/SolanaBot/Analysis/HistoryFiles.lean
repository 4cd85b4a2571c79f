import SolanaBot.Analysis.CandidateIngestion
import SolanaBot.Analysis.ResumableBuild
import SolanaBot.Model.History

/-!
# What a recorded history holds

Sessions append their records to one file, and a write that is cut leaves the beginning of a line. What
is appended next stands behind it on the same line, so a cut costs at most one record that was written
whole. All others are read back (`history_read_back`).

1. The text of the file is a list of finished lines, and what stands behind them (`FileText`).
2. A call appends lines of the header, and then its own line or a part of one (`record_appends`).
3. So it keeps what the calls have recorded on the lines, but for one record for each failure
   (`Recorded`); without failures nothing else is on them (`Intact`). What each call keeps, all sessions
   keep (`KeptByCalls`).
-/

set_option autoImplicit false

namespace SolanaBot.Analysis

open SolanaBot.Library SolanaBot.Model

/-! ## Lines -/

/-- What is read on a line. -/
def historyOn (f : HistoryFormat) (line : List Char) : Option HistoryRecord :=
  if isDataLine line then (f.fromStr (String.ofList (trimChars line))).toOption else none

/-- The text is made of the lines, each with its line feed, and of the rest of one more. -/
structure FileText (text : List Char) (lines : List (List Char)) (rest : List Char) : Prop where
  text_eq : text = logText id lines ++ rest
  lines : ∀ line ∈ lines, '\n' ∉ line
  rest : '\n' ∉ rest

/-- What has no line break is one line, or none. -/
theorem linesOf_rest {rest : List Char} (h : '\n' ∉ rest) :
    linesOf rest = if rest = [] then [] else [rest] := by
  induction rest with
  | nil => rfl
  | cons c rest ih =>
      rw [List.mem_cons, not_or] at h
      rw [linesOf, if_neg (Ne.symm h.1), ih h.2, if_neg (List.cons_ne_nil c rest)]
      cases rest <;> rfl

/-- The lines of a file are its complete ones and a part at its end. -/
theorem FileText.linesOf_eq {text rest : List Char} {lines : List (List Char)}
    (h : FileText text lines rest) : linesOf text = lines ++ if rest = [] then [] else [rest] := by
  obtain ⟨rfl, hlines, hrest⟩ := h
  induction lines with
  | nil => exact linesOf_rest hrest
  | cons line lines ih =>
      have hsplit : logText id (line :: lines) ++ rest = line ++ '\n' :: (logText id lines ++ rest) := by
        simp [logText]
      rw [hsplit, linesOf_line (hlines line List.mem_cons_self),
        ih fun l hl => hlines l (List.mem_cons_of_mem _ hl)]
      rfl

/-- A line is finished behind the rest. -/
theorem FileText.line {text rest line : List Char} {lines : List (List Char)}
    (h : FileText text lines rest) (hline : '\n' ∉ line) :
    FileText (text ++ (line ++ ['\n'])) (lines ++ [rest ++ line]) [] where
  text_eq := by rw [h.text_eq]; simp [logText]
  lines := by
    intro l hl
    rcases List.mem_append.mp hl with hl | hl
    · exact h.lines l hl
    · obtain rfl := List.mem_singleton.mp hl
      simpa using ⟨h.rest, hline⟩
  rest := List.not_mem_nil

/-- A part of a line comes behind the rest. -/
theorem FileText.part {text rest part : List Char} {lines : List (List Char)}
    (h : FileText text lines rest) (hpart : '\n' ∉ part) :
    FileText (text ++ part) lines (rest ++ part) where
  text_eq := by rw [h.text_eq, List.append_assoc]
  lines := h.lines
  rest := by simpa using ⟨h.rest, hpart⟩

/-! ## One call -/

/-- What the development relies on in `serde_json`: the JSON of a record is an object on one line, and
is read back. -/
structure HistoryFormat.Lawful (f : HistoryFormat) : Prop where
  reads : ∀ rec json, f.toJson rec = .ok json → f.fromStr json = .ok rec
  object : ∀ rec json, f.toJson rec = .ok json → ∃ body, json.toList = '{' :: (body ++ ['}'])
  oneLine : ∀ rec json, f.toJson rec = .ok json → '\n' ∉ json.toList

/-- A comment on a line of its own. -/
structure IsComment (line : List Char) : Prop where
  oneLine : '\n' ∉ line
  comment : isDataLine line = false

/-- The header of a new file consists of comments. -/
theorem historyHeader_comments : ∀ line ∈ historyHeader, IsComment line.toList := by
  have h : ∀ line ∈ historyHeader, '\n' ∉ line.toList ∧ isDataLine line.toList = false := by
    decide +kernel
  exact fun line hline => ⟨(h line hline).1, (h line hline).2⟩

/-- A write that is cut leaves a part of the line. -/
theorem cut_oneLine {line : List Char} (h : '\n' ∉ line) (n : ℕ) :
    '\n' ∉ (line ++ ['\n']).dropLast.take n := by
  rw [List.dropLast_concat]
  exact fun hmem => h (List.mem_of_mem_take hmem)

/-- Writing comments appends some of them, and a part of one where a write fails. -/
theorem writeLines_appends (lines : List String) (hlines : ∀ line ∈ lines, IsComment line.toList)
    (ends : ℕ → WriteEnd) (file : List Char) :
    ∃ comments part, (∀ line ∈ comments, IsComment line) ∧ '\n' ∉ part ∧
      (writeLines ends lines file).2 = file ++ logText id comments ++ part ∧
      ((writeLines ends lines file).1 = .ok () → part = []) := by
  induction lines generalizing ends file with
  | nil => exact ⟨[], [], by simp, by simp, by simp [writeLines, logText], fun _ => rfl⟩
  | cons line lines ih =>
      have hline := hlines line List.mem_cons_self
      unfold writeLines
      cases hend : ends 0 with
      | cut n msg =>
          exact ⟨[], _, by simp, cut_oneLine hline.oneLine n, by simp [writeAll, logText],
            by simp [writeAll]⟩
      | whole =>
          obtain ⟨comments, part, hcomments, hpart, hfile, hok⟩ :=
            ih (fun l hl => hlines l (List.mem_cons_of_mem _ hl)) (fun i => ends (i + 1))
              (file ++ (line.toList ++ ['\n']))
          refine ⟨line.toList :: comments, part, ?_, hpart, ?_, hok⟩
          · intro l hl
            rcases List.mem_cons.mp hl with rfl | hl
            · exact hline
            · exact hcomments l hl
          · dsimp only [writeAll]
            rw [hfile]
            simp [logText]

/-- Preparing the file appends comments, and a part of one where it fails. -/
theorem ensureFile_appends (r : HistoryRecorder) (e : HistoryEnv) :
    ∃ comments part, (∀ line ∈ comments, IsComment line) ∧ '\n' ∉ part ∧
      (r.ensureFile e).2.file = r.file ++ logText id comments ++ part ∧
      ((r.ensureFile e).1 = .ok () → part = []) ∧
      (r.ensureFile e).2.seenMintsThisSession = r.seenMintsThisSession := by
  have hsame : r.file = r.file ++ logText id [] ++ [] := by simp [logText]
  unfold HistoryRecorder.ensureFile
  split
  · exact ⟨[], [], by simp, by simp, hsame, fun _ => rfl, rfl⟩
  · split
    · exact ⟨[], [], by simp, by simp, hsame, fun _ => rfl, rfl⟩
    · exact ⟨[], [], by simp, by simp, hsame, fun _ => rfl, rfl⟩
    · exact ⟨[], [], by simp, by simp, hsame, fun _ => rfl, rfl⟩
    · exact ⟨[], [], by simp, by simp, hsame, fun _ => rfl, rfl⟩
    · obtain ⟨comments, part, hcomments, hpart, hfile, hok⟩ :=
        writeLines_appends historyHeader historyHeader_comments e.headerWrites r.file
      split
      · next msg file hwritten =>
          rw [hwritten] at hfile hok
          exact ⟨comments, part, hcomments, hpart, hfile, by simp, rfl⟩
      · next file hwritten =>
          rw [hwritten] at hfile hok
          exact ⟨comments, part, hcomments, hpart, hfile, fun _ => hok rfl, rfl⟩

/-- What a call leaves behind the comments, by its answer. -/
inductive CallLeaves (f : HistoryFormat) (rec : HistoryRecord) : Except String Bool → List Char → Prop
  | failed (msg : String) (part : List Char) (h : '\n' ∉ part) : CallLeaves f rec (.error msg) part
  | skipped : CallLeaves f rec (.ok false) []
  | written (json : String) (h : f.toJson rec = .ok json) :
      CallLeaves f rec (.ok true) (json.toList ++ ['\n'])

/-- Writing a record appends what its call leaves. -/
theorem appendRecord_leaves {f : HistoryFormat} (hf : HistoryFormat.Lawful f) (r : HistoryRecorder)
    (e : HistoryEnv) (rec : HistoryRecord) :
    ∃ left, CallLeaves f rec (r.appendRecord f e rec).1 left ∧
      (r.appendRecord f e rec).2.file = r.file ++ left := by
  unfold HistoryRecorder.appendRecord
  split
  · exact ⟨[], .failed _ _ (by simp), by simp⟩
  · exact ⟨[], .failed _ _ (by simp), by simp⟩
  · next json hjson hopen =>
      have hline := hf.oneLine rec json hjson
      cases hwrite : e.jsonWrite with
      | cut n msg =>
          refine ⟨_, .failed msg (json.toList.dropLast.take n) ?_, rfl⟩
          exact fun hmem => hline (List.mem_of_mem_dropLast (List.mem_of_mem_take hmem))
      | whole =>
          cases hfeed : e.feedWrite with
          | cut n msg =>
              refine ⟨json.toList, .failed msg _ hline, ?_⟩
              simp [writeAll]
          | whole =>
              refine ⟨_, .written json hjson, ?_⟩
              simp [writeAll]

/-- **What a call does to the file.** -/
theorem record_appends {f : HistoryFormat} (hf : HistoryFormat.Lawful f) (r : HistoryRecorder)
    (e : HistoryEnv) (c : CandidateInput) :
    ∃ comments left, (∀ line ∈ comments, IsComment line) ∧
      CallLeaves f (HistoryRecorder.recordOf e c) (r.record f e c).1 left ∧
      (r.record f e c).2.file = r.file ++ logText id comments ++ left := by
  obtain ⟨comments, part, hcomments, hpart, hfile, hok, -⟩ := ensureFile_appends r e
  refine ⟨comments, ?_⟩
  unfold HistoryRecorder.record
  split
  · next msg r' hensured =>
      rw [hensured] at hfile
      exact ⟨part, hcomments, .failed msg part hpart, hfile⟩
  · next r' hensured =>
      rw [hensured] at hfile hok
      obtain rfl := hok rfl
      rw [List.append_nil] at hfile
      split
      · exact ⟨[], hcomments, .skipped, by simpa using hfile⟩
      · split
        · exact ⟨[], hcomments, .skipped, by simpa using hfile⟩
        · obtain ⟨left, hleaves, hleft⟩ := appendRecord_leaves hf
            { r' with seenMintsThisSession := insert c.mint r'.seenMintsThisSession } e
            (HistoryRecorder.recordOf e c)
          exact ⟨left, hcomments, hleaves, hleft.trans (congrArg (· ++ left) hfile)⟩

/-! ## What is kept -/

section Kept

variable {f : HistoryFormat}

/-- The text of an object has no blanks at its ends. -/
theorem trimChars_object (body : List Char) :
    trimChars ('{' :: (body ++ ['}'])) = '{' :: (body ++ ['}']) := by
  have hopen : charIsWhitespace '{' = false := by decide
  have hclose : charIsWhitespace '}' = false := by decide
  unfold trimChars
  rw [List.dropWhile_cons_of_neg (by simp [hopen]), ← List.cons_append, List.reverse_append,
    List.reverse_singleton, List.singleton_append, List.dropWhile_cons_of_neg (by simp [hclose])]
  simp

/-- The line of a record is data. -/
theorem isDataLine_json (hf : HistoryFormat.Lawful f) {rec : HistoryRecord} {json : String}
    (h : f.toJson rec = .ok json) : isDataLine json.toList = true := by
  obtain ⟨body, hbody⟩ := hf.object rec json h
  rw [hbody]
  unfold isDataLine
  rw [trimChars_object]
  rfl

/-- The line of a record is read back. -/
theorem historyOn_json (hf : HistoryFormat.Lawful f) {rec : HistoryRecord} {json : String}
    (h : f.toJson rec = .ok json) : historyOn f json.toList = some rec := by
  obtain ⟨body, hbody⟩ := hf.object rec json h
  unfold historyOn
  rw [if_pos (isDataLine_json hf h), hbody, trimChars_object, ← hbody, String.ofList_toList,
    hf.reads rec json h]
  rfl

/-- A comment is no record. -/
theorem historyOn_comment {line : List Char} (h : IsComment line) : historyOn f line = none := by
  unfold historyOn
  rw [h.comment, if_neg Bool.false_ne_true]

/-- The recorded ones are on the lines, but for at most one for each failure. A rest that is not empty
costs the next one. -/
def Recorded (f : HistoryFormat) (text : List Char) (recorded : List HistoryRecord) (failures : ℕ) :
    Prop :=
  ∃ lines rest, ∃ kept : List HistoryRecord, FileText text lines rest ∧ kept.Sublist recorded ∧
    kept.Sublist (lines.filterMap (historyOn f)) ∧
    recorded.length + (if rest = [] then 0 else 1) ≤ kept.length + failures

/-- The recorded ones are all that is on the lines. -/
def Intact (f : HistoryFormat) (text : List Char) (recorded : List HistoryRecord) : Prop :=
  ∃ lines, FileText text lines [] ∧ lines.filterMap (historyOn f) = recorded ∧
    lines.countP isDataLine = recorded.length

variable {text : List Char} {recorded : List HistoryRecord} {failures : ℕ}

/-- A comment at the end of the file changes nothing in what is recorded. -/
theorem Recorded.comment (h : Recorded f text recorded failures) {line : List Char}
    (hline : IsComment line) : Recorded f (text ++ (line ++ ['\n'])) recorded failures := by
  obtain ⟨lines, rest, kept, htext, hrecorded, hlines, hcount⟩ := h
  refine ⟨_, _, kept, htext.line hline.oneLine, hrecorded, ?_, by rw [if_pos rfl]; omega⟩
  rw [List.filterMap_append]
  exact hlines.trans (List.sublist_append_left _ _)

/-- A part of a line costs one record at most. -/
theorem Recorded.failed (h : Recorded f text recorded failures) {part : List Char}
    (hpart : '\n' ∉ part) : Recorded f (text ++ part) recorded (failures + 1) := by
  obtain ⟨lines, rest, kept, htext, hrecorded, hlines, hcount⟩ := h
  refine ⟨lines, _, kept, htext.part hpart, hrecorded, hlines, ?_⟩
  split at hcount <;> split <;> omega

/-- The line of a record records it, or is lost to a part in front of it. -/
theorem Recorded.written (hf : HistoryFormat.Lawful f) (h : Recorded f text recorded failures)
    {rec : HistoryRecord} {json : String} (hjson : f.toJson rec = .ok json) :
    Recorded f (text ++ (json.toList ++ ['\n'])) (recorded ++ [rec]) failures := by
  obtain ⟨lines, rest, kept, htext, hrecorded, hlines, hcount⟩ := h
  have hnext := htext.line (hf.oneLine rec json hjson)
  by_cases hrest : rest = []
  · subst hrest
    refine ⟨_, _, kept ++ [rec], hnext, hrecorded.append (List.Sublist.refl _), ?_, ?_⟩
    · rw [List.filterMap_append]
      apply hlines.append
      simp [historyOn_json hf hjson]
    · rw [if_pos rfl] at hcount ⊢
      rw [List.length_append, List.length_append]
      omega
  · -- the line begins with the rest, and the record is lost
    refine ⟨_, _, kept, hnext, hrecorded.trans (List.sublist_append_left _ _), ?_, ?_⟩
    · rw [List.filterMap_append]
      exact hlines.trans (List.sublist_append_left _ _)
    · rw [if_neg hrest] at hcount
      rw [if_pos rfl, List.length_append, List.length_singleton]
      omega

/-- A comment leaves a file intact. -/
theorem Intact.comment (h : Intact f text recorded) {line : List Char} (hline : IsComment line) :
    Intact f (text ++ (line ++ ['\n'])) recorded := by
  obtain ⟨lines, htext, hrecorded, hcount⟩ := h
  refine ⟨_, htext.line hline.oneLine, ?_, ?_⟩
  · rw [List.filterMap_append, hrecorded]
    simp [historyOn_comment hline]
  · rw [List.countP_append, hcount]
    simp [hline.comment]

/-- The line of a record leaves it intact and records it. -/
theorem Intact.written (hf : HistoryFormat.Lawful f) (h : Intact f text recorded)
    {rec : HistoryRecord} {json : String} (hjson : f.toJson rec = .ok json) :
    Intact f (text ++ (json.toList ++ ['\n'])) (recorded ++ [rec]) := by
  obtain ⟨lines, htext, hrecorded, hcount⟩ := h
  refine ⟨_, htext.line (hf.oneLine rec json hjson), ?_, ?_⟩
  · rw [List.filterMap_append, hrecorded]
    simp [historyOn_json hf hjson]
  · rw [List.countP_append, hcount]
    simp [isDataLine_json hf hjson]

/-- What a comment keeps, all of them keep. -/
theorem comments_keep {P : List Char → Prop}
    (hkeeps : ∀ text line, IsComment line → P text → P (text ++ (line ++ ['\n'])))
    {comments : List (List Char)} (hcomments : ∀ line ∈ comments, IsComment line)
    (h : P text) : P (text ++ logText id comments) := by
  induction comments generalizing text with
  | nil => simpa [logText] using h
  | cons line comments ih =>
      have hsplit : text ++ logText id (line :: comments) =
          text ++ (line ++ ['\n']) ++ logText id comments := by simp [logText]
      rw [hsplit]
      exact ih (fun l hl => hcomments l (List.mem_cons_of_mem _ hl))
        (hkeeps text line (hcomments line List.mem_cons_self) h)

end Kept

/-! ## Sessions -/

/-- The record that a call has written, by its answer. -/
def wroteRecord : HistoryRecord × Except String Bool → Option HistoryRecord
  | (rec, .ok true) => some rec
  | _ => none

/-- The call that has failed. -/
def failedCall : HistoryRecord × Except String Bool → Bool
  | (_, .error _) => true
  | _ => false

/-- The sessions that append to a file, one after the other, each with a new recorder. -/
def recordSessions (f : HistoryFormat) : List (List (CandidateInput × HistoryEnv)) → List Char →
    List (HistoryRecord × Except String Bool) × List Char
  | [], file => ([], file)
  | calls :: sessions, file =>
      let r := (HistoryRecorder.new file).recordAll f calls
      let rest := recordSessions f sessions r.2.file
      (r.1 ++ rest.1, rest.2)

section Sessions

variable {f : HistoryFormat}

/-- Every call keeps the predicate of the text, of what has been recorded and of the failures. -/
def KeptByCalls (f : HistoryFormat) (P : List Char → List HistoryRecord → ℕ → Prop) : Prop :=
  ∀ (r : HistoryRecorder) (recorded : List HistoryRecord) (failures : ℕ) (e : HistoryEnv)
    (c : CandidateInput), P r.file recorded failures →
      P (r.record f e c).2.file
        (recorded ++ [(HistoryRecorder.recordOf e c, (r.record f e c).1)].filterMap wroteRecord)
        (failures + [(HistoryRecorder.recordOf e c, (r.record f e c).1)].countP failedCall)

/-- Every call keeps what the file records. -/
theorem recorded_keptByCalls (hf : HistoryFormat.Lawful f) : KeptByCalls f (Recorded f) := by
  intro r recorded failures e c h
  obtain ⟨comments, left, hcomments, hleaves, hfile⟩ := record_appends hf r e c
  have hbehind : Recorded f (r.file ++ logText id comments) recorded failures :=
    comments_keep (P := fun text => Recorded f text recorded failures)
      (fun text line hline h => h.comment hline) hcomments h
  rw [hfile]
  revert hleaves
  generalize (r.record f e c).1 = answer
  intro hleaves
  cases hleaves with
  | failed msg part hpart =>
      have hnone : [(HistoryRecorder.recordOf e c, Except.error msg)].filterMap wroteRecord = [] := rfl
      rw [hnone, List.append_nil]
      exact hbehind.failed hpart
  | skipped =>
      have hnone : [(HistoryRecorder.recordOf e c, Except.ok false)].filterMap wroteRecord = [] := rfl
      rw [hnone, List.append_nil, List.append_nil]
      exact hbehind
  | written json hjson => exact hbehind.written hf hjson

/-- As long as no call has failed the file is intact. -/
theorem intact_keptByCalls (hf : HistoryFormat.Lawful f) :
    KeptByCalls f fun text recorded failures => failures = 0 → Intact f text recorded := by
  intro r recorded failures e c h hok
  obtain ⟨hbefore, hcall⟩ := Nat.add_eq_zero_iff.mp hok
  obtain ⟨comments, left, hcomments, hleaves, hfile⟩ := record_appends hf r e c
  have hbehind : Intact f (r.file ++ logText id comments) recorded :=
    comments_keep (P := fun text => Intact f text recorded)
      (fun text line hline h => h.comment hline) hcomments (h hbefore)
  rw [hfile]
  revert hleaves hcall
  generalize (r.record f e c).1 = answer
  intro hcall hleaves
  cases hleaves with
  | failed msg part hpart => cases hcall
  | skipped =>
      have hnone : [(HistoryRecorder.recordOf e c, Except.ok false)].filterMap wroteRecord = [] := rfl
      rw [hnone, List.append_nil, List.append_nil]
      exact hbehind
  | written json hjson => exact hbehind.written hf hjson

variable {P : List Char → List HistoryRecord → ℕ → Prop}

/-- A session, from what was on the file before. -/
theorem KeptByCalls.session (hP : KeptByCalls f P) (calls : List (CandidateInput × HistoryEnv))
    {r : HistoryRecorder} {recorded : List HistoryRecord} {failures : ℕ}
    (h : P r.file recorded failures) :
    P (r.recordAll f calls).2.file (recorded ++ (r.recordAll f calls).1.filterMap wroteRecord)
      (failures + (r.recordAll f calls).1.countP failedCall) := by
  induction calls generalizing r recorded failures with
  | nil => simpa [HistoryRecorder.recordAll] using h
  | cons call calls ih =>
      obtain ⟨c, e⟩ := call
      have hrest := ih (hP r recorded failures e c h)
      rw [List.append_assoc, ← List.filterMap_append, Nat.add_assoc, ← List.countP_append] at hrest
      exact hrest

/-- What every call keeps, sessions of calls keep. -/
theorem KeptByCalls.sessions (hP : KeptByCalls f P)
    (sessions : List (List (CandidateInput × HistoryEnv))) {file : List Char}
    {recorded : List HistoryRecord} {failures : ℕ} (h : P file recorded failures) :
    P (recordSessions f sessions file).2
      (recorded ++ (recordSessions f sessions file).1.filterMap wroteRecord)
      (failures + (recordSessions f sessions file).1.countP failedCall) := by
  induction sessions generalizing file recorded failures with
  | nil => simpa [recordSessions] using h
  | cons calls sessions ih =>
      have hrest := ih (hP.session calls (r := .new file) h)
      rw [List.append_assoc, ← List.filterMap_append, Nat.add_assoc, ← List.countP_append] at hrest
      exact hrest

/-! ## One record for each mint -/

/-- Writing a record does not change the mints that were seen. -/
theorem appendRecord_seen (r : HistoryRecorder) (e : HistoryEnv) (rec : HistoryRecord) :
    (r.appendRecord f e rec).2.seenMintsThisSession = r.seenMintsThisSession := by
  unfold HistoryRecorder.appendRecord
  split
  · rfl
  · rfl
  · split
    · rfl
    · split <;> rfl

/-- A call writes a record only of a new mint, which is seen from then on. -/
theorem record_seen (r : HistoryRecorder) (e : HistoryEnv) (c : CandidateInput) :
    r.seenMintsThisSession ⊆ (r.record f e c).2.seenMintsThisSession ∧
      ((r.record f e c).1 = .ok true → c.mint ∉ r.seenMintsThisSession ∧
        c.mint ∈ (r.record f e c).2.seenMintsThisSession) := by
  obtain ⟨-, -, -, -, -, -, hseen⟩ := ensureFile_appends r e
  unfold HistoryRecorder.record
  split
  · next msg r' hensured =>
      rw [hensured] at hseen
      exact ⟨hseen.ge, fun h => by cases h⟩
  · next r' hensured =>
      rw [hensured] at hseen
      replace hseen : r'.seenMintsThisSession = r.seenMintsThisSession := hseen
      split
      · exact ⟨hseen.ge, fun h => by cases h⟩
      · split
        · exact ⟨hseen.ge, fun h => by cases h⟩
        · next hnew =>
            rw [appendRecord_seen]
            dsimp only
            rw [hseen] at hnew ⊢
            exact ⟨Finset.subset_insert _ _, fun _ => ⟨hnew, Finset.mem_insert_self _ _⟩⟩

/-- A session writes each mint once, and none that it had seen. -/
theorem recordAll_mints (calls : List (CandidateInput × HistoryEnv)) (r : HistoryRecorder) :
    (((r.recordAll f calls).1.filterMap wroteRecord).map fun rec => rec.candidate.mint).Nodup ∧
      ∀ rec ∈ (r.recordAll f calls).1.filterMap wroteRecord,
        rec.candidate.mint ∉ r.seenMintsThisSession := by
  induction calls generalizing r with
  | nil => exact ⟨List.nodup_nil, by simp [HistoryRecorder.recordAll]⟩
  | cons call calls ih =>
      obtain ⟨c, e⟩ := call
      obtain ⟨hnodup, hlater⟩ := ih (r.record f e c).2
      obtain ⟨hkept, hwritten⟩ := record_seen (f := f) r e c
      have hold : ∀ rec ∈ ((r.record f e c).2.recordAll f calls).1.filterMap wroteRecord,
          rec.candidate.mint ∉ r.seenMintsThisSession :=
        fun rec hrec hmem => hlater rec hrec (hkept hmem)
      have hsplit : (r.recordAll f ((c, e) :: calls)).1 =
          (HistoryRecorder.recordOf e c, (r.record f e c).1) ::
            ((r.record f e c).2.recordAll f calls).1 := rfl
      rw [hsplit]
      cases hrecord : wroteRecord (HistoryRecorder.recordOf e c, (r.record f e c).1) with
      | none =>
          rw [List.filterMap_cons_none hrecord]
          exact ⟨hnodup, hold⟩
      | some rec =>
          obtain ⟨hanswer, rfl⟩ : (r.record f e c).1 = .ok true ∧ HistoryRecorder.recordOf e c = rec := by
            unfold wroteRecord at hrecord
            split at hrecord
            · next answer heq =>
                obtain ⟨rfl, hanswer⟩ := Prod.mk.inj heq
                exact ⟨hanswer, Option.some.inj hrecord⟩
            · cases hrecord
          obtain ⟨hnew, hseen⟩ := hwritten hanswer
          rw [List.filterMap_cons_some hrecord]
          constructor
          · rw [List.map_cons, List.nodup_cons]
            refine ⟨fun hmem => ?_, hnodup⟩
            obtain ⟨rec, hrec, hmint⟩ := List.mem_map.mp hmem
            exact hlater rec hrec (hmint ▸ hseen)
          · intro rec hrec
            rcases List.mem_cons.mp hrec with rfl | hrec
            · exact hnew
            · exact hold rec hrec

end Sessions

/-! ## The report -/

section Report

variable {f : HistoryFormat}

/-- The mint of the record is valid. -/
def validMint (rec : HistoryRecord) : Bool := isValidHistoryMint rec.candidate.mint

/-- What the report says of the lines as a whole. -/
structure ReportsOn (f : HistoryFormat) (lines : List (List Char)) (report : HistoryValidationReport) :
    Prop where
  records : report.records = (lines.filterMap (historyOn f)).filter validMint
  totalLines : report.totalLines = lines.countP isDataLine
  parseable : report.parseableLines = report.records.length
  unparseable : report.totalLines = report.parseableLines + report.unparseableLines.length

/-- One line more is reported on. -/
theorem historyLine_reports (now : ℕ → Time) {lines : List (List Char)} {st : HistoryScan}
    (h : ReportsOn f lines st.toHistoryValidationReport) (line : List Char × ℕ) :
    ReportsOn f (lines ++ [line.1]) (historyLine f now st line).toHistoryValidationReport := by
  obtain ⟨hrecords, htotal, hparseable, hunparseable⟩ := h
  unfold historyLine
  split
  · next hdata =>
      dsimp only
      split
      · next msg hparse =>
          have hnone : historyOn f line.1 = none := by
            unfold historyOn
            rw [if_pos hdata, hparse]
            rfl
          exact ⟨by simp [hrecords, hnone], by simp [htotal, hdata], hparseable,
            by simp only [List.length_append, List.length_singleton]; omega⟩
      · next rec hparse =>
          have hsome : historyOn f line.1 = some rec := by
            unfold historyOn
            rw [if_pos hdata, hparse]
            rfl
          split
          · next hvalid =>
              have hfilter : validMint rec = true := hvalid
              exact ⟨by simp [HistoryScan.keep, hrecords, hsome, hfilter],
                by simp [HistoryScan.keep, htotal, hdata],
                by simp [HistoryScan.keep, hparseable],
                by simp only [HistoryScan.keep]; omega⟩
          · next hinvalid =>
              have hfilter : ¬ validMint rec = true := hinvalid
              exact ⟨by simp [hrecords, hsome, hfilter], by simp [htotal, hdata], hparseable,
                by simp only [List.length_append, List.length_singleton]; omega⟩
  · next hskipped =>
      have hnone : historyOn f line.1 = none := if_neg hskipped
      exact ⟨by simp [hrecords, hnone], by simp [htotal, hskipped], hparseable, hunparseable⟩

/-- Further lines are reported on. -/
theorem foldl_historyLine_reports (now : ℕ → Time) (more : List (List Char × ℕ))
    {lines : List (List Char)} {st : HistoryScan}
    (h : ReportsOn f lines st.toHistoryValidationReport) :
    ReportsOn f (lines ++ more.map Prod.fst)
      (more.foldl (historyLine f now) st).toHistoryValidationReport := by
  induction more generalizing lines st with
  | nil => simpa using h
  | cons line more ih =>
      have hrest := ih (historyLine_reports now h line)
      rwa [List.append_assoc] at hrest

/-- The validation reports on all lines of the file. -/
theorem validateHistory_reports (f : HistoryFormat) (path : String) (text : List Char)
    (now : ℕ → Time) :
    ∃ report, validateHistory f path (.ok text) now = .ok report ∧ ReportsOn f (linesOf text) report := by
  have hstart : ReportsOn f [] (HistoryScan.start path).toHistoryValidationReport :=
    ⟨rfl, rfl, rfl, rfl⟩
  have hreports := foldl_historyLine_reports now (linesOf text).zipIdx hstart
  rw [List.nil_append, List.zipIdx_map_fst] at hreports
  exact ⟨_, rfl, hreports⟩

end Report

/-- **Recorded histories are read back.** Over any sessions that append to one file, whatever calls of
the file system fail and wherever writes are cut between two characters: the validation of the file reports all records that
were written (those with a valid mint), in their order, but for at most one for each failed call; if no
call failed it reports nothing else, and every line of data is the line of a record. In one session each
mint is written at most once. -/
theorem history_read_back (f : HistoryFormat) (hf : HistoryFormat.Lawful f)
    (sessions : List (List (CandidateInput × HistoryEnv))) (path : String) (now : ℕ → Time) :
    let run := recordSessions f sessions []
    let recorded := run.1.filterMap wroteRecord
    ∃ report, validateHistory f path (.ok run.2) now = .ok report ∧
      (∃ kept : List HistoryRecord, kept.Sublist recorded ∧
        recorded.length ≤ kept.length + run.1.countP failedCall ∧
        (kept.filter validMint).Sublist report.records) ∧
      (run.1.countP failedCall = 0 →
        report.records = recorded.filter validMint ∧ report.totalLines = recorded.length) ∧
      ∀ (file : List Char) (calls : List (CandidateInput × HistoryEnv)),
        ((((HistoryRecorder.new file).recordAll f calls).1.filterMap wroteRecord).map
          fun rec => rec.candidate.mint).Nodup := by
  intro run recorded
  obtain ⟨report, hreport, hon⟩ := validateHistory_reports f path run.2 now
  have hempty : FileText [] [] [] := ⟨rfl, by simp, by simp⟩
  refine ⟨report, hreport, ?_, fun hok => ?_, fun file calls => (recordAll_mints calls _).1⟩
  · have hrun : Recorded f run.2 ([] ++ recorded) (0 + run.1.countP failedCall) :=
      (recorded_keptByCalls hf).sessions sessions ⟨[], [], [], hempty, List.Sublist.refl _,
        List.Sublist.refl _, by simp⟩
    rw [List.nil_append, Nat.zero_add] at hrun
    obtain ⟨lines, rest, kept, htext, hkept, hlines, hcount⟩ := hrun
    refine ⟨kept, hkept, by omega, ?_⟩
    rw [hon.records, htext.linesOf_eq, List.filterMap_append]
    exact (hlines.trans (List.sublist_append_left _ _)).filter _
  · have hrun : Intact f run.2 ([] ++ recorded) :=
      (intact_keptByCalls hf).sessions sessions (fun _ => ⟨[], hempty, rfl, rfl⟩)
        ((Nat.zero_add _).trans hok)
    rw [List.nil_append] at hrun
    obtain ⟨lines, htext, hrecorded, hcount⟩ := hrun
    have hlines : linesOf run.2 = lines := by rw [htext.linesOf_eq, if_pos rfl, List.append_nil]
    rw [hon.records, hon.totalLines, hlines, hrecorded, hcount]
    exact ⟨rfl, rfl⟩

/-- A record of the feed with a valid mint. -/
def wsolRecord : HistoryRecord :=
  ⟨0, "collect_live", { feedRecord 2 with mint := "So11111111111111111111111111111111111111112" }⟩

/-- The members of the JSON of the record. -/
def wsolMembers : List String :=
  ["\"recorded_at\":\"1970-01-01T00:00:00Z\",\"source\":\"collect_live\",",
   "\"mint\":\"So11111111111111111111111111111111111111112\",\"token_decimals\":0,",
   "\"base_mint_decimals\":0,\"input_amount\":10,\"position_usd\":\"10\",",
   "\"expected_gross_return_pct\":\"20\",\"market\":\x7b\"mint\":\"token\",\"price_usd\":\"2\",",
   "\"liquidity_usd\":\"10000\",\"volume_24h_usd\":\"0\",\"volatility_pct\":\"10\",",
   "\"buy_sell_imbalance\":\"1\",\"observed_at\":\"1970-01-01T00:00:00Z\",",
   "\"received_at\":\"1970-01-01T00:00:00Z\",\"slot\":null,\"price_impact_bps\":null\x7d,",
   "\"safety\":\x7b\"mint_authority_present\":false,\"freeze_authority_present\":false,",
   "\"holder_top10_pct\":\"10\",\"token_age_secs\":3600,\"liquidity_locked_or_burned\":null,",
   "\"sellable\":true,\"route_available\":true,\"creator_suspicious\":null,",
   "\"abnormal_activity\":null,\"liquidity_change_pct\":null,",
   "\"observed_at\":\"1970-01-01T00:00:00Z\"\x7d,\"wallets\":[],",
   "\"costs\":\x7b\"observed_at\":\"1970-01-01T00:00:00Z\",\"input\":\x7b",
   "\"position_size_usd\":\"10\",\"avg_priority_fee_usd\":\"0\",\"avg_swap_fee_bps\":\"1\",",
   "\"avg_slippage_bps\":\"1\",\"avg_price_impact_bps\":\"1\",\"failed_tx_rate\":\"0\",",
   "\"avg_failed_tx_cost_usd\":\"0\",\"assumed_win_loss_ratio\":\"1\",",
   "\"assumed_avg_loss_pct\":\"1\"\x7d,\"source\":\"fixture\",\"is_live_snapshot\":false\x7d,",
   "\"blockchain_timestamp\":\"1970-01-01T00:00:00Z\",",
   "\"detection_timestamp\":\"1970-01-01T00:00:00Z\",",
   "\"candidate_timestamp\":\"1970-01-01T00:00:00Z\",\"detection_latency_ms\":0"]

/-- The JSON of the record. -/
def wsolJson : String := "\x7b" ++ String.join wsolMembers ++ "\x7d"

/-- The members of the sample's records are on one line. -/
theorem wsolMembers_oneLine : ∀ part ∈ wsolMembers, '\n' ∉ part.toList := by decide +kernel

/-- The JSON of the one record. -/
def wsolFormat : HistoryFormat where
  toJson rec := if rec = wsolRecord then .ok wsolJson else .error "not the record"
  fromStr text := if text = wsolJson then .ok wsolRecord else .error "not the record"
  debugText s := "\"" ++ s ++ "\""

/-- The format of the sample is lawful. -/
theorem wsolFormat_lawful : HistoryFormat.Lawful wsolFormat := by
  have hjson : ∀ rec json, wsolFormat.toJson rec = .ok json → rec = wsolRecord ∧ json = wsolJson := by
    intro rec json h
    change (if rec = wsolRecord then Except.ok wsolJson else .error "not the record") = .ok json at h
    split at h
    · next heq => exact ⟨heq, (Except.ok.inj h).symm⟩
    · cases h
  have hlist : wsolJson.toList = '{' :: (wsolMembers.flatMap String.toList ++ ['}']) := by
    simp [wsolJson, String.toList_append, String.toList_join]
  have hread : ∀ text, text = wsolJson → wsolFormat.fromStr text = .ok wsolRecord := by
    intro text h
    exact if_pos h
  constructor
  · intro rec json h
    rw [(hjson rec json h).1]
    exact hread json (hjson rec json h).2
  · intro rec json h
    obtain ⟨rfl, rfl⟩ := hjson rec json h
    exact ⟨_, hlist⟩
  · intro rec json h
    obtain ⟨rfl, rfl⟩ := hjson rec json h
    rw [hlist, List.mem_cons, List.mem_append, List.mem_singleton, not_or, not_or]
    refine ⟨by decide, fun hmem => ?_, by decide⟩
    obtain ⟨part, hpart, hchar⟩ := List.mem_flatMap.mp hmem
    exact wsolMembers_oneLine part hpart hchar

/-- A file system on which everything succeeds. -/
def workingDisk : HistoryEnv :=
  { now := 0, createDir := .ok (), openCreate := .ok (), probe := .ok (), metadata := .ok ()
    headerWrites := fun _ => .whole, openAppend := .ok (), jsonWrite := .whole, feedWrite := .whole }

/-- A session in which the candidate comes twice. -/
def wsolSession : List (CandidateInput × HistoryEnv) :=
  [(wsolRecord.candidate, workingDisk), (wsolRecord.candidate, workingDisk)]

/-- A session whose disk is full within the line of the candidate. -/
def cutSession : List (CandidateInput × HistoryEnv) :=
  [(wsolRecord.candidate, { workingDisk with jsonWrite := .cut 5 "no space left on device" })]

/-- The candidate is recorded once, and read back. After a line that was cut the next record is lost with
it, and the one after that is read back. -/
theorem history_read_back_sample :
    (∃ report, validateHistory wsolFormat "history.jsonl"
        (.ok (recordSessions wsolFormat [wsolSession] []).2) (fun _ => 0) = .ok report ∧
      report.records = [wsolRecord]) ∧
    ∃ report, validateHistory wsolFormat "history.jsonl"
        (.ok (recordSessions wsolFormat [cutSession, wsolSession, wsolSession] []).2) (fun _ => 0) =
          .ok report ∧
      1 ≤ report.records.length := by
  constructor
  · obtain ⟨report, hreport, -, hintact, -⟩ := history_read_back wsolFormat wsolFormat_lawful
      [wsolSession] "history.jsonl" fun _ => 0
    refine ⟨report, hreport, ?_⟩
    rw [(hintact (by decide +kernel)).1]
    decide +kernel
  · obtain ⟨report, hreport, ⟨kept, hkept, hcount, hread⟩, -, -⟩ := history_read_back wsolFormat
      wsolFormat_lawful [cutSession, wsolSession, wsolSession] "history.jsonl" fun _ => 0
    have hrecorded : (recordSessions wsolFormat [cutSession, wsolSession, wsolSession] []).1.filterMap
        wroteRecord = [wsolRecord, wsolRecord] := by decide +kernel
    have hfailed : (recordSessions wsolFormat [cutSession, wsolSession, wsolSession] []).1.countP
        failedCall = 1 := by decide +kernel
    rw [hrecorded] at hkept hcount
    rw [hfailed] at hcount
    have hvalid : kept.filter validMint = kept := by
      refine List.filter_eq_self.mpr fun rec hrec => ?_
      have hmem := hkept.subset hrec
      simp only [List.mem_cons, List.not_mem_nil, or_false, or_self] at hmem
      rw [hmem]
      decide +kernel
    rw [hvalid] at hread
    have hlength := hread.length_le
    simp only [List.length_cons, List.length_nil] at hcount
    exact ⟨report, hreport, by omega⟩

end SolanaBot.Analysis
