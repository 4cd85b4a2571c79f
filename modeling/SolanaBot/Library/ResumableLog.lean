import Mathlib.Data.List.Basic
import SolanaBot.Library.Firsts

/-!
# Resumable logs

A writer appends a line for every item of a list to a log and keeps, in a second file, the keys of the
items that it has written; started again, it skips them. The second file is replaced as a whole (a
staged copy that is renamed), the log grows character by character. A crash cuts the steps of a run
after any number of them.

What a crash leaves in the log and not in the second file (`unmarked`) is written again by the next run.
So the log ends up as if the writer had run once exactly if no crash leaves anything there
(`resumed_log_iff`).
-/

set_option autoImplicit false

namespace SolanaBot.Library

/-- A log, and the keys of the items in it, with the staged copy of these keys. -/
structure LogDisk (κ : Type*) where
  log : List Char
  staged : List κ
  marked : List κ

/-- What a writer does to the disk. -/
inductive LogStep (κ : Type*) where
  | append (c : Char)
  | stage (keys : List κ)
  | rename

namespace LogStep

variable {κ : Type*}

/-- What a step does to the disk. -/
def apply (d : LogDisk κ) : LogStep κ → LogDisk κ
  | .append c => { d with log := d.log ++ [c] }
  | .stage keys => { d with staged := keys }
  | .rename => { d with marked := d.staged }

/-- The characters that steps append. -/
def appended (steps : List (LogStep κ)) : List Char :=
  steps.filterMap fun
    | .append c => some c
    | _ => none

/-- A character is unmarked from its appending to the next renaming. -/
def unmarkedTurn (pending : List Char) : LogStep κ → List Char
  | .append c => pending ++ [c]
  | .stage _ => pending
  | .rename => []

/-- The characters appended since the last renaming. -/
def unmarked (steps : List (LogStep κ)) : List Char := steps.foldl unmarkedTurn []

/-- Steps that write a line and stage the keys, without the renaming. -/
def lineSteps (line : List Char) (keys : List κ) : List (LogStep κ) :=
  line.map .append ++ [.append '\n', .stage keys]

/-- Steps that write a line and its mark. -/
def entrySteps (line : List Char) (keys : List κ) : List (LogStep κ) :=
  lineSteps line keys ++ [.rename]

/-- What steps without a renaming do. -/
theorem foldl_unrenamed {steps : List (LogStep κ)} (h : LogStep.rename ∉ steps) (d : LogDisk κ)
    (pending : List Char) :
    (steps.foldl apply d).log = d.log ++ appended steps ∧
      (steps.foldl apply d).marked = d.marked ∧
      steps.foldl unmarkedTurn pending = pending ++ appended steps := by
  induction steps generalizing d pending with
  | nil => simp [appended]
  | cons step steps ih =>
      rw [List.mem_cons, not_or] at h
      obtain ⟨hlog, hmarked, hpending⟩ := ih h.2 (apply d step) (unmarkedTurn pending step)
      rw [List.foldl_cons, List.foldl_cons, hlog, hmarked, hpending]
      cases step with
      | append c => simp [apply, unmarkedTurn, appended]
      | stage keys => simp [apply, unmarkedTurn, appended]
      | rename => exact absurd rfl h.1

/-- Writing a line renames nothing. -/
theorem rename_notMem_lineSteps (line : List Char) (keys : List κ) :
    LogStep.rename ∉ lineSteps line keys := by
  simp [lineSteps]

/-- Writing a line appends it with its line break. -/
theorem appended_lineSteps (line : List Char) (keys : List κ) :
    appended (lineSteps line keys) = line ++ ['\n'] := by
  simp [appended, lineSteps, List.filterMap_map]

/-- The disk after a line and its mark. -/
theorem foldl_entrySteps (line : List Char) (keys : List κ) (d : LogDisk κ) :
    ((entrySteps line keys).foldl apply d).log = d.log ++ (line ++ ['\n']) ∧
      ((entrySteps line keys).foldl apply d).marked = keys := by
  obtain ⟨hlog, -, -⟩ := foldl_unrenamed (rename_notMem_lineSteps line keys) d []
  have hstaged : ((lineSteps line keys).foldl apply d).staged = keys := by
    unfold lineSteps
    rw [List.foldl_append]
    rfl
  unfold entrySteps
  rw [List.foldl_append, ← appended_lineSteps line keys, ← hlog]
  exact ⟨rfl, hstaged⟩

/-- A complete entry leaves nothing unmarked. -/
theorem unmarked_entrySteps_append (line : List Char) (keys : List κ) (steps : List (LogStep κ)) :
    unmarked (entrySteps line keys ++ steps) = unmarked steps := by
  unfold unmarked entrySteps
  rw [List.foldl_append, List.foldl_append]
  rfl

end LogStep

open LogStep

section Writer

variable {α κ : Type*} [DecidableEq κ] (key : α → κ) (line : α → List Char)

/-- The lines of items, one below the other. -/
def logText (xs : List α) : List Char := xs.flatMap fun x => line x ++ ['\n']

/-- The steps of a run over the items, where some keys have been written. -/
def logSteps : List κ → List α → List (LogStep κ)
  | _, [] => []
  | seen, x :: xs =>
      if key x ∈ seen then logSteps seen xs
      else entrySteps (line x) (key x :: seen) ++ logSteps (key x :: seen) xs

/-- An item that has been seen is skipped. -/
theorem logSteps_cons_of_mem {seen : List κ} {x : α} (h : key x ∈ seen) (xs : List α) :
    logSteps key line seen (x :: xs) = logSteps key line seen xs := if_pos h

/-- A new item is written and marked. -/
theorem logSteps_cons_of_notMem {seen : List κ} {x : α} (h : key x ∉ seen) (xs : List α) :
    logSteps key line seen (x :: xs) =
      entrySteps (line x) (key x :: seen) ++ logSteps key line (key x :: seen) xs := if_neg h

/-- **What a crash leaves.** The items of a first part of the work are in the log and marked. Behind
them the log holds the characters that are not marked. -/
theorem crash_cases (xs : List α) (d : LogDisk κ) (n : ℕ) :
    ∃ done rest, firstsBy key d.marked xs = done ++ rest ∧
      (((logSteps key line d.marked xs).take n).foldl apply d).log =
        d.log ++ logText line done ++ unmarked ((logSteps key line d.marked xs).take n) ∧
      (((logSteps key line d.marked xs).take n).foldl apply d).marked =
        (done.map key).reverse ++ d.marked := by
  induction xs generalizing d n with
  | nil => exact ⟨[], [], rfl, by simp [logSteps, logText, unmarked], by simp [logSteps]⟩
  | cons x xs ih =>
      by_cases hseen : key x ∈ d.marked
      · rw [logSteps_cons_of_mem key line hseen, firstsBy_cons_of_mem hseen]
        exact ih d n
      rw [logSteps_cons_of_notMem key line hseen, firstsBy_cons_of_notMem hseen]
      by_cases hn : n ≤ (lineSteps (line x) (key x :: d.marked)).length
      · -- the crash comes before the renaming behind the first item
        have htake : (entrySteps (line x) (key x :: d.marked) ++
            logSteps key line (key x :: d.marked) xs).take n =
            (lineSteps (line x) (key x :: d.marked)).take n := by
          rw [entrySteps, List.append_assoc, List.take_append_of_le_length hn]
        have hnone : LogStep.rename ∉ (lineSteps (line x) (key x :: d.marked)).take n := by
          intro hmem
          exact rename_notMem_lineSteps _ _ (List.mem_of_mem_take hmem)
        obtain ⟨hlog, hmarked, hpending⟩ := foldl_unrenamed hnone d []
        rw [htake]
        refine ⟨[], x :: firstsBy key (key x :: d.marked) xs, rfl, ?_, ?_⟩
        · rw [hlog, unmarked, hpending, List.nil_append]
          simp [logText]
        · rw [hmarked]
          rfl
      · -- the first item is complete
        obtain ⟨m, hm⟩ : ∃ m, n = (entrySteps (line x) (key x :: d.marked)).length + m := by
          refine ⟨n - (entrySteps (line x) (key x :: d.marked)).length, ?_⟩
          rw [entrySteps, List.length_append, List.length_singleton]
          omega
        have htake : (entrySteps (line x) (key x :: d.marked) ++
            logSteps key line (key x :: d.marked) xs).take n =
            entrySteps (line x) (key x :: d.marked) ++
              (logSteps key line (key x :: d.marked) xs).take m := by
          rw [hm, List.take_length_add_append]
        obtain ⟨hlog, hmarked⟩ := foldl_entrySteps (line x) (key x :: d.marked) d
        obtain ⟨done, rest, hwork, hlog', hmarked'⟩ :=
          ih ((entrySteps (line x) (key x :: d.marked)).foldl apply d) m
        rw [hmarked] at hwork hlog' hmarked'
        rw [htake, List.foldl_append]
        refine ⟨x :: done, rest, by rw [hwork, List.cons_append], ?_, ?_⟩
        · rw [hlog', hlog, unmarked_entrySteps_append]
          simp [logText, List.append_assoc]
        · rw [hmarked']
          simp

/-! ## Runs over a disk -/

variable (xs : List α)

/-- A run that crashes after a number of its steps. -/
def crashed (d : LogDisk κ) (n : ℕ) : LogDisk κ :=
  ((logSteps key line d.marked xs).take n).foldl apply d

/-- A run that is not interrupted. -/
def finished (d : LogDisk κ) : LogDisk κ := (logSteps key line d.marked xs).foldl apply d

/-- Interrupted runs, and one that is not. -/
def resumed (d : LogDisk κ) (crashes : List ℕ) : LogDisk κ :=
  finished key line xs (crashes.foldl (crashed key line xs) d)

/-- No crash leaves unmarked characters in the log. -/
def Settled (d : LogDisk κ) : List ℕ → Prop
  | [] => True
  | n :: crashes => unmarked ((logSteps key line d.marked xs).take n) = [] ∧
      Settled (crashed key line xs d n) crashes

/-- A finished run adds the lines of the items that are not marked. -/
theorem finished_log (d : LogDisk κ) :
    (finished key line xs d).log = d.log ++ logText line (firstsBy key d.marked xs) := by
  unfold finished
  induction xs generalizing d with
  | nil => simp [logSteps, firstsBy, logText]
  | cons x xs ih =>
      by_cases hseen : key x ∈ d.marked
      · rw [logSteps_cons_of_mem key line hseen, firstsBy_cons_of_mem hseen]
        exact ih d
      obtain ⟨hlog, hmarked⟩ := foldl_entrySteps (line x) (key x :: d.marked) d
      have hrest := ih ((entrySteps (line x) (key x :: d.marked)).foldl apply d)
      rw [hlog, hmarked] at hrest
      rw [logSteps_cons_of_notMem key line hseen, firstsBy_cons_of_notMem hseen, List.foldl_append,
        hrest]
      simp [logText, List.append_assoc]

/-- The next run has the rest of the work to do, behind what the crash left. -/
theorem crashed_cases (d : LogDisk κ) (n : ℕ) :
    ∃ done rest, firstsBy key d.marked xs = done ++ rest ∧
      firstsBy key (crashed key line xs d n).marked xs = rest ∧
      (crashed key line xs d n).log =
        d.log ++ logText line done ++ unmarked ((logSteps key line d.marked xs).take n) := by
  obtain ⟨done, rest, hwork, hlog, hmarked⟩ := crash_cases key line xs d n
  refine ⟨done, rest, hwork, ?_, hlog⟩
  unfold crashed
  rw [hmarked]
  exact firstsBy_resume hwork

/-- The text of two lists of items. -/
theorem logText_append (xs ys : List α) :
    logText line (xs ++ ys) = logText line xs ++ logText line ys := List.flatMap_append

/-- Nothing is ever taken out of the log. -/
theorem length_resumed_ge (crashes : List ℕ) (d : LogDisk κ) :
    (finished key line xs d).log.length ≤ (resumed key line xs d crashes).log.length := by
  induction crashes generalizing d with
  | nil => exact le_refl _
  | cons n crashes ih =>
      obtain ⟨done, rest, hwork, hrest, hlog⟩ := crashed_cases key line xs d n
      have hnext := ih (crashed key line xs d n)
      rw [finished_log, hrest, hlog] at hnext
      rw [finished_log, hwork, logText_append]
      refine le_trans ?_ hnext
      simp only [List.length_append]
      omega

/-- **The log is that of a single run exactly if every crash is settled.** -/
theorem resumed_log_iff (crashes : List ℕ) (d : LogDisk κ) :
    (resumed key line xs d crashes).log = (finished key line xs d).log ↔
      Settled key line xs d crashes := by
  induction crashes generalizing d with
  | nil => exact iff_of_true rfl trivial
  | cons n crashes ih =>
      obtain ⟨done, rest, hwork, hrest, hlog⟩ := crashed_cases key line xs d n
      have hnext := ih (crashed key line xs d n)
      have hlength := length_resumed_ge key line xs crashes (crashed key line xs d n)
      rw [finished_log, hrest, hlog] at hnext hlength
      rw [finished_log, hwork, logText_append]
      change (resumed key line xs (crashed key line xs d n) crashes).log = _ ↔ _ ∧ _
      constructor
      · intro heq
        have hnone : unmarked ((logSteps key line d.marked xs).take n) = [] := by
          rw [heq] at hlength
          simp only [List.length_append] at hlength
          rw [← List.length_eq_zero_iff]
          omega
        refine ⟨hnone, hnext.mp ?_⟩
        rw [heq, hnone, List.append_nil, List.append_assoc]
      · rintro ⟨hnone, hsettled⟩
        rw [hnext.mpr hsettled, hnone, List.append_nil, List.append_assoc]

end Writer

end SolanaBot.Library
