import Mathlib.Algebra.BigOperators.Group.List.Basic
import Mathlib.Algebra.Order.Group.MinMax
import Mathlib.Data.List.Induction
import Mathlib.Data.List.Infix
import Mathlib.Order.Bounds.Basic
import SolanaBot.Library.Peaks

/-!
# Paths of gains

Gains from a start make a path. One loop over them keeps its value, its peak and the greatest measure of
the two so far (`pathTurn`); behind the loop these are the end of the path, the highest value of a
prefix, and the greatest measure of a prefix (`foldl_pathTurn`). The measure that matters most is how far
the value is below the peak (`drops`). In the same way a loop that counts what it
meets in a row finds the length of the longest run (`foldl_runTurn`).
-/

set_option autoImplicit false

namespace SolanaBot.Library

section Paths

variable {K : Type*} [AddCommMonoid K]

/-- Where the gains lead from a start. -/
def pathAt (start : K) (gains : List K) : K := start + gains.sum

/-- A path without gains is at its start. -/
@[simp] theorem pathAt_nil (start : K) : pathAt start [] = start := add_zero start

/-- One gain more moves the path by it. -/
theorem pathAt_snoc (start : K) (gains : List K) (gain : K) :
    pathAt start (gains ++ [gain]) = pathAt start gains + gain := by
  unfold pathAt
  rw [List.sum_append, List.sum_singleton, add_assoc]

variable [LinearOrder K]

/-- The highest value on the way, the start included. -/
def pathPeak (start : K) (gains : List K) : K := peak start (gains.inits.map (pathAt start))

/-- One turn of a loop that keeps the value, the peak and the greatest measure of the two. -/
def pathTurn (measure : K → K → K) (s : K × K × K) (gain : K) : K × K × K :=
  (s.1 + gain, max s.2.1 (s.1 + gain), max s.2.2 (measure (max s.2.1 (s.1 + gain)) (s.1 + gain)))

/-- The measures behind the prefixes of a path. -/
def prefixMeasures (measure : K → K → K) (start : K) (gains : List K) : Set K :=
  { d | ∃ p, p <+: gains ∧ d = measure (pathPeak start p) (pathAt start p) }

/-- One gain more raises the peak to the new point, if that is higher. -/
theorem pathPeak_snoc (start : K) (gains : List K) (gain : K) :
    pathPeak start (gains ++ [gain]) = max (pathPeak start gains) (pathAt start gains + gain) := by
  have hinits : (gains ++ [gain]).inits = gains.inits ++ [gains ++ [gain]] := by
    rw [List.inits_append]
    rfl
  unfold pathPeak
  rw [hinits, List.map_append, peak_append, ← pathAt_snoc]
  rfl

/-- The peak of a path without gains is its start. -/
@[simp] theorem pathPeak_nil (start : K) : pathPeak start [] = start := by
  change max start (pathAt start []) = start
  rw [pathAt_nil, max_self]

/-- The peak is not below the start. -/
theorem start_le_pathPeak (start : K) (gains : List K) : start ≤ pathPeak start gains :=
  start_le_peak _ _

/-- The greatest measure of a prefix, with one gain more. -/
theorem isGreatest_prefixMeasures_snoc {measure : K → K → K} {start : K} {gains : List K} {worst : K}
    (h : IsGreatest (prefixMeasures measure start gains) worst) (gain : K) :
    IsGreatest (prefixMeasures measure start (gains ++ [gain]))
      (max worst (measure (pathPeak start (gains ++ [gain])) (pathAt start (gains ++ [gain])))) := by
  obtain ⟨⟨q, hq, hworst⟩, hupper⟩ := h
  constructor
  · rcases max_choice worst
        (measure (pathPeak start (gains ++ [gain])) (pathAt start (gains ++ [gain]))) with
      hmax | hmax
    · exact ⟨q, hq.trans (List.prefix_append _ _), hmax.trans hworst⟩
    · exact ⟨gains ++ [gain], List.prefix_rfl, hmax⟩
  · rintro v ⟨p, hp, rfl⟩
    rcases List.prefix_concat_iff.mp hp with rfl | hp
    · exact le_max_right _ _
    · exact (hupper ⟨p, hp, rfl⟩).trans (le_max_left _ _)

/-- **Paths.** What the loop over the gains ends with. -/
theorem foldl_pathTurn (measure : K → K → K) (start : K) (gains : List K) :
    ∃ worst, gains.foldl (pathTurn measure) (start, start, measure start start) =
        (pathAt start gains, pathPeak start gains, worst) ∧
      IsGreatest (prefixMeasures measure start gains) worst := by
  induction gains using List.reverseRecOn with
  | nil =>
      refine ⟨measure start start, ?_, ⟨[], List.prefix_rfl, ?_⟩, ?_⟩
      · rw [pathAt_nil, pathPeak_nil]
        rfl
      · rw [pathAt_nil, pathPeak_nil]
      · rintro d ⟨p, hp, rfl⟩
        rw [List.prefix_nil.mp hp, pathAt_nil, pathPeak_nil]
  | append_singleton gains gain ih =>
      obtain ⟨worst, hfold, hgreatest⟩ := ih
      refine ⟨_, ?_, isGreatest_prefixMeasures_snoc hgreatest gain⟩
      rw [List.foldl_append, hfold, pathAt_snoc, pathPeak_snoc]
      rfl

end Paths

section Drops

variable {K : Type*} [AddCommGroup K] [LinearOrder K] [IsOrderedAddMonoid K]

/-- How far a path fell below its peak, behind its prefixes. -/
abbrev drops (start : K) (gains : List K) : Set K :=
  prefixMeasures (fun highest value => highest - value) start gains

/-- A path without losses is at its peak. -/
theorem pathPeak_of_nonneg (start : K) {gains : List K} (h : ∀ g ∈ gains, 0 ≤ g) :
    pathPeak start gains = pathAt start gains := by
  induction gains using List.reverseRecOn with
  | nil => rw [pathPeak_nil, pathAt_nil]
  | append_singleton gains gain ih =>
      have hpeak := ih fun g hg => h g (List.mem_append_left _ hg)
      have hgain : 0 ≤ gain := h gain (by simp)
      rw [pathPeak_snoc, pathAt_snoc, hpeak]
      exact max_eq_right (le_add_of_nonneg_right hgain)

/-- A path without losses never falls. -/
theorem isGreatest_drops_of_nonneg (start : K) {gains : List K} (h : ∀ g ∈ gains, 0 ≤ g) :
    IsGreatest (drops start gains) 0 := by
  have hnone : ∀ p, p <+: gains → pathPeak start p - pathAt start p = 0 := by
    intro p hp
    rw [pathPeak_of_nonneg start fun g hg => h g (hp.subset hg), sub_self]
  constructor
  · exact ⟨[], List.nil_prefix, (hnone [] List.nil_prefix).symm⟩
  · rintro d ⟨p, hp, rfl⟩
    exact (hnone p hp).le

/-- A single gain falls by what it loses. -/
theorem isGreatest_drops_singleton (start gain : K) : IsGreatest (drops start [gain]) (max 0 (-gain)) := by
  have hstart : IsGreatest (drops start []) 0 := isGreatest_drops_of_nonneg start (by simp)
  have hgain := isGreatest_prefixMeasures_snoc hstart gain
  rw [List.nil_append] at hgain
  have hdrop : pathPeak start [gain] - pathAt start [gain] = max (-gain) 0 := by
    have hpeak := pathPeak_snoc start [] gain
    have hvalue := pathAt_snoc start [] gain
    rw [List.nil_append, pathPeak_nil, pathAt_nil] at hpeak
    rw [List.nil_append, pathAt_nil] at hvalue
    rw [hpeak, hvalue, ← max_sub_sub_right, sub_self, sub_add_cancel_left]
  rwa [hdrop, max_comm (-gain), ← max_assoc, max_self] at hgain

end Drops

section Runs

variable {α : Type*} (losing : α → Prop) [DecidablePred losing]

/-- One turn of a loop that counts the current run and keeps the longest one. -/
def runTurn (s : ℕ × ℕ) (x : α) : ℕ × ℕ :=
  if losing x then (s.1 + 1, max s.2 (s.1 + 1)) else (0, s.2)

/-- The lengths of the runs in a list. -/
def runLengths (l : List α) : Set ℕ :=
  { n | ∃ run, run <:+: l ∧ (∀ x ∈ run, losing x) ∧ n = run.length }

/-- The lengths of the runs at the end of a list. -/
def endRunLengths (l : List α) : Set ℕ :=
  { n | ∃ run, run <:+ l ∧ (∀ x ∈ run, losing x) ∧ n = run.length }

variable {losing}

/-- A run at the end goes on with an element of its kind, and stops at another one. -/
theorem isGreatest_endRun_snoc {l : List α} {n : ℕ} (h : IsGreatest (endRunLengths losing l) n)
    (x : α) : IsGreatest (endRunLengths losing (l ++ [x])) (if losing x then n + 1 else 0) := by
  obtain ⟨⟨run, hrun, hall, hlength⟩, hupper⟩ := h
  by_cases hx : losing x
  · rw [if_pos hx]
    constructor
    · refine ⟨run ++ [x], List.suffix_concat_iff.mpr (.inr ⟨run, rfl, hrun⟩), ?_, ?_⟩
      · intro y hy
        rcases List.mem_append.mp hy with hy | hy
        · exact hall y hy
        · rwa [List.mem_singleton.mp hy]
      · rw [hlength, List.length_append, List.length_singleton]
    · rintro m ⟨run', hrun', hall', rfl⟩
      rcases List.suffix_concat_iff.mp hrun' with rfl | ⟨t, rfl, ht⟩
      · exact Nat.zero_le _
      · have hle := hupper ⟨t, ht, fun y hy => hall' y (List.mem_append_left _ hy), rfl⟩
        rw [List.length_append, List.length_singleton]
        exact Nat.succ_le_succ hle
  · rw [if_neg hx]
    constructor
    · refine ⟨[], List.nil_suffix, ?_, rfl⟩
      intro y hy
      cases hy
    · rintro m ⟨run', hrun', hall', rfl⟩
      rcases List.suffix_concat_iff.mp hrun' with rfl | ⟨t, rfl, ht⟩
      · exact le_rfl
      · exact absurd (hall' x (by simp)) hx

/-- **Runs.** What the loop over the elements ends with: the longest run at the end, and the longest run
anywhere. -/
theorem foldl_runTurn (l : List α) :
    IsGreatest (endRunLengths losing l) (l.foldl (runTurn losing) (0, 0)).1 ∧
      IsGreatest (runLengths losing l) (l.foldl (runTurn losing) (0, 0)).2 := by
  induction l using List.reverseRecOn with
  | nil =>
      refine ⟨⟨⟨[], List.nil_suffix, by simp, rfl⟩, ?_⟩, ⟨[], List.nil_infix, by simp, rfl⟩, ?_⟩
      · rintro n ⟨run, hrun, -, rfl⟩
        rw [List.suffix_nil.mp hrun]
        exact le_rfl
      · rintro n ⟨run, hrun, -, rfl⟩
        rw [List.infix_nil.mp hrun]
        exact le_rfl
  | append_singleton l x ih =>
      obtain ⟨hend, hlongest⟩ := ih
      have hend' := isGreatest_endRun_snoc hend x
      obtain ⟨⟨run, hrun, hall, hlength⟩, hupper⟩ := hlongest
      rw [List.foldl_append, List.foldl_cons, List.foldl_nil]
      generalize hs : l.foldl (runTurn losing) (0, 0) = s at *
      unfold runTurn
      by_cases hx : losing x
      · rw [if_pos hx] at hend' ⊢
        refine ⟨hend', ?_, ?_⟩
        · rcases max_choice s.2 (s.1 + 1) with hmax | hmax
          · exact ⟨run, hrun.trans (List.infix_append' [] l [x]), hall, hmax.trans hlength⟩
          · obtain ⟨last, hlast, hall', hlength'⟩ := hend'.1
            exact ⟨last, hlast.isInfix, hall', hmax.trans hlength'⟩
        · rintro n ⟨run', hrun', hall', rfl⟩
          rcases List.infix_concat_iff.mp hrun' with hrun' | hrun'
          · exact (hend'.2 ⟨run', hrun', hall', rfl⟩).trans (le_max_right _ _)
          · exact (hupper ⟨run', hrun', hall', rfl⟩).trans (le_max_left _ _)
      · rw [if_neg hx] at hend' ⊢
        refine ⟨hend', ⟨run, hrun.trans (List.infix_append' [] l [x]), hall, hlength⟩, ?_⟩
        rintro n ⟨run', hrun', hall', rfl⟩
        rcases List.infix_concat_iff.mp hrun' with hrun' | hrun'
        · exact (hend'.2 ⟨run', hrun', hall', rfl⟩).trans (Nat.zero_le _)
        · exact hupper ⟨run', hrun', hall', rfl⟩

end Runs

end SolanaBot.Library
