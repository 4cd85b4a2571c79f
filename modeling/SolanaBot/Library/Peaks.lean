import Mathlib.Order.Lattice
import Mathlib.Order.MinMax
import Mathlib.Data.List.Basic

/-!
# Running extremes

The highest value that a loop has seen is a fold (`peak`), and so is the lowest one (`trough`). A fold
over a longer list goes on from the fold over the shorter one (`peak_append`), and is bounded exactly by
the bounds of what it has seen (`peak_le_iff`).
-/

set_option autoImplicit false

namespace SolanaBot.Library

variable {K : Type*} [LinearOrder K]

/-- The highest of a start and the values of a list. -/
def peak (start : K) (l : List K) : K := l.foldl max start

/-- The lowest of a start and the values of a list. -/
def trough (start : K) (l : List K) : K := l.foldl min start

/-- The peak of nothing is the start. -/
@[simp] theorem peak_nil (start : K) : peak start [] = start := rfl

/-- The trough of nothing is the start. -/
@[simp] theorem trough_nil (start : K) : trough start [] = start := rfl

/-- The peak goes on from the peak of the first list. -/
theorem peak_append (start : K) (l l' : List K) : peak start (l ++ l') = peak (peak start l) l' :=
  List.foldl_append

/-- The trough goes on from the trough of the first list. -/
theorem trough_append (start : K) (l l' : List K) :
    trough start (l ++ l') = trough (trough start l) l' :=
  List.foldl_append

/-- A bound of the peak bounds the start and every value. -/
theorem peak_le_iff {start bound : K} {l : List K} :
    peak start l ≤ bound ↔ start ≤ bound ∧ ∀ x ∈ l, x ≤ bound := by
  induction l generalizing start with
  | nil => simp
  | cons x l ih =>
      have hstep : peak start (x :: l) = peak (max start x) l := rfl
      rw [hstep, ih, max_le_iff, List.forall_mem_cons, and_assoc]

/-- A bound of the trough bounds the start and every value. -/
theorem le_trough_iff {start bound : K} {l : List K} :
    bound ≤ trough start l ↔ bound ≤ start ∧ ∀ x ∈ l, bound ≤ x := by
  induction l generalizing start with
  | nil => simp
  | cons x l ih =>
      have hstep : trough start (x :: l) = trough (min start x) l := rfl
      rw [hstep, ih, le_min_iff, List.forall_mem_cons, and_assoc]

/-- The same, strictly. -/
theorem lt_trough_iff {start bound : K} {l : List K} :
    bound < trough start l ↔ bound < start ∧ ∀ x ∈ l, bound < x := by
  induction l generalizing start with
  | nil => simp
  | cons x l ih =>
      have hstep : trough start (x :: l) = trough (min start x) l := rfl
      rw [hstep, ih, lt_min_iff, List.forall_mem_cons, and_assoc]

/-- The peak is not below the start. -/
theorem start_le_peak (start : K) (l : List K) : start ≤ peak start l := (peak_le_iff.mp le_rfl).1

/-- The trough is not above the start. -/
theorem trough_le_start (start : K) (l : List K) : trough start l ≤ start := (le_trough_iff.mp le_rfl).1

/-- No value is above the peak. -/
theorem le_peak_of_mem {start x : K} {l : List K} (h : x ∈ l) : x ≤ peak start l :=
  (peak_le_iff.mp le_rfl).2 x h

/-- No value is below the trough. -/
theorem trough_le_of_mem {start x : K} {l : List K} (h : x ∈ l) : trough start l ≤ x :=
  (le_trough_iff.mp le_rfl).2 x h

/-- What comes later never lowers the peak. -/
theorem peak_le_peak_of_prefix {start : K} {l l' : List K} (h : l <+: l') :
    peak start l ≤ peak start l' := by
  obtain ⟨rest, rfl⟩ := h
  rw [peak_append]
  exact start_le_peak _ rest

end SolanaBot.Library
