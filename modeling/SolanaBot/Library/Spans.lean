import Mathlib.Data.List.Range
import Mathlib.Algebra.Order.Ring.Int

/-!
# Spans of integers

`span a b` lists the integers from `a` to `b`, both included. Windows that follow one another without a
gap and without an overlap are windows whose spans, one after the other, make one span.
-/

set_option autoImplicit false

namespace SolanaBot.Library

/-- The integers from `a` to `b`. -/
def span (a b : ℤ) : List ℤ := (List.range (b + 1 - a).toNat).map fun i : ℕ => a + i

/-- The length of a span. -/
theorem length_span (a b : ℤ) : (span a b).length = (b + 1 - a).toNat := by
  simp [span]

/-- A span that ends before it begins is empty. -/
theorem span_empty {a b : ℤ} (h : b < a) : span a b = [] := by
  have hzero : (b + 1 - a).toNat = 0 := by omega
  rw [span, hzero, List.range_zero, List.map_nil]

/-- Two spans that follow one another. -/
theorem span_append {a b c : ℤ} (hab : a ≤ b + 1) (hbc : b ≤ c) :
    span a b ++ span (b + 1) c = span a c := by
  have hlength : (c + 1 - a).toNat = (b + 1 - a).toNat + (c - b).toNat := by omega
  unfold span
  rw [hlength, List.range_add, List.map_append, List.map_map]
  congr 1
  have hrest : (c + 1 - (b + 1)).toNat = (c - b).toNat := by omega
  rw [hrest]
  apply List.map_congr_left
  intro i _
  change b + 1 + (i : ℤ) = a + (((b + 1 - a).toNat + i : ℕ) : ℤ)
  omega

/-- A span that stops earlier is a first part. -/
theorem span_prefix {a b c : ℤ} (hab : a ≤ b + 1) (hbc : b ≤ c) : span a b <+: span a c :=
  ⟨span (b + 1) c, span_append hab hbc⟩

/-- Spans from one number on differ when they end at different numbers. -/
theorem span_eq_iff {a b c : ℤ} (hb : a ≤ b + 1) (hc : a ≤ c + 1) : span a b = span a c ↔ b = c := by
  constructor
  · intro h
    have hlength := congrArg List.length h
    rw [length_span, length_span] at hlength
    omega
  · rintro rfl
    rfl

end SolanaBot.Library
