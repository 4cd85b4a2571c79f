import Mathlib.Data.List.Basic
import Mathlib.Data.List.Infix

/-!
# Patterns in joined texts

A text joined from parts contains a pattern exactly if one of the parts does, provided
that the pattern cannot reach over a separator.
-/

set_option autoImplicit false

namespace SolanaBot.Library

variable {α : Type}

/-- A pattern without `c` lies on one side of a `c`. -/
theorem infix_append_cons_iff {m a b : List α} {c : α} (hc : c ∉ m) :
    m <:+: a ++ c :: b ↔ m <:+: a ∨ m <:+: b := by
  constructor
  · intro h
    have hempty : ∀ l, l ⊆ m → l <+: c :: b → l = [] := by
      intro l hl hprefix
      cases l with
      | nil => rfl
      | cons x l =>
          obtain rfl : x = c := (List.cons_prefix_cons.mp hprefix).1
          exact absurd (hl (List.mem_cons_self ..)) hc
    rcases List.infix_append_iff.mp h with h | h | ⟨l₁, l₂, rfl, h₁, h₂⟩
    · exact .inl h
    · rcases List.infix_cons_iff.mp h with h | h
      · rw [hempty m (List.Subset.refl m) h]
        exact .inl (List.nil_infix ..)
      · exact .inr h
    · obtain rfl := hempty l₂ (List.subset_append_right ..) h₂
      rw [List.append_nil]
      exact .inl h₁.isInfix
  · rintro (h | h)
    · exact h.trans (List.infix_append_left ..)
    · exact h.trans ((List.suffix_cons c b).isInfix.trans (List.infix_append_right ..))

/-- A pattern that does not start with `d` is not longer found after a `d` was prepended. -/
theorem infix_cons_iff_of_head {m b : List α} {d : α} (hm : m ≠ []) (hd : m.head? ≠ some d) :
    m <:+: d :: b ↔ m <:+: b := by
  rw [List.infix_cons_iff, or_iff_right]
  intro h
  cases m with
  | nil => exact hm rfl
  | cons x m =>
      obtain rfl : x = d := (List.cons_prefix_cons.mp h).1
      exact hd rfl

/-- A text joined with the separator `[c, d]` contains a pattern without `c` that does not start
with `d` exactly if one of its parts contains it. -/
theorem infix_intercalate_iff {m : List α} {c d : α} (hm : m ≠ []) (hc : c ∉ m)
    (hd : m.head? ≠ some d) (parts : List (List α)) :
    m <:+: [c, d].intercalate parts ↔ ∃ l ∈ parts, m <:+: l := by
  induction parts with
  | nil => simpa [List.intercalate] using hm
  | cons l parts ih =>
      cases parts with
      | nil => simp
      | cons l' parts =>
          rw [List.intercalate_cons_cons, List.append_assoc, List.cons_append,
            infix_append_cons_iff hc, List.cons_append, List.nil_append,
            infix_cons_iff_of_head hm hd, ih]
          simp only [List.mem_cons, or_and_right, exists_or, exists_eq_left]

/-- Mapping every element to a list of elements commutes with joining. -/
theorem flatMap_intercalate {β : Type} (f : α → List β) (sep : List α) (parts : List (List α)) :
    (sep.intercalate parts).flatMap f =
      (sep.flatMap f).intercalate (parts.map fun l => l.flatMap f) := by
  induction parts with
  | nil => simp [List.intercalate]
  | cons l parts ih =>
      cases parts with
      | nil => simp
      | cons l' parts =>
          rw [List.map_cons, List.map_cons, List.intercalate_cons_cons, List.intercalate_cons_cons,
            List.flatMap_append, List.flatMap_append, ih, List.map_cons]

end SolanaBot.Library
