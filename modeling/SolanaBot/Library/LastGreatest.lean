import Mathlib.Data.List.Basic
import Mathlib.Order.Lattice

/-!
# The last of the greatest

`lastMaxBy f l` is the element of a list with the greatest value of `f`, and the last one of them if
there are several. It is the element that no other one before it exceeds and no other one after it
reaches (`lastMaxBy_eq_some_iff`), so that a threshold that some element reaches does not matter
(`lastMaxBy_filter`), and only the elements with the greatest value compete: the last of them is taken.
-/

set_option autoImplicit false

namespace SolanaBot.Library

variable {α κ : Type*} [LinearOrder κ] (f : α → κ)

/-- One turn of the search. -/
def laterMax (best : Option α) (x : α) : Option α :=
  match best with
  | none => some x
  | some b => if f b ≤ f x then some x else some b

/-- The last element with the greatest value. -/
def lastMaxBy (l : List α) : Option α := l.foldl (laterMax f) none

variable {f}

/-- A greatest element is kept over smaller ones. -/
theorem foldl_laterMax_of_lt {l : List α} {t : α} (h : ∀ x ∈ l, f x < f t) :
    l.foldl (laterMax f) (some t) = some t := by
  induction l with
  | nil => rfl
  | cons x l ih =>
      have hkeep : laterMax f (some t) x = some t := if_neg (not_le.mpr (h x List.mem_cons_self))
      rw [List.foldl_cons, hkeep]
      exact ih fun y hy => h y (List.mem_cons_of_mem _ hy)

/-- No later element is above a bound of all. -/
theorem foldl_laterMax_le {l : List α} {t : α} (h : ∀ x ∈ l, f x ≤ f t) {best : Option α}
    (hbest : ∀ b ∈ best, f b ≤ f t) : ∀ b ∈ l.foldl (laterMax f) best, f b ≤ f t := by
  induction l generalizing best with
  | nil => exact hbest
  | cons x l ih =>
      refine ih (fun y hy => h y (List.mem_cons_of_mem _ hy)) fun b hb => ?_
      cases best with
      | none =>
          cases hb
          exact h x List.mem_cons_self
      | some b' =>
          unfold laterMax at hb
          dsimp only at hb
          split at hb
          · cases hb
            exact h x List.mem_cons_self
          · cases hb
            exact hbest b rfl

/-- An element that nothing before it exceeds and nothing after it reaches is taken. -/
theorem lastMaxBy_split {l₁ l₂ : List α} {t : α} (hbefore : ∀ x ∈ l₁, f x ≤ f t)
    (hafter : ∀ x ∈ l₂, f x < f t) : lastMaxBy f (l₁ ++ t :: l₂) = some t := by
  have htake : laterMax f (l₁.foldl (laterMax f) none) t = some t := by
    have hle : ∀ b ∈ l₁.foldl (laterMax f) none, f b ≤ f t := foldl_laterMax_le hbefore nofun
    cases hfirst : l₁.foldl (laterMax f) none with
    | none => rfl
    | some b => exact if_pos (hle b hfirst)
  unfold lastMaxBy
  rw [List.foldl_append, List.foldl_cons, htake]
  exact foldl_laterMax_of_lt hafter

/-- A list has such an element, unless it is empty. -/
theorem exists_split {l : List α} (h : l ≠ []) :
    ∃ l₁ t l₂, l = l₁ ++ t :: l₂ ∧ (∀ x ∈ l₁, f x ≤ f t) ∧ ∀ x ∈ l₂, f x < f t := by
  induction l with
  | nil => exact absurd rfl h
  | cons x l ih =>
      by_cases hnil : l = []
      · exact ⟨[], x, [], by rw [hnil, List.nil_append], nofun, nofun⟩
      · obtain ⟨l₁, t, l₂, rfl, hbefore, hafter⟩ := ih hnil
        by_cases hle : f x ≤ f t
        · refine ⟨x :: l₁, t, l₂, rfl, fun y hy => ?_, hafter⟩
          rcases List.mem_cons.mp hy with rfl | hy
          · exact hle
          · exact hbefore y hy
        · -- the first element exceeds all others
          have hlt := not_le.mp hle
          refine ⟨[], x, l₁ ++ t :: l₂, rfl, nofun, fun y hy => ?_⟩
          rcases List.mem_append.mp hy with hy | hy
          · exact (hbefore y hy).trans_lt hlt
          · rcases List.mem_cons.mp hy with rfl | hy
            · exact hlt
            · exact (hafter y hy).trans hlt

/-- **The last of the greatest.** -/
theorem lastMaxBy_eq_some_iff {l : List α} {t : α} :
    lastMaxBy f l = some t ↔
      ∃ l₁ l₂, l = l₁ ++ t :: l₂ ∧ (∀ x ∈ l₁, f x ≤ f t) ∧ ∀ x ∈ l₂, f x < f t := by
  constructor
  · intro h
    have hne : l ≠ [] := by
      rintro rfl
      cases h
    obtain ⟨l₁, t', l₂, rfl, hbefore, hafter⟩ := exists_split (f := f) hne
    rw [lastMaxBy_split hbefore hafter] at h
    cases h
    exact ⟨l₁, l₂, rfl, hbefore, hafter⟩
  · rintro ⟨l₁, l₂, rfl, hbefore, hafter⟩
    exact lastMaxBy_split hbefore hafter

/-- The last greatest element is one of the list. -/
theorem lastMaxBy_mem {l : List α} {t : α} (h : lastMaxBy f l = some t) : t ∈ l := by
  obtain ⟨l₁, l₂, rfl, -, -⟩ := lastMaxBy_eq_some_iff.mp h
  exact List.mem_append_right _ List.mem_cons_self

/-- No element is above it. -/
theorem le_of_lastMaxBy {l : List α} {t : α} (h : lastMaxBy f l = some t) :
    ∀ x ∈ l, f x ≤ f t := by
  obtain ⟨l₁, l₂, rfl, hbefore, hafter⟩ := lastMaxBy_eq_some_iff.mp h
  intro x hx
  rcases List.mem_append.mp hx with hx | hx
  · exact hbefore x hx
  · rcases List.mem_cons.mp hx with rfl | hx
    · exact le_rfl
    · exact (hafter x hx).le

/-- A list that is not empty has one. -/
theorem lastMaxBy_isSome {l : List α} (h : l ≠ []) : ∃ t, lastMaxBy f l = some t := by
  obtain ⟨l₁, t, l₂, rfl, hbefore, hafter⟩ := exists_split (f := f) h
  exact ⟨t, lastMaxBy_split hbefore hafter⟩

/-- The elements that reach a threshold are looked at first, to no effect. -/
theorem lastMaxBy_filter (l : List α) (c : κ) :
    (lastMaxBy f (l.filter fun x => c ≤ f x)).or (lastMaxBy f l) = lastMaxBy f l := by
  cases hlarge : lastMaxBy f (l.filter fun x => c ≤ f x) with
  | none => rfl
  | some t =>
      have ht := lastMaxBy_mem hlarge
      rw [List.mem_filter, decide_eq_true_eq] at ht
      obtain ⟨u, hu⟩ := lastMaxBy_isSome (f := f) (List.ne_nil_of_mem ht.1)
      obtain ⟨l₁, l₂, rfl, hbefore, hafter⟩ := lastMaxBy_eq_some_iff.mp hu
      have hreach : c ≤ f u := ht.2.trans (le_of_lastMaxBy hu t ht.1)
      have hsplit : lastMaxBy f ((l₁.filter fun x => c ≤ f x) ++ u :: l₂.filter fun x => c ≤ f x) =
          some u := lastMaxBy_split (fun x hx => hbefore x (List.mem_of_mem_filter hx))
        fun x hx => hafter x (List.mem_of_mem_filter hx)
      rw [List.filter_append, List.filter_cons_of_pos (by simpa using hreach), hsplit] at hlarge
      rw [hu, ← hlarge]
      rfl

/-- An element of the second part is taken if it reaches everything in the first part. -/
theorem lastMaxBy_append_mem {l l' : List α} {t u : α} (h : lastMaxBy f (l ++ l') = some t)
    (hu : u ∈ l') (hle : f t ≤ f u) : t ∈ l' := by
  obtain ⟨l₁, l₂, heq, hbefore, hafter⟩ := lastMaxBy_eq_some_iff.mp h
  rcases List.append_eq_append_iff.mp heq with ⟨c, rfl, hl'⟩ | ⟨c, rfl, hl'⟩
  · rw [hl']
    exact List.mem_append_right _ List.mem_cons_self
  · -- the second part lies after the element
    cases c with
    | nil =>
        rw [List.nil_append] at hl'
        rw [← hl']
        exact List.mem_cons_self
    | cons x c =>
        rw [List.cons_append, List.cons.injEq] at hl'
        obtain ⟨rfl, rfl⟩ := hl'
        exact absurd hle (not_le.mpr (hafter u (List.mem_append_right _ hu)))

end SolanaBot.Library
