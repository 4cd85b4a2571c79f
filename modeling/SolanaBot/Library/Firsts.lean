import Mathlib.Data.Finset.Card
import Mathlib.Data.List.Nodup
import Mathlib.Tactic.Tauto

/-!
# The first of each key

A list is walked with a set of the keys seen so far, and an element is kept if its key is new. What is
kept has every key of the list once, so that its length depends on the keys alone.
-/

set_option autoImplicit false

namespace SolanaBot.Library

variable {α κ : Type*} [DecidableEq κ]

/-- The elements whose keys are new, where some keys have been seen. -/
def firstsBy (key : α → κ) : List κ → List α → List α
  | _, [] => []
  | seen, x :: xs =>
      if key x ∈ seen then firstsBy key seen xs else x :: firstsBy key (key x :: seen) xs

variable {key : α → κ}

/-- The first occurrences are a part of the list, in its order. -/
theorem firstsBy_sublist (seen : List κ) (xs : List α) : (firstsBy key seen xs).Sublist xs := by
  induction xs generalizing seen with
  | nil => exact List.Sublist.slnil
  | cons x xs ih =>
      unfold firstsBy
      split
      · exact (ih seen).cons x
      · exact (ih _).cons_cons x

/-- The keys that are kept are those of the list that were not seen before. -/
theorem mem_map_firstsBy {seen : List κ} {xs : List α} {k : κ} :
    k ∈ (firstsBy key seen xs).map key ↔ k ∈ xs.map key ∧ k ∉ seen := by
  induction xs generalizing seen with
  | nil => simp [firstsBy]
  | cons x xs ih =>
      unfold firstsBy
      by_cases hseen : key x ∈ seen
      · rw [if_pos hseen, ih, List.map_cons, List.mem_cons]
        constructor
        · rintro ⟨hk, hnew⟩
          exact ⟨.inr hk, hnew⟩
        · rintro ⟨rfl | hk, hnew⟩
          · exact absurd hseen hnew
          · exact ⟨hk, hnew⟩
      · rw [if_neg hseen, List.map_cons, List.mem_cons, ih, List.map_cons, List.mem_cons, List.mem_cons]
        constructor
        · rintro (rfl | ⟨hk, hnew⟩)
          · exact ⟨.inl rfl, hseen⟩
          · exact ⟨.inr hk, fun h => hnew (.inr h)⟩
        · rintro ⟨hk, hnew⟩
          by_cases hx : k = key x
          · exact .inl hx
          · exact .inr ⟨hk.resolve_left hx, fun h => h.elim hx hnew⟩

/-- No key is kept twice. -/
theorem nodup_map_firstsBy (seen : List κ) (xs : List α) : ((firstsBy key seen xs).map key).Nodup := by
  induction xs generalizing seen with
  | nil => exact List.nodup_nil
  | cons x xs ih =>
      unfold firstsBy
      split
      · exact ih seen
      · rw [List.map_cons, List.nodup_cons]
        exact ⟨fun h => (mem_map_firstsBy.mp h).2 List.mem_cons_self, ih _⟩

/-- An element whose key was seen is dropped. -/
theorem firstsBy_cons_of_mem {seen : List κ} {x : α} (h : key x ∈ seen) (xs : List α) :
    firstsBy key seen (x :: xs) = firstsBy key seen xs := if_pos h

/-- An element with a new key is kept. -/
theorem firstsBy_cons_of_notMem {seen : List κ} {x : α} (h : key x ∉ seen) (xs : List α) :
    firstsBy key seen (x :: xs) = x :: firstsBy key (key x :: seen) xs := if_neg h

/-- Only which keys were seen matters. -/
theorem firstsBy_congr {seen seen' : List κ} (h : ∀ k, k ∈ seen ↔ k ∈ seen') (xs : List α) :
    firstsBy key seen xs = firstsBy key seen' xs := by
  induction xs generalizing seen seen' with
  | nil => rfl
  | cons x xs ih =>
      by_cases hseen : key x ∈ seen
      · rw [firstsBy_cons_of_mem hseen, firstsBy_cons_of_mem ((h _).mp hseen), ih h]
      · have hmore : ∀ k, k ∈ key x :: seen ↔ k ∈ key x :: seen' := fun k => by
          rw [List.mem_cons, List.mem_cons, h k]
        rw [firstsBy_cons_of_notMem hseen, firstsBy_cons_of_notMem (mt (h _).mpr hseen), ih hmore]

/-- The second part keeps what the first part does not have. -/
theorem firstsBy_append (seen : List κ) (xs ys : List α) :
    firstsBy key seen (xs ++ ys) =
      firstsBy key seen xs ++ firstsBy key (xs.map key ++ seen) ys := by
  induction xs generalizing seen with
  | nil => rfl
  | cons x xs ih =>
      rw [List.cons_append, List.map_cons, List.cons_append]
      by_cases hseen : key x ∈ seen
      · have hsame : ∀ k, k ∈ xs.map key ++ seen ↔ k ∈ key x :: (xs.map key ++ seen) := fun k => by
          rw [List.mem_cons]
          refine ⟨.inr, fun hk => hk.elim (fun hk => ?_) id⟩
          rw [hk]
          exact List.mem_append_right _ hseen
        rw [firstsBy_cons_of_mem hseen, firstsBy_cons_of_mem hseen, ih, firstsBy_congr hsame]
      · have hsame : ∀ k, k ∈ xs.map key ++ key x :: seen ↔ k ∈ key x :: (xs.map key ++ seen) :=
          fun k => by simp only [List.mem_append, List.mem_cons]; tauto
        rw [firstsBy_cons_of_notMem hseen, firstsBy_cons_of_notMem hseen, ih, List.cons_append,
          firstsBy_congr hsame]

/-- Walking the list again with the keys of a first part of what was kept seen keeps the rest. -/
theorem firstsBy_resume {seen : List κ} {xs done rest : List α}
    (h : firstsBy key seen xs = done ++ rest) :
    firstsBy key ((done.map key).reverse ++ seen) xs = rest := by
  induction xs generalizing seen done with
  | nil =>
      rw [firstsBy, eq_comm, List.append_eq_nil_iff] at h
      rw [firstsBy, h.2]
  | cons x xs ih =>
      by_cases hseen : key x ∈ seen
      · rw [firstsBy_cons_of_mem hseen] at h
        rw [firstsBy_cons_of_mem (List.mem_append_right _ hseen), ih h]
      · rw [firstsBy_cons_of_notMem hseen] at h
        cases done with
        | nil =>
            rw [List.map_nil, List.reverse_nil, List.nil_append, firstsBy_cons_of_notMem hseen, h,
              List.nil_append]
        | cons y done =>
            rw [List.cons_append, List.cons.injEq] at h
            obtain ⟨rfl, h⟩ := h
            have hkeys : ((x :: done).map key).reverse ++ seen =
                (done.map key).reverse ++ key x :: seen := by simp
            rw [hkeys, firstsBy_cons_of_mem (List.mem_append_right _ List.mem_cons_self), ih h]

/-- As many elements are kept as there are keys. -/
theorem length_firstsBy (xs : List α) : (firstsBy key [] xs).length = (xs.map key).toFinset.card := by
  have hkeys : ((firstsBy key [] xs).map key).toFinset = (xs.map key).toFinset := by
    ext k
    rw [List.mem_toFinset, List.mem_toFinset, mem_map_firstsBy]
    exact and_iff_left List.not_mem_nil
  rw [← hkeys, List.toFinset_card_of_nodup (nodup_map_firstsBy [] xs), List.length_map]

/-- Lists with the same keys keep as many elements. -/
theorem length_firstsBy_congr {xs ys : List α} (h : ∀ k, k ∈ xs.map key ↔ k ∈ ys.map key) :
    (firstsBy key [] xs).length = (firstsBy key [] ys).length := by
  rw [length_firstsBy, length_firstsBy]
  congr 1
  ext k
  rw [List.mem_toFinset, List.mem_toFinset, h]

/-- Fewer keys keep fewer elements. -/
theorem length_firstsBy_le {xs ys : List α} (h : ∀ k, k ∈ xs.map key → k ∈ ys.map key) :
    (firstsBy key [] xs).length ≤ (firstsBy key [] ys).length := by
  rw [length_firstsBy, length_firstsBy]
  apply Finset.card_le_card
  intro k hk
  rw [List.mem_toFinset] at hk ⊢
  exact h k hk

end SolanaBot.Library
