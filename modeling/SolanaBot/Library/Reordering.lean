import Mathlib.Algebra.Order.BigOperators.Group.List
import Mathlib.Algebra.Order.Monoid.OrderDual
import Mathlib.Data.List.Count
import Mathlib.Data.List.Nodup
import Mathlib.Data.List.Perm.Subperm

/-!
# Reordered lists

Steps that commute on the states of an invariant lead to the same state in every order
(`foldl_eq_of_perm`). A list is a reordering of its groups by a key (`flatMap_groups_perm`). Of all
choices of a number of its elements the first ones of the sorted list have the least sum
(`sum_take_le_of_sorted`).
-/

set_option autoImplicit false

namespace SolanaBot.Library

section Folds

variable {α β : Type*} {f : β → α → β} {I : β → Prop}

/-- What every step keeps holds at the end. -/
theorem foldl_keeps {l : List α} (keep : ∀ x ∈ l, ∀ z, I z → I (f z x)) {z : β} (hz : I z) :
    I (l.foldl f z) := by
  induction l generalizing z with
  | nil => exact hz
  | cons x l ih =>
      exact ih (fun y hy => keep y (List.mem_cons_of_mem _ hy)) (keep x List.mem_cons_self z hz)

/-- **Reordering.** The steps keep the invariant and commute where it holds. -/
theorem foldl_eq_of_perm {l l' : List α} (hperm : l.Perm l')
    (keep : ∀ x ∈ l, ∀ z, I z → I (f z x))
    (comm : ∀ x ∈ l, ∀ y ∈ l, ∀ z, I z → f (f z x) y = f (f z y) x) {z : β} (hz : I z) :
    l.foldl f z = l'.foldl f z := by
  induction hperm generalizing z with
  | nil => rfl
  | cons x _ ih =>
      exact ih (fun y hy => keep y (List.mem_cons_of_mem _ hy))
        (fun y hy w hw => comm y (List.mem_cons_of_mem _ hy) w (List.mem_cons_of_mem _ hw))
        (keep x List.mem_cons_self z hz)
  | swap x y l =>
      rw [List.foldl_cons, List.foldl_cons, List.foldl_cons, List.foldl_cons,
        comm y List.mem_cons_self x (List.mem_cons_of_mem _ List.mem_cons_self) z hz]
  | trans hfirst _ ih ih' =>
      rw [ih keep comm hz]
      exact ih' (fun x hx => keep x (hfirst.mem_iff.mpr hx))
        (fun x hx y hy => comm x (hfirst.mem_iff.mpr hx) y (hfirst.mem_iff.mpr hy)) hz

end Folds

/-! ## Groups -/

section Groups

variable {α κ : Type*} [DecidableEq κ] (key : α → κ) (l : List α)

/-- The elements with one of the keys, key by key. -/
def groups (keys : List κ) : List α := keys.flatMap fun k => l.filter fun x => key x = k

variable {key l}

/-- The groups of no key, and of one key more. -/
theorem groups_cons (k : κ) (keys : List κ) :
    groups key l (k :: keys) = (l.filter fun x => key x = k) ++ groups key l keys :=
  List.flatMap_cons

/-- The groups of two lists of keys. -/
theorem groups_append (keys keys' : List κ) :
    groups key l (keys ++ keys') = groups key l keys ++ groups key l keys' :=
  List.flatMap_append

/-- The groups of different keys are the elements with one of them. -/
theorem groups_perm_filter {keys : List κ} (hnodup : keys.Nodup) :
    (groups key l keys).Perm (l.filter fun x => key x ∈ keys) := by
  induction keys with
  | nil => simp [groups]
  | cons k keys ih =>
      obtain ⟨hk, hnodup⟩ := List.nodup_cons.mp hnodup
      rw [groups_cons]
      refine ((ih hnodup).append_left _).trans ?_
      have hsplit := List.filter_append_perm (fun x => decide (key x = k))
        (l.filter fun x => key x ∈ k :: keys)
      rw [List.filter_filter, List.filter_filter] at hsplit
      have hfirst : (l.filter fun x => decide (key x = k) && decide (key x ∈ k :: keys)) =
          l.filter fun x => key x = k := by
        apply List.filter_congr
        intro x _
        by_cases hx : key x = k
        · simp [hx]
        · simp [hx]
      have hrest : (l.filter fun x => !decide (key x = k) && decide (key x ∈ k :: keys)) =
          l.filter fun x => key x ∈ keys := by
        apply List.filter_congr
        intro x _
        by_cases hx : key x = k
        · simp [hx, hk]
        · simp [hx]
      rw [hfirst, hrest] at hsplit
      exact hsplit

/-- **Groups.** The groups of all keys are a reordering of the list. -/
theorem groups_perm {keys : List κ} (hnodup : keys.Nodup) (hkeys : ∀ x ∈ l, key x ∈ keys) :
    (groups key l keys).Perm l := by
  have hall : (l.filter fun x => key x ∈ keys) = l := by
    apply List.filter_eq_self.mpr
    intro x hx
    simpa using hkeys x hx
  have hperm : (groups key l keys).Perm (l.filter fun x => key x ∈ keys) := groups_perm_filter hnodup
  rwa [hall] at hperm

end Groups

/-! ## Choices -/

section Choices

variable {α K : Type*} [AddCommMonoid K] [LinearOrder K] [IsOrderedAddMonoid K] {f : α → K}

/-- The first elements of a sorted list have no greater sum than those of a part of it. -/
theorem sum_take_le_of_sublist {l p : List α} (hsorted : l.Pairwise fun a b => f a ≤ f b)
    (hp : p.Sublist l) : ((l.take p.length).map f).sum ≤ (p.map f).sum := by
  induction hp with
  | slnil => simp
  | @cons p l x hp ih =>
      obtain ⟨hx, hsorted⟩ := List.pairwise_cons.mp hsorted
      refine le_trans ?_ (ih hsorted)
      cases hlength : p.length with
      | zero => simp
      | succ n =>
          have hn : n < l.length := by
            have hle := hp.length_le
            omega
          rw [List.take_succ_cons, List.map_cons, List.sum_cons, List.take_succ_eq_append_getElem hn,
            List.map_append, List.sum_append, List.map_singleton, List.sum_singleton, add_comm]
          gcongr
          exact hx _ (List.getElem_mem hn)
  | @cons_cons p l x hp ih =>
      obtain ⟨-, hsorted⟩ := List.pairwise_cons.mp hsorted
      rw [List.length_cons, List.take_succ_cons, List.map_cons, List.sum_cons, List.map_cons,
        List.sum_cons]
      gcongr
      exact ih hsorted

/-- **Least choices.** The first elements of a sorted list have the least sum of all choices of their
number. -/
theorem sum_take_le_of_sorted {l p : List α} (hsorted : l.Pairwise fun a b => f a ≤ f b)
    (hp : p.Subperm l) : ((l.take p.length).map f).sum ≤ (p.map f).sum := by
  obtain ⟨q, hperm, hq⟩ := hp
  have hle := sum_take_le_of_sublist hsorted hq
  rw [hperm.length_eq] at hle
  rwa [(hperm.map f).sum_eq] at hle

/-- **Greatest choices.** The first elements of a list sorted downwards have the greatest sum of all
choices of their number. -/
theorem le_sum_take_of_sorted {l p : List α} (hsorted : l.Pairwise fun a b => f b ≤ f a)
    (hp : p.Subperm l) : (p.map f).sum ≤ ((l.take p.length).map f).sum :=
  sum_take_le_of_sorted (K := Kᵒᵈ) (f := f) hsorted hp

end Choices

end SolanaBot.Library
