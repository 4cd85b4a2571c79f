import Mathlib.Algebra.Order.Ring.Nat
import Mathlib.Data.List.TakeWhile

/-!
# Waiting after failures

The wait after a failure doubles with every failure in a row, up to a number of doublings and up to a
cap (`doubling`). How many failures there were in a row is the length of the tail of the history in which
everything failed (`trailing`), which a counter that is reset by a success keeps.
-/

set_option autoImplicit false

namespace SolanaBot.Library

/-! ## The wait -/

/-- The wait after the failure `n` in a row. -/
def doubling (base doublings cap n : ℕ) : ℕ := min (base * 2 ^ min n doublings) cap

/-! ## Failures in a row -/

variable {α : Type}

/-- How many elements at the end of the list have the property. -/
def trailing (p : α → Bool) (as : List α) : ℕ := (as.reverse.takeWhile p).length

/-- Nothing trails in an empty list. -/
@[simp] theorem trailing_nil (p : α → Bool) : trailing p [] = 0 := rfl

/-- One element more goes on with the trail or ends it. -/
theorem trailing_snoc (p : α → Bool) (as : List α) (a : α) :
    trailing p (as ++ [a]) = if p a then trailing p as + 1 else 0 := by
  unfold trailing
  rw [List.reverse_append, List.reverse_singleton, List.singleton_append, List.takeWhile_cons]
  split <;> simp

/-- The trail is not longer than the list. -/
theorem trailing_le_length (p : α → Bool) (as : List α) : trailing p as ≤ as.length := by
  unfold trailing
  have h := (List.takeWhile_prefix p (l := as.reverse)).length_le
  rwa [List.length_reverse] at h

/-- The elements at the end have the property. -/
theorem of_mem_drop_trailing {p : α → Bool} {as : List α} {a : α}
    (h : a ∈ as.drop (as.length - trailing p as)) : p a = true := by
  have htail : as.drop (as.length - trailing p as) = (as.reverse.takeWhile p).reverse := by
    have hleading := List.prefix_iff_eq_take.mp (List.takeWhile_prefix p (l := as.reverse))
    have hlength : (as.reverse.takeWhile p).length ≤ as.length := trailing_le_length p as
    unfold trailing
    rw [hleading, List.length_take, List.reverse_take, List.length_reverse, List.reverse_reverse,
      min_eq_left hlength]
  rw [htail, List.mem_reverse] at h
  exact List.mem_takeWhile_imp h

/-- What precedes one of the elements at the end has as many with the property as it has besides. -/
theorem countP_take_trailing {p : α → Bool} {as : List α} {j : ℕ} (hj : j ≤ trailing p as) :
    (as.take (as.length - trailing p as + j)).countP p =
      (as.take (as.length - trailing p as)).countP p + j := by
  have hle := trailing_le_length p as
  rw [List.take_add, List.countP_append]
  congr 1
  rw [List.countP_eq_length.mpr fun a ha => of_mem_drop_trailing (List.mem_of_mem_take ha),
    List.length_take, List.length_drop]
  omega

/-! ## Going round -/

/-- Counting on from anywhere, every place of the round is reached within one round. -/
theorem exists_mod_eq {n e : ℕ} (he : e < n) (start : ℕ) : ∃ j < n, (start + j) % n = e := by
  have hstart : start % n < n := Nat.mod_lt _ (by omega)
  rcases Nat.lt_or_ge e (start % n) with hlt | hge
  · refine ⟨n + e - start % n, by omega, ?_⟩
    rw [← Nat.mod_add_mod, show start % n + (n + e - start % n) = n + e by omega, Nat.add_mod_left,
      Nat.mod_eq_of_lt he]
  · refine ⟨e - start % n, by omega, ?_⟩
    rw [← Nat.mod_add_mod, show start % n + (e - start % n) = e by omega, Nat.mod_eq_of_lt he]

end SolanaBot.Library
