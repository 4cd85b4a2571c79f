import Mathlib.Algebra.Order.BigOperators.Group.List
import Mathlib.Algebra.Order.Field.Basic
import Mathlib.Tactic.FieldSimp
import Mathlib.Tactic.Linarith
import Mathlib.Tactic.Ring

/-!
# Lots that are used up first-in first-out

A lot is a number of units that were bought at a cost. The cost of the first `x` units of some lots is
that of the lots which they use up, and a share of the next lot (`firstCost`); without them the lots are
`dropUnits`. Using up some units and then more is using them up at once (`dropUnits_add`,
`firstCost_add`), and lots that come later do not matter as long as there are enough before
(`dropUnits_append`, `firstCost_append`). So units and cost are conserved (`units_dropUnits`,
`cost_dropUnits`).
-/

set_option autoImplicit false

namespace SolanaBot.Library

variable {K : Type*} [Field K] [LinearOrder K]

/-- Units that were bought at a cost. -/
structure Lot (K : Type*) where
  units : K
  cost : K

/-- The units of some lots. -/
def totalUnits (lots : List (Lot K)) : K := (lots.map Lot.units).sum

/-- Their cost. -/
def totalCost (lots : List (Lot K)) : K := (lots.map Lot.cost).sum

/-- Every lot has units, and a cost that is not negative. -/
def PositiveLots (lots : List (Lot K)) : Prop := ∀ lot ∈ lots, 0 < lot.units ∧ 0 ≤ lot.cost

/-- The cost of the first units. -/
def firstCost : List (Lot K) → K → K
  | [], _ => 0
  | lot :: lots, x =>
      if x < lot.units then lot.cost * x / lot.units else lot.cost + firstCost lots (x - lot.units)

/-- What is left without the first units. -/
def dropUnits : List (Lot K) → K → List (Lot K)
  | [], _ => []
  | lot :: lots, x =>
      if x < lot.units then ⟨lot.units - x, lot.cost - lot.cost * x / lot.units⟩ :: lots
      else dropUnits lots (x - lot.units)

section Lists

omit [LinearOrder K]

/-- The units of one lot more. -/
@[simp] theorem units_cons (lot : Lot K) (lots : List (Lot K)) :
    totalUnits (lot :: lots) = lot.units + totalUnits lots := List.sum_cons

/-- The cost of one lot more. -/
@[simp] theorem cost_cons (lot : Lot K) (lots : List (Lot K)) :
    totalCost (lot :: lots) = lot.cost + totalCost lots := List.sum_cons

/-- The units of two lists of lots. -/
@[simp] theorem units_append (lots lots' : List (Lot K)) :
    totalUnits (lots ++ lots') = totalUnits lots + totalUnits lots' := by
  unfold totalUnits
  rw [List.map_append, List.sum_append]

end Lists

/-- The lots behind the first are positive too. -/
theorem PositiveLots.of_cons {lot : Lot K} {lots : List (Lot K)} (h : PositiveLots (lot :: lots)) :
    PositiveLots lots := fun l hl => h l (List.mem_cons_of_mem _ hl)

/-- Two lists of positive lots are one. -/
theorem PositiveLots.append {lots lots' : List (Lot K)} (h : PositiveLots lots)
    (h' : PositiveLots lots') : PositiveLots (lots ++ lots') :=
  fun lot hlot => (List.mem_append.mp hlot).elim (h lot) (h' lot)

/-- Less than the first lot costs its share of the lot. -/
theorem firstCost_cons_of_lt {lot : Lot K} {x : K} (h : x < lot.units) (lots : List (Lot K)) :
    firstCost (lot :: lots) x = lot.cost * x / lot.units := if_pos h

/-- The first lot and more costs the lot and the rest. -/
theorem firstCost_cons_of_le {lot : Lot K} {x : K} (h : lot.units ≤ x) (lots : List (Lot K)) :
    firstCost (lot :: lots) x = lot.cost + firstCost lots (x - lot.units) := if_neg (not_lt.mpr h)

/-- Less than the first lot leaves a part of it. -/
theorem dropUnits_cons_of_lt {lot : Lot K} {x : K} (h : x < lot.units) (lots : List (Lot K)) :
    dropUnits (lot :: lots) x =
      ⟨lot.units - x, lot.cost - lot.cost * x / lot.units⟩ :: lots := if_pos h

/-- The first lot and more leaves what the rest leaves. -/
theorem dropUnits_cons_of_le {lot : Lot K} {x : K} (h : lot.units ≤ x) (lots : List (Lot K)) :
    dropUnits (lot :: lots) x = dropUnits lots (x - lot.units) := if_neg (not_lt.mpr h)

/-- Nothing costs nothing. -/
theorem firstCost_zero {lots : List (Lot K)} (h : PositiveLots lots) : firstCost lots 0 = 0 := by
  cases lots with
  | nil => rfl
  | cons lot lots =>
      rw [firstCost_cons_of_lt (h lot List.mem_cons_self).1, mul_zero, zero_div]

/-- Taking nothing leaves every lot. -/
theorem dropUnits_zero {lots : List (Lot K)} (h : PositiveLots lots) : dropUnits lots 0 = lots := by
  cases lots with
  | nil => rfl
  | cons lot lots =>
      rw [dropUnits_cons_of_lt (h lot List.mem_cons_self).1, mul_zero, zero_div, sub_zero, sub_zero]

variable [IsStrictOrderedRing K]

/-- Positive lots have no negative units. -/
theorem units_nonneg {lots : List (Lot K)} (h : PositiveLots lots) : 0 ≤ totalUnits lots :=
  List.sum_nonneg fun x hx => by
    obtain ⟨lot, hlot, rfl⟩ := List.mem_map.mp hx
    exact (h lot hlot).1.le

/-- What is left has units and no negative cost. -/
theorem positive_dropUnits {lots : List (Lot K)} (h : PositiveLots lots) {x : K} (hx : 0 ≤ x) :
    PositiveLots (dropUnits lots x) := by
  induction lots generalizing x with
  | nil => exact h
  | cons lot lots ih =>
      obtain ⟨hunits, hcost⟩ := h lot List.mem_cons_self
      rcases lt_or_ge x lot.units with hpart | hall
      · rw [dropUnits_cons_of_lt hpart]
        intro l hl
        rcases List.mem_cons.mp hl with rfl | hl
        · have hshare : lot.cost * x / lot.units ≤ lot.cost := by
            rw [div_le_iff₀ hunits]
            exact mul_le_mul_of_nonneg_left hpart.le hcost
          exact ⟨sub_pos.mpr hpart, sub_nonneg.mpr hshare⟩
        · exact h.of_cons l hl
      · rw [dropUnits_cons_of_le hall]
        exact ih h.of_cons (sub_nonneg.mpr hall)

/-- Units are conserved. -/
theorem units_dropUnits {lots : List (Lot K)} {x : K} (h : x ≤ totalUnits lots) (hx : 0 ≤ x) :
    totalUnits (dropUnits lots x) = totalUnits lots - x := by
  induction lots generalizing x with
  | nil =>
      have hzero : x = 0 := le_antisymm h hx
      rw [hzero, sub_zero]
      rfl
  | cons lot lots ih =>
      rw [units_cons] at h ⊢
      rcases lt_or_ge x lot.units with hpart | hall
      · rw [dropUnits_cons_of_lt hpart, units_cons]
        ring
      · rw [dropUnits_cons_of_le hall, ih (by linarith) (sub_nonneg.mpr hall)]
        ring

/-- Cost is conserved. -/
theorem cost_dropUnits (lots : List (Lot K)) (x : K) :
    totalCost (dropUnits lots x) = totalCost lots - firstCost lots x := by
  induction lots generalizing x with
  | nil => exact (sub_self _).symm
  | cons lot lots ih =>
      rcases lt_or_ge x lot.units with hpart | hall
      · rw [dropUnits_cons_of_lt hpart, firstCost_cons_of_lt hpart, cost_cons, cost_cons]
        ring
      · rw [dropUnits_cons_of_le hall, firstCost_cons_of_le hall, ih, cost_cons]
        ring

/-- Later lots do not matter as long as there are enough units. -/
theorem dropUnits_append {lots : List (Lot K)} (hlots : PositiveLots lots) {x : K}
    (h : x ≤ totalUnits lots) (hx : 0 ≤ x) {lots' : List (Lot K)} (hlots' : PositiveLots lots') :
    dropUnits (lots ++ lots') x = dropUnits lots x ++ lots' := by
  induction lots generalizing x with
  | nil =>
      have hzero : x = 0 := le_antisymm h hx
      rw [List.nil_append, hzero, dropUnits_zero hlots']
      rfl
  | cons lot lots ih =>
      rw [units_cons] at h
      rw [List.cons_append]
      rcases lt_or_ge x lot.units with hpart | hall
      · rw [dropUnits_cons_of_lt hpart, dropUnits_cons_of_lt hpart, List.cons_append]
      · rw [dropUnits_cons_of_le hall, dropUnits_cons_of_le hall,
          ih hlots.of_cons (by linarith) (sub_nonneg.mpr hall)]

/-- What the first lots cover does not touch the later ones. -/
theorem firstCost_append {lots : List (Lot K)} {x : K} (h : x ≤ totalUnits lots) (hx : 0 ≤ x)
    {lots' : List (Lot K)} (hlots' : PositiveLots lots') :
    firstCost (lots ++ lots') x = firstCost lots x := by
  induction lots generalizing x with
  | nil =>
      have hzero : x = 0 := le_antisymm h hx
      rw [List.nil_append, hzero, firstCost_zero hlots']
      rfl
  | cons lot lots ih =>
      rw [units_cons] at h
      rw [List.cons_append]
      rcases lt_or_ge x lot.units with hpart | hall
      · rw [firstCost_cons_of_lt hpart, firstCost_cons_of_lt hpart]
      · rw [firstCost_cons_of_le hall, firstCost_cons_of_le hall,
          ih (by linarith) (sub_nonneg.mpr hall)]

/-- Using up some units and then more is using them up at once. -/
theorem dropUnits_add {lots : List (Lot K)} (h : PositiveLots lots) {x y : K} (hx : 0 ≤ x)
    (hy : 0 ≤ y) : dropUnits (dropUnits lots x) y = dropUnits lots (x + y) := by
  induction lots generalizing x with
  | nil => rfl
  | cons lot lots ih =>
      obtain ⟨hunits, -⟩ := h lot List.mem_cons_self
      rcases lt_or_ge x lot.units with hpart | hall
      · rw [dropUnits_cons_of_lt hpart]
        have hleft : lot.units - x ≠ 0 := (sub_pos.mpr hpart).ne'
        rcases lt_or_ge (x + y) lot.units with hboth | hnext
        · rw [dropUnits_cons_of_lt hboth, dropUnits_cons_of_lt (by dsimp only; linarith)]
          congr 2
          · dsimp only
            ring
          · dsimp only
            field_simp
            ring
        · rw [dropUnits_cons_of_le hnext, dropUnits_cons_of_le (by dsimp only; linarith)]
          congr 1
          dsimp only
          ring
      · rw [dropUnits_cons_of_le hall, dropUnits_cons_of_le (by linarith),
          ih h.of_cons (sub_nonneg.mpr hall)]
        congr 1
        ring

/-- The cost of some units and of the ones that come after them. -/
theorem firstCost_add {lots : List (Lot K)} (h : PositiveLots lots) {x y : K} (hx : 0 ≤ x)
    (hy : 0 ≤ y) :
    firstCost lots (x + y) = firstCost lots x + firstCost (dropUnits lots x) y := by
  have htotal := cost_dropUnits (dropUnits lots x) y
  rw [dropUnits_add h hx hy, cost_dropUnits, cost_dropUnits] at htotal
  linarith

end SolanaBot.Library
