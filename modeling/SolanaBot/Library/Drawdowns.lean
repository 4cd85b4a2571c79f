import Mathlib.Algebra.BigOperators.Group.List.Basic
import Mathlib.Algebra.Order.BigOperators.Group.List
import Mathlib.Algebra.Order.Group.MinMax
import Mathlib.Data.List.Perm.Basic
import Mathlib.Tactic.Linarith

/-!
# Drawdowns of a sequence of gains

The drop of a sequence of gains and losses from its peak shrinks by each gain and grows by each loss; the
drawdown is the greatest drop (`worstDrop`). It is never more than the sum of the losses
(`worstDrop_le`), and as much if no gain comes in between, so that the drawdown does not depend on the
order exactly if there is no gain, or no second loss (`worstDrop_order_free_iff`).
-/

set_option autoImplicit false

namespace SolanaBot.Library

variable {K : Type*} [Field K] [LinearOrder K]

/-- The drop after one more gain. -/
def dropAfter (drop gain : K) : K := max (drop - gain) 0

/-- The greatest drop, from a drop and the greatest one so far. -/
def worstDrop (drop worst : K) : List K → K
  | [] => worst
  | gain :: gains => worstDrop (dropAfter drop gain) (max worst (dropAfter drop gain)) gains

/-- What a gain loses. -/
def lossOf (gain : K) : K := max (-gain) 0

/-- The sum of the losses. -/
def losses (gains : List K) : K := (gains.map lossOf).sum

/-- The losses do not depend on the order. -/
theorem losses_perm {gains gains' : List K} (h : gains.Perm gains') : losses gains = losses gains' :=
  (h.map lossOf).sum_eq

/-- The losses of one gain more. -/
theorem losses_cons (gain : K) (gains : List K) :
    losses (gain :: gains) = lossOf gain + losses gains := List.sum_cons

/-- The losses of two lists. -/
theorem losses_append (gains gains' : List K) :
    losses (gains ++ gains') = losses gains + losses gains' := by
  unfold losses
  rw [List.map_append, List.sum_append]

/-- A loss is not negative. -/
theorem lossOf_nonneg (gain : K) : 0 ≤ lossOf gain := le_max_right _ _

/-- A drop is not negative. -/
theorem dropAfter_nonneg (drop gain : K) : 0 ≤ dropAfter drop gain := le_max_right _ _

/-- The drawdown is no less than the greatest drop so far. -/
theorem le_worstDrop (drop worst : K) (gains : List K) : worst ≤ worstDrop drop worst gains := by
  induction gains generalizing drop worst with
  | nil => exact le_rfl
  | cons gain gains ih => exact (le_max_left _ _).trans (ih _ _)

variable [IsStrictOrderedRing K]

/-- What is not negative is no loss. -/
theorem lossOf_of_nonneg {gain : K} (h : 0 ≤ gain) : lossOf gain = 0 := max_eq_right (neg_nonpos.mpr h)

/-- A negative gain is a loss of its size. -/
theorem lossOf_of_neg {gain : K} (h : gain < 0) : lossOf gain = -gain := max_eq_left (neg_pos.mpr h).le

/-- Losses are not negative. -/
theorem losses_nonneg (gains : List K) : 0 ≤ losses gains :=
  List.sum_nonneg fun x hx => by
    obtain ⟨gain, -, rfl⟩ := List.mem_map.mp hx
    exact lossOf_nonneg gain

/-- Without a negative gain there is no loss. -/
theorem losses_of_nonneg {gains : List K} (h : ∀ gain ∈ gains, 0 ≤ gain) : losses gains = 0 :=
  List.sum_eq_zero fun x hx => by
    obtain ⟨gain, hgain, rfl⟩ := List.mem_map.mp hx
    exact lossOf_of_nonneg (h gain hgain)

/-- A drop grows by a loss at most. -/
theorem dropAfter_le (drop gain : K) (h : 0 ≤ drop) : dropAfter drop gain ≤ drop + lossOf gain :=
  max_le (by linarith [le_max_left (-gain) 0, show lossOf gain = max (-gain) 0 from rfl])
    (add_nonneg h (lossOf_nonneg gain))

/-- The drawdown is no more than the sum of the losses. -/
theorem worstDrop_le {drop : K} (hdrop : 0 ≤ drop) (worst : K) (gains : List K) :
    worstDrop drop worst gains ≤ max worst (drop + losses gains) := by
  induction gains generalizing drop worst with
  | nil => exact le_max_left _ _
  | cons gain gains ih =>
      have hstep := dropAfter_le drop gain hdrop
      have hrest := losses_nonneg gains
      refine (ih (dropAfter_nonneg drop gain) _).trans ?_
      rw [losses_cons]
      refine max_le (max_le (le_max_left _ _) ?_) ?_
      · exact le_max_of_le_right (by linarith)
      · exact le_max_of_le_right (by linarith)

/-- Each loss is part of the drawdown. -/
theorem lossOf_le_worstDrop {drop : K} (hdrop : 0 ≤ drop) (worst : K) {gains : List K} {gain : K}
    (h : gain ∈ gains) : lossOf gain ≤ worstDrop drop worst gains := by
  induction gains generalizing drop worst with
  | nil => cases h
  | cons first gains ih =>
      rcases List.mem_cons.mp h with rfl | h
      · have hloss : lossOf gain ≤ dropAfter drop gain :=
          max_le_max_right 0 (by linarith)
        exact hloss.trans ((le_max_right _ _).trans (le_worstDrop _ _ gains))
      · exact ih (dropAfter_nonneg drop first) _ h

/-- Losses without a gain in between add up. -/
theorem losses_le_worstDrop {drop worst : K} (hdrop : drop ≤ worst) {gains : List K}
    (h : ∀ gain ∈ gains, gain ≤ 0) : drop + losses gains ≤ worstDrop drop worst gains := by
  induction gains generalizing drop worst with
  | nil =>
      have hnone : losses ([] : List K) = 0 := rfl
      rw [hnone, add_zero]
      exact hdrop
  | cons gain gains ih =>
      have hgain := h gain List.mem_cons_self
      have hstep : drop + lossOf gain ≤ dropAfter drop gain := by
        unfold lossOf dropAfter
        rw [max_eq_left (neg_nonneg.mpr hgain)]
        exact (le_max_left _ _).trans' (by linarith)
      have hrest := ih (le_max_right worst (dropAfter drop gain))
        fun gain' hgain' => h gain' (List.mem_cons_of_mem _ hgain')
      have hturn : worstDrop drop worst (gain :: gains) =
          worstDrop (dropAfter drop gain) (max worst (dropAfter drop gain)) gains := rfl
      rw [losses_cons, hturn]
      linarith

/-- Where nothing is gained the losses are within the drawdown. -/
theorem losses_le_drawdown {gains : List K} (h : ∀ gain ∈ gains, gain ≤ 0) :
    losses gains ≤ worstDrop 0 0 gains := by
  have hle := losses_le_worstDrop (le_refl (0 : K)) h
  rwa [zero_add] at hle

/-- Gains from the peak leave it. -/
theorem worstDrop_gains {gains : List K} (h : ∀ gain ∈ gains, 0 ≤ gain) (gains' : List K) :
    worstDrop 0 0 (gains ++ gains') = worstDrop 0 0 gains' := by
  induction gains with
  | nil => rfl
  | cons gain gains ih =>
      have hstep : dropAfter 0 gain = 0 :=
        max_eq_right (by linarith [h gain List.mem_cons_self])
      rw [List.cons_append, worstDrop, hstep, max_self]
      exact ih fun gain' hgain' => h gain' (List.mem_cons_of_mem _ hgain')

/-- The drawdown from the peak is no more than the losses. -/
theorem drawdown_le (gains : List K) : worstDrop 0 0 gains ≤ losses gains := by
  have hle := worstDrop_le le_rfl 0 gains
  rwa [zero_add, max_eq_right (losses_nonneg gains)] at hle

/-! ## Orders -/

section Orders

variable {κ : Type*} {keys : List κ} (f : κ → K)

/-- Without a gain every order makes the same drawdown, and without a second loss as well. -/
theorem drawdown_eq_losses (hnodup : keys.Nodup)
    (h : (∀ k ∈ keys, f k ≤ 0) ∨ ∀ k ∈ keys, ∀ k' ∈ keys, f k < 0 → f k' < 0 → k = k') :
    worstDrop 0 0 (keys.map f) = losses (keys.map f) := by
  refine le_antisymm (drawdown_le _) ?_
  rcases h with hlosing | hsingle
  · have hall : ∀ gain ∈ keys.map f, gain ≤ 0 := fun gain hgain => by
      obtain ⟨k, hk, rfl⟩ := List.mem_map.mp hgain
      exact hlosing k hk
    exact losses_le_drawdown hall
  · by_cases hloss : ∃ k ∈ keys, f k < 0
    · obtain ⟨k, hk, hneg⟩ := hloss
      obtain ⟨before, after, rfl⟩ := List.append_of_mem hk
      have hperm : (before ++ k :: after).Perm (k :: (before ++ after)) := List.perm_middle
      have hnew : k ∉ before ++ after := (List.nodup_cons.mp (hperm.nodup_iff.mp hnodup)).1
      have hothers : ∀ gain ∈ (before ++ after).map f, 0 ≤ gain := fun gain hgain => by
        obtain ⟨k', hk', rfl⟩ := List.mem_map.mp hgain
        refine not_lt.mp fun hneg' => ?_
        have hsame := hsingle k hk k' (hperm.mem_iff.mpr (List.mem_cons_of_mem _ hk')) hneg hneg'
        exact hnew (hsame ▸ hk')
      rw [losses_perm (hperm.map f), List.map_cons, losses_cons, losses_of_nonneg hothers, add_zero]
      exact lossOf_le_worstDrop le_rfl 0 (List.mem_map_of_mem hk)
    · have hgains : ∀ gain ∈ keys.map f, 0 ≤ gain := fun gain hgain => by
        obtain ⟨k, hk, rfl⟩ := List.mem_map.mp hgain
        exact not_lt.mp fun hneg => hloss ⟨k, hk, hneg⟩
      rw [losses_of_nonneg hgains]
      exact le_worstDrop 0 0 _

/-- Some order puts all gains before the losses. -/
theorem exists_order_eq_losses (keys : List κ) :
    ∃ keys' : List κ, keys'.Perm keys ∧ worstDrop 0 0 (keys'.map f) = losses (keys.map f) := by
  have hperm := List.filter_append_perm (fun k => decide (0 ≤ f k)) keys
  refine ⟨_, hperm, le_antisymm ?_ ?_⟩
  · rw [← losses_perm (hperm.map f)]
    exact drawdown_le _
  · have hgains : ∀ gain ∈ (keys.filter fun k => decide (0 ≤ f k)).map f, 0 ≤ gain :=
      fun gain hgain => by
        obtain ⟨k, hk, rfl⟩ := List.mem_map.mp hgain
        exact of_decide_eq_true (List.mem_filter.mp hk).2
    have hlosses : ∀ gain ∈ (keys.filter fun k => !decide (0 ≤ f k)).map f, gain ≤ 0 :=
      fun gain hgain => by
        obtain ⟨k, hk, rfl⟩ := List.mem_map.mp hgain
        have hneg := (List.mem_filter.mp hk).2
        rw [Bool.not_eq_true', decide_eq_false_iff_not, not_le] at hneg
        exact hneg.le
    rw [← losses_perm (hperm.map f), List.map_append, losses_append, losses_of_nonneg hgains,
      worstDrop_gains hgains, zero_add]
    exact losses_le_drawdown hlosses

/-- A gain between two losses makes a smaller drawdown. -/
theorem worstDrop_between {loss gain : K} (hloss : loss < 0) (hgain : 0 < gain) {rest : List K}
    (hrest : 0 < losses rest) :
    worstDrop 0 0 (loss :: gain :: rest) < lossOf loss + losses rest := by
  have hfirst : dropAfter 0 loss = lossOf loss := by
    unfold dropAfter lossOf
    rw [zero_sub]
  have hpos : 0 < lossOf loss := by
    rw [lossOf_of_neg hloss]
    exact neg_pos.mpr hloss
  have hsecond : dropAfter (lossOf loss) gain < lossOf loss := max_lt (by linarith) hpos
  have hturns : worstDrop 0 0 (loss :: gain :: rest) =
      worstDrop (dropAfter (lossOf loss) gain)
        (max (max 0 (lossOf loss)) (dropAfter (lossOf loss) gain)) rest := by
    rw [worstDrop, hfirst, worstDrop]
  rw [hturns]
  refine (worstDrop_le (dropAfter_nonneg _ _) _ rest).trans_lt (max_lt (max_lt (max_lt ?_ ?_) ?_) ?_)
  all_goals linarith

/-- **Order of the gains.** The drawdown is the same in every order exactly if there is no gain, or no
second loss. -/
theorem worstDrop_order_free_iff (hnodup : keys.Nodup) :
    (∀ keys' : List κ, keys'.Perm keys →
      worstDrop 0 0 (keys'.map f) = worstDrop 0 0 (keys.map f)) ↔
      (∀ k ∈ keys, f k ≤ 0) ∨ ∀ k ∈ keys, ∀ k' ∈ keys, f k < 0 → f k' < 0 → k = k' := by
  constructor
  · intro h
    by_contra hmixed
    rw [not_or] at hmixed
    obtain ⟨hgain, hsecond⟩ := hmixed
    push Not at hgain hsecond
    obtain ⟨g, hg, hgpos⟩ := hgain
    obtain ⟨k, hk, k', hk', hkneg, hkneg', hne⟩ := hsecond
    -- all orders reach the sum of the losses, as one of them does
    obtain ⟨best, hbest, hlosses⟩ := exists_order_eq_losses f keys
    rw [h best hbest] at hlosses
    -- the gain between one loss and the others
    obtain ⟨others, hothers⟩ : ∃ others, keys.Perm (k :: g :: others) := by
      obtain ⟨l, l', rfl⟩ := List.append_of_mem hk
      have hperm : (l ++ k :: l').Perm (k :: (l ++ l')) := List.perm_middle
      have hgmem : g ∈ l ++ l' := by
        rcases List.mem_cons.mp (hperm.mem_iff.mp hg) with rfl | hmem
        · exact absurd hgpos hkneg.not_gt
        · exact hmem
      obtain ⟨m, m', hsplit⟩ := List.append_of_mem hgmem
      rw [hsplit] at hperm
      exact ⟨m ++ m', hperm.trans (List.perm_middle.cons k)⟩
    have hrest : 0 < losses (others.map f) := by
      have hmem : k' ∈ others := by
        rcases List.mem_cons.mp (hothers.mem_iff.mp hk') with rfl | hmem
        · exact absurd rfl hne
        · rcases List.mem_cons.mp hmem with rfl | hmem
          · exact absurd hgpos hkneg'.not_gt
          · exact hmem
      have hpart := lossOf_le_worstDrop le_rfl 0 (List.mem_map_of_mem (f := f) hmem)
      have hpos : 0 < lossOf (f k') := by
        rw [lossOf_of_neg hkneg']
        exact neg_pos.mpr hkneg'
      exact hpos.trans_le (hpart.trans (drawdown_le _))
    have hless := worstDrop_between hkneg hgpos hrest
    have hsame := h (k :: g :: others) hothers.symm
    rw [List.map_cons, List.map_cons, hlosses, losses_perm (hothers.map f), List.map_cons,
      List.map_cons, losses_cons, losses_cons, lossOf_of_nonneg hgpos.le, zero_add] at hsame
    exact absurd hsame hless.ne
  · intro h keys' hperm
    have h' : (∀ k ∈ keys', f k ≤ 0) ∨ ∀ k ∈ keys', ∀ k' ∈ keys', f k < 0 → f k' < 0 → k = k' :=
      h.imp (fun hlosing k hk => hlosing k (hperm.mem_iff.mp hk))
        fun hsingle k hk k' hk' => hsingle k (hperm.mem_iff.mp hk) k' (hperm.mem_iff.mp hk')
    rw [drawdown_eq_losses f (hperm.nodup_iff.mpr hnodup) h', drawdown_eq_losses f hnodup h,
      losses_perm (hperm.map f)]

end Orders

end SolanaBot.Library
