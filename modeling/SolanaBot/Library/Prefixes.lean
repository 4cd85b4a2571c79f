import Mathlib.Data.List.Induction
import Mathlib.Data.List.Infix

/-!
# Properties of all the states a fold goes through

A fold over a list of steps goes through the states of its prefixes. A property that every
step keeps, except for the steps of one kind, which end it, holds in all these states exactly
if no step is of that kind.
-/

set_option autoImplicit false

namespace SolanaBot.Library

variable {σ α : Type*} {f : σ → α → σ} {Q : σ → Prop} {Ends : α → Prop} {s : σ} {l : List α}

/-- A step taken after the rest of the prefixes. -/
theorem forall_prefix_concat {R : List α → Prop} {a : α} :
    (∀ p, p <+: l ++ [a] → R p) ↔ (∀ p, p <+: l → R p) ∧ R (l ++ [a]) := by
  constructor
  · intro h
    exact ⟨fun p hp => h p (hp.trans (List.prefix_append l [a])), h _ (List.prefix_refl _)⟩
  · rintro ⟨hl, ha⟩ p hp
    rcases List.prefix_concat_iff.mp hp with heq | hp
    · exact heq ▸ ha
    · exact hl p hp

/-- A property kept by the steps that do not end it holds as long as there are no others. -/
theorem foldl_prefix_iff (hkeep : ∀ a ∈ l, ∀ s, Q s → ¬ Ends a → Q (f s a))
    (hend : ∀ a ∈ l, ∀ s, Q s → Ends a → ¬ Q (f s a)) (hs : Q s) :
    (∀ p, p <+: l → Q (p.foldl f s)) ↔ ∀ a ∈ l, ¬ Ends a := by
  induction l using List.reverseRecOn with
  | nil =>
      simp only [List.prefix_nil, forall_eq, List.foldl_nil, List.not_mem_nil, false_imp_iff,
        implies_true, iff_true]
      exact hs
  | append_singleton l a ih =>
      rw [List.forall_mem_append, List.forall_mem_singleton] at hkeep hend
      have hbefore := ih hkeep.1 hend.1
      rw [forall_prefix_concat, hbefore, List.forall_mem_append, List.forall_mem_singleton]
      apply and_congr_right
      intro hl
      have hq : Q (l.foldl f s) := hbefore.mpr hl l (List.prefix_refl l)
      rw [List.foldl_concat]
      constructor
      · intro h ha
        exact hend.2 _ hq ha h
      · exact hkeep.2 _ hq

end SolanaBot.Library
