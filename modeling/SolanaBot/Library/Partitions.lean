import Mathlib.Data.List.Basic
import Mathlib.Data.List.Forall2
import Mathlib.Data.List.Perm.Basic

/-!
# Sorting a list into parts

A pipeline of stages puts each element of a list into a part or passes it on. A list of
`α ⊕ β` records the decisions of one stage, in the order of the elements: `lefts` are the
elements that stop there, `rights` those that go on. `exists_refine` puts the decisions of the
next stage, made on the `rights`, back into the place of the elements they are about, and
`exists_forall₂_of_perm` does so when the stage works on the elements in another order.
-/

set_option autoImplicit false

namespace SolanaBot.Library

variable {α β γ δ : Type*}

/-- The elements that stop at this stage. -/
def lefts (l : List (α ⊕ β)) : List α := l.filterMap Sum.getLeft?

/-- The elements that go on. -/
def rights (l : List (α ⊕ β)) : List β := l.filterMap Sum.getRight?

/-- Nothing has no left parts. -/
@[simp] theorem lefts_nil : lefts ([] : List (α ⊕ β)) = [] := rfl

/-- Nothing has no right parts. -/
@[simp] theorem rights_nil : rights ([] : List (α ⊕ β)) = [] := rfl

/-- A left part is one. -/
@[simp] theorem lefts_inl (a : α) (l : List (α ⊕ β)) : lefts (.inl a :: l) = a :: lefts l := rfl

/-- A right part is none. -/
@[simp] theorem lefts_inr (b : β) (l : List (α ⊕ β)) : lefts (.inr b :: l) = lefts l := rfl

/-- A left part is none. -/
@[simp] theorem rights_inl (a : α) (l : List (α ⊕ β)) : rights (.inl a :: l) = rights l := rfl

/-- A right part is one. -/
@[simp] theorem rights_inr (b : β) (l : List (α ⊕ β)) : rights (.inr b :: l) = b :: rights l := rfl

/-- The left parts of two lists. -/
@[simp] theorem lefts_append (l l' : List (α ⊕ β)) : lefts (l ++ l') = lefts l ++ lefts l' :=
  List.filterMap_append

/-- The right parts of two lists. -/
@[simp] theorem rights_append (l l' : List (α ⊕ β)) :
    rights (l ++ l') = rights l ++ rights l' :=
  List.filterMap_append

/-- No element is lost between the parts. -/
theorem length_lefts_add_length_rights (l : List (α ⊕ β)) :
    (lefts l).length + (rights l).length = l.length := by
  induction l with
  | nil => rfl
  | cons x l ih =>
      cases x with
      | inl a =>
          simp only [lefts_inl, rights_inl, List.length_cons]
          omega
      | inr b =>
          simp only [lefts_inr, rights_inr, List.length_cons]
          omega

/-- An element that goes on comes from the one it was decided about. -/
theorem exists_of_mem_rights {R : γ → α ⊕ β → Prop} {l : List γ} {fs : List (α ⊕ β)}
    (h : List.Forall₂ R l fs) {b : β} (hb : b ∈ rights fs) : ∃ c ∈ l, R c (.inr b) := by
  induction h with
  | nil => cases hb
  | @cons c f l fs hcf _ ih =>
      have hlater : b ∈ rights fs → ∃ c' ∈ c :: l, R c' (.inr b) := by
        intro hmem
        obtain ⟨c', hc', hR⟩ := ih hmem
        exact ⟨c', List.mem_cons_of_mem c hc', hR⟩
      cases f with
      | inl a => exact hlater hb
      | inr b' =>
          rw [rights_inr, List.mem_cons] at hb
          rcases hb with rfl | hb
          · exact ⟨c, List.mem_cons_self, hcf⟩
          · exact hlater hb

/-- The decision of two stages about one element: it stopped at the first, or the second one
decided about what the first passed on. -/
def Refined (R : γ → α ⊕ β → Prop) (Q : β → δ → Prop) (c : γ) : α ⊕ δ → Prop
  | .inl a => R c (.inl a)
  | .inr d => ∃ b, R c (.inr b) ∧ Q b d

/-- The decisions of a second stage, put back into the place of the elements they are about. -/
theorem exists_refine {R : γ → α ⊕ β → Prop} {Q : β → δ → Prop} {l : List γ}
    {fs : List (α ⊕ β)} (hfirst : List.Forall₂ R l fs) {ds : List δ}
    (hsecond : List.Forall₂ Q (rights fs) ds) :
    ∃ gs : List (α ⊕ δ), List.Forall₂ (Refined R Q) l gs ∧ lefts gs = lefts fs ∧
      rights gs = ds := by
  induction hfirst generalizing ds with
  | nil =>
      cases hsecond
      exact ⟨[], .nil, rfl, rfl⟩
  | @cons c f l fs hc _ ih =>
      cases f with
      | inl a =>
          obtain ⟨gs, hgs, hlefts, hrights⟩ := ih hsecond
          exact ⟨.inl a :: gs, .cons hc hgs, by rw [lefts_inl, lefts_inl, hlefts], hrights⟩
      | inr b =>
          rw [rights_inr] at hsecond
          cases hsecond with
          | @cons _ d _ _ hbd hrest =>
              obtain ⟨gs, hgs, hlefts, hrights⟩ := ih hrest
              exact ⟨.inr d :: gs, .cons ⟨b, hc, hbd⟩ hgs, hlefts, by rw [rights_inr, hrights]⟩

/-- Decisions made about the elements in another order. -/
theorem exists_forall₂_of_perm {R : γ → δ → Prop} {l l' : List γ} (hperm : l.Perm l')
    {ds : List δ} (h : List.Forall₂ R l' ds) :
    ∃ ds', List.Forall₂ R l ds' ∧ ds'.Perm ds :=
  List.perm_comp_forall₂ hperm h

end SolanaBot.Library
