import Mathlib.Data.List.Induction

/-!
# Walks: loops over a list that can break off

`walk f l s` runs the body `f` over the elements of `l` from the state `s` until the
body is `done`, and reports the index of the element at which it broke off.

A walk that breaks off reads nothing behind that element (`walk_congr`). An
invariant of the yielding turns holds in the state in which the last turn starts
(`walk_induction`). Where the state after the turns that yield is a function of the elements
so far, the walk is known from it alone (`walk_cases`): it goes through a prefix of the list
(`GoesThrough`) and ends there.
-/

set_option autoImplicit false

namespace SolanaBot.Library

variable {α σ : Type*}

/-- What a walk leaves: the index at which it broke off, if it did, and the state. -/
structure Walked (σ : Type*) where
  stoppedAt : Option ℕ
  state : σ

/-- The body `f` over a list, until it is done. -/
def walk (f : α → σ → ForInStep σ) : List α → σ → Walked σ
  | [], s => ⟨none, s⟩
  | a :: l, s =>
      match f a s with
      | .done s' => ⟨some 0, s'⟩
      | .yield s' =>
          let rest := walk f l s'
          ⟨rest.stoppedAt.map (· + 1), rest.state⟩

section Turns

variable {f : α → σ → ForInStep σ} {a : α} {l : List α} {s s' : σ}

/-- A walk over nothing stays where it is. -/
@[simp] theorem walk_nil : walk f [] s = ⟨none, s⟩ := rfl

/-- A body that is done breaks off at the first element. -/
theorem walk_cons_done (h : f a s = .done s') : walk f (a :: l) s = ⟨some 0, s'⟩ := by
  simp only [walk, h]

/-- A body that yields walks on. -/
theorem walk_cons_yield (h : f a s = .yield s') :
    walk f (a :: l) s = ⟨(walk f l s').stoppedAt.map (· + 1), (walk f l s').state⟩ := by
  simp only [walk, h]

end Turns

/-- A walk that breaks off reads the elements up to that point and no others. -/
theorem walk_congr {f : α → σ → ForInStep σ} {l l' : List α} {s : σ} {k : ℕ}
    (h : (walk f l s).stoppedAt = some k) (hl : l'.take (k + 1) = l.take (k + 1)) :
    walk f l' s = walk f l s := by
  induction l generalizing l' s k with
  | nil => cases h
  | cons a l ih =>
      cases l' with
      | nil => cases hl
      | cons a' l' =>
          rw [List.take_succ_cons, List.take_succ_cons, List.cons.injEq] at hl
          obtain ⟨rfl, hl⟩ := hl
          cases hf : f a' s with
          | done s' => rw [walk_cons_done hf, walk_cons_done hf]
          | yield s' =>
              rw [walk_cons_yield hf] at h
              rw [walk_cons_yield hf, walk_cons_yield hf]
              cases hk : (walk f l s').stoppedAt with
              | none => simp [hk] at h
              | some j =>
                  have hj : j + 1 = k := by simpa [hk] using h
                  subst hj
                  rw [ih hk hl, hk]

/-- What holds at the start and is kept by every turn that yields, holds in the state in
which the last turn starts: of the turn that breaks off, or at the end of the list. -/
theorem walk_induction {f : α → σ → ForInStep σ} (P : σ → Prop) {l : List α}
    (hyield : ∀ a ∈ l, ∀ s s', P s → f a s = .yield s' → P s') {s : σ} (hs : P s) :
    match (walk f l s).stoppedAt with
    | none => P (walk f l s).state
    | some k => ∃ a s', l[k]? = some a ∧ P s' ∧ f a s' = .done (walk f l s).state := by
  induction l generalizing s with
  | nil => exact hs
  | cons a l ih =>
      cases hf : f a s with
      | done s' =>
          rw [walk_cons_done hf]
          exact ⟨a, s, rfl, hs, hf⟩
      | yield s' =>
          have hrest := ih (fun b hb => hyield b (List.mem_cons_of_mem _ hb))
            (hyield a List.mem_cons_self s s' hs hf)
          rw [walk_cons_yield hf]
          cases hk : (walk f l s').stoppedAt with
          | none =>
              rw [hk] at hrest
              exact hrest
          | some k =>
              rw [hk] at hrest
              obtain ⟨b, t, hb, ht, hdone⟩ := hrest
              exact ⟨b, t, hb, ht, hdone⟩

/-! ## States of prefixes -/

section Prefixes

variable {f : α → σ → ForInStep σ} {state : List α → σ}

/-- Every turn over the elements of `l` yields, and leads to the state of the next prefix. -/
def GoesThrough (f : α → σ → ForInStep σ) (state : List α → σ) (l : List α) : Prop :=
  ∀ p a q, l = p ++ a :: q → f a (state p) = .yield (state (p ++ [a]))

/-- Every body goes through nothing. -/
theorem goesThrough_nil : GoesThrough f state [] := fun p a q h => by
  cases p <;> cases h

/-- What goes through a list goes through its beginning. -/
theorem GoesThrough.of_append {p q : List α} (h : GoesThrough f state (p ++ q)) :
    GoesThrough f state p := by
  intro p' a q' hp
  subst hp
  exact h p' a (q' ++ q) (by rw [List.append_assoc, List.cons_append])

/-- One element more that yields. -/
theorem GoesThrough.snoc {p : List α} {a : α} (h : GoesThrough f state p)
    (ha : f a (state p) = .yield (state (p ++ [a]))) : GoesThrough f state (p ++ [a]) := by
  intro p' a' q' hsplit
  rcases List.eq_nil_or_concat q' with rfl | ⟨q, b, rfl⟩
  · obtain ⟨hp, hlast⟩ := List.append_inj' hsplit rfl
    cases hlast
    rw [← hp]
    exact ha
  · rw [List.concat_eq_append, ← List.cons_append, ← List.append_assoc] at hsplit
    obtain ⟨hp, -⟩ := List.append_inj' hsplit rfl
    exact h p' a' q hp

/-- A walk goes on behind the elements that it goes through. -/
theorem walk_append {p rest : List α} (h : GoesThrough f state p) :
    walk f (p ++ rest) (state []) =
      ⟨(walk f rest (state p)).stoppedAt.map (· + p.length), (walk f rest (state p)).state⟩ := by
  induction p using List.reverseRecOn generalizing rest with
  | nil => simp
  | append_singleton p a ih =>
      have hyield := h p a [] rfl
      rw [List.append_assoc, List.singleton_append, ih h.of_append, walk_cons_yield hyield,
        List.length_append, Option.map_map]
      congr 2
      funext k
      simp only [Function.comp_apply, List.length_singleton]
      omega

/-- A walk that goes through a list and is done behind it stops there. -/
theorem walk_of_done {p rest : List α} {a : α} {s' : σ} (h : GoesThrough f state p)
    (ha : f a (state p) = .done s') :
    walk f (p ++ a :: rest) (state []) = ⟨some p.length, s'⟩ := by
  rw [walk_append h, walk_cons_done ha, Option.map_some, Nat.zero_add]

/-- A walk that goes through its whole list does not stop. -/
theorem walk_of_goesThrough {l : List α} (h : GoesThrough f state l) :
    walk f l (state []) = ⟨none, state l⟩ := by
  have hwalk : walk f (l ++ []) (state []) = _ := walk_append h
  rwa [List.append_nil, walk_nil, Option.map_none] at hwalk

/-- **Walks by prefixes.** A walk goes through the list, or through the elements in front of the one at
which it breaks off. -/
theorem walk_cases (hstep : ∀ p a s', f a (state p) = .yield s' → s' = state (p ++ [a]))
    (l : List α) :
    (GoesThrough f state l ∧ walk f l (state []) = ⟨none, state l⟩) ∨
    ∃ p a q s', l = p ++ a :: q ∧ GoesThrough f state p ∧ f a (state p) = .done s' ∧
      walk f l (state []) = ⟨some p.length, s'⟩ := by
  induction l using List.reverseRecOn with
  | nil => exact .inl ⟨goesThrough_nil, rfl⟩
  | append_singleton l b ih =>
      rcases ih with ⟨hthrough, -⟩ | ⟨p, a, q, s', rfl, hthrough, hdone, -⟩
      · cases hb : f b (state l) with
        | done s' =>
            exact .inr ⟨l, b, [], s', rfl, hthrough, hb, walk_of_done hthrough hb⟩
        | yield s' =>
            have hnext := hthrough.snoc (hstep l b s' hb ▸ hb)
            exact .inl ⟨hnext, walk_of_goesThrough hnext⟩
      · refine .inr ⟨p, a, q ++ [b], s', by simp, hthrough, hdone, ?_⟩
        rw [List.append_assoc, List.cons_append]
        exact walk_of_done hthrough hdone

end Prefixes

end SolanaBot.Library
