import SolanaBot.Library.Resumption

/-!
# Interleaving programs over a shared state

A `Pool` is a shared state together with a list of programs. One step of the pool
lets one program perform its next operation; the label says which program, and
which environment the operation meets. A run is a sequence of labels, so a
statement about every run quantifies over every schedule, every behaviour of the
environment and every length.

The rule `run_rel` of this file reduces a statement about runs, a relation between the
states before and after, to a statement about one operation. It asks for the relation only
at the operations that a discipline of the programs permits, by facts that are true at that
point (`Discipline.Sound`), and at the steps that meet a side condition on the schedule
(`Pool.Meets`).

`Pool.history` is what an observer records along a run; `history_inv` is the rule for an
invariant of the state and the record.
-/

set_option autoImplicit false

namespace SolanaBot.Library

variable {Op : Type} {Res : Op → Type} {σ ε : Type}

/-- A shared state and the programs that operate on it. -/
structure Pool (Op : Type) (Res : Op → Type) (σ : Type) where
  shared : σ
  procs : List (Prog Op Res Unit)

/-- A scheduled step: which program moves, and what its operation meets. -/
structure Label (ε : Type) where
  proc : ℕ
  env : ε

namespace Pool

/-- The operation that the scheduled program is about to perform. -/
def next (w : Pool Op Res σ) (l : Label ε) : Option Op :=
  match w.procs[l.proc]? with
  | some (.call o _) => some o
  | _ => none

/-- One step: the scheduled program performs its next operation. A program that
has finished, or does not exist, leaves everything as it is. -/
def step (m : Machine Op Res σ ε) (w : Pool Op Res σ) (l : Label ε) : Pool Op Res σ :=
  match w.procs[l.proc]? with
  | some (.call o k) =>
      let r := m.exec l.env o w.shared
      ⟨r.2, w.procs.set l.proc (k r.1)⟩
  | _ => w

/-- The pool after a schedule. -/
def run (m : Machine Op Res σ ε) : Pool Op Res σ → List (Label ε) → Pool Op Res σ :=
  List.foldl (step m)

/-- A run of no step leaves the pool. -/
@[simp] theorem run_nil (m : Machine Op Res σ ε) (w : Pool Op Res σ) : w.run m [] = w := rfl

/-- A run takes its first step and goes on. -/
@[simp] theorem run_cons (m : Machine Op Res σ ε) (w : Pool Op Res σ) (l : Label ε)
    (ls : List (Label ε)) : w.run m (l :: ls) = (w.step m l).run m ls := rfl

/-- A run of two schedules, one after the other. -/
theorem run_append (m : Machine Op Res σ ε) (w : Pool Op Res σ) (ls ls' : List (Label ε)) :
    w.run m (ls ++ ls') = (w.run m ls).run m ls' := by
  simp [run]

/-- Every operation performed along the schedule meets the condition `C` in the
state in which it is performed. -/
def Meets (m : Machine Op Res σ ε) (C : ε → Op → σ → Prop) :
    Pool Op Res σ → List (Label ε) → Prop
  | _, [] => True
  | w, l :: ls => (∀ o ∈ w.next l, C l.env o w.shared) ∧ (w.step m l).Meets m C ls

/-- A run of no step meets every condition. -/
@[simp] theorem meets_nil (m : Machine Op Res σ ε) (C : ε → Op → σ → Prop)
    (w : Pool Op Res σ) : w.Meets m C [] := trivial

/-- A run meets a condition if its first step and the rest do. -/
@[simp] theorem meets_cons (m : Machine Op Res σ ε) (C : ε → Op → σ → Prop)
    (w : Pool Op Res σ) (l : Label ε) (ls : List (Label ε)) :
    w.Meets m C (l :: ls) ↔
      (∀ o ∈ w.next l, C l.env o w.shared) ∧ (w.step m l).Meets m C ls := Iff.rfl

/-- Whether a run meets a condition can be evaluated. -/
instance decidableMeets (m : Machine Op Res σ ε) (C : ε → Op → σ → Prop)
    [∀ e o s, Decidable (C e o s)] (w : Pool Op Res σ) (ls : List (Label ε)) :
    Decidable (w.Meets m C ls) :=
  match ls with
  | [] => .isTrue trivial
  | l :: ls =>
      have := decidableMeets m C (w.step m l) ls
      inferInstanceAs (Decidable (_ ∧ _))

/-- A run of two schedules meets a condition if both parts do. -/
theorem meets_append (m : Machine Op Res σ ε) (C : ε → Op → σ → Prop) (w : Pool Op Res σ)
    (ls ls' : List (Label ε)) :
    w.Meets m C (ls ++ ls') ↔ w.Meets m C ls ∧ (w.run m ls).Meets m C ls' := by
  induction ls generalizing w with
  | nil => simp
  | cons l ls ih => simp [ih, and_assoc]

/-- A schedule that meets a condition meets every weaker one. -/
theorem Meets.mono {m : Machine Op Res σ ε} {C D : ε → Op → σ → Prop}
    (hCD : ∀ e o s, C e o s → D e o s) {w : Pool Op Res σ} {ls : List (Label ε)}
    (h : w.Meets m C ls) : w.Meets m D ls := by
  induction ls generalizing w with
  | nil => trivial
  | cons l ls ih => exact ⟨fun o ho => hCD _ _ _ (h.1 o ho), ih h.2⟩

/-- A schedule that meets two conditions meets both at each step. -/
theorem Meets.and {m : Machine Op Res σ ε} {C D : ε → Op → σ → Prop} {w : Pool Op Res σ}
    {ls : List (Label ε)} (h : w.Meets m C ls) (h' : w.Meets m D ls) :
    w.Meets m (fun e o s => C e o s ∧ D e o s) ls := by
  induction ls generalizing w with
  | nil => trivial
  | cons l ls ih => exact ⟨fun o ho => ⟨h.1 o ho, h'.1 o ho⟩, ih h.2 h'.2⟩

/-- A condition that every step meets is met by every run. -/
theorem meets_of_forall {m : Machine Op Res σ ε} {C : ε → Op → σ → Prop} (h : ∀ e o s, C e o s)
    (w : Pool Op Res σ) (ls : List (Label ε)) : w.Meets m C ls := by
  induction ls generalizing w with
  | nil => trivial
  | cons l ls ih => exact ⟨fun o _ => h _ o _, ih _⟩

/-- A schedule meets a condition if each of its labels does after the labels before it. -/
theorem meets_of_splits {m : Machine Op Res σ ε} {C : ε → Op → σ → Prop} {w : Pool Op Res σ}
    {ls : List (Label ε)} (h : ∀ before l after, ls = before ++ l :: after →
      ∀ o ∈ (w.run m before).next l, C l.env o (w.run m before).shared) : w.Meets m C ls := by
  induction ls generalizing w with
  | nil => trivial
  | cons l ls ih =>
      refine ⟨h [] l ls rfl, ih fun before l' after hsplit => ?_⟩
      exact h (l :: before) l' after (by rw [hsplit, List.cons_append])

/-- What a step does: nothing, or one operation of one of the programs. -/
theorem step_cases (m : Machine Op Res σ ε) (w : Pool Op Res σ) (l : Label ε) :
    (w.next l = none ∧ w.step m l = w) ∨
      ∃ o k, w.next l = some o ∧ w.procs[l.proc]? = some (.call o k) ∧
        w.step m l = ⟨(m.exec l.env o w.shared).2,
          w.procs.set l.proc (k (m.exec l.env o w.shared).1)⟩ := by
  unfold next step
  cases h : w.procs[l.proc]? with
  | none => exact .inl ⟨rfl, rfl⟩
  | some p =>
      cases p with
      | done a => exact .inl ⟨rfl, rfl⟩
      | call o k => exact .inr ⟨o, k, rfl, rfl, rfl⟩

end Pool

/-! ## Rules for runs -/

/-- What makes the knowledge of programs reliable: an answer teaches only facts that hold, and
no permitted operation, of whichever program, makes a fact false. -/
structure Discipline.Sound {F : Type} (D : Discipline Op Res F) (m : Machine Op Res σ ε)
    (holds : F → σ → Prop) : Prop where
  learned : ∀ {e o s} {K : Set F}, D.permits K o → (∀ f ∈ K, holds f s) →
    ∀ f ∈ D.learns o (m.exec e o s).1, holds f (m.exec e o s).2
  stable : ∀ {e o s} {K : Set F}, D.permits K o → (∀ f ∈ K, holds f s) →
    ∀ f, holds f s → holds f (m.exec e o s).2

namespace Pool

variable {F : Type} {D : Discipline Op Res F} {m : Machine Op Res σ ε} {holds : F → σ → Prop}
  {C : ε → Op → σ → Prop}

/-- Every program follows the discipline from what it knows, and what it knows is true. -/
def Follows (D : Discipline Op Res F) (holds : F → σ → Prop) (w : Pool Op Res σ) : Prop :=
  ∀ p ∈ w.procs, ∃ K, p.Follows D K ∧ ∀ f ∈ K, holds f w.shared

/-- Programs that know nothing know nothing false. -/
theorem follows_of_empty {w : Pool Op Res σ} (h : ∀ p ∈ w.procs, p.Follows D ∅) :
    w.Follows D holds :=
  fun p hp => ⟨∅, h p hp, by simp⟩

/-- The operation about to be performed is permitted by true facts. -/
theorem Follows.next {w : Pool Op Res σ} (hD : w.Follows D holds) {l : Label ε} {o : Op}
    (h : w.next l = some o) : ∃ K, D.permits K o ∧ ∀ f ∈ K, holds f w.shared := by
  unfold Pool.next at h
  split at h
  · rename_i hp
    cases h
    obtain ⟨K, hK, hholds⟩ := hD _ (List.mem_of_getElem? hp)
    exact ⟨K, hK.1, hholds⟩
  · cases h

/-- What is left of the programs after a step still follows the discipline. -/
theorem Follows.step (hsound : D.Sound m holds) {w : Pool Op Res σ} (hD : w.Follows D holds)
    (l : Label ε) : (w.step m l).Follows D holds := by
  rcases step_cases m w l with ⟨-, h⟩ | ⟨o, k, -, hp, h⟩
  · rw [h]; exact hD
  · rw [h]
    obtain ⟨K, hK, hholds⟩ := hD _ (List.mem_of_getElem? hp)
    intro p hmem
    rcases List.mem_or_eq_of_mem_set hmem with hold | rfl
    · obtain ⟨K', hK', hholds'⟩ := hD p hold
      exact ⟨K', hK', fun f hf => hsound.stable hK.1 hholds f (hholds' f hf)⟩
    · refine ⟨_, hK.2 _, fun f hf => ?_⟩
      rcases hf with hf | hf
      · exact hsound.stable hK.1 hholds f (hholds f hf)
      · exact hsound.learned hK.1 hholds f hf

/-- What is left of the programs after a run still follows the discipline. -/
theorem Follows.run (hsound : D.Sound m holds) {w : Pool Op Res σ} (hD : w.Follows D holds)
    (ls : List (Label ε)) : (w.run m ls).Follows D holds := by
  induction ls generalizing w with
  | nil => exact hD
  | cons l ls ih => exact ih (hD.step hsound l)

/-- **The run rule for a relation.** A reflexive and transitive relation that every
permitted operation establishes between the state before and the state after holds
between the two ends of every run that meets the condition. -/
theorem run_rel (hsound : D.Sound m holds) (R : σ → σ → Prop) (hrefl : ∀ s, R s s)
    (htrans : ∀ s t u, R s t → R t u → R s u)
    (hstep : ∀ e o s K, D.permits K o → (∀ f ∈ K, holds f s) → C e o s → R s (m.exec e o s).2)
    {w : Pool Op Res σ} {ls : List (Label ε)} (hD : w.Follows D holds) (hC : w.Meets m C ls) :
    R w.shared (w.run m ls).shared := by
  induction ls generalizing w with
  | nil => exact hrefl _
  | cons l ls ih =>
      have hone : R w.shared (w.step m l).shared := by
        rcases step_cases m w l with ⟨-, h⟩ | ⟨o, k, hn, -, h⟩
        · rw [h]; exact hrefl _
        · obtain ⟨K, hK, hholds⟩ := hD.next hn
          rw [h]; exact hstep _ _ _ K hK hholds (hC.1 o hn)
      exact htrans _ _ _ hone (ih (hD.step hsound l) hC.2)

end Pool

/-! ## Histories -/

namespace Pool

variable {γ : Type}

/-- What an observer has recorded after a schedule, who looks at every operation and at the
state in which it is performed. -/
def history (m : Machine Op Res σ ε) (record : ε → Op → σ → γ → γ) :
    γ → Pool Op Res σ → List (Label ε) → γ
  | g, _, [] => g
  | g, w, l :: ls =>
      history m record ((w.next l).elim g fun o => record l.env o w.shared g) (w.step m l) ls

variable {F : Type} {D : Discipline Op Res F} {m : Machine Op Res σ ε} {holds : F → σ → Prop}
  {C : ε → Op → σ → Prop} {record : ε → Op → σ → γ → γ}

/-- The record after one more operation. -/
theorem history_snoc {g : γ} {w : Pool Op Res σ} {ls : List (Label ε)} {l : Label ε} {o : Op}
    (h : (w.run m ls).next l = some o) :
    w.history m record g (ls ++ [l]) =
      record l.env o (w.run m ls).shared (w.history m record g ls) := by
  induction ls generalizing g w with
  | nil => exact congrArg (fun next : Option Op => next.elim g fun o => record l.env o w.shared g) h
  | cons l' ls ih => exact ih h

/-- What is read off a record is recorded itself. -/
theorem history_map {δ : Type} {f : γ → δ} {record' : ε → Op → σ → δ → δ}
    (h : ∀ e o s g, f (record e o s g) = record' e o s (f g)) (g : γ) (w : Pool Op Res σ)
    (ls : List (Label ε)) :
    f (w.history m record g ls) = w.history m record' (f g) ls := by
  induction ls generalizing g w with
  | nil => rfl
  | cons l ls ih =>
      unfold history
      rw [ih]
      cases w.next l with
      | none => rfl
      | some o => exact congrArg (fun d => (w.step m l).history m record' d ls) (h _ _ _ _)

/-- An invariant of state and history that every operation keeps, whoever performs it. -/
theorem history_preserves {I : σ → γ → Prop}
    (hstep : ∀ e o s g, I s g → I (m.exec e o s).2 (record e o s g)) {w : Pool Op Res σ} {g : γ}
    (h : I w.shared g) (ls : List (Label ε)) : I (w.run m ls).shared (w.history m record g ls) := by
  induction ls generalizing w g with
  | nil => exact h
  | cons l ls ih =>
      refine ih ?_
      rcases step_cases m w l with ⟨hn, hw⟩ | ⟨o, k, hn, -, hw⟩
      · rw [hw, hn]
        exact h
      · rw [hw, hn]
        exact hstep _ _ _ _ h

/-- **The run rule for an invariant of state and history.** -/
theorem history_inv (hsound : D.Sound m holds) (I : σ → γ → Prop)
    (hstep : ∀ e o s g K, D.permits K o → (∀ f ∈ K, holds f s) → C e o s → I s g →
      I (m.exec e o s).2 (record e o s g))
    {w : Pool Op Res σ} {ls : List (Label ε)} (hD : w.Follows D holds) (hC : w.Meets m C ls)
    {g : γ} (h : I w.shared g) : I (w.run m ls).shared (w.history m record g ls) := by
  induction ls generalizing w g with
  | nil => exact h
  | cons l ls ih =>
      refine ih (hD.step hsound l) hC.2 ?_
      rcases step_cases m w l with ⟨hn, hw⟩ | ⟨o, k, hn, -, hw⟩
      · rw [hw, hn]; exact h
      · obtain ⟨K, hK, hholds⟩ := hD.next hn
        rw [hw, hn]
        exact hstep _ _ _ _ K hK hholds (hC.1 o hn) h

end Pool

end SolanaBot.Library
