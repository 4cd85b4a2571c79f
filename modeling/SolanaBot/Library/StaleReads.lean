import SolanaBot.Library.Interleaving

/-!
# Programs that act on what they have read

A program that looks at a shared state and acts on it later acts on what it has *read*, and the state
may have moved on. A `Memory` says what a program keeps of the answers to its own operations, and which
operations go with what it keeps: `Prog.Recalls A mem p` says that the program `p`, remembering `mem`,
performs only operations that its memory at that point allows, whatever answers it gets.

An observer of a pool has a `View` of each program: its memory, and a note of what all programs have
done since. `Pool.MeetsViews` asks something of every step that may depend on the view of the program
that takes it; `views_inv` is the rule for an invariant of the state and the views, and
`meetsViews_congr` the rule by which two such conditions are compared.
-/

set_option autoImplicit false

namespace SolanaBot.Library

variable {Op : Type} {Res : Op → Type} {M W σ ε α β : Type}

/-- What a program keeps of the answers to its operations, and what it may perform with it. -/
structure Memory (Op : Type) (Res : Op → Type) (M : Type) where
  keeps : (o : Op) → Res o → M → M
  allows : M → Op → Prop

namespace Memory

variable (A : Memory Op Res M)

/-- The operation is allowed whatever is remembered. -/
def Free (o : Op) : Prop := ∀ mem, A.allows mem o

/-- The operation goes with the memory and leaves it as it is. -/
def Steady (mem : M) (o : Op) : Prop := A.allows mem o ∧ ∀ r, A.keeps o r mem = mem

end Memory

/-! ## One program -/

namespace Prog

variable {A : Memory Op Res M} {mem : M}

/-- Every operation of the program is allowed by what the program remembers at that point. -/
def Recalls (A : Memory Op Res M) : M → Prog Op Res α → Prop
  | _, .done _ => True
  | mem, .call o k => A.allows mem o ∧ ∀ r, (k r).Recalls A (A.keeps o r mem)

/-- A finished program asks for nothing. -/
@[simp] theorem recalls_done (a : α) : (Prog.done a : Prog Op Res α).Recalls A mem := trivial

/-- A program of operations that are always allowed needs no memory. -/
theorem recalls_of_performs {p : Prog Op Res α} (h : p.Performs A.Free) (mem : M) :
    p.Recalls A mem := by
  induction p generalizing mem with
  | done a => trivial
  | call o k ih => exact ⟨h.1 mem, fun r => ih r (h.2 r) _⟩

/-- A program of operations that go with the memory and leave it as it is. -/
theorem recalls_of_steady {p : Prog Op Res α} (h : p.Performs (A.Steady mem)) :
    p.Recalls A mem := by
  induction p with
  | done a => trivial
  | call o k ih =>
      refine ⟨h.1.1, fun r => ?_⟩
      rw [h.1.2 r]
      exact ih r (h.2 r)

/-- A sequence that starts with one operation: the rest remembers its answer. -/
theorem recalls_perform_bind {o : Op} {f : Res o → Prog Op Res β} (ho : A.allows mem o)
    (hf : ∀ r, (f r).Recalls A (A.keeps o r mem)) : (perform o >>= f).Recalls A mem :=
  ⟨ho, hf⟩

/-- A sequence whose second part needs nothing of what the first has read. -/
theorem recalls_bind {p : Prog Op Res α} {f : α → Prog Op Res β} (hp : p.Recalls A mem)
    (hf : ∀ a mem, (f a).Recalls A mem) : (p >>= f).Recalls A mem := by
  induction p generalizing mem with
  | done a => exact hf a mem
  | call o k ih => exact ⟨hp.1, fun r => ih r (hp.2 r)⟩

section Stateful

variable {ς δ : Type}

/-- `Recalls` for a program with a local state, from every local state. -/
def RecallsS (A : Memory Op Res M) (mem : M) (p : Stateful Op Res ς δ α) : Prop :=
  ∀ l, ((ExceptT.run p).run l).Recalls A mem

/-- A part of operations that are always allowed needs no memory. -/
theorem recallsS_of_performs {p : Stateful Op Res ς δ α} (h : PerformsS A.Free p) (mem : M) :
    RecallsS A mem p := fun l => recalls_of_performs (h l) mem

/-- A part of operations that go with the memory and leave it as it is. -/
theorem recallsS_of_steady {p : Stateful Op Res ς δ α} (h : PerformsS (A.Steady mem) p) :
    RecallsS A mem p := fun l => recalls_of_steady (h l)

/-- A part without local state. -/
theorem recallsS_lift {p : Prog Op Res α} (hp : p.Recalls A mem) :
    RecallsS A mem (monadLift p : Stateful Op Res ς δ α) :=
  fun _ => recalls_bind (recalls_bind hp fun _ _ => trivial) fun _ _ => trivial

/-- A part that starts with one operation: the rest remembers its answer. -/
theorem recallsS_lift_perform_bind {o : Op} {f : Res o → Stateful Op Res ς δ β}
    (ho : A.allows mem o) (hf : ∀ r, RecallsS A (A.keeps o r mem) (f r)) :
    RecallsS A mem ((monadLift (perform o : Prog Op Res (Res o)) : Stateful Op Res ς δ (Res o)) >>= f) :=
  fun l => ⟨ho, fun r => hf r l⟩

/-- A sequence whose second part needs nothing of what the first has read. -/
theorem recallsS_bind {p : Stateful Op Res ς δ α} {f : α → Stateful Op Res ς δ β}
    (hp : RecallsS A mem p) (hf : ∀ a mem, RecallsS A mem (f a)) : RecallsS A mem (p >>= f) := by
  intro l
  refine recalls_bind (hp l) fun x mem => ?_
  obtain ⟨a, l⟩ := x
  cases a with
  | ok a => exact hf a mem l
  | error e => trivial

/-- The loop rule: the turns need nothing of what the others have read. -/
theorem recallsS_foldlM {f : β → α → Stateful Op Res ς δ β} (as : List α)
    (h : ∀ b a mem, RecallsS A mem (f b a)) (b : β) (mem : M) : RecallsS A mem (as.foldlM f b) := by
  induction as generalizing b mem with
  | nil => exact fun _ => trivial
  | cons a as ih =>
      rw [List.foldlM_cons]
      exact recallsS_bind (h b a mem) ih

end Stateful

end Prog

/-! ## Views -/

/-- What an observer knows of a program: what it remembers, and what has happened since. -/
structure View (M W : Type) where
  memory : M
  since : W

/-- A memory together with the notes that an observer takes for each program: at the operations of
the program itself, and at those of the others. -/
structure Watch (Op : Type) (Res : Op → Type) (M W σ ε : Type) extends Memory Op Res M where
  own : ε → Op → σ → W → W
  others : ε → Op → σ → W → W

namespace Watch

variable (A : Watch Op Res M W σ ε) (m : Machine Op Res σ ε)

/-- The views after an operation of the program `i`. -/
def after (i : ℕ) (e : ε) (o : Op) (s : σ) (v : ℕ → View M W) (j : ℕ) : View M W :=
  if j = i then ⟨A.keeps o (m.exec e o s).1 (v j).memory, A.own e o s (v j).since⟩
  else ⟨(v j).memory, A.others e o s (v j).since⟩

variable {A m}

/-- The view of the program that has moved. -/
theorem after_own (i : ℕ) (e : ε) (o : Op) (s : σ) (v : ℕ → View M W) :
    A.after m i e o s v i =
      ⟨A.keeps o (m.exec e o s).1 (v i).memory, A.own e o s (v i).since⟩ := if_pos rfl

/-- The view of a program that has not moved. -/
theorem after_others {i j : ℕ} (h : j ≠ i) (e : ε) (o : Op) (s : σ) (v : ℕ → View M W) :
    A.after m i e o s v j = ⟨(v j).memory, A.others e o s (v j).since⟩ := if_neg h

end Watch

namespace Pool

variable (A : Watch Op Res M W σ ε) (m : Machine Op Res σ ε)

/-- The views after one step. -/
def viewsStep (v : ℕ → View M W) (w : Pool Op Res σ) (l : Label ε) : ℕ → View M W :=
  (w.next l).elim v fun o => A.after m l.proc l.env o w.shared v

/-- The views after a schedule. -/
def views : (ℕ → View M W) → Pool Op Res σ → List (Label ε) → ℕ → View M W
  | v, _, [] => v
  | v, w, l :: ls => views (w.viewsStep A m v l) (w.step m l) ls

/-- Every operation performed along the schedule meets the condition `C` in the state in which it is
performed and the view of the program that performs it. -/
def MeetsViews (C : ε → Op → σ → View M W → Prop) :
    (ℕ → View M W) → Pool Op Res σ → List (Label ε) → Prop
  | _, _, [] => True
  | v, w, l :: ls =>
      (∀ o ∈ w.next l, C l.env o w.shared (v l.proc)) ∧
        MeetsViews C (w.viewsStep A m v l) (w.step m l) ls

/-- Whether a run meets a condition on what was read can be evaluated. -/
instance decidableMeetsViews (C : ε → Op → σ → View M W → Prop)
    [∀ e o s v, Decidable (C e o s v)] (v : ℕ → View M W) (w : Pool Op Res σ) (ls : List (Label ε)) :
    Decidable (MeetsViews A m C v w ls) :=
  match ls with
  | [] => .isTrue trivial
  | l :: ls =>
      have := decidableMeetsViews C (w.viewsStep A m v l) (w.step m l) ls
      inferInstanceAs (Decidable (_ ∧ _))

variable {A m}

/-- A condition that does not look at the views is met with or without them. -/
theorem meetsViews_iff_meets {C : ε → Op → σ → Prop} {v : ℕ → View M W} {w : Pool Op Res σ}
    {ls : List (Label ε)} :
    MeetsViews A m (fun e o s _ => C e o s) v w ls ↔ w.Meets m C ls := by
  induction ls generalizing v w with
  | nil => exact Iff.rfl
  | cons l ls ih => exact and_congr Iff.rfl ih

/-- Two conditions that are met are met together. -/
theorem MeetsViews.and {C D : ε → Op → σ → View M W → Prop} {v : ℕ → View M W} {w : Pool Op Res σ}
    {ls : List (Label ε)} (h : MeetsViews A m C v w ls) (h' : MeetsViews A m D v w ls) :
    MeetsViews A m (fun e o s x => C e o s x ∧ D e o s x) v w ls := by
  induction ls generalizing v w with
  | nil => trivial
  | cons l ls ih => exact ⟨fun o ho => ⟨h.1 o ho, h'.1 o ho⟩, ih h.2 h'.2⟩

/-- Every program recalls what its view says that it remembers. -/
def Recalls (A : Watch Op Res M W σ ε) (v : ℕ → View M W) (w : Pool Op Res σ) : Prop :=
  ∀ i p, w.procs[i]? = some p → Prog.Recalls A.toMemory (v i).memory p

/-- The operation about to be performed goes with what its program remembers. -/
theorem Recalls.next {v : ℕ → View M W} {w : Pool Op Res σ} (h : Recalls A v w) {l : Label ε}
    {o : Op} (ho : w.next l = some o) : A.allows (v l.proc).memory o := by
  unfold Pool.next at ho
  split at ho
  · rename_i k hp
    cases ho
    exact (h l.proc _ hp).1
  · cases ho

/-- What is left of the programs recalls what they remember after a step. -/
theorem Recalls.step {v : ℕ → View M W} {w : Pool Op Res σ} (h : Recalls A v w) (l : Label ε) :
    Recalls A (w.viewsStep A m v l) (w.step m l) := by
  unfold viewsStep
  rcases step_cases m w l with ⟨hn, hstep⟩ | ⟨o, k, hn, hp, hstep⟩
  · rw [hn, hstep]
    exact h
  · rw [hn, hstep]
    intro j p hj
    by_cases hij : j = l.proc
    · subst hij
      obtain ⟨hlt, -⟩ := List.getElem?_eq_some_iff.mp hp
      rw [List.getElem?_set_self hlt, Option.some.injEq] at hj
      subst hj
      show Prog.Recalls _ (A.after m l.proc l.env o w.shared v l.proc).memory _
      rw [Watch.after_own]
      exact (h l.proc _ hp).2 _
    · rw [List.getElem?_set_ne (Ne.symm hij)] at hj
      show Prog.Recalls _ (A.after m l.proc l.env o w.shared v j).memory _
      rw [Watch.after_others hij]
      exact h j p hj

section Rules

variable {F : Type} {D : Discipline Op Res F} {holds : F → σ → Prop}
  {C C' : ε → Op → σ → View M W → Prop} {I : σ → (ℕ → View M W) → Prop}

/-- **The run rule for an invariant of the state and the views.** It is enough that every step keeps
it that is permitted, goes with what its program remembers, and meets the condition. -/
theorem views_inv (hsound : D.Sound m holds)
    (hstep : ∀ i e o s v K, D.permits K o → (∀ f ∈ K, holds f s) → A.allows (v i).memory o →
      C e o s (v i) → I s v → I (m.exec e o s).2 (A.after m i e o s v))
    {v : ℕ → View M W} {w : Pool Op Res σ} {ls : List (Label ε)} (hD : w.Follows D holds)
    (hA : Recalls A v w) (hC : MeetsViews A m C v w ls) (h : I w.shared v) :
    I (w.run m ls).shared (w.views A m v ls) := by
  induction ls generalizing v w with
  | nil => exact h
  | cons l ls ih =>
      refine ih (hD.step hsound l) (hA.step l) hC.2 ?_
      unfold viewsStep
      rcases step_cases m w l with ⟨hn, hw⟩ | ⟨o, k, hn, -, hw⟩
      · rw [hn, hw]
        exact h
      · obtain ⟨K, hK, hholds⟩ := hD.next hn
        rw [hn, hw]
        exact hstep _ _ _ _ _ K hK hholds (hA.next hn) (hC.1 o hn) h

/-- **Two conditions are met by the same runs** if an invariant of all runs makes them agree at every
step that goes with what its program remembers. -/
theorem meetsViews_congr (hsound : D.Sound m holds)
    (hstep : ∀ i e o s v K, D.permits K o → (∀ f ∈ K, holds f s) → A.allows (v i).memory o →
      I s v → I (m.exec e o s).2 (A.after m i e o s v))
    (hagree : ∀ i e o s v K, D.permits K o → (∀ f ∈ K, holds f s) → A.allows (v i).memory o →
      I s v → (C e o s (v i) ↔ C' e o s (v i)))
    {v : ℕ → View M W} {w : Pool Op Res σ} (hD : w.Follows D holds) (hA : Recalls A v w)
    (h : I w.shared v) (ls : List (Label ε)) :
    MeetsViews A m C v w ls ↔ MeetsViews A m C' v w ls := by
  induction ls generalizing v w with
  | nil => exact Iff.rfl
  | cons l ls ih =>
      have hnext : I (w.step m l).shared (w.viewsStep A m v l) := by
        unfold viewsStep
        rcases step_cases m w l with ⟨hn, hw⟩ | ⟨o, k, hn, -, hw⟩
        · rw [hn, hw]
          exact h
        · obtain ⟨K, hK, hholds⟩ := hD.next hn
          rw [hn, hw]
          exact hstep _ _ _ _ _ K hK hholds (hA.next hn) h
      refine and_congr ?_ (ih (hD.step hsound l) (hA.step l) hnext)
      refine forall₂_congr fun o ho => ?_
      obtain ⟨K, hK, hholds⟩ := hD.next ho
      exact hagree _ _ _ _ _ K hK hholds (hA.next ho) h

end Rules

end Pool

end SolanaBot.Library
