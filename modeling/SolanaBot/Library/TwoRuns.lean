import SolanaBot.Library.Traces
import SolanaBot.Library.Turns

/-!
# Two runs of a program

Two runs agree from related states if they perform the same operations, get the same answers, and end
in related states (`Prog.Agree`): what the relation leaves open has no influence on the run. The
related states may be shared ones and local ones (`AgreeS`).

There is one rule per combinator. An operation agrees with itself if its answer does not depend on what
the relation leaves open and its effect keeps the relation; a program whose operations do so agrees with
itself (`agree_of_performs`).
-/

set_option autoImplicit false

namespace SolanaBot.Library

variable {Op : Type} {Res : Op → Type} {σ ε α β : Type}

namespace Prog

section Agree

variable (m : Machine Op Res σ ε) (env : ℕ → ε) (r : σ → σ → Prop)

/-- The operations of a run with their answers. -/
def exchanges (p : Prog Op Res α) (i : ℕ) (s : σ) : List (Exchange Op Res) :=
  recorded m env (fun e o s => [⟨o, (m.exec e o s).1⟩]) p i s

/-- From related states, two programs perform the same operations with the same answers, and end in
related states with related results. -/
def Agree {α' : Type} (rel : α → α' → Prop) (p : Prog Op Res α) (q : Prog Op Res α') : Prop :=
  ∀ i s s', r s s' → p.exchanges m env i s = q.exchanges m env i s' ∧
    rel (p.run m env i s).1 (q.run m env i s').1 ∧
    r (p.run m env i s).2.1 (q.run m env i s').2.1 ∧
    (p.run m env i s).2.2 = (q.run m env i s').2.2

/-- The answer of the operation does not depend on what the relation leaves open, and its effect keeps
the relation. -/
def Blind (o : Op) : Prop :=
  ∀ i s s', r s s' → (m.exec (env i) o s).1 = (m.exec (env i) o s').1 ∧
    r (m.exec (env i) o s).2 (m.exec (env i) o s').2

variable {m env r}

/-- The exchanges of two parts, one after the other. -/
theorem exchanges_bind (p : Prog Op Res α) (f : α → Prog Op Res β) (i : ℕ) (s : σ) :
    (p >>= f).exchanges m env i s = p.exchanges m env i s ++
      (f (p.run m env i s).1).exchanges m env (p.run m env i s).2.2 (p.run m env i s).2.1 :=
  recorded_bind p f i s

/-- Two values that are related agree. -/
theorem agree_done {α' : Type} {rel : α → α' → Prop} {a : α} {a' : α'} (h : rel a a') :
    Agree m env r rel (Prog.done a : Prog Op Res α) (Prog.done a') :=
  fun _ _ _ hs => ⟨rfl, h, hs, rfl⟩

/-- Two programs agree if both parts do. -/
theorem agree_bind {α' β' : Type} {v : α → α' → Prop} {v' : β → β' → Prop} {p : Prog Op Res α}
    {q : Prog Op Res α'} {f : α → Prog Op Res β} {g : α' → Prog Op Res β'}
    (hp : Agree m env r v p q) (hf : ∀ a a', v a a' → Agree m env r v' (f a) (g a')) :
    Agree m env r v' (p >>= f) (q >>= g) := by
  intro i s s' hs
  obtain ⟨hseen, hrel, hend, hindex⟩ := hp i s s' hs
  obtain ⟨hseen', hrel', hend', hindex'⟩ := hf _ _ hrel (p.run m env i s).2.2 _ _ hend
  rw [hindex] at hseen' hrel' hend' hindex'
  rw [exchanges_bind, exchanges_bind, run_bind, run_bind, hseen, hindex, hseen']
  exact ⟨rfl, hrel', hend', hindex'⟩

/-- A program of blind operations agrees with itself. -/
theorem agree_of_performs {p : Prog Op Res α} (hp : p.Performs (Blind m env r)) :
    Agree m env r Eq p p := by
  intro i s s' hs
  induction p generalizing i s s' with
  | done a => exact ⟨rfl, rfl, hs, rfl⟩
  | call o k ih =>
      obtain ⟨hanswer, hs'⟩ := hp.1 i s s' hs
      obtain ⟨hseen, hrel, hend, hindex⟩ := ih _ (hp.2 _) (i + 1) _ _ hs'
      change [Exchange.mk o _] ++ exchanges m env (k _) _ _ = [Exchange.mk o _] ++ exchanges m env (k _) _ _ ∧
        (Prog.run m env (k _) _ _).1 = (Prog.run m env (k _) _ _).1 ∧
        r (Prog.run m env (k _) _ _).2.1 (Prog.run m env (k _) _ _).2.1 ∧
        (Prog.run m env (k _) _ _).2.2 = (Prog.run m env (k _) _ _).2.2
      rw [← hanswer]
      exact ⟨congrArg _ hseen, hrel, hend, hindex⟩

end Agree

/-! ## Programs with a local state -/

section Stateful

variable {ς δ : Type} (m : Machine Op Res σ ε) (env : ℕ → ε) (r : σ → σ → Prop) (rl : ς → ς → Prop)

/-- From related local and shared states, two programs perform the same operations with the same
answers, and end with the same result in related states. -/
def AgreeS (p q : Stateful Op Res ς δ α) : Prop :=
  ∀ l l', rl l l' → Agree m env r (fun x y => x.1 = y.1 ∧ rl x.2 y.2) ((ExceptT.run p).run l)
    ((ExceptT.run q).run l')

variable {m env r rl}

/-- A value agrees with itself. -/
theorem agreeS_pure (a : α) : AgreeS m env r rl (pure a : Stateful Op Res ς δ α) (pure a) :=
  fun _ _ hl => agree_done ⟨rfl, hl⟩

/-- An error agrees with itself. -/
theorem agreeS_throw (e : δ) : AgreeS m env r rl (throw e : Stateful Op Res ς δ α) (throw e) :=
  fun _ _ hl => agree_done ⟨rfl, hl⟩

/-- Two changes that keep the relation agree. -/
theorem agreeS_modify {g g' : ς → ς} (h : ∀ l l', rl l l' → rl (g l) (g' l')) :
    AgreeS m env r rl (modify g : Stateful Op Res ς δ PUnit) (modify g') :=
  fun _ _ hl => agree_done ⟨rfl, h _ _ hl⟩

/-- What is read may differ as far as the relation allows. -/
theorem agreeS_get_bind {f g : ς → Stateful Op Res ς δ β}
    (h : ∀ l l', rl l l' → AgreeS m env r rl (f l) (g l')) :
    AgreeS m env r rl (get >>= f) (get >>= g) :=
  fun l l' hl => h l l' hl l l' hl

/-- Two programs with local variables agree if both parts do. -/
theorem agreeS_bind {p q : Stateful Op Res ς δ α} {f g : α → Stateful Op Res ς δ β}
    (hp : AgreeS m env r rl p q) (hf : ∀ a, AgreeS m env r rl (f a) (g a)) :
    AgreeS m env r rl (p >>= f) (q >>= g) := by
  refine fun l l' hl => agree_bind (hp l l' hl) fun x y hxy => ?_
  obtain ⟨x, lx⟩ := x
  obtain ⟨y, ly⟩ := y
  obtain ⟨hresult, hlocal⟩ := hxy
  dsimp only at hresult hlocal
  subst hresult
  cases x with
  | ok a => exact hf a lx ly hlocal
  | error e => exact agree_done ⟨rfl, hlocal⟩

/-- A program that is blind to the difference agrees with itself. -/
theorem agreeS_lift {t : Prog Op Res α} (ht : t.Performs (Blind m env r)) :
    AgreeS m env r rl (monadLift t : Stateful Op Res ς δ α) (monadLift t) := by
  intro l l' hl
  refine agree_bind (v := fun x y => x.1 = y.1 ∧ rl x.2 y.2)
    (agree_bind (agree_of_performs ht) fun a a' ha => ?_) fun x y hxy => ?_
  · subst ha
    exact agree_done ⟨rfl, hl⟩
  · obtain ⟨x, lx⟩ := x
    obtain ⟨y, ly⟩ := y
    obtain ⟨hresult, hlocal⟩ := hxy
    dsimp only at hresult hlocal
    subst hresult
    exact agree_done ⟨rfl, hlocal⟩

/-- A loop agrees with itself if its turns do. -/
theorem agreeS_foldlM {f : β → α → Stateful Op Res ς δ β} (as : List α)
    (h : ∀ b a, AgreeS m env r rl (f b a) (f b a)) (b : β) :
    AgreeS m env r rl (as.foldlM f b) (as.foldlM f b) := by
  induction as generalizing b with
  | nil => exact agreeS_pure b
  | cons a as ih =>
      rw [List.foldlM_cons]
      exact agreeS_bind (h b a) ih

end Stateful

end Prog

end SolanaBot.Library
