import SolanaBot.Library.Resumption

/-!
# Pre- and postconditions of programs among others

`Machine.among m` runs a program among others: before each of its operations the others change
the shared state. What they do is part of the environment, so a statement about every
environment is a statement about every interleaving.

`Prog.Always` says that every operation of a run meets a condition. `Triple` is about programs
with a local state: started in a state with the precondition, as long as the steps meet what is
relied on, every step gives what is guaranteed, and the run ends in a state with the
postcondition. There is one rule per combinator; a program that performs operations of a known
kind keeps what these operations keep (`task_of_performs`).
-/

set_option autoImplicit false

namespace SolanaBot.Library

variable {Op : Type} {Res : Op → Type} {σ ε α β : Type}

/-- A program among others, who change the state before each of its operations. -/
def Machine.among (m : Machine Op Res σ ε) : Machine Op Res σ (ε × (σ → σ)) where
  exec e o s := m.exec e.1 o (e.2 s)

/-- Among others an operation meets the state that they have made. -/
@[simp] theorem Machine.among_exec (m : Machine Op Res σ ε) (e : ε × (σ → σ)) (o : Op) (s : σ) :
    m.among.exec e o s = m.exec e.1 o (e.2 s) := rfl

namespace Prog

section Always

variable (m : Machine Op Res σ ε) (env : ℕ → ε) (C : ε → Op → σ → Prop)

/-- Every operation of the run meets the condition, with its environment and in its state. -/
def Always : Prog Op Res α → ℕ → σ → Prop
  | .done _, _, _ => True
  | .call o k, i, s =>
      C (env i) o s ∧ (k (m.exec (env i) o s).1).Always (i + 1) (m.exec (env i) o s).2

variable {m env C}

/-- A program that is done performs nothing that could break the condition. -/
@[simp] theorem always_done (a : α) (i : ℕ) (s : σ) :
    (Prog.done a : Prog Op Res α).Always m env C i s := trivial

/-- A condition holds throughout a program if it holds throughout both parts. -/
theorem always_bind {p : Prog Op Res α} {f : α → Prog Op Res β} {i : ℕ} {s : σ} :
    (p >>= f).Always m env C i s ↔ p.Always m env C i s ∧
      (f (p.run m env i s).1).Always m env C (p.run m env i s).2.2 (p.run m env i s).2.1 := by
  induction p generalizing i s with
  | done a => exact (iff_of_eq (true_and _)).symm
  | call o k ih =>
      change C _ _ _ ∧ (k _ >>= f).Always m env C _ _ ↔ (C _ _ _ ∧ (k _).Always m env C _ _) ∧ _
      rw [ih, and_assoc]
      rfl

/-- A weaker condition holds throughout as well. -/
theorem Always.mono {C' : ε → Op → σ → Prop} (hC : ∀ e o s, C e o s → C' e o s)
    {p : Prog Op Res α} {i : ℕ} {s : σ} (h : p.Always m env C i s) : p.Always m env C' i s := by
  induction p generalizing i s with
  | done a => trivial
  | call o k ih => exact ⟨hC _ _ _ h.1, ih _ h.2⟩

/-- Two conditions that hold throughout hold together. -/
theorem Always.and {C' : ε → Op → σ → Prop} {p : Prog Op Res α} {i : ℕ} {s : σ}
    (h : p.Always m env C i s) (h' : p.Always m env C' i s) :
    p.Always m env (fun e o s => C e o s ∧ C' e o s) i s := by
  induction p generalizing i s with
  | done a => trivial
  | call o k ih => exact ⟨⟨h.1, h'.1⟩, ih _ h.2 h'.2⟩

/-- A condition that every operation meets holds throughout. -/
theorem always_of_forall (h : ∀ e o s, C e o s) (p : Prog Op Res α) (i : ℕ) (s : σ) :
    p.Always m env C i s := by
  induction p generalizing i s with
  | done a => trivial
  | call o k ih => exact ⟨h _ _ _, ih _ _ _⟩

/-- A condition on the operations of a kind holds throughout a program of that kind. -/
theorem always_of_performs {S : Op → Prop} {p : Prog Op Res α} (hp : p.Performs S)
    (h : ∀ e o s, S o → C e o s) (i : ℕ) (s : σ) : p.Always m env C i s := by
  induction p generalizing i s with
  | done a => trivial
  | call o k ih => exact ⟨h _ _ _ hp.1, ih _ (hp.2 _) _ _⟩

/-- A condition throughout a run can be evaluated. -/
instance decidableAlways [∀ e o s, Decidable (C e o s)] (p : Prog Op Res α) (i : ℕ) (s : σ) :
    Decidable (p.Always m env C i s) :=
  match p with
  | .done _ => .isTrue trivial
  | .call o k =>
      have := decidableAlways (k (m.exec (env i) o s).1) (i + 1) (m.exec (env i) o s).2
      inferInstanceAs (Decidable (_ ∧ _))

end Always

/-! ## Programs without a local state -/

section Tasks

variable (m : Machine Op Res σ ε) (env : ℕ → ε) (R G : ε → Op → σ → Prop)

/-- Started with `P`, and if every step meets `R`, every step meets `G` and the end `Q`. -/
def TaskTriple (P : σ → Prop) (t : Prog Op Res α) (Q : α → σ → Prop) : Prop :=
  ∀ i s, P s → t.Always m env R i s →
    t.Always m env G i s ∧ Q (t.run m env i s).1 (t.run m env i s).2.1

variable {m env R G} {P P' : σ → Prop} {Q Q' : α → σ → Prop}

/-- The rule for a program that is done. -/
theorem task_done {a : α} (h : ∀ s, P s → Q a s) :
    TaskTriple m env R G P (Prog.done a : Prog Op Res α) Q :=
  fun _ s hs _ => ⟨trivial, h s hs⟩

/-- The rule for one operation: it meets the guarantee and reaches the postcondition. -/
theorem task_perform {o : Op} {Q : Res o → σ → Prop}
    (h : ∀ i s, P s → R (env i) o s →
      G (env i) o s ∧ Q (m.exec (env i) o s).1 (m.exec (env i) o s).2) :
    TaskTriple m env R G P (perform o) Q :=
  fun i s hs hR => ⟨⟨(h i s hs hR.1).1, trivial⟩, (h i s hs hR.1).2⟩

/-- The rule for one program after another. -/
theorem task_bind {t : Prog Op Res α} {f : α → Prog Op Res β} {M : α → σ → Prop}
    {Q : β → σ → Prop} (ht : TaskTriple m env R G P t M)
    (hf : ∀ a, TaskTriple m env R G (M a) (f a) Q) : TaskTriple m env R G P (t >>= f) Q := by
  intro i s hs hR
  obtain ⟨hR, hR'⟩ := always_bind.mp hR
  obtain ⟨hG, hM⟩ := ht i s hs hR
  obtain ⟨hG', hQ⟩ := hf _ _ _ hM hR'
  rw [run_bind]
  exact ⟨always_bind.mpr ⟨hG, hG'⟩, hQ⟩

/-- The rule of consequence. -/
theorem TaskTriple.conseq {t : Prog Op Res α} (h : TaskTriple m env R G P t Q)
    (hP : ∀ s, P' s → P s) (hQ : ∀ a s, Q a s → Q' a s) : TaskTriple m env R G P' t Q' :=
  fun i s hs hR => ⟨(h i s (hP s hs) hR).1, hQ _ _ (h i s (hP s hs) hR).2⟩

/-- A fact that does not depend on the state. -/
theorem task_of_fact {φ : Prop} {t : Prog Op Res α} (h : φ → TaskTriple m env R G P t Q) :
    TaskTriple m env R G (fun s => P s ∧ φ) t Q :=
  fun i s hs => h hs.2 i s hs.1

/-- A program keeps what the operations that it may perform keep. -/
theorem task_of_performs {S : Op → Prop} {I : σ → Prop} {t : Prog Op Res α} (ht : t.Performs S)
    (h : ∀ i o s, S o → R (env i) o s → I s → G (env i) o s ∧ I (m.exec (env i) o s).2) :
    TaskTriple m env R G I t fun _ => I := by
  intro i s hs hR
  induction t generalizing i s with
  | done a => exact ⟨trivial, hs⟩
  | call o k ih =>
      obtain ⟨hG, hI⟩ := h i o s ht.1 hR.1 hs
      obtain ⟨hG', hI'⟩ := ih _ (ht.2 _) (i + 1) _ hI hR.2
      exact ⟨⟨hG, hG'⟩, hI'⟩

/-- What every operation keeps is kept by every program. -/
theorem task_of_ops {I : σ → Prop} (t : Prog Op Res α)
    (h : ∀ i o s, R (env i) o s → I s → G (env i) o s ∧ I (m.exec (env i) o s).2) :
    TaskTriple m env R G I t fun _ => I :=
  task_of_performs (performs_true t) fun i o s _ => h i o s

end Tasks

/-! ## Programs with a local state -/

section Stateful

variable {ς δ : Type} (m : Machine Op Res σ ε) (env : ℕ → ε) (R G : ε → Op → σ → Prop)

/-- `Always` for a program with a local state. -/
def AlwaysS (C : ε → Op → σ → Prop) (p : Stateful Op Res ς δ α) (i : ℕ) (l : ς) (s : σ) : Prop :=
  ((ExceptT.run p).run l).Always m env C i s

/-- Started with `P`, and if every step meets `R`, every step meets `G`, and the end meets `Q`, or
`E` after an error. -/
def Triple (P : ς → σ → Prop) (p : Stateful Op Res ς δ α) (Q : α → ς → σ → Prop)
    (E : ς → σ → Prop) : Prop :=
  ∀ i l s, P l s → AlwaysS m env R p i l s → AlwaysS m env G p i l s ∧
    match runS m env p i l s with
    | ((.ok a, l'), s', _) => Q a l' s'
    | ((.error _, l'), s', _) => E l' s'

variable {m env R G} {C : ε → Op → σ → Prop} {P P' : ς → σ → Prop} {Q Q' : α → ς → σ → Prop}
  {E E' : ς → σ → Prop}

/-- A condition holds throughout both parts, the second of which runs after a value only. -/
theorem alwaysS_bind {p : Stateful Op Res ς δ α} {f : α → Stateful Op Res ς δ β} {i : ℕ} {l : ς}
    {s : σ} :
    AlwaysS m env C (p >>= f) i l s ↔ AlwaysS m env C p i l s ∧
      match runS m env p i l s with
      | ((.ok a, l'), s', i') => AlwaysS m env C (f a) i' l' s'
      | ((.error _, _), _, _) => True := by
  refine always_bind.trans (and_congr_right fun _ => ?_)
  change Always m env C (match (Prog.run m env ((ExceptT.run p).run l) i s).1 with
    | (a, l') => ExceptT.bindCont f a l') (Prog.run m env ((ExceptT.run p).run l) i s).2.2
      (Prog.run m env ((ExceptT.run p).run l) i s).2.1 ↔ _
  unfold runS
  rcases Prog.run m env ((ExceptT.run p).run l) i s with ⟨⟨r, l'⟩, s', i'⟩
  cases r <;> exact Iff.rfl

/-- A condition holds throughout a program as one with local variables. -/
theorem alwaysS_lift {t : Prog Op Res α} {i : ℕ} {l : ς} {s : σ} :
    AlwaysS m env C (monadLift t : Stateful Op Res ς δ α) i l s ↔ t.Always m env C i s :=
  ⟨fun h => (always_bind.mp (always_bind.mp h).1).1,
    fun h => always_bind.mpr ⟨always_bind.mpr ⟨h, trivial⟩, trivial⟩⟩

/-- What holds at the end of a run, after an error or not. -/
theorem Triple.ends {p : Stateful Op Res ς δ α} {I : ς → σ → Prop}
    (h : Triple m env R G P p (fun _ => I) I) {i : ℕ} {l : ς} {s : σ} (hs : P l s)
    (hR : AlwaysS m env R p i l s) :
    I (runS m env p i l s).1.2 (runS m env p i l s).2.1 := by
  obtain ⟨-, hend⟩ := h i l s hs hR
  rcases hrun : runS m env p i l s with ⟨⟨r, l'⟩, s', i'⟩
  rw [hrun] at hend
  cases r <;> exact hend

/-- What holds at the end of a run without an error. -/
theorem Triple.of_ok {p : Stateful Op Res ς δ α} (h : Triple m env R G P p Q E) {i : ℕ} {l : ς}
    {s : σ} (hs : P l s) (hR : AlwaysS m env R p i l s) {a : α}
    (hok : (runS m env p i l s).1.1 = .ok a) :
    Q a (runS m env p i l s).1.2 (runS m env p i l s).2.1 := by
  obtain ⟨-, hend⟩ := h i l s hs hR
  rcases hrun : runS m env p i l s with ⟨⟨r, l'⟩, s', i'⟩
  rw [hrun] at hend hok
  cases hok
  exact hend

/-- The rule for a value. -/
theorem triple_pure {a : α} (h : ∀ l s, P l s → Q a l s) :
    Triple m env R G P (pure a : Stateful Op Res ς δ α) Q E :=
  fun _ l s hs _ => ⟨trivial, h l s hs⟩

/-- The rule for an error. -/
theorem triple_throw {e : δ} (h : ∀ l s, P l s → E l s) :
    Triple m env R G P (throw e : Stateful Op Res ς δ α) Q E :=
  fun _ l s hs _ => ⟨trivial, h l s hs⟩

/-- The rule for reading the local variables. -/
theorem triple_get {Q : ς → ς → σ → Prop} (h : ∀ l s, P l s → Q l l s) :
    Triple m env R G P (get : Stateful Op Res ς δ ς) Q E :=
  fun _ l s hs _ => ⟨trivial, h l s hs⟩

/-- The rule for changing the local variables. -/
theorem triple_modify {g : ς → ς} {Q : PUnit → ς → σ → Prop} (h : ∀ l s, P l s → Q ⟨⟩ (g l) s) :
    Triple m env R G P (modify g : Stateful Op Res ς δ PUnit) Q E :=
  fun _ l s hs _ => ⟨trivial, h l s hs⟩

/-- The rule for setting the local variables. -/
theorem triple_set {l' : ς} {Q : PUnit → ς → σ → Prop} (h : ∀ l s, P l s → Q ⟨⟩ l' s) :
    Triple m env R G P (set l' : Stateful Op Res ς δ PUnit) Q E :=
  fun _ l s hs _ => ⟨trivial, h l s hs⟩

/-- The rule for one program after another, whose errors share one condition. -/
theorem triple_bind {p : Stateful Op Res ς δ α} {f : α → Stateful Op Res ς δ β}
    {M : α → ς → σ → Prop} {Q : β → ς → σ → Prop} (hp : Triple m env R G P p M E)
    (hf : ∀ a, Triple m env R G (M a) (f a) Q E) : Triple m env R G P (p >>= f) Q E := by
  intro i l s hs hR
  obtain ⟨hR, hR'⟩ := alwaysS_bind.mp hR
  obtain ⟨hG, hM⟩ := hp i l s hs hR
  rw [alwaysS_bind, runS_bind]
  rcases hrun : runS m env p i l s with ⟨⟨r, l'⟩, s', i'⟩
  rw [hrun] at hM hR'
  cases r with
  | error e => exact ⟨⟨hG, trivial⟩, hM⟩
  | ok a =>
      obtain ⟨hG', hQ⟩ := hf a i' l' s' hM hR'
      exact ⟨⟨hG, hG'⟩, hQ⟩

/-- The rule of consequence. -/
theorem Triple.conseq {p : Stateful Op Res ς δ α} (h : Triple m env R G P p Q E)
    (hP : ∀ l s, P' l s → P l s) (hQ : ∀ a l s, Q a l s → Q' a l s) (hE : ∀ l s, E l s → E' l s) :
    Triple m env R G P' p Q' E' := by
  intro i l s hs hR
  obtain ⟨hG, hend⟩ := h i l s (hP l s hs) hR
  refine ⟨hG, ?_⟩
  split at hend
  · exact hQ _ _ _ hend
  · exact hE _ _ hend

/-- Two facts about one program. -/
theorem Triple.and {p : Stateful Op Res ς δ α} (h : Triple m env R G P p Q E)
    (h' : Triple m env R G P' p Q' E') :
    Triple m env R G (fun l s => P l s ∧ P' l s) p (fun a l s => Q a l s ∧ Q' a l s)
      fun l s => E l s ∧ E' l s := by
  intro i l s hs hR
  obtain ⟨hG, hend⟩ := h i l s hs.1 hR
  obtain ⟨-, hend'⟩ := h' i l s hs.2 hR
  refine ⟨hG, ?_⟩
  rcases hrun : runS m env p i l s with ⟨⟨r, l'⟩, s', i'⟩
  rw [hrun] at hend hend'
  cases r <;> exact ⟨hend, hend'⟩

/-- A program without local state, looked at from one with a local state. -/
theorem triple_lift {t : Prog Op Res α} (h : ∀ l, TaskTriple m env R G (P l) t fun a => Q a l) :
    Triple m env R G P (monadLift t : Stateful Op Res ς δ α) Q E := by
  intro i l s hs hR
  obtain ⟨hG, hQ⟩ := h l i s hs (alwaysS_lift.mp hR)
  have hrun := runS_lift_bind (ς := ς) (δ := δ) m env t pure i l s
  rw [bind_pure, runS_pure] at hrun
  refine ⟨alwaysS_lift.mpr hG, ?_⟩
  rw [hrun]
  exact hQ

/-- A program with a local state, run as one without. -/
theorem Triple.task {p : Stateful Op Res ς δ α} (h : Triple m env R G P p Q E) (l : ς) :
    TaskTriple m env R G (P l) ((ExceptT.run p).run l) fun r s =>
      match r with
      | (.ok a, l') => Q a l' s
      | (.error _, l') => E l' s := by
  intro i s hs hR
  obtain ⟨hG, hend⟩ := h i l s hs hR
  refine ⟨hG, ?_⟩
  unfold runS at hend
  rcases hrun : Prog.run m env ((ExceptT.run p).run l) i s with ⟨⟨r, l'⟩, s', i'⟩
  rw [hrun] at hend
  cases r <;> exact hend

/-- A program with a local state keeps what the operations that it may perform keep. -/
theorem triple_of_performs {S : Op → Prop} {I : σ → Prop} {p : Stateful Op Res ς δ α}
    (hp : PerformsS S p)
    (h : ∀ i o s, S o → R (env i) o s → I s → G (env i) o s ∧ I (m.exec (env i) o s).2) :
    Triple m env R G (fun _ => I) p (fun _ _ => I) fun _ => I := by
  intro i l s hs hR
  obtain ⟨hG, hI⟩ := task_of_performs (hp l) h i s hs hR
  refine ⟨hG, ?_⟩
  unfold runS
  split <;> (rename_i heq; rw [heq] at hI; exact hI)

/-- What every operation keeps is kept by every program with a local state. -/
theorem triple_of_ops {I : σ → Prop} (p : Stateful Op Res ς δ α)
    (h : ∀ i o s, R (env i) o s → I s → G (env i) o s ∧ I (m.exec (env i) o s).2) :
    Triple m env R G (fun _ => I) p (fun _ _ => I) fun _ => I :=
  triple_of_performs (S := fun _ => True) (fun _ => performs_true _) fun i o s _ => h i o s

/-- A fact that does not depend on the state. -/
theorem triple_of_fact {φ : Prop} {p : Stateful Op Res ς δ α} (h : φ → Triple m env R G P p Q E) :
    Triple m env R G (fun l s => φ ∧ P l s) p Q E :=
  fun i l s hs => h hs.1 i l s hs.2

/-- The rest of a program knows the local state that was read. -/
theorem triple_get_bind {f : ς → Stateful Op Res ς δ β} {Q : β → ς → σ → Prop}
    (h : ∀ l, Triple m env R G (fun l' s => l' = l ∧ P l s) (f l) Q E) :
    Triple m env R G P (get >>= f) Q E :=
  triple_bind (triple_get fun _ _ hs => ⟨rfl, hs⟩) h

/-- A program whose error is caught: its local state is kept in any case. -/
theorem triple_caught {p : Stateful Op Res ς δ α} {rest : Stateful Op Res ς δ β} {I : ς → σ → Prop}
    {Q : β → ς → σ → Prop} (hp : Triple m env R G P p (fun _ => I) I)
    (hrest : Triple m env R G I rest Q E) :
    Triple m env R G P (get >>= fun l => (monadLift ((ExceptT.run p).run l) :
      Stateful Op Res ς δ (Except δ α × ς)) >>= fun r => set r.2 >>= fun _ => rest) Q E := by
  refine triple_get_bind fun l => triple_bind (M := fun r _ s => I r.2 s)
    (triple_lift fun l' => ?_) fun r => triple_bind (triple_set fun _ _ hs => hs) fun _ => hrest
  rintro i s ⟨rfl, hs⟩ hR
  obtain ⟨hG, hend⟩ := hp.task l' i s hs hR
  refine ⟨hG, ?_⟩
  split at hend
  · rename_i heq
    rw [heq]
    exact hend
  · rename_i heq
    rw [heq]
    exact hend

/-- The loop rule. -/
theorem triple_foldlM {f : β → α → Stateful Op Res ς δ β} {I : ς → σ → Prop} (as : List α)
    (h : ∀ b, ∀ a ∈ as, Triple m env R G I (f b a) (fun _ => I) E) (b : β) :
    Triple m env R G I (as.foldlM f b) (fun _ => I) E := by
  induction as generalizing b with
  | nil => exact triple_pure fun _ _ hs => hs
  | cons a as ih =>
      rw [List.foldlM_cons]
      exact triple_bind (h b a (List.mem_cons_self ..)) fun b' =>
        ih (fun b a' ha' => h b a' (List.mem_cons_of_mem _ ha')) b'

/-- The loop rule for a condition on the elements that are done. -/
theorem triple_foldlM_done {f : β → α → Stateful Op Res ς δ β} {J : List α → ς → σ → Prop}
    (h : ∀ done b a, Triple m env R G (J done) (f b a) (fun _ => J (done ++ [a])) E) (as : List α)
    (b : β) : Triple m env R G (J []) (as.foldlM f b) (fun _ => J as) E := by
  -- the elements that are still to come follow those that are done
  have hrest : ∀ (as done : List α) (b : β),
      Triple m env R G (J done) (as.foldlM f b) (fun _ => J (done ++ as)) E := by
    intro as
    induction as with
    | nil => exact fun done b => triple_pure fun _ _ hs => (List.append_nil done).symm ▸ hs
    | cons a as ih =>
        intro done b
        rw [List.foldlM_cons]
        refine triple_bind (h done b a) fun b' => ?_
        rw [List.append_cons done a as]
        exact ih (done ++ [a]) b'
  exact hrest as [] b

end Stateful

/-! ## Programs that may stop with an error -/

section Fallible

variable {δ : Type} (m : Machine Op Res σ ε) (env : ℕ → ε) (R G : ε → Op → σ → Prop)

/-- Started with `P`, and if every step meets `R`, every step meets `G`, and the end meets `Q`, or
`E` after an error. -/
def FallibleTriple (P : σ → Prop) (p : Fallible Op Res δ α) (Q : α → σ → Prop) (E : δ → σ → Prop) :
    Prop :=
  TaskTriple m env R G P (ExceptT.run p) fun r s =>
    match r with
    | .ok a => Q a s
    | .error e => E e s

variable {m env R G} {P P' : σ → Prop} {Q Q' : α → σ → Prop} {E E' : δ → σ → Prop}

/-- The rule for a value. -/
theorem fallible_pure {a : α} (h : ∀ s, P s → Q a s) :
    FallibleTriple m env R G P (pure a : Fallible Op Res δ α) Q E :=
  task_done h

/-- The rule for an error. -/
theorem fallible_throw {e : δ} (h : ∀ s, P s → E e s) :
    FallibleTriple m env R G P (throw e : Fallible Op Res δ α) Q E :=
  task_done h

/-- The rule for one program after another, whose errors share one condition. -/
theorem fallible_bind {p : Fallible Op Res δ α} {f : α → Fallible Op Res δ β} {M : α → σ → Prop}
    {Q : β → σ → Prop} (hp : FallibleTriple m env R G P p M E)
    (hf : ∀ a, FallibleTriple m env R G (M a) (f a) Q E) :
    FallibleTriple m env R G P (p >>= f) Q E := by
  refine task_bind hp fun r => ?_
  cases r with
  | ok a => exact hf a
  | error e => exact task_done fun _ hs => hs

/-- A program without errors has the triple of a task. -/
theorem fallible_lift {t : Prog Op Res α} (h : TaskTriple m env R G P t Q) :
    FallibleTriple m env R G P (monadLift t : Fallible Op Res δ α) Q E :=
  task_bind h fun _ => task_done fun _ hs => hs

/-- The rule of consequence. -/
theorem FallibleTriple.conseq {p : Fallible Op Res δ α} (h : FallibleTriple m env R G P p Q E)
    (hP : ∀ s, P' s → P s) (hQ : ∀ a s, Q a s → Q' a s) (hE : ∀ e s, E e s → E' e s) :
    FallibleTriple m env R G P' p Q' E' := by
  refine TaskTriple.conseq h hP fun r s hs => ?_
  cases r with
  | ok a => exact hQ a s hs
  | error e => exact hE e s hs

/-- The loop rule for a condition on the elements that are still to come. -/
theorem fallible_foldlM {f : β → α → Fallible Op Res δ β} {J : β → List α → σ → Prop}
    (h : ∀ b a as, FallibleTriple m env R G (J b (a :: as)) (f b a) (fun b' => J b' as) E)
    (as : List α) (b : β) :
    FallibleTriple m env R G (J b as) (as.foldlM f b) (fun b' => J b' []) E := by
  induction as generalizing b with
  | nil => exact fallible_pure fun _ hs => hs
  | cons a as ih =>
      rw [List.foldlM_cons]
      exact fallible_bind (h b a as) ih

end Fallible

end Prog

end SolanaBot.Library
