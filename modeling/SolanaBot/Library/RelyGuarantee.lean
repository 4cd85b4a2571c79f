import SolanaBot.Library.Interleaving
import SolanaBot.Library.Triples

/-!
# Programs that rely on each other

A program ensures a guarantee from a state if its steps give the guarantee as long as the others
stay within a rely relation (`Prog.Ensures`). That is a statement about one program among others,
and triples prove it (`ensures_of_task`).

If every step that gives the guarantee also stays within the rely relation, then programs that
ensure the guarantee one by one ensure it together, in every interleaving, also while somebody who is
no program of the pool moves the state within the rely relation (`Pool.meetsAmong_of_ensures`).
-/

set_option autoImplicit false

namespace SolanaBot.Library

variable {Op : Type} {Res : Op → Type} {σ ε α β : Type}

namespace Prog

/-- What happens from a position on depends on the environments from there on. -/
theorem always_congr {m : Machine Op Res σ ε} {env env' : ℕ → ε} {C : ε → Op → σ → Prop}
    {p : Prog Op Res α} {i i' : ℕ} {s : σ} (h : ∀ n, env (i + n) = env' (i' + n)) :
    p.Always m env C i s ↔ p.Always m env' C i' s := by
  induction p generalizing i i' s with
  | done a => exact Iff.rfl
  | call o k ih =>
      have hhead : env i = env' i' := h 0
      have htail : ∀ n, env (i + 1 + n) = env' (i' + 1 + n) := fun n => by
        rw [Nat.add_assoc, Nat.add_assoc]
        exact h (1 + n)
      change (C _ _ _ ∧ Always _ _ _ _ _ _) ↔ (C _ _ _ ∧ Always _ _ _ _ _ _)
      rw [hhead, ih _ htail]

/-- What every environment from a position on makes true of every operation. -/
theorem always_of_env {m : Machine Op Res σ ε} {env : ℕ → ε} {C : ε → Op → σ → Prop} {i : ℕ}
    (h : ∀ n o s, C (env (i + n)) o s) {p : Prog Op Res α} {s : σ} : p.Always m env C i s := by
  induction p generalizing i s with
  | done a => trivial
  | call o k ih =>
      refine ⟨h 0 _ _, ih _ fun n o s => ?_⟩
      rw [Nat.add_assoc]
      exact h (1 + n) o s

section Ensures

variable (m : Machine Op Res σ ε) (Rel : σ → σ → Prop) (G : ε → Op → σ → Prop)

/-- As long as the others stay within `Rel`, every step of the program gives `G`. -/
def Ensures (p : Prog Op Res α) (s : σ) : Prop :=
  ∀ env i, p.Always m.among env (fun e _ s => Rel s (e.2 s)) i s →
    p.Always m.among env (fun e o s => G e.1 o (e.2 s)) i s

variable {m Rel G}

/-- What a triple guarantees in every environment is ensured. -/
theorem ensures_of_task {P : σ → Prop} {Q : α → σ → Prop} {p : Prog Op Res α}
    (h : ∀ env, TaskTriple m.among env (fun e _ s => Rel s (e.2 s))
      (fun e o s => G e.1 o (e.2 s)) P p Q) {s : σ} (hs : P s) : p.Ensures m Rel G s :=
  fun env i hR => (h env i s hs hR).1

/-- A program ensures what its operations give anyway. -/
theorem ensures_of_performs {S : Op → Prop} {p : Prog Op Res α} (hp : p.Performs S)
    (h : ∀ e o s, S o → G e o s) (s : σ) : p.Ensures m Rel G s :=
  fun _ _ _ => always_of_performs hp (fun e o s ho => h e.1 o (e.2 s) ho) _ _

/-- A program that is not running ensures the same after the others have moved. -/
theorem Ensures.later (htrans : ∀ s t u, Rel s t → Rel t u → Rel s u) {p : Prog Op Res α} {s t : σ}
    (h : p.Ensures m Rel G s) (hst : Rel s t) : p.Ensures m Rel G t := by
  cases p with
  | done a => exact fun _ _ _ => trivial
  | call o k =>
      intro env i hR
      -- the others reach `t` and go on from there, all before the first step of the program
      let env' : ℕ → ε × (σ → σ) := fun j => if j = i then ((env i).1, fun _ => (env i).2 t) else env j
      have hhere : env' i = ((env i).1, fun _ => (env i).2 t) := if_pos rfl
      have hafter : ∀ n, env' (i + 1 + n) = env (i + 1 + n) := fun n => if_neg (by omega)
      have hR' := h env' i ⟨by rw [hhere]; exact htrans _ _ _ hst hR.1, by
        simp only [Machine.among_exec]
        rw [hhere]
        exact (always_congr hafter).mpr hR.2⟩
      have hG := hR'.1
      have hrest := hR'.2
      simp only [Machine.among_exec] at hrest
      rw [hhere] at hG hrest
      exact ⟨hG, (always_congr hafter).mp hrest⟩

/-- The first step gives the guarantee, and the rest of the program ensures it afterwards. -/
theorem Ensures.step (hrefl : ∀ s, Rel s s) {o : Op} {k : Res o → Prog Op Res α} {s : σ}
    (h : (Prog.call o k).Ensures m Rel G s) (e : ε) :
    G e o s ∧ (k (m.exec e o s).1).Ensures m Rel G (m.exec e o s).2 := by
  refine ⟨(h (fun _ => (e, id)) 0 (always_of_env fun _ _ s => hrefl s)).1, fun env i hR => ?_⟩
  -- nobody moves before the first step
  let env' : ℕ → ε × (σ → σ) := fun j => if j = i then (e, id) else env (j - 1)
  have hhere : env' i = (e, id) := if_pos rfl
  have hafter : ∀ n, env' (i + 1 + n) = env (i + n) := fun n => by
    have hne : i + 1 + n ≠ i := by omega
    have hpred : i + 1 + n - 1 = i + n := by omega
    exact (if_neg hne).trans (congrArg env hpred)
  have hG := h env' i ⟨by rw [hhere]; exact hrefl _, by
    simp only [Machine.among_exec]
    rw [hhere]
    exact (always_congr hafter).mpr hR⟩
  have hrest := hG.2
  simp only [Machine.among_exec] at hrest
  rw [hhere] at hrest
  exact (always_congr hafter).mp hrest

end Ensures

/-! ## Triples of parts -/

section Triples

variable {ς δ : Type} {m : Machine Op Res σ ε} {env : ℕ → ε} {R R' G G' : ε → Op → σ → Prop}
  {P P' : ς → σ → Prop} {Q Q' : α → ς → σ → Prop} {E E' : ς → σ → Prop}

/-- What a program guarantees by the kind of its operations, next to what it is known to reach. -/
theorem Triple.guaranteeing {S : Op → Prop} {p : Stateful Op Res ς δ α}
    (h : Triple m env R' G' P p Q E) (hR : ∀ e o s, R e o s → R' e o s) (hp : PerformsS S p)
    (hG : ∀ e o s, S o → G e o s) : Triple m env R G P p Q E :=
  fun i l s hs hrely => ⟨always_of_performs (hp l) hG i s, (h i l s hs (Always.mono hR hrely)).2⟩

/-- A program that may start in two kinds of states. -/
theorem Triple.or {p : Stateful Op Res ς δ α} (h : Triple m env R G P p Q E)
    (h' : Triple m env R G P' p Q' E') :
    Triple m env R G (fun l s => P l s ∨ P' l s) p (fun a l s => Q a l s ∨ Q' a l s)
      fun l s => E l s ∨ E' l s := by
  rintro i l s (hs | hs) hR
  · exact (h.conseq (fun _ _ hs => hs) (fun _ _ _ => .inl) fun _ _ => .inl) i l s hs hR
  · exact (h'.conseq (fun _ _ hs => hs) (fun _ _ _ => .inr) fun _ _ => .inr) i l s hs hR

end Triples

end Prog

/-- What happens in a run that others join: a turn of a program, or a move from outside. -/
inductive Happening (ε κ : Type) where
  | turn (l : Label ε)
  | outside (c : κ)

namespace Pool

variable {m : Machine Op Res σ ε} {Rel : σ → σ → Prop} {G : ε → Op → σ → Prop}

/-- Every program ensures the guarantee. -/
def Ensures (m : Machine Op Res σ ε) (Rel : σ → σ → Prop) (G : ε → Op → σ → Prop)
    (w : Pool Op Res σ) : Prop :=
  ∀ p ∈ w.procs, p.Ensures m Rel G w.shared

/-- A step gives the guarantee, and the programs ensure it afterwards. -/
theorem Ensures.step (hrefl : ∀ s, Rel s s) (htrans : ∀ s t u, Rel s t → Rel t u → Rel s u)
    (hG : ∀ e o s, G e o s → Rel s (m.exec e o s).2) {w : Pool Op Res σ} (h : w.Ensures m Rel G)
    (l : Label ε) : (∀ o ∈ w.next l, G l.env o w.shared) ∧ (w.step m l).Ensures m Rel G := by
  rcases step_cases m w l with ⟨hnone, hstep⟩ | ⟨o, k, hnext, hp, hstep⟩
  · rw [hnone, hstep]
    exact ⟨fun o ho => (by cases ho), h⟩
  · obtain ⟨hgives, hrest⟩ := (h _ (List.mem_of_getElem? hp)).step hrefl l.env
    rw [hnext, hstep]
    refine ⟨by rintro _ ⟨⟩; exact hgives, fun p hmem => ?_⟩
    rcases List.mem_or_eq_of_mem_set hmem with hold | rfl
    · exact (h p hold).later htrans (hG _ _ _ hgives)
    · exact hrest

/-- A step that gives the guarantee moves the state within the rely relation. -/
theorem rel_step (hrefl : ∀ s, Rel s s) (hG : ∀ e o s, G e o s → Rel s (m.exec e o s).2)
    {w : Pool Op Res σ} {l : Label ε} (h : ∀ o ∈ w.next l, G l.env o w.shared) :
    Rel w.shared (w.step m l).shared := by
  rcases step_cases m w l with ⟨-, hstep⟩ | ⟨o, k, hnext, -, hstep⟩
  · rw [hstep]
    exact hrefl _
  · rw [hstep]
    exact hG _ _ _ (h o hnext)

/-! ## Moves from outside -/

section Among

variable {κ : Type} (m : Machine Op Res σ ε) (act : κ → σ → σ)

/-- The pool after one happening. -/
def happen (w : Pool Op Res σ) : Happening ε κ → Pool Op Res σ
  | .turn l => w.step m l
  | .outside c => { w with shared := act c w.shared }

/-- The pool after a run that others join. -/
def runAmong : Pool Op Res σ → List (Happening ε κ) → Pool Op Res σ :=
  List.foldl (happen m act)

/-- Every operation performed along the run meets the condition `C` in the state in which it is
performed. -/
def MeetsAmong (C : ε → Op → σ → Prop) : Pool Op Res σ → List (Happening ε κ) → Prop
  | _, [] => True
  | w, .turn l :: hs =>
      (∀ o ∈ w.next l, C l.env o w.shared) ∧ (w.happen m act (.turn l)).MeetsAmong C hs
  | w, .outside c :: hs => (w.happen m act (.outside c)).MeetsAmong C hs

/-- Whether a run among others meets a condition can be evaluated. -/
instance decidableMeetsAmong (C : ε → Op → σ → Prop) [∀ e o s, Decidable (C e o s)]
    (w : Pool Op Res σ) (hs : List (Happening ε κ)) : Decidable (w.MeetsAmong m act C hs) :=
  match hs with
  | [] => .isTrue trivial
  | .turn l :: hs =>
      have := decidableMeetsAmong C (w.happen m act (.turn l)) hs
      inferInstanceAs (Decidable (_ ∧ _))
  | .outside c :: hs => decidableMeetsAmong C (w.happen m act (.outside c)) hs

variable {m act}

/-- **Parallel composition.** `I` speaks of what is still to happen: it survives every
move within the rely relation, and makes the next move from outside one of these. Then programs that
ensure the guarantee give it at every step of the run. -/
theorem meetsAmong_of_ensures {I : List (Happening ε κ) → σ → Prop} (hrefl : ∀ s, Rel s s)
    (htrans : ∀ s t u, Rel s t → Rel t u → Rel s u) (hG : ∀ e o s, G e o s → Rel s (m.exec e o s).2)
    (hturn : ∀ l hs s s', I (.turn l :: hs) s → Rel s s' → I hs s')
    (houtside : ∀ c hs s, I (.outside c :: hs) s → Rel s (act c s) ∧ I hs (act c s))
    {w : Pool Op Res σ} (h : w.Ensures m Rel G) {hs : List (Happening ε κ)} (hI : I hs w.shared) :
    w.MeetsAmong m act G hs ∧ I [] (w.runAmong m act hs).shared := by
  induction hs generalizing w with
  | nil => exact ⟨trivial, hI⟩
  | cons happening hs ih =>
      cases happening with
      | turn l =>
          obtain ⟨hnext, hstep⟩ := h.step hrefl htrans hG l
          have hmove := rel_step hrefl hG hnext
          obtain ⟨hmeets, hend⟩ := ih hstep (hturn l hs _ _ hI hmove)
          exact ⟨⟨hnext, hmeets⟩, hend⟩
      | outside c =>
          obtain ⟨hmove, hI'⟩ := houtside c hs _ hI
          have hlater : (w.happen m act (.outside c)).Ensures m Rel G := by
            intro p hp
            exact (h p hp).later htrans hmove
          exact ih hlater hI'

end Among

end Pool

end SolanaBot.Library
