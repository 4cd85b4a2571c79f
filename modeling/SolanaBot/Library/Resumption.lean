import Mathlib.Data.Set.Basic

/-!
# Resumptions: programs suspended at their operations

A `Prog Op Res α` is a program that performs operations `o : Op`, receives an
answer in `Res o` for each, and finally returns a value of type `α`. It is the
shape of an asynchronous task: between two operations nothing of the outside
world is read, so interleaving tasks means interleaving their operations.

A `Discipline` says which operations are permitted, depending on facts that the
program has learned from earlier answers. `Prog.Follows D K p` says that `p`, knowing
`K`, performs permitted operations only, whatever answers it gets. It is proved by one
rule per combinator, and is what a scheduler needs to know about a task
(`SolanaBot.Library.Interleaving`).

A `Machine` gives the operations a meaning on a shared state, an environment
value `e : ε` resolving what the state does not determine. `Prog.run` runs one
program alone against a sequence of environment values.
-/

set_option autoImplicit false

namespace SolanaBot.Library

/-- A program suspended at its next operation, or finished. -/
inductive Prog (Op : Type) (Res : Op → Type) (α : Type) where
  | done (a : α)
  | call (o : Op) (k : Res o → Prog Op Res α)

namespace Prog

variable {Op : Type} {Res : Op → Type} {α β γ : Type}

/-- Sequencing: the second program starts where the first one returns. -/
def bind : Prog Op Res α → (α → Prog Op Res β) → Prog Op Res β
  | .done a, f => f a
  | .call o k, f => .call o fun r => (k r).bind f

/-- Programs are a monad. -/
instance : Monad (Prog Op Res) where
  pure := .done
  bind := bind

/-- The program that performs one operation and returns its answer. -/
def perform (o : Op) : Prog Op Res (Res o) :=
  .call o .done

/-- Returning is being done. -/
@[simp] theorem pure_eq_done (a : α) : (pure a : Prog Op Res α) = .done a := rfl

/-- A program that is done hands its value on. -/
@[simp] theorem done_bind (a : α) (f : α → Prog Op Res β) :
    (Prog.done a >>= f) = f a := rfl

/-- Binding goes behind the first call. -/
@[simp] theorem call_bind (o : Op) (k : Res o → Prog Op Res α) (f : α → Prog Op Res β) :
    (Prog.call o k >>= f) = .call o fun r => k r >>= f := rfl

/-- One operation and what follows it. -/
@[simp] theorem perform_bind (o : Op) (f : Res o → Prog Op Res β) :
    (perform o >>= f) = .call o f := rfl

/-- Nothing follows a program that is bound to `done`. -/
theorem bind_done (p : Prog Op Res α) : p >>= Prog.done = p := by
  induction p with
  | done a => rfl
  | call o k ih => exact congrArg (Prog.call o) (funext ih)

/-- Binding is associative. -/
theorem bind_bind (p : Prog Op Res α) (f : α → Prog Op Res β) (g : β → Prog Op Res γ) :
    p >>= f >>= g = p >>= fun a => f a >>= g := by
  induction p with
  | done a => rfl
  | call o k ih => exact congrArg (Prog.call o) (funext ih)

/-- Its laws. -/
instance : LawfulMonad (Prog Op Res) :=
  LawfulMonad.mk' (Prog Op Res) bind_done (fun _ _ => rfl) bind_bind

end Prog

/-! ## What a program may perform -/

/-- What programs may perform, depending on what they know. Knowledge is a set of facts; it
grows with the answers of the operations and is never lost. -/
structure Discipline (Op : Type) (Res : Op → Type) (F : Type) where
  permits : Set F → Op → Prop
  learns : (o : Op) → Res o → Set F
  mono : ∀ {K K' : Set F} {o : Op}, K ⊆ K' → permits K o → permits K' o

namespace Prog

variable {Op : Type} {Res : Op → Type} {F α β : Type}

/-- Every operation the program may perform, whatever answers it gets, is permitted by what
is known at that point. -/
def Follows (D : Discipline Op Res F) : Set F → Prog Op Res α → Prop
  | _, .done _ => True
  | K, .call o k => D.permits K o ∧ ∀ r, (k r).Follows D (K ∪ D.learns o r)

section Follows

variable {D : Discipline Op Res F} {K K' : Set F}

/-- A program that is done breaks no discipline. -/
@[simp] theorem follows_done (a : α) : (Prog.done a : Prog Op Res α).Follows D K := trivial

/-- More knowledge permits the same program. -/
theorem Follows.mono (hK : K ⊆ K') {p : Prog Op Res α} (hp : p.Follows D K) :
    p.Follows D K' := by
  induction p generalizing K K' with
  | done a => trivial
  | call o k ih =>
      exact ⟨D.mono hK hp.1, fun r => ih r (Set.union_subset_union_left _ hK) (hp.2 r)⟩

/-- A sequence is permitted if both of its parts are. The second part starts with at least
the knowledge of the first. -/
theorem follows_bind {p : Prog Op Res α} {f : α → Prog Op Res β} (hp : p.Follows D K)
    (hf : ∀ a K', K ⊆ K' → (f a).Follows D K') : (p >>= f).Follows D K := by
  induction p generalizing K with
  | done a => exact hf a K subset_rfl
  | call o k ih =>
      exact ⟨hp.1, fun r => ih r (hp.2 r) fun a K' hK =>
        hf a K' (Set.subset_union_left.trans hK)⟩

/-- A sequence that starts with one operation: the rest knows its answer. -/
theorem follows_perform_bind {o : Op} {f : Res o → Prog Op Res β} (ho : D.permits K o)
    (hf : ∀ r, (f r).Follows D (K ∪ D.learns o r)) : (perform o >>= f).Follows D K :=
  ⟨ho, hf⟩

/-- An operation that is permitted follows the discipline. -/
theorem follows_perform {o : Op} (ho : D.permits K o) :
    (perform o : Prog Op Res (Res o)).Follows D K :=
  ⟨ho, fun _ => trivial⟩

/-- What a program returns is nothing to the discipline. -/
theorem follows_map {p : Prog Op Res α} {f : α → β} (hp : p.Follows D K) :
    (f <$> p).Follows D K :=
  follows_bind hp fun _ _ _ => trivial

/-- The loop rule: a fold is permitted if each iteration is, from any greater knowledge. -/
theorem follows_foldlM (f : β → α → Prog Op Res β) (l : List α)
    (hf : ∀ b, ∀ a ∈ l, ∀ K', K ⊆ K' → (f b a).Follows D K') (b : β) :
    (l.foldlM f b).Follows D K := by
  induction l generalizing b K with
  | nil => trivial
  | cons a l ih =>
      rw [List.foldlM_cons]
      refine follows_bind (hf b a (by simp) K subset_rfl) fun b' K' hK => ih ?_ b'
      exact fun b a ha K'' hK' => hf b a (List.mem_cons_of_mem _ ha) K'' (hK.trans hK')

end Follows

/-! ## Programs that may stop with an error -/

/-- A program that returns a value or stops with an error. -/
abbrev Fallible (Op : Type) (Res : Op → Type) (ε α : Type) := ExceptT ε (Prog Op Res) α

section Fallible

variable {ε : Type} {D : Discipline Op Res F} {K : Set F}

/-- `Follows` for a program that may stop with an error. -/
def FollowsE (D : Discipline Op Res F) (K : Set F) (p : Fallible Op Res ε α) : Prop :=
  Prog.Follows D K (ExceptT.run p)

/-- A value follows every discipline. -/
@[simp] theorem followsE_pure (a : α) : FollowsE D K (pure a : Fallible Op Res ε α) := trivial

/-- An error follows every discipline. -/
@[simp] theorem followsE_throw (e : ε) : FollowsE D K (throw e : Fallible Op Res ε α) := trivial

/-- A fallible program follows the discipline if both parts do, the second with the facts of the
first. -/
theorem followsE_bind {p : Fallible Op Res ε α} {f : α → Fallible Op Res ε β}
    (hp : FollowsE D K p) (hf : ∀ a K', K ⊆ K' → FollowsE D K' (f a)) :
    FollowsE D K (p >>= f) := by
  refine follows_bind hp fun r K' hK => ?_
  cases r with
  | ok a => exact hf a K' hK
  | error e => trivial

/-- A program follows the discipline as a fallible one. -/
theorem followsE_lift {p : Prog Op Res α} (hp : p.Follows D K) :
    FollowsE D K (monadLift p : Fallible Op Res ε α) :=
  follows_map hp

/-- A program that returns a result is a fallible one that follows the discipline. -/
theorem followsE_mk {p : Prog Op Res (Except ε α)} (hp : p.Follows D K) :
    FollowsE D K (ExceptT.mk p : Fallible Op Res ε α) := hp

/-- The loop rule for a loop that an error stops. -/
theorem followsE_foldlM (f : β → α → Fallible Op Res ε β) (l : List α)
    (hf : ∀ b, ∀ a ∈ l, ∀ K', K ⊆ K' → FollowsE D K' (f b a)) (b : β) :
    FollowsE D K (l.foldlM f b) := by
  induction l generalizing b K with
  | nil => trivial
  | cons a l ih =>
      rw [List.foldlM_cons]
      refine followsE_bind (hf b a (by simp) K subset_rfl) fun b' K' hK => ih ?_ b'
      exact fun b a ha K'' hK' => hf b a (List.mem_cons_of_mem _ ha) K'' (hK.trans hK')

end Fallible

/-! ## Programs with a local state that survives errors -/

/-- A program with a local state that returns a value or stops with an error; the state is
kept in both cases. -/
abbrev Stateful (Op : Type) (Res : Op → Type) (σ ε α : Type) :=
  ExceptT ε (StateT σ (Prog Op Res)) α

section Stateful

variable {σ ε : Type} {D : Discipline Op Res F} {K : Set F}

/-- `Follows` for a program with a local state, from every local state. -/
def FollowsS (D : Discipline Op Res F) (K : Set F) (p : Stateful Op Res σ ε α) : Prop :=
  ∀ s, Prog.Follows D K ((ExceptT.run p).run s)

/-- A value follows every discipline. -/
@[simp] theorem followsS_pure (a : α) : FollowsS D K (pure a : Stateful Op Res σ ε α) :=
  fun _ => trivial

/-- An error follows every discipline. -/
@[simp] theorem followsS_throw (e : ε) : FollowsS D K (throw e : Stateful Op Res σ ε α) :=
  fun _ => trivial

/-- Reading the local variables performs nothing. -/
@[simp] theorem followsS_get : FollowsS D K (get : Stateful Op Res σ ε σ) := fun _ => trivial

/-- Setting the local variables performs nothing. -/
@[simp] theorem followsS_set (s : σ) : FollowsS D K (set s : Stateful Op Res σ ε PUnit) :=
  fun _ => trivial

/-- Changing the local variables performs nothing. -/
@[simp] theorem followsS_modify (f : σ → σ) :
    FollowsS D K (modify f : Stateful Op Res σ ε PUnit) := fun _ => trivial

/-- A program with local variables follows the discipline if both parts do, the second with the facts
of the first. -/
theorem followsS_bind {p : Stateful Op Res σ ε α} {f : α → Stateful Op Res σ ε β}
    (hp : FollowsS D K p) (hf : ∀ a K', K ⊆ K' → FollowsS D K' (f a)) :
    FollowsS D K (p >>= f) := by
  intro s
  refine follows_bind (hp s) fun r K' hK => ?_
  rcases r with ⟨a, s'⟩
  cases a with
  | ok a => exact hf a K' hK s'
  | error e => trivial

/-- A program follows the discipline as one with local variables. -/
theorem followsS_lift {p : Prog Op Res α} (hp : p.Follows D K) :
    FollowsS D K (monadLift p : Stateful Op Res σ ε α) :=
  fun _ => follows_map (follows_bind hp fun _ _ _ => trivial)

/-- The loop rule with a local state. -/
theorem followsS_foldlM (f : β → α → Stateful Op Res σ ε β) (l : List α)
    (hf : ∀ b, ∀ a ∈ l, ∀ K', K ⊆ K' → FollowsS D K' (f b a)) (b : β) :
    FollowsS D K (l.foldlM f b) := by
  induction l generalizing b K with
  | nil => exact fun _ => trivial
  | cons a l ih =>
      rw [List.foldlM_cons]
      refine followsS_bind (hf b a (by simp) K subset_rfl) fun b' K' hK => ih ?_ b'
      exact fun b a ha K'' hK' => hf b a (List.mem_cons_of_mem _ ha) K'' (hK.trans hK')

end Stateful

end Prog

/-! ## The operations of a program -/

namespace Prog

variable {Op : Type} {Res : Op → Type} {α β : Type} {S : Op → Prop}

/-- Every operation the program may perform, whatever answers it gets, is one of `S`. -/
def Performs (S : Op → Prop) : Prog Op Res α → Prop
  | .done _ => True
  | .call o k => S o ∧ ∀ r, (k r).Performs S

/-- An operation of the kind performs the kind only. -/
theorem performs_perform {o : Op} (h : S o) : (perform o : Prog Op Res (Res o)).Performs S :=
  ⟨h, fun _ => trivial⟩

/-- A program performs operations of a kind only if both parts do. -/
theorem performs_bind {p : Prog Op Res α} {f : α → Prog Op Res β} (hp : p.Performs S)
    (hf : ∀ a, (f a).Performs S) : (p >>= f).Performs S := by
  induction p with
  | done a => exact hf a
  | call o k ih => exact ⟨hp.1, fun r => ih r (hp.2 r)⟩

/-- A wider kind contains the operations too. -/
theorem Performs.mono {S' : Op → Prop} (hS : ∀ o, S o → S' o) {p : Prog Op Res α}
    (h : p.Performs S) : p.Performs S' := by
  induction p with
  | done a => trivial
  | call o k ih => exact ⟨hS o h.1, fun r => ih r (h.2 r)⟩

/-- Every program performs some operations. -/
theorem performs_true (p : Prog Op Res α) : p.Performs fun _ => True := by
  induction p with
  | done a => trivial
  | call o k ih => exact ⟨trivial, ih⟩

section Interpret

variable {Op' : Type} {Res' : Op' → Type}

/-- The program whose operations are carried out by programs over other operations. -/
def interpret (f : (o : Op) → Prog Op' Res' (Res o)) : Prog Op Res α → Prog Op' Res' α
  | .done a => .done a
  | .call o k => (f o).bind fun r => (k r).interpret f

/-- An interpretation performs what its single operations perform. -/
theorem performs_interpret {C : Op' → Prop} {f : (o : Op) → Prog Op' Res' (Res o)}
    (hf : ∀ o, S o → (f o).Performs C) {p : Prog Op Res α} (hp : p.Performs S) :
    (p.interpret f).Performs C := by
  induction p with
  | done a => trivial
  | call o k ih => exact performs_bind (hf o hp.1) fun r => ih r (hp.2 r)

end Interpret

/-- A loop performs what its turns perform. -/
theorem performs_foldlM {f : β → α → Prog Op Res β} (l : List α)
    (h : ∀ b a, (f b a).Performs S) (b : β) : (l.foldlM f b).Performs S := by
  induction l generalizing b with
  | nil => trivial
  | cons a l ih =>
      rw [List.foldlM_cons]
      exact performs_bind (h b a) ih

section Fallible

variable {ε : Type}

/-- `Performs` for a program that may stop with an error. -/
def PerformsE (S : Op → Prop) (p : Fallible Op Res ε α) : Prop := (ExceptT.run p).Performs S

/-- A value performs nothing. -/
theorem performsE_pure (a : α) : PerformsE S (pure a : Fallible Op Res ε α) := trivial

/-- A fallible program performs operations of a kind only if both parts do. -/
theorem performsE_bind {p : Fallible Op Res ε α} {f : α → Fallible Op Res ε β}
    (hp : PerformsE S p) (hf : ∀ a, PerformsE S (f a)) : PerformsE S (p >>= f) := by
  refine performs_bind hp fun r => ?_
  cases r with
  | ok a => exact hf a
  | error e => trivial

/-- A program performs the same as a fallible one. -/
theorem performsE_lift {p : Prog Op Res α} (hp : p.Performs S) :
    PerformsE S (monadLift p : Fallible Op Res ε α) :=
  performs_bind hp fun _ => trivial

/-- A program that returns a result performs the same as a fallible one. -/
theorem performsE_mk {p : Prog Op Res (Except ε α)} (hp : p.Performs S) :
    PerformsE S (ExceptT.mk p : Fallible Op Res ε α) := hp

/-- A fallible loop performs what its turns perform. -/
theorem performsE_foldlM {f : β → α → Fallible Op Res ε β} (l : List α)
    (h : ∀ b a, PerformsE S (f b a)) (b : β) : PerformsE S (l.foldlM f b) := by
  induction l generalizing b with
  | nil => trivial
  | cons a l ih =>
      rw [List.foldlM_cons]
      exact performsE_bind (h b a) ih

end Fallible

section Stateful

variable {ς δ : Type}

/-- `Performs` for a program with a local state, from every local state. -/
def PerformsS (S : Op → Prop) (p : Stateful Op Res ς δ α) : Prop :=
  ∀ l, ((ExceptT.run p).run l).Performs S

/-- A wider kind contains the operations too. -/
theorem PerformsS.mono {S' : Op → Prop} (hS : ∀ o, S o → S' o) {p : Stateful Op Res ς δ α}
    (hp : PerformsS S p) : PerformsS S' p := fun l => (hp l).mono hS

/-- A value performs nothing. -/
theorem performsS_pure (a : α) : PerformsS S (pure a : Stateful Op Res ς δ α) := fun _ => trivial

/-- An error performs nothing. -/
theorem performsS_throw (e : δ) : PerformsS S (throw e : Stateful Op Res ς δ α) := fun _ => trivial

/-- Reading the local variables performs nothing. -/
theorem performsS_get : PerformsS S (get : Stateful Op Res ς δ ς) := fun _ => trivial

/-- Setting the local variables performs nothing. -/
theorem performsS_set (l : ς) : PerformsS S (set l : Stateful Op Res ς δ PUnit) := fun _ => trivial

/-- Changing the local variables performs nothing. -/
theorem performsS_modify (g : ς → ς) : PerformsS S (modify g : Stateful Op Res ς δ PUnit) :=
  fun _ => trivial

/-- A program with local variables performs operations of a kind only if both parts do. -/
theorem performsS_bind {p : Stateful Op Res ς δ α} {f : α → Stateful Op Res ς δ β}
    (hp : PerformsS S p) (hf : ∀ a, PerformsS S (f a)) : PerformsS S (p >>= f) := by
  refine fun l => performs_bind (hp l) fun r => ?_
  rcases r with ⟨r, l'⟩
  cases r with
  | ok a => exact hf a l'
  | error e => trivial

/-- A program performs the same as one with local variables. -/
theorem performsS_lift {p : Prog Op Res α} (hp : p.Performs S) :
    PerformsS S (monadLift p : Stateful Op Res ς δ α) :=
  fun _ => performs_bind (performs_bind hp fun _ => trivial) fun _ => trivial

/-- A loop with local variables performs what its turns perform. -/
theorem performsS_foldlM {f : β → α → Stateful Op Res ς δ β} (l : List α)
    (h : ∀ b a, PerformsS S (f b a)) (b : β) : PerformsS S (l.foldlM f b) := by
  induction l generalizing b with
  | nil => exact fun _ => trivial
  | cons a l ih =>
      rw [List.foldlM_cons]
      exact performsS_bind (h b a) ih

end Stateful

end Prog

/-! ## Running one program alone -/

/-- The meaning of the operations: under the environment `e`, the operation `o`
started in a state gives an answer and a new state. -/
structure Machine (Op : Type) (Res : Op → Type) (σ ε : Type) where
  exec : ε → (o : Op) → σ → Res o × σ

namespace Prog

variable {Op : Type} {Res : Op → Type} {σ ε α β : Type}

/-- Run a program to its end. The `i`-th operation meets the environment `env i`;
the last component is the index of the first unused one. -/
def run (m : Machine Op Res σ ε) (env : ℕ → ε) : Prog Op Res α → ℕ → σ → α × σ × ℕ
  | .done a, i, s => (a, s, i)
  | .call o k, i, s =>
      let r := m.exec (env i) o s
      (k r.1).run m env (i + 1) r.2

/-- A program that is done runs no step. -/
@[simp] theorem run_done (m : Machine Op Res σ ε) (env : ℕ → ε) (a : α) (i : ℕ) (s : σ) :
    (Prog.done a : Prog Op Res α).run m env i s = (a, s, i) := rfl

/-- A run executes the first call and goes on with its result. -/
@[simp] theorem run_call (m : Machine Op Res σ ε) (env : ℕ → ε) (o : Op)
    (k : Res o → Prog Op Res α) (i : ℕ) (s : σ) :
    (Prog.call o k).run m env i s =
      (k (m.exec (env i) o s).1).run m env (i + 1) (m.exec (env i) o s).2 := rfl

/-- A sequence runs its first part, then its second part from there. -/
theorem run_bind (m : Machine Op Res σ ε) (env : ℕ → ε) (p : Prog Op Res α)
    (f : α → Prog Op Res β) (i : ℕ) (s : σ) :
    (p >>= f).run m env i s =
      (f (p.run m env i s).1).run m env (p.run m env i s).2.2 (p.run m env i s).2.1 := by
  induction p generalizing i s with
  | done a => rfl
  | call o k ih => exact ih _ _ _

/-- A run of a mapped program has the mapped value. -/
theorem run_map (m : Machine Op Res σ ε) (env : ℕ → ε) (p : Prog Op Res α) (f : α → β) (i : ℕ)
    (s : σ) : (f <$> p).run m env i s = (f (p.run m env i s).1, (p.run m env i s).2) :=
  run_bind m env p (fun a => .done (f a)) i s

/-- A part that does not stop the program is followed by the rest. -/
theorem run_lift_bind {δ : Type} (m : Machine Op Res σ ε) (env : ℕ → ε) (p : Prog Op Res α)
    (f : α → Fallible Op Res δ β) (i : ℕ) (s : σ) :
    Prog.run m env (ExceptT.run ((monadLift p : Fallible Op Res δ α) >>= f)) i s =
      Prog.run m env (ExceptT.run (f (p.run m env i s).1)) (p.run m env i s).2.2
        (p.run m env i s).2.1 := by
  refine (run_bind m env (Except.ok <$> p) _ i s).trans ?_
  rw [run_map]
  rfl

/-- A part that may stop the program is followed by the rest if it succeeds. -/
theorem run_mk_bind {δ : Type} (m : Machine Op Res σ ε) (env : ℕ → ε)
    (p : Prog Op Res (Except δ α)) (f : α → Fallible Op Res δ β) (i : ℕ) (s : σ) :
    Prog.run m env (ExceptT.run (ExceptT.mk p >>= f)) i s =
      match (p.run m env i s).1 with
      | .ok a => Prog.run m env (ExceptT.run (f a)) (p.run m env i s).2.2 (p.run m env i s).2.1
      | .error e => (.error e, (p.run m env i s).2) := by
  refine (run_bind m env p _ i s).trans ?_
  cases (p.run m env i s).1 <;> rfl

/-! ## Running a program with a local state -/

section Stateful

variable {ς δ : Type} (m : Machine Op Res σ ε) (env : ℕ → ε)

/-- Run a program with a local state: its result and its local state, the shared state, and the
index of the first unused environment. -/
def runS (p : Stateful Op Res ς δ α) (i : ℕ) (l : ς) (s : σ) : (Except δ α × ς) × σ × ℕ :=
  Prog.run m env ((ExceptT.run p).run l) i s

/-- A value leaves everything as it is. -/
@[simp] theorem runS_pure (a : α) (i : ℕ) (l : ς) (s : σ) :
    runS m env (pure a : Stateful Op Res ς δ α) i l s = ((.ok a, l), s, i) := rfl

/-- An error leaves everything as it is. -/
@[simp] theorem runS_throw (e : δ) (i : ℕ) (l : ς) (s : σ) :
    runS m env (throw e : Stateful Op Res ς δ α) i l s = ((.error e, l), s, i) := rfl

/-- A change of the local variables is no step of the run. -/
@[simp] theorem runS_modify (g : ς → ς) (i : ℕ) (l : ς) (s : σ) :
    runS m env (modify g : Stateful Op Res ς δ PUnit) i l s = ((.ok ⟨⟩, g l), s, i) := rfl

/-- Reading the local variables is no step of the run. -/
@[simp] theorem runS_get_bind (f : ς → Stateful Op Res ς δ β) (i : ℕ) (l : ς) (s : σ) :
    runS m env (get >>= f) i l s = runS m env (f l) i l s := rfl

/-- Setting the local variables is no step of the run. -/
@[simp] theorem runS_set_bind (l' : ς) (f : PUnit → Stateful Op Res ς δ β) (i : ℕ) (l : ς) (s : σ) :
    runS m env (set l' >>= f) i l s = runS m env (f ⟨⟩) i l' s := rfl

/-- What follows a change of the local variables starts from the changed ones. -/
@[simp] theorem runS_modify_bind (g : ς → ς) (f : PUnit → Stateful Op Res ς δ β) (i : ℕ) (l : ς)
    (s : σ) : runS m env (modify g >>= f) i l s = runS m env (f ⟨⟩) i (g l) s := rfl

/-- A sequence goes on with its second part unless the first one stops with an error. -/
theorem runS_bind (p : Stateful Op Res ς δ α) (f : α → Stateful Op Res ς δ β) (i : ℕ) (l : ς)
    (s : σ) :
    runS m env (p >>= f) i l s =
      match runS m env p i l s with
      | ((.ok a, l'), s', i') => runS m env (f a) i' l' s'
      | ((.error e, l'), s', i') => ((.error e, l'), s', i') := by
  refine (run_bind m env ((ExceptT.run p).run l) _ i s).trans ?_
  unfold runS
  rcases Prog.run m env ((ExceptT.run p).run l) i s with ⟨⟨r, l'⟩, s', i'⟩
  cases r <;> rfl

/-- A sequence that returns a value got one from its first part. -/
theorem runS_bind_ok {p : Stateful Op Res ς δ α} {f : α → Stateful Op Res ς δ β} {i i' : ℕ}
    {l l' : ς} {s s' : σ} {b : β} (h : runS m env (p >>= f) i l s = ((.ok b, l'), s', i')) :
    ∃ a l₁ s₁ i₁, runS m env p i l s = ((.ok a, l₁), s₁, i₁) ∧
      runS m env (f a) i₁ l₁ s₁ = ((.ok b, l'), s', i') := by
  rw [runS_bind] at h
  rcases hp : runS m env p i l s with ⟨⟨r, l₁⟩, s₁, i₁⟩
  rw [hp] at h
  cases r with
  | error e => cases h
  | ok a => exact ⟨a, l₁, s₁, i₁, rfl, h⟩

/-- A part without local state runs as it does alone. -/
theorem runS_lift_bind (t : Prog Op Res α) (f : α → Stateful Op Res ς δ β) (i : ℕ) (l : ς) (s : σ) :
    runS m env ((monadLift t : Stateful Op Res ς δ α) >>= f) i l s =
      runS m env (f (t.run m env i s).1) (t.run m env i s).2.2 l (t.run m env i s).2.1 := by
  rw [runS_bind]
  have hlift : runS m env (monadLift t : Stateful Op Res ς δ α) i l s =
      ((.ok (t.run m env i s).1, l), (t.run m env i s).2) := by
    refine (run_bind m env (t >>= fun a => .done (a, l)) _ i s).trans ?_
    rw [run_bind]
    rfl
  rw [hlift]

/-! ## Parts that go on -/

/-- A part that never stops with an error. -/
def Proceeds (p : Stateful Op Res ς δ α) : Prop :=
  ∀ i l s, ∃ a, (runS m env p i l s).1.1 = .ok a

variable {m env}

/-- A value goes on. -/
theorem proceeds_pure (a : α) : Proceeds m env (pure a : Stateful Op Res ς δ α) :=
  fun _ _ _ => ⟨a, rfl⟩

/-- A change of the local variables goes on. -/
theorem proceeds_modify (g : ς → ς) : Proceeds m env (modify g : Stateful Op Res ς δ PUnit) :=
  fun _ _ _ => ⟨⟨⟩, rfl⟩

/-- Reading the local variables goes on. -/
theorem proceeds_get : Proceeds m env (get : Stateful Op Res ς δ ς) :=
  fun _ l _ => ⟨l, rfl⟩

/-- A program goes on if both parts do. -/
theorem proceeds_bind {p : Stateful Op Res ς δ α} {f : α → Stateful Op Res ς δ β}
    (hp : Proceeds m env p) (hf : ∀ a, Proceeds m env (f a)) : Proceeds m env (p >>= f) := by
  intro i l s
  obtain ⟨a, ha⟩ := hp i l s
  rw [runS_bind]
  rcases hrun : runS m env p i l s with ⟨⟨r, l'⟩, s', i'⟩
  rw [hrun] at ha
  cases (show r = .ok a from ha)
  exact hf a i' l' s'

/-- A program without errors goes on. -/
theorem proceeds_lift (t : Prog Op Res α) :
    Proceeds m env (monadLift t : Stateful Op Res ς δ α) := by
  intro i l s
  have h := runS_lift_bind (ς := ς) (δ := δ) m env t pure i l s
  rw [bind_pure] at h
  exact ⟨_, congrArg (fun r => r.1.1) h⟩

variable (m env)

/-- A part that keeps the local state `l`. Started at the operation `i` it goes on at the given
operation, or stops with an error, whatever the shared state. -/
def EndsAt (p : Stateful Op Res ς δ Unit) (i : ℕ) (l : ς) : Option ℕ → Prop
  | some j => ∀ s, ∃ s', runS m env p i l s = ((.ok (), l), s', j)
  | none => ∀ s, ∃ e r, runS m env p i l s = ((.error e, l), r)

variable {m env}

/-- A value ends where it begins. -/
theorem endsAt_pure (i : ℕ) (l : ς) :
    EndsAt m env (pure () : Stateful Op Res ς δ Unit) i l (some i) := fun s => ⟨s, rfl⟩

/-- An error ends nowhere. -/
theorem endsAt_throw (e : δ) (i : ℕ) (l : ς) :
    EndsAt m env (throw e : Stateful Op Res ς δ Unit) i l none := fun s => ⟨e, (s, i), rfl⟩

/-- The second part ends counted from the end of the first. -/
theorem endsAt_bind {p : Stateful Op Res ς δ Unit} {f : Unit → Stateful Op Res ς δ Unit} {i : ℕ}
    {l : ς} {n : Option ℕ} {next : ℕ → Option ℕ} (hp : EndsAt m env p i l n)
    (hf : ∀ j, EndsAt m env (f ()) j l (next j)) : EndsAt m env (p >>= f) i l (n.bind next) := by
  cases n with
  | none =>
      intro s
      obtain ⟨e, r, hrun⟩ := hp s
      refine ⟨e, r, ?_⟩
      rw [runS_bind, hrun]
  | some j =>
      have hrest := hf j
      change EndsAt m env (p >>= f) i l (next j)
      cases hnext : next j with
      | none =>
          rw [hnext] at hrest
          intro s
          obtain ⟨s', hrun⟩ := hp s
          rw [runS_bind, hrun]
          exact hrest s'
      | some k =>
          rw [hnext] at hrest
          intro s
          obtain ⟨s', hrun⟩ := hp s
          rw [runS_bind, hrun]
          exact hrest s'

/-- Reading the local variables takes no index. -/
theorem endsAt_get_bind {f : ς → Stateful Op Res ς δ Unit} {i : ℕ} {l : ς} {n : Option ℕ}
    (hf : EndsAt m env (f l) i l n) : EndsAt m env (get >>= f) i l n := by
  cases n with
  | none => exact hf
  | some k => exact hf

/-- A part without local state whose answer does not depend on the shared state. -/
theorem endsAt_lift_bind {t : Prog Op Res α} {f : α → Stateful Op Res ς δ Unit} {i j : ℕ} {l : ς}
    {n : Option ℕ} {a : α} (ht : ∀ s, ∃ s', t.run m env i s = (a, s', j))
    (hf : EndsAt m env (f a) j l n) : EndsAt m env (monadLift t >>= f) i l n := by
  cases n with
  | none =>
      intro s
      obtain ⟨s', hrun⟩ := ht s
      rw [runS_lift_bind, hrun]
      exact hf s'
  | some k =>
      intro s
      obtain ⟨s', hrun⟩ := ht s
      rw [runS_lift_bind, hrun]
      exact hf s'

/-- The loop rule: a loop goes on where the turns lead one after another. -/
theorem endsAt_foldlM {f : Unit → α → Stateful Op Res ς δ Unit} {turn : ℕ → α → Option ℕ}
    (l : ς) (as : List α) (hf : ∀ i, ∀ a ∈ as, EndsAt m env (f () a) i l (turn i a)) (i : ℕ) :
    EndsAt m env (as.foldlM f ()) i l (as.foldlM turn i) := by
  induction as generalizing i with
  | nil => exact endsAt_pure i l
  | cons a as ih =>
      rw [List.foldlM_cons, List.foldlM_cons]
      exact endsAt_bind (hf i a (List.mem_cons_self ..)) fun j =>
        ih (fun i a' ha' => hf i a' (List.mem_cons_of_mem _ ha')) j

end Stateful

end Prog

end SolanaBot.Library
