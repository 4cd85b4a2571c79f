import SolanaBot.Library.Resumption

/-!
# Traces: the operations of a finished run with their answers

`Prog.Trace p t a` says that the program `p` performs the operations of `t`, in this order
and with these answers, and returns `a`. Answers are not constrained by a state: whatever
the outside world may answer gives a trace. A property of all traces of a sequence follows
from properties of the traces of its parts (`trace_bind_iff`).
-/

set_option autoImplicit false

namespace SolanaBot.Library

/-- An element that a list does not have stands behind it. -/
theorem exists_append_of_notMem {α : Type} {l r u v : List α} {x : α} (h : l ++ r = u ++ x :: v)
    (hx : x ∉ l) : ∃ m, u = l ++ m ∧ r = m ++ x :: v := by
  rcases List.append_eq_append_iff.mp h with ⟨m, rfl, rfl⟩ | ⟨m, rfl, hm⟩
  · exact ⟨m, rfl, rfl⟩
  · cases m with
    | nil => exact ⟨[], by simp, by simpa using hm.symm⟩
    | cons y m =>
        obtain ⟨rfl, -⟩ := List.cons.inj hm
        exact absurd (List.mem_append_right _ (List.mem_cons_self ..)) hx

/-- A performed operation with the answer it got. -/
structure Exchange (Op : Type) (Res : Op → Type) where
  op : Op
  res : Res op

namespace Prog

variable {Op : Type} {Res : Op → Type} {α β : Type}

/-- A complete run of a program. -/
inductive Trace : Prog Op Res α → List (Exchange Op Res) → α → Prop where
  | done (a : α) : Trace (.done a) [] a
  | call {o : Op} {k : Res o → Prog Op Res α} {t : List (Exchange Op Res)} {a : α} (r : Res o) :
      Trace (k r) t a → Trace (.call o k) (⟨o, r⟩ :: t) a

/-- The trace of a program that is done is empty. -/
@[simp] theorem trace_done_iff {a b : α} {t : List (Exchange Op Res)} :
    (Prog.done a : Prog Op Res α).Trace t b ↔ t = [] ∧ b = a := by
  constructor
  · rintro ⟨⟩
    exact ⟨rfl, rfl⟩
  · rintro ⟨rfl, rfl⟩
    exact .done _

/-- The trace of a call begins with its exchange. -/
@[simp] theorem trace_call_iff {o : Op} {k : Res o → Prog Op Res α} {t : List (Exchange Op Res)}
    {b : α} : (Prog.call o k).Trace t b ↔ ∃ r t', t = ⟨o, r⟩ :: t' ∧ (k r).Trace t' b := by
  constructor
  · intro h
    cases h with
    | call r ht => exact ⟨r, _, rfl, ht⟩
  · rintro ⟨r, t', rfl, ht⟩
    exact .call r ht

/-- A run that starts with one operation. -/
theorem trace_perform_bind_iff {o : Op} {f : Res o → Prog Op Res β}
    {t : List (Exchange Op Res)} {b : β} :
    (perform o >>= f).Trace t b ↔ ∃ r t', t = ⟨o, r⟩ :: t' ∧ (f r).Trace t' b := by
  rw [perform_bind, trace_call_iff]

/-- A run of a sequence is a run of its first part followed by a run of its second part. -/
theorem trace_bind_iff {p : Prog Op Res α} {f : α → Prog Op Res β}
    {t : List (Exchange Op Res)} {b : β} :
    (p >>= f).Trace t b ↔ ∃ t₁ t₂ a, t = t₁ ++ t₂ ∧ p.Trace t₁ a ∧ (f a).Trace t₂ b := by
  induction p generalizing t with
  | done a =>
      rw [done_bind]
      constructor
      · exact fun h => ⟨[], t, a, rfl, .done a, h⟩
      · rintro ⟨t₁, t₂, a', rfl, h₁, h₂⟩
        obtain ⟨rfl, rfl⟩ := trace_done_iff.mp h₁
        exact h₂
  | call o k ih =>
      rw [call_bind, trace_call_iff]
      constructor
      · rintro ⟨r, t', rfl, ht⟩
        obtain ⟨t₁, t₂, a, rfl, h₁, h₂⟩ := ih r |>.mp ht
        exact ⟨⟨o, r⟩ :: t₁, t₂, a, rfl, .call r h₁, h₂⟩
      · rintro ⟨t₁, t₂, a, rfl, h₁, h₂⟩
        cases h₁ with
        | call r h₁ => exact ⟨r, _, rfl, (ih r).mpr ⟨_, t₂, a, rfl, h₁, h₂⟩⟩

/-- A run of a sequence of programs that may stop with an error: the first part stops the run,
or the second part takes over from it. -/
theorem trace_bindE {ε : Type} {p : Fallible Op Res ε α} {f : α → Fallible Op Res ε β}
    {t : List (Exchange Op Res)} {r : Except ε β} (h : Prog.Trace (ExceptT.run (p >>= f)) t r) :
    (∃ e, Prog.Trace (ExceptT.run p) t (.error e) ∧ r = .error e) ∨
      ∃ t₁ t₂ a, t = t₁ ++ t₂ ∧ Prog.Trace (ExceptT.run p) t₁ (.ok a) ∧
        Prog.Trace (ExceptT.run (f a)) t₂ r := by
  obtain ⟨t₁, t₂, x, rfl, h₁, h₂⟩ := trace_bind_iff.mp h
  cases x with
  | ok a => exact .inr ⟨t₁, t₂, a, rfl, h₁, h₂⟩
  | error e =>
      obtain ⟨rfl, rfl⟩ := trace_done_iff.mp h₂
      exact .inl ⟨e, by rwa [List.append_nil], rfl⟩

/-- A program that follows a discipline performs what is permitted by some knowledge. -/
theorem Trace.permitted {F : Type} {D : Discipline Op Res F} {p : Prog Op Res α}
    {t : List (Exchange Op Res)} {a : α} (h : p.Trace t a) {K : Set F} (hp : p.Follows D K) :
    ∀ x ∈ t, ∃ K', D.permits K' x.op := by
  induction h generalizing K with
  | done a => exact fun x hx => absurd hx List.not_mem_nil
  | call r _ ih =>
      intro x hx
      rcases List.mem_cons.mp hx with rfl | hx
      · exact ⟨K, hp.1⟩
      · exact ih (hp.2 r) x hx

/-- The run of a program that gets the answer `answer i o` when its `i`-th operation is `o`. -/
def record (answer : ℕ → (o : Op) → Res o) :
    Prog Op Res α → ℕ → List (Exchange Op Res) × α
  | .done a, _ => ([], a)
  | .call o k, i =>
      let rest := (k (answer i o)).record answer (i + 1)
      (⟨o, answer i o⟩ :: rest.1, rest.2)

/-- What is recorded is a run. -/
theorem trace_record (answer : ℕ → (o : Op) → Res o) (p : Prog Op Res α) (i : ℕ) :
    p.Trace (p.record answer i).1 (p.record answer i).2 := by
  induction p generalizing i with
  | done a => exact .done a
  | call o k ih => exact .call (answer i o) (ih (answer i o) (i + 1))

end Prog

end SolanaBot.Library
