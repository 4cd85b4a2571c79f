import Mathlib.Data.List.Perm.Subperm
import Mathlib.Data.List.ReduceOption
import SolanaBot.Library.Interleaving

/-!
# Permissions that are used once

Some operations need a permission that an answer to an earlier operation has given, and that they use
up. `Prog.Within A held p` says that the program `p`, holding `held`, performs no such operation without
its permission, whatever answers it gets. A program holds at most one permission at a time, and none can
be passed on; so in every interleaving the permissions that were used are among those that were earned,
each as often at most as it was earned (`used_subperm_earned`). What one program performs in an
interleaving (`Pool.trace`) is granted step by step (`Pool.granted_trace`), so while it earns nothing it
uses at most the permission that it holds (`Permissions.length_uses_le`).
-/

set_option autoImplicit false

namespace SolanaBot.Library

/-- Which answers give a permission, and which operations use one up. -/
structure Permissions (Op : Type) (Res : Op → Type) (T : Type) where
  earns : (o : Op) → Res o → Option T
  uses : Op → Option T

variable {Op : Type} {Res : Op → Type} {T α β : Type}

namespace Permissions

variable (A : Permissions Op Res T)

/-- What is held after the operation. -/
def after (held : Option T) (o : Op) (r : Res o) : Option T :=
  (A.earns o r).or (if (A.uses o).isSome then none else held)

/-- The operation has nothing to do with permissions. -/
def Idle (o : Op) : Prop := A.uses o = none ∧ ∀ r, A.earns o r = none

variable {A}

/-- An idle operation changes nothing in what is held. -/
theorem after_of_idle {held : Option T} {o : Op} (h : A.Idle o) (r : Res o) :
    A.after held o r = held := by
  simp [after, h.1, h.2]

/-- No permission comes from nowhere. -/
theorem count_after [DecidableEq T] {held : Option T} {o : Op} (huses : ∀ t ∈ A.uses o, held = some t)
    (r : Res o) (t : T) : (A.after held o r).toList.count t + (A.uses o).toList.count t ≤
      (A.earns o r).toList.count t + held.toList.count t := by
  unfold after
  cases hused : A.uses o with
  | none =>
      cases A.earns o r with
      | none => simp
      | some t' => simp
  | some t' =>
      rw [huses t' hused]
      cases A.earns o r with
      | none => simp
      | some t'' => simp

/-! ### What is performed -/

section Granted

variable (A)

/-- What is held after some operations with their answers. -/
def heldAfter : Option T → List ((o : Op) × Res o) → Option T :=
  List.foldl fun held x => A.after held x.1 x.2

/-- Every operation that needs a permission has it. -/
def Granted : Option T → List ((o : Op) × Res o) → Prop
  | _, [] => True
  | held, x :: xs => (∀ t ∈ A.uses x.1, held = some t) ∧ Granted (A.after held x.1 x.2) xs

variable {A}

/-- A record is granted if its beginning is, and its rest with what is held behind that. -/
theorem granted_append {held : Option T} {xs ys : List ((o : Op) × Res o)} :
    A.Granted held (xs ++ ys) ↔ A.Granted held xs ∧ A.Granted (A.heldAfter held xs) ys := by
  induction xs generalizing held with
  | nil => simp [Granted, heldAfter]
  | cons x xs ih => exact (and_congr_right fun _ => ih).trans and_assoc.symm

/-- While nothing is earned, at most what is held is used. -/
theorem length_uses_le {held : Option T} {xs : List ((o : Op) × Res o)} (h : A.Granted held xs)
    (hearns : ∀ x ∈ xs, A.earns x.1 x.2 = none) :
    (xs.filterMap fun x => A.uses x.1).length ≤ held.toList.length := by
  induction xs generalizing held with
  | nil => exact Nat.zero_le _
  | cons x xs ih =>
      have hafter : A.after held x.1 x.2 = if (A.uses x.1).isSome then none else held := by
        unfold after
        rw [hearns x List.mem_cons_self, Option.none_or]
      have hrest := ih h.2 fun y hy => hearns y (List.mem_cons_of_mem _ hy)
      rw [hafter] at hrest
      cases hused : A.uses x.1 with
      | none =>
          simpa [List.filterMap_cons, hused] using hrest
      | some t =>
          rw [h.1 t hused]
          simpa [List.filterMap_cons, hused] using hrest

end Granted

end Permissions

namespace Prog

variable {A : Permissions Op Res T}

/-- The program, holding what it holds, uses only permissions that it has. -/
def Within (A : Permissions Op Res T) : Option T → Prog Op Res α → Prop
  | _, .done _ => True
  | held, .call o k =>
      (∀ t ∈ A.uses o, held = some t) ∧ ∀ r, (k r).Within A (A.after held o r)

/-- A permission may be left unused. -/
theorem Within.of_none {p : Prog Op Res α} (h : p.Within A none) (held : Option T) :
    p.Within A held := by
  induction p generalizing held with
  | done a => trivial
  | call o k ih =>
      have hunused : A.uses o = none := by
        cases hused : A.uses o with
        | none => rfl
        | some t => exact absurd (h.1 t hused) (by simp)
      refine ⟨by simp [hunused], fun r => ?_⟩
      have hrest := h.2 r
      unfold Permissions.after at hrest ⊢
      cases hearned : A.earns o r with
      | none =>
          apply ih
          simpa [hearned, hunused] using hrest
      | some t => simpa [hearned, hunused] using hrest

/-- A program of idle operations needs no permission. -/
theorem within_of_performs {p : Prog Op Res α} (h : p.Performs A.Idle) (held : Option T) :
    p.Within A held := by
  induction p with
  | done a => trivial
  | call o k ih =>
      refine ⟨by simp [h.1.1], fun r => ?_⟩
      rw [Permissions.after_of_idle h.1]
      exact ih r (h.2 r)

/-- An operation that uses what is held, and a rest that keeps within what is held behind it. -/
theorem within_perform_bind {o : Op} {f : Res o → Prog Op Res β} {held : Option T}
    (ho : ∀ t ∈ A.uses o, held = some t) (hf : ∀ r, (f r).Within A (A.after held o r)) :
    (perform o >>= f).Within A held := ⟨ho, hf⟩

/-- Idle operations in front leave what is held to the rest. -/
theorem within_bind_of_performs {p : Prog Op Res α} {f : α → Prog Op Res β} {held : Option T}
    (hp : p.Performs A.Idle) (hf : ∀ a, (f a).Within A held) : (p >>= f).Within A held := by
  induction p with
  | done a => exact hf a
  | call o k ih =>
      refine ⟨by simp [hp.1.1], fun r => ?_⟩
      rw [Permissions.after_of_idle hp.1]
      exact ih r (hp.2 r)

/-- The second part needs nothing that the first has left. -/
theorem within_bind {p : Prog Op Res α} {f : α → Prog Op Res β} {held : Option T}
    (hp : p.Within A held) (hf : ∀ a, (f a).Within A none) : (p >>= f).Within A held := by
  induction p generalizing held with
  | done a => exact (hf a).of_none held
  | call o k ih => exact ⟨hp.1, fun r => ih r (hp.2 r)⟩

section Fallible

variable {δ : Type}

/-- `Within` for a program that stops at its first error. -/
def WithinE (A : Permissions Op Res T) (held : Option T) (p : Fallible Op Res δ α) : Prop :=
  (ExceptT.run p).Within A held

/-- A fallible program of idle operations needs no permission. -/
theorem withinE_of_performs {p : Fallible Op Res δ α} (h : PerformsE A.Idle p) (held : Option T) :
    WithinE A held p := within_of_performs h held

/-- Idle operations in front leave what is held to the rest. -/
theorem withinE_bind_of_performs {p : Fallible Op Res δ α} {f : α → Fallible Op Res δ β}
    {held : Option T} (hp : PerformsE A.Idle p) (hf : ∀ a, WithinE A held (f a)) :
    WithinE A held (p >>= f) := by
  refine within_bind_of_performs hp fun a => ?_
  cases a with
  | ok a => exact hf a
  | error e => trivial

/-- An operation that uses what is held, and a rest that keeps within what is held behind it. -/
theorem withinE_lift_perform_bind {o : Op} {f : Res o → Fallible Op Res δ β} {held : Option T}
    (ho : ∀ t ∈ A.uses o, held = some t) (hf : ∀ r, WithinE A (A.after held o r) (f r)) :
    WithinE A held ((monadLift (perform o : Prog Op Res (Res o)) : Fallible Op Res δ (Res o)) >>= f) :=
  ⟨ho, hf⟩

end Fallible

section Stateful

variable {ς δ : Type}

/-- `Within` for a program with a local state, from every local state. -/
def WithinS (A : Permissions Op Res T) (held : Option T) (p : Stateful Op Res ς δ α) : Prop :=
  ∀ l, ((ExceptT.run p).run l).Within A held

/-- A program of idle operations needs no permission, whatever its local variables are. -/
theorem withinS_of_performs {p : Stateful Op Res ς δ α} (h : PerformsS A.Idle p) (held : Option T) :
    WithinS A held p := fun l => within_of_performs (h l) held

/-- The second part of a program begins with nothing held. -/
theorem withinS_bind {p : Stateful Op Res ς δ α} {f : α → Stateful Op Res ς δ β} {held : Option T}
    (hp : WithinS A held p) (hf : ∀ a, WithinS A none (f a)) : WithinS A held (p >>= f) := by
  intro l
  refine within_bind (hp l) fun x => ?_
  obtain ⟨a, l⟩ := x
  cases a with
  | ok a => exact hf a l
  | error e => trivial

/-- Idle operations in front leave what is held to the rest. -/
theorem withinS_bind_of_performs {p : Stateful Op Res ς δ α} {f : α → Stateful Op Res ς δ β}
    {held : Option T} (hp : PerformsS A.Idle p) (hf : ∀ a, WithinS A held (f a)) :
    WithinS A held (p >>= f) := by
  intro l
  refine within_bind_of_performs (hp l) fun x => ?_
  obtain ⟨a, l⟩ := x
  cases a with
  | ok a => exact hf a l
  | error e => trivial

/-- A program keeps within its permission as one with local variables. -/
theorem withinS_lift {p : Prog Op Res α} {held : Option T} (hp : p.Within A held) :
    WithinS A held (monadLift p : Stateful Op Res ς δ α) :=
  fun _ => within_bind (within_bind hp fun _ => trivial) fun _ => trivial

/-- An operation that uses what is held, and a rest that keeps within what is held behind it. -/
theorem withinS_lift_perform_bind {o : Op} {f : Res o → Stateful Op Res ς δ β} {held : Option T}
    (ho : ∀ t ∈ A.uses o, held = some t) (hf : ∀ r, WithinS A (A.after held o r) (f r)) :
    WithinS A held ((monadLift (perform o : Prog Op Res (Res o)) : Stateful Op Res ς δ (Res o)) >>= f) :=
  fun l => ⟨ho, fun r => hf r l⟩

/-- A loop whose turns begin with nothing held. -/
theorem withinS_foldlM {f : β → α → Stateful Op Res ς δ β} (as : List α)
    (h : ∀ b a, WithinS A none (f b a)) (b : β) : WithinS A none (as.foldlM f b) := by
  induction as generalizing b with
  | nil => exact fun _ => trivial
  | cons a as ih =>
      rw [List.foldlM_cons]
      exact withinS_bind (h b a) fun b => ih b

end Stateful

end Prog

/-! ## Interleavings -/

namespace Pool

variable {σ ε : Type} {A : Permissions Op Res T} {m : Machine Op Res σ ε}

/-- The permissions that the answers along a schedule have given. -/
def earnedAlong (A : Permissions Op Res T) (m : Machine Op Res σ ε) (w : Pool Op Res σ)
    (ls : List (Label ε)) : List T :=
  w.history m (fun e o s ts => ts ++ (A.earns o (m.exec e o s).1).toList) [] ls

/-- The permissions that were used along a schedule. -/
def usedAlong (A : Permissions Op Res T) (m : Machine Op Res σ ε) (w : Pool Op Res σ)
    (ls : List (Label ε)) : List T :=
  w.history m (fun _ o _ ts => ts ++ (A.uses o).toList) [] ls

/-- One entry of a list of permissions is replaced. -/
theorem count_reduceOption_set [DecidableEq T] {hs : List (Option T)} {i : ℕ} {held : Option T}
    (h : hs[i]? = some held) (held' : Option T) (t : T) :
    (hs.set i held').reduceOption.count t + held.toList.count t =
      hs.reduceOption.count t + held'.toList.count t := by
  induction hs generalizing i with
  | nil => simp at h
  | cons first hs ih =>
      cases i with
      | zero =>
          obtain rfl : first = held := by simpa using h
          cases first with
          | none => cases held' <;> simp [List.count_cons]
          | some t' => cases held' <;> simp [List.count_cons, Nat.add_right_comm]
      | succ i =>
          have hrest := ih (by simpa using h)
          cases first with
          | none => simpa using hrest
          | some t' =>
              simp only [List.set_cons_succ, List.reduceOption_cons_of_some, List.count_cons]
              omega

/-- What each program of the pool holds, beside the program. -/
structure Holding (A : Permissions Op Res T) (w : Pool Op Res σ)
    (held : List (Option T × Prog Op Res Unit)) : Prop where
  procs : held.map Prod.snd = w.procs
  within : ∀ x ∈ held, x.2.Within A x.1

/-- In the beginning the programs of a pool hold nothing. -/
theorem holding_none {w : Pool Op Res σ} (h : ∀ p ∈ w.procs, p.Within A none) :
    w.Holding A (w.procs.map fun p => (none, p)) where
  procs := by
    rw [List.map_map]
    exact List.map_id _
  within := by
    intro x hx
    obtain ⟨p, hp, rfl⟩ := List.mem_map.mp hx
    exact h p hp

/-- Programs that hold nothing hold no permission in all. -/
theorem reduceOption_none (ps : List (Prog Op Res Unit)) :
    ((ps.map fun p => ((none : Option T), p)).map Prod.fst).reduceOption = [] := by
  have hnone : (Prod.fst ∘ fun p : Prog Op Res Unit => ((none : Option T), p)) = fun _ => none := rfl
  rw [List.map_map, hnone, List.map_const', List.reduceOption_replicate_none]

/-- What is held beside the scheduled program, after its operation. -/
theorem Holding.set {w : Pool Op Res σ} {held : List (Option T × Prog Op Res Unit)}
    (h : w.Holding A held) {i : ℕ} {o : Op} {k : Res o → Prog Op Res Unit} {mine : Option T}
    (hmine : held[i]? = some (mine, .call o k)) (r : Res o) (s : σ) :
    Holding A ⟨s, w.procs.set i (k r)⟩ (held.set i (A.after mine o r, k r)) where
  procs := by rw [List.map_set, h.procs]
  within := by
    intro x hx
    rcases List.mem_or_eq_of_mem_set hx with hold | rfl
    · exact h.within x hold
    · exact (h.within _ (List.mem_of_getElem? hmine)).2 r

/-- Every program of the pool has an entry for what it holds. -/
theorem Holding.mine {w : Pool Op Res σ} {held : List (Option T × Prog Op Res Unit)}
    (h : w.Holding A held) {i : ℕ} {p : Prog Op Res Unit} (hp : w.procs[i]? = some p) :
    ∃ mine, held[i]? = some (mine, p) := by
  rw [← h.procs, List.getElem?_map, Option.map_eq_some_iff] at hp
  obtain ⟨⟨mine, p⟩, hmine, rfl⟩ := hp
  exact ⟨mine, hmine⟩

/-- What the programs hold and what they have used is among what they have earned. -/
theorem history_subperm {w : Pool Op Res σ} {held : List (Option T × Prog Op Res Unit)}
    {earned used : List T} (hholding : w.Holding A held)
    (h : ((held.map Prod.fst).reduceOption ++ used).Subperm earned) (ls : List (Label ε)) :
    (w.history m (fun _ o _ ts => ts ++ (A.uses o).toList) used ls).Subperm
      (w.history m (fun e o s ts => ts ++ (A.earns o (m.exec e o s).1).toList) earned ls) := by
  classical
  induction ls generalizing w held earned used with
  | nil => exact (List.sublist_append_right _ _).subperm.trans h
  | cons l ls ih =>
      unfold history
      rcases step_cases m w l with ⟨hnone, hstep⟩ | ⟨o, k, hnext, hp, hstep⟩
      · rw [hnone, hstep]
        exact ih hholding h
      · rw [hnext, hstep]
        dsimp only [Option.elim_some]
        obtain ⟨mine, hmine⟩ := hholding.mine hp
        have hcall : Prog.Within A mine (.call o k) := hholding.within _ (List.mem_of_getElem? hmine)
        set r := (m.exec l.env o w.shared).1
        apply ih (hholding.set hmine r _)
        rw [List.subperm_ext_iff] at h ⊢
        intro t _
        have hbefore : (held.map Prod.fst)[l.proc]? = some mine := by
          rw [List.getElem?_map, hmine]
          rfl
        have hset := count_reduceOption_set hbefore (A.after mine o r) t
        have hafter := Permissions.count_after hcall.1 r t
        have hold : ((held.map Prod.fst).reduceOption ++ used).count t ≤ earned.count t := by
          by_cases ht : t ∈ (held.map Prod.fst).reduceOption ++ used
          · exact h t ht
          · rw [List.count_eq_zero_of_not_mem ht]
            exact Nat.zero_le _
        rw [List.map_set]
        simp only [List.count_append] at hold ⊢
        omega

/-- **Permissions are used once.** Programs that start with no permission use, in every interleaving,
permissions that were earned, each as often at most as it was earned. -/
theorem used_subperm_earned {w : Pool Op Res σ} (h : ∀ p ∈ w.procs, p.Within A none)
    (ls : List (Label ε)) : (w.usedAlong A m ls).Subperm (w.earnedAlong A m ls) := by
  apply history_subperm (holding_none h)
  rw [reduceOption_none]
  exact List.Subperm.refl _

/-! ## One program of an interleaving -/

/-- What one program performs along a schedule, with the answers that it gets. -/
def trace (m : Machine Op Res σ ε) (i : ℕ) : Pool Op Res σ → List (Label ε) → List ((o : Op) × Res o)
  | _, [] => []
  | w, l :: ls =>
      (if l.proc = i then (w.next l).toList.map fun o => ⟨o, (m.exec l.env o w.shared).1⟩ else []) ++
        trace m i (w.step m l) ls

/-- What a program performs along one schedule after another. -/
theorem trace_append (i : ℕ) (w : Pool Op Res σ) (ls ls' : List (Label ε)) :
    w.trace m i (ls ++ ls') = w.trace m i ls ++ (w.run m ls).trace m i ls' := by
  induction ls generalizing w with
  | nil => rfl
  | cons l ls ih =>
      simp only [List.cons_append, trace, run_cons]
      rw [ih, List.append_assoc]

/-- What holds at every operation of a schedule holds of what one program performs. -/
theorem forall_trace {C : ε → Op → σ → Prop} {D : ((o : Op) × Res o) → Prop}
    (hCD : ∀ e o s, C e o s → D ⟨o, (m.exec e o s).1⟩) {i : ℕ} {w : Pool Op Res σ}
    {ls : List (Label ε)} (h : w.Meets m C ls) : ∀ x ∈ w.trace m i ls, D x := by
  induction ls generalizing w with
  | nil => exact fun _ hx => absurd hx List.not_mem_nil
  | cons l ls ih =>
      intro x hx
      unfold trace at hx
      rcases List.mem_append.mp hx with hx | hx
      · split at hx
        · obtain ⟨o, ho, rfl⟩ := List.mem_map.mp hx
          exact hCD _ _ _ (h.1 o (Option.mem_toList.mp ho))
        · exact absurd hx List.not_mem_nil
      · exact ih h.2 x hx

/-- A program within its permissions performs what they grant. -/
theorem granted_trace {i : ℕ} {w : Pool Op Res σ} {held : Option T}
    (h : ∀ p, w.procs[i]? = some p → p.Within A held) (ls : List (Label ε)) :
    A.Granted held (w.trace m i ls) := by
  induction ls generalizing w held with
  | nil => trivial
  | cons l ls ih =>
      unfold trace
      rcases step_cases m w l with ⟨hnone, hstep⟩ | ⟨o, k, hnext, hp, hstep⟩
      · rw [hnone, hstep]
        simpa using ih h
      · rw [hnext, hstep]
        by_cases hi : l.proc = i
        · subst hi
          have hcall := h _ hp
          have hrest := @ih ⟨(m.exec l.env o w.shared).2,
              w.procs.set l.proc (k (m.exec l.env o w.shared).1)⟩
            (A.after held o (m.exec l.env o w.shared).1) fun p hset => ?_
          · simpa [Permissions.Granted] using ⟨hcall.1, hrest⟩
          · obtain rfl : k (m.exec l.env o w.shared).1 = p := by
              simpa [List.getElem?_set, (List.getElem?_eq_some_iff.mp hp).1] using hset
            exact hcall.2 _
        · rw [if_neg hi]
          refine ih fun p hset => h p ?_
          rwa [List.getElem?_set_ne hi] at hset

end Pool

end SolanaBot.Library
