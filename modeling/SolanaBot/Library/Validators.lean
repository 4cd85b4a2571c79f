import Mathlib.Data.List.Forall2

/-!
# Sequences of checks

A validator in `Except` runs one check after another and stops at the first refusal.
It succeeds exactly if every check does.
-/

set_option autoImplicit false

namespace SolanaBot.Library

variable {α β ε ε' : Type}

/-- A step and then the rest. -/
theorem bind_eq_ok_iff {step : Except ε α} {rest : α → Except ε β} {b : β} :
    (step >>= rest) = .ok b ↔ ∃ a, step = .ok a ∧ rest a = .ok b := by
  cases step with
  | error e => exact ⟨fun h => (by cases h), fun ⟨_, h, _⟩ => (by cases h)⟩
  | ok a => exact ⟨fun h => ⟨a, rfl, h⟩, fun ⟨_, h, h'⟩ => by cases h; exact h'⟩

/-- A check and then the rest. -/
theorem check_bind_eq_ok {check : Except ε Unit} {rest : Except ε β} {b : β} :
    (check >>= fun _ => rest) = .ok b ↔ check = .ok () ∧ rest = .ok b := by
  cases check with
  | error e => exact ⟨fun h => (by cases h), fun h => (by cases h.1)⟩
  | ok u => exact ⟨fun h => ⟨rfl, h⟩, fun h => h.2⟩

/-- A loop of checks over a list. -/
theorem forM_eq_ok {check : α → Except ε Unit} {l : List α} :
    l.forM check = .ok () ↔ ∀ x ∈ l, check x = .ok () := by
  induction l with
  | nil => exact ⟨fun _ x hx => absurd hx List.not_mem_nil, fun _ => rfl⟩
  | cons x l ih =>
      have hstep : (x :: l).forM check = (check x >>= fun _ => l.forM check) := rfl
      rw [hstep, check_bind_eq_ok, ih, List.forall_mem_cons]

/-- A loop that collects what its checks return. -/
theorem mapM_eq_ok_iff {f : α → Except ε β} {l : List α} {r : List β} :
    l.mapM f = .ok r ↔ List.Forall₂ (fun x y => f x = .ok y) l r := by
  induction l generalizing r with
  | nil =>
      rw [List.forall₂_nil_left_iff]
      exact ⟨fun h => by cases h; rfl, fun h => by rw [h]; rfl⟩
  | cons x l ih =>
      rw [List.mapM_cons, List.forall₂_cons_left_iff]
      cases hx : f x with
      | error e =>
          exact ⟨fun h => (by cases h), fun ⟨y, r', h, _⟩ => (by cases h)⟩
      | ok y =>
          cases hl : l.mapM f with
          | error e =>
              refine ⟨fun h => (by cases h), fun ⟨y', r', _, h, _⟩ => ?_⟩
              rw [ih.mpr h] at hl
              cases hl
          | ok ys =>
              constructor
              · intro h
                cases h
                exact ⟨y, ys, rfl, ih.mp hl, rfl⟩
              · rintro ⟨y', r', hy, h, rfl⟩
                cases hy
                rw [ih.mpr h] at hl
                cases hl
                rfl

/-- Another text for a refusal. -/
theorem mapError_eq_ok {f : ε → ε'} {e : Except ε β} {b : β} :
    e.mapError f = .ok b ↔ e = .ok b := by
  cases e with
  | error e => exact ⟨fun h => (by cases h), fun h => (by cases h)⟩
  | ok b' => exact ⟨fun h => by cases h; rfl, fun h => by cases h; rfl⟩

end SolanaBot.Library
