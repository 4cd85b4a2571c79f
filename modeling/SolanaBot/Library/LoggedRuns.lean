import Mathlib.Logic.Basic

/-!
# Runs with a log

A state makes moves, as far as they are possible, and a log notes what is of interest at each of them.
What the log says may be a part of an invariant (`runLogged_invariant`).
-/

set_option autoImplicit false

namespace SolanaBot.Library

variable {S M L : Type} (step : S → M → Option S) (note : S → M → L → L)

/-- The state and the log after the moves, if all of them are possible. -/
def runLogged : S → L → List M → Option (S × L)
  | s, l, [] => some (s, l)
  | s, l, m :: ms => (step s m).bind fun s' => runLogged s' (note s m l) ms

/-- Every move meets a condition on the state and the log before it. -/
def MeetsLogged (C : S → L → M → Prop) : S → L → List M → Prop
  | _, _, [] => True
  | s, l, m :: ms => C s l m ∧ ∀ s' ∈ step s m, MeetsLogged C s' (note s m l) ms

/-- Whether a run meets a condition on its log can be evaluated. -/
instance MeetsLogged.decidable {C : S → L → M → Prop} [∀ s l m, Decidable (C s l m)] :
    ∀ s l ms, Decidable (MeetsLogged step note C s l ms)
  | _, _, [] => isTrue trivial
  | s, l, m :: ms =>
      have : ∀ s', Decidable (MeetsLogged step note C s' (note s m l) ms) := fun s' =>
        MeetsLogged.decidable s' (note s m l) ms
      inferInstanceAs (Decidable (C s l m ∧ ∀ s' ∈ step s m, _))

variable {step note}

/-- **The rule for runs.** What every move keeps that meets the condition holds at the end. -/
theorem runLogged_invariant {C : S → L → M → Prop} {I : S → L → Prop}
    (hstep : ∀ s l m s', I s l → C s l m → step s m = some s' → I s' (note s m l))
    {s : S} {l : L} {ms : List M} (hI : I s l) (hmeets : MeetsLogged step note C s l ms)
    {s' : S} {l' : L} (hrun : runLogged step note s l ms = some (s', l')) : I s' l' := by
  induction ms generalizing s l with
  | nil =>
      cases hrun
      exact hI
  | cons m ms ih =>
      rw [runLogged] at hrun
      obtain ⟨next, hmove, hrest⟩ := Option.bind_eq_some_iff.mp hrun
      exact ih (hstep s l m next hI hmeets.1 hmove) (hmeets.2 next hmove) hrest

end SolanaBot.Library
