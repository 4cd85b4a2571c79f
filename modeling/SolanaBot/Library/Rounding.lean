import Mathlib.Algebra.Order.BigOperators.Group.List
import Mathlib.Algebra.Order.Floor.Ring
import Mathlib.Algebra.Order.Field.Basic
import Mathlib.Data.List.Perm.Subperm
import Mathlib.Data.List.Permutation
import Mathlib.Tactic.FieldSimp
import Mathlib.Tactic.Linarith
import Mathlib.Tactic.NormNum
import Mathlib.Tactic.Ring

/-!
# Rounding

A rounding is monotone and leaves alone what it has rounded. A sum whose additions are rounded is the
sum where the rounding fixes every partial sum (`foldl_round_eq`), and is the same in every order there
and for two summands (`roundedSum_perm`).

Decimal floating point keeps a bounded mantissa and a scale: a value is rounded, halves to even, at the
greatest scale at which its mantissa fits (`decimalRound`). This is a rounding
(`Rounding.decimal`) where the last digit of the bound lets a mantissa that loses a digit stay above
all mantissas that do not.
-/

set_option autoImplicit false

namespace SolanaBot.Library

/-- A monotone function that leaves alone what it has rounded. -/
structure Rounding (K : Type*) [Preorder K] where
  round : K → K
  monotone : Monotone round
  idempotent : ∀ x, round (round x) = round x

/-- The rounding of exact arithmetic. -/
def Rounding.exact (K : Type*) [Preorder K] : Rounding K :=
  { round := id, monotone := monotone_id, idempotent := fun _ => rfl }

/-! ## Sums -/

section Sums

variable {α K : Type*} [AddCommMonoid K] (round : K → K)

/-- A sum from zero, every addition rounded. -/
def roundedSum (l : List K) : K := l.foldl (fun s x => round (s + x)) 0

/-- The rounding fixes every sum of some of the values. -/
def ExactSums (f : α → K) (l : List α) : Prop :=
  ∀ p : List α, p.Subperm l → round (p.map f).sum = (p.map f).sum

variable {round} {f : α → K} {l l' : List α}

/-- Some of the values have exact sums where all have. -/
theorem ExactSums.of_subperm (h : ExactSums round f l) (hl : l'.Subperm l) :
    ExactSums round f l' := by
  intro p hp
  exact h p (hp.trans hl)

/-- Rounded additions to a start give the sum where every partial sum is fixed. -/
theorem foldl_round_eq {start : K}
    (h : ∀ p, p <+: l → round (start + (p.map f).sum) = start + (p.map f).sum) :
    l.foldl (fun s x => round (s + f x)) start = start + (l.map f).sum := by
  induction l generalizing start with
  | nil => simp
  | cons x l ih =>
      have hfirst : round (start + f x) = start + f x := by
        have hone := h [x] (List.cons_prefix_cons.mpr ⟨rfl, List.nil_prefix⟩)
        simpa using hone
      rw [List.foldl_cons, hfirst, ih, List.map_cons, List.sum_cons, add_assoc]
      intro p hp
      have hnext := h (x :: p) (List.cons_prefix_cons.mpr ⟨rfl, hp⟩)
      rwa [List.map_cons, List.sum_cons, ← add_assoc] at hnext

/-- A rounded sum with exact partial sums is the sum. -/
theorem roundedSum_eq_sum (h : ExactSums round f l) : roundedSum round (l.map f) = (l.map f).sum := by
  have hsum : l.foldl (fun s x => round (s + f x)) 0 = 0 + (l.map f).sum := by
    apply foldl_round_eq
    intro p hp
    rw [zero_add]
    exact h p hp.sublist.subperm
  unfold roundedSum
  rw [List.foldl_map, hsum, zero_add]

/-- **Order of the summands.** Two summands that are fixed, or any whose sums are exact, have the same
rounded sum in every order. -/
theorem roundedSum_perm {l l' : List K} (hperm : l.Perm l')
    (h : (l.length ≤ 2 ∧ ∀ x ∈ l, round x = x) ∨ ExactSums round id l) :
    roundedSum round l = roundedSum round l' := by
  rcases h with ⟨hlength, hfixed⟩ | hexact
  · match l, hlength with
    | [], _ => rw [hperm.nil_eq]
    | [x], _ => rw [List.singleton_perm.mp hperm]
    | [x, y], _ =>
        have hx : round x = x := hfixed x (by simp)
        have hy : round y = y := hfixed y (by simp)
        rcases List.pair_perm.mp hperm with rfl | rfl
        · rfl
        · unfold roundedSum
          simp only [List.foldl_cons, List.foldl_nil, zero_add, hx, hy]
          rw [add_comm]
  · have hexact' : ExactSums round id l' := hexact.of_subperm hperm.symm.subperm
    have hsum := roundedSum_eq_sum hexact
    have hsum' := roundedSum_eq_sum hexact'
    rw [List.map_id] at hsum hsum'
    rw [hsum, hsum', hperm.sum_eq]

end Sums

/-! ## Halves to even -/

section HalfEven

variable {K : Type*} [Field K] [LinearOrder K] [FloorRing K]

/-- The nearest integer, and of two the even one. -/
def roundHalfEven (x : K) : ℤ :=
  let lower := ⌊x⌋
  let rest := x - lower
  if rest + rest < 1 then lower
  else if 1 < rest + rest then lower + 1
  else if lower % 2 = 0 then lower
  else lower + 1

/-- The nearest integer is the one below or the one above. -/
theorem floor_le_roundHalfEven (x : K) : ⌊x⌋ ≤ roundHalfEven x ∧ roundHalfEven x ≤ ⌊x⌋ + 1 := by
  unfold roundHalfEven
  dsimp only
  split_ifs <;> omega

variable [IsStrictOrderedRing K]

/-- Rounding to an integer is monotone. -/
theorem roundHalfEven_mono {x y : K} (h : x ≤ y) : roundHalfEven x ≤ roundHalfEven y := by
  rcases lt_or_eq_of_le (Int.floor_le_floor h) with hlt | heq
  · have hx := (floor_le_roundHalfEven x).2
    have hy := (floor_le_roundHalfEven y).1
    omega
  · have hrest : x - ⌊x⌋ ≤ y - ⌊y⌋ := by
      rw [heq]
      exact sub_le_sub_right h _
    unfold roundHalfEven
    dsimp only
    rw [heq] at hrest ⊢
    split_ifs <;> first | omega | (exfalso; linarith)

/-- An integer is its own nearest one. -/
@[simp] theorem roundHalfEven_intCast (n : ℤ) : roundHalfEven (n : K) = n := by
  unfold roundHalfEven
  simp

/-- Above the half below an integer the nearest one is not smaller. -/
theorem le_roundHalfEven {n : ℤ} {x : K} (h : (n : K) - 1 / 2 < x) : n ≤ roundHalfEven x := by
  by_cases hle : n ≤ ⌊x⌋
  · exact hle.trans (floor_le_roundHalfEven x).1
  · have hfloor : ⌊x⌋ = n - 1 := by
      have hbelow : n - 1 ≤ ⌊x⌋ := by
        apply Int.le_floor.mpr
        push_cast
        linarith
      omega
    have hcast : ((n - 1 : ℤ) : K) = (n : K) - 1 := by
      push_cast
      ring
    unfold roundHalfEven
    dsimp only
    rw [hfloor, if_neg (by rw [hcast]; linarith), if_pos (by rw [hcast]; linarith)]
    omega

/-- What is rounded up to an integer is not below the half. -/
theorem sub_half_le_of_le_roundHalfEven {n : ℤ} {x : K} (h : n ≤ roundHalfEven x) :
    (n : K) - 1 / 2 ≤ x := by
  by_contra hlt
  rw [not_le] at hlt
  have hfloor : ⌊x⌋ ≤ n - 1 := by
    have hbelow : ⌊x⌋ < n := by
      apply Int.floor_lt.mpr
      linarith
    omega
  have hup := (floor_le_roundHalfEven x).2
  have hsame : ⌊x⌋ = n - 1 := by omega
  have hcast : ((n - 1 : ℤ) : K) = (n : K) - 1 := by
    push_cast
    ring
  unfold roundHalfEven at h
  dsimp only at h
  rw [hsame, if_pos (by rw [hcast]; linarith)] at h
  omega

end HalfEven

/-! ## Decimal floating point -/

section Decimal

variable {K : Type*} [Field K] [LinearOrder K] [FloorRing K] (bound : ℤ)

/-- The greatest scale, up to a given one, at which the rounded mantissa fits, and else zero. -/
def fitScale (x : K) : ℕ → ℕ
  | 0 => 0
  | n + 1 => if roundHalfEven (x * 10 ^ (n + 1)) < bound then n + 1 else fitScale x n

/-- A value at a scale. -/
def roundAt (x : K) (s : ℕ) : K := (roundHalfEven (x * 10 ^ s) : K) / 10 ^ s

/-- A value that is not negative, at the greatest scale at which its mantissa fits. -/
def roundMagnitude (maxScale : ℕ) (x : K) : K := roundAt x (fitScale bound x maxScale)

/-- Rounding to a mantissa below the bound and a scale: the magnitude is rounded, the sign is kept. A
value that fits at no scale keeps its integer. -/
def decimalRound (maxScale : ℕ) (x : K) : K :=
  if 0 ≤ x then roundMagnitude bound maxScale x else -roundMagnitude bound maxScale (-x)

variable {bound} {x y : K}

/-- The chosen scale does not exceed the greatest one. -/
theorem fitScale_le (x : K) (n : ℕ) : fitScale bound x n ≤ n := by
  induction n with
  | zero => exact le_rfl
  | succ n ih =>
      rw [fitScale]
      split
      · exact le_rfl
      · exact ih.trans (Nat.le_succ n)

/-- At the chosen scale the mantissa fits, if it is not zero. -/
theorem roundHalfEven_lt_of_fitScale {n : ℕ} (h : 0 < fitScale bound x n) :
    roundHalfEven (x * 10 ^ fitScale bound x n) < bound := by
  induction n with
  | zero => exact absurd h (lt_irrefl 0)
  | succ n ih =>
      rw [fitScale] at h ⊢
      split
      · assumption
      · rename_i hfits
        rw [if_neg hfits] at h
        exact ih h

/-- A scale at which the mantissa fits is not above the chosen one. -/
theorem le_fitScale {s n : ℕ} (hs : s ≤ n) (h : s = 0 ∨ roundHalfEven (x * 10 ^ s) < bound) :
    s ≤ fitScale bound x n := by
  induction n with
  | zero => exact hs
  | succ n ih =>
      rw [fitScale]
      split
      · exact hs
      · rename_i hfits
        apply ih
        rcases h with rfl | h
        · exact Nat.zero_le n
        · have hne : s ≠ n + 1 := by
            intro heq
            subst heq
            exact hfits h
          omega

/-- What is not negative is its own magnitude. -/
theorem decimalRound_of_nonneg {maxScale : ℕ} (h : 0 ≤ x) :
    decimalRound bound maxScale x = roundMagnitude bound maxScale x := if_pos h

variable [IsStrictOrderedRing K]

/-- The larger value has the smaller scale. -/
theorem fitScale_anti (n : ℕ) (h : x ≤ y) : fitScale bound y n ≤ fitScale bound x n := by
  apply le_fitScale (fitScale_le y n)
  rcases Nat.eq_zero_or_pos (fitScale bound y n) with hzero | hpos
  · exact .inl hzero
  · right
    have hmono : x * 10 ^ fitScale bound y n ≤ y * 10 ^ fitScale bound y n :=
      mul_le_mul_of_nonneg_right h (by positivity)
    exact (roundHalfEven_mono hmono).trans_lt (roundHalfEven_lt_of_fitScale hpos)

/-- At one scale rounding is monotone. -/
theorem roundAt_mono (s : ℕ) (h : x ≤ y) : roundAt x s ≤ roundAt y s := by
  have hscaled : x * 10 ^ s ≤ y * 10 ^ s := mul_le_mul_of_nonneg_right h (by positivity)
  unfold roundAt
  gcongr
  exact_mod_cast roundHalfEven_mono hscaled

/-- A mantissa at a scale is kept at every greater scale. -/
theorem roundAt_mantissa (m : ℤ) {s t : ℕ} (h : s ≤ t) :
    roundAt ((m : K) / 10 ^ s) t = (m : K) / 10 ^ s := by
  have hscaled : (m : K) / 10 ^ s * 10 ^ t = ((m * 10 ^ (t - s) : ℤ) : K) := by
    obtain ⟨d, rfl⟩ := Nat.exists_eq_add_of_le h
    rw [Nat.add_sub_cancel_left, pow_add]
    push_cast
    field_simp
  unfold roundAt
  rw [hscaled, roundHalfEven_intCast]
  obtain ⟨d, rfl⟩ := Nat.exists_eq_add_of_le h
  rw [Nat.add_sub_cancel_left, pow_add]
  push_cast
  field_simp

/-- A magnitude with a mantissa that fits is kept. -/
theorem roundMagnitude_mantissa {m : ℤ} {s maxScale : ℕ} (hs : s ≤ maxScale)
    (h : s = 0 ∨ m < bound) :
    roundMagnitude bound maxScale ((m : K) / 10 ^ s) = (m : K) / 10 ^ s := by
  apply roundAt_mantissa
  apply le_fitScale hs
  apply h.imp_right
  intro hm
  have hscaled : (m : K) / 10 ^ s * 10 ^ s = (m : K) := by field_simp
  rwa [hscaled, roundHalfEven_intCast]

/-- What is rounded is not negative. -/
theorem roundMagnitude_nonneg (maxScale : ℕ) (h : 0 ≤ x) : 0 ≤ roundMagnitude bound maxScale x := by
  have hzero : roundAt (0 : K) (fitScale bound x maxScale) = 0 := by
    unfold roundAt
    have hint := roundHalfEven_intCast (K := K) 0
    rw [Int.cast_zero] at hint
    rw [zero_mul, hint]
    simp
  rw [← hzero]
  exact roundAt_mono _ h

/-- Rounding a rounded magnitude changes nothing. -/
theorem roundMagnitude_idem (maxScale : ℕ) :
    roundMagnitude bound maxScale (roundMagnitude bound maxScale x) =
      roundMagnitude bound maxScale x := by
  apply roundMagnitude_mantissa (fitScale_le x maxScale)
  rcases Nat.eq_zero_or_pos (fitScale bound x maxScale) with hzero | hpos
  · exact .inl hzero
  · exact .inr (roundHalfEven_lt_of_fitScale hpos)

/-- The last digit of the bound: a mantissa that loses a digit stays above those below the bound. -/
def KeepsOrder (bound : ℤ) : Prop :=
  ∃ top : ℤ, 0 ≤ top ∧ bound ≤ 10 * top + 1 ∧ 10 * top ≤ bound + 4

/-- Rounding a magnitude is monotone. -/
theorem roundMagnitude_mono (hbound : KeepsOrder bound) (maxScale : ℕ) (h : x ≤ y) :
    roundMagnitude bound maxScale x ≤ roundMagnitude bound maxScale y := by
  obtain ⟨top, hnonneg, htop, hkeep⟩ := hbound
  rcases eq_or_lt_of_le (fitScale_anti maxScale h) with heq | hlt
  · unfold roundMagnitude
    rw [heq]
    exact roundAt_mono _ h
  · -- the mantissa of `y` does not fit at the next scale, and that of `x` fits at its own
    generalize hs : fitScale bound y maxScale = s at hlt
    have hmax : s + 1 ≤ maxScale := hlt.trans_le (fitScale_le x maxScale)
    have hfull : bound ≤ roundHalfEven (y * 10 ^ (s + 1)) := by
      by_contra hfits
      have hle := le_fitScale hmax (.inr (not_le.mp hfits))
      omega
    have hy := sub_half_le_of_le_roundHalfEven hfull
    have hmantissa : top ≤ roundHalfEven (y * 10 ^ s) := by
      apply le_roundHalfEven
      have hcast : (10 : K) * top ≤ bound + 4 := by exact_mod_cast hkeep
      rw [pow_succ] at hy
      linarith
    have hx : roundHalfEven (x * 10 ^ fitScale bound x maxScale) < bound :=
      roundHalfEven_lt_of_fitScale (by omega)
    have hlast : roundHalfEven (x * 10 ^ fitScale bound x maxScale) ≤ 10 * top := by omega
    calc roundMagnitude bound maxScale x
        ≤ (10 * top : ℤ) / 10 ^ fitScale bound x maxScale := by
          unfold roundMagnitude roundAt
          gcongr
      _ ≤ (10 * top : ℤ) / 10 ^ (s + 1) := by
          apply div_le_div_of_nonneg_left
          · exact_mod_cast mul_nonneg (by norm_num) hnonneg
          · positivity
          · exact pow_le_pow_right₀ (by norm_num) hlt
      _ = (top : K) / 10 ^ s := by
          rw [pow_succ]
          push_cast
          field_simp
      _ ≤ roundMagnitude bound maxScale y := by
          unfold roundMagnitude roundAt
          rw [hs]
          gcongr

/-- Rounding is odd. -/
theorem decimalRound_neg (maxScale : ℕ) (x : K) :
    decimalRound bound maxScale (-x) = -decimalRound bound maxScale x := by
  have hzero : roundMagnitude bound maxScale (0 : K) = 0 := by
    have hkept := @roundMagnitude_mantissa K _ _ _ bound _ 0 0 maxScale (Nat.zero_le maxScale)
      (.inl rfl)
    simpa using hkept
  unfold decimalRound
  rcases lt_trichotomy x 0 with hneg | rfl | hpos
  · rw [if_pos (neg_nonneg.mpr hneg.le), if_neg (not_le.mpr hneg), neg_neg]
  · rw [neg_zero, if_pos le_rfl, if_pos le_rfl, hzero, neg_zero]
  · rw [if_neg (not_le.mpr (neg_lt_zero.mpr hpos)), if_pos hpos.le, neg_neg]

/-- What has a mantissa below the bound and a scale is kept. -/
theorem decimalRound_mantissa {m : ℤ} {s maxScale : ℕ} (hs : s ≤ maxScale) (h : |m| < bound) :
    decimalRound bound maxScale ((m : K) / 10 ^ s) = (m : K) / 10 ^ s := by
  rcases le_total 0 m with hm | hm
  · rw [abs_of_nonneg hm] at h
    rw [decimalRound_of_nonneg (div_nonneg (by exact_mod_cast hm) (by positivity))]
    exact roundMagnitude_mantissa hs (.inr h)
  · rw [abs_of_nonpos hm] at h
    have hkept := roundMagnitude_mantissa (K := K) hs (.inr h)
    have hneg : (m : K) / 10 ^ s = -(((-m : ℤ) : K) / 10 ^ s) := by
      push_cast
      ring
    have hnonneg : (0 : K) ≤ ((-m : ℤ) : K) / 10 ^ s :=
      div_nonneg (by exact_mod_cast neg_nonneg.mpr hm) (by positivity)
    rw [hneg, decimalRound_neg, decimalRound_of_nonneg hnonneg, hkept]

/-- **Exact sums.** Values at one scale, whose mantissas have magnitudes that sum below the bound, have
exact sums. -/
theorem exactSums_decimalRound {α : Type*} {f : α → K} {l : List α} {s maxScale : ℕ}
    (hs : s ≤ maxScale) (m : α → ℤ) (hf : ∀ x ∈ l, f x = (m x : K) / 10 ^ s)
    (hsum : (l.map fun x => |m x|).sum < bound) : ExactSums (decimalRound bound maxScale) f l := by
  intro p hp
  have hmantissa : ∀ q : List α, q ⊆ l → (q.map f).sum = ((q.map m).sum : ℤ) / (10 : K) ^ s := by
    intro q hq
    induction q with
    | nil => simp
    | cons x q ih =>
        obtain ⟨hx, hq⟩ := List.cons_subset.mp hq
        rw [List.map_cons, List.sum_cons, ih hq, hf x hx, List.map_cons, List.sum_cons]
        push_cast
        ring
  have hmagnitude : ∀ q : List α, |(q.map m).sum| ≤ (q.map fun x => |m x|).sum := by
    intro q
    induction q with
    | nil => simp
    | cons x q ih =>
        simp only [List.map_cons, List.sum_cons]
        exact (abs_add_le _ _).trans (add_le_add le_rfl ih)
  have hpart : (p.map fun x => |m x|).sum ≤ (l.map fun x => |m x|).sum := by
    obtain ⟨q, hperm, hq⟩ := hp
    rw [← (hperm.map fun x => |m x|).sum_eq]
    apply (hq.map fun x => |m x|).sum_le_sum
    intro y hy
    obtain ⟨x, -, rfl⟩ := List.mem_map.mp hy
    exact abs_nonneg _
  rw [hmantissa p hp.subset]
  exact decimalRound_mantissa hs ((hmagnitude p).trans (hpart) |>.trans_lt hsum)

/-- Rounding is monotone. -/
theorem decimalRound_mono (hbound : KeepsOrder bound) (maxScale : ℕ) :
    Monotone (decimalRound bound maxScale : K → K) := by
  intro x y h
  unfold decimalRound
  by_cases hx : 0 ≤ x
  · rw [if_pos hx, if_pos (hx.trans h)]
    exact roundMagnitude_mono hbound maxScale h
  · rw [if_neg hx]
    have hnonpos : -roundMagnitude bound maxScale (-x) ≤ 0 :=
      neg_nonpos.mpr (roundMagnitude_nonneg maxScale (neg_nonneg.mpr (not_le.mp hx).le))
    split
    · rename_i hy
      exact hnonpos.trans (roundMagnitude_nonneg maxScale hy)
    · exact neg_le_neg (roundMagnitude_mono hbound maxScale (neg_le_neg h))

/-- Rounding what is rounded changes nothing. -/
theorem decimalRound_idem (maxScale : ℕ) (x : K) :
    decimalRound bound maxScale (decimalRound bound maxScale x) =
      decimalRound bound maxScale x := by
  rcases le_total 0 x with hx | hx
  · rw [decimalRound_of_nonneg hx, decimalRound_of_nonneg (roundMagnitude_nonneg maxScale hx),
      roundMagnitude_idem]
  · have hpos : 0 ≤ -x := neg_nonneg.mpr hx
    have hneg := @decimalRound_neg K _ _ _ bound _ maxScale (-x)
    rw [neg_neg] at hneg
    rw [hneg, decimalRound_neg, decimalRound_of_nonneg hpos,
      decimalRound_of_nonneg (roundMagnitude_nonneg maxScale hpos), roundMagnitude_idem]

/-- **Decimal rounding.** Rounding to a mantissa and a scale is a rounding. -/
def Rounding.decimal (K : Type*) [Field K] [LinearOrder K] [FloorRing K] [IsStrictOrderedRing K]
    {bound : ℤ} (hbound : KeepsOrder bound) (maxScale : ℕ) : Rounding K :=
  { round := decimalRound bound maxScale
    monotone := decimalRound_mono hbound maxScale
    idempotent := decimalRound_idem maxScale }

end Decimal

end SolanaBot.Library
