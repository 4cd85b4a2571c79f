import SolanaBot.Library.Validators
import SolanaBot.Model.BacktestData

/-!
# Split boundaries

The boundaries of an experiment are checked between neighbours, so that two boundaries with an unset one
between them are never compared; and a record is put into the training period if no later period claims
it, without a look at the end of that period. Records behind the training period train wherever the
period does not reach to the next boundary (`Leaks`), and the law of the boundaries holds exactly if it
does (`splitLaw_iff`).
-/

set_option autoImplicit false

namespace SolanaBot.Analysis

open SolanaBot.Library SolanaBot.Model

variable (c : SplitConfig) (ts : Time)

/-! ## Boundaries -/

/-- The order of neighbouring boundaries, where both are set. -/
structure NeighboursOrdered : Prop where
  train : ∀ te ∈ c.trainEnd, ∀ vs ∈ c.validationStart, te ≤ vs
  validation : ∀ vs ∈ c.validationStart, ∀ ve ∈ c.validationEnd, vs < ve
  oos : ∀ ve ∈ c.validationEnd, ∀ os ∈ c.oosStart, ve ≤ os

/-- The order of all pairs of boundaries that are set. -/
structure BoundariesOrdered : Prop extends NeighboursOrdered c where
  train_validationEnd : ∀ te ∈ c.trainEnd, ∀ ve ∈ c.validationEnd, te ≤ ve
  train_oos : ∀ te ∈ c.trainEnd, ∀ os ∈ c.oosStart, te ≤ os
  validationStart_oos : ∀ vs ∈ c.validationStart, ∀ os ∈ c.oosStart, vs ≤ os

/-- Two boundaries pass if one is missing or they are in order. -/
theorem checkBoundaries_eq_ok {earlier later : Option Time} {wrong : Time → Time → Bool}
    {e : Time → Time → BoundaryError} :
    checkBoundaries earlier later wrong e = .ok () ↔
      ∀ a ∈ earlier, ∀ b ∈ later, wrong a b = false := by
  unfold checkBoundaries
  cases earlier with
  | none => simp
  | some a =>
      cases later with
      | none => simp
      | some b => simp [rejectIf_eq_ok]

/-- The validation compares neighbours. -/
theorem validateBoundaries_eq_ok : c.validateBoundaries = .ok () ↔ NeighboursOrdered c := by
  unfold SplitConfig.validateBoundaries
  simp only [check_bind_eq_ok, checkBoundaries_eq_ok, decide_eq_false_iff_not, gt_iff_lt, ge_iff_le,
    not_lt, not_le]
  exact ⟨fun h => ⟨h.1, h.2.1, h.2.2⟩, fun h => ⟨h.train, h.validation, h.oos⟩⟩

/-! ## Records -/

/-- A record that is not excluded lies in the range of its period: in front of every boundary, inside the
validation period, or at the start of the period out of sample or behind it. -/
def RightlyClassified : Prop :=
  match classifySplitWithExclusion ts c with
  | (.train, none) =>
      (∀ te ∈ c.trainEnd, ts < te) ∧ (∀ vs ∈ c.validationStart, ts < vs) ∧
        (∀ ve ∈ c.validationEnd, ts < ve) ∧ ∀ os ∈ c.oosStart, ts < os
  | (.validation, none) =>
      ∃ vs ∈ c.validationStart, ∃ ve ∈ c.validationEnd, vs ≤ ts ∧ ts < ve
  | (.outOfSample, none) => ∃ start ∈ c.oosStart.or c.validationEnd, start ≤ ts
  | (_, some _) => True

/-- The boundary up to which records train: the start of the validation period, or its end if only that is
set, or the start of the period out of sample. -/
def trainedUpTo : Option Time :=
  match c.validationEnd with
  | some ve => some (c.validationStart.getD ve)
  | none => c.oosStart

/-- The record trains, and lies behind the end of the training period, or behind the start of a validation
period that has no end. -/
def Leaks : Prop :=
  (∀ b ∈ trainedUpTo c, ts < b) ∧
    ((∃ te ∈ c.trainEnd, te ≤ ts) ∨
      (c.validationEnd = none ∧ ∃ vs ∈ c.validationStart, vs ≤ ts))

variable {c ts}

/-- Without a validation the training goes up to the out-of-sample start. -/
theorem trainedUpTo_of_none (h : c.validationEnd = none) : trainedUpTo c = c.oosStart := by
  unfold trainedUpTo
  rw [h]

/-- With one it goes up to the start of the validation. -/
theorem trainedUpTo_of_some {ve : Time} (h : c.validationEnd = some ve) :
    trainedUpTo c = some (c.validationStart.getD ve) := by
  unfold trainedUpTo
  rw [h]

/-- Where a record comes to lie: behind the boundary up to which records train, and then out of sample,
in the validation period or in the gap between them, or in front of it. -/
theorem classify_cases (h : NeighboursOrdered c) :
    ((∃ b ∈ trainedUpTo c, b ≤ ts) ∧
      ((∃ start ∈ c.oosStart.or c.validationEnd, start ≤ ts ∧
          classifySplitWithExclusion ts c = (.outOfSample, none)) ∨
        (∃ vs ∈ c.validationStart, ∃ ve ∈ c.validationEnd, (vs ≤ ts ∧ ts < ve) ∧
          classifySplitWithExclusion ts c = (.validation, none)) ∨
        ∃ gap, classifySplitWithExclusion ts c = (.train, some gap))) ∨
    ((∀ b ∈ trainedUpTo c, ts < b) ∧ classifySplitWithExclusion ts c = (.train, none)) := by
  obtain ⟨te, vs, ve, os⟩ := c
  obtain ⟨-, hvalidation, hoos⟩ := h
  unfold trainedUpTo classifySplitWithExclusion
  cases os with
  | none =>
      cases ve with
      | none => exact .inr (by simp)
      | some ve =>
          cases vs with
          | none =>
              by_cases hbehind : ve ≤ ts
              · exact .inl (by simp [hbehind])
              · exact .inr (by simp [hbehind, not_le.mp hbehind])
          | some vs =>
              have hperiod : vs < ve := hvalidation vs rfl ve rfl
              by_cases hbehind : ve ≤ ts
              · exact .inl (by simp [hbehind, hperiod.le.trans hbehind])
              · by_cases hstart : vs ≤ ts
                · exact .inl (by simp [hbehind, hstart, not_le.mp hbehind])
                · exact .inr (by simp [hbehind, hstart, not_le.mp hstart])
  | some os =>
      cases ve with
      | none =>
          by_cases hout : os ≤ ts
          · exact .inl (by simp [hout])
          · exact .inr (by simp [hout, not_le.mp hout])
      | some ve =>
          have hgap : ve ≤ os := hoos ve rfl os rfl
          cases vs with
          | none =>
              by_cases hout : os ≤ ts
              · exact .inl (by simp [hout, hgap.trans hout])
              · by_cases hbehind : ve ≤ ts
                · exact .inl (by simp [hout, hbehind, not_le.mp hout])
                · exact .inr (by simp [hout, hbehind, not_le.mp hbehind])
          | some vs =>
              have hperiod : vs < ve := hvalidation vs rfl ve rfl
              by_cases hout : os ≤ ts
              · exact .inl (by simp [hout, hperiod.le.trans (hgap.trans hout)])
              · by_cases hbehind : ve ≤ ts
                · exact .inl (by
                    simp [hout, hbehind, not_le.mp hout, hperiod.le.trans hbehind,
                      not_lt.mpr hbehind])
                · by_cases hstart : vs ≤ ts
                  · exact .inl (by simp [hout, hbehind, hstart, not_le.mp hbehind])
                  · exact .inr (by simp [hout, hbehind, hstart, not_le.mp hstart])

/-- A record in front of the boundary up to which records train is in front of all later ones. -/
theorem front_of_trained (h : NeighboursOrdered c) (hfront : ∀ b ∈ trainedUpTo c, ts < b) :
    (c.validationEnd.isSome → ∀ vs ∈ c.validationStart, ts < vs) ∧
      (∀ ve ∈ c.validationEnd, ts < ve) ∧ ∀ os ∈ c.oosStart, ts < os := by
  cases hend : c.validationEnd with
  | none =>
      rw [trainedUpTo_of_none hend] at hfront
      refine ⟨?_, ?_, hfront⟩
      · rintro ⟨⟩
      · rintro ve ⟨⟩
  | some ve =>
      rw [trainedUpTo_of_some hend] at hfront
      have hle : ts < c.validationStart.getD ve := hfront _ rfl
      have hvs : ∀ vs ∈ c.validationStart, ts < vs := by
        intro vs hvs
        rwa [Option.mem_def.mp hvs] at hle
      have hve : ts < ve := by
        cases hstart : c.validationStart with
        | none => rwa [hstart] at hle
        | some vs => exact (hvs vs hstart).trans (h.validation vs hstart ve hend)
      refine ⟨fun _ => hvs, fun ve' hve' => ?_, fun os hos => hve.trans_le (h.oos ve hend os hos)⟩
      obtain rfl := Option.some.inj hve'
      exact hve

/-- Records are classified rightly unless they leak. -/
theorem rightlyClassified_iff (h : NeighboursOrdered c) : RightlyClassified c ts ↔ ¬Leaks c ts := by
  have hcases : _ ∨ (∀ b ∈ trainedUpTo c, ts < b) ∧ _ := classify_cases h
  rcases hcases with
    ⟨⟨b, hb, hbehind⟩, hperiod⟩ | ⟨hfront, htrain⟩
  · refine iff_of_true ?_ fun hleaks => absurd (hleaks.1 b hb) (not_lt.mpr hbehind)
    unfold RightlyClassified
    rcases hperiod with ⟨start, hstart, hle, heq⟩ | ⟨vs, hvs, ve, hve, hin, heq⟩ | ⟨gap, heq⟩
    · rw [heq]
      exact ⟨start, hstart, hle⟩
    · rw [heq]
      exact ⟨vs, hvs, ve, hve, hin⟩
    · rw [heq]
      trivial
  · unfold RightlyClassified Leaks
    rw [htrain, and_iff_right hfront, not_or]
    constructor
    · rintro ⟨hte, hvs, -⟩
      refine ⟨?_, ?_⟩
      · rintro ⟨te, hmem, hle⟩
        exact absurd (hte te hmem) (not_lt.mpr hle)
      · rintro ⟨-, vs, hmem, hle⟩
        exact absurd (hvs vs hmem) (not_lt.mpr hle)
    · rintro ⟨hte, hvs⟩
      obtain ⟨hvs', hve, hos⟩ := front_of_trained h hfront
      refine ⟨fun te hmem => not_le.mp fun hle => hte ⟨te, hmem, hle⟩, ?_, hve, hos⟩
      intro vs hmem
      cases hend : c.validationEnd with
      | none => exact not_le.mp fun hle => hvs ⟨hend, vs, hmem, hle⟩
      | some ve => exact hvs' (by rw [hend]; rfl) vs hmem

/-! ## The law -/

/-- The periods leave no room for a leak: the training period ends at the boundary up to which records
train, and a validation period without an end starts with the period out of sample. -/
structure PeriodsMeet (c : SplitConfig) : Prop where
  train : ∀ te ∈ c.trainEnd, trainedUpTo c = some te
  validation : c.validationEnd = none → ∀ vs ∈ c.validationStart, c.oosStart = some vs

/-- Accepted boundaries are ordered, and every record is classified rightly. -/
def SplitLaw (c : SplitConfig) : Prop :=
  c.validateBoundaries = .ok () → BoundariesOrdered c ∧ ∀ ts, RightlyClassified c ts

/-- A boundary that no record leaks over is the one up to which records train, or behind it. -/
theorem exists_le_of_no_leak {boundary : Time}
    (h : ¬∀ b ∈ trainedUpTo c, boundary < b) : ∃ b, trainedUpTo c = some b ∧ b ≤ boundary := by
  push Not at h
  obtain ⟨b, hb, hle⟩ := h
  exact ⟨b, hb, hle⟩

/-- In ordered boundaries the training does not end behind it. -/
theorem BoundariesOrdered.le_trainedUpTo (h : BoundariesOrdered c) {te b : Time}
    (hte : te ∈ c.trainEnd) (hb : trainedUpTo c = some b) : te ≤ b := by
  cases hend : c.validationEnd with
  | none =>
      rw [trainedUpTo_of_none hend] at hb
      exact h.train_oos te hte b hb
  | some ve =>
      rw [trainedUpTo_of_some hend] at hb
      obtain rfl := Option.some.inj hb
      cases hstart : c.validationStart with
      | none => exact h.train_validationEnd te hte ve hend
      | some vs => exact h.train te hte vs hstart

/-- Where the periods meet, all boundaries are ordered. -/
theorem PeriodsMeet.ordered (hmeet : PeriodsMeet c) (h : NeighboursOrdered c) :
    BoundariesOrdered c := by
  have hvalidationEnd : ∀ te ∈ c.trainEnd, ∀ ve ∈ c.validationEnd, te ≤ ve := by
    intro te hte ve hve
    have hmeets := hmeet.train te hte
    rw [trainedUpTo_of_some hve, Option.some.injEq] at hmeets
    cases hstart : c.validationStart with
    | none =>
        rw [hstart] at hmeets
        exact hmeets.ge
    | some vs =>
        rw [hstart] at hmeets
        exact hmeets.ge.trans (h.validation vs hstart ve hve).le
  refine { h with train_validationEnd := hvalidationEnd, train_oos := ?_, validationStart_oos := ?_ }
  · intro te hte os hos
    cases hend : c.validationEnd with
    | none =>
        have hmeets := hmeet.train te hte
        rw [trainedUpTo_of_none hend, Option.mem_def.mp hos, Option.some.injEq] at hmeets
        exact hmeets.ge
    | some ve => exact (hvalidationEnd te hte ve hend).trans (h.oos ve hend os hos)
  · intro vs hvs os hos
    cases hend : c.validationEnd with
    | none =>
        have hmeets := hmeet.validation hend vs hvs
        rw [Option.mem_def.mp hos, Option.some.injEq] at hmeets
        exact hmeets.ge
    | some ve => exact (h.validation vs hvs ve hend).le.trans (h.oos ve hend os hos)

/-- **Split boundaries.** With ordered neighbours a record is classified rightly unless it leaks; accepted
boundaries are all ordered and classify every record rightly exactly if the periods meet. -/
theorem splitLaw_iff (c : SplitConfig) :
    (NeighboursOrdered c → ∀ ts, RightlyClassified c ts ↔ ¬Leaks c ts) ∧
      (SplitLaw c ↔ (NeighboursOrdered c → PeriodsMeet c)) := by
  refine ⟨fun h ts => rightlyClassified_iff h, ?_⟩
  unfold SplitLaw
  rw [validateBoundaries_eq_ok]
  refine forall_congr' fun hneighbours => ?_
  simp only [rightlyClassified_iff hneighbours]
  constructor
  · rintro ⟨hordered, hleaks⟩
    refine ⟨fun te hte => ?_, fun hend vs hvs => ?_⟩
    · obtain ⟨b, hb, hle⟩ := exists_le_of_no_leak fun hfront =>
        hleaks te ⟨hfront, .inl ⟨te, hte, le_refl te⟩⟩
      rw [hb, le_antisymm hle (hordered.le_trainedUpTo hte hb)]
    · obtain ⟨b, hb, hle⟩ := exists_le_of_no_leak fun hfront =>
        hleaks vs ⟨hfront, .inr ⟨hend, vs, hvs, le_refl vs⟩⟩
      rw [trainedUpTo_of_none hend] at hb
      rw [hb, le_antisymm hle (hordered.validationStart_oos vs hvs b hb)]
  · intro hmeet
    refine ⟨hmeet.ordered hneighbours, fun ts hleaks => ?_⟩
    obtain ⟨hfront, ⟨te, hte, hle⟩ | ⟨hend, vs, hvs, hle⟩⟩ := hleaks
    · exact absurd (hfront te (hmeet.train te hte)) (not_lt.mpr hle)
    · have hos := hmeet.validation hend vs hvs
      have hb : trainedUpTo c = some vs := (trainedUpTo_of_none hend).trans hos
      exact absurd (hfront vs hb) (not_lt.mpr hle)

/-! ## Where the law fails -/

/-- A training period that ends before the validation period starts. -/
def gappedSplit : SplitConfig :=
  { trainEnd := some 10, validationStart := some 20, validationEnd := some 30, oosStart := some 40 }

/-- A training period that ends behind the start of the period out of sample. -/
def reversedSplit : SplitConfig :=
  { trainEnd := some 30, validationStart := none, validationEnd := none, oosStart := some 10 }

/-- A record between the training and the validation period trains, and two boundaries out of order are
accepted if those between them are not set. -/
theorem split_law_fails :
    (gappedSplit.validateBoundaries = .ok () ∧
      classifySplitWithExclusion 15 gappedSplit = (.train, none) ∧ ¬SplitLaw gappedSplit) ∧
    reversedSplit.validateBoundaries = .ok () ∧ ¬SplitLaw reversedSplit := by
  have hgapped : gappedSplit.validateBoundaries = .ok () := by decide
  have hreversed : reversedSplit.validateBoundaries = .ok () := by decide
  have htrains : classifySplitWithExclusion 15 gappedSplit = (.train, none) := by decide
  refine ⟨⟨hgapped, htrains, fun hlaw => ?_⟩, hreversed, fun hlaw => ?_⟩
  · have hright := (hlaw hgapped).2 15
    unfold RightlyClassified at hright
    rw [htrains] at hright
    exact absurd (hright.1 10 rfl) (by decide)
  · exact absurd ((hlaw hreversed).1.train_oos 30 rfl 10 rfl) (by decide)

end SolanaBot.Analysis
