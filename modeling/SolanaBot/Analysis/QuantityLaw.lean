import SolanaBot.Analysis.PortfolioRuns

/-!
# Token quantities are conserved

The remaining quantity of a position should be what was last adopted from the chain,
plus what was bought since, minus what was sold since, and a closed position should
hold nothing (`QuantityLaw`).

Two operations break the law: the reconciliation of an open position against a balance
of zero, which closes the position and keeps its remaining quantity, and a purchase
that saturates. `AccountingOp.KeepsQuantity` excludes exactly these, and
`quantityLaw_iff` says that a run obeys the law at every moment if and only if each of
its operations is of that kind.
-/

set_option autoImplicit false

namespace SolanaBot.Analysis

open SolanaBot.Model

/-- Token amounts of one mint: the balance last adopted from the chain, and what was bought
and sold since. -/
structure Tally where
  adopted : ℕ
  bought : ℕ
  sold : ℕ
deriving DecidableEq

/-- The tally of a mint that was never traded. -/
def Tally.zero : Tally := ⟨0, 0, 0⟩

/-- One movement more. -/
def Tally.record (t : Tally) : Movement → Tally
  | .bought fill => { t with bought := t.bought + fill.outputAmount.toNat }
  | .sold fill => { t with sold := t.sold + fill.inputAmount.toNat }
  | .adopted amount => ⟨amount.toNat, 0, 0⟩
  | .marked _ => t

/-- The tally of a mint after a run. -/
def tallyAfter (mint : String) (ops : List AccountingOp) : Tally :=
  (play Tally.record .zero mint ops).2

/-- The remaining quantity is what was adopted, plus purchases, minus sales; a closed position
holds nothing. -/
def QuantityLaw (p : Position) (t : Tally) : Prop :=
  ∃ r, p.remainingQuantityAtomic = some r ∧ r.toNat + t.sold = t.adopted + t.bought ∧
    (p.state = .closed → r = 0)

/-- The law for a mint that may have no position yet. -/
def LawAt : Option Position → Tally → Prop
  | none, t => t = .zero
  | some p, t => QuantityLaw p t

/-- The operation neither closes an open position of nonzero quantity against a balance of
zero, nor buys more than the remaining quantity has room for. -/
def AccountingOp.KeepsQuantity (pf : Portfolio) : AccountingOp → Prop
  | .entry m _ _ _ _ fill _ _ _ => fill.inputValueUsd.isSome → ∀ p r, pf.position m = some p →
      p.remainingQuantityAtomic = some r → r.toNat + fill.outputAmount.toNat < 2 ^ 64
  | .reconcile m amount _ _ => amount = 0 → ∀ p, pf.position m = some p → p.state = .open →
      p.remainingQuantityAtomic = some 0
  | .exit .. | .mark .. => True

/-- The room a movement needs, seen at the position it is about. -/
def Movement.KeepsQuantity (p : Position) : Movement → Prop
  | .bought fill => ∀ r, p.remainingQuantityAtomic = some r →
      r.toNat + fill.outputAmount.toNat < 2 ^ 64
  | .adopted amount => amount = 0 → p.remainingQuantityAtomic = some 0
  | .sold _ | .marked _ => True

/-! ## One movement -/

/-- Positions with the same books keep the same law. -/
theorem LawAt.of_sameBooks {o o' : Option Position} {t : Tally} (h : SameBooks o o')
    (hlaw : LawAt o t) : LawAt o' t := by
  rcases h with rfl | ⟨q, high, value, rfl, rfl⟩
  · exact hlaw
  · exact hlaw

/-- A movement keeps the law exactly if it has the room it needs. -/
theorem Moved.law_iff {o : Option Position} {mv : Movement} {p' : Position} {t : Tally}
    (h : Moved o mv p') (hlaw : LawAt o t) :
    QuantityLaw p' (t.record mv) ↔ ∀ p, o = some p → mv.KeepsQuantity p := by
  cases h with
  | opened fill v _ hfill hv hremaining hstate =>
      have ht : t = .zero := hlaw
      subst ht
      constructor
      · intro _ p hp
        cases hp
      · intro _
        exact ⟨_, hremaining, by simp [Tally.record, Tally.zero], by simp [hstate]⟩
  | added p fill v _ hfill hv hremaining hstate =>
      obtain ⟨r, hr, hsum, -⟩ := hlaw
      rw [hr, Option.getD_some] at hremaining
      constructor
      · rintro ⟨r', hr', hsum', -⟩ q hq r'' hr''
        cases hq
        rw [hr] at hr''
        cases hr''
        rw [hremaining] at hr'
        cases hr'
        simp only [Tally.record] at hsum'
        have hlt := (saturatingAdd r fill.outputAmount).toNat_lt
        omega
      · intro hroom
        refine ⟨_, hremaining, ?_, by simp [hstate]⟩
        rw [toNat_saturatingAdd (hroom p rfl r hr)]
        simp only [Tally.record]
        omega
  | sold p fill remaining newRemaining proceeds entryCost _ hr hsub hv hc hremaining hstate =>
      obtain ⟨r, hr', hsum, hclosed⟩ := hlaw
      rw [hr] at hr'
      cases hr'
      refine iff_of_true ⟨newRemaining, hremaining, ?_, ?_⟩ (fun _ _ => trivial)
      · have hexact := toNat_checkedSub hsub
        simp only [Tally.record]
        omega
      · intro hc'
        by_contra hne
        rw [hstate, if_neg hne] at hc'
        have hexact := toNat_checkedSub hsub
        rw [hclosed hc'] at hexact
        have hnat : newRemaining.toNat = 0 := by
          have h0 : (0 : UInt64).toNat = 0 := rfl
          omega
        exact hne (UInt64.toNat_inj.mp hnat)
  | adopted p amount _ hopen hremaining =>
      obtain ⟨r, hr, -, -⟩ := hlaw
      by_cases hbad : amount = 0 ∧ p.remainingQuantityAtomic ≠ some 0
      · rw [if_pos hbad] at hremaining
        refine iff_of_false ?_ (fun h => hbad.2 (h p rfl hbad.1))
        rintro ⟨r', hr', -, hzero⟩
        rw [hzero hremaining.2] at hr'
        exact hbad.2 (hremaining.1 ▸ hr')
      · rw [if_neg hbad] at hremaining
        refine iff_of_true ⟨amount, hremaining.1, by simp [Tally.record], ?_⟩ ?_
        · simp [hremaining.2]
        · intro q hq hzero
          cases hq
          by_contra hne
          exact hbad ⟨hzero, hne⟩
  | marked p price remaining entryCost _ hr hc hunrealized hremaining hstate =>
      refine iff_of_true ?_ (fun _ _ => trivial)
      obtain ⟨r, hr', hsum, hclosed⟩ := hlaw
      exact ⟨r, hremaining.trans hr', hsum, fun h => hclosed (hstate ▸ h)⟩

/-- An operation that moves a position keeps quantities exactly if its movement does. -/
theorem AccountingOp.keepsQuantity_iff {op : AccountingOp} {pf : Portfolio} {mv : Movement}
    {p' : Position} (hmv : (op.apply pf).1 = some mv) (h : Moved (pf.position op.mint) mv p') :
    op.KeepsQuantity pf ↔ ∀ p, pf.position op.mint = some p → mv.KeepsQuantity p := by
  cases op with
  | entry m baseMint td bd pid fill price sid cost =>
      simp only [apply] at hmv
      split at hmv
      · cases hmv
        simp only [mint] at h ⊢
        have hv : fill.inputValueUsd.isSome := by
          generalize pf.position m = o at h
          cases h with
          | opened _ v _ hfill hv => simp [hv]
          | added p _ v _ hfill hv => simp [hv]
        exact ⟨fun hk p hp r hr => hk hv p r hp hr, fun hk _ p r hp hr => hk p hp r hr⟩
      · cases hmv
  | exit m fill reason now =>
      simp only [apply] at hmv
      split at hmv
      · cases hmv
        exact iff_of_true trivial fun _ _ => trivial
      · cases hmv
  | reconcile m amount decimals now =>
      simp only [apply] at hmv
      split at hmv
      · cases hmv
        simp only [mint] at h ⊢
        have hopen : ∀ p, pf.position m = some p → p.state = .open := by
          intro p hp
          rw [hp] at h
          cases h with
          | adopted _ _ hopen => assumption
        exact ⟨fun hk p hp hzero => hk hzero p hp (hopen p hp),
          fun hk hzero p hp _ => hk p hp hzero⟩
      · cases hmv
  | mark m price =>
      simp only [apply] at hmv
      split at hmv
      · cases hmv
        exact iff_of_true trivial fun _ _ => trivial
      · cases hmv

/-- An operation that moves nothing keeps quantities. -/
theorem AccountingOp.keepsQuantity_of_idle {op : AccountingOp} {pf : Portfolio}
    (hidle : (op.apply pf).1 = none) : op.KeepsQuantity pf := by
  cases op with
  | entry m baseMint td bd pid fill price sid cost =>
      intro hv p r hp hr
      have hzero : fill.outputAmount = 0 := by
        by_contra hfill
        have hok := (Portfolio.applyEntry_ok_iff pf m baseMint td bd pid fill price sid cost).mpr
          ⟨hfill, hv⟩
        simp [apply, hok] at hidle
      rw [hzero]
      exact r.toNat_lt
  | exit m fill reason now => trivial
  | reconcile m amount decimals now =>
      intro hzero p hp hopen
      subst hzero
      by_contra hne
      have hok : (pf.reconcileWithChain m 0 decimals now).1 = .ok true := by
        unfold Portfolio.reconcileWithChain Position.reconcileWithChain
        simp [hp, Position.isOpen, hopen, hne]
      simp [apply, hok] at hidle
  | mark m price => trivial

/-! ## Runs -/

/-- The law holds of every position after a run. -/
def LawAfter (ops : List AccountingOp) : Prop :=
  ∀ mint p, (portfolioAfter ops).position mint = some p → QuantityLaw p (tallyAfter mint ops)

/-- One more operation: the law of a mint is kept exactly if the operation is about another
mint or keeps quantities. It can only fail at a mint that has a position afterwards. -/
theorem playOp_law {mint : String} {s : Portfolio × Tally} (hlaw : LawAt (s.1.position mint) s.2)
    (op : AccountingOp) :
    (LawAt ((playOp Tally.record mint s op).1.position mint) (playOp Tally.record mint s op).2 ↔
        (op.mint = mint → op.KeepsQuantity s.1)) ∧
      ((playOp Tally.record mint s op).1.position mint = none →
        LawAt ((playOp Tally.record mint s op).1.position mint)
          (playOp Tally.record mint s op).2) := by
  rcases playOp_cases Tally.record mint s op with
    ⟨hidle, hbooks, htally⟩ | ⟨mv, p', hm, hmv, hmoved, hp', htally⟩
  · have hkept : LawAt ((playOp Tally.record mint s op).1.position mint)
        (playOp Tally.record mint s op).2 := by
      rw [htally]
      exact hlaw.of_sameBooks hbooks
    exact ⟨iff_of_true hkept fun hm => op.keepsQuantity_of_idle (hidle hm), fun _ => hkept⟩
  · subst hm
    rw [hp', htally]
    refine ⟨(hmoved.law_iff hlaw).trans ?_, fun h => by cases h⟩
    rw [← op.keepsQuantity_iff hmv hmoved]
    simp

/-- The law holds of every mint, also of one that has no position: nothing of it was traded. -/
theorem lawAt_of_prefixes {ops : List AccountingOp}
    (hlaw : ∀ pre, pre <+: ops → LawAfter pre) (mint : String) :
    LawAt ((play Tally.record .zero mint ops).1.position mint)
      (play Tally.record .zero mint ops).2 := by
  induction ops using List.reverseRecOn with
  | nil => rfl
  | append_singleton ops op ih =>
      have hbefore := ih fun pre hpre => hlaw pre (hpre.trans (List.prefix_append ops [op]))
      have hnow := hlaw (ops ++ [op]) List.prefix_rfl mint
      have hfst : portfolioAfter (ops ++ [op]) = (play Tally.record .zero mint (ops ++ [op])).1 :=
        (play_fst ..).symm
      rw [tallyAfter, hfst] at hnow
      rw [play_concat] at hnow ⊢
      cases hp : (playOp Tally.record mint (play Tally.record .zero mint ops) op).1.position mint with
      | none => exact hp ▸ (playOp_law hbefore op).2 hp
      | some p => exact hnow p hp

/-- **Quantities are conserved exactly by the runs that keep them.** After every prefix of a run
the law holds of every position, if and only if no operation of the run closes an open position
of nonzero quantity against a chain balance of zero, or buys past the range of the counter. -/
theorem quantityLaw_iff (ops : List AccountingOp) :
    (∀ pre, pre <+: ops → LawAfter pre) ↔
      ∀ pre op, pre ++ [op] <+: ops → op.KeepsQuantity (portfolioAfter pre) := by
  induction ops using List.reverseRecOn with
  | nil =>
      refine iff_of_true ?_ ?_
      · intro pre hpre mint p hp
        rw [List.prefix_nil.mp hpre] at hp
        cases hp
      · intro pre op hpre
        simp at hpre
  | append_singleton ops op ih =>
      constructor
      · intro hlaw pre op' hpre
        have hbefore : ∀ pre, pre <+: ops → LawAfter pre :=
          fun pre hpre => hlaw pre (hpre.trans (List.prefix_append ops [op]))
        rcases List.prefix_concat_iff.mp hpre with heq | hpre
        · obtain ⟨rfl, hop⟩ := List.append_inj' heq rfl
          cases hop
          have hnow := lawAt_of_prefixes hlaw op.mint
          rw [play_concat] at hnow
          have hkeeps := (playOp_law (lawAt_of_prefixes hbefore op.mint) op).1.mp hnow rfl
          rwa [play_fst] at hkeeps
        · exact ih.mp hbefore pre op' hpre
      · intro hkeeps pre hpre
        have hbefore := ih.mpr fun pre op' hpre =>
          hkeeps pre op' (hpre.trans (List.prefix_append ops [op]))
        rcases List.prefix_concat_iff.mp hpre with rfl | hpre
        · intro mint p hp
          have hlaw := (playOp_law (lawAt_of_prefixes hbefore mint) op).1.mpr fun _ => by
            rw [play_fst]
            exact hkeeps ops op List.prefix_rfl
          rw [← play_concat, play_fst] at hlaw
          exact (show LawAt (some p) _ from hp ▸ hlaw)
        · exact hbefore pre hpre

/-! ## A run that loses the law -/

section Fails

/-- Buy 100 units; then the wallet holds none of them. -/
def closedWithQuantity : List AccountingOp :=
  [.entry "token" "base" 6 9 "position-1" (swapFill "order-1" 10 100 10 0) 1 "signal" someCostModel,
   .reconcile "token" 0 6 0]

/-- The position is closed on the chain's word and still claims to hold 100 units, although the
balance adopted for it is zero. -/
theorem quantityLaw_fails : ¬ ∀ ops, LawAfter ops := by
  intro hlaw
  have hpos : ((portfolioAfter closedWithQuantity).position "token").map
      (fun p => (p.state, p.remainingQuantityAtomic)) = some (.closed, some 100) := by
    decide +kernel
  obtain ⟨p, hp, hfields⟩ := Option.map_eq_some_iff.mp hpos
  obtain ⟨r, hr, -, hclosed⟩ := hlaw closedWithQuantity "token" p hp
  simp only [Prod.mk.injEq] at hfields
  rw [hfields.2, hclosed hfields.1] at hr
  cases hr

end Fails

end SolanaBot.Analysis
