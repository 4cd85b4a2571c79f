import Mathlib.Algebra.BigOperators.Group.Finset.Piecewise
import SolanaBot.Library.FifoLots
import SolanaBot.Analysis.TokenConservation

/-!
# Conservation in the matching of sells with lots

What the observations of a mint amount to is kept in a ledger that knows no lots: the tokens bought, those
matched by sells, which are no more than there are, and the proceeds of these (`ledger`). The cost of the
matched tokens is that of the first ones bought. The open lots are the purchases without the matched
tokens (`lots_recordedBy`), and the trades make the proceeds less the cost (`profit_recordedBy`), so that
tokens and SOL are conserved (`fifo_conserved`).
-/

set_option autoImplicit false

namespace SolanaBot.Analysis

open SolanaBot.Library SolanaBot.Model

/-! ## Observations and their ledger -/

/-- One call of `record_observation`. -/
structure Observation where
  mint : String
  direction : SwapDirection
  inputAmount : Decimal
  outputAmount : Decimal
  ts : Time

/-- Both legs of an observation are positive. -/
def Observation.Positive (o : Observation) : Prop := 0 < o.inputAmount ∧ 0 < o.outputAmount

/-- What it buys is a lot. -/
theorem Observation.Positive.lot {o : Observation} (h : o.Positive) :
    PositiveLots [(⟨o.outputAmount, o.inputAmount⟩ : Lot Decimal)] := by
  intro lot hlot
  cases List.mem_singleton.mp hlot
  exact ⟨h.2, h.1.le⟩

/-- One more observation in the accumulator. -/
def observe (acc : WalletAccumulator) (o : Observation) : WalletAccumulator :=
  acc.recordObservation o.mint o.direction o.inputAmount o.outputAmount o.ts

/-- A new accumulator after some observations. -/
def recordedBy (obs : List Observation) : WalletAccumulator := obs.foldl observe .new

/-- The tokens of a mint that an observation buys, for SOL. -/
def Observation.purchase (mint : String) (o : Observation) : List (Lot Decimal) :=
  match o.direction with
  | .buy => if o.mint = mint then [⟨o.outputAmount, o.inputAmount⟩] else []
  | .sell => []

/-- The purchases of a mint. -/
def purchases (mint : String) (obs : List Observation) : List (Lot Decimal) :=
  obs.flatMap (Observation.purchase mint)

/-- The tokens bought, those of them matched by sells, and what the sells made of these. -/
structure Ledger where
  bought : Decimal
  matched : Decimal
  proceeds : Decimal

/-- One more observation of a mint in its ledger. A sell matches no more tokens than are left. -/
def Ledger.turn (mint : String) (l : Ledger) (o : Observation) : Ledger :=
  if o.mint = mint then
    match o.direction with
    | .buy => { l with bought := l.bought + o.outputAmount }
    | .sell =>
        let sold := min o.inputAmount (l.bought - l.matched)
        { l with
          matched := l.matched + sold
          proceeds := l.proceeds + o.outputAmount / o.inputAmount * sold }
  else l

/-- The ledger of a mint. -/
def ledger (mint : String) (obs : List Observation) : Ledger := obs.foldl (Ledger.turn mint) ⟨0, 0, 0⟩

/-- The cost of the matched tokens, which are the first ones bought. -/
def matchedCost (mint : String) (obs : List Observation) : Decimal :=
  firstCost (purchases mint obs) (ledger mint obs).matched

/-- What the matched tokens of a mint made. -/
def matchedProfit (mint : String) (obs : List Observation) : Decimal :=
  (ledger mint obs).proceeds - matchedCost mint obs

/-- The open lots of an accumulator. -/
def lotsOf (queue : List OpenPosition) : List (Lot Decimal) :=
  queue.map fun p => ⟨p.tokensReceived, p.solSpent⟩

/-- The profit of some trades. -/
def profitOf (trades : List CompletedTrade) : Decimal := (trades.map CompletedTrade.pnlSol).sum

/-! ## One sell -/

/-- **One sell.** It uses up the first lots, and its trades make the proceeds of the tokens less their
cost. -/
theorem sellLots_matches (price : Decimal) (time : Time) (queue : List OpenPosition) {amount : Decimal}
    (hamount : 0 ≤ amount) (hlots : PositiveLots (lotsOf queue)) :
    lotsOf (sellLots price time queue amount).1 =
        dropUnits (lotsOf queue) (min amount (totalUnits (lotsOf queue))) ∧
      profitOf (sellLots price time queue amount).2 =
        price * min amount (totalUnits (lotsOf queue)) -
          firstCost (lotsOf queue) (min amount (totalUnits (lotsOf queue))) := by
  induction queue generalizing amount with
  | nil =>
      have hnone : min amount (totalUnits (lotsOf [])) = 0 := min_eq_right hamount
      rw [hnone]
      exact ⟨rfl, (by rw [mul_zero, zero_sub]; exact neg_zero.symm)⟩
  | cons front queue ih =>
      have hfront : 0 < front.tokensReceived := (hlots _ List.mem_cons_self).1
      have hrest : 0 ≤ totalUnits (lotsOf queue) := units_nonneg hlots.of_cons
      have hcons : lotsOf (front :: queue) =
          ⟨front.tokensReceived, front.solSpent⟩ :: lotsOf queue := rfl
      unfold sellLots
      by_cases hdone : amount ≤ 0
      · have hzero : min amount (totalUnits (lotsOf (front :: queue))) = 0 := by
          rw [le_antisymm hdone hamount]
          exact min_eq_left (units_nonneg hlots)
        rw [if_pos hdone, hzero, dropUnits_zero hlots, firstCost_zero hlots, mul_zero, sub_zero]
        exact ⟨rfl, rfl⟩
      · rw [if_neg hdone, if_neg (not_le.mpr hfront)]
        dsimp only
        rw [hcons, units_cons]
        dsimp only
        rcases lt_or_ge amount front.tokensReceived with hpart | hall
        · -- the lot outlasts the sell
          have hmin : min amount (front.tokensReceived + totalUnits (lotsOf queue)) = amount :=
            min_eq_left (by linarith)
          rw [min_eq_right hpart.le, if_neg (sub_pos.mpr hpart).ne', hmin, dropUnits_cons_of_lt hpart,
            firstCost_cons_of_lt hpart]
          exact ⟨rfl, List.sum_singleton⟩
        · have hmin : min amount (front.tokensReceived + totalUnits (lotsOf queue)) =
              front.tokensReceived + min (amount - front.tokensReceived) (totalUnits (lotsOf queue)) := by
            rw [← min_add_add_left, add_sub_cancel]
          have hmore : 0 ≤ min (amount - front.tokensReceived) (totalUnits (lotsOf queue)) :=
            le_min (sub_nonneg.mpr hall) hrest
          obtain ⟨hleft, hprofit⟩ := ih (sub_nonneg.mpr hall) hlots.of_cons
          rw [min_eq_left hall, sub_self, if_pos rfl, hmin,
            dropUnits_cons_of_le (le_add_of_nonneg_right hmore),
            firstCost_cons_of_le (le_add_of_nonneg_right hmore), add_sub_cancel_left]
          refine ⟨hleft, ?_⟩
          have hcost : front.solSpent * front.tokensReceived / front.tokensReceived =
              front.solSpent := mul_div_cancel_right₀ _ hfront.ne'
          unfold profitOf at hprofit ⊢
          rw [List.map_cons, List.sum_cons, hprofit, hcost]
          ring

/-! ## One observation -/

section Observe

variable (acc : WalletAccumulator) {o : Observation}

/-- A purchase adds a lot. -/
theorem observe_buy (h : o.direction = .buy) :
    (observe acc o).openPositions = Function.update acc.openPositions o.mint
        (acc.openPositions o.mint ++ [⟨o.inputAmount, o.outputAmount, o.ts⟩]) ∧
      (observe acc o).completedTrades = acc.completedTrades := by
  unfold observe WalletAccumulator.recordObservation
  rw [h]
  exact ⟨rfl, rfl⟩

/-- What a sell makes of the lots of its mint. -/
def soldLots (acc : WalletAccumulator) (o : Observation) : List OpenPosition × List CompletedTrade :=
  sellLots (o.outputAmount / o.inputAmount) o.ts (acc.openPositions o.mint) o.inputAmount

/-- A sale takes the first lots and records a completed trade for what they match. -/
theorem observe_sell (h : o.direction = .sell) (hpos : 0 < o.inputAmount) :
    (observe acc o).openPositions =
        Function.update acc.openPositions o.mint (soldLots acc o).1 ∧
      (observe acc o).completedTrades = acc.completedTrades ++ (soldLots acc o).2 := by
  unfold observe WalletAccumulator.recordObservation WalletAccumulator.recordSell
  rw [h]
  dsimp only
  rw [if_neg (not_le.mpr hpos)]
  exact ⟨rfl, rfl⟩

end Observe

/-! ## The ledger of a mint -/

section Snoc

variable (mint : String) (obs : List Observation) {o : Observation}

/-- The record of one observation more. -/
theorem recorded_snoc : recordedBy (obs ++ [o]) = observe (recordedBy obs) o := List.foldl_append

/-- The purchases of one observation more. -/
theorem purchases_snoc : purchases mint (obs ++ [o]) = purchases mint obs ++ o.purchase mint := by
  unfold purchases
  rw [List.flatMap_append, List.flatMap_singleton]

/-- The ledger of one observation more. -/
theorem ledger_snoc : ledger mint (obs ++ [o]) = (ledger mint obs).turn mint o := List.foldl_append

/-- An observation of another mint is no purchase. -/
theorem purchase_of_ne (h : o.mint ≠ mint) : o.purchase mint = [] := by
  unfold Observation.purchase
  cases o.direction with
  | buy => exact if_neg h
  | sell => rfl

/-- A sale is no purchase. -/
theorem purchase_of_sell (h : o.direction = .sell) : o.purchase mint = [] := by
  unfold Observation.purchase
  rw [h]

/-- A purchase is one lot. -/
theorem purchase_of_buy (h : o.direction = .buy) :
    o.purchase o.mint = [⟨o.outputAmount, o.inputAmount⟩] := by
  unfold Observation.purchase
  rw [h]
  exact if_pos rfl

variable (l : Ledger)

/-- An observation of another mint leaves the ledger. -/
theorem turn_of_ne (h : o.mint ≠ mint) : l.turn mint o = l := if_neg h

/-- A purchase adds to what was bought. -/
theorem turn_buy (h : o.direction = .buy) :
    l.turn o.mint o = { l with bought := l.bought + o.outputAmount } := by
  unfold Ledger.turn
  rw [if_pos rfl, h]

/-- The tokens that a sell matches. -/
def Ledger.sold (l : Ledger) (o : Observation) : Decimal := min o.inputAmount (l.bought - l.matched)

/-- A sale adds what it matches and its share of the proceeds. -/
theorem turn_sell (h : o.direction = .sell) :
    l.turn o.mint o =
      { l with
        matched := l.matched + l.sold o
        proceeds := l.proceeds + o.outputAmount / o.inputAmount * l.sold o } := by
  unfold Ledger.turn
  rw [if_pos rfl, h]
  rfl

end Snoc

/-- A ledger that belongs to some purchases: no more is matched than was bought. -/
structure LedgerSound (l : Ledger) (lots : List (Lot Decimal)) : Prop where
  positive : PositiveLots lots
  bought : l.bought = totalUnits lots
  matched_nonneg : 0 ≤ l.matched
  matched_le : l.matched ≤ totalUnits lots

/-- What a sale matches is not negative. -/
theorem LedgerSound.sold_nonneg {l : Ledger} {lots : List (Lot Decimal)} (h : LedgerSound l lots)
    {o : Observation} (hpos : o.Positive) : 0 ≤ l.sold o :=
  le_min hpos.1.le (sub_nonneg.mpr (h.bought ▸ h.matched_le))

/-- A turn keeps the ledger sound. -/
theorem ledgerSound_turn {l : Ledger} {mint : String} {lots : List (Lot Decimal)}
    (h : LedgerSound l lots) {o : Observation} (hpos : o.Positive) :
    LedgerSound (l.turn mint o) (lots ++ o.purchase mint) := by
  by_cases hmint : o.mint = mint
  · subst hmint
    cases hdir : o.direction with
    | buy =>
        have hlot := hpos.lot
        have hunits : totalUnits [(⟨o.outputAmount, o.inputAmount⟩ : Lot Decimal)] =
            o.outputAmount := List.sum_singleton
        rw [turn_buy l hdir, purchase_of_buy hdir]
        refine ⟨h.positive.append hlot, ?_, h.matched_nonneg, ?_⟩
        · rw [units_append, hunits, h.bought]
        · rw [units_append, hunits]
          exact h.matched_le.trans (le_add_of_nonneg_right hpos.2.le)
    | sell =>
        have hsold : l.sold o ≤ l.bought - l.matched := min_le_right _ _
        rw [turn_sell l hdir, purchase_of_sell o.mint hdir, List.append_nil]
        refine ⟨h.positive, h.bought, add_nonneg h.matched_nonneg (h.sold_nonneg hpos), ?_⟩
        dsimp only
        rw [← h.bought]
        linarith
  · rw [turn_of_ne mint l hmint, purchase_of_ne mint hmint, List.append_nil]
    exact h

/-- The ledger of positive observations is sound. -/
theorem ledger_sound (mint : String) {obs : List Observation} (hpos : ∀ o ∈ obs, o.Positive) :
    LedgerSound (ledger mint obs) (purchases mint obs) := by
  induction obs using List.reverseRecOn with
  | nil => exact ⟨fun lot hlot => absurd hlot List.not_mem_nil, rfl, le_rfl, le_rfl⟩
  | append_singleton obs o ih =>
      rw [ledger_snoc, purchases_snoc]
      exact ledgerSound_turn (ih fun o' ho' => hpos o' (List.mem_append_left _ ho'))
        (hpos o (List.mem_append_right _ (List.mem_singleton_self o)))

/-! ## Runs -/

/-- The lots of a mint after a run are its purchases without what is matched. -/
def LotsMatch (acc : WalletAccumulator) (l : Ledger) (lots : List (Lot Decimal)) (mint : String) :
    Prop := lotsOf (acc.openPositions mint) = dropUnits lots l.matched

section Step

variable {acc : WalletAccumulator} {l : Ledger} {lots : List (Lot Decimal)} {o : Observation}
variable (hsound : LedgerSound l lots) (hpos : o.Positive)
include hsound hpos

/-- A sell matches what the ledger says. -/
theorem soldLots_matches (hlots : LotsMatch acc l lots o.mint) :
    lotsOf (soldLots acc o).1 = dropUnits lots (l.matched + l.sold o) ∧
      profitOf (soldLots acc o).2 = o.outputAmount / o.inputAmount * l.sold o -
        (firstCost lots (l.matched + l.sold o) - firstCost lots l.matched) := by
  have hopen : PositiveLots (lotsOf (acc.openPositions o.mint)) := by
    rw [hlots]
    exact positive_dropUnits hsound.positive hsound.matched_nonneg
  have hunits : totalUnits (lotsOf (acc.openPositions o.mint)) = l.bought - l.matched := by
    rw [hlots, units_dropUnits hsound.matched_le hsound.matched_nonneg, hsound.bought]
  obtain ⟨hleft, hprofit⟩ := sellLots_matches (o.outputAmount / o.inputAmount) o.ts
    (acc.openPositions o.mint) hpos.1.le hopen
  have hsold := hsound.sold_nonneg hpos
  have hmin : min o.inputAmount (totalUnits (lotsOf (acc.openPositions o.mint))) = l.sold o := by
    rw [hunits]
    rfl
  rw [hmin, hlots] at hleft hprofit
  rw [firstCost_add hsound.positive hsound.matched_nonneg hsold, add_sub_cancel_left,
    ← dropUnits_add hsound.positive hsound.matched_nonneg hsold]
  exact ⟨hleft, hprofit⟩

/-- The lots of the record match the ledger after one observation more. -/
theorem lotsMatch_observe {mint : String} (hlots : LotsMatch acc l lots mint) :
    LotsMatch (observe acc o) (l.turn mint o) (lots ++ o.purchase mint) mint := by
  unfold LotsMatch
  by_cases hmint : o.mint = mint
  · subst hmint
    cases hdir : o.direction with
    | buy =>
        have hlot := hpos.lot
        rw [(observe_buy acc hdir).1, Function.update_self, turn_buy l hdir, purchase_of_buy hdir,
          dropUnits_append hsound.positive hsound.matched_le hsound.matched_nonneg hlot, ← hlots]
        exact List.map_append
    | sell =>
        rw [(observe_sell acc hdir hpos.1).1, Function.update_self, turn_sell l hdir,
          purchase_of_sell o.mint hdir, List.append_nil]
        exact (soldLots_matches hsound hpos hlots).1
  · have hsame : (observe acc o).openPositions mint = acc.openPositions mint := by
      cases hdir : o.direction with
      | buy => rw [(observe_buy acc hdir).1, Function.update_of_ne (Ne.symm hmint)]
      | sell => rw [(observe_sell acc hdir hpos.1).1, Function.update_of_ne (Ne.symm hmint)]
    rw [hsame, turn_of_ne mint l hmint, purchase_of_ne mint hmint, List.append_nil]
    exact hlots

end Step

section Runs

variable {obs : List Observation} (hpos : ∀ o ∈ obs, o.Positive)
include hpos

/-- **The open lots** are the purchases without the matched tokens. -/
theorem lots_recordedBy (mint : String) :
    LotsMatch (recordedBy obs) (ledger mint obs) (purchases mint obs) mint := by
  induction obs using List.reverseRecOn with
  | nil => rfl
  | append_singleton obs o ih =>
      have hbefore : ∀ o' ∈ obs, o'.Positive := fun o' ho' => hpos o' (List.mem_append_left _ ho')
      have ho := hpos o (List.mem_append_right _ (List.mem_singleton_self o))
      rw [recorded_snoc, ledger_snoc, purchases_snoc]
      exact lotsMatch_observe (ledger_sound mint hbefore) ho (ih hbefore)

end Runs

/-- The profit that one more observation realizes is that of the mint it is about. -/
theorem matchedProfit_snoc {obs : List Observation} (hpos : ∀ o ∈ obs, o.Positive) {o : Observation}
    (ho : o.Positive) (mint : String) :
    matchedProfit mint (obs ++ [o]) = matchedProfit mint obs + if o.mint = mint then
      profitOf (observe (recordedBy obs) o).completedTrades -
        profitOf (recordedBy obs).completedTrades else 0 := by
  have hsound := ledger_sound mint hpos
  unfold matchedProfit matchedCost
  rw [ledger_snoc, purchases_snoc]
  by_cases hmint : o.mint = mint
  · subst hmint
    rw [if_pos rfl]
    cases hdir : o.direction with
    | buy =>
        have hlot := ho.lot
        rw [(observe_buy _ hdir).2, turn_buy _ hdir, purchase_of_buy hdir, sub_self, add_zero,
          firstCost_append hsound.matched_le hsound.matched_nonneg hlot]
    | sell =>
        have hprofit := (soldLots_matches hsound ho (lots_recordedBy hpos o.mint)).2
        have htrades : profitOf (observe (recordedBy obs) o).completedTrades =
            profitOf (recordedBy obs).completedTrades + profitOf (soldLots (recordedBy obs) o).2 := by
          rw [(observe_sell _ hdir ho.1).2]
          unfold profitOf
          rw [List.map_append, List.sum_append]
        rw [htrades, hprofit, turn_sell _ hdir, purchase_of_sell o.mint hdir, List.append_nil]
        dsimp only
        ring
  · rw [if_neg hmint, turn_of_ne mint _ hmint, purchase_of_ne mint hmint, List.append_nil, add_zero]

/-- **The trades** make what the matched tokens of all mints made. -/
theorem profit_recordedBy {obs : List Observation} (hpos : ∀ o ∈ obs, o.Positive)
    (mints : Finset String) (hmints : ∀ o ∈ obs, o.mint ∈ mints) :
    profitOf (recordedBy obs).completedTrades = ∑ mint ∈ mints, matchedProfit mint obs := by
  induction obs using List.reverseRecOn with
  | nil =>
      have hnone : ∀ mint ∈ mints, matchedProfit mint [] = 0 := fun mint _ => sub_self 0
      rw [Finset.sum_eq_zero hnone]
      rfl
  | append_singleton obs o ih =>
      have hbefore : ∀ o' ∈ obs, o'.Positive := fun o' ho' => hpos o' (List.mem_append_left _ ho')
      have hmem : o ∈ obs ++ [o] := List.mem_append_right _ (List.mem_singleton_self o)
      have hsum := ih hbefore fun o' ho' => hmints o' (List.mem_append_left _ ho')
      simp only [matchedProfit_snoc hbefore (hpos o hmem)]
      rw [Finset.sum_add_distrib, ← hsum, Finset.sum_ite_eq, if_pos (hmints o hmem), recorded_snoc]
      ring

/-! ## Conservation -/

/-- The SOL in the open lots of a mint. -/
def heldCost (acc : WalletAccumulator) (mint : String) : Decimal :=
  ((acc.openPositions mint).map OpenPosition.solSpent).sum

/-- Tokens and SOL of a mint are conserved, and its open lots are sound. -/
structure Conserved (obs : List Observation) (mint : String) : Prop where
  tokens : totalUnits (purchases mint obs) =
    heldTokens (recordedBy obs) mint + (ledger mint obs).matched
  sol : totalCost (purchases mint obs) = heldCost (recordedBy obs) mint + matchedCost mint obs
  lots : ∀ lot ∈ (recordedBy obs).openPositions mint, 0 < lot.tokensReceived ∧ 0 ≤ lot.solSpent

/-- **Conservation.** After every sequence of observations with positive legs, the tokens and the SOL of
each mint are in its open lots or matched, the open lots are sound, and the trades make the proceeds of
the matched tokens less their cost. -/
theorem fifo_conserved (obs : List Observation) (hpos : ∀ o ∈ obs, o.Positive) :
    (∀ mint, Conserved obs mint) ∧
      profitOf (recordedBy obs).completedTrades =
        ∑ mint ∈ (obs.map Observation.mint).toFinset,
          ((ledger mint obs).proceeds - matchedCost mint obs) := by
  refine ⟨fun mint => ?_, profit_recordedBy hpos _ fun o ho =>
    List.mem_toFinset.mpr (List.mem_map_of_mem ho)⟩
  have hsound := ledger_sound mint hpos
  have hlots := lots_recordedBy hpos mint
  have htokens : heldTokens (recordedBy obs) mint =
      totalUnits (lotsOf ((recordedBy obs).openPositions mint)) := by
    unfold heldTokens totalUnits lotsOf
    rw [List.map_map]
    rfl
  have hcost : heldCost (recordedBy obs) mint =
      totalCost (lotsOf ((recordedBy obs).openPositions mint)) := by
    unfold heldCost totalCost lotsOf
    rw [List.map_map]
    rfl
  refine ⟨?_, ?_, fun lot hlot => ?_⟩
  · rw [htokens, hlots, units_dropUnits hsound.matched_le hsound.matched_nonneg, sub_add_cancel]
  · rw [hcost, hlots, cost_dropUnits]
    exact (sub_add_cancel _ _).symm
  · have hopen : PositiveLots (lotsOf ((recordedBy obs).openPositions mint)) := by
      rw [hlots]
      exact positive_dropUnits hsound.positive hsound.matched_nonneg
    exact hopen _ (List.mem_map_of_mem hlot)

/-- Two purchases of a token, a sell of part of them, and one of more than there is. -/
def sampleObservations : List Observation :=
  [⟨"TOKEN", .buy, 1, 100, 0⟩, ⟨"TOKEN", .buy, 2, 200, 1⟩, ⟨"TOKEN", .sell, 150, 3, 2⟩,
    ⟨"TOKEN", .sell, 400, 4, 3⟩]

/-- A sale across two lots and one of more than what is left are conserved. -/
theorem fifo_conserved_sample :
    (∀ mint, Conserved sampleObservations mint) ∧
      profitOf (recordedBy sampleObservations).completedTrades =
        ∑ mint ∈ (sampleObservations.map Observation.mint).toFinset,
          ((ledger mint sampleObservations).proceeds - matchedCost mint sampleObservations) :=
  fifo_conserved sampleObservations (by
    unfold sampleObservations Observation.Positive
    simp)

end SolanaBot.Analysis
