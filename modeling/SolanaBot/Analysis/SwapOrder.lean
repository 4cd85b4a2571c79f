import Mathlib.Tactic.Linarith
import SolanaBot.Library.Reordering
import SolanaBot.Model.WalletMonitor

/-!
# The order of swaps

Lots are matched first-in first-out, so that the accumulator depends on the order of its swaps. Two swaps
lead to the same state in both orders exactly if they are interchangeable (`interchangeable_of_swapFeed`),
and interchangeable swaps lead to one state in every order (`swapFeed_eq_of_perm`).
-/

set_option autoImplicit false

namespace SolanaBot.Analysis

open SolanaBot.Library SolanaBot.Model

/-! ## Feeding swaps to the accumulator -/

/-- A swap, with the clock when it is absorbed. -/
abbrev TimedSwap := ParsedSwap × ClockReadings

/-- One swap: its program is counted, then it is absorbed. -/
def swapTurn (acc : WalletAccumulator) (s : TimedSwap) : WalletAccumulator :=
  (acc.observeDex s.1.dex).absorb s.1 s.2

/-- The accumulator that is fed the swaps one by one. -/
def swapFeed (swaps : List TimedSwap) : WalletAccumulator := swaps.foldl swapTurn .new

/-- Absorbing swaps feeds them to the accumulator. -/
theorem accumulator_absorb (wallet : String) (price : Decimal) (swaps : List TimedSwap) (a : Absorption) :
    (swaps.foldl (fun a s => a.take wallet price s) a).accumulator =
      swaps.foldl swapTurn a.accumulator := by
  induction swaps generalizing a with
  | nil => rfl
  | cons s swaps ih => exact ih _

/-- The lot of a purchase. -/
def lotOf (s : TimedSwap) : OpenPosition :=
  ⟨s.1.inputLeg, s.1.outputLeg, s.1.timestamp s.2.fallback⟩

/-- The order of the two swaps makes no difference: they are in different mints, both are sales, one is
a sale of nothing, or both are purchases with the same lot. -/
def Interchangeable (a b : TimedSwap) : Prop :=
  a.1.tradedMint = b.1.tradedMint →
    (a.1.direction = .sell ∧ (b.1.direction = .sell ∨ a.1.inputLeg ≤ 0)) ∨
      (b.1.direction = .sell ∧ b.1.inputLeg ≤ 0) ∨
      (a.1.direction = .buy ∧ b.1.direction = .buy ∧ lotOf a = lotOf b)

/-- Interchangeability is symmetric. -/
theorem interchangeable_symm {a b : TimedSwap} (h : Interchangeable a b) : Interchangeable b a := by
  intro hmint
  rcases h hmint.symm with ⟨ha, hb | hnone⟩ | ⟨hb, hnone⟩ | ⟨ha, hb, hlot⟩
  · exact .inl ⟨hb, .inl ha⟩
  · exact .inr (.inl ⟨ha, hnone⟩)
  · exact .inl ⟨hb, .inr hnone⟩
  · exact .inr (.inr ⟨hb, ha, hlot.symm⟩)

/-- What a swap does besides its lots. -/
def swapCounted (acc : WalletAccumulator) (s : TimedSwap) : WalletAccumulator :=
  (acc.observeDex s.1.dex).noteActivity (s.1.timestamp s.2.fallback)

/-- A purchase and its lot. -/
def bought (acc : WalletAccumulator) (s : TimedSwap) : WalletAccumulator :=
  { acc with
    buys := acc.buys + 1
    openPositions := Function.update acc.openPositions s.1.tradedMint
      (acc.openPositions s.1.tradedMint ++ [lotOf s]) }

/-- A sale that matches nothing. -/
def unmatchedSale (acc : WalletAccumulator) : WalletAccumulator := { acc with sells := acc.sells + 1 }

section Turns

variable {acc : WalletAccumulator} {s : TimedSwap}

/-- Counting a swap touches no position. -/
@[simp] theorem swapCounted_openPositions : (swapCounted acc s).openPositions = acc.openPositions := rfl

/-- Counting an unmatched sale touches no position. -/
@[simp] theorem unmatchedSale_openPositions :
    (unmatchedSale acc).openPositions = acc.openPositions := rfl

/-- A purchase appends its lot. -/
@[simp] theorem bought_lots : (bought acc s).openPositions s.1.tradedMint =
    acc.openPositions s.1.tradedMint ++ [lotOf s] := Function.update_self _ _ _

/-- A purchase is counted and bought. -/
theorem swapTurn_buy (h : s.1.direction = .buy) : swapTurn acc s = bought (swapCounted acc s) s := by
  unfold swapTurn WalletAccumulator.absorb WalletAccumulator.recordObservation bought
    ParsedSwap.tradedMint
  rw [h]
  rfl

/-- A sale is counted and recorded. -/
theorem swapTurn_sell (h : s.1.direction = .sell) :
    swapTurn acc s = (unmatchedSale (swapCounted acc s)).recordSell s.1.tradedMint s.1.inputLeg
      s.1.outputLeg (s.1.timestamp s.2.fallback) := by
  unfold swapTurn WalletAccumulator.absorb WalletAccumulator.recordObservation
  rw [h]
  rfl

/-- A sale without lots, or of nothing, matches nothing. -/
theorem swapTurn_unmatched (h : s.1.direction = .sell)
    (hnone : acc.openPositions s.1.tradedMint = [] ∨ s.1.inputLeg ≤ 0) :
    swapTurn acc s = unmatchedSale (swapCounted acc s) := by
  rw [swapTurn_sell h]
  unfold WalletAccumulator.recordSell
  by_cases hzero : s.1.inputLeg ≤ 0
  · rw [if_pos hzero]
  · have hempty : (unmatchedSale (swapCounted acc s)).openPositions s.1.tradedMint = [] :=
      hnone.resolve_right hzero
    rw [if_neg hzero]
    dsimp only
    rw [hempty]
    unfold sellLots
    rw [List.append_nil, ← hempty, Function.update_eq_self]

end Turns

/-! ## Swaps in any order -/

/-- Two swaps are counted alike in both orders. -/
theorem swapCounted_comm (acc : WalletAccumulator) (a b : TimedSwap) :
    swapCounted (swapCounted acc a) b = swapCounted (swapCounted acc b) a := by
  have hdex : Function.update (Function.update acc.dexActivity a.1.dex (acc.dexActivity a.1.dex + 1))
        b.1.dex (Function.update acc.dexActivity a.1.dex (acc.dexActivity a.1.dex + 1) b.1.dex + 1) =
      Function.update (Function.update acc.dexActivity b.1.dex (acc.dexActivity b.1.dex + 1))
        a.1.dex
        (Function.update acc.dexActivity b.1.dex (acc.dexActivity b.1.dex + 1) a.1.dex + 1) := by
    by_cases hsame : a.1.dex = b.1.dex
    · rw [hsame]
    · rw [Function.update_of_ne (Ne.symm hsame), Function.update_of_ne hsame,
        Function.update_comm hsame]
  unfold swapCounted WalletAccumulator.observeDex WalletAccumulator.noteActivity
  dsimp only
  rw [hdex]
  congr 2
  · cases acc.lastActivityTs with
    | none => exact max_comm _ _
    | some prev => exact max_right_comm _ _ _
  · cases acc.firstActivityTs with
    | none => exact min_comm _ _
    | some prev => exact min_right_comm _ _ _

/-- Every two of the swaps are interchangeable. -/
def OrderFree (swaps : List TimedSwap) : Prop := ∀ a ∈ swaps, ∀ b ∈ swaps, Interchangeable a b

/-- There are no lots for a sale to match, and no trade is completed. -/
structure Unmatched (swaps : List TimedSwap) (acc : WalletAccumulator) : Prop where
  lots : ∀ s ∈ swaps, s.1.direction = .sell →
    acc.openPositions s.1.tradedMint = [] ∨ s.1.inputLeg ≤ 0
  trades : acc.completedTrades = []

section Reordered

variable {swaps : List TimedSwap} {acc : WalletAccumulator} {a b : TimedSwap}

/-- A purchase leaves the lots of a sale of something as they are. -/
theorem lots_of_buy (h : Interchangeable a b) (ha : a.1.direction = .buy)
    (hb : b.1.direction = .sell) (hlots : acc.openPositions b.1.tradedMint = [] ∨ b.1.inputLeg ≤ 0) :
    (swapTurn acc a).openPositions b.1.tradedMint = [] ∨ b.1.inputLeg ≤ 0 := by
  by_cases hsame : a.1.tradedMint = b.1.tradedMint
  · rcases h hsame with ⟨hsell, -⟩ | ⟨-, hnone⟩ | ⟨-, hbuy, -⟩
    · rw [ha] at hsell
      cases hsell
    · exact .inr hnone
    · rw [hb] at hbuy
      cases hbuy
  · refine hlots.imp_left fun hempty => ?_
    rw [swapTurn_buy ha]
    exact (Function.update_of_ne (Ne.symm hsame) _ _).trans hempty

/-- A turn keeps the swaps unmatched. -/
theorem unmatched_swapTurn (hfree : OrderFree swaps) (ha : a ∈ swaps) (h : Unmatched swaps acc) :
    Unmatched swaps (swapTurn acc a) := by
  cases hdir : a.1.direction with
  | buy =>
      refine ⟨fun s hs hsell => lots_of_buy (hfree a ha s hs) hdir hsell (h.lots s hs hsell), ?_⟩
      rw [swapTurn_buy hdir]
      exact h.trades
  | sell =>
      rw [swapTurn_unmatched hdir (h.lots a ha hdir)]
      exact ⟨h.lots, h.trades⟩

/-- Two purchases commute, with lots in different mints or with the same lot. -/
theorem bought_comm (h : Interchangeable a b) (ha : a.1.direction = .buy)
    (hb : b.1.direction = .buy) : bought (bought acc a) b = bought (bought acc b) a := by
  have hlots : (bought (bought acc a) b).openPositions = (bought (bought acc b) a).openPositions := by
    unfold bought
    dsimp only
    by_cases hsame : a.1.tradedMint = b.1.tradedMint
    · rcases h hsame with ⟨hsell, -⟩ | ⟨hsell, -⟩ | ⟨-, -, hlot⟩
      · rw [ha] at hsell
        cases hsell
      · rw [hb] at hsell
        cases hsell
      · rw [hsame, hlot]
    · rw [Function.update_of_ne (Ne.symm hsame), Function.update_of_ne hsame,
        Function.update_comm hsame]
  calc bought (bought acc a) b
      = { acc with
          buys := acc.buys + 1 + 1
          openPositions := (bought (bought acc a) b).openPositions } := rfl
    _ = { acc with
          buys := acc.buys + 1 + 1
          openPositions := (bought (bought acc b) a).openPositions } := by rw [hlots]
    _ = bought (bought acc b) a := rfl

/-- A purchase and a sale commute. -/
theorem swapTurn_comm_buy_sell (hfree : OrderFree swaps) (ha : a ∈ swaps) (hb : b ∈ swaps)
    (h : Unmatched swaps acc) (hbuy : a.1.direction = .buy) (hsell : b.1.direction = .sell) :
    swapTurn (swapTurn acc a) b = swapTurn (swapTurn acc b) a := by
  have hlots := h.lots b hb hsell
  calc swapTurn (swapTurn acc a) b
      = unmatchedSale (swapCounted (swapTurn acc a) b) :=
        swapTurn_unmatched hsell (lots_of_buy (hfree a ha b hb) hbuy hsell hlots)
    _ = unmatchedSale (bought (swapCounted (swapCounted acc a) b) a) := by rw [swapTurn_buy hbuy]; rfl
    _ = bought (swapCounted (unmatchedSale (swapCounted acc b)) a) a := by rw [swapCounted_comm]; rfl
    _ = swapTurn (swapTurn acc b) a := by rw [swapTurn_unmatched hsell hlots, swapTurn_buy hbuy]

/-- Two turns over swaps that are free of order commute. -/
theorem swapTurn_comm (hfree : OrderFree swaps) (ha : a ∈ swaps) (hb : b ∈ swaps)
    (h : Unmatched swaps acc) :
    swapTurn (swapTurn acc a) b = swapTurn (swapTurn acc b) a := by
  cases hda : a.1.direction with
  | buy =>
      cases hdb : b.1.direction with
      | sell => exact swapTurn_comm_buy_sell hfree ha hb h hda hdb
      | buy =>
          calc swapTurn (swapTurn acc a) b
              = bought (bought (swapCounted (swapCounted acc a) b) a) b := by
                rw [swapTurn_buy hdb, swapTurn_buy hda]; rfl
            _ = bought (bought (swapCounted (swapCounted acc b) a) b) a := by
                rw [swapCounted_comm, bought_comm (hfree a ha b hb) hda hdb]
            _ = swapTurn (swapTurn acc b) a := by rw [swapTurn_buy hda, swapTurn_buy hdb]; rfl
  | sell =>
      cases hdb : b.1.direction with
      | buy => exact (swapTurn_comm_buy_sell hfree hb ha h hdb hda).symm
      | sell =>
          have hla := (unmatched_swapTurn hfree hb h).lots a ha hda
          have hlb := (unmatched_swapTurn hfree ha h).lots b hb hdb
          rw [swapTurn_unmatched hdb hlb, swapTurn_unmatched hda (h.lots a ha hda),
            swapTurn_unmatched hda hla, swapTurn_unmatched hdb (h.lots b hb hdb)]
          exact congrArg (fun acc => unmatchedSale (unmatchedSale acc)) (swapCounted_comm acc a b)

end Reordered

/-- In a new accumulator nothing matches. -/
theorem unmatched_new (swaps : List TimedSwap) : Unmatched swaps .new :=
  ⟨fun _ _ _ => .inl rfl, rfl⟩

/-- Interchangeable swaps lead to one accumulator in every order. -/
theorem swapFeed_eq_of_perm {l l' : List TimedSwap} (hperm : l.Perm l') (hfree : OrderFree l) :
    swapFeed l = swapFeed l' :=
  foldl_eq_of_perm hperm (fun _ ha _ h => unmatched_swapTurn hfree ha h)
    (fun _ ha _ hb _ h => swapTurn_comm hfree ha hb h) (unmatched_new l)

/-- Interchangeable swaps complete no trade. -/
theorem completedTrades_swapFeed {l : List TimedSwap} (hfree : OrderFree l) :
    (swapFeed l).completedTrades = [] :=
  (foldl_keeps (fun _ ha _ h => unmatched_swapTurn hfree ha h) (unmatched_new l)).trades

/-! ## Swaps whose order matters -/

/-- A sale of something takes from a lot. -/
theorem sellLots_singleton_ne (price : Decimal) (time : Time) (lot : OpenPosition) {amount : Decimal}
    (h : 0 < amount) : (sellLots price time [lot] amount).1 ≠ [lot] := by
  unfold sellLots
  rw [if_neg h.not_ge]
  by_cases hempty : lot.tokensReceived ≤ 0
  · rw [if_pos hempty]
    exact (List.cons_ne_nil _ _).symm
  · rw [if_neg hempty]
    dsimp only
    split
    · exact (List.cons_ne_nil _ _).symm
    · intro heq
      have htokens := congrArg OpenPosition.tokensReceived (List.cons.inj heq).1
      have hsold : 0 < min lot.tokensReceived amount := lt_min (not_le.mp hempty) h
      dsimp only at htokens
      linarith

section Pairs

variable {a b : TimedSwap}

/-- The lot of a purchase that is fed first. -/
theorem lots_swapFeed_buy (ha : a.1.direction = .buy) :
    (swapFeed [a]).openPositions a.1.tradedMint = [lotOf a] := by
  change (swapTurn .new a).openPositions a.1.tradedMint = _
  rw [swapTurn_buy ha, bought_lots]
  rfl

/-- A purchase and a sale of one mint leave other lots in the other order. -/
theorem lots_buy_sell (ha : a.1.direction = .buy) (hb : b.1.direction = .sell)
    (hmint : a.1.tradedMint = b.1.tradedMint) (hpos : 0 < b.1.inputLeg) :
    (swapFeed [a, b]).openPositions a.1.tradedMint ≠ (swapFeed [b, a]).openPositions a.1.tradedMint := by
  have hsecond : (swapFeed [b, a]).openPositions a.1.tradedMint = [lotOf a] := by
    change (swapTurn (swapTurn .new b) a).openPositions a.1.tradedMint = _
    rw [swapTurn_buy ha, bought_lots, swapTurn_unmatched hb (.inl rfl)]
    rfl
  have hfirst : (swapFeed [a, b]).openPositions a.1.tradedMint =
      (sellLots (b.1.outputLeg / b.1.inputLeg) (b.1.timestamp b.2.fallback) [lotOf a]
        b.1.inputLeg).1 := by
    change (swapTurn (swapFeed [a]) b).openPositions a.1.tradedMint = _
    rw [swapTurn_sell hb]
    unfold WalletAccumulator.recordSell
    rw [if_neg hpos.not_ge, ← hmint]
    dsimp only
    rw [Function.update_self, unmatchedSale_openPositions, swapCounted_openPositions, lots_swapFeed_buy ha]
  rw [hfirst, hsecond]
  exact sellLots_singleton_ne _ _ _ hpos

/-- Two purchases of one mint leave their lots in their order. -/
theorem lots_buy_buy (ha : a.1.direction = .buy) (hb : b.1.direction = .buy)
    (hmint : a.1.tradedMint = b.1.tradedMint) :
    (swapFeed [a, b]).openPositions b.1.tradedMint = [lotOf a, lotOf b] := by
  change (swapTurn (swapFeed [a]) b).openPositions b.1.tradedMint = _
  rw [swapTurn_buy hb, bought_lots, swapCounted_openPositions, ← hmint, lots_swapFeed_buy ha]
  rfl

/-- Two swaps that lead to one state in both orders are interchangeable. -/
theorem interchangeable_of_swapFeed (h : swapFeed [a, b] = swapFeed [b, a]) : Interchangeable a b := by
  intro hmint
  cases hda : a.1.direction with
  | buy =>
      cases hdb : b.1.direction with
      | buy =>
          have hlots := lots_buy_buy hda hdb hmint
          rw [h, ← hmint, lots_buy_buy hdb hda hmint.symm] at hlots
          exact .inr (.inr ⟨rfl, rfl, (List.cons.inj hlots).1.symm⟩)
      | sell =>
          refine .inr (.inl ⟨rfl, not_lt.mp fun hpos => ?_⟩)
          exact lots_buy_sell hda hdb hmint hpos (by rw [h])
  | sell =>
      cases hdb : b.1.direction with
      | sell => exact .inl ⟨rfl, .inl rfl⟩
      | buy =>
          refine .inl ⟨rfl, .inr (not_lt.mp fun hpos => ?_)⟩
          exact lots_buy_sell hdb hda hmint.symm hpos (by rw [h])

end Pairs

end SolanaBot.Analysis
