import Mathlib.Tactic.GCongr
import Mathlib.Tactic.Linarith
import Mathlib.Algebra.Order.Field.Basic
import Mathlib.Data.Rat.Cast.Order
import SolanaBot.Model.WalletReconstruction

/-!
# The score of a wallet is monotone

`score_wallet` (smart_money/classifier.rs:21-49) weighs a clamped sum by the sample size, adds a
clamped profit and puts the result through a cascade of tiers. One record of statistics is at least
as good as another if none of the nine figures speaks against it (`AtLeastAsGood`). The parts of the
score follow this order one by one, the score follows its parts, and the tier follows the score and
the number of trades, whatever the thresholds are.
-/

set_option autoImplicit false

namespace SolanaBot.Analysis

open SolanaBot.Model

/-- No figure of the second record is worse than that of the first. -/
structure AtLeastAsGood (a b : WalletStats) : Prop where
  winRate : a.winRate ≤ b.winRate
  avgReturn : a.avgReturnPct ≤ b.avgReturnPct
  medianReturn : a.medianReturnPct ≤ b.medianReturnPct
  recentReturn : a.recentReturnPct ≤ b.recentReturnPct
  realizedPnl : a.realizedPnlUsd ≤ b.realizedPnlUsd
  trades : a.trades ≤ b.trades
  drawdown : b.maxDrawdownPct ≤ a.maxDrawdownPct
  concentration : b.concentrationPct ≤ a.concentrationPct
  scamExposure : b.scamExposurePct ≤ a.scamExposurePct

/-- The position of a tier in the ladder Candidate, Observed, Qualified, HighConfidence. -/
def tierRank : WalletTier → ℕ
  | .candidate => 0
  | .observed => 1
  | .qualified => 2
  | .highConfidence => 3

/-! ## The parts of the score -/

/-- RUST: smart_money/classifier.rs:27-28. The weight of the sample. -/
def sampleWeight (trades : UInt32) (t : SmartMoneyThresholds) : Decimal :=
  min ((trades.toNat : ℚ) / (max t.qualifiedTrades.toNat 1 : ℕ)) 1

/-- RUST: smart_money/classifier.rs:29-33. -/
def performance (s : WalletStats) : Decimal :=
  max (s.winRate * 25 + min s.avgReturnPct 30 + min s.medianReturnPct 20 + min s.recentReturnPct 15)
    0

/-- RUST: smart_money/classifier.rs:34-36. -/
def penalties (s : WalletStats) : Decimal :=
  min s.maxDrawdownPct 30 + max s.concentrationPct 0 * (1 / 10) + max s.scamExposurePct 0 * (1 / 2)

/-- RUST: smart_money/classifier.rs:38. -/
def profitBonus (s : WalletStats) : Decimal := min (max s.realizedPnlUsd 0) 10

/-- The score is the clipped performance, weighted, with the bonus, and at most a hundred. -/
theorem walletScore_eq (s : WalletStats) (t : SmartMoneyThresholds) :
    walletScore s t =
      min (max (performance s - penalties s) 0 * sampleWeight s.trades t + profitBonus s) 100 :=
  rfl

/-- The weight of a sample is not negative. -/
theorem sampleWeight_nonneg (trades : UInt32) (t : SmartMoneyThresholds) :
    0 ≤ sampleWeight trades t := by
  apply le_min
  · positivity
  · exact zero_le_one

/-- It grows with the trades. -/
theorem sampleWeight_mono {m n : UInt32} (h : m ≤ n) (t : SmartMoneyThresholds) :
    sampleWeight m t ≤ sampleWeight n t := by
  have hcast : (m.toNat : ℚ) ≤ n.toNat := Nat.cast_le.mpr (UInt32.le_iff_toNat_le.mp h)
  apply min_le_min_right
  gcongr

/-- The bonus is not negative. -/
theorem profitBonus_nonneg (s : WalletStats) : 0 ≤ profitBonus s := by
  apply le_min
  · exact le_max_right _ _
  · norm_num

section Order

variable {a b : WalletStats} (h : AtLeastAsGood a b)
include h

/-- A wallet at least as good has at least the performance. -/
theorem AtLeastAsGood.performance_le : performance a ≤ performance b := by
  have hwin := h.winRate
  have havg := min_le_min_right 30 h.avgReturn
  have hmedian := min_le_min_right 20 h.medianReturn
  have hrecent := min_le_min_right 15 h.recentReturn
  apply max_le_max_right
  linarith

/-- It has at most the penalties. -/
theorem AtLeastAsGood.penalties_le : penalties b ≤ penalties a := by
  have hdrawdown := min_le_min_right 30 h.drawdown
  have hconcentration := max_le_max_right 0 h.concentration
  have hscam := max_le_max_right 0 h.scamExposure
  unfold penalties
  linarith

/-- It has at least the bonus. -/
theorem AtLeastAsGood.profitBonus_le : profitBonus a ≤ profitBonus b :=
  min_le_min_right 10 (max_le_max_right 0 h.realizedPnl)

/-- The score follows its parts. -/
theorem AtLeastAsGood.walletScore_le (t : SmartMoneyThresholds) :
    walletScore a t ≤ walletScore b t := by
  have hnet : max (performance a - penalties a) 0 ≤ max (performance b - penalties b) 0 :=
    max_le_max_right 0 (sub_le_sub h.performance_le h.penalties_le)
  have hweighted : max (performance a - penalties a) 0 * sampleWeight a.trades t ≤
      max (performance b - penalties b) 0 * sampleWeight b.trades t := by
    apply mul_le_mul hnet (sampleWeight_mono h.trades t) (sampleWeight_nonneg _ _)
    exact le_max_right _ _
  rw [walletScore_eq, walletScore_eq]
  apply min_le_min_right
  exact add_le_add hweighted h.profitBonus_le

end Order

/-- A score is between zero and a hundred. -/
theorem walletScore_mem (s : WalletStats) (t : SmartMoneyThresholds) :
    0 ≤ walletScore s t ∧ walletScore s t ≤ 100 := by
  rw [walletScore_eq]
  constructor
  · apply le_min
    · apply add_nonneg
      · exact mul_nonneg (le_max_right _ _) (sampleWeight_nonneg _ _)
      · exact profitBonus_nonneg s
    · norm_num
  · exact min_le_right _ _

/-! ## The tiers -/

/-- The tier follows the number of trades and the score, for all thresholds. A higher score with
as many trades can only pass more of the conditions, from the top of the cascade down. -/
theorem walletTier_mono {m n : UInt32} {x y : Decimal} (hmn : m ≤ n) (hxy : x ≤ y)
    (t : SmartMoneyThresholds) :
    tierRank (walletTier m x t) ≤ tierRank (walletTier n y t) := by
  have hqualified : m ≥ t.qualifiedTrades → n ≥ t.qualifiedTrades := fun hm =>
    UInt32.le_trans hm hmn
  have hobserved : m ≥ t.observedTrades → n ≥ t.observedTrades := fun hm =>
    UInt32.le_trans hm hmn
  unfold walletTier
  by_cases hhigh : n ≥ t.qualifiedTrades ∧ y ≥ t.highConfidenceScore
  · rw [if_pos hhigh]
    split_ifs <;> simp [tierRank]
  · have hm : ¬ (m ≥ t.qualifiedTrades ∧ x ≥ t.highConfidenceScore) := fun hm =>
      hhigh ⟨hqualified hm.1, le_trans hm.2 hxy⟩
    rw [if_neg hhigh, if_neg hm]
    by_cases hmid : n ≥ t.qualifiedTrades ∧ y ≥ t.qualifiedScore
    · rw [if_pos hmid]
      split_ifs <;> simp [tierRank]
    · have hm : ¬ (m ≥ t.qualifiedTrades ∧ x ≥ t.qualifiedScore) := fun hm =>
        hmid ⟨hqualified hm.1, le_trans hm.2 hxy⟩
      rw [if_neg hmid, if_neg hm]
      by_cases hlow : m ≥ t.observedTrades
      · rw [if_pos hlow, if_pos (hobserved hlow)]
      · rw [if_neg hlow]
        exact Nat.zero_le _

/-- **The score is a percentage, and score and tier are monotone.** For all thresholds, every
score lies between 0 and 100, and a wallet none of whose nine figures is worse has no lower score
and no lower tier. -/
theorem scoreWallet_monotone (t : SmartMoneyThresholds) :
    (∀ s, 0 ≤ (scoreWallet s t).score ∧ (scoreWallet s t).score ≤ 100) ∧
      ∀ a b, AtLeastAsGood a b → (scoreWallet a t).score ≤ (scoreWallet b t).score ∧
        tierRank (scoreWallet a t).tier ≤ tierRank (scoreWallet b t).tier := by
  constructor
  · intro s
    exact walletScore_mem s t
  · intro a b h
    exact ⟨h.walletScore_le t, walletTier_mono h.trades (h.walletScore_le t) t⟩

/-- A wallet with 25 trades, winning four of five. -/
def steadyWallet : WalletStats :=
  { wallet := "wallet", entityId := none, realizedPnlUsd := 50, winRate := 4 / 5, avgReturnPct := 15
    medianReturnPct := 10, maxDrawdownPct := 5, trades := 25, recentReturnPct := 12
    concentrationPct := 10, scamExposurePct := 0, score := 0, tier := .candidate, updatedAt := 0
    avgWinPct := none, avgLossPct := none }

/-- It is qualified, and no worse with a higher win rate and more trades. -/
theorem scoreWallet_monotone_steady :
    (scoreWallet steadyWallet .default).tier = .qualified ∧
      tierRank (scoreWallet steadyWallet .default).tier ≤
        tierRank (scoreWallet { steadyWallet with winRate := 1, trades := 50 } .default).tier := by
  refine ⟨by decide +kernel, ?_⟩
  apply ((scoreWallet_monotone .default).2 _ _ _).2
  constructor <;> decide +kernel

end SolanaBot.Analysis
