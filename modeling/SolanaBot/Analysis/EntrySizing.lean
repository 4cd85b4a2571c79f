import Mathlib.Tactic.FieldSimp
import Mathlib.Tactic.Linarith
import Mathlib.Tactic.Positivity
import SolanaBot.Analysis.CandidateIngestion
import SolanaBot.Analysis.EntryEvaluations

/-!
# The size of a live entry

A live entry has a size in USD. The amount that is computed from it is taken twice: as the number of
lamports that the quote is asked for, and, capped, as the USD notional that the risk engine is asked
about. Neither is the size. Where the amount is below the cap, the two fit together exactly for a price
of `10 ^ (decimals - 9)` USD, and then only for a token with eighteen decimals, or for an amount that is
not read and not worth more than a lamport (`live_size_iff`).
-/

set_option autoImplicit false

namespace SolanaBot.Analysis

open SolanaBot.Library SolanaBot.Model

/-- RUST: runtime.rs:1626-1645. The USD size of a live entry: the candidate's, if the risk engine
allows that much, and otherwise as much as it allows. -/
def liveUsdSize (config : Config) (s : SessionState) (c : CandidateInput) : Decimal :=
  let maxPos := (s.risk.maxPositionUsd config.strategy.stopLossPct).getD 0
  if c.positionUsd > 0 ∧ c.positionUsd ≤ maxPos then c.positionUsd else maxPos

/-- The lamports are worth the notional, up to one lamport. -/
def WorthNotional (sol : Decimal) (lamports : UInt64) (notional : Decimal) : Prop :=
  |dec lamports * sol / 10 ^ 9 - notional| ≤ sol / 10 ^ 9

/-- The amount that is computed for a size. -/
def sizedAmount (size sol : Decimal) (decimals : UInt8) : Decimal :=
  size * sol * 10 ^ 9 / 10 ^ decimals.toNat

/-- The sizes that are spent as authorized, by whether the text of the amount is read as an integer. An
amount from the cap on is authorized only if the exposure is negative. -/
def SpentAsSized (size sol cap : Decimal) (decimals : UInt8) (read : Bool) : Prop :=
  if sizedAmount size sol decimals < cap then
    sol * 10 ^ 9 = 10 ^ decimals.toNat ∧ if read then decimals = 18 else size ≤ sol / 10 ^ 9
  else
    cap ≤ size ∧ if read then |sizedAmount size sol decimals * sol / 10 ^ 9 - cap| ≤ sol / 10 ^ 9
      else cap ≤ sol / 10 ^ 9

section Amounts

variable {size sol cap : Decimal} {decimals : UInt8}

/-- The amount is the size exactly at one price for every number of decimals. -/
theorem sizedAmount_eq_iff (hsize : 0 < size) :
    sizedAmount size sol decimals = size ↔ sol * 10 ^ 9 = 10 ^ decimals.toNat := by
  unfold sizedAmount
  rw [div_eq_iff (by positivity), mul_assoc]
  exact mul_right_inj' hsize.ne'

/-- At that price a lamport is worth a dollar for eighteen decimals, and otherwise at most a tenth. -/
theorem lamport_worth (hprice : sol * 10 ^ 9 = 10 ^ decimals.toNat) (hdecimals : decimals.toNat ≤ 18) :
    (decimals = 18 → sol / 10 ^ 9 = 1) ∧ (decimals ≠ 18 → sol / 10 ^ 9 ≤ 1 / 10) := by
  have hsol : sol = 10 ^ decimals.toNat / 10 ^ 9 := by
    rw [← hprice]
    field_simp
  constructor
  · rintro rfl
    rw [hsol, show (18 : UInt8).toNat = 18 from rfl]
    norm_num
  · intro hne
    have hlt : decimals.toNat ≤ 17 := by
      have : decimals.toNat ≠ 18 := fun h => hne (UInt8.toNat_inj.mp h)
      omega
    have hpow : (10 : ℚ) ^ decimals.toNat ≤ 10 ^ 17 := pow_le_pow_right₀ (by norm_num) hlt
    rw [hsol, div_div, div_le_iff₀ (by norm_num)]
    calc (10 : ℚ) ^ decimals.toNat ≤ 10 ^ 17 := hpow
      _ = 1 / 10 * (10 ^ 9 * 10 ^ 9) := by norm_num

/-- A positive amount is one of a positive size. -/
theorem size_pos_of_amount (hsol : 0 < sol) (hamount : 0 < sizedAmount size sol decimals) :
    0 < size := by
  by_contra hnot
  have : sizedAmount size sol decimals ≤ 0 := by
    unfold sizedAmount
    exact div_nonpos_of_nonpos_of_nonneg (mul_nonpos_of_nonpos_of_nonneg
      (mul_nonpos_of_nonpos_of_nonneg (not_lt.mp hnot) hsol.le) (by norm_num)) (by positivity)
  linarith

/-- Spending nothing is worth the notional only if a lamport is. -/
theorem worthNotional_zero_iff {notional : Decimal} (hpositive : 0 < notional) :
    WorthNotional sol 0 notional ↔ notional ≤ sol / 10 ^ 9 := by
  unfold WorthNotional
  rw [show dec 0 = 0 from rfl, zero_mul, zero_div, zero_sub, abs_neg, abs_of_pos hpositive]

/-- At the price of `sizedAmount_eq_iff`, an integer size in lamports is worth that size in dollars
only for eighteen decimals. -/
theorem worthNotional_self_iff (hsize : 0 < size) (hdecimals : decimals.toNat ≤ 18)
    (hprice : sol * 10 ^ 9 = 10 ^ decimals.toNat) {v : UInt64} (hv : dec v = size) :
    WorthNotional sol v size ↔ decimals = 18 := by
  obtain ⟨hdollar, hcents⟩ := lamport_worth hprice hdecimals
  unfold WorthNotional
  rw [hv, mul_div_assoc]
  by_cases heighteen : decimals = 18
  · refine iff_of_true ?_ heighteen
    rw [hdollar heighteen, mul_one, sub_self, abs_zero]
    exact zero_le_one
  · refine iff_of_false (not_le.mpr ?_) heighteen
    -- an amount that is read is at least one, and nearly all of it is missing
    have hone : 1 ≤ size := by
      rw [← hv]
      have hne : v.toNat ≠ 0 := by
        intro hzero
        rw [← hv] at hsize
        unfold dec at hsize
        rw [hzero] at hsize
        exact absurd hsize (by norm_num)
      unfold dec
      exact_mod_cast Nat.one_le_iff_ne_zero.mpr hne
    have hq := hcents heighteen
    have hlow : size - size * (sol / 10 ^ 9) ≤ |size * (sol / 10 ^ 9) - size| := by
      rw [abs_sub_comm]
      exact le_abs_self _
    have hmul : size * (sol / 10 ^ 9) ≤ size * (1 / 10) := mul_le_mul_of_nonneg_left hq hsize.le
    linarith

/-- What is read of an amount is spent as authorized exactly for some sizes. -/
theorem spent_iff (hsol : 0 < sol) (hdecimals : decimals.toNat ≤ 18)
    (hpositive : 0 < min (sizedAmount size sol decimals) cap) (read : Option UInt64)
    (hread : ∀ v, read = some v → dec v = sizedAmount size sol decimals) :
    (WorthNotional sol (read.getD 0) (min (sizedAmount size sol decimals) cap) ∧
        min (sizedAmount size sol decimals) cap = min size cap) ↔
      SpentAsSized size sol cap decimals read.isSome := by
  obtain ⟨hamount, hcap⟩ := lt_min_iff.mp hpositive
  have hsize : 0 < size := size_pos_of_amount hsol hamount
  unfold SpentAsSized
  by_cases hbelow : sizedAmount size sol decimals < cap
  · have hsame : sizedAmount size sol decimals = min size cap ↔ sizedAmount size sol decimals = size := by
      constructor
      · intro h
        rcases min_choice size cap with hmin | hmin <;> rw [hmin] at h
        · exact h
        · exact absurd h hbelow.ne
      · intro h
        rw [min_eq_left (by linarith), h]
    rw [if_pos hbelow, min_eq_left hbelow.le, hsame, sizedAmount_eq_iff hsize, and_comm]
    refine and_congr_right fun hprice => ?_
    have heq := (sizedAmount_eq_iff hsize).mpr hprice
    rw [heq]
    cases hr : read with
    | none =>
        simp only [Option.getD_none, Option.isSome_none, Bool.false_eq_true, if_false]
        exact worthNotional_zero_iff hsize
    | some v =>
        simp only [Option.getD_some, Option.isSome_some, if_true]
        exact worthNotional_self_iff hsize hdecimals hprice ((hread v hr).trans heq)
  · have hcapped := not_lt.mp hbelow
    have hsame : cap = min size cap ↔ cap ≤ size := by
      rw [eq_comm, min_eq_right_iff]
    rw [if_neg hbelow, min_eq_right hcapped, hsame, and_comm]
    refine and_congr_right fun _ => ?_
    cases hr : read with
    | none =>
        simp only [Option.getD_none, Option.isSome_none, Bool.false_eq_true, if_false]
        exact worthNotional_zero_iff hcap
    | some v =>
        simp only [Option.getD_some, Option.isSome_some, if_true]
        unfold WorthNotional
        rw [hread v hr]

end Amounts

/-! ## A live entry -/

/-- Up to eighteen decimals the power of ten is exact. -/
theorem dec_pow10 {decimals : UInt8} (h : decimals.toNat ≤ 18) :
    dec (pow10 decimals) = 10 ^ decimals.toNat := by
  have hlt := (ten_pow_lt_iff decimals.toNat).mpr (by omega)
  unfold dec pow10
  rw [UInt64.toNat_ofNat', Nat.mod_eq_of_lt hlt]
  push_cast
  rfl

/-- What is computed for a size, and for which prices and decimals. -/
theorem computeLiveInputAmountAtomic_eq_ok {size sol atomic : Decimal} {decimals : UInt8}
    (h : computeLiveInputAmountAtomic size sol decimals = .ok atomic) :
    0 < sol ∧ decimals.toNat ≤ 18 ∧ atomic = sizedAmount size sol decimals := by
  unfold computeLiveInputAmountAtomic at h
  by_cases hsol : sol ≤ 0
  · rw [if_pos hsol] at h
    cases h
  by_cases hdecimals : decimals > 18
  · rw [if_neg hsol, if_pos hdecimals] at h
    cases h
  have hle : decimals.toNat ≤ 18 := by
    simpa [UInt8.lt_iff_toNat_lt] using hdecimals
  rw [if_neg hsol, if_neg hdecimals] at h
  cases h
  refine ⟨not_le.mp hsol, hle, ?_⟩
  unfold sizedAmount
  rw [dec_pow10 hle]
  norm_num

section Turn

variable {deps : Deps} {env : ℕ → Env × (Db → Db)} {e : Evaluation Db}

/-- The text of the computed amount is read as an integer. -/
def ReadsAmount (env : ℕ → Env × (Db → Db)) (e : Evaluation Db) (atomic : Decimal) : Bool :=
  ((env (e.index + 2)).1.answer (.parseU64 atomic)).val.isSome

/-- **A live entry spends what was authorized for it, and that is its size up to the cap, exactly for
some sizes**: the request of its quote is worth the notional that the risk engine was asked about. -/
theorem live_size_iff (deps : Deps) (env : ℕ → Env × (Db → Db)) (e : Evaluation Db)
    (hlive : deps.config.mode = .live)
    (hfind : e.state.candidates.find? e.candidate.mint = some e.candidate) {order : OrderRecord}
    (hreserved : order ∈ reservedAt deps env e) :
    ∃ call, Passes deps env e call ∧ order = orderOf deps env e call ∧
      (WorthNotional (e.state.solPriceUsd.getD 0) call.inputAmountAtomic call.positionUsd ∧
          call.positionUsd = min (liveUsdSize deps.config (counted e.state) e.candidate)
            deps.config.risk.maxLiveCapitalUsd ↔
        SpentAsSized (liveUsdSize deps.config (counted e.state) e.candidate)
          (e.state.solPriceUsd.getD 0) deps.config.risk.maxLiveCapitalUsd call.screened.tokenDecimals
          (ReadsAmount env e (sizedAmount (liveUsdSize deps.config (counted e.state) e.candidate)
            (e.state.solPriceUsd.getD 0) call.screened.tokenDecimals))) := by
  obtain ⟨hone, hnone⟩ := reservedAt_eq deps env hfind
  have hpasses : ∃ call, Passes deps env e call := by
    by_contra hnot
    rw [hnone fun call h => hnot ⟨call, h⟩] at hreserved
    cases hreserved
  obtain ⟨call, hcall⟩ := hpasses
  rw [hone call hcall, List.mem_singleton] at hreserved
  refine ⟨call, hcall, hreserved, ?_⟩
  obtain ⟨⟨atomic, usd⟩, hentry, hsize⟩ := Option.map_eq_some_iff.mp hcall.sized
  obtain ⟨hinput, husd⟩ := Prod.mk.inj hsize
  have hpositive := hcall.positive
  unfold entrySize at hentry
  rw [if_pos hlive] at hentry
  dsimp only at hentry
  split at hentry
  · cases hentry
  · split at hentry
    · cases hentry
    · rename_i amount hcompute
      obtain ⟨hsol, hdecimals, heq⟩ := computeLiveInputAmountAtomic_eq_ok hcompute
      cases hentry
      dsimp only at hinput husd
      rw [← husd, heq] at hpositive ⊢
      rw [← hinput, heq]
      exact spent_iff hsol hdecimals hpositive _
        ((env (e.index + 2)).1.answer (.parseU64 (sizedAmount _ _ _))).property

end Turn

/-! ## A live session -/

/-- The sample bot in live mode. -/
def liveDeps : Deps :=
  { feedDeps with
    live := true
    config := { feedDeps.config with mode := .live } }

/-- The sample record, worth 10 USD, for a token with the given decimals. -/
def recordWithDecimals (decimals : UInt8) : CandidateInput :=
  { tradableRecord with tokenDecimals := some decimals }

/-- The sample world with the record in its feed and a price of SOL. -/
def pricedAnswer (price : Decimal) (decimals : UInt8) : (o : Op) → Res o
  | .fetchSolPriceUsd => .ok (some price)
  | o => feedAnswer [recordWithDecimals decimals] o

/-- An outside world with this price of SOL and these decimals of the token. -/
def pricedEnv (price : Decimal) (decimals : UInt8) (_ : ℕ) : Env × (Db → Db) :=
  ({ sampleEnv with answer := pricedAnswer price decimals }, id)

/-- The first turn of a live session over the record. -/
def firstTurn (price : Decimal) (decimals : UInt8) : Option (Evaluation Db) :=
  evaluationOf (Prog.runS world.among (pricedEnv price decimals) (untilEvaluation liveDeps 0 0) 0
    (newSessionState liveDeps Portfolio.empty) Db.new)

/-- A turn over a record of ten dollars that is priced, and whose amount is read. -/
structure SizesTen (price : Decimal) (decimals : UInt8) (e : Evaluation Db) : Prop where
  turn : firstTurn price decimals = some e
  priced : e.state.solPriceUsd = some price
  size : liveUsdSize liveDeps.config (counted e.state) e.candidate = 10
  screened : (screenCandidate liveDeps.config e.state e.candidate e.now).map
    ScreenedCandidate.tokenDecimals = some decimals
  read : ReadsAmount (pricedEnv price decimals) e (sizedAmount 10 price decimals) = true

/-- What a turn reserves: the amount of the request, and the notional. -/
def entriesOf (price : Decimal) (decimals : UInt8) (e : Evaluation Db) :
    List (Option UInt64 × Option Decimal) :=
  (reservedAt liveDeps (pricedEnv price decimals) e).map fun o => (o.inputAmountAtomic, o.inputValueUsd)

/-- A first turn that computes so sizes its entry at ten dollars. -/
theorem firstTurn_sizesTen {price : Decimal} {decimals : UInt8}
    {entries : List (Option UInt64 × Option Decimal)}
    (h : (firstTurn price decimals).any (fun e => decide (e.state.solPriceUsd = some price ∧
      liveUsdSize liveDeps.config (counted e.state) e.candidate = 10 ∧
      (screenCandidate liveDeps.config e.state e.candidate e.now).map
        ScreenedCandidate.tokenDecimals = some decimals ∧
      ReadsAmount (pricedEnv price decimals) e (sizedAmount 10 price decimals) = true ∧
      entriesOf price decimals e = entries)) = true) :
    ∃ e, SizesTen price decimals e ∧ entriesOf price decimals e = entries := by
  obtain ⟨e, hturn, hfacts⟩ := (Option.any_eq_true _ _).mp h
  obtain ⟨hpriced, hsize, hscreened, hread, hentries⟩ := of_decide_eq_true hfacts
  exact ⟨e, ⟨hturn, hpriced, hsize, hscreened, hread⟩, hentries⟩

/-- With eighteen decimals, and a billion dollars for one SOL, ten lamports are spent for ten dollars. -/
theorem live_size_iff_sample :
    ∃ e call, SizesTen (10 ^ 9) 18 e ∧ Passes liveDeps (pricedEnv (10 ^ 9) 18) e call ∧
      WorthNotional (10 ^ 9) call.inputAmountAtomic call.positionUsd ∧ call.positionUsd = min 10 100 := by
  obtain ⟨e, he, hentries⟩ : ∃ e, SizesTen (10 ^ 9) 18 e ∧
      entriesOf (10 ^ 9) 18 e = [(some 10, some 10)] := firstTurn_sizesTen (by decide +kernel)
  have hmem : (some 10, some 10) ∈ entriesOf (10 ^ 9) 18 e := by
    rw [hentries]
    exact List.mem_singleton.mpr rfl
  obtain ⟨order, horder, -⟩ := List.mem_map.mp hmem
  obtain ⟨call, hpasses, -, hiff⟩ := live_size_iff liveDeps (pricedEnv (10 ^ 9) 18) e rfl
    (find?_of_evaluationOf he.turn) horder
  have hdecimals : call.screened.tokenDecimals = 18 := by
    have h := he.screened
    rw [hpasses.screened] at h
    exact Option.some.inj h
  rw [he.priced, he.size, hdecimals, Option.getD_some, he.read] at hiff
  refine ⟨e, call, he, hpasses, hiff.mpr ?_⟩
  unfold SpentAsSized
  decide +kernel

/-- With twelve decimals, and 100 dollars for one SOL, one lamport is spent for a size of ten dollars,
and one dollar is authorized. -/
theorem live_size_unequal :
    ¬ ∀ (deps : Deps) (env : ℕ → Env × (Db → Db)) (e : Evaluation Db), deps.config.mode = .live →
      e.state.candidates.find? e.candidate.mint = some e.candidate →
      ∀ order ∈ reservedAt deps env e, ∀ lamports notional, order.inputAmountAtomic = some lamports →
        order.inputValueUsd = some notional →
        WorthNotional (e.state.solPriceUsd.getD 0) lamports notional ∧
          notional = min (liveUsdSize deps.config (counted e.state) e.candidate)
            deps.config.risk.maxLiveCapitalUsd := by
  intro hclaim
  obtain ⟨e, he, hentries⟩ : ∃ e, SizesTen 100 12 e ∧ entriesOf 100 12 e = [(some 1, some 1)] :=
    firstTurn_sizesTen (by decide +kernel)
  have hmem : (some 1, some 1) ∈ entriesOf 100 12 e := by
    rw [hentries]
    exact List.mem_singleton.mpr rfl
  obtain ⟨order, horder, heq⟩ := List.mem_map.mp hmem
  obtain ⟨hamount, husd⟩ := Prod.mk.inj heq
  obtain ⟨-, hsize⟩ := hclaim liveDeps (pricedEnv 100 12) e rfl (find?_of_evaluationOf he.turn) order
    horder 1 1 hamount husd
  rw [he.size] at hsize
  exact absurd hsize (by decide +kernel)

end SolanaBot.Analysis
