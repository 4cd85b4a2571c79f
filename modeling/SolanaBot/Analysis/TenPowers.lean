import SolanaBot.Library.Validators
import SolanaBot.Analysis.SwapDeterminism
import SolanaBot.Model.TokenUnits

/-!
# Powers of ten for the decimals of a mint

Amounts are divided by ten to the power of the decimals that the chain declares, in 64 bits. That goes
through below 20 decimals in a build that checks for overflows, and below 64 in one that wraps around
(`inUnits_ok_iff`). All other divisions are guarded, so that a transaction is absorbed and a market priced
exactly if the decimals of the legs and of the mint are below the limit (`powers_safe_iff`).
-/

set_option autoImplicit false

namespace SolanaBot.Analysis

open SolanaBot.Library SolanaBot.Model

/-! ## Amounts in units -/

/-- The decimals from which on a build does not get through. -/
def powerLimit : OverflowChecks → ℕ
  | .on => 20
  | .off => 64

variable (checks : OverflowChecks)

/-- The power is the one that wraps around, if there is one. -/
theorem tenPow_eq_ok {decimals : UInt8} {unit : UInt64} (h : tenPow checks decimals = .ok unit) :
    unit = pow10 decimals := by
  obtain ⟨p, hp, hunit⟩ := bind_eq_ok_iff.mp h
  cases hunit
  unfold pow10
  unfold power at hp
  split at hp
  · cases hp
    rfl
  · cases checks with
    | on => cases hp
    | off =>
        cases hp
        exact UInt64.toNat_inj.mp (by rw [UInt64.toNat_ofNat', UInt64.toNat_ofNat', Nat.mod_mod])

/-- A power of ten is computed exactly below the limit of the build. -/
theorem tenPow_ok_iff (decimals : UInt8) :
    (∃ unit, tenPow checks decimals = .ok unit ∧ dec unit ≠ 0) ↔
      decimals.toNat < powerLimit checks := by
  have hlimit : decimals.toNat < powerLimit checks ↔
      10 ^ decimals.toNat < 2 ^ 64 ∨ (checks = .off ∧ decimals.toNat < 64) := by
    rw [ten_pow_lt_iff]
    cases checks with
    | on => simp [powerLimit]
    | off =>
        simp only [powerLimit, true_and]
        omega
  rw [hlimit, ← power_ten_ok_iff]
  unfold tenPow
  constructor
  · rintro ⟨unit, hunit, hne⟩
    obtain ⟨p, hp, hret⟩ := bind_eq_ok_iff.mp hunit
    cases hret
    refine ⟨p, hp, fun hzero => hne ?_⟩
    rw [hzero]
    rfl
  · rintro ⟨p, hp, hne⟩
    refine ⟨UInt64.ofNat p, by rw [hp]; rfl, ?_⟩
    have hlt : p < 2 ^ 64 := by
      unfold power at hp
      split at hp
      · cases hp
        assumption
      · cases checks with
        | on => cases hp
        | off =>
            cases hp
            exact Nat.mod_lt _ (by decide)
    unfold dec
    rw [UInt64.toNat_ofNat', Nat.mod_eq_of_lt hlt]
    exact Nat.cast_ne_zero.mpr hne

/-- An amount in units, below the limit. -/
theorem inUnits_of_lt {decimals : UInt8} (h : decimals.toNat < powerLimit checks) (amount : UInt64) :
    inUnits checks amount decimals = .ok (legUnits amount decimals) := by
  obtain ⟨unit, hunit, hne⟩ := (tenPow_ok_iff checks decimals).mpr h
  unfold inUnits
  rw [hunit, ok_bind, divide_of_ne_zero hne]
  cases tenPow_eq_ok checks hunit
  rfl

/-- Units are computed exactly below that limit. -/
theorem inUnits_ok_iff (amount : UInt64) (decimals : UInt8) :
    (∃ units, inUnits checks amount decimals = .ok units) ↔ decimals.toNat < powerLimit checks := by
  constructor
  · rintro ⟨units, hunits⟩
    obtain ⟨unit, hunit, hdivide⟩ := bind_eq_ok_iff.mp hunits
    exact (tenPow_ok_iff checks decimals).mp ⟨unit, hunit, (divide_ok_iff _ _).mp ⟨units, hdivide⟩⟩
  · exact fun h => ⟨_, inUnits_of_lt checks h amount⟩

/-! ## The accumulator -/

/-- The return of a slice divides by a positive cost. -/
theorem sliceReturn_eq (cost proceeds : Decimal) :
    Faulting.sliceReturn cost proceeds = .ok (sliceReturn cost proceeds) := by
  unfold Faulting.sliceReturn sliceReturn
  by_cases hcost : cost > 0
  · rw [if_pos hcost, if_pos hcost, divide_of_ne_zero hcost.ne']
    rfl
  · rw [if_neg hcost, if_neg hcost]
    rfl

/-- A lot is divided by its tokens if there are any. -/
theorem sellLots_eq (price : Decimal) (time : Time) (lots : List OpenPosition) (amount : Decimal) :
    Faulting.sellLots price time lots amount = .ok (sellLots price time lots amount) := by
  induction lots generalizing amount with
  | nil => rfl
  | cons front queue ih =>
      unfold Faulting.sellLots sellLots
      by_cases hdone : amount ≤ 0
      · rw [if_pos hdone, if_pos hdone]
        rfl
      · rw [if_neg hdone, if_neg hdone]
        by_cases hempty : front.tokensReceived ≤ 0
        · rw [if_pos hempty, if_pos hempty, ih]
        · rw [if_neg hempty, if_neg hempty]
          dsimp only
          rw [divide_of_ne_zero (not_le.mp hempty).ne', ok_bind, sliceReturn_eq,
            ok_bind]
          split
          · rw [ih]
            rfl
          · rfl

/-- Recording a sale does not fault. -/
theorem recordSell_eq (acc : WalletAccumulator) (mint : String) (tokens sol : Decimal) (time : Time) :
    Faulting.recordSell acc mint tokens sol time = .ok (acc.recordSell mint tokens sol time) := by
  unfold Faulting.recordSell WalletAccumulator.recordSell
  by_cases hnone : tokens ≤ 0
  · rw [if_pos hnone, if_pos hnone]
    rfl
  · rw [if_neg hnone, if_neg hnone, divide_of_ne_zero (not_le.mp hnone).ne', ok_bind,
      sellLots_eq]
    rfl

/-- No division in the accumulator stops. -/
theorem recordObservation_eq (acc : WalletAccumulator) (mint : String) (direction : SwapDirection)
    (input output : Decimal) (ts : Time) :
    Faulting.recordObservation acc mint direction input output ts =
      .ok (acc.recordObservation mint direction input output ts) := by
  cases direction with
  | buy => rfl
  | sell => exact recordSell_eq _ mint input output ts

section Absorbing

variable {swap : ParsedSwap} (acc : WalletAccumulator) (observations : List WalletTradeObservation)
variable (solPrice : Decimal) (wallet : String) (now : ClockReadings)

/-- A swap whose decimals are below the limit is absorbed. -/
theorem absorbSwap_of_lt (hin : swap.inputDecimals.toNat < powerLimit checks)
    (hout : swap.outputDecimals.toNat < powerLimit checks) :
    Faulting.absorbSwap checks acc swap observations solPrice wallet now =
      .ok (absorbSwap acc swap observations solPrice wallet now) := by
  unfold Faulting.absorbSwap
  dsimp only
  rw [inUnits_of_lt checks hin, ok_bind, inUnits_of_lt checks hout, ok_bind,
    recordObservation_eq]
  rfl

/-- A swap is absorbed exactly if both its decimals are below the limit. -/
theorem absorbSwap_ok_iff :
    (∃ r, Faulting.absorbSwap checks acc swap observations solPrice wallet now = .ok r) ↔
      swap.inputDecimals.toNat < powerLimit checks ∧
        swap.outputDecimals.toNat < powerLimit checks := by
  constructor
  · rintro ⟨r, hr⟩
    obtain ⟨inputLeg, hinput, hr⟩ := bind_eq_ok_iff.mp hr
    obtain ⟨outputLeg, houtput, -⟩ := bind_eq_ok_iff.mp hr
    exact ⟨(inUnits_ok_iff checks _ _).mp ⟨_, hinput⟩, (inUnits_ok_iff checks _ _).mp ⟨_, houtput⟩⟩
  · rintro ⟨hin, hout⟩
    exact ⟨_, absorbSwap_of_lt checks acc observations solPrice wallet now hin hout⟩

end Absorbing

/-! ## Decimals of the legs -/

/-- The decimals of every mint that may be picked are below a limit. -/
def CandidatesBelow (limit : ℕ) (m : SwapMeta) (wallet : String) (amount : String → Int) : Prop :=
  ∀ mint, Candidate m wallet amount (mint, seenDecimals m wallet mint) →
    (seenDecimals m wallet mint).toNat < limit

/-- The decimals of the legs of a swap are below a limit. -/
def DecimalsBelow (limit : ℕ) (swap : ParsedSwap) : Prop :=
  (soldLeg swap).2.toNat < limit ∧ (boughtLeg swap).2.toNat < limit

section Legs

variable {checks} {limit : ℕ} {m : SwapMeta} {wallet : String} {amount : String → Int}
variable (hamount : SeenAmount m wallet amount)
include hamount

/-- What is picked has its decimals below the limit. -/
theorem primary_below (hbelow : CandidatesBelow limit m wallet amount) {order : KeyOrder}
    {t : String × UInt64 × UInt8}
    (h : primaryToken (pickedTokens order m wallet amount) = some t) : t.2.2.toNat < limit := by
  have hcandidate := candidate_of_primary order hamount h
  have hdecimals :=
    ((mem_pickedTokens_iff order hamount t).mp (mem_of_primaryToken h)).2.2.2
  rw [hdecimals] at hcandidate ⊢
  exact hbelow t.1 hcandidate

/-- A bound on what is picked in any order is a bound on the candidates. -/
theorem candidatesBelow_of_primary
    (h : ∀ order t, primaryToken (pickedTokens order m wallet amount) = some t →
      t.2.2.toNat < limit) : CandidatesBelow limit m wallet amount := by
  intro mint hcandidate
  obtain ⟨t, ht, rfl⟩ := primary_mintLast hamount hcandidate
  have hdecimals :=
    ((mem_pickedTokens_iff (mintLast t.1) hamount t).mp (mem_of_primaryToken ht)).2.2.2
  rw [← hdecimals]
  exact h _ t ht

end Legs

/-- The decimals of the legs that a transaction may have are below a limit. -/
def LegsBelow (limit : ℕ) (tx : SwapTransaction) (wallet : String) : Prop :=
  ∀ r, ReadsWallet tx wallet r → InvokesDex tx r →
    OnLegs r wallet (CandidatesBelow limit r.txMeta wallet)

section Parsed

variable {limit : ℕ} {tx : SwapTransaction} {wallet : String}

/-- The swap that is read of safe legs has decimals below the limit. -/
theorem decimalsBelow_of_legs (hsol : 9 < limit) (h : LegsBelow limit tx wallet) {order : KeyOrder}
    {swap : ParsedSwap} (hswap : parseSwapFromTransaction order tx wallet = some swap) :
    DecimalsBelow limit swap := by
  obtain ⟨r, hreads, hdex, hverdict⟩ := verdict_of_parseSwap hswap
  have hlegs := h r hreads hdex
  have hgains : (factsOf order tx wallet r).gained = pickedTokens order r.txMeta wallet _ :=
    changesOf_gained order r.txMeta wallet
  have hlosses : (factsOf order tx wallet r).lost = pickedTokens order r.txMeta wallet _ :=
    changesOf_lost order r.txMeta wallet
  cases hverdict with
  | purchase hpurchase htoken =>
      rw [hgains] at htoken
      exact ⟨hsol,
        primary_below (seenAmount_gain r.txMeta wallet) (hlegs.purchase hpurchase.1) htoken⟩
  | sale hsale htoken =>
      rw [hlosses] at htoken
      exact ⟨primary_below (seenAmount_loss r.txMeta wallet) (hlegs.sale hsale.1) htoken, hsol⟩
  | tokens htokens hinput houtput =>
      rw [hlosses] at hinput
      rw [hgains] at houtput
      obtain ⟨hspent, hgained, hlost⟩ := isTokenSwap_factsOf_iff.mp htokens
      obtain ⟨hgain, hloss⟩ := hlegs.tokens hspent hgained hlost
      exact ⟨primary_below (seenAmount_loss r.txMeta wallet) hloss hinput,
        primary_below (seenAmount_gain r.txMeta wallet) hgain houtput⟩

/-- The legs are safe if every swap that is read of them is. -/
theorem legs_of_decimalsBelow
    (h : ∀ order swap, parseSwapFromTransaction order tx wallet = some swap →
      DecimalsBelow limit swap) : LegsBelow limit tx wallet := by
  intro r hreads hdex
  have hgains : ∀ order, (factsOf order tx wallet r).gained = pickedTokens order r.txMeta wallet _ :=
    fun order => changesOf_gained order r.txMeta wallet
  have hlosses : ∀ order, (factsOf order tx wallet r).lost = pickedTokens order r.txMeta wallet _ :=
    fun order => changesOf_lost order r.txMeta wallet
  have hparse : ∀ order swap, swapVerdict (factsOf order tx wallet r) wallet = some swap →
      DecimalsBelow limit swap := fun order swap hverdict =>
    h order swap ((parseSwap_of_reads hreads hdex).trans hverdict)
  have htokens : |r.seenSpent wallet| < MIN_SWAP_LAMPORTS →
      (∃ mint, mint ≠ WSOL_MINT ∧ 0 < seenChange r.txMeta wallet mint) →
      (∃ mint, mint ≠ WSOL_MINT ∧ 0 < -seenChange r.txMeta wallet mint) → ∀ order, ∃ input output,
        primaryToken (factsOf order tx wallet r).lost = some input ∧
        primaryToken (factsOf order tx wallet r).gained = some output ∧
        input.2.2.toNat < limit ∧ output.2.2.toNat < limit := by
    intro hspent hgain hloss order
    obtain ⟨hgainedMints, hlostMints⟩ := factsOf_mints order tx wallet r
    obtain ⟨input, output, hinput, houtput, hverdict⟩ :=
      verdict_tokens wallet (isTokenSwap_factsOf_iff.mpr ⟨hspent, hgain, hloss⟩) hgainedMints
        hlostMints
    exact ⟨input, output, hinput, houtput, hparse order _ hverdict⟩
  refine ⟨fun hspent => ?_, fun hspent => ?_, fun hspent hgain hloss => ⟨?_, ?_⟩⟩
  · refine candidatesBelow_of_primary (seenAmount_gain r.txMeta wallet) fun order t ht => ?_
    rw [← hgains] at ht
    obtain ⟨token, htoken, hverdict⟩ :=
      verdict_purchase wallet ⟨hspent, List.ne_nil_of_mem (mem_of_primaryToken ht)⟩
    cases htoken.symm.trans ht
    exact (hparse order _ hverdict).2
  · refine candidatesBelow_of_primary (seenAmount_loss r.txMeta wallet) fun order t ht => ?_
    rw [← hlosses] at ht
    obtain ⟨token, htoken, hverdict⟩ :=
      verdict_sale wallet ⟨hspent, List.ne_nil_of_mem (mem_of_primaryToken ht)⟩
    cases htoken.symm.trans ht
    exact (hparse order _ hverdict).1
  · refine candidatesBelow_of_primary (seenAmount_gain r.txMeta wallet) fun order t ht => ?_
    obtain ⟨input, output, -, houtput, -, hlt⟩ := htokens hspent hgain hloss order
    rw [← hgains] at ht
    cases houtput.symm.trans ht
    exact hlt
  · refine candidatesBelow_of_primary (seenAmount_loss r.txMeta wallet) fun order t ht => ?_
    obtain ⟨input, output, hinput, -, hlt, -⟩ := htokens hspent hgain hloss order
    rw [← hlosses] at ht
    cases hinput.symm.trans ht
    exact hlt

end Parsed

/-- In every order of the hash maps, a transaction of a wallet is absorbed without a fault. -/
def SwapSafe (checks : OverflowChecks) (tx : SwapTransaction) (wallet : String) : Prop :=
  ∀ order acc observations solPrice now, ∃ r,
    Faulting.absorbTransaction checks order tx wallet acc observations solPrice now = .ok r

/-- A transaction is safe exactly if its legs are below the limit. -/
theorem swapSafe_iff (tx : SwapTransaction) (wallet : String) :
    SwapSafe checks tx wallet ↔ LegsBelow (powerLimit checks) tx wallet := by
  constructor
  · intro h
    refine legs_of_decimalsBelow fun order swap hswap => ?_
    obtain ⟨r, hr⟩ := h order .new [] 0 ⟨0, 0⟩
    unfold Faulting.absorbTransaction at hr
    rw [hswap] at hr
    exact (absorbSwap_ok_iff checks _ [] 0 wallet ⟨0, 0⟩).mp ⟨r, hr⟩
  · intro h order acc observations solPrice now
    unfold Faulting.absorbTransaction
    cases hswap : parseSwapFromTransaction order tx wallet with
    | none => exact ⟨_, rfl⟩
    | some swap =>
        have hsol : 9 < powerLimit checks := by cases checks <;> decide
        exact (absorbSwap_ok_iff checks _ observations solPrice wallet now).mpr
          (decimalsBelow_of_legs hsol h hswap)

/-! ## Snapshots -/

/-- The impact divides the size of a trade if there is one. -/
theorem estimateLiquidityUsd_eq (size : Decimal) (bps : UInt32) :
    Faulting.estimateLiquidityUsd size bps = .ok (estimateLiquidityUsd size bps) := by
  unfold Faulting.estimateLiquidityUsd estimateLiquidityUsd
  by_cases hbps : bps > 0
  · have hne : (bps.toNat : ℚ) ≠ 0 := by
      have hpos : 0 < bps.toNat := UInt32.lt_iff_toNat_lt.mp hbps
      exact Nat.cast_ne_zero.mpr hpos.ne'
    rw [if_pos hbps, if_pos hbps, divide_of_ne_zero hne]
    rfl
  · rw [if_neg hbps, if_neg hbps]
    rfl

/-- A market is priced in every answer of the executor exactly if the decimals are below the limit. -/
theorem fetchMarketSnapshot_ok_iff (solDecimals tokenDecimals : UInt8)
    (hsol : solDecimals.toNat < powerLimit checks) :
    (∀ executor mint price amount slippage now, ∃ r, fetchMarketSnapshot checks executor mint price
      solDecimals tokenDecimals amount slippage now = .ok r) ↔
      tokenDecimals.toNat < powerLimit checks := by
  constructor
  · intro h
    let quote : Quote := ⟨WSOL_MINT, "", 1, 1, 0, "", 0⟩
    obtain ⟨r, hr⟩ := h (fun _ _ _ _ => .ok quote) "" 0 1 0 0
    unfold fetchMarketSnapshot at hr
    dsimp only at hr
    rw [if_neg (by decide)] at hr
    obtain ⟨solSpent, -, hr⟩ := bind_eq_ok_iff.mp hr
    obtain ⟨tokensReceived, htokens, -⟩ := bind_eq_ok_iff.mp hr
    exact (inUnits_ok_iff checks _ _).mp ⟨_, htokens⟩
  · intro h executor mint price amount slippage now
    unfold fetchMarketSnapshot
    cases executor WSOL_MINT mint amount slippage with
    | error e => exact ⟨_, rfl⟩
    | ok quote =>
        dsimp only
        split
        · exact ⟨_, rfl⟩
        · rw [inUnits_of_lt checks hsol, ok_bind, inUnits_of_lt checks h, ok_bind]
          split
          · exact ⟨_, rfl⟩
          · rename_i hne
            rw [divide_of_ne_zero hne, ok_bind, estimateLiquidityUsd_eq]
            exact ⟨_, rfl⟩

/-- A mint in an answer is verified, with what its account declares. -/
structure VerifiedMint (answer : Except RpcError (Option MintAccount)) (account : MintAccount)
    (declared : UInt64) : Prop where
  found : answer = .ok (some account)
  supply : ∃ supply, account.supply = some (some supply)
  decimals : account.decimals = some declared
  initialized : account.isInitialized = some true

/-- The decimals of a mint are verified exactly if its account declares them. -/
theorem verifiedDecimals_eq_some_iff (answer : Except RpcError (Option MintAccount))
    (decimals : UInt8) :
    verifiedDecimals (mintAccountInfo answer) = some decimals ↔
      ∃ account declared, VerifiedMint answer account declared ∧ decimals = declared.toUInt8 := by
  constructor
  · intro h
    obtain e | account? := answer
    · cases h
    obtain _ | ⟨mintAuthority, freezeAuthority, supply, declared, initialized⟩ := account?
    · cases h
    obtain _ | _ | supply := supply
    · cases h
    · cases h
    obtain _ | declared := declared
    · cases h
    obtain _ | _ | _ := initialized
    · cases h
    · cases h
    · cases h
      exact ⟨_, declared, ⟨rfl, ⟨supply, rfl⟩, rfl, rfl⟩, rfl⟩
  · rintro ⟨account, declared, ⟨rfl, ⟨supply, hsupply⟩, hdecimals, hinitialized⟩, rfl⟩
    obtain ⟨mintAuthority, freezeAuthority, supply', declared', initialized⟩ := account
    dsimp only at hsupply hdecimals hinitialized
    subst hsupply hdecimals hinitialized
    rfl

/-- Whatever the executor answers, a verified mint is priced without a fault. -/
def SnapshotSafe (checks : OverflowChecks) (answer : Except RpcError (Option MintAccount)) : Prop :=
  ∀ executor mint solPrice amount slippage now, ∃ r,
    verifiedSnapshot checks answer executor mint solPrice amount slippage now = .ok r

/-- The decimals of a verified mint are below a limit, in the eight bits that are kept of them. -/
def MintBelow (limit : ℕ) (answer : Except RpcError (Option MintAccount)) : Prop :=
  ∀ account declared, VerifiedMint answer account declared → declared.toUInt8.toNat < limit

/-- A snapshot is safe exactly if the mint's decimals are below the limit. -/
theorem snapshotSafe_iff (answer : Except RpcError (Option MintAccount)) :
    SnapshotSafe checks answer ↔ MintBelow (powerLimit checks) answer := by
  have hsol : (9 : UInt8).toNat < powerLimit checks := by cases checks <;> decide
  cases hverified : verifiedDecimals (mintAccountInfo answer) with
  | none =>
      refine iff_of_true (fun executor mint solPrice amount slippage now => ?_)
        fun account declared hmint => ?_
      · unfold verifiedSnapshot
        rw [hverified]
        exact ⟨_, rfl⟩
      · have hsome := (verifiedDecimals_eq_some_iff answer _).mpr ⟨account, declared, hmint, rfl⟩
        rw [hverified] at hsome
        cases hsome
  | some decimals =>
      have hlimit : MintBelow (powerLimit checks) answer ↔ decimals.toNat < powerLimit checks := by
        constructor
        · intro h
          obtain ⟨account, declared, hmint, rfl⟩ := (verifiedDecimals_eq_some_iff answer _).mp hverified
          exact h account declared hmint
        · intro h account declared hmint
          have hsome := (verifiedDecimals_eq_some_iff answer _).mpr ⟨account, declared, hmint, rfl⟩
          cases hverified.symm.trans hsome
          exact h
      have hsnapshot : SnapshotSafe checks answer ↔
          ∀ executor mint solPrice amount slippage now, ∃ r, fetchMarketSnapshot checks executor mint
            solPrice 9 decimals amount slippage now = .ok r := by
        unfold SnapshotSafe verifiedSnapshot
        rw [hverified]
        refine forall₄_congr fun executor mint solPrice amount => forall₂_congr fun slippage now => ?_
        constructor
        · rintro ⟨r, hr⟩
          obtain ⟨snapshot, hsnapshot, -⟩ := bind_eq_ok_iff.mp hr
          exact ⟨snapshot, hsnapshot⟩
        · rintro ⟨snapshot, hsnapshot⟩
          dsimp only
          rw [hsnapshot, ok_bind]
          exact ⟨_, rfl⟩
      rw [hsnapshot, hlimit, fetchMarketSnapshot_ok_iff checks 9 decimals hsol]

/-- **Powers of ten.** In both kinds of builds a transaction is absorbed, and a verified mint priced,
without a fault, exactly if the decimals of the legs, and of the mint, are below 20. -/
theorem powers_safe_iff (tx : SwapTransaction) (wallet : String)
    (answer : Except RpcError (Option MintAccount)) :
    ((∀ checks, SwapSafe checks tx wallet) ↔ LegsBelow 20 tx wallet) ∧
      ((∀ checks, SnapshotSafe checks answer) ↔ MintBelow 20 answer) := by
  have hweaker : ∀ {n : ℕ} (checks), n < 20 → n < powerLimit checks := by
    intro n checks hn
    cases checks with
    | on => exact hn
    | off => exact hn.trans (by decide)
  refine ⟨⟨fun h => (swapSafe_iff .on tx wallet).mp (h .on), fun h checks => ?_⟩,
    ⟨fun h => (snapshotSafe_iff .on answer).mp (h .on), fun h checks => ?_⟩⟩
  · refine (swapSafe_iff checks tx wallet).mpr fun r hreads hdex => ?_
    have hlegs := h r hreads hdex
    have hbelow : ∀ amount, CandidatesBelow 20 r.txMeta wallet amount →
        CandidatesBelow (powerLimit checks) r.txMeta wallet amount :=
      fun amount hamount mint hcandidate => hweaker checks (hamount mint hcandidate)
    exact ⟨fun hspent => hbelow _ (hlegs.purchase hspent), fun hspent => hbelow _ (hlegs.sale hspent),
      fun hspent hgain hloss => (hlegs.tokens hspent hgain hloss).imp (hbelow _) (hbelow _)⟩
  · exact (snapshotSafe_iff checks answer).mpr fun account declared hmint =>
      hweaker checks (h account declared hmint)

/-- A mint that declares 64 decimals. -/
def hostileAccount : MintAccount :=
  { mintAuthority := none, freezeAuthority := none, supply := some (some 1000), decimals := some 64
    isInitialized := some true }

/-- The purchase of such a token. -/
def hostilePurchase : SwapTransaction :=
  sampleSwapTx 8995000 2000000 1000000 [] [⟨some "w", some "hostile", some 5000000, some 64⟩]

/-- A purchase of a token with 64 decimals faults as its power does. -/
theorem hostilePurchase_fault (fault : Fault) (acc : WalletAccumulator)
    (hfault : ∀ amount, inUnits checks amount 64 = .error fault) :
    Faulting.absorbTransaction checks keysAsListed hostilePurchase "w" acc [] 150 ⟨0, 0⟩ =
      .error fault := by
  have hlegs : (parseSwapFromTransaction keysAsListed hostilePurchase "w").map
      (fun swap => (swap.inputDecimals, swap.outputDecimals)) = some (9, 64) := by decide +kernel
  obtain ⟨swap, hswap, hdecimals⟩ := Option.map_eq_some_iff.mp hlegs
  obtain ⟨hin, hout⟩ := Prod.mk.inj hdecimals
  have hsol : swap.inputDecimals.toNat < powerLimit checks := by
    rw [hin]
    cases checks <;> decide
  unfold Faulting.absorbTransaction
  rw [hswap]
  unfold Faulting.absorbSwap
  dsimp only
  rw [inUnits_of_lt checks hsol, ok_bind, hout, hfault]
  rfl

/-- The token stops a build that checks at the overflow, and one that does not at the division. -/
theorem hostile_mint_faults :
    (∀ acc, Faulting.absorbTransaction .on keysAsListed hostilePurchase "w" acc [] 150 ⟨0, 0⟩ =
      .error .overflow) ∧
    (∀ acc, Faulting.absorbTransaction .off keysAsListed hostilePurchase "w" acc [] 150 ⟨0, 0⟩ =
      .error .divisionByZero) ∧
    (¬ ∀ tx wallet checks, SwapSafe checks tx wallet) ∧
    ¬ ∀ answer checks, SnapshotSafe checks answer := by
  have hoverflow : tenPow .on 64 = .error .overflow := by decide
  have hwrapped : tenPow .off 64 = .ok 0 := by decide
  have hon := fun acc => hostilePurchase_fault .on .overflow acc fun amount => by
    unfold inUnits
    rw [hoverflow]
    rfl
  have hoff := fun acc => hostilePurchase_fault .off .divisionByZero acc fun amount => by
    unfold inUnits
    rw [hwrapped, ok_bind]
    exact if_pos Nat.cast_zero
  refine ⟨hon, hoff, fun h => ?_, fun h => ?_⟩
  · obtain ⟨r, hr⟩ := h hostilePurchase "w" .on keysAsListed .new [] 150 ⟨0, 0⟩
    cases (hon .new).symm.trans hr
  · have hbelow := (snapshotSafe_iff .on _).mp (h (.ok (some hostileAccount)) .on) hostileAccount 64
      ⟨rfl, ⟨1000, rfl⟩, rfl, rfl⟩
    exact absurd hbelow (by decide)

end SolanaBot.Analysis
