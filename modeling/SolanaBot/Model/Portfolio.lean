import SolanaBot.Library.Table
import SolanaBot.Model.Domain

/-!
# Position accounting

`portfolio/mod.rs`: the in-memory portfolio and its four accounting operations.
Each operation returns its result together with the portfolio it leaves behind,
also when the result is an error: `markToMarket` has already written two fields
when it finds that the entry cost is missing.
-/

set_option autoImplicit false

namespace SolanaBot.Model

open SolanaBot.Library

/-- RUST: portfolio/mod.rs:15-19. -/
structure ExitOutcome where
  realizedPnlUsd : Decimal
  closed : Bool
deriving DecidableEq

/-- RUST: portfolio/mod.rs:22-24. Positions are keyed by their mint. -/
structure Portfolio where
  positions : Table Position.mint

namespace Portfolio

/-- RUST: portfolio/mod.rs:21, the derived default. -/
def empty : Portfolio := ⟨Table.empty Position.mint⟩

/-- RUST: portfolio/mod.rs:26-28. -/
def position (pf : Portfolio) (mint : String) : Option Position := pf.positions.find? mint

/-- RUST: portfolio/mod.rs:32-34. -/
def openPositions (pf : Portfolio) : List Position := pf.positions.rows.filter Position.isOpen

/-- RUST: portfolio/mod.rs:43-45. -/
def syncPosition (pf : Portfolio) (p : Position) : Portfolio := ⟨pf.positions.put p⟩

/-- RUST: portfolio/mod.rs:35-39. -/
def load (pf : Portfolio) (stored : List Position) : Portfolio := stored.foldl syncPosition pf

end Portfolio

/-- RUST: portfolio/mod.rs:70-76. USD value of one unit of the base mint implied by an entry. -/
def baseEntryPrice (fill : Fill) (baseMintDecimals : UInt8) (inputValueUsd : Decimal) :
    Option Decimal :=
  let baseUnits := dec fill.inputAmount / dec (pow10 baseMintDecimals)
  if baseUnits > 0 then some (inputValueUsd / baseUnits) else none

/-- RUST: portfolio/mod.rs:79-144. An entry fill merged into an existing record. Missing
amounts are counted as zero (`unwrap_or`), although the source logs them as preserved. -/
def Position.mergeEntry (p : Position) (fill : Fill) (price inputValueUsd : Decimal) : Position :=
  let q := dec fill.outputAmount
  let total := p.quantity + q
  let entryPriceUsd := (p.entryPriceUsd * p.quantity + price * q) / total
  let feesUsd := p.feesUsd + fill.feesUsd
  { p with
    entryPriceUsd
    quantity := total
    remainingQuantityAtomic :=
      some (saturatingAdd (p.remainingQuantityAtomic.getD 0) fill.outputAmount)
    entryCostUsd := some (p.entryCostUsd.getD 0 + inputValueUsd)
    highWaterPriceUsd := max p.highWaterPriceUsd price
    feesUsd
    entryFeesUsd := some (p.entryFeesUsd.getD 0 + fill.feesUsd)
    currentValueUsd := price * total
    unrealizedPnlUsd := (price - entryPriceUsd) * total - feesUsd
    entryInputAmountAtomic := p.entryInputAmountAtomic.bind (checkedAdd · fill.inputAmount)
    entryOutputAmountAtomic := p.entryOutputAmountAtomic.bind (checkedAdd · fill.outputAmount)
    entrySlippageBps := some (max (p.entrySlippageBps.getD 0) fill.slippageBps)
    state := .open
    reconciliationStatus := .adjustedOnChain }

/-- RUST: portfolio/mod.rs:145-177. The record that a first entry creates. -/
def Position.ofEntry (mint baseMint : String) (tokenDecimals baseMintDecimals : UInt8)
    (positionId : String) (fill : Fill) (price inputValueUsd : Decimal) (signalId : String)
    (costModel : CostModel) : Position :=
  { mint
    positionId := some positionId
    tokenMint := some mint
    baseMint := some baseMint
    entryInputAmountAtomic := some fill.inputAmount
    entryOutputAmountAtomic := some fill.outputAmount
    tokenDecimals := some tokenDecimals
    baseMintDecimals := some baseMintDecimals
    entryFeesUsd := some fill.feesUsd
    entrySlippageBps := some fill.slippageBps
    entryCostModel := some costModel
    quantity := dec fill.outputAmount
    remainingQuantityAtomic := some fill.outputAmount
    entryCostUsd := some inputValueUsd
    baseEntryPriceUsd := baseEntryPrice fill baseMintDecimals inputValueUsd
    state := .open
    reconciliationStatus := .reconciled
    lastReconciledAt := some fill.confirmedAt
    exitSignature := none
    exitFeesUsd := none
    exitTime := none
    entryPriceUsd := price
    entryTime := fill.confirmedAt
    entrySignature := fill.signature
    highWaterPriceUsd := price
    realizedPnlUsd := 0
    unrealizedPnlUsd := -fill.feesUsd
    feesUsd := fill.feesUsd
    currentValueUsd := price * dec fill.outputAmount
    signalId
    exitReason := none }

namespace Portfolio

/-- RUST: portfolio/mod.rs:50-179. -/
def applyEntry (pf : Portfolio) (mint baseMint : String)
    (tokenDecimals baseMintDecimals : UInt8) (positionId : String) (fill : Fill) (price : Decimal)
    (signalId : String) (costModel : CostModel) : Except String Unit × Portfolio :=
  if fill.outputAmount = 0 then (.error "zero fill", pf)
  else
    match fill.inputValueUsd with
    | none => (.error "entry fill lacks USD value basis", pf)
    | some inputValueUsd =>
        match pf.position mint with
        | some p => (.ok (), ⟨pf.positions.put (p.mergeEntry fill price inputValueUsd)⟩)
        | none =>
            (.ok (), ⟨pf.positions.put (Position.ofEntry mint baseMint tokenDecimals
              baseMintDecimals positionId fill price inputValueUsd signalId costModel)⟩)

end Portfolio

/-- RUST: portfolio/mod.rs:208-233. The record after `sold` units left it for `proceeds`. -/
def Position.afterExit (p : Position) (fill : Fill) (newRemaining : UInt64) (realized : Decimal)
    (exitReason : String) (now : Time) : Position :=
  let p := { p with
    remainingQuantityAtomic := some newRemaining
    realizedPnlUsd := p.realizedPnlUsd + realized
    feesUsd := p.feesUsd + fill.feesUsd
    exitFeesUsd := some (p.exitFeesUsd.getD 0 + fill.feesUsd)
    highWaterPriceUsd := max p.highWaterPriceUsd fill.priceUsd
    currentValueUsd := fill.priceUsd * dec newRemaining }
  if newRemaining = 0 then
    { p with
      state := .closed
      exitReason := some exitReason
      exitSignature := some fill.signature
      exitTime := some now
      unrealizedPnlUsd := 0 }
  else p

namespace Portfolio

/-- RUST: portfolio/mod.rs:184-238. The position need not be open. -/
def applyExit (pf : Portfolio) (mint : String) (fill : Fill) (exitReason : String) (now : Time) :
    Except String ExitOutcome × Portfolio :=
  match pf.position mint with
  | none => (.error "no position for mint", pf)
  | some p =>
      match p.remainingQuantityAtomic with
      | none => (.error "remaining quantity unknown; refusing exit accounting", pf)
      | some remaining =>
          let sold := fill.inputAmount
          match checkedSub remaining sold with
          | none =>
              (.error ("exit sold " ++ toString sold ++ " exceeds remaining " ++
                toString remaining), pf)
          | some newRemaining =>
              match fill.inputValueUsd, p.entryCostUsd with
              | none, _ => (.error "exit fill lacks USD proceeds", pf)
              | some _, none => (.error "position lacks entry cost basis", pf)
              | some proceeds, some entryCost =>
                  if p.quantity = 0 then (.error "position has zero entry quantity", pf)
                  else
                    let costOfSold := entryCost * dec sold / p.quantity
                    let realized := proceeds - costOfSold - fill.feesUsd
                    (.ok ⟨realized, newRemaining = 0⟩,
                      ⟨pf.positions.put (p.afterExit fill newRemaining realized exitReason now)⟩)

/-- RUST: portfolio/mod.rs:242-265. The high-water mark and the current value are written
before the entry cost is looked at. -/
def markToMarket (pf : Portfolio) (mint : String) (price : Decimal) :
    Except String Decimal × Portfolio :=
  match pf.position mint with
  | none => (.error "no position for mint", pf)
  | some p =>
      match p.remainingQuantityAtomic with
      | none =>
          (.error "position missing remaining_quantity_atomic; cannot mark to market", pf)
      | some remaining =>
          let currentValueUsd := price * dec remaining
          let p := { p with
            highWaterPriceUsd := max p.highWaterPriceUsd price
            currentValueUsd }
          match p.entryCostUsd with
          | none =>
              (.error "position missing entry_cost_usd; cannot mark to market",
                ⟨pf.positions.put p⟩)
          | some entryCost =>
              let costOfRemaining := entryCost * dec remaining /
                (if p.quantity = 0 then 1 else p.quantity)
              (.ok currentValueUsd,
                ⟨pf.positions.put
                  { p with unrealizedPnlUsd := currentValueUsd - costOfRemaining - p.feesUsd }⟩)

end Portfolio

/-- RUST: portfolio/mod.rs:270-314, on the record of the mint. A balance of zero closes the
position and leaves its remaining quantity as it was. -/
def Position.reconcileWithChain (p : Position) (mint : String) (onChainAmount : UInt64)
    (decimals : UInt8) (now : Time) : Except String Bool × Position :=
  if !p.isOpen then (.ok false, p)
  else if p.remainingQuantityAtomic = some onChainAmount then
    (.ok true, { p with reconciliationStatus := .reconciled, lastReconciledAt := some now })
  else if onChainAmount = 0 then
    (.ok true, { p with
      state := .closed
      reconciliationStatus := .closedOnChain
      lastReconciledAt := some now
      exitReason := p.exitReason.or (some "reconciled: no on-chain balance")
      currentValueUsd := 0
      unrealizedPnlUsd := 0 })
  else if p.tokenDecimals.isSome ∧ p.tokenDecimals ≠ some decimals then
    (.error ("decimals mismatch for " ++ mint ++ ": recorded Some(" ++
      toString (p.tokenDecimals.getD 0) ++ "), chain " ++ toString decimals), p)
  else
    (.ok true, { p with
      tokenDecimals := some decimals
      remainingQuantityAtomic := some onChainAmount
      reconciliationStatus := .adjustedOnChain
      lastReconciledAt := some now })

/-- RUST: portfolio/mod.rs:270-314. -/
def Portfolio.reconcileWithChain (pf : Portfolio) (mint : String) (onChainAmount : UInt64)
    (decimals : UInt8) (now : Time) : Except String Bool × Portfolio :=
  match pf.position mint with
  | none => (.ok false, pf)
  | some p =>
      let r := p.reconcileWithChain mint onChainAmount decimals now
      (r.1, ⟨pf.positions.put r.2⟩)

/-! ## What each operation does

One lemma for each way an operation ends; the results about runs use these and do not
unfold the operations. -/

/-- Merging an entry keeps the mint. -/
@[simp] theorem Position.mergeEntry_mint (p : Position) (fill : Fill) (price v : Decimal) :
    (p.mergeEntry fill price v).mint = p.mint := rfl

/-- An exit keeps the mint. -/
@[simp] theorem Position.afterExit_mint (p : Position) (fill : Fill) (newRemaining : UInt64)
    (realized : Decimal) (exitReason : String) (now : Time) :
    (p.afterExit fill newRemaining realized exitReason now).mint = p.mint := by
  unfold afterExit
  dsimp only
  split <;> rfl

/-- An exit keeps the id of the position. -/
@[simp] theorem Position.afterExit_positionId (p : Position) (fill : Fill) (newRemaining : UInt64)
    (realized : Decimal) (exitReason : String) (now : Time) :
    (p.afterExit fill newRemaining realized exitReason now).positionId = p.positionId := by
  unfold afterExit
  dsimp only
  split <;> rfl

/-- A reconciliation keeps the mint. -/
@[simp] theorem Position.reconcileWithChain_mint (p : Position) (mint : String) (amount : UInt64)
    (decimals : UInt8) (now : Time) :
    (p.reconcileWithChain mint amount decimals now).2.mint = p.mint := by
  unfold reconcileWithChain
  repeat' split
  all_goals rfl

/-- The position of a mint after an entry of `v` USD: the record merged or created. -/
def Position.entered (old : Option Position) (mint baseMint : String)
    (tokenDecimals baseMintDecimals : UInt8) (positionId : String) (fill : Fill)
    (price v : Decimal) (signalId : String) (costModel : CostModel) : Position :=
  match old with
  | some p => p.mergeEntry fill price v
  | none => .ofEntry mint baseMint tokenDecimals baseMintDecimals positionId fill price v
      signalId costModel

namespace Portfolio

/-- The position of a mint is of the mint. -/
theorem mint_of_position {pf : Portfolio} {mint : String} {p : Position}
    (h : pf.position mint = some p) : p.mint = mint :=
  Table.find?_key h

/-- A position that is put is found under its mint. -/
theorem position_put (pf : Portfolio) (p : Position) (mint : String) :
    position ⟨pf.positions.put p⟩ mint = if mint = p.mint then some p else pf.position mint :=
  Table.find?_put pf.positions p mint

/-- An accepted entry has an output and a value, and puts the position entered. -/
theorem applyEntry_ok {pf : Portfolio} {mint baseMint : String}
    {tokenDecimals baseMintDecimals : UInt8} {positionId : String} {fill : Fill}
    {price : Decimal} {signalId : String} {costModel : CostModel}
    (h : (pf.applyEntry mint baseMint tokenDecimals baseMintDecimals positionId fill price
      signalId costModel).1 = .ok ()) :
    fill.outputAmount ≠ 0 ∧ ∃ v, fill.inputValueUsd = some v ∧
      (pf.applyEntry mint baseMint tokenDecimals baseMintDecimals positionId fill price
        signalId costModel).2 =
        ⟨pf.positions.put (.entered (pf.position mint) mint baseMint tokenDecimals
          baseMintDecimals positionId fill price v signalId costModel)⟩ := by
  unfold applyEntry at h ⊢
  split at h
  · cases h
  · rename_i hout
    refine ⟨hout, ?_⟩
    split at h
    · cases h
    · rename_i v hv
      refine ⟨v, hv, ?_⟩
      simp only [hout, if_false]
      cases pf.position mint <;> rfl

/-- A refused entry changes nothing. -/
theorem applyEntry_error {pf : Portfolio} {mint baseMint : String}
    {tokenDecimals baseMintDecimals : UInt8} {positionId : String} {fill : Fill}
    {price : Decimal} {signalId : String} {costModel : CostModel} {e : String}
    (h : (pf.applyEntry mint baseMint tokenDecimals baseMintDecimals positionId fill price
      signalId costModel).1 = .error e) :
    (pf.applyEntry mint baseMint tokenDecimals baseMintDecimals positionId fill price
      signalId costModel).2 = pf := by
  unfold applyEntry at h ⊢
  split
  · rfl
  · rename_i hout
    rw [if_neg hout] at h
    split
    · rfl
    · split at h <;> rename_i heq <;> simp_all
      split at h <;> cases h

/-- An entry is refused only for a zero output or for a missing value. -/
theorem applyEntry_ok_iff (pf : Portfolio) (mint baseMint : String)
    (tokenDecimals baseMintDecimals : UInt8) (positionId : String) (fill : Fill)
    (price : Decimal) (signalId : String) (costModel : CostModel) :
    (pf.applyEntry mint baseMint tokenDecimals baseMintDecimals positionId fill price
      signalId costModel).1 = .ok () ↔ fill.outputAmount ≠ 0 ∧ fill.inputValueUsd.isSome := by
  unfold applyEntry
  by_cases hout : fill.outputAmount = 0
  · simp [hout]
  · cases hv : fill.inputValueUsd with
    | none => simp [hout]
    | some v => cases hp : pf.position mint <;> simp [hout]

/-- What an accepted exit found and what it stored. -/
theorem applyExit_ok {pf : Portfolio} {mint : String} {fill : Fill} {reason : String}
    {now : Time} {out : ExitOutcome} (h : (pf.applyExit mint fill reason now).1 = .ok out) :
    ∃ p remaining newRemaining proceeds entryCost,
      pf.position mint = some p ∧ p.remainingQuantityAtomic = some remaining ∧
      checkedSub remaining fill.inputAmount = some newRemaining ∧
      fill.inputValueUsd = some proceeds ∧ p.entryCostUsd = some entryCost ∧ p.quantity ≠ 0 ∧
      out = ⟨proceeds - entryCost * dec fill.inputAmount / p.quantity - fill.feesUsd,
        newRemaining = 0⟩ ∧
      (pf.applyExit mint fill reason now).2 =
        ⟨pf.positions.put (p.afterExit fill newRemaining out.realizedPnlUsd reason now)⟩ := by
  unfold applyExit at h ⊢
  cases hp : pf.position mint with
  | none => simp [hp] at h
  | some p =>
      cases hr : p.remainingQuantityAtomic with
      | none => simp [hp, hr] at h
      | some remaining =>
          cases hs : checkedSub remaining fill.inputAmount with
          | none => simp [hp, hr, hs] at h
          | some newRemaining =>
              cases hv : fill.inputValueUsd with
              | none => simp [hp, hr, hs, hv] at h
              | some proceeds =>
                  cases hc : p.entryCostUsd with
                  | none => simp [hp, hr, hs, hv, hc] at h
                  | some entryCost =>
                      by_cases hq : p.quantity = 0
                      · simp [hp, hr, hs, hv, hc, hq] at h
                      · simp only [hp, hr, hs, hv, hc, hq, if_false, Except.ok.injEq] at h ⊢
                        subst h
                        exact ⟨p, remaining, newRemaining, proceeds, entryCost, rfl, hr, hs,
                          rfl, hc, hq, rfl, rfl⟩

/-- A refused exit changes nothing. -/
theorem applyExit_error {pf : Portfolio} {mint : String} {fill : Fill} {reason : String}
    {now : Time} {e : String} (h : (pf.applyExit mint fill reason now).1 = .error e) :
    (pf.applyExit mint fill reason now).2 = pf := by
  unfold applyExit at h ⊢
  cases hp : pf.position mint with
  | none => rfl
  | some p =>
      cases hr : p.remainingQuantityAtomic with
      | none => simp only [hr]
      | some remaining =>
          cases hs : checkedSub remaining fill.inputAmount with
          | none => simp only [hr, hs]
          | some newRemaining =>
              cases hv : fill.inputValueUsd with
              | none => simp only [hr, hs]
              | some proceeds =>
                  cases hc : p.entryCostUsd with
                  | none => simp only [hr, hs, hc]
                  | some entryCost =>
                      by_cases hq : p.quantity = 0
                      · simp [hr, hs, hc, hq]
                      · simp [hp, hr, hs, hv, hc, hq] at h

/-- What a successful mark found and what it stored. -/
theorem markToMarket_ok {pf : Portfolio} {mint : String} {price value : Decimal}
    (h : (pf.markToMarket mint price).1 = .ok value) :
    ∃ p remaining entryCost, pf.position mint = some p ∧
      p.remainingQuantityAtomic = some remaining ∧ p.entryCostUsd = some entryCost ∧
      value = price * dec remaining ∧
      (pf.markToMarket mint price).2 = ⟨pf.positions.put { p with
        highWaterPriceUsd := max p.highWaterPriceUsd price
        currentValueUsd := value
        unrealizedPnlUsd := value -
          entryCost * dec remaining / (if p.quantity = 0 then 1 else p.quantity) - p.feesUsd }⟩ := by
  unfold markToMarket at h ⊢
  cases hp : pf.position mint with
  | none => simp [hp] at h
  | some p =>
      cases hr : p.remainingQuantityAtomic with
      | none => simp [hp, hr] at h
      | some remaining =>
          cases hc : p.entryCostUsd with
          | none => simp [hp, hr, hc] at h
          | some entryCost =>
              simp only [hp, hr, hc, Except.ok.injEq] at h ⊢
              subst h
              exact ⟨p, remaining, entryCost, rfl, hr, hc, rfl, by rw [hr, hc]⟩

/-- A failed mark writes at most the high-water mark and the current value. -/
theorem markToMarket_error {pf : Portfolio} {mint : String} {price : Decimal} {e : String}
    (h : (pf.markToMarket mint price).1 = .error e) :
    (pf.markToMarket mint price).2 = pf ∨
      ∃ p high value, pf.position mint = some p ∧ (pf.markToMarket mint price).2 =
        ⟨pf.positions.put { p with highWaterPriceUsd := high, currentValueUsd := value }⟩ := by
  unfold markToMarket at h ⊢
  cases hp : pf.position mint with
  | none => exact .inl rfl
  | some p =>
      cases hr : p.remainingQuantityAtomic with
      | none => exact .inl (by simp only [hr])
      | some remaining =>
          cases hc : p.entryCostUsd with
          | none => exact .inr ⟨p, max p.highWaterPriceUsd price, price * dec remaining, rfl,
              by simp only [hr, hc]⟩
          | some entryCost => simp [hp, hr, hc] at h

/-- An adoption of the chain balance: what it finds and what it stores. A balance of zero
leaves the remaining quantity alone, every other balance replaces it. -/
theorem reconcileWithChain_true {pf : Portfolio} {mint : String} {amount : UInt64}
    {decimals : UInt8} {now : Time}
    (h : (pf.reconcileWithChain mint amount decimals now).1 = .ok true) :
    ∃ p p', pf.position mint = some p ∧ p.state = .open ∧ p'.mint = p.mint ∧
      p'.quantity = p.quantity ∧ p'.entryCostUsd = p.entryCostUsd ∧ p'.feesUsd = p.feesUsd ∧
      p'.realizedPnlUsd = p.realizedPnlUsd ∧
      (if amount = 0 ∧ p.remainingQuantityAtomic ≠ some 0 then
        p'.remainingQuantityAtomic = p.remainingQuantityAtomic ∧ p'.state = .closed
      else p'.remainingQuantityAtomic = some amount ∧ p'.state = .open) ∧
      (pf.reconcileWithChain mint amount decimals now).2 = ⟨pf.positions.put p'⟩ := by
  unfold reconcileWithChain at h ⊢
  cases hp : pf.position mint with
  | none => simp [hp] at h
  | some p =>
      simp only [hp] at h ⊢
      unfold Position.reconcileWithChain at h ⊢
      by_cases hopen : p.isOpen
      · have hstate : p.state = .open := by simpa [Position.isOpen] using hopen
        by_cases heq : p.remainingQuantityAtomic = some amount
        · refine ⟨p, _, rfl, hstate, ?_, ?_, ?_, ?_, ?_, ?_, rfl⟩
          all_goals simp [hopen, heq, hstate]
        · by_cases hzero : amount = 0
          · subst hzero
            refine ⟨p, _, rfl, hstate, ?_, ?_, ?_, ?_, ?_, ?_, rfl⟩
            all_goals simp [hopen, heq]
          · by_cases hdec : p.tokenDecimals.isSome ∧ p.tokenDecimals ≠ some decimals
            · simp [hopen, heq, hzero, hdec] at h
            · refine ⟨p, _, rfl, hstate, ?_, ?_, ?_, ?_, ?_, ?_, rfl⟩
              all_goals simp [hopen, heq, hzero, hdec, hstate]
      · simp [hopen] at h

/-- A reconciliation that adopts nothing changes no position. -/
theorem reconcileWithChain_not_true {pf : Portfolio} {mint : String} {amount : UInt64}
    {decimals : UInt8} {now : Time}
    (h : (pf.reconcileWithChain mint amount decimals now).1 ≠ .ok true) (m : String) :
    (pf.reconcileWithChain mint amount decimals now).2.position m = pf.position m := by
  unfold reconcileWithChain at h ⊢
  cases hp : pf.position mint with
  | none => rfl
  | some p =>
      simp only [hp] at h ⊢
      have hsame : (p.reconcileWithChain mint amount decimals now).2 = p := by
        unfold Position.reconcileWithChain at h ⊢
        by_cases hopen : p.isOpen
        · by_cases heq : p.remainingQuantityAtomic = some amount
          · simp [hopen, heq] at h
          · by_cases hzero : amount = 0
            · subst hzero
              simp [hopen, heq] at h
            · by_cases hdec : p.tokenDecimals.isSome ∧ p.tokenDecimals ≠ some decimals
              · simp [hopen, heq, hzero, hdec]
              · simp [hopen, heq, hzero, hdec] at h
        · simp [hopen]
      rw [hsame, position_put]
      split
      · rename_i hm
        rw [hm, mint_of_position hp, hp]
      · rfl

end Portfolio

end SolanaBot.Model
