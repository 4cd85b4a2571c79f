import Mathlib.Algebra.BigOperators.Group.List.Basic
import SolanaBot.Model.SwapParser

/-!
# What the swap parser sees of a wallet's tokens

The parser collects the token balances of a wallet in a map by mint, whose sums have a cap of 64 bits
and whose decimals are those of the first entry (`tokensOf_parseTokenBalancesForOwner`). So the change
that it sees of a mint is the difference of two capped totals (`mintDelta_parsed`), and the gained and
the lost tokens are the mints whose seen change is positive or negative, whatever the order of the maps
(`mem_gained_iff`, `mem_lost_iff`).
-/

set_option autoImplicit false

namespace SolanaBot.Analysis

open SolanaBot.Library SolanaBot.Model

/-! ## Totals of a mint -/

/-- The entries of a wallet with a mint. -/
def ownedOf (entries : List OwnedBalance) (wallet mint : String) : List OwnedBalance :=
  entries.filter fun e => e.owner = some wallet ∧ e.mint = some mint

/-- What the wallet holds of a mint. A missing amount is zero. -/
def totalOf (entries : List OwnedBalance) (wallet mint : String) : ℕ :=
  ((ownedOf entries wallet mint).map fun e => (e.amount.getD 0).toNat).sum

/-- The decimals that the parser reads for a mint: those of its first entry. -/
def decimalsOf (entries : List OwnedBalance) (wallet mint : String) : Option UInt8 :=
  (ownedOf entries wallet mint).head?.map fun e => (e.decimals.getD 0).toUInt8

/-- What one more entry makes of the amount and the decimals under its mint. -/
def addTo (held : Option (UInt64 × UInt8)) (e : OwnedBalance) : Option (UInt64 × UInt8) :=
  match held with
  | none => some (e.amount.getD 0, (e.decimals.getD 0).toUInt8)
  | some h => some (saturatingAdd h.1 (e.amount.getD 0), h.2)

/-- A token that is found is of the mint. -/
theorem mint_of_find? {tokens : OwnedTokens} {mint : String} {t : String × UInt64 × UInt8}
    (h : (tokens.find? fun t => t.1 = mint) = some t) : t.1 = mint := by
  have hmint := List.find?_some h
  exact of_decide_eq_true hmint

/-- The mint is in the map. -/
theorem tokensOf_isSome_iff (tokens : OwnedTokens) (mint : String) :
    (tokens.any fun t => t.1 = mint) = true ↔ ∃ t, tokensOf tokens mint = some t := by
  unfold tokensOf
  simp only [Option.map_eq_some_iff]
  rw [List.any_eq_true]
  constructor
  · rintro ⟨t, ht, hmint⟩
    have hfound : (tokens.find? fun t => t.1 = mint).isSome := List.find?_isSome.mpr ⟨t, ht, hmint⟩
    obtain ⟨t', ht'⟩ := Option.isSome_iff_exists.mp hfound
    exact ⟨t'.2, t', ht', rfl⟩
  · rintro ⟨_, t, ht, -⟩
    exact ⟨t, List.mem_of_find?_eq_some ht, decide_eq_true (mint_of_find? ht)⟩

/-- One more entry changes what is under its mint, and nothing else. -/
theorem tokensOf_addBalance (tokens : OwnedTokens) (e : OwnedBalance) (mint mint' : String) :
    tokensOf (addBalance tokens mint (e.amount.getD 0) (e.decimals.getD 0).toUInt8) mint' =
      if mint' = mint then addTo (tokensOf tokens mint) e else tokensOf tokens mint' := by
  unfold addBalance
  by_cases hany : (tokens.any fun t => t.1 = mint) = true
  · rw [if_pos hany]
    obtain ⟨held, hheld⟩ := (tokensOf_isSome_iff tokens mint).mp hany
    have hkey : ∀ t : String × UInt64 × UInt8,
        (if t.1 = mint then (t.1, saturatingAdd t.2.1 (e.amount.getD 0), t.2.2) else t).1 = t.1 := by
      intro t
      split <;> rfl
    have hfind : tokensOf (tokens.map fun t =>
          if t.1 = mint then (t.1, saturatingAdd t.2.1 (e.amount.getD 0), t.2.2) else t) mint' =
        (tokens.find? fun t => t.1 = mint').map fun t =>
          if t.1 = mint then (saturatingAdd t.2.1 (e.amount.getD 0), t.2.2) else t.2 := by
      unfold tokensOf
      rw [List.find?_map, Option.map_map]
      simp only [Function.comp_def, hkey]
      congr 1
      funext t
      split <;> rfl
    rw [hfind]
    by_cases hmint : mint' = mint
    · subst hmint
      unfold tokensOf at hheld ⊢
      obtain ⟨t, ht, rfl⟩ := Option.map_eq_some_iff.mp hheld
      have htmint := mint_of_find? ht
      rw [if_pos rfl, ht, Option.map_some, Option.map_some, if_pos htmint]
      rfl
    · rw [if_neg hmint]
      unfold tokensOf
      cases ht : tokens.find? fun t => t.1 = mint' with
      | none => rfl
      | some t =>
          have htmint := mint_of_find? ht
          rw [Option.map_some, Option.map_some, if_neg fun h => hmint (htmint.symm.trans h)]
  · rw [if_neg hany]
    have hnone : tokensOf tokens mint = none := by
      cases htokens : tokensOf tokens mint with
      | none => rfl
      | some t => exact absurd ((tokensOf_isSome_iff tokens mint).mpr ⟨t, htokens⟩) hany
    rw [hnone]
    unfold tokensOf at hnone ⊢
    rw [List.find?_append, Option.map_or]
    by_cases hmint : mint' = mint
    · subst hmint
      rw [if_pos rfl, hnone, Option.none_or, List.find?_cons_of_pos (by simp)]
      rfl
    · rw [if_neg hmint, List.find?_cons_of_neg (by simpa using fun h => hmint h.symm),
        List.find?_nil, Option.map_none, Option.or_none]

/-- One turn of the loop over the entries. -/
def addOwned (wallet : String) (tokens : OwnedTokens) (e : OwnedBalance) : OwnedTokens :=
  if e.owner = some wallet then
    match e.mint with
    | none => tokens
    | some mint => addBalance tokens mint (e.amount.getD 0) (e.decimals.getD 0).toUInt8
  else tokens

/-- An entry adds to the tokens of its own wallet and mint only. -/
theorem tokensOf_addOwned (wallet : String) (tokens : OwnedTokens) (e : OwnedBalance)
    (mint : String) :
    tokensOf (addOwned wallet tokens e) mint =
      if e.owner = some wallet ∧ e.mint = some mint then addTo (tokensOf tokens mint) e
      else tokensOf tokens mint := by
  unfold addOwned
  by_cases howner : e.owner = some wallet
  · rw [if_pos howner]
    cases hmint : e.mint with
    | none => rw [if_neg (fun h => nomatch h.2)]
    | some mint' =>
        dsimp only
        rw [tokensOf_addBalance]
        by_cases heq : mint = mint'
        · rw [if_pos heq, if_pos ⟨howner, congrArg some heq.symm⟩, heq]
        · rw [if_neg heq, if_neg fun h => heq (Option.some.inj h.2).symm]
  · rw [if_neg howner, if_neg fun h => howner h.1]

/-- The tokens of a mint are the entries of the wallet for it, added up. -/
theorem tokensOf_foldl_addOwned (entries : List OwnedBalance) (wallet mint : String)
    (tokens : OwnedTokens) :
    tokensOf (entries.foldl (addOwned wallet) tokens) mint =
      (ownedOf entries wallet mint).foldl addTo (tokensOf tokens mint) := by
  induction entries generalizing tokens with
  | nil => rfl
  | cons e entries ih =>
      rw [List.foldl_cons, ih, tokensOf_addOwned]
      unfold ownedOf
      by_cases he : e.owner = some wallet ∧ e.mint = some mint
      · rw [if_pos he, List.filter_cons_of_pos (by simpa using he), List.foldl_cons]
      · rw [if_neg he, List.filter_cons_of_neg (by simpa using he)]

/-- The map under a mint depends on the entries of the wallet with that mint alone. -/
theorem tokensOf_parseTokenBalancesForOwner (entries : List OwnedBalance) (wallet mint : String) :
    tokensOf (parseTokenBalancesForOwner entries wallet) mint =
      (ownedOf entries wallet mint).foldl addTo none := by
  exact tokensOf_foldl_addOwned entries wallet mint []

/-- The amount of a mint has a cap, and its decimals are those of the first entry. -/
theorem foldl_addTo_some (l : List OwnedBalance) (h : UInt64 × UInt8) :
    ∃ amount : UInt64, l.foldl addTo (some h) = some (amount, h.2) ∧
      amount.toNat = min (h.1.toNat + (l.map fun e => (e.amount.getD 0).toNat).sum) maxU64 := by
  induction l generalizing h with
  | nil =>
      have hlt := h.1.toNat_lt
      refine ⟨h.1, rfl, ?_⟩
      rw [List.map_nil, List.sum_nil, Nat.add_zero]
      unfold maxU64
      omega
  | cons e l ih =>
      obtain ⟨amount, hfold, hamount⟩ := ih (saturatingAdd h.1 (e.amount.getD 0), h.2)
      refine ⟨amount, hfold, ?_⟩
      rw [hamount, toNat_saturatingAdd_eq_min, List.map_cons, List.sum_cons]
      omega

/-- The amount under a mint: the total, with its cap. -/
theorem amount_parsed (entries : List OwnedBalance) (wallet mint : String) :
    (((tokensOf (parseTokenBalancesForOwner entries wallet) mint).map
        fun t => (t.1.toNat : Int)).getD 0) = (min (totalOf entries wallet mint) maxU64 : ℕ) := by
  rw [tokensOf_parseTokenBalancesForOwner]
  unfold totalOf
  cases ownedOf entries wallet mint with
  | nil => rfl
  | cons e l =>
      obtain ⟨amount, hfold, hamount⟩ :=
        foldl_addTo_some l (e.amount.getD 0, (e.decimals.getD 0).toUInt8)
      have hcons : (e :: l).foldl addTo none = some (amount, (e.decimals.getD 0).toUInt8) := hfold
      rw [hcons, Option.map_some, Option.getD_some, hamount, List.map_cons, List.sum_cons]

/-- The decimals under a mint. -/
theorem decimals_parsed (entries : List OwnedBalance) (wallet mint : String) :
    (tokensOf (parseTokenBalancesForOwner entries wallet) mint).map Prod.snd =
      decimalsOf entries wallet mint := by
  rw [tokensOf_parseTokenBalancesForOwner]
  unfold decimalsOf
  cases ownedOf entries wallet mint with
  | nil => rfl
  | cons e l =>
      obtain ⟨amount, hfold, -⟩ :=
        foldl_addTo_some l (e.amount.getD 0, (e.decimals.getD 0).toUInt8)
      have hcons : (e :: l).foldl addTo none = some (amount, (e.decimals.getD 0).toUInt8) := hfold
      rw [hcons]
      rfl

/-! ## Changes of a mint -/

/-- The change of a mint that the parser sees: the totals have a cap. -/
def seenChange (m : SwapMeta) (wallet mint : String) : Int :=
  (min (totalOf m.postTokenBalances wallet mint) maxU64 : ℕ) -
    (min (totalOf m.preTokenBalances wallet mint) maxU64 : ℕ)

/-- The change between the two maps is the change that is seen. -/
theorem mintDelta_parsed (m : SwapMeta) (wallet mint : String) :
    mintDelta (parseTokenBalancesForOwner m.preTokenBalances wallet)
      (parseTokenBalancesForOwner m.postTokenBalances wallet) mint = seenChange m wallet mint := by
  unfold mintDelta seenChange
  rw [amount_parsed, amount_parsed]

/-- The decimals are those after, or else those before. -/
theorem mintDecimals_parsed (m : SwapMeta) (wallet mint : String) :
    mintDecimals (parseTokenBalancesForOwner m.preTokenBalances wallet)
      (parseTokenBalancesForOwner m.postTokenBalances wallet) mint =
      ((decimalsOf m.postTokenBalances wallet mint).or
        (decimalsOf m.preTokenBalances wallet mint)).getD 0 := by
  unfold mintDecimals
  rw [Option.map_or, decimals_parsed, decimals_parsed]

/-- A change that is seen is within the range of an amount. -/
theorem seenChange_bounds (m : SwapMeta) (wallet mint : String) :
    -(maxU64 : Int) ≤ seenChange m wallet mint ∧ seenChange m wallet mint ≤ maxU64 := by
  unfold seenChange
  omega

/-- The keys of a map are the mints with tokens. -/
theorem mem_keys_iff (tokens : OwnedTokens) (mint : String) :
    mint ∈ tokens.map Prod.fst ↔ ∃ t, tokensOf tokens mint = some t := by
  rw [← tokensOf_isSome_iff, List.any_eq_true, List.mem_map]
  simp only [decide_eq_true_eq]

/-- A mint that the wallet holds something of is in the map. -/
theorem mem_keys_of_total {entries : List OwnedBalance} {wallet mint : String}
    (h : totalOf entries wallet mint ≠ 0) :
    mint ∈ (parseTokenBalancesForOwner entries wallet).map Prod.fst := by
  rw [mem_keys_iff]
  have hamount := amount_parsed entries wallet mint
  cases htokens : tokensOf (parseTokenBalancesForOwner entries wallet) mint with
  | some t => exact ⟨t, rfl⟩
  | none =>
      rw [htokens, Option.map_none, Option.getD_none] at hamount
      unfold maxU64 at hamount
      omega

/-- Every mint of the two maps is looked at. -/
theorem mem_allMints_iff (order : KeyOrder) (pre post : OwnedTokens) (mint : String) :
    mint ∈ allMints order pre post ↔ mint ∈ pre.map Prod.fst ∨ mint ∈ post.map Prod.fst := by
  have hfirsts := @mem_map_firstsBy String String _ id []
    (order.order (pre.map Prod.fst) ++ order.order (post.map Prod.fst)) mint
  rw [List.map_id, List.map_id] at hfirsts
  unfold allMints
  rw [hfirsts, List.mem_append, (order.perm _).mem_iff, (order.perm _).mem_iff]
  exact and_iff_left List.not_mem_nil

/-- The changes that the parser sees in the metadata. -/
def changesOf (order : KeyOrder) (m : SwapMeta) (wallet : String) : BalanceChanges :=
  balanceChanges order (parseTokenBalancesForOwner m.preTokenBalances wallet)
    (parseTokenBalancesForOwner m.postTokenBalances wallet)

/-- A mint whose change is seen is looked at. -/
theorem mem_allMints_of_change {m : SwapMeta} {wallet mint : String} (order : KeyOrder)
    (h : seenChange m wallet mint ≠ 0) :
    mint ∈ allMints order (parseTokenBalancesForOwner m.preTokenBalances wallet)
      (parseTokenBalancesForOwner m.postTokenBalances wallet) := by
  rw [mem_allMints_iff]
  by_cases hpre : totalOf m.preTokenBalances wallet mint = 0
  · refine .inr (mem_keys_of_total fun hpost => h ?_)
    unfold seenChange
    rw [hpre, hpost]
    rfl
  · exact .inl (mem_keys_of_total hpre)

/-- The change of wrapped SOL is the one that is seen. -/
theorem changesOf_wsolDelta (order : KeyOrder) (m : SwapMeta) (wallet : String) :
    (changesOf order m wallet).wsolDelta = seenChange m wallet WSOL_MINT := by
  unfold changesOf balanceChanges
  dsimp only
  rw [mintDelta_parsed]
  split
  · rfl
  · rename_i hmem
    exact (not_not.mp fun h => hmem (mem_allMints_of_change order h)).symm

/-- The decimals that the parser gives a mint. -/
def seenDecimals (m : SwapMeta) (wallet mint : String) : UInt8 :=
  ((decimalsOf m.postTokenBalances wallet mint).or
    (decimalsOf m.preTokenBalances wallet mint)).getD 0

/-- The tokens with a positive amount, in the order of the mints. Wrapped SOL is none. -/
def picked (mints : List String) (amount : String → Int) (decimals : String → UInt8) :
    List (String × UInt64 × UInt8) :=
  mints.filterMap fun mint =>
    if mint ≠ WSOL_MINT ∧ 0 < amount mint then
      some (mint, UInt64.ofNat (amount mint).toNat, decimals mint)
    else none

/-- An amount within the cap keeps its value. -/
theorem toNat_ofNat_amount {d : Int} (hpos : 0 < d) (hle : d ≤ maxU64) :
    ((UInt64.ofNat d.toNat).toNat : Int) = d := by
  unfold maxU64 at hle
  rw [UInt64.toNat_ofNat', Nat.mod_eq_of_lt (by omega)]
  omega

/-- What is picked: not wrapped SOL, with a positive amount in range. -/
theorem mem_picked_iff {mints : List String} {amount : String → Int} {decimals : String → UInt8}
    (hbound : ∀ mint, amount mint ≤ maxU64) (hmem : ∀ mint, 0 < amount mint → mint ∈ mints)
    (t : String × UInt64 × UInt8) :
    t ∈ picked mints amount decimals ↔
      t.1 ≠ WSOL_MINT ∧ 0 < amount t.1 ∧ (t.2.1.toNat : Int) = amount t.1 ∧
        t.2.2 = decimals t.1 := by
  have htoNat : ∀ mint, 0 < amount mint →
      ((UInt64.ofNat (amount mint).toNat).toNat : Int) = amount mint :=
    fun mint hpos => toNat_ofNat_amount hpos (hbound mint)
  unfold picked
  rw [List.mem_filterMap]
  constructor
  · rintro ⟨mint, -, hsome⟩
    split at hsome
    · rename_i hmint
      cases hsome
      exact ⟨hmint.1, hmint.2, htoNat mint hmint.2, rfl⟩
    · cases hsome
  · rintro ⟨hmint, hpos, hamount, hdecimals⟩
    refine ⟨t.1, hmem t.1 hpos, (if_pos ⟨hmint, hpos⟩).trans (congrArg some ?_)⟩
    refine Prod.ext rfl (Prod.ext (UInt64.toNat_inj.mp ?_) hdecimals.symm)
    exact Int.natCast_inj.mp ((htoNat t.1 hpos).trans hamount.symm)

/-- Something is picked exactly if a mint other than wrapped SOL has a positive amount. -/
theorem picked_ne_nil_iff {mints : List String} {amount : String → Int}
    {decimals : String → UInt8} (hbound : ∀ mint, amount mint ≤ maxU64)
    (hmem : ∀ mint, 0 < amount mint → mint ∈ mints) :
    picked mints amount decimals ≠ [] ↔ ∃ mint, mint ≠ WSOL_MINT ∧ 0 < amount mint := by
  constructor
  · intro h
    obtain ⟨t, ht⟩ := List.exists_mem_of_ne_nil _ h
    obtain ⟨hmint, hpos, -, -⟩ := (mem_picked_iff hbound hmem t).mp ht
    exact ⟨t.1, hmint, hpos⟩
  · rintro ⟨mint, hmint, hpos⟩
    exact List.ne_nil_of_mem ((mem_picked_iff hbound hmem
      (mint, UInt64.ofNat (amount mint).toNat, decimals mint)).mpr
        ⟨hmint, hpos, toNat_ofNat_amount hpos (hbound mint), rfl⟩)

section Changes

variable (order : KeyOrder) (m : SwapMeta) (wallet : String)

/-- The mints in the order in which the parser walks them. -/
def seenMints : List String :=
  allMints order (parseTokenBalancesForOwner m.preTokenBalances wallet)
    (parseTokenBalancesForOwner m.postTokenBalances wallet)

/-- What was gained is picked by the change. -/
theorem changesOf_gained :
    (changesOf order m wallet).gained =
      picked (seenMints order m wallet) (seenChange m wallet) (seenDecimals m wallet) := by
  unfold changesOf balanceChanges picked
  dsimp only
  simp only [mintDelta_parsed, mintDecimals_parsed]
  rfl

/-- What was lost is picked by the change the other way. -/
theorem changesOf_lost :
    (changesOf order m wallet).lost =
      picked (seenMints order m wallet) (fun mint => -seenChange m wallet mint)
        (seenDecimals m wallet) := by
  unfold changesOf balanceChanges picked
  dsimp only
  simp only [mintDelta_parsed, mintDecimals_parsed, Left.neg_pos_iff]
  rfl

/-- A gain is within the range of an amount. -/
theorem seenChange_le (mint : String) : seenChange m wallet mint ≤ maxU64 :=
  (seenChange_bounds m wallet mint).2

/-- A loss is within the range of an amount. -/
theorem neg_seenChange_le (mint : String) : -seenChange m wallet mint ≤ maxU64 := by
  have hbounds := seenChange_bounds m wallet mint
  omega

/-- A mint whose amount changes is seen. -/
theorem mem_seenMints (mint : String) (h : seenChange m wallet mint ≠ 0) :
    mint ∈ seenMints order m wallet := mem_allMints_of_change order h

/-- The gained tokens are those whose seen change is positive. -/
theorem mem_gained_iff (t : String × UInt64 × UInt8) :
    t ∈ (changesOf order m wallet).gained ↔
      t.1 ≠ WSOL_MINT ∧ 0 < seenChange m wallet t.1 ∧
        (t.2.1.toNat : Int) = seenChange m wallet t.1 ∧ t.2.2 = seenDecimals m wallet t.1 := by
  rw [changesOf_gained]
  exact mem_picked_iff (seenChange_le m wallet)
    (fun mint hpos => mem_seenMints order m wallet mint hpos.ne') t

/-- The lost tokens are those whose seen change is negative. -/
theorem mem_lost_iff (t : String × UInt64 × UInt8) :
    t ∈ (changesOf order m wallet).lost ↔
      t.1 ≠ WSOL_MINT ∧ 0 < -seenChange m wallet t.1 ∧
        (t.2.1.toNat : Int) = -seenChange m wallet t.1 ∧ t.2.2 = seenDecimals m wallet t.1 := by
  rw [changesOf_lost]
  exact mem_picked_iff (neg_seenChange_le m wallet)
    (fun mint hpos => mem_seenMints order m wallet mint (by omega)) t

/-- A token is gained if the change of a mint other than wrapped SOL is seen positive. -/
theorem gained_ne_nil_iff :
    (changesOf order m wallet).gained ≠ [] ↔
      ∃ mint, mint ≠ WSOL_MINT ∧ 0 < seenChange m wallet mint := by
  rw [changesOf_gained]
  exact picked_ne_nil_iff (seenChange_le m wallet)
    fun mint hpos => mem_seenMints order m wallet mint hpos.ne'

/-- A token is lost if the change of a mint other than wrapped SOL is seen negative. -/
theorem lost_ne_nil_iff :
    (changesOf order m wallet).lost ≠ [] ↔
      ∃ mint, mint ≠ WSOL_MINT ∧ 0 < -seenChange m wallet mint := by
  rw [changesOf_lost]
  exact picked_ne_nil_iff (neg_seenChange_le m wallet)
    fun mint hpos => mem_seenMints order m wallet mint (by omega)

end Changes

end SolanaBot.Analysis
