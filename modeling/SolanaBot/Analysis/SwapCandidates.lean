import SolanaBot.Library.LastGreatest
import SolanaBot.Analysis.SwapReadings

/-!
# The tokens that the swap parser may pick

The parser picks the last of the tokens that changed most (`primaryToken_eq`), in the order of two hash
maps, and its decimals are those of an entry that comes first. A mint with decimals is a candidate if it
changed most, was not held before unless all such mints were, and some entry names the decimals
(`Candidate`). Whatever the orders, a candidate is picked (`candidate_of_primary`), and every candidate
is picked in some order (`primary_of_candidate`). So the token does not depend on the orders if there is
one candidate (`primary_eq_of_oneCandidate`).
-/

set_option autoImplicit false

namespace SolanaBot.Analysis

open SolanaBot.Library SolanaBot.Model

/-! ## The token that is picked -/

/-- The filter of dust has no effect: the last of the greatest is picked. -/
theorem primaryToken_eq (tokens : List (String × UInt64 × UInt8)) :
    primaryToken tokens = lastMaxBy (fun t => t.2.1.toNat) tokens := by
  have hmax : ∀ tokens : List (String × UInt64 × UInt8),
      maxByAmount tokens = lastMaxBy (fun t => t.2.1.toNat) tokens := by
    intro tokens
    unfold maxByAmount lastMaxBy
    congr 1
    funext best t
    cases best with
    | none => rfl
    | some b =>
        unfold laterMax
        simp only [UInt64.le_iff_toNat_le]
  have hfilter : (fun t : String × UInt64 × UInt8 => decide (t.2.1 ≥ DUST_LAMPORTS)) =
      fun t => decide (DUST_LAMPORTS.toNat ≤ t.2.1.toNat) := by
    funext t
    simp only [ge_iff_le, UInt64.le_iff_toNat_le]
  unfold primaryToken
  rw [hmax, hmax, hfilter]
  exact lastMaxBy_filter tokens DUST_LAMPORTS.toNat

section Candidates

variable (m : SwapMeta) (wallet : String) (amount : String → Int)

/-- The wallet had an account of the mint before. -/
def HeldBefore (mint : String) : Prop := ownedOf m.preTokenBalances wallet mint ≠ []

/-- The entries whose first one gives the decimals of a mint: those after the transaction, if any. -/
def decisiveEntries (mint : String) : List OwnedBalance :=
  if ownedOf m.postTokenBalances wallet mint = [] then ownedOf m.preTokenBalances wallet mint
  else ownedOf m.postTokenBalances wallet mint

/-- The decimals that an entry names. -/
def decimalsIn (e : OwnedBalance) : UInt8 := (e.decimals.getD 0).toUInt8

/-- No other mint has a greater amount. -/
def Leading (mint : String) : Prop :=
  mint ≠ WSOL_MINT ∧ 0 < amount mint ∧ ∀ mint', mint' ≠ WSOL_MINT → amount mint' ≤ amount mint

/-- A mint with decimals that may be picked: no mint has a greater amount, mints that were not held
before take precedence, and some decisive entry names the decimals. -/
structure Candidate (c : String × UInt8) : Prop where
  leading : Leading amount c.1
  last : HeldBefore m wallet c.1 → ∀ mint, Leading amount mint → HeldBefore m wallet mint
  decimals : ∃ e ∈ decisiveEntries m wallet c.1, decimalsIn e = c.2

/-- There is no more than one candidate. -/
def OneCandidate : Prop :=
  ∀ c c', Candidate m wallet amount c → Candidate m wallet amount c' → c = c'

end Candidates

/-! ## What is picked is a candidate -/

/-- The mints of the map are those the wallet has entries for. -/
theorem mem_keys_iff_owned (entries : List OwnedBalance) (wallet mint : String) :
    mint ∈ (parseTokenBalancesForOwner entries wallet).map Prod.fst ↔
      ownedOf entries wallet mint ≠ [] := by
  rw [mem_keys_iff, tokensOf_parseTokenBalancesForOwner]
  cases ownedOf entries wallet mint with
  | nil => simp
  | cons e l =>
      obtain ⟨amount, hfold, -⟩ := foldl_addTo_some l (e.amount.getD 0, decimalsIn e)
      exact ⟨fun _ => List.cons_ne_nil _ _, fun _ => ⟨_, hfold⟩⟩

/-- The decimals that are seen are those of the first decisive entry. -/
theorem seenDecimals_eq (m : SwapMeta) (wallet mint : String) :
    seenDecimals m wallet mint =
      ((decisiveEntries m wallet mint).head?.map decimalsIn).getD 0 := by
  unfold seenDecimals decimalsOf decisiveEntries
  cases hpost : ownedOf m.postTokenBalances wallet mint with
  | nil => rfl
  | cons e l => rfl

section Mints

variable (order : KeyOrder) (m : SwapMeta) (wallet : String)

/-- The mints that were held before, in the order of their map. -/
def mintsBefore : List String :=
  firstsBy id [] (order.order ((parseTokenBalancesForOwner m.preTokenBalances wallet).map Prod.fst))

/-- The other mints, in the order of theirs. -/
def mintsAfter : List String :=
  firstsBy id (order.order ((parseTokenBalancesForOwner m.preTokenBalances wallet).map Prod.fst))
    (order.order ((parseTokenBalancesForOwner m.postTokenBalances wallet).map Prod.fst))

/-- The mints that are seen are those held before, and then those held after only. -/
theorem seenMints_eq : seenMints order m wallet = mintsBefore order m wallet ++
    mintsAfter order m wallet := by
  unfold seenMints allMints mintsBefore mintsAfter
  rw [firstsBy_append, List.map_id, List.append_nil]

/-- The first occurrences are the elements that were not seen. -/
theorem mem_firstsBy_id {seen xs : List String} {mint : String} :
    mint ∈ firstsBy id seen xs ↔ mint ∈ xs ∧ mint ∉ seen := by
  have hmem := @mem_map_firstsBy String String _ id seen xs mint
  rwa [List.map_id, List.map_id] at hmem

/-- The mints before are those that the wallet held before. -/
theorem mem_mintsBefore (mint : String) :
    mint ∈ mintsBefore order m wallet ↔ HeldBefore m wallet mint := by
  unfold mintsBefore HeldBefore
  rw [mem_firstsBy_id, (order.perm _).mem_iff, mem_keys_iff_owned]
  exact and_iff_left List.not_mem_nil

/-- The mints after are those that it holds after and did not before. -/
theorem mem_mintsAfter (mint : String) :
    mint ∈ mintsAfter order m wallet ↔
      ownedOf m.postTokenBalances wallet mint ≠ [] ∧ ¬ HeldBefore m wallet mint := by
  unfold mintsAfter HeldBefore
  rw [mem_firstsBy_id, (order.perm _).mem_iff, (order.perm _).mem_iff, mem_keys_iff_owned,
    mem_keys_iff_owned]

end Mints

/-- What is picked from two lists. -/
theorem picked_append (mints mints' : List String) (amount : String → Int)
    (decimals : String → UInt8) :
    picked (mints ++ mints') amount decimals =
      picked mints amount decimals ++ picked mints' amount decimals := List.filterMap_append

/-- What is picked is of a mint of the list. -/
theorem mint_mem_of_picked {mints : List String} {amount : String → Int} {decimals : String → UInt8}
    {t : String × UInt64 × UInt8} (h : t ∈ picked mints amount decimals) : t.1 ∈ mints := by
  obtain ⟨mint, hmem, hsome⟩ := List.mem_filterMap.mp h
  split at hsome
  · cases hsome
    exact hmem
  · cases hsome

/-- Amounts that are positive for seen changes only, within 64 bits: gains and losses. -/
structure SeenAmount (m : SwapMeta) (wallet : String) (amount : String → Int) : Prop where
  le : ∀ mint, amount mint ≤ maxU64
  seen : ∀ mint, 0 < amount mint → seenChange m wallet mint ≠ 0

/-- The gains are amounts of what is seen. -/
theorem seenAmount_gain (m : SwapMeta) (wallet : String) :
    SeenAmount m wallet (seenChange m wallet) :=
  ⟨seenChange_le m wallet, fun _ hpos => hpos.ne'⟩

/-- So are the losses. -/
theorem seenAmount_loss (m : SwapMeta) (wallet : String) :
    SeenAmount m wallet fun mint => -seenChange m wallet mint :=
  ⟨neg_seenChange_le m wallet, fun mint hpos => by omega⟩

/-- The tokens among which one is picked. -/
def pickedTokens (order : KeyOrder) (m : SwapMeta) (wallet : String) (amount : String → Int) :
    List (String × UInt64 × UInt8) :=
  picked (seenMints order m wallet) amount (seenDecimals m wallet)

section Picked

variable (order : KeyOrder) {m : SwapMeta} {wallet : String} {amount : String → Int}
variable (hamount : SeenAmount m wallet amount)
include hamount

/-- The tokens that are picked: not wrapped SOL, with a positive amount in range and the decimals
seen. -/
theorem mem_pickedTokens_iff (t : String × UInt64 × UInt8) :
    t ∈ pickedTokens order m wallet amount ↔
      t.1 ≠ WSOL_MINT ∧ 0 < amount t.1 ∧ (t.2.1.toNat : Int) = amount t.1 ∧
        t.2.2 = seenDecimals m wallet t.1 :=
  mem_picked_iff hamount.le
    (fun mint hpos => mem_seenMints order m wallet mint (hamount.seen mint hpos)) t

/-- A token may be picked if some amount is positive. -/
theorem pickedTokens_ne_nil_iff :
    pickedTokens order m wallet amount ≠ [] ↔ ∃ mint, mint ≠ WSOL_MINT ∧ 0 < amount mint :=
  picked_ne_nil_iff hamount.le
    fun mint hpos => mem_seenMints order m wallet mint (hamount.seen mint hpos)

/-- A mint with a positive amount is among the tokens. -/
theorem token_of_positive {mint : String} (hmint : mint ≠ WSOL_MINT) (hpos : 0 < amount mint) :
    ∃ t ∈ pickedTokens order m wallet amount, t.1 = mint :=
  ⟨(mint, UInt64.ofNat (amount mint).toNat, seenDecimals m wallet mint),
    (mem_pickedTokens_iff order hamount _).mpr
      ⟨hmint, hpos, toNat_ofNat_amount hpos (hamount.le mint), rfl⟩, rfl⟩

/-- A mint with a positive amount was held before or after. -/
theorem held_of_positive {mint : String} (hpos : 0 < amount mint) :
    HeldBefore m wallet mint ∨ ownedOf m.postTokenBalances wallet mint ≠ [] := by
  have hmem := mem_seenMints keysAsListed m wallet mint (hamount.seen mint hpos)
  rw [seenMints_eq, List.mem_append, mem_mintsBefore, mem_mintsAfter] at hmem
  exact hmem.imp id And.left

/-- The last of the greatest is a leading mint. -/
theorem leading_of_primary {t : String × UInt64 × UInt8}
    (h : primaryToken (pickedTokens order m wallet amount) = some t) : Leading amount t.1 := by
  rw [primaryToken_eq] at h
  obtain ⟨hmint, hpos, hvalue, -⟩ := (mem_pickedTokens_iff order hamount t).mp (lastMaxBy_mem h)
  refine ⟨hmint, hpos, fun mint' hmint' => ?_⟩
  by_cases hpos' : 0 < amount mint'
  · obtain ⟨t', ht', rfl⟩ := token_of_positive order hamount hmint' hpos'
    have hle := le_of_lastMaxBy h t' ht'
    have hvalue' := ((mem_pickedTokens_iff order hamount t').mp ht').2.2.1
    omega
  · omega

/-- **What is picked is a candidate.** -/
theorem candidate_of_primary {t : String × UInt64 × UInt8}
    (h : primaryToken (pickedTokens order m wallet amount) = some t) :
    Candidate m wallet amount (t.1, t.2.2) := by
  have hleading := leading_of_primary order hamount h
  rw [primaryToken_eq] at h
  obtain ⟨-, hpos, hvalue, hdecimals⟩ := (mem_pickedTokens_iff order hamount t).mp (lastMaxBy_mem h)
  refine ⟨hleading, fun hheld mint hmint => ?_, ?_⟩
  · -- a leading mint that was not held before comes later, and would be picked
    by_contra hafter
    obtain ⟨u, hu, rfl⟩ := token_of_positive order hamount hmint.1 hmint.2.1
    have hvalue' := ((mem_pickedTokens_iff order hamount u).mp hu).2.2.1
    have hequal := hmint.2.2 t.1 hleading.1
    unfold pickedTokens at h hu
    rw [seenMints_eq, picked_append] at h hu
    have hsecond : u ∈ picked (mintsAfter order m wallet) amount (seenDecimals m wallet) :=
      (List.mem_append.mp hu).resolve_left fun hfirst =>
        hafter ((mem_mintsBefore order m wallet u.1).mp (mint_mem_of_picked hfirst))
    have hlater := lastMaxBy_append_mem h hsecond (by omega)
    exact ((mem_mintsAfter order m wallet t.1).mp (mint_mem_of_picked hlater)).2 hheld
  · rw [seenDecimals_eq] at hdecimals
    have hne : decisiveEntries m wallet t.1 ≠ [] := by
      unfold decisiveEntries
      split
      · rename_i hpost
        exact (held_of_positive hamount hpos).resolve_right (not_not.mpr hpost)
      · assumption
    obtain ⟨e, l, hentries⟩ := List.exists_cons_of_ne_nil hne
    rw [hentries] at hdecimals
    exact ⟨e, by rw [hentries]; exact List.mem_cons_self, hdecimals.symm⟩

end Picked

/-! ## Other orders of the balances -/

/-- The metadata with its token balances listed otherwise. -/
def listedAs (m : SwapMeta) (pre post : List OwnedBalance) : SwapMeta :=
  { m with preTokenBalances := pre, postTokenBalances := post }

/-- A listing of the token balances in another order. -/
structure Listing (m : SwapMeta) (pre post : List OwnedBalance) : Prop where
  pre : pre.Perm m.preTokenBalances
  post : post.Perm m.postTokenBalances

/-- The entries of a wallet in another order of all entries. -/
theorem perm_ownedOf {entries entries' : List OwnedBalance} (h : entries.Perm entries')
    (wallet mint : String) : (ownedOf entries wallet mint).Perm (ownedOf entries' wallet mint) :=
  h.filter _

/-- A permutation is empty exactly if the list is. -/
theorem perm_eq_nil_iff {α : Type*} {l l' : List α} (h : l.Perm l') : l = [] ↔ l' = [] := by
  rw [← List.length_eq_zero_iff, ← List.length_eq_zero_iff, h.length_eq]

/-- The total does not depend on the order of the entries. -/
theorem totalOf_perm {entries entries' : List OwnedBalance} (h : entries.Perm entries')
    (wallet mint : String) : totalOf entries wallet mint = totalOf entries' wallet mint :=
  ((perm_ownedOf h wallet mint).map _).sum_eq

section Listings

variable {m : SwapMeta} {pre post : List OwnedBalance} (h : Listing m pre post) (wallet : String)
include h

/-- The change that is seen does not depend on the order of the entries. -/
theorem seenChange_listedAs : seenChange (listedAs m pre post) wallet = seenChange m wallet := by
  funext mint
  unfold seenChange listedAs
  dsimp only
  rw [totalOf_perm h.pre, totalOf_perm h.post]

/-- Nor does what was held before. -/
theorem heldBefore_listedAs (mint : String) :
    HeldBefore (listedAs m pre post) wallet mint ↔ HeldBefore m wallet mint :=
  not_congr (perm_eq_nil_iff (perm_ownedOf h.pre wallet mint))

/-- The decisive entries are the same up to their order. -/
theorem perm_decisiveEntries (mint : String) :
    (decisiveEntries (listedAs m pre post) wallet mint).Perm (decisiveEntries m wallet mint) := by
  have hpost := perm_eq_nil_iff (perm_ownedOf h.post wallet mint)
  unfold decisiveEntries listedAs
  dsimp only
  by_cases hnone : ownedOf post wallet mint = []
  · rw [if_pos hnone, if_pos (hpost.mp hnone)]
    exact perm_ownedOf h.pre wallet mint
  · rw [if_neg hnone, if_neg (mt hpost.mpr hnone)]
    exact perm_ownedOf h.post wallet mint

/-- Another listing has the same candidates. -/
theorem candidate_listedAs (amount : String → Int) (c : String × UInt8) :
    Candidate (listedAs m pre post) wallet amount c ↔ Candidate m wallet amount c := by
  have hheld := heldBefore_listedAs h wallet
  have hdecisive := fun e => (perm_decisiveEntries h wallet c.1).mem_iff (a := e)
  constructor
  · rintro ⟨hleading, hlast, e, he, hdecimals⟩
    exact ⟨hleading, fun hc mint hmint => (hheld mint).mp (hlast ((hheld c.1).mpr hc) mint hmint),
      e, (hdecisive e).mp he, hdecimals⟩
  · rintro ⟨hleading, hlast, e, he, hdecimals⟩
    exact ⟨hleading, fun hc mint hmint => (hheld mint).mpr (hlast ((hheld c.1).mp hc) mint hmint),
      e, (hdecisive e).mpr he, hdecimals⟩

/-- An amount of what is seen is one in every order of the entries. -/
theorem seenAmount_listedAs {amount : String → Int} (hamount : SeenAmount m wallet amount) :
    SeenAmount (listedAs m pre post) wallet amount :=
  ⟨hamount.le, fun mint hpos => by
    rw [seenChange_listedAs h]
    exact hamount.seen mint hpos⟩

end Listings

/-- Some listing has a given decisive entry of a mint first. -/
theorem exists_listing {m : SwapMeta} {wallet mint : String} {e : OwnedBalance}
    (he : e ∈ decisiveEntries m wallet mint) :
    ∃ pre post, Listing m pre post ∧
      (decisiveEntries (listedAs m pre post) wallet mint).head? = some e := by
  have hfirst : ∀ entries : List OwnedBalance, e ∈ ownedOf entries wallet mint →
      ∃ entries' : List OwnedBalance, entries'.Perm entries ∧
        (ownedOf entries' wallet mint).head? = some e := by
    intro entries hmem
    obtain ⟨hmem, howned⟩ := List.mem_filter.mp hmem
    obtain ⟨l, l', rfl⟩ := List.append_of_mem hmem
    have hcons : ownedOf (e :: (l ++ l')) wallet mint = e :: ownedOf (l ++ l') wallet mint :=
      List.filter_cons_of_pos howned
    exact ⟨e :: (l ++ l'), List.perm_middle.symm, by rw [hcons, List.head?_cons]⟩
  unfold decisiveEntries at he
  by_cases hnone : ownedOf m.postTokenBalances wallet mint = []
  · rw [if_pos hnone] at he
    obtain ⟨pre, hperm, hhead⟩ := hfirst m.preTokenBalances he
    refine ⟨pre, m.postTokenBalances, ⟨hperm, List.Perm.refl _⟩, ?_⟩
    unfold decisiveEntries listedAs
    rwa [if_pos hnone]
  · rw [if_neg hnone] at he
    obtain ⟨post, hperm, hhead⟩ := hfirst m.postTokenBalances he
    refine ⟨m.preTokenBalances, post, ⟨List.Perm.refl _, hperm⟩, ?_⟩
    unfold decisiveEntries listedAs
    rwa [if_neg (mt (perm_eq_nil_iff (perm_ownedOf hperm wallet mint)).mp hnone)]

/-! ## Every candidate is picked in some order -/

/-- A hash map that is walked with a given mint last. -/
def mintLast (mint : String) : KeyOrder :=
  ⟨fun keys => keys.filter (fun key => key ≠ mint) ++ keys.filter (fun key => !decide (key ≠ mint)),
    fun keys => List.filter_append_perm (fun key => decide (key ≠ mint)) keys⟩

/-- The last part has the mint alone, and the first part does not have it. -/
theorem mintLast_split (seen keys : List String) (mint : String) :
    ∃ first last, firstsBy id seen ((mintLast mint).order keys) = first ++ last ∧
      mint ∉ first ∧ ∀ mint' ∈ last, mint' = mint := by
  refine ⟨_, _, firstsBy_append seen (keys.filter fun key => key ≠ mint)
    (keys.filter fun key => !decide (key ≠ mint)), fun hfirst => ?_, fun mint' hlast => ?_⟩
  · simpa using (List.mem_filter.mp (mem_firstsBy_id.mp hfirst).1).2
  · simpa using (List.mem_filter.mp (mem_firstsBy_id.mp hlast).1).2

section Last

variable {m : SwapMeta} {wallet : String} {amount : String → Int}
variable (hamount : SeenAmount m wallet amount)
include hamount

/-- What is picked comes no earlier than a leading mint. -/
theorem primary_mem_suffix {order : KeyOrder} {t : String × UInt64 × UInt8}
    (h : primaryToken (pickedTokens order m wallet amount) = some t) {mint : String}
    (hmint : Leading amount mint) {mints mints' : List String}
    (hsplit : seenMints order m wallet = mints ++ mints') (hmem : mint ∈ mints') : t.1 ∈ mints' := by
  have hleading := leading_of_primary order hamount h
  rw [primaryToken_eq] at h
  have hvalue := ((mem_pickedTokens_iff order hamount t).mp (lastMaxBy_mem h)).2.2.1
  unfold pickedTokens at h
  rw [hsplit, picked_append] at h
  have hpicked : (mint, UInt64.ofNat (amount mint).toNat, seenDecimals m wallet mint) ∈
      picked mints' amount (seenDecimals m wallet) :=
    List.mem_filterMap.mpr ⟨mint, hmem, if_pos ⟨hmint.1, hmint.2.1⟩⟩
  have hamountEq := toNat_ofNat_amount hmint.2.1 (hamount.le mint)
  have hle := hmint.2.2 t.1 hleading.1
  exact mint_mem_of_picked (lastMaxBy_append_mem h hpicked (by dsimp only; omega))

/-- A candidate whose mint is walked last is picked. -/
theorem primary_mintLast {c : String × UInt8} (hc : Candidate m wallet amount c) :
    ∃ t, primaryToken (pickedTokens (mintLast c.1) m wallet amount) = some t ∧ t.1 = c.1 := by
  obtain ⟨u, hu, -⟩ := token_of_positive (mintLast c.1) hamount hc.leading.1 hc.leading.2.1
  obtain ⟨t, ht⟩ := Option.isSome_iff_exists.mp (primaryToken_isSome (List.ne_nil_of_mem hu))
  refine ⟨t, ht, ?_⟩
  have hsuffix := fun mints mints' => @primary_mem_suffix m wallet amount hamount (mintLast c.1) t ht
    c.1 hc.leading mints mints'
  by_cases hheld : HeldBefore m wallet c.1
  · -- the mint is the last of those held before, and the ones after do not lead
    obtain ⟨first, last, hbefore, hfirst, hlast⟩ := mintLast_split []
      ((parseTokenBalancesForOwner m.preTokenBalances wallet).map Prod.fst) c.1
    have hsplit := seenMints_eq (mintLast c.1) m wallet
    unfold mintsBefore at hsplit
    rw [hbefore, List.append_assoc] at hsplit
    have hmem : c.1 ∈ last := by
      have hall := (mem_mintsBefore (mintLast c.1) m wallet c.1).mpr hheld
      unfold mintsBefore at hall
      rw [hbefore, List.mem_append] at hall
      exact hall.resolve_left hfirst
    rcases List.mem_append.mp (hsuffix _ _ hsplit (List.mem_append_left _ hmem)) with h | hafter
    · exact hlast t.1 h
    · have hleading := leading_of_primary (mintLast c.1) hamount ht
      exact absurd (hc.last hheld t.1 hleading)
        ((mem_mintsAfter (mintLast c.1) m wallet t.1).mp hafter).2
  · -- the mint is the last of those that were not held before
    obtain ⟨first, last, hafter, hfirst, hlast⟩ := mintLast_split
      ((mintLast c.1).order ((parseTokenBalancesForOwner m.preTokenBalances wallet).map Prod.fst))
      ((parseTokenBalancesForOwner m.postTokenBalances wallet).map Prod.fst) c.1
    have hsplit := seenMints_eq (mintLast c.1) m wallet
    unfold mintsAfter at hsplit
    rw [hafter, ← List.append_assoc] at hsplit
    have hmem : c.1 ∈ last := by
      have howned := (held_of_positive hamount hc.leading.2.1).resolve_left hheld
      have hall := (mem_mintsAfter (mintLast c.1) m wallet c.1).mpr ⟨howned, hheld⟩
      unfold mintsAfter at hall
      rw [hafter, List.mem_append] at hall
      exact hall.resolve_left hfirst
    exact hlast t.1 (hsuffix _ _ hsplit hmem)

/-- **Every candidate is picked** in some order of the balances and of the hash maps. -/
theorem primary_of_candidate {c : String × UInt8} (hc : Candidate m wallet amount c) :
    ∃ order pre post, Listing m pre post ∧
      ∃ t, primaryToken (pickedTokens order (listedAs m pre post) wallet amount) = some t ∧
        (t.1, t.2.2) = c := by
  obtain ⟨e, he, hdecimals⟩ := hc.decimals
  obtain ⟨pre, post, hlisting, hhead⟩ := exists_listing he
  have hamount' := seenAmount_listedAs hlisting wallet hamount
  obtain ⟨t, ht, hmint⟩ :=
    primary_mintLast hamount' ((candidate_listedAs hlisting wallet amount c).mpr hc)
  refine ⟨mintLast c.1, pre, post, hlisting, t, ht, Prod.ext hmint ?_⟩
  have hmem := ht
  rw [primaryToken_eq] at hmem
  obtain ⟨-, -, -, hseen⟩ := (mem_pickedTokens_iff (mintLast c.1) hamount' t).mp (lastMaxBy_mem hmem)
  rw [hseen, hmint, seenDecimals_eq, hhead, ← hdecimals]
  rfl

/-- With one candidate, the same token is picked in every order. -/
theorem primary_eq_of_oneCandidate (hone : OneCandidate m wallet amount) {pre post : List OwnedBalance}
    (hlisting : Listing m pre post) (order order' : KeyOrder) :
    primaryToken (pickedTokens order (listedAs m pre post) wallet amount) =
      primaryToken (pickedTokens order' m wallet amount) := by
  have hamount' := seenAmount_listedAs hlisting wallet hamount
  have hnil : pickedTokens order (listedAs m pre post) wallet amount ≠ [] ↔
      pickedTokens order' m wallet amount ≠ [] :=
    (pickedTokens_ne_nil_iff order hamount').trans (pickedTokens_ne_nil_iff order' hamount).symm
  by_cases hnone : pickedTokens order' m wallet amount = []
  · rw [hnone, not_not.mp (mt hnil.mp (not_not.mpr hnone))]
  · obtain ⟨t, ht⟩ := Option.isSome_iff_exists.mp (primaryToken_isSome hnone)
    obtain ⟨u, hu⟩ := Option.isSome_iff_exists.mp (primaryToken_isSome (hnil.mpr hnone))
    have hcandidate := (candidate_listedAs hlisting wallet amount _).mp
      (candidate_of_primary order hamount' hu)
    have hsame := hone _ _ hcandidate (candidate_of_primary order' hamount ht)
    rw [Prod.mk.injEq] at hsame
    have htMem := mem_of_primaryToken ht
    have huMem := mem_of_primaryToken hu
    have htValue := ((mem_pickedTokens_iff order' hamount t).mp htMem).2.2.1
    have huValue := ((mem_pickedTokens_iff order hamount' u).mp huMem).2.2.1
    rw [hsame.1, ← htValue] at huValue
    have hvalue : u.2.1 = t.2.1 := UInt64.toNat_inj.mp (Int.natCast_inj.mp huValue)
    rw [ht, hu, Option.some.injEq]
    exact Prod.ext hsame.1 (Prod.ext hvalue hsame.2)

end Last

end SolanaBot.Analysis
