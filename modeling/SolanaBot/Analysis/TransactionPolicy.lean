import SolanaBot.Analysis.LookupTables

/-!
# What the transaction policy accepts

`Accepted` states what the policy is for, on the combined key list of a transaction: one signature,
the signer in the first place, allowed programs, accounts within the list. The validation accepts
exactly the transactions with these properties whose lookups resolve
(`validateProviderTransaction_iff`).

1. The cache of the resolver is not seen: a fetch answers with the table of the key and changes no
   table (`fetchAltAddresses_table`).
2. By induction on the lookups, the writable and the readonly addresses are collected apart, each in
   the order of the lookups (`resolveLookups_eq_ok_iff`).
3. The checks on the combined list are those of `Accepted` (`checkMessage_eq_ok_iff`).
-/

set_option autoImplicit false

namespace SolanaBot.Analysis

open SolanaBot.Library SolanaBot.Model

/-! ## The meaning of a transaction -/

/-- The contents of a lookup table, as the resolver has it or would fetch it. -/
def tableOf (env : PolicyEnv) (resolver : AltResolver) (altKey : Pubkey) : Option (List Pubkey) :=
  (resolver.cache altKey).or (fetchTable env altKey).toOption

/-- The addresses that the lookups load by one kind of their indexes. -/
def loadedBy (tables : Pubkey → Option (List Pubkey)) (indexes : AddressTableLookup → List UInt8)
    (lookups : List AddressTableLookup) : List Pubkey :=
  lookups.flatMap fun l =>
    (indexes l).filterMap fun i => ((tables l.accountKey).getD [])[i.toNat]?

/-- The part that both message formats have. -/
def messageOf : VersionedMessage → LegacyMessage
  | .legacy m => m
  | .v0 m => m.toLegacyMessage

/-- The lookups of a message. -/
def lookupsOf : VersionedMessage → List AddressTableLookup
  | .legacy _ => []
  | .v0 m => m.addressTableLookups

/-- Static keys, then all writable and then all readonly addresses, in the order of the lookups. -/
def combinedKeys (tables : Pubkey → Option (List Pubkey)) (tx : VersionedMessage) : List Pubkey :=
  (messageOf tx).accountKeys ++ loadedBy tables AddressTableLookup.writableIndexes (lookupsOf tx) ++
    loadedBy tables AddressTableLookup.readonlyIndexes (lookupsOf tx)

/-- Every lookup has a table that contains its indexes. -/
def LookupsResolve (tables : Pubkey → Option (List Pubkey)) (lookups : List AddressTableLookup) :
    Prop :=
  ∀ l ∈ lookups, ∃ table, tables l.accountKey = some table ∧
    (∀ i ∈ l.writableIndexes, i.toNat < table.length) ∧
    ∀ i ∈ l.readonlyIndexes, i.toNat < table.length

/-- A transaction that the signer may sign. -/
structure Accepted (env : PolicyEnv) (tables : Pubkey → Option (List Pubkey))
    (tx : VersionedMessage) (signer : Pubkey) (allowed : List String) : Prop where
  oneSignature : (messageOf tx).numRequiredSignatures = 1
  payer : (combinedKeys tables tx).head? = some signer
  lookups : LookupsResolve tables (lookupsOf tx)
  programs : ∀ ix ∈ (messageOf tx).instructions, ∃ program,
    (combinedKeys tables tx)[ix.programIdIndex.toNat]? = some program ∧
      ∃ s ∈ allowed, env.parsePubkey s = some program
  accounts : ∀ ix ∈ (messageOf tx).instructions, ∀ i ∈ ix.accounts,
    i.toNat < (combinedKeys tables tx).length

/-! ## Lookups -/

/-- A fetch answers with the table of the key, and no table changes. -/
theorem fetchAltAddresses_table (env : PolicyEnv) (resolver : AltResolver) (altKey : Pubkey) :
    ((resolver.fetchAltAddresses env altKey).1.toOption = tableOf env resolver altKey) ∧
      tableOf env (resolver.fetchAltAddresses env altKey).2 = tableOf env resolver := by
  unfold AltResolver.fetchAltAddresses
  cases hcache : resolver.cache altKey with
  | some addrs =>
      refine ⟨?_, rfl⟩
      unfold tableOf
      rw [hcache]
      rfl
  | none =>
      cases hfetch : fetchTable env altKey with
      | error e =>
          refine ⟨?_, rfl⟩
          unfold tableOf
          rw [hcache, hfetch]
          rfl
      | ok addrs =>
          refine ⟨?_, funext fun key => ?_⟩
          · unfold tableOf
            rw [hcache, hfetch]
            rfl
          · unfold tableOf
            by_cases hkey : key = altKey
            · simp only [hkey, Function.update_self, hcache, hfetch]
              rfl
            · simp only [Function.update_of_ne hkey]

/-- Indexes resolve exactly if each is in the table, to the addresses they name. -/
theorem takeIndexes_eq_ok_iff (access keyText : String) (addrs : List Pubkey)
    (indexes : List UInt8) (keys : List Pubkey) :
    takeIndexes access keyText addrs indexes = .ok keys ↔
      (∀ i ∈ indexes, i.toNat < addrs.length) ∧
        keys = indexes.filterMap fun i => addrs[i.toNat]? := by
  unfold takeIndexes
  rw [mapM_eq_ok_iff]
  induction indexes generalizing keys with
  | nil =>
      rw [List.forall₂_nil_left_iff]
      exact ⟨fun h => ⟨fun _ hi => absurd hi List.not_mem_nil, h⟩, fun h => h.2⟩
  | cons i indexes ih =>
      rw [List.forall₂_cons_left_iff, List.forall_mem_cons]
      cases hget : addrs[i.toNat]? with
      | none =>
          rw [List.getElem?_eq_none_iff] at hget
          constructor
          · rintro ⟨_, _, hread, _⟩
            cases hread
          · rintro ⟨⟨hlt, -⟩, -⟩
            omega
      | some key =>
          have hlt := (List.getElem?_eq_some_iff.mp hget).1
          have hcons : (i :: indexes).filterMap (fun i => addrs[i.toNat]?) =
              key :: indexes.filterMap fun i => addrs[i.toNat]? := List.filterMap_cons_some hget
          rw [hcons]
          constructor
          · rintro ⟨key', keys', hread, hrest, rfl⟩
            cases hread
            obtain ⟨hin, rfl⟩ := ih keys' |>.mp hrest
            exact ⟨⟨hlt, hin⟩, rfl⟩
          · rintro ⟨⟨-, hin⟩, rfl⟩
            exact ⟨key, _, rfl, ih _ |>.mpr ⟨hin, rfl⟩, rfl⟩

/-- A lookup resolves exactly if its indexes do, and appends what they name. -/
theorem takeLookup_eq_ok_iff (env : PolicyEnv) (lookup : AddressTableLookup)
    (addrs : List Pubkey) (loaded loaded' : LoadedAddresses) :
    takeLookup env lookup addrs loaded = .ok loaded' ↔
      (∀ i ∈ lookup.writableIndexes, i.toNat < addrs.length) ∧
      (∀ i ∈ lookup.readonlyIndexes, i.toNat < addrs.length) ∧
      loaded' =
        { writable := loaded.writable ++ lookup.writableIndexes.filterMap fun i => addrs[i.toNat]?
          readonly := loaded.readonly ++ lookup.readonlyIndexes.filterMap fun i => addrs[i.toNat]? }
      := by
  unfold takeLookup
  simp only [bind_eq_ok_iff, takeIndexes_eq_ok_iff]
  constructor
  · rintro ⟨_, ⟨hwritable, rfl⟩, _, ⟨hreadonly, rfl⟩, h⟩
    cases h
    exact ⟨hwritable, hreadonly, rfl⟩
  · rintro ⟨hwritable, hreadonly, rfl⟩
    exact ⟨_, ⟨hwritable, rfl⟩, _, ⟨hreadonly, rfl⟩, rfl⟩

/-- What one lookup more loads. -/
theorem loadedBy_cons {tables : Pubkey → Option (List Pubkey)} {lookup : AddressTableLookup}
    {table : List Pubkey} (h : tables lookup.accountKey = some table)
    (indexes : AddressTableLookup → List UInt8) (lookups : List AddressTableLookup) :
    loadedBy tables indexes (lookup :: lookups) =
      ((indexes lookup).filterMap fun i => table[i.toNat]?) ++ loadedBy tables indexes lookups := by
  unfold loadedBy
  rw [List.flatMap_cons, h]
  rfl

/-- One lookup more resolves. -/
theorem lookupsResolve_cons (tables : Pubkey → Option (List Pubkey))
    (lookup : AddressTableLookup) (lookups : List AddressTableLookup) :
    LookupsResolve tables (lookup :: lookups) ↔
      (∃ table, tables lookup.accountKey = some table ∧
        (∀ i ∈ lookup.writableIndexes, i.toNat < table.length) ∧
        ∀ i ∈ lookup.readonlyIndexes, i.toNat < table.length) ∧
      LookupsResolve tables lookups :=
  List.forall_mem_cons

/-- One turn of the loop: the table is found, the indexes are taken from it, and the loop goes on. -/
theorem resolveLookups_cons_eq_ok_iff (env : PolicyEnv) (lookup : AddressTableLookup)
    (lookups : List AddressTableLookup) (loaded loaded' : LoadedAddresses) (resolver : AltResolver) :
    (resolveLookups env (lookup :: lookups) loaded resolver).1 = .ok loaded' ↔
      ∃ table, tableOf env resolver lookup.accountKey = some table ∧
        ∃ loaded₁, takeLookup env lookup table loaded = .ok loaded₁ ∧
          (resolveLookups env lookups loaded₁
            (resolver.fetchAltAddresses env lookup.accountKey).2).1 = .ok loaded' := by
  rw [← (fetchAltAddresses_table env resolver lookup.accountKey).1, resolveLookups]
  cases resolver.fetchAltAddresses env lookup.accountKey with
  | mk r resolver' =>
  cases r with
  | error e =>
      refine ⟨nofun, ?_⟩
      rintro ⟨table, hfound, -⟩
      cases hfound
  | ok addrs =>
      simp only [Except.toOption, Option.some.injEq, exists_eq_left']
      cases takeLookup env lookup addrs loaded with
      | error e =>
          refine ⟨nofun, ?_⟩
          rintro ⟨loaded₁, htaken, -⟩
          cases htaken
      | ok loaded₁ =>
          simp only [Except.ok.injEq, exists_eq_left']

/-- **Lookups.** The loop succeeds exactly if every lookup resolves. -/
theorem resolveLookups_eq_ok_iff (env : PolicyEnv) (lookups : List AddressTableLookup)
    (loaded loaded' : LoadedAddresses) (resolver : AltResolver) :
    (resolveLookups env lookups loaded resolver).1 = .ok loaded' ↔
      LookupsResolve (tableOf env resolver) lookups ∧
      loaded' =
        { writable := loaded.writable ++
            loadedBy (tableOf env resolver) AddressTableLookup.writableIndexes lookups
          readonly := loaded.readonly ++
            loadedBy (tableOf env resolver) AddressTableLookup.readonlyIndexes lookups } := by
  induction lookups generalizing loaded resolver with
  | nil =>
      have hnil : ∀ indexes, loadedBy (tableOf env resolver) indexes [] = [] := fun _ => rfl
      simp only [hnil, List.append_nil]
      exact ⟨fun h => by cases h; exact ⟨nofun, rfl⟩, fun h => by rw [h.2]; rfl⟩
  | cons lookup lookups ih =>
      have hkeep := (fetchAltAddresses_table env resolver lookup.accountKey).2
      rw [resolveLookups_cons_eq_ok_iff, lookupsResolve_cons]
      constructor
      · rintro ⟨table, hfound, loaded₁, htaken, hrest⟩
        obtain ⟨hwritable, hreadonly, rfl⟩ := (takeLookup_eq_ok_iff _ _ _ _ _).mp htaken
        rw [ih, hkeep] at hrest
        refine ⟨⟨⟨table, hfound, hwritable, hreadonly⟩, hrest.1⟩, ?_⟩
        rw [hrest.2, loadedBy_cons hfound, loadedBy_cons hfound, List.append_assoc,
          List.append_assoc]
      · rintro ⟨⟨⟨table, hfound, hwritable, hreadonly⟩, hrest⟩, rfl⟩
        refine ⟨table, hfound, _, (takeLookup_eq_ok_iff _ _ _ _ _).mpr
          ⟨hwritable, hreadonly, rfl⟩, ?_⟩
        rw [ih, hkeep, loadedBy_cons hfound, loadedBy_cons hfound, List.append_assoc,
          List.append_assoc]
        exact ⟨hrest, rfl⟩

/-! ## Checks -/

/-- A list of valid keys is parsed. -/
theorem parseAllowlist_isOk {env : PolicyEnv} {allowed : List String}
    (h : ∀ s ∈ allowed, ∃ key, env.parsePubkey s = some key) :
    ∃ allow, parseAllowlist env allowed = .ok allow := by
  unfold parseAllowlist
  simp only [mapM_eq_ok_iff]
  induction allowed with
  | nil => exact ⟨[], .nil⟩
  | cons s allowed ih =>
      obtain ⟨key, hkey⟩ := h s List.mem_cons_self
      obtain ⟨allow, hallow⟩ := ih fun s hs => h s (List.mem_cons_of_mem _ hs)
      exact ⟨key :: allow, .cons (by rw [hkey]) hallow⟩

/-- The programs of a parsed allowlist are those that its texts name. -/
theorem mem_allowlist_iff {env : PolicyEnv} {allowed : List String} {allow : List Pubkey}
    (h : parseAllowlist env allowed = .ok allow) (program : Pubkey) :
    program ∈ allow ↔ ∃ s ∈ allowed, env.parsePubkey s = some program := by
  unfold parseAllowlist at h
  rw [mapM_eq_ok_iff] at h
  induction h with
  | nil => simp
  | @cons s key allowed allow hread _ ih =>
      have hkey : env.parsePubkey s = some key := by
        cases hparse : env.parsePubkey s with
        | none =>
            rw [hparse] at hread
            cases hread
        | some key' =>
            rw [hparse] at hread
            cases hread
            rfl
      rw [List.mem_cons, ih]
      simp only [List.mem_cons, exists_eq_or_imp, hkey, Option.some.injEq]
      exact or_congr_left eq_comm

/-- An instruction passes if its program resolves to an allowed one and its accounts resolve. -/
theorem checkInstruction_eq_ok_iff (env : PolicyEnv) (allow keys : List Pubkey)
    (ix : CompiledInstruction) :
    checkInstruction env allow keys ix = .ok () ↔
      (∃ program, keys[ix.programIdIndex.toNat]? = some program ∧ program ∈ allow) ∧
        ∀ i ∈ ix.accounts, i.toNat < keys.length := by
  unfold checkInstruction
  cases hprogram : keys[ix.programIdIndex.toNat]? with
  | none => exact ⟨nofun, fun ⟨⟨_, h, _⟩, _⟩ => nomatch h⟩
  | some program =>
      simp only [Option.some.injEq, exists_eq_left']
      by_cases hallow : program ∈ allow
      · have haccounts : (ix.accounts.any fun i => keys[i.toNat]?.isNone) = true ↔
            ¬ ∀ i ∈ ix.accounts, i.toNat < keys.length := by
          rw [List.any_eq_true]
          push Not
          simp only [Option.isNone_iff_eq_none, List.getElem?_eq_none_iff]
        rw [if_neg (not_not.mpr hallow)]
        by_cases hin : ∀ i ∈ ix.accounts, i.toNat < keys.length
        · rw [if_neg (mt haccounts.mp (not_not.mpr hin))]
          exact ⟨fun _ => ⟨hallow, hin⟩, fun _ => rfl⟩
        · rw [if_pos (haccounts.mpr hin)]
          exact ⟨nofun, fun h => absurd h.2 hin⟩
      · rw [if_pos hallow]
        exact ⟨nofun, fun h => absurd h.1 hallow⟩

/-- The checks on a key list. -/
theorem checkMessage_eq_ok_iff (env : PolicyEnv) (signer : Pubkey) (allow keys : List Pubkey)
    (required : UInt8) (instructions : List CompiledInstruction) :
    checkMessage env signer allow keys required instructions = .ok () ↔
      required = 1 ∧ keys.head? = some signer ∧ ∀ ix ∈ instructions,
        (∃ program, keys[ix.programIdIndex.toNat]? = some program ∧ program ∈ allow) ∧
          ∀ i ∈ ix.accounts, i.toNat < keys.length := by
  unfold checkMessage
  by_cases hrequired : required = 1
  · by_cases hpayer : keys.head? = some signer
    · rw [if_neg (not_not.mpr hrequired), if_neg (not_not.mpr hpayer), forM_eq_ok]
      simp only [checkInstruction_eq_ok_iff, hrequired, hpayer, true_and]
    · rw [if_neg (not_not.mpr hrequired), if_pos hpayer]
      exact ⟨nofun, fun h => absurd h.2.1 hpayer⟩
  · rw [if_pos hrequired]
    exact ⟨nofun, fun h => absurd h.1 hrequired⟩

/-- The key list of a v0 message is the combined one, if its lookups resolve. -/
theorem resolveV0Accounts_eq_ok_iff (env : PolicyEnv) (m : V0Message) (resolver : AltResolver)
    (keys : List Pubkey) :
    (resolveV0Accounts env m resolver).1 = .ok keys ↔
      LookupsResolve (tableOf env resolver) m.addressTableLookups ∧
        keys = combinedKeys (tableOf env resolver) (.v0 m) := by
  unfold resolveV0Accounts
  cases hresolve : resolveLookups env m.addressTableLookups ⟨[], []⟩ resolver with
  | mk r resolver' =>
  have hiff := fun loaded' =>
    resolveLookups_eq_ok_iff env m.addressTableLookups ⟨[], []⟩ loaded' resolver
  rw [hresolve] at hiff
  cases r with
  | error e => exact ⟨nofun, fun h => nomatch (hiff _).mpr ⟨h.1, rfl⟩⟩
  | ok loaded =>
      obtain ⟨hresolved, rfl⟩ := (hiff loaded).mp rfl
      constructor
      · intro h
        cases h
        exact ⟨hresolved, rfl⟩
      · rintro ⟨-, rfl⟩
        rfl

/-- **The policy.** A transaction passes if and only if the signer may sign it. -/
theorem validateProviderTransaction_iff (env : PolicyEnv) (tx : VersionedMessage)
    (signer : Pubkey) {allowed : List String}
    (hallowed : ∀ s ∈ allowed, ∃ key, env.parsePubkey s = some key) (resolver : AltResolver) :
    (validateProviderTransaction env tx signer allowed resolver).1 = .ok () ↔
      Accepted env (tableOf env resolver) tx signer allowed := by
  obtain ⟨allow, hallow⟩ := parseAllowlist_isOk hallowed
  have hprogram := mem_allowlist_iff hallow
  -- the checks on the combined list are the properties other than the lookups
  have hchecks : checkMessage env signer allow (combinedKeys (tableOf env resolver) tx)
      (messageOf tx).numRequiredSignatures (messageOf tx).instructions = .ok () ∧
      LookupsResolve (tableOf env resolver) (lookupsOf tx) ↔
        Accepted env (tableOf env resolver) tx signer allowed := by
    rw [checkMessage_eq_ok_iff]
    simp only [hprogram]
    constructor
    · rintro ⟨⟨hrequired, hpayer, hinstructions⟩, hlookups⟩
      exact ⟨hrequired, hpayer, hlookups, fun ix hix => (hinstructions ix hix).1,
        fun ix hix => (hinstructions ix hix).2⟩
    · intro h
      exact ⟨⟨h.oneSignature, h.payer, fun ix hix => ⟨h.programs ix hix, h.accounts ix hix⟩⟩,
        h.lookups⟩
  rw [← hchecks]
  unfold validateProviderTransaction
  rw [hallow]
  cases tx with
  | legacy m =>
      have hkeys : combinedKeys (tableOf env resolver) (.legacy m) = m.accountKeys := by
        unfold combinedKeys loadedBy lookupsOf messageOf
        simp only [List.flatMap_nil, List.append_nil]
      rw [hkeys]
      exact ⟨fun h => ⟨h, nofun⟩, fun h => h.1⟩
  | v0 m =>
      have hiff := resolveV0Accounts_eq_ok_iff env m resolver
      dsimp only
      cases hresolve : resolveV0Accounts env m resolver with
      | mk r resolver' =>
      rw [hresolve] at hiff
      cases r with
      | error e => exact ⟨nofun, fun h => nomatch (hiff _).mpr ⟨h.2, rfl⟩⟩
      | ok keys =>
          obtain ⟨hlookups, rfl⟩ := (hiff keys).mp rfl
          exact ⟨fun h => ⟨h, hlookups⟩, fun h => h.1⟩

/-- An environment that parses one program id, and a transaction whose program comes from a table. -/
def samplePolicyEnv : PolicyEnv :=
  { pubkeyText := fun _ => "key"
    parsePubkey := fun s => if s = "swap" then some (sampleKey 5) else none
    base64 := standardBase64
    getMultipleAccounts := fun _ => .error (.unavailable "") }

/-- A transaction that loads the program and an account. -/
def sampleV0 : VersionedMessage :=
  .v0
    { numRequiredSignatures := 1
      accountKeys := [sampleKey 1]
      instructions := [{ programIdIndex := 2, accounts := [0, 1] }]
      addressTableLookups :=
        [{ accountKey := sampleKey 9, writableIndexes := [1], readonlyIndexes := [0] }] }

/-- A resolver that has read the table. -/
def sampleResolver : AltResolver :=
  { cache := Function.update (fun _ => none) (sampleKey 9) (some [sampleKey 5, sampleKey 6]) }

/-- A versioned transaction with a lookup table is accepted. -/
theorem validateProviderTransaction_iff_sample :
    (validateProviderTransaction samplePolicyEnv sampleV0 (sampleKey 1) ["swap"] sampleResolver).1 =
      .ok () ↔
    Accepted samplePolicyEnv (tableOf samplePolicyEnv sampleResolver) sampleV0 (sampleKey 1)
      ["swap"] :=
  validateProviderTransaction_iff samplePolicyEnv sampleV0 (sampleKey 1)
    (fun _ hs => ⟨sampleKey 5, if_pos (List.mem_singleton.mp hs)⟩) sampleResolver

example : (validateProviderTransaction samplePolicyEnv sampleV0 (sampleKey 1) ["swap"]
    sampleResolver).1 = .ok () := by decide +kernel

end SolanaBot.Analysis
