import Mathlib.Data.List.GetD
import SolanaBot.Library.Validators
import SolanaBot.Model.Policy

/-!
# Lookup tables as the chain stores them

The parser of lookup tables accepts exactly what has a header of 11 bytes and whole addresses
(`parseAltTable_eq_ok_iff`), and gives them back in order. An account of the chain has a header of
56 bytes, which leaves 13 bytes over (`parseAltTable_chainHeader`), and its text is not even reached:
the second element of its `data`, the name of the encoding, is what is decoded
(`fetchTable_lookupTableAccount`).
-/

set_option autoImplicit false

namespace SolanaBot.Analysis

open SolanaBot.Library SolanaBot.Model

/-! ## The accepted layout -/

/-- The addresses one after the other. -/
def addressBytes (addrs : List Pubkey) : List UInt8 := addrs.flatMap Pubkey.bytes

/-- An address has 32 bytes. -/
theorem length_addressBytes (addrs : List Pubkey) :
    (addressBytes addrs).length = addrs.length * 32 := by
  induction addrs with
  | nil => rfl
  | cons addr addrs ih =>
      have hcons : addressBytes (addr :: addrs) = addr.bytes ++ addressBytes addrs := rfl
      rw [hcons, List.length_append, addr.length_eq, ih, List.length_cons]
      omega

/-- The slice at the place of an address is that address. -/
theorem slice_addressBytes (addrs : List Pubkey) (i : ℕ) (hi : i < addrs.length) :
    ((addressBytes addrs).drop (i * 32)).take 32 = addrs[i].bytes := by
  induction addrs generalizing i with
  | nil => exact absurd hi (Nat.not_lt_zero i)
  | cons addr addrs ih =>
      have hcons : addressBytes (addr :: addrs) = addr.bytes ++ addressBytes addrs := rfl
      cases i with
      | zero =>
          rw [hcons, Nat.zero_mul, List.drop_zero, List.take_left' addr.length_eq]
          rfl
      | succ i =>
          have hdrop : (addr.bytes ++ addressBytes addrs).drop ((i + 1) * 32) =
              (addressBytes addrs).drop (i * 32) := by
            rw [List.drop_append, addr.length_eq,
              List.drop_eq_nil_of_le (by rw [addr.length_eq]; omega), List.nil_append]
            congr 1
            omega
          rw [hcons, hdrop]
          exact ih i (Nat.lt_of_succ_lt_succ hi)

/-- Whole addresses are given back in order. -/
theorem parseAddresses_addressBytes (keyText : String) (addrs : List Pubkey) :
    parseAddresses keyText (addressBytes addrs) = .ok addrs := by
  unfold parseAddresses
  rw [mapM_eq_ok_iff, length_addressBytes, Nat.mul_div_cancel _ (by decide),
    List.forall₂_iff_get]
  refine ⟨List.length_range, fun i _ hi => ?_⟩
  have hread : Pubkey.ofBytes addrs[i].bytes = some addrs[i] := dif_pos addrs[i].length_eq
  simp only [List.get_eq_getElem, List.getElem_range, slice_addressBytes addrs i hi, hread]

/-- Bytes that divide into addresses are addresses. -/
theorem exists_addressBytes (bytes : List UInt8) (h : bytes.length % 32 = 0) :
    ∃ addrs, bytes = addressBytes addrs := by
  obtain ⟨n, hn⟩ := Nat.dvd_of_mod_eq_zero h
  induction n generalizing bytes with
  | zero => exact ⟨[], List.length_eq_zero_iff.mp hn⟩
  | succ n ih =>
      obtain ⟨addrs, haddrs⟩ := ih (bytes.drop 32) (by rw [List.length_drop]; omega)
        (by rw [List.length_drop]; omega)
      have hfirst : (bytes.take 32).length = 32 := by
        rw [List.length_take]
        omega
      refine ⟨⟨bytes.take 32, hfirst⟩ :: addrs, ?_⟩
      calc bytes = bytes.take 32 ++ bytes.drop 32 := (List.take_append_drop 32 bytes).symm
        _ = bytes.take 32 ++ addressBytes addrs := by rw [← haddrs]

/-- The first bytes of a text are those of the whole. -/
theorem getD_take {n i : ℕ} (bytes : List UInt8) (hi : i < n) :
    (bytes.take n).getD i 0 = bytes.getD i 0 := by
  rw [List.getD_eq_getElem?_getD, List.getD_eq_getElem?_getD, List.getElem?_take_of_lt hi]

/-- **Accepted tables.** A table is read as a list of addresses exactly if it is their bytes after
11 bytes that start with the discriminator and a status. -/
theorem parseAltTable_eq_ok_iff (keyText : String) (raw : List UInt8) (addrs : List Pubkey) :
    parseAltTable keyText raw = .ok addrs ↔
      ∃ header, header.length = 11 ∧ header.getD 0 0 = 1 ∧ header.getD 1 0 ≤ 1 ∧
        raw = header ++ addressBytes addrs := by
  unfold parseAltTable
  constructor
  · intro h
    split at h
    · cases h
    split at h
    · cases h
    split at h
    · cases h
    rename_i hlength hdiscriminator hstatus
    simp only at h
    split at h
    · cases h
    rename_i hwhole
    obtain ⟨addrs', haddrs⟩ := exists_addressBytes (raw.drop 11) (not_not.mp hwhole)
    rw [haddrs, parseAddresses_addressBytes] at h
    cases h
    refine ⟨raw.take 11, by rw [List.length_take]; omega, ?_, ?_, ?_⟩
    · rw [getD_take raw (by decide)]
      exact not_not.mp hdiscriminator
    · rw [getD_take raw (by decide)]
      exact UInt8.not_lt.mp hstatus
    · rw [← haddrs, List.take_append_drop]
  · rintro ⟨header, hlength, hdiscriminator, hstatus, rfl⟩
    have hrest : (header ++ addressBytes addrs).drop 11 = addressBytes addrs :=
      List.drop_left' hlength
    rw [if_neg (by rw [List.length_append]; omega), List.getD_append _ _ _ _ (by omega),
      List.getD_append _ _ _ _ (by omega), if_neg (not_not.mpr hdiscriminator),
      if_neg (UInt8.not_lt.mpr hstatus)]
    simp only [hrest]
    rw [if_neg (by rw [length_addressBytes]; omega), parseAddresses_addressBytes]

/-! ## Tables of the chain -/

/-- An account of the chain: the text of the header and the addresses, and the encoding's name. -/
def lookupTableAccount (engine : Base64Engine) (header : List UInt8) (addrs : List Pubkey) :
    AccountData :=
  { data := some [some (engine.encode (header ++ addressBytes addrs)), some "base64"] }

/-- A header of 56 bytes is refused, whatever addresses follow it. -/
theorem parseAltTable_chainHeader (keyText : String) {header : List UInt8}
    (hheader : header.length = 56) (addrs read : List Pubkey) :
    parseAltTable keyText (header ++ addressBytes addrs) ≠ .ok read := by
  rw [Ne, parseAltTable_eq_ok_iff]
  rintro ⟨header', hlength, -, -, hraw⟩
  have hlengths := congrArg List.length hraw
  rw [List.length_append, List.length_append, length_addressBytes, length_addressBytes] at hlengths
  omega

/-- The name of the encoding is no padded text. -/
theorem decode_encodingName (engine : Base64Engine) : ∃ e, engine.decode "base64" = .error e := by
  cases h : engine.decode "base64" with
  | error e => exact ⟨e, rfl⟩
  | ok bytes => exact absurd (engine.length_of_decode "base64" bytes h) (by decide)

/-- An account of the chain is not decoded. -/
theorem fetchTable_lookupTableAccount {env : PolicyEnv} {altKey : Pubkey} {header : List UInt8}
    {addrs : List Pubkey}
    (hanswer : env.getMultipleAccounts [env.pubkeyText altKey] =
      .ok (some [some (lookupTableAccount env.base64 header addrs)])) :
    ∃ detail, fetchTable env altKey = .error (.malformedAlt detail) := by
  obtain ⟨e, he⟩ := decode_encodingName env.base64
  have hfetch : fetchAccountsBase64 env [env.pubkeyText altKey] = .ok [some "base64"] := by
    unfold fetchAccountsBase64
    rw [if_neg (List.cons_ne_nil _ _), hanswer]
    rfl
  refine ⟨env.pubkeyText altKey ++ ": invalid base64: " ++ e, ?_⟩
  unfold fetchTable
  simp only [hfetch, List.head?_cons, Option.join_some, he]

/-- A resolver that does not have the table reports it as malformed. -/
theorem fetchAltAddresses_lookupTableAccount (env : PolicyEnv) (resolver : AltResolver)
    (altKey : Pubkey) (header : List UInt8) (addrs : List Pubkey)
    (hfresh : resolver.cache altKey = none)
    (hanswer : env.getMultipleAccounts [env.pubkeyText altKey] =
      .ok (some [some (lookupTableAccount env.base64 header addrs)])) :
    ∃ detail, (resolver.fetchAltAddresses env altKey).1 = .error (.malformedAlt detail) := by
  obtain ⟨detail, hfetch⟩ := fetchTable_lookupTableAccount hanswer
  refine ⟨detail, ?_⟩
  unfold AltResolver.fetchAltAddresses
  simp only [hfresh, hfetch]

/-- **Tables of the chain.** No lookup table of the chain is read back as its addresses. -/
theorem fetchAltAddresses_ne_addresses (env : PolicyEnv) (resolver : AltResolver)
    (altKey : Pubkey) (header : List UInt8) (hheader : header.length = 56) (addrs : List Pubkey)
    (hfresh : resolver.cache altKey = none)
    (hanswer : env.getMultipleAccounts [env.pubkeyText altKey] =
      .ok (some [some (lookupTableAccount env.base64 header addrs)])) :
    (resolver.fetchAltAddresses env altKey).1 ≠ .ok addrs ∧
      parseAltTable (env.pubkeyText altKey) (header ++ addressBytes addrs) ≠ .ok addrs := by
  obtain ⟨detail, herror⟩ := fetchAltAddresses_lookupTableAccount env resolver altKey header addrs
    hfresh hanswer
  refine ⟨?_, parseAltTable_chainHeader (env.pubkeyText altKey) hheader addrs addrs⟩
  rw [herror]
  exact nofun

/-- The key whose bytes are all the same. -/
def sampleKey (b : UInt8) : Pubkey := ⟨List.replicate 32 b, List.length_replicate⟩

/-- An environment that knows the table of one address, by whatever key it is asked for. -/
def sampleTableEnv : PolicyEnv :=
  { pubkeyText := fun _ => "table"
    parsePubkey := fun _ => none
    base64 := standardBase64
    getMultipleAccounts := fun _ =>
      .ok (some [some (lookupTableAccount standardBase64 (1 :: List.replicate 55 0)
        [sampleKey 7])]) }

/-- The sample's table is not returned with its address. -/
theorem fetchAltAddresses_ne_addresses_sample :
    (AltResolver.new.fetchAltAddresses sampleTableEnv (sampleKey 1)).1 ≠ .ok [sampleKey 7] ∧
      parseAltTable "table" (1 :: List.replicate 55 0 ++ addressBytes [sampleKey 7]) ≠
        .ok [sampleKey 7] :=
  fetchAltAddresses_ne_addresses sampleTableEnv AltResolver.new (sampleKey 1)
    (1 :: List.replicate 55 0) rfl [sampleKey 7] rfl rfl

/-- The table of one address is not read back. -/
theorem fetchAltAddresses_not_roundTrip :
    ¬ ∀ (env : PolicyEnv) (resolver : AltResolver) (altKey : Pubkey) (header : List UInt8)
      (addrs : List Pubkey), header.length = 56 → resolver.cache altKey = none →
      env.getMultipleAccounts [env.pubkeyText altKey] =
        .ok (some [some (lookupTableAccount env.base64 header addrs)]) →
      (resolver.fetchAltAddresses env altKey).1 = .ok addrs := by
  intro h
  have hread := h sampleTableEnv AltResolver.new (sampleKey 1) (1 :: List.replicate 55 0)
    [sampleKey 7] rfl rfl rfl
  obtain ⟨detail, herror⟩ := fetchAltAddresses_lookupTableAccount sampleTableEnv AltResolver.new
    (sampleKey 1) (1 :: List.replicate 55 0) [sampleKey 7] rfl rfl
  rw [hread] at herror
  cases herror

end SolanaBot.Analysis
