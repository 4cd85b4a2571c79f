import Mathlib.Data.List.Basic

/-!
# Base64

The standard alphabet with padding: three bytes are four symbols, and the last group is padded.
The decoder takes complete groups only, padding only at the end, and no bits that the encoder
leaves unused. Decoding undoes encoding (`decodeSymbols_encodeBytes`), and a text that decodes has
complete groups (`length_of_decodeSymbols`).
-/

set_option autoImplicit false

namespace SolanaBot.Library

namespace Base64

/-- The symbols in the order of their values. -/
def alphabet : List Char :=
  "ABCDEFGHIJKLMNOPQRSTUVWXYZabcdefghijklmnopqrstuvwxyz0123456789+/".toList

/-- The symbol of a value below 64. -/
def symbol (v : ℕ) : Char := alphabet.getD v '='

/-- The value of a symbol. -/
def value (c : Char) : Option ℕ := alphabet.findIdx? fun s => s = c

/-- A symbol has the value it stands for. -/
theorem value_symbol {v : ℕ} (hv : v < 64) : value (symbol v) = some v := by
  have hall : ∀ v < 64, value (symbol v) = some v := by decide +kernel
  exact hall v hv

/-- No symbol is the padding. -/
theorem symbol_ne_padding {v : ℕ} (hv : v < 64) : symbol v ≠ '=' := by
  have hall : ∀ v < 64, symbol v ≠ '=' := by decide +kernel
  exact hall v hv

/-! ## Encoding -/

/-- The symbols of the bytes. -/
def encodeBytes : List UInt8 → List Char
  | [] => []
  | [a] => [symbol (a.toNat / 4), symbol (a.toNat % 4 * 16), '=', '=']
  | [a, b] =>
      [symbol (a.toNat / 4), symbol (a.toNat % 4 * 16 + b.toNat / 16),
        symbol (b.toNat % 16 * 4), '=']
  | a :: b :: c :: rest =>
      symbol (a.toNat / 4) :: symbol (a.toNat % 4 * 16 + b.toNat / 16) ::
        symbol (b.toNat % 16 * 4 + c.toNat / 64) :: symbol (c.toNat % 64) :: encodeBytes rest

/-! ## Decoding -/

/-- A group of four symbols. -/
def decodeGroup (w x y z : Char) : Option (List UInt8) := do
  let w ← value w
  let x ← value x
  let y ← value y
  let z ← value z
  return [UInt8.ofNat (w * 4 + x / 16), UInt8.ofNat (x % 16 * 16 + y / 4),
    UInt8.ofNat (y % 4 * 64 + z)]

/-- The last group, which may be padded. -/
def decodeLast (w x y z : Char) : Option (List UInt8) :=
  if z ≠ '=' then decodeGroup w x y z
  else if y ≠ '=' then do
    let w ← value w
    let x ← value x
    let y ← value y
    if y % 4 = 0 then return [UInt8.ofNat (w * 4 + x / 16), UInt8.ofNat (x % 16 * 16 + y / 4)]
    else none
  else do
    let w ← value w
    let x ← value x
    if x % 16 = 0 then return [UInt8.ofNat (w * 4 + x / 16)] else none

/-- The bytes of the symbols. -/
def decodeSymbols : List Char → Option (List UInt8)
  | [] => some []
  | w :: x :: y :: z :: rest =>
      if rest = [] then decodeLast w x y z
      else do
        let group ← decodeGroup w x y z
        let tail ← decodeSymbols rest
        return group ++ tail
  | _ => none

/-- A text that decodes consists of complete groups. -/
theorem length_of_decodeSymbols {text : List Char} {bytes : List UInt8}
    (h : decodeSymbols text = some bytes) : text.length % 4 = 0 := by
  induction text using decodeSymbols.induct generalizing bytes with
  | case1 => rfl
  | case2 w x y z => simp
  | case3 w x y z rest hrest ih =>
      unfold decodeSymbols at h
      rw [if_neg hrest] at h
      cases htail : decodeSymbols rest with
      | none =>
          rw [htail] at h
          cases hgroup : decodeGroup w x y z with
          | none => simp [hgroup] at h
          | some group => simp [hgroup] at h
      | some tail =>
          have hlength := ih htail
          simp only [List.length_cons]
          omega
  | case4 text hnil hgroup =>
      unfold decodeSymbols at h
      split at h
      · exact absurd rfl hnil
      · exact absurd rfl (hgroup _ _ _ _ _)
      · cases h

/-! ## Decoding undoes encoding -/

variable (a b c : UInt8)

/-- The symbols of three bytes are decoded to these. -/
theorem decodeGroup_symbols :
    decodeGroup (symbol (a.toNat / 4)) (symbol (a.toNat % 4 * 16 + b.toNat / 16))
      (symbol (b.toNat % 16 * 4 + c.toNat / 64)) (symbol (c.toNat % 64)) = some [a, b, c] := by
  have ha := a.toNat_lt
  have hb := b.toNat_lt
  have hc := c.toNat_lt
  unfold decodeGroup
  rw [value_symbol (by omega), value_symbol (by omega), value_symbol (by omega),
    value_symbol (by omega)]
  have hfirst : a.toNat / 4 * 4 + (a.toNat % 4 * 16 + b.toNat / 16) / 16 = a.toNat := by omega
  have hsecond : (a.toNat % 4 * 16 + b.toNat / 16) % 16 * 16 +
      (b.toNat % 16 * 4 + c.toNat / 64) / 4 = b.toNat := by omega
  have hthird : (b.toNat % 16 * 4 + c.toNat / 64) % 4 * 64 + c.toNat % 64 = c.toNat := by omega
  simp only [Option.bind_eq_bind, Option.bind_some, hfirst, hsecond, hthird, UInt8.ofNat_toNat]
  rfl

/-- The last symbols of two bytes are decoded to these. -/
theorem decodeLast_two :
    decodeLast (symbol (a.toNat / 4)) (symbol (a.toNat % 4 * 16 + b.toNat / 16))
      (symbol (b.toNat % 16 * 4)) '=' = some [a, b] := by
  have ha := a.toNat_lt
  have hb := b.toNat_lt
  unfold decodeLast
  rw [if_neg (not_not.mpr rfl), if_pos (symbol_ne_padding (by omega)), value_symbol (by omega),
    value_symbol (by omega), value_symbol (by omega)]
  have hfirst : a.toNat / 4 * 4 + (a.toNat % 4 * 16 + b.toNat / 16) / 16 = a.toNat := by omega
  have hsecond : (a.toNat % 4 * 16 + b.toNat / 16) % 16 * 16 + b.toNat % 16 * 4 / 4 =
      b.toNat := by omega
  have hunused : b.toNat % 16 * 4 % 4 = 0 := by omega
  simp only [Option.bind_eq_bind, Option.bind_some, hfirst, hsecond, UInt8.ofNat_toNat]
  exact if_pos hunused

/-- The last symbols of one byte are decoded to it. -/
theorem decodeLast_one :
    decodeLast (symbol (a.toNat / 4)) (symbol (a.toNat % 4 * 16)) '=' '=' = some [a] := by
  have ha := a.toNat_lt
  unfold decodeLast
  rw [if_neg (not_not.mpr rfl), if_neg (not_not.mpr rfl), value_symbol (by omega),
    value_symbol (by omega)]
  have hfirst : a.toNat / 4 * 4 + a.toNat % 4 * 16 / 16 = a.toNat := by omega
  have hunused : a.toNat % 4 * 16 % 16 = 0 := by omega
  simp only [Option.bind_eq_bind, Option.bind_some, hfirst, UInt8.ofNat_toNat]
  exact if_pos hunused

/-- **Round trip.** -/
theorem decodeSymbols_encodeBytes (bytes : List UInt8) :
    decodeSymbols (encodeBytes bytes) = some bytes := by
  induction bytes using encodeBytes.induct with
  | case1 => rfl
  | case2 a => exact (if_pos rfl).trans (decodeLast_one a)
  | case3 a b => exact (if_pos rfl).trans (decodeLast_two a b)
  | case4 a b c rest ih =>
      have hc := c.toNat_lt
      unfold encodeBytes decodeSymbols
      by_cases hrest : encodeBytes rest = []
      · -- the last group is complete and not padded
        have hnil : rest = [] := by
          rw [hrest] at ih
          exact (Option.some.inj ih).symm
        rw [if_pos hrest, hnil]
        unfold decodeLast
        rw [if_pos (symbol_ne_padding (by omega)), decodeGroup_symbols]
      · rw [if_neg hrest, decodeGroup_symbols, ih]
        rfl

end Base64

end SolanaBot.Library
