import Mathlib.Data.List.Basic

/-! # Base64 with the standard alphabet and padding

Three bytes become four digits of six bits; a shorter last group is padded with `=`. The decoder
is strict: digits only, a length that is a multiple of four, padding only at the end, and zero
bits where a padded group has bits to spare.

* **`encode`**, **`decode`** — on bytes and text.
* **`decode_encode`** — decoding undoes encoding. -/

namespace LivekitVoice.Base64

/-! ## Digits -/

/-- The sixty-four digits, in the order of their values. -/
def alphabet : List Char :=
  ['A', 'B', 'C', 'D', 'E', 'F', 'G', 'H', 'I', 'J', 'K', 'L', 'M', 'N', 'O', 'P', 'Q', 'R', 'S',
    'T', 'U', 'V', 'W', 'X', 'Y', 'Z', 'a', 'b', 'c', 'd', 'e', 'f', 'g', 'h', 'i', 'j', 'k', 'l',
    'm', 'n', 'o', 'p', 'q', 'r', 's', 't', 'u', 'v', 'w', 'x', 'y', 'z', '0', '1', '2', '3', '4',
    '5', '6', '7', '8', '9', '+', '/']

/-- The digit of a six-bit value. -/
def encodeDigit (n : Nat) : Char := alphabet.getD n 'A'

/-- The value of a digit. -/
def decodeDigit (c : Char) : Option Nat := alphabet.idxOf? c

theorem decodeDigit_encodeDigit {n : Nat} (h : n < 64) :
    decodeDigit (encodeDigit n) = some n ∧ encodeDigit n ≠ '=' := by
  revert n
  decide +kernel

/-! ## Groups -/

/-- The digits of a byte string, group by group. -/
def encodeChars : List UInt8 → List Char
  | [] => []
  | [a] => [encodeDigit (a.toNat / 4), encodeDigit (a.toNat % 4 * 16), '=', '=']
  | [a, b] =>
    [encodeDigit (a.toNat / 4), encodeDigit (a.toNat % 4 * 16 + b.toNat / 16),
      encodeDigit (b.toNat % 16 * 4), '=']
  | a :: b :: c :: rest =>
    encodeDigit (a.toNat / 4) :: encodeDigit (a.toNat % 4 * 16 + b.toNat / 16) ::
      encodeDigit (b.toNat % 16 * 4 + c.toNat / 64) :: encodeDigit (c.toNat % 64) ::
        encodeChars rest

/-- The bytes of a digit string, if it is well formed. -/
def decodeChars : List Char → Option (List UInt8)
  | [] => some []
  | d₀ :: d₁ :: d₂ :: d₃ :: rest =>
    match decodeDigit d₀, decodeDigit d₁ with
    | some n₀, some n₁ =>
      if d₂ = '=' then
        -- one byte: the low four bits of the second digit are spare
        if d₃ = '=' ∧ rest = [] ∧ n₁ % 16 = 0 then some [.ofNat (n₀ * 4 + n₁ / 16)] else none
      else
        match decodeDigit d₂ with
        | some n₂ =>
          if d₃ = '=' then
            -- two bytes: the low two bits of the third digit are spare
            if rest = [] ∧ n₂ % 4 = 0 then
              some [.ofNat (n₀ * 4 + n₁ / 16), .ofNat (n₁ % 16 * 16 + n₂ / 4)]
            else none
          else
            match decodeDigit d₃, decodeChars rest with
            | some n₃, some bytes =>
              some (.ofNat (n₀ * 4 + n₁ / 16) :: .ofNat (n₁ % 16 * 16 + n₂ / 4) ::
                .ofNat (n₂ % 4 * 64 + n₃) :: bytes)
            | _, _ => none
        | none => none
    | _, _ => none
  | _ => none

theorem ofNat_eq {n : Nat} {b : UInt8} (h : n = b.toNat) : UInt8.ofNat n = b := by
  rw [h, UInt8.ofNat_toNat]

/-- **The round trip**, three bytes at a time. -/
theorem decodeChars_encodeChars (bs : List UInt8) : decodeChars (encodeChars bs) = some bs := by
  fun_induction encodeChars bs with
  | case1 => rfl
  | case2 a =>
    have ha := a.toNat_lt
    have hd₀ := decodeDigit_encodeDigit (n := a.toNat / 4) (by omega)
    have hd₁ := decodeDigit_encodeDigit (n := a.toNat % 4 * 16) (by omega)
    have hspare : a.toNat % 4 * 16 % 16 = 0 := by omega
    have hbyte : UInt8.ofNat (a.toNat / 4 * 4 + a.toNat % 4 * 16 / 16) = a :=
      ofNat_eq (by omega)
    simp only [decodeChars, hd₀.1, hd₁.1, hspare, and_self, if_true, hbyte]
  | case3 a b =>
    have ha := a.toNat_lt
    have hb := b.toNat_lt
    have hd₀ := decodeDigit_encodeDigit (n := a.toNat / 4) (by omega)
    have hd₁ := decodeDigit_encodeDigit (n := a.toNat % 4 * 16 + b.toNat / 16) (by omega)
    have hd₂ := decodeDigit_encodeDigit (n := b.toNat % 16 * 4) (by omega)
    have hspare : b.toNat % 16 * 4 % 4 = 0 := by omega
    have hbyte₀ : UInt8.ofNat
        (a.toNat / 4 * 4 + (a.toNat % 4 * 16 + b.toNat / 16) / 16) = a := ofNat_eq (by omega)
    have hbyte₁ : UInt8.ofNat
        ((a.toNat % 4 * 16 + b.toNat / 16) % 16 * 16 + b.toNat % 16 * 4 / 4) = b :=
      ofNat_eq (by omega)
    simp only [decodeChars, hd₀.1, hd₁.1, hd₂.1, hd₂.2, hspare, and_self, if_true, if_false,
      hbyte₀, hbyte₁]
  | case4 a b c rest ih =>
    have ha := a.toNat_lt
    have hb := b.toNat_lt
    have hc := c.toNat_lt
    have hd₀ := decodeDigit_encodeDigit (n := a.toNat / 4) (by omega)
    have hd₁ := decodeDigit_encodeDigit (n := a.toNat % 4 * 16 + b.toNat / 16) (by omega)
    have hd₂ := decodeDigit_encodeDigit (n := b.toNat % 16 * 4 + c.toNat / 64) (by omega)
    have hd₃ := decodeDigit_encodeDigit (n := c.toNat % 64) (by omega)
    have hbyte₀ : UInt8.ofNat
        (a.toNat / 4 * 4 + (a.toNat % 4 * 16 + b.toNat / 16) / 16) = a := ofNat_eq (by omega)
    have hbyte₁ : UInt8.ofNat ((a.toNat % 4 * 16 + b.toNat / 16) % 16 * 16 +
        (b.toNat % 16 * 4 + c.toNat / 64) / 4) = b := ofNat_eq (by omega)
    have hbyte₂ : UInt8.ofNat
        ((b.toNat % 16 * 4 + c.toNat / 64) % 4 * 64 + c.toNat % 64) = c := ofNat_eq (by omega)
    simp only [decodeChars, hd₀.1, hd₁.1, hd₂.1, hd₂.2, hd₃.1, hd₃.2, ih, if_false, hbyte₀,
      hbyte₁, hbyte₂]

/-! ## Text -/

/-- The text of a byte string. -/
def encode (bs : List UInt8) : String := String.ofList (encodeChars bs)

/-- The bytes of a text, if it is well formed. -/
def decode (s : String) : Option (List UInt8) := decodeChars s.toList

/-- **Decoding undoes encoding.** -/
@[simp] theorem decode_encode (bs : List UInt8) : decode (encode bs) = some bs := by
  rw [decode, encode, String.toList_ofList, decodeChars_encodeChars]

/-- The padded groups of one and of two bytes. -/
example : encode [77] = "TQ==" ∧ encode [77, 97] = "TWE=" ∧ encode [77, 97, 110] = "TWFu" := by
  decide

end LivekitVoice.Base64
