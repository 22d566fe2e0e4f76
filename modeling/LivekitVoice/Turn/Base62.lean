import LivekitVoice.Codec.Bytes
import Mathlib.Tactic.IntervalCases
import Mathlib.Tactic.Ring

/-! # The base-62 codec

A byte string is written from its last bit to its first, six bits a digit. Only sixty-two of the
sixty-four groups of six bits have a digit: a group whose middle four bits are all set gives up its
highest bit, is written as one of the digits 30 and 31, and takes five bits only. The last group may
be shorter; the decoder counts as many bits of the last digit as it needs.

* **`Decoder.Holds.push`** — what the decoder has read so far, digit by digit,
* **`b62Decode_b62Encode`** — decoding undoes encoding, for every byte string. -/

namespace LivekitVoice.Turn

open Radix

/-! ## Digits -/

/-- `B62`: the digits, in the order of their values. -/
def b62 : List Char :=
  ['A', 'B', 'C', 'D', 'E', 'F', 'G', 'H', 'I', 'J', 'K', 'L', 'M', 'N', 'O', 'P', 'Q', 'R', 'S',
    'T', 'U', 'V', 'W', 'X', 'Y', 'Z', 'a', 'b', 'c', 'd', 'e', 'f', 'g', 'h', 'i', 'j', 'k', 'l',
    'm', 'n', 'o', 'p', 'q', 'r', 's', 't', 'u', 'v', 'w', 'x', 'y', 'z', '0', '1', '2', '3', '4',
    '5', '6', '7', '8', '9']

/-- `COMPACT`: the middle four bits of a group. -/
def compact : Nat := 0x1E

/-- `MASK5`. -/
def mask5 : Nat := 0x1F

/-- `MASK6`. -/
def mask6 : Nat := 0x3F

/-- The digit of a value. -/
def b62Digit (x : Nat) : Char := b62.getD x 'A'

/-- The value of a character, if it is a digit (the decoder's `table`). -/
def b62Value (c : Char) : Option Nat := b62.idxOf? c

variable {x k i r g : Nat} {d : Decoder}

theorem b62Value_b62Digit (h : x < 62) : b62Value (b62Digit x) = some x := by
  revert x
  decide +kernel

theorem lt_of_b62Value {c : Char} (h : b62Value c = some x) : x < 62 := by
  obtain ⟨hx, -⟩ := List.idxOf?_eq_some_iff.mp h
  exact hx

/-! ## Encoding -/

/-- **The six bits in front of position `pos`**, as far as the encoder looks: it reads the byte they
end in, and the byte before only if that has fewer than six of them. -/
def b62Group (src : List UInt8) (pos : Nat) : Nat :=
  let r := if pos % 8 = 0 then 8 else pos % 8
  let i := if pos % 8 = 0 then pos / 8 - 1 else pos / 8
  let b := (src.getD i 0).toNat >>> (8 - r)
  let b := if r < 6 ∧ 0 < i then b ||| ((src.getD (i - 1) 0).toNat <<< r) % 256 else b
  b &&& mask6

/-- The value that is written for a group. -/
def b62Written (b : Nat) : Nat := if b &&& compact = compact then b &&& mask5 else b

/-- How many bits of a group are written. -/
def b62Size (pos b : Nat) : Nat :=
  if b &&& compact = compact then
    if 6 < pos ∨ mask5 < b then 5 else 6
  else 6

/-- The loop of the encoder: `pos` bits are left. -/
def b62Loop (src : List UInt8) (pos : Nat) : List Char :=
  if pos = 0 then []
  else
    b62Digit (b62Written (b62Group src pos)) ::
      b62Loop src (pos - b62Size pos (b62Group src pos))
termination_by pos
decreasing_by
  unfold b62Size
  split <;> (try split) <;> omega

/-- **`b62_encode`.** -/
def b62Encode (src : List UInt8) : String := .ofList (b62Loop src (src.length * 8))

/-! ## Decoding -/

/-- `bit_len`: the number of bits of a value. -/
def bitLen (x : Nat) : Nat := if x = 0 then 0 else x.log2 + 1

/-- **The decoder between two digits.** -/
structure Decoder where
  /-- The bytes written so far (`dst[idx..]`): the buffer is filled from its end. -/
  dst : List UInt8
  /-- The number of bits not written yet. -/
  pos : Nat
  /-- These bits. -/
  b : Nat

namespace Decoder

/-- Nothing has been read. -/
def init : Decoder := ⟨[], 0, 0⟩

/-- The decoder takes a digit for `width` bits, and writes a byte if it has one. -/
def push (d : Decoder) (x width : Nat) : Decoder :=
  let b := d.b ||| x <<< d.pos
  let pos := d.pos + width
  if 8 ≤ pos then ⟨.ofNat (b &&& 0xFF) :: d.dst, pos % 8, b >>> 8⟩ else ⟨d.dst, pos, b⟩

/-- The bits that are left make a last byte. -/
def finish (d : Decoder) : List UInt8 :=
  if 0 < d.pos then .ofNat (d.b &&& 0xFF) :: d.dst else d.dst

end Decoder

/-- How many bits a digit stands for; `last` says that it is the last one. -/
def digitWidth (x : Nat) (last : Bool) : Nat :=
  if last then bitLen x else if x &&& compact = compact then 5 else 6

/-- The loop of the decoder. -/
def decodeLoop : List Char → Decoder → Option Decoder
  | [], d => some d
  | c :: cs, d =>
    match b62Value c with
    | none => none
    | some x => decodeLoop cs (d.push x (digitWidth x cs.isEmpty))

/-- **`b62_decode`.** -/
def b62Decode (s : String) : Option (List UInt8) :=
  (decodeLoop s.toList .init).map Decoder.finish

/-! ## Groups are divisions -/

/-- **What is left of a string** with `pos` bits left: the number of these bits. -/
def frontBits (src : List UInt8) (pos : Nat) : Nat := bigEndian src / 2 ^ (src.length * 8 - pos)

variable {src : List UInt8} {pos : Nat}

theorem frontBits_zero : frontBits src 0 = 0 := by
  unfold frontBits
  apply Nat.div_eq_of_lt
  rw [Nat.sub_zero, Nat.mul_comm, Nat.pow_mul]
  exact bigEndian_lt

theorem frontBits_lt (hpos : pos ≤ src.length * 8) : frontBits src pos < 2 ^ pos := by
  unfold frontBits
  rw [Nat.div_lt_iff_lt_mul (Nat.pow_pos (by omega)), ← Nat.pow_add]
  have hlt : bigEndian src < 256 ^ src.length := bigEndian_lt
  have hpow : (256 : Nat) ^ src.length = 2 ^ (pos + (src.length * 8 - pos)) := by
    rw [show pos + (src.length * 8 - pos) = 8 * src.length by omega, Nat.pow_mul]
  omega

theorem frontBits_bytes (hi : i ≤ src.length) : frontBits src (8 * i) = bigEndian (src.take i) := by
  have hdrop : (src.drop i).length = src.length - i := List.length_drop
  have hdiv : bigEndian (src.take i ++ src.drop i) / 256 ^ (src.drop i).length =
      bigEndian (src.take i) := bigEndian_div
  rw [List.take_append_drop, hdrop] at hdiv
  rw [← hdiv, frontBits, show src.length * 8 - 8 * i = 8 * (src.length - i) by omega, Nat.pow_mul]

theorem frontBits_succ (hi : i < src.length) :
    frontBits src (8 * (i + 1)) = frontBits src (8 * i) * 256 + (src.getD i 0).toNat := by
  have hget : src.getD i 0 = src[i] := by
    rw [List.getD_eq_getElem?_getD, List.getElem?_eq_getElem hi, Option.getD_some]
  rw [frontBits_bytes hi, frontBits_bytes (Nat.le_of_lt hi), List.take_succ_eq_append_getElem hi,
    bigEndian_append, bigEndian_singleton, List.length_singleton, Nat.pow_one, hget]

theorem or_shiftLeft_mod {y : Nat} (hx : x < 2 ^ r) (hr : r ≤ 8) :
    x ||| (y <<< r) % 256 = x + y * 2 ^ r % 256 := by
  have hpow : (256 : Nat) = 2 ^ (8 - r) * 2 ^ r := by
    rw [← Nat.pow_add, Nat.sub_add_cancel hr]
  have hmod : y * 2 ^ r % 256 = (y % 2 ^ (8 - r)) <<< r := by
    rw [hpow, Nat.mul_mod_mul_right, Nat.shiftLeft_eq]
  rw [Nat.shiftLeft_eq, hmod, Nat.or_comm, ← Nat.shiftLeft_add_eq_or_of_lt hx, Nat.add_comm]

theorem b62Group_at (hr : 0 < r) (hr8 : r ≤ 8) :
    b62Group src (8 * i + r) =
      (if r < 6 ∧ 0 < i then
        (src.getD i 0).toNat / 2 ^ (8 - r) + (src.getD (i - 1) 0).toNat * 2 ^ r % 256
      else (src.getD i 0).toNat / 2 ^ (8 - r)) % 64 := by
  have hfront : (if (8 * i + r) % 8 = 0 then 8 else (8 * i + r) % 8) = r := by
    split <;> omega
  have hindex : (if (8 * i + r) % 8 = 0 then (8 * i + r) / 8 - 1 else (8 * i + r) / 8) = i := by
    split <;> omega
  have hlt : (src.getD i 0).toNat / 2 ^ (8 - r) < 2 ^ r := by
    rw [Nat.div_lt_iff_lt_mul (Nat.pow_pos (by omega)), ← Nat.pow_add,
      show r + (8 - r) = 8 by omega]
    exact (src.getD i 0).toNat_lt
  simp only [b62Group, hfront, hindex]
  rw [show mask6 = 2 ^ 6 - 1 from rfl, Nat.and_two_pow_sub_one_eq_mod, Nat.shiftRight_eq_div_pow,
    or_shiftLeft_mod hlt hr8]

/-- **The shifts of the encoder are a division.** -/
theorem b62Group_eq (h0 : 0 < pos) (hpos : pos ≤ src.length * 8) :
    b62Group src pos = frontBits src pos % 64 := by
  obtain ⟨i, r, rfl, hr, hr8⟩ : ∃ i r, pos = 8 * i + r ∧ 0 < r ∧ r ≤ 8 :=
    ⟨(pos - 1) / 8, (pos - 1) % 8 + 1, by omega, by omega, by omega⟩
  have hi : i < src.length := by omega
  have hfront : frontBits src (8 * i + r) =
      (frontBits src (8 * i) * 256 + (src.getD i 0).toNat) / 2 ^ (8 - r) := by
    -- taking bits away divides what is left
    rw [← frontBits_succ hi]
    unfold frontBits
    rw [Nat.div_div_eq_div_mul, ← Nat.pow_add]
    congr 2
    omega
  rw [b62Group_at hr hr8, hfront]
  by_cases hfirst : i = 0
  · -- the first byte: there is none before it
    have hzero : frontBits src (8 * i) = 0 := by rw [hfirst, Nat.mul_zero, frontBits_zero]
    rw [hzero, if_neg (by omega), Nat.zero_mul, Nat.zero_add]
  · have hbefore : frontBits src (8 * i) =
        frontBits src (8 * (i - 1)) * 256 + (src.getD (i - 1) 0).toNat := by
      rw [← frontBits_succ (by omega), Nat.sub_add_cancel (by omega)]
    rw [hbefore]
    simp only [show 0 < i by omega, and_true]
    -- the byte before counts only if this one has fewer than six bits of the group
    interval_cases r <;>
      simp only [Nat.reduceSub, Nat.reducePow, Nat.reduceLT, if_true, if_false] <;> omega

/-! ## What is written -/

theorem b62Written_lt (hg : g < 64) :
    b62Written g < 62 ∧ (b62Written g &&& compact = compact ↔ g &&& compact = compact) := by
  revert g
  decide +kernel

theorem b62Written_compact (h : g &&& compact = compact) : b62Written g = g % 32 := by
  rw [b62Written, if_pos h, show mask5 = 2 ^ 5 - 1 from rfl, Nat.and_two_pow_sub_one_eq_mod]

theorem b62Written_not_compact (h : g &&& compact ≠ compact) : b62Written g = g :=
  if_neg h

theorem b62Size_le (pos b : Nat) : b62Size pos b ≤ 6 := by
  unfold b62Size
  split
  · split <;> omega
  · omega

/-- **The last group is written as it is.** -/
theorem b62Written_last (h0 : 0 < pos) (hpos : pos ≤ src.length * 8)
    (hlast : pos ≤ b62Size pos (b62Group src pos)) :
    pos ≤ 6 ∧ b62Written (b62Group src pos) = frontBits src pos := by
  have hsix : pos ≤ 6 := Nat.le_trans hlast (b62Size_le _ _)
  have hpow : 2 ^ pos ≤ 2 ^ 6 := Nat.pow_le_pow_right (by omega) hsix
  have hlt : frontBits src pos < 64 := Nat.lt_of_lt_of_le (frontBits_lt hpos) hpow
  have hgroup : b62Group src pos = frontBits src pos := by
    rw [b62Group_eq h0 hpos, Nat.mod_eq_of_lt hlt]
  refine ⟨hsix, ?_⟩
  rw [hgroup] at hlast ⊢
  -- without a spare bit the value written is the group
  have hself : ∀ g < 64, (g &&& compact = compact → g ≤ mask5) → b62Written g = g := by
    decide +kernel
  refine hself _ hlt fun hcompact => ?_
  -- otherwise it has six bits and gives one up, so it is not the last
  by_contra hbig
  have hsize : b62Size pos (frontBits src pos) = 5 := by
    rw [b62Size, if_pos hcompact, if_pos (.inr (by omega))]
  have hfive : frontBits src pos < 2 ^ 5 :=
    Nat.lt_of_lt_of_le (frontBits_lt hpos) (Nat.pow_le_pow_right (by omega) (by omega))
  rw [mask5] at hbig
  omega

/-- **Any other group is written without the bits that it leaves**, and its digit says how many
bits it took. -/
theorem b62Written_more (h0 : 0 < pos) (hpos : pos ≤ src.length * 8)
    (hmore : b62Size pos (b62Group src pos) < pos) :
    b62Written (b62Group src pos) = frontBits src pos % 2 ^ b62Size pos (b62Group src pos) ∧
      digitWidth (b62Written (b62Group src pos)) false = b62Size pos (b62Group src pos) := by
  have hgroup := b62Group_eq h0 hpos
  have hlt : b62Group src pos < 64 := by
    rw [hgroup]
    exact Nat.mod_lt _ (by omega)
  have hiff := (b62Written_lt hlt).2
  by_cases hcompact : b62Group src pos &&& compact = compact
  · have hsize : b62Size pos (b62Group src pos) = 5 := by
      rw [b62Size, if_pos hcompact] at hmore ⊢
      split at hmore
      · next h => rw [if_pos h]
      · next h => exact absurd (.inl hmore) h
    rw [hsize, digitWidth, if_neg (by simp), if_pos (hiff.mpr hcompact),
      b62Written_compact hcompact, hgroup]
    omega
  · have hsize : b62Size pos (b62Group src pos) = 6 := if_neg hcompact
    rw [hsize, digitWidth, if_neg (by simp), if_neg (fun h => hcompact (hiff.mp h)),
      b62Written_not_compact hcompact, hgroup]
    exact ⟨rfl, rfl⟩

/-! ## What is read -/

theorem lt_two_pow_bitLen (x : Nat) : x < 2 ^ bitLen x := by
  unfold bitLen
  split
  · next h => simp [h]
  · exact Nat.lt_log2_self

theorem bitLen_le (h : x < 2 ^ k) : bitLen x ≤ k := by
  unfold bitLen
  split
  · exact Nat.zero_le k
  · next hx => exact (Nat.log2_lt hx).mpr h

namespace Decoder

variable {d : Decoder} {bits value : Nat}

/-- **What a decoder has read**: so many bits, standing for this number. -/
structure Holds (d : Decoder) (bits value : Nat) : Prop where
  bits_eq : d.dst.length * 8 + d.pos = bits
  value_eq : d.b * 256 ^ d.dst.length + bigEndian d.dst = value
  pos_lt : d.pos < 8
  b_lt : d.b < 2 ^ d.pos

theorem Holds.init : Holds init 0 0 where
  bits_eq := rfl
  value_eq := rfl
  pos_lt := by decide
  b_lt := by decide

theorem Holds.or_eq (hd : d.Holds bits value) (x : Nat) :
    d.b ||| x <<< d.pos = d.b + x * 2 ^ d.pos := by
  rw [Nat.or_comm, ← Nat.shiftLeft_add_eq_or_of_lt hd.b_lt, Nat.shiftLeft_eq, Nat.add_comm]

/-- **A digit adds its bits in front of those read.** -/
theorem Holds.push (hd : d.Holds bits value) {x width : Nat} (hx : x < 2 ^ width)
    (hwidth : width ≤ 8) : (d.push x width).Holds (bits + width) (value + x * 2 ^ bits) := by
  have hlt : d.b + x * 2 ^ d.pos < 2 ^ (d.pos + width) := by
    have hstep : (x + 1) * 2 ^ d.pos ≤ 2 ^ width * 2 ^ d.pos := Nat.mul_le_mul_right _ hx
    have hb := hd.b_lt
    rw [Nat.add_mul, Nat.one_mul] at hstep
    rw [Nat.add_comm d.pos, Nat.pow_add]
    omega
  have hvalue : (d.b + x * 2 ^ d.pos) * 256 ^ d.dst.length + bigEndian d.dst =
      value + x * 2 ^ bits := by
    have hpow : (2 : Nat) ^ bits = 2 ^ d.pos * 256 ^ d.dst.length := by
      rw [← hd.bits_eq, Nat.pow_add, Nat.mul_comm d.dst.length, Nat.pow_mul, Nat.mul_comm]
    rw [hpow, ← hd.value_eq]
    ring
  have hbits := hd.bits_eq
  have hpos := hd.pos_lt
  simp only [Decoder.push, hd.or_eq]
  generalize d.b + x * 2 ^ d.pos = b at hlt hvalue
  split
  · next hfull =>
    have hbyte : (UInt8.ofNat (b &&& 0xFF)).toNat = b % 256 := by
      rw [show (0xFF : Nat) = 2 ^ 8 - 1 from rfl, Nat.and_two_pow_sub_one_eq_mod,
        UInt8.toNat_ofNat']
      omega
    constructor
    · show (d.dst.length + 1) * 8 + (d.pos + width) % 8 = bits + width
      omega
    · rw [bigEndian_cons, List.length_cons, Nat.shiftRight_eq_div_pow, hbyte, ← hvalue,
        Nat.pow_succ]
      have hsplit : b = b / 2 ^ 8 * 256 + b % 256 := by omega
      calc b / 2 ^ 8 * (256 ^ d.dst.length * 256) +
            (b % 256 * 256 ^ d.dst.length + bigEndian d.dst)
          = (b / 2 ^ 8 * 256 + b % 256) * 256 ^ d.dst.length + bigEndian d.dst := by ring
        _ = b * 256 ^ d.dst.length + bigEndian d.dst := by rw [← hsplit]
    · exact Nat.mod_lt _ (by omega)
    · have hmod : (d.pos + width) % 8 = d.pos + width - 8 := by omega
      rw [Nat.shiftRight_eq_div_pow, Nat.div_lt_iff_lt_mul (by omega), ← Nat.pow_add, hmod,
        Nat.sub_add_cancel hfull]
      exact hlt
  · next hpart =>
    have htotal : d.dst.length * 8 + (d.pos + width) = bits + width := by omega
    have hfits : d.pos + width < 8 := by omega
    exact ⟨htotal, hvalue, hfits, hlt⟩

/-- **The bytes of the bits that were read.** -/
theorem Holds.finish (hd : d.Holds bits value) :
    bigEndian d.finish = value ∧ d.finish.length = (bits + 7) / 8 := by
  have hbits := hd.bits_eq
  have hpos := hd.pos_lt
  unfold Decoder.finish
  split
  · next hrest =>
    have hb : d.b < 2 ^ 8 :=
      Nat.lt_of_lt_of_le hd.b_lt (Nat.pow_le_pow_right (by omega) (by omega))
    have hbyte : (UInt8.ofNat (d.b &&& 0xFF)).toNat = d.b := by
      rw [show (0xFF : Nat) = 2 ^ 8 - 1 from rfl, Nat.and_two_pow_sub_one_eq_mod,
        Nat.mod_eq_of_lt hb, UInt8.toNat_ofNat', Nat.mod_eq_of_lt hb]
    rw [bigEndian_cons, hbyte, hd.value_eq, List.length_cons]
    omega
  · next hnone =>
    have hzero : d.b = 0 := by
      have hb := hd.b_lt
      rw [show d.pos = 0 by omega] at hb
      omega
    have hvalue := hd.value_eq
    rw [hzero, Nat.zero_mul, Nat.zero_add] at hvalue
    exact ⟨hvalue, by omega⟩

end Decoder

/-! ## The round trip -/

/-- **The decoder on what the encoder has yet to write.** With `pos` bits left to write it has read
all the others; it ends with all of them, up to leading zeros of the first byte. -/
theorem decodeLoop_b62Loop (h0 : 0 < pos) (hpos : pos ≤ src.length * 8)
    (hd : d.Holds (src.length * 8 - pos) (bigEndian src % 2 ^ (src.length * 8 - pos))) :
    ∃ d' bits, decodeLoop (b62Loop src pos) d = some d' ∧ d'.Holds bits (bigEndian src) ∧
      src.length * 8 - 8 < bits ∧ bits ≤ src.length * 8 := by
  induction pos using Nat.strong_induction_on generalizing d with
  | _ pos ih =>
    have hgroup : b62Group src pos < 64 := by
      rw [b62Group_eq h0 hpos]
      exact Nat.mod_lt _ (by omega)
    have hdigit := b62Value_b62Digit (b62Written_lt hgroup).1
    rw [b62Loop, if_neg (by omega), decodeLoop, hdigit]
    by_cases hlast : pos ≤ b62Size pos (b62Group src pos)
    · -- the last digit: all of what is left
      obtain ⟨hsix, hwritten⟩ := b62Written_last h0 hpos hlast
      have hlen : bitLen (frontBits src pos) ≤ pos := bitLen_le (frontBits_lt hpos)
      rw [Nat.sub_eq_zero_of_le hlast, show b62Loop src 0 = [] by rw [b62Loop, if_pos rfl],
        hwritten]
      have hpush := hd.push (lt_two_pow_bitLen (frontBits src pos)) (by omega)
      have hall : bigEndian src % 2 ^ (src.length * 8 - pos) +
          frontBits src pos * 2 ^ (src.length * 8 - pos) = bigEndian src := by
        rw [frontBits, Nat.mul_comm (_ / _), Nat.mod_add_div]
      rw [hall] at hpush
      exact ⟨_, _, rfl, hpush, by omega, by omega⟩
    · obtain ⟨hwritten, hwidth⟩ := b62Written_more h0 hpos (by omega)
      have hsize : 0 < b62Size pos (b62Group src pos) := by
        unfold b62Size
        split <;> (try split) <;> omega
      have hsix := b62Size_le pos (b62Group src pos)
      generalize b62Size pos (b62Group src pos) = k at *
      have hmore : (b62Loop src (pos - k)).isEmpty = false := by
        rw [b62Loop, if_neg (by omega)]
        rfl
      rw [hmore]
      simp only [hwidth]
      have hlt : b62Written (b62Group src pos) < 2 ^ k := by
        rw [hwritten]
        exact Nat.mod_lt _ (Nat.pow_pos (by omega))
      have hpush := hd.push hlt (by omega)
      have hvalue : bigEndian src % 2 ^ (src.length * 8 - pos) +
          frontBits src pos % 2 ^ k * 2 ^ (src.length * 8 - pos) =
            bigEndian src % 2 ^ (src.length * 8 - (pos - k)) := by
        rw [show src.length * 8 - (pos - k) = src.length * 8 - pos + k by omega, Nat.pow_add,
          Nat.mod_mul, Nat.mul_comm (_ % _), frontBits]
      rw [hwritten, hvalue, show src.length * 8 - pos + k = src.length * 8 - (pos - k) by omega]
        at hpush
      rw [hwritten]
      exact ih (pos - k) (by omega) (by omega) (by omega) hpush

theorem finish_decodeLoop_b62Loop (src : List UInt8) :
    (decodeLoop (b62Loop src (src.length * 8)) .init).map Decoder.finish = some src := by
  by_cases hempty : src.length = 0
  · rw [List.length_eq_zero_iff] at hempty
    rw [hempty, List.length_nil, Nat.zero_mul, b62Loop, if_pos rfl]
    rfl
  · have hinit : Decoder.init.Holds (src.length * 8 - src.length * 8)
        (bigEndian src % 2 ^ (src.length * 8 - src.length * 8)) := by
      rw [Nat.sub_self, Nat.pow_zero, Nat.mod_one]
      exact Decoder.Holds.init
    obtain ⟨d, bits, hloop, hholds, hlow, hhigh⟩ :=
      decodeLoop_b62Loop (by omega) (Nat.le_refl _) hinit
    obtain ⟨hvalue, hlength⟩ := hholds.finish
    have hsrc : d.finish = src := eq_of_bigEndian_eq (by omega) hvalue
    rw [hloop, Option.map_some, hsrc]

/-- **Decoding undoes encoding.** -/
theorem b62Decode_b62Encode (src : List UInt8) : b62Decode (b62Encode src) = some src := by
  rw [b62Decode, b62Encode, String.toList_ofList]
  exact finish_decodeLoop_b62Loop src

end LivekitVoice.Turn
