import LivekitVoice.Flow.Result
import LivekitVoice.Turn.Credentials

/-! # The buffer of the base-62 decoder

`b62_decode` byte by byte, with the buffer that it fills from the end and the numbers it counts in.
The size of the buffer is fixed before the first digit is read. An index before the beginning of the
buffer, an index outside of it and a number that does not fit its type are panics.

* **`b62Decode_safe`** — no string makes the decoder panic. -/

namespace LivekitVoice.Turn

open List

/-! ## Bytes, panics and the buffer -/

/-- `table`: the value of a byte, `0xFF` if it is not a digit. -/
def b62Table (c : UInt8) : Nat := (b62Value (.ofUInt8 c)).getD 0xFF

/-- **Why the decoder would panic.** -/
inductive DecodePanic
  /-- `idx -= 1` at zero. -/
  | underflow
  /-- An index outside of the buffer. -/
  | bounds
  /-- `b` or `pos` does not fit. -/
  | overflow

/-- **The variables of the loop.** -/
structure DecodeBuffer where
  dst : List UInt8
  idx : Nat
  /-- A `u8`. -/
  pos : Nat
  /-- A `u32`. -/
  b : Nat

namespace DecodeBuffer

variable (w : DecodeBuffer)

/-- `idx -= 1; dst[idx] = (b & 0xFF) as u8`. -/
def write : Except DecodePanic DecodeBuffer :=
  if w.idx = 0 then .error .underflow
  else if w.dst.length ≤ w.idx - 1 then .error .bounds
  else .ok { w with dst := w.dst.set (w.idx - 1) (.ofNat (w.b &&& 0xFF)), idx := w.idx - 1 }

/-- A digit of `width` bits. -/
def push (x width : Nat) : Except DecodePanic DecodeBuffer :=
  let b := w.b ||| x <<< w.pos
  let pos := w.pos + width
  if 32 ≤ w.pos ∨ 2 ^ 32 ≤ b ∨ 256 ≤ pos then .error .overflow
  else if 8 ≤ pos then do
    let w ← { w with pos := pos, b := b }.write
    pure { w with pos := pos % 8, b := b >>> 8 }
  else pure { w with pos := pos, b := b }

/-- An empty buffer. -/
def new (len : Nat) : DecodeBuffer := ⟨List.replicate len 0, len, 0, 0⟩

/-- `dst[idx..]`. -/
def rest : Except DecodePanic (List UInt8) :=
  if w.idx ≤ w.dst.length then pure (w.dst.drop w.idx) else .error .bounds

/-- The bits that are left make a last byte. -/
def finish : Except DecodePanic (List UInt8) := do
  if 0 < w.pos then (← w.write).rest else w.rest

/-- The loop over the bytes. -/
def loop : List UInt8 → DecodeBuffer → Except DecodePanic (Option DecodeBuffer)
  | [], w => pure (some w)
  | c :: cs, w =>
    if b62Table c = 0xFF then pure none
    else do
      let w ← w.push (b62Table c) (digitWidth (b62Table c) cs.isEmpty)
      loop cs w

end DecodeBuffer

/-- **`b62_decode`, on bytes.** -/
def b62DecodeBytes (bytes : List UInt8) : Except DecodePanic (Option (List UInt8)) :=
  if bytes.isEmpty then pure (some [])
  else do
    match ← DecodeBuffer.loop bytes (.new (bytes.length * 6 / 8 + 1)) with
    | none => pure none
    | some w => return some (← w.finish)

/-! ## The buffer holds what is written -/

namespace DecodeBuffer

variable {w : DecodeBuffer} {d : Decoder} {len bits value x width : Nat}

/-- **The buffer holds what the decoder of lists has written**, at its end. -/
structure Refines (w : DecodeBuffer) (d : Decoder) (len : Nat) : Prop where
  size : w.dst.length = len
  idx_eq : w.idx + d.dst.length = len
  written : w.dst.drop w.idx = d.dst
  pos_eq : w.pos = d.pos
  b_eq : w.b = d.b

theorem Refines.write (h : w.Refines d len) (hroom : d.dst.length < len) :
    ∃ w', w.write = .ok w' ∧ w'.dst.length = len ∧ w'.idx + (d.dst.length + 1) = len ∧
      w'.dst.drop w'.idx = .ofNat (d.b &&& 0xFF) :: d.dst := by
  obtain ⟨hsize, hidx, hwritten, hpos, hb⟩ := h
  have hset : (w.dst.set (w.idx - 1) (.ofNat (w.b &&& 0xFF))).drop (w.idx - 1) =
      .ofNat (d.b &&& 0xFF) :: d.dst := by
    rw [drop_eq_getElem_cons (by rw [length_set]; omega), getElem_set_self,
      drop_set_of_lt (by omega), Nat.sub_add_cancel (by omega), hwritten, hb]
  rw [DecodeBuffer.write, if_neg (by omega), if_neg (by omega)]
  exact ⟨_, rfl, length_set.trans hsize, by dsimp only; omega, hset⟩

/-- **A digit is pushed** without an overflow, and into the buffer. -/
theorem Refines.push (h : w.Refines d len) (hd : d.Holds bits value) (hx : x < 64)
    (hwidth : width ≤ 6) (hroom : bits + width < len * 8) :
    ∃ w', w.push x width = .ok w' ∧ w'.Refines (d.push x width) len := by
  have hbits := hd.bits_eq
  have hlt := hd.pos_lt
  have hfits : d.b ||| x <<< d.pos < 2 ^ 32 := by
    have hpow : 2 ^ d.pos ≤ 2 ^ 7 := Nat.pow_le_pow_right (by decide) (by omega)
    have hmul : x * 2 ^ d.pos ≤ 63 * 2 ^ 7 := Nat.mul_le_mul (by omega) hpow
    have hb := hd.b_lt
    rw [hd.or_eq]
    omega
  have hnone : ¬ (32 ≤ d.pos ∨ 2 ^ 32 ≤ d.b ||| x <<< d.pos ∨ 256 ≤ d.pos + width) := by omega
  unfold DecodeBuffer.push Decoder.push
  simp only [h.pos_eq, h.b_eq, if_neg hnone]
  by_cases hfull : 8 ≤ d.pos + width
  · have hstate : Refines { w with pos := d.pos + width, b := d.b ||| x <<< d.pos }
        ⟨d.dst, d.pos + width, d.b ||| x <<< d.pos⟩ len :=
      ⟨h.size, h.idx_eq, h.written, rfl, rfl⟩
    obtain ⟨w', hwrite, hsize, hidx, hwritten⟩ := hstate.write (by dsimp only; omega)
    rw [if_pos hfull, if_pos hfull, hwrite]
    exact ⟨_, rfl, hsize, hidx, hwritten, rfl, rfl⟩
  · rw [if_neg hfull, if_neg hfull]
    exact ⟨_, rfl, h.size, h.idx_eq, h.written, rfl, rfl⟩

end DecodeBuffer

theorem digitWidth_fits {x : Nat} (hx : x < 62) (last : Bool) :
    x < 2 ^ digitWidth x last ∧ digitWidth x last ≤ 6 := by
  cases last with
  | true =>
    have hbits : x < 2 ^ 6 := by omega
    exact ⟨lt_two_pow_bitLen x, bitLen_le hbits⟩
  | false =>
    revert x
    decide +kernel

namespace DecodeBuffer

/-- **The loop, as long as there is room for six bits of every byte.** -/
theorem Refines.loop {w : DecodeBuffer} {d : Decoder} {len bits value : Nat} (h : w.Refines d len)
    (bytes : List UInt8) (hd : d.Holds bits value) (hroom : bits + 6 * bytes.length < len * 8) :
    decodeLoop (bytes.map .ofUInt8) d = none ∧ DecodeBuffer.loop bytes w = .ok none ∨
      ∃ w' d' bits' value', decodeLoop (bytes.map .ofUInt8) d = some d' ∧
        DecodeBuffer.loop bytes w = .ok (some w') ∧ w'.Refines d' len ∧
        d'.Holds bits' value' ∧ bits' < len * 8 := by
  induction bytes generalizing w d bits value with
  | nil => exact .inr ⟨w, d, bits, value, rfl, rfl, h, hd, by simpa using hroom⟩
  | cons c bytes ih =>
    rw [length_cons] at hroom
    rw [map_cons, decodeLoop, DecodeBuffer.loop, isEmpty_map, b62Table]
    cases hx : b62Value (.ofUInt8 c) with
    | none => exact .inl ⟨rfl, rfl⟩
    | some x =>
      have hdigit := lt_of_b62Value hx
      obtain ⟨hfits, hsix⟩ := digitWidth_fits hdigit bytes.isEmpty
      obtain ⟨w', hpush, hw'⟩ := h.push (x := x) hd (by omega) hsix (by omega)
      rw [Option.getD_some, if_neg (by omega), hpush]
      exact ih hw' (hd.push hfits (by omega)) (by omega)

/-- **The bytes that are written** at the end. -/
theorem Refines.finish {w : DecodeBuffer} {d : Decoder} {len bits value : Nat}
    (h : w.Refines d len) (hd : d.Holds bits value) (hroom : bits < len * 8) :
    w.finish = .ok d.finish := by
  have hbits := hd.bits_eq
  unfold DecodeBuffer.finish Decoder.finish
  rw [h.pos_eq]
  split
  · obtain ⟨w', hwrite, hsize, hidx, hwritten⟩ := h.write (by omega)
    rw [hwrite, ok_bind, rest, if_pos (by omega), hwritten]
    rfl
  · have hsize := h.size
    have hidx := h.idx_eq
    rw [rest, if_pos (by omega), h.written]
    rfl

end DecodeBuffer

/-- **The decoder does not panic**, whatever the bytes are. -/
theorem b62DecodeBytes_eq (bytes : List UInt8) :
    b62DecodeBytes bytes =
      .ok ((decodeLoop (bytes.map .ofUInt8) .init).map Decoder.finish) := by
  unfold b62DecodeBytes
  split
  · next hempty =>
    rw [List.isEmpty_iff.mp hempty]
    rfl
  · generalize hlen : bytes.length * 6 / 8 + 1 = len
    have hnew : (DecodeBuffer.new len).Refines .init len :=
      ⟨by simp [DecodeBuffer.new], rfl, by simp [DecodeBuffer.new, Decoder.init], rfl, rfl⟩
    rcases hnew.loop bytes Decoder.Holds.init (by omega) with
      ⟨hnone, hloop⟩ | ⟨w, d, bits, value, hsome, hloop, hw, hd, hroom⟩
    · rw [hnone, hloop]
      rfl
    · rw [hsome, hloop, ok_bind]
      simp only [hw.finish hd hroom]
      rfl

/-! ## Strings -/

/-- **The decoding fails** for a character outside the alphabet. -/
theorem decodeLoop_eq_none_iff {cs : List Char} {d : Decoder} :
    decodeLoop cs d = none ↔ ∃ c ∈ cs, c ∉ b62 := by
  induction cs generalizing d with
  | nil => simp [decodeLoop]
  | cons c cs ih =>
    rw [decodeLoop]
    cases hx : b62Value c with
    | none => simp [List.idxOf?_eq_none_iff.mp hx]
    | some x =>
      have hmem : c ∈ b62 := isSome_idxOf?.mp (by rw [← b62Value, hx]; rfl)
      simp [ih, hmem]

theorem utf8Bytes_eq (s : String) : utf8Bytes s = s.toList.flatMap String.utf8EncodeChar := by
  rw [utf8Bytes, ← String.utf8Encode_toList, List.utf8Encode]
  simp

theorem val_le_of_mem_b62 {c : Char} (h : c ∈ b62) : c.val ≤ 127 := by
  have hall : b62.all fun c => c.val ≤ 127 := by decide +kernel
  simpa using all_eq_true.mp hall c h

theorem map_utf8EncodeChar {c : Char} (h : c.val ≤ 127) :
    (String.utf8EncodeChar c).map .ofUInt8 = [c] := by
  have hbyte : c.val.toNat < 256 := Nat.lt_of_le_of_lt (UInt32.le_iff_toNat_le.mp h) (by decide)
  rw [String.utf8EncodeChar_eq_singleton (Char.utf8Size_eq_one_iff.mpr h), map_singleton]
  refine congrArg (fun c => [c]) (Char.ext (UInt32.toNat_inj.mp ?_))
  show (c.val.toUInt8.toUInt32).toNat = c.val.toNat
  rw [UInt8.toNat_toUInt32, UInt32.toNat_toUInt8, Nat.mod_eq_of_lt hbyte]

theorem exists_mem_utf8EncodeChar {c : Char} (h : ¬ c.val ≤ 127) :
    ∃ byte ∈ String.utf8EncodeChar c, 127 < byte.toNat := by
  have hval : ¬ c.val.toNat ≤ 127 := fun hle => h (UInt32.le_iff_toNat_le.mpr hle)
  simp only [String.utf8EncodeChar, if_neg hval]
  split
  · exact ⟨_, mem_cons_self, by rw [UInt8.toNat_ofNat']; omega⟩
  · split <;> exact ⟨_, mem_cons_self, by rw [UInt8.toNat_ofNat']; omega⟩

theorem forall_mem_utf8EncodeChar {c : Char} :
    (∀ byte ∈ String.utf8EncodeChar c, .ofUInt8 byte ∈ b62) ↔ c ∈ b62 := by
  by_cases hascii : c.val ≤ 127
  · rw [← forall_mem_map, map_utf8EncodeChar hascii, forall_mem_singleton]
  · obtain ⟨byte, hbyte, hlarge⟩ := exists_mem_utf8EncodeChar hascii
    refine ⟨fun h => absurd (val_le_of_mem_b62 (h byte hbyte)) fun hle => ?_,
      fun h => absurd (val_le_of_mem_b62 h) hascii⟩
    have hle : byte.toUInt32.toNat ≤ 127 := UInt32.le_iff_toNat_le.mp hle
    rw [UInt8.toNat_toUInt32] at hle
    omega

/-- **The decoder is safe on every string.** It neither writes in front of its buffer nor outside of
it, its numbers fit, and it refuses exactly the strings that have a byte which is not a digit. -/
theorem b62Decode_safe (s : String) :
    b62DecodeBytes (utf8Bytes s) = .ok (b62Decode s) ∧
      (b62Decode s = none ↔ ∃ byte ∈ utf8Bytes s, .ofUInt8 byte ∉ b62) := by
  have hbytes : (∃ byte ∈ utf8Bytes s, .ofUInt8 byte ∉ b62) ↔ ∃ c ∈ s.toList, c ∉ b62 := by
    rw [← not_iff_not]
    simp only [not_exists, not_and, not_not]
    rw [utf8Bytes_eq, forall_mem_flatMap]
    exact forall₂_congr fun c _ => forall_mem_utf8EncodeChar
  have hnone : b62Decode s = none ↔ ∃ c ∈ s.toList, c ∉ b62 := by
    rw [b62Decode, Option.map_eq_none_iff, decodeLoop_eq_none_iff]
  refine ⟨?_, hnone.trans hbytes.symm⟩
  rw [b62DecodeBytes_eq]
  by_cases hbad : ∃ c ∈ s.toList, c ∉ b62
  · rw [hnone.mpr hbad, Option.map_eq_none_iff.mpr (decodeLoop_eq_none_iff.mpr ?_)]
    simpa using hbytes.mpr hbad
  · have hchars : (utf8Bytes s).map .ofUInt8 = s.toList := by
      have hall : ∀ c ∈ s.toList, (String.utf8EncodeChar c).map .ofUInt8 = [c] := fun c hc =>
        map_utf8EncodeChar (val_le_of_mem_b62 (by_contra fun hout => hbad ⟨c, hc, hout⟩))
      rw [utf8Bytes_eq, map_flatMap, flatMap_congr hall, flatMap_singleton']
    rw [hchars]
    rfl

end LivekitVoice.Turn
