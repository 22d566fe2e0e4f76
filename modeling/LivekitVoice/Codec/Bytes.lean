import Mathlib.Data.Nat.Digits.Lemmas

/-! # Byte strings as numbers

A byte string read as a number in base 256, the first byte being the most significant one.

* **`bigEndian_append`** — how the number of a string comes from those of its parts,
* **`bigEndian_div`** — dividing leaves the number of the front,
* **`eq_of_bigEndian_eq`** — a string is determined by its length and its number. -/

namespace LivekitVoice.Radix

variable {as bs : List UInt8} {b : UInt8}

/-- **The number of a byte string**, the first byte being the most significant one. -/
def bigEndian (bs : List UInt8) : Nat := Nat.ofDigits 256 (bs.reverse.map UInt8.toNat)

@[simp] theorem bigEndian_singleton : bigEndian [b] = b.toNat := Nat.ofDigits_singleton

theorem toNat_lt_of_mem {x : Nat} (h : x ∈ bs.reverse.map UInt8.toNat) : x < 256 := by
  obtain ⟨b, -, rfl⟩ := List.mem_map.mp h
  exact b.toNat_lt

/-- **The number of a string from those of its parts.** -/
theorem bigEndian_append :
    bigEndian (as ++ bs) = bigEndian as * 256 ^ bs.length + bigEndian bs := by
  unfold bigEndian
  rw [List.reverse_append, List.map_append, Nat.ofDigits_append, List.length_map,
    List.length_reverse, Nat.mul_comm, Nat.add_comm]

theorem bigEndian_cons : bigEndian (b :: bs) = b.toNat * 256 ^ bs.length + bigEndian bs := by
  rw [← List.singleton_append, bigEndian_append, bigEndian_singleton]

theorem bigEndian_lt : bigEndian bs < 256 ^ bs.length := by
  have hlt := Nat.ofDigits_lt_base_pow_length (by omega)
    (fun x (hx : x ∈ bs.reverse.map UInt8.toNat) => toNat_lt_of_mem hx)
  rwa [List.length_map, List.length_reverse] at hlt

/-- **Dividing leaves the number of the front.** -/
theorem bigEndian_div : bigEndian (as ++ bs) / 256 ^ bs.length = bigEndian as := by
  rw [bigEndian_append, Nat.mul_comm, Nat.mul_add_div (Nat.pow_pos (by omega)),
    Nat.div_eq_of_lt bigEndian_lt, Nat.add_zero]

/-- **A byte string is determined by its length and its number.** -/
theorem eq_of_bigEndian_eq (hlen : as.length = bs.length) (h : bigEndian as = bigEndian bs) :
    as = bs := by
  have hdigits : as.reverse.map UInt8.toNat = bs.reverse.map UInt8.toNat :=
    Nat.ofDigits_inj_of_len_eq (by omega) (by simpa using hlen)
      (fun _ => toNat_lt_of_mem) (fun _ => toNat_lt_of_mem) h
  have hreverse := List.map_injective_iff.mpr (fun _ _ => UInt8.toNat_inj.mp) hdigits
  exact List.reverse_injective hreverse

end LivekitVoice.Radix
