import LivekitVoice.Text.Slice
import Mathlib.Algebra.Group.Nat.Defs

/-! # Numbers in decimal

Integers as texts: what `str::parse` accepts for a signed type (an optional sign and at least one
digit, if the number is in range), and what `{}` and `{:0w}` print (zeros between the sign and the
digits, up to the width).

* **`Numeral`** — a number as it is written,
* **`parseInt_eq_some_iff`** — what is parsed are the numerals in range,
* **`parseInt_formatInt`** — a printed number is read back. -/

namespace LivekitVoice.Text

open List

/-! ## Numerals -/

/-- What stands in front of the digits. -/
inductive Sign
  | unsigned
  | plus
  | minus
  deriving DecidableEq

namespace Sign

def chars : Sign → List Char
  | .unsigned => []
  | .plus => ['+']
  | .minus => ['-']

/-- The number with this sign and this absolute value. -/
def apply : Sign → Nat → Int
  | .minus, n => -n
  | _, n => n

end Sign

/-- **A number as it is written**: a sign or none, and at least one digit. -/
structure Numeral where
  sign : Sign
  digits : List Char
  ne_nil : digits ≠ []
  isDigit : ∀ c ∈ digits, c.isDigit

namespace Numeral

variable {t : Numeral} {c : Char}

/-- The text of a numeral. -/
def chars (t : Numeral) : List Char := t.sign.chars ++ t.digits

/-- The number it stands for. -/
def value (t : Numeral) : Int := t.sign.apply (Nat.ofDigitChars 10 t.digits 0)

/-- A numeral without a sign. -/
def Plain (t : Numeral) : Prop := t.sign = .unsigned

theorem Plain.chars_eq (h : t.Plain) : t.chars = t.digits := by
  rw [chars, show t.sign = .unsigned from h, Sign.chars, nil_append]

theorem Plain.value_eq (h : t.Plain) : t.value = Nat.ofDigitChars 10 t.digits 0 := by
  rw [value, show t.sign = .unsigned from h]
  rfl

theorem Plain.value_nonneg (h : t.Plain) : 0 ≤ t.value := by
  rw [h.value_eq]
  exact Int.natCast_nonneg _

theorem chars_ne_nil (t : Numeral) : t.chars ≠ [] := by
  rw [chars]
  exact append_ne_nil_of_right_ne_nil _ t.ne_nil

/-- **The characters of a numeral** are digits and signs. -/
theorem mem_chars (h : c ∈ t.chars) : c.isDigit ∨ c = '+' ∨ c = '-' := by
  rw [chars, mem_append] at h
  rcases h with hsign | hdigit
  · cases hs : t.sign with
    | unsigned => simp [hs, Sign.chars] at hsign
    | _ => simp_all [Sign.chars]
  · exact .inl (t.isDigit c hdigit)

theorem not_mem_chars (hdigit : c.isDigit = false) (hplus : c ≠ '+') (hminus : c ≠ '-') :
    c ∉ t.chars := by
  intro hc
  rcases mem_chars hc with h | h | h
  · simp [hdigit] at h
  · exact hplus h
  · exact hminus h

end Numeral

/-! ## Reading -/

/-- The sign of a text, and what follows. -/
def splitSign : List Char → Sign × List Char
  | '+' :: cs => (.plus, cs)
  | '-' :: cs => (.minus, cs)
  | cs => (.unsigned, cs)

theorem splitSign_chars (cs : List Char) : (splitSign cs).1.chars ++ (splitSign cs).2 = cs := by
  unfold splitSign
  split <;> rfl

theorem splitSign_append {sign : Sign} {ds : List Char} (hne : ds ≠ [])
    (hdigits : ∀ c ∈ ds, c.isDigit) : splitSign (sign.chars ++ ds) = (sign, ds) := by
  cases sign with
  | plus => rfl
  | minus => rfl
  | unsigned =>
    rw [Sign.chars, nil_append]
    unfold splitSign
    split
    · exact absurd (hdigits '+' mem_cons_self) (by decide)
    · exact absurd (hdigits '-' mem_cons_self) (by decide)
    · rfl

/-- **A numeral is determined by its text.** -/
theorem Numeral.eq_of_chars_eq {t t' : Numeral} (h : t.chars = t'.chars) : t = t' := by
  have hsplit : splitSign t.chars = (t.sign, t.digits) := splitSign_append t.ne_nil t.isDigit
  have hsplit' : splitSign t'.chars = (t'.sign, t'.digits) := splitSign_append t'.ne_nil t'.isDigit
  rw [h, hsplit'] at hsplit
  obtain ⟨sign, digits, hne, hdigits⟩ := t
  obtain ⟨sign', digits', hne', hdigits'⟩ := t'
  cases hsplit
  rfl

/-- **`str::parse`** for a signed integer between `lo` and `hi`. -/
def parseInt (lo hi : Int) (cs : List Char) : Option Int :=
  let parts := splitSign cs
  if parts.2 ≠ [] ∧ parts.2.all Char.isDigit then
    let n := parts.1.apply (Nat.ofDigitChars 10 parts.2 0)
    if lo ≤ n ∧ n ≤ hi then some n else none
  else none

/-- `i64`. -/
def parseI64 (cs : List Char) : Option Int :=
  parseInt (-9223372036854775808) 9223372036854775807 cs

/-- `i32`. -/
def parseI32 (cs : List Char) : Option Int := parseInt (-2147483648) 2147483647 cs

variable {lo hi n : Int} {cs : List Char}

theorem parseInt_chars (t : Numeral) (hlo : lo ≤ t.value) (hhi : t.value ≤ hi) :
    parseInt lo hi t.chars = some t.value := by
  have hsplit : splitSign t.chars = (t.sign, t.digits) := splitSign_append t.ne_nil t.isDigit
  have hall : t.digits.all Char.isDigit := all_eq_true.mpr t.isDigit
  have hvalue : t.sign.apply (Nat.ofDigitChars 10 t.digits 0) = t.value := rfl
  simp only [parseInt, hsplit, hvalue]
  rw [if_pos ⟨t.ne_nil, hall⟩, if_pos ⟨hlo, hhi⟩]

/-- **What is parsed are the numerals in range.** -/
theorem parseInt_eq_some_iff :
    parseInt lo hi cs = some n ↔ ∃ t : Numeral, t.chars = cs ∧ t.value = n ∧ lo ≤ n ∧ n ≤ hi := by
  constructor
  · intro h
    simp only [parseInt] at h
    split at h
    · next hdigits =>
      split at h
      · next hrange =>
        have hn := Option.some.inj h
        refine ⟨⟨(splitSign cs).1, (splitSign cs).2, hdigits.1,
          all_eq_true.mp hdigits.2⟩, splitSign_chars cs, hn, ?_⟩
        rwa [← hn]
      · cases h
    · cases h
  · rintro ⟨t, rfl, rfl, hlo, hhi⟩
    exact parseInt_chars t hlo hhi

/-! ## The size of a number -/

theorem toNat_of_isDigit {c : Char} (h : c.isDigit) : 48 ≤ c.toNat ∧ c.toNat ≤ 57 := by
  rw [Char.isDigit, Bool.and_eq_true, decide_eq_true_eq, decide_eq_true_eq] at h
  exact ⟨UInt32.le_iff_toNat_le.mp h.1, UInt32.le_iff_toNat_le.mp h.2⟩

theorem toNat_sub_le_of_isDigit {c : Char} (h : c.isDigit) : c.toNat - '0'.toNat ≤ 9 := by
  have hbounds := toNat_of_isDigit h
  rw [show '0'.toNat = 48 from rfl]
  omega

theorem utf8Size_of_isDigit {c : Char} (h : c.isDigit) : c.utf8Size = 1 := by
  have hbounds := toNat_of_isDigit h
  rw [Char.utf8Size_eq_one_iff]
  exact UInt32.le_iff_toNat_le.mpr (by show c.toNat ≤ 127; omega)

/-- **A number is below the power of ten of its number of digits.** -/
theorem ofDigitChars_lt (h : ∀ c ∈ cs, c.isDigit) : Nat.ofDigitChars 10 cs 0 < 10 ^ cs.length := by
  induction cs with
  | nil => simp
  | cons c cs ih =>
    have hrest := ih fun d hd => h d (mem_cons_of_mem c hd)
    have hdigit := toNat_sub_le_of_isDigit (h c mem_cons_self)
    rw [Nat.ofDigitChars_cons, Nat.ofDigitChars_eq_ofDigitChars_zero, length_cons,
      Nat.pow_succ, Nat.mul_zero, Nat.zero_add]
    generalize c.toNat - '0'.toNat = digit at hdigit
    have hstep : 10 ^ cs.length * digit ≤ 10 ^ cs.length * 9 := Nat.mul_le_mul_left _ hdigit
    omega

/-! ## Printing -/

/-- Zeros in front, up to a width. -/
def zeroPad (w : Nat) (cs : List Char) : List Char := List.replicate (w - cs.length) '0' ++ cs

/-- **`{:0w}`** of an integer; `{}` is the width zero. -/
def formatInt (w : Nat) (n : Int) : List Char :=
  if n < 0 then '-' :: zeroPad (w - 1) (Nat.toDigits 10 n.natAbs)
  else zeroPad w (Nat.toDigits 10 n.natAbs)

variable {w : Nat}

theorem ofDigitChars_zeroPad (w : Nat) (cs : List Char) :
    Nat.ofDigitChars 10 (zeroPad w cs) 0 = Nat.ofDigitChars 10 cs 0 := by
  rw [zeroPad, Nat.ofDigitChars_append, Nat.ofDigitChars_replicate_zero, Nat.mul_zero]

/-- The text of a number, with zeros in front, as a numeral. -/
def Numeral.ofInt (w : Nat) (n : Int) : Numeral where
  sign := if n < 0 then .minus else .unsigned
  digits := zeroPad (if n < 0 then w - 1 else w) (Nat.toDigits 10 n.natAbs)
  ne_nil := append_ne_nil_of_right_ne_nil _ Nat.toDigits_ne_nil
  isDigit := by
    intro c hc
    rw [zeroPad, mem_append] at hc
    rcases hc with hzero | hdigit
    · rw [eq_of_mem_replicate hzero]
      rfl
    · exact Nat.isDigit_of_mem_toDigits (by omega) (by omega) hdigit

theorem Numeral.chars_ofInt (w : Nat) (n : Int) : (ofInt w n).chars = formatInt w n := by
  unfold formatInt
  split
  · next h => simp [Numeral.chars, ofInt, h, Sign.chars]
  · next h => simp [Numeral.chars, ofInt, h, Sign.chars]

@[simp] theorem Numeral.value_ofInt (w : Nat) (n : Int) : (ofInt w n).value = n := by
  have habs : Nat.ofDigitChars 10 (ofInt w n).digits 0 = n.natAbs := by
    rw [ofInt, ofDigitChars_zeroPad, Nat.ofDigitChars_ten_toDigits]
  rw [Numeral.value, habs]
  unfold ofInt
  by_cases h : n < 0
  · simp only [h, if_true, Sign.apply]
    omega
  · simp only [h, if_false, Sign.apply]
    omega

theorem Numeral.plain_ofInt (w : Nat) (hn : 0 ≤ n) : (ofInt w n).Plain :=
  if_neg (by omega)

/-- **A printed number is read back.** -/
theorem parseInt_formatInt (w : Nat) (hlo : lo ≤ n) (hhi : n ≤ hi) :
    parseInt lo hi (formatInt w n) = some n := by
  have hvalue := Numeral.value_ofInt w n
  rw [← Numeral.chars_ofInt w n, parseInt_chars _ (by rwa [hvalue]) (by rwa [hvalue]), hvalue]

theorem length_formatInt (hw : 0 < w) (hn : 0 ≤ n) (hlt : n.natAbs < 10 ^ w) :
    (formatInt w n).length = w := by
  have hle := (Nat.length_toDigits_le_iff (by omega) hw).mpr hlt
  rw [formatInt, if_neg (by omega), zeroPad, length_append, length_replicate]
  omega

end LivekitVoice.Text
