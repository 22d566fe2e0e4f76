import LivekitVoice.Proto.Civil
import LivekitVoice.Text.Decimal

/-! # Fractions of a second

Nanoseconds as the digits after the point: three, six or nine of them are printed, one to nine are
read. The reader pads what it is given to nine bytes and parses it as an `i32`, so it takes a sign
as well.

* **`parseFraction_eq_ok_iff`**, **`pointField_eq_ok_iff`** — what is read, as a fraction and as a
  number with one,
* **`exists_fractionText_eq`** — the digits printed for some nanoseconds stand for as many. -/

namespace LivekitVoice.Proto

open List Text

/-! ## Reading -/

/-- **`parse_fraction`.** -/
def parseFraction (frac : List Char) : Except Fault Int :=
  if frac = [] ∨ 9 < byteLength frac then .error (.rejected (.fraction (.ofList frac)))
  else
    match parseI32 (frac ++ List.replicate (9 - byteLength frac) '0') with
    | some nanos => .ok nanos
    | none => .error (.rejected (.fraction (.ofList frac)))

/-- **A fraction as it is written**: a sign or none and digits, one to nine characters. -/
structure FractionText where
  sign : Sign
  digits : List Char
  isDigit : ∀ c ∈ digits, c.isDigit
  ne_nil : sign.chars ++ digits ≠ []
  length_le : (sign.chars ++ digits).length ≤ 9

namespace FractionText

variable {f : FractionText}

variable (f)

def chars : List Char := f.sign.chars ++ f.digits

/-- The digits with the zeros that are missing. -/
def padded : List Char :=
  f.digits ++ List.replicate (9 - f.chars.length) '0'

/-- The nanoseconds. -/
def nanos : Int := f.sign.apply (Nat.ofDigitChars 10 f.padded 0)

/-- Digits only. -/
def Plain : Prop := f.sign = .unsigned

theorem isDigit_padded : ∀ c ∈ f.padded, c.isDigit := by
  intro c hc
  rcases mem_append.mp hc with hdigit | hzero
  · exact f.isDigit c hdigit
  · rw [eq_of_mem_replicate hzero]
    rfl

theorem length_padded : f.sign.chars.length + f.padded.length = 9 := by
  have hle := f.length_le
  have hlength : f.chars.length = f.sign.chars.length + f.digits.length := length_append
  rw [length_append] at hle
  rw [padded, length_append, length_replicate]
  omega

theorem sign_length_le : f.sign.chars.length ≤ 1 := by
  cases f.sign <;> simp [Sign.chars]

/-- **There are less than a billion nanoseconds.** -/
theorem ofDigitChars_padded_lt : Nat.ofDigitChars 10 f.padded 0 < 1000000000 := by
  have hlt := ofDigitChars_lt f.isDigit_padded
  have hpow : 10 ^ f.padded.length ≤ 10 ^ 9 :=
    Nat.pow_le_pow_right (by omega) (by have := f.length_padded; omega)
  omega

theorem nanos_bounds : -1000000000 < f.nanos ∧ f.nanos < 1000000000 := by
  have hlt := f.ofDigitChars_padded_lt
  rw [nanos]
  cases f.sign <;> simp only [Sign.apply] <;> omega

variable {f}

theorem Plain.nanos_nonneg (h : f.Plain) : 0 ≤ f.nanos := by
  rw [nanos, show f.sign = .unsigned from h]
  exact Int.natCast_nonneg _

/-- The padded text, as a numeral. -/
def toNumeral (f : FractionText) : Numeral where
  sign := f.sign
  digits := f.padded
  ne_nil := by
    intro hnil
    have htotal := f.length_padded
    have hsign := f.sign_length_le
    rw [hnil, length_nil] at htotal
    omega
  isDigit := f.isDigit_padded

/-- **The characters of a fraction** are digits and signs. -/
theorem mem_chars {c : Char} (h : c ∈ f.chars) : c.isDigit ∨ c = '+' ∨ c = '-' := by
  have hpadded : c ∈ f.toNumeral.chars := by
    rcases mem_append.mp h with hsign | hdigit
    · exact mem_append_left _ hsign
    · exact mem_append_right _ (mem_append_left _ hdigit)
  exact Numeral.mem_chars hpadded

theorem utf8Size_chars : ∀ c ∈ f.chars, c.utf8Size = 1 := by
  intro c hc
  rcases mem_chars hc with hdigit | rfl | rfl
  · exact utf8Size_of_isDigit hdigit
  · rfl
  · rfl

theorem splitSign_chars_append (zeros : List Char) :
    splitSign (f.chars ++ zeros) = (f.sign, f.digits ++ zeros) := by
  rw [chars]
  cases hsign : f.sign with
  | plus => rfl
  | minus => rfl
  | unsigned =>
    have hne := f.ne_nil
    rw [hsign, Sign.chars, nil_append] at hne
    rw [Sign.chars, nil_append]
    cases hdigits : f.digits with
    | nil => exact absurd hdigits hne
    | cons d ds =>
      have hd := f.isDigit d (by rw [hdigits]; exact mem_cons_self)
      rw [cons_append]
      unfold splitSign
      split
      · next h =>
        simp [(List.cons.inj h).1] at hd
      · next h =>
        simp [(List.cons.inj h).1] at hd
      · rfl

/-- **A fraction is determined by its text.** -/
theorem eq_of_chars_eq {f f' : FractionText} (h : f.chars = f'.chars) : f = f' := by
  have hsplit := splitSign_chars_append (f := f) []
  have hsplit' := splitSign_chars_append (f := f') []
  rw [h, hsplit', append_nil, append_nil] at hsplit
  obtain ⟨sign, digits, hdigits, hne, hle⟩ := f
  obtain ⟨sign', digits', hdigits', hne', hle'⟩ := f'
  cases hsplit
  rfl

end FractionText

theorem parseFraction_chars (f : FractionText) : parseFraction f.chars = .ok f.nanos := by
  have hbytes : byteLength f.chars = f.chars.length := byteLength_eq_length f.utf8Size_chars
  have hne : f.chars ≠ [] := f.ne_nil
  have hle : f.chars.length ≤ 9 := f.length_le
  have htext : f.chars ++ List.replicate (9 - f.chars.length) '0' = f.toNumeral.chars := by
    rw [FractionText.chars, append_assoc]
    rfl
  have hbounds := f.nanos_bounds
  have hparse : parseI32 f.toNumeral.chars = some f.nanos :=
    parseInt_chars f.toNumeral (show -2147483648 ≤ f.nanos by omega)
      (show f.nanos ≤ 2147483647 by omega)
  rw [parseFraction, hbytes, if_neg (by simp only [hne, false_or]; omega), htext, hparse]

variable {cs : List Char} {n nanos : Int}

theorem exists_fractionText {k : Nat} {t : Numeral} (hne : cs ≠ []) (hle : byteLength cs ≤ 9)
    (h : t.chars = cs ++ List.replicate k '0') :
    ∃ f : FractionText, f.chars = cs := by
  have hmem : ∀ c ∈ cs, c.isDigit ∨ c = '+' ∨ c = '-' := fun c hc =>
    Numeral.mem_chars (by rw [h]; exact mem_append_left _ hc)
  have hbytes : byteLength cs = cs.length := byteLength_eq_length fun c hc => by
    rcases hmem c hc with hdigit | rfl | rfl
    · exact utf8Size_of_isDigit hdigit
    · rfl
    · rfl
  have hsigned := splitSign_chars cs
  -- behind the sign of the numeral come digits only
  have hdigits : ∀ c ∈ (splitSign cs).2, c.isDigit := by
    have hnumeral : splitSign t.chars = (t.sign, t.digits) :=
      splitSign_append t.ne_nil t.isDigit
    rw [h] at hnumeral
    have hrest : (splitSign (cs ++ List.replicate k '0')).2 =
        (splitSign cs).2 ++ List.replicate k '0' := by
      cases cs with
      | nil => exact absurd rfl hne
      | cons c cs =>
        rw [cons_append]
        unfold splitSign
        split <;> simp_all
    rw [hnumeral] at hrest
    intro c hc
    have hmem : c ∈ (splitSign cs).2 ++ List.replicate k '0' := mem_append_left _ hc
    rw [← hrest] at hmem
    exact t.isDigit c hmem
  exact ⟨⟨(splitSign cs).1, (splitSign cs).2, hdigits, by rw [hsigned]; exact hne,
    by rw [hsigned, ← hbytes]; exact hle⟩, hsigned⟩

/-- **What is read.** -/
theorem parseFraction_eq_ok_iff :
    parseFraction cs = .ok n ↔ ∃ f : FractionText, f.chars = cs ∧ f.nanos = n := by
  constructor
  · intro h
    have hread := h
    unfold parseFraction at h
    split at h
    · cases h
    · next hlength =>
      rw [not_or, Nat.not_lt] at hlength
      split at h
      · next nanos hparse =>
        obtain ⟨t, ht, -⟩ := parseInt_eq_some_iff.mp hparse
        obtain ⟨f, rfl⟩ := exists_fractionText hlength.1 hlength.2 ht
        rw [parseFraction_chars] at hread
        exact ⟨f, rfl, Except.ok.inj hread⟩
      · cases h
  · rintro ⟨f, rfl, rfl⟩
    exact parseFraction_chars f

/-! ## Numbers with a fraction -/

variable (bad : WktError)

/-- A number, or an error. -/
def numberField (cs : List Char) : Except Fault Int :=
  match parseI64 cs with
  | some n => .ok n
  | none => .error (.rejected bad)

/-- The number before the point, and the nanoseconds behind it; those are read first. -/
def pointField (cs : List Char) : Except Fault (Int × Int) :=
  match splitOnce '.' cs with
  | some (secs, frac) => do
      let nanos ← parseFraction frac
      let number ← numberField bad secs
      pure (number, nanos)
  | none => do
      let number ← numberField bad cs
      pure (number, 0)

/-- A numeral whose number fits an `i64`. -/
def Fits (t : Numeral) : Prop := InI64 t.value

/-- **A field is read** if it is a numeral that fits. -/
theorem numberField_eq_ok_iff {bad : WktError} :
    numberField bad cs = .ok n ↔ ∃ t : Numeral, t.chars = cs ∧ t.value = n ∧ Fits t := by
  have hfield : numberField bad cs = .ok n ↔ parseI64 cs = some n := by
    unfold numberField
    cases parseI64 cs <;> simp
  rw [hfield, parseI64, parseInt_eq_some_iff]
  constructor
  all_goals
    rintro ⟨t, hchars, rfl, hlo, hhi⟩
    exact ⟨t, hchars, rfl, hlo, hhi⟩

theorem numberField_ne_overflow (cs : List Char) : numberField bad cs ≠ .error .overflow := by
  unfold numberField
  cases parseI64 cs <;> simp

theorem pointField_ne_overflow (cs : List Char) : pointField bad cs ≠ .error .overflow := by
  unfold pointField
  split
  · -- a fraction is read or rejected
    refine bind_ne_overflow ?_ fun _ =>
      bind_ne_overflow (numberField_ne_overflow _ _) fun _ => pure_ne_overflow _
    fun_cases parseFraction <;> simp
  · exact bind_ne_overflow (numberField_ne_overflow _ _) fun _ => pure_ne_overflow _

/-- The text of a fraction, with its point. -/
def fracChars : Option FractionText → List Char
  | none => []
  | some f => '.' :: f.chars

/-- The nanoseconds of a fraction. -/
def fracNanos : Option FractionText → Int
  | none => 0
  | some f => f.nanos

theorem fracNanos_bounds {frac : Option FractionText} (h : ∀ f ∈ frac, f.Plain) :
    0 ≤ fracNanos frac ∧ fracNanos frac < 1000000000 := by
  cases frac with
  | none => exact ⟨by decide, by decide⟩
  | some f => exact ⟨(h f rfl).nanos_nonneg, f.nanos_bounds.2⟩

theorem mem_fracChars {frac : Option FractionText} {c : Char} (h : c ∈ fracChars frac) :
    c = '.' ∨ c.isDigit ∨ c = '+' ∨ c = '-' := by
  cases frac with
  | none => simp [fracChars] at h
  | some f =>
    rcases mem_cons.mp h with hpoint | hc
    · exact .inl hpoint
    · exact .inr (FractionText.mem_chars hc)

theorem point_not_mem_chars (t : Numeral) : '.' ∉ t.chars :=
  Numeral.not_mem_chars (by decide) (by decide) (by decide)

theorem splitOnce_point (t : Numeral) (frac : Option FractionText) :
    splitOnce '.' (t.chars ++ fracChars frac) = frac.map fun f => (t.chars, f.chars) := by
  cases frac with
  | none =>
    rw [fracChars, append_nil, Option.map_none, splitOnce_eq_none_iff]
    exact point_not_mem_chars t
  | some f => exact splitOnce_eq_some_iff.mpr ⟨rfl, point_not_mem_chars t⟩

/-- **What is read as a number with a fraction.** -/
theorem pointField_eq_ok_iff {bad : WktError} {s : Int} :
    pointField bad cs = .ok (s, n) ↔
      ∃ (t : Numeral) (frac : Option FractionText), cs = t.chars ++ fracChars frac ∧ Fits t ∧
        t.value = s ∧ fracNanos frac = n := by
  constructor
  · intro h
    unfold pointField at h
    split at h
    · next secs frac hcut =>
      simp only [bind_eq_ok_iff, numberField_eq_ok_iff, parseFraction_eq_ok_iff] at h
      obtain ⟨_, ⟨f, rfl, rfl⟩, _, ⟨t, rfl, rfl, hfits⟩, ⟨⟩⟩ := h
      exact ⟨t, some f, (splitOnce_eq_some_iff.mp hcut).1, hfits, rfl, rfl⟩
    · simp only [bind_eq_ok_iff, numberField_eq_ok_iff] at h
      obtain ⟨_, ⟨t, rfl, rfl, hfits⟩, ⟨⟩⟩ := h
      exact ⟨t, none, (append_nil _).symm, hfits, rfl, rfl⟩
  · rintro ⟨t, frac, rfl, hfits, rfl, rfl⟩
    unfold pointField
    rw [splitOnce_point]
    cases frac with
    | none =>
      simp only [Option.map_none, fracChars, append_nil, bind_eq_ok_iff,
        numberField_eq_ok_iff]
      exact ⟨_, ⟨t, rfl, rfl, hfits⟩, rfl⟩
    | some f =>
      simp only [Option.map_some, bind_eq_ok_iff, numberField_eq_ok_iff,
        parseFraction_eq_ok_iff]
      exact ⟨_, ⟨f, rfl, rfl⟩, _, ⟨t, rfl, rfl, hfits⟩, rfl⟩

/-! ## Printing -/

/-- The digits of some nanoseconds: three if these are milliseconds, six if they are microseconds,
otherwise nine. -/
def fractionDigits (nanos : Int) : List Char :=
  if nanos.tmod 1000000 = 0 then formatInt 3 (nanos.tdiv 1000000)
  else if nanos.tmod 1000 = 0 then formatInt 6 (nanos.tdiv 1000)
  else formatInt 9 (nanos.tdiv 1)

/-- **`format_fraction`.** -/
def formatFraction (nanos : Int) : List Char := '.' :: fractionDigits nanos

theorem exists_fractionText_digits {w k : Nat} (hw : 0 < w) (hwk : w + k = 9) (h0 : 0 ≤ nanos)
    (hlt : nanos < 1000000000) (hmod : nanos % (10 ^ k : Nat) = 0) :
    ∃ f : FractionText, f.Plain ∧ f.chars = formatInt w (nanos / (10 ^ k : Nat)) ∧
      f.nanos = nanos := by
  have hpow : (10 ^ w : Nat) * 10 ^ k = 1000000000 := by
    rw [← Nat.pow_add, hwk]
  have hkpos : (0 : Int) < (10 ^ k : Nat) := by exact_mod_cast Nat.pow_pos (by omega)
  obtain ⟨q, hq⟩ : ∃ q : Nat, nanos / (10 ^ k : Nat) = q :=
    ⟨_, (Int.toNat_of_nonneg (Int.ediv_nonneg h0 hkpos.le)).symm⟩
  have hnanos : nanos = q * (10 ^ k : Nat) := by
    rw [← hq]
    exact (Int.ediv_mul_cancel (Int.dvd_of_emod_eq_zero hmod)).symm
  have hqlt : q < 10 ^ w := by
    have hprod : q * 10 ^ k < 10 ^ w * 10 ^ k := by
      rw [hpow]
      exact_mod_cast hnanos ▸ hlt
    exact Nat.lt_of_mul_lt_mul_right hprod
  have hlength : (formatInt w q).length = w := length_formatInt hw (by omega) (by simpa using hqlt)
  have hplain : (Numeral.ofInt w q).Plain := Numeral.plain_ofInt w (by omega)
  have hchars : (Numeral.ofInt w q).digits = formatInt w q := by
    rw [← hplain.chars_eq, Numeral.chars_ofInt]
  have hvalue : Nat.ofDigitChars 10 (Numeral.ofInt w q).digits 0 = q := by
    have hcast := hplain.value_eq
    rw [Numeral.value_ofInt] at hcast
    exact_mod_cast hcast.symm
  refine ⟨⟨.unsigned, (Numeral.ofInt w q).digits, (Numeral.ofInt w q).isDigit,
    (Numeral.ofInt w q).ne_nil, ?_⟩, rfl, ?_, ?_⟩
  · rw [Sign.chars, nil_append, hchars, hlength]
    omega
  · rw [hq]
    exact hchars
  · have hzeros : 9 - ([] ++ (Numeral.ofInt w q).digits).length = k := by
      rw [nil_append, hchars, hlength]
      omega
    simp only [FractionText.nanos, FractionText.padded, FractionText.chars, Sign.chars, Sign.apply]
    rw [hzeros, Nat.ofDigitChars_append, hvalue, Nat.ofDigitChars_replicate_zero, hnanos]
    push_cast
    exact Int.mul_comm _ _

/-- **The digits printed for some nanoseconds** are a fraction of as many. -/
theorem exists_fractionText_eq (h0 : 0 ≤ nanos) (hlt : nanos < 1000000000) :
    ∃ f : FractionText, f.Plain ∧ f.chars = fractionDigits nanos ∧ f.nanos = nanos := by
  unfold fractionDigits
  rw [Int.tmod_eq_emod_of_nonneg h0, Int.tmod_eq_emod_of_nonneg h0,
    Int.tdiv_eq_ediv_of_nonneg h0, Int.tdiv_eq_ediv_of_nonneg h0, Int.tdiv_eq_ediv_of_nonneg h0]
  split
  · next hmilli => exact exists_fractionText_digits (k := 6) (by omega) rfl h0 hlt hmilli
  · split
    · next hmicro =>
      exact exists_fractionText_digits (k := 3) (by omega) rfl h0 hlt hmicro
    · exact exists_fractionText_digits (k := 0) (by omega) rfl h0 hlt (Int.emod_one nanos)

theorem exists_frac (h : 0 ≤ nanos) (h' : nanos < 1000000000) :
    ∃ frac : Option FractionText, (∀ f ∈ frac, f.Plain) ∧ fracNanos frac = nanos ∧
      fracChars frac = if nanos = 0 then [] else formatFraction nanos := by
  by_cases hzero : nanos = 0
  · exact ⟨none, nofun, hzero.symm, by rw [if_pos hzero]; rfl⟩
  · obtain ⟨f, hplain, hchars, hnanos⟩ := exists_fractionText_eq h h'
    refine ⟨some f, ?_, hnanos, ?_⟩
    · intro f' hf'
      cases hf'
      exact hplain
    · rw [if_neg hzero, fracChars, hchars]
      rfl

end LivekitVoice.Proto
