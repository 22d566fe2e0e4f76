import LivekitVoice.Proto.Timestamp
import Mathlib.Control.Monad.Basic

/-! # Durations as JSON strings

`format_duration` and `parse_duration` of the protobuf `Duration`. The parser takes off one minus
and leaves the rest to `i64` and to `parse_fraction`, which read a sign of their own.

* **`parseDuration_formatDuration`** — a valid duration is read back from its text,
* **`acceptsValidDuration_iff`** — on which strings the parser accepts valid durations only,
* **`accepts_valid_iff`** — the same for timestamps and durations. -/

namespace LivekitVoice.Proto

open Text

/-- `google.protobuf.Duration`. -/
structure Duration where
  seconds : Int
  nanos : Int
  deriving DecidableEq

/-- Ten thousand years. -/
def maxDurationSeconds : Int := 315576000000

/-- **A valid duration**: about ten thousand years at most, and the two parts do not have opposite
signs. -/
structure Duration.Valid (d : Duration) : Prop where
  seconds : -maxDurationSeconds ≤ d.seconds ∧ d.seconds ≤ maxDurationSeconds
  nanos : -1000000000 < d.nanos ∧ d.nanos < 1000000000
  signs : ¬(0 < d.seconds ∧ d.nanos < 0) ∧ ¬(d.seconds < 0 ∧ 0 < d.nanos)

/-! ## The parser -/

/-- The minus in front, if there is one. -/
def durationSign : List Char → Int × List Char
  | '-' :: rest => (-1, rest)
  | cs => (1, cs)

/-- `as i32`. -/
def asI32 (n : Int) : Int := n.bmod 4294967296

/-- **`parse_duration`.** -/
def parseDuration (value : String) : Except Fault Duration :=
  let (sign, rest) := durationSign value.toList
  match stripSuffix 's' rest with
  | none => .error (.rejected (.duration value ": missing 's' suffix"))
  | some rest => do
      let (secs, nanos) ← pointField (.duration value "") rest
      let seconds ← i64 (sign * secs)
      pure ⟨seconds, asI32 (sign * nanos)⟩

/-- **A duration as it is written.** A single minus is the one that is taken off. -/
structure DurationText where
  negative : Bool
  secs : Numeral
  frac : Option FractionText
  not_minus : negative = false → secs.sign ≠ .minus

namespace DurationText

variable (t : DurationText)

def sign : Int := if t.negative then -1 else 1

/-- What is left when the minus is off. -/
def magnitude : List Char := t.secs.chars ++ fracChars t.frac ++ ['s']

def chars : List Char := if t.negative then '-' :: t.magnitude else t.magnitude

def Fits : Prop := Proto.Fits t.secs

variable {t : DurationText}

theorem sign_eq (t : DurationText) : t.sign = 1 ∨ t.sign = -1 := by
  unfold sign
  split
  · exact .inr rfl
  · exact .inl rfl

theorem durationSign_chars (t : DurationText) : durationSign t.chars = (t.sign, t.magnitude) := by
  unfold chars sign
  cases hneg : t.negative with
  | true => rfl
  | false =>
    -- the first character is that of the number, which is no minus
    obtain ⟨c, cs, hc⟩ := List.exists_cons_of_ne_nil (Numeral.chars_ne_nil t.secs)
    have hne : c ≠ '-' := by
      rintro rfl
      exact t.not_minus hneg (minus_mem_chars_iff.mp (by rw [hc]; exact List.mem_cons_self))
    have hmagnitude : t.magnitude = c :: (cs ++ fracChars t.frac ++ ['s']) := by
      rw [magnitude, hc]
      rfl
    rw [if_neg (by decide), if_neg (by decide), hmagnitude]
    unfold durationSign
    split
    · next h =>
      injection h with hhead
      exact absurd hhead hne
    · rfl

theorem nanos_bounds (frac : Option FractionText) :
    -1000000000 < fracNanos frac ∧ fracNanos frac < 1000000000 := by
  cases frac with
  | none => exact ⟨by decide, by decide⟩
  | some f => exact f.nanos_bounds

theorem asI32_nanos (t : DurationText) :
    asI32 (t.sign * fracNanos t.frac) = t.sign * fracNanos t.frac := by
  obtain ⟨hlow, hhigh⟩ := nanos_bounds t.frac
  rcases t.sign_eq with hsign | hsign
  all_goals
    rw [hsign]
    exact Int.bmod_eq_of_le (by omega) (by omega)

/-- **`parse_duration` on a text it can take apart.** -/
theorem parseDuration_eq (hfits : t.Fits) {value : String} (hvalue : t.chars = value.toList) :
    parseDuration value =
      (i64 (t.sign * t.secs.value)).map fun seconds => ⟨seconds, t.sign * fracNanos t.frac⟩ := by
  have hpoint : pointField (.duration value "") (t.secs.chars ++ fracChars t.frac) =
      .ok (t.secs.value, fracNanos t.frac) :=
    pointField_eq_ok_iff.mpr ⟨t.secs, t.frac, rfl, hfits, rfl, rfl⟩
  unfold parseDuration
  rw [← hvalue, t.durationSign_chars]
  have hsuffix : stripSuffix 's' t.magnitude = some (t.secs.chars ++ fracChars t.frac) :=
    stripSuffix_eq_some_iff.mpr rfl
  simp only [hsuffix, hpoint, ok_bind, t.asI32_nanos]
  cases i64 (t.sign * t.secs.value) <;> rfl

end DurationText

theorem exists_text_of_durationSign {cs rest : List Char} {secs : Numeral}
    {frac : Option FractionText} (hstrip : stripSuffix 's' (durationSign cs).2 = some rest)
    (hrest : rest = secs.chars ++ fracChars frac) :
    ∃ t : DurationText, t.chars = cs ∧ t.secs = secs ∧ t.frac = frac := by
  have hmagnitude := stripSuffix_eq_some_iff.mp hstrip
  rw [hrest] at hmagnitude
  unfold durationSign at hmagnitude
  split at hmagnitude
  · next rest' =>
    exact ⟨⟨true, secs, frac, nofun⟩, congrArg (List.cons '-') hmagnitude.symm, rfl, rfl⟩
  · next hnot =>
    refine ⟨⟨false, secs, frac, fun _ hminus => ?_⟩, hmagnitude.symm, rfl, rfl⟩
    have hchars : secs.chars = '-' :: secs.digits := by
      rw [Numeral.chars, hminus]
      rfl
    rw [hchars] at hmagnitude
    exact hnot _ hmagnitude

/-- **What is accepted, and what overflows**, can be taken apart. -/
theorem exists_text_of_parseDuration {value : String}
    (h : (∃ d, parseDuration value = .ok d) ∨ parseDuration value = .error .overflow) :
    ∃ t : DurationText, t.chars = value.toList ∧ t.Fits := by
  unfold parseDuration at h
  simp only at h
  cases hstrip : stripSuffix 's' (durationSign value.toList).2 with
  | none => simp [hstrip] at h
  | some rest =>
    simp only [hstrip] at h
    have hpoint : ∃ r, pointField (.duration value "") rest = .ok r := by
      rcases h with ⟨d, hok⟩ | hoverflow
      · obtain ⟨r, hr, -⟩ := bind_eq_ok_iff.mp hok
        exact ⟨r, hr⟩
      · rcases bind_eq_error_iff.mp hoverflow with hfirst | ⟨r, hr, -⟩
        · exact absurd hfirst (pointField_ne_overflow _ _)
        · exact ⟨r, hr⟩
    obtain ⟨⟨s, n⟩, hr⟩ := hpoint
    obtain ⟨secs, frac, hrest, hfits, -, -⟩ := pointField_eq_ok_iff.mp hr
    obtain ⟨t, ht, rfl, rfl⟩ := exists_text_of_durationSign hstrip hrest
    exact ⟨t, ht, hfits⟩

/-! ## The printer -/

/-- **`format_duration`.** -/
def formatDuration (seconds nanos : Int) : Except Fault String :=
  if nanos = 0 then pure (.ofList (formatInt 0 seconds ++ ['s']))
  else do
    let sign := if seconds < 0 ∨ seconds = 0 ∧ nanos < 0 then ['-'] else []
    let secs ← i64 seconds.natAbs
    let n : Int := nanos.natAbs
    pure (.ofList (sign ++ (formatInt 0 secs ++ '.' :: fractionDigits n ++ ['s'])))

/-- The text of a duration, with the minus in front. -/
def DurationText.ofNumbers (negative : Bool) (secs : Nat) (frac : Option FractionText) :
    DurationText where
  negative := negative
  secs := .ofInt 0 secs
  frac := frac
  not_minus := by
    intro _ hminus
    have hplain : (Numeral.ofInt 0 secs).sign = .unsigned := Numeral.plain_ofInt 0 (by omega)
    rw [hplain] at hminus
    cases hminus

theorem formatInt_neg {n : Int} (h : n < 0) : formatInt 0 n = '-' :: formatInt 0 n.natAbs := by
  rw [formatInt, if_pos h, formatInt, if_neg (by omega), Int.natAbs_natCast]

/-- **A valid duration is printed as a text** that means it. -/
theorem formatDuration_spec {d : Duration} (hvalid : d.Valid) :
    ∃ t : DurationText, formatDuration d.seconds d.nanos = .ok (.ofList t.chars) ∧ t.Fits ∧
      t.sign * t.secs.value = d.seconds ∧ t.sign * fracNanos t.frac = d.nanos := by
  obtain ⟨⟨hslow, hshigh⟩, ⟨hnlow, hnhigh⟩, hposneg, hnegpos⟩ := hvalid
  unfold maxDurationSeconds at hslow hshigh
  obtain ⟨frac, -, hnanos, hchars⟩ := @exists_frac d.nanos.natAbs (by omega) (by omega)
  have habs : ((d.nanos.natAbs : Nat) : Int) = 0 ↔ d.nanos = 0 := by omega
  simp only [habs] at hchars
  -- the sign in front is that of the seconds, or of the nanoseconds if there are no seconds
  obtain ⟨negative, hnegative⟩ :
      ∃ negative : Bool, negative = decide (d.seconds < 0 ∨ d.seconds = 0 ∧ d.nanos < 0) := ⟨_, rfl⟩
  refine ⟨.ofNumbers negative d.seconds.natAbs frac, ?_, ?_, ?_, ?_⟩
  · unfold formatDuration
    by_cases hzero : d.nanos = 0
    · rw [if_pos hzero] at hchars ⊢
      simp only [DurationText.chars, DurationText.magnitude, DurationText.ofNumbers, hchars,
        Numeral.chars_ofInt, List.append_nil]
      by_cases hneg : d.seconds < 0
      · rw [hnegative, decide_eq_true (.inl hneg), if_pos rfl, formatInt_neg hneg]
        rfl
      · rw [hnegative, decide_eq_false (by omega), if_neg (by decide),
          Int.natAbs_of_nonneg (by omega)]
        rfl
    · rw [if_neg hzero] at hchars ⊢
      rw [i64_bind ⟨by omega, by omega⟩]
      simp only [DurationText.chars, DurationText.magnitude, DurationText.ofNumbers, hchars,
        Numeral.chars_ofInt, hnegative, decide_eq_true_eq]
      split <;> rfl
  · show Proto.Fits (Numeral.ofInt 0 _)
    rw [Proto.Fits, Numeral.value_ofInt]
    exact ⟨by omega, by omega⟩
  · simp only [DurationText.sign, DurationText.ofNumbers, Numeral.value_ofInt, hnegative,
      decide_eq_true_eq]
    split <;> omega
  · simp only [DurationText.sign, DurationText.ofNumbers, hnanos, hnegative, decide_eq_true_eq]
    split <;> omega

/-- **A valid duration is read back from its text.** -/
theorem parseDuration_formatDuration {d : Duration} (hvalid : d.Valid) :
    ∃ text, formatDuration d.seconds d.nanos = .ok text ∧ parseDuration text = .ok d := by
  obtain ⟨t, htext, hfits, hseconds, hnanos⟩ := formatDuration_spec hvalid
  obtain ⟨hlow, hhigh⟩ := hvalid.seconds
  unfold maxDurationSeconds at hlow hhigh
  refine ⟨_, htext, ?_⟩
  rw [t.parseDuration_eq hfits String.toList_ofList.symm, hseconds, hnanos,
    i64_eq_ok_iff.mpr ⟨⟨by omega, by omega⟩, rfl⟩]
  rfl

/-- Half a second before. -/
theorem parseDuration_formatDuration_negative :
    ∃ text, formatDuration 0 (-500000000) = .ok text ∧
      parseDuration text = .ok ⟨0, -500000000⟩ :=
  parseDuration_formatDuration (d := ⟨0, -500000000⟩)
    ⟨by decide, by decide, by decide⟩

/-! ## What is accepted -/

/-- **The parser does its duty on a string**: it does not overflow, and what it accepts is a valid
duration. -/
def AcceptsValidDuration (value : String) : Prop :=
  parseDuration value ≠ .error .overflow ∧ ∀ d, parseDuration value = .ok d → d.Valid

/-- **A text that is in order**: the number of seconds is not too large, and it does not have the
opposite sign of the fraction behind it. -/
structure DurationText.InOrder (t : DurationText) : Prop where
  secs : -maxDurationSeconds ≤ t.secs.value ∧ t.secs.value ≤ maxDurationSeconds
  signs : ¬(0 < t.secs.value ∧ fracNanos t.frac < 0) ∧ ¬(t.secs.value < 0 ∧ 0 < fracNanos t.frac)

theorem DurationText.inOrder_iff_valid (t : DurationText) :
    t.InOrder ↔ Duration.Valid ⟨t.sign * t.secs.value, t.sign * fracNanos t.frac⟩ := by
  have hnanos := nanos_bounds t.frac
  constructor
  · rintro ⟨hsecs, hsigns⟩
    rcases t.sign_eq with hsign | hsign
    · rw [hsign]
      exact ⟨by simpa using hsecs, by simpa using hnanos, by simpa using hsigns⟩
    · rw [hsign]
      refine ⟨?_, ?_, ?_⟩
      · show -maxDurationSeconds ≤ -1 * t.secs.value ∧ -1 * t.secs.value ≤ maxDurationSeconds
        omega
      · show -1000000000 < -1 * fracNanos t.frac ∧ -1 * fracNanos t.frac < 1000000000
        omega
      · show ¬(0 < -1 * t.secs.value ∧ -1 * fracNanos t.frac < 0) ∧
          ¬(-1 * t.secs.value < 0 ∧ 0 < -1 * fracNanos t.frac)
        omega
  · rintro ⟨hsecs, -, hsigns⟩
    rcases t.sign_eq with hsign | hsign
    · rw [hsign] at hsecs hsigns
      exact ⟨by simpa using hsecs, by simpa using hsigns⟩
    · rw [hsign] at hsecs hsigns
      simp only at hsecs hsigns
      exact ⟨by omega, by omega⟩

/-- **The strings on which the parser does its duty** are those it cannot take apart and those that
are in order. -/
theorem acceptsValidDuration_iff (value : String) :
    AcceptsValidDuration value ↔
      ∀ t : DurationText, t.chars = value.toList → t.Fits → t.InOrder := by
  constructor
  · rintro ⟨hoverflow, haccepted⟩ t htext hfits
    have hparse := t.parseDuration_eq hfits htext
    rw [t.inOrder_iff_valid]
    by_cases hin : InI64 (t.sign * t.secs.value)
    · rw [i64_eq_ok_iff.mpr ⟨hin, rfl⟩] at hparse
      exact haccepted _ hparse
    · rw [i64, if_neg hin] at hparse
      exact absurd hparse hoverflow
  · intro horder
    have hparse {t : DurationText} (htext : t.chars = value.toList) (hfits : t.Fits) :
        parseDuration value = .ok ⟨t.sign * t.secs.value, t.sign * fracNanos t.frac⟩ := by
      obtain ⟨hlow, hhigh⟩ := ((t.inOrder_iff_valid).mp (horder t htext hfits)).seconds
      simp only [maxDurationSeconds] at hlow hhigh
      rw [t.parseDuration_eq hfits htext, i64_eq_ok_iff.mpr ⟨⟨by omega, by omega⟩, rfl⟩]
      rfl
    constructor
    · intro hoverflow
      obtain ⟨t, htext, hfits⟩ := exists_text_of_parseDuration (.inr hoverflow)
      simp [hparse htext hfits] at hoverflow
    · intro d haccepted
      obtain ⟨t, htext, hfits⟩ := exists_text_of_parseDuration (.inl ⟨d, haccepted⟩)
      rw [hparse htext hfits] at haccepted
      cases haccepted
      exact (t.inOrder_iff_valid).mp (horder t htext hfits)

/-- **The strings on which both parsers accept valid values only.** -/
theorem accepts_valid_iff (value : String) :
    (AcceptsValidTimestamp value ↔
      ∀ t : TimestampText, t.chars = value.toList → t.Fits → t.InOrder) ∧
    (AcceptsValidDuration value ↔
      ∀ t : DurationText, t.chars = value.toList → t.Fits → t.InOrder) :=
  ⟨acceptsValidTimestamp_iff value, acceptsValidDuration_iff value⟩

/-- A year that overflows, a day and a time that do not exist, nanoseconds below zero, parts of
opposite signs, and two minus signs that overflow. -/
theorem accepts_invalid :
    parseTimestamp "9223372036854775807-01-01T00:00:00Z" = .error .overflow ∧
    parseTimestamp "2023-02-30T25:61:61Z" = .ok ⟨1677808921, 0⟩ ∧
    parseTimestamp "2023-01-01T00:00:00.-5Z" = .ok ⟨1672531200, -50000000⟩ ∧
    parseDuration "5.-5s" = .ok ⟨5, -50000000⟩ ∧
    parseDuration "--9223372036854775808s" = .error .overflow := by
  decide +kernel

end LivekitVoice.Proto
