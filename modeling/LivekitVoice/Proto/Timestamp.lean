import LivekitVoice.Proto.TimestampText

/-! # Timestamps as JSON strings

`format_timestamp` and `parse_timestamp` of the protobuf `Timestamp`.

* **`TimestampFields.Valid.seconds_eq`** — what the arithmetic gives on a date and a time whose
  seconds fit,
* **`parseTimestamp_formatTimestamp`** — a valid timestamp is read back from its text,
* **`acceptsValidTimestamp_iff`** — on which strings the parser accepts valid timestamps only. -/

namespace LivekitVoice.Proto

open Calendar Text

/-- `google.protobuf.Timestamp`. -/
structure Timestamp where
  seconds : Int
  nanos : Int
  deriving DecidableEq

/-! ## The arithmetic -/

/-- The part of `parse_timestamp` that computes. -/
def TimestampFields.seconds (f : TimestampFields) : Except Fault Int := do
  let oh ← i64 (f.offsetHour * 3600)
  let om ← i64 (f.offsetMinute * 60)
  let offset ← i64 (oh + om)
  let days ← daysFromCivil f.year f.month f.day
  let total ← i64 (days * 86400)
  let hours ← i64 (f.hour * 3600)
  let total ← i64 (total + hours)
  let minutes ← i64 (f.minute * 60)
  let total ← i64 (total + minutes)
  let total ← i64 (total + f.second)
  let shift ← i64 (f.offsetSign * offset)
  i64 (total - shift)

/-- **`parse_timestamp`.** -/
def parseTimestamp (value : String) : Except Fault Timestamp := do
  let fields ← timestampFields value
  let seconds ← fields.seconds
  pure ⟨seconds, fields.nanos⟩

namespace TimestampFields

/-- The seconds from 1970 to the date and time, as they are written. -/
def localSeconds (f : TimestampFields) : Int :=
  dayNumber f.year f.month f.day * 86400 + f.hour * 3600 + f.minute * 60 + f.second

/-- The absolute value of the offset. -/
def offsetSeconds (f : TimestampFields) : Int := f.offsetHour * 3600 + f.offsetMinute * 60

/-- **The time that is meant.** -/
def instant (f : TimestampFields) : Int := f.localSeconds - f.offsetSign * f.offsetSeconds

/-- **The numbers of a calendar date and of a time of day.** -/
structure Valid (f : TimestampFields) : Prop where
  year_nonneg : 0 ≤ f.year
  isDate : IsDate f.year f.month f.day
  hour : 0 ≤ f.hour ∧ f.hour < 24
  minute : 0 ≤ f.minute ∧ f.minute < 60
  second : 0 ≤ f.second ∧ f.second < 60
  nanos : 0 ≤ f.nanos ∧ f.nanos < 1000000000
  offset : (f.offsetSign = 1 ∨ f.offsetSign = -1) ∧ 0 ≤ f.offsetHour ∧ 0 ≤ f.offsetMinute

variable {f : TimestampFields} {s : Int}

theorem onlyOverflows_seconds (f : TimestampFields) : OnlyOverflows f.seconds := by
  unfold seconds
  refine (onlyOverflows_i64 _).bind fun _ => (onlyOverflows_i64 _).bind fun _ =>
    (onlyOverflows_i64 _).bind fun _ => (onlyOverflows_daysFromCivil _ _ _).bind fun _ => ?_
  exact (onlyOverflows_i64 _).bind fun _ => (onlyOverflows_i64 _).bind fun _ =>
    (onlyOverflows_i64 _).bind fun _ => (onlyOverflows_i64 _).bind fun _ =>
    (onlyOverflows_i64 _).bind fun _ => (onlyOverflows_i64 _).bind fun _ =>
    (onlyOverflows_i64 _).bind fun _ => onlyOverflows_i64 _

/-- **No operation overflows** on a date and a time whose seconds fit. -/
theorem Valid.seconds_eq (h : f.Valid) (hlocal : f.localSeconds ≤ 9223372036854775807)
    (hoffset : f.offsetSeconds ≤ 9223372036854775807) (hinstant : InI64 f.instant) :
    f.seconds = .ok f.instant := by
  obtain ⟨hday, -⟩ := dayNumber_mem_year h.isDate
  obtain ⟨hyear0, hdate, hhour, hminute, hsecond, -, hsign, hoh, hom⟩ := h
  unfold localSeconds at hlocal
  unfold daysBeforeYear at hday
  have hday' : -719528 ≤ dayNumber f.year f.month f.day ∧
      dayNumber f.year f.month f.day ≤ 106751991167301 := by omega
  unfold offsetSeconds at hoffset
  unfold instant at hinstant
  unfold seconds
  iterate 3 refine (i64_bind ⟨by omega, by omega⟩).trans ?_
  rw [daysFromCivil_eq hdate ⟨⟨by omega, by omega⟩, by omega, by omega⟩, ok_bind]
  iterate 6 refine (i64_bind ⟨by omega, by omega⟩).trans ?_
  have hshift : InI64 (f.offsetSign * (f.offsetHour * 3600 + f.offsetMinute * 60)) := by
    rcases hsign with hsign | hsign <;> rw [hsign] <;> constructor <;> omega
  refine (i64_bind hshift).trans ?_
  exact i64_eq_ok_iff.mpr ⟨hinstant, rfl⟩

end TimestampFields

/-- **A text that denotes a date and a time of day**, in digits. -/
structure TimestampText.Valid (t : TimestampText) : Prop where
  plain : t.Plain
  isDate : IsDate t.fields.year t.fields.month t.fields.day
  hour_lt : t.fields.hour < 24
  minute_lt : t.fields.minute < 60
  second_lt : t.fields.second < 60

variable {t : TimestampText} {value : String}

theorem TimestampText.Valid.fields (h : t.Valid) : t.fields.Valid := by
  obtain ⟨⟨hyear, -, -⟩, ⟨hhour, hminute, hsecond, hfrac⟩, hzone⟩ := h.plain
  refine ⟨hyear.value_nonneg, h.isDate, ⟨hhour.value_nonneg, h.hour_lt⟩,
    ⟨hminute.value_nonneg, h.minute_lt⟩, ⟨hsecond.value_nonneg, h.second_lt⟩,
    fracNanos_bounds hfrac, ?_⟩
  show (t.zone.sign = 1 ∨ t.zone.sign = -1) ∧ 0 ≤ t.zone.hour ∧ 0 ≤ t.zone.minute
  cases hz : t.zone with
  | missing | utc => exact ⟨.inl rfl, le_rfl, le_rfl⟩
  | offset minus hour minute =>
    rw [hz] at hzone
    refine ⟨?_, hzone.1.value_nonneg, hzone.2.value_nonneg⟩
    cases minus with
    | true => exact .inr rfl
    | false => exact .inl rfl

/-- The seconds of 0001-01-01T00:00:00Z. -/
def minSeconds : Int := -62135596800

/-- The seconds of 9999-12-31T23:59:59Z. -/
def maxSeconds : Int := 253402300799

/-- **`parse_timestamp` on a text it can take apart.** -/
theorem parseTimestamp_of_valid (hfits : t.Fits) (hvalid : t.Valid)
    (hlocal : t.fields.localSeconds ≤ 9223372036854775807)
    (hoffset : t.fields.offsetSeconds ≤ 9223372036854775807) (hinstant : InI64 t.fields.instant)
    (hvalue : t.chars = value.toList) :
    parseTimestamp value = .ok ⟨t.fields.instant, t.fields.nanos⟩ := by
  rw [parseTimestamp, timestampFields_eq_ok_iff.mpr ⟨t, hvalue, hfits, rfl⟩, ok_bind,
    hvalid.fields.seconds_eq hlocal hoffset hinstant, ok_bind]
  rfl

/-! ## The printer -/

/-- **`format_timestamp`.** -/
def formatTimestamp (seconds nanos : Int) : Except Fault String := do
  let (year, month, day) ← civilFromDays (seconds / 86400)
  let secsOfDay := seconds % 86400
  let hh := secsOfDay / 3600
  let mm := secsOfDay % 3600 / 60
  let ss := secsOfDay % 60
  let out := formatInt 4 year ++ '-' :: (formatInt 2 month ++ '-' :: (formatInt 2 day ++
    'T' :: (formatInt 2 hh ++ ':' :: (formatInt 2 mm ++ ':' :: formatInt 2 ss))))
  let out := if nanos = 0 then out else out ++ formatFraction nanos
  pure (.ofList (out ++ ['Z']))

/-- The text of a date and a time of day in UTC. -/
def TimestampText.ofNumbers (y m d hh mm ss : Int) (frac : Option FractionText)
    (hy : 0 ≤ y) (hm : 0 ≤ m) (hd : 0 ≤ d) : TimestampText where
  date := {
    year := .ofInt 4 y
    month := .ofInt 2 m
    day := .ofInt 2 d
    not_minus := by
      have hplain {w : Nat} {n : Int} (hn : 0 ≤ n) : (Numeral.ofInt w n).sign ≠ .minus := by
        rw [Numeral.plain_ofInt w hn]
        decide
      exact ⟨hplain hy, hplain hm, hplain hd⟩ }
  time := ⟨.ofInt 2 hh, .ofInt 2 mm, .ofInt 2 ss, frac⟩
  zone := .utc true
  plain := nofun

section OfNumbers

variable {y m d hh mm ss : Int} {frac : Option FractionText} (hy : 0 ≤ y) (hm : 0 ≤ m) (hd : 0 ≤ d)

theorem TimestampText.fields_ofNumbers :
    (ofNumbers y m d hh mm ss frac hy hm hd).fields =
      ⟨y, m, d, hh, mm, ss, fracNanos frac, 1, 0, 0⟩ := by
  simp [fields, ofNumbers, ZoneText.sign, ZoneText.hour, ZoneText.minute]

theorem TimestampText.valid_ofNumbers (hdate : IsDate y m d) (hhour : 0 ≤ hh ∧ hh < 24)
    (hminute : 0 ≤ mm ∧ mm < 60) (hsecond : 0 ≤ ss ∧ ss < 60) (hfrac : ∀ f ∈ frac, f.Plain) :
    (ofNumbers y m d hh mm ss frac hy hm hd).Valid where
  plain := by
    refine ⟨⟨?_, ?_, ?_⟩, ⟨?_, ?_, ?_, hfrac⟩, trivial⟩
    · exact Numeral.plain_ofInt 4 hy
    · exact Numeral.plain_ofInt 2 hm
    · exact Numeral.plain_ofInt 2 hd
    · exact Numeral.plain_ofInt 2 hhour.1
    · exact Numeral.plain_ofInt 2 hminute.1
    · exact Numeral.plain_ofInt 2 hsecond.1
  isDate := by
    rw [fields_ofNumbers]
    exact hdate
  hour_lt := by
    rw [fields_ofNumbers]
    exact hhour.2
  minute_lt := by
    rw [fields_ofNumbers]
    exact hminute.2
  second_lt := by
    rw [fields_ofNumbers]
    exact hsecond.2

end OfNumbers

/-- **A valid timestamp is printed as a valid text**, which means it. -/
theorem formatTimestamp_spec {seconds nanos : Int} (hlow : minSeconds ≤ seconds)
    (hhigh : seconds ≤ maxSeconds) (h0 : 0 ≤ nanos) (hlt : nanos < 1000000000) :
    ∃ t : TimestampText, formatTimestamp seconds nanos = .ok (.ofList t.chars) ∧ t.Fits ∧
      t.Valid ∧ t.fields.offsetSeconds = 0 ∧ t.fields.localSeconds = seconds ∧
      t.fields.nanos = nanos := by
  unfold minSeconds at hlow
  unfold maxSeconds at hhigh
  obtain ⟨y, m, d, hcivil, hdate, hday⟩ :=
    civilFromDays_spec (z := seconds / 86400) ⟨⟨by omega, by omega⟩, by omega, by omega⟩
  obtain ⟨frac, hfrac, hnanos, hchars⟩ := exists_frac h0 hlt
  obtain ⟨hle, hlt⟩ := dayNumber_mem_year hdate
  unfold daysBeforeYear at hle hlt
  obtain ⟨hyear, hyear'⟩ : 1 ≤ y ∧ y ≤ 9999 := by omega
  obtain ⟨hm, hm', hd, hd'⟩ := isDate_iff.mp hdate
  have hmonth := daysInMonth_le y m
  obtain ⟨hh, hhh⟩ : ∃ hh, seconds % 86400 / 3600 = hh := ⟨_, rfl⟩
  obtain ⟨mm, hmm⟩ : ∃ mm, seconds % 86400 % 3600 / 60 = mm := ⟨_, rfl⟩
  obtain ⟨ss, hss⟩ : ∃ ss, seconds % 86400 % 60 = ss := ⟨_, rfl⟩
  have hhour : 0 ≤ hh ∧ hh < 24 := by omega
  have hminute : 0 ≤ mm ∧ mm < 60 := by omega
  have hsecond : 0 ≤ ss ∧ ss < 60 := by omega
  have htotal : seconds / 86400 * 86400 + hh * 3600 + mm * 60 + ss = seconds := by omega
  have hfits {w : Nat} {n : Int} (hn : InI64 n) : Proto.Fits (.ofInt w n) := by
    rw [Proto.Fits, Numeral.value_ofInt]
    exact hn
  refine ⟨.ofNumbers y m d hh mm ss frac (by omega) (by omega) (by omega), ?_,
    ⟨⟨hfits ⟨by omega, by omega⟩, hfits ⟨by omega, by omega⟩, hfits ⟨by omega, by omega⟩⟩,
      ⟨hfits ⟨by omega, by omega⟩, hfits ⟨by omega, by omega⟩, hfits ⟨by omega, by omega⟩⟩,
      trivial⟩,
    TimestampText.valid_ofNumbers _ _ _ hdate hhour hminute hsecond hfrac, ?_, ?_, ?_⟩
  · simp only [formatTimestamp, hcivil, ok_bind, TimestampText.chars, TimestampText.ofNumbers,
      DateText.chars, TimeText.chars, ZoneText.chars, Numeral.chars_ofInt, hchars]
    simp only [hhh, hmm, hss]
    by_cases hzero : nanos = 0
    · simp only [if_pos hzero, List.nil_append, List.append_assoc, List.cons_append]
      rfl
    · simp only [if_neg hzero, List.append_assoc, List.cons_append]
      rfl
  · rw [TimestampText.fields_ofNumbers]
    rfl
  · rw [TimestampText.fields_ofNumbers, TimestampFields.localSeconds, hday]
    exact htotal
  · rw [TimestampText.fields_ofNumbers]
    exact hnanos

/-- **A valid timestamp is read back from its text.** -/
theorem parseTimestamp_formatTimestamp {seconds nanos : Int} (hlow : minSeconds ≤ seconds)
    (hhigh : seconds ≤ maxSeconds) (h0 : 0 ≤ nanos) (hlt : nanos < 1000000000) :
    ∃ text, formatTimestamp seconds nanos = .ok text ∧
      parseTimestamp text = .ok ⟨seconds, nanos⟩ := by
  obtain ⟨t, htext, hfits, hvalid, hoffset, hlocal, hnanos⟩ :=
    formatTimestamp_spec hlow hhigh h0 hlt
  have hinstant : t.fields.instant = seconds := by
    rw [TimestampFields.instant, hoffset, hlocal, Int.mul_zero, Int.sub_zero]
  unfold minSeconds at hlow
  unfold maxSeconds at hhigh
  have hin : InI64 t.fields.instant := by
    rw [hinstant]
    exact ⟨by omega, by omega⟩
  refine ⟨_, htext, ?_⟩
  rw [parseTimestamp_of_valid hfits hvalid (by omega) (by omega) hin String.toList_ofList.symm,
    hinstant, hnanos]

/-- The last nanosecond before 1970. -/
theorem parseTimestamp_formatTimestamp_before_epoch :
    ∃ text, formatTimestamp (-1) 999999999 = .ok text ∧
      parseTimestamp text = .ok ⟨-1, 999999999⟩ :=
  parseTimestamp_formatTimestamp (by decide) (by decide) (by decide) (by decide)

/-! ## What is accepted -/

/-- **The parser does its duty on a string**: it does not overflow, and what it accepts denotes a
date and a time of day, in the years 1 to 9999. -/
def AcceptsValidTimestamp (value : String) : Prop :=
  parseTimestamp value ≠ .error .overflow ∧
    ∀ ts, parseTimestamp value = .ok ts →
      (∃ t : TimestampText, t.chars = value.toList ∧ t.Valid) ∧
      (minSeconds ≤ ts.seconds ∧ ts.seconds ≤ maxSeconds) ∧ 0 ≤ ts.nanos ∧ ts.nanos < 1000000000

/-- **A text that is in order**: a date and a time of day, in digits, that mean a time of the years
1 to 9999 and whose seconds fit an `i64`. -/
structure TimestampText.InOrder (t : TimestampText) : Prop where
  valid : t.Valid
  instant : minSeconds ≤ t.fields.instant ∧ t.fields.instant ≤ maxSeconds
  localSeconds_le : t.fields.localSeconds ≤ 9223372036854775807
  offsetSeconds_le : t.fields.offsetSeconds ≤ 9223372036854775807

theorem TimestampText.InOrder.parseTimestamp_eq (h : t.InOrder) (hfits : t.Fits)
    (hvalue : t.chars = value.toList) :
    parseTimestamp value = .ok ⟨t.fields.instant, t.fields.nanos⟩ := by
  obtain ⟨hlow, hhigh⟩ := h.instant
  unfold minSeconds at hlow
  unfold maxSeconds at hhigh
  exact parseTimestamp_of_valid hfits h.valid h.localSeconds_le h.offsetSeconds_le
    ⟨by omega, by omega⟩ hvalue

/-- **The strings on which the parser does its duty** are those it cannot take apart and those that
are in order. -/
theorem acceptsValidTimestamp_iff (value : String) :
    AcceptsValidTimestamp value ↔
      ∀ t : TimestampText, t.chars = value.toList → t.Fits → t.InOrder := by
  constructor
  · rintro ⟨hoverflow, haccepted⟩ t htext hfits
    have hfields : timestampFields value = .ok t.fields :=
      timestampFields_eq_ok_iff.mpr ⟨t, htext, hfits, rfl⟩
    cases hseconds : t.fields.seconds with
    | error fault =>
      -- the only fault would be the overflow
      cases TimestampFields.onlyOverflows_seconds _ _ hseconds
      refine absurd ?_ hoverflow
      rw [parseTimestamp, hfields, ok_bind, hseconds]
      rfl
    | ok s =>
      have hparse : parseTimestamp value = .ok ⟨s, t.fields.nanos⟩ := by
        rw [parseTimestamp, hfields, ok_bind, hseconds, ok_bind]
        rfl
      obtain ⟨⟨t', htext', hvalid⟩, hrange, -⟩ := haccepted _ hparse
      cases TimestampText.eq_of_chars_eq (htext'.trans htext.symm)
      -- what the arithmetic gives for a month that exists
      unfold TimestampFields.seconds at hseconds
      simp only [i64_bind_eq_ok_iff] at hseconds
      obtain ⟨-, -, hoffset, h⟩ := hseconds
      obtain ⟨z, hdays, h⟩ := bind_eq_ok_iff.mp h
      cases dayNumber_of_daysFromCivil hvalid.isDate.one_le_month hvalid.isDate.month_le hdays
      simp only [i64_bind_eq_ok_iff, i64_eq_ok_iff] at h
      obtain ⟨-, -, -, -, -, hlocal, -, -, rfl⟩ := h
      exact ⟨hvalid, hrange, hlocal.2, hoffset.2⟩
  · intro horder
    constructor
    · intro hoverflow
      rcases bind_eq_error_iff.mp hoverflow with hfields | ⟨f, hfields, hrest⟩
      · exact timestampFields_ne_overflow value hfields
      · obtain ⟨t, htext, hfits, rfl⟩ := timestampFields_eq_ok_iff.mp hfields
        simp [(horder t htext hfits).parseTimestamp_eq hfits htext] at hoverflow
    · intro ts hparse
      obtain ⟨f, hfields, -⟩ := bind_eq_ok_iff.mp hparse
      obtain ⟨t, htext, hfits, rfl⟩ := timestampFields_eq_ok_iff.mp hfields
      have ht := horder t htext hfits
      rw [ht.parseTimestamp_eq hfits htext] at hparse
      cases hparse
      exact ⟨⟨t, htext, ht.valid⟩, ht.instant, ht.valid.fields.nanos⟩

end LivekitVoice.Proto
