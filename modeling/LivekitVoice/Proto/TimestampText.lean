import LivekitVoice.Proto.Fraction
import Mathlib.Data.List.TakeWhile

/-! # Timestamps as they are written

The part of `parse_timestamp` that takes a string apart, and the strings it takes apart: a date, a
time and a zone made of numerals (`TimestampText`).

* **`timestampFields_eq_ok_iff`** — what the parser takes apart are the texts whose numbers fit an
  `i64`,
* **`TimestampText.eq_of_chars_eq`** — a text can be read in one way only,
* **`timestampFields_ne_overflow`** — nothing overflows here. -/

namespace LivekitVoice.Proto

open List Text

/-! ## The parser -/

/-- A number of a timestamp, or `bad …`. -/
def timestampField (value what : String) : List Char → Except Fault Int :=
  numberField (.timestamp value (": bad " ++ what))

/-- A sign, which begins an offset. -/
def isSign (c : Char) : Bool := c == '+' || c == '-'

/-- `split_offset`: the time, and the zone if there is one. -/
def splitOffset (rest : List Char) : List Char × Option (List Char) :=
  match (stripSuffix 'Z' rest).or (stripSuffix 'z' rest) with
  | some time => (time, some ['Z'])
  | none =>
    -- the first sign, wherever it is
    match rest.dropWhile fun c => !isSign c with
    | [] => (rest, none)
    | sign :: off => (rest.takeWhile fun c => !isSign c, some (sign :: off))

variable (value : String)

/-- Year, month and day. -/
def dateFields (datePart : List Char) : Except Fault (Int × Int × Int) :=
  match datePart.splitOn '-' with
  | [y, m, d] => do
      let year ← timestampField value "year" y
      let month ← timestampField value "month" m
      let day ← timestampField value "day" d
      pure (year, month, day)
  | _ => .error (.rejected (.timestamp value ": bad date"))

/-- The seconds, and the nanoseconds if there is a point. -/
def secondField : List Char → Except Fault (Int × Int) :=
  pointField (.timestamp value ": bad second")

/-- Hour, minute, second and nanoseconds. -/
def timeFields (timePart : List Char) : Except Fault (Int × Int × Int × Int) :=
  match timePart.splitOn ':' with
  | [h, m, s] => do
      let hour ← timestampField value "hour" h
      let minute ← timestampField value "minute" m
      let second ← secondField value s
      pure (hour, minute, second.1, second.2)
  | _ => .error (.rejected (.timestamp value ": bad time"))

/-- The hours and minutes of an offset, with its sign. -/
def offsetParts (sign : Int) (off : List Char) : Except Fault (Int × Int × Int) :=
  match off.splitOn ':' with
  | [h, m] => do
      let oh ← timestampField value "offset" h
      let om ← timestampField value "offset" m
      pure (sign, oh, om)
  | _ => .error (.rejected (.timestamp value ": bad offset"))

/-- The sign, hours and minutes of the zone. -/
def offsetFields : Option (List Char) → Except Fault (Int × Int × Int)
  | none => pure (1, 0, 0)
  | some ['Z'] | some ['z'] => pure (1, 0, 0)
  | some ('+' :: off) => offsetParts value 1 off
  | some ('-' :: off) => offsetParts value (-1) off
  | some _ => .error (.rejected (.timestamp value ": bad offset"))

/-- The numbers of a timestamp. -/
structure TimestampFields where
  year : Int
  month : Int
  day : Int
  hour : Int
  minute : Int
  second : Int
  nanos : Int
  offsetSign : Int
  offsetHour : Int
  offsetMinute : Int

/-- The part of `parse_timestamp` that takes the text apart. -/
def timestampFields : Except Fault TimestampFields :=
  match splitOnce 'T' value.toList with
  | none => .error (.rejected (.timestamp value ": missing 'T'"))
  | some (datePart, rest) => do
      let (year, month, day) ← dateFields value datePart
      let (hour, minute, second, nanos) ← timeFields value (splitOffset rest).1
      let (offsetSign, offsetHour, offsetMinute) ← offsetFields value (splitOffset rest).2
      pure {
        year, month, day, hour, minute, second, nanos, offsetSign, offsetHour, offsetMinute }

/-! ## Texts -/

variable {value : String} {cs : List Char} {c : Char} {zone : ZoneText}

theorem timestampField_eq_ok_iff {what : String} {n : Int} :
    timestampField value what cs = .ok n ↔ ∃ t : Numeral, t.chars = cs ∧ t.value = n ∧ Fits t :=
  numberField_eq_ok_iff

/-- **A date as it is written.** A minus would be a separator. -/
structure DateText where
  year : Numeral
  month : Numeral
  day : Numeral
  not_minus : year.sign ≠ .minus ∧ month.sign ≠ .minus ∧ day.sign ≠ .minus

namespace DateText

def chars (t : DateText) : List Char :=
  t.year.chars ++ '-' :: (t.month.chars ++ '-' :: t.day.chars)

def Fits (t : DateText) : Prop := Proto.Fits t.year ∧ Proto.Fits t.month ∧ Proto.Fits t.day

/-- Digits only. -/
def Plain (t : DateText) : Prop := t.year.Plain ∧ t.month.Plain ∧ t.day.Plain

end DateText

theorem minus_mem_chars_iff {t : Numeral} : '-' ∈ t.chars ↔ t.sign = .minus := by
  rw [Numeral.chars, mem_append]
  constructor
  · rintro (hsign | hdigit)
    · cases hs : t.sign <;> simp_all [Sign.chars]
    · exact absurd (t.isDigit '-' hdigit) (by decide)
  · intro hs
    rw [hs]
    exact .inl mem_cons_self

namespace DateText

theorem splitOn_chars (t : DateText) :
    t.chars.splitOn '-' = [t.year.chars, t.month.chars, t.day.chars] := by
  obtain ⟨hyear, hmonth, hday⟩ := t.not_minus
  rw [chars, splitOn_append (fun h => hyear (minus_mem_chars_iff.mp h)),
    splitOn_append (fun h => hmonth (minus_mem_chars_iff.mp h)),
    splitOn_eq_self (fun h => hday (minus_mem_chars_iff.mp h))]

/-- **A date is determined by its text.** -/
theorem eq_of_chars_eq {t t' : DateText} (h : t.chars = t'.chars) : t = t' := by
  have hfields := t.splitOn_chars
  rw [h, t'.splitOn_chars] at hfields
  obtain ⟨year, month, day, hnot⟩ := t
  obtain ⟨year', month', day', hnot'⟩ := t'
  injection hfields with hyear hfields
  injection hfields with hmonth hfields
  injection hfields with hday
  cases Numeral.eq_of_chars_eq hyear
  cases Numeral.eq_of_chars_eq hmonth
  cases Numeral.eq_of_chars_eq hday
  rfl

end DateText

/-- **What is read as a date.** -/
theorem dateFields_eq_ok_iff {y m d : Int} :
    dateFields value cs = .ok (y, m, d) ↔
      ∃ t : DateText, t.chars = cs ∧ t.Fits ∧ t.year.value = y ∧ t.month.value = m ∧
        t.day.value = d := by
  constructor
  · intro h
    unfold dateFields at h
    split at h
    · next ys ms ds hsplit =>
      simp only [bind_eq_ok_iff, timestampField_eq_ok_iff] at h
      obtain ⟨_, ⟨year, rfl, rfl, hyear⟩, _, ⟨month, rfl, rfl, hmonth⟩, _,
        ⟨day, rfl, rfl, hday⟩, hpure⟩ := h
      cases hpure
      obtain ⟨r, rfl, hy, hsplit⟩ := splitOn_eq_cons_cons_iff.mp hsplit
      obtain ⟨r', rfl, hm, hsplit⟩ := splitOn_eq_cons_cons_iff.mp hsplit
      obtain ⟨rfl, hd⟩ := splitOn_eq_singleton_iff.mp hsplit
      rw [minus_mem_chars_iff] at hy hm hd
      exact ⟨⟨year, month, day, hy, hm, hd⟩, rfl, ⟨hyear, hmonth, hday⟩, rfl, rfl, rfl⟩
    · cases h
  · rintro ⟨t, rfl, ⟨hyear, hmonth, hday⟩, rfl, rfl, rfl⟩
    unfold dateFields
    rw [t.splitOn_chars]
    simp only [bind_eq_ok_iff, timestampField_eq_ok_iff]
    exact ⟨_, ⟨t.year, rfl, rfl, hyear⟩, _, ⟨t.month, rfl, rfl, hmonth⟩, _,
      ⟨t.day, rfl, rfl, hday⟩, rfl⟩

/-! ### Times -/

/-- **A time as it is written.** -/
structure TimeText where
  hour : Numeral
  minute : Numeral
  second : Numeral
  frac : Option FractionText

namespace TimeText

def chars (t : TimeText) : List Char :=
  t.hour.chars ++ ':' :: (t.minute.chars ++ ':' :: (t.second.chars ++ fracChars t.frac))

def Fits (t : TimeText) : Prop := Proto.Fits t.hour ∧ Proto.Fits t.minute ∧ Proto.Fits t.second

/-- Digits only. -/
def Plain (t : TimeText) : Prop :=
  t.hour.Plain ∧ t.minute.Plain ∧ t.second.Plain ∧ ∀ f ∈ t.frac, f.Plain

end TimeText

theorem colon_not_mem_chars (t : Numeral) : ':' ∉ t.chars :=
  Numeral.not_mem_chars (by decide) (by decide) (by decide)

theorem colon_not_mem_second (t : Numeral) (frac : Option FractionText) :
    ':' ∉ t.chars ++ fracChars frac := by
  intro h
  rcases mem_append.mp h with hnumber | hfrac
  · exact colon_not_mem_chars t hnumber
  · rcases mem_fracChars hfrac with h | h | h | h <;> revert h <;> decide

namespace TimeText

theorem splitOn_chars (t : TimeText) :
    t.chars.splitOn ':' = [t.hour.chars, t.minute.chars, t.second.chars ++ fracChars t.frac] := by
  rw [chars, splitOn_append (colon_not_mem_chars _), splitOn_append (colon_not_mem_chars _),
    splitOn_eq_self (colon_not_mem_second _ _)]

/-- **A time is determined by its text.** -/
theorem eq_of_chars_eq {t t' : TimeText} (h : t.chars = t'.chars) : t = t' := by
  have hfields := t.splitOn_chars
  rw [h, t'.splitOn_chars] at hfields
  obtain ⟨hour, minute, second, frac⟩ := t
  obtain ⟨hour', minute', second', frac'⟩ := t'
  injection hfields with hhour hfields
  injection hfields with hminute hfields
  injection hfields with hsecond
  cases Numeral.eq_of_chars_eq hhour
  cases Numeral.eq_of_chars_eq hminute
  have hcut := splitOnce_point second frac
  rw [← hsecond, splitOnce_point second' frac'] at hcut
  -- both have a point or none has
  cases frac with
  | none =>
    cases frac' with
    | none =>
      rw [fracChars, append_nil, append_nil] at hsecond
      cases Numeral.eq_of_chars_eq hsecond
      rfl
    | some f' => cases hcut
  | some f =>
    cases frac' with
    | none => cases hcut
    | some f' =>
      injection hcut with hcut
      injection hcut with hnumber hfrac
      cases Numeral.eq_of_chars_eq hnumber
      cases FractionText.eq_of_chars_eq hfrac
      rfl

end TimeText

/-- **What is read as a time.** -/
theorem timeFields_eq_ok_iff {h m s n : Int} :
    timeFields value cs = .ok (h, m, s, n) ↔
      ∃ t : TimeText, t.chars = cs ∧ t.Fits ∧ t.hour.value = h ∧ t.minute.value = m ∧
        t.second.value = s ∧ fracNanos t.frac = n := by
  constructor
  · intro hread
    unfold timeFields at hread
    split at hread
    · next hs ms ss hsplit =>
      simp only [bind_eq_ok_iff, timestampField_eq_ok_iff] at hread
      obtain ⟨_, ⟨hour, rfl, rfl, hhour⟩, _, ⟨minute, rfl, rfl, hminute⟩, ⟨_, _⟩, hsecond,
        hpure⟩ := hread
      cases hpure
      obtain ⟨second, frac, rfl, hfits, rfl, rfl⟩ := pointField_eq_ok_iff.mp hsecond
      obtain ⟨r, rfl, -, hsplit⟩ := splitOn_eq_cons_cons_iff.mp hsplit
      obtain ⟨r', rfl, -, hsplit⟩ := splitOn_eq_cons_cons_iff.mp hsplit
      obtain ⟨rfl, -⟩ := splitOn_eq_singleton_iff.mp hsplit
      exact ⟨⟨hour, minute, second, frac⟩, rfl, ⟨hhour, hminute, hfits⟩, rfl, rfl, rfl, rfl⟩
    · cases hread
  · rintro ⟨t, rfl, ⟨hhour, hminute, hsecond⟩, rfl, rfl, rfl, rfl⟩
    unfold timeFields
    rw [t.splitOn_chars]
    simp only [bind_eq_ok_iff, timestampField_eq_ok_iff]
    exact ⟨_, ⟨t.hour, rfl, rfl, hhour⟩, _, ⟨t.minute, rfl, rfl, hminute⟩, (_, _),
      pointField_eq_ok_iff.mpr ⟨t.second, t.frac, rfl, hsecond, rfl, rfl⟩, rfl⟩

/-! ### Zones -/

/-- **A zone as it is written.** -/
inductive ZoneText
  /-- Nothing, which is taken for UTC. -/
  | missing
  /-- `Z`, or `z`. -/
  | utc (upper : Bool)
  /-- An offset, with its sign. -/
  | offset (minus : Bool) (hour minute : Numeral)

namespace ZoneText

def signChar (minus : Bool) : Char := if minus then '-' else '+'

def chars : ZoneText → List Char
  | .missing => []
  | .utc upper => [if upper then 'Z' else 'z']
  | .offset minus hour minute => signChar minus :: (hour.chars ++ ':' :: minute.chars)

def Fits : ZoneText → Prop
  | .offset _ hour minute => Proto.Fits hour ∧ Proto.Fits minute
  | _ => True

/-- Digits only, behind the sign. -/
def Plain : ZoneText → Prop
  | .offset _ hour minute => hour.Plain ∧ minute.Plain
  | _ => True

def isUtc : ZoneText → Bool
  | .utc _ => true
  | _ => false

/-- The sign of the offset: ahead of UTC, or behind. -/
def sign : ZoneText → Int
  | .offset true _ _ => -1
  | _ => 1

def hour : ZoneText → Int
  | .offset _ hour _ => hour.value
  | _ => 0

def minute : ZoneText → Int
  | .offset _ _ minute => minute.value
  | _ => 0

/-- What `split_offset` hands on: it forgets the case of the letter. -/
def code : ZoneText → Option (List Char)
  | .missing => none
  | .utc _ => some ['Z']
  | zone => some zone.chars

end ZoneText

theorem TimeText.mem_chars {t : TimeText} (h : c ∈ t.chars) :
    c.isDigit ∨ c = '+' ∨ c = '-' ∨ c = ':' ∨ c = '.' := by
  simp only [TimeText.chars, mem_append, mem_cons] at h
  rcases h with h | h | h | h | h | h
  · rcases Numeral.mem_chars h with h | h | h <;> simp [h]
  · simp [h]
  · rcases Numeral.mem_chars h with h | h | h <;> simp [h]
  · simp [h]
  · rcases Numeral.mem_chars h with h | h | h <;> simp [h]
  · rcases mem_fracChars h with h | h | h | h <;> simp [h]

theorem letter_not_mem (hdigit : c.isDigit = false) (h : c ≠ '+' ∧ c ≠ '-' ∧ c ≠ ':' ∧ c ≠ '.')
    {time : TimeText} (hzone : zone.isUtc = false) :
    c ∉ time.chars ++ zone.chars := by
  intro hc
  have hkinds : c.isDigit ∨ c = '+' ∨ c = '-' ∨ c = ':' ∨ c = '.' := by
    rcases mem_append.mp hc with htime | hzoned
    · exact TimeText.mem_chars htime
    · cases zone with
      | missing => simp [ZoneText.chars] at hzoned
      | utc upper => cases hzone
      | offset minus hour minute =>
        simp only [ZoneText.chars, mem_cons, mem_append] at hzoned
        rcases hzoned with h | h | h | h
        · unfold ZoneText.signChar at h
          split at h <;> simp [h]
        · rcases Numeral.mem_chars h with h | h | h <;> simp [h]
        · simp [h]
        · rcases Numeral.mem_chars h with h | h | h <;> simp [h]
  rw [hdigit] at hkinds
  simp [h.1, h.2.1, h.2.2.1, h.2.2.2] at hkinds

theorem unsigned_iff_not_isSign {sign : Sign} {digits : List Char}
    (hdigits : ∀ c ∈ digits, c.isDigit) :
    sign = .unsigned ↔ ∀ c ∈ sign.chars ++ digits, isSign c = false := by
  constructor
  · rintro rfl c hc
    have hdigit := hdigits c hc
    unfold isSign
    rw [Bool.or_eq_false_iff, beq_eq_false_iff_ne, beq_eq_false_iff_ne]
    constructor <;> rintro rfl <;> cases hdigit
  · intro h
    cases sign with
    | unsigned => rfl
    | plus => exact absurd (h '+' mem_cons_self) (by decide)
    | minus => exact absurd (h '-' mem_cons_self) (by decide)

theorem plain_iff_not_isSign {t : Numeral} : t.Plain ↔ ∀ c ∈ t.chars, isSign c = false :=
  unsigned_iff_not_isSign t.isDigit

theorem fraction_plain_iff_not_isSign {f : FractionText} :
    f.Plain ↔ ∀ c ∈ f.chars, isSign c = false :=
  unsigned_iff_not_isSign f.isDigit

/-- **A time has digits only** if there is no sign in it. -/
theorem TimeText.plain_iff {t : TimeText} : t.Plain ↔ ∀ c ∈ t.chars, isSign c = false := by
  have hfrac : (∀ c ∈ fracChars t.frac, isSign c = false) ↔ ∀ f ∈ t.frac, f.Plain := by
    cases t.frac with
    | none => simp [fracChars]
    | some f =>
      simp only [fracChars, mem_cons, forall_eq_or_imp, Option.mem_def, Option.some.injEq,
        forall_eq', fraction_plain_iff_not_isSign]
      exact and_iff_right rfl
  unfold TimeText.Plain
  rw [plain_iff_not_isSign, plain_iff_not_isSign, plain_iff_not_isSign, ← hfrac]
  simp only [TimeText.chars, mem_append, mem_cons, or_imp, forall_and, forall_eq]
  have hcolon : isSign ':' = false := rfl
  simp [hcolon, true_and]

/-! ### The cut between time and zone -/

theorem splitOffset_utc (time : List Char) (upper : Bool) :
    splitOffset (time ++ (ZoneText.utc upper).chars) = (time, some ['Z']) := by
  have hstrip : (stripSuffix 'Z' (time ++ (ZoneText.utc upper).chars)).or
      (stripSuffix 'z' (time ++ (ZoneText.utc upper).chars)) = some time := by
    cases upper with
    | true =>
      have hupper : stripSuffix 'Z' (time ++ ['Z']) = some time :=
        stripSuffix_eq_some_iff.mpr rfl
      show (stripSuffix 'Z' (time ++ ['Z'])).or (stripSuffix 'z' (time ++ ['Z'])) = some time
      rw [hupper, Option.some_or]
    | false =>
      have hupper : stripSuffix 'Z' (time ++ ['z']) = none := by
        rw [stripSuffix, if_neg (by rw [List.getLast?_concat]; decide)]
      have hlower : stripSuffix 'z' (time ++ ['z']) = some time :=
        stripSuffix_eq_some_iff.mpr rfl
      show (stripSuffix 'Z' (time ++ ['z'])).or (stripSuffix 'z' (time ++ ['z'])) = some time
      rw [hupper, hlower, Option.none_or]
  unfold splitOffset
  rw [hstrip]

theorem stripSuffix_eq_none (h : c ∉ cs) : stripSuffix c cs = none := by
  cases hstrip : stripSuffix c cs with
  | none => rfl
  | some l =>
    rw [stripSuffix_eq_some_iff] at hstrip
    rw [hstrip] at h
    exact absurd (mem_append_right l (mem_singleton_self c)) h

/-- **The time and the zone are taken apart.** -/
theorem splitOffset_chars {time : TimeText} (hplain : zone.isUtc = false → time.Plain) :
    splitOffset (time.chars ++ zone.chars) = (time.chars, zone.code) := by
  cases hutc : zone.isUtc with
  | true =>
    cases zone with
    | utc upper => exact splitOffset_utc time.chars upper
    | _ => cases hutc
  | false =>
    have hnone : (stripSuffix 'Z' (time.chars ++ zone.chars)).or
        (stripSuffix 'z' (time.chars ++ zone.chars)) = none := by
      rw [stripSuffix_eq_none (letter_not_mem (by decide) (by decide) hutc),
        stripSuffix_eq_none (letter_not_mem (by decide) (by decide) hutc), Option.none_or]
    have hsigns := TimeText.plain_iff.mp (hplain hutc)
    have hsigns' : ∀ c ∈ time.chars, (!isSign c) := fun c hc => by simp [hsigns c hc]
    unfold splitOffset
    rw [hnone]
    simp only
    cases zone with
    | utc upper => cases hutc
    | missing =>
      rw [ZoneText.chars, append_nil, dropWhile_eq_nil_iff.mpr hsigns']
      rfl
    | offset minus hour minute =>
      have hsign : isSign (ZoneText.signChar minus) := by cases minus <;> rfl
      rw [dropWhile_append_of_pos hsigns', takeWhile_append_of_pos hsigns',
        ZoneText.chars, dropWhile_cons_of_neg (by simp [hsign]),
        takeWhile_cons_of_neg (by simp [hsign]), append_nil]
      rfl

/-- **The three ways to cut.** -/
theorem splitOffset_cases (rest : List Char) :
    (∃ upper, rest = (splitOffset rest).1 ++ (ZoneText.utc upper).chars ∧
      (splitOffset rest).2 = some ['Z']) ∨
    (∀ c ∈ (splitOffset rest).1, isSign c = false) ∧
      ((rest = (splitOffset rest).1 ∧ (splitOffset rest).2 = none) ∨
      ∃ minus off, rest = (splitOffset rest).1 ++ ZoneText.signChar minus :: off ∧
        (splitOffset rest).2 = some (ZoneText.signChar minus :: off)) := by
  unfold splitOffset
  split
  · next time hstrip =>
    left
    rcases Option.or_eq_some_iff.mp hstrip with hupper | ⟨-, hlower⟩
    · exact ⟨true, stripSuffix_eq_some_iff.mp hupper, rfl⟩
    · exact ⟨false, stripSuffix_eq_some_iff.mp hlower, rfl⟩
  · right
    have hcut : rest.takeWhile (fun c => !isSign c) ++ rest.dropWhile (fun c => !isSign c) = rest :=
      takeWhile_append_dropWhile
    have hhead := List.head?_dropWhile_not (fun c => !isSign c) rest
    split
    · next hdrop =>
      have hall := dropWhile_eq_nil_iff.mp hdrop
      exact ⟨fun c hc => by simpa using hall c hc, .inl ⟨rfl, rfl⟩⟩
    · next sign off hdrop =>
      rw [hdrop] at hcut hhead
      have hsign : sign = '+' ∨ sign = '-' := by
        simpa [isSign, or_iff_not_imp_left] using hhead
      refine ⟨fun c hc => by simpa using mem_takeWhile_imp hc, .inr ?_⟩
      rcases hsign with rfl | rfl
      · exact ⟨false, off, hcut.symm, rfl⟩
      · exact ⟨true, off, hcut.symm, rfl⟩

theorem offsetParts_eq_ok_iff {sign : Int} {off : List Char} {r : Int × Int × Int} :
    offsetParts value sign off = .ok r ↔
      ∃ hour minute : Numeral, hour.chars ++ ':' :: minute.chars = off ∧ Fits hour ∧ Fits minute ∧
        (sign, hour.value, minute.value) = r := by
  constructor
  · intro h
    unfold offsetParts at h
    split at h
    · next hs ms hsplit =>
      simp only [bind_eq_ok_iff, timestampField_eq_ok_iff] at h
      obtain ⟨_, ⟨hour, rfl, rfl, hhour⟩, _, ⟨minute, rfl, rfl, hminute⟩, ⟨⟩⟩ := h
      obtain ⟨rest, hoff, -, hrest⟩ := splitOn_eq_cons_cons_iff.mp hsplit
      obtain ⟨rfl, -⟩ := splitOn_eq_singleton_iff.mp hrest
      exact ⟨hour, minute, hoff.symm, hhour, hminute, rfl⟩
    · cases h
  · rintro ⟨hour, minute, rfl, hhour, hminute, rfl⟩
    unfold offsetParts
    rw [splitOn_append (colon_not_mem_chars _), splitOn_eq_self (colon_not_mem_chars _)]
    simp only [bind_eq_ok_iff, timestampField_eq_ok_iff]
    exact ⟨_, ⟨hour, rfl, rfl, hhour⟩, _, ⟨minute, rfl, rfl, hminute⟩, rfl⟩

theorem offsetFields_code (h : zone.Fits) :
    offsetFields value zone.code = .ok (zone.sign, zone.hour, zone.minute) := by
  cases zone with
  | missing | utc => rfl
  | offset minus hour minute =>
    cases minus <;> exact offsetParts_eq_ok_iff.mpr ⟨hour, minute, rfl, h.1, h.2, rfl⟩

/-- **The zone that was read**: there was no sign before it, unless it is a letter. -/
theorem exists_zone {rest : List Char} {sign oh om : Int}
    (h : offsetFields value (splitOffset rest).2 = .ok (sign, oh, om)) :
    ∃ zone : ZoneText, rest = (splitOffset rest).1 ++ zone.chars ∧ zone.Fits ∧
      (zone.sign, zone.hour, zone.minute) = (sign, oh, om) ∧
      (zone.isUtc = false → ∀ c ∈ (splitOffset rest).1, isSign c = false) := by
  rcases splitOffset_cases rest with
    ⟨upper, hrest, hoff⟩ | ⟨hsigns, ⟨hrest, hoff⟩ | ⟨minus, off, hrest, hoff⟩⟩
  · rw [hoff] at h
    cases h
    exact ⟨.utc upper, hrest, trivial, rfl, nofun⟩
  · rw [hoff] at h
    cases h
    exact ⟨.missing, by rw [ZoneText.chars, append_nil]; exact hrest, trivial, rfl,
      fun _ => hsigns⟩
  · rw [hoff] at h
    have hparts : offsetParts value (if minus then -1 else 1) off = .ok (sign, oh, om) := by
      cases minus <;> exact h
    obtain ⟨hour, minute, rfl, hhour, hminute, hr⟩ := offsetParts_eq_ok_iff.mp hparts
    refine ⟨.offset minus hour minute, hrest, ⟨hhour, hminute⟩, ?_, fun _ => hsigns⟩
    rw [← hr]
    cases minus <;> rfl

/-! ### Timestamps -/

/-- **A timestamp as it is written.** Without the letter at the end a sign would begin an offset, so
that there is none in the time. -/
structure TimestampText where
  date : DateText
  time : TimeText
  zone : ZoneText
  plain : zone.isUtc = false → time.Plain

namespace TimestampText

variable (t : TimestampText)

def chars : List Char :=
  t.date.chars ++ 'T' :: (t.time.chars ++ t.zone.chars)

/-- Each number fits an `i64`. -/
def Fits : Prop := t.date.Fits ∧ t.time.Fits ∧ t.zone.Fits

/-- The numbers that are written. -/
def fields : TimestampFields where
  year := t.date.year.value
  month := t.date.month.value
  day := t.date.day.value
  hour := t.time.hour.value
  minute := t.time.minute.value
  second := t.time.second.value
  nanos := fracNanos t.time.frac
  offsetSign := t.zone.sign
  offsetHour := t.zone.hour
  offsetMinute := t.zone.minute

/-- Digits only. -/
def Plain : Prop := t.date.Plain ∧ t.time.Plain ∧ t.zone.Plain

end TimestampText

theorem DateText.mem_chars {t : DateText} (h : c ∈ t.chars) : c.isDigit ∨ c = '+' ∨ c = '-' := by
  simp only [DateText.chars, mem_append, mem_cons] at h
  rcases h with h | h | h | h | h
  · exact Numeral.mem_chars h
  · exact .inr (.inr h)
  · exact Numeral.mem_chars h
  · exact .inr (.inr h)
  · exact Numeral.mem_chars h

theorem DateText.letter_not_mem (t : DateText) : 'T' ∉ t.chars := by
  intro h
  rcases DateText.mem_chars h with h | h | h <;> revert h <;> decide

theorem TimestampText.splitOnce_chars (t : TimestampText) :
    splitOnce 'T' t.chars = some (t.date.chars, t.time.chars ++ t.zone.chars) :=
  splitOnce_eq_some_iff.mpr ⟨rfl, t.date.letter_not_mem⟩

theorem ZoneText.utc_ne_offset (upper minus : Bool) (hour minute : Numeral) :
    (utc upper).chars ≠ (offset minus hour minute).chars := by
  intro h
  injection h with hhead
  revert hhead
  cases upper <;> cases minus <;> decide

/-- **A zone is determined by its text.** -/
theorem ZoneText.eq_of_chars_eq {z z' : ZoneText} (h : z.chars = z'.chars) : z = z' := by
  cases z with
  | missing =>
    cases z' with
    | missing => rfl
    | _ => cases h
  | utc upper =>
    cases z' with
    | missing => cases h
    | utc upper' =>
      injection h with hhead
      have hupper : upper = upper' := by
        revert hhead
        cases upper <;> cases upper' <;> decide
      rw [hupper]
    | offset minus hour minute => exact absurd h (utc_ne_offset _ _ _ _)
  | offset minus hour minute =>
    cases z' with
    | missing => cases h
    | utc upper' => exact absurd h.symm (utc_ne_offset _ _ _ _)
    | offset minus' hour' minute' =>
      injection h with hsign hrest
      have hminus : minus = minus' := by
        revert hsign
        cases minus <;> cases minus' <;> decide
      have hfields : (hour.chars ++ ':' :: minute.chars).splitOn ':' =
          [hour.chars, minute.chars] := by
        rw [splitOn_append (colon_not_mem_chars _), splitOn_eq_self (colon_not_mem_chars _)]
      rw [hrest, splitOn_append (colon_not_mem_chars _),
        splitOn_eq_self (colon_not_mem_chars _)] at hfields
      injection hfields with hhour hfields
      injection hfields with hminute
      cases hminus
      cases Numeral.eq_of_chars_eq hhour
      cases Numeral.eq_of_chars_eq hminute
      rfl

/-- **A timestamp is determined by its text.** -/
theorem TimestampText.eq_of_chars_eq {t t' : TimestampText} (h : t.chars = t'.chars) : t = t' := by
  have hcut := t.splitOnce_chars
  rw [h, t'.splitOnce_chars] at hcut
  injection hcut with hcut
  injection hcut with hdate hrest
  have hzone := splitOffset_chars t.plain
  rw [← hrest, splitOffset_chars t'.plain] at hzone
  injection hzone with htime
  have hchars : t'.zone.chars = t.zone.chars := by
    rw [htime] at hrest
    exact append_cancel_left hrest
  obtain ⟨date, time, zone, hplain⟩ := t
  obtain ⟨date', time', zone', hplain'⟩ := t'
  cases DateText.eq_of_chars_eq hdate
  cases TimeText.eq_of_chars_eq htime
  cases ZoneText.eq_of_chars_eq hchars
  rfl

/-- **What is taken apart** are the texts whose numbers fit. -/
theorem timestampFields_eq_ok_iff {f : TimestampFields} :
    timestampFields value = .ok f ↔
      ∃ t : TimestampText, t.chars = value.toList ∧ t.Fits ∧ t.fields = f := by
  constructor
  · intro h
    unfold timestampFields at h
    split at h
    · cases h
    · next datePart rest hcut =>
      simp only [bind_eq_ok_iff] at h
      obtain ⟨⟨y, m, d⟩, hdate, ⟨hh, mm, ss, nanos⟩, htime, ⟨sign, oh, om⟩, hzone, ⟨⟩⟩ := h
      obtain ⟨hvalue, -⟩ := splitOnce_eq_some_iff.mp hcut
      obtain ⟨date, rfl, hdateFits, rfl, rfl, rfl⟩ := dateFields_eq_ok_iff.mp hdate
      obtain ⟨time, htext, htimeFits, rfl, rfl, rfl, rfl⟩ := timeFields_eq_ok_iff.mp htime
      obtain ⟨zone, hrest, hzoneFits, hr, hsigns⟩ := exists_zone hzone
      cases hr
      rw [← htext] at hrest hsigns
      refine ⟨⟨date, time, zone, fun hutc => TimeText.plain_iff.mpr (hsigns hutc)⟩, ?_,
        ⟨hdateFits, htimeFits, hzoneFits⟩, rfl⟩
      rw [hvalue, hrest]
      rfl
  · rintro ⟨t, htext, ⟨hdate, htime, hzone⟩, rfl⟩
    unfold timestampFields
    rw [← htext, t.splitOnce_chars]
    simp only [bind_eq_ok_iff]
    rw [splitOffset_chars t.plain]
    exact ⟨_, dateFields_eq_ok_iff.mpr ⟨t.date, rfl, hdate, rfl, rfl, rfl⟩, _,
      timeFields_eq_ok_iff.mpr ⟨t.time, rfl, htime, rfl, rfl, rfl, rfl⟩, _,
      offsetFields_code hzone, rfl⟩

/-! ## Nothing overflows -/

variable (value)

theorem dateFields_ne_overflow (cs : List Char) : dateFields value cs ≠ .error .overflow := by
  unfold dateFields
  split
  · exact bind_ne_overflow (numberField_ne_overflow _ _) fun _ =>
      bind_ne_overflow (numberField_ne_overflow _ _) fun _ =>
      bind_ne_overflow (numberField_ne_overflow _ _) fun _ => pure_ne_overflow _
  · simp

theorem timeFields_ne_overflow (cs : List Char) : timeFields value cs ≠ .error .overflow := by
  unfold timeFields
  split
  · exact bind_ne_overflow (numberField_ne_overflow _ _) fun _ =>
      bind_ne_overflow (numberField_ne_overflow _ _) fun _ =>
      bind_ne_overflow (pointField_ne_overflow _ _) fun _ => pure_ne_overflow _
  · simp

theorem offsetParts_ne_overflow (sign : Int) (off : List Char) :
    offsetParts value sign off ≠ .error .overflow := by
  unfold offsetParts
  split
  · exact bind_ne_overflow (numberField_ne_overflow _ _) fun _ =>
      bind_ne_overflow (numberField_ne_overflow _ _) fun _ => pure_ne_overflow _
  · simp

theorem offsetFields_ne_overflow (off : Option (List Char)) :
    offsetFields value off ≠ .error .overflow := by
  unfold offsetFields
  split
  · exact pure_ne_overflow _
  · exact pure_ne_overflow _
  · exact pure_ne_overflow _
  · exact offsetParts_ne_overflow _ _ _
  · exact offsetParts_ne_overflow _ _ _
  · simp

/-- **A text is taken apart or rejected.** -/
theorem timestampFields_ne_overflow : timestampFields value ≠ .error .overflow := by
  unfold timestampFields
  split
  · simp
  · exact bind_ne_overflow (dateFields_ne_overflow _ _) fun _ =>
      bind_ne_overflow (timeFields_ne_overflow _ _) fun _ =>
      bind_ne_overflow (offsetFields_ne_overflow _ _) fun _ => pure_ne_overflow _

end LivekitVoice.Proto
