import Mathlib.Tactic.IntervalCases

/-! # The Gregorian calendar

Leap years, the lengths of the months, and the number of a day, counted from 1970-01-01 on, for
dates of every year (the calendar is continued to the years before it was used).

* **`dayNumber_eq_march`** — the same numbers with years that begin in March, where the leap day
  comes last and all months but the last follow one rule,
* **`dayNumber_lt`** — later dates have greater numbers,
* **`exists_year_of_cycle`** — every day of a cycle of 400 years lies in one of its years. -/

namespace LivekitVoice.Calendar

variable {y m d : Int}

/-! ## Dates -/

/-- **A leap year.** -/
def IsLeap (y : Int) : Prop := y % 4 = 0 ∧ (y % 100 ≠ 0 ∨ y % 400 = 0)
  deriving Decidable

/-- The number of days of a month. -/
def daysInMonth (y m : Int) : Int :=
  if m = 2 then if IsLeap y then 29 else 28
  else if m = 4 ∨ m = 6 ∨ m = 9 ∨ m = 11 then 30
  else 31

/-- **A date that exists.** -/
structure IsDate (y m d : Int) : Prop where
  one_le_month : 1 ≤ m
  month_le : m ≤ 12
  one_le_day : 1 ≤ d
  day_le : d ≤ daysInMonth y m

theorem isDate_iff : IsDate y m d ↔ 1 ≤ m ∧ m ≤ 12 ∧ 1 ≤ d ∧ d ≤ daysInMonth y m :=
  ⟨fun h => ⟨h.1, h.2, h.3, h.4⟩, fun ⟨h₁, h₂, h₃, h₄⟩ => ⟨h₁, h₂, h₃, h₄⟩⟩

instance (y m d : Int) : Decidable (IsDate y m d) := decidable_of_iff _ isDate_iff.symm

theorem daysInMonth_le (y m : Int) : daysInMonth y m ≤ 31 := by
  unfold daysInMonth
  split
  all_goals split <;> omega

/-! ## Day numbers -/

/-- The days from 0001-01-01 to the beginning of a year. -/
def daysBeforeYear (y : Int) : Int :=
  365 * (y - 1) + (y - 1) / 4 - (y - 1) / 100 + (y - 1) / 400

/-- The days of the first `k` months of a year. -/
def daysOfMonths (y : Int) : Nat → Int
  | 0 => 0
  | k + 1 => daysOfMonths y k + daysInMonth y (k + 1)

/-- **The number of a day**; that of 1970-01-01 is zero. -/
def dayNumber (y m d : Int) : Int :=
  daysBeforeYear y + daysOfMonths y (m - 1).toNat + (d - 1) - 719162

example : dayNumber 1970 1 1 = 0 ∧ dayNumber 2000 2 29 = 11016 := by decide

/-- The leap day. -/
def leapDay (y : Int) : Int := if IsLeap y then 1 else 0

theorem leapDay_eq (y : Int) :
    leapDay y = (y / 4 - y / 100 + y / 400) - ((y - 1) / 4 - (y - 1) / 100 + (y - 1) / 400) := by
  unfold leapDay
  split
  · next hleap =>
    obtain ⟨h4, h100⟩ := hleap
    omega
  · next hleap =>
    have hcases : y % 4 ≠ 0 ∨ (y % 100 = 0 ∧ y % 400 ≠ 0) := by
      unfold IsLeap at hleap
      omega
    omega

theorem daysBeforeYear_succ (y : Int) :
    daysBeforeYear (y + 1) = daysBeforeYear y + 365 + leapDay y := by
  rw [leapDay_eq, daysBeforeYear, daysBeforeYear, Int.add_sub_cancel]
  omega

/-! ## Years that begin in March -/

/-- The days from 0000-03-01 to 1970-01-01. -/
def marchEpoch : Int := 719468

/-- The days from 0000-03-01 to the first of March of a year. -/
def daysBeforeMarch (y : Int) : Int := 365 * y + y / 4 - y / 100 + y / 400

/-- The days from the first of March to the first of the `k`-th month after it. -/
def daysAfterMarch (k : Int) : Int := (153 * k + 2) / 5

theorem daysBeforeMarch_eq (y : Int) :
    daysBeforeMarch y = daysBeforeYear y + 59 + leapDay y + 306 := by
  rw [leapDay_eq, daysBeforeMarch, daysBeforeYear]
  omega

/-- **The months from March on** follow one rule. -/
theorem daysInMonth_eq_march (hm : 3 ≤ m) (hm' : m ≤ 12) :
    daysInMonth y m = daysAfterMarch (m - 2) - daysAfterMarch (m - 3) := by
  interval_cases m <;> rfl

theorem daysOfMonths_eq_march {k : Nat} (hk : 2 ≤ k) (hk' : k ≤ 12) :
    daysOfMonths y k = 59 + leapDay y + daysAfterMarch (k - 2) := by
  induction k, hk using Nat.le_induction with
  | base =>
    have htwo : daysOfMonths y 2 = 31 + daysInMonth y 2 := rfl
    have hfebruary : daysInMonth y 2 = 28 + leapDay y := by
      unfold leapDay
      by_cases hleap : IsLeap y <;> simp [daysInMonth, hleap]
    have hmarch : daysAfterMarch ((2 : Nat) - 2) = 0 := rfl
    omega
  | succ k hk ih =>
    have hrule := daysInMonth_eq_march (y := y) (m := k + 1) (by omega) (by omega)
    rw [daysOfMonths, ih (by omega), hrule]
    push_cast
    rw [show (k : Int) + 1 - 2 = k - 1 by omega, show (k : Int) + 1 - 3 = k - 2 by omega]
    omega

/-- **Day numbers with years that begin in March.** -/
theorem dayNumber_eq_march (hm : 1 ≤ m) (hm' : m ≤ 12) :
    dayNumber y m d =
      daysBeforeMarch (if m ≤ 2 then y - 1 else y) + daysAfterMarch ((m + 9) % 12) + (d - 1) -
        marchEpoch := by
  rw [dayNumber, marchEpoch]
  by_cases hfirst : m ≤ 2
  · -- January and February belong to the year before
    have hyear := daysBeforeYear_succ (y - 1)
    rw [if_pos hfirst, daysBeforeMarch_eq]
    rw [Int.sub_add_cancel] at hyear
    rcases (by omega : m = 1 ∨ m = 2) with rfl | rfl
    · have hnone : daysOfMonths y ((1 : Int) - 1).toNat = 0 := rfl
      have hdays : daysAfterMarch ((1 + 9) % 12) = 306 := rfl
      omega
    · have hone : daysOfMonths y ((2 : Int) - 1).toNat = 31 := rfl
      have hdays : daysAfterMarch ((2 + 9) % 12) = 337 := rfl
      omega
  · have hmonths := daysOfMonths_eq_march (y := y) (k := (m - 1).toNat) (by omega) (by omega)
    rw [if_neg hfirst, daysBeforeMarch_eq, hmonths,
      show (((m - 1).toNat : Nat) : Int) - 2 = (m + 9) % 12 by omega]
    omega

/-- **The days of a year** lie between its beginning and that of the next. -/
theorem dayNumber_mem_year (h : IsDate y m d) :
    daysBeforeYear y - 719162 ≤ dayNumber y m d ∧
      dayNumber y m d < daysBeforeYear (y + 1) - 719162 := by
  obtain ⟨hm, hm', hd, hd'⟩ := h
  have hyear := daysBeforeYear_succ y
  have hleap : 0 ≤ leapDay y ∧ leapDay y ≤ 1 := by
    unfold leapDay
    split <;> omega
  rw [dayNumber]
  by_cases hfirst : m ≤ 2
  · have hday := daysInMonth_le y m
    have hmonths : daysOfMonths y (m - 1).toNat = 31 * (m - 1) := by
      rcases (by omega : m = 1 ∨ m = 2) with rfl | rfl <;> rfl
    omega
  · have hmonths := daysOfMonths_eq_march (y := y) (k := (m - 1).toNat) (by omega) (by omega)
    have hlength := daysInMonth_eq_march (y := y) (by omega) hm'
    have hcast : (((m - 1).toNat : Nat) : Int) - 2 = m - 3 := by omega
    rw [hcast] at hmonths
    unfold daysAfterMarch at hmonths hlength
    omega

/-! ## The order of dates -/

/-- **A date comes before another**: its year, or else its month, or else its day is smaller. -/
def DateBefore (y m d y' m' d' : Int) : Prop := y < y' ∨ y = y' ∧ (m < m' ∨ m = m' ∧ d < d')

theorem daysOfMonths_le {k k' : Nat} (h : k ≤ k') : daysOfMonths y k ≤ daysOfMonths y k' := by
  induction h with
  | refl => exact Int.le_refl _
  | @step k' _ ih =>
    have hpos : 0 ≤ daysInMonth y (k' + 1) := by
      unfold daysInMonth
      split
      all_goals split <;> omega
    rw [daysOfMonths]
    omega

variable {y' m' d' : Int}

/-- **Later dates have greater numbers.** -/
theorem dayNumber_lt (h : IsDate y m d) (h' : IsDate y' m' d')
    (hlt : DateBefore y m d y' m' d') : dayNumber y m d < dayNumber y' m' d' := by
  have hyear := (dayNumber_mem_year h).2
  have hyear' := (dayNumber_mem_year h').1
  obtain ⟨hm, -, -, hd⟩ := h
  have hd' := h'.one_le_day
  rcases hlt with hlt | ⟨rfl, hlt | ⟨rfl, hlt⟩⟩
  · unfold daysBeforeYear at hyear hyear'
    omega
  · -- the months before the later one hold the earlier month whole
    have hmonths : daysOfMonths y ((m - 1).toNat + 1) ≤ daysOfMonths y (m' - 1).toNat :=
      daysOfMonths_le (by omega)
    rw [daysOfMonths, show (((m - 1).toNat : Nat) : Int) + 1 = m by omega] at hmonths
    unfold dayNumber
    omega
  · unfold dayNumber
    omega

theorem eq_of_dayNumber_eq (h : IsDate y m d) (h' : IsDate y' m' d')
    (heq : dayNumber y m d = dayNumber y' m' d') : y = y' ∧ m = m' ∧ d = d' := by
  by_contra hne
  have hbefore : DateBefore y m d y' m' d' ∨ DateBefore y' m' d' y m d := by
    unfold DateBefore
    omega
  rcases hbefore with hlt | hlt
  · exact absurd heq (dayNumber_lt h h' hlt).ne
  · exact absurd heq (dayNumber_lt h' h hlt).ne'

/-! ## The cycle of 400 years -/

/-- **A day of the cycle of 400 years**, that begins on 0000-03-01: it lies in century `c`, in the
`q`-th four years of it, in year `k` of these, and is day `doy` of that year. Only a year before a
leap year has a day 365. -/
theorem exists_year_of_cycle {doe : Int} (h : 0 ≤ doe) (h' : doe < 146097) :
    ∃ c q k doy : Int, (0 ≤ c ∧ c ≤ 3) ∧ (0 ≤ q ∧ q ≤ 24) ∧ (0 ≤ k ∧ k ≤ 3) ∧ 0 ≤ doy ∧
      (doy ≤ 364 ∨ doy = 365 ∧ k = 3 ∧ (q < 24 ∨ c = 3)) ∧
      doe = 36524 * c + 1461 * q + 365 * k + doy := by
  -- the last century has one day more, and so has the last year of four
  obtain ⟨c, doc, hc, hdoe, hdoc, hlast⟩ : ∃ c doc : Int, (0 ≤ c ∧ c ≤ 3) ∧
      doe = 36524 * c + doc ∧ (0 ≤ doc ∧ doc ≤ 36524) ∧ (doc = 36524 → c = 3) :=
    ⟨if doe / 36524 ≤ 3 then doe / 36524 else 3,
      doe - 36524 * (if doe / 36524 ≤ 3 then doe / 36524 else 3),
      by split <;> omega, by omega, by split <;> omega, by split <;> omega⟩
  obtain ⟨k, doy, hk, hdoq, hdoy, hleap⟩ : ∃ k doy : Int, (0 ≤ k ∧ k ≤ 3) ∧
      doc % 1461 = 365 * k + doy ∧ (0 ≤ doy ∧ doy ≤ 365) ∧ (doy = 365 → k = 3) :=
    ⟨if doc % 1461 / 365 ≤ 3 then doc % 1461 / 365 else 3,
      doc % 1461 - 365 * (if doc % 1461 / 365 ≤ 3 then doc % 1461 / 365 else 3),
      by split <;> omega, by omega, by split <;> omega, by split <;> omega⟩
  exact ⟨c, doc / 1461, k, doy, hc, by omega, hk, hdoy.1, by omega, by omega⟩

end LivekitVoice.Calendar
