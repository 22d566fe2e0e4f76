import LivekitVoice.Calendar.Gregorian
import LivekitVoice.Flow.Result

/-! # Civil dates from day numbers and back

`days_from_civil` and `civil_from_days`, with every operation that can leave the range of an `i64`
checked: an overflow is a fault, not a value.

* **`daysFromCivil_eq`** — the number of a date that exists is its day number in the calendar,
* **`civilFromDays_spec`** — every day number gives the date that has it,
* **`civil_order_iso`** — dates and day numbers correspond, in order. -/

namespace LivekitVoice.Proto

open Calendar

/-! ## Checked arithmetic -/

/-- Why a text is not read: `invalid timestamp …`, `invalid fractional seconds …` or
`invalid duration …`, with the text that was to be read. -/
inductive WktError
  | timestamp (value : String) (what : String)
  | fraction (frac : String)
  | duration (value : String) (what : String)
  deriving DecidableEq

/-- The message; `quote` is `{:?}` of a text. -/
def WktError.message (quote : String → String) : WktError → String
  | .timestamp value what => "invalid timestamp " ++ quote value ++ what
  | .fraction frac => "invalid fractional seconds " ++ quote frac
  | .duration value what => "invalid duration " ++ quote value ++ what

/-- **Why there is no result.** -/
inductive Fault
  | rejected (error : WktError)
  /-- A number leaves the range of its type. -/
  | overflow
  deriving DecidableEq

/-- The range of an `i64`. -/
def InI64 (n : Int) : Prop := -9223372036854775808 ≤ n ∧ n ≤ 9223372036854775807
  deriving Decidable

/-- **The result of an operation on `i64`s.** -/
def i64 (n : Int) : Except Fault Int := if InI64 n then .ok n else .error .overflow

theorem i64_eq_ok_iff {n r : Int} : i64 n = .ok r ↔ InI64 n ∧ n = r := by
  unfold i64
  split
  · next h => simp [h]
  · next h => simp [h]

section
variable {α : Type} {n : Int} {f : Int → Except Fault α}

theorem i64_bind (h : InI64 n) : (i64 n >>= f) = f n := by
  rw [i64_eq_ok_iff.mpr ⟨h, rfl⟩, ok_bind]

/-- **A sequence of operations succeeds** if each of them is in range. -/
theorem i64_bind_eq_ok_iff {a : α} : (i64 n >>= f) = .ok a ↔ InI64 n ∧ f n = .ok a := by
  rw [bind_eq_ok_iff]
  constructor
  · rintro ⟨r, hr, hrest⟩
    obtain ⟨hn, rfl⟩ := i64_eq_ok_iff.mp hr
    exact ⟨hn, hrest⟩
  · rintro ⟨hn, hrest⟩
    exact ⟨n, i64_eq_ok_iff.mpr ⟨hn, rfl⟩, hrest⟩

/-- **A computation that can only overflow**: it rejects nothing. -/
def OnlyOverflows (x : Except Fault α) : Prop := ∀ fault, x = .error fault → fault = .overflow

theorem onlyOverflows_i64 (n : Int) : OnlyOverflows (i64 n) := by
  intro fault h
  unfold i64 at h
  split at h
  · cases h
  · cases h
    rfl

theorem OnlyOverflows.bind {β : Type} {x : Except Fault β} {g : β → Except Fault α}
    (hx : OnlyOverflows x) (hg : ∀ b, OnlyOverflows (g b)) : OnlyOverflows (x >>= g) := by
  intro fault h
  rcases bind_eq_error_iff.mp h with hfirst | ⟨b, -, hrest⟩
  · exact hx fault hfirst
  · exact hg b fault hrest

theorem pure_ne_overflow (a : α) : (pure a : Except Fault α) ≠ .error .overflow := fun h => by
  cases h

theorem bind_ne_overflow {β : Type} {x : Except Fault β} {g : β → Except Fault α}
    (hx : x ≠ .error .overflow) (hg : ∀ b, g b ≠ .error .overflow) :
    (x >>= g) ≠ .error .overflow := by
  intro h
  rcases bind_eq_error_iff.mp h with hfirst | ⟨b, -, hrest⟩
  · exact hx hfirst
  · exact hg b hrest

end

/-! ## From dates to days -/

variable {y m d z : Int}

/-- January and February belong to the year before. -/
def marchYear (y m : Int) : Except Fault Int := if m ≤ 2 then i64 (y - 1) else pure y

/-- **`days_from_civil`.** -/
def daysFromCivil (y m d : Int) : Except Fault Int := do
  let y ← marchYear y m
  let era := y / 400
  let cycle ← i64 (era * 400)
  let yoe ← i64 (y - cycle)
  let shifted ← i64 (m + 9)
  let mp := shifted % 12
  let doy ← i64 ((153 * mp + 2) / 5 + d)
  let doy ← i64 (doy - 1)
  let doe ← i64 (yoe * 365 + yoe / 4 - yoe / 100 + doy)
  let days ← i64 (era * 146097)
  let days ← i64 (days + doe)
  i64 (days - 719468)

theorem daysBeforeMarch_eq_cycle (y : Int) :
    daysBeforeMarch y =
      y / 400 * 146097 + ((y - y / 400 * 400) * 365 + (y - y / 400 * 400) / 4 -
        (y - y / 400 * 400) / 100) := by
  unfold daysBeforeMarch
  omega

/-- **A day number whose conversions do not overflow**: it is counted from 0000-03-01 on. -/
def NoOverflow (z : Int) : Prop := InI64 z ∧ InI64 (z + 719468)

/-- **The number of a date that exists** is its day number. -/
theorem daysFromCivil_eq (hdate : IsDate y m d) (hrange : NoOverflow (dayNumber y m d)) :
    daysFromCivil y m d = .ok (dayNumber y m d) := by
  obtain ⟨hm, hm', hd, hd'⟩ := hdate
  have hday := daysInMonth_le y m
  obtain ⟨y', hy'⟩ : ∃ y', y' = if m ≤ 2 then y - 1 else y := ⟨_, rfl⟩
  rw [dayNumber_eq_march hm hm', ← hy', daysBeforeMarch_eq_cycle, daysAfterMarch, marchEpoch]
    at hrange ⊢
  obtain ⟨⟨hlow, hhigh⟩, hlow', hhigh'⟩ := hrange
  -- the year of the cycle is below 400, the month below twelve, and so the cycle is small
  have hyoe : 0 ≤ y' - y' / 400 * 400 ∧ y' - y' / 400 * 400 < 400 := by omega
  have hmp : 0 ≤ (m + 9) % 12 ∧ (m + 9) % 12 < 12 := by omega
  have hera : -64000000000000 ≤ y' / 400 ∧ y' / 400 ≤ 64000000000000 := by omega
  have hyear : marchYear y m = .ok y' := by
    rw [marchYear, hy']
    split
    · next hfirst =>
      rw [if_pos hfirst] at hy'
      rw [i64, if_pos ⟨by omega, by omega⟩]
    · rfl
  rw [daysFromCivil, hyear]
  have hcycle : InI64 (y' / 400 * 400) := ⟨by omega, by omega⟩
  refine (i64_bind hcycle).trans ?_
  generalize y' / 400 = era at *
  generalize y' - era * 400 = yoe at *
  iterate 2 refine (i64_bind ⟨by omega, by omega⟩).trans ?_
  generalize (m + 9) % 12 = mp at *
  iterate 5 refine (i64_bind ⟨by omega, by omega⟩).trans ?_
  rw [i64, if_pos ⟨by omega, by omega⟩]
  congr 1
  omega

/-- The date of a number may be any: **what is computed is its day number**, as far as the month
is one. -/
theorem dayNumber_of_daysFromCivil (hm : 1 ≤ m) (hm' : m ≤ 12) (h : daysFromCivil y m d = .ok z) :
    z = dayNumber y m d := by
  rw [daysFromCivil, bind_eq_ok_iff] at h
  obtain ⟨y', hyear, h⟩ := h
  have hy' : y' = if m ≤ 2 then y - 1 else y := by
    unfold marchYear at hyear
    split at hyear
    · next hfirst => rw [if_pos hfirst, (i64_eq_ok_iff.mp hyear).2]
    · next hfirst => rw [if_neg hfirst, Except.ok.inj hyear]
  iterate 8 obtain ⟨-, h⟩ := i64_bind_eq_ok_iff.mp h
  obtain ⟨-, h⟩ := i64_eq_ok_iff.mp h
  rw [dayNumber_eq_march hm hm', ← hy', daysBeforeMarch_eq_cycle, daysAfterMarch, marchEpoch, ← h]
  omega

theorem onlyOverflows_daysFromCivil (y m d : Int) : OnlyOverflows (daysFromCivil y m d) := by
  have hyear : OnlyOverflows (marchYear y m) := by
    unfold marchYear
    split
    · exact onlyOverflows_i64 _
    · exact nofun
  unfold daysFromCivil
  refine hyear.bind fun y => ?_
  iterate 8 refine (onlyOverflows_i64 _).bind fun _ => ?_
  exact onlyOverflows_i64 _

/-! ## From days to dates -/

/-- January and February belong to the next year. -/
def civilYear (y m : Int) : Except Fault Int := if m ≤ 2 then i64 (y + 1) else pure y

/-- **`civil_from_days`.** -/
def civilFromDays (z : Int) : Except Fault (Int × Nat × Nat) := do
  let z ← i64 (z + 719468)
  let era := z / 146097
  let cycle ← i64 (era * 146097)
  let doe ← i64 (z - cycle)
  let yoe := (doe - doe / 1460 + doe / 36524 - doe / 146096) / 365
  let years ← i64 (era * 400)
  let y ← i64 (yoe + years)
  let doy := doe - (365 * yoe + yoe / 4 - yoe / 100)
  let mp := (5 * doy + 2) / 153
  let d := doy - (153 * mp + 2) / 5 + 1
  let m := if mp < 10 then mp + 3 else mp - 9
  let y ← civilYear y m
  -- `as u32`
  pure (y, (m % 4294967296).toNat, (d % 4294967296).toNat)

/-- **The year of a day of the cycle**, by one division. -/
theorem yearOfCycle_eq {doe c q k doy : Int} (hc : 0 ≤ c ∧ c ≤ 3) (hq : 0 ≤ q ∧ q ≤ 24)
    (hk : 0 ≤ k ∧ k ≤ 3) (hdoy : 0 ≤ doy) (hlast : doy ≤ 364 ∨ doy = 365 ∧ k = 3 ∧ (q < 24 ∨ c = 3))
    (hdoe : doe = 36524 * c + 1461 * q + 365 * k + doy) :
    (doe - doe / 1460 + doe / 36524 - doe / 146096) / 365 = 100 * c + 4 * q + k := by
  -- the centuries before, without the day that the last one has more
  have hcentury : doe / 36524 - doe / 146096 = c := by
    rcases (by omega : 36524 * c ≤ doe ∧ doe < 36524 * c + 36524 ∨ c = 3 ∧ doe = 146096) with
      hinside | hend
    · have hdiv : doe / 36524 = c := by omega
      have hnone : doe / 146096 = 0 := by omega
      omega
    · omega
  -- the leap days of the fours of years before; the one of these four at their end
  have hfours : doe / 1460 = 25 * c + q + if 1460 ≤ 24 * c + q + 365 * k + doy then 1 else 0 := by
    split <;> omega
  split at hfours <;> omega

/-- **The date of a day of a year that begins in March.** -/
theorem isDate_of_march {y mp doy : Int} (hdoy : 0 ≤ doy) (hdoy' : doy ≤ 365)
    (hleap : doy = 365 → IsLeap (y + 1)) (hmp : mp = (5 * doy + 2) / 153) :
    IsDate (if mp < 10 then y else y + 1) (if mp < 10 then mp + 3 else mp - 9)
      (doy - (153 * mp + 2) / 5 + 1) := by
  have hbounds : 0 ≤ mp ∧ mp ≤ 11 := by omega
  split
  · next hmonth =>
    have hlength := daysInMonth_eq_march (y := y) (m := mp + 3) (by omega) (by omega)
    rw [show mp + 3 - 2 = mp + 1 by omega, show mp + 3 - 3 = mp by omega] at hlength
    unfold daysAfterMarch at hlength
    refine ⟨by omega, by omega, by omega, ?_⟩
    rw [hlength]
    omega
  · next hmonth =>
    rcases (by omega : mp = 10 ∨ mp = 11) with h10 | h11
    · rw [h10]
      have hjanuary : daysInMonth (y + 1) (10 - 9) = 31 := rfl
      refine ⟨by omega, by omega, by omega, ?_⟩
      rw [hjanuary]
      omega
    · rw [h11]
      refine ⟨by omega, by omega, by omega, ?_⟩
      by_cases hlast : doy = 365
      · have hfebruary : daysInMonth (y + 1) (11 - 9) = 29 := by
          simp [daysInMonth, hleap hlast]
        rw [hfebruary]
        omega
      · have hfebruary : 28 ≤ daysInMonth (y + 1) (11 - 9) := by
          unfold daysInMonth
          split <;> split <;> omega
        omega

theorem civilYear_march {y mp : Int} (hrange : InI64 (y + 1)) (hmp : 0 ≤ mp ∧ mp ≤ 11) :
    ∃ y' m, (if mp < 10 then y else y + 1) = y' ∧ (if mp < 10 then mp + 3 else mp - 9) = m ∧
      civilYear y m = .ok y' ∧ (if m ≤ 2 then y' - 1 else y') = y ∧ (m + 9) % 12 = mp := by
  by_cases hmonth : mp < 10
  · refine ⟨y, mp + 3, if_pos hmonth, if_pos hmonth, ?_, if_neg (by omega), by omega⟩
    rw [civilYear, if_neg (by omega)]
    rfl
  · refine ⟨y + 1, mp - 9, if_neg hmonth, if_neg hmonth, ?_, ?_, by omega⟩
    · rw [civilYear, if_pos (by omega), i64, if_pos hrange]
    · rw [if_pos (by omega)]
      omega

/-- **The year and the day of the year of a day of a cycle.** -/
theorem exists_march_of_cycle {doe : Int} (hlow : 0 ≤ doe) (hhigh : doe < 146097) (era : Int) :
    ∃ yoe doy : Int, (0 ≤ yoe ∧ yoe ≤ 400) ∧ (0 ≤ doy ∧ doy ≤ 365) ∧
      (doe - doe / 1460 + doe / 36524 - doe / 146096) / 365 = yoe ∧
      doe - (365 * yoe + yoe / 4 - yoe / 100) = doy ∧
      (doy = 365 → IsLeap (yoe + era * 400 + 1)) ∧
      daysBeforeMarch (yoe + era * 400) = era * 146097 + doe - doy := by
  obtain ⟨c, q, k, doy, hc, hq, hk, hdoy, hlast, hsum⟩ := exists_year_of_cycle hlow hhigh
  refine ⟨100 * c + 4 * q + k, doy, ⟨by omega, by omega⟩, ⟨hdoy, ?_⟩,
    yearOfCycle_eq hc hq hk hdoy hlast hsum, by omega, fun hlong => ?_, ?_⟩
  · rcases hlast with hshort | ⟨hlong, -⟩
    · exact hshort.trans (by decide)
    · exact hlong.le
  · rcases hlast with hshort | ⟨-, hend⟩
    · exact absurd hshort (by rw [hlong]; decide)
    · unfold IsLeap
      omega
  · unfold daysBeforeMarch
    omega

/-- **Every day number gives the date that has it.** -/
theorem civilFromDays_spec (hrange : NoOverflow z) :
    ∃ (y : Int) (m d : Nat), civilFromDays z = .ok (y, m, d) ∧ IsDate y m d ∧
      dayNumber y m d = z := by
  obtain ⟨⟨hlow, hhigh⟩, hlow', hhigh'⟩ := hrange
  obtain ⟨era, hera⟩ : ∃ era, (z + 719468) / 146097 = era := ⟨_, rfl⟩
  obtain ⟨doe, hdoe⟩ : ∃ doe, z + 719468 - era * 146097 = doe := ⟨_, rfl⟩
  have hcycle : 0 ≤ doe ∧ doe < 146097 := by omega
  have hbounds : -64000000000000 ≤ era ∧ era ≤ 64000000000000 := by omega
  obtain ⟨yoe, doy, hyears, ⟨hdoy, hdoy'⟩, hyoe, hday, hleap, hbefore⟩ :=
    exists_march_of_cycle hcycle.1 hcycle.2 era
  obtain ⟨mp, hmp⟩ : ∃ mp, (5 * doy + 2) / 153 = mp := ⟨_, rfl⟩
  have hmonths : 0 ≤ mp ∧ mp ≤ 11 := by omega
  have hdate := isDate_of_march hdoy hdoy' hleap hmp.symm
  obtain ⟨y, m, hy, hm, hyear, hmarch, hmonth⟩ :=
    civilYear_march (y := yoe + era * 400) ⟨by omega, by omega⟩ hmonths
  obtain ⟨d, hd⟩ : ∃ d, doy - (153 * mp + 2) / 5 + 1 = d := ⟨_, rfl⟩
  rw [hy, hm, hd] at hdate
  have hnumber : dayNumber y m d = z := by
    rw [dayNumber_eq_march hdate.one_le_month hdate.month_le, hmarch, hmonth, hbefore,
      daysAfterMarch, marchEpoch]
    omega
  have hlength := daysInMonth_le y m
  obtain ⟨hm1, hm12, hd1, hd31⟩ := id hdate
  have hcastm : (((m % 4294967296).toNat : Nat) : Int) = m := by omega
  have hcastd : (((d % 4294967296).toNat : Nat) : Int) = d := by omega
  refine ⟨y, (m % 4294967296).toNat, (d % 4294967296).toNat, ?_, ?_⟩
  · rw [civilFromDays]
    refine (i64_bind ⟨by omega, by omega⟩).trans ?_
    rw [hera]
    refine (i64_bind ⟨by omega, by omega⟩).trans ?_
    rw [hdoe]
    refine (i64_bind ⟨by omega, by omega⟩).trans ?_
    rw [hyoe]
    iterate 2 refine (i64_bind ⟨by omega, by omega⟩).trans ?_
    simp only [hday, hmp, hd, hm, hyear]
    rfl
  · rw [hcastm, hcastd]
    exact ⟨hdate, hnumber⟩

/-! ## There and back -/

/-- **Civil dates and day numbers correspond, in order.** Every day number gives a date that exists
and has this number; every date that exists comes back from its number; and later dates have greater
numbers, as long as nothing overflows. -/
theorem civil_order_iso :
    (∀ z, NoOverflow z → ∃ (y : Int) (m d : Nat), civilFromDays z = .ok (y, m, d) ∧
      IsDate y m d ∧ daysFromCivil y m d = .ok z) ∧
    (∀ y m d, IsDate y m d → NoOverflow (dayNumber y m d) →
      (daysFromCivil y m d >>= civilFromDays) = .ok (y, m.toNat, d.toNat)) ∧
    ∀ y m d y' m' d', IsDate y m d → IsDate y' m' d' → NoOverflow (dayNumber y m d) →
      NoOverflow (dayNumber y' m' d') → DateBefore y m d y' m' d' →
        ∃ z z', daysFromCivil y m d = .ok z ∧ daysFromCivil y' m' d' = .ok z' ∧ z < z' := by
  refine ⟨fun z hz => ?_, fun y m d hdate hz => ?_,
    fun y m d y' m' d' hdate hdate' hz hz' hlt => ?_⟩
  · obtain ⟨y, m, d, hcivil, hdate, rfl⟩ := civilFromDays_spec hz
    exact ⟨y, m, d, hcivil, hdate, daysFromCivil_eq hdate hz⟩
  · obtain ⟨y', m', d', hcivil, hdate', hnumber⟩ := civilFromDays_spec hz
    obtain ⟨rfl, rfl, rfl⟩ := eq_of_dayNumber_eq hdate' hdate hnumber
    rw [daysFromCivil_eq hdate hz, ok_bind, hcivil, Int.toNat_natCast, Int.toNat_natCast]
  · exact ⟨_, _, daysFromCivil_eq hdate hz, daysFromCivil_eq hdate' hz',
      dayNumber_lt hdate hdate' hlt⟩

/-- The leap day of a century. -/
theorem civil_leap_day : (daysFromCivil 2000 2 29 >>= civilFromDays) = .ok (2000, 2, 29) :=
  civil_order_iso.2.1 2000 2 29 (by decide) ⟨by decide, by decide⟩

end LivekitVoice.Proto
