/-
Days and dates.

Days are counted in eras of 400 years, and the years of an era start in March.  A day is found by its era, the year of
the era, the month from March and the day of the month; each of them is the greatest that does not start after it.
`CivilDay` is what they are to each other.

* `exists_civilDay` — the date of a day, in these terms;
* `Date.IsReal.exists_civilDay` — the day of a date, in these terms;
* `daysFromCivil_civilFromDays`, `civilFromDays_daysFromCivil` — days and the dates of the calendar are one to one.
-/
import Mathlib.Tactic.Common
import Reshape.Time.Calendar

namespace Reshape.Time

/-- The calendar has the date. -/
structure Date.IsReal (d : Date) : Prop where
  one_le_month : 1 ≤ d.month
  month_le : d.month ≤ 12
  one_le_day : 1 ≤ d.day
  day_le : d.day ≤ daysInMonth d.year d.month

theorem isLeapYear_add_era (y era : Int) : isLeapYear (y + 400 * era) = isLeapYear y := by
  have h4 : (y + 400 * era) % 4 = y % 4 := by omega
  have h100 : (y + 400 * era) % 100 = y % 100 := by omega
  have h400 : (y + 400 * era) % 400 = y % 400 := by omega
  rw [isLeapYear, isLeapYear, h4, h100, h400]

/-! ### Days of an era -/

/-- Days from the start of an era to the start of a year of it. -/
def startOfYear (y : Int) : Int :=
  365 * y + y / 4 - y / 100

/-- Days from the start of a year to the start of a month, counted from March. -/
def startOfMonth (m : Int) : Int :=
  (153 * m + 2) / 5

theorem startOfYear_le {y y' : Int} (h : y ≤ y') : startOfYear y ≤ startOfYear y' := by
  simp only [startOfYear]
  omega

/-- A year is over where the next one starts, and the last of an era with the era. -/
theorem lt_startOfYear_succ {y k : Int} (hy : 0 ≤ y ∧ y ≤ 399) (hle : k ≤ 365)
    (hleap : k = 365 → isLeapYear (y + 1) = true) :
    startOfYear y + k < 146097 ∧ (y ≤ 398 → startOfYear y + k < startOfYear (y + 1)) := by
  have hlast : k = 365 → (y + 1) % 4 = 0 ∧ ((y + 1) % 100 ≠ 0 ∨ (y + 1) % 400 = 0) := by
    intro hk
    simpa only [isLeapYear, Bool.and_eq_true, Bool.or_eq_true, beq_iff_eq, bne_iff_ne] using hleap hk
  simp only [startOfYear]
  omega

/-- The year of a day of an era.  Years have 365 days or 366, and the longer ones end in a leap day. -/
theorem yearOfEra_spec {n y : Int} (h0 : 0 ≤ n) (h1 : n < 146097)
    (hy : y = (n - n / 1460 + n / 36524 - n / 146096) / 365) :
    0 ≤ y ∧ y ≤ 399 ∧ startOfYear y ≤ n ∧ n ≤ startOfYear y + 365 ∧
      (n = startOfYear y + 365 → isLeapYear (y + 1) = true) := by
  have hdays : 365 * y ≤ n - n / 1460 + n / 36524 - n / 146096 ∧
      n - n / 1460 + n / 36524 - n / 146096 ≤ 365 * y + 364 := by omega
  clear hy
  obtain ⟨c, hc⟩ : ∃ c, c = n / 36524 := ⟨_, rfl⟩
  obtain ⟨d, hd⟩ : ∃ d, d = n / 146096 := ⟨_, rfl⟩
  obtain ⟨a, ha⟩ : ∃ a, a = n / 1460 := ⟨_, rfl⟩
  rw [← hc, ← hd, ← ha] at hdays
  -- the century of the year is that of the day, but for the last day of the era
  have hcases : (c = 0 ∧ d = 0) ∨ (c = 1 ∧ d = 0) ∨ (c = 2 ∧ d = 0) ∨ (c = 3 ∧ d = 0) ∨ (c = 4 ∧ d = 1) := by omega
  have hcentury : y / 100 = c - d := by
    rcases hcases with ⟨rfl, rfl⟩ | ⟨rfl, rfl⟩ | ⟨rfl, rfl⟩ | ⟨rfl, rfl⟩ | ⟨rfl, rfl⟩ <;> omega
  have hfour : a = y / 4 ∨ a = y / 4 + 1 := by
    rcases hcases with ⟨rfl, rfl⟩ | ⟨rfl, rfl⟩ | ⟨rfl, rfl⟩ | ⟨rfl, rfl⟩ | ⟨rfl, rfl⟩ <;> omega
  have hleap : y % 4 = 3 → (y % 100 = 99 → y = 399) → isLeapYear (y + 1) = true := by
    intro h4 h100
    simp only [isLeapYear, Bool.and_eq_true, Bool.or_eq_true, beq_iff_eq, bne_iff_ne]
    omega
  rw [startOfYear, hcentury]
  rcases hcases with ⟨rfl, rfl⟩ | ⟨rfl, rfl⟩ | ⟨rfl, rfl⟩ | ⟨rfl, rfl⟩ | ⟨rfl, rfl⟩ <;> rcases hfour with h | h <;>
    exact ⟨by omega, by omega, by omega, by omega, fun hn => hleap (by omega) (by omega)⟩

/-- Every month but February, which is the last of its year, ends where the next one starts. -/
theorem daysInMonth_eq (y : Int) {m : Int} {k : Nat} (h0 : 0 ≤ m) (h1 : m ≤ 10)
    (hk : (k : Int) = if m < 10 then m + 3 else m - 9) :
    (daysInMonth y k : Int) = startOfMonth (m + 1) - startOfMonth m := by
  have hm : m = 0 ∨ m = 1 ∨ m = 2 ∨ m = 3 ∨ m = 4 ∨ m = 5 ∨ m = 6 ∨ m = 7 ∨ m = 8 ∨ m = 9 ∨ m = 10 := by omega
  rcases hm with rfl | rfl | rfl | rfl | rfl | rfl | rfl | rfl | rfl | rfl | rfl <;>
    (simp only [reduceIte, Int.reduceLT, Int.reduceAdd, Int.reduceSub] at hk; obtain rfl := Int.ofNat.inj hk; rfl)

theorem monthFromMarch_spec {n m : Int} (h0 : 0 ≤ n) (h1 : n ≤ 365) (hm : m = (5 * n + 2) / 153) :
    0 ≤ m ∧ m ≤ 11 ∧ startOfMonth m ≤ n ∧ n < startOfMonth (m + 1) := by
  simp only [startOfMonth]
  omega

/-- The day of a date: the eras before its own, the years of the era before its own, and so on. -/
structure CivilDay (n : Int) (date : Date) (era year month day : Int) : Prop where
  sum : n + 719468 = era * 146097 + startOfYear year + startOfMonth month + day
  year_mem : 0 ≤ year ∧ year ≤ 399
  month_mem : 0 ≤ month ∧ month ≤ 11
  day_nonneg : 0 ≤ day
  day_lt : startOfMonth month + day < startOfMonth (month + 1)
  /-- The last month of a year, which is February, has no more than 29 days, and those only in a leap year. -/
  leap : startOfMonth month + day ≤ 365 ∧ (startOfMonth month + day = 365 → isLeapYear (year + 1) = true)
  date_year : date.year = year + era * 400 + (if month < 10 then 0 else 1)
  date_month : (date.month : Int) = if month < 10 then month + 3 else month - 9
  date_day : (date.day : Int) = day + 1

theorem exists_civilDay (n : Int) : ∃ era year month day, CivilDay n (civilFromDays n) era year month day := by
  obtain ⟨era, hera⟩ : ∃ era, era = (n + 719468) / 146097 := ⟨_, rfl⟩
  obtain ⟨k, hk⟩ : ∃ k, k = n + 719468 - era * 146097 := ⟨_, rfl⟩
  obtain ⟨year, hyear⟩ : ∃ year, year = (k - k / 1460 + k / 36524 - k / 146096) / 365 := ⟨_, rfl⟩
  obtain ⟨hyear0, hyear1, hstart, hstop, hleap⟩ := yearOfEra_spec (by omega) (by omega) hyear
  obtain ⟨l, hl⟩ : ∃ l, l = k - startOfYear year := ⟨_, rfl⟩
  obtain ⟨month, hmonth⟩ : ∃ month, month = (5 * l + 2) / 153 := ⟨_, rfl⟩
  obtain ⟨hmonth0, hmonth1, hfirst, hlast⟩ := monthFromMarch_spec (by omega) (by omega) hmonth
  have hdate : civilFromDays n =
      { year := year + era * 400 + (if (if month < 10 then month + 3 else month - 9) ≤ 2 then 1 else 0)
        month := (if month < 10 then month + 3 else month - 9).toNat
        day := (l - startOfMonth month + 1).toNat } := by
    rw [hmonth, hl, hyear, hk, hera]
    rfl
  refine ⟨era, year, month, l - startOfMonth month, ?_⟩
  exact
    { sum := by omega
      year_mem := ⟨hyear0, hyear1⟩
      month_mem := ⟨hmonth0, hmonth1⟩
      day_nonneg := by omega
      day_lt := by omega
      leap := ⟨by omega, fun h => hleap (by omega)⟩
      date_year := by rw [hdate]; dsimp only; split <;> split <;> omega
      date_month := by rw [hdate]; dsimp only; split <;> omega
      date_day := by rw [hdate]; dsimp only; omega }

/-! ### There and back -/

namespace CivilDay

variable {n era year month day : Int} {date : Date}

theorem daysFromCivil_eq (h : CivilDay n date era year month day) : daysFromCivil date = n := by
  obtain ⟨hsum, hyear, hmonth, -, -, -, hdateYear, hdateMonth, hdateDay⟩ := h
  have hshift : (if date.month ≤ 2 then date.year - 1 else date.year) = year + era * 400 := by
    split at hdateMonth <;> split <;> omega
  have hera : (year + era * 400) / 400 = era := by omega
  have hfromMarch : ((date.month : Int) + 9) % 12 = month := by
    split at hdateMonth <;> omega
  have hyearOfEra : year + era * 400 - era * 400 = year := by omega
  rw [daysFromCivil]
  simp only [hshift, hera, hfromMarch, hyearOfEra]
  rw [startOfYear, startOfMonth] at hsum
  omega

theorem isReal (h : CivilDay n date era year month day) : date.IsReal := by
  obtain ⟨-, -, ⟨hmonth0, hmonth1⟩, hday, hlt, ⟨hle, hleap⟩, hdateYear, hdateMonth, hdateDay⟩ := h
  refine ⟨by split at hdateMonth <;> omega, by split at hdateMonth <;> omega, by omega, ?_⟩
  rw [startOfMonth] at hlt hle hleap
  by_cases hlast : month = 11
  · have hfebruary : date.month = 2 := by rw [if_neg (by omega)] at hdateMonth; omega
    have hyear : date.year = year + 1 + 400 * era := by rw [if_neg (by omega)] at hdateYear; omega
    rw [hfebruary, daysInMonth, hyear, isLeapYear_add_era]
    cases hleapYear : isLeapYear (year + 1) with
    | true => simp only [if_true]; omega
    | false =>
      have hne : ¬(153 * month + 2) / 5 + day = 365 := fun heq => by simp [hleap heq] at hleapYear
      simp only [Bool.false_eq_true, if_false]
      omega
  · have hlength := daysInMonth_eq date.year hmonth0 (by omega) hdateMonth
    rw [startOfMonth, startOfMonth] at hlength
    rw [startOfMonth] at hlt
    omega

/-- The day of the era. -/
theorem dayOfEra_mem (h : CivilDay n date era year month day) :
    0 ≤ startOfYear year + (startOfMonth month + day) ∧ startOfYear year + (startOfMonth month + day) < 146097 := by
  have hstart := startOfYear_le h.year_mem.1
  have hstop := (lt_startOfYear_succ h.year_mem h.leap.1 h.leap.2).1
  have hmonth := h.month_mem
  have hday := h.day_nonneg
  refine ⟨?_, hstop⟩
  rw [show startOfYear 0 = 0 from rfl] at hstart
  simp only [startOfMonth]
  omega

variable {year' month' day' : Int} {date' : Date}

theorem year_le (h : CivilDay n date era year month day) (h' : CivilDay n date' era year' month' day') :
    year ≤ year' := by
  obtain ⟨hsum, hyear, hmonth, hday, hlt, -, -, -, -⟩ := h
  obtain ⟨hsum', hyear', -, -, -, ⟨hle', hleap'⟩, -, -, -⟩ := h'
  -- otherwise the other year is over before this one starts
  by_contra hlater
  have hstop := (lt_startOfYear_succ hyear' hle' hleap').2 (by omega)
  have hstart := startOfYear_le (by omega : year' + 1 ≤ year)
  simp only [startOfMonth] at hsum hsum' hstop
  omega

/-- A day has one date. -/
theorem unique {era' : Int} (h : CivilDay n date era year month day)
    (h' : CivilDay n date' era' year' month' day') : date = date' := by
  obtain rfl : era = era' := by
    have hera := h.dayOfEra_mem
    have hera' := h'.dayOfEra_mem
    have hsum := h.sum
    have hsum' := h'.sum
    omega
  obtain rfl : year = year' := Int.le_antisymm (h.year_le h') (h'.year_le h)
  obtain ⟨hsum, -, -, hday, hlt, -, hdateYear, hdateMonth, hdateDay⟩ := h
  obtain ⟨hsum', -, -, hday', hlt', -, hdateYear', hdateMonth', hdateDay'⟩ := h'
  simp only [startOfMonth] at hsum hsum' hlt hlt'
  obtain rfl : month = month' := by omega
  obtain rfl : day = day' := by omega
  obtain ⟨y, m, d⟩ := date
  obtain ⟨y', m', d'⟩ := date'
  simp only [Date.mk.injEq]
  dsimp only at hdateYear hdateMonth hdateDay hdateYear' hdateMonth' hdateDay'
  omega

end CivilDay

/-- The day of a date of the calendar. -/
theorem Date.IsReal.exists_civilDay {d : Date} (h : d.IsReal) :
    ∃ era year month day, CivilDay (daysFromCivil d) d era year month day := by
  obtain ⟨y, m, k⟩ := d
  obtain ⟨hm1, hm12, hk1, hkm⟩ := h
  dsimp only at hm1 hm12 hk1 hkm
  obtain ⟨shifted, hshifted⟩ : ∃ shifted, shifted = if m ≤ 2 then y - 1 else y := ⟨_, rfl⟩
  obtain ⟨fromMarch, hfromMarch⟩ : ∃ fromMarch, fromMarch = ((m : Int) + 9) % 12 := ⟨_, rfl⟩
  have hmonth : (m : Int) = if fromMarch < 10 then fromMarch + 3 else fromMarch - 9 := by split <;> omega
  have hdays : startOfMonth fromMarch + (k - 1) < startOfMonth (fromMarch + 1) ∧
      startOfMonth fromMarch + (k - 1) ≤ 365 ∧
      (startOfMonth fromMarch + (k - 1) = 365 → isLeapYear (shifted - shifted / 400 * 400 + 1) = true) := by
    by_cases hlast : fromMarch = 11
    · -- February is the one month whose length depends on its year
      obtain rfl : m = 2 := by omega
      obtain rfl : y = shifted - shifted / 400 * 400 + 1 + 400 * (shifted / 400) := by omega
      rw [daysInMonth, isLeapYear_add_era] at hkm
      simp only [hlast, startOfMonth]
      split at hkm
      · rename_i hleap
        exact ⟨by omega, by omega, fun _ => hleap⟩
      · omega
    · have hlength := daysInMonth_eq y (by omega) (by omega) hmonth
      simp only [startOfMonth] at hlength ⊢
      omega
  refine ⟨shifted / 400, shifted - shifted / 400 * 400, fromMarch, k - 1, ?_⟩
  exact
    { sum := by
        rw [daysFromCivil]
        simp only [← hshifted, ← hfromMarch]
        rw [startOfYear, startOfMonth]
        omega
      year_mem := by omega
      month_mem := by omega
      day_nonneg := by omega
      day_lt := hdays.1
      leap := hdays.2
      date_year := by dsimp only; split <;> split at hshifted <;> omega
      date_month := hmonth
      date_day := by dsimp only; omega }

/-- The day of the date of a day. -/
theorem daysFromCivil_civilFromDays (n : Int) : daysFromCivil (civilFromDays n) = n := by
  obtain ⟨era, year, month, day, h⟩ := exists_civilDay n
  exact h.daysFromCivil_eq

/-- The date of the day of a date. -/
theorem civilFromDays_daysFromCivil {d : Date} (h : d.IsReal) : civilFromDays (daysFromCivil d) = d := by
  obtain ⟨_, _, _, _, hdate⟩ := exists_civilDay (daysFromCivil d)
  obtain ⟨_, _, _, _, hself⟩ := h.exists_civilDay
  exact hdate.unique hself

theorem Date.isReal_civilFromDays (n : Int) : (civilFromDays n).IsReal := by
  obtain ⟨era, year, month, day, h⟩ := exists_civilDay n
  exact h.isReal

end Reshape.Time
