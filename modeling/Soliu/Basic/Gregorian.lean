import Mathlib.Data.Int.Notation
import Mathlib.Data.Prod.Lex
import Mathlib.Order.Monotone.Basic
import Mathlib.Tactic.Common
import Mathlib.Tactic.IntervalCases

/-!
# Dates of the Gregorian calendar by division

The date of a day is found by division, in eras of 400 years that begin with 1 March. These dates
follow one another as in the calendar (`date_succ`), and so they are ordered as the days are
(`date_strictMono`).
-/

namespace Gregorian

/-- The leap years of the Gregorian calendar. -/
def isLeap (year : ℤ) : Prop := year % 4 = 0 ∧ (year % 100 ≠ 0 ∨ year % 400 = 0)

/-- Whether a year is a leap year can be decided. -/
instance (year : ℤ) : Decidable (isLeap year) := inferInstanceAs (Decidable (_ ∧ _))

/-- The days of a month; only February goes by the year. -/
def daysInMonth (year : ℤ) : ℕ → ℕ
  | 2 => if isLeap year then 29 else 28
  | 4 | 6 | 9 | 11 => 30
  | _ => 31

/-- The day after a date. -/
def next : ℤ × ℕ × ℕ → ℤ × ℕ × ℕ
  | (year, month, day) =>
    if day < daysInMonth year month then (year, month, day + 1)
    else if month < 12 then (year, month + 1, 1)
    else (year + 1, 1, 1)

/-- Within a month the next date has the next day. -/
lemma next_of_lt {year : ℤ} {month day : ℕ} (h : day < daysInMonth year month) :
    next (year, month, day) = (year, month, day + 1) := if_pos h

/-! ## Years -/

/-- The year of a day of the era; years begin with 1 March. -/
def yearOfEra (dayOfEra : ℕ) : ℕ :=
  (dayOfEra - dayOfEra / 1460 + dayOfEra / 36524 - dayOfEra / 146096) / 365

/-- The first day of a year of the era, counted from the start of the era. -/
def startOfYear (year : ℕ) : ℕ := 365 * year + year / 4 - year / 100 + year / 400

/-- Later days of an era are in the same year or a later one. -/
lemma yearOfEra_mono : Monotone yearOfEra := by
  refine monotone_nat_of_le_succ fun dayOfEra => ?_
  rw [yearOfEra, yearOfEra]
  exact Nat.div_le_div_right (by omega)

/-- Each year of an era starts and ends where `startOfYear` says. -/
lemma yearOfEra_startOfYear : ∀ year < 400,
    yearOfEra (startOfYear year) = year ∧ yearOfEra (startOfYear (year + 1) - 1) = year := by
  decide +kernel

/-- A year has 365 days at least. -/
lemma startOfYear_succ (year : ℕ) : startOfYear year + 365 ≤ startOfYear (year + 1) := by
  simp only [startOfYear]
  omega

/-- A day between the starts of two years is in the first of them. -/
lemma yearOfEra_eq {year dayOfEra : ℕ} (hyear : year < 400) (h : startOfYear year ≤ dayOfEra)
    (h' : dayOfEra < startOfYear (year + 1)) : yearOfEra dayOfEra = year := by
  obtain ⟨hstart, hend⟩ := yearOfEra_startOfYear year hyear
  have hlower := yearOfEra_mono h
  have hupper := yearOfEra_mono (Nat.le_sub_one_of_lt h')
  omega

/-- Each day of the era is in one of its years. -/
lemma exists_year {dayOfEra : ℕ} (h : dayOfEra < 146097) :
    ∃ year < 400, startOfYear year ≤ dayOfEra ∧ dayOfEra < startOfYear (year + 1) := by
  have hsome : ∀ n, dayOfEra < startOfYear n →
      ∃ year < n, startOfYear year ≤ dayOfEra ∧ dayOfEra < startOfYear (year + 1) := by
    intro n hn
    induction n with
    | zero => cases hn
    | succ n ih =>
      obtain hlt | hle := Nat.lt_or_ge dayOfEra (startOfYear n)
      · obtain ⟨year, hyear, hmem⟩ := ih hlt
        exact ⟨year, Nat.lt_succ_of_lt hyear, hmem⟩
      · exact ⟨n, Nat.lt_succ_self n, hle, hn⟩
  exact hsome 400 h

/-- A year has a leap day if the calendar year in which it ends is a leap year. -/
lemma startOfYear_add_one (era : ℤ) {year : ℕ} (hyear : year < 400) :
    startOfYear (year + 1) =
      startOfYear year + if isLeap (era * 400 + year + 1) then 366 else 365 := by
  split
  case isTrue h =>
    simp only [startOfYear]
    rw [isLeap] at h
    omega
  case isFalse h =>
    simp only [startOfYear]
    rw [isLeap] at h
    omega

/-! ## Months -/

/-- The first day of a month, counted from 1 March. -/
def startOfMonth (shiftedMonth : ℕ) : ℕ := (153 * shiftedMonth + 2) / 5

/-- The months are shifted: March is 0, and February is 11. -/
def month (shiftedMonth : ℕ) : ℕ :=
  if shiftedMonth < 10 then shiftedMonth + 3 else shiftedMonth - 9

/-- The date in a year that begins with 1 March. -/
def dateInYear (year : ℤ) (dayOfYear : ℕ) : ℤ × ℕ × ℕ :=
  let shiftedMonth := (5 * dayOfYear + 2) / 153
  let dayOfMonth := dayOfYear - startOfMonth shiftedMonth + 1
  (year + (if month shiftedMonth ≤ 2 then 1 else 0), month shiftedMonth, dayOfMonth)

/-- The month of a day of the year, by the starts of the months. -/
lemma shiftedMonth_eq_iff {dayOfYear m : ℕ} :
    (5 * dayOfYear + 2) / 153 = m ↔
      startOfMonth m ≤ dayOfYear ∧ dayOfYear < startOfMonth (m + 1) := by
  simp only [startOfMonth]
  omega

/-- The months have the lengths that their starts say. -/
lemma daysInMonth_month (year : ℤ) :
    ∀ m < 11, daysInMonth year (month m) = startOfMonth (m + 1) - startOfMonth m := by
  intro m hm
  interval_cases m <;> rfl

/-- The first of a month comes after the last of the one before it. -/
lemma next_month (year : ℤ) :
    ∀ m < 11, next (year + (if month m ≤ 2 then 1 else 0), month m,
        startOfMonth (m + 1) - startOfMonth m) =
      (year + (if month (m + 1) ≤ 2 then 1 else 0), month (m + 1), 1) := by
  intro m hm
  rw [next, if_neg (daysInMonth_month _ m hm).not_gt]
  interval_cases m <;> simp [month]

/-- February has the days that are left of the year. -/
lemma daysInMonth_february (year : ℤ) :
    daysInMonth (year + if month 11 ≤ 2 then 1 else 0) (month 11) =
      (if isLeap (year + 1) then 366 else 365) - startOfMonth 11 := by
  rw [show month 11 = 2 from rfl, if_pos (Nat.le_refl 2), daysInMonth]
  split <;> rfl

/-- Within a year, the next day has the next date. -/
lemma dateInYear_succ {year : ℤ} {dayOfYear : ℕ}
    (h : dayOfYear + 1 < if isLeap (year + 1) then 366 else 365) :
    dateInYear year (dayOfYear + 1) = next (dateInYear year dayOfYear) := by
  have h366 : dayOfYear + 1 < 366 := by split at h <;> omega
  obtain ⟨m, hm⟩ : ∃ m, (5 * dayOfYear + 2) / 153 = m := ⟨_, rfl⟩
  obtain ⟨hstart, hend⟩ := shiftedMonth_eq_iff.mp hm
  obtain hm11 | rfl : m < 11 ∨ m = 11 := by omega
  · have hdays := daysInMonth_month (year + if month m ≤ 2 then 1 else 0) m hm11
    rw [dateInYear, dateInYear, hm]
    obtain hlt | heq : dayOfYear + 1 < startOfMonth (m + 1) ∨
        dayOfYear + 1 = startOfMonth (m + 1) := by omega
    · have hm' : (5 * (dayOfYear + 1) + 2) / 153 = m :=
        shiftedMonth_eq_iff.mpr ⟨Nat.le_succ_of_le hstart, hlt⟩
      have hday : dayOfYear - startOfMonth m + 1 <
          startOfMonth (m + 1) - startOfMonth m := by omega
      rw [hm', next_of_lt (hday.trans_eq hdays.symm), Nat.sub_add_comm hstart]
    · have hm' : (5 * (dayOfYear + 1) + 2) / 153 = m + 1 :=
        shiftedMonth_eq_iff.mpr ⟨heq.ge, by simp only [startOfMonth] at heq ⊢; omega⟩
      have hday : dayOfYear - startOfMonth m + 1 = startOfMonth (m + 1) - startOfMonth m := by
        omega
      rw [hm', hday, next_month year m hm11, heq, Nat.sub_self]
  · have hm' : (5 * (dayOfYear + 1) + 2) / 153 = 11 :=
      shiftedMonth_eq_iff.mpr ⟨Nat.le_succ_of_le hstart, Nat.lt_succ_of_lt h366⟩
    have hday : dayOfYear - startOfMonth 11 + 1 <
        (if isLeap (year + 1) then 366 else 365) - startOfMonth 11 := by omega
    rw [dateInYear, dateInYear, hm, hm',
      next_of_lt (hday.trans_eq (daysInMonth_february year).symm), Nat.sub_add_comm hstart]

/-- After the last day of a year comes the first day of the next one. -/
lemma next_dateInYear {year : ℤ} :
    next (dateInYear year (if isLeap (year + 1) then 365 else 364)) = dateInYear (year + 1) 0 := by
  split
  case isTrue h => simp [dateInYear, next, daysInMonth, month, startOfMonth, h]
  case isFalse h => simp [dateInYear, next, daysInMonth, month, startOfMonth, h]

/-! ## Days -/

/-- The date of a day, with the days counted from 1 March of the year 0. -/
def date (day : ℤ) : ℤ × ℕ × ℕ :=
  let dayOfEra := (day % 146097).toNat
  let yearOfEra := yearOfEra dayOfEra
  let dayOfYear := dayOfEra - (365 * yearOfEra + yearOfEra / 4 - yearOfEra / 100)
  dateInYear (day / 146097 * 400 + yearOfEra) dayOfYear

/-- The date of a day, if its year of the era is known. -/
lemma date_eq {day : ℤ} {year : ℕ} (hyear : year < 400)
    (h : startOfYear year ≤ (day % 146097).toNat)
    (h' : (day % 146097).toNat < startOfYear (year + 1)) :
    date day =
      dateInYear (day / 146097 * 400 + year) ((day % 146097).toNat - startOfYear year) := by
  have hstart : 365 * year + year / 4 - year / 100 = startOfYear year := by
    rw [startOfYear, Nat.div_eq_of_lt hyear, Nat.add_zero]
  rw [date, yearOfEra_eq hyear h h', hstart]

/-- The dates of the days follow one another as in the calendar. -/
theorem date_succ (day : ℤ) : date (day + 1) = next (date day) := by
  obtain ⟨year, hyear, hstart, hend⟩ : ∃ year < 400, startOfYear year ≤ (day % 146097).toNat ∧
      (day % 146097).toNat < startOfYear (year + 1) := exists_year (by omega)
  have hdays := startOfYear_add_one (day / 146097) hyear
  have hle : startOfYear (year + 1) ≤ 146097 := by
    simp only [startOfYear]
    omega
  rw [date_eq hyear hstart hend]
  obtain hsame | hnew : (day % 146097).toNat + 1 < startOfYear (year + 1) ∨
      (day % 146097).toNat + 1 = startOfYear (year + 1) := by omega
  · have hera : (day + 1) / 146097 = day / 146097 := by omega
    have hday : ((day + 1) % 146097).toNat = (day % 146097).toNat + 1 := by omega
    rw [date_eq hyear (by omega) (by omega), hera, hday, Nat.sub_add_comm hstart]
    exact dateInYear_succ (by omega)
  · -- the last of February
    have hlast : (day % 146097).toNat - startOfYear year =
        if isLeap (day / 146097 * 400 + year + 1) then 365 else 364 := by
      split at hdays
      case isTrue h =>
        rw [if_pos h]
        omega
      case isFalse h =>
        rw [if_neg h]
        omega
    rw [hlast, next_dateInYear]
    obtain hlt | rfl : year + 1 < 400 ∨ year = 399 := by omega
    · have hend' : startOfYear (year + 1) < 146097 := by
        simp only [startOfYear]
        omega
      have hera : (day + 1) / 146097 = day / 146097 := by omega
      have hday : ((day + 1) % 146097).toNat = startOfYear (year + 1) := by omega
      have hnext := startOfYear_succ (year + 1)
      rw [date_eq hlt hday.ge (by omega), hera, hday, Nat.sub_self, Nat.cast_add_one, add_assoc]
    · have hend' : startOfYear (399 + 1) = 146097 := rfl
      have hera : (day + 1) / 146097 = day / 146097 + 1 := by omega
      have hday : ((day + 1) % 146097).toNat = 0 := by omega
      have hyear : (day / 146097 + 1) * 400 + (0 : ℕ) = day / 146097 * 400 + (399 : ℕ) + 1 := by
        omega
      rw [@date_eq (day + 1) 0 (by decide) (Nat.zero_le _) (by rw [hday]; decide), hera, hday,
        Nat.zero_sub, hyear]

/-! ## The order of dates -/

/-- What the order of dates goes by. -/
def key (date : ℤ × ℕ × ℕ) : ℤ ×ₗ ℕ ×ₗ ℕ := toLex (date.1, toLex date.2)

/-- The key of the next date is larger. -/
lemma key_lt_next (date : ℤ × ℕ × ℕ) : key date < key (next date) := by
  obtain ⟨year, month, day⟩ := date
  rw [next]
  split
  · exact Prod.Lex.right _ (Prod.Lex.right _ (Nat.lt_succ_self day))
  · split
    · exact Prod.Lex.right _ (Prod.Lex.left _ _ (Nat.lt_succ_self month))
    · exact Prod.Lex.left _ _ (Int.lt_succ year)

/-- Later days have later dates. -/
theorem date_strictMono {a b : ℤ} (h : a < b) : key (date a) < key (date b) := by
  refine strictMono_int_of_lt_succ (f := fun day => key (date day)) (fun day => ?_) h
  rw [date_succ]
  exact key_lt_next (date day)

/-- Dates are ordered as the days are, by their keys. -/
lemma key_date_lt_iff {a b : ℤ} : key (date a) < key (date b) ↔ a < b :=
  StrictMono.lt_iff_lt (f := fun day => key (date day)) fun _ _ => date_strictMono

/-- Different days have different keys. -/
lemma key_date_inj {a b : ℤ} : key (date a) = key (date b) ↔ a = b :=
  (StrictMono.injective (f := fun day => key (date day)) fun _ _ => date_strictMono).eq_iff

/-- Days are ordered as their dates are, by year, month and day. -/
lemma date_lt_iff {a b : ℤ} :
    a < b ↔ (date a).1 < (date b).1 ∨ (date a).1 = (date b).1 ∧
      ((date a).2.1 < (date b).2.1 ∨ (date a).2.1 = (date b).2.1 ∧
        (date a).2.2 < (date b).2.2) := by
  rw [← key_date_lt_iff, key, key, Prod.Lex.toLex_lt_toLex, Prod.Lex.toLex_lt_toLex]

/-- A day is given by its year, month and day. -/
lemma date_inj {a b : ℤ} :
    a = b ↔
      (date a).1 = (date b).1 ∧ (date a).2.1 = (date b).2.1 ∧ (date a).2.2 = (date b).2.2 := by
  rw [← key_date_inj, key, key, toLex_inj, Prod.ext_iff, toLex_inj, Prod.ext_iff]

/-- Later days are not in earlier years. -/
lemma year_mono {a b : ℤ} (h : a ≤ b) : (date a).1 ≤ (date b).1 := by
  obtain hlt | rfl := Int.lt_or_eq_of_le h
  · obtain hyear | ⟨hyear, -⟩ := date_lt_iff.mp hlt
    · exact hyear.le
    · exact hyear.le
  · exact le_rfl

/-- Months and days have two digits at most. -/
lemma date_bounds (day : ℤ) : (date day).2.1 ≤ 12 ∧ (date day).2.2 ≤ 31 := by
  obtain ⟨year, hyear, hstart, hend⟩ : ∃ year < 400, startOfYear year ≤ (day % 146097).toNat ∧
      (day % 146097).toNat < startOfYear (year + 1) := exists_year (by omega)
  rw [date_eq hyear hstart hend, dateInYear]
  have hdays := startOfYear_add_one (day / 146097) hyear
  have h366 : (day % 146097).toNat - startOfYear year < 366 := by
    split at hdays <;> omega
  generalize (day % 146097).toNat - startOfYear year = dayOfYear at h366 ⊢
  simp only [month, startOfMonth]
  split <;> omega

end Gregorian
