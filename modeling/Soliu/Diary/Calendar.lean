import Mathlib.Data.Fintype.Basic
import Mathlib.Data.Prod.Lex
import Mathlib.Tactic.FinCases
import Soliu.Basic.Lexicographic

/-!
# Days and how they are written: `Date.getDateString`

The days of the calendar in their order, the medium style that `getDateString` writes them in (that
of the locale `en_US`), and what comparing two such texts compares: the abbreviations of the months,
then the numerals of the days, then those of the years (`codes_lt_iff`).
-/

namespace Soliu

open List Lexicographic

/-- The leap years of the Gregorian calendar. -/
def isLeap (year : ℕ) : Bool :=
  year % 4 = 0 ∧ (year % 100 ≠ 0 ∨ year % 400 = 0)

/-- The length of each month, counted from January as 0. -/
def daysInMonth (year : ℕ) : Fin 12 → ℕ
  | 1 => if isLeap year then 29 else 28
  | 3 | 5 | 8 | 10 => 30
  | _ => 31

/-- A day of the Gregorian calendar; months are counted from 0. -/
structure Day where
  year : ℕ
  month : Fin 12
  day : ℕ
  year_pos : 1 ≤ year
  day_mem : 1 ≤ day ∧ day ≤ daysInMonth year month
deriving DecidableEq

/-- The short names of the months in the `en_US` locale. -/
def monthAbbreviation : Fin 12 → String
  | 0 => "Jan"
  | 1 => "Feb"
  | 2 => "Mar"
  | 3 => "Apr"
  | 4 => "May"
  | 5 => "Jun"
  | 6 => "Jul"
  | 7 => "Aug"
  | 8 => "Sep"
  | 9 => "Oct"
  | 10 => "Nov"
  | 11 => "Dec"

/-- The code points of a text. -/
def codes (s : String) : List ℕ := s.toList.map Char.toNat

namespace Day

/-- What the order of days goes by. -/
def key (d : Day) : ℕ ×ₗ Fin 12 ×ₗ ℕ := toLex (d.year, toLex (d.month, d.day))

/-- The place of a day in the calendar determines it. -/
lemma key_injective : Function.Injective key := by
  rintro ⟨y, m, d, _, _⟩ ⟨y', m', d', _, _⟩ h
  obtain ⟨rfl, h⟩ := Prod.mk.inj (toLex_inj.mp h)
  obtain ⟨rfl, rfl⟩ := Prod.mk.inj (toLex_inj.mp h)
  rfl

/-- The medium style of `DateFormatter`, such as `Jun 20, 2021`. -/
def mediumStyle (d : Day) : String :=
  monthAbbreviation d.month ++ " " ++ toString d.day ++ ", " ++ toString d.year

/-- `getDateString`, on the current day: neither the date it is called on nor the format is used. -/
def getDateString (currentDateTime : Day) (_format : String) : String :=
  currentDateTime.mediumStyle

/-- The order of the texts. -/
def TextBefore (x y : Day) : Prop :=
  Lex (· < ·) (codes (monthAbbreviation x.month)) (codes (monthAbbreviation y.month)) ∨
    x.month = y.month ∧ (Lex (· < ·) (codes (toString x.day)) (codes (toString y.day)) ∨
      x.day = y.day ∧ Lex (· < ·) (codes (toString x.year)) (codes (toString y.year)))

/-- The text order of two days is decided by comparing codes. -/
instance (x y : Day) : Decidable (x.TextBefore y) := inferInstanceAs (Decidable (_ ∨ _))

end Day

/-- The codes of a concatenation are those of its parts. -/
lemma codes_append (s t : String) : codes (s ++ t) = codes s ++ codes t := by
  simp [codes]

/-- The codes of a medium-style date, piece by piece. -/
lemma codes_mediumStyle (d : Day) :
    codes d.mediumStyle = codes (monthAbbreviation d.month) ++
      32 :: (codes (toString d.day) ++ 44 :: 32 :: codes (toString d.year)) := by
  simp only [Day.mediumStyle, codes_append, List.append_assoc]
  rfl

/-- The digits of a numeral come after the comma. -/
lemma lt_of_mem_codes_toString {n c : ℕ} (h : c ∈ codes (toString n)) : 44 < c ∧ c < 128 := by
  obtain ⟨d, hd, rfl⟩ := List.mem_map.mp h
  have hdigit : d.isDigit :=
    Nat.isDigit_of_mem_toDigits (by decide) (by decide) (Nat.toList_repr (n := n) ▸ hd)
  rw [Char.isDigit, Bool.and_eq_true, decide_eq_true_eq, decide_eq_true_eq] at hdigit
  have hlower : 48 ≤ d.toNat := hdigit.1
  have hupper : d.toNat ≤ 57 := hdigit.2
  omega

/-- The codes of a text determine it. -/
lemma codes_injective : Function.Injective codes := by
  intro s t h
  exact String.toList_injective (List.map_injective_iff.mpr (fun _ _ h => Char.toNat_inj.mp h) h)

/-- The codes of a decimal numeral determine the number. -/
lemma codes_toString_injective : Function.Injective fun n : ℕ => codes (toString n) := by
  intro m n h
  have hrepr : m.repr = n.repr := codes_injective h
  rw [← Nat.ofDigitChars_ten_toDigits (n := m), ← Nat.ofDigitChars_ten_toDigits (n := n),
    ← Nat.toList_repr, ← Nat.toList_repr, hrepr]

/-- The codes of the short name of a month determine the month. -/
lemma codes_monthAbbreviation_injective :
    Function.Injective fun m => codes (monthAbbreviation m) := by
  decide

namespace Day

variable (x y : Day)

/-- Comparing two texts compares the abbreviations of the months, then the numerals of the days,
then those of the years. -/
theorem codes_lt_iff :
    Lex (· < ·) (codes x.mediumStyle) (codes y.mediumStyle) ↔ x.TextBefore y := by
  have hlength : (codes (monthAbbreviation x.month)).length =
      (codes (monthAbbreviation y.month)).length := by
    have h : ∀ m, (codes (monthAbbreviation m)).length = 3 := by decide
    rw [h, h]
  rw [codes_mediumStyle, codes_mediumStyle, lex_append_iff_of_length_eq hlength, lex_cons_self_iff,
    lex_append_cons_iff (fun _ h => (lt_of_mem_codes_toString h).1)
      (fun _ h => (lt_of_mem_codes_toString h).1), lex_cons_self_iff,
    codes_monthAbbreviation_injective.eq_iff, codes_toString_injective.eq_iff]
  exact Iff.rfl

/-- Of two different days exactly one comes before the other in the text order. -/
lemma textBefore_trichotomous : x.TextBefore y ∨ x = y ∨ y.TextBefore x := by
  by_contra h
  rw [not_or, not_or] at h
  obtain ⟨hxy, hne, hyx⟩ := h
  have heq : ∀ s t : List ℕ, ¬ Lex (· < ·) s t → ¬ Lex (· < ·) t s → s = t :=
    Std.Trichotomous.trichotomous
  have hmonth : x.month = y.month := codes_monthAbbreviation_injective
    (heq _ _ (fun h => hxy (.inl h)) fun h => hyx (.inl h))
  have hday : x.day = y.day := codes_toString_injective
    (heq _ _ (fun h => hxy (.inr ⟨hmonth, .inl h⟩)) fun h => hyx (.inr ⟨hmonth.symm, .inl h⟩))
  have hyear : x.year = y.year := codes_toString_injective
    (heq _ _ (fun h => hxy (.inr ⟨hmonth, .inr ⟨hday, h⟩⟩))
      fun h => hyx (.inr ⟨hmonth.symm, .inr ⟨hday.symm, h⟩⟩))
  exact hne (key_injective (by rw [key, key, hyear, hmonth, hday]))

/-- A medium-style date is written in ASCII only. -/
lemma lt_of_mem_codes_mediumStyle {c : ℕ} (h : c ∈ codes x.mediumStyle) : c < 128 := by
  have hmonth : ∀ m, ∀ c ∈ codes (monthAbbreviation m), c < 128 := by decide
  rw [codes_mediumStyle, List.mem_append, List.mem_cons, List.mem_append, List.mem_cons,
    List.mem_cons] at h
  obtain h | rfl | h | rfl | rfl | h := h
  · exact hmonth _ _ h
  · decide
  · exact (lt_of_mem_codes_toString h).2
  · decide
  · decide
  · exact (lt_of_mem_codes_toString h).2

end Day

end Soliu
