import Mathlib.Data.Char
import Mathlib.Data.List.Lex
import Mathlib.Tactic.Common
import Mathlib.Tactic.Ring

/-!
# The order of decimal numerals

Numerals of the same length are ordered as texts in the way their values are
(`lex_iff_ofDigitChars_lt`), so numerals with leading zeros are.
-/

namespace Decimal

open List

/-- The digits are the characters from 48 to 57. -/
lemma toNat_of_isDigit {c : Char} (h : c.isDigit) : 48 ≤ c.toNat ∧ c.toNat ≤ 57 := by
  rw [Char.isDigit, Bool.and_eq_true, decide_eq_true_eq, decide_eq_true_eq] at h
  exact h

/-- The first digit of a text counts for the highest power of ten. -/
lemma ofDigitChars_cons_zero (c : Char) (cs : List Char) :
    Nat.ofDigitChars 10 (c :: cs) 0 =
      10 ^ cs.length * (c.toNat - 48) + Nat.ofDigitChars 10 cs 0 := by
  rw [Nat.ofDigitChars_cons, Nat.ofDigitChars_eq_ofDigitChars_zero, Nat.mul_zero, Nat.zero_add]
  rfl

/-- A text of digits stands for a number below the power of ten of its length. -/
lemma ofDigitChars_lt {cs : List Char} (h : ∀ c ∈ cs, c.isDigit) :
    Nat.ofDigitChars 10 cs 0 < 10 ^ cs.length := by
  induction cs with
  | nil => exact Nat.zero_lt_one
  | cons c cs ih =>
    rw [forall_mem_cons] at h
    have hdigit := toNat_of_isDigit h.1
    have hlt := ih h.2
    have hmul : 10 ^ cs.length * (c.toNat - 48) ≤ 10 ^ cs.length * 9 :=
      Nat.mul_le_mul_left _ (by omega)
    rw [ofDigitChars_cons_zero, length_cons, Nat.pow_succ]
    omega

/-- The order of two numbers goes by their leading parts first. -/
lemma mul_add_lt_iff {b m n x y : ℕ} (hx : x < b) (hy : y < b) :
    b * m + x < b * n + y ↔ m < n ∨ m = n ∧ x < y := by
  obtain hlt | rfl | hgt := Nat.lt_trichotomy m n
  · have hmul := Nat.mul_le_mul_left b (Nat.succ_le_of_lt hlt)
    rw [Nat.mul_succ] at hmul
    exact iff_of_true (by omega) (.inl hlt)
  · simp
  · have hmul := Nat.mul_le_mul_left b (Nat.succ_le_of_lt hgt)
    rw [Nat.mul_succ] at hmul
    exact iff_of_false (by omega) (by omega)

/-- Texts of digits of one length are ordered as their numbers are. -/
theorem lex_iff_ofDigitChars_lt {cs cs' : List Char} (hlength : cs.length = cs'.length)
    (h : ∀ c ∈ cs, c.isDigit) (h' : ∀ c ∈ cs', c.isDigit) :
    Lex (· < ·) cs cs' ↔ Nat.ofDigitChars 10 cs 0 < Nat.ofDigitChars 10 cs' 0 := by
  induction cs generalizing cs' with
  | nil =>
    obtain rfl := length_eq_zero_iff.mp hlength.symm
    simp
  | cons c cs ih =>
    obtain ⟨c', cs', rfl⟩ := exists_cons_of_length_eq_add_one hlength.symm
    rw [forall_mem_cons] at h h'
    have hlength : cs.length = cs'.length := Nat.succ.inj hlength
    have hlt := ofDigitChars_lt h.2
    have hlt' := ofDigitChars_lt h'.2
    rw [← hlength] at hlt'
    rw [cons_lex_cons_iff, ih hlength h.2 h'.2, ofDigitChars_cons_zero, ofDigitChars_cons_zero,
      ← hlength, mul_add_lt_iff hlt hlt', Char.lt_def, UInt32.lt_iff_toNat_lt, ← Char.toNat_inj]
    have hc := toNat_of_isDigit h.1
    have hc' := toNat_of_isDigit h'.1
    change c.toNat < c'.toNat ∨ _ ↔ _
    omega

/-- A numeral with leading zeros. -/
def padded (width n : ℕ) : List Char :=
  replicate (width - (toString n).length) '0' ++ (toString n).toList

section

variable {width m n : ℕ}

/-- A padded number consists of digits. -/
lemma isDigit_of_mem_padded {c : Char} (h : c ∈ padded width n) : c.isDigit := by
  rw [padded, mem_append] at h
  obtain h | h := h
  · rw [eq_of_mem_replicate h]
    rfl
  · exact Nat.isDigit_of_mem_toDigits (by decide) (by decide) (Nat.toList_repr (n := n) ▸ h)

/-- A number that fits is padded to the width. -/
lemma length_padded (hwidth : 0 < width) (h : n < 10 ^ width) :
    (padded width n).length = width := by
  have hle := (Nat.length_toDigits_le_iff (by decide) hwidth).mpr h
  rw [← Nat.toList_repr, String.length_toList] at hle
  rw [padded, length_append, length_replicate, String.length_toList]
  exact Nat.sub_add_cancel hle

/-- Reading a padded number gives the number back. -/
lemma ofDigitChars_padded : Nat.ofDigitChars 10 (padded width n) 0 = n := by
  have htoString : (toString n).toList = Nat.toDigits 10 n := Nat.toList_repr
  rw [padded, Nat.ofDigitChars_append, Nat.ofDigitChars_replicate_zero, Nat.mul_zero, htoString,
    Nat.ofDigitChars_ten_toDigits]

/-- Padded numbers that fit are ordered as the numbers are. -/
lemma padded_lex_iff (hwidth : 0 < width) (hm : m < 10 ^ width) (hn : n < 10 ^ width) :
    Lex (· < ·) (padded width m) (padded width n) ↔ m < n := by
  rw [lex_iff_ofDigitChars_lt (by rw [length_padded hwidth hm, length_padded hwidth hn])
    (fun _ => isDigit_of_mem_padded) (fun _ => isDigit_of_mem_padded), ofDigitChars_padded,
    ofDigitChars_padded]

/-- Different numbers have different padded texts. -/
lemma padded_injective (width : ℕ) : Function.Injective (padded width) := by
  intro m n h
  have hvalue := congrArg (Nat.ofDigitChars 10 · 0) h
  rwa [ofDigitChars_padded, ofDigitChars_padded] at hvalue

end

end Decimal
