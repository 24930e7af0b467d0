import Mathlib.Algebra.Group.Nat.Defs
import Mathlib.Data.List.Basic
import Mathlib.Data.List.TakeDrop
import Mathlib.Tactic.Common

/-!
# `strtoul` in base 16

The function of the C standard library on a text, given as the list of its characters, for an
`unsigned long` of 64 bits: white space, a sign and a prefix `0x` are passed over, then the longest
run of hexadecimal digits is converted. Without a digit the result is 0, a value that does not fit
becomes the largest one, and a minus sign negates the value modulo `2 ^ 64`.

What cannot be a part of a number ends it (`strtoul_append_cons`), so of two characters only two
digits give more than a digit's value (`strtoul_pair`, `strtoul_ne_of_countP_le`).
-/

namespace Strtoul

/-- `isspace`, in the C locale. -/
def isSpace (c : Char) : Bool := c.toNat = 32 ∨ 9 ≤ c.toNat ∧ c.toNat ≤ 13

/-- The value of a hexadecimal digit in either case. -/
def hexDigit (c : Char) : Option ℕ :=
  if 48 ≤ c.toNat ∧ c.toNat ≤ 57 then some (c.toNat - 48)
  else if 65 ≤ c.toNat ∧ c.toNat ≤ 70 then some (c.toNat - 55)
  else if 97 ≤ c.toNat ∧ c.toNat ≤ 102 then some (c.toNat - 87)
  else none

/-- The sign, if there is one, and what follows it. -/
def sign : List Char → Bool × List Char
  | [] => (false, [])
  | c :: s => if c = '-' then (true, s) else if c = '+' then (false, s) else (false, c :: s)

/-- Passes over `0x` if a digit follows. -/
def dropPrefix : List Char → List Char
  | a :: b :: c :: s =>
    if a = '0' ∧ (b = 'x' ∨ b = 'X') ∧ (hexDigit c).isSome then c :: s else a :: b :: c :: s
  | s => s

/-- The digits up to the first character that is none. -/
def digits : List Char → List ℕ
  | [] => []
  | c :: s =>
    match hexDigit c with
    | some d => d :: digits s
    | none => []

/-- The number that a list of digits stands for. -/
def value (ds : List ℕ) : ℕ := ds.foldl (fun n d => 16 * n + d) 0

/-- The value as an `unsigned long`. -/
def wrap (negative : Bool) (n : ℕ) : ℕ :=
  if 2 ^ 64 ≤ n then 2 ^ 64 - 1 else if negative then (2 ^ 64 - n) % 2 ^ 64 else n

/-- `strtoul(s, NULL, 16)`. -/
def strtoul (s : List Char) : ℕ :=
  let signed := sign (s.dropWhile isSpace)
  wrap signed.1 (value (digits (dropPrefix signed.2)))

/-- A character that no number has a part. -/
def IsForeign (c : Char) : Prop :=
  isSpace c = false ∧ hexDigit c = none ∧ c ≠ '-' ∧ c ≠ '+' ∧ c ≠ 'x' ∧ c ≠ 'X'

/-- A character beyond ASCII is foreign to `strtoul`. -/
lemma isForeign_of_not_ascii {c : Char} (h : 128 ≤ c.toNat) : IsForeign c := by
  refine ⟨?_, ?_, ?_, ?_, ?_, ?_⟩
  · simp only [isSpace, decide_eq_false_iff_not]
    omega
  · rw [hexDigit, if_neg (by omega), if_neg (by omega), if_neg (by omega)]
  all_goals
    rintro rfl
    exact absurd h (by decide)

section

variable {c : Char} {t : List Char}

/-- A foreign character does not change which sign is read. -/
lemma sign_append_cons (h : IsForeign c) (s : List Char) :
    sign (s ++ c :: t) = ((sign s).1, (sign s).2 ++ c :: t) := by
  cases s with
  | nil => simp [sign, h.2.2.1, h.2.2.2.1]
  | cons a s =>
    rw [List.cons_append, sign, sign]
    split
    · rfl
    · split <;> rfl

/-- Nor whether a prefix is read. -/
lemma dropPrefix_append_cons (h : IsForeign c) (s : List Char) :
    dropPrefix (s ++ c :: t) = dropPrefix s ++ c :: t := by
  obtain ⟨-, hdigit, -, -, hx, hX⟩ := h
  have hzero : c ≠ '0' := by
    rintro rfl
    cases hdigit
  match s, t with
  | [], [] | [], [d] | [a], [] => rfl
  | [], d :: e :: t => simp [dropPrefix, hzero]
  | [a], d :: t => simp [dropPrefix, hx, hX]
  | [a, b], t => simp [dropPrefix, hdigit]
  | a :: b :: d :: s, t =>
    rw [List.cons_append, List.cons_append, List.cons_append, dropPrefix, dropPrefix]
    split <;> rfl

/-- Nor which digits are read before it. -/
lemma digits_append_cons (h : IsForeign c) (s : List Char) : digits (s ++ c :: t) = digits s := by
  induction s with
  | nil => simp [digits, h.2.1]
  | cons a s ih => rw [List.cons_append, digits, digits, ih]

/-- Nor which spaces are passed over. -/
lemma dropWhile_append_cons (h : IsForeign c) (s : List Char) :
    (s ++ c :: t).dropWhile isSpace = s.dropWhile isSpace ++ c :: t := by
  have hstop : (c :: t).dropWhile isSpace = c :: t := by simp [h.1]
  rw [List.dropWhile_append, hstop]
  split
  case isTrue he => rw [List.isEmpty_iff.mp he, List.nil_append]
  case isFalse => rfl

/-- The conversion stops at what is not a part of a number. -/
theorem strtoul_append_cons (h : IsForeign c) (s : List Char) :
    strtoul (s ++ c :: t) = strtoul s := by
  rw [strtoul, strtoul, dropWhile_append_cons h, sign_append_cons h]
  dsimp only
  rw [dropPrefix_append_cons h, digits_append_cons h]

/-- What is beyond ASCII at the end of a text is not read. -/
lemma strtoul_append_of_not_ascii {cs : List Char} (h : ∀ d ∈ cs, 128 ≤ d.toNat) (s : List Char) :
    strtoul (s ++ cs) = strtoul s := by
  cases cs with
  | nil => rw [List.append_nil]
  | cons d cs => exact strtoul_append_cons (isForeign_of_not_ascii (h d List.mem_cons_self)) s

/-- Nothing is converted if the text starts beyond ASCII. -/
lemma strtoul_cons_of_not_ascii (h : 128 ≤ c.toNat) : strtoul (c :: t) = 0 :=
  strtoul_append_cons (isForeign_of_not_ascii h) []

/-- Leading white space is passed over. -/
lemma strtoul_cons_of_isSpace (h : isSpace c) (s : List Char) : strtoul (c :: s) = strtoul s := by
  rw [strtoul, strtoul, List.dropWhile_cons_of_pos h]

end

/-! ## How many digits a value takes -/

/-- A digit is below 16. -/
lemma lt_of_hexDigit {c : Char} {d : ℕ} (h : hexDigit c = some d) : d < 16 := by
  grind [hexDigit]

/-- So are all digits that are read. -/
lemma lt_of_mem_digits {s : List Char} {d : ℕ} (h : d ∈ digits s) : d < 16 := by
  induction s with
  | nil => cases h
  | cons c s ih =>
    rw [digits] at h
    cases hc : hexDigit c with
    | none =>
      rw [hc] at h
      cases h
    | some e =>
      rw [hc] at h
      obtain rfl | h := List.mem_cons.mp h
      · exact lt_of_hexDigit hc
      · exact ih h

/-- No more digits are read than there are. -/
lemma length_digits_le (s : List Char) :
    (digits s).length ≤ s.countP fun c => (hexDigit c).isSome := by
  induction s with
  | nil => exact Nat.le_refl 0
  | cons c s ih =>
    rw [digits, List.countP_cons]
    cases hexDigit c with
    | none => simp
    | some d => simpa using ih

/-- What remains after the sign is part of the text. -/
lemma sign_sublist (s : List Char) : (sign s).2.Sublist s := by
  cases s with
  | nil => exact List.Sublist.refl _
  | cons c s =>
    rw [sign]
    split
    · exact List.sublist_cons_self _ _
    · split
      · exact List.sublist_cons_self _ _
      · exact List.Sublist.refl _

/-- What remains after the prefix is part of the text. -/
lemma dropPrefix_sublist (s : List Char) : (dropPrefix s).Sublist s := by
  rw [dropPrefix.eq_def]
  split
  · split
    · exact (List.sublist_cons_self _ _).trans (List.sublist_cons_self _ _)
    · exact List.Sublist.refl _
  · exact List.Sublist.refl _

/-- With at most one digit the value is that of a digit, or negated. -/
theorem strtoul_ne_of_countP_le {s : List Char} {n : ℕ}
    (h : s.countP (fun c => (hexDigit c).isSome) ≤ 1) (hlower : 16 ≤ n) (hupper : n ≤ 2 ^ 63) :
    strtoul s ≠ n := by
  let signed := sign (s.dropWhile isSpace)
  have hsub : (dropPrefix signed.2).Sublist s :=
    ((dropPrefix_sublist _).trans (sign_sublist _)).trans (List.dropWhile_sublist _)
  have hlength : (digits (dropPrefix signed.2)).length ≤ 1 :=
    Nat.le_trans (length_digits_le _) (Nat.le_trans hsub.countP_le h)
  have hvalue : value (digits (dropPrefix signed.2)) < 16 := by
    match hds : digits (dropPrefix signed.2), hlength with
    | [], _ => decide
    | [d], _ =>
      have hd : d < 16 := lt_of_mem_digits (hds ▸ List.mem_singleton_self d)
      simpa [value] using hd
  change wrap signed.1 (value (digits (dropPrefix signed.2))) ≠ n
  rw [wrap, if_neg (by omega)]
  split <;> omega

/-- A single character is never read as 255. -/
lemma strtoul_singleton_ne (c : Char) : strtoul [c] ≠ 255 :=
  strtoul_ne_of_countP_le List.countP_le_length (by decide) (by decide)

/-- Two digits are converted. -/
lemma strtoul_pair {c d : Char} {a b : ℕ} (hc : hexDigit c = some a) (hd : hexDigit d = some b) :
    strtoul [c, d] = 16 * a + b := by
  have hspace : isSpace c = false := by grind [isSpace, hexDigit]
  have hminus : c ≠ '-' := by
    rintro rfl
    cases hc
  have hplus : c ≠ '+' := by
    rintro rfl
    cases hc
  have hdigits : digits [c, d] = [a, b] := by simp [digits, hc, hd]
  have ha := lt_of_hexDigit hc
  have hb := lt_of_hexDigit hd
  rw [strtoul, List.dropWhile_cons_of_neg (by simp [hspace]), sign, if_neg hminus, if_neg hplus]
  simp only [dropPrefix, hdigits, value, List.foldl_cons, List.foldl_nil, wrap]
  rw [if_neg (by omega)]
  simp

/-- The digits for 15. -/
lemma hexDigit_eq_fifteen {c : Char} : hexDigit c = some 15 ↔ c = 'F' ∨ c = 'f' := by
  constructor
  · intro h
    have hcode : c.toNat = 'F'.toNat ∨ c.toNat = 'f'.toNat := by grind [hexDigit]
    exact hcode.imp Char.toNat_inj.mp Char.toNat_inj.mp
  · rintro (rfl | rfl) <;> rfl

/-- Of two characters, the value is 255 only if both are the largest digit. -/
theorem strtoul_pair_eq {c d : Char} :
    strtoul [c, d] = 255 ↔ (c = 'F' ∨ c = 'f') ∧ (d = 'F' ∨ d = 'f') := by
  rw [← hexDigit_eq_fifteen, ← hexDigit_eq_fifteen]
  constructor
  · intro h
    by_cases hcount : [c, d].countP (fun c => (hexDigit c).isSome) ≤ 1
    · exact absurd h (strtoul_ne_of_countP_le hcount (by decide) (by decide))
    · obtain ⟨⟨a, hc⟩, b, hd⟩ :
          (∃ a, hexDigit c = some a) ∧ ∃ b, hexDigit d = some b := by
        simp only [List.countP_cons, List.countP_nil] at hcount
        rw [← Option.isSome_iff_exists, ← Option.isSome_iff_exists]
        grind
      have ha := lt_of_hexDigit hc
      have hb := lt_of_hexDigit hd
      rw [strtoul_pair hc hd] at h
      rw [hc, hd, Option.some_inj, Option.some_inj]
      omega
  · rintro ⟨hc, hd⟩
    rw [strtoul_pair hc hd]

end Strtoul
