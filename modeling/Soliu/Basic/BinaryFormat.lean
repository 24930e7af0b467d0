import Mathlib.Algebra.Order.Field.Power
import Mathlib.Algebra.Ring.Int.Parity
import Mathlib.Data.Int.Log
import Mathlib.Tactic.Linarith
import Soliu.Basic.ExactDouble

/-!
# Rounding to a binary format

A binary format has numbers `m * 2 ^ e` with an `m` of so many binary digits and an exponent `e`
from some least one on. `BinaryFormat.round` is the number of the format that is nearest to a
rational, and of two that are as near the one with the even `m`, as in IEEE arithmetic. A `Number`
of a format is an `ExactDouble` that rounding leaves as it is, and its arithmetic is the exact one,
rounded.

* `BinaryFormat.round_of_representable` : the numbers of the format stay what they are;
* `BinaryFormat.round_div_lt_round_div` : the quotients `k / m` up to 1 are kept apart, as long as
  `m` has no more digits than the format.
-/

/-- A binary format: the digits of a number, the place of its last digit at least, and the power of
two from which on a number is too large. The range goes past the numbers of all digits on both sides
of the point. -/
structure BinaryFormat where
  digits : ℕ
  leastPlace : ℤ
  overflow : ℤ
  digits_pos : 0 < digits
  leastPlace_le : leastPlace ≤ -digits
  digits_lt : digits < overflow

namespace BinaryFormat

/-- The format of a `Float` with 32 bits. -/
def binary32 : BinaryFormat := ⟨24, -149, 128, by decide, by decide, by decide⟩

/-- The nearest integer, and the even one of two. -/
def nearestEven (q : ℚ) : ℤ :=
  if Int.fract q < 1 / 2 then ⌊q⌋
  else if 1 / 2 < Int.fract q then ⌊q⌋ + 1
  else if Even ⌊q⌋ then ⌊q⌋
  else ⌊q⌋ + 1

/-- The nearest integer is at most one half away. -/
lemma abs_nearestEven_sub_le (q : ℚ) : |(nearestEven q : ℚ) - q| ≤ 1 / 2 := by
  have hfloor : (⌊q⌋ : ℚ) = q - Int.fract q := (Int.self_sub_fract q).symm
  have hnonneg := Int.fract_nonneg q
  have hlt := Int.fract_lt_one q
  rw [abs_le, nearestEven]
  split_ifs <;> push_cast <;> constructor <;> linarith

/-- Integers are their own nearest integers. -/
@[simp]
lemma nearestEven_intCast (n : ℤ) : nearestEven n = n := by
  rw [nearestEven, Int.fract_intCast, if_pos (by norm_num), Int.floor_intCast]

variable (F : BinaryFormat)

/-- The place of the last digit that a number of this size has in the format. -/
def place (q : ℚ) : ℤ := max (Int.log 2 |q| + 1 - F.digits) F.leastPlace

/-- The nearest number of the format. -/
def round (q : ℚ) : ℚ := nearestEven (q / 2 ^ F.place q) * 2 ^ F.place q

variable {F} {q : ℚ}

/-- Rounding is off by half of the last place at most. -/
lemma abs_round_sub_le : |F.round q - q| ≤ 2 ^ F.place q / 2 := by
  have hpos : (0 : ℚ) < 2 ^ F.place q := by positivity
  have hsub : F.round q - q = (nearestEven (q / 2 ^ F.place q) - q / 2 ^ F.place q) *
      2 ^ F.place q := by
    rw [round, sub_mul, div_mul_cancel₀ _ hpos.ne']
  rw [hsub, abs_mul, abs_of_pos hpos]
  calc |(nearestEven (q / 2 ^ F.place q) : ℚ) - q / 2 ^ F.place q| * 2 ^ F.place q
      ≤ 1 / 2 * 2 ^ F.place q := mul_le_mul_of_nonneg_right (abs_nearestEven_sub_le _) hpos.le
    _ = 2 ^ F.place q / 2 := by ring

/-- A whole number of units of its own place is not changed by rounding. -/
lemma round_eq_self_of_div {m : ℤ} (h : q / 2 ^ F.place q = m) : F.round q = q := by
  have hne : (2 : ℚ) ^ F.place q ≠ 0 := by positivity
  rw [round, h, nearestEven_intCast, ← h, div_mul_cancel₀ _ hne]

/-- A number of the format is left as it is. -/
theorem round_of_representable {m e : ℤ} (hm : |m| ≤ 2 ^ F.digits) (he : F.leastPlace ≤ e) :
    F.round (m * 2 ^ e) = m * 2 ^ e := by
  have htwo : (2 : ℚ) ≠ 0 := by norm_num
  by_cases hm0 : m = 0
  · rw [hm0, Int.cast_zero, zero_mul]
    exact round_eq_self_of_div (by rw [zero_div, Int.cast_zero])
  have hsize : |(m : ℚ) * 2 ^ e| = |(m : ℚ)| * 2 ^ e := by
    rw [abs_mul, abs_of_pos (by positivity : (0 : ℚ) < 2 ^ e)]
  have hmq : |(m : ℚ)| ≤ 2 ^ F.digits := by exact_mod_cast hm
  by_cases hplace : F.place (m * 2 ^ e) ≤ e
  · -- the last place is no higher than that of `m`
    obtain ⟨d, hd⟩ := Int.eq_ofNat_of_zero_le (sub_nonneg.mpr hplace)
    refine round_eq_self_of_div (m := m * 2 ^ d) ?_
    rw [mul_div_assoc, ← zpow_sub₀ htwo, hd]
    push_cast
    rfl
  · -- it is one higher, for a power of two that has one digit more
    have hpos : 0 < |(m : ℚ)| * 2 ^ e := by
      have := abs_pos.mpr (Int.cast_ne_zero.mpr hm0 : (m : ℚ) ≠ 0)
      positivity
    have hlog : F.place (m * 2 ^ e) = Int.log 2 |(m : ℚ) * 2 ^ e| + 1 - F.digits := by
      rw [place] at hplace ⊢
      omega
    have hle : (2 : ℚ) ^ Int.log 2 |(m : ℚ) * 2 ^ e| ≤ |(m : ℚ)| * 2 ^ e := by
      rw [hsize]
      exact_mod_cast Int.zpow_log_le_self (b := 2) (by decide) hpos
    have hbound : (2 : ℚ) ^ Int.log 2 |(m : ℚ) * 2 ^ e| ≤ 2 ^ ((F.digits : ℤ) + e) := by
      refine hle.trans ?_
      rw [zpow_add₀ htwo, zpow_natCast]
      exact mul_le_mul_of_nonneg_right hmq (by positivity)
    have hexp : Int.log 2 |(m : ℚ) * 2 ^ e| ≤ F.digits + e :=
      (zpow_le_zpow_iff_right₀ (by norm_num : (1 : ℚ) < 2)).mp hbound
    have heq : Int.log 2 |(m : ℚ) * 2 ^ e| = F.digits + e := by omega
    have hfull : |(m : ℚ)| = 2 ^ F.digits := by
      refine le_antisymm hmq ?_
      rw [heq, zpow_add₀ htwo, zpow_natCast] at hle
      exact le_of_mul_le_mul_right hle (by positivity)
    obtain ⟨d, hd⟩ : ∃ d, F.digits = d + 1 := ⟨_, (Nat.sub_add_cancel F.digits_pos).symm⟩
    have hplace' : F.place (m * 2 ^ e) = e + 1 := by omega
    have hsign : m = 2 ^ F.digits ∨ m = -2 ^ F.digits := by
      have hfull' : |m| = 2 ^ F.digits := by exact_mod_cast hfull
      exact abs_eq (by positivity) |>.mp hfull'
    obtain ⟨s, hs⟩ : ∃ s : ℤ, m = s * 2 ^ F.digits := by
      obtain h | h := hsign
      · exact ⟨1, by rw [h, one_mul]⟩
      · exact ⟨-1, by rw [h, neg_one_mul]⟩
    refine round_eq_self_of_div (m := s * 2 ^ d) ?_
    rw [hplace', hs, hd, zpow_add_one₀ htwo, pow_succ]
    push_cast
    field_simp

/-- What rounding gives is a number of the format. -/
lemma exists_round (F : BinaryFormat) (q : ℚ) :
    ∃ m e : ℤ, |m| ≤ 2 ^ F.digits ∧ F.leastPlace ≤ e ∧ F.round q = m * 2 ^ e := by
  refine ⟨_, F.place q, ?_, le_max_right _ _, rfl⟩
  have hpos : (0 : ℚ) < 2 ^ F.place q := by positivity
  have hsize : |q / 2 ^ F.place q| < 2 ^ F.digits := by
    rw [abs_div, abs_of_pos hpos, div_lt_iff₀ hpos, ← zpow_natCast, ← zpow_add₀ (by norm_num)]
    refine (Int.lt_zpow_succ_log_self (b := 2) (by decide) |q|).trans_le ?_
    rw [Nat.cast_ofNat, zpow_le_zpow_iff_right₀ (by norm_num), place]
    omega
  have hnear := abs_nearestEven_sub_le (q / 2 ^ F.place q)
  have hlt : |(nearestEven (q / 2 ^ F.place q) : ℚ)| < 2 ^ F.digits + 1 := by
    have htri := abs_sub_abs_le_abs_sub (nearestEven (q / 2 ^ F.place q) : ℚ) (q / 2 ^ F.place q)
    linarith
  exact Int.lt_add_one_iff.mp (by exact_mod_cast hlt)

/-- Rounding twice is rounding once. -/
@[simp]
lemma round_round (F : BinaryFormat) (q : ℚ) : F.round (F.round q) = F.round q := by
  obtain ⟨m, e, hm, he, h⟩ := F.exists_round q
  rw [h, round_of_representable hm he]

/-- Integers of no more digits than the format has are exact. -/
lemma round_intCast {n : ℤ} (hn : |n| ≤ 2 ^ F.digits) : F.round n = n := by
  have hplace : F.leastPlace ≤ 0 := F.leastPlace_le.trans (by omega)
  have h := round_of_representable hn hplace
  rwa [zpow_zero, mul_one] at h

/-- From 0 to 1, rounding is off by half of the last place below 1 at most. -/
lemma abs_round_sub_le_of_le_one (h0 : 0 ≤ q) (h1 : q ≤ 1) :
    |F.round q - q| ≤ 2 ^ (-F.digits : ℤ) / 2 := by
  have hexact : ∀ n : ℤ, |n| ≤ 1 → |F.round n - n| ≤ 2 ^ (-F.digits : ℤ) / 2 := by
    intro n hn
    rw [round_intCast (hn.trans (one_le_pow₀ (by norm_num))), sub_self, abs_zero]
    positivity
  obtain rfl | h1 := h1.eq_or_lt
  · simpa using hexact 1 (by decide)
  obtain rfl | h0 := h0.eq_or_lt
  · simpa using hexact 0 (by decide)
  refine abs_round_sub_le.trans (div_le_div_of_nonneg_right ?_ (by norm_num))
  have hlog : Int.log 2 |q| < 0 := by
    rw [abs_of_pos h0, ← not_le]
    intro hlog
    have hle := Int.zpow_log_le_self (b := 2) (by decide) h0
    have hone : (1 : ℚ) ≤ ((2 : ℕ) : ℚ) ^ Int.log 2 q := one_le_zpow₀ (by norm_num) hlog
    linarith
  have hplace := F.leastPlace_le
  rw [zpow_le_zpow_iff_right₀ (by norm_num), place]
  omega

/-- Quotients by an `m` that has no more digits than the format are told apart after rounding. -/
theorem round_div_lt_round_div {k m : ℕ} (hk : k < m) (hm : m ≤ 2 ^ F.digits) :
    F.round (k / m) < F.round ((k + 1 : ℕ) / m) := by
  have hpos : (0 : ℚ) < m := Nat.cast_pos.mpr (by omega)
  have hstep : ((k + 1 : ℕ) / m : ℚ) - k / m = 1 / m := by
    push_cast
    ring
  have hunit : (2 : ℚ) ^ (-F.digits : ℤ) = 1 / 2 ^ F.digits := by
    rw [zpow_neg, zpow_natCast, one_div]
  obtain hlt | rfl := hm.lt_or_eq
  · -- two halves of the last place do not bridge the gap
    have hgap : (2 : ℚ) ^ (-F.digits : ℤ) < 1 / m := by
      rw [hunit]
      exact one_div_lt_one_div_of_lt hpos (by exact_mod_cast hlt)
    have hbound : ∀ i : ℕ, i ≤ m →
        |F.round (i / m) - i / m| ≤ 2 ^ (-F.digits : ℤ) / 2 := fun i hi =>
      abs_round_sub_le_of_le_one (by positivity) ((div_le_one hpos).mpr (by exact_mod_cast hi))
    have hlow := abs_le.mp (hbound k hk.le)
    have hhigh := abs_le.mp (hbound (k + 1) hk)
    linarith [hlow.2, hhigh.1]
  · -- the quotients are numbers of the format
    have hexact : ∀ i : ℕ, i ≤ 2 ^ F.digits →
        F.round (i / (2 ^ F.digits : ℕ)) = i / (2 ^ F.digits : ℕ) := by
      intro i hi
      have hi' : |(i : ℤ)| ≤ 2 ^ F.digits := by
        rw [Nat.abs_cast]
        exact_mod_cast hi
      have h := round_of_representable (F := F) hi' F.leastPlace_le
      rw [Int.cast_natCast, hunit, mul_one_div] at h
      push_cast
      exact h
    rw [hexact k hk.le, hexact (k + 1) hk, ← sub_pos, hstep]
    positivity

/-- Quotients up to 1 are positive and at most 1 after rounding, and 1 only as they are. -/
lemma round_div_bounds {k m : ℕ} (hk : 0 < k) (hkm : k ≤ m) (hm : m ≤ 2 ^ F.digits) :
    0 < F.round (k / m) ∧ F.round (k / m) ≤ 1 ∧ (F.round (k / m) = 1 ↔ k = m) := by
  have hzero : F.round 0 = 0 := by
    simpa using round_intCast (F := F) (n := 0) (by simp)
  have hone : F.round (m / m) = 1 := by
    rw [div_self (Nat.cast_ne_zero.mpr (by omega))]
    simpa using round_intCast (F := F) (n := 1) (by simpa using one_le_pow₀ (by norm_num))
  have hmono : ∀ i j : ℕ, i < j → j ≤ m → F.round (i / m) < F.round (j / m) := by
    intro i j hij hjm
    induction j, hij using Nat.le_induction with
    | base => exact round_div_lt_round_div hjm hm
    | succ j _ ih => exact (ih (by omega)).trans (round_div_lt_round_div hjm hm)
  have hpos := hmono 0 k hk hkm
  rw [Nat.cast_zero, zero_div, hzero] at hpos
  obtain hlt | rfl := hkm.lt_or_eq
  · have hlt' := hone ▸ hmono k m hlt le_rfl
    exact ⟨hpos, hlt'.le, iff_of_false hlt'.ne hlt.ne⟩
  · exact ⟨hpos, hone.le, iff_of_true hone rfl⟩

/-! ## Numbers of a format -/

variable (F) in
/-- Rounding of doubles: a number that is too large becomes an infinity. -/
def roundDouble : ExactDouble → ExactDouble
  | .finite q =>
    if |F.round q| < 2 ^ F.overflow then .finite (F.round q) else .infinity (decide (q < 0))
  | .infinity negative => .infinity negative
  | .nan => .nan

/-- The same for doubles, infinities and what is not a number. -/
@[simp]
lemma roundDouble_roundDouble (x : ExactDouble) :
    F.roundDouble (F.roundDouble x) = F.roundDouble x := by
  cases x with
  | finite q =>
    by_cases h : |F.round q| < 2 ^ F.overflow
    · have hx : F.roundDouble (.finite q) = .finite (F.round q) := if_pos h
      rw [hx, roundDouble, round_round, if_pos h]
    · have hx : F.roundDouble (.finite q) = .infinity (decide (q < 0)) := if_neg h
      rw [hx, roundDouble]
  | infinity negative | nan => rfl

/-- A number whose rounding is small enough stays finite. -/
lemma roundDouble_finite {n : ℤ} (hq : |F.round q| ≤ n) (hn : n ≤ 2 ^ F.digits) :
    F.roundDouble (.finite q) = .finite (F.round q) := by
  refine if_pos (hq.trans_lt ?_)
  have hn' : (n : ℚ) ≤ 2 ^ (F.digits : ℤ) := by
    rw [zpow_natCast]
    exact_mod_cast hn
  exact hn'.trans_lt ((zpow_lt_zpow_iff_right₀ (by norm_num)).mpr F.digits_lt)

variable (F) in
/-- A number of the format: rounding does not change it. -/
structure Number where
  value : ExactDouble
  isRounded : F.roundDouble value = value
deriving DecidableEq

namespace Number

/-- The number nearest to the exact one. -/
def ofExact (x : ExactDouble) : F.Number := ⟨F.roundDouble x, roundDouble_roundDouble x⟩

/-- `Float(_: Int)` and its like: an integer is rounded. -/
instance : IntCast F.Number := ⟨fun n => ofExact n⟩

/-- Division rounds the exact quotient. -/
instance : Div F.Number := ⟨fun x y => ofExact (x.value / y.value)⟩

/-- Integers of up to as many digits as the format has are numbers of it. -/
lemma value_intCast {n : ℤ} (hn : |n| ≤ 2 ^ F.digits) : (n : F.Number).value = .finite n := by
  have h : (n : F.Number).value = F.roundDouble (.finite n) := rfl
  rw [h, roundDouble_finite (n := |n|) (by rw [round_intCast hn]; push_cast; rfl) hn,
    round_intCast hn]

/-- A quotient up to 1 of two integers that are exact. -/
lemma value_div {k m : ℕ} (hk : 0 < k) (hkm : k ≤ m) (hm : m ≤ 2 ^ F.digits) :
    (((k : ℤ) : F.Number) / ((m : ℤ) : F.Number)).value = .finite (F.round (k / m)) := by
  have hne : ((m : ℤ) : ℚ) ≠ 0 := by
    rw [Int.cast_natCast]
    exact Nat.cast_ne_zero.mpr (by omega)
  have hexact : ∀ i : ℕ, i ≤ m → ((i : ℤ) : F.Number).value = .finite (i : ℤ) := by
    intro i hi
    refine value_intCast ?_
    rw [Nat.abs_cast]
    exact_mod_cast hi.trans hm
  obtain ⟨hpos, hone, -⟩ := round_div_bounds (F := F) hk hkm hm
  have h : (((k : ℤ) : F.Number) / ((m : ℤ) : F.Number)).value =
      F.roundDouble (((k : ℤ) : F.Number).value / ((m : ℤ) : F.Number).value) := rfl
  rw [h, hexact k hkm, hexact m le_rfl, ExactDouble.finite_div hne, Int.cast_natCast,
    Int.cast_natCast]
  refine roundDouble_finite (n := 1) ?_ (one_le_pow₀ (by norm_num))
  rw [abs_of_pos hpos, Int.cast_one]
  exact hone

end Number

end BinaryFormat

/-- A `Float`. -/
abbrev Binary32 := BinaryFormat.binary32.Number

example : BinaryFormat.binary32.round (1 / 3) = 11184811 / 33554432 := by decide +kernel
example : BinaryFormat.binary32.round (2 ^ 24 + 1) = 2 ^ 24 := by decide +kernel
