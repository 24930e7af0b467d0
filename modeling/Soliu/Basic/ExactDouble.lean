import Mathlib.Data.Rat.Floor
import Mathlib.Tactic.Common

/-!
# Doubles in exact arithmetic

`ExactDouble` is a floating-point number whose finite values are exact rationals: nothing is
rounded, but the special values that arithmetic produces are there, so that a division by zero is an
infinity or a `nan` and spreads as it does in IEEE arithmetic. There is one zero, the positive one.
-/

/-- A double without rounding. -/
inductive ExactDouble where
  | finite (q : ℚ)
  | infinity (negative : Bool)
  | nan
deriving DecidableEq

namespace ExactDouble

/-- An integer is the number of its value. -/
instance : IntCast ExactDouble := ⟨fun n => finite n⟩

/-- So is a natural number. -/
instance : NatCast ExactDouble := ⟨fun n => finite n⟩

/-- So is a numeral. -/
instance {n : ℕ} : OfNat ExactDouble n := ⟨finite n⟩

/-- Integers are finite numbers. -/
lemma intCast_eq (n : ℤ) : (n : ExactDouble) = finite n := rfl

/-- So are natural numbers. -/
lemma natCast_eq (n : ℕ) : (n : ExactDouble) = finite n := rfl

/-- So are numerals. -/
lemma ofNat_eq (n : ℕ) : (OfNat.ofNat n : ExactDouble) = finite n := rfl

/-- Addition; infinities of opposite signs have no sum. -/
protected def add : ExactDouble → ExactDouble → ExactDouble
  | finite p, finite q => finite (p + q)
  | finite _, infinity s => infinity s
  | infinity s, finite _ => infinity s
  | infinity s, infinity t => if s = t then infinity s else nan
  | nan, _ => nan
  | _, nan => nan

/-- Division; by zero it is an infinity of the sign of the dividend, or `nan` for zero by zero. -/
protected def div : ExactDouble → ExactDouble → ExactDouble
  | finite p, finite q =>
    if q = 0 then (if p = 0 then nan else infinity (decide (p < 0))) else finite (p / q)
  | finite _, infinity _ => finite 0
  | infinity s, finite q => infinity (s != decide (q < 0))
  | infinity _, infinity _ => nan
  | nan, _ => nan
  | _, nan => nan

/-- Addition as a double adds, without rounding. -/
instance : Add ExactDouble := ⟨ExactDouble.add⟩

/-- Division as a double divides, without rounding. -/
instance : Div ExactDouble := ⟨ExactDouble.div⟩

/-- Conversion to an integer towards zero; it traps on the special values. -/
def toInt? : ExactDouble → Option ℤ
  | finite q => some (if 0 ≤ q then ⌊q⌋ else ⌈q⌉)
  | infinity _ => none
  | nan => none

/-- The number is neither infinite nor no number at all. -/
def IsFinite (x : ExactDouble) : Prop := ∃ q, x = finite q

/-- Rational numbers are finite. -/
@[simp]
lemma isFinite_finite (q : ℚ) : (finite q).IsFinite := ⟨q, rfl⟩

/-- A quotient by a number is a number exactly if the dividend is one and the divisor not zero. -/
@[simp]
lemma isFinite_div_finite {x : ExactDouble} {q : ℚ} :
    (x / finite q).IsFinite ↔ x.IsFinite ∧ q ≠ 0 := by
  cases x with
  | finite p =>
    by_cases hq : q = 0
    · have h : finite p / finite q = if p = 0 then nan else infinity (decide (p < 0)) := if_pos hq
      rw [h]
      by_cases hp : p = 0 <;> simp [IsFinite, hp, hq]
    · have h : finite p / finite q = finite (p / q) := if_neg hq
      simp [h, hq]
  | infinity s =>
    have h : infinity s / finite q = infinity (s != decide (q < 0)) := rfl
    simp [IsFinite, h]
  | nan =>
    have h : nan / finite q = nan := rfl
    simp [IsFinite, h]

/-- Finite numbers are added as rational numbers. -/
@[simp]
lemma finite_add (p q : ℚ) : finite p + finite q = finite (p + q) := rfl

/-- Finite numbers are divided as rational numbers, except by zero. -/
lemma finite_div {p q : ℚ} (h : q ≠ 0) : finite p / finite q = finite (p / q) := if_neg h

/-- Converting an integer to a double and back gives the integer. -/
@[simp]
lemma toInt?_intCast (n : ℤ) : toInt? (n : ExactDouble) = some n := by
  simp [intCast_eq, toInt?]

end ExactDouble
