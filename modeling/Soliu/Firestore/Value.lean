import Mathlib.Algebra.Order.Field.Rat
import Mathlib.Data.Int.Notation
import Mathlib.Data.List.Basic
import Mathlib.Tactic.Common

/-!
# Field values

The values a Firestore document holds, and the ordered field lists that maps and documents consist
of. A Swift dictionary and a Firestore map have no order of their own; `Fields.insert` keeps the
fields sorted by key, so that two maps built from the same entries are equal whatever order they
were written in. `Value.dictionary` is a dictionary literal.

The decoding half follows `_FirestoreDecoder`: a value of the wrong kind, a `null` and a missing key
make it throw (`none`), and keys that nobody asks for are ignored. An `Int` is also decoded from a
double, as long as that is a whole number and fits.
-/

namespace Soliu

/-- The value of a field. The references, the times and the places are those of documents that this
application has not written. -/
inductive Value where
  | null
  | boolean (b : Bool)
  | integer (n : ℤ)
  /-- A double is its bits, by which `DoubleBitwiseEquals` compares it. -/
  | double (bits : UInt64)
  | timestamp (seconds nanoseconds : ℤ)
  | string (s : String)
  | bytes (bytes : List UInt8)
  | reference (path : String)
  | geoPoint (latitude longitude : ℚ)
  | array (vs : List Value)
  | map (fs : List (String × Value))

/-- The fields of a map or of a document, sorted by key. -/
abbrev Fields := List (String × Value)

namespace Value

mutual

/-- Values of two kinds are never equal, as in `FieldValue::operator==`. -/
def decEq (v w : Value) : Decidable (v = w) :=
  if h : v.ctorIdx = w.ctorIdx then
    match v, w, h with
    | null, null, _ => isTrue rfl
    | boolean a, boolean b, _ => decidable_of_iff (a = b) (by simp)
    | integer a, integer b, _ => decidable_of_iff (a = b) (by simp)
    | double a, double b, _ => decidable_of_iff (a = b) (by simp)
    | timestamp a a', timestamp b b', _ => decidable_of_iff (a = b ∧ a' = b') (by simp)
    | string a, string b, _ => decidable_of_iff (a = b) (by simp)
    | bytes a, bytes b, _ => decidable_of_iff (a = b) (by simp)
    | reference a, reference b, _ => decidable_of_iff (a = b) (by simp)
    | geoPoint a a', geoPoint b b', _ => decidable_of_iff (a = b ∧ a' = b') (by simp)
    | array a, array b, _ =>
      match decEqList a b with
      | isTrue h => isTrue (by rw [h])
      | isFalse h => isFalse (by simpa using h)
    | map a, map b, _ =>
      match decEqFields a b with
      | isTrue h => isTrue (by rw [h])
      | isFalse h => isFalse (by simpa using h)
  else isFalse fun e => h (by rw [e])

/-- Equality of lists of values is decidable. -/
def decEqList : (vs ws : List Value) → Decidable (vs = ws)
  | [], [] => isTrue rfl
  | [], _ :: _ | _ :: _, [] => isFalse nofun
  | v :: vs, w :: ws =>
    match decEq v w, decEqList vs ws with
    | isTrue h, isTrue k => isTrue (by rw [h, k])
    | isFalse h, _ => isFalse (by simp [h])
    | _, isFalse k => isFalse (by simp [k])

/-- Equality of fields is decidable. -/
def decEqFields : (fs gs : List (String × Value)) → Decidable (fs = gs)
  | [], [] => isTrue rfl
  | [], _ :: _ | _ :: _, [] => isFalse nofun
  | (s, v) :: fs, (t, w) :: gs =>
    match decEq v w, decEqFields fs gs with
    | isTrue h, isTrue k => decidable_of_iff (s = t) (by simp [h, k])
    | isFalse h, _ => isFalse (by simp [h])
    | _, isFalse k => isFalse (by simp [k])

end

/-- Equality of values is decidable. -/
instance : DecidableEq Value := decEq

end Value

namespace Fields

/-- The order of keys, by their characters. -/
def precedes (key k : String) : Bool :=
  key.toList.lex k.toList fun a b => decide (a < b)

/-- Set one field, at its place in the order of keys. -/
def insert (key : String) (value : Value) : Fields → Fields
  | [] => [(key, value)]
  | (k, v) :: fs =>
    if key = k then (key, value) :: fs
    else if precedes key k then (key, value) :: (k, v) :: fs
    else (k, v) :: insert key value fs

/-- The fields of a dictionary literal. -/
def ofList (entries : List (String × Value)) : Fields :=
  entries.foldl (fun fs e => fs.insert e.1 e.2) []

/-- Looking up a key in fields with one more entry in front. -/
lemma lookup_cons {k a : String} {v : Value} {fs : Fields} :
    List.lookup k ((a, v) :: fs) = if k = a then some v else List.lookup k fs := by
  by_cases h : k = a
  · simp [h]
  · rw [List.lookup_cons, beq_false_of_ne h, if_neg h]

/-- Looking up a key after an insertion. -/
@[simp]
lemma lookup_insert {key : String} {value : Value} {fs : Fields} {k : String} :
    List.lookup k (fs.insert key value) = if k = key then some value else List.lookup k fs := by
  induction fs with
  | nil => rw [insert, lookup_cons]
  | cons f fs ih =>
    obtain ⟨a, v⟩ := f
    rw [insert]
    by_cases h₁ : key = a
    · rw [if_pos h₁, lookup_cons, lookup_cons, ← h₁]
      by_cases h : k = key <;> simp [h]
    · rw [if_neg h₁]
      by_cases h₂ : precedes key a
      · rw [if_pos h₂, lookup_cons]
      · rw [if_neg h₂, lookup_cons, lookup_cons, ih]
        by_cases h : k = key
        · rw [if_pos h, if_pos h, if_neg (h ▸ h₁)]
        · rw [if_neg h, if_neg h]

end Fields

namespace Value

/-- A dictionary literal. -/
def dictionary (entries : List (String × Value)) : Value :=
  map (Fields.ofList entries)

/-- A `String` is decoded from a string only. -/
def decodeString : Value → Option String
  | string s => some s
  | _ => none

/-- The number that a double stands for, unless it is infinite or no number. -/
def doubleValue (bits : UInt64) : Option ℚ :=
  let exponent := bits.toNat / 2 ^ 52 % 2 ^ 11
  let fraction := bits.toNat % 2 ^ 52
  let significand : ℕ := if exponent = 0 then fraction else 2 ^ 52 + fraction
  if exponent = 2 ^ 11 - 1 then none
  else some ((if bits.toNat < 2 ^ 63 then 1 else -1) *
    (significand * 2 ^ max exponent 1 / 2 ^ 1075))

/-- The bits of -0.0. -/
def negativeZero : UInt64 := 0x8000000000000000

/-- `unbox(_, as: Int.self)`: a number is truncated by `intValue`, and refused if that changes it.
Booleans are refused by identity. -/
def decodeInt : Value → Option ℤ
  | integer n => some n
  | double bits => do
    let number ← doubleValue bits
    let int := number.num.tdiv number.den
    -- numbers are compared by their signs first, which tells -0.0 from 0
    if (int : ℚ) = number ∧ (-2 ^ 63 ≤ int ∧ int < 2 ^ 63) ∧ bits ≠ negativeZero then return int
    else none
  | _ => none

example : decodeInt (double 0x4008000000000000) = some 3 := by decide +kernel
example : decodeInt (double 0x4008000000000001) = none := by decide +kernel

/-- An array is decoded if each of its elements is. -/
def decodeArray {α : Type} (decode : Value → Option α) : Value → Option (List α)
  | array vs => vs.mapM decode
  | _ => none

/-- A `Codable` structure is decoded from a map. -/
def decodeMap {α : Type} (decode : Fields → Option α) : Value → Option α
  | map fs => decode fs
  | _ => none

end Value

/-- `decode(_, forKey:)`: a missing key throws. -/
def Fields.decode {α : Type} (fs : Fields) (key : String) (decode : Value → Option α) : Option α :=
  (fs.lookup key).bind decode

/-- Decoding element by element undoes encoding element by element. -/
lemma mapM_decode_map {α β : Type} {encode : α → β} {decode : β → Option α}
    (h : ∀ a, decode (encode a) = some a) (as : List α) :
    (as.map encode).mapM decode = some as := by
  induction as with
  | nil => rfl
  | cons a as ih => simp [h, ih]

end Soliu
