import Soliu.Firestore.Value

/-!
# Values that hold at least what another one holds

`Extends v w` says that `v` has all the fields of `w`, at any depth, and may have more of them. The
integers of `w` may be doubles in `v`. A
decoder is exact (`DecodesExactly`) if it decodes a value to a record exactly if the value extends
the encoding of that record. Those of scalars are, and those of arrays and fields keep it.
-/

namespace Soliu

namespace Value

/-- The number is held as an integer, or as a double of the same value that fits an `Int`. -/
def IsNumber (n : ℤ) : Value → Prop
  | integer m => m = n
  | double bits =>
    doubleValue bits = some (n : ℚ) ∧ (-2 ^ 63 ≤ n ∧ n < 2 ^ 63) ∧ bits ≠ negativeZero
  | _ => False

mutual

/-- The value is the other one, or has more fields in it, or doubles for integers. -/
def Extends (v : Value) : Value → Prop
  | null => v = null
  | boolean b => v = boolean b
  | integer n => v.IsNumber n
  | double bits => v = double bits
  | timestamp seconds nanoseconds => v = timestamp seconds nanoseconds
  | string s => v = string s
  | bytes b => v = bytes b
  | reference path => v = reference path
  | geoPoint latitude longitude => v = geoPoint latitude longitude
  | array ws => ∃ vs, v = array vs ∧ ExtendsList vs ws
  | map gs => ∃ fs, v = map fs ∧ ExtendsFields fs gs

/-- Element by element. -/
def ExtendsList (vs : List Value) : List Value → Prop
  | [] => vs = []
  | w :: ws => ∃ v vs', vs = v :: vs' ∧ Extends v w ∧ ExtendsList vs' ws

/-- Each of the fields is there, with a value that extends the one it has. -/
def ExtendsFields (fs : Fields) : List (String × Value) → Prop
  | [] => True
  | (key, w) :: gs => (∃ v, List.lookup key fs = some v ∧ Extends v w) ∧ ExtendsFields fs gs

end

end Value

open Value

/-- A value is decoded to a record exactly if it extends the encoding of the record. -/
def DecodesExactly {α : Type} (decode : Value → Option α) (encode : α → Value) : Prop :=
  ∀ v a, decode v = some a ↔ v.Extends (encode a)

namespace DecodesExactly

variable {α : Type} {decode : Value → Option α} {encode : α → Value}

/-- Strings alone are decoded to strings. -/
lemma string : DecodesExactly decodeString Value.string := by
  intro v s
  rw [Extends]
  cases v with
  | string t => rw [decodeString, Option.some.injEq, string.injEq]
  | null | boolean | integer | double | timestamp | bytes | reference | geoPoint | array | map =>
    constructor <;> (intro h; cases h)

/-- A double that is read as an integer stands for it. -/
lemma double_iff {bits : UInt64} {n : ℤ} :
    decodeInt (.double bits) = some n ↔ (Value.double bits).IsNumber n := by
  rw [decodeInt, IsNumber, Option.bind_eq_bind, Option.bind_eq_some_iff]
  constructor
  · rintro ⟨number, hnumber, h⟩
    obtain ⟨⟨hwhole, hrest⟩, h⟩ := Option.ite_none_right_eq_some.mp h
    rw [Option.pure_def, Option.some.injEq] at h
    rw [h] at hwhole hrest
    exact ⟨hwhole ▸ hnumber, hrest⟩
  · rintro ⟨hnumber, hrest⟩
    have hint : ((n : ℚ).num).tdiv (n : ℚ).den = n := by
      rw [Rat.num_intCast, Rat.den_intCast, Nat.cast_one, Int.tdiv_one]
    refine ⟨n, hnumber, ?_⟩
    rw [hint]
    exact if_pos ⟨rfl, hrest⟩

/-- The values decoded to an integer are those that are numbers equal to it. -/
lemma integer : DecodesExactly decodeInt Value.integer := by
  intro v n
  rw [Extends]
  cases v with
  | integer m => rw [decodeInt, Option.some.injEq, IsNumber]
  | double bits => exact double_iff
  | null | boolean | timestamp | string | bytes | reference | geoPoint | array | map =>
    exact ⟨fun h => (by cases h), fun h => h.elim⟩

/-- An array is decoded by its head and its tail. -/
lemma mapM_cons_iff {v : Value} {vs : List Value} {as : List α} :
    (v :: vs).mapM decode = some as ↔
      ∃ a as', decode v = some a ∧ vs.mapM decode = some as' ∧ as = a :: as' := by
  simp only [List.mapM_cons, Option.bind_eq_bind, Option.bind_eq_some_iff, Option.pure_def,
    Option.some.injEq, eq_comm (a := as), exists_and_left]

/-- An array is decoded to a list exactly if its values extend the encodings one by one. -/
lemma mapM_iff (h : DecodesExactly decode encode) (vs : List Value) (as : List α) :
    vs.mapM decode = some as ↔ ExtendsList vs (as.map encode) := by
  induction as generalizing vs with
  | nil =>
    rw [List.map_nil, ExtendsList]
    cases vs with
    | nil => exact iff_of_true rfl rfl
    | cons v vs =>
      refine ⟨fun e => ?_, fun e => by cases e⟩
      obtain ⟨a, as', -, -, e⟩ := mapM_cons_iff.mp e
      cases e
  | cons a as ih =>
    rw [List.map_cons, ExtendsList]
    cases vs with
    | nil => exact ⟨fun e => (by cases e), by simp⟩
    | cons v vs =>
      rw [mapM_cons_iff]
      constructor
      · rintro ⟨a', as', ha, has, e⟩
        cases e
        exact ⟨v, vs, rfl, (h v a).mp ha, (ih vs).mp has⟩
      · rintro ⟨v', vs', e, ha, has⟩
        cases e
        exact ⟨a, as, (h v a).mpr ha, (ih vs).mpr has, rfl⟩

/-- Where the elements are decoded exactly, so is the array. -/
lemma array (h : DecodesExactly decode encode) :
    DecodesExactly (decodeArray decode) fun as => .array (as.map encode) := by
  intro v as
  rw [Extends]
  cases v with
  | array vs =>
    rw [decodeArray, h.mapM_iff]
    simp
  | null | boolean | integer | double | timestamp | string | bytes | reference | geoPoint | map =>
    exact ⟨fun h => (by cases h), by simp⟩

/-- A map is decoded by its fields. -/
lemma map {decode : Fields → Option α} {encode : α → Fields}
    (h : ∀ fs a, decode fs = some a ↔ ExtendsFields fs (encode a)) :
    DecodesExactly (decodeMap decode) fun a => .map (encode a) := by
  intro v a
  rw [Extends]
  cases v with
  | map fs =>
    rw [decodeMap, h]
    simp
  | null | boolean | integer | double | timestamp | string | bytes | reference | geoPoint | array =>
    exact ⟨fun h => (by cases h), by simp⟩

/-- A field is decoded if it is there with a value that is. -/
lemma field (h : DecodesExactly decode encode) (fs : Fields) (key : String) (a : α) :
    fs.decode key decode = some a ↔
      ∃ v, List.lookup key fs = some v ∧ v.Extends (encode a) := by
  rw [Fields.decode, Option.bind_eq_some_iff]
  exact exists_congr fun v => and_congr_right fun _ => h v a

end DecodesExactly

end Soliu
