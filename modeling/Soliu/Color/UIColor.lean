import Mathlib.Data.Rat.Defs
import Soliu.Basic.Strtoul

/-!
# Hexadecimal colours: `UIColor+Ext.swift`

The three initialisers, on the characters of a string. Which scalars form a character is not decided
by the code: `CharacterView` has what is used of the rules for it, and `asciiCharacters` is what
they come to on ASCII strings, where a carriage return and a line feed are a single character.
-/

namespace Soliu

open Strtoul

/-- A character of Swift, an extended grapheme cluster, by its scalars. -/
abbrev Character := List Char

/-- The characters of an ASCII string. -/
def asciiCharacters : List Char → List Character
  | [] => []
  | [c] => [[c]]
  | c :: d :: s =>
    if c = '\r' ∧ d = '\n' then [c, d] :: asciiCharacters s else [c] :: asciiCharacters (d :: s)

/-- A character that starts with an ASCII scalar has no other, or is a carriage return with a line
feed. -/
def Character.IsWellFormed (x : Character) : Prop :=
  ∃ c cs, x = c :: cs ∧ (c.toNat < 128 → x = ['\r', '\n'] ∨ ∀ d ∈ cs, 128 ≤ d.toNat)

/-- How strings are divided into characters. -/
structure CharacterView where
  characters : String → List Character
  flatten : ∀ s, (characters s).flatten = s.toList
  isWellFormed : ∀ s, ∀ x ∈ characters s, x.IsWellFormed
  ascii : ∀ s, (∀ c ∈ s.toList, c.toNat < 128) → characters s = asciiCharacters s.toList

/-- `Array(s.hasPrefix("#") ? s.dropFirst() : s[...])`. -/
def CharacterView.chars (V : CharacterView) (s : String) : List Character :=
  if (V.characters s).head? = some ['#'] then (V.characters s).tail else V.characters s

/-- A colour, with exact components. -/
structure UIColor where
  red : ℚ
  green : ℚ
  blue : ℚ
  alpha : ℚ
deriving DecidableEq

namespace UIColor

/-- The `switch` of `hexaRGB`. -/
def rgbChars (chars : List Character) : Option (List Character) :=
  match chars.length with
  | 3 => some (chars.flatMap fun c => [c, c])
  | 6 => some chars
  | _ => none

/-- The `switch` of the other two. -/
def rgbaChars (chars : List Character) : Option (List Character) :=
  match chars.length with
  -- three characters are doubled and fall through
  | 3 => some (chars.flatMap (fun c => [c, c]) ++ [['F'], ['F']])
  | 6 => some (chars ++ [['F'], ['F']])
  | 8 => some chars
  | _ => none

/-- `.init(strtoul(String(chars[lower...lower + 1]), nil, 16)) / 255`; after the `switch` there are
enough characters. -/
def component (chars : List Character) (lower : ℕ) : ℚ :=
  strtoul ((chars.take (lower + 2)).drop lower).flatten / 255

/-- `init?(hexaRGB:alpha:)`. -/
def hexaRGB (V : CharacterView) (hexaRGB : String) (alpha : ℚ) : Option UIColor :=
  (rgbChars (V.chars hexaRGB)).map fun chars =>
    { red := component chars 0
      green := component chars 2
      blue := component chars 4
      alpha }

/-- `init?(hexaRGBA:)`. -/
def hexaRGBA (V : CharacterView) (hexaRGBA : String) : Option UIColor :=
  (rgbaChars (V.chars hexaRGBA)).map fun chars =>
    { red := component chars 0
      green := component chars 2
      blue := component chars 4
      alpha := component chars 6 }

/-- `init?(hexaARGB:)`, which takes the alpha from the first two characters. -/
def hexaARGB (V : CharacterView) (hexaARGB : String) : Option UIColor :=
  (rgbaChars (V.chars hexaARGB)).map fun chars =>
    { red := component chars 2
      green := component chars 4
      blue := component chars 6
      alpha := component chars 0 }

end UIColor

/-- The background colour that a cell is configured with. -/
def TestScreenTableViewCell.configure (V : CharacterView) (color : String) : Option UIColor :=
  UIColor.hexaRGB V color 1

/-- The colours of `testData.json`. -/
def testDataColors : List String := ["#64a4da", "#fd817f", "#8e99fd"]

namespace UIColor

/-- After the `switch` no slice is out of range. -/
lemma length_of_rgbChars {chars xs : List Character} (h : rgbChars chars = some xs) :
    xs.length = 6 := by
  rw [rgbChars] at h
  split at h
  case h_1 he =>
    cases h
    simp [List.length_flatMap, he]
  case h_2 he =>
    cases h
    exact he
  case h_3 => cases h

/-- Three or six characters are read by both initialisers, with `FF` as the alpha. -/
lemma rgbaChars_of_rgbChars {chars xs : List Character} (h : rgbChars chars = some xs) :
    rgbaChars chars = some (xs ++ [['F'], ['F']]) := by
  rw [rgbChars] at h
  rw [rgbaChars]
  split at h
  case h_1 he =>
    cases h
    rw [he]
    rfl
  case h_2 he =>
    cases h
    rw [he]
    rfl
  case h_3 => cases h

/-- After the `switch` no slice is out of range. -/
lemma length_of_rgbaChars {chars xs : List Character} (h : rgbaChars chars = some xs) :
    xs.length = 8 := by
  rw [rgbaChars] at h
  split at h
  case h_1 he =>
    cases h
    simp [List.length_flatMap, he]
  case h_2 he =>
    cases h
    simp [he]
  case h_3 he =>
    cases h
    exact he
  case h_4 => cases h

end UIColor

end Soliu
