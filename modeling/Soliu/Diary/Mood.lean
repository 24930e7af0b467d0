import Mathlib.Data.Int.Notation

/-!
# Moods and their pictures: `Mood.swift`

The diary screens ask `UIImage(named:)` for the picture of a mood. The asset catalogue has the
pictures of good and bad days under names in lower case, so there is none for these two moods
(`Mood.picture_eq_none_iff`).
-/

namespace Soliu

/-- `UIImage(named:)`: a picture by its name, if `Assets.xcassets` has an image set of this name. -/
def UIImage.named (name : String) : Option String :=
  if name ∈ ["Fair", "Great", "Poor", "bad", "good", "logo", "thumbImage1"] then some name else none

/-- `Mood.swift`. -/
inductive Mood where
  | great
  | good
  | pair
  | poor
  | bad
deriving DecidableEq

/-- The colours that the label of a mood is drawn in. -/
inductive MoodColor where
  | green
  | systemGreen
  | yellow
  | orange
  | red
deriving DecidableEq

namespace Mood

/-- `Mood(rawValue:)`. -/
def ofRawValue : ℤ → Option Mood
  | 0 => some great
  | 1 => some good
  | 2 => some pair
  | 3 => some poor
  | 4 => some bad
  | _ => none

/-- The raw values are the segments of the control, in order. -/
def rawValue : Mood → ℤ
  | great => 0
  | good => 1
  | pair => 2
  | poor => 3
  | bad => 4

/-- The mood of the raw value of a mood is that mood. -/
lemma ofRawValue_rawValue (mood : Mood) : ofRawValue mood.rawValue = some mood := by
  cases mood <;> rfl

/-- Every mood has one raw value. -/
lemma eq_rawValue {n : ℤ} {mood : Mood} (h : ofRawValue n = some mood) : n = mood.rawValue := by
  unfold ofRawValue at h
  split at h <;> cases h <;> rfl

/-- The text of the label. -/
def text : Mood → String
  | great => "Great"
  | good => "Good"
  | pair => "Pair"
  | poor => "Poor"
  | bad => "Bad"

/-- The name by which the screens ask for the picture; the one of `pair` is not its text. -/
def pictureName : Mood → String
  | great => "Great"
  | good => "Good"
  | pair => "Fair"
  | poor => "Poor"
  | bad => "Bad"

/-- The picture of the mood, if there is one of the name. -/
def picture (mood : Mood) : Option String := UIImage.named mood.pictureName

/-- The moods whose pictures are not found. -/
lemma picture_eq_none_iff {mood : Mood} : mood.picture = none ↔ mood = good ∨ mood = bad := by
  cases mood <;> decide

/-- The colour of the label. -/
def color : Mood → MoodColor
  | great => .green
  | good => .systemGreen
  | pair => .yellow
  | poor => .orange
  | bad => .red

end Mood

end Soliu
