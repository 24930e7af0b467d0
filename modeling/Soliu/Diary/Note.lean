import Mathlib.Algebra.Ring.Int.Defs
import Soliu.Diary.Consistency
import Soliu.Diary.Mood

/-!
# The note of a diary: `DiarySubviewController.swift`

The text view holds either the user's note or the placeholder, and while the user is not editing,
its colour tells which (`Holds`). Saving reads the text and not the colour, so it stores the
placeholder when the user has left the field without a note (`saves_typed_iff`).
-/

namespace Soliu

/-- The colours the text view takes. -/
inductive TextColor where
  /-- `labelColor`, which the storyboard sets. -/
  | label
  | lightGray
  | black
deriving DecidableEq

/-- The sheet on which a diary is composed, with what its outlets show. -/
structure DiarySubviewController where
  moodImageView : Option String := none
  currentTimeDate : Option String := none
  selectedSegmentIndex : ℤ := 0
  text : String := "Place Holder"
  textColor : TextColor := .label
  isEditing : Bool := false
deriving DecidableEq

/-- What the user does; the text changes only while the field is being edited. -/
inductive NoteEvent where
  | beginEditing
  | changeText (text : String)
  | endEditing
  | moodSegmentedControlChanged (selectedSegmentIndex : ℤ)
  | saveButtonClicked (date : String)
deriving DecidableEq

/-- What the Save button does, in this order. -/
inductive NoteOutput where
  | saveDiaryData (name : String) (mood : Int32) (date note : String)
  | reloadData
  | dismiss
deriving DecidableEq

namespace DiarySubviewController

/-- `viewDidLoad`, with the current day as `getDateString` renders it. -/
def viewDidLoad (self : DiarySubviewController) (date : String) : DiarySubviewController :=
  { self with currentTimeDate := some date, text := "Placeholder", textColor := .lightGray }

/-- The action of the segmented control, which shows the picture of the segment chosen. -/
def moodSegmentedControlChanged (self : DiarySubviewController) : DiarySubviewController :=
  match self.selectedSegmentIndex with
  | 0 => { self with moodImageView := UIImage.named "Great" }
  | 1 => { self with moodImageView := UIImage.named "Good" }
  | 2 => { self with moodImageView := UIImage.named "Fair" }
  | 3 => { self with moodImageView := UIImage.named "Poor" }
  | 4 => { self with moodImageView := UIImage.named "Bad" }
  | _ => self

/-- `Int32(_:)`, which traps on an integer that does not fit. -/
def int32 (n : ℤ) : Option Int32 :=
  if -2 ^ 31 ≤ n ∧ n < 2 ^ 31 then some (Int32.ofInt n) else none

/-- The action of the Save button; `Int32` traps on a segment out of its range. -/
def saveButtonClicked (self : DiarySubviewController) (date : String) :
    Option (DiarySubviewController × List NoteOutput) := do
  let mood ← int32 self.selectedSegmentIndex
  return (self, [.saveDiaryData "" mood date self.text, .reloadData, .dismiss])

/-- The delegate method at the beginning of editing: the placeholder gives way to an empty text. -/
def textViewDidBeginEditing (self : DiarySubviewController) : DiarySubviewController :=
  if self.textColor = .lightGray then { self with text := "", textColor := .black } else self

/-- The delegate method at the end of editing: an empty text gives way to the placeholder. -/
def textViewDidEndEditing (self : DiarySubviewController) : DiarySubviewController :=
  if self.text = "" then { self with text := "Placeholder", textColor := .lightGray } else self

/-- A step, or `none` if the field does not allow it. -/
def machine : Machine DiarySubviewController NoteEvent NoteOutput where
  step self
    | .beginEditing =>
      if self.isEditing then none
      else some ({ self with isEditing := true }.textViewDidBeginEditing, [])
    | .changeText text => if self.isEditing then some ({ self with text }, []) else none
    | .endEditing =>
      if self.isEditing then some ({ self with isEditing := false }.textViewDidEndEditing, [])
      else none
    | .moodSegmentedControlChanged selectedSegmentIndex =>
      some ({ self with selectedSegmentIndex }.moodSegmentedControlChanged, [])
    | .saveButtonClicked date => self.saveButtonClicked date

end DiarySubviewController

/-! ## The note typed -/

/-- The text that the user last left in the field. -/
def typed (es : List NoteEvent) : String :=
  es.foldl (fun note e => match e with | .changeText text => text | _ => note) ""

/-- Whether the text view is being edited after the events. -/
def editing (es : List NoteEvent) : Bool :=
  es.foldl (fun now e => match e with
    | .beginEditing => true
    | .endEditing => false
    | _ => now) false

/-- The text typed after one more event. -/
lemma typed_concat (es : List NoteEvent) (e : NoteEvent) :
    typed (es ++ [e]) = match e with | .changeText text => text | _ => typed es := by
  rw [typed, List.foldl_append]
  rfl

/-- Whether the text view is being edited after one more event. -/
lemma editing_concat (es : List NoteEvent) (e : NoteEvent) :
    editing (es ++ [e]) = match e with
      | .beginEditing => true
      | .endEditing => false
      | _ => editing es := by
  rw [editing, List.foldl_append]
  rfl

namespace DiarySubviewController

/-- The field holds the user's text, in black, while it is edited or if that is not empty, and
otherwise the placeholder. -/
structure Holds (es : List NoteEvent) (vc : DiarySubviewController) : Prop where
  isEditing : vc.isEditing = editing es
  text : vc.text = if editing es ∨ typed es ≠ "" then typed es else "Placeholder"
  textColor : vc.textColor = if editing es ∨ typed es ≠ "" then .black else .lightGray

variable {self self' : DiarySubviewController} {es : List NoteEvent} {e : NoteEvent}
  {o : List NoteOutput}

/-- The action of the segmented control changes nothing but the picture. -/
lemma moodSegmentedControlChanged_eq (self : DiarySubviewController) :
    ∃ image, self.moodSegmentedControlChanged = { self with moodImageView := image } := by
  rw [moodSegmentedControlChanged]
  split <;> exact ⟨_, rfl⟩

/-- The placeholder goes away, and a note stays. -/
lemma Holds.textViewDidBeginEditing (h : Holds es self) (hn : editing es = false) :
    { self with isEditing := true }.textViewDidBeginEditing =
      { self with isEditing := true, text := typed es, textColor := .black } := by
  have htext := h.text
  have hcolor := h.textColor
  rw [hn] at htext hcolor
  rw [DiarySubviewController.textViewDidBeginEditing]
  by_cases ht : typed es = ""
  · rw [if_neg (by simp [ht])] at hcolor
    rw [if_pos hcolor, ht]
  · rw [if_pos (.inr ht)] at htext hcolor
    rw [if_neg (by rw [hcolor]; decide), ← htext, ← hcolor]

/-- The placeholder comes back if there is no note. -/
lemma Holds.textViewDidEndEditing (h : Holds es self) (hn : editing es = true) :
    { self with isEditing := false }.textViewDidEndEditing =
      { self with
        isEditing := false
        text := if typed es ≠ "" then typed es else "Placeholder"
        textColor := if typed es ≠ "" then .black else .lightGray } := by
  have htext := h.text
  have hcolor := h.textColor
  rw [if_pos (.inl hn)] at htext hcolor
  rw [DiarySubviewController.textViewDidEndEditing]
  by_cases ht : typed es = ""
  · rw [if_pos (htext.trans ht), if_neg (not_not_intro ht), if_neg (not_not_intro ht)]
  · rw [if_neg (by rwa [htext]), if_pos ht, if_pos ht, ← htext, ← hcolor]

/-- One event keeps the sheet in agreement with the history of its events. -/
lemma Holds.step (h : Holds es self) (hs : machine.step self e = some (self', o)) :
    Holds (es ++ [e]) self' := by
  cases e with
  | beginEditing =>
    obtain ⟨hn, hs⟩ := Option.ite_none_left_eq_some.mp hs
    cases hs
    rw [h.isEditing, Bool.not_eq_true] at hn
    rw [h.textViewDidBeginEditing hn]
    constructor <;> simp only [typed_concat, editing_concat, true_or, if_true]
  | changeText text =>
    obtain ⟨hn, hs⟩ := Option.ite_none_right_eq_some.mp hs
    cases hs
    have htextColor := h.textColor
    rw [h.isEditing] at hn
    rw [if_pos (.inl hn)] at htextColor
    constructor <;> simp only [typed_concat, editing_concat, hn, true_or, if_true]
    · exact h.isEditing.trans hn
    · exact htextColor
  | endEditing =>
    obtain ⟨hn, hs⟩ := Option.ite_none_right_eq_some.mp hs
    cases hs
    rw [h.isEditing] at hn
    rw [h.textViewDidEndEditing hn]
    constructor <;> simp only [typed_concat, editing_concat, Bool.false_eq_true, false_or]
  | moodSegmentedControlChanged i =>
    cases hs
    obtain ⟨image, he⟩ := moodSegmentedControlChanged_eq { self with selectedSegmentIndex := i }
    rw [he]
    constructor <;> simp only [typed_concat, editing_concat, h.isEditing, h.text, h.textColor]
  | saveButtonClicked date =>
    obtain ⟨mood, -, hs⟩ := Option.bind_eq_some_iff.mp hs
    cases hs
    constructor <;> simp only [typed_concat, editing_concat, h.isEditing, h.text, h.textColor]

/-- The sheet agrees with the history of its events in every run. -/
lemma holds_of_run {date : String} {os : List NoteOutput}
    (h : machine.run (viewDidLoad {} date) es = some (self, os)) : Holds es self := by
  refine Machine.run_rule (P := fun es s _ => Holds es s) ⟨rfl, rfl, rfl⟩ ?_ h
  intro es s os e s' o _ hs he
  exact hs.step he

end DiarySubviewController

open DiarySubviewController

/-- Every save hands on the text that the user last left in the field. -/
def SavesTyped (date : String) (es : List NoteEvent) : Prop :=
  ∀ pre day post s os s' o, es = pre ++ .saveButtonClicked day :: post →
    machine.run (viewDidLoad {} date) pre = some (s, os) →
      machine.step s (.saveButtonClicked day) = some (s', o) →
        ∃ mood, o = [.saveDiaryData "" mood day (typed pre), .reloadData, .dismiss]

/-- In every sequence of events that the field allows, every save hands on the text that the user
last left in the field if and only if the field is being edited or that text is not empty whenever
Save is tapped. -/
theorem saves_typed_iff (date : String) (es : List NoteEvent)
    (hes : (machine.run (viewDidLoad {} date) es).isSome) :
    SavesTyped date es ↔ ∀ pre day post, es = pre ++ .saveButtonClicked day :: post →
      editing pre ∨ typed pre ≠ "" := by
  constructor
  · rintro h pre day post rfl
    obtain ⟨r, hr⟩ := Option.isSome_iff_exists.mp hes
    rw [Machine.run_append] at hr
    obtain ⟨r₁, hpre, hr⟩ := Option.bind_eq_some_iff.mp hr
    obtain ⟨q, hq, -⟩ := Option.map_eq_some_iff.mp hr
    obtain ⟨s', o, -, hs, -⟩ := Machine.run_cons_iff.mp hq
    obtain ⟨mood, ho⟩ := h pre day post r₁.1 r₁.2 s' o rfl hpre hs
    obtain ⟨mood', -, hs⟩ := Option.bind_eq_some_iff.mp hs
    cases hs
    -- the text saved is the text typed, so it is not the placeholder in place of nothing
    by_contra hn
    obtain ⟨hnote, -⟩ := List.cons.inj ho
    rw [(holds_of_run hpre).text, if_neg hn] at hnote
    rw [not_or, not_not] at hn
    rw [hn.2] at hnote
    exact absurd (NoteOutput.saveDiaryData.inj hnote).2.2.2 (by decide)
  · rintro h pre day post s os s' o rfl hrun hs
    obtain ⟨mood, -, hs⟩ := Option.bind_eq_some_iff.mp hs
    cases hs
    rw [(holds_of_run hrun).text, if_pos (h pre day post rfl)]
    exact ⟨mood, rfl⟩

/-- A note is typed, and saved while it is still being edited. -/
theorem saves_typed_iff_editing :
    SavesTyped "Jun 20, 2021"
        [.beginEditing, .changeText "rain", .saveButtonClicked "Jun 20, 2021"] ↔
      ∀ pre day post, [.beginEditing, .changeText "rain", .saveButtonClicked "Jun 20, 2021"] =
        pre ++ .saveButtonClicked day :: post → editing pre ∨ typed pre ≠ "" :=
  saves_typed_iff _ _ rfl

/-- A save without any editing stores the placeholder. -/
theorem placeholder_saved :
    ¬ ∀ (date : String) (es : List NoteEvent),
      (machine.run (viewDidLoad {} date) es).isSome → SavesTyped date es := by
  intro h
  obtain ⟨mood, ho⟩ := h "Jun 20, 2021" [.saveButtonClicked "Jun 20, 2021"] rfl []
    "Jun 20, 2021" [] _ [] _ _ rfl rfl rfl
  simp [typed, viewDidLoad] at ho

end Soliu
