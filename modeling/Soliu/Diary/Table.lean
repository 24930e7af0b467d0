import Soliu.Diary.Consistency
import Soliu.Diary.Mood

/-!
# The table of diaries: `DiaryTableViewCell.swift`

The table view asks for the cell of a row when the row comes into sight, and hands in a cell that
another row has used before, if it has one. `configure` writes the labels of a cell in any case, but
the picture and its colour only for the five moods, and for any other mood those of the last diary
stay. `DiaryTable.IsCurrent` is what all operations on the table keep.
-/

namespace Soliu

/-- `DiaryTableViewCellViewModel.swift`. -/
structure DiaryTableViewCellViewModel where
  diary : Option Diary
deriving DecidableEq

namespace DiaryTableViewCellViewModel

/-- The name of the diary, empty where it has none. -/
def name (self : DiaryTableViewCellViewModel) : String := (self.diary.bind (·.name)).getD ""

/-- The mood of the diary, 0 where there is no diary. -/
def mood (self : DiaryTableViewCellViewModel) : ℤ := ((self.diary.map Diary.mood).getD 0).toInt

/-- The date of the diary, empty where it has none. -/
def date (self : DiaryTableViewCellViewModel) : String := (self.diary.bind (·.date)).getD ""

/-- The note of the diary, empty where it has none. -/
def note (self : DiaryTableViewCellViewModel) : String := (self.diary.bind (·.note)).getD ""

end DiaryTableViewCellViewModel

/-- A cell, at first with the contents of its nib. A picture is given by its name. -/
structure DiaryTableViewCell where
  dateLabel : Option String := some "00 XXXX, 2021"
  moodLabel : Option String := some "Label"
  noteLabel : Option String := some "I have enjoyed playing game"
  moodLabelColor : Option MoodColor := none
  emotionImageView : Option String := none
deriving DecidableEq

namespace DiaryTableViewCell

/-- Configures the cell: a mood out of the five leaves picture and colour as they were. -/
def configure (self : DiaryTableViewCell) (diary : DiaryTableViewCellViewModel) :
    DiaryTableViewCell :=
  let self := { self with
    dateLabel := some diary.date
    noteLabel := some diary.note
    moodLabel := (Mood.ofRawValue diary.mood).map Mood.text }
  match diary.mood with
  | 0 => { self with emotionImageView := UIImage.named "Great", moodLabelColor := some .green }
  | 1 => { self with emotionImageView := UIImage.named "Good", moodLabelColor := some .systemGreen }
  | 2 => { self with emotionImageView := UIImage.named "Fair", moodLabelColor := some .yellow }
  | 3 => { self with emotionImageView := UIImage.named "Poor", moodLabelColor := some .orange }
  | 4 => { self with emotionImageView := UIImage.named "Bad", moodLabelColor := some .red }
  -- "It can't happen" is printed
  | _ => self

/-- The cell shows the diary: its labels, and for one of the five moods its colour and the picture,
if there is one, and no other. -/
structure Shows (cell : DiaryTableViewCell) (d : Diary) : Prop where
  dateLabel : cell.dateLabel = some (d.date.getD "")
  noteLabel : cell.noteLabel = some (d.note.getD "")
  moodLabel : cell.moodLabel = (Mood.ofRawValue d.mood.toInt).map Mood.text
  picture : ∀ mood, Mood.ofRawValue d.mood.toInt = some mood →
    cell.emotionImageView = mood.picture ∧ cell.moodLabelColor = some mood.color

/-- Whatever the cell has shown before. -/
lemma configure_shows (self : DiaryTableViewCell) (d : Diary) :
    (self.configure ⟨some d⟩).Shows d := by
  have hmood : (⟨some d⟩ : DiaryTableViewCellViewModel).mood = d.mood.toInt := rfl
  rw [configure, hmood]
  split <;> refine ⟨rfl, rfl, rfl, fun mood h => ?_⟩
  case h_6 h₀ h₁ h₂ h₃ h₄ =>
    rw [Mood.ofRawValue] at h
    cases h
    all_goals assumption
  all_goals
    rename_i heq
    rw [heq] at h
    cases h
    exact ⟨rfl, rfl⟩

end DiaryTableViewCell

/-- The main screen: the list of its view model, and the cells of its table view. -/
structure DiaryTable where
  diary : DiaryState
  /-- `numberOfRowsInSection`, as the table view was last told. -/
  numberOfRows : ℕ := 0
  visible : List (ℕ × DiaryTableViewCell) := []
  reusable : List DiaryTableViewCell := []

namespace DiaryTable

/-- `reloadData()`: the table view asks for the number of rows, and will ask for all cells again. -/
def reloadTableView (self : DiaryTable) : DiaryTable :=
  { self with
    numberOfRows := self.diary.dataSource.length
    visible := []
    reusable := self.visible.map Prod.snd ++ self.reusable }

/-- `cellForRowAt`, for a row that the table view knows of and has no cell for. A cell that is not
taken from the ones to reuse is loaded from the nib. -/
def cellForRow (self : DiaryTable) (row : ℕ) (reused : Option ℕ) : Option DiaryTable := do
  let cell := (reused.bind fun k => self.reusable[k]?).getD {}
  let diary ← self.diary.dataSource[row]?
  return { self with
    visible := (row, cell.configure ⟨some diary⟩) :: self.visible
    reusable := (reused.map self.reusable.eraseIdx).getD self.reusable }

/-- A row leaves the screen, and its cell waits to be used again. -/
def didEndDisplaying (self : DiaryTable) (row : ℕ) : DiaryTable :=
  { self with
    visible := self.visible.filter fun p => p.1 ≠ row
    reusable := (self.visible.filter fun p => p.1 = row).map Prod.snd ++ self.reusable }

/-- The cell that comes into sight shows the diary of its row. -/
lemma cellForRow_shows {t t' : DiaryTable} {row : ℕ} {reused : Option ℕ} {d : Diary}
    (hd : t.diary.dataSource[row]? = some d) (ht : t.cellForRow row reused = some t') :
    ∃ cell, t'.visible = (row, cell) :: t.visible ∧ cell.Shows d := by
  obtain ⟨d', hd', ht⟩ := Option.bind_eq_some_iff.mp ht
  cases hd'.symm.trans hd
  cases ht
  exact ⟨_, rfl, DiaryTableViewCell.configure_shows _ d⟩

/-- What the table keeps: it knows the number of rows, and the cells in sight show their diaries. -/
structure IsCurrent (t : DiaryTable) : Prop where
  numberOfRows : t.numberOfRows = t.diary.dataSource.length
  nodup : (t.visible.map Prod.fst).Nodup
  shows : ∀ p ∈ t.visible, ∃ d, t.diary.dataSource[p.1]? = some d ∧ p.2.Shows d

namespace IsCurrent

variable {t t' : DiaryTable} {row : ℕ} {reused : Option ℕ}

/-- After a reload no cell is out of date. -/
lemma reloadTableView (t : DiaryTable) : t.reloadTableView.IsCurrent :=
  ⟨rfl, List.nodup_nil, nofun⟩

/-- The table view can have the cell of every row that it knows of. -/
lemma cellForRow_isSome (h : t.IsCurrent) (hrow : row < t.numberOfRows) :
    (t.cellForRow row reused).isSome := by
  rw [h.numberOfRows] at hrow
  rw [cellForRow, List.getElem?_eq_getElem hrow]
  rfl

/-- A cell made or used again for its row is current. -/
lemma cellForRow (h : t.IsCurrent) (hrow : row ∉ t.visible.map Prod.fst)
    (ht : t.cellForRow row reused = some t') : t'.IsCurrent := by
  obtain ⟨d, hd, e⟩ := Option.bind_eq_some_iff.mp ht
  cases e
  obtain ⟨cell, e, hshows⟩ := cellForRow_shows hd ht
  cases e
  exact ⟨h.numberOfRows, List.nodup_cons.mpr ⟨hrow, h.nodup⟩,
    List.forall_mem_cons.mpr ⟨⟨d, hd, hshows⟩, h.shows⟩⟩

/-- A row that leaves the screen leaves the others current. -/
lemma didEndDisplaying (h : t.IsCurrent) (row : ℕ) : (t.didEndDisplaying row).IsCurrent where
  numberOfRows := h.numberOfRows
  nodup := h.nodup.sublist (List.filter_sublist.map _)
  shows p hp := h.shows p (List.mem_filter.mp hp).1

/-- Nothing in sight changes if the list does not. -/
lemma of_dataSource (h : t.IsCurrent) {diary : DiaryState}
    (he : diary.dataSource = t.diary.dataSource) : IsCurrent { t with diary } :=
  ⟨h.numberOfRows.trans (congrArg List.length he.symm), h.nodup, fun p hp => he ▸ h.shows p hp⟩

end IsCurrent

end DiaryTable

end Soliu
