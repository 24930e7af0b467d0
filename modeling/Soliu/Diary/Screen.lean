import Soliu.Diary.Note
import Soliu.Diary.Rows
import Soliu.Diary.Table

/-!
# The diary screens: `MainViewController.swift` with `DiarySubviewController.swift`

The table of diaries and the sheet on which a diary is written, as one machine. In every state that
it reaches, each row in sight shows its own diary, and the picture of its mood if there is one,
whatever its cell has shown before (`rows_show_diaries`). A diary that is saved is listed with the
mood selected on its sheet, and with the same picture or the same lack of one
(`composed_diary_listed`).
-/

namespace Soliu

/-- The diary tab: its table, and the sheet presented over it. -/
structure DiaryScreen where
  table : DiaryTable
  /-- The sheet, while it is presented. -/
  sheet : Option DiarySubviewController := none

/-- What happens on the diary tab. -/
inductive DiaryScreenEvent where
  | viewDidAppear (fetch : Option FetchOrder)
  | openDiarySubView (date : String)
  /-- What the user does on the sheet, Save apart. -/
  | note (e : NoteEvent)
  | saveButtonClicked (date : String) (saveThrows : Bool) (fetch : Option FetchOrder)
  /-- The sheet is pulled down. -/
  | dismissed
  | deleteDiary (row : ℕ) (fetch : Option FetchOrder) (saveThrows : Bool)
  | cellForRow (row : ℕ) (reused : Option ℕ)
  | didEndDisplaying (row : ℕ)

/-- The sheet as the storyboard has it. -/
def DiarySubviewController.storyboard : DiarySubviewController :=
  { moodImageView := some "Great", currentTimeDate := some "Date: MM--MM-MMMM" }

/-- The segmented control has five segments, and Save is an event of its own. -/
def NoteEvent.onSheet : NoteEvent → Bool
  | saveButtonClicked _ => false
  | moodSegmentedControlChanged i => 0 ≤ i ∧ i < 5
  | beginEditing | changeText _ | endEditing => true

namespace DiaryScreen

variable (F : Foundation)

/-- The diary tab at a launch over the diaries stored earlier. -/
def launch (stored : List Diary) : DiaryScreen := { table := { diary := .launch stored } }

/-- `getAllItem`, which has the table reloaded. -/
def getAllItem (s : DiaryScreen) (fetch : Option FetchOrder) : DiaryScreen :=
  { s with table := { s.table with diary := s.table.diary.getAllItem F fetch }.reloadTableView }

/-- What becomes of an output of the sheet. -/
def perform (saveThrows : Bool) (fetch : Option FetchOrder) (s : DiaryScreen) :
    NoteOutput → DiaryScreen
  | .saveDiaryData name mood date note =>
    { s with table := { s.table with
      diary := s.table.diary.saveDiaryData name mood date note saveThrows } }
  | .reloadData =>
    let s := s.getAllItem F fetch
    { s with table := s.table.reloadTableView }
  | .dismiss => { s with sheet := none }

/-- The Save button of the sheet, whose calls the tab performs one after the other. -/
def saveButtonClicked (s : DiaryScreen) (date : String) (saveThrows : Bool)
    (fetch : Option FetchOrder) : Option DiaryScreen := do
  let vc ← s.sheet
  let (vc, os) ← vc.saveButtonClicked date
  return os.foldl (perform F saveThrows fetch) { s with sheet := some vc }

/-- A step, or `none` for what cannot be done on the screen, and for a trap. -/
def step (s : DiaryScreen) : DiaryScreenEvent → Option DiaryScreen
  | .viewDidAppear fetch => some (s.getAllItem F fetch)
  | .openDiarySubView date =>
    match s.sheet with
    | none => some { s with sheet := some (DiarySubviewController.storyboard.viewDidLoad date) }
    | some _ => none
  | .note e =>
    if e.onSheet then do
      let vc ← s.sheet
      let (vc, _) ← DiarySubviewController.machine.step vc e
      return { s with sheet := some vc }
    else none
  | .saveButtonClicked date saveThrows fetch => s.saveButtonClicked F date saveThrows fetch
  | .dismissed => s.sheet.map fun _ => { s with sheet := none }
  | .deleteDiary row fetch saveThrows =>
    if row < s.table.numberOfRows then
      (s.table.diary.deleteDiary row fetch saveThrows).map fun diary =>
        { s with table := { s.table with diary }.reloadTableView }
    else none
  | .cellForRow row reused =>
    if row < s.table.numberOfRows ∧ row ∉ s.table.visible.map Prod.fst then
      (s.table.cellForRow row reused).map fun table => { s with table }
    else none
  | .didEndDisplaying row => some { s with table := s.table.didEndDisplaying row }

/-- The diary tab as a machine. -/
def machine : Machine DiaryScreen DiaryScreenEvent Empty where
  step s e := (s.step F e).map (·, [])

end DiaryScreen

/-- The mood is one of the five. -/
def Diary.HasMood (d : Diary) : Prop := ∃ mood, Mood.ofRawValue d.mood.toInt = some mood

/-- The sheet shows the picture of the mood selected, if there is one. -/
def DiarySubviewController.ShowsMood (vc : DiarySubviewController) : Prop :=
  ∃ mood, Mood.ofRawValue vc.selectedSegmentIndex = some mood ∧
    vc.moodImageView = mood.picture

namespace DiarySubviewController

variable {vc vc' : DiarySubviewController} {e : NoteEvent} {o : List NoteOutput}

/-- After the choice of a segment the sheet shows the picture of its mood. -/
lemma ShowsMood.moodSegmentedControlChanged {i : ℤ} (hi : 0 ≤ i ∧ i < 5) :
    ({ vc with selectedSegmentIndex := i }.moodSegmentedControlChanged).ShowsMood := by
  obtain rfl | rfl | rfl | rfl | rfl : i = 0 ∨ i = 1 ∨ i = 2 ∨ i = 3 ∨ i = 4 := by omega
  all_goals exact ⟨_, rfl, rfl⟩

/-- No event on the sheet makes it show another picture than that of its mood. -/
lemma ShowsMood.step (h : vc.ShowsMood) (he : e.onSheet)
    (hs : machine.step vc e = some (vc', o)) : vc'.ShowsMood := by
  cases e with
  | beginEditing =>
    obtain ⟨-, hs⟩ := Option.ite_none_left_eq_some.mp hs
    cases hs
    rw [textViewDidBeginEditing]
    split <;> exact h
  | changeText text =>
    obtain ⟨-, hs⟩ := Option.ite_none_right_eq_some.mp hs
    cases hs
    exact h
  | endEditing =>
    obtain ⟨-, hs⟩ := Option.ite_none_right_eq_some.mp hs
    cases hs
    rw [textViewDidEndEditing]
    split <;> exact h
  | moodSegmentedControlChanged i =>
    cases hs
    exact .moodSegmentedControlChanged (decide_eq_true_iff.mp he)
  | saveButtonClicked date => cases he

/-- Save hands on the mood selected. -/
lemma ShowsMood.saveButtonClicked (h : vc.ShowsMood) (date : String) :
    ∃ mood raw, Mood.ofRawValue vc.selectedSegmentIndex = some mood ∧
      Mood.ofRawValue (Int32.toInt raw) = some mood ∧ vc.moodImageView = mood.picture ∧
      vc.saveButtonClicked date =
        some (vc, [.saveDiaryData "" raw date vc.text, .reloadData, .dismiss]) := by
  obtain ⟨mood, hmood, himage⟩ := h
  have hraw : int32 mood.rawValue = some (Int32.ofInt mood.rawValue) ∧
      (Int32.ofInt mood.rawValue).toInt = mood.rawValue := by
    cases mood <;> exact ⟨rfl, rfl⟩
  refine ⟨mood, Int32.ofInt mood.rawValue, hmood, ?_, himage, ?_⟩
  · rw [hraw.2, Mood.ofRawValue_rawValue]
  · rw [DiarySubviewController.saveButtonClicked, Mood.eq_rawValue hmood, hraw.1]
    rfl

end DiarySubviewController

namespace DiaryScreen

variable {F : Foundation} {s s' : DiaryScreen} {e : DiaryScreenEvent} {o : List Empty}

/-- What the screens keep. -/
structure IsSound (s : DiaryScreen) : Prop where
  consistent : s.table.diary.IsConsistent
  current : s.table.IsCurrent
  hasMood : ∀ d ∈ s.table.diary.context.objects, d.HasMood
  showsMood : ∀ vc, s.sheet = some vc → vc.ShowsMood

namespace IsSound

/-- The tab is sound at a launch over diaries with moods. -/
lemma launch {stored : List Diary} (hstored : (stored.map Diary.objectID).Nodup)
    (hmoods : ∀ d ∈ stored, d.HasMood) : (launch stored).IsSound where
  consistent := .launch hstored
  current := ⟨rfl, List.nodup_nil, nofun⟩
  hasMood d hd := hmoods d (by simpa [DiaryScreen.launch, DiaryState.launch,
    ManagedContext.objects] using hd)
  showsMood := nofun

variable (h : s.IsSound)

include h

/-- The objects of the context after an operation that adds none but diaries with moods. -/
lemma hasMood_step {e : DiaryEvent} {diary : DiaryState} {os : List DiaryOutput}
    (hs : (DiaryState.machine F).step s.table.diary e = some (diary, os))
    (hadded : ∀ d ∈ s.table.diary.added e, d.HasMood) : ∀ d ∈ diary.context.objects, d.HasMood := by
  intro d hd
  rw [(h.consistent.objects_step hs).1, List.mem_filter, List.mem_append] at hd
  exact hd.1.elim (h.hasMood d) (hadded d)

/-- Another sheet that shows its mood keeps the tab sound. -/
lemma of_sheet {sheet : Option DiarySubviewController}
    (hsheet : ∀ vc, sheet = some vc → vc.ShowsMood) : IsSound { s with sheet } :=
  ⟨h.consistent, h.current, h.hasMood, hsheet⟩

/-- Another table over the same diary keeps the tab sound if its cells are current. -/
lemma of_table {table : DiaryTable} (hdiary : table.diary = s.table.diary)
    (ht : table.IsCurrent) : IsSound { s with table } :=
  ⟨hdiary ▸ h.consistent, ht, hdiary ▸ h.hasMood, h.showsMood⟩

/-- The list changes, and the table is reloaded. -/
lemma of_reload {e : DiaryEvent} {diary : DiaryState} {os : List DiaryOutput}
    (hs : (DiaryState.machine F).step s.table.diary e = some (diary, os))
    (hadded : ∀ d ∈ s.table.diary.added e, d.HasMood) :
    IsSound { s with table := { s.table with diary }.reloadTableView } :=
  ⟨h.consistent.step hs, .reloadTableView _, h.hasMood_step hs hadded, h.showsMood⟩

/-- A fetch keeps the tab sound. -/
lemma getAllItem (fetch : Option FetchOrder) : (s.getAllItem F fetch).IsSound :=
  h.of_reload (e := .getAllItem fetch) rfl nofun

/-- Saving a diary with a mood keeps the tab sound. -/
lemma saveDiaryData (F : Foundation) (name date note : String) (saveThrows : Bool) {raw : Int32}
    (hraw : ∃ mood, Mood.ofRawValue raw.toInt = some mood) :
    IsSound { s with table := { s.table with
      diary := s.table.diary.saveDiaryData name raw date note saveThrows } } where
  consistent := h.consistent.step (F := F) (e := .saveDiaryData name raw date note saveThrows) rfl
  current := h.current.of_dataSource rfl
  hasMood := h.hasMood_step (F := F) (e := .saveDiaryData name raw date note saveThrows) rfl
    (List.forall_mem_singleton.mpr hraw)
  showsMood := h.showsMood

end IsSound

/-- Save: the diary goes into the list, the table is reloaded, and the sheet goes away. -/
lemma saveButtonClicked_eq (h : s.IsSound) {vc : DiarySubviewController} (hvc : s.sheet = some vc)
    (date : String) (saveThrows : Bool) (fetch : Option FetchOrder) :
    ∃ mood raw, Mood.ofRawValue vc.selectedSegmentIndex = some mood ∧
      Mood.ofRawValue (Int32.toInt raw) = some mood ∧ vc.moodImageView = mood.picture ∧
      s.saveButtonClicked F date saveThrows fetch = some
        { table := { s.table with
            diary := (s.table.diary.saveDiaryData "" raw date vc.text saveThrows).getAllItem F
              fetch }.reloadTableView.reloadTableView } := by
  obtain ⟨mood, raw, hselected, hmood, himage, hsave⟩ :=
    (h.showsMood vc hvc).saveButtonClicked date
  refine ⟨mood, raw, hselected, hmood, himage, ?_⟩
  rw [saveButtonClicked, hvc, Option.bind_eq_bind, Option.bind_some, hsave]
  rfl

/-- Every step keeps the tab sound. -/
lemma IsSound.step (h : s.IsSound) (hm : (machine F).step s e = some (s', o)) : s'.IsSound := by
  obtain ⟨t, hs, e'⟩ := Option.map_eq_some_iff.mp hm
  cases e'
  cases e with
  | viewDidAppear fetch =>
    cases hs
    exact h.getAllItem fetch
  | openDiarySubView date =>
    obtain ⟨table, sheet⟩ := s
    cases sheet with
    | some vc => cases hs
    | none =>
      cases hs
      exact h.of_sheet fun vc hvc => Option.some.inj hvc ▸ ⟨.great, rfl, rfl⟩
  | note e =>
    obtain ⟨he, hs⟩ := Option.ite_none_right_eq_some.mp hs
    obtain ⟨vc, hvc, hs⟩ := Option.bind_eq_some_iff.mp hs
    obtain ⟨⟨vc', os⟩, hstep, hs⟩ := Option.bind_eq_some_iff.mp hs
    cases hs
    exact h.of_sheet fun _ e => Option.some.inj e ▸ (h.showsMood vc hvc).step he hstep
  | saveButtonClicked date saveThrows fetch =>
    obtain ⟨vc, hvc, -⟩ := Option.bind_eq_some_iff.mp hs
    obtain ⟨mood, raw, -, hmood, -, hsave⟩ := saveButtonClicked_eq h hvc date saveThrows fetch
    cases hsave.symm.trans hs
    have hsaved :=
      (h.saveDiaryData F "" date vc.text saveThrows ⟨mood, hmood⟩).getAllItem (F := F) fetch
    exact (hsaved.of_table rfl (.reloadTableView _)).of_sheet fun _ hvc => absurd hvc nofun
  | dismissed =>
    obtain ⟨vc, -, rfl⟩ := Option.map_eq_some_iff.mp hs
    exact h.of_sheet fun _ hvc => absurd hvc nofun
  | deleteDiary row fetch saveThrows =>
    obtain ⟨-, hs⟩ := Option.ite_none_right_eq_some.mp hs
    obtain ⟨diary, hdelete, rfl⟩ := Option.map_eq_some_iff.mp hs
    have hstep : (DiaryState.machine F).step s.table.diary (.deleteDiary row fetch saveThrows) =
        some (diary, [.reloadTableView]) := congrArg (Option.map _) hdelete
    exact h.of_reload hstep nofun
  | cellForRow row reused =>
    obtain ⟨⟨-, hrow⟩, hs⟩ := Option.ite_none_right_eq_some.mp hs
    obtain ⟨table, htable, rfl⟩ := Option.map_eq_some_iff.mp hs
    refine h.of_table ?_ (h.current.cellForRow hrow htable)
    obtain ⟨d, -, htable⟩ := Option.bind_eq_some_iff.mp htable
    cases htable
    rfl
  | didEndDisplaying row =>
    cases hs
    exact h.of_table rfl (h.current.didEndDisplaying row)

/-- The tab is sound in every run. -/
lemma IsSound.of_run {stored : List Diary} {es : List DiaryScreenEvent} {os : List Empty}
    (hstored : (stored.map Diary.objectID).Nodup) (hmoods : ∀ d ∈ stored, d.HasMood)
    (hrun : (machine F).run (.launch stored) es = some (s, os)) : s.IsSound :=
  Machine.run_rule (P := fun _ s _ => s.IsSound) (.launch hstored hmoods) (fun _ => .step) hrun

end DiaryScreen

/-- In every state that the diary screens reach from stored diaries with one of the five moods: the
table view knows the number of rows, it can have the cell of every row, no two cells are of one row,
and each cell in sight shows the date, the note, the mood and the colour of its own diary, and the
picture of the mood, which the cells of good and of bad days do not have. -/
theorem rows_show_diaries (F : Foundation) (stored : List Diary) (es : List DiaryScreenEvent)
    (s : DiaryScreen) (os : List Empty) (hstored : (stored.map Diary.objectID).Nodup)
    (hmoods : ∀ d ∈ stored, d.HasMood)
    (hrun : (DiaryScreen.machine F).run (.launch stored) es = some (s, os)) :
    s.table.numberOfRows = s.table.diary.dataSource.length ∧
      (∀ row < s.table.numberOfRows, ∀ reused, (s.table.cellForRow row reused).isSome) ∧
      (s.table.visible.map Prod.fst).Nodup ∧
      ∀ row cell, (row, cell) ∈ s.table.visible →
        ∃ d mood, s.table.diary.dataSource[row]? = some d ∧
          Mood.ofRawValue d.mood.toInt = some mood ∧
          cell = ⟨some (d.date.getD ""), some mood.text, some (d.note.getD ""), some mood.color,
            mood.picture⟩ ∧
          (cell.emotionImageView = none ↔ mood = .good ∨ mood = .bad) := by
  have h := DiaryScreen.IsSound.of_run hstored hmoods hrun
  refine ⟨h.current.numberOfRows, fun row hrow reused => h.current.cellForRow_isSome hrow,
    h.current.nodup, fun row cell hmem => ?_⟩
  obtain ⟨d, hd, hshows⟩ := h.current.shows _ hmem
  obtain ⟨mood, hmood⟩ := h.hasMood d (h.consistent.listed d (List.mem_of_getElem? hd))
  refine ⟨d, mood, hd, hmood, ?_⟩
  obtain ⟨hpicture, hcolor⟩ := hshows.picture mood hmood
  obtain ⟨dateLabel, moodLabel, noteLabel, moodLabelColor, emotionImageView⟩ := cell
  obtain ⟨rfl, rfl, rfl, -⟩ := hshows
  cases hpicture
  cases hcolor
  rw [hmood]
  exact ⟨rfl, Mood.picture_eq_none_iff⟩

/-- A bad day is written down, and then the cell of a great one is taken for it. -/
theorem rows_show_diaries_reused_cell :
    ∃ (s : DiaryScreen) (cell : DiaryTableViewCell),
      (DiaryScreen.machine ⟨compare, fun _ xs => xs, fun _ xs => .refl xs⟩).run
        (.launch [⟨0, none, 0, some "Jun 19, 2021", some "sun"⟩])
        [.viewDidAppear (some ⟨id, .refl⟩), .cellForRow 0 none, .openDiarySubView "Jun 20, 2021",
          .note (.moodSegmentedControlChanged 4), .saveButtonClicked "Jun 20, 2021" false
          (some ⟨id, .refl⟩), .cellForRow 1 (some 0)] = some (s, []) ∧
      (1, cell) ∈ s.table.visible ∧ cell.moodLabel = some "Bad" ∧ cell.emotionImageView = none := by
  obtain ⟨-, -, -, hshows⟩ := rows_show_diaries ⟨compare, fun _ xs => xs, fun _ xs => .refl xs⟩
    [⟨0, none, 0, some "Jun 19, 2021", some "sun"⟩] [.viewDidAppear (some ⟨id, .refl⟩),
      .cellForRow 0 none, .openDiarySubView "Jun 20, 2021", .note (.moodSegmentedControlChanged 4),
      .saveButtonClicked "Jun 20, 2021" false (some ⟨id, .refl⟩), .cellForRow 1 (some 0)] _ []
    (by decide) (List.forall_mem_singleton.mpr ⟨.great, rfl⟩) rfl
  obtain ⟨d, mood, hd, hmood, hcell, hpicture⟩ := hshows 1 _ List.mem_cons_self
  cases hd
  cases hmood
  exact ⟨_, _, rfl, List.mem_cons_self, rfl, hpicture.mpr (.inr rfl)⟩

/-- In every reachable state with a sheet: if the fetch goes through, Save lists a diary with the
text of the sheet and the mood selected on it, closes the sheet, and the cell of the new row shows
that text and that mood, with the picture of the sheet. Neither has one for good and for bad days.
All this holds whether the save itself goes through or throws. -/
theorem composed_diary_listed (F : Foundation) (stored : List Diary) (es : List DiaryScreenEvent)
    (s : DiaryScreen) (os : List Empty) (hstored : (stored.map Diary.objectID).Nodup)
    (hmoods : ∀ d ∈ stored, d.HasMood)
    (hrun : (DiaryScreen.machine F).run (.launch stored) es = some (s, os))
    (vc : DiarySubviewController) (hvc : s.sheet = some vc) (date : String) (saveThrows : Bool)
    (f : FetchOrder) :
    ∃ s' row d mood, s.step F (.saveButtonClicked date saveThrows (some f)) = some s' ∧
      s'.sheet = none ∧ row < s'.table.numberOfRows ∧
      s'.table.diary.dataSource[row]? = some d ∧ d.date = some date ∧ d.note = some vc.text ∧
      Mood.ofRawValue vc.selectedSegmentIndex = some mood ∧
      Mood.ofRawValue d.mood.toInt = some mood ∧
      (vc.moodImageView = none ↔ mood = .good ∨ mood = .bad) ∧
      ∀ reused t, s'.table.cellForRow row reused = some t →
        ∃ cell, (row, cell) ∈ t.visible ∧ cell.dateLabel = some date ∧
          cell.noteLabel = some vc.text ∧ cell.moodLabel = some mood.text ∧
          cell.emotionImageView = vc.moodImageView := by
  have h := DiaryScreen.IsSound.of_run hstored hmoods hrun
  obtain ⟨mood, raw, hselected, hmood, himage, hsave⟩ :=
    DiaryScreen.saveButtonClicked_eq h hvc date saveThrows (some f)
  let d : Diary := ⟨s.table.diary.context.nextID, some "", raw, some date, some vc.text⟩
  have hmem : d ∈ ((s.table.diary.saveDiaryData "" raw date vc.text saveThrows).getAllItem F
      (some f)).dataSource := by
    have hobjects := (h.consistent.objects_step (F := F)
      (e := .saveDiaryData "" raw date vc.text saveThrows) rfl).1
    rw [(DiaryState.getAllItem_perm f).mem_iff, hobjects, List.mem_filter, List.mem_append]
    exact ⟨.inr (List.mem_singleton_self d), rfl⟩
  obtain ⟨row, hrow, hd⟩ := List.getElem_of_mem hmem
  refine ⟨_, row, d, mood, hsave, rfl, hrow, ?_, rfl, rfl, hselected, hmood, ?_,
    fun reused t ht => ?_⟩
  · exact List.getElem?_eq_some_iff.mpr ⟨hrow, hd⟩
  · rw [himage, Mood.picture_eq_none_iff]
  · obtain ⟨cell, hvisible, hshows⟩ :=
      DiaryTable.cellForRow_shows (List.getElem?_eq_some_iff.mpr ⟨hrow, hd⟩) ht
    refine ⟨cell, hvisible ▸ List.mem_cons_self, ?_⟩
    -- the pictures have the same name
    refine ⟨hshows.dateLabel, hshows.noteLabel, ?_,
      (hshows.picture mood hmood).1.trans himage.symm⟩
    rw [hshows.moodLabel, hmood]
    rfl

/-- A note on a day between good and bad. -/
theorem composed_diary_listed_pair :
    ∃ (s s' : DiaryScreen) (row : ℕ) (d : Diary),
      s.step ⟨compare, fun _ xs => xs, fun _ xs => .refl xs⟩
        (.saveButtonClicked "Jun 20, 2021" false (some ⟨id, .refl⟩)) = some s' ∧
      s'.sheet = none ∧ s'.table.diary.dataSource[row]? = some d ∧ d.note = some "rain" ∧
      ∃ t cell, s'.table.cellForRow row none = some t ∧ (row, cell) ∈ t.visible ∧
        cell.moodLabel = some "Pair" ∧ cell.emotionImageView = some "Fair" := by
  obtain ⟨s', row, d, mood, hs', hsheet, hrow, hd, -, hnote, hmood, -, -, hcell⟩ :=
    composed_diary_listed ⟨compare, fun _ xs => xs, fun _ xs => .refl xs⟩ []
      [.openDiarySubView "Jun 20, 2021", .note (.moodSegmentedControlChanged 2),
        .note .beginEditing, .note (.changeText "rain")] _ [] (by decide) nofun rfl _ rfl
      "Jun 20, 2021" false ⟨id, .refl⟩
  obtain rfl : Mood.pair = mood := Option.some.inj hmood
  have hsome : (s'.table.cellForRow row none).isSome := by
    rw [DiaryTable.cellForRow, hd]
    rfl
  obtain ⟨t, ht⟩ := Option.isSome_iff_exists.mp hsome
  obtain ⟨cell, hvisible, -, -, hlabel, hpicture⟩ := hcell none t ht
  exact ⟨_, s', row, d, hs', hsheet, hd, hnote, t, cell, ht, hvisible, hlabel, hpicture⟩

end Soliu
