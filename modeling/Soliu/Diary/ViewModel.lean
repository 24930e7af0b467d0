import Mathlib.Data.List.Nodup
import Mathlib.Data.List.Perm.Basic
import Soliu.Basic.Machine

/-!
# The diary: `DiarySubviewModel.swift` and `MainControllerViewModel.swift`

The shared managed object context with its pending changes, the list `dataSource`, and the three
operations on them. What the code does not decide is left open: the order in which a fetch returns
the objects (`FetchOrder`), the sorting algorithm and the comparison of strings (`Foundation`), and
whether a fetch or a save throws (a part of each event).
-/

namespace Soliu

/-- A diary object. The context has one object for each identity, so `==` compares identities. -/
structure Diary where
  objectID : ℕ
  name : Option String
  mood : Int32
  date : Option String
  note : Option String
deriving DecidableEq

/-- What the operations use of the standard libraries. -/
structure Foundation where
  compare : String → String → Ordering
  sort : (Diary → Diary → Bool) → List Diary → List Diary
  sort_perm : ∀ areInIncreasingOrder xs, (sort areInIncreasingOrder xs).Perm xs

/-- The order of the table: a date is not to come after the one that follows it. -/
def Foundation.checkTheDate (F : Foundation) (firstDate secondDate : String) : Bool :=
  if F.compare firstDate secondDate = .gt then false else true

/-- What `checkTheDate` says of the comparison. -/
lemma Foundation.checkTheDate_iff {F : Foundation} {firstDate secondDate : String} :
    F.checkTheDate firstDate secondDate ↔ F.compare firstDate secondDate ≠ .gt := by
  rw [checkTheDate]
  split <;> simp [*]

/-- An order in which a fetch without sort descriptors returns its objects. -/
structure FetchOrder where
  order : List Diary → List Diary
  order_perm : ∀ xs, (order xs).Perm xs

/-- The managed object context: the persistent store and the changes that are not saved yet. -/
structure ManagedContext where
  store : List Diary
  inserted : List Diary := []
  deleted : List ℕ := []
  nextID : ℕ

namespace ManagedContext

/-- The objects a fetch finds: those stored and those inserted, without the deleted. -/
def objects (c : ManagedContext) : List Diary :=
  (c.store ++ c.inserted).filter fun d => d.objectID ∉ c.deleted

/-- `Diary(context:)`, with its attributes set. -/
def insert (c : ManagedContext) (name : String) (mood : Int32) (date note : String) :
    ManagedContext :=
  { c with
    inserted := c.inserted ++ [⟨c.nextID, some name, mood, some date, some note⟩]
    nextID := c.nextID + 1 }

/-- Marks an object for deletion. -/
def delete (c : ManagedContext) (d : Diary) : ManagedContext :=
  { c with deleted := d.objectID :: c.deleted }

/-- `save()`: a save that throws leaves the store and the pending changes as they are. -/
def save (c : ManagedContext) (throws : Bool) : ManagedContext :=
  if throws then c else { c with store := c.objects, inserted := [], deleted := [] }

end ManagedContext

/-- The view model of the diary, with the context it works on. -/
structure DiaryState where
  context : ManagedContext
  dataSource : List Diary := []

/-- The callback of the view model. -/
inductive DiaryOutput where
  | reloadTableView
deriving DecidableEq

/-- One operation, with what its fetch and its save meet; `none` is a fetch that throws. -/
inductive DiaryEvent where
  | saveDiaryData (name : String) (mood : Int32) (date note : String) (saveThrows : Bool)
  | deleteDiary (index : ℕ) (fetch : Option FetchOrder) (saveThrows : Bool)
  | getAllItem (fetch : Option FetchOrder)

namespace DiaryState

variable (F : Foundation)

/-- Inserts a diary and saves the context. -/
def saveDiaryData (s : DiaryState) (name : String) (mood : Int32) (date note : String)
    (saveThrows : Bool) : DiaryState :=
  { s with context := (s.context.insert name mood date note).save saveThrows }

/-- Fetches the diaries and sorts them; a failed fetch leaves the data source, which is sorted
again. -/
def getAllItem (s : DiaryState) (fetch : Option FetchOrder) : DiaryState :=
  let items := match fetch with
    | some f => f.order s.context.objects
    | none => s.dataSource
  { s with
    dataSource := F.sort (fun date1 date2 =>
      F.checkTheDate (date1.date.getD "") (date2.date.getD "")) items }

/-- One round of the loop of `deleteDiary`. -/
def deleteItem (index : ℕ) (s : DiaryState) (item : Diary) : Option DiaryState := do
  -- the list may have shrunk in an earlier round
  let d ← s.dataSource[index]?
  if d.objectID = item.objectID then
    return { context := s.context.delete item, dataSource := s.dataSource.eraseIdx index }
  else return s

section

variable {s s' : DiaryState} {index : ℕ} {d item : Diary}

/-- The item at the index of the data source is deleted, and its row removed. -/
lemma deleteItem_of_eq (hd : s.dataSource[index]? = some d) (he : d.objectID = item.objectID) :
    s.deleteItem index item =
      some { context := s.context.delete item, dataSource := s.dataSource.eraseIdx index } := by
  rw [deleteItem, hd, Option.bind_eq_bind, Option.bind_some, if_pos he]
  rfl

/-- An item that is not at the index of the data source is passed over. -/
lemma deleteItem_of_ne (hd : s.dataSource[index]? = some d) (he : d.objectID ≠ item.objectID) :
    s.deleteItem index item = some s := by
  rw [deleteItem, hd, Option.bind_eq_bind, Option.bind_some, if_neg he]
  rfl

/-- A round that goes through finds a diary at the index, and deletes or passes over it. -/
lemma deleteItem_cases (hs : s.deleteItem index item = some s') :
    ∃ d, s.dataSource[index]? = some d ∧
      (d.objectID = item.objectID ∧
          s' = { context := s.context.delete item, dataSource := s.dataSource.eraseIdx index } ∨
        d.objectID ≠ item.objectID ∧ s' = s) := by
  obtain ⟨d, hd, -⟩ := Option.bind_eq_some_iff.mp hs
  refine ⟨d, hd, ?_⟩
  by_cases he : d.objectID = item.objectID
  · exact .inl ⟨he, Option.some.inj (hs.symm.trans (deleteItem_of_eq hd he))⟩
  · exact .inr ⟨he, Option.some.inj (hs.symm.trans (deleteItem_of_ne hd he))⟩

end

/-- Goes through all diaries fetched and deletes those found at the index. -/
def deleteDiary (s : DiaryState) (index : ℕ) (fetch : Option FetchOrder) (saveThrows : Bool) :
    Option DiaryState :=
  match fetch with
  -- the error is printed, and the save is skipped
  | none => some s
  | some f => do
    let s ← (f.order s.context.objects).foldlM (deleteItem index) s
    return { s with context := s.context.save saveThrows }

/-- The view model as a machine. -/
def machine : Machine DiaryState DiaryEvent DiaryOutput where
  step s
    | .saveDiaryData name mood date note saveThrows =>
      some (s.saveDiaryData name mood date note saveThrows, [])
    | .deleteDiary index fetch saveThrows =>
      (s.deleteDiary index fetch saveThrows).map (·, [.reloadTableView])
    | .getAllItem fetch => some (s.getAllItem F fetch, [.reloadTableView])

end DiaryState

end Soliu
