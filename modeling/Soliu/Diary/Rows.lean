import Soliu.Basic.Greedy
import Soliu.Diary.Consistency

/-!
# The rows that a deletion takes

`deleteDiary` takes the rows of the list from its index on, one after the other, as long as the
fetch returns them in the order of the list. If it takes all of them before the last diary is
fetched, the next comparison reads beyond the list and traps (`deleteDiary_takes_rows`).

With this, every diary of a run is accounted for: the context holds what has been saved, less the
rows that were taken, and the store is what the context held at the last save that went through
(`store_is_last_saved`).
-/

namespace Soliu

open Greedy

namespace DiaryState

/-- The rows from the index on. -/
def rows (s : DiaryState) (index : ℕ) : List Diary := s.dataSource.drop index

/-- The rows that a deletion with this fetch takes. -/
def takenRows (s : DiaryState) (index : ℕ) (f : FetchOrder) : List Diary :=
  (s.rows index).take (matched (s.rows index) (f.order s.context.objects))

/-- The first rows from the index on are gone, and their diaries are to be deleted. -/
def withoutRows (s : DiaryState) (index k : ℕ) : DiaryState where
  context := { s.context with
    deleted := (((s.rows index).take k).map Diary.objectID).reverse ++ s.context.deleted }
  dataSource := s.dataSource.take index ++ (s.rows index).drop k

variable {F : Foundation} {s s' : DiaryState} {index : ℕ} {d item : Diary} {ds items : List Diary}

/-- The first of the rows from an index on stands at that index. -/
lemma getElem?_of_rows (h : s.rows index = d :: ds) : s.dataSource[index]? = some d := by
  have h' := congrArg (·[0]?) h
  simpa [rows] using h'

/-- With no rows taken the state is what it was. -/
lemma withoutRows_zero : s.withoutRows index 0 = s := by
  simp [withoutRows, rows]

/-- Where a row stands at an index, the rows before it are as many as the index. -/
lemma length_take_of_rows (h : s.rows index = d :: ds) :
    (s.dataSource.take index).length = index := by
  refine List.length_take_of_le (Nat.le_of_lt ?_)
  exact (List.getElem?_eq_some_iff.mp (getElem?_of_rows h)).1

/-- Removing the first of the rows leaves the rows before it and those after it. -/
lemma eraseIdx_of_rows (h : s.rows index = d :: ds) :
    s.dataSource.eraseIdx index = s.dataSource.take index ++ ds := by
  rw [List.eraseIdx_eq_take_drop_succ, ← List.tail_drop]
  exact congrArg (_ ++ ·.tail) h

/-- Without the row at the index the next ones move up. -/
lemma rows_eraseIdx (c : ManagedContext) (h : s.rows index = d :: ds) :
    rows ⟨c, s.dataSource.eraseIdx index⟩ index = ds := by
  rw [rows, eraseIdx_of_rows h, List.drop_left' (length_take_of_rows h)]

/-- Removing one more row is removing the first of them, and then the others. -/
lemma withoutRows_succ {k : ℕ} (h : s.rows index = d :: ds) :
    s.withoutRows index (k + 1) =
      withoutRows ⟨s.context.delete d, s.dataSource.eraseIdx index⟩ index k := by
  rw [withoutRows, withoutRows, rows_eraseIdx _ h, h]
  simp only [ManagedContext.delete, List.take_succ_cons, List.map_cons, List.reverse_cons,
    List.append_assoc, List.singleton_append, List.drop_succ_cons, eraseIdx_of_rows h,
    List.take_left' (length_take_of_rows h)]

/-- What the loop has done after it has found these diaries to delete. -/
lemma foldlM_deleteItem (s : DiaryState) :
    items.foldlM (deleteItem index) s =
      if Exhausted ((s.rows index).map Diary.objectID) (items.map Diary.objectID) then none
      else some (s.withoutRows index
        (matched ((s.rows index).map Diary.objectID) (items.map Diary.objectID))) := by
  induction items generalizing s with
  | nil =>
    rw [List.map_nil, if_neg not_exhausted_nil, matched_nil_right, withoutRows_zero]
    rfl
  | cons item items ih =>
    rw [List.foldlM_cons, List.map_cons]
    cases hrows : s.rows index with
    | nil =>
      -- the list has been used up, and the loop reads beyond it
      have hnone : s.dataSource[index]? = none := by
        rw [List.getElem?_eq_none_iff]
        exact List.drop_eq_nil_iff.mp hrows
      rw [List.map_nil, if_pos exhausted_nil_cons, deleteItem, hnone]
      rfl
    | cons d ds =>
      have hd := getElem?_of_rows hrows
      rw [List.map_cons]
      by_cases he : d.objectID = item.objectID
      · rw [deleteItem_of_eq hd he, Option.bind_eq_bind, Option.bind_some, ih,
          rows_eraseIdx _ hrows, he]
        refine (if_congr exhausted_cons_self rfl ?_).symm
        rw [matched_cons_self, withoutRows_succ hrows, ManagedContext.delete,
          ManagedContext.delete, he]
      · rw [deleteItem_of_ne hd he, Option.bind_eq_bind, Option.bind_some, ih, hrows, List.map_cons]
        exact (if_congr (exhausted_cons_of_ne he) rfl (by rw [matched_cons_of_ne he])).symm

namespace IsConsistent

variable (h : s.IsConsistent) (f : FetchOrder)

include h

/-- Two objects of a consistent context with one identifier are one object. -/
lemma eq_of_objectID {d' : Diary} (hd : d ∈ s.context.objects) (hd' : d' ∈ s.context.objects)
    (e : d.objectID = d'.objectID) : d = d' :=
  List.inj_on_of_nodup_map h.nodup_objects hd hd' e

/-- Every row of a consistent state is an object of the context. -/
lemma rows_subset : s.rows index ⊆ s.context.objects :=
  fun d hd => h.listed d (List.mem_of_mem_drop hd)

/-- A deletion in a consistent state, with the diaries compared as a whole. -/
lemma deleteDiary_eq (index : ℕ) (saveThrows : Bool) :
    s.deleteDiary index (some f) saveThrows =
      if Exhausted (s.rows index) (f.order s.context.objects) then none
      else
        let t := s.withoutRows index (matched (s.rows index) (f.order s.context.objects))
        some { t with context := t.context.save saveThrows } := by
  have hinj : ∀ a ∈ s.rows index, ∀ b ∈ f.order s.context.objects, a.objectID = b.objectID →
      a = b := fun a ha b hb =>
    h.eq_of_objectID (h.rows_subset ha) ((f.order_perm _).mem_iff.mp hb)
  rw [DiaryState.deleteDiary, foldlM_deleteItem, matched_map hinj]
  by_cases he : Exhausted (s.rows index) (f.order s.context.objects)
  · rw [if_pos ((exhausted_map hinj).mpr he), if_pos he]
    rfl
  · rw [if_neg (mt (exhausted_map hinj).mp he), if_neg he]
    rfl

/-- The context no longer holds the rows, and still everything else. -/
lemma objects_withoutRows (index k : ℕ) :
    (s.withoutRows index k).context.objects =
      s.context.objects.filter fun d => d ∉ (s.rows index).take k := by
  rw [ManagedContext.objects, ManagedContext.objects, List.filter_filter]
  refine List.filter_congr fun d hd => ?_
  rw [Bool.eq_iff_iff, Bool.and_eq_true, decide_eq_true_eq, decide_eq_true_eq, decide_eq_true_eq,
    withoutRows, List.mem_append, List.mem_reverse, not_or, and_congr_left_iff]
  intro hdeleted
  refine not_congr ⟨fun hmem => ?_, List.mem_map_of_mem⟩
  obtain ⟨d', hd', e⟩ := List.mem_map.mp hmem
  have hobj' := h.rows_subset (List.mem_of_mem_take hd')
  rwa [h.eq_of_objectID (ManagedContext.mem_objects.mpr ⟨hd, hdeleted⟩) hobj' e.symm]

end IsConsistent

/-- The diary that an operation adds. -/
def added (s : DiaryState) : DiaryEvent → List Diary
  | .saveDiaryData name mood date note _ =>
    [⟨s.context.nextID, some name, mood, some date, some note⟩]
  | .deleteDiary .. | .getAllItem _ => []

/-- The diaries that an operation removes. -/
def removed (s : DiaryState) : DiaryEvent → List Diary
  | .deleteDiary index (some f) _ => s.takenRows index f
  | .deleteDiary _ none _ | .saveDiaryData .. | .getAllItem _ => []

end DiaryState

/-- The operation gets to a save, and the save goes through. -/
def DiaryEvent.saves : DiaryEvent → Bool
  | saveDiaryData _ _ _ _ saveThrows => !saveThrows
  | deleteDiary _ fetch saveThrows => fetch.isSome && !saveThrows
  | getAllItem _ => false

namespace DiaryState

variable {F : Foundation} {s s' : DiaryState} {stored : List Diary} {e : DiaryEvent}
  {es : List DiaryEvent} {o os : List DiaryOutput} {d : Diary}

/-- The diaries that there should be after these operations: those of the launch and those saved
since, less those removed. -/
def book (F : Foundation) (stored : List Diary) (es : List DiaryEvent) : List Diary :=
  (stored ++ (machine F).collect added (launch stored) es).filter fun d =>
    d ∉ (machine F).collect removed (launch stored) es

/-- Filtering out two lists in a row is filtering out their concatenation. -/
lemma filter_notMem_append (R r ds : List Diary) :
    ds.filter (fun d => d ∉ R ++ r) = (ds.filter fun d => d ∉ R).filter fun d => d ∉ r := by
  rw [List.filter_filter]
  refine List.filter_congr fun d _ => ?_
  rw [Bool.eq_iff_iff, Bool.and_eq_true, decide_eq_true_eq, decide_eq_true_eq, decide_eq_true_eq,
    List.mem_append, not_or, and_comm]

/-- New diaries have new identities. -/
lemma nextID_step (hs : (machine F).step s e = some (s', o)) :
    s.context.nextID ≤ s'.context.nextID ∧
      ∀ d ∈ s.added e, s.context.nextID ≤ d.objectID ∧ d.objectID < s'.context.nextID := by
  have hsave : ∀ (c : ManagedContext) (throws : Bool), (c.save throws).nextID = c.nextID := by
    intro c throws
    cases throws <;> rfl
  cases e with
  | saveDiaryData name mood date note saveThrows =>
    cases hs
    rw [saveDiaryData, hsave, ManagedContext.insert, added, List.forall_mem_singleton]
    exact ⟨Nat.le_succ _, Nat.le_refl _, Nat.lt_succ_self _⟩
  | deleteDiary index fetch saveThrows =>
    refine ⟨Nat.le_of_eq ?_, List.forall_mem_nil _⟩
    obtain ⟨t, ht, e⟩ := Option.map_eq_some_iff.mp hs
    cases e
    cases fetch with
    | none =>
      cases ht
      rfl
    | some f =>
      obtain ⟨t', hloop, ht⟩ := Option.bind_eq_some_iff.mp ht
      cases ht
      rw [foldlM_deleteItem] at hloop
      obtain ⟨-, hloop⟩ := Option.ite_none_left_eq_some.mp hloop
      cases hloop
      exact (hsave (s.withoutRows index _).context saveThrows).symm
  | getAllItem fetch =>
    cases hs
    exact ⟨Nat.le_refl _, List.forall_mem_nil _⟩

namespace IsConsistent

variable (h : s.IsConsistent)

include h

/-- Only diaries that are there are removed, and none of them twice. -/
lemma removed_subset (e : DiaryEvent) : s.removed e ⊆ s.context.objects := by
  cases e with
  | deleteDiary index fetch saveThrows =>
    cases fetch with
    | none => exact List.nil_subset _
    | some f => exact List.Subset.trans (List.take_subset _ _) h.rows_subset
  | saveDiaryData | getAllItem => exact List.nil_subset _

/-- No event removes an object twice. -/
lemma nodup_removed (e : DiaryEvent) : (s.removed e).Nodup := by
  cases e with
  | deleteDiary index fetch saveThrows =>
    cases fetch with
    | none => exact List.nodup_nil
    | some f =>
      refine (List.Nodup.of_map _ h.distinct).sublist ?_
      exact (List.take_sublist _ _).trans (List.drop_sublist _ _)
  | saveDiaryData | getAllItem => exact List.nodup_nil

/-- One operation: what the context holds after it, and the store. -/
lemma objects_step (hs : (machine F).step s e = some (s', o)) :
    s'.context.objects = (s.context.objects ++ s.added e).filter (fun d => d ∉ s.removed e) ∧
      s'.context.store = if e.saves then s'.context.objects else s.context.store := by
  cases e with
  | saveDiaryData name mood date note saveThrows =>
    cases hs
    have hfresh : s.context.nextID ∉ s.context.deleted :=
      fun hn => Nat.lt_irrefl _ (h.freshDeleted _ hn)
    rw [saveDiaryData, ManagedContext.objects_save, ManagedContext.store_save,
      ManagedContext.objects_insert hfresh]
    refine ⟨(List.filter_eq_self.mpr fun _ _ => rfl).symm, ?_⟩
    cases saveThrows <;> rfl
  | deleteDiary index fetch saveThrows =>
    obtain ⟨t, ht, e⟩ := Option.map_eq_some_iff.mp hs
    cases e
    cases fetch with
    | none =>
      cases ht
      refine ⟨?_, rfl⟩
      rw [added, List.append_nil]
      exact (List.filter_eq_self.mpr fun _ _ => rfl).symm
    | some f =>
      rw [h.deleteDiary_eq] at ht
      obtain ⟨-, ht⟩ := Option.ite_none_left_eq_some.mp ht
      cases ht
      rw [ManagedContext.objects_save, ManagedContext.store_save, h.objects_withoutRows, added,
        List.append_nil]
      refine ⟨rfl, ?_⟩
      cases saveThrows <;> rfl
  | getAllItem fetch =>
    cases hs
    refine ⟨?_, rfl⟩
    rw [added, List.append_nil]
    exact (List.filter_eq_self.mpr fun _ _ => rfl).symm

end IsConsistent

/-- What a run keeps: the context agrees with the book. -/
structure Agrees (F : Foundation) (stored : List Diary) (es : List DiaryEvent) (s : DiaryState) :
    Prop where
  consistent : s.IsConsistent
  objects : s.context.objects = book F stored es
  fresh : ∀ d ∈ stored ++ (machine F).collect added (launch stored) es,
    d.objectID < s.context.nextID
  removed_subset : (machine F).collect removed (launch stored) es ⊆
    stored ++ (machine F).collect added (launch stored) es
  nodup_removed : ((machine F).collect removed (launch stored) es).Nodup

/-- Data source and context agree at the launch. -/
lemma Agrees.launch (hstored : (stored.map Diary.objectID).Nodup) :
    Agrees F stored [] (launch stored) := by
  have hconsistent := IsConsistent.launch hstored
  refine ⟨hconsistent, ?_, ?_, List.nil_subset _, List.nodup_nil⟩
  · rw [book, Machine.collect, Machine.collect, List.append_nil, ManagedContext.objects]
    exact congrArg _ (List.append_nil _)
  · exact hconsistent.fresh

/-- One event keeps data source and context in agreement with the history. -/
lemma Agrees.step (h : Agrees F stored es s)
    (hrun : (machine F).run (DiaryState.launch stored) es = some (s, os))
    (hs : (machine F).step s e = some (s', o)) : Agrees F stored (es ++ [e]) s' := by
  obtain ⟨hobjects, -⟩ := h.consistent.objects_step hs
  obtain ⟨hnextID, hadded⟩ := nextID_step hs
  have hold : ∀ d ∈ (machine F).collect removed (DiaryState.launch stored) es,
      d.objectID < s.context.nextID := fun d hd => h.fresh d (h.removed_subset hd)
  have hremoved : s.removed e ⊆ stored ++ (machine F).collect added (DiaryState.launch stored) es :=
    fun d hd => by
      have hmem := h.consistent.removed_subset e hd
      rw [h.objects, book] at hmem
      exact (List.mem_filter.mp hmem).1
  refine ⟨h.consistent.step hs, ?_, ?_, ?_, ?_⟩
  · -- what is added is new, so it has not been removed before
    have hself : (s.added e).filter (fun d =>
        d ∉ (machine F).collect removed (DiaryState.launch stored) es) = s.added e :=
      List.filter_eq_self.mpr fun d hd => decide_eq_true fun hmem =>
        absurd (hold d hmem) (Nat.not_lt_of_le (hadded d hd).1)
    rw [hobjects, h.objects, book, book, Machine.collect_concat hrun, Machine.collect_concat hrun,
      ← List.append_assoc, filter_notMem_append]
    refine congrArg _ ?_
    rw [List.filter_append (_ ++ _), hself]
  · rw [Machine.collect_concat hrun, ← List.append_assoc, List.forall_mem_append]
    exact ⟨fun d hd => Nat.lt_of_lt_of_le (h.fresh d hd) hnextID, fun d hd => (hadded d hd).2⟩
  · rw [Machine.collect_concat hrun, Machine.collect_concat hrun, ← List.append_assoc]
    exact List.Subset.trans (List.append_subset.mpr ⟨h.removed_subset, hremoved⟩)
      (List.subset_append_left _ _)
  · rw [Machine.collect_concat hrun]
    refine List.nodup_append.mpr ⟨h.nodup_removed, h.consistent.nodup_removed e, ?_⟩
    rintro d hd _ hd' rfl
    have hmem := h.consistent.removed_subset e hd'
    rw [h.objects, book, List.mem_filter, decide_eq_true_eq] at hmem
    exact hmem.2 hd

/-- Data source and context agree with the history of every run. -/
lemma Agrees.of_run (hstored : (stored.map Diary.objectID).Nodup)
    (hrun : (machine F).run (DiaryState.launch stored) es = some (s, os)) :
    Agrees F stored es s :=
  Machine.run_rule (P := fun es s _ => Agrees F stored es s) (.launch hstored)
    (fun hrun h hs => h.step hrun hs) hrun

/-- The store is the book at the last operation whose save went through. -/
lemma exists_last_save (hstored : (stored.map Diary.objectID).Nodup)
    (hrun : (machine F).run (DiaryState.launch stored) es = some (s, os)) :
    ∃ pre post, es = pre ++ post ∧ s.context.store = book F stored pre ∧
      (∀ e ∈ post, ¬ e.saves) ∧ (pre = [] ∨ ∃ e, pre.getLast? = some e ∧ e.saves) := by
  refine Machine.run_rule (P := fun es s _ => ∃ pre post, es = pre ++ post ∧
    s.context.store = book F stored pre ∧ (∀ e ∈ post, ¬ e.saves) ∧
      (pre = [] ∨ ∃ e, pre.getLast? = some e ∧ e.saves)) ?_ ?_ hrun
  · have h : Agrees F stored [] (DiaryState.launch stored) := .launch hstored
    refine ⟨[], [], rfl, ?_, nofun, .inl rfl⟩
    rw [← h.objects]
    exact (List.append_nil _).symm.trans (List.filter_eq_self.mpr fun _ _ => rfl).symm
  · rintro es s os e s' o hr ⟨pre, post, rfl, hstore, hpost, hpre⟩ hs
    have h := Agrees.of_run hstored hr
    obtain ⟨-, hstore'⟩ := h.consistent.objects_step hs
    by_cases he : e.saves
    · refine ⟨pre ++ post ++ [e], [], (List.append_nil _).symm, ?_, nofun, .inr ⟨e, ?_, he⟩⟩
      · rw [hstore', if_pos he]
        exact (h.step hr hs).objects
      · exact List.getLast?_concat
    · refine ⟨pre, post ++ [e], List.append_assoc .., ?_, ?_, hpre⟩
      · rw [hstore', if_neg he, hstore]
      · exact List.forall_mem_append.mpr ⟨hpost, List.forall_mem_singleton.mpr he⟩

end DiaryState

open DiaryState (book machine)

/-- In every state that a run reaches, whether its saves threw or not: a deletion traps exactly if
all rows from the index on are fetched in their order before the last diary is fetched. Otherwise it
takes as many of these rows as are fetched in their order, and nothing else. -/
theorem deletion_takes_rows (F : Foundation) (stored : List Diary) (es : List DiaryEvent)
    (s : DiaryState) (os : List DiaryOutput) (hstored : (stored.map Diary.objectID).Nodup)
    (hrun : (machine F).run (.launch stored) es = some (s, os)) (index : ℕ) (f : FetchOrder)
    (saveThrows : Bool) :
    (s.deleteDiary index (some f) saveThrows = none ↔ f.order s.context.objects ≠ [] ∧
        (s.dataSource.drop index).Sublist (f.order s.context.objects).dropLast) ∧
      ∀ s', s.deleteDiary index (some f) saveThrows = some s' →
        ∃ k ≤ (s.dataSource.drop index).length,
          (∀ j ≤ (s.dataSource.drop index).length,
            j ≤ k ↔ ((s.dataSource.drop index).take j).Sublist (f.order s.context.objects)) ∧
          s'.dataSource = s.dataSource.take index ++ s.dataSource.drop (index + k) ∧
          s'.context.objects =
            s.context.objects.filter (fun d => d ∉ (s.dataSource.drop index).take k) ∧
          s'.context.store = if saveThrows then s.context.store else s'.context.objects := by
  have h := (DiaryState.Agrees.of_run hstored hrun).consistent
  rw [h.deleteDiary_eq]
  constructor
  · rw [ite_eq_left_iff]
    simp [Exhausted, DiaryState.rows]
  · intro s' hs'
    obtain ⟨-, hs'⟩ := Option.ite_none_left_eq_some.mp hs'
    cases hs'
    refine ⟨_, matched_le_length, fun j hj => le_matched_iff hj, ?_, ?_, ?_⟩
    · exact congrArg (_ ++ ·) List.drop_drop
    · rw [ManagedContext.objects_save]
      exact h.objects_withoutRows _ _
    · rw [ManagedContext.store_save, ManagedContext.objects_save]
      rfl

/-- Two diaries are shown as fetched, and the deletion of the first takes the second too. -/
theorem deletion_takes_rows_two :
    ∃ k ≤ 2, ∀ j ≤ 2, j ≤ k ↔ (([⟨0, none, 0, none, none⟩, ⟨1, none, 0, none, none⟩] :
      List Diary).take j).Sublist [⟨0, none, 0, none, none⟩, ⟨1, none, 0, none, none⟩] := by
  obtain ⟨k, hk, hrows, -⟩ := (deletion_takes_rows ⟨compare, fun _ xs => xs, fun _ xs => .refl xs⟩
    [⟨0, none, 0, none, none⟩, ⟨1, none, 0, none, none⟩] [.getAllItem (some ⟨id, .refl⟩)] _ _
    (by decide) rfl 0 ⟨id, .refl⟩ false).2 _ rfl
  exact ⟨k, hk, hrows⟩

/-- In every run, whether saves throw or not: the context holds the diaries of the launch and those
saved since, in this order, less those removed, and none is removed twice; the store is what the
context held when a save last went through. -/
theorem store_is_last_saved (F : Foundation) (stored : List Diary) (es : List DiaryEvent)
    (s : DiaryState) (os : List DiaryOutput) (hstored : (stored.map Diary.objectID).Nodup)
    (hrun : (machine F).run (.launch stored) es = some (s, os)) :
    s.context.objects = book F stored es ∧
      ((machine F).collect DiaryState.removed (.launch stored) es).Nodup ∧
      ∃ pre post, es = pre ++ post ∧ s.context.store = book F stored pre ∧
        (∀ e ∈ post, ¬ e.saves) ∧ (pre = [] ∨ ∃ e, pre.getLast? = some e ∧ e.saves) := by
  have h := DiaryState.Agrees.of_run hstored hrun
  exact ⟨h.objects, h.nodup_removed, DiaryState.exists_last_save hstored hrun⟩

/-- A diary whose save throws is stored with the next one. -/
theorem store_is_last_saved_next :
    [⟨1, some "", 0, some "Jun 20, 2021", some "rain"⟩,
        ⟨2, some "", 4, some "Jun 21, 2021", some "sun"⟩] =
      book ⟨compare, fun _ xs => xs, fun _ xs => .refl xs⟩ []
        [.saveDiaryData "" 0 "Jun 20, 2021" "rain" true,
          .saveDiaryData "" 4 "Jun 21, 2021" "sun" false] :=
  (store_is_last_saved _ [] [.saveDiaryData "" 0 "Jun 20, 2021" "rain" true,
    .saveDiaryData "" 4 "Jun 21, 2021" "sun" false] _ _ (by decide) rfl).1

end Soliu
