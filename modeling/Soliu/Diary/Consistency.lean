import Soliu.Basic.Slice
import Soliu.Diary.ViewModel

/-!
# The diary list shown and the diary stored

A save that throws leaves its insertion or deletion pending in the context, and a fetch returns the
context's objects, so from then on the list differs from the store. `list_matches_store_iff` says
that this is the only way: the list that a fetch shows is the store all along a run exactly if no
save of the run throws.
-/

namespace Soliu

namespace ManagedContext

variable {c : ManagedContext}

/-- A save, thrown or not, leaves the objects of the context as they are. -/
@[simp]
lemma objects_save (throws : Bool) : (c.save throws).objects = c.objects := by
  cases throws with
  | true => rfl
  | false => simp [save, objects]

/-- A save that does not throw writes the objects to the store. -/
lemma store_save (throws : Bool) :
    (c.save throws).store = if throws then c.store else c.objects := by
  cases throws <;> rfl

/-- An insertion adds its object behind those the context has. -/
lemma objects_insert {name : String} {mood : Int32} {date note : String}
    (h : c.nextID ∉ c.deleted) :
    (c.insert name mood date note).objects =
      c.objects ++ [⟨c.nextID, some name, mood, some date, some note⟩] := by
  rw [objects, insert, ← List.append_assoc, List.filter_append]
  exact congrArg (c.objects ++ ·) (List.filter_cons_of_pos (by simpa using h))

/-- The objects are those stored or inserted that are not marked for deletion. -/
lemma mem_objects {d : Diary} :
    d ∈ c.objects ↔ d ∈ c.store ++ c.inserted ∧ d.objectID ∉ c.deleted := by
  rw [objects, List.mem_filter, decide_eq_true_eq]

end ManagedContext

namespace DiaryState

/-- What all operations keep, whether their saves throw or not. -/
structure IsConsistent (s : DiaryState) : Prop where
  nodup : ((s.context.store ++ s.context.inserted).map Diary.objectID).Nodup
  fresh : ∀ d ∈ s.context.store ++ s.context.inserted, d.objectID < s.context.nextID
  freshDeleted : ∀ i ∈ s.context.deleted, i < s.context.nextID
  listed : ∀ d ∈ s.dataSource, d ∈ s.context.objects
  distinct : (s.dataSource.map Diary.objectID).Nodup

/-- Whatever order a fetch returns, the list shows the diaries of the store. -/
def ListMatchesStore (F : Foundation) (s : DiaryState) : Prop :=
  ∀ f : FetchOrder, (s.getAllItem F (some f)).dataSource.Perm s.context.store

/-- The application at its launch, over the diaries the store has from earlier launches. -/
def launch (stored : List Diary) : DiaryState where
  context := { store := stored, nextID := (stored.map Diary.objectID).foldr max 0 + 1 }

end DiaryState

/-- The save of the operation throws, if the operation gets to it with something to save. -/
def DiaryEvent.saveFails (s : DiaryState) : DiaryEvent → Prop
  | saveDiaryData _ _ _ _ saveThrows => saveThrows
  | deleteDiary index fetch saveThrows =>
    saveThrows ∧ fetch.isSome ∧ index < s.dataSource.length
  | getAllItem _ => False

namespace DiaryState

variable {F : Foundation} {s : DiaryState}

/-- After a fetch the data source lists the objects of the context, in the order fetched. -/
lemma getAllItem_perm (f : FetchOrder) :
    (s.getAllItem F (some f)).dataSource.Perm s.context.objects :=
  (F.sort_perm _ _).trans (f.order_perm _)

/-- The list matches the store exactly if the context has nothing pending. -/
lemma listMatchesStore_iff :
    s.ListMatchesStore F ↔ s.context.objects.Perm s.context.store := by
  constructor
  · intro h
    exact (getAllItem_perm ⟨id, List.Perm.refl⟩).symm.trans (h _)
  · intro h f
    exact (getAllItem_perm f).trans h

namespace IsConsistent

/-- No two objects of a consistent context share their identifier. -/
lemma nodup_objects (h : s.IsConsistent) : (s.context.objects.map Diary.objectID).Nodup :=
  h.nodup.sublist (List.filter_sublist.map _)

/-- The state at a launch is consistent. -/
lemma launch {stored : List Diary} (h : (stored.map Diary.objectID).Nodup) :
    (launch stored).IsConsistent where
  nodup := by simpa [DiaryState.launch] using h
  fresh := by
    intro d hd
    have hmax : ∀ ids : List ℕ, ∀ i ∈ ids, i ≤ ids.foldr max 0 := by
      intro ids
      induction ids with
      | nil => nofun
      | cons j ids ih =>
        rintro i (_ | ⟨_, hi⟩)
        · exact Nat.le_max_left _ _
        · exact Nat.le_trans (ih i hi) (Nat.le_max_right _ _)
    rw [DiaryState.launch, List.append_nil] at hd
    exact Nat.lt_succ_of_le (hmax _ _ (List.mem_map_of_mem hd))
  freshDeleted := nofun
  listed := nofun
  distinct := List.nodup_nil

/-- A save keeps the state consistent. -/
lemma save (h : s.IsConsistent) (throws : Bool) :
    IsConsistent { s with context := s.context.save throws } where
  nodup := by
    cases throws with
    | true => exact h.nodup
    | false => simpa [ManagedContext.save] using h.nodup_objects
  fresh := by
    cases throws with
    | true => exact h.fresh
    | false =>
      intro d hd
      rw [ManagedContext.save] at hd
      simp only [Bool.false_eq_true, if_false, List.append_nil] at hd
      exact h.fresh d (ManagedContext.mem_objects.mp hd).1
  freshDeleted := by
    cases throws with
    | true => exact h.freshDeleted
    | false => nofun
  listed d hd := by
    rw [ManagedContext.objects_save]
    exact h.listed d hd
  distinct := h.distinct

/-- An insertion keeps the state consistent. -/
lemma insert (h : s.IsConsistent) (name : String) (mood : Int32) (date note : String) :
    IsConsistent { s with context := s.context.insert name mood date note } where
  nodup := by
    dsimp only [ManagedContext.insert]
    rw [← List.append_assoc, List.map_append, List.map_singleton]
    refine List.nodup_append.mpr ⟨h.nodup, List.nodup_singleton _, ?_⟩
    rintro i hi j hj rfl
    obtain ⟨d, hd, e⟩ := List.mem_map.mp hi
    rw [List.mem_singleton.mp hj] at e
    exact absurd (h.fresh d hd) (by rw [e]; exact Nat.lt_irrefl _)
  fresh := by
    intro d hd
    dsimp only [ManagedContext.insert] at hd ⊢
    rw [← List.append_assoc, List.mem_append, List.mem_singleton] at hd
    rcases hd with hd | rfl
    · exact Nat.lt_succ_of_lt (h.fresh d hd)
    · exact Nat.lt_succ_self _
  freshDeleted i hi := Nat.lt_succ_of_lt (h.freshDeleted i hi)
  listed d hd := by
    rw [ManagedContext.objects_insert fun hn => Nat.lt_irrefl _ (h.freshDeleted _ hn)]
    exact List.mem_append_left _ (h.listed d hd)
  distinct := h.distinct

/-- A fetch, failed or not, keeps the state consistent. -/
lemma getAllItem (h : s.IsConsistent) (fetch : Option FetchOrder) :
    (s.getAllItem F fetch).IsConsistent where
  nodup := h.nodup
  fresh := h.fresh
  freshDeleted := h.freshDeleted
  listed d hd := by
    cases fetch with
    | none => exact h.listed d ((F.sort_perm _ _).mem_iff.mp hd)
    | some f => exact (getAllItem_perm f).mem_iff.mp hd
  distinct := by
    cases fetch with
    | none => exact ((F.sort_perm _ _).map _).nodup_iff.mpr h.distinct
    | some f => exact ((getAllItem_perm f).map _).nodup_iff.mpr h.nodup_objects

/-- The deletion of one item keeps the state consistent. -/
lemma deleteItem {s' : DiaryState} {index : ℕ} {item : Diary} (h : s.IsConsistent)
    (hs : s.deleteItem index item = some s') : s'.IsConsistent := by
  obtain ⟨d, hd, ⟨he, rfl⟩ | ⟨-, rfl⟩⟩ := deleteItem_cases hs
  · have hmem : d ∈ s.context.objects := h.listed d (List.mem_of_getElem? hd)
    refine ⟨h.nodup, h.fresh, ?_, ?_, h.distinct.sublist ((List.eraseIdx_sublist _ _).map _)⟩
    · rintro i (_ | ⟨_, hi⟩)
      · exact he ▸ h.fresh d (ManagedContext.mem_objects.mp hmem).1
      · exact h.freshDeleted i hi
    · intro x hx
      obtain ⟨j, hj, hxj⟩ := List.mem_eraseIdx_iff_getElem?.mp hx
      obtain ⟨hx₁, hx₂⟩ := ManagedContext.mem_objects.mp (h.listed x (List.mem_of_getElem? hxj))
      refine ManagedContext.mem_objects.mpr ⟨hx₁, ?_⟩
      rw [ManagedContext.delete, List.mem_cons, not_or]
      refine ⟨fun hid => hj ?_, hx₂⟩
      -- two places of the list do not hold the same identity
      have hlen : j < (s.dataSource.map Diary.objectID).length := by
        rw [List.length_map]
        exact (List.getElem?_eq_some_iff.mp hxj).1
      refine (List.getElem?_inj hlen h.distinct).mp ?_
      rw [List.getElem?_map, List.getElem?_map, hxj, hd, Option.map_some, Option.map_some, hid, he]
  · exact h

/-- The whole deletion loop keeps the state consistent. -/
lemma deleteDiary {s' : DiaryState} {index : ℕ} {fetch : Option FetchOrder} {saveThrows : Bool}
    (h : s.IsConsistent) (hs : s.deleteDiary index fetch saveThrows = some s') :
    s'.IsConsistent := by
  cases fetch with
  | none =>
    cases hs
    exact h
  | some f =>
    obtain ⟨s₁, hl, hs⟩ := Option.bind_eq_some_iff.mp hs
    cases hs
    exact (Slice.foldlM_inv (fun hi hs => hi.deleteItem hs) h hl).save saveThrows

/-- Every step of the diary machine keeps the state consistent. -/
lemma step {s' : DiaryState} {e : DiaryEvent} {o : List DiaryOutput} (h : s.IsConsistent)
    (hs : (machine F).step s e = some (s', o)) : s'.IsConsistent := by
  cases e with
  | saveDiaryData name mood date note saveThrows =>
    cases hs
    exact (h.insert name mood date note).save saveThrows
  | deleteDiary index fetch saveThrows =>
    obtain ⟨s₁, hd, e⟩ := Option.map_eq_some_iff.mp hs
    cases e
    exact h.deleteDiary hd
  | getAllItem fetch =>
    cases hs
    exact h.getAllItem fetch

end IsConsistent

/-- The deletion loop leaves the store alone and only adds to what is marked for deletion. -/
lemma deleteItems_context {index : ℕ} {items : List Diary} {s' : DiaryState}
    (hs : items.foldlM (deleteItem index) s = some s') :
    s'.context.store = s.context.store ∧ s.context.deleted ⊆ s'.context.deleted := by
  refine Slice.foldlM_inv (I := fun t => t.context.store = s.context.store ∧
    s.context.deleted ⊆ t.context.deleted) ?_ ⟨rfl, List.Subset.refl _⟩ hs
  rintro t item t' ⟨h₁, h₂⟩ ht
  obtain ⟨d, -, ⟨-, rfl⟩ | ⟨-, rfl⟩⟩ := deleteItem_cases ht
  · exact ⟨h₁, List.subset_cons_of_subset _ h₂⟩
  · exact ⟨h₁, h₂⟩

/-- If the fetch returns the diary at the index, the loop deletes it and goes on from there. -/
lemma deleteItems_of_mem {index : ℕ} {items : List Diary} {d : Diary}
    (hd : s.dataSource[index]? = some d) (hmem : d ∈ items) :
    ∃ (item : Diary) (post : List Diary), d.objectID = item.objectID ∧
      items.foldlM (deleteItem index) s = post.foldlM (deleteItem index)
        { context := s.context.delete item, dataSource := s.dataSource.eraseIdx index } := by
  induction items with
  | nil => cases hmem
  | cons item items ih =>
    rw [List.foldlM_cons]
    by_cases he : d.objectID = item.objectID
    · rw [deleteItem_of_eq hd he]
      exact ⟨item, items, he, rfl⟩
    · rw [deleteItem_of_ne hd he]
      refine ih ((List.mem_cons.mp hmem).resolve_left ?_)
      rintro rfl
      exact he rfl

/-- The deletion loop deletes the diary at its index, if the fetch returns it. -/
lemma deleteItems_deleted {index : ℕ} {items : List Diary} {s' : DiaryState} {d : Diary}
    (hd : s.dataSource[index]? = some d) (hmem : d ∈ items)
    (hs : items.foldlM (deleteItem index) s = some s') : d.objectID ∈ s'.context.deleted := by
  obtain ⟨item, post, he, heq⟩ := deleteItems_of_mem hd hmem
  exact (deleteItems_context (heq.symm.trans hs)).2 (he ▸ List.mem_cons_self)

/-- Beyond the end of the list the loop goes through only if there is nothing to fetch. -/
lemma deleteItems_of_length_le {index : ℕ} {items : List Diary} {s' : DiaryState}
    (hi : s.dataSource.length ≤ index) (hs : items.foldlM (deleteItem index) s = some s') :
    s' = s := by
  cases items with
  | nil =>
    cases hs
    rfl
  | cons item items =>
    rw [List.foldlM_cons, deleteItem, List.getElem?_eq_none hi] at hs
    cases hs

/-- After a new object nothing is pending exactly if the save goes through. -/
lemma saveDiaryData_perm_iff (hc : s.IsConsistent) (h : s.context.objects.Perm s.context.store)
    (name : String) (mood : Int32) (date note : String) (saveThrows : Bool) :
    (s.saveDiaryData name mood date note saveThrows).context.objects.Perm
        (s.saveDiaryData name mood date note saveThrows).context.store ↔ saveThrows = false := by
  have hn : s.context.nextID ∉ s.context.deleted :=
    fun hn => Nat.lt_irrefl _ (hc.freshDeleted _ hn)
  simp only [saveDiaryData, ManagedContext.objects_save, ManagedContext.store_save,
    ManagedContext.objects_insert hn]
  cases saveThrows with
  | false => simp
  | true =>
    -- the context has one object more than the store, which matched before
    simp only [if_true, Bool.true_eq_false, iff_false]
    intro hp
    have hlen := (hp.trans (h.symm : s.context.store.Perm _)).length_eq
    simp at hlen

/-- After the loop nothing is pending exactly if it had no diary to delete. -/
lemma deleteItems_perm_iff {index : ℕ} {f : FetchOrder} {s' : DiaryState} (hc : s.IsConsistent)
    (h : s.context.objects.Perm s.context.store)
    (hl : (f.order s.context.objects).foldlM (deleteItem index) s = some s') :
    s'.context.objects.Perm s'.context.store ↔ s.dataSource.length ≤ index := by
  constructor
  · -- a diary that the loop has deleted is still in the store
    intro hp
    by_contra hi
    obtain ⟨d, hd⟩ : ∃ d, s.dataSource[index]? = some d :=
      ⟨_, List.getElem?_eq_getElem (by omega)⟩
    have hobj : d ∈ s.context.objects := hc.listed d (List.mem_of_getElem? hd)
    have hdel := deleteItems_deleted hd ((f.order_perm _).mem_iff.mpr hobj) hl
    have hstore : d ∈ s'.context.store := by
      rw [(deleteItems_context hl).1]
      exact h.mem_iff.mp hobj
    exact (ManagedContext.mem_objects.mp (hp.mem_iff.mpr hstore)).2 hdel
  · intro hi
    rwa [deleteItems_of_length_le hi hl]

/-- An operation on a list that matches the store keeps it so exactly if its save does not fail. -/
lemma listMatchesStore_step_iff {s' : DiaryState} {e : DiaryEvent} {o : List DiaryOutput}
    (hc : s.IsConsistent) (h : s.ListMatchesStore F) (hs : (machine F).step s e = some (s', o)) :
    ¬ e.saveFails s ↔ s'.ListMatchesStore F := by
  rw [listMatchesStore_iff] at h ⊢
  cases e with
  | saveDiaryData name mood date note saveThrows =>
    cases hs
    rw [saveDiaryData_perm_iff hc h, DiaryEvent.saveFails, Bool.not_eq_true]
  | getAllItem fetch =>
    cases hs
    simpa [DiaryEvent.saveFails, getAllItem] using h
  | deleteDiary index fetch saveThrows =>
    obtain ⟨s₂, hd, e⟩ := Option.map_eq_some_iff.mp hs
    cases e
    clear hs
    cases fetch with
    | none =>
      cases hd
      simpa [DiaryEvent.saveFails] using h
    | some f =>
      obtain ⟨s₁, hl, hd⟩ := Option.bind_eq_some_iff.mp hd
      cases hd
      simp only [DiaryEvent.saveFails, ManagedContext.objects_save, ManagedContext.store_save,
        Option.isSome_some, true_and]
      cases saveThrows with
      | false => simp
      | true =>
        rw [if_pos rfl, deleteItems_perm_iff hc h hl]
        simp

end DiaryState

/-- In every run of operations that does not trap, from any stored diaries: the list that a fetch
shows is the store after every operation, exactly if no operation has a save that throws. -/
theorem list_matches_store_iff (F : Foundation) (stored : List Diary)
    (hstored : (stored.map Diary.objectID).Nodup) (es : List DiaryEvent)
    (hrun : ((DiaryState.machine F).run (.launch stored) es).isSome) :
    (DiaryState.machine F).Along (.launch stored) es (DiaryState.ListMatchesStore F) ↔
      (DiaryState.machine F).EachStep (.launch stored) es fun s e => ¬ e.saveFails s := by
  obtain ⟨r, hr⟩ := Option.isSome_iff_exists.mp hrun
  have hlaunch : (DiaryState.launch stored).ListMatchesStore F := by
    rw [DiaryState.listMatchesStore_iff]
    simp [DiaryState.launch, ManagedContext.objects]
  exact Machine.along_iff_eachStep DiaryState.IsConsistent.step
    DiaryState.listMatchesStore_step_iff (.launch hstored) hlaunch hr

/-- A diary is saved, shown and deleted again. -/
theorem list_matches_store_iff_deleted :
    (DiaryState.machine ⟨compare, fun _ xs => xs, fun _ xs => .refl xs⟩).Along (.launch [])
        [.saveDiaryData "" 0 "Jun 20, 2021" "rain" false, .getAllItem (some ⟨id, .refl⟩),
          .deleteDiary 0 (some ⟨id, .refl⟩) false]
        (DiaryState.ListMatchesStore ⟨compare, fun _ xs => xs, fun _ xs => .refl xs⟩) ↔
      (DiaryState.machine ⟨compare, fun _ xs => xs, fun _ xs => .refl xs⟩).EachStep (.launch [])
        [.saveDiaryData "" 0 "Jun 20, 2021" "rain" false, .getAllItem (some ⟨id, .refl⟩),
          .deleteDiary 0 (some ⟨id, .refl⟩) false] fun s e => ¬ e.saveFails s :=
  list_matches_store_iff _ [] (by decide) _ rfl

/-- A diary whose save throws is shown, but not stored. -/
theorem unsaved_diary_shown :
    ¬ ∀ (F : Foundation) (stored : List Diary) (es : List DiaryEvent),
      (stored.map Diary.objectID).Nodup →
        ((DiaryState.machine F).run (.launch stored) es).isSome →
          (DiaryState.machine F).Along (.launch stored) es (DiaryState.ListMatchesStore F) := by
  intro h
  let F : Foundation := ⟨compare, fun _ xs => xs, fun _ xs => .refl xs⟩
  let es : List DiaryEvent := [.saveDiaryData "" 0 "Jun 20, 2021" "rain" true]
  let s := (DiaryState.launch []).saveDiaryData "" 0 "Jun 20, 2021" "rain" true
  have hm : s.ListMatchesStore F := h F [] es (by decide) rfl es [] _ [] rfl rfl
  exact absurd (hm ⟨id, .refl⟩).length_eq (by decide)

end Soliu
