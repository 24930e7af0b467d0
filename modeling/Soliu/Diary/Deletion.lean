import Soliu.Diary.Consistency

/-!
# Which deletions remove exactly one diary

`deleteDiary` goes on through the fetched diaries after it has found the one to delete, and compares
the rest of them with whatever has moved to the same index of the shortened list. So a second diary
is deleted when the fetch returns the successor in the list later on, and the loop reads beyond the
list when there is no successor but something is left to fetch. `deletes_exactly_iff` says that
these are the only ways to fail.
-/

namespace Soliu

/-- The diary at the index is the last one fetched, or its successor in the list is fetched before
it. -/
def SafeToDelete (fetched dataSource : List Diary) (index : ℕ) : Prop :=
  ∃ d pre post, dataSource[index]? = some d ∧ fetched = pre ++ d :: post ∧
    (post = [] ∨ ∃ d' ∈ pre, dataSource[index + 1]? = some d')

namespace DiaryState

/-- The state in which this list is shown of the stored diaries, and nothing is pending. -/
def showing (stored dataSource : List Diary) (nextID : ℕ) : DiaryState where
  context := { store := stored, nextID }
  dataSource

/-- The deletion goes through, and the diary at the index is gone from the store and from the list,
and no other. -/
def DeletesExactly (s : DiaryState) (index : ℕ) (f : FetchOrder) : Prop :=
  ∃ d s', s.dataSource[index]? = some d ∧ s.deleteDiary index (some f) false = some s' ∧
    s'.context.store = s.context.store.erase d ∧ s'.dataSource = s.dataSource.eraseIdx index

variable {s s' : DiaryState} {index : ℕ} {d item : Diary} {items : List Diary}

/-- The loop passes over diaries other than the one at the index. -/
lemma deleteItems_of_forall_ne (hd : s.dataSource[index]? = some d)
    (h : ∀ item ∈ items, d.objectID ≠ item.objectID) :
    items.foldlM (deleteItem index) s = some s := by
  induction items with
  | nil => rfl
  | cons item items ih =>
    rw [List.forall_mem_cons] at h
    rw [List.foldlM_cons, deleteItem_of_ne hd h.1]
    exact ih h.2

/-- At the diary at the index it deletes, and goes on with a shorter list. -/
lemma deleteItems_split {pre post : List Diary} (hd : s.dataSource[index]? = some d)
    (h : ∀ item ∈ pre, d.objectID ≠ item.objectID) :
    (pre ++ d :: post).foldlM (deleteItem index) s =
      post.foldlM (deleteItem index)
        { context := s.context.delete d, dataSource := s.dataSource.eraseIdx index } := by
  rw [List.foldlM_append, deleteItems_of_forall_ne hd h, Option.bind_eq_bind, Option.bind_some,
    List.foldlM_cons, deleteItem_of_eq hd rfl]
  rfl

/-- The loop never makes the list longer. -/
lemma length_deleteItems_le (hs : items.foldlM (deleteItem index) s = some s') :
    s'.dataSource.length ≤ s.dataSource.length := by
  refine Slice.foldlM_inv (I := fun t => t.dataSource.length ≤ s.dataSource.length) ?_
    (Nat.le_refl _) hs
  intro t item t' ht h
  obtain ⟨d, hd, ⟨-, rfl⟩ | ⟨-, rfl⟩⟩ := deleteItem_cases h
  · exact Nat.le_trans (List.eraseIdx_sublist _ _).length_le ht
  · exact ht

/-- If the fetch still returns the diary at the index, the list gets shorter. -/
lemma length_deleteItems_lt (hd : s.dataSource[index]? = some d) (hmem : d ∈ items)
    (hs : items.foldlM (deleteItem index) s = some s') :
    s'.dataSource.length < s.dataSource.length := by
  have hindex : index < s.dataSource.length := (List.getElem?_eq_some_iff.mp hd).1
  obtain ⟨item, post, -, heq⟩ := deleteItems_of_mem hd hmem
  have hle := length_deleteItems_le (heq.symm.trans hs)
  dsimp only at hle
  rw [List.length_eraseIdx_of_lt hindex] at hle
  omega

/-- What the deletion leaves in the store: everything but the diary deleted. -/
lemma store_save_delete {stored : List Diary} (nextID : ℕ)
    (hids : (stored.map Diary.objectID).Nodup) (hd : d ∈ stored) :
    ((({ store := stored, nextID } : ManagedContext).delete d).save false).store =
      stored.erase d := by
  have hne : ∀ d' ∈ stored, decide (d'.objectID ∉ [d.objectID]) = (d' != d) := by
    intro d' hd'
    rw [Bool.eq_iff_iff, decide_eq_true_eq, List.mem_singleton, bne_iff_ne]
    exact not_congr ⟨List.inj_on_of_nodup_map hids hd' hd, congrArg _⟩
  rw [ManagedContext.store_save, if_neg nofun, (List.Nodup.of_map _ hids).erase_eq_filter]
  exact (congrArg _ (List.append_nil _)).trans (List.filter_congr hne)

/-- The deletion, with the diary at the index split off the fetched ones. -/
lemma deleteDiary_showing {stored dataSource pre post : List Diary} {nextID : ℕ} {f : FetchOrder}
    (hids : (stored.map Diary.objectID).Nodup) (hd : dataSource[index]? = some d)
    (hf : f.order stored = pre ++ d :: post) :
    (showing stored dataSource nextID).deleteDiary index (some f) false =
      (post.foldlM (deleteItem index)
        { context := ({ store := stored, nextID } : ManagedContext).delete d
          dataSource := dataSource.eraseIdx index }).map
        fun s => { s with context := s.context.save false } := by
  have hobjects : (showing stored dataSource nextID).context.objects = stored := by
    simp [showing, ManagedContext.objects]
  have hpre : ∀ item ∈ pre, d.objectID ≠ item.objectID := by
    have h := ((f.order_perm stored).map Diary.objectID).nodup_iff.mpr hids
    rw [hf, List.map_append, List.map_cons] at h
    intro item hitem he
    refine List.disjoint_of_nodup_append h (List.mem_map_of_mem hitem) ?_
    rw [← he]
    exact List.mem_cons_self
  rw [deleteDiary, hobjects, hf, deleteItems_split (s := showing stored dataSource nextID) hd hpre]
  simp only [Option.map_eq_bind]
  rfl

/-- Since identities differ, the fetched diaries split at the one to delete in one way only. -/
lemma safeToDelete_iff {dataSource pre post : List Diary} (hnodup : (pre ++ d :: post).Nodup)
    (hd : dataSource[index]? = some d) :
    SafeToDelete (pre ++ d :: post) dataSource index ↔
      post = [] ∨ ∃ d' ∈ pre, dataSource[index + 1]? = some d' := by
  constructor
  · rintro ⟨e, pre', post', he, hf, h⟩
    obtain rfl : d = e := Option.some.inj (hd.symm.trans he)
    have hnot := List.nodup_middle.mp hnodup
    rw [List.nodup_cons, List.mem_append, not_or] at hnot
    obtain ⟨rfl, -, rfl⟩ := (List.append_cons_inj_of_notMem hnot.1.1 hnot.1.2).mp hf
    exact h
  · intro h
    exact ⟨d, pre, post, hd, rfl, h⟩

/-- The deletion is exact if the rest of the loop goes through and leaves the list alone. -/
lemma deletesExactly_iff_foldlM {stored dataSource pre post : List Diary} {nextID : ℕ}
    {f : FetchOrder} (hids : (stored.map Diary.objectID).Nodup)
    (hd : dataSource[index]? = some d) (hf : f.order stored = pre ++ d :: post) :
    (showing stored dataSource nextID).DeletesExactly index f ↔
      ∃ t, post.foldlM (deleteItem index)
          { context := ({ store := stored, nextID } : ManagedContext).delete d
            dataSource := dataSource.eraseIdx index } = some t ∧
        (t.context.save false).store = stored.erase d ∧
        t.dataSource = dataSource.eraseIdx index := by
  constructor
  · rintro ⟨e, s', he, hs, hstore, hdata⟩
    obtain rfl : d = e := Option.some.inj (hd.symm.trans he)
    rw [deleteDiary_showing hids hd hf] at hs
    obtain ⟨t, ht, rfl⟩ := Option.map_eq_some_iff.mp hs
    exact ⟨t, ht, hstore, hdata⟩
  · rintro ⟨t, ht, hstore, hdata⟩
    refine ⟨d, { t with context := t.context.save false }, hd, ?_, hstore, hdata⟩
    rw [deleteDiary_showing hids hd hf, ht, Option.map_some]

end DiaryState

/-- Deleting a diary removes exactly that diary if and only if it is the last one the fetch returns
or its successor in the list is returned before it. -/
theorem deletes_exactly_iff (stored dataSource : List Diary) (nextID index : ℕ) (f : FetchOrder)
    (hids : (stored.map Diary.objectID).Nodup) (hlist : dataSource.Perm stored)
    (hindex : index < dataSource.length) :
    (DiaryState.showing stored dataSource nextID).DeletesExactly index f ↔
      SafeToDelete (f.order stored) dataSource index := by
  obtain ⟨d, hd⟩ : ∃ d, dataSource[index]? = some d := ⟨_, List.getElem?_eq_getElem hindex⟩
  have hfetched : dataSource.Perm (f.order stored) := hlist.trans (f.order_perm stored).symm
  obtain ⟨pre, post, hf⟩ := List.append_of_mem (hfetched.mem_iff.mp (List.mem_of_getElem? hd))
  have hnodup : ((pre ++ d :: post).map Diary.objectID).Nodup :=
    hf ▸ ((f.order_perm stored).map _).nodup_iff.mpr hids
  rw [hf, DiaryState.safeToDelete_iff (List.Nodup.of_map _ hnodup) hd,
    DiaryState.deletesExactly_iff_foldlM hids hd hf]
  have hstore := DiaryState.store_save_delete nextID hids
    (hlist.mem_iff.mp (List.mem_of_getElem? hd))
  -- after the deletion the successor stands at the index
  have hnext : (dataSource.eraseIdx index)[index]? = dataSource[index + 1]? :=
    List.getElem?_eraseIdx_of_ge (Nat.le_refl _)
  constructor
  · rintro ⟨t, ht, -, hdata⟩
    refine or_iff_not_imp_left.mpr fun hpost => ?_
    obtain ⟨d', hd'⟩ : ∃ d', (dataSource.eraseIdx index)[index]? = some d' := by
      obtain ⟨item, items, rfl⟩ := List.exists_cons_of_ne_nil hpost
      obtain ⟨u, hu, -⟩ := Option.bind_eq_some_iff.mp (List.foldlM_cons.symm.trans ht)
      obtain ⟨d', hd', -⟩ := Option.bind_eq_some_iff.mp hu
      exact ⟨d', hd'⟩
    have h' : dataSource[index + 1]? = some d' := hnext.symm.trans hd'
    refine ⟨d', ?_, h'⟩
    have hmem := hfetched.mem_iff.mp (List.mem_of_getElem? h')
    rw [hf, List.mem_append, List.mem_cons] at hmem
    obtain hpre | rfl | hpost := hmem
    · exact hpre
    · -- a diary is not its own successor
      have hdistinct : dataSource.Nodup := hlist.nodup_iff.mpr (List.Nodup.of_map _ hids)
      exact absurd ((List.getElem?_inj hindex hdistinct).mp (hd.trans h'.symm)) (Nat.ne_add_one _)
    · -- the successor would be deleted too
      have hlt :=
        DiaryState.length_deleteItems_lt (s := { context := _, dataSource := _ }) hd' hpost ht
      exact absurd (congrArg List.length hdata) (Nat.ne_of_lt hlt)
  · rintro (rfl | ⟨d', hd', h'⟩)
    · exact ⟨_, rfl, hstore, rfl⟩
    · refine ⟨_, DiaryState.deleteItems_of_forall_ne (hnext.trans h') ?_, hstore, rfl⟩
      intro item hitem he
      rw [List.map_append] at hnodup
      refine List.disjoint_of_nodup_append hnodup (List.mem_map_of_mem hd') ?_
      rw [he, List.map_cons]
      exact List.mem_cons_of_mem _ (List.mem_map_of_mem hitem)

/-- Of three diaries the middle one of the list is deleted, and fetched last. -/
theorem deletes_exactly_iff_last :
    (DiaryState.showing [⟨0, none, 0, none, none⟩, ⟨1, none, 0, none, none⟩,
        ⟨2, none, 0, none, none⟩]
      [⟨0, none, 0, none, none⟩, ⟨2, none, 0, none, none⟩, ⟨1, none, 0, none, none⟩]
      3).DeletesExactly 1 ⟨id, List.Perm.refl⟩ ↔
      SafeToDelete [⟨0, none, 0, none, none⟩, ⟨1, none, 0, none, none⟩, ⟨2, none, 0, none, none⟩]
        [⟨0, none, 0, none, none⟩, ⟨2, none, 0, none, none⟩, ⟨1, none, 0, none, none⟩] 1 :=
  deletes_exactly_iff _ _ 3 1 ⟨id, List.Perm.refl⟩ (by decide) (by decide) (by decide)

/-- Two diaries are fetched in the order in which they are shown, and deleting the first deletes
both. -/
theorem next_diary_deleted :
    ¬ ∀ (stored dataSource : List Diary) (nextID index : ℕ) (f : FetchOrder),
      (stored.map Diary.objectID).Nodup → dataSource.Perm stored → index < dataSource.length →
        (DiaryState.showing stored dataSource nextID).DeletesExactly index f := by
  intro h
  let a : Diary := ⟨0, some "", 0, some "Jun 20, 2021", some "rain"⟩
  let b : Diary := ⟨1, some "", 0, some "Jun 21, 2021", some "sun"⟩
  obtain ⟨d, s', -, hs, -, hdata⟩ :=
    h [a, b] [a, b] 2 0 ⟨id, List.Perm.refl⟩ (by decide) (List.Perm.refl _) (by decide)
  have hboth : (DiaryState.showing [a, b] [a, b] 2).deleteDiary 0 (some ⟨id, List.Perm.refl⟩)
      false = some { context := { store := [], nextID := 2 }, dataSource := [] } := rfl
  rw [hboth] at hs
  cases hs
  cases hdata

end Soliu
