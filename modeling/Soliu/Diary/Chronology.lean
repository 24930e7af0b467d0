import Mathlib.Data.List.Pairwise
import Mathlib.Order.Lattice
import Soliu.Diary.Calendar
import Soliu.Diary.Consistency

/-!
# When the diary list is chronological

`getAllItem` sorts the diaries by comparing the texts of their dates. The list is in the order of
the days exactly if the texts of the stored days happen to be in that order
(`list_chronological_iff`), which already those of January and February are not.
-/

namespace Soliu

open List

/-- What the standard libraries do: comparing strings is a total preorder, by code points on ASCII
strings, and sorting by a total and transitive relation relates every element to all later ones. -/
structure Foundation.IsLawful (F : Foundation) : Prop where
  compare_total : ∀ s t, F.compare s t ≠ .gt ∨ F.compare t s ≠ .gt
  compare_trans : ∀ s t u, F.compare s t ≠ .gt → F.compare t u ≠ .gt → F.compare s u ≠ .gt
  compare_ascii : ∀ s t, (∀ c ∈ codes s, c < 128) → (∀ c ∈ codes t, c < 128) →
    (F.compare s t = .gt ↔ Lex (· < ·) (codes t) (codes s))
  sort_pairwise : ∀ p : Diary → Diary → Bool, (∀ d e, p d e ∨ p e d) →
    (∀ d e f, p d e → p e f → p d f) → ∀ ds, (F.sort p ds).Pairwise fun d e => p d e

/-- The list is complete, and the days never decrease from row to row. -/
def DiaryState.IsChronological (s : DiaryState) (stored : List Diary) (day : Diary → Day) : Prop :=
  s.dataSource.Perm stored ∧ s.dataSource.Pairwise fun d e => (day d).key ≤ (day e).key

section

variable {F : Foundation} {s : DiaryState} {stored : List Diary} {day : Diary → Day}

/-- The comparison of two dates that `getDateString` has written. -/
lemma Foundation.IsLawful.checkTheDate_mediumStyle (hF : F.IsLawful) (x y : Day) :
    F.checkTheDate x.mediumStyle y.mediumStyle ↔ ¬ y.TextBefore x := by
  rw [checkTheDate_iff, Ne, hF.compare_ascii _ _ (fun _ h => x.lt_of_mem_codes_mediumStyle h)
    (fun _ h => y.lt_of_mem_codes_mediumStyle h), Day.codes_lt_iff]

/-- Of any two rows the first one is not later as a text. -/
lemma pairwise_getAllItem (hF : F.IsLawful) (hstored : s.context.objects = stored)
    (hdates : ∀ d ∈ stored, d.date = some ((day d).getDateString "MMM d, yyyy"))
    (f : FetchOrder) :
    (s.getAllItem F (some f)).dataSource.Pairwise fun d e => ¬ (day e).TextBefore (day d) := by
  have hperm : (s.getAllItem F (some f)).dataSource.Perm stored :=
    hstored ▸ DiaryState.getAllItem_perm f
  have hsorted : (s.getAllItem F (some f)).dataSource.Pairwise fun d e =>
      F.checkTheDate (d.date.getD "") (e.date.getD "") := by
    refine hF.sort_pairwise _ ?_ ?_ _
    · intro d e
      rw [Foundation.checkTheDate_iff, Foundation.checkTheDate_iff]
      exact hF.compare_total _ _
    · intro d e f
      rw [Foundation.checkTheDate_iff, Foundation.checkTheDate_iff, Foundation.checkTheDate_iff]
      exact hF.compare_trans _ _ _
  refine hsorted.imp_of_mem ?_
  intro d e hd he h
  rw [hdates d (hperm.mem_iff.mp hd), hdates e (hperm.mem_iff.mp he)] at h
  exact (hF.checkTheDate_mediumStyle _ _).mp h

/-- If the list is chronological, the texts of the days are in the order of the days. -/
lemma textBefore_of_isChronological (hF : F.IsLawful) (hstored : s.context.objects = stored)
    (hdates : ∀ d ∈ stored, d.date = some ((day d).getDateString "MMM d, yyyy"))
    {f : FetchOrder} (h : (s.getAllItem F (some f)).IsChronological stored day) {d e : Diary}
    (hd : d ∈ stored) (he : e ∈ stored) (hlt : (day d).key < (day e).key) :
    (day d).TextBefore (day e) := by
  let Agree : Diary → Diary → Prop := fun d e =>
    ((day d).key < (day e).key → (day d).TextBefore (day e)) ∧
      ((day e).key < (day d).key → (day e).TextBefore (day d))
  have : Std.Symm Agree := ⟨fun _ _ h => ⟨h.2, h.1⟩⟩
  have hself : ∀ d ∈ (s.getAllItem F (some f)).dataSource, Agree d d := fun d _ =>
    ⟨fun h => absurd h (lt_irrefl _), fun h => absurd h (lt_irrefl _)⟩
  have hagree : (s.getAllItem F (some f)).dataSource.Pairwise Agree := by
    refine (h.2.and (pairwise_getAllItem hF hstored hdates f)).imp ?_
    rintro d e ⟨hle, htext⟩
    refine ⟨fun hlt => ?_, fun hlt => absurd hlt (not_lt_of_ge hle)⟩
    obtain hbefore | hday | hafter := (day d).textBefore_trichotomous (day e)
    · exact hbefore
    · exact absurd (congrArg Day.key hday) hlt.ne
    · exact absurd hafter htext
  exact (hagree.forall_of_forall hself (h.1.mem_iff.mpr hd) (h.1.mem_iff.mpr he)).1 hlt

/-- Texts in the order of the days make the list chronological. -/
lemma isChronological_of_textBefore (hF : F.IsLawful) (hstored : s.context.objects = stored)
    (hdates : ∀ d ∈ stored, d.date = some ((day d).getDateString "MMM d, yyyy"))
    (f : FetchOrder)
    (h : ∀ d ∈ stored, ∀ e ∈ stored, (day d).key < (day e).key → (day d).TextBefore (day e)) :
    (s.getAllItem F (some f)).IsChronological stored day := by
  have hperm : (s.getAllItem F (some f)).dataSource.Perm stored :=
    hstored ▸ DiaryState.getAllItem_perm f
  refine ⟨hperm, (pairwise_getAllItem hF hstored hdates f).imp_of_mem ?_⟩
  intro d e hd he htext
  by_contra hlt
  exact htext (h e (hperm.mem_iff.mp he) d (hperm.mem_iff.mp hd) (lt_of_not_ge hlt))

end

/-- The list is a permutation of the stored diaries in the order of their days if and only if of any
two of them with different days the text of the earlier day comes first: the abbreviation of its
month, in the same month the numeral of its day, and on the same day of the year the numeral of its
year. -/
theorem list_chronological_iff (F : Foundation) (hF : F.IsLawful) (s : DiaryState)
    (stored : List Diary) (hstored : s.context.objects = stored) (day : Diary → Day)
    (hdates : ∀ d ∈ stored, d.date = some ((day d).getDateString "MMM d, yyyy"))
    (f : FetchOrder) :
    (s.getAllItem F (some f)).IsChronological stored day ↔
      ∀ d ∈ stored, ∀ e ∈ stored, (day d).key < (day e).key → (day d).TextBefore (day e) := by
  constructor
  · intro h d hd e he hlt
    exact textBefore_of_isChronological hF hstored hdates h hd he hlt
  · exact isChronological_of_textBefore hF hstored hdates f

/-- The comparison by code points, with a merge sort. -/
def Foundation.byCode : Foundation where
  compare s t :=
    if Lex (· < ·) (codes t) (codes s) then .gt
    else if codes s = codes t then .eq else .lt
  sort p ds := ds.mergeSort p
  sort_perm p ds := ds.mergeSort_perm p

/-- The comparison by code points keeps the laws asked of Foundation. -/
lemma Foundation.isLawful_byCode : byCode.IsLawful := by
  have hgt : ∀ s t, byCode.compare s t = .gt ↔ codes t < codes s := by
    intro s t
    rw [← List.lex_lt]
    dsimp only [byCode]
    split
    case isTrue h => exact iff_of_true rfl h
    case isFalse h => split <;> exact iff_of_false nofun h
  refine ⟨?_, ?_, fun s t _ _ => hgt s t, ?_⟩
  · intro s t
    rw [Ne, Ne, hgt, hgt, not_lt, not_lt]
    exact le_total _ _
  · intro s t u
    rw [Ne, Ne, Ne, hgt, hgt, hgt, not_lt, not_lt, not_lt]
    exact le_trans
  · intro p htotal htrans ds
    refine List.pairwise_mergeSort htrans (fun d e => ?_) ds
    rw [Bool.or_eq_true]
    exact htotal d e

/-- A diary as it is saved on a day. -/
def diaryOn (objectID : ℕ) (day : Day) : Diary :=
  ⟨objectID, some "", 0, some (day.getDateString "MMM d, yyyy"), some ""⟩

/-- A day in April comes before a day in June, and as a text too. -/
theorem list_chronological_iff_april_june :
    ((DiaryState.launch [diaryOn 0 ⟨2021, 5, 20, by decide, by decide⟩,
        diaryOn 1 ⟨2021, 3, 9, by decide, by decide⟩]).getAllItem Foundation.byCode
      (some ⟨id, List.Perm.refl⟩)).IsChronological
      [diaryOn 0 ⟨2021, 5, 20, by decide, by decide⟩,
        diaryOn 1 ⟨2021, 3, 9, by decide, by decide⟩]
      fun d => if d.objectID = 0 then ⟨2021, 5, 20, by decide, by decide⟩
        else ⟨2021, 3, 9, by decide, by decide⟩ :=
  (list_chronological_iff _ Foundation.isLawful_byCode _ _ (by decide) _ (by decide) _).mpr
    (by decide)

/-- A day in March is listed after one in April. -/
theorem april_listed_before_march :
    ¬ ∀ (F : Foundation) (s : DiaryState) (stored : List Diary) (day : Diary → Day)
        (f : FetchOrder), F.IsLawful → s.context.objects = stored →
      (∀ d ∈ stored, d.date = some ((day d).getDateString "MMM d, yyyy")) →
        (s.getAllItem F (some f)).IsChronological stored day := by
  intro h
  let march : Day := ⟨2021, 2, 1, by decide, by decide⟩
  let april : Day := ⟨2021, 3, 1, by decide, by decide⟩
  let stored : List Diary := [diaryOn 0 march, diaryOn 1 april]
  let day : Diary → Day := fun d => if d.objectID = 0 then march else april
  have hdates : ∀ d ∈ stored, d.date = some ((day d).getDateString "MMM d, yyyy") := by decide
  have hlist := h Foundation.byCode (.launch stored) stored day ⟨id, List.Perm.refl⟩
    Foundation.isLawful_byCode (by decide) hdates
  have htext := textBefore_of_isChronological Foundation.isLawful_byCode (by decide) hdates hlist
    (d := diaryOn 0 march) (e := diaryOn 1 april) (by decide) (by decide) (by decide)
  exact absurd htext (by decide)

end Soliu
