import Soliu.Basic.StrictWeak
import Soliu.Diary.ViewModel

/-!
# The predicate that the diary list is sorted by

`checkTheDate` is true unless its first date is the later one, so also of equal dates. It is the
total preorder of the comparison, and not the strict ordering that sorting requires
(`sort_predicate_not_strict`): a date comes before itself, and two diaries of the same day come each
before the other.
-/

namespace Soliu

open StrictWeak

/-- `checkTheDate` holds exactly if the comparison does not put the first date after the second. -/
lemma Foundation.checkTheDate_iff_isLE (F : Foundation) (firstDate secondDate : String) :
    F.checkTheDate firstDate secondDate ↔ (F.compare firstDate secondDate).isLE := by
  rw [checkTheDate_iff, Ordering.isLE_iff_ne_gt]

/-- As a relation on all strings it is no strict weak ordering. -/
lemma Foundation.not_isStrictWeakOrder (F : Foundation) (hF : Std.TransCmp F.compare) :
    ¬ IsStrictWeakOrder String fun firstDate secondDate =>
      F.checkTheDate firstDate secondDate := by
  rw [← forall_laws_iff]
  intro h
  have hlaws := h "" "" ""
  simp only [F.checkTheDate_iff_isLE] at hlaws
  exact not_laws_isLE "" "" "" hlaws

/-- On no three strings has the predicate the laws of a strict weak ordering: it holds of a string
and itself, and of two strings both ways exactly if they compare equal. It is transitive, and total,
so that no two strings are incomparable. -/
theorem sort_predicate_not_strict (F : Foundation) (hF : Std.TransCmp F.compare)
    (a b c : String) :
    ¬ Laws (fun firstDate secondDate => F.checkTheDate firstDate secondDate) a b c ∧
      F.checkTheDate a a ∧
      (F.checkTheDate a b ∧ F.checkTheDate b a ↔ F.compare a b = .eq) ∧
      (F.checkTheDate a b → F.checkTheDate b c → F.checkTheDate a c) ∧
      (F.checkTheDate a b ∨ F.checkTheDate b a) := by
  simp only [F.checkTheDate_iff_isLE]
  refine ⟨not_laws_isLE a b c, (isLE_total a a).elim id id, isLE_both_iff, ?_, isLE_total a b⟩
  intro hab hbc
  exact Std.TransCmp.isLE_trans hab hbc

/-- Two diaries of one day and a third one. -/
theorem sort_predicate_not_strict_same_day :
    ¬ Laws (fun firstDate secondDate =>
        Foundation.checkTheDate ⟨compare, fun _ xs => xs, fun _ xs => .refl xs⟩ firstDate
          secondDate)
      "Jun 20, 2021" "Jun 20, 2021" "Jun 21, 2021" :=
  (sort_predicate_not_strict ⟨compare, fun _ xs => xs, fun _ xs => .refl xs⟩
    (inferInstanceAs (Std.TransOrd String)) _ _ _).1

/-- Two diaries of one day come each before the other. -/
theorem same_day_before_itself :
    ¬ ∀ F : Foundation, Std.TransCmp F.compare → ∀ a b c : String,
      Laws (fun firstDate secondDate => F.checkTheDate firstDate secondDate) a b c := by
  intro h
  let F : Foundation := ⟨compare, fun _ xs => xs, fun _ xs => .refl xs⟩
  have hlaws := h F (inferInstanceAs (Std.TransOrd String)) "Jun 20, 2021" "Jun 20, 2021"
    "Jun 20, 2021"
  have hboth : F.checkTheDate "Jun 20, 2021" "Jun 20, 2021" := by decide
  exact hlaws.asymm ⟨hboth, hboth⟩

end Soliu
