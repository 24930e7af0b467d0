import Soliu.Profile.Averages
import Soliu.TestScreen.Detail

/-!
# The two scorers

`uploadData` divides the sums of five answers by three, with the sections cut after the answers 4
and 9; the profile divides by five, with the second cut after answer 10. `scorers_agree_iff` says on
which sheets the two come to the same scores nevertheless.
-/

namespace Soliu

/-- The three scores in the order of the sections. -/
def SectionScore.triple (score : SectionScore) : List ExactDouble :=
  [score.depression, score.anxiety, score.stress]

namespace TestDetailViewModel

/-- Adding answers to a finite score gives a finite score. -/
lemma foldl_add_finite (q : ℚ) (ns : List ℤ) :
    (ns.map Int.cast : List ExactDouble).foldl (· + ·) (.finite q) =
      .finite (q + (ns.map Int.cast).sum) := by
  induction ns generalizing q with
  | nil => simp
  | cons n ns ih =>
    rw [List.map_cons, List.foldl_cons, ExactDouble.intCast_eq, ExactDouble.finite_add, ih,
      List.map_cons, List.sum_cons, add_assoc]

/-- The score of a section is the sum of its answers over 3. -/
lemma sectionScore_eq {testScore : List ℤ} {lower upper : ℕ} (h : upper < testScore.length) :
    sectionScore (testScore.map Int.cast) lower upper =
      some (.finite ((answersAt [testScore] lower upper).sum / 3)) := by
  rw [sectionScore, Slice.slice, List.length_map, if_pos h, Option.map_some, ← List.map_take,
    ← List.map_drop, ExactDouble.ofNat_eq, ExactDouble.ofNat_eq, Nat.cast_zero, foldl_add_finite,
    ExactDouble.finite_div (by norm_num)]
  simp [answersAt]

/-- The scores that `uploadData` writes for a sheet of 15 answers. -/
lemma uploadData_eq {testScore : List ℤ} (h : testScore.length = 15) (u : Uid) :
    uploadData (testScore.map Int.cast) (some u) =
      some (some (u, ⟨.finite ((answersAt [testScore] 0 4).sum / 3),
        .finite ((answersAt [testScore] 5 9).sum / 3),
        .finite ((answersAt [testScore] 10 14).sum / 3)⟩)) := by
  rw [uploadData, sectionScores, sectionScore_eq (by omega), sectionScore_eq (by omega),
    sectionScore_eq (by omega)]
  rfl

end TestDetailViewModel

/-- The triple uploaded for a sheet is the triple of averages of a record with this sheet alone if
and only if the answers of the first section cancel out and those of the other two make up for the
different divisors and for position 10. -/
theorem scorers_agree_iff (testScore : List ℤ) (h : testScore.length = 15) (u : Uid)
    (info : TestInformation) (testDate : String)
    (hinfo : info.testResult = [⟨testDate, testScore⟩]) :
    (∃ score, TestDetailViewModel.uploadData (testScore.map Int.cast) (some u) =
          some (some (u, score)) ∧
        ProfileViewModel.calculateUserAverageScore info = some score.triple) ↔
      (answersAt [testScore] 0 4).sum = 0 ∧
        2 * (answersAt [testScore] 5 9).sum = 3 * (answersAt [testScore] 10 10).sum ∧
        2 * (answersAt [testScore] 11 14).sum = -5 * (answersAt [testScore] 10 10).sum := by
  have hlong : ∀ r ∈ info.testResult, 15 ≤ r.testScore.length := by
    rw [hinfo]
    simp [h]
  have haverages := ProfileViewModel.calculateUserAverageScore_eq hlong (by simp [hinfo])
  have hin := sum_answersAt_split [testScore] (show 5 ≤ 9 + 1 by decide) (show 9 ≤ 10 by decide)
  have hout := sum_answersAt_split [testScore] (show 10 ≤ 10 + 1 by decide)
    (show 10 ≤ 14 by decide)
  rw [hinfo, List.map_cons, List.map_nil] at haverages
  rw [TestDetailViewModel.uploadData_eq h, haverages]
  simp only [averages, mean_share, List.length_singleton, Nat.cast_one, mul_one, hin]
  constructor
  · rintro ⟨score, hscore, htriple⟩
    cases hscore
    simp only [SectionScore.triple, Option.some.injEq, List.cons.injEq, ExactDouble.finite.injEq,
      and_true, hout] at htriple
    obtain ⟨hd, ha, hs⟩ := htriple
    exact ⟨by linarith, by linarith, by linarith⟩
  · rintro ⟨hd, ha, hs⟩
    refine ⟨_, rfl, ?_⟩
    simp only [SectionScore.triple, Option.some.injEq, List.cons.injEq, ExactDouble.finite.injEq,
      and_true, hout]
    exact ⟨by linarith, by linarith, by linarith⟩

/-- A sheet of positive and negative answers on which both scorers come to the same, and a sheet of
ones on which they do not. -/
theorem scorers_agree_iff_mixed :
    let sheet : List ℤ := [1, -1, 2, -2, 0, 1, 1, 1, 0, 0, 2, -1, -1, -1, -2]
    let ones : List ℤ := List.replicate 15 1
    let u := Uid.letter 'a' rfl
    (∃ score, TestDetailViewModel.uploadData (sheet.map Int.cast) (some u) =
          some (some (u, score)) ∧
        ProfileViewModel.calculateUserAverageScore ⟨"", "", "", [⟨"", sheet⟩]⟩ =
          some score.triple) ∧
      ¬ ∃ score, TestDetailViewModel.uploadData (ones.map Int.cast) (some u) =
          some (some (u, score)) ∧
        ProfileViewModel.calculateUserAverageScore ⟨"", "", "", [⟨"", ones⟩]⟩ =
          some score.triple := by
  intro sheet ones u
  have hsheet := scorers_agree_iff sheet rfl u ⟨"", "", "", [⟨"", sheet⟩]⟩ "" rfl
  have hones := scorers_agree_iff ones rfl u ⟨"", "", "", [⟨"", ones⟩]⟩ "" rfl
  exact ⟨hsheet.mpr (by decide +kernel), fun h => absurd (hones.mp h) (by decide +kernel)⟩

/-- For a sheet of threes 5, 5 and 5 are uploaded, and 3, 3.6 and 2.4 are shown. -/
theorem scorers_disagree :
    ¬ ∀ (testScore : List ℤ) (u : Uid) (info : TestInformation), testScore.length = 15 →
      info.testResult = [⟨"", testScore⟩] →
        ∃ score, TestDetailViewModel.uploadData (testScore.map Int.cast) (some u) =
            some (some (u, score)) ∧
          ProfileViewModel.calculateUserAverageScore info = some score.triple := by
  intro h
  let info : TestInformation := ⟨"Male", "Junior", "Education", [⟨"", List.replicate 15 3⟩]⟩
  have huploaded : TestDetailViewModel.uploadData ((List.replicate 15 (3 : ℤ)).map Int.cast)
      (some (Uid.letter 'a' rfl)) =
        some (some (Uid.letter 'a' rfl, ⟨.finite 5, .finite 5, .finite 5⟩)) := by decide +kernel
  have hshown : ProfileViewModel.calculateUserAverageScore info =
      some [.finite 3, .finite (18 / 5), .finite (12 / 5)] := by decide +kernel
  obtain ⟨score, hscore, htriple⟩ := h _ (Uid.letter 'a' rfl) info rfl rfl
  rw [hshown] at htriple
  cases huploaded.symm.trans hscore
  exact absurd htriple (by decide +kernel)

end Soliu
