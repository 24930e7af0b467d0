import Soliu.Basic.Mean
import Soliu.Profile.ViewModel

/-!
# What the averages of the profile are

Both calculations route the answers 0 to 4, 5 to 10 and 11 to 14 of every sheet into their three
sums and divide each by five for every sheet. So either average is the mean over the sheets of what
a sheet contributes (`share`). `section_averages_iff` says when this is the mean of the answers of
each section, and `all_average_weighted` how the average of all users is made up of the users' own.
-/

namespace Soliu

open Mean

/-- The answers at the positions `lower` to `upper` of all the sheets. -/
def answersAt (sheets : List (List ℤ)) (lower upper : ℕ) : List ℚ :=
  sheets.flatMap fun testScore => ((testScore.take (upper + 1)).drop lower).map Int.cast

/-- What a sheet contributes to an average, as it is calculated. -/
def share (lower upper : ℕ) (testScore : List ℤ) : ℚ :=
  (((testScore.take (upper + 1)).drop lower).map Int.cast).sum / 5

section

variable {sheets : List (List ℤ)} {lower upper : ℕ}

/-- The answers of a section sum to five times the shares of the sheets. -/
lemma sum_answersAt (sheets : List (List ℤ)) (lower upper : ℕ) :
    (answersAt sheets lower upper).sum = 5 * (sheets.map (share lower upper)).sum := by
  induction sheets with
  | nil => simp [answersAt]
  | cons testScore sheets ih =>
    rw [answersAt, List.flatMap_cons, List.sum_append, List.map_cons, List.sum_cons, mul_add, ← ih,
      share, mul_div_cancel₀ _ (by norm_num), answersAt]

/-- The mean of the shares is the sum of the answers over five times the number of sheets. -/
lemma mean_share (sheets : List (List ℤ)) (lower upper : ℕ) :
    mean (sheets.map (share lower upper)) =
      (answersAt sheets lower upper).sum / (5 * sheets.length) := by
  rw [sum_answersAt, mean, List.length_map, mul_div_mul_left _ _ (by norm_num)]

/-- A section cut in two sums to its parts. -/
lemma sum_answersAt_split (sheets : List (List ℤ)) {mid : ℕ} (hl : lower ≤ mid + 1)
    (hu : mid ≤ upper) :
    (answersAt sheets lower upper).sum =
      (answersAt sheets lower mid).sum + (answersAt sheets (mid + 1) upper).sum := by
  have hsplit : ∀ testScore : List ℤ, (testScore.take (upper + 1)).drop lower =
      (testScore.take (mid + 1)).drop lower ++ (testScore.take (upper + 1)).drop (mid + 1) := by
    intro testScore
    rw [List.drop_take, List.drop_take, List.drop_take,
      show upper + 1 - lower = (mid + 1 - lower) + (upper + 1 - (mid + 1)) by omega, List.take_add,
      List.drop_drop, Nat.add_sub_cancel' hl]
  induction sheets with
  | nil => simp [answersAt]
  | cons testScore sheets ih =>
    simp only [answersAt, List.flatMap_cons, List.sum_append, hsplit testScore, List.map_append]
      at ih ⊢
    rw [ih]
    ring

/-- Every sheet that is long enough has as many answers at the positions as there are positions. -/
lemma length_answersAt (h : ∀ testScore ∈ sheets, upper < testScore.length) :
    (answersAt sheets lower upper).length = (upper + 1 - lower) * sheets.length := by
  induction sheets with
  | nil => simp [answersAt]
  | cons testScore sheets ih =>
    rw [List.forall_mem_cons] at h
    have ih := ih h.2
    simp only [answersAt, List.flatMap_cons, List.length_append, List.length_map, List.length_drop,
      List.length_take, List.length_cons] at ih ⊢
    rw [ih, Nat.min_eq_left (by omega), Nat.mul_succ, Nat.add_comm]

/-- An answer counted for a section is an answer of one of the sheets. -/
lemma mem_answersAt {q : ℚ} (h : q ∈ answersAt sheets lower upper) :
    ∃ testScore ∈ sheets, ∃ n ∈ testScore, (n : ℚ) = q := by
  obtain ⟨testScore, hs, hq⟩ := List.mem_flatMap.mp h
  obtain ⟨n, hn, rfl⟩ := List.mem_map.mp hq
  exact ⟨testScore, hs, n, List.mem_of_mem_take (List.mem_of_mem_drop hn), rfl⟩

end

/-- The outer loop adds up the answers that are routed to each sum. -/
lemma Sums.addSheets_eq {sheets : List (List ℤ)} (h : ∀ testScore ∈ sheets, 15 ≤ testScore.length) :
    addSheets sheets = some ⟨.finite (answersAt sheets 0 4).sum,
      .finite (answersAt sheets 5 10).sum, .finite (answersAt sheets 11 14).sum⟩ := by
  have hfrom : ∀ d a s : ℚ, sheets.foldlM addSheet ⟨.finite d, .finite a, .finite s⟩ =
      some ⟨.finite (d + (answersAt sheets 0 4).sum), .finite (a + (answersAt sheets 5 10).sum),
        .finite (s + (answersAt sheets 11 14).sum)⟩ := by
    induction sheets with
    | nil => simp [answersAt]
    | cons testScore sheets ih =>
      intro d a s
      rw [List.forall_mem_cons] at h
      rw [List.foldlM_cons, addSheet_finite d a s testScore h.1, Option.bind_eq_bind,
        Option.bind_some, ih h.2]
      simp only [answersAt, List.flatMap_cons, List.sum_append, List.drop_zero, add_assoc]
  have h := hfrom 0 0 0
  rw [zero_add, zero_add, zero_add] at h
  exact h

/-- The three averages that both calculations come to. -/
def averages (sheets : List (List ℤ)) : List ExactDouble :=
  [.finite (mean (sheets.map (share 0 4))), .finite (mean (sheets.map (share 5 10))),
    .finite (mean (sheets.map (share 11 14)))]

/-- What a sheet of answers from 1 to 5 contributes goes by the number of answers counted. -/
lemma share_range {testScore : List ℤ} (lower : ℕ) {upper : ℕ} (hu : upper < testScore.length)
    (h : ∀ n ∈ testScore, 1 ≤ n ∧ n ≤ 5) :
    ((upper + 1 - lower : ℕ) : ℚ) / 5 ≤ share lower upper testScore ∧
      share lower upper testScore ≤ (upper + 1 - lower : ℕ) := by
  let answers : List ℚ := ((testScore.take (upper + 1)).drop lower).map Int.cast
  have hlength : answers.length = upper + 1 - lower := by
    rw [List.length_map, List.length_drop, List.length_take, Nat.min_eq_left hu]
  have hmem : ∀ q ∈ answers, 1 ≤ q ∧ q ≤ 5 := by
    intro q hq
    obtain ⟨n, hn, rfl⟩ := List.mem_map.mp hq
    exact_mod_cast h n (List.mem_of_mem_take (List.mem_of_mem_drop hn))
  have hlower := List.card_nsmul_le_sum answers 1 fun q hq => (hmem q hq).1
  have hupper := List.sum_le_card_nsmul answers 5 fun q hq => (hmem q hq).2
  rw [hlength, nsmul_eq_mul] at hlower hupper
  rw [share]
  constructor <;> linarith

/-- The bounds of the averages over sheets of answers from 1 to 5: the second counts six answers of
a sheet and the third four, and all are divided by five. -/
lemma averages_range {sheets : List (List ℤ)} (hne : sheets ≠ [])
    (h : ∀ testScore ∈ sheets, 15 ≤ testScore.length ∧ ∀ n ∈ testScore, 1 ≤ n ∧ n ≤ 5) :
    ∃ d a s : ℚ, averages sheets = [.finite d, .finite a, .finite s] ∧
      (1 ≤ d ∧ d ≤ 5) ∧ (6 / 5 ≤ a ∧ a ≤ 6) ∧ (4 / 5 ≤ s ∧ s ≤ 4) := by
  have hmean : ∀ lower upper, upper < 15 →
      ((upper + 1 - lower : ℕ) : ℚ) / 5 ≤ mean (sheets.map (share lower upper)) ∧
        mean (sheets.map (share lower upper)) ≤ (upper + 1 - lower : ℕ) := by
    intro lower upper hu
    have hmap : sheets.map (share lower upper) ≠ [] := mt List.map_eq_nil_iff.mp hne
    have hshare : ∀ testScore ∈ sheets, _ := fun testScore hs =>
      share_range lower (Nat.lt_of_lt_of_le hu (h testScore hs).1) (h testScore hs).2
    exact ⟨le_mean hmap (List.forall_mem_map.mpr fun s hs => (hshare s hs).1),
      mean_le hmap (List.forall_mem_map.mpr fun s hs => (hshare s hs).2)⟩
  refine ⟨_, _, _, rfl, ?_, ?_, ?_⟩
  · simpa using hmean 0 4 (by decide)
  · simpa using hmean 5 10 (by decide)
  · simpa using hmean 11 14 (by decide)

namespace ProfileViewModel

/-- The calculation over the own records gives the averages of their sheets. -/
lemma calculateUserAverageScore_eq {info : TestInformation}
    (h : ∀ r ∈ info.testResult, 15 ≤ r.testScore.length) (hne : info.testResult ≠ []) :
    calculateUserAverageScore info = some (averages (info.testResult.map (·.testScore))) := by
  have hlength : (info.testResult.length : ℚ) ≠ 0 :=
    Nat.cast_ne_zero.mpr (mt List.length_eq_zero_iff.mp hne)
  have hdiv : ∀ q : ℚ, ExactDouble.finite q / 5 / info.testResult.length =
      .finite (q / (5 * info.testResult.length)) := by
    intro q
    rw [ExactDouble.ofNat_eq, ExactDouble.natCast_eq, ExactDouble.finite_div (by norm_num),
      ExactDouble.finite_div hlength, div_div]
    rfl
  rw [calculateUserAverageScore, Sums.addSheets_eq (List.forall_mem_map.mpr h)]
  simp only [averages, mean_share, List.length_map]
  simp only [Option.bind_eq_bind, Option.bind_some, Option.pure_def, hdiv]

/-- The calculation over the shared records gives the averages of their sheets. -/
lemma calculateAllUserAverageScore_eq {all : AllTestResult}
    (h : ∀ r ∈ all.testResult, 15 ≤ r.testScore.length) (hne : all.testResult ≠ []) :
    calculateAllUserAverageScore all = some (averages (all.testResult.map (·.testScore))) := by
  have hlength : (all.testResult.length : ℚ) ≠ 0 :=
    Nat.cast_ne_zero.mpr (mt List.length_eq_zero_iff.mp hne)
  have hdiv : ∀ q : ℚ, ExactDouble.finite q / all.testResult.length / 5 =
      .finite (q / (5 * all.testResult.length)) := by
    intro q
    rw [ExactDouble.ofNat_eq, ExactDouble.natCast_eq, ExactDouble.finite_div hlength,
      ExactDouble.finite_div (by norm_num), div_div, mul_comm]
    rfl
  rw [calculateAllUserAverageScore, Sums.addSheets_eq (List.forall_mem_map.mpr h)]
  simp only [averages, mean_share, List.length_map]
  simp only [Option.bind_eq_bind, Option.bind_some, Option.pure_def, hdiv]

end ProfileViewModel

/-! ## The means of the sections -/

/-- The mean of all answers of each section, as `uploadData` has the sections. -/
def sectionMeans (sheets : List (List ℤ)) : List ExactDouble :=
  [.finite (mean (answersAt sheets 0 4)), .finite (mean (answersAt sheets 5 9)),
    .finite (mean (answersAt sheets 10 14))]

/-- Whenever all answers are from 1 to 5, so are the averages. -/
def KeepsRange (sheets : List (List ℤ)) (averages : Option (List ExactDouble)) : Prop :=
  (∀ testScore ∈ sheets, ∀ n ∈ testScore, 1 ≤ n ∧ n ≤ 5) →
    ∃ xs, averages = some xs ∧ ∀ x ∈ xs, ∃ q : ℚ, x = .finite q ∧ 1 ≤ q ∧ q ≤ 5

section

variable {sheets : List (List ℤ)}

/-- The mean of a section of five answers is their sum over five times the number of sheets. -/
lemma mean_answersAt (lower upper : ℕ) (h : ∀ testScore ∈ sheets, upper < testScore.length)
    (hfive : upper + 1 - lower = 5) :
    mean (answersAt sheets lower upper) =
      (answersAt sheets lower upper).sum / (5 * sheets.length) := by
  rw [mean, length_answersAt h, hfive, Nat.cast_mul, Nat.cast_ofNat]

/-- The calculated averages are the section means if the answers at position 10 cancel out. -/
lemma averages_eq_sectionMeans (hne : sheets ≠ [])
    (h : ∀ testScore ∈ sheets, testScore.length = 15) :
    averages sheets = sectionMeans sheets ↔ (answersAt sheets 10 10).sum = 0 := by
  have hlength : (5 * sheets.length : ℚ) ≠ 0 :=
    mul_ne_zero (by norm_num) (Nat.cast_ne_zero.mpr (mt List.length_eq_zero_iff.mp hne))
  have hupper : ∀ upper < 15, ∀ testScore ∈ sheets, upper < testScore.length := by
    intro upper hu testScore hs
    rw [h testScore hs]
    exact hu
  have hd := mean_answersAt 0 4 (hupper 4 (by decide)) rfl
  have ha := mean_answersAt 5 9 (hupper 9 (by decide)) rfl
  have hs := mean_answersAt 10 14 (hupper 14 (by decide)) rfl
  -- position 10 is counted in the second average, and missing in the third
  have hin := sum_answersAt_split sheets (show 5 ≤ 9 + 1 by decide) (show 9 ≤ 10 by decide)
  have hout := sum_answersAt_split sheets (show 10 ≤ 10 + 1 by decide) (show 10 ≤ 14 by decide)
  simp only [averages, sectionMeans, mean_share, hd, ha, hs, hin, hout, List.cons.injEq,
    ExactDouble.finite.injEq, and_true, true_and, div_left_inj' hlength]
  constructor
  · rintro ⟨h, -⟩
    linarith
  · intro h
    constructor <;> linarith

/-- The means of the three sections stay within the range of the answers. -/
lemma sectionMeans_keepsRange (hne : sheets ≠ [])
    (h : ∀ testScore ∈ sheets, testScore.length = 15) :
    KeepsRange sheets (some (sectionMeans sheets)) := by
  intro hrange
  refine ⟨_, rfl, ?_⟩
  have hmean : ∀ lower upper, lower ≤ upper → upper < 15 →
      ∃ q : ℚ, ExactDouble.finite (mean (answersAt sheets lower upper)) = .finite q ∧
        1 ≤ q ∧ q ≤ 5 := by
    intro lower upper hl hu
    have hanswers : answersAt sheets lower upper ≠ [] := by
      rw [← List.length_pos_iff, length_answersAt fun s hs => by rw [h s hs]; exact hu]
      exact Nat.mul_pos (by omega) (List.length_pos_iff.mpr hne)
    have hmem : ∀ q ∈ answersAt sheets lower upper, 1 ≤ q ∧ q ≤ 5 := by
      intro q hq
      obtain ⟨testScore, hs, n, hn, rfl⟩ := mem_answersAt hq
      exact_mod_cast hrange testScore hs n hn
    exact ⟨_, rfl, le_mean hanswers fun q hq => (hmem q hq).1,
      mean_le hanswers fun q hq => (hmem q hq).2⟩
  simp only [sectionMeans, List.forall_mem_cons]
  exact ⟨hmean 0 4 (by decide) (by decide), hmean 5 9 (by decide) (by decide),
    hmean 10 14 (by decide) (by decide), nofun⟩

end

/-- The two calculations return the means of the three sections, and keep the range of the answers,
if and only if the answers at position 10, the first of the third section, add up to zero. -/
theorem section_averages_iff (info : TestInformation) (all : AllTestResult)
    (sheets : List (List ℤ)) (hinfo : info.testResult.map (·.testScore) = sheets)
    (hall : all.testResult.map (·.testScore) = sheets) (hne : sheets ≠ [])
    (h : ∀ testScore ∈ sheets, testScore.length = 15) :
    (ProfileViewModel.calculateUserAverageScore info = some (sectionMeans sheets) ∧
        ProfileViewModel.calculateAllUserAverageScore all = some (sectionMeans sheets) ∧
        KeepsRange sheets (ProfileViewModel.calculateUserAverageScore info) ∧
        KeepsRange sheets (ProfileViewModel.calculateAllUserAverageScore all)) ↔
      (answersAt sheets 10 10).sum = 0 := by
  have hlong : ∀ testScore ∈ sheets, 15 ≤ testScore.length := fun s hs => (h s hs).ge
  have huser : ProfileViewModel.calculateUserAverageScore info = some (averages sheets) := by
    subst hinfo
    exact ProfileViewModel.calculateUserAverageScore_eq
      (fun r hr => hlong _ (List.mem_map_of_mem hr)) (mt (congrArg (List.map _)) hne)
  have hallUser : ProfileViewModel.calculateAllUserAverageScore all = some (averages sheets) := by
    subst hall
    exact ProfileViewModel.calculateAllUserAverageScore_eq
      (fun r hr => hlong _ (List.mem_map_of_mem hr)) (mt (congrArg (List.map _)) hne)
  rw [huser, hallUser, Option.some_inj, ← averages_eq_sectionMeans hne h]
  constructor
  · intro hm
    exact hm.1
  · intro hm
    rw [hm]
    exact ⟨rfl, rfl, sectionMeans_keepsRange hne h, sectionMeans_keepsRange hne h⟩

/-- Two sheets with a zero as the eleventh answer, and one with a five. -/
theorem section_averages_iff_two_sheets :
    let sheet : List ℤ := [1, 2, 3, 4, 5, 1, 2, 3, 4, 5, 0, 1, 2, 3, 4]
    let other : List ℤ := [5, 4, 3, 2, 1, 5, 4, 3, 2, 1, 0, 5, 5, 5, 5]
    let fives : List ℤ := List.replicate 15 5
    let info (sheets : List (List ℤ)) : TestInformation := ⟨"", "", "", sheets.map (⟨"", ·⟩)⟩
    let all (sheets : List (List ℤ)) : AllTestResult := ⟨sheets.map (⟨"", ·, ""⟩)⟩
    ProfileViewModel.calculateAllUserAverageScore (all [sheet, other]) =
        some (sectionMeans [sheet, other]) ∧
      KeepsRange [sheet, other] (ProfileViewModel.calculateUserAverageScore (info [sheet, other])) ∧
      ¬ (ProfileViewModel.calculateUserAverageScore (info [sheet, fives]) =
          some (sectionMeans [sheet, fives]) ∧
        ProfileViewModel.calculateAllUserAverageScore (all [sheet, fives]) =
          some (sectionMeans [sheet, fives]) ∧
        KeepsRange [sheet, fives]
          (ProfileViewModel.calculateUserAverageScore (info [sheet, fives])) ∧
        KeepsRange [sheet, fives]
          (ProfileViewModel.calculateAllUserAverageScore (all [sheet, fives]))) := by
  intro sheet other fives info all
  have hzero := (section_averages_iff (info [sheet, other]) (all [sheet, other]) _ rfl rfl
    (by decide) (by decide)).mpr (by decide +kernel)
  have hfive := section_averages_iff (info [sheet, fives]) (all [sheet, fives]) _ rfl rfl
    (by decide) (by decide)
  exact ⟨hzero.2.1, hzero.2.2.1, fun h => absurd (hfive.mp h) (by decide +kernel)⟩

/-- A sheet with nothing but fives has an anxiety average of 6 and a stress average of 4. -/
theorem fives_average_six :
    ¬ ∀ (info : TestInformation) (sheets : List (List ℤ)),
      info.testResult.map (·.testScore) = sheets → sheets ≠ [] →
        (∀ testScore ∈ sheets, testScore.length = 15) →
          ProfileViewModel.calculateUserAverageScore info = some (sectionMeans sheets) ∧
            KeepsRange sheets (ProfileViewModel.calculateUserAverageScore info) := by
  intro h
  let info : TestInformation := ⟨"Male", "Junior", "Education", [⟨"", List.replicate 15 5⟩]⟩
  have haverages : ProfileViewModel.calculateUserAverageScore info =
      some [.finite 5, .finite 6, .finite 4] := by decide +kernel
  have hmeans : sectionMeans [List.replicate 15 5] = [.finite 5, .finite 5, .finite 5] := by
    decide +kernel
  have h := (h info [List.replicate 15 5] rfl (by decide) (by decide)).1
  rw [haverages, hmeans] at h
  exact absurd h (by decide)

/-! ## The average of all users -/

/-- How the average of all users is made up, when `info` has the sheets of each of them. -/
structure AverageIsWeighted (all : AllTestResult) (info : String → TestInformation) : Prop where
  weighted : ∃ (allAverage : Fin 3 → ℚ) (average : String → Fin 3 → ℚ),
    ProfileViewModel.calculateAllUserAverageScore all =
        some (List.ofFn fun i => .finite (allAverage i)) ∧
      (∀ uid ∈ all.testResult.map (·.testUid),
        ProfileViewModel.calculateUserAverageScore (info uid) =
          some (List.ofFn fun i => .finite (average uid i))) ∧
      ∀ i, all.testResult.length * allAverage i =
        ∑ uid ∈ (all.testResult.map (·.testUid)).toFinset,
          (info uid).testResult.length * average uid i
  single : ∀ uid ∈ all.testResult.map (·.testUid), (∀ r ∈ all.testResult, r.testUid = uid) →
    ProfileViewModel.calculateUserAverageScore (info uid) =
      ProfileViewModel.calculateAllUserAverageScore all
  all_perm : ∀ all' : AllTestResult, all'.testResult.Perm all.testResult →
    ProfileViewModel.calculateAllUserAverageScore all' =
      ProfileViewModel.calculateAllUserAverageScore all
  user_perm : ∀ uid ∈ all.testResult.map (·.testUid), ∀ info' : TestInformation,
    info'.testResult.Perm (info uid).testResult →
      ProfileViewModel.calculateUserAverageScore info' =
        ProfileViewModel.calculateUserAverageScore (info uid)

/-- What a sheet contributes to each of the three averages. -/
def shares : Fin 3 → List ℤ → ℚ
  | 0 => share 0 4
  | 1 => share 5 10
  | 2 => share 11 14

/-- The averages are the means of the shares of the three sections. -/
lemma averages_eq_ofFn (sheets : List (List ℤ)) :
    averages sheets = List.ofFn fun i => .finite (mean (sheets.map (shares i))) := rfl

/-- The averages do not depend on the order of the sheets. -/
lemma averages_perm {sheets sheets' : List (List ℤ)} (h : sheets.Perm sheets') :
    averages sheets = averages sheets' := by
  rw [averages_eq_ofFn, averages_eq_ofFn]
  exact congrArg List.ofFn (funext fun i => congrArg _ (mean_perm (h.map _)))

/-- The shared mean, weighted by all sheets, is the sum of the users' means weighted by theirs. -/
lemma length_mul_mean_shares {all : AllTestResult} {info : String → TestInformation}
    (hinfo : ∀ uid ∈ all.testResult.map (·.testUid),
      ((info uid).testResult.map (·.testScore)).Perm
        ((all.testResult.filter (·.testUid = uid)).map (·.testScore))) (i : Fin 3) :
    all.testResult.length * mean ((all.testResult.map (·.testScore)).map (shares i)) =
      ∑ uid ∈ (all.testResult.map (·.testUid)).toFinset, (info uid).testResult.length *
        mean (((info uid).testResult.map (·.testScore)).map (shares i)) := by
  rw [List.map_map, length_mul_mean_map (shares i ∘ TestResultWithUid.testScore)
    TestResultWithUid.testUid]
  refine Finset.sum_congr rfl fun uid huid => ?_
  have hp := hinfo uid (List.mem_toFinset.mp huid)
  have hlength := hp.length_eq
  rw [List.length_map, List.length_map] at hlength
  rw [mean_perm (hp.map (shares i)), List.map_map, hlength]

/-- The average of all users is the mean of the users' own averages, weighted by the numbers of
their sheets; of a single user it is that user's average, and no order of the sheets matters. -/
theorem all_average_weighted (all : AllTestResult) (info : String → TestInformation)
    (hne : all.testResult ≠ []) (h : ∀ r ∈ all.testResult, 15 ≤ r.testScore.length)
    (hinfo : ∀ uid ∈ all.testResult.map (·.testUid),
      ((info uid).testResult.map (·.testScore)).Perm
        ((all.testResult.filter (·.testUid = uid)).map (·.testScore))) :
    AverageIsWeighted all info := by
  have hall := ProfileViewModel.calculateAllUserAverageScore_eq h hne
  have hlong : ∀ uid ∈ all.testResult.map (·.testUid), ∀ r ∈ (info uid).testResult,
      15 ≤ r.testScore.length := by
    intro uid huid r hr
    obtain ⟨r', hr', he⟩ := List.mem_map.mp
      ((hinfo uid huid).mem_iff.mp (List.mem_map_of_mem hr))
    rw [← he]
    exact h r' (List.mem_of_mem_filter hr')
  have hsome : ∀ uid ∈ all.testResult.map (·.testUid), (info uid).testResult ≠ [] := by
    intro uid huid hnil
    obtain ⟨r, hr, he⟩ := List.mem_map.mp huid
    have hp := hinfo uid huid
    rw [hnil, List.map_nil, List.nil_perm, List.map_eq_nil_iff] at hp
    exact List.filter_eq_nil_iff.mp hp r hr (decide_eq_true he)
  have huser := fun uid huid =>
    ProfileViewModel.calculateUserAverageScore_eq (hlong uid huid) (hsome uid huid)
  constructor
  · refine ⟨fun i => mean ((all.testResult.map TestResultWithUid.testScore).map (shares i)),
      fun uid i => mean (((info uid).testResult.map TestResult.testScore).map (shares i)),
      hall, huser, length_mul_mean_shares hinfo⟩
  · intro uid huid hsingle
    have hp := hinfo uid huid
    rw [List.filter_eq_self.mpr fun r hr => decide_eq_true (hsingle r hr)] at hp
    rw [huser uid huid, hall, averages_perm hp]
  · intro all' hp
    have h' : ∀ r ∈ all'.testResult, 15 ≤ r.testScore.length := fun r hr => h r (hp.mem_iff.mp hr)
    rw [hall, ProfileViewModel.calculateAllUserAverageScore_eq h' fun hnil => hne ?_,
      averages_perm (hp.map _)]
    rwa [hnil, List.nil_perm] at hp
  · intro uid huid info' hp
    have h' : ∀ r ∈ info'.testResult, 15 ≤ r.testScore.length :=
      fun r hr => hlong uid huid r (hp.mem_iff.mp hr)
    rw [huser uid huid,
      ProfileViewModel.calculateUserAverageScore_eq h' fun hnil => hsome uid huid ?_,
      averages_perm (hp.map _)]
    rwa [hnil, List.nil_perm] at hp

/-- Two users, the sheets of one of them around the other's. -/
theorem all_average_weighted_interleaved :
    AverageIsWeighted
      ⟨[⟨"", List.replicate 15 1, "a"⟩, ⟨"", List.replicate 15 2, "b"⟩,
        ⟨"", List.replicate 15 3, "a"⟩]⟩
      fun uid => ⟨"", "", "", if uid = "a" then
        [⟨"", List.replicate 15 3⟩, ⟨"", List.replicate 15 1⟩] else [⟨"", List.replicate 15 2⟩]⟩ :=
  all_average_weighted _ _ (by decide) (by decide) (by decide)

end Soliu
