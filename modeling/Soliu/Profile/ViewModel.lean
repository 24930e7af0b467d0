import Soliu.Basic.ExactDouble
import Soliu.Basic.Slice
import Soliu.Records.SupportFirebase

/-!
# The profile: `ProfileViewModel.swift`

The two reads of `readTestResult` and the averages that `calculateTestScore` computes of whatever
the two shared fields hold by then. The loops read the indices 0 to 14 of every sheet; a sheet that
is shorter makes them trap (`none`).
-/

namespace Soliu

/-- What the profile shows: the personal fields, and six averages. -/
structure AverageTestScore where
  gender : String
  grade : String
  major : String
  userAverageDepressionScore : ExactDouble
  userAverageAnxietyScore : ExactDouble
  userAverageStressScore : ExactDouble
  allUserAverageDepressionScore : ExactDouble
  allUserAverageAnxietyScore : ExactDouble
  allUserAverageStressScore : ExactDouble
deriving DecidableEq

/-- The initialiser, which traps on lists that are too short. -/
def AverageTestScore.init (scoreList : List ExactDouble) (userInformation : List (Option String)) :
    Option AverageTestScore := do
  return {
    userAverageDepressionScore := ← scoreList[0]?
    userAverageAnxietyScore := ← scoreList[1]?
    userAverageStressScore := ← scoreList[2]?
    allUserAverageDepressionScore := ← scoreList[3]?
    allUserAverageAnxietyScore := ← scoreList[4]?
    allUserAverageStressScore := ← scoreList[5]?
    gender := (← userInformation[0]?).getD ""
    grade := (← userInformation[1]?).getD ""
    major := (← userInformation[2]?).getD "" }

/-- The six averages in the order of the score list. -/
def AverageTestScore.averages (a : AverageTestScore) : List ExactDouble :=
  [a.userAverageDepressionScore, a.userAverageAnxietyScore, a.userAverageStressScore,
    a.allUserAverageDepressionScore, a.allUserAverageAnxietyScore, a.allUserAverageStressScore]

/-! ## The sums over the sheets -/

/-- The three running sums of the two calculations. -/
structure Sums where
  depressionScore : ExactDouble
  anxietyScore : ExactDouble
  stressScore : ExactDouble
deriving DecidableEq

namespace Sums

/-- The sums before the loops. -/
def zero : Sums := ⟨0, 0, 0⟩

/-- `depressionScore += n`. -/
def addDepression (sums : Sums) (n : ℤ) : Sums :=
  { sums with depressionScore := sums.depressionScore + n }

/-- `anxietyScore += n`. -/
def addAnxiety (sums : Sums) (n : ℤ) : Sums :=
  { sums with anxietyScore := sums.anxietyScore + n }

/-- `stressScore += n`. -/
def addStress (sums : Sums) (n : ℤ) : Sums :=
  { sums with stressScore := sums.stressScore + n }

/-- One round of the inner loop: `switch index`. -/
def addAnswer (testScore : List ℤ) (sums : Sums) (index : ℕ) : Option Sums :=
  testScore[index]?.map fun n =>
    if index ≤ 4 then sums.addDepression n
    else if 5 ≤ index ∧ index ≤ 10 then sums.addAnxiety n
    else sums.addStress n

/-- The inner loop, over the indices 0 to 14 of one sheet. -/
def addSheet (sums : Sums) (testScore : List ℤ) : Option Sums :=
  (List.range 15).foldlM (addAnswer testScore) sums

/-- The outer loop, over the sheets. -/
def addSheets (sheets : List (List ℤ)) : Option Sums :=
  sheets.foldlM addSheet zero

/-- One sheet, section by section: the answers 0 to 4, 5 to 10 and 11 to 14. -/
lemma addSheet_eq (sums : Sums) (testScore : List ℤ) :
    sums.addSheet testScore =
      ((Slice.slice testScore 0 4).map (List.foldl addDepression sums)).bind fun sums =>
        ((Slice.slice testScore 5 10).map (List.foldl addAnxiety sums)).bind fun sums =>
          (Slice.slice testScore 11 14).map (List.foldl addStress sums) := by
  -- within a section the `switch` always takes the same branch, so its rounds are a slice loop
  have hsection : ∀ (f : Sums → ℤ → Sums) (lower n : ℕ),
      (∀ i ∈ List.range' lower (n + 1), ∀ sums, addAnswer testScore sums i =
        testScore[i]?.map (f sums)) → ∀ sums,
      (List.range' lower (n + 1)).foldlM (addAnswer testScore) sums =
        (Slice.slice testScore lower (lower + n)).map (List.foldl f sums) := by
    intro f lower n h sums
    rw [← Slice.foldlM_range']
    exact Slice.foldlM_congr h sums
  have hrange : List.range 15 = List.range' 0 5 ++ (List.range' 5 6 ++ List.range' 11 4) := rfl
  rw [addSheet, hrange, List.foldlM_append, hsection addDepression 0 4]
  · refine bind_congr fun sums => ?_
    rw [List.foldlM_append, hsection addAnxiety 5 5]
    · refine bind_congr fun sums => hsection addStress 11 3 ?_ sums
      intro i hi sums
      rw [List.mem_range'_1] at hi
      simp only [addAnswer, if_neg (show ¬ i ≤ 4 by omega),
        if_neg (show ¬ (5 ≤ i ∧ i ≤ 10) by omega)]
    · intro i hi sums
      rw [List.mem_range'_1] at hi
      simp only [addAnswer, if_neg (show ¬ i ≤ 4 by omega), if_pos (show 5 ≤ i ∧ i ≤ 10 by omega)]
  · intro i hi sums
    rw [List.mem_range'_1] at hi
    simp only [addAnswer, if_pos (show i ≤ 4 by omega)]

/-- The inner loop goes through exactly on sheets of at least 15 answers. -/
@[simp]
lemma addSheet_isSome (sums : Sums) (testScore : List ℤ) :
    (sums.addSheet testScore).isSome ↔ 15 ≤ testScore.length := by
  have hstress : ∀ sums, ((Slice.slice testScore 11 14).map (List.foldl addStress sums)).isSome ↔
      14 < testScore.length := by
    intro sums
    rw [Option.isSome_map, Slice.slice_isSome]
  have hanxiety : ∀ sums, (((Slice.slice testScore 5 10).map (List.foldl addAnxiety sums)).bind
      fun sums => (Slice.slice testScore 11 14).map (List.foldl addStress sums)).isSome ↔
        10 < testScore.length ∧ 14 < testScore.length := by
    intro sums
    rw [Slice.bind_isSome_iff hstress, Option.isSome_map, Slice.slice_isSome]
  rw [addSheet_eq, Slice.bind_isSome_iff hanxiety, Option.isSome_map, Slice.slice_isSome]
  omega

/-- The loops over the sheets trap exactly if a sheet has fewer than 15 answers. -/
lemma addSheets_isSome (sheets : List (List ℤ)) :
    (addSheets sheets).isSome ↔ ∀ testScore ∈ sheets, 15 ≤ testScore.length :=
  Slice.foldlM_isSome_iff addSheet_isSome sheets zero

/-- A loop that adds to one of the three sums adds up, as long as that sum is a number. -/
lemma foldl_finite {f : Sums → ℤ → Sums} (sums : ℚ → Sums)
    (h : ∀ q n, f (sums q) n = sums (q + n)) (q : ℚ) (ns : List ℤ) :
    ns.foldl f (sums q) = sums (q + (ns.map Int.cast).sum) := by
  induction ns generalizing q with
  | nil => rw [List.foldl_nil, List.map_nil, List.sum_nil, add_zero]
  | cons n ns ih => rw [List.foldl_cons, h, ih, List.map_cons, List.sum_cons, add_assoc]

/-- What one sheet of 15 answers or more adds to the sums. -/
lemma addSheet_finite (d a s : ℚ) (testScore : List ℤ) (h : 15 ≤ testScore.length) :
    addSheet ⟨.finite d, .finite a, .finite s⟩ testScore =
      some ⟨.finite (d + ((testScore.take 5).map Int.cast).sum),
        .finite (a + (((testScore.take 11).drop 5).map Int.cast).sum),
        .finite (s + (((testScore.take 15).drop 11).map Int.cast).sum)⟩ := by
  have hd := foldl_finite (f := addDepression) (fun d => ⟨.finite d, .finite a, .finite s⟩)
    (fun _ _ => rfl) d (testScore.take 5)
  have ha := fun d => foldl_finite (f := addAnxiety) (fun a => ⟨.finite d, .finite a, .finite s⟩)
    (fun _ _ => rfl) a ((testScore.take 11).drop 5)
  have hs := fun d a => foldl_finite (f := addStress) (fun s => ⟨.finite d, .finite a, .finite s⟩)
    (fun _ _ => rfl) s ((testScore.take 15).drop 11)
  rw [addSheet_eq, Slice.slice, Slice.slice, Slice.slice, if_pos (by omega), if_pos (by omega),
    if_pos (by omega), Option.map_some, Option.bind_some, Option.map_some, Option.bind_some,
    Option.map_some, List.drop_zero, hd, ha, hs]

/-- No sum is infinite or no number. -/
def IsFinite (sums : Sums) : Prop :=
  sums.depressionScore.IsFinite ∧ sums.anxietyScore.IsFinite ∧ sums.stressScore.IsFinite

/-- Adding an answer keeps the sums finite. -/
lemma IsFinite.addAnswer {sums sums' : Sums} {testScore : List ℤ} {index : ℕ} (h : sums.IsFinite)
    (hs : sums.addAnswer testScore index = some sums') : sums'.IsFinite := by
  obtain ⟨_, _, _⟩ := sums
  obtain ⟨⟨d, rfl⟩, ⟨a, rfl⟩, ⟨s, rfl⟩⟩ := h
  obtain ⟨n, -, rfl⟩ := Option.map_eq_some_iff.mp hs
  split
  · exact ⟨⟨d + n, rfl⟩, ⟨a, rfl⟩, ⟨s, rfl⟩⟩
  · split
    · exact ⟨⟨d, rfl⟩, ⟨a + n, rfl⟩, ⟨s, rfl⟩⟩
    · exact ⟨⟨d, rfl⟩, ⟨a, rfl⟩, ⟨s + n, rfl⟩⟩

/-- The sums of the loops are finite. -/
lemma isFinite_addSheets {sheets : List (List ℤ)} {sums : Sums}
    (h : addSheets sheets = some sums) : sums.IsFinite :=
  Slice.foldlM_inv (fun hs h => Slice.foldlM_inv IsFinite.addAnswer hs h)
    (show zero.IsFinite from ⟨⟨0, rfl⟩, ⟨0, rfl⟩, ⟨0, rfl⟩⟩) h

end Sums

/-! ## The view model -/

/-- The two fields that all reads share. -/
structure ProfileViewModel where
  testInformation : Option TestInformation := none
  allTestResult : Option AllTestResult := none
deriving DecidableEq

namespace ProfileViewModel

/-- The test information shown when none was read. -/
def defaultTestScore : TestInformation where
  gender := "not provided"
  grade := "not provided"
  major := "not major"
  testResult := [⟨"", [0, 0, 0, 0, 0, 0, 0, 0, 0, 0, 0, 0, 0, 0, 0]⟩]

/-- The shared results taken when none were read. -/
def defaultAllTestScore : AllTestResult where
  testResult := [⟨"", [0, 0, 0, 0, 0, 0, 0, 0, 0, 0, 0, 0, 0, 0, 0], "testUid"⟩]

/-- The averages over the results of one user. -/
def calculateUserAverageScore (testInformation : TestInformation) : Option (List ExactDouble) := do
  let testResultList := testInformation.testResult
  let sums ← Sums.addSheets (testResultList.map (·.testScore))
  return [sums.depressionScore / 5 / testResultList.length,
    sums.anxietyScore / 5 / testResultList.length,
    sums.stressScore / 5 / testResultList.length]

/-- The averages over the results of all users. -/
def calculateAllUserAverageScore (allTestResult : AllTestResult) : Option (List ExactDouble) := do
  let allTestResult := allTestResult.testResult
  let sums ← Sums.addSheets (allTestResult.map (·.testScore))
  return [sums.depressionScore / allTestResult.length / 5,
    sums.anxietyScore / allTestResult.length / 5,
    sums.stressScore / allTestResult.length / 5]

/-- The score handed to `delegate?.reloadData`. -/
def calculateTestScore (self : ProfileViewModel) : Option AverageTestScore := do
  let userAverageScore ← calculateUserAverageScore (self.testInformation.getD defaultTestScore)
  let allUserAverageScore ←
    calculateAllUserAverageScore (self.allTestResult.getD defaultAllTestScore)
  let testScoreList := userAverageScore ++ allUserAverageScore
  -- unlike the averages, these three do not fall back on the default record
  let userInfoList := [self.testInformation.map (·.gender), self.testInformation.map (·.grade),
    self.testInformation.map (·.major)]
  AverageTestScore.init testScoreList userInfoList

/-- The arguments of `completionBlock`. Without a snapshot, which is how an error comes, and for a
document that does not exist, `document?.data(as:)` is `nil` and the read counts as a success. -/
def completion {α : Type} (decode : Document → Option α) (document : Option (Option Document)) :
    Bool × Option α :=
  match document with
  | none => (true, none)
  | some snapshot =>
    match dataAs decode snapshot with
    | some retrieved => (true, retrieved)
    | none => (false, none)

/-- The path that `getUserTestData` reads. -/
def userDocument (currentUser : Option Uid) : String :=
  match currentUser with
  | some u => u.val
  | none => "noData"

/-- The completion of the read of the user's document. -/
def getUserTestData (document : Option (Option Document)) : Bool × Option TestInformation :=
  completion TestInformation.decode document

/-- The completion of the read of the shared document. -/
def getUserAllData (document : Option (Option Document)) : Bool × Option AllTestResult :=
  completion AllTestResult.decode document

/-- The first completion block of `readTestResult`. -/
def receiveUserTestData (self : ProfileViewModel) (document : Option (Option Document)) :
    ProfileViewModel :=
  let result := getUserTestData document
  { self with testInformation := if result.1 then result.2 else some defaultTestScore }

/-- The second completion block of `readTestResult`. -/
def receiveUserAllData (self : ProfileViewModel) (document : Option (Option Document)) :
    ProfileViewModel :=
  let result := getUserAllData document
  { self with allTestResult := if result.1 then result.2 else some defaultAllTestScore }

/-- The fields after one `readTestResult` whose two reads find the collection as it is. -/
def readTestResult (self : ProfileViewModel) (userInfo : Collection) (currentUser : Option Uid) :
    ProfileViewModel :=
  (self.receiveUserTestData (some (userInfo.lookup (userDocument currentUser)))).receiveUserAllData
    (some (userInfo.lookup "All_Test_Score"))

/-! ## When the averages are numbers -/

/-- `calculateTestScore` reads no index outside a sheet and divides by no zero count. -/
def IsSafe (self : ProfileViewModel) : Prop :=
  self.calculateTestScore.isSome ∧
    (self.testInformation.getD defaultTestScore).testResult.length ≠ 0 ∧
    (self.allTestResult.getD defaultAllTestScore).testResult.length ≠ 0

/-- The averages exist exactly if every sheet of the two records has at least 15 answers. -/
theorem calculateTestScore_isSome {self : ProfileViewModel} :
    self.calculateTestScore.isSome ↔
      (∀ r ∈ (self.testInformation.getD defaultTestScore).testResult, 15 ≤ r.testScore.length) ∧
        ∀ r ∈ (self.allTestResult.getD defaultAllTestScore).testResult,
          15 ≤ r.testScore.length := by
  have hu := Sums.addSheets_isSome
    ((self.testInformation.getD defaultTestScore).testResult.map (·.testScore))
  have ha := Sums.addSheets_isSome
    ((self.allTestResult.getD defaultAllTestScore).testResult.map (·.testScore))
  rw [List.forall_mem_map] at hu ha
  rw [← hu, ← ha, calculateTestScore, calculateUserAverageScore, calculateAllUserAverageScore]
  cases Sums.addSheets
      ((self.testInformation.getD defaultTestScore).testResult.map (·.testScore)) with
  | none => simp
  | some sums =>
    cases Sums.addSheets
        ((self.allTestResult.getD defaultAllTestScore).testResult.map (·.testScore)) with
    | none => simp
    | some sums' => simp [AverageTestScore.init]

/-- The averages of all users exist exactly if every sheet has at least 15 answers. -/
lemma calculateAllUserAverageScore_isSome {all : AllTestResult} :
    (calculateAllUserAverageScore all).isSome ↔ ∀ r ∈ all.testResult, 15 ≤ r.testScore.length := by
  have h := Sums.addSheets_isSome (all.testResult.map (·.testScore))
  rw [List.forall_mem_map] at h
  rw [← h, calculateAllUserAverageScore]
  cases Sums.addSheets (all.testResult.map (·.testScore)) <;> simp

/-- The own averages are numbers exactly if there is an own result. -/
lemma isFinite_calculateUserAverageScore {info : TestInformation} {averages : List ExactDouble}
    (h : calculateUserAverageScore info = some averages) :
    (∀ x ∈ averages, x.IsFinite) ↔ info.testResult.length ≠ 0 := by
  obtain ⟨sums, hs, e⟩ := Option.bind_eq_some_iff.mp h
  obtain ⟨hd, ha, ht⟩ := Sums.isFinite_addSheets hs
  cases e
  simp [ExactDouble.natCast_eq, ExactDouble.ofNat_eq, hd, ha, ht]

/-- The shared averages are numbers exactly if there is a shared result. -/
lemma isFinite_calculateAllUserAverageScore {all : AllTestResult} {averages : List ExactDouble}
    (h : calculateAllUserAverageScore all = some averages) :
    (∀ x ∈ averages, x.IsFinite) ↔ all.testResult.length ≠ 0 := by
  obtain ⟨sums, hs, e⟩ := Option.bind_eq_some_iff.mp h
  obtain ⟨hd, ha, ht⟩ := Sums.isFinite_addSheets hs
  cases e
  simp [ExactDouble.natCast_eq, ExactDouble.ofNat_eq, hd, ha, ht]

/-- The six averages are those of the two calculations. -/
lemma averages_of_calculateTestScore {self : ProfileViewModel} {a : AverageTestScore}
    (h : self.calculateTestScore = some a) :
    ∃ user all, calculateUserAverageScore (self.testInformation.getD defaultTestScore) = some user ∧
      calculateAllUserAverageScore (self.allTestResult.getD defaultAllTestScore) = some all ∧
      a.averages = user ++ all := by
  obtain ⟨user, hu, h⟩ := Option.bind_eq_some_iff.mp h
  obtain ⟨all, ha, h⟩ := Option.bind_eq_some_iff.mp h
  refine ⟨user, all, hu, ha, ?_⟩
  obtain ⟨_, -, e⟩ := Option.bind_eq_some_iff.mp hu
  obtain ⟨_, -, e'⟩ := Option.bind_eq_some_iff.mp ha
  cases e
  cases e'
  cases h
  rfl

/-- The profile is safe exactly if all averages that are shown exist and are numbers. -/
theorem isSafe_iff {self : ProfileViewModel} :
    self.IsSafe ↔ ∃ a, self.calculateTestScore = some a ∧ ∀ x ∈ a.averages, x.IsFinite := by
  rw [IsSafe, Option.isSome_iff_exists]
  constructor
  · rintro ⟨⟨a, h⟩, hu, ha⟩
    obtain ⟨user, all, hu', ha', e⟩ := averages_of_calculateTestScore h
    refine ⟨a, h, ?_⟩
    rw [e, List.forall_mem_append]
    exact ⟨(isFinite_calculateUserAverageScore hu').mpr hu,
      (isFinite_calculateAllUserAverageScore ha').mpr ha⟩
  · rintro ⟨a, h, hf⟩
    obtain ⟨user, all, hu', ha', e⟩ := averages_of_calculateTestScore h
    rw [e, List.forall_mem_append] at hf
    exact ⟨⟨a, h⟩, (isFinite_calculateUserAverageScore hu').mp hf.1,
      (isFinite_calculateAllUserAverageScore ha').mp hf.2⟩

end ProfileViewModel

end Soliu
