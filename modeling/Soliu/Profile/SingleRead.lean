import Soliu.Profile.Reads

/-!
# One profile read

A single call of `readTestResult` has two orders of delivery (`deliveries_single`). In both it shows
one record after the two callbacks, with the averages of the records obtained. The default record
stands in for a user's record that is not obtained, in the averages; but its gender, grade and major
are put in only where decoding throws, not where there is no snapshot or no document
(`single_read_iff`).
-/

namespace Soliu

open ProfileViewModel

/-- The record that a snapshot decodes to, or else the default one. -/
def obtained {α : Type} (decode : Document → Option α) (default : α)
    (document : Option (Option Document)) : α :=
  (document.bind (dataAs decode)).join.getD default

/-- The score has the averages of the two records, and the gender, grade and major of the user's. -/
structure AverageTestScore.IsOf (score : AverageTestScore) (user : TestInformation)
    (all : AllTestResult) : Prop where
  userAverage : calculateUserAverageScore user = some [score.userAverageDepressionScore,
    score.userAverageAnxietyScore, score.userAverageStressScore]
  allUserAverage : calculateAllUserAverageScore all = some [score.allUserAverageDepressionScore,
    score.allUserAverageAnxietyScore, score.allUserAverageStressScore]
  gender : score.gender = user.gender
  grade : score.grade = user.grade
  major : score.major = user.major

/-! ## The two orders of delivery -/

/-- A list with one element replaced is a singleton only if it was one before. -/
lemma set_eq_singleton {calls : List Call} {i : ℕ} {c₀ c₁ c : Call} (hc : calls[i]? = some c₀)
    (h : calls.set i c₁ = [c]) : i = 0 ∧ calls = [c₀] ∧ c₁ = c := by
  have hlength : calls.length = 1 := List.length_set.symm.trans (congrArg List.length h)
  obtain ⟨c', rfl⟩ := List.length_eq_one_iff.mp hlength
  cases i with
  | zero =>
    cases hc
    cases h
    exact ⟨rfl, rfl, rfl⟩
  | succ i => cases hc

/-- The last step of a single call that has got as far as `c`. -/
lemma deliver_eq_singleton {calls : List Call} {e : ReadEvent} {c : Call}
    (h : deliver calls e = some [c]) :
    (e = .call ∧ calls = [] ∧ c = {}) ∨
      (e = .userCallback 0 ∧ calls = [{ c with userDelivered := false }] ∧ c.userDelivered) ∨
      (e = .allCallback 0 ∧ calls = [{ c with allDelivered := false }] ∧ c.allDelivered) ∨
      (e = .notify 0 ∧ calls = [{ c with notified := false }] ∧ c.userDelivered ∧
        c.allDelivered ∧ c.notified) := by
  cases e with
  | call =>
    obtain ⟨rfl, e⟩ := List.append_eq_singleton_iff.mp (Option.some.inj h) |>.resolve_right nofun
    cases e
    exact .inl ⟨rfl, rfl, rfl⟩
  | userCallback i =>
    obtain ⟨⟨u, a, n⟩, hc, h⟩ := Option.bind_eq_some_iff.mp h
    split at h
    case isTrue => cases h
    case isFalse hu =>
      obtain ⟨rfl, rfl, rfl⟩ := set_eq_singleton hc (Option.some.inj h)
      rw [Bool.not_eq_true] at hu
      exact .inr (.inl ⟨rfl, by rw [← hu], rfl⟩)
  | allCallback i =>
    obtain ⟨⟨u, a, n⟩, hc, h⟩ := Option.bind_eq_some_iff.mp h
    split at h
    case isTrue => cases h
    case isFalse ha =>
      obtain ⟨rfl, rfl, rfl⟩ := set_eq_singleton hc (Option.some.inj h)
      rw [Bool.not_eq_true] at ha
      exact .inr (.inr (.inl ⟨rfl, by rw [← ha], rfl⟩))
  | notify i =>
    obtain ⟨⟨u, a, n⟩, hc, h⟩ := Option.bind_eq_some_iff.mp h
    split at h
    case isTrue hn =>
      obtain ⟨rfl, rfl, rfl⟩ := set_eq_singleton hc (Option.some.inj h)
      obtain ⟨hu, ha, hn⟩ := hn
      rw [Bool.not_eq_true] at hn
      exact .inr (.inr (.inr ⟨rfl, by rw [← hn], hu, ha, rfl⟩))
    case isFalse => cases h

/-- A history without calls is empty. -/
lemma deliveries_eq_nil {es : List ReadEvent} (h : deliveries es = some []) : es = [] := by
  induction es using List.reverseRecOn with
  | nil => rfl
  | append_singleton es e ih =>
    -- a call is never given up, so there was none before, and only a call can come first
    rw [deliveries_concat] at h
    obtain ⟨calls, hd, h⟩ := Option.bind_eq_some_iff.mp h
    cases e with
    | call => exact absurd (Option.some.inj h) (by simp)
    | userCallback i | allCallback i | notify i =>
      obtain ⟨c, hc, h⟩ := Option.bind_eq_some_iff.mp h
      split at h
      all_goals first
        | cases h
        | rw [(List.set_eq_nil_iff _ _).mp (Option.some.inj h)] at hc
          cases hc

/-- The orders of steps that lead a single call to each of its stages. -/
def histories : Call → List (List ReadEvent)
  | ⟨false, false, false⟩ => [[.call]]
  | ⟨true, false, false⟩ => [[.call, .userCallback 0]]
  | ⟨false, true, false⟩ => [[.call, .allCallback 0]]
  | ⟨true, true, false⟩ =>
    [[.call, .userCallback 0, .allCallback 0], [.call, .allCallback 0, .userCallback 0]]
  | ⟨true, true, true⟩ =>
    [[.call, .userCallback 0, .allCallback 0, .notify 0],
      [.call, .allCallback 0, .userCallback 0, .notify 0]]
  | _ => []

/-- The histories of one call are those listed. -/
lemma mem_histories {es : List ReadEvent} {c : Call} (h : deliveries es = some [c]) :
    es ∈ histories c := by
  induction es using List.reverseRecOn generalizing c with
  | nil => cases h
  | append_singleton es e ih =>
    rw [deliveries_concat] at h
    obtain ⟨calls, hd, h⟩ := Option.bind_eq_some_iff.mp h
    obtain ⟨u, a, n⟩ := c
    obtain ⟨rfl, rfl, e⟩ | ⟨rfl, rfl, hu⟩ | ⟨rfl, rfl, ha⟩ | ⟨rfl, rfl, hu, ha, hn⟩ :=
      deliver_eq_singleton h
    · cases e
      rw [deliveries_eq_nil hd]
      decide
    · have hes := ih hd
      cases hu
      cases a <;> cases n <;> simp_all [histories]
    · have hes := ih hd
      cases ha
      cases u <;> cases n <;> simp_all [histories]
    · have hes := ih hd
      cases hu
      cases ha
      cases hn
      obtain rfl | rfl := by simpa [histories] using hes
      all_goals decide

/-! ## What is shown -/

namespace ProfileViewModel

/-- When the calculation succeeds, and with which score. -/
lemma calculateTestScore_eq_some {self : ProfileViewModel} {score : AverageTestScore} :
    self.calculateTestScore = some score ↔
      calculateUserAverageScore (self.testInformation.getD defaultTestScore) =
          some [score.userAverageDepressionScore, score.userAverageAnxietyScore,
            score.userAverageStressScore] ∧
        calculateAllUserAverageScore (self.allTestResult.getD defaultAllTestScore) =
          some [score.allUserAverageDepressionScore, score.allUserAverageAnxietyScore,
            score.allUserAverageStressScore] ∧
        score.gender = (self.testInformation.map (·.gender)).getD "" ∧
        score.grade = (self.testInformation.map (·.grade)).getD "" ∧
        score.major = (self.testInformation.map (·.major)).getD "" := by
  constructor
  · intro h
    obtain ⟨user, hu, h⟩ := Option.bind_eq_some_iff.mp h
    obtain ⟨all, ha, h⟩ := Option.bind_eq_some_iff.mp h
    obtain ⟨sums, -, e⟩ := Option.bind_eq_some_iff.mp hu
    obtain ⟨sums', -, e'⟩ := Option.bind_eq_some_iff.mp ha
    cases e
    cases e'
    cases h
    exact ⟨hu, ha, rfl, rfl, rfl⟩
  · rintro ⟨hu, ha, hgender, hgrade, hmajor⟩
    rw [calculateTestScore, hu, ha]
    refine congrArg some ?_
    cases score
    cases hgender
    cases hgrade
    cases hmajor
    rfl

end ProfileViewModel

namespace Reads

variable {R : Reads}

/-- The record that the own read hands to the calculation. -/
def userRecord (R : Reads) : TestInformation :=
  obtained TestInformation.decode defaultTestScore
    (R.getDocument 0 (userDocument (R.currentUser 0)))

/-- The record that the shared read hands to the calculation. -/
def allRecord (R : Reads) : AllTestResult :=
  obtained AllTestResult.decode defaultAllTestScore (R.getDocument 0 "All_Test_Score")

/-- A completion leaves the record obtained, and the default where there is none. -/
lemma getD_completion {α : Type} (decode : Document → Option α) (default : α)
    (document : Option (Option Document)) :
    (if (completion decode document).1 then (completion decode document).2
      else some default).getD default = obtained decode default document := by
  match document with
  | none | some none => rfl
  | some (some d) => cases h : decode d <;> simp [completion, obtained, dataAs, h]

/-- Without a snapshot, and without a document, the field is cleared. -/
lemma completion_isSome {α : Type} (decode : Document → Option α) (default : α)
    (document : Option (Option Document)) :
    (if (completion decode document).1 then (completion decode document).2
      else some default).isSome ↔ document.join.isSome := by
  match document with
  | none | some none => exact Iff.rfl
  | some (some d) => cases h : decode d <;> simp [completion, dataAs, h]

/-- The own field after the read, with its default, is the own record. -/
lemma getD_testInformation (R : Reads) :
    (R.records 0).testInformation.getD defaultTestScore = R.userRecord :=
  getD_completion TestInformation.decode defaultTestScore _

/-- The shared field after the read, with its default, is the shared record. -/
lemma getD_allTestResult (R : Reads) :
    (R.records 0).allTestResult.getD defaultAllTestScore = R.allRecord :=
  getD_completion AllTestResult.decode defaultAllTestScore _

/-- The own field is filled exactly if the user's document was found. -/
lemma testInformation_isSome (R : Reads) :
    (R.records 0).testInformation.isSome ↔
      (R.getDocument 0 (userDocument (R.currentUser 0))).join.isSome :=
  completion_isSome TestInformation.decode defaultTestScore _

/-- Up to the notification nothing is shown, and the two fields get the records of the call. -/
lemma run_single (R : Reads) (viewModel : ProfileViewModel) {es : List ReadEvent}
    (hes : deliveries es = some [⟨true, true, true⟩]) :
    ∃ pre, es = pre ++ [.notify 0] ∧ .userCallback 0 ∈ pre ∧ .allCallback 0 ∈ pre ∧
      R.machine.run ⟨[], viewModel⟩ pre = some (⟨[⟨true, true, false⟩], R.records 0⟩, []) := by
  have h := mem_histories hes
  obtain rfl | rfl := by simpa [histories] using h
  · exact ⟨[.call, .userCallback 0, .allCallback 0], rfl, by decide, by decide, rfl⟩
  · exact ⟨[.call, .allCallback 0, .userCallback 0], rfl, by decide, by decide, rfl⟩

/-- The notification shows what the fields give, or traps with them. -/
lemma step_notify (R : Reads) (viewModel : ProfileViewModel) :
    R.machine.step ⟨[⟨true, true, false⟩], viewModel⟩ (.notify 0) =
      viewModel.calculateTestScore.map fun score =>
        (⟨[⟨true, true, true⟩], viewModel⟩, [score]) := by
  cases h : viewModel.calculateTestScore with
  | none => simp [machine, step, deliver, h]
  | some score => simp [machine, step, deliver, h]

/-- One score is shown, after both callbacks and of the records obtained, and nothing else. -/
def ShowsOnce (R : Reads) (viewModel : ProfileViewModel) (es : List ReadEvent) : Prop :=
  ∃ pre s s' score, es = pre ++ [.notify 0] ∧ .userCallback 0 ∈ pre ∧ .allCallback 0 ∈ pre ∧
    R.machine.run ⟨[], viewModel⟩ pre = some (s, []) ∧
    R.machine.run ⟨[], viewModel⟩ es = some (s', [score]) ∧
    score.IsOf R.userRecord R.allRecord

/-- After both reads the call shows once exactly if its two records can be averaged. -/
lemma showsOnce_iff (R : Reads) (viewModel : ProfileViewModel) {es : List ReadEvent}
    (hes : deliveries es = some [⟨true, true, true⟩]) :
    R.ShowsOnce viewModel es ↔ ∃ score, (R.records 0).calculateTestScore = some score ∧
      score.IsOf R.userRecord R.allRecord := by
  obtain ⟨pre, rfl, hu, ha, hrun⟩ := R.run_single viewModel hes
  constructor
  · rintro ⟨-, s, s', score, -, -, -, -, hr, h⟩
    obtain ⟨s₁, o₁, o₂, hr, hs, e⟩ := Machine.run_concat_iff.mp hr
    cases hrun.symm.trans hr
    rw [step_notify] at hs
    obtain ⟨score', hscore, hs⟩ := Option.map_eq_some_iff.mp hs
    cases hs
    cases e
    exact ⟨score, hscore, h⟩
  · rintro ⟨score, hscore, h⟩
    have hs : R.machine.step ⟨[⟨true, true, false⟩], R.records 0⟩ (.notify 0) =
        some (⟨[⟨true, true, true⟩], R.records 0⟩, [score]) := by
      rw [step_notify, hscore]
      rfl
    exact ⟨pre, _, _, score, rfl, hu, ha, hrun,
      Machine.run_concat_iff.mpr ⟨_, [], [score], hrun, hs, rfl⟩, h⟩

end Reads

/-- A single read shows one score, once, after both callbacks, and of the records obtained, if and
only if there is a document of the user and the sheets of both records have 15 answers or more. -/
theorem single_read_iff (R : Reads) (viewModel : ProfileViewModel) (es : List ReadEvent)
    (hes : deliveries es = some [⟨true, true, true⟩]) :
    R.ShowsOnce viewModel es ↔
      (R.getDocument 0 (userDocument (R.currentUser 0))).join.isSome ∧
        (∀ r ∈ R.userRecord.testResult, 15 ≤ r.testScore.length) ∧
          ∀ r ∈ R.allRecord.testResult, 15 ≤ r.testScore.length := by
  have hsome : (R.records 0).calculateTestScore.isSome ↔ _ := calculateTestScore_isSome
  rw [R.getD_testInformation, R.getD_allTestResult] at hsome
  rw [R.showsOnce_iff viewModel hes, ← R.testInformation_isSome, ← hsome]
  constructor
  · rintro ⟨score, hscore, h⟩
    refine ⟨?_, Option.isSome_of_eq_some hscore⟩
    -- a cleared field shows no gender, which the default record has
    obtain ⟨-, -, hgender, -, -⟩ := calculateTestScore_eq_some.mp hscore
    have hrecord := h.gender
    rw [hgender, ← R.getD_testInformation] at hrecord
    cases hinfo : (R.records 0).testInformation with
    | none =>
      rw [hinfo] at hrecord
      exact absurd hrecord (by decide)
    | some info => rfl
  · rintro ⟨hinfo, hscore⟩
    obtain ⟨score, hscore⟩ := Option.isSome_iff_exists.mp hscore
    obtain ⟨info, hinfo⟩ := Option.isSome_iff_exists.mp hinfo
    refine ⟨score, hscore, ?_⟩
    obtain ⟨hu, ha, hgender, hgrade, hmajor⟩ := calculateTestScore_eq_some.mp hscore
    rw [R.getD_allTestResult] at ha
    rw [← R.getD_testInformation]
    rw [hinfo] at hu hgender hgrade hmajor ⊢
    exact ⟨hu, ha, hgender, hgrade, hmajor⟩

/-- One sheet of 15 answers is found in both documents, the shared one first. -/
theorem single_read_iff_numbered :
    Reads.numbered.ShowsOnce {} [.call, .allCallback 0, .userCallback 0, .notify 0] ↔
      (Reads.numbered.getDocument 0 (userDocument (Reads.numbered.currentUser 0))).join.isSome ∧
        (∀ r ∈ Reads.numbered.userRecord.testResult, 15 ≤ r.testScore.length) ∧
          ∀ r ∈ Reads.numbered.allRecord.testResult, 15 ≤ r.testScore.length :=
  single_read_iff Reads.numbered {} _ rfl

/-- For a missing document the averages are those of the default record, but no gender is shown. -/
theorem missing_document_shows_no_gender :
    ¬ ∀ (R : Reads) (viewModel : ProfileViewModel) (es : List ReadEvent),
      deliveries es = some [⟨true, true, true⟩] → R.ShowsOnce viewModel es := by
  intro h
  let R : Reads := ⟨fun _ => none, fun _ _ => some none⟩
  obtain ⟨score, hscore, hof⟩ := (R.showsOnce_iff {} rfl).mp
    (h R {} [.call, .userCallback 0, .allCallback 0, .notify 0] rfl)
  obtain ⟨-, -, hgender, -⟩ := calculateTestScore_eq_some.mp hscore
  exact absurd (hgender.symm.trans hof.gender) (by decide)

end Soliu
