import Soliu.Basic.Blocks
import Soliu.TestScreen.Detail

/-!
# Runs of taps

What any sequence of taps does to a controller whose file has been loaded. Two counters drive it:
the submission waits for `currentCount` to reach the total, where it stays for good, and the upload
waits for a full sheet, which it clears. So the sheets uploaded are the complete blocks of answers,
while from the last question on every tap submits the answers since the last complete block
(`submitted`).

`Tapped` is the invariant of these runs, `Tapped.step` says that a tap keeps it unless it fills a
sheet of fewer than 15 answers, and `Tapped.step_trap` that such a tap traps.
-/

namespace Soliu

open Blocks

/-- The number that a button stands for. -/
def AnswerButton.answer : AnswerButton → ℤ
  | answer1 => 1
  | answer2 => 2
  | answer3 => 3
  | answer4 => 4
  | answer5 => 5

namespace TestDetailOutput

/-- The sheet written to the user's own document. -/
def ownSheet : TestDetailOutput → Option (List ℤ)
  | updateTestScore testScore => some testScore
  | _ => none

/-- The sheet written to the shared document. -/
def sharedSheet : TestDetailOutput → Option (List ℤ)
  | updateAllTestScore testScore => some testScore
  | _ => none

/-- The sheet whose scores are uploaded. -/
def uploadedSheet : TestDetailOutput → Option (List ExactDouble)
  | uploadData testScore => some testScore
  | _ => none

/-- What is handed on when some answers are submitted. -/
def submits (answers : List ℤ) : List TestDetailOutput :=
  [updateTestScore answers, updateAllTestScore answers, loadingSpinner]

end TestDetailOutput

/-- The answers as the controller keeps them. -/
def doubles (as : List ℤ) : List ExactDouble := as.map Int.cast

/-- The answers are as many as they were before the conversion. -/
@[simp]
lemma length_doubles (as : List ℤ) : (doubles as).length = as.length := List.length_map _

/-- The sheets submitted by taps with these answers: from the `n`-th tap on, one with each tap. -/
def submitted (n : ℕ) (as : List ℤ) : List (List ℤ) :=
  (List.range as.length).filterMap fun k =>
    if 0 < n ∧ n ≤ k + 1 then some ((as.take (k + 1)).drop (n * (k / n))) else none

/-- One more tap, from the `n`-th on, submits the open block together with its own answer. -/
lemma submitted_concat (n : ℕ) (as : List ℤ) (a : ℤ) :
    submitted n (as ++ [a]) =
      submitted n as ++ if 0 < n ∧ n ≤ as.length + 1 then [openBlock n as ++ [a]] else [] := by
  rw [submitted, List.length_append, List.length_singleton, List.range_succ, List.filterMap_append]
  congr 1
  · refine List.filterMap_congr fun k hk => ?_
    rw [List.take_append_of_le_length (List.mem_range.mp hk)]
  · have ht : (as ++ [a]).take (as.length + 1) = as ++ [a] := List.take_of_length_le (by simp)
    rw [List.filterMap_cons, ht, drop_concat]
    by_cases h : 0 < n ∧ n ≤ as.length + 1
    · rw [if_pos h, if_pos h, List.filterMap_nil]
    · rw [if_neg h, if_neg h, List.filterMap_nil]

/-- One sheet is submitted with each tap from the `n`-th on. -/
lemma length_submitted {n : ℕ} (hn : 0 < n) (as : List ℤ) :
    (submitted n as).length = as.length + 1 - n := by
  induction as using List.reverseRecOn with
  | nil =>
    rw [submitted, List.length_nil, List.range_zero, List.filterMap_nil, List.length_nil]
    omega
  | append_singleton as a ih =>
    rw [submitted_concat, List.length_append, ih, List.length_append, List.length_singleton]
    split <;> simp <;> omega

namespace TestDetailViewModel

/-- The section scores can be taken of 15 answers or more. -/
lemma sectionScores_isSome {testScore : List ExactDouble} :
    (sectionScores testScore).isSome ↔ 15 ≤ testScore.length := by
  have hsection : ∀ lower upper, (sectionScore testScore lower upper).isSome ↔
      upper < testScore.length := by
    intro lower upper
    rw [sectionScore, Option.isSome_map, Slice.slice_isSome]
  have h : (sectionScores testScore).isSome ↔ (sectionScore testScore 0 4).isSome ∧
      (sectionScore testScore 5 9).isSome ∧ (sectionScore testScore 10 14).isSome ∧ True :=
    Slice.bind_isSome_iff fun _ => Slice.bind_isSome_iff fun _ => Slice.bind_isSome_iff fun _ =>
      iff_of_true rfl trivial
  rw [h, hsection, hsection, hsection, and_true]
  omega

/-- The next question is one of the questions. -/
lemma nextQuestion_inBounds {self : TestDetailViewModel}
    (h : 1 ≤ self.currentQuestionCount ∧ self.currentQuestionCount ≤ self.testQuestion.length) :
    self.nextQuestion.testQuestion = self.testQuestion ∧
      1 ≤ self.nextQuestion.currentQuestionCount ∧
      self.nextQuestion.currentQuestionCount ≤ self.testQuestion.length := by
  rw [nextQuestion]
  split <;> simp only [true_and] <;> omega

/-- A question in bounds has a text. -/
lemma getQuestionText_isSome (self : TestDetailViewModel)
    (h : 1 ≤ self.currentQuestionCount ∧ self.currentQuestionCount ≤ self.testQuestion.length) :
    ∃ text, self.getQuestionText = some text := by
  rw [getQuestionText, List.getElem?_eq_getElem (by omega)]
  exact ⟨_, rfl⟩

end TestDetailViewModel

namespace TestDetailViewController

/-- A button adds its number. -/
lemma machine_step (self : TestDetailViewController) (b : AnswerButton) :
    machine.step self b = self.touchAnswer (b.answer : ExactDouble) := by
  cases b <;> rfl

variable {self : TestDetailViewController} {total : ℤ}

/-- Before the last answer the test moves on. -/
lemma increaseProgress_of_ne (self : TestDetailViewController)
    (ht : self.viewModel.getTotalQuestion = some total)
    (hb : 1 ≤ self.viewModel.currentQuestionCount ∧
      self.viewModel.currentQuestionCount ≤ self.viewModel.testQuestion.length)
    (hc : self.currentCount ≠ total) :
    ∃ self', self.increaseProgress = some (self', []) ∧
      self'.currentCount = self.currentCount + 1 ∧ self'.testScore = self.testScore ∧
      self'.viewModel = self.viewModel.nextQuestion := by
  obtain ⟨hq, hb'⟩ := TestDetailViewModel.nextQuestion_inBounds hb
  obtain ⟨text, h⟩ := self.viewModel.nextQuestion.getQuestionText_isSome (by rwa [hq])
  rw [increaseProgress, ht, Option.bind_eq_bind, Option.bind_some, if_pos hc]
  dsimp only
  rw [h]
  exact ⟨_, rfl, rfl, rfl, rfl⟩

/-- At the last answer the results are sent off. -/
lemma increaseProgress_of_eq (self : TestDetailViewController) {as : List ℤ}
    (ht : self.viewModel.getTotalQuestion = some total)
    (hc : self.currentCount = total) (hs : self.testScore = doubles as) :
    self.increaseProgress =
      some (self, [.updateTestScore as, .updateAllTestScore as, .loadingSpinner]) := by
  have h : (doubles as).mapM ExactDouble.toInt? = some as :=
    mapM_decode_map (fun n => ExactDouble.toInt?_intCast n) as
  rw [increaseProgress, ht, Option.bind_eq_bind, Option.bind_some, if_neg (not_not_intro hc), hs, h]
  rfl

/-- An incomplete sheet is kept. -/
lemma uploadScore_of_ne (ht : self.viewModel.getTotalQuestion = some total)
    (h : (self.testScore.length : ℤ) ≠ total) : self.uploadScore = some (self, []) := by
  rw [uploadScore, ht, Option.bind_eq_bind, Option.bind_some, if_neg h]
  rfl

/-- A complete sheet is uploaded, and a new one begun. -/
lemma uploadScore_of_eq (ht : self.viewModel.getTotalQuestion = some total)
    (h : (self.testScore.length : ℤ) = total) (h15 : 15 ≤ self.testScore.length) :
    self.uploadScore = some ({ self with testScore := [] }, [.uploadData self.testScore]) := by
  obtain ⟨score, hs⟩ :=
    Option.isSome_iff_exists.mp (TestDetailViewModel.sectionScores_isSome.mpr h15)
  rw [uploadScore, ht, Option.bind_eq_bind, Option.bind_some, if_pos h, hs]
  rfl

/-- A full sheet of fewer answers makes the upload trap. -/
lemma uploadScore_trap (ht : self.viewModel.getTotalQuestion = some total)
    (h : (self.testScore.length : ℤ) = total) (h15 : self.testScore.length < 15) :
    self.uploadScore = none := by
  have hs : TestDetailViewModel.sectionScores self.testScore = none := by
    rw [← Option.not_isSome_iff_eq_none, TestDetailViewModel.sectionScores_isSome]
    omega
  rw [uploadScore, ht, Option.bind_eq_bind, Option.bind_some, if_pos h, hs]
  rfl

/-- The state of a controller, and what it has handed on, after taps with the answers `as`. -/
structure Tapped (questions : List TestQuestion) (total : ℤ) (as : List ℤ)
    (vc : TestDetailViewController) (os : List TestDetailOutput) : Prop where
  testQuestion : vc.viewModel.testQuestion = questions
  inBounds : 1 ≤ vc.viewModel.currentQuestionCount ∧
    vc.viewModel.currentQuestionCount ≤ questions.length
  count : vc.currentCount = if 1 ≤ total then min (as.length + 1 : ℤ) total else as.length + 1
  sheet : vc.testScore = doubles (openBlock total.toNat as)
  own : os.filterMap TestDetailOutput.ownSheet = submitted total.toNat as
  shared : os.filterMap TestDetailOutput.sharedSheet = submitted total.toNat as
  uploaded : os.filterMap TestDetailOutput.uploadedSheet =
    (completeBlocks total.toNat as).map doubles

namespace Tapped

variable {questions : List TestQuestion} {as : List ℤ} {os : List TestDetailOutput}

/-- The total shown is that of the file, whatever has been tapped. -/
lemma getTotalQuestion (h : Tapped questions total as self os)
    (ht : questions[0]?.map (·.totalQuestionNumber) = some total) :
    self.viewModel.getTotalQuestion = some total := by
  rw [TestDetailViewModel.getTotalQuestion, h.testQuestion, ht]

/-- The count reaches the total with the last answer. -/
lemma currentCount_eq_iff (h : Tapped questions total as self os) :
    self.currentCount = total ↔ 0 < total.toNat ∧ total.toNat ≤ as.length + 1 := by
  rw [h.count]
  split <;> omega

/-- The first half of a tap: the answer joins the sheet, and the controller moves on or submits. -/
lemma increaseProgress (h : Tapped questions total as self os)
    (ht : questions[0]?.map (·.totalQuestionNumber) = some total) (a : ℤ) :
    ∃ self' o,
      { self with testScore := self.testScore ++ [(a : ExactDouble)] }.increaseProgress =
        some (self', o) ∧
      self'.viewModel.testQuestion = questions ∧
      (1 ≤ self'.viewModel.currentQuestionCount ∧
        self'.viewModel.currentQuestionCount ≤ questions.length) ∧
      self'.currentCount =
        (if 1 ≤ total then min ((as ++ [a]).length + 1 : ℤ) total else (as ++ [a]).length + 1) ∧
      self'.testScore = doubles (openBlock total.toNat as ++ [a]) ∧
      submitted total.toNat (as ++ [a]) =
        submitted total.toNat as ++ o.filterMap TestDetailOutput.ownSheet ∧
      submitted total.toNat (as ++ [a]) =
        submitted total.toNat as ++ o.filterMap TestDetailOutput.sharedSheet ∧
      o.filterMap TestDetailOutput.uploadedSheet = [] := by
  have hsheet : self.testScore ++ [(a : ExactDouble)] =
      doubles (openBlock total.toNat as ++ [a]) := by
    rw [h.sheet, doubles, doubles, List.map_append, List.map_singleton]
  have hcount := h.currentCount_eq_iff
  have hc := h.count
  rw [submitted_concat, List.length_append, List.length_singleton, hsheet]
  by_cases he : self.currentCount = total
  · -- the last question: what is submitted is the open block and this answer
    rw [increaseProgress_of_eq { self with testScore := doubles (openBlock total.toNat as ++ [a]) }
      (h.getTotalQuestion ht) he rfl, if_pos (hcount.mp he)]
    refine ⟨_, _, rfl, h.testQuestion, h.inBounds, ?_, rfl, rfl, rfl, rfl⟩
    rw [he] at hc ⊢
    split <;> rename_i h1
    · rw [if_pos h1] at hc
      omega
    · rw [if_neg h1] at hc
      omega
  · have hb₀ : 1 ≤ self.viewModel.currentQuestionCount ∧
        self.viewModel.currentQuestionCount ≤ self.viewModel.testQuestion.length := by
      rw [h.testQuestion]
      exact h.inBounds
    obtain ⟨hq, hb⟩ := TestDetailViewModel.nextQuestion_inBounds hb₀
    obtain ⟨self', hs, hc', hs', hv⟩ := increaseProgress_of_ne
      { self with testScore := doubles (openBlock total.toNat as ++ [a]) }
      (h.getTotalQuestion ht) hb₀ he
    rw [if_neg (mt hcount.mpr he)]
    refine ⟨self', [], hs, by rw [hv]; exact hq.trans h.testQuestion, ?_, ?_, hs', ?_, ?_, rfl⟩
    · rw [hv, ← h.testQuestion]
      exact hb
    · rw [hc']
      dsimp only
      rw [hc] at he ⊢
      split <;> rename_i h1
      · rw [if_pos h1] at he
        omega
      · omega
    · rfl
    · rfl

/-- The second half of a tap: a sheet that is full is uploaded and cleared. -/
lemma uploadScore (ht : self.viewModel.getTotalQuestion = some total) (a : ℤ)
    (hs : self.testScore = doubles (openBlock total.toNat as ++ [a]))
    (h15 : as.length % total.toNat + 1 ≠ total.toNat ∨ 15 ≤ total.toNat) :
    ∃ o, self.uploadScore =
        some ({ self with testScore := doubles (openBlock total.toNat (as ++ [a])) }, o) ∧
      o.filterMap TestDetailOutput.ownSheet = [] ∧ o.filterMap TestDetailOutput.sharedSheet = [] ∧
      (completeBlocks total.toNat (as ++ [a])).map doubles =
        (completeBlocks total.toNat as).map doubles ++
          o.filterMap TestDetailOutput.uploadedSheet := by
  have hl : self.testScore.length = as.length % total.toNat + 1 := by
    rw [hs, length_doubles, List.length_append, length_openBlock, List.length_singleton]
  by_cases hf : as.length % total.toNat + 1 = total.toNat
  · obtain ⟨hb, ho⟩ := concat_of_eq a hf
    rw [uploadScore_of_eq ht (by omega) (by omega), ho, hb]
    refine ⟨_, rfl, rfl, rfl, ?_⟩
    rw [List.map_append, hs]
    rfl
  · obtain ⟨hb, ho⟩ := concat_of_ne a hf
    rw [uploadScore_of_ne ht (by omega), ho, hb, ← hs]
    exact ⟨[], rfl, rfl, rfl, (List.append_nil _).symm⟩

/-- A tap that does not fill a sheet of fewer than 15 answers. -/
lemma step (h : Tapped questions total as self os)
    (ht : questions[0]?.map (·.totalQuestionNumber) = some total) (b : AnswerButton)
    (h15 : as.length % total.toNat + 1 ≠ total.toNat ∨ 15 ≤ total.toNat) :
    ∃ self' o, machine.step self b = some (self', o) ∧
      Tapped questions total (as ++ [b.answer]) self' (os ++ o) := by
  obtain ⟨self₁, o₁, hi, hq, hb, hc, hs, hown, hshared, hup⟩ := h.increaseProgress ht b.answer
  have ht' : self₁.viewModel.getTotalQuestion = some total := by
    rw [TestDetailViewModel.getTotalQuestion, hq, ht]
  obtain ⟨o₂, hu, ho₁, ho₂, hup'⟩ := uploadScore ht' b.answer hs h15
  refine ⟨{ self₁ with testScore := doubles (openBlock total.toNat (as ++ [b.answer])) }, o₁ ++ o₂,
    ?_, hq, hb, hc, rfl, ?_, ?_, ?_⟩
  · rw [machine_step, touchAnswer]
    simp only [hi, hu, Option.bind_eq_bind, Option.bind_some, Option.pure_def]
  · rw [List.filterMap_append, List.filterMap_append, h.own, ho₁, List.append_nil, hown]
  · rw [List.filterMap_append, List.filterMap_append, h.shared, ho₂, List.append_nil, hshared]
  · rw [List.filterMap_append, List.filterMap_append, h.uploaded, hup, List.nil_append, hup']

/-- A tap that fills a sheet of fewer than 15 answers. -/
lemma step_trap (h : Tapped questions total as self os)
    (ht : questions[0]?.map (·.totalQuestionNumber) = some total) (b : AnswerButton)
    (hf : as.length % total.toNat + 1 = total.toNat) (h15 : total.toNat < 15) :
    machine.step self b = none := by
  obtain ⟨self₁, o₁, hi, hq, -, -, hs, -⟩ := h.increaseProgress ht b.answer
  have ht' : self₁.viewModel.getTotalQuestion = some total := by
    rw [TestDetailViewModel.getTotalQuestion, hq, ht]
  have hl : self₁.testScore.length = total.toNat := by
    rw [hs, length_doubles, List.length_append, length_openBlock, List.length_singleton, hf]
  rw [machine_step, touchAnswer]
  simp only [hi, uploadScore_trap ht' (by omega) (by omega), Option.bind_eq_bind, Option.bind_some,
    Option.bind_none]

/-- A run of taps in which no sheet of fewer than 15 answers gets full. -/
theorem run (ht : questions[0]?.map (·.totalQuestionNumber) = some total)
    (h : Tapped questions total [] self []) (taps : List AnswerButton)
    (h15 : total.toNat = 0 ∨ 15 ≤ total.toNat ∨ taps.length < total.toNat) :
    ∃ self' os, machine.run self taps = some (self', os) ∧
      Tapped questions total (taps.map AnswerButton.answer) self' os := by
  -- the last tap is peeled off: `Tapped` describes the controller before it
  induction taps using List.reverseRecOn with
  | nil => exact ⟨self, [], rfl, h⟩
  | append_singleton taps b ih =>
    rw [List.length_append, List.length_singleton] at h15
    obtain ⟨self₁, os, hr, h₁⟩ := ih (by omega)
    have hlast : taps.length % total.toNat + 1 ≠ total.toNat ∨ 15 ≤ total.toNat := by
      rcases h15 with h0 | h15 | h15
      · exact .inl (by omega)
      · exact .inr h15
      · exact .inl (by rw [Nat.mod_eq_of_lt (by omega)]; omega)
    obtain ⟨self₂, o, hs, h₂⟩ := h₁.step ht b (by rwa [List.length_map])
    refine ⟨self₂, os ++ o, Machine.run_concat_iff.mpr ⟨self₁, os, o, hr, hs, rfl⟩, ?_⟩
    rwa [List.map_append, List.map_singleton]

/-- A run of taps that fills a sheet of fewer than 15 answers. -/
theorem run_trap (ht : questions[0]?.map (·.totalQuestionNumber) = some total)
    (h : Tapped questions total [] self []) (taps : List AnswerButton)
    (h15 : ¬ (total.toNat = 0 ∨ 15 ≤ total.toNat ∨ taps.length < total.toNat)) :
    machine.run self taps = none := by
  -- the taps before the one that fills the first sheet go through
  have hlen : total.toNat - 1 < taps.length := by omega
  have hsplit : taps = taps.take (total.toNat - 1) ++ taps[total.toNat - 1] ::
      taps.drop (total.toNat - 1 + 1) := by
    rw [List.getElem_cons_drop, List.take_append_drop]
  have htake : (taps.take (total.toNat - 1)).length = total.toNat - 1 := by
    rw [List.length_take]
    omega
  obtain ⟨self', os, hr, h'⟩ := h.run ht (taps.take (total.toNat - 1)) (by omega)
  have htrap : machine.step self' taps[total.toNat - 1] = none := by
    refine h'.step_trap ht _ ?_ (by omega)
    rw [List.length_map, htake, Nat.mod_eq_of_lt (by omega)]
    omega
  rw [hsplit, Machine.run_append, hr, Option.bind_some, Machine.run_cons, htrap]
  rfl

end Tapped

/-! ## What one tap hands on -/

/-- A tap hands on one sheet for both stores or none, and uploads one sheet or none. -/
lemma machine_step_outputs {self self' : TestDetailViewController} {b : AnswerButton}
    {o : List TestDetailOutput} (h : machine.step self b = some (self', o)) :
    ∃ o₁ o₂, o = o₁ ++ o₂ ∧
      (o₁ = [] ∨ ∃ as, o₁ = [.updateTestScore as, .updateAllTestScore as, .loadingSpinner]) ∧
      (o₂ = [] ∨ ∃ sheet, o₂ = [.uploadData sheet]) := by
  rw [machine_step, touchAnswer] at h
  obtain ⟨⟨self₁, o₁⟩, h₁, h⟩ := Option.bind_eq_some_iff.mp h
  obtain ⟨⟨self₂, o₂⟩, h₂, h⟩ := Option.bind_eq_some_iff.mp h
  cases h
  refine ⟨o₁, o₂, rfl, ?_, ?_⟩
  · rw [increaseProgress] at h₁
    obtain ⟨total, -, h₁⟩ := Option.bind_eq_some_iff.mp h₁
    split at h₁
    · obtain ⟨text, -, h₁⟩ := Option.bind_eq_some_iff.mp h₁
      cases h₁
      exact .inl rfl
    · obtain ⟨as, -, h₁⟩ := Option.bind_eq_some_iff.mp h₁
      cases h₁
      exact .inr ⟨as, rfl⟩
  · rw [uploadScore] at h₂
    obtain ⟨total, -, h₂⟩ := Option.bind_eq_some_iff.mp h₂
    split at h₂
    · obtain ⟨score, -, h₂⟩ := Option.bind_eq_some_iff.mp h₂
      cases h₂
      exact .inr ⟨_, rfl⟩
    · cases h₂
      exact .inl rfl

/-- Exactly what a tap hands on: from the last question on the open block with its own answer, and
the block once more when it is full. -/
lemma Tapped.step_outputs {self : TestDetailViewController} {questions : List TestQuestion}
    {n : ℕ} {as : List ℤ} {os : List TestDetailOutput} (h : Tapped questions n as self os)
    (ht : questions[0]?.map (·.totalQuestionNumber) = some (n : ℤ)) (b : AnswerButton)
    (h15 : 15 ≤ n) :
    ∃ self' o, machine.step self b = some (self', o) ∧
      Tapped questions n (as ++ [b.answer]) self' (os ++ o) ∧
      o = (if n ≤ as.length + 1 then TestDetailOutput.submits (openBlock n as ++ [b.answer])
        else []) ++
          if as.length % n + 1 = n then [.uploadData (doubles (openBlock n as ++ [b.answer]))]
          else [] := by
  obtain ⟨self', o, hs, h'⟩ := h.step ht b (.inr h15)
  refine ⟨self', o, hs, h', ?_⟩
  -- the sheets that the tap adds to those submitted and uploaded before
  have hown := h'.own
  have hup := h'.uploaded
  rw [List.filterMap_append, Int.toNat_natCast, submitted_concat, h.own, Int.toNat_natCast,
    List.append_cancel_left_eq] at hown
  rw [List.filterMap_append, Int.toNat_natCast, h.uploaded, Int.toNat_natCast] at hup
  have hup' : o.filterMap TestDetailOutput.uploadedSheet =
      if as.length % n + 1 = n then [doubles (openBlock n as ++ [b.answer])] else [] := by
    split
    case isTrue hf =>
      rw [(concat_of_eq b.answer hf).1, List.map_append, List.append_cancel_left_eq] at hup
      exact hup
    case isFalse hf =>
      rwa [(concat_of_ne b.answer hf).1, List.append_right_eq_self] at hup
  have hpos : 0 < n := by omega
  obtain ⟨o₁, o₂, rfl, h₁, h₂⟩ := machine_step_outputs hs
  rw [List.filterMap_append] at hown hup'
  congr 1
  · by_cases hlast : n ≤ as.length + 1
    · rw [if_pos ⟨hpos, hlast⟩] at hown
      rw [if_pos hlast]
      obtain rfl | ⟨as', rfl⟩ := h₁ <;> obtain rfl | ⟨sheet, rfl⟩ := h₂ <;> cases hown <;> rfl
    · rw [if_neg fun h => hlast h.2] at hown
      rw [if_neg hlast]
      obtain rfl | ⟨as', rfl⟩ := h₁ <;> obtain rfl | ⟨sheet, rfl⟩ := h₂ <;> cases hown <;> rfl
  · by_cases hf : as.length % n + 1 = n
    · rw [if_pos hf] at hup' ⊢
      obtain rfl | ⟨as', rfl⟩ := h₁ <;> obtain rfl | ⟨sheet, rfl⟩ := h₂ <;> cases hup' <;> rfl
    · rw [if_neg hf] at hup' ⊢
      obtain rfl | ⟨as', rfl⟩ := h₁ <;> obtain rfl | ⟨sheet, rfl⟩ := h₂ <;> cases hup' <;> rfl

/-! ## Loading the file -/

section

variable {bundle : Bundle} {number : ℤ} {results : List (List (String × Json))}

/-- A file with questions leaves a controller on which nothing has been tapped yet. -/
lemma viewDidLoad_of_ne_nil
    (h : (bundle ("testQuestion" ++ toString number)).questions number = some (results, total))
    (hne : results ≠ []) :
    (results.map (TestQuestion.ofDictionary total))[0]?.map (·.totalQuestionNumber) = some total ∧
      ∃ vc, viewDidLoad {} bundle number = some vc ∧
        Tapped (results.map (TestQuestion.ofDictionary total)) total [] vc [] := by
  obtain ⟨dict, results, rfl⟩ := List.exists_cons_of_ne_nil hne
  refine ⟨rfl, _, by
    rw [viewDidLoad, TestDetailViewModel.populateTestQuestionDataFromJson,
      Bundle.loadQuestions_of_some h]
    rfl, rfl, ?_, ?_, ?_, rfl, rfl, ?_⟩
  · simp
  · dsimp only [List.length_nil]
    split <;> omega
  · simp [doubles, openBlock]
  · simp [completeBlocks]

/-- Without a question the screen does not even load. -/
lemma viewDidLoad_of_nil (h : bundle.loadQuestions number = []) :
    viewDidLoad {} bundle number = none := by
  rw [viewDidLoad, TestDetailViewModel.populateTestQuestionDataFromJson, h]
  rfl

end

end TestDetailViewController

end Soliu
