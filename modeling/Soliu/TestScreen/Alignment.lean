import Soliu.TestScreen.Run

/-!
# Before the sheet is full

Up to the last question the two counters, the answers, the question shown and the progress go
together: `Aligned` says what they all are after taps with given answers, `Aligned.step` that a tap
keeps it as long as another question is left, and `test_stays_aligned` what follows for every moment
of a run of fewer taps than there are questions.

The progress is a quotient of two floats. Up to `2 ^ 24 + 1` questions both are exact and their
quotients are told apart. From then on the tap after `2 ^ 24` others leaves the progress as it was.
-/

namespace Soliu

namespace TestDetailViewController

/-- The controller after taps with the answers `as`, each on the question shown at that time. -/
structure Aligned (questions : List TestQuestion) (as : List ℤ) (vc : TestDetailViewController) :
    Prop where
  testQuestion : vc.viewModel.testQuestion = questions
  currentCount : vc.currentCount = as.length + 1
  currentQuestionCount : vc.viewModel.currentQuestionCount = as.length + 1
  testScore : vc.testScore = doubles as
  question : ∃ q, questions[as.length]? = some q ∧ vc.question = some q.question
  progress : as ≠ [] → 1 < questions.length ∧ vc.progress =
    some (((as.length : ℤ) : Binary32) / ((questions.length - 1 : ℤ) : Binary32))

/-- The controller after a tap that moves on to a question with this text. -/
def movedOn (vc : TestDetailViewController) (answer : ℤ) (text : String) :
    TestDetailViewController :=
  { vc with
    testScore := vc.testScore ++ [(answer : ExactDouble)]
    currentCount := vc.currentCount + 1
    viewModel := vc.viewModel.nextQuestion
    progress := some vc.viewModel.getProgress
    question := some text
    currentQuestion := some (toString (vc.currentCount + 1)) }

/-- While questions remain, the test moves on to the next. -/
lemma increaseProgress_movedOn {vc : TestDetailViewController} {total : ℤ} {text : String}
    (answer : ℤ) (ht : vc.viewModel.getTotalQuestion = some total) (hc : vc.currentCount ≠ total)
    (htext : vc.viewModel.nextQuestion.getQuestionText = some text) :
    { vc with testScore := vc.testScore ++ [(answer : ExactDouble)] }.increaseProgress =
      some (vc.movedOn answer text, []) := by
  rw [increaseProgress, ht, Option.bind_eq_bind, Option.bind_some, if_pos hc]
  dsimp only
  rw [htext]
  rfl

namespace Aligned

variable {questions : List TestQuestion} {as : List ℤ} {vc : TestDetailViewController}

/-- `nextQuestion` does not start over while another question is left. -/
lemma noWrap (h : Aligned questions as vc) (hlt : as.length + 1 < questions.length) :
    vc.viewModel.currentQuestionCount + 1 < vc.viewModel.testQuestion.length + 1 := by
  rw [h.currentQuestionCount, h.testQuestion]
  exact Nat.succ_lt_succ hlt

/-- An aligned test shows the number of its questions as the total. -/
lemma getTotalQuestion (h : Aligned questions as vc)
    (ht : questions[0]?.map (·.totalQuestionNumber) = some (questions.length : ℤ)) :
    vc.viewModel.getTotalQuestion = some (questions.length : ℤ) := by
  rw [TestDetailViewModel.getTotalQuestion, h.testQuestion, ht]

/-- The progress of an aligned test, rounded to binary32. -/
lemma getProgress (h : Aligned questions as vc) :
    vc.viewModel.getProgress =
      (((as.length + 1 : ℕ) : ℤ) : Binary32) / ((questions.length - 1 : ℤ) : Binary32) := by
  rw [TestDetailViewModel.getProgress, h.testQuestion, h.currentQuestionCount]

/-- The next question of an aligned test is the one after the answers. -/
lemma nextQuestion (h : Aligned questions as vc) (hlt : as.length + 1 < questions.length) :
    vc.viewModel.nextQuestion =
      { vc.viewModel with currentQuestionCount := as.length + 1 + 1 } := by
  rw [TestDetailViewModel.nextQuestion, if_pos (h.noWrap hlt), h.currentQuestionCount]

/-- The text of the next question. -/
lemma getQuestionText (h : Aligned questions as vc) (hlt : as.length + 1 < questions.length) :
    vc.viewModel.nextQuestion.getQuestionText = some questions[as.length + 1].question := by
  rw [h.nextQuestion hlt, TestDetailViewModel.getQuestionText]
  dsimp only
  rw [h.testQuestion, Nat.add_sub_cancel, List.getElem?_eq_getElem hlt, Option.map_some]

/-- Moving on keeps the test aligned. -/
lemma movedOn (h : Aligned questions as vc) (hlt : as.length + 1 < questions.length)
    (answer : ℤ) :
    Aligned questions (as ++ [answer]) (vc.movedOn answer questions[as.length + 1].question) := by
  have hnext := h.nextQuestion hlt
  have hlength : (as ++ [answer]).length = as.length + 1 := by
    rw [List.length_append, List.length_singleton]
  constructor
  case testQuestion => exact (congrArg TestDetailViewModel.testQuestion hnext).trans h.testQuestion
  case currentCount => rw [TestDetailViewController.movedOn, hlength, Nat.cast_succ, h.currentCount]
  case currentQuestionCount =>
    rw [hlength]
    exact congrArg TestDetailViewModel.currentQuestionCount hnext
  case testScore =>
    rw [TestDetailViewController.movedOn, h.testScore, doubles, doubles, List.map_append,
      List.map_singleton]
  case question =>
    rw [hlength]
    exact ⟨_, List.getElem?_eq_getElem hlt, rfl⟩
  case progress =>
    intro _
    rw [hlength]
    exact ⟨by omega, congrArg some h.getProgress⟩

/-- A tap with another question left moves on to it, and submits and uploads nothing. -/
lemma step (h : Aligned questions as vc)
    (ht : questions[0]?.map (·.totalQuestionNumber) = some (questions.length : ℤ))
    (hlt : as.length + 1 < questions.length) (b : AnswerButton) :
    machine.step vc b =
        some (vc.movedOn b.answer questions[as.length + 1].question, []) ∧
      Aligned questions (as ++ [b.answer])
        (vc.movedOn b.answer questions[as.length + 1].question) := by
  have h' := h.movedOn hlt b.answer
  refine ⟨?_, h'⟩
  -- the last question is not reached
  have hcount : vc.currentCount ≠ questions.length := by
    rw [h.currentCount]
    omega
  have hmove := increaseProgress_movedOn b.answer (h.getTotalQuestion ht) hcount
    (h.getQuestionText hlt)
  -- and the sheet is not full
  have hstay := uploadScore_of_ne (h'.getTotalQuestion ht) (by
    rw [h'.testScore, length_doubles, List.length_append, List.length_singleton]
    omega)
  rw [machine_step, touchAnswer]
  simp only [hmove, hstay, Option.bind_eq_bind, Option.bind_some, Option.pure_def,
    List.append_nil]

/-- A run of fewer taps than there are questions. -/
theorem run (h : Aligned questions [] vc)
    (ht : questions[0]?.map (·.totalQuestionNumber) = some (questions.length : ℤ))
    (taps : List AnswerButton) (hlt : taps.length < questions.length) :
    ∃ vc', machine.run vc taps = some (vc', []) ∧
      Aligned questions (taps.map AnswerButton.answer) vc' := by
  induction taps using List.reverseRecOn with
  | nil => exact ⟨vc, rfl, h⟩
  | append_singleton taps b ih =>
    rw [List.length_append, List.length_singleton] at hlt
    obtain ⟨vc₁, hr, h₁⟩ := ih (by omega)
    obtain ⟨hs, h₂⟩ := h₁.step ht (by rwa [List.length_map]) b
    refine ⟨_, Machine.run_concat_iff.mpr ⟨vc₁, [], [], hr, hs, rfl⟩, ?_⟩
    rwa [List.map_append, List.map_singleton]

/-- The progress that has been set is the float nearest to the exact quotient. -/
lemma progress_value (h : Aligned questions as vc) (hne : as ≠ [])
    (hlt : as.length < questions.length) (hsmall : questions.length ≤ 2 ^ 24 + 1) :
    vc.progress.map (·.value) = some (.finite (BinaryFormat.binary32.round
      ((as.length : ℚ) / ((questions.length - 1 : ℕ) : ℚ)))) := by
  obtain ⟨hone, hprogress⟩ := h.progress hne
  have hcast : (questions.length - 1 : ℤ) = ((questions.length - 1 : ℕ) : ℤ) := by omega
  rw [hprogress, Option.map_some, hcast,
    BinaryFormat.Number.value_div (List.length_pos_iff.mpr hne) (by omega)
      (show questions.length - 1 ≤ 2 ^ 24 by omega)]

/-- The progress is full exactly when the last question is shown. -/
lemma progress_le_one (h : Aligned questions as vc) (hne : as ≠ [])
    (hlt : as.length < questions.length) (hsmall : questions.length ≤ 2 ^ 24 + 1) :
    ∃ q : ℚ, vc.progress.map (·.value) = some (.finite q) ∧
      q = BinaryFormat.binary32.round ((as.length : ℚ) / ((questions.length - 1 : ℕ) : ℚ)) ∧
      0 < q ∧ q ≤ 1 ∧ (q = 1 ↔ vc.viewModel.currentQuestionCount = questions.length) := by
  obtain ⟨hpos, hle, hiff⟩ := BinaryFormat.round_div_bounds (F := BinaryFormat.binary32)
    (List.length_pos_iff.mpr hne) (show as.length ≤ questions.length - 1 by omega)
    (show questions.length - 1 ≤ 2 ^ 24 by omega)
  refine ⟨_, h.progress_value hne hlt hsmall, rfl, hpos, hle, hiff.trans ?_⟩
  rw [h.currentQuestionCount]
  omega

/-- The progress grows with each answer, up to 2 ^ 24 + 1 questions. -/
lemma progress_lt (h : Aligned questions as vc) {a : ℤ} {vc' : TestDetailViewController}
    (h' : Aligned questions (as ++ [a]) vc') (hne : as ≠ [])
    (hlt : as.length + 1 < questions.length) (hsmall : questions.length ≤ 2 ^ 24 + 1) :
    ∃ p q : ℚ, vc.progress.map (·.value) = some (.finite p) ∧
      vc'.progress.map (·.value) = some (.finite q) ∧ p < q := by
  have hlength : (as ++ [a]).length = as.length + 1 := by
    rw [List.length_append, List.length_singleton]
  refine ⟨_, _, h.progress_value hne (by omega) hsmall,
    h'.progress_value (by simp) (by omega) hsmall, ?_⟩
  rw [hlength]
  exact BinaryFormat.round_div_lt_round_div (by omega) (show questions.length - 1 ≤ 2 ^ 24 by omega)

end Aligned

variable {bundle : Bundle} {number total : ℤ} {results : List (List (String × Json))}

/-- The test is aligned when it has loaded. -/
lemma viewDidLoad_aligned
    (h : (bundle ("testQuestion" ++ toString number)).questions number = some (results, total))
    (hne : results ≠ []) :
    ∃ vc, viewDidLoad {} bundle number = some vc ∧
      Aligned (results.map (TestQuestion.ofDictionary total)) [] vc := by
  obtain ⟨dict, results, rfl⟩ := List.exists_cons_of_ne_nil hne
  refine ⟨_, by
    rw [viewDidLoad, TestDetailViewModel.populateTestQuestionDataFromJson,
      Bundle.loadQuestions_of_some h]
    rfl, rfl, rfl, rfl, rfl, ⟨_, rfl, rfl⟩, nofun⟩

end TestDetailViewController

open TestDetailViewController

/-- On a file of `n ≥ 1` questions that declares this number, any taps fewer than `n` run through
without a submission or an upload, and before and after each of them the counters, the answers, the
question shown and the progress are aligned. Up to `2 ^ 24 + 1` questions, the progress is in (0,
1], increases with every tap, and is 1 exactly when the last question is shown. -/
theorem test_stays_aligned (bundle : Bundle) (number : ℤ) (results : List (List (String × Json)))
    (n : ℕ)
    (hfile :
      (bundle ("testQuestion" ++ toString number)).questions number = some (results, (n : ℤ)))
    (hn : results.length = n) (hpos : 1 ≤ n) (taps : List AnswerButton) (hlt : taps.length < n) :
    ∃ vc vc', viewDidLoad {} bundle number = some vc ∧ machine.run vc taps = some (vc', []) ∧
      Aligned (results.map (TestQuestion.ofDictionary n)) (taps.map AnswerButton.answer) vc' ∧
      (n ≤ 2 ^ 24 + 1 → taps ≠ [] → ∃ q : ℚ, vc'.progress.map (·.value) = some (.finite q) ∧
        q = BinaryFormat.binary32.round ((taps.length : ℚ) / ((n - 1 : ℕ) : ℚ)) ∧
        0 < q ∧ q ≤ 1 ∧ (q = 1 ↔ vc'.viewModel.currentQuestionCount = n)) ∧
      ∀ pre b post, taps = pre ++ b :: post → ∃ before after,
        machine.run vc pre = some (before, []) ∧ machine.step before b = some (after, []) ∧
        Aligned (results.map (TestQuestion.ofDictionary n)) (pre.map AnswerButton.answer) before ∧
        Aligned (results.map (TestQuestion.ofDictionary n))
          ((pre ++ [b]).map AnswerButton.answer) after ∧
        vc'.testScore[pre.length]? = some (b.answer : ExactDouble) ∧
        before.viewModel.currentQuestionCount + 1 < before.viewModel.testQuestion.length + 1 ∧
        (n ≤ 2 ^ 24 + 1 → pre ≠ [] → ∃ p q : ℚ, before.progress.map (·.value) = some (.finite p) ∧
          after.progress.map (·.value) = some (.finite q) ∧ p < q) := by
  have hlength : (results.map (TestQuestion.ofDictionary n)).length = n := by
    rw [List.length_map, hn]
  obtain ⟨vc, hload, h⟩ := viewDidLoad_aligned hfile (by rintro rfl; simp at hn; omega)
  have ht : (results.map (TestQuestion.ofDictionary n))[0]?.map (·.totalQuestionNumber) =
      some ((results.map (TestQuestion.ofDictionary n)).length : ℤ) := by
    rw [hlength, List.getElem?_map, List.getElem?_eq_getElem (by omega)]
    rfl
  obtain ⟨vc', hrun, h'⟩ := h.run ht taps (by omega)
  refine ⟨vc, vc', hload, hrun, h', ?_, ?_⟩
  · intro hsmall hne
    have hp := h'.progress_le_one (mt List.map_eq_nil_iff.mp hne) (by rw [List.length_map]; omega)
      (by omega)
    rwa [hlength, List.length_map] at hp
  · rintro pre b post rfl
    rw [List.length_append, List.length_cons] at hlt
    obtain ⟨before, hr, hbefore⟩ := h.run ht pre (by omega)
    have hpre : (pre.map AnswerButton.answer).length + 1 <
        (results.map (TestQuestion.ofDictionary n)).length := by
      rw [List.length_map]
      omega
    obtain ⟨hs, hafter⟩ := hbefore.step ht hpre b
    refine ⟨before, _, hr, hs, hbefore, ?_, ?_, hbefore.noWrap hpre, ?_⟩
    · rwa [List.map_append, List.map_singleton]
    · rw [h'.testScore, doubles, List.map_append, List.map_append, List.getElem?_append_right]
      · simp
      · simp
    · intro hsmall hne
      exact hbefore.progress_lt hafter (mt List.map_eq_nil_iff.mp hne) hpre (by omega)

/-- Fourteen taps on the bundled file lead to its last question, and the progress to 1. -/
theorem test_stays_aligned_bundled :
    ∃ vc vc', viewDidLoad {} Bundle.main 1 = some vc ∧
      machine.run vc (List.replicate 14 .answer3) = some (vc', []) ∧
      vc'.viewModel.currentQuestionCount = 15 ∧
      vc'.progress.map (·.value) = some (.finite 1) := by
  obtain ⟨vc, vc', hload, hrun, h, hprogress, -⟩ := test_stays_aligned Bundle.main 1
    (testQuestion1.map fun text => [("question", .string text)]) 15 rfl rfl (by decide)
    (List.replicate 14 .answer3) (by decide)
  have hcount : vc'.viewModel.currentQuestionCount = 15 := h.currentQuestionCount
  obtain ⟨q, hq, -, -, -, hone⟩ := hprogress (by decide) (List.cons_ne_nil _ _)
  exact ⟨vc, vc', hload, hrun, hcount, hone.mpr hcount ▸ hq⟩

/-- A file of `n` empty questions. -/
def Bundle.ofLength (n : ℕ) : Bundle := fun _ =>
  .json (.object [("testQuestion1", .array (List.replicate n (.object []))),
    ("totalQuestionNumber", .number n)])

/-- The questions of a file of the given length. -/
lemma Bundle.questions_ofLength {n : ℕ} (name : String) (hn : n < 2 ^ 63) :
    (ofLength n name).questions 1 = some (List.replicate n [], (n : ℤ)) := by
  have hdictionaries : ∀ k, (List.replicate k (Json.object [])).mapM Json.asDictionary =
      some (List.replicate k []) := by
    intro k
    induction k with
    | zero => rfl
    | succ k ih => rw [List.replicate_succ, List.mapM_cons, ih]; rfl
  have hint : (Json.number n).asInt = some (n : ℤ) := by
    have hbounds : (-2 ^ 63 : ℤ) ≤ n ∧ (n : ℤ) < 2 ^ 63 := by
      constructor
      · exact (neg_nonpos.mpr (by positivity)).trans (Int.natCast_nonneg n)
      · exact_mod_cast hn
    rw [Json.asInt, if_pos ⟨Rat.den_natCast n, by rwa [Rat.num_natCast]⟩, Rat.num_natCast]
  have hquestions : ∀ results total : Json, (FileContent.json (.object
      [("testQuestion1", results), ("totalQuestionNumber", total)])).questions 1 =
        results.asDictionaries.bind fun results => total.asInt.bind fun questionNumber =>
          some (results, questionNumber) := fun _ _ => rfl
  rw [ofLength, hquestions, hint, Json.asDictionaries, hdictionaries, Option.bind_some,
    Option.bind_some]

/-- On such a file, any taps fewer than `n` set the progress that `Aligned` says. -/
lemma Bundle.aligned_ofLength {n k : ℕ} (hn : n < 2 ^ 63) (hk : 0 < k) (hkn : k < n)
    {vc vc' : TestDetailViewController} (hload : viewDidLoad {} (ofLength n) 1 = some vc)
    (hrun : machine.run vc (List.replicate k .answer1) = some (vc', [])) :
    vc'.viewModel.currentQuestionCount = k + 1 ∧
      vc'.progress = some (((k : ℤ) : Binary32) / ((n - 1 : ℤ) : Binary32)) := by
  have hlength : ((List.replicate n []).map (TestQuestion.ofDictionary n)).length = n := by
    rw [List.length_map, List.length_replicate]
  have hne : List.replicate n ([] : List (String × Json)) ≠ [] := by
    rw [ne_eq, List.replicate_eq_nil_iff]
    omega
  obtain ⟨vc₁, hload₁, h⟩ := viewDidLoad_aligned (questions_ofLength _ hn) hne
  cases hload.symm.trans hload₁
  have ht : ((List.replicate n []).map (TestQuestion.ofDictionary n))[0]?.map
      (·.totalQuestionNumber) =
        some (((List.replicate n []).map (TestQuestion.ofDictionary n)).length : ℤ) := by
    rw [hlength, List.getElem?_map, List.getElem?_eq_getElem (by rw [List.length_replicate]; omega)]
    rfl
  obtain ⟨vc₁', hrun₁, h'⟩ := h.run ht (List.replicate k .answer1)
    (by rw [List.length_replicate, hlength]; omega)
  cases hrun.symm.trans hrun₁
  have hprogress := (h'.progress (by
    rw [ne_eq, List.map_eq_nil_iff, List.replicate_eq_nil_iff]
    omega)).2
  rw [hlength, List.length_map, List.length_replicate] at hprogress
  refine ⟨?_, hprogress⟩
  rw [h'.currentQuestionCount, List.length_map, List.length_replicate]

/-- The progress can be full before the last question: of 16777218 questions, 16777216 have been
answered when it is. -/
theorem progress_full_before_last :
    ¬ ∀ (bundle : Bundle) (number : ℤ) (results : List (List (String × Json))) (n : ℕ),
      (bundle ("testQuestion" ++ toString number)).questions number = some (results, (n : ℤ)) →
        results.length = n → 1 ≤ n → ∀ taps : List AnswerButton, taps.length < n →
          ∃ vc vc', viewDidLoad {} bundle number = some vc ∧
            machine.run vc taps = some (vc', []) ∧
            (taps ≠ [] → ∃ q : ℚ, vc'.progress.map (·.value) = some (.finite q) ∧
              0 < q ∧ q ≤ 1 ∧ (q = 1 ↔ vc'.viewModel.currentQuestionCount = n)) := by
  intro h
  obtain ⟨k, hk⟩ : ∃ k : ℕ, k = 16777216 := ⟨_, rfl⟩
  obtain ⟨vc, vc', hload, hrun, hprogress⟩ := h (.ofLength (k + 2)) 1 _ (k + 2)
    (Bundle.questions_ofLength _ (by omega)) List.length_replicate (by omega)
    (List.replicate k .answer1) (by rw [List.length_replicate]; omega)
  obtain ⟨hcount, hquotient⟩ :=
    Bundle.aligned_ofLength (by omega) (by omega) (by omega) hload hrun
  have hone : vc'.progress.map (·.value) = some (.finite 1) := by
    rw [hquotient, hk]
    decide +kernel
  obtain ⟨q, hq, -, -, hiff⟩ :=
    hprogress (by rw [ne_eq, List.replicate_eq_nil_iff]; omega)
  have hlast := hiff.mp (ExactDouble.finite.inj (Option.some.inj (hq.symm.trans hone)))
  omega

end Soliu
