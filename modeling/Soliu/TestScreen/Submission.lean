import Soliu.TestScreen.Run

/-!
# Which sheets are submitted

A test of `n` questions is to submit the complete blocks of `n` answers, each once, and to upload
the same sheets. The uploads do so for any taps. The submissions do not: `currentCount` stays at `n`
when a sheet has been submitted and nothing disables the buttons, so one more tap submits a sheet of
one answer. `submissions_are_blocks_iff` says that this is the only way to fail.
-/

namespace Soliu

open Blocks TestDetailViewController

/-- Exactly the complete blocks of answers are submitted, to both stores, and uploaded. -/
structure SubmitsBlocks (n : ℕ) (answers : List ℤ) (os : List TestDetailOutput) : Prop where
  ownLength : ∀ testScore ∈ os.filterMap TestDetailOutput.ownSheet, testScore.length = n
  sharedLength : ∀ testScore ∈ os.filterMap TestDetailOutput.sharedSheet, testScore.length = n
  own : os.filterMap TestDetailOutput.ownSheet = completeBlocks n answers
  shared : os.filterMap TestDetailOutput.sharedSheet = completeBlocks n answers
  uploaded : os.filterMap TestDetailOutput.uploadedSheet = (completeBlocks n answers).map doubles

/-- Up to the first complete sheet, the sheets submitted are the complete blocks. -/
lemma submitted_eq_completeBlocks {n : ℕ} {as : List ℤ} (hn : 0 < n) (h : as.length ≤ n) :
    submitted n as = completeBlocks n as := by
  induction as using List.reverseRecOn with
  | nil => simp [submitted, completeBlocks]
  | append_singleton as a ih =>
    rw [List.length_append, List.length_singleton] at h
    have hmod : as.length % n = as.length := Nat.mod_eq_of_lt (by omega)
    rw [submitted_concat, ih (by omega)]
    by_cases he : as.length + 1 = n
    · rw [if_pos ⟨hn, by omega⟩, (concat_of_eq a (by rwa [hmod])).1]
    · rw [if_neg (by omega), (concat_of_ne a (by rwa [hmod])).1, List.append_nil]

/-- More than `n` answers lead to more submissions than there are complete blocks. -/
lemma submitted_ne_completeBlocks {n : ℕ} {as : List ℤ} (hn : 2 ≤ n) (h : n < as.length) :
    submitted n as ≠ completeBlocks n as := by
  -- there is a submission for each tap from the `n`-th on, but a block only for every `n` taps
  intro e
  have hlen := congrArg List.length e
  rw [length_submitted (by omega), length_completeBlocks] at hlen
  have hdiv : (as.length - n) / n + 1 = as.length / n := by
    rw [← Nat.sub_add_cancel h.le, Nat.add_div_right _ (by omega), Nat.add_sub_cancel]
  have hhalf : (as.length - n) / n ≤ (as.length - n) / 2 := Nat.div_le_div_left hn (by omega)
  omega

/-- The submissions of a run are the complete blocks exactly up to the `n`-th tap. -/
lemma TestDetailViewController.Tapped.submitsBlocks_iff {questions : List TestQuestion} {n : ℕ}
    {as : List ℤ} {vc : TestDetailViewController} {os : List TestDetailOutput}
    (h : Tapped questions n as vc os) (hn : 2 ≤ n) : SubmitsBlocks n as os ↔ as.length ≤ n := by
  obtain ⟨-, -, -, -, hown, hshared, huploaded⟩ := h
  rw [Int.toNat_natCast] at hown hshared huploaded
  constructor
  · intro hs
    by_contra hlen
    exact submitted_ne_completeBlocks hn (by omega) (hown.symm.trans hs.own)
  · intro hlen
    have e := submitted_eq_completeBlocks (by omega) hlen
    rw [e] at hown hshared
    refine ⟨?_, ?_, hown, hshared, huploaded⟩
    · rw [hown]
      exact fun _ => length_of_mem_completeBlocks
    · rw [hshared]
      exact fun _ => length_of_mem_completeBlocks

/-- On a file of `n ≥ 15` questions every sequence of taps runs through, and what it submits and
uploads is exactly the complete blocks of answers if and only if there are at most `n` taps. -/
theorem submissions_are_blocks_iff (bundle : Bundle) (number : ℤ)
    (results : List (List (String × Json))) (n : ℕ)
    (hfile : (bundle ("testQuestion" ++ toString number)).questions number =
      some (results, (n : ℤ)))
    (hn : results.length = n) (h15 : 15 ≤ n) (taps : List AnswerButton) :
    ∃ vc vc' os, viewDidLoad {} bundle number = some vc ∧ machine.run vc taps = some (vc', os) ∧
      (SubmitsBlocks n (taps.map AnswerButton.answer) os ↔ taps.length ≤ n) := by
  have hne : results ≠ [] := by
    rintro rfl
    rw [List.length_nil] at hn
    omega
  obtain ⟨ht, vc, hload, h⟩ := viewDidLoad_of_ne_nil hfile hne
  obtain ⟨vc', os, hrun, h'⟩ := h.run ht taps (.inr (.inl (by omega)))
  refine ⟨vc, vc', os, hload, hrun, ?_⟩
  rw [h'.submitsBlocks_iff (by omega), List.length_map]

/-- Twenty taps on the bundled file. -/
theorem submissions_are_blocks_iff_bundled :
    ∃ vc vc' os, viewDidLoad {} Bundle.main 1 = some vc ∧
      machine.run vc (List.replicate 20 .answer1) = some (vc', os) ∧
      (SubmitsBlocks 15 ((List.replicate 20 .answer1).map AnswerButton.answer) os ↔
        (List.replicate 20 AnswerButton.answer1).length ≤ 15) :=
  submissions_are_blocks_iff Bundle.main 1
    (testQuestion1.map fun text => [("question", .string text)]) 15 rfl rfl (by decide) _

/-- A tap after the last question submits a sheet of one answer. -/
theorem submission_after_last_question :
    ¬ ∀ (bundle : Bundle) (number : ℤ) (results : List (List (String × Json))) (n : ℕ)
        (taps : List AnswerButton) (vc vc' : TestDetailViewController) (os : List TestDetailOutput),
      (bundle ("testQuestion" ++ toString number)).questions number = some (results, (n : ℤ)) →
        results.length = n → 15 ≤ n → viewDidLoad {} bundle number = some vc →
          machine.run vc taps = some (vc', os) →
            SubmitsBlocks n (taps.map AnswerButton.answer) os := by
  intro h
  let results : List (List (String × Json)) :=
    testQuestion1.map fun text => [("question", .string text)]
  have hfile : (Bundle.main ("testQuestion" ++ toString (1 : ℤ))).questions 1 =
      some (results, ((15 : ℕ) : ℤ)) := rfl
  obtain ⟨ht, vc, hload, hvc⟩ := viewDidLoad_of_ne_nil hfile (by decide)
  obtain ⟨vc', os, hrun, h'⟩ := hvc.run ht (List.replicate 16 .answer1) (.inr (.inl (by decide)))
  have hs := h Bundle.main 1 results 15 _ vc vc' os hfile rfl (by decide) hload hrun
  exact absurd ((h'.submitsBlocks_iff (by decide)).mp hs) (by decide)

end Soliu
