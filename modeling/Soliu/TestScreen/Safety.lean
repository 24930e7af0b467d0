import Soliu.TestScreen.Run

/-!
# Which question files survive the taps

The loader accepts any file, but the screen shows a first question right away and the upload scores
a full sheet by three fixed slices. `test_survives_iff` says exactly which files and which numbers
of taps go through without reading an array out of its bounds.
-/

namespace Soliu

open TestDetailViewController

/-- Loading a file and then tapping goes through exactly if the file gives a question and no sheet
of fewer than 15 answers gets full. -/
theorem test_survives_iff (bundle : Bundle) (number : ℤ) (taps : List AnswerButton) :
    (∃ vc vc' os, viewDidLoad {} bundle number = some vc ∧ machine.run vc taps = some (vc', os)) ↔
      ∃ results total,
        (bundle ("testQuestion" ++ toString number)).questions number = some (results, total) ∧
        results ≠ [] ∧ (total < 1 ∨ 15 ≤ total ∨ taps.length < total) := by
  constructor
  · rintro ⟨vc, vc', os, hload, hrun⟩
    cases hfile : (bundle ("testQuestion" ++ toString number)).questions number with
    | none =>
      rw [viewDidLoad_of_nil (Bundle.loadQuestions_of_none hfile)] at hload
      cases hload
    | some file =>
      obtain ⟨results, total⟩ := file
      by_cases hne : results = []
      · rw [viewDidLoad_of_nil (by rw [Bundle.loadQuestions_of_some hfile, hne, List.map_nil])]
          at hload
        cases hload
      · refine ⟨results, total, rfl, hne, ?_⟩
        obtain ⟨ht, vc₁, hload₁, h⟩ := viewDidLoad_of_ne_nil hfile hne
        cases hload.symm.trans hload₁
        by_contra h15
        rw [h.run_trap ht taps (by omega)] at hrun
        cases hrun
  · rintro ⟨results, total, hfile, hne, h15⟩
    obtain ⟨ht, vc, hload, h⟩ := viewDidLoad_of_ne_nil hfile hne
    obtain ⟨vc', os, hrun, -⟩ := h.run ht taps (by omega)
    exact ⟨vc, vc', os, hload, hrun⟩

/-- A file that is not there lets the screen trap before the first tap. -/
theorem absent_file_traps :
    ¬ ∀ (bundle : Bundle) (number : ℤ) (taps : List AnswerButton),
      ∃ vc vc' os, viewDidLoad {} bundle number = some vc ∧
        machine.run vc taps = some (vc', os) := by
  intro h
  obtain ⟨vc, -, -, hload, -⟩ := h (fun _ => .absent) 1 []
  cases hload

end Soliu
