import Soliu.Records.Ledger

/-!
# What the writers store, the readers decode

The writers build dictionaries out of string keys and the readers decode typed records. Here the two
meet: the document that registration and any number of tests leave behind decodes as the record of
exactly these tests (`written_records_decode`), an exact repeat of an earlier one being absorbed.
-/

namespace Soliu

namespace Ledger

/-- Accepted tests of a user extend the record by what is new in them. -/
lemma own_run_tests {L : Ledger} {u : Uid} {info : TestInformation}
    (h : L.own u = some info) (tests : List TestResult) :
    (L.run (tests.map fun t => .updateTestScore u t.testScore t.testDate true)).own u =
      some { info with testResult := tests.foldl UnionList.addNew info.testResult } := by
  have hr : ∀ e ∈ tests.map fun t => StoreEvent.updateTestScore u t.testScore t.testDate true,
      ¬ e.registers u := by
    intro e he
    obtain ⟨t, -, rfl⟩ := List.mem_map.mp he
    simp [StoreEvent.registers]
  have ht : (tests.map fun t => StoreEvent.updateTestScore u t.testScore t.testDate true).filterMap
      (·.ownTest u) = tests := by
    rw [List.filterMap_map]
    simp [Function.comp_def, StoreEvent.ownTest]
  rw [own_run hr, h, Option.map_some, ht]

/-- Accepted tests of any users fill the shared list, without repetitions. -/
lemma shared_run_tests (tests : List (Uid × TestResult)) :
    (initial.run
        (tests.map fun t => .updateAllTestScore t.1 t.2.testScore t.2.testDate true)).shared =
      some ⟨(tests.map fun t =>
        (⟨t.2.testDate, t.2.testScore, t.1.val⟩ : TestResultWithUid)).eraseDups⟩ := by
  rw [shared_run_initial, List.filterMap_map, ← List.filterMap_eq_map]
  rfl

end Ledger

/-- After any history, a registration followed by tests of the new user leaves a document that
decodes as the registered strings with the placeholder and then the tests in order, and tests of any
users leave a shared document that decodes as their results in order, repeats absorbed. -/
theorem written_records_decode :
    (∀ (before : List StoreEvent) (uid : Uid) (email password : Option String)
        (gender grade major : String) (tests : List TestResult),
      ∃ c, Collection.initial.run
          (before ++ .writeData uid ⟨email, password, some gender, some grade, some major⟩ true ::
            tests.map fun t => .updateTestScore uid t.testScore t.testDate true) = some c ∧
        dataAs TestInformation.decode (c.lookup uid.val) =
          some (some ⟨gender, grade, major, (placeholder :: tests).eraseDups⟩)) ∧
    ∀ tests : List (Uid × TestResult),
      ∃ c, Collection.initial.run
          (tests.map fun t => .updateAllTestScore t.1 t.2.testScore t.2.testDate true) = some c ∧
        dataAs AllTestResult.decode (c.lookup "All_Test_Score") =
          some (some ⟨(tests.map fun t =>
            (⟨t.2.testDate, t.2.testScore, t.1.val⟩ : TestResultWithUid)).eraseDups⟩) := by
  constructor
  · intro before uid email password gender grade major tests
    obtain ⟨c, hc, h⟩ := Refines.initial.run (before ++
      .writeData uid ⟨email, password, some gender, some grade, some major⟩ true ::
        tests.map fun t => .updateTestScore uid t.testScore t.testDate true)
    refine ⟨c, hc, ?_⟩
    have hstep : ∀ L : Ledger, (L.step (.writeData uid ⟨email, password, some gender, some grade,
        some major⟩ true)).own uid = some ⟨gender, grade, major, [placeholder]⟩ := by
      intro L
      simp [Ledger.step, RegisterForm.profile]
    have hown : (Ledger.initial.run (before ++
        .writeData uid ⟨email, password, some gender, some grade, some major⟩ true ::
          tests.map fun t => .updateTestScore uid t.testScore t.testDate true)).own uid =
        some ⟨gender, grade, major, (placeholder :: tests).eraseDups⟩ := by
      rw [Ledger.run_append, Ledger.run_cons, Ledger.own_run_tests (hstep _)]
      exact congrArg (fun l => some (TestInformation.mk gender grade major l))
        (UnionList.foldl_addNew [placeholder] tests)
    rw [h.own, hown, Option.map_some, dataAs, TestInformation.decode_encode, Option.map_some]
  · intro tests
    obtain ⟨c, hc, h⟩ := Refines.initial.run
      (tests.map fun t => .updateAllTestScore t.1 t.2.testScore t.2.testDate true)
    refine ⟨c, hc, ?_⟩
    rw [show c.lookup "All_Test_Score" = _ from h.shared, Ledger.shared_run_tests, Option.map_some,
      dataAs, AllTestResult.decode_encode, Option.map_some]

end Soliu
