import Soliu.Profile.ViewModel
import Soliu.Records.Ledger

/-!
# Which histories leave a profile that can be shown

The profile reads 15 answers of every sheet it finds, in the user's own document and in the shared
one. A registration puts the placeholder, a sheet without answers, into the user's own document,
and nothing ever takes it out again (`Ledger.placeholder_mem_own`); the shared document starts
without any sheet. `profile_safe_iff` says exactly after which histories the profile of a user is
calculated without a trap and without a division by zero.
-/

namespace Soliu

namespace Ledger

/-- Every document of a user has the placeholder among its results. -/
lemma placeholder_mem_own (es : List StoreEvent) (u : Uid) :
    ∀ info, (initial.run es).own u = some info → placeholder ∈ info.testResult := by
  refine own_run_inv ?_ ?_ nofun
  · intro info h
    rw [h]
    exact List.mem_singleton_self _
  · intro e he r info hr h
    exact UnionList.mem_addNew.mpr (.inl h)

end Ledger

/-- The shared list is nonempty exactly if some accepted event wrote a shared result. -/
lemma length_eraseDups_sharedTest_ne_zero {es : List StoreEvent} :
    (es.filterMap StoreEvent.sharedTest).eraseDups.length ≠ 0 ↔
      ∃ e ∈ es, e.sharedTest.isSome := by
  rw [Ne, List.length_eq_zero_iff, List.eq_nil_iff_forall_not_mem]
  simp only [List.mem_eraseDups, List.mem_filterMap, Option.isSome_iff_exists]
  push Not
  constructor
  · rintro ⟨r, e, he, hr⟩
    exact ⟨e, he, r, hr⟩
  · rintro ⟨e, he, r, hr⟩
    exact ⟨r, e, he, hr⟩

/-- A property of all shared results is one of all the events that wrote them. -/
lemma forall_mem_eraseDups_sharedTest {es : List StoreEvent} {P : TestResultWithUid → Prop} :
    (∀ r ∈ (es.filterMap StoreEvent.sharedTest).eraseDups, P r) ↔
      ∀ e ∈ es, ∀ r, e.sharedTest = some r → P r := by
  simp only [List.mem_eraseDups, List.mem_filterMap]
  constructor
  · intro h e he r hr
    exact h r ⟨e, he, hr⟩
  · rintro h r ⟨e, he, hr⟩
    exact h e he r hr

namespace ProfileViewModel

variable {c : Collection} {L : Ledger}

/-- What a read of a user's own document finds is the record of the ledger. -/
lemma readTestResult_eq (h : Refines c L) (u : Uid) :
    readTestResult {} c (some u) = ⟨L.own u, L.shared⟩ := by
  have ho : getUserTestData (some (c.lookup u.val)) = (true, L.own u) := by
    rw [h.own]
    cases L.own u with
    | none => rfl
    | some info => simp [getUserTestData, completion, dataAs, TestInformation.decode_encode]
  have hs : getUserAllData (some (c.lookup allTestScore)) = (true, L.shared) := by
    rw [h.shared]
    cases L.shared with
    | none => rfl
    | some all => simp [getUserAllData, completion, dataAs, AllTestResult.decode_encode]
  rw [readTestResult, receiveUserTestData, userDocument, ho]
  exact congrArg (fun r : Bool × Option AllTestResult => ProfileViewModel.mk (L.own u)
    (if r.1 then r.2 else some defaultAllTestScore)) hs

/-- The own calculation is safe exactly if the user has no document. -/
lemma own_safe_iff {own : Option TestInformation}
    (h : ∀ info, own = some info → placeholder ∈ info.testResult) :
    ((∀ r ∈ (own.getD defaultTestScore).testResult, 15 ≤ r.testScore.length) ∧
      (own.getD defaultTestScore).testResult.length ≠ 0) ↔ own = none := by
  cases own with
  | none => decide
  | some info =>
    have hp : ¬ 15 ≤ placeholder.testScore.length := by decide
    simp only [Option.getD_some, reduceCtorEq, iff_false]
    exact fun hs => hp (hs.1 placeholder (h info rfl))

end ProfileViewModel

/-- After any history, a user's profile is calculated without a trap and without a division by zero
exactly if the user has no registration behind, some sheet was accepted for the shared document, and
every sheet accepted for it has at least 15 answers. -/
theorem profile_safe_iff (es : List StoreEvent) (u : Uid) :
    ∃ c, Collection.initial.run es = some c ∧
      ((ProfileViewModel.readTestResult {} c (some u)).IsSafe ↔
        (∀ e ∈ es, ¬ e.registers u) ∧ (∃ e ∈ es, e.sharedTest.isSome) ∧
          ∀ e ∈ es, ∀ r, e.sharedTest = some r → 15 ≤ r.testScore.length) := by
  obtain ⟨c, hc, h⟩ := Refines.initial.run es
  refine ⟨c, hc, ?_⟩
  have hown : (Ledger.initial.run es).own u = none ↔ ∀ e ∈ es, ¬ e.registers u := by
    rw [← Option.not_isSome_iff_eq_none, Ledger.own_run_isSome]
    simp [Ledger.initial]
  have hplaceholder := Ledger.placeholder_mem_own es u
  rw [ProfileViewModel.readTestResult_eq h, Ledger.shared_run_initial, ProfileViewModel.IsSafe,
    ProfileViewModel.calculateTestScore_isSome, ← hown,
    ← ProfileViewModel.own_safe_iff hplaceholder]
  rw [← length_eraseDups_sharedTest_ne_zero, ← forall_mem_eraseDups_sharedTest]
  simp only [Option.getD_some]
  tauto

/-- The placeholder of a fresh user makes the user's own profile trap. -/
theorem profile_of_registered_user_traps :
    ¬ ∀ (es : List StoreEvent) (u : Uid) (c : Collection), Collection.initial.run es = some c →
      (ProfileViewModel.readTestResult {} c (some u)).calculateTestScore.isSome := by
  intro h
  let u := Uid.letter 'a' rfl
  have hrun : ((Collection.initial.run
      [.writeData u (.filledIn "a@x" "secret" "Male" "Junior" "Education") true]).map fun c =>
        (ProfileViewModel.readTestResult {} c (some u)).calculateTestScore.isSome) =
      some false := by
    decide
  obtain ⟨c, hc, hn⟩ := Option.map_eq_some_iff.mp hrun
  exact absurd (h _ u c hc) (by rw [hn]; decide)

end Soliu
