import Soliu.Records.Reading
import Soliu.System.Results

/-!
# The data of a user, and over time

What a user has in the backend is changed by no phone but those on which this user registers or
touches answers, signed in or as the one that the shared object was made for
(`others_leave_data`). While a run goes on, the shared document keeps every result in its place, and
so does that of a user who does not register again (`results_only_grow`).
-/

namespace Soliu

open TestDetailViewController

/-- The event may send off something for the user. -/
def PhoneEvent.WritesFor (u : Uid) (s : Phone) : PhoneEvent → Prop
  | navigate _ => False
  | touchAnswer _ _ _ => s.session.use = .init (some u) ∨ s.navigation.currentUser = some u
  | profileAppears => False
  | register uid _ => uid = u

/-- Whether an event writes for a user is decided by its uid or session. -/
instance (u : Uid) (s : Phone) : (e : PhoneEvent) → Decidable (e.WritesFor u s)
  | .navigate _ => inferInstanceAs (Decidable False)
  | .touchAnswer _ _ _ => inferInstanceAs (Decidable (_ ∨ _))
  | .profileAppears => inferInstanceAs (Decidable False)
  | .register uid _ => inferInstanceAs (Decidable (uid = u))

namespace ResultWrite

/-- The write is to the user's own document or score, or brings a result of the user. -/
def concerns (u : Uid) (w : ResultWrite) : Bool :=
  w.registers u || (w.ownResult u).isSome || w.sharedResult.any (·.testUid = u.val) ||
    (w.uploadedScore u).isSome

/-- A registration that does not concern a user is another user's. -/
lemma ne_of_not_concerns_setData {u uid : Uid} {data : Document}
    (h : ¬ (userInfo (.setData uid.val data)).concerns u) : uid ≠ u := by
  rintro rfl
  simp [concerns, registers] at h

/-- An own result that does not concern a user is another user's. -/
lemma ne_of_not_concerns_own {u uid : Uid} {r : TestResult}
    (h : ¬ (userInfo (.updateData uid.val "testResult" [r.encode])).concerns u) : uid ≠ u := by
  rintro rfl
  simp [concerns, ownResult_own] at h

/-- Scores that do not concern a user are another user's. -/
lemma ne_of_not_concerns_newUsers {u uid : Uid} {score : SectionScore}
    (h : ¬ (newUsers uid score).concerns u) : uid ≠ u := by
  rintro rfl
  simp [concerns, uploadedScore] at h

/-- The registration of another user does not concern the user. -/
lemma not_concerns_setData {u uid : Uid} {data : Document} (h : uid ≠ u) :
    ¬ (userInfo (.setData uid.val data)).concerns u := by
  have hval : uid.val ≠ u.val := fun e => h (Uid.ext_val e)
  simp [concerns, registers, ownResult, sharedResult, uploadedScore, hval]

/-- The scores of another user do not concern the user. -/
lemma not_concerns_newUsers {u uid : Uid} {score : SectionScore} (h : uid ≠ u) :
    ¬ (newUsers uid score).concerns u := by
  simp [concerns, registers, ownResult, sharedResult, uploadedScore, h]

/-- Neither write of another user's submission. -/
lemma not_concerns_submission {u uid : Uid} {answers : List ℤ} {ownDate sharedDate : Date}
    (h : uid ≠ u) : ∀ w ∈ submission uid answers ownDate sharedDate, ¬ w.concerns u := by
  have hval : uid.val ≠ u.val := fun e => h (Uid.ext_val e)
  rw [submission, List.forall_mem_cons, List.forall_mem_singleton]
  constructor
  · simp [concerns, registers, ownResult, sharedResult_own, uploadedScore, hval]
  · simp [concerns, registers, ownResult_shared, sharedResult_shared, uploadedScore, hval]

/-- A shared result in a write that does not concern a user is another user's. -/
lemma sharedResult_of_not_concerns {u : Uid} {w : ResultWrite} {r : TestResultWithUid}
    (h : ¬ w.concerns u) (hr : w.sharedResult = some r) : r.testUid ≠ u.val := by
  intro hu
  simp [concerns, hr, hu] at h

end ResultWrite

namespace Phone

variable {bundle : Bundle} {target : SegueTarget} {questions : List TestQuestion} {n : ℕ}
  {as : List ℤ} {s s' : Phone} {e : PhoneEvent} {ws : List ResultWrite}

/-- A phone sends off nothing for a user for whom its events do not write. -/
lemma not_concerns_of_step (ht : questions[0]?.map (·.totalQuestionNumber) = some (n : ℤ))
    (h15 : 15 ≤ n) {u : Uid} (h : s.Shows questions n as) (hu : ¬ e.WritesFor u s)
    (hs : (machine bundle target).step s e = some (s', ws)) : ∀ w ∈ ws, ¬ w.concerns u := by
  obtain ⟨e, rfl, -, rfl⟩ | ⟨button, ownDate, sharedDate, rfl, hstep⟩ | ⟨rfl, rfl, rfl⟩ |
    ⟨uid, form, rfl, rfl, rfl⟩ := step_cases hs
  · exact List.forall_mem_nil _
  · obtain ⟨huse, hauth⟩ := not_or.mp hu
    obtain ⟨-, ⟨-, -, -, rfl⟩ | ⟨-, -, uid, scores, hinit, -, rfl, hscores⟩⟩ :=
      h.touchAnswer_cases ht h15 hstep
    · exact List.forall_mem_nil _
    · refine List.forall_mem_append.mpr ⟨ResultWrite.not_concerns_submission ?_, ?_⟩
      · rintro rfl
        exact huse hinit
      · obtain ⟨-, rfl⟩ | ⟨-, score, -, rfl⟩ := hscores
        · exact List.forall_mem_nil _
        · refine List.forall_mem_map.mpr fun uid huid => ResultWrite.not_concerns_newUsers ?_
          rintro rfl
          exact hauth (Option.mem_toList.mp huid)
  · exact List.forall_mem_nil _
  · rw [PhoneEvent.registration]
    cases form.profile with
    | none => exact List.forall_mem_nil _
    | some info => exact List.forall_mem_singleton.mpr (ResultWrite.not_concerns_setData hu)

end Phone

namespace Backend

variable {n : ℕ} {P : List ℤ → Prop} {b : Backend} {u : Uid}

/-- What a user has is not changed by a write that does not concern the user. -/
lemma apply_of_not_concerns {w : ResultWrite} (hw : w.IsSent n P) (hu : ¬ w.concerns u) :
    (b.apply w).userInfo.lookup u.val = b.userInfo.lookup u.val ∧
      (b.apply w).newUsers u = b.newUsers u := by
  cases hw with
  | registration uid form info h =>
    have hne := ResultWrite.ne_of_not_concerns_setData hu
    exact ⟨Request.lookup_submit_of_ne fun e => hne (Uid.ext_val e.symm), rfl⟩
  | own uid testDate testScore h =>
    have hne := ResultWrite.ne_of_not_concerns_own hu
    exact ⟨Request.lookup_submit_of_ne fun e => hne (Uid.ext_val e.symm), rfl⟩
  | shared uid testDate testScore h =>
    exact ⟨Request.lookup_submit_of_ne u.val_ne_allTestScore, rfl⟩
  | score uid testScore score h hscore =>
    exact ⟨rfl, Function.update_of_ne (ResultWrite.ne_of_not_concerns_newUsers hu).symm ..⟩

/-- Writes that do not concern a user leave the user's data. -/
lemma foldl_of_not_concerns {ws : List ResultWrite} (hws : ∀ w ∈ ws, w.IsSent n P)
    (hu : ∀ w ∈ ws, ¬ w.concerns u) :
    (ws.foldl apply b).userInfo.lookup u.val = b.userInfo.lookup u.val ∧
      (ws.foldl apply b).newUsers u = b.newUsers u := by
  induction ws generalizing b with
  | nil => exact ⟨rfl, rfl⟩
  | cons w ws ih =>
    rw [List.forall_mem_cons] at hws hu
    obtain ⟨hdocument, hscore⟩ := apply_of_not_concerns (b := b) hws.1 hu.1
    obtain ⟨hdocument', hscore'⟩ := ih (b := b.apply w) hws.2 hu.2
    exact ⟨hdocument'.trans hdocument, hscore'.trans hscore⟩

end Backend

open Network (Output)

/-- From a reachable state on, nothing is sent for a user for whom no event writes. -/
lemma System.not_concerns_of_run {bundle : Bundle} {target : SegueTarget} {n : ℕ}
    {results : List (List (String × Json))} {currentUsers : ℕ → Option Uid}
    {es es' : List (Network.Event ℕ PhoneEvent)} {s s' : System}
    {os os' : List (Output ResultWrite)} {u : Uid}
    (hfile : (bundle "testQuestion1").questions 1 = some (results, (n : ℤ)))
    (hresults : results ≠ []) (h15 : 15 ≤ n)
    (hrun : (machine bundle target).run (.start currentUsers) es = some (s, os))
    (hrun' : (machine bundle target).run s es' = some (s', os'))
    (hes : (machine bundle target).EachStep s es' (Network.Meets fun t e => ¬ e.WritesFor u t)) :
    ∀ w ∈ os'.filterMap Output.sent?, ¬ w.concerns u := by
  obtain ⟨ht, -⟩ := @viewDidLoad_of_ne_nil n bundle 1 results hfile hresults
  exact (inv_of_run (P := fun ws => ∀ w ∈ ws, ¬ w.concerns u) hfile hresults h15
    (List.forall_mem_nil _) (fun h h' => List.forall_mem_append.mpr ⟨h, h'⟩)
    (fun h _ ha hs => Phone.not_concerns_of_step ht h15 h ha hs)
    (isSound_of_run hfile hresults h15 hrun) hes hrun').2

/-- Later on in a run that has nothing of the user in flight: as long as no phone registers the
user, and no answer is touched while the user is signed in or is the one of the shared object, the
user's own document, the value under `newUsers` and the user's results in the shared document stay
as they are, whatever the others do and whichever of their writes arrive. -/
theorem others_leave_data (bundle : Bundle) (target : SegueTarget) (n : ℕ)
    (results : List (List (String × Json))) (currentUsers : ℕ → Option Uid)
    (es es' : List (Network.Event ℕ PhoneEvent)) (s s' : System)
    (os os' : List (Output ResultWrite)) (u : Uid)
    (hfile : (bundle "testQuestion1").questions 1 = some (results, (n : ℤ)))
    (hresults : results ≠ []) (h15 : 15 ≤ n)
    (hrun : (System.machine bundle target).run (.start currentUsers) es = some (s, os))
    (hrun' : (System.machine bundle target).run s es' = some (s', os'))
    (hair : ∀ m ∈ s.inFlight, ¬ m.2.concerns u)
    (hes : (System.machine bundle target).EachStep s es'
      (Network.Meets fun t e => ¬ e.WritesFor u t)) :
    s'.store.userInfo.lookup u.val = s.store.userInfo.lookup u.val ∧
      s'.store.newUsers u = s.store.newUsers u ∧
      ∃ all all', dataAs AllTestResult.decode (s.store.userInfo.lookup "All_Test_Score") =
          some (some all) ∧
        dataAs AllTestResult.decode (s'.store.userInfo.lookup "All_Test_Score") =
          some (some all') ∧
        all'.testResult.filter (·.testUid = u.val) = all.testResult.filter (·.testUid = u.val) := by
  have hboth : (System.machine bundle target).run (.start currentUsers) (es ++ es') =
      some (s', os ++ os') := by
    rw [Machine.run_append, hrun, Option.bind_some, hrun']
    rfl
  obtain ⟨hpart, -⟩ := System.accepted_of_run hfile hresults h15 hboth
  rw [List.filterMap_append, List.forall_mem_append] at hpart
  have hsent := System.not_concerns_of_run hfile hresults h15 hrun hrun' hes
  have haccepted : ∀ w ∈ os'.filterMap Output.accepted?, ¬ w.concerns u := by
    intro w hw
    have hmem := (Network.perm_of_run hrun').mem_iff.mpr (List.mem_append_left _
      (List.mem_append_left _ (List.mem_append_left _ hw)))
    obtain hmem | hmem := List.mem_append.mp hmem
    · obtain ⟨m, hm, rfl⟩ := List.mem_map.mp hmem
      exact hair m hm
    · exact hsent w hmem
  have hstore : s'.store = (os'.filterMap Output.accepted?).foldl Backend.apply s.store :=
    Network.store_of_run hrun'
  obtain ⟨hdocument, hscore⟩ := Backend.foldl_of_not_concerns (b := s.store) hpart.2 haccepted
  rw [← hstore] at hdocument hscore
  refine ⟨hdocument, hscore, _, _, System.shared_of_run hfile hresults h15 hrun,
    System.shared_of_run hfile hresults h15 hboth, ?_⟩
  have hnone : ((os'.filterMap Output.accepted?).filterMap ResultWrite.sharedResult).filter
      (·.testUid = u.val) = [] := by
    refine List.filter_eq_nil_iff.mpr fun r hr => ?_
    obtain ⟨w, hw, hr⟩ := List.mem_filterMap.mp hr
    rw [decide_eq_true_eq]
    exact ResultWrite.sharedResult_of_not_concerns (haccepted w hw) hr
  rw [UnionList.filter_eraseDups, UnionList.filter_eraseDups, List.filterMap_append,
    List.filterMap_append, List.filter_append, hnone, List.append_nil]

/-- A user has registered and taken the test before another one does. -/
theorem others_leave_data_of_second_user :
    ∃ (s s' : System) (os os' : List (Output ResultWrite)) (all all' : AllTestResult),
      (System.machine Bundle.main .popupLogin).run (.start fun _ => none)
        ((PhoneEvent.registeredTest (.letter 'a' rfl) .answer2).map (.act 0) ++
          List.replicate 4 (.deliver 0 true)) = some (s, os) ∧
      (System.machine Bundle.main .popupLogin).run s
        ((PhoneEvent.registeredTest (.letter 'b' rfl) .answer5).map (.act 1) ++
          List.replicate 4 (.deliver 0 true)) = some (s', os') ∧
      (s.store.userInfo.lookup "a").isSome ∧ (s.store.newUsers (.letter 'a' rfl)).isSome ∧
      s'.store.userInfo.lookup "a" = s.store.userInfo.lookup "a" ∧
      s'.store.newUsers (.letter 'a' rfl) = s.store.newUsers (.letter 'a' rfl) ∧
      all.testResult.map (·.testUid) = ["a"] ∧ all'.testResult.map (·.testUid) = ["a", "b"] ∧
      all'.testResult.filter (·.testUid = "a") = all.testResult.filter (·.testUid = "a") := by
  let es : List (Network.Event ℕ PhoneEvent) :=
    (PhoneEvent.registeredTest (.letter 'a' rfl) .answer2).map (.act 0) ++
      List.replicate 4 (.deliver 0 true)
  let es' : List (Network.Event ℕ PhoneEvent) :=
    (PhoneEvent.registeredTest (.letter 'b' rfl) .answer5).map (.act 1) ++
      List.replicate 4 (.deliver 0 true)
  let uids (s : System) : Option (Option (List String)) :=
    (dataAs AllTestResult.decode (s.store.userInfo.lookup "All_Test_Score")).map
      (Option.map fun all => all.testResult.map (·.testUid))
  have hany : ((System.machine Bundle.main .popupLogin).run (.start fun _ => none) es).any
      (fun r => (r.1.inFlight.isEmpty ∧ (r.1.store.userInfo.lookup "a").isSome ∧
        (r.1.store.newUsers (.letter 'a' rfl)).isSome ∧ uids r.1 = some (some ["a"])) ∧
        (System.machine Bundle.main .popupLogin).EachStep r.1 es'
          (Network.Meets fun t e => ¬ e.WritesFor (.letter 'a' rfl) t) ∧
        ((System.machine Bundle.main .popupLogin).run r.1 es').any
          fun r' => uids r'.1 = some (some ["a", "b"])) := by decide +kernel
  obtain ⟨⟨s, os⟩, hrun, h⟩ := (Option.any_eq_true _ _).mp hany
  obtain ⟨⟨hair, hdocument, hscore, hall⟩, hes, h'⟩ := of_decide_eq_true h
  obtain ⟨⟨s', os'⟩, hrun', hall'⟩ := (Option.any_eq_true _ _).mp h'
  replace hall' := of_decide_eq_true hall'
  obtain ⟨hdocument', hscore', all, all', hdecode, hdecode', hfilter⟩ :=
    others_leave_data Bundle.main .popupLogin 15 _ _ es es' s s' os os' (.letter 'a' rfl) rfl
      (by decide) (by decide) hrun hrun'
      (fun m hm => by rw [List.isEmpty_iff.mp hair] at hm; cases hm) hes
  simp only [uids, hdecode, hdecode', Option.map_some, Option.some.injEq] at hall hall'
  refine ⟨s, s', os, os', all, all', hrun, hrun', hdocument, hscore, hdocument', hscore', ?_, ?_,
    hfilter⟩
  · exact hall
  · exact hall'

/-! ## Growing -/

/-- A read gives a record exactly if the document is there and decoded to it. -/
lemma dataAs_eq_some_iff {α : Type} {decode : Document → Option α} {document : Option Document}
    {a : α} : dataAs decode document = some (some a) ↔
      ∃ d, document = some d ∧ decode d = some a := by
  cases document with
  | none => simp [dataAs]
  | some d => simp [dataAs]

/-- Later on in a run, the shared document has the results that it had in their places, and more
after them, and so has the document of a user who has not registered again. -/
theorem results_only_grow (bundle : Bundle) (target : SegueTarget) (n : ℕ)
    (results : List (List (String × Json))) (currentUsers : ℕ → Option Uid)
    (es es' : List (Network.Event ℕ PhoneEvent)) (s s' : System)
    (os os' : List (Output ResultWrite))
    (hfile : (bundle "testQuestion1").questions 1 = some (results, (n : ℤ)))
    (hresults : results ≠ []) (h15 : 15 ≤ n)
    (hrun : (System.machine bundle target).run (.start currentUsers) es = some (s, os))
    (hrun' : (System.machine bundle target).run s es' = some (s', os')) :
    (∃ all new, dataAs AllTestResult.decode (s.store.userInfo.lookup "All_Test_Score") =
        some (some all) ∧
      dataAs AllTestResult.decode (s'.store.userInfo.lookup "All_Test_Score") =
        some (some ⟨all.testResult ++ new⟩)) ∧
    ∀ u info, dataAs TestInformation.decode (s.store.userInfo.lookup u.val) = some (some info) →
      (∀ w ∈ os'.filterMap Output.accepted?, ¬ w.registers u) →
      ∃ new, dataAs TestInformation.decode (s'.store.userInfo.lookup u.val) =
        some (some { info with testResult := info.testResult ++ new }) := by
  have hboth : (System.machine bundle target).run (.start currentUsers) (es ++ es') =
      some (s', os ++ os') := by
    rw [Machine.run_append, hrun, Option.bind_some, hrun']
    rfl
  obtain ⟨haccepted, -⟩ := System.accepted_of_run hfile hresults h15 hboth
  rw [List.filterMap_append, List.forall_mem_append] at haccepted
  obtain ⟨fs, hfs, -, -, hregisters, -⟩ := Backend.exists_run haccepted.2
  have hstore : s'.store = (os'.filterMap Output.accepted?).foldl Backend.apply s.store :=
    Network.store_of_run hrun'
  have hcollection := hfs s.store
  rw [← hstore] at hcollection
  constructor
  · have hall := System.shared_of_run hfile hresults h15 hrun
    obtain ⟨new, hnew, -, -⟩ := Collection.grows_of_run
      (P := fun c rs => c.SharedIs ⟨rs⟩) (Q := fun _ => True) (fun h _ hs => h.step hs)
      (dataAs_eq_some_iff.mp hall) (fun _ _ => trivial) hcollection
    exact ⟨_, new, hall, dataAs_eq_some_iff.mpr hnew⟩
  · intro u info hinfo hu
    obtain ⟨new, hnew, -, -⟩ := Collection.grows_of_run
      (P := fun c rs => c.OwnIs u { info with testResult := rs }) (fun h he hs => h.step he hs)
      (dataAs_eq_some_iff.mp hinfo) (hregisters u hu) hcollection
    exact ⟨new, dataAs_eq_some_iff.mpr hnew⟩

/-- After one test has been recorded, the phone is started again for the next. -/
theorem results_only_grow_second_test :
    ∃ (s s' : System) (os os' : List (Output ResultWrite)) (all : AllTestResult)
        (new : List TestResultWithUid) (info : TestInformation) (newOwn : List TestResult),
      (System.machine Bundle.main .popupLogin).run (.start fun _ => none)
        ((PhoneEvent.registeredTest (.letter 'a' rfl) .answer2).map (.act 0) ++
          List.replicate 4 (.deliver 0 true)) = some (s, os) ∧
      (System.machine Bundle.main .popupLogin).run s
        (.restart 0 :: (PhoneEvent.registeredTest (.letter 'a' rfl) .answer3).tail.map (.act 0) ++
          List.replicate 3 (.deliver 0 true)) = some (s', os') ∧
      dataAs AllTestResult.decode (s'.store.userInfo.lookup "All_Test_Score") =
        some (some ⟨all.testResult ++ new⟩) ∧ all.testResult.length = 1 ∧ new.length = 1 ∧
      dataAs TestInformation.decode (s'.store.userInfo.lookup "a") =
        some (some { info with testResult := info.testResult ++ newOwn }) ∧
      info.testResult.length = 2 ∧ newOwn.length = 1 := by
  let es : List (Network.Event ℕ PhoneEvent) :=
    (PhoneEvent.registeredTest (.letter 'a' rfl) .answer2).map (.act 0) ++
      List.replicate 4 (.deliver 0 true)
  let es' : List (Network.Event ℕ PhoneEvent) :=
    .restart 0 :: (PhoneEvent.registeredTest (.letter 'a' rfl) .answer3).tail.map (.act 0) ++
      List.replicate 3 (.deliver 0 true)
  let lengths (s : System) : Option (Option ℕ) × Option (Option ℕ) :=
    ((dataAs AllTestResult.decode (s.store.userInfo.lookup "All_Test_Score")).map
        (Option.map (·.testResult.length)),
      (dataAs TestInformation.decode (s.store.userInfo.lookup "a")).map
        (Option.map (·.testResult.length)))
  have hany : ((System.machine Bundle.main .popupLogin).run (.start fun _ => none) es).any
      (fun r => lengths r.1 = (some (some 1), some (some 2)) ∧
        ((System.machine Bundle.main .popupLogin).run r.1 es').any fun r' =>
          lengths r'.1 = (some (some 2), some (some 3)) ∧
            ∀ w ∈ r'.2.filterMap Output.accepted?, ¬ w.registers (.letter 'a' rfl)) := by
    decide +kernel
  obtain ⟨⟨s, os⟩, hrun, h⟩ := (Option.any_eq_true _ _).mp hany
  obtain ⟨hlengths, h'⟩ := of_decide_eq_true h
  obtain ⟨⟨s', os'⟩, hrun', h'⟩ := (Option.any_eq_true _ _).mp h'
  obtain ⟨hlengths', hregisters⟩ := of_decide_eq_true h'
  obtain ⟨⟨all, new, hall, hall'⟩, hown⟩ := results_only_grow Bundle.main .popupLogin 15 _ _ es es'
    s s' os os' rfl (by decide) (by decide) hrun hrun'
  simp only [lengths, hall, hall', Prod.mk.injEq, Option.map_some, Option.some.injEq,
    Option.map_eq_some_iff, List.length_append] at hlengths hlengths'
  obtain ⟨hlength, _, hinfo, info, rfl, hlength'⟩ := hlengths
  obtain ⟨newOwn, hinfo'⟩ := hown (.letter 'a' rfl) info hinfo hregisters
  change dataAs TestInformation.decode (s'.store.userInfo.lookup "a") = _ at hinfo'
  rw [hinfo'] at hlengths'
  simp only [Option.some.injEq, exists_eq_left', List.length_append] at hlengths'
  exact ⟨s, s', os, os', all, new, info, newOwn, hrun, hrun', hall', hlength, by omega, hinfo',
    hlength', by omega⟩

end Soliu
