import Soliu.Profile.Averages
import Soliu.System.Backend

/-!
# The results of all users

What the backend holds after any run of any number of phones, however their writes are delayed,
mixed up, refused or lost. The document shared by all users holds exactly the results that were
accepted (`shared_results_accounted`). Its averages are there as long as all of them have 15
answers, within their bounds (`shared_results_whole`), and they do not depend on the order of
arrival (`shared_averages_converge`). A user's own document is the last registration and the results
since (`own_results_accounted`).
-/

namespace Soliu

open TestDetailViewController

namespace AllTestResult

variable {all all' : AllTestResult}

/-- The averages of all users, where they exist, have their bounds. -/
lemma averages_range (hall : ∀ r ∈ all.testResult, InRange r.testScore)
    (hne : all.testResult ≠ []) {averages : List ExactDouble}
    (h : ProfileViewModel.calculateAllUserAverageScore all = some averages) :
    ∃ d a t : ℚ, averages = [.finite d, .finite a, .finite t] ∧
      (1 ≤ d ∧ d ≤ 5) ∧ (6 / 5 ≤ a ∧ a ≤ 6) ∧ (4 / 5 ≤ t ∧ t ≤ 4) := by
  have hlong := ProfileViewModel.calculateAllUserAverageScore_isSome.mp (Option.isSome_of_eq_some h)
  rw [ProfileViewModel.calculateAllUserAverageScore_eq hlong hne] at h
  cases h
  exact Soliu.averages_range (mt List.map_eq_nil_iff.mp hne)
    (List.forall_mem_map.mpr fun r hr => ⟨hlong r hr, hall r hr⟩)

/-- The averages of all users do not depend on the order of the results, and neither does a trap. -/
lemma averages_perm (hperm : all.testResult.Perm all'.testResult) :
    ProfileViewModel.calculateAllUserAverageScore all =
      ProfileViewModel.calculateAllUserAverageScore all' := by
  by_cases hlong : ∀ r ∈ all.testResult, 15 ≤ r.testScore.length
  · have hlong' : ∀ r ∈ all'.testResult, 15 ≤ r.testScore.length := fun r hr =>
      hlong r (hperm.mem_iff.mpr hr)
    obtain ⟨rs⟩ := all
    obtain ⟨rs'⟩ := all'
    by_cases hne : rs = []
    · subst hne
      obtain rfl : rs' = [] := List.Perm.eq_nil hperm.symm
      rfl
    · have hne' : rs' ≠ [] := fun h => hne (List.Perm.eq_nil (h ▸ hperm))
      rw [ProfileViewModel.calculateAllUserAverageScore_eq hlong hne,
        ProfileViewModel.calculateAllUserAverageScore_eq hlong' hne',
        Soliu.averages_perm (hperm.map _)]
  · have hlong' : ¬ ∀ r ∈ all'.testResult, 15 ≤ r.testScore.length := fun h =>
      hlong fun r hr => h r (hperm.mem_iff.mp hr)
    rw [← ProfileViewModel.calculateAllUserAverageScore_isSome, Option.not_isSome_iff_eq_none]
      at hlong hlong'
    rw [hlong, hlong']

end AllTestResult

namespace System

variable {bundle : Bundle} {target : SegueTarget} {n : ℕ} {results : List (List (String × Json))}
  {currentUsers : ℕ → Option Uid} {es : List (Network.Event ℕ PhoneEvent)} {s : System}
  {os : List (Network.Output ResultWrite)}

/-- From sound phones on, every phone stays sound, and what holds of all that a sound phone sends
holds of the writes sent. -/
lemma inv_of_run {s₀ : System} {Q : Phone → PhoneEvent → Prop} {P : List ResultWrite → Prop}
    (hfile : (bundle "testQuestion1").questions 1 = some (results, (n : ℤ)))
    (hresults : results ≠ []) (h15 : 15 ≤ n) (nil : P [])
    (append : ∀ {ws ws'}, P ws → P ws' → P (ws ++ ws'))
    (step : ∀ {as t a t' ws}, t.Shows (results.map (TestQuestion.ofDictionary n)) n as →
      InRange as → Q t a → (Phone.machine bundle target).step t a = some (t', ws) → P ws)
    (nodes : ∀ i, (s₀.nodes i).IsSound (results.map (TestQuestion.ofDictionary n)) n)
    (hes : (machine bundle target).EachStep s₀ es (Network.Meets Q))
    (hrun : (machine bundle target).run s₀ es = some (s, os)) :
    (∀ i, (s.nodes i).IsSound (results.map (TestQuestion.ofDictionary n)) n) ∧
      P (os.filterMap Network.Output.sent?) := by
  obtain ⟨ht, vc, hload, htapped⟩ := @viewDidLoad_of_ne_nil n bundle 1 results hfile hresults
  refine Network.inv_of_run (p := protocol bundle target) nil append ?_ (fun _ => .launch _) nodes
    hes hrun
  intro t a t' ws ht' ha hs
  obtain ⟨as, hshows, has⟩ := ht'
  exact ⟨Phone.IsSound.step ⟨vc, hload, htapped⟩ ht h15 ⟨as, hshows, has⟩ hs,
    step hshows has ha hs⟩

section

variable (hfile : (bundle "testQuestion1").questions 1 = some (results, (n : ℤ)))
  (hresults : results ≠ []) (h15 : 15 ≤ n)
  (hrun : (machine bundle target).run (start currentUsers) es = some (s, os))
include hfile hresults h15 hrun

/-- Every phone of the system is sound in every run. -/
lemma isSound_of_run (i : ℕ) :
    (s.nodes i).IsSound (results.map (TestQuestion.ofDictionary n)) n :=
  (inv_of_run (Q := fun _ _ => True) (P := fun _ => True) hfile hresults h15 trivial
    (fun _ _ => trivial) (fun _ _ _ _ => trivial) (fun _ => .launch _)
    (Machine.eachStep_of_forall fun _ _ _ _ _ => trivial) hrun).1 i

/-- Every write that is sent is one that a phone sends, and submissions are sent in pairs. -/
lemma sent_of_run :
    (∀ w ∈ os.filterMap Network.Output.sent?, w.IsSent n (IsPart n)) ∧
      (FindsTests bundle target currentUsers es →
        ∀ w ∈ os.filterMap Network.Output.sent?, w.IsSent n (IsWhole n)) ∧
      (os.filterMap Network.Output.sent?).filterMap ResultWrite.ownAnswers =
        (os.filterMap Network.Output.sent?).filterMap ResultWrite.sharedAnswers := by
  obtain ⟨ht, -⟩ := @viewDidLoad_of_ne_nil n bundle 1 results hfile hresults
  refine ⟨?_, fun hfinds => ?_, ?_⟩
  · exact (inv_of_run (Q := fun _ _ => True) (P := fun ws => ∀ w ∈ ws, w.IsSent n (IsPart n))
      hfile hresults h15 (List.forall_mem_nil _) (fun h h' => List.forall_mem_append.mpr ⟨h, h'⟩)
      (fun h has _ hs => Phone.isPart_of_step ht h15 h has hs) (fun _ => .launch _)
      (Machine.eachStep_of_forall fun _ _ _ _ _ => trivial) hrun).2
  · exact (inv_of_run (P := fun ws => ∀ w ∈ ws, w.IsSent n (IsWhole n)) hfile hresults h15
      (List.forall_mem_nil _) (fun h h' => List.forall_mem_append.mpr ⟨h, h'⟩)
      (fun h has ha hs => Phone.isWhole_of_step ht h15 h has ha hs) (fun _ => .launch _)
      hfinds hrun).2
  · refine (inv_of_run (Q := fun _ _ => True)
      (P := fun ws => ws.filterMap ResultWrite.ownAnswers = ws.filterMap ResultWrite.sharedAnswers)
      hfile hresults h15 rfl ?_ (fun h _ _ hs => Phone.ownAnswers_eq_sharedAnswers ht h15 h hs)
      (fun _ => .launch _) (Machine.eachStep_of_forall fun _ _ _ _ _ => trivial) hrun).2
    intro ws ws' h h'
    rw [List.filterMap_append, List.filterMap_append, h, h']

/-- So is every write that is accepted. -/
lemma accepted_of_run :
    (∀ w ∈ os.filterMap Network.Output.accepted?, w.IsSent n (IsPart n)) ∧
      (FindsTests bundle target currentUsers es →
        ∀ w ∈ os.filterMap Network.Output.accepted?, w.IsSent n (IsWhole n)) := by
  obtain ⟨hpart, hwhole, -⟩ := sent_of_run hfile hresults h15 hrun
  exact ⟨fun w hw => hpart w (Network.mem_sent_of_mem_accepted hrun rfl hw),
    fun hfinds w hw => hwhole hfinds w (Network.mem_sent_of_mem_accepted hrun rfl hw)⟩

/-- The collection refines the ledger of the writes accepted. -/
lemma refines_of_run :
    ∃ fs : List StoreEvent, Refines s.store.userInfo (Ledger.initial.run fs) ∧
      fs.filterMap StoreEvent.sharedTest =
        (os.filterMap Network.Output.accepted?).filterMap ResultWrite.sharedResult := by
  obtain ⟨hpart, -⟩ := accepted_of_run hfile hresults h15 hrun
  obtain ⟨fs, hrefines, hshared, -⟩ := Backend.refines_foldl hpart
  have hstore : s.store = (os.filterMap Network.Output.accepted?).foldl Backend.apply .initial :=
    Network.store_of_run hrun
  exact ⟨fs, hstore ▸ hrefines, hshared⟩

/-- The shared document holds the results accepted, each once. -/
lemma shared_of_run :
    dataAs AllTestResult.decode (s.store.userInfo.lookup "All_Test_Score") =
      some (some ⟨((os.filterMap Network.Output.accepted?).filterMap
        ResultWrite.sharedResult).eraseDups⟩) := by
  obtain ⟨fs, hrefines, hshared⟩ := refines_of_run hfile hresults h15 hrun
  refine (congrArg (dataAs AllTestResult.decode) hrefines.shared).trans ?_
  rw [Ledger.shared_run_initial, hshared, Option.map_some, dataAs, AllTestResult.decode_encode]
  rfl

/-- They are parts of sheets, and whole ones as long as every touch finds the test. -/
lemma sheets_of_run {r : TestResultWithUid} (hr : r ∈ ((os.filterMap
      Network.Output.accepted?).filterMap ResultWrite.sharedResult).eraseDups) :
    IsPart n r.testScore ∧ (FindsTests bundle target currentUsers es → IsWhole n r.testScore) := by
  obtain ⟨hpart, hwhole⟩ := accepted_of_run hfile hresults h15 hrun
  rw [List.mem_eraseDups] at hr
  exact ⟨Backend.of_mem_sharedResult hpart hr,
    fun hfinds => Backend.of_mem_sharedResult (hwhole hfinds) hr⟩

end

/-- Two users register and take the test, each on a phone of their own. -/
def twoTests : List (Network.Event ℕ PhoneEvent) :=
  (PhoneEvent.registeredTest (.letter 'a' rfl) .answer2).map (.act 0) ++
    (PhoneEvent.registeredTest (.letter 'b' rfl) .answer5).map (.act 1)

/-- Afterwards one phone is started again, and the writes arrive in some order. One of them is
refused, and two do not arrive. -/
def twoTestsDelayed : List (Network.Event ℕ PhoneEvent) :=
  twoTests ++ [.restart 0, .deliver 5 true, .deliver 2 true, .deliver 0 true, .deliver 0 true,
    .deliver 1 false]

end System

open Network (Output)

section

variable (bundle : Bundle) (target : SegueTarget) (n : ℕ) (results : List (List (String × Json)))
  (currentUsers : ℕ → Option Uid) (es : List (Network.Event ℕ PhoneEvent)) (s : System)
  (os : List (Output ResultWrite))

/-- In every run of any number of phones, with writes that arrive in any order: the shared document
is exactly the list of the results accepted, in the order of their arrival and each once. Every
result for it is sent together with one of the same user and answers for the own document, and is
accepted, refused or still in flight, also when phones are started again; only scores under
`newUsers` can be lost. -/
theorem shared_results_accounted
    (hfile : (bundle "testQuestion1").questions 1 = some (results, (n : ℤ)))
    (hresults : results ≠ []) (h15 : 15 ≤ n)
    (hrun : (System.machine bundle target).run (.start currentUsers) es = some (s, os)) :
    dataAs AllTestResult.decode (s.store.userInfo.lookup "All_Test_Score") =
        some (some ⟨((os.filterMap Output.accepted?).filterMap
          ResultWrite.sharedResult).eraseDups⟩) ∧
      (os.filterMap Output.sent?).filterMap ResultWrite.ownAnswers =
        (os.filterMap Output.sent?).filterMap ResultWrite.sharedAnswers ∧
      ((os.filterMap Output.sent?).filterMap ResultWrite.sharedResult).Perm
        ((os.filterMap Output.accepted?).filterMap ResultWrite.sharedResult ++
          (os.filterMap Output.refused?).filterMap ResultWrite.sharedResult ++
          (s.inFlight.map Prod.snd).filterMap ResultWrite.sharedResult) ∧
      ∀ w ∈ os.filterMap Output.lost?, ∃ uid score, w = .newUsers uid score := by
  have hlost : ∀ w ∈ os.filterMap Output.lost?, ∃ uid score, w = .newUsers uid score := by
    intro w hw
    cases w with
    | userInfo request => exact absurd rfl (Network.not_survives_of_run hrun _ hw)
    | newUsers uid score => exact ⟨uid, score, rfl⟩
  refine ⟨System.shared_of_run hfile hresults h15 hrun,
    (System.sent_of_run hfile hresults h15 hrun).2.2, ?_, hlost⟩
  have hnone : (os.filterMap Output.lost?).filterMap ResultWrite.sharedResult = [] := by
    refine List.filterMap_eq_nil_iff.mpr fun w hw => ?_
    obtain ⟨uid, score, rfl⟩ := hlost w hw
    rfl
  have hperm := (Network.perm_of_run hrun).filterMap ResultWrite.sharedResult
  rwa [System.start, List.map_nil, List.nil_append, List.filterMap_append, List.filterMap_append,
    List.filterMap_append, hnone, List.append_nil] at hperm

/-- Both shared results are accepted, the first after the second. The score of the user whose phone
is started again is lost. -/
theorem shared_results_accounted_delayed :
    ∃ s os, (System.machine Bundle.main .popupLogin).run (.start fun _ => none)
        System.twoTestsDelayed = some (s, os) ∧
      (os.filterMap Output.refused?).length = 1 ∧ s.inFlight.length = 2 ∧
      (os.filterMap Output.lost?).length = 1 ∧
      (∀ w ∈ os.filterMap Output.lost?, ∃ uid score, w = .newUsers uid score) ∧
      dataAs AllTestResult.decode (s.store.userInfo.lookup "All_Test_Score") =
        some (some ⟨[⟨"1970-01-01T00:00:00Z", List.replicate 15 5, "b"⟩,
          ⟨"1970-01-01T00:00:00Z", List.replicate 15 2, "a"⟩]⟩) := by
  have hmap : ((System.machine Bundle.main .popupLogin).run (.start fun _ => none)
      System.twoTestsDelayed).map (fun r => ((r.2.filterMap Output.refused?).length,
        r.1.inFlight.length, (r.2.filterMap Output.lost?).length,
        ((r.2.filterMap Output.accepted?).filterMap ResultWrite.sharedResult).eraseDups)) =
      some (1, 2, 1, [⟨"1970-01-01T00:00:00Z", List.replicate 15 5, "b"⟩,
        ⟨"1970-01-01T00:00:00Z", List.replicate 15 2, "a"⟩]) := by decide +kernel
  obtain ⟨⟨s, os⟩, hrun, h⟩ := Option.map_eq_some_iff.mp hmap
  simp only [Prod.mk.injEq] at h
  obtain ⟨hrefused, hinFlight, hlost, haccepted⟩ := h
  have h := shared_results_accounted Bundle.main .popupLogin 15 _ _ _ s os rfl (by decide)
    (by decide) hrun
  exact ⟨s, os, hrun, hrefused, hinFlight, hlost, h.2.2.2, haccepted ▸ h.1⟩

/-- In every state that the phones and the backend can reach, the shared document decodes, all its
results are parts of sheets and no two are equal. The averages of all users exist exactly if every
result has 15 answers at least, and then, without rounding, keep their bounds. The second of them
may exceed 5, the largest answer. As long as every touch finds the test, all results are whole
sheets. -/
theorem shared_results_whole
    (hfile : (bundle "testQuestion1").questions 1 = some (results, (n : ℤ)))
    (hresults : results ≠ []) (h15 : 15 ≤ n)
    (hrun : (System.machine bundle target).run (.start currentUsers) es = some (s, os)) :
    ∃ all, dataAs AllTestResult.decode (s.store.userInfo.lookup "All_Test_Score") =
        some (some all) ∧
      all.testResult.Nodup ∧ (∀ r ∈ all.testResult, IsPart n r.testScore) ∧
      ((ProfileViewModel.calculateAllUserAverageScore all).isSome ↔
        ∀ r ∈ all.testResult, 15 ≤ r.testScore.length) ∧
      (all.testResult ≠ [] → ∀ averages,
        ProfileViewModel.calculateAllUserAverageScore all = some averages → ∃ d a t : ℚ,
          averages = [.finite d, .finite a, .finite t] ∧
          (1 ≤ d ∧ d ≤ 5) ∧ (6 / 5 ≤ a ∧ a ≤ 6) ∧ (4 / 5 ≤ t ∧ t ≤ 4)) ∧
      (System.FindsTests bundle target currentUsers es →
        ∀ r ∈ all.testResult, IsWhole n r.testScore) := by
  have hsheets := fun r => System.sheets_of_run hfile hresults h15 hrun (r := r)
  refine ⟨_, System.shared_of_run hfile hresults h15 hrun, UnionList.nodup_eraseDups _,
    fun r hr => (hsheets r hr).1, ProfileViewModel.calculateAllUserAverageScore_isSome,
    fun hne averages h => ?_, fun hfinds r hr => (hsheets r hr).2 hfinds⟩
  exact AllTestResult.averages_range (fun r hr => (hsheets r hr).1.range) hne h

/-- The averages of two whole sheets that have arrived. -/
theorem shared_results_whole_delayed :
    ∃ s os all, (System.machine Bundle.main .popupLogin).run (.start fun _ => none)
        System.twoTestsDelayed = some (s, os) ∧
      dataAs AllTestResult.decode (s.store.userInfo.lookup "All_Test_Score") =
        some (some all) ∧
      all.testResult.length = 2 ∧ (∀ r ∈ all.testResult, IsWhole 15 r.testScore) ∧
      ∃ d a t : ℚ,
        ProfileViewModel.calculateAllUserAverageScore all =
          some [.finite d, .finite a, .finite t] ∧
        (1 ≤ d ∧ d ≤ 5) ∧ (6 / 5 ≤ a ∧ a ≤ 6) ∧ (4 / 5 ≤ t ∧ t ≤ 4) := by
  have hmap : ((System.machine Bundle.main .popupLogin).run (.start fun _ => none)
      System.twoTestsDelayed).map (fun r =>
        (dataAs AllTestResult.decode (r.1.store.userInfo.lookup "All_Test_Score")).map
          (Option.map fun all => all.testResult.length)) = some (some (some 2)) := by decide +kernel
  obtain ⟨⟨s, os⟩, hrun, h⟩ := Option.map_eq_some_iff.mp hmap
  obtain ⟨all, hall, -, -, haverages, hrange, hwhole⟩ :=
    shared_results_whole Bundle.main .popupLogin 15 _ _ _ s os rfl (by decide) (by decide) hrun
  rw [hall] at h
  have hlength : all.testResult.length = 2 := by simpa using h
  have hsheets := hwhole (by decide +kernel)
  obtain ⟨averages, hsome⟩ := Option.isSome_iff_exists.mp
    (haverages.mpr fun r hr => (hsheets r hr).1.ge)
  obtain ⟨d, a, t, rfl, hbounds⟩ := hrange (List.ne_nil_of_length_pos (by omega)) _ hsome
  exact ⟨s, os, all, hrun, hall, hlength, hsheets, d, a, t, hsome, hbounds⟩

/-- In every reachable state: a user whose registration has not been accepted has no document.
Otherwise the document is the record of the last registration accepted, with the placeholder and
every result of this user that has been accepted since, in this order and each once. All of them are
parts of sheets, and whole sheets as long as every touch finds the test. -/
theorem own_results_accounted
    (hfile : (bundle "testQuestion1").questions 1 = some (results, (n : ℤ)))
    (hresults : results ≠ []) (h15 : 15 ≤ n)
    (hrun : (System.machine bundle target).run (.start currentUsers) es = some (s, os)) (u : Uid) :
    ((∀ w ∈ os.filterMap Output.accepted?, ¬ w.registers u) →
        s.store.userInfo.lookup u.val = none) ∧
      ∀ pre w post, os.filterMap Output.accepted? = pre ++ w :: post → w.registers u →
        (∀ v ∈ post, ¬ v.registers u) →
        ∃ info, dataAs TestInformation.decode (s.store.userInfo.lookup u.val) = some (some info) ∧
          w = .userInfo (.setData u.val { info with testResult := [placeholder] }.encode) ∧
          info.testResult = placeholder :: (post.filterMap (ResultWrite.ownResult u)).eraseDups ∧
          ∀ r ∈ post.filterMap (ResultWrite.ownResult u), IsPart n r.testScore ∧
            (System.FindsTests bundle target currentUsers es → IsWhole n r.testScore) := by
  obtain ⟨hpart, hwhole⟩ := System.accepted_of_run hfile hresults h15 hrun
  have hstore : s.store = (os.filterMap Output.accepted?).foldl Backend.apply .initial :=
    Network.store_of_run hrun
  rw [hstore]
  refine ⟨Backend.lookup_own_foldl_of_not_registers hpart, fun pre w post he hw hpost => ?_⟩
  rw [he] at hpart hwhole ⊢
  obtain ⟨info, hinfo, hw', hresults⟩ :=
    Backend.lookup_own_foldl_of_registers (fun h => h.nonempty rfl) hpart hw hpost
  have hmem : ∀ v ∈ post, v ∈ pre ++ w :: post := fun v hv =>
    List.mem_append_right _ (List.mem_cons_of_mem _ hv)
  refine ⟨info, ?_, hw', hresults, fun r hr => ⟨?_, fun hfinds => ?_⟩⟩
  · rw [hinfo, dataAs, TestInformation.decode_encode, Option.map_some]
  · exact Backend.of_mem_ownResult (fun v hv => hpart v (hmem v hv)) hr
  · exact Backend.of_mem_ownResult (fun v hv => hwhole hfinds v (hmem v hv)) hr

/-- One user whose record has arrived before a result, and one whose record is still in flight. -/
theorem own_results_accounted_delayed :
    ∃ s os info, (System.machine Bundle.main .popupLogin).run (.start fun _ => none)
        System.twoTestsDelayed = some (s, os) ∧
      dataAs TestInformation.decode (s.store.userInfo.lookup "a") = some (some info) ∧
      info.testResult = [placeholder, ⟨"1970-01-01T00:00:00Z", List.replicate 15 2⟩] ∧
      s.store.userInfo.lookup "b" = none := by
  let u : Uid := .letter 'a' rfl
  let v : Uid := .letter 'b' rfl
  have hmap : ((System.machine Bundle.main .popupLogin).run (.start fun _ => none)
      System.twoTestsDelayed).map (fun r => r.2.filterMap Output.accepted?) =
      some [
        .userInfo (.updateData allTestScore "testResult"
          [TestResultWithUid.encode ⟨"1970-01-01T00:00:00Z", List.replicate 15 5, "b"⟩]),
        .userInfo (.updateData allTestScore "testResult"
          [TestResultWithUid.encode ⟨"1970-01-01T00:00:00Z", List.replicate 15 2, "a"⟩]),
        .userInfo (.setData "a" (TestInformation.encode
          { gender := "Female", grade := "Junior", major := "History"
            testResult := [placeholder] })),
        .userInfo (.updateData "a" "testResult"
          [TestResult.encode ⟨"1970-01-01T00:00:00Z", List.replicate 15 2⟩])] := by decide +kernel
  obtain ⟨⟨s, os⟩, hrun, haccepted⟩ := Option.map_eq_some_iff.mp hmap
  have h := own_results_accounted Bundle.main .popupLogin 15 _ _ _ s os rfl (by decide)
    (by decide) hrun
  dsimp only at haccepted
  obtain ⟨info, hinfo, -, hresults, -⟩ := (h u).2 [_, _] _ [_] haccepted rfl (by decide)
  refine ⟨s, os, info, hrun, hinfo, hresults, (h v).1 ?_⟩
  rw [haccepted]
  decide

/-- Two runs of any phones that have accepted the same writes, in whatever order and however often,
have shared documents with the same results up to their order. They show the same averages of all
users, or both trap. -/
theorem shared_averages_converge (currentUsers' : ℕ → Option Uid)
    (es' : List (Network.Event ℕ PhoneEvent)) (s' : System) (os' : List (Output ResultWrite))
    (hfile : (bundle "testQuestion1").questions 1 = some (results, (n : ℤ)))
    (hresults : results ≠ []) (h15 : 15 ≤ n)
    (hrun : (System.machine bundle target).run (.start currentUsers) es = some (s, os))
    (hrun' : (System.machine bundle target).run (.start currentUsers') es' = some (s', os'))
    (haccepted : ∀ w, w ∈ os.filterMap Output.accepted? ↔ w ∈ os'.filterMap Output.accepted?) :
    ∃ all all', dataAs AllTestResult.decode (s.store.userInfo.lookup "All_Test_Score") =
        some (some all) ∧
      dataAs AllTestResult.decode (s'.store.userInfo.lookup "All_Test_Score") =
        some (some all') ∧
      all.testResult.Perm all'.testResult ∧
      ProfileViewModel.calculateAllUserAverageScore all =
        ProfileViewModel.calculateAllUserAverageScore all' := by
  have hperm : ((os.filterMap Output.accepted?).filterMap ResultWrite.sharedResult).eraseDups.Perm
      ((os'.filterMap Output.accepted?).filterMap ResultWrite.sharedResult).eraseDups := by
    refine UnionList.eraseDups_perm_iff.mpr fun r => ?_
    simp only [List.mem_filterMap (f := ResultWrite.sharedResult), haccepted]
  exact ⟨_, _, System.shared_of_run hfile hresults h15 hrun,
    System.shared_of_run hfile hresults h15 hrun', hperm, AllTestResult.averages_perm hperm⟩

/-- The writes of the first phone arrive before those of the second, or after them. -/
theorem shared_averages_converge_reordered :
    ∃ s os s' os' all all',
      (System.machine Bundle.main .popupLogin).run (.start fun _ => none)
        (System.twoTests ++ List.replicate 8 (.deliver 0 true)) = some (s, os) ∧
      (System.machine Bundle.main .popupLogin).run (.start fun _ => none)
        (System.twoTests ++ (List.replicate 4 (.deliver 4 true) ++
          List.replicate 4 (.deliver 0 true))) = some (s', os') ∧
      dataAs AllTestResult.decode (s.store.userInfo.lookup "All_Test_Score") =
        some (some all) ∧
      dataAs AllTestResult.decode (s'.store.userInfo.lookup "All_Test_Score") =
        some (some all') ∧
      all.testResult.map (·.testUid) = ["a", "b"] ∧ all'.testResult.map (·.testUid) = ["b", "a"] ∧
      ProfileViewModel.calculateAllUserAverageScore all =
        ProfileViewModel.calculateAllUserAverageScore all' := by
  have hmap : ((System.machine Bundle.main .popupLogin).run (.start fun _ => none)
      (System.twoTests ++ List.replicate 8 (.deliver 0 true))).map (fun r =>
        (r.2.filterMap Output.accepted?,
          (dataAs AllTestResult.decode (r.1.store.userInfo.lookup "All_Test_Score")).map
            (Option.map fun all => all.testResult.map (·.testUid)))) =
      ((System.machine Bundle.main .popupLogin).run (.start fun _ => none)
        (System.twoTests ++ (List.replicate 4 (.deliver 4 true) ++
          List.replicate 4 (.deliver 0 true)))).map (fun r =>
        ((r.2.filterMap Output.accepted?).drop 4 ++ (r.2.filterMap Output.accepted?).take 4,
          some (some ["a", "b"]))) := by decide +kernel
  have hmap' : ((System.machine Bundle.main .popupLogin).run (.start fun _ => none)
      (System.twoTests ++ (List.replicate 4 (.deliver 4 true) ++
        List.replicate 4 (.deliver 0 true)))).map (fun r =>
          (dataAs AllTestResult.decode (r.1.store.userInfo.lookup "All_Test_Score")).map
            (Option.map fun all => all.testResult.map (·.testUid))) =
      some (some (some ["b", "a"])) := by decide +kernel
  obtain ⟨⟨s', os'⟩, hrun', h'⟩ := Option.map_eq_some_iff.mp hmap'
  rw [hrun'] at hmap
  obtain ⟨⟨s, os⟩, hrun, h⟩ := Option.map_eq_some_iff.mp hmap
  simp only [Prod.mk.injEq] at h
  have haccepted : ∀ w, w ∈ os.filterMap Output.accepted? ↔ w ∈ os'.filterMap Output.accepted? := by
    intro w
    rw [h.1, List.mem_append, or_comm, ← List.mem_append, List.take_append_drop]
  obtain ⟨all, all', hall, hall', -, haverages⟩ := shared_averages_converge Bundle.main .popupLogin
    15 _ _ _ s os _ _ s' os' rfl (by decide) (by decide) hrun hrun' haccepted
  rw [hall] at h
  rw [hall'] at h'
  refine ⟨s, os, s', os', all, all', hrun, hrun', hall, hall', ?_, ?_, haverages⟩
  · simpa using h.2
  · simpa using h'

/-- In every reachable state, the value under `newUsers` is the last one accepted for the user, and
it is the score of a whole sheet, whatever has been touched below the spinner. -/
theorem new_users_last
    (hfile : (bundle "testQuestion1").questions 1 = some (results, (n : ℤ)))
    (hresults : results ≠ []) (h15 : 15 ≤ n)
    (hrun : (System.machine bundle target).run (.start currentUsers) es = some (s, os)) (u : Uid) :
    s.store.newUsers u =
        ((os.filterMap Output.accepted?).filterMap (ResultWrite.uploadedScore u)).getLast? ∧
      ∀ score, s.store.newUsers u = some score → ∃ testScore, IsWhole n testScore ∧
        TestDetailViewModel.sectionScores (doubles testScore) = some score := by
  obtain ⟨haccepted, -⟩ := System.accepted_of_run hfile hresults h15 hrun
  have hstore : s.store = _ := Network.store_of_run hrun
  have hlast : s.store.newUsers u = _ :=
    (congrArg (fun b : Backend => b.newUsers u) hstore).trans (Backend.newUsers_foldl _ u)
  refine ⟨hlast, fun score hscore => ?_⟩
  rw [hlast] at hscore
  obtain ⟨w, hw, hscore⟩ := List.mem_filterMap.mp (List.mem_of_getLast? hscore)
  cases haccepted w hw with
  | score uid testScore score' hwhole hsections =>
    rw [ResultWrite.uploadedScore] at hscore
    split at hscore <;> cases hscore
    exact ⟨testScore, hwhole, hsections⟩
  | registration | own | shared => cases hscore

/-- The score arrives although one more answer was touched below the spinner. -/
theorem new_users_last_extra_touch :
    ∃ s os testScore, (System.machine Bundle.main .popupLogin).run (.start fun _ => none)
        ((PhoneEvent.registeredTest (.letter 'a' rfl) .answer2 ++
            [PhoneEvent.touchAnswer .answer1 ⟨0, 0⟩ ⟨0, 0⟩]).map (.act 0) ++
          List.replicate 6 (.deliver 0 true)) = some (s, os) ∧
      ((os.filterMap Output.accepted?).filterMap ResultWrite.sharedResult).map
        (·.testScore.length) = [15, 1] ∧
      IsWhole 15 testScore ∧
      s.store.newUsers (.letter 'a' rfl) =
        TestDetailViewModel.sectionScores (doubles testScore) := by
  have hmap : ((System.machine Bundle.main .popupLogin).run (.start fun _ => none)
      ((PhoneEvent.registeredTest (.letter 'a' rfl) .answer2 ++
          [PhoneEvent.touchAnswer .answer1 ⟨0, 0⟩ ⟨0, 0⟩]).map (.act 0) ++
        List.replicate 6 (.deliver 0 true))).map (fun r =>
          (((r.2.filterMap Output.accepted?).filterMap ResultWrite.sharedResult).map
            (·.testScore.length), (r.1.store.newUsers (.letter 'a' rfl)).isSome)) =
      some ([15, 1], true) := by decide +kernel
  obtain ⟨⟨s, os⟩, hrun, h⟩ := Option.map_eq_some_iff.mp hmap
  simp only [Prod.mk.injEq] at h
  obtain ⟨score, hscore⟩ := Option.isSome_iff_exists.mp h.2
  obtain ⟨testScore, hwhole, hsections⟩ := (new_users_last Bundle.main .popupLogin 15 _ _ _ s os rfl
    (by decide) (by decide) hrun (.letter 'a' rfl)).2 score hscore
  exact ⟨s, os, testScore, hrun, h.1, hwhole, hscore.trans hsections.symm⟩

end

end Soliu
