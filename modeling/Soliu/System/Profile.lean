import Soliu.Profile.Reads
import Soliu.Profile.Safety
import Soliu.System.Results

/-!
# The profile of a user of the system

The profile reads the two documents while the phones go on writing: each read finds what the backend
holds at some moment of some run, or fails. The averages of all users trap on the parts of sheets
that a touch below the spinner submits. Those of the user trap on every document that is found,
because of its placeholder, so the profile is only shown to users of whom no document has been found
(`profile_of_system_iff`).
-/

namespace Soliu

open TestDetailViewController ProfileViewModel

namespace System

variable (bundle : Bundle) (target : SegueTarget)

/-- Some run of the phones leads to this state of the backend. -/
def Holds (b : Backend) : Prop :=
  ∃ currentUsers es s os, (machine bundle target).run (start currentUsers) es = some (s, os) ∧
    s.store = b

/-- Every read that does not fail finds what the backend holds at some moment. -/
def Answers (R : Reads) : Prop :=
  ∀ i path d, R.getDocument i path = some d →
    ∃ b, Holds bundle target b ∧ b.userInfo.lookup path = d

variable {bundle target} {n : ℕ} {results : List (List (String × Json))} {b : Backend}

section

variable (hfile : (bundle "testQuestion1").questions 1 = some (results, (n : ℤ)))
  (hresults : results ≠ []) (h15 : 15 ≤ n)

include hfile hresults h15

/-- A document at a user's path, or at the one read for nobody, has the placeholder in it. -/
lemma Holds.placeholder_mem (hb : Holds bundle target b) {currentUser : Option Uid} {d : Document}
    (hd : b.userInfo.lookup (userDocument currentUser) = some d) :
    ∃ info, TestInformation.decode d = some info ∧ placeholder ∈ info.testResult := by
  obtain ⟨currentUsers, es, s, os, hrun, rfl⟩ := hb
  obtain ⟨fs, hrefines, -⟩ := refines_of_run hfile hresults h15 hrun
  -- the collection holds the shared document and those of users
  obtain ⟨u, hu⟩ : ∃ u : Uid, userDocument currentUser = u.val := by
    refine (hrefines.paths _ (AList.lookup_isSome.mp (hd ▸ rfl))).resolve_left ?_
    cases currentUser with
    | none => decide
    | some u => exact u.val_ne_allTestScore
  rw [hu, hrefines.own] at hd
  obtain ⟨info, hinfo, rfl⟩ := Option.map_eq_some_iff.mp hd
  exact ⟨info, TestInformation.decode_encode info, Ledger.placeholder_mem_own fs u info hinfo⟩

/-- The shared document decodes, and holds parts of sheets. -/
lemma Holds.shared (hb : Holds bundle target b) :
    ∃ all : AllTestResult,
      dataAs AllTestResult.decode (b.userInfo.lookup "All_Test_Score") = some (some all) ∧
      ∀ r ∈ all.testResult, IsPart n r.testScore := by
  obtain ⟨currentUsers, es, s, os, hrun, rfl⟩ := hb
  exact ⟨_, shared_of_run hfile hresults h15 hrun,
    fun r hr => (sheets_of_run hfile hresults h15 hrun hr).1⟩

end

end System

/-- The last read of a user's document found none, or failed. -/
def Reads.NoDocument (R : Reads) (es : List ReadEvent) : Prop :=
  ∀ k, lastUser es = some k → ∀ d,
    R.getDocument k (userDocument (R.currentUser k)) ≠ some (some d)

/-- All results in the shared document read last, if any, have the 15 answers that the averages
take. -/
def Reads.LongResults (R : Reads) (es : List ReadEvent) : Prop :=
  ∀ k, lastAll es = some k → ∀ document, R.getDocument k "All_Test_Score" = some document →
    ∀ all, dataAs AllTestResult.decode document = some (some all) →
      ∀ r ∈ all.testResult, 15 ≤ r.testScore.length

/-- Three averages of all users that the profile can show: none of a shared document without
results, zeros in place of one that has not been read, or numbers within the bounds of sheets. -/
def IsShown (x y z : ExactDouble) : Prop :=
  (x = .nan ∧ y = .nan ∧ z = .nan) ∨ (x = .finite 0 ∧ y = .finite 0 ∧ z = .finite 0) ∨
    ∃ d a t : ℚ, (x = .finite d ∧ y = .finite a ∧ z = .finite t) ∧
      (1 ≤ d ∧ d ≤ 5) ∧ (6 / 5 ≤ a ∧ a ≤ 6) ∧ (4 / 5 ≤ t ∧ t ≤ 4)

namespace ProfileViewModel

/-- Without a user's record the default one counts, and its gender, grade and major do not. -/
lemma calculateTestScore_of_none {allTestResult : Option AllTestResult} {x y z : ExactDouble}
    (h : calculateAllUserAverageScore (allTestResult.getD defaultAllTestScore) = some [x, y, z]) :
    calculateTestScore ⟨none, allTestResult⟩ =
      some ⟨"", "", "", .finite 0, .finite 0, .finite 0, x, y, z⟩ := by
  have hdefault : calculateUserAverageScore defaultTestScore =
      some [.finite 0, .finite 0, .finite 0] := by decide +kernel
  rw [calculateTestScore, Option.getD_none, hdefault, h]
  rfl

/-- Averages of long enough sheets of answers in the range are shown. -/
lemma averages_shown {allTestResult : Option AllTestResult}
    (hrange : ∀ all, allTestResult = some all → ∀ r ∈ all.testResult, InRange r.testScore)
    (hlong : ∀ all, allTestResult = some all → ∀ r ∈ all.testResult, 15 ≤ r.testScore.length) :
    ∃ x y z, calculateAllUserAverageScore (allTestResult.getD defaultAllTestScore) =
        some [x, y, z] ∧ IsShown x y z := by
  cases allTestResult with
  | none =>
    refine ⟨.finite 0, .finite 0, .finite 0, ?_, .inr (.inl ⟨rfl, rfl, rfl⟩)⟩
    rw [Option.getD_none]
    decide +kernel
  | some all =>
    by_cases hne : all.testResult = []
    · obtain ⟨rs⟩ := all
      cases hne
      refine ⟨.nan, .nan, .nan, ?_, .inl ⟨rfl, rfl, rfl⟩⟩
      rw [Option.getD_some]
      decide +kernel
    · obtain ⟨averages, haverages⟩ :=
        Option.isSome_iff_exists.mp (calculateAllUserAverageScore_isSome.mpr (hlong all rfl))
      obtain ⟨d, a, t, rfl, hbounds⟩ :=
        AllTestResult.averages_range (hrange all rfl) hne haverages
      exact ⟨_, _, _, haverages, .inr (.inr ⟨d, a, t, ⟨rfl, rfl, rfl⟩, hbounds⟩)⟩

end ProfileViewModel

namespace Reads

variable {R : Reads} {bundle : Bundle} {target : SegueTarget} {n : ℕ}
  {results : List (List (String × Json))}
  (hfile : (bundle "testQuestion1").questions 1 = some (results, (n : ℤ)))
  (hresults : results ≠ []) (h15 : 15 ≤ n) (hR : System.Answers bundle target R)

include hfile hresults h15 hR

/-- The user's record is missing exactly if the last read has found no document, and otherwise it
has the placeholder. -/
lemma testInformation_fields (es : List ReadEvent) :
    (R.NoDocument es ∧ (R.fields es).testInformation = none) ∨
      ¬ R.NoDocument es ∧ ∃ info, (R.fields es).testInformation = some info ∧
        placeholder ∈ info.testResult := by
  cases hlast : lastUser es with
  | none =>
    refine .inl ⟨fun k hk => (by cases hlast.symm.trans hk), ?_⟩
    rw [fields, hlast]
    rfl
  | some k =>
    have hfields : (R.fields es).testInformation = (receiveUserTestData {}
        (R.getDocument k (userDocument (R.currentUser k)))).testInformation := by
      rw [fields, hlast]
      rfl
    rw [hfields, NoDocument]
    simp only [hlast, Option.some.injEq, forall_eq']
    cases hdoc : R.getDocument k (userDocument (R.currentUser k)) with
    | none => exact .inl ⟨fun d h => (by cases h), rfl⟩
    | some snapshot =>
      cases snapshot with
      | none => exact .inl ⟨fun d h => (by cases h), rfl⟩
      | some d =>
        obtain ⟨b, hb, hd⟩ := hR k _ _ hdoc
        obtain ⟨info, hinfo, hmem⟩ := hb.placeholder_mem hfile hresults h15 hd
        refine .inr ⟨fun h => h d rfl, info, ?_, hmem⟩
        rw [receiveUserTestData, getUserTestData, completion, dataAs, hinfo]
        rfl

/-- The record of all users holds parts of sheets, and its results are long exactly if those of the
document are. -/
lemma allTestResult_fields (es : List ReadEvent) :
    (∀ all, (R.fields es).allTestResult = some all →
      ∀ r ∈ all.testResult, IsPart n r.testScore) ∧
    (R.LongResults es ↔ ∀ all, (R.fields es).allTestResult = some all →
      ∀ r ∈ all.testResult, 15 ≤ r.testScore.length) := by
  cases hlast : lastAll es with
  | none =>
    have hnone : (R.fields es).allTestResult = none := by
      rw [fields, hlast]
      rfl
    rw [hnone]
    exact ⟨fun all h => (by cases h), iff_of_true (fun k hk => (by cases hlast.symm.trans hk))
      fun all h => (by cases h)⟩
  | some k =>
    have hfields : (R.fields es).allTestResult =
        (receiveUserAllData {} (R.getDocument k "All_Test_Score")).allTestResult := by
      rw [fields, hlast]
      rfl
    rw [hfields, LongResults]
    simp only [hlast, Option.some.injEq, forall_eq']
    cases hdoc : R.getDocument k "All_Test_Score" with
    | none =>
      exact ⟨fun all h => (by cases h), iff_of_true (fun document h => (by cases h))
        fun all h => (by cases h)⟩
    | some document =>
      obtain ⟨b, hb, hd⟩ := hR k _ _ hdoc
      obtain ⟨all, hall, hpart⟩ := hb.shared hfile hresults h15
      rw [hd] at hall
      have hfound : (receiveUserAllData {} (some document)).allTestResult = some all := by
        rw [receiveUserAllData, getUserAllData, completion, hall]
        rfl
      rw [hfound]
      simp only [Option.some.injEq, forall_eq', hall]
      exact ⟨hpart, trivial⟩

end Reads

/-- While any number of phones run, in any order of the callbacks of any number of profile reads
that find what the backend held at any moments or fail: a notification shows a record exactly if the
last read of a user's document has found none, or has failed, and the shared document read last has
no result of fewer than 15 answers. The record then says nothing about the user, and the averages of
all users, without rounding, are as they can be. -/
theorem profile_of_system_iff (bundle : Bundle) (target : SegueTarget) (n : ℕ)
    (results : List (List (String × Json)))
    (hfile : (bundle "testQuestion1").questions 1 = some (results, (n : ℤ)))
    (hresults : results ≠ []) (h15 : 15 ≤ n) (R : Reads) (hR : System.Answers bundle target R)
    (es : List ReadEvent) (s : ReadsState) (os : List AverageTestScore)
    (hrun : R.machine.run {} es = some (s, os)) (i : ℕ) (calls : List Call)
    (hnotify : deliver s.calls (.notify i) = some calls) :
    ((R.machine.step s (.notify i)).isSome ↔ R.NoDocument es ∧ R.LongResults es) ∧
      ∀ s' shown, R.machine.step s (.notify i) = some (s', shown) →
        ∃ x y z, shown = [⟨"", "", "", .finite 0, .finite 0, .finite 0, x, y, z⟩] ∧
          IsShown x y z := by
  obtain ⟨calls₀, -, rfl⟩ := Reads.run_history hrun
  obtain ⟨hpart, hlong⟩ := Reads.allTestResult_fields hfile hresults h15 hR es
  rw [Reads.step_fields, hnotify, Option.bind_some, Reads.shows]
  obtain ⟨hno, hnone⟩ | ⟨hno, info, hinfo, hmem⟩ :=
    Reads.testInformation_fields hfile hresults h15 hR es
  · by_cases hresults : R.LongResults es
    · obtain ⟨x, y, z, haverages, hshown⟩ :=
        averages_shown (fun all hall r hr => (hpart all hall r hr).range) (hlong.mp hresults)
      have hscore : (R.fields es).calculateTestScore =
          some ⟨"", "", "", .finite 0, .finite 0, .finite 0, x, y, z⟩ := by
        have h := calculateTestScore_of_none haverages
        rwa [← hnone] at h
      rw [hscore]
      refine ⟨iff_of_true rfl ⟨hno, hresults⟩, fun s' shown h => ?_⟩
      cases h
      exact ⟨x, y, z, rfl, hshown⟩
    · have hscore : (R.fields es).calculateTestScore = none := by
        rw [← Option.not_isSome_iff_eq_none, calculateTestScore_isSome]
        intro h
        refine hresults (hlong.mpr fun all hall => ?_)
        have hall' := h.2
        rwa [hall, Option.getD_some] at hall'
      rw [hscore]
      exact ⟨iff_of_false Bool.false_ne_true fun h => hresults h.2, fun s' shown h => by cases h⟩
  · have hscore : (R.fields es).calculateTestScore = none := by
      rw [← Option.not_isSome_iff_eq_none, calculateTestScore_isSome, hinfo]
      exact fun h => absurd (h.1 placeholder hmem) (by decide)
    rw [hscore]
    exact ⟨iff_of_false Bool.false_ne_true fun h => hno h.1, fun s' shown h => by cases h⟩

/-- What the reads of a user find after the run of two tests. -/
def Reads.delayed (u : Uid) : Reads where
  currentUser _ := some u
  getDocument _ path := ((System.machine Bundle.main .popupLogin).run (.start fun _ => none)
    System.twoTestsDelayed).map fun r => r.1.store.userInfo.lookup path

/-- Two results of all users are found. The profile is shown to the user whose registration has not
arrived, and traps for the one whose document is found as well. -/
theorem profile_of_system_iff_delayed :
    (∃ s os, (Reads.delayed (.letter 'b' rfl)).machine.run {}
        [.call, .userCallback 0, .allCallback 0] = some (s, os) ∧
      s.viewModel.allTestResult.map (·.testResult.length) = some 2 ∧
      ((Reads.delayed (.letter 'b' rfl)).machine.step s (.notify 0)).isSome) ∧
    ∃ s os, (Reads.delayed (.letter 'a' rfl)).machine.run {}
        [.call, .userCallback 0, .allCallback 0] = some (s, os) ∧
      s.viewModel.testInformation.map (·.testResult.length) = some 2 ∧
      (Reads.delayed (.letter 'a' rfl)).machine.step s (.notify 0) = none := by
  have hR : ∀ u, System.Answers Bundle.main .popupLogin (Reads.delayed u) := by
    intro u i path d hd
    obtain ⟨⟨s, os⟩, hrun, hd⟩ : ∃ r, (System.machine Bundle.main .popupLogin).run
        (.start fun _ => none) System.twoTestsDelayed = some r ∧
          r.1.store.userInfo.lookup path = d := Option.map_eq_some_iff.mp hd
    exact ⟨s.store, ⟨_, _, s, os, hrun, rfl⟩, hd⟩
  constructor
  · have hmap : ((Reads.delayed (.letter 'b' rfl)).machine.run {}
        [.call, .userCallback 0, .allCallback 0]).map (fun r =>
          (r.1.viewModel.allTestResult.map (·.testResult.length), deliver r.1.calls (.notify 0))) =
        some (some 2, some [⟨true, true, true⟩]) := by decide +kernel
    obtain ⟨⟨s, os⟩, hrun, h⟩ := Option.map_eq_some_iff.mp hmap
    simp only [Prod.mk.injEq] at h
    refine ⟨s, os, hrun, h.1, ?_⟩
    refine (profile_of_system_iff Bundle.main .popupLogin 15 _ rfl (by decide) (by decide) _ (hR _)
      _ s os hrun 0 _ h.2).1.mpr ⟨?_, ?_⟩
    · intro k hk d hd
      cases hk
      have hnone : (Reads.delayed (.letter 'b' rfl)).getDocument 0 "b" = some none := by
        decide +kernel
      cases hnone.symm.trans hd
    · intro k hk document hdocument all hall
      cases hk
      have hlong : ((Reads.delayed (.letter 'b' rfl)).getDocument 0 "All_Test_Score").all (fun d =>
          (dataAs AllTestResult.decode d).all fun a => a.all fun all =>
            all.testResult.all fun r => 15 ≤ r.testScore.length) := by decide +kernel
      rw [hdocument, Option.all_some, hall, Option.all_some, Option.all_some] at hlong
      exact fun r hr => of_decide_eq_true (List.all_eq_true.mp hlong r hr)
  · have hmap : ((Reads.delayed (.letter 'a' rfl)).machine.run {}
        [.call, .userCallback 0, .allCallback 0]).map (fun r =>
          (r.1.viewModel.testInformation.map (·.testResult.length),
            deliver r.1.calls (.notify 0))) =
        some (some 2, some [⟨true, true, true⟩]) := by decide +kernel
    obtain ⟨⟨s, os⟩, hrun, h⟩ := Option.map_eq_some_iff.mp hmap
    simp only [Prod.mk.injEq] at h
    refine ⟨s, os, hrun, h.1, ?_⟩
    rw [← Option.not_isSome_iff_eq_none, (profile_of_system_iff Bundle.main .popupLogin 15 _ rfl
      (by decide) (by decide) _ (hR _) _ s os hrun 0 _ h.2).1]
    intro hno
    have hfound : ((Reads.delayed (.letter 'a' rfl)).getDocument 0 "a").map Option.isSome =
        some true := by decide +kernel
    obtain ⟨document, hdocument, hisSome⟩ := Option.map_eq_some_iff.mp hfound
    obtain ⟨d, rfl⟩ := Option.isSome_iff_exists.mp hisSome
    exact hno.1 0 rfl d hdocument

end Soliu
