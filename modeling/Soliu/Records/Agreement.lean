import Mathlib.Data.List.Count
import Soliu.Records.RoundTrip

/-!
# The users' own records and the shared record

A finished test is recorded twice, by two requests that read the clock on their own, are sent off
one after the other and are accepted or refused independently. This file compares what the two
stores hold after any number of finished tests, whatever the order in which the backend applies the
requests: each store holds exactly the results whose request it accepted, each once
(`ownRecords_perm`, `sharedRecords_perm`), so the stores agree exactly when they accepted the same
results.
-/

namespace Soliu

/-- One finished test: the two clock readings, and the backend's verdict on each request. -/
structure FinishedTest where
  uid : Uid
  testScore : List ℤ
  ownDate : Date
  sharedDate : Date
  ownAccepted : Bool
  sharedAccepted : Bool
deriving DecidableEq

/-- A result with its user, date and answers, in whichever document it stands. -/
structure Entry where
  uid : String
  testDate : String
  testScore : List ℤ
deriving DecidableEq

namespace FinishedTest

/-- The two writes of a finished test, in the order of `increaseProgress`. -/
def writes (t : FinishedTest) : List StoreEvent :=
  [.updateTestScore t.uid t.testScore t.ownDate.iso8601withFractionalSeconds t.ownAccepted,
    .updateAllTestScore t.uid t.testScore t.sharedDate.iso8601withFractionalSeconds
      t.sharedAccepted]

/-- What the user's document gets of a finished test. -/
def ownEntry (t : FinishedTest) : Entry :=
  ⟨t.uid.val, t.ownDate.iso8601withFractionalSeconds, t.testScore⟩

/-- What the shared document gets of a finished test. -/
def sharedEntry (t : FinishedTest) : Entry :=
  ⟨t.uid.val, t.sharedDate.iso8601withFractionalSeconds, t.testScore⟩

end FinishedTest

/-- What one document holds as a user's own, registration placeholders excluded. -/
def documentRecords (path : String) (d : Document) : List Entry :=
  match TestInformation.decode d with
  | some info =>
    (info.testResult.filter (· ≠ placeholder)).map fun r => ⟨path, r.testDate, r.testScore⟩
  | none => []

/-- The results of all the users' own documents. -/
def ownRecords (c : Collection) : List Entry :=
  c.entries.flatMap fun d => if d.1 = allTestScore then [] else documentRecords d.1 d.2

/-- The results of the shared document. -/
def sharedRecords (c : Collection) : List Entry :=
  match (c.lookup allTestScore).bind AllTestResult.decode with
  | some all => all.testResult.map fun r => ⟨r.testUid, r.testDate, r.testScore⟩
  | none => []

/-- The collection before anybody has registered, with or without the shared document. -/
def Collection.start (hasShared : Bool) : Collection :=
  if hasShared then Collection.initial else ∅

/-- The ledger before anybody has registered, with or without the shared results. -/
def Ledger.start (hasShared : Bool) : Ledger :=
  { Ledger.initial with shared := if hasShared then Ledger.initial.shared else none }

/-- Collection and ledger agree before anybody has registered. -/
lemma Refines.start (hasShared : Bool) :
    Refines (Collection.start hasShared) (Ledger.start hasShared) := by
  cases hasShared with
  | true => exact Refines.initial
  | false => exact ⟨fun _ => rfl, rfl, fun p hp => absurd hp (AList.notMem_empty p)⟩

/-- The registrations that come before the tests, all accepted. -/
def registrations (users : List (Uid × RegisterForm)) : List StoreEvent :=
  users.map fun r => .writeData r.1 r.2 true

/-- Whether one of these registrations writes a document for the user. -/
def isRegistered (users : List (Uid × RegisterForm)) (u : Uid) : Bool :=
  users.any fun r => decide (r.1 = u) && r.2.profile.isSome

/-- The entries accepted by the users' own documents. -/
def acceptedOwn (users : List (Uid × RegisterForm)) (tests : List FinishedTest) : List Entry :=
  (tests.filter fun t => t.ownAccepted && isRegistered users t.uid).map FinishedTest.ownEntry

/-- The entries accepted by the shared document. -/
def acceptedShared (hasShared : Bool) (tests : List FinishedTest) : List Entry :=
  (tests.filter fun t => t.sharedAccepted && hasShared).map FinishedTest.sharedEntry

/-! ## The ledger after the registrations and the tests -/

namespace Ledger

/-- After registrations the users with a record are those who registered with a profile. -/
lemma own_run_registrations_isSome (hasShared : Bool) (users : List (Uid × RegisterForm))
    (u : Uid) :
    (((start hasShared).run (registrations users)).own u).isSome ↔ isRegistered users u := by
  rw [own_run_isSome, isRegistered, List.any_eq_true]
  constructor
  · rintro (h | ⟨e, he, hr⟩)
    · cases h
    · obtain ⟨r, hmem, rfl⟩ := List.mem_map.mp he
      exact ⟨r, hmem, hr⟩
  · rintro ⟨r, hmem, hr⟩
    exact .inr ⟨_, List.mem_map_of_mem hmem, hr⟩

/-- After registrations every record holds the placeholder and nothing else. -/
lemma testResult_run_registrations (hasShared : Bool) (users : List (Uid × RegisterForm))
    (u : Uid) :
    ∀ info, ((start hasShared).run (registrations users)).own u = some info →
      info.testResult = [placeholder] := by
  refine own_run_inv (fun _ h => h) ?_ nofun
  intro e he r info hr
  -- a registration is no test
  obtain ⟨user, -, rfl⟩ := List.mem_map.mp he
  cases hr

/-- Registrations leave the shared results as they are. -/
lemma shared_run_registrations {L : Ledger} (users : List (Uid × RegisterForm)) :
    (L.run (registrations users)).shared = L.shared := by
  have h : (registrations users).filterMap StoreEvent.sharedTest = [] := by
    rw [registrations, List.filterMap_map]
    exact List.filterMap_eq_nil_iff.mpr fun _ _ => rfl
  rw [shared_run, h]
  cases L.shared <;> rfl

end Ledger

section

variable {users : List (Uid × RegisterForm)} {hasShared : Bool} {tests : List FinishedTest}
  {writes : List StoreEvent}

/-- Every write is one of the two writes of a finished test. -/
lemma mem_writes_iff (hw : writes.Perm (tests.flatMap FinishedTest.writes)) {e : StoreEvent} :
    e ∈ writes ↔ ∃ t ∈ tests,
      e = .updateTestScore t.uid t.testScore t.ownDate.iso8601withFractionalSeconds t.ownAccepted ∨
      e = .updateAllTestScore t.uid t.testScore t.sharedDate.iso8601withFractionalSeconds
        t.sharedAccepted := by
  rw [hw.mem_iff, List.mem_flatMap]
  simp only [FinishedTest.writes, List.mem_cons, List.not_mem_nil, or_false]

/-- The writes of finished tests register nobody. -/
lemma not_registers_of_perm (hw : writes.Perm (tests.flatMap FinishedTest.writes)) (u : Uid) :
    ∀ e ∈ writes, ¬ e.registers u := by
  intro e he
  obtain ⟨t, -, rfl | rfl⟩ := (mem_writes_iff hw).mp he <;> simp [StoreEvent.registers]

/-- The own results among the writes are those of the user's finished tests that were accepted. -/
lemma mem_ownTest_iff (hw : writes.Perm (tests.flatMap FinishedTest.writes)) {u : Uid}
    {r : TestResult} :
    r ∈ writes.filterMap (·.ownTest u) ↔
      ∃ t ∈ tests, t.ownAccepted ∧ t.uid = u ∧
        r = ⟨t.ownDate.iso8601withFractionalSeconds, t.testScore⟩ := by
  rw [List.mem_filterMap]
  constructor
  · rintro ⟨e, he, hr⟩
    obtain ⟨t, ht, rfl | rfl⟩ := (mem_writes_iff hw).mp he
    · cases ha : t.ownAccepted with
      | false => simp [StoreEvent.ownTest, ha] at hr
      | true =>
        simp only [StoreEvent.ownTest, ha, Option.ite_none_right_eq_some, Option.some.injEq] at hr
        exact ⟨t, ht, ha, hr.1, hr.2.symm⟩
    · cases hr
  · rintro ⟨t, ht, ha, hu, rfl⟩
    refine ⟨_, (mem_writes_iff hw).mpr ⟨t, ht, .inl rfl⟩, ?_⟩
    simp [StoreEvent.ownTest, ha, hu]

/-- The shared results among the writes are those of the finished tests accepted there. -/
lemma mem_sharedTest_iff (hw : writes.Perm (tests.flatMap FinishedTest.writes))
    {r : TestResultWithUid} :
    r ∈ writes.filterMap StoreEvent.sharedTest ↔
      ∃ t ∈ tests, t.sharedAccepted ∧
        r = ⟨t.sharedDate.iso8601withFractionalSeconds, t.testScore, t.uid.val⟩ := by
  rw [List.mem_filterMap]
  constructor
  · rintro ⟨e, he, hr⟩
    obtain ⟨t, ht, rfl | rfl⟩ := (mem_writes_iff hw).mp he
    · cases hr
    · cases ha : t.sharedAccepted with
      | false => simp [StoreEvent.sharedTest, ha] at hr
      | true =>
        simp only [StoreEvent.sharedTest, ha, Option.some.injEq] at hr
        exact ⟨t, ht, ha, hr.symm⟩
  · rintro ⟨t, ht, ha, rfl⟩
    refine ⟨_, (mem_writes_iff hw).mpr ⟨t, ht, .inr rfl⟩, ?_⟩
    simp [StoreEvent.sharedTest, ha]

end

/-! ## What the two stores hold -/

/-- The results of an encoded record are its results without the placeholder. -/
lemma mem_documentRecords {path : String} {info : TestInformation} {x : Entry} :
    x ∈ documentRecords path info.encode ↔
      ∃ r ∈ info.testResult, r ≠ placeholder ∧ x = ⟨path, r.testDate, r.testScore⟩ := by
  simp only [documentRecords, TestInformation.decode_encode, List.mem_map, List.mem_filter,
    decide_eq_true_eq]
  constructor
  · rintro ⟨r, ⟨hr, hne⟩, rfl⟩
    exact ⟨r, hr, hne, rfl⟩
  · rintro ⟨r, hr, hne, rfl⟩
    exact ⟨r, ⟨hr, hne⟩, rfl⟩

/-- A record without repetitions gives its results without repetitions. -/
lemma nodup_documentRecords {path : String} {info : TestInformation}
    (h : info.testResult.Nodup) : (documentRecords path info.encode).Nodup := by
  simp only [documentRecords, TestInformation.decode_encode]
  refine (h.filter _).map ?_
  rintro ⟨d₁, s₁⟩ ⟨d₂, s₂⟩ e
  cases e
  rfl

/-- The results of a document are results of its path. -/
lemma uid_of_mem_documentRecords {path : String} {d : Document} {x : Entry}
    (h : x ∈ documentRecords path d) : x.uid = path := by
  rw [documentRecords] at h
  split at h
  · obtain ⟨r, -, rfl⟩ := List.mem_map.mp h
    rfl
  · cases h

namespace Refines

variable {c : Collection} {L : Ledger}

/-- The own results of a collection are those of the ledger it refines. -/
lemma mem_ownRecords (h : Refines c L) {x : Entry} :
    x ∈ ownRecords c ↔
      ∃ u info r, L.own u = some info ∧ r ∈ info.testResult ∧ r ≠ placeholder ∧
        x = ⟨u.val, r.testDate, r.testScore⟩ := by
  rw [ownRecords, List.mem_flatMap]
  constructor
  · rintro ⟨⟨p, d⟩, hd, hx⟩
    have hl : c.lookup p = some d := AList.mem_lookup_iff.mpr hd
    by_cases hp : p = allTestScore
    · simp [hp] at hx
    · obtain rfl | ⟨u, rfl⟩ := h.paths p (AList.lookup_isSome.mp (Option.isSome_of_eq_some hl))
      · exact absurd rfl hp
      · rw [h.own] at hl
        obtain ⟨info, hi, rfl⟩ := Option.map_eq_some_iff.mp hl
        rw [if_neg hp, mem_documentRecords] at hx
        obtain ⟨r, hr, hne, rfl⟩ := hx
        exact ⟨u, info, r, hi, hr, hne, rfl⟩
  · rintro ⟨u, info, r, hi, hr, hne, rfl⟩
    have hl : c.lookup u.val = some info.encode := by rw [h.own, hi, Option.map_some]
    refine ⟨⟨u.val, info.encode⟩, AList.mem_lookup_iff.mp hl, ?_⟩
    rw [if_neg u.val_ne_allTestScore, mem_documentRecords]
    exact ⟨r, hr, hne, rfl⟩

/-- Where no record of the ledger repeats a result, the collection has each result once. -/
lemma nodup_ownRecords (h : Refines c L)
    (hL : ∀ u info, L.own u = some info → info.testResult.Nodup) : (ownRecords c).Nodup := by
  rw [ownRecords, List.nodup_flatMap]
  constructor
  · rintro ⟨p, d⟩ hd
    have hl : c.lookup p = some d := AList.mem_lookup_iff.mpr hd
    by_cases hp : p = allTestScore
    · simp [hp]
    · obtain rfl | ⟨u, rfl⟩ := h.paths p (AList.lookup_isSome.mp (Option.isSome_of_eq_some hl))
      · exact absurd rfl hp
      · rw [h.own] at hl
        obtain ⟨info, hi, rfl⟩ := Option.map_eq_some_iff.mp hl
        rw [if_neg hp]
        exact nodup_documentRecords (hL u info hi)
  · -- the entries of two documents differ in their uid, which is the path
    refine List.Pairwise.imp ?_ (List.nodupKeys_iff_pairwise.mp c.nodupKeys)
    rintro ⟨p, d⟩ ⟨q, d'⟩ hpq x hx hx'
    dsimp only at hx hx'
    split at hx
    · cases hx
    · split at hx'
      · cases hx'
      · exact hpq ((uid_of_mem_documentRecords hx).symm.trans (uid_of_mem_documentRecords hx'))

/-- The shared results of a collection are those of the ledger it refines. -/
lemma sharedRecords_eq (h : Refines c L) :
    sharedRecords c =
      (L.shared.elim [] AllTestResult.testResult).map
        fun r => ⟨r.testUid, r.testDate, r.testScore⟩ := by
  rw [sharedRecords, h.shared]
  cases L.shared with
  | none => rfl
  | some all => simp [AllTestResult.decode_encode]

end Refines

/-! ## After a run -/

section

variable {users : List (Uid × RegisterForm)} {hasShared : Bool} {tests : List FinishedTest}
  {writes : List StoreEvent}

/-- What a record holds after registrations and finished tests. -/
lemma own_run_tests_iff (hw : writes.Perm (tests.flatMap FinishedTest.writes)) {u : Uid}
    {info : TestInformation}
    (h : ((Ledger.start hasShared).run (registrations users ++ writes)).own u = some info) :
    isRegistered users u ∧
      info.testResult = (placeholder :: writes.filterMap (·.ownTest u)).eraseDups := by
  rw [Ledger.run_append, Ledger.own_run (not_registers_of_perm hw u)] at h
  obtain ⟨info₀, hi, rfl⟩ := Option.map_eq_some_iff.mp h
  constructor
  · exact (Ledger.own_run_registrations_isSome hasShared users u).mp (Option.isSome_of_eq_some hi)
  · rw [Ledger.testResult_run_registrations hasShared users u info₀ hi]
    exact UnionList.foldl_addNew [placeholder] _

/-- A registered user has a record, whatever tests are finished. -/
lemma own_run_tests_isSome (hasShared : Bool)
    (hw : writes.Perm (tests.flatMap FinishedTest.writes)) {u : Uid}
    (h : isRegistered users u) :
    ∃ info, ((Ledger.start hasShared).run (registrations users ++ writes)).own u = some info := by
  obtain ⟨info, hi⟩ := Option.isSome_iff_exists.mp
    ((Ledger.own_run_registrations_isSome hasShared users u).mpr h)
  rw [Ledger.run_append, Ledger.own_run (not_registers_of_perm hw u)]
  exact ⟨_, by rw [hi, Option.map_some]⟩

/-- The users' own documents hold exactly the entries they accepted, each once. -/
theorem ownRecords_perm (hw : writes.Perm (tests.flatMap FinishedTest.writes)) {c : Collection}
    (h : Refines c ((Ledger.start hasShared).run (registrations users ++ writes))) :
    (ownRecords c).Perm (acceptedOwn users tests).eraseDups := by
  have hnodup : (ownRecords c).Nodup := h.nodup_ownRecords fun u info hi => by
    rw [(own_run_tests_iff hw hi).2]
    exact UnionList.nodup_eraseDups _
  rw [List.perm_ext_iff_of_nodup hnodup (UnionList.nodup_eraseDups _)]
  intro x
  rw [h.mem_ownRecords, List.mem_eraseDups, acceptedOwn, List.mem_map]
  constructor
  · rintro ⟨u, info, r, hi, hr, hne, rfl⟩
    obtain ⟨hu, e⟩ := own_run_tests_iff hw hi
    rw [e, List.mem_eraseDups, List.mem_cons] at hr
    obtain ⟨t, ht, ha, rfl, rfl⟩ := (mem_ownTest_iff hw).mp (hr.resolve_left hne)
    exact ⟨t, List.mem_filter.mpr ⟨ht, by simp [ha, hu]⟩, rfl⟩
  · rintro ⟨t, ht, rfl⟩
    obtain ⟨ht, ha⟩ := List.mem_filter.mp ht
    rw [Bool.and_eq_true] at ha
    obtain ⟨info, hi⟩ := own_run_tests_isSome hasShared hw ha.2
    refine ⟨t.uid, info, ⟨t.ownDate.iso8601withFractionalSeconds, t.testScore⟩, hi, ?_, ?_, rfl⟩
    · rw [(own_run_tests_iff hw hi).2, List.mem_eraseDups]
      exact List.mem_cons_of_mem _ ((mem_ownTest_iff hw).mpr ⟨t, ht, ha.1, rfl, rfl⟩)
    · rw [placeholder, ne_eq, TestResult.mk.injEq]
      exact fun e => t.ownDate.iso8601_ne_empty e.1

/-- The shared document holds exactly the entries it accepted, each once. -/
theorem sharedRecords_perm (hw : writes.Perm (tests.flatMap FinishedTest.writes)) {c : Collection}
    (h : Refines c ((Ledger.start hasShared).run (registrations users ++ writes))) :
    (sharedRecords c).Perm (acceptedShared hasShared tests).eraseDups := by
  have hshared : ((Ledger.start hasShared).run (registrations users ++ writes)).shared =
      if hasShared then some ⟨(writes.filterMap StoreEvent.sharedTest).eraseDups⟩ else none := by
    rw [Ledger.run_append, Ledger.shared_run,
      Ledger.shared_run_registrations]
    cases hasShared with
    | false => rfl
    | true =>
      exact congrArg (fun l => some (AllTestResult.mk l))
        (UnionList.foldl_addNew [] (writes.filterMap StoreEvent.sharedTest))
  have hinj : Function.Injective fun r : TestResultWithUid =>
      Entry.mk r.testUid r.testDate r.testScore := by
    rintro ⟨d₁, s₁, u₁⟩ ⟨d₂, s₂, u₂⟩ e
    cases e
    rfl
  rw [h.sharedRecords_eq, hshared]
  cases hasShared with
  | false => simp [acceptedShared]
  | true =>
    have hnodup := (UnionList.nodup_eraseDups (writes.filterMap StoreEvent.sharedTest)).map hinj
    rw [if_pos rfl, Option.elim_some, List.perm_ext_iff_of_nodup hnodup
      (UnionList.nodup_eraseDups _)]
    intro x
    simp only [List.mem_map, List.mem_eraseDups, mem_sharedTest_iff hw, acceptedShared,
      List.mem_filter, Bool.and_true]
    constructor
    · rintro ⟨r, ⟨t, ht, ha, rfl⟩, rfl⟩
      exact ⟨t, ⟨ht, ha⟩, rfl⟩
    · rintro ⟨t, ⟨ht, ha⟩, rfl⟩
      exact ⟨_, ⟨t, ht, ha, rfl⟩, rfl⟩

/-- If each test has both of its writes taken or both not, and its two clock readings in the same
whole second, the two stores accept the same entries. -/
lemma acceptedOwn_eq_acceptedShared
    (h : ∀ t ∈ tests, (t.ownAccepted && isRegistered users t.uid) =
        (t.sharedAccepted && hasShared) ∧ t.ownDate.seconds = t.sharedDate.seconds) :
    acceptedOwn users tests = acceptedShared hasShared tests := by
  rw [acceptedOwn, acceptedShared, List.filter_congr fun t ht => (h t ht).1]
  refine List.map_congr_left fun t ht => ?_
  rw [FinishedTest.ownEntry, FinishedTest.sharedEntry,
    Date.iso8601_eq_of_seconds (h t (List.mem_of_mem_filter ht)).2]

/-- After any registrations and any finished tests, in whatever order the backend applies the
requests of the tests: each store holds the entries it accepted, each exactly once, and the stores
agree exactly when they accepted the same entries. -/
theorem stores_agree_iff (users : List (Uid × RegisterForm)) (hasShared : Bool)
    (tests : List FinishedTest) (writes : List StoreEvent)
    (hw : writes.Perm (tests.flatMap FinishedTest.writes)) :
    ∃ c, (Collection.start hasShared).run (registrations users ++ writes) = some c ∧
      (ownRecords c).Perm (acceptedOwn users tests).eraseDups ∧
      (sharedRecords c).Perm (acceptedShared hasShared tests).eraseDups ∧
      (∀ x ∈ acceptedOwn users tests, (ownRecords c).count x = 1) ∧
      (∀ x ∈ acceptedShared hasShared tests, (sharedRecords c).count x = 1) ∧
      ((ownRecords c).Perm (sharedRecords c) ↔
        ∀ x, x ∈ acceptedOwn users tests ↔ x ∈ acceptedShared hasShared tests) ∧
      ((∀ t ∈ tests, (t.ownAccepted && isRegistered users t.uid) =
          (t.sharedAccepted && hasShared) ∧ t.ownDate.seconds = t.sharedDate.seconds) →
        (ownRecords c).Perm (sharedRecords c)) := by
  obtain ⟨c, hc, h⟩ := (Refines.start hasShared).run (registrations users ++ writes)
  have ho := ownRecords_perm hw h
  have hs := sharedRecords_perm hw h
  have hiff : (ownRecords c).Perm (sharedRecords c) ↔
      ∀ x, x ∈ acceptedOwn users tests ↔ x ∈ acceptedShared hasShared tests := by
    rw [← UnionList.eraseDups_perm_iff]
    exact ⟨fun e => ho.symm.trans (e.trans hs), fun e => ho.trans (e.trans hs.symm)⟩
  refine ⟨c, hc, ho, hs, ?_, ?_, hiff, ?_⟩
  · intro x hx
    rw [ho.count_eq]
    exact List.count_eq_one_of_mem (UnionList.nodup_eraseDups _) (List.mem_eraseDups.mpr hx)
  · intro x hx
    rw [hs.count_eq]
    exact List.count_eq_one_of_mem (UnionList.nodup_eraseDups _) (List.mem_eraseDups.mpr hx)
  · intro hagree
    rw [hiff, acceptedOwn_eq_acceptedShared hagree]
    exact fun _ => Iff.rfl

/-- Two users whose writes overlap: each test is recorded in both stores. -/
theorem stores_agree_iff_overlapping :
    ∃ c, (Collection.start true).run
        (registrations [(.letter 'a' rfl, .filledIn "a@x" "secret" "Male" "Junior" "Education"),
            (.letter 'b' rfl, .filledIn "b@x" "secret" "Female" "Senior" "Nursing")] ++
          [.updateTestScore (.letter 'a' rfl) [1, 2] "1970-01-01T00:00:07Z" true,
            .updateTestScore (.letter 'b' rfl) [3, 4] "1970-01-01T00:00:07Z" true,
            .updateAllTestScore (.letter 'b' rfl) [3, 4] "1970-01-01T00:00:07Z" true,
            .updateAllTestScore (.letter 'a' rfl) [1, 2] "1970-01-01T00:00:07Z" true]) = some c ∧
      (ownRecords c).Perm (sharedRecords c) := by
  obtain ⟨c, hc, -, -, -, -, -, h⟩ := stores_agree_iff
    [(.letter 'a' rfl, .filledIn "a@x" "secret" "Male" "Junior" "Education"),
      (.letter 'b' rfl, .filledIn "b@x" "secret" "Female" "Senior" "Nursing")] true
    [⟨.letter 'a' rfl, [1, 2], ⟨7, 0⟩, ⟨7, 250000000⟩, true, true⟩,
      ⟨.letter 'b' rfl, [3, 4], ⟨7, 500000000⟩, ⟨7, 750000000⟩, true, true⟩]
    [.updateTestScore (.letter 'a' rfl) [1, 2] "1970-01-01T00:00:07Z" true,
      .updateTestScore (.letter 'b' rfl) [3, 4] "1970-01-01T00:00:07Z" true,
      .updateAllTestScore (.letter 'b' rfl) [3, 4] "1970-01-01T00:00:07Z" true,
      .updateAllTestScore (.letter 'a' rfl) [1, 2] "1970-01-01T00:00:07Z" true] (by decide)
  exact ⟨c, hc, h (by decide)⟩

/-- The stores do not always agree: here the two clock readings of the only test are half a second
apart, and in different whole seconds. -/
theorem stores_disagree :
    ¬ ∀ (users : List (Uid × RegisterForm)) (hasShared : Bool) (tests : List FinishedTest)
        (writes : List StoreEvent) (c : Collection),
      writes.Perm (tests.flatMap FinishedTest.writes) →
        (Collection.start hasShared).run (registrations users ++ writes) = some c →
          (ownRecords c).Perm (sharedRecords c) := by
  intro h
  let user := (Uid.letter 'a' rfl, RegisterForm.filledIn "a@x" "secret" "Male" "Junior" "Education")
  let test : FinishedTest := ⟨.letter 'a' rfl, [1, 2], ⟨6, 500000000⟩, ⟨7, 0⟩, true, true⟩
  have hrun : ((Collection.start true).run (registrations [user] ++ test.writes)).map
      (fun c => decide ((ownRecords c).Perm (sharedRecords c))) = some false := by decide
  obtain ⟨c, hc, hd⟩ := Option.map_eq_some_iff.mp hrun
  exact of_decide_eq_false hd (h [user] true [test] test.writes c (by decide) hc)

end

end Soliu
