import Soliu.Basic.Slice
import Soliu.Firestore.Extension
import Soliu.Records.Ledger

/-!
# What the readers accept

A document is read as a record exactly if it holds at least what the record is written as, with
integers or doubles as its numbers (`decodes_iff_extends`), so fields that the application does not
know change nothing. Whatever
documents there are at first, as long as they can be read: no write makes one unreadable, and every
result that has been read stays (`documents_stay_readable`).
-/

namespace Soliu

open Value

/-! ## Exactly the documents that extend a record -/

/-- What `TestResult` is decoded from: its encoding, with any further fields. -/
lemma TestResult.reads : DecodesExactly TestResult.decode TestResult.encode := by
  refine DecodesExactly.map fun fs r => ?_
  have hdate := DecodesExactly.string.field fs "testDate" r.testDate
  have hscore := DecodesExactly.integer.array.field fs "testScore" r.testScore
  simp only [ExtendsFields, and_true, ← hdate, ← hscore]
  constructor
  · intro h
    obtain ⟨testDate, hd, h⟩ := Option.bind_eq_some_iff.mp h
    obtain ⟨testScore, hs, h⟩ := Option.bind_eq_some_iff.mp h
    cases h
    exact ⟨hd, hs⟩
  · rintro ⟨hd, hs⟩
    rw [hd, hs]
    rfl

/-- What `TestResultWithUid` is decoded from: its encoding, with any further fields. -/
lemma TestResultWithUid.reads :
    DecodesExactly TestResultWithUid.decode TestResultWithUid.encode := by
  refine DecodesExactly.map fun fs r => ?_
  have hdate := DecodesExactly.string.field fs "testDate" r.testDate
  have hscore := DecodesExactly.integer.array.field fs "testScore" r.testScore
  have huid := DecodesExactly.string.field fs "testUid" r.testUid
  simp only [ExtendsFields, and_true, ← hdate, ← hscore, ← huid]
  constructor
  · intro h
    obtain ⟨testDate, hd, h⟩ := Option.bind_eq_some_iff.mp h
    obtain ⟨testScore, hs, h⟩ := Option.bind_eq_some_iff.mp h
    obtain ⟨testUid, hu, h⟩ := Option.bind_eq_some_iff.mp h
    cases h
    exact ⟨hd, hs, hu⟩
  · rintro ⟨hd, hs, hu⟩
    rw [hd, hs, hu]
    rfl

/-- The two documents that the profile reads are decoded to a record if and only if they hold at
least what the record is encoded as, at any depth, where an answer may also be held as the double of
the same value. -/
theorem decodes_iff_extends :
    (∀ d info, TestInformation.decode d = some info ↔ ExtendsFields d info.encode) ∧
      ∀ d all, AllTestResult.decode d = some all ↔ ExtendsFields d all.encode := by
  constructor
  · intro d info
    have hgender := DecodesExactly.string.field d "gender" info.gender
    have hgrade := DecodesExactly.string.field d "grade" info.grade
    have hmajor := DecodesExactly.string.field d "major" info.major
    have hresult := TestResult.reads.array.field d "testResult" info.testResult
    simp only [TestInformation.encode, ExtendsFields, and_true, ← hgender, ← hgrade, ← hmajor,
      ← hresult]
    constructor
    · intro h
      obtain ⟨gender, hg, h⟩ := Option.bind_eq_some_iff.mp h
      obtain ⟨grade, hr, h⟩ := Option.bind_eq_some_iff.mp h
      obtain ⟨major, hm, h⟩ := Option.bind_eq_some_iff.mp h
      obtain ⟨testResult, ht, h⟩ := Option.bind_eq_some_iff.mp h
      cases h
      exact ⟨hg, hr, hm, ht⟩
    · rintro ⟨hg, hr, hm, ht⟩
      rw [TestInformation.decode, hg, hr, hm, ht]
      rfl
  · intro d all
    have hresult := TestResultWithUid.reads.array.field d "testResult" all.testResult
    simp only [AllTestResult.encode, ExtendsFields, and_true, ← hresult]
    constructor
    · intro h
      obtain ⟨testResult, ht, h⟩ := Option.bind_eq_some_iff.mp h
      cases h
      exact ht
    · intro ht
      rw [AllTestResult.decode, ht]
      rfl

/-! ## No write makes a document unreadable -/

/-- A value of the array gives an element of the decoded list. -/
lemma mem_of_mapM {α : Type} {decode : Value → Option α} {vs : List Value} {as : List α}
    (hvs : vs.mapM decode = some as) {v : Value} {a : α} (hv : v ∈ vs) (ha : decode v = some a) :
    a ∈ as := by
  induction vs generalizing as with
  | nil => cases hv
  | cons w vs ih =>
    obtain ⟨b, bs, hb, hbs, rfl⟩ := DecodesExactly.mapM_cons_iff.mp hvs
    obtain rfl | hv := List.mem_cons.mp hv
    · cases ha.symm.trans hb
      exact List.mem_cons_self
    · exact List.mem_cons_of_mem _ (ih hbs hv)

/-- A union with an encoded element: the array is decoded to the same list or to one element more,
and the element is in it. -/
lemma decode_addNew {α : Type} {decode : Value → Option α} {encode : α → Value}
    (hdecode : ∀ a, decode (encode a) = some a) {vs : List Value} {as : List α}
    (hvs : vs.mapM decode = some as) (a : α) :
    ∃ new, (UnionList.addNew vs (encode a)).mapM decode = some (as ++ new) ∧
      (∀ b ∈ new, b = a) ∧ a ∈ as ++ new := by
  by_cases h : encode a ∈ vs
  · refine ⟨[], by rw [UnionList.addNew_of_mem h, List.append_nil, hvs], nofun, ?_⟩
    rw [List.append_nil]
    exact mem_of_mapM hvs h (hdecode a)
  · refine ⟨[a], ?_, fun b hb => List.mem_singleton.mp hb, List.mem_concat_self⟩
    rw [UnionList.addNew_of_not_mem h, List.mapM_append, hvs]
    simp [hdecode]

/-- Both kinds of documents, where they exist, can be read. -/
structure Collection.IsReadable (c : Collection) : Prop where
  own : ∀ u : Uid, (dataAs TestInformation.decode (c.lookup u.val)).isSome
  shared : (dataAs AllTestResult.decode (c.lookup allTestScore)).isSome

/-- The user's document is read as this record. -/
def Collection.OwnIs (c : Collection) (u : Uid) (info : TestInformation) : Prop :=
  ∃ d, c.lookup u.val = some d ∧ TestInformation.decode d = some info

/-- The shared document is read as these results. -/
def Collection.SharedIs (c : Collection) (all : AllTestResult) : Prop :=
  ∃ d, c.lookup allTestScore = some d ∧ AllTestResult.decode d = some all

/-- The array of a decoded document, and the union with one more element. -/
lemma decode_arrayUnion {α : Type} {decode : Value → Option α} {encode : α → Value}
    (hdecode : ∀ a, decode (encode a) = some a) {d : Document} {as : List α}
    (h : d.decode "testResult" (decodeArray decode) = some as) (a : α) :
    ∃ new, decodeArray decode (arrayUnion (List.lookup "testResult" d) [encode a]) =
        some (as ++ new) ∧ (∀ b ∈ new, b = a) ∧ a ∈ as ++ new := by
  obtain ⟨v, hv, h⟩ := Option.bind_eq_some_iff.mp h
  cases v with
  | array vs =>
    rw [hv]
    exact decode_addNew hdecode h a
  | null | boolean | integer | double | timestamp | string | bytes | reference | geoPoint | map =>
    cases h

/-- Decoding a field after an insertion. -/
lemma Fields.decode_insert {α : Type} {fs : Fields} {key k : String} {v : Value}
    {decode : Value → Option α} :
    (fs.insert key v).decode k decode = if k = key then decode v else fs.decode k decode := by
  rw [Fields.decode, Fields.lookup_insert]
  split <;> rfl

/-- An array union with a result adds it to the record decoded, if it is new, and nothing else. -/
lemma TestInformation.decode_insert {d : Document} {info : TestInformation}
    (h : decode d = some info) (r : TestResult) :
    ∃ new, decode (d.insert "testResult" (arrayUnion (List.lookup "testResult" d) [r.encode])) =
        some { info with testResult := info.testResult ++ new } ∧
      (∀ b ∈ new, b = r) ∧ r ∈ info.testResult ++ new := by
  obtain ⟨gender, hg, h⟩ := Option.bind_eq_some_iff.mp h
  obtain ⟨grade, hr, h⟩ := Option.bind_eq_some_iff.mp h
  obtain ⟨major, hm, h⟩ := Option.bind_eq_some_iff.mp h
  obtain ⟨testResult, ht, h⟩ := Option.bind_eq_some_iff.mp h
  cases h
  obtain ⟨new, hnew, hrest⟩ := decode_arrayUnion TestResult.decode_encode ht r
  refine ⟨new, ?_, hrest⟩
  rw [decode, Fields.decode_insert, Fields.decode_insert, Fields.decode_insert,
    Fields.decode_insert, if_neg (by decide), if_neg (by decide), if_neg (by decide), if_pos rfl,
    hg, hr, hm, hnew]
  rfl

/-- An array union with a shared result adds it to the results decoded, if it is new. -/
lemma AllTestResult.decode_insert {d : Document} {all : AllTestResult}
    (h : decode d = some all) (r : TestResultWithUid) :
    ∃ new, decode (d.insert "testResult" (arrayUnion (List.lookup "testResult" d) [r.encode])) =
        some ⟨all.testResult ++ new⟩ ∧
      (∀ b ∈ new, b = r) ∧ r ∈ all.testResult ++ new := by
  obtain ⟨testResult, ht, h⟩ := Option.bind_eq_some_iff.mp h
  cases h
  obtain ⟨new, hnew, hrest⟩ := decode_arrayUnion TestResultWithUid.decode_encode ht r
  refine ⟨new, ?_, hrest⟩
  rw [decode, Fields.decode_insert, if_pos rfl, hnew]
  rfl

namespace Collection

variable {c c' : Collection} {e : StoreEvent} {es : List StoreEvent} {u : Uid}
  {info : TestInformation} {all : AllTestResult}

/-- One write: an accepted one of each of the three kinds, or none that changes anything. -/
lemma step_cases (hs : c.step e = some c') :
    (∃ uid form info, e = .writeData uid form true ∧ form.profile = some info ∧
        c' = (Request.setData uid.val info.encode).submit true c) ∨
      (∃ uid testScore dateString, e = .updateTestScore uid testScore dateString true ∧
        c' = (Request.updateData uid.val "testResult"
          [TestResult.encode ⟨dateString, testScore⟩]).submit true c) ∨
      (∃ uid testScore dateString, e = .updateAllTestScore uid testScore dateString true ∧
        c' = (Request.updateData allTestScore "testResult"
          [TestResultWithUid.encode ⟨dateString, testScore, uid.val⟩]).submit true c) ∨
      (c' = c ∧ (∀ u, e.registers u = false) ∧ (∀ u, e.ownTest u = none) ∧
        e.sharedTest = none) := by
  cases e with
  | writeData uid form accepted =>
    rw [step, StoreEvent.requests, RegisterForm.writeData_eq] at hs
    cases hp : form.profile with
    | none =>
      rw [hp] at hs
      cases hs
      refine .inr (.inr (.inr ⟨rfl, fun u => ?_, fun _ => rfl, rfl⟩))
      cases accepted with
      | false => rfl
      | true => rw [StoreEvent.registers, hp, Option.isSome_none, Bool.and_false]
    | some info =>
      rw [hp] at hs
      cases hs
      cases accepted with
      | false => exact .inr (.inr (.inr ⟨rfl, fun _ => rfl, fun _ => rfl, rfl⟩))
      | true => exact .inl ⟨uid, form, info, rfl, hp, rfl⟩
  | updateTestScore uid testScore dateString accepted =>
    rw [step, StoreEvent.requests, SupportFirebase.testScoreRequest_eq _ uid.nonempty] at hs
    cases hs
    cases accepted with
    | false => exact .inr (.inr (.inr ⟨rfl, fun _ => rfl, fun _ => rfl, rfl⟩))
    | true => exact .inr (.inl ⟨uid, testScore, dateString, rfl, rfl⟩)
  | updateAllTestScore uid testScore dateString accepted =>
    rw [step, StoreEvent.requests, SupportFirebase.allTestScoreRequest_eq] at hs
    cases hs
    cases accepted with
    | false => exact .inr (.inr (.inr ⟨rfl, fun _ => rfl, fun _ => rfl, rfl⟩))
    | true => exact .inr (.inr (.inl ⟨uid, testScore, dateString, rfl, rfl⟩))

/-- One write that does not register the user: the user's record keeps its results. -/
lemma OwnIs.step (h : c.OwnIs u info) (he : ¬ e.registers u) (hs : c.step e = some c') :
    ∃ new, c'.OwnIs u { info with testResult := info.testResult ++ new } ∧
      (∀ r ∈ new, e.ownTest u = some r) ∧
      ∀ r, e.ownTest u = some r → r ∈ info.testResult ++ new := by
  obtain ⟨d, hd, hdecode⟩ := h
  -- a write to another document
  have hother : ∀ path, path ≠ u.val → ∀ r : Request, r.path = path →
      c' = r.submit true c → e.ownTest u = none →
      ∃ new, c'.OwnIs u { info with testResult := info.testResult ++ new } ∧
        (∀ r ∈ new, e.ownTest u = some r) ∧
        ∀ r, e.ownTest u = some r → r ∈ info.testResult ++ new := by
    rintro path hpath r rfl rfl hnone
    refine ⟨[], ⟨d, ?_, ?_⟩, nofun, fun r hr => absurd (hnone.symm.trans hr) nofun⟩
    · rw [Request.lookup_submit_of_ne hpath.symm, hd]
    · rw [List.append_nil]
      exact hdecode
  obtain ⟨uid, form, info', rfl, hp, rfl⟩ | ⟨uid, testScore, dateString, rfl, rfl⟩ |
    ⟨uid, testScore, dateString, rfl, rfl⟩ | ⟨rfl, -, hown, -⟩ := step_cases hs
  · refine hother uid.val (fun hu => he ?_) _ rfl rfl rfl
    rw [StoreEvent.registers, decide_eq_true (Uid.ext_val hu), hp]
    rfl
  · by_cases hu : uid = u
    · subst hu
      obtain ⟨new, hnew, hr, hmem⟩ :=
        TestInformation.decode_insert hdecode ⟨dateString, testScore⟩
      have hown : StoreEvent.ownTest uid (.updateTestScore uid testScore dateString true) =
          some ⟨dateString, testScore⟩ := if_pos rfl
      refine ⟨new, ⟨_, Request.lookup_submit_updateData hd, hnew⟩, fun r h => ?_, fun r h => ?_⟩
      · rw [hown, hr r h]
      · cases hown.symm.trans h
        exact hmem
    · exact hother uid.val (fun h => hu (Uid.ext_val h)) _ rfl rfl (if_neg hu)
  · exact hother allTestScore u.val_ne_allTestScore.symm _ rfl rfl rfl
  · refine ⟨[], ⟨d, hd, ?_⟩, nofun, fun r hr => absurd ((hown u).symm.trans hr) nofun⟩
    rw [List.append_nil]
    exact hdecode

/-- An event adds at most its own shared result to the shared results read. -/
lemma SharedIs.step (h : c.SharedIs all) (hs : c.step e = some c') :
    ∃ new, c'.SharedIs ⟨all.testResult ++ new⟩ ∧ (∀ r ∈ new, e.sharedTest = some r) ∧
      ∀ r, e.sharedTest = some r → r ∈ all.testResult ++ new := by
  obtain ⟨d, hd, hdecode⟩ := h
  have hother : ∀ uid : Uid, ∀ r : Request, r.path = uid.val → c' = r.submit true c →
      e.sharedTest = none → ∃ new, c'.SharedIs ⟨all.testResult ++ new⟩ ∧
        (∀ r ∈ new, e.sharedTest = some r) ∧
        ∀ r, e.sharedTest = some r → r ∈ all.testResult ++ new := by
    rintro uid r hpath rfl hnone
    refine ⟨[], ⟨d, ?_, ?_⟩, nofun, fun r hr => absurd (hnone.symm.trans hr) nofun⟩
    · rw [Request.lookup_submit_of_ne (hpath ▸ uid.val_ne_allTestScore.symm), hd]
    · rw [List.append_nil]
      exact hdecode
  obtain ⟨uid, form, info', rfl, hp, rfl⟩ | ⟨uid, testScore, dateString, rfl, rfl⟩ |
    ⟨uid, testScore, dateString, rfl, rfl⟩ | ⟨rfl, -, -, hshared⟩ := step_cases hs
  · exact hother uid _ rfl rfl rfl
  · exact hother uid _ rfl rfl rfl
  · obtain ⟨new, hnew, hr, hmem⟩ :=
      AllTestResult.decode_insert hdecode ⟨dateString, testScore, uid.val⟩
    refine ⟨new, ⟨_, Request.lookup_submit_updateData hd, hnew⟩, fun r h => ?_, fun r h => ?_⟩
    · rw [hr r h]
      rfl
    · cases h
      exact hmem
  · refine ⟨[], ⟨d, hd, ?_⟩, nofun, fun r hr => absurd (hshared.symm.trans hr) nofun⟩
    rw [List.append_nil]
    exact hdecode

/-- A missing document stays missing until its user registers, and then it can be read. -/
lemma own_step_of_none (hn : c.lookup u.val = none) (hs : c.step e = some c') :
    c'.lookup u.val = none ∨ ∃ info, c'.OwnIs u info := by
  obtain ⟨uid, form, info, rfl, hp, rfl⟩ | ⟨uid, testScore, dateString, rfl, rfl⟩ |
    ⟨uid, testScore, dateString, rfl, rfl⟩ | ⟨rfl, -, -, -⟩ := step_cases hs
  · by_cases hu : uid = u
    · subst hu
      exact .inr ⟨info, _, Request.lookup_submit_setData, TestInformation.decode_encode info⟩
    · refine .inl ?_
      rw [Request.lookup_submit_of_ne (fun (h : u.val = uid.val) => hu (Uid.ext_val h.symm)), hn]
  · refine .inl ?_
    by_cases hu : uid = u
    · subst hu
      rw [Request.submit_updateData_of_none hn, hn]
    · rw [Request.lookup_submit_of_ne (fun (h : u.val = uid.val) => hu (Uid.ext_val h.symm)), hn]
  · refine .inl ?_
    rw [Request.lookup_submit_of_ne u.val_ne_allTestScore, hn]
  · exact .inl hn

/-- After a registration the user's document can be read. -/
lemma ownIs_of_registers (he : e.registers u) (hs : c.step e = some c') :
    ∃ info, c'.OwnIs u info := by
  obtain ⟨uid, form, info, rfl, hp, rfl⟩ | ⟨uid, testScore, dateString, rfl, rfl⟩ |
    ⟨uid, testScore, dateString, rfl, rfl⟩ | ⟨rfl, hr, -, -⟩ := step_cases hs
  · rw [StoreEvent.registers, Bool.and_eq_true, decide_eq_true_eq] at he
    obtain ⟨rfl, -⟩ := he
    exact ⟨info, _, Request.lookup_submit_setData, TestInformation.decode_encode info⟩
  · cases he
  · cases he
  · rw [hr u] at he
    cases he

/-- An event does not create the shared document. -/
lemma shared_step_of_none (hn : c.lookup allTestScore = none) (hs : c.step e = some c') :
    c'.lookup allTestScore = none := by
  have hother : ∀ uid : Uid, ∀ r : Request, r.path = uid.val →
      (r.submit true c).lookup allTestScore = none := fun uid r hr => by
    rw [Request.lookup_submit_of_ne (hr ▸ uid.val_ne_allTestScore.symm), hn]
  obtain ⟨uid, form, info, rfl, hp, rfl⟩ | ⟨uid, testScore, dateString, rfl, rfl⟩ |
    ⟨uid, testScore, dateString, rfl, rfl⟩ | ⟨rfl, -, -, -⟩ := step_cases hs
  · exact hother uid _ rfl
  · exact hother uid _ rfl
  · rw [Request.submit_updateData_of_none hn, hn]
  · exact hn

/-- In a readable collection a user's document does not exist or is read as a record. -/
lemma ownIs_or_none (h : c.IsReadable) (u : Uid) :
    c.lookup u.val = none ∨ ∃ info, c.OwnIs u info := by
  have hu := h.own u
  cases hd : c.lookup u.val with
  | none => exact .inl rfl
  | some d =>
    rw [hd, dataAs, Option.isSome_map] at hu
    obtain ⟨info, hinfo⟩ := Option.isSome_iff_exists.mp hu
    exact .inr ⟨info, d, hd, hinfo⟩

/-- An event keeps the collection readable. -/
lemma IsReadable.step (h : c.IsReadable) (hs : c.step e = some c') : c'.IsReadable := by
  constructor
  · intro u
    have hown : c'.lookup u.val = none ∨ ∃ info, c'.OwnIs u info := by
      by_cases he : e.registers u
      · exact .inr (ownIs_of_registers he hs)
      · obtain hn | ⟨info, hinfo⟩ := ownIs_or_none h u
        · exact own_step_of_none hn hs
        · obtain ⟨new, hnew, -⟩ := hinfo.step he hs
          exact .inr ⟨_, hnew⟩
    obtain hn | ⟨info, d, hd, hinfo⟩ := hown
    · rw [hn]
      rfl
    · rw [hd, dataAs, hinfo]
      rfl
  · have hshared := h.shared
    cases hd : c.lookup allTestScore with
    | none =>
      rw [shared_step_of_none hd hs]
      rfl
    | some d =>
      rw [hd, dataAs, Option.isSome_map] at hshared
      obtain ⟨all, hall⟩ := Option.isSome_iff_exists.mp hshared
      obtain ⟨new, ⟨d', hd', hdecode⟩, -⟩ := SharedIs.step ⟨d, hd, hall⟩ hs
      rw [hd', dataAs, hdecode]
      rfl

/-- A list that every write leaves as it is, or extends by what the write brings: after a run it is
extended by some of what the run has brought, and has all of that. -/
lemma grows_of_run {α : Type} {P : Collection → List α → Prop} {bring : StoreEvent → Option α}
    {Q : StoreEvent → Prop}
    (hstep : ∀ {c e c' as}, P c as → Q e → c.step e = some c' → ∃ new, P c' (as ++ new) ∧
      (∀ a ∈ new, bring e = some a) ∧ ∀ a, bring e = some a → a ∈ as ++ new)
    {as : List α} (h : P c as) (hes : ∀ e ∈ es, Q e) (hr : c.run es = some c') :
    ∃ new, P c' (as ++ new) ∧ (∀ a ∈ new, a ∈ es.filterMap bring) ∧
      ∀ a ∈ es.filterMap bring, a ∈ as ++ new := by
  induction es generalizing c as with
  | nil =>
    cases hr
    exact ⟨[], by rwa [List.append_nil], nofun, nofun⟩
  | cons e es ih =>
    rw [List.forall_mem_cons] at hes
    obtain ⟨c₁, hs, hr⟩ := Option.bind_eq_some_iff.mp (List.foldlM_cons.symm.trans hr)
    obtain ⟨new₁, h₁, hnew₁, hmem₁⟩ := hstep h hes.1 hs
    obtain ⟨new₂, h₂, hnew₂, hmem₂⟩ := ih h₁ hes.2 hr
    refine ⟨new₁ ++ new₂, by rwa [← List.append_assoc], ?_, ?_⟩
    · refine List.forall_mem_append.mpr ⟨fun a ha => ?_, fun a ha => ?_⟩
      · exact List.mem_filterMap.mpr ⟨e, List.mem_cons_self, hnew₁ a ha⟩
      · obtain ⟨e', he', ha'⟩ := List.mem_filterMap.mp (hnew₂ a ha)
        exact List.mem_filterMap.mpr ⟨e', List.mem_cons_of_mem _ he', ha'⟩
    · intro a ha
      rw [← List.append_assoc]
      obtain ⟨e', he', ha'⟩ := List.mem_filterMap.mp ha
      obtain rfl | he' := List.mem_cons.mp he'
      · exact List.mem_append_left _ (hmem₁ a ha')
      · exact hmem₂ a (List.mem_filterMap.mpr ⟨e', he', ha'⟩)

end Collection

/-- From any documents that can be read, after any run of writes: all documents can still be read,
the shared one keeps its results and has every one that was accepted since, and so has that of a
user who has not registered again, whatever other fields the documents hold. -/
theorem documents_stay_readable (c c' : Collection) (es : List StoreEvent) (hread : c.IsReadable)
    (hrun : c.run es = some c') :
    c'.IsReadable ∧
      (∀ all, c.SharedIs all → ∃ new, c'.SharedIs ⟨all.testResult ++ new⟩ ∧
        (∀ r ∈ new, r ∈ es.filterMap StoreEvent.sharedTest) ∧
        ∀ r ∈ es.filterMap StoreEvent.sharedTest, r ∈ all.testResult ++ new) ∧
      ∀ u info, c.OwnIs u info → (∀ e ∈ es, ¬ e.registers u) →
        ∃ new, c'.OwnIs u { info with testResult := info.testResult ++ new } ∧
          (∀ r ∈ new, r ∈ es.filterMap (·.ownTest u)) ∧
          ∀ r ∈ es.filterMap (·.ownTest u), r ∈ info.testResult ++ new := by
  refine ⟨?_, fun all hall => ?_, fun u info hinfo hes => ?_⟩
  · exact Slice.foldlM_inv Collection.IsReadable.step hread hrun
  · exact Collection.grows_of_run (P := fun c rs => c.SharedIs ⟨rs⟩) (Q := fun _ => True)
      (fun h _ hs => h.step hs) hall (fun _ _ => trivial) hrun
  · exact Collection.grows_of_run
      (P := fun c rs => c.OwnIs u { info with testResult := rs })
      (fun h he hs => h.step he hs) hinfo hes hrun

/-- Both documents have been changed by others: a field that the application does not know, and an
answer that is held as the double 3.0. -/
theorem documents_stay_readable_foreign_fields :
    ∃ (c c' : Collection) (new : List TestResultWithUid) (newOwn : List TestResult),
      c.run [.updateAllTestScore (.letter 'a' rfl) [1] "2021-06-20T08:00:00Z" true,
        .updateTestScore (.letter 'a' rfl) [1] "2021-06-20T08:00:00Z" true] = some c' ∧
      c'.SharedIs ⟨[⟨"2021-06-19T08:00:00Z", [3], "b"⟩] ++ new⟩ ∧
      ⟨"2021-06-20T08:00:00Z", [1], "a"⟩ ∈ new ∧
      c'.OwnIs (.letter 'a' rfl) ⟨"Female", "Junior", "History",
        [⟨"2021-06-18T08:00:00Z", [3]⟩] ++ newOwn⟩ ∧
      ⟨"2021-06-20T08:00:00Z", [1]⟩ ∈ newOwn := by
  let shared : Document :=
    [("testResult", .array [.map [("testDate", .string "2021-06-19T08:00:00Z"),
        ("testScore", .array [.double 0x4008000000000000]), ("testUid", .string "b")]]),
      ("updated", .timestamp 1624089600 0)]
  let own : Document :=
    [("gender", .string "Female"), ("grade", .string "Junior"), ("home", .geoPoint 44 (-93)),
      ("major", .string "History"), ("testResult", .array [.map
        [("testDate", .string "2021-06-18T08:00:00Z"),
          ("testScore", .array [.double 0x4008000000000000])]])]
  let c : Collection := (AList.singleton allTestScore shared).insert "a" own
  have hread : c.IsReadable := by
    refine ⟨fun u => ?_, by decide +kernel⟩
    by_cases hu : u.val = "a"
    · rw [hu]
      decide +kernel
    · have hnone : c.lookup u.val = none := by
        rw [AList.lookup_insert_ne hu]
        exact AList.lookup_eq_none.mpr fun h =>
          u.val_ne_allTestScore (by simpa [AList.mem_keys] using h)
      rw [hnone]
      rfl
  obtain ⟨-, hshared, hown⟩ := documents_stay_readable c _
    [.updateAllTestScore (.letter 'a' rfl) [1] "2021-06-20T08:00:00Z" true,
      .updateTestScore (.letter 'a' rfl) [1] "2021-06-20T08:00:00Z" true] hread rfl
  obtain ⟨new, hnew, -, hmem⟩ := hshared ⟨[⟨"2021-06-19T08:00:00Z", [3], "b"⟩]⟩
    ⟨shared, rfl, by decide +kernel⟩
  obtain ⟨newOwn, hnewOwn, -, hmemOwn⟩ := hown (.letter 'a' rfl)
    ⟨"Female", "Junior", "History", [⟨"2021-06-18T08:00:00Z", [3]⟩]⟩
    ⟨own, rfl, by decide +kernel⟩ (by decide)
  have hr := (List.mem_append.mp (hmem _ (List.mem_singleton_self _))).resolve_left (by decide)
  have hrOwn :=
    (List.mem_append.mp (hmemOwn _ (List.mem_singleton_self _))).resolve_left (by decide)
  exact ⟨c, _, new, newOwn, rfl, hnew, hr, hnewOwn, hrOwn⟩

end Soliu
