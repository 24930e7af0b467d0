import Soliu.Basic.Network
import Soliu.Records.Ledger
import Soliu.System.Refinement

/-!
# Phones and the backend

Any number of phones and the databases that they write to. The writes of a phone are in flight until
they arrive, in any order, and the backend accepts or refuses each of them. A phone can be started
again at any time. The writes to `userInfo` are kept on the phone until then, those under `newUsers`
only in its memory, so a new start loses them.

A phone sends nothing but parts of sheets and the records of new users, and whole sheets as long as
every touch finds the test (`Phone.isSent_of_step`). What the backend makes of the writes that it
accepts is a run of the ledger (`Backend.refines_foldl`).
-/

namespace Soliu

open TestDetailViewController

/-- The collection `userInfo` and the values under `newUsers`. -/
structure Backend where
  userInfo : Collection
  newUsers : Uid → Option SectionScore

namespace Backend

/-- Nobody has registered, and the shared document has no results. -/
def initial : Backend := ⟨.initial, fun _ => none⟩

/-- An accepted write. -/
def apply (b : Backend) : ResultWrite → Backend
  | .userInfo request => { b with userInfo := request.submit true b.userInfo }
  | .newUsers uid score => { b with newUsers := Function.update b.newUsers uid (some score) }

end Backend

/-- The phones of all users and the backend. -/
abbrev System := Network ℕ Phone ResultWrite Backend

namespace System

/-- A phone that is started again remembers who is signed in, and the writes to `userInfo`. -/
def protocol (bundle : Bundle) (target : SegueTarget) :
    Protocol Phone PhoneEvent ResultWrite Backend where
  machine := Phone.machine bundle target
  restart s := .launch s.navigation.currentUser
  survives
    | .userInfo _ => true
    | .newUsers _ _ => false
  apply := Backend.apply

/-- The system as one machine. -/
def machine (bundle : Bundle) (target : SegueTarget) :
    Machine System (Network.Event ℕ PhoneEvent) (Network.Output ResultWrite) :=
  Network.machine (protocol bundle target)

/-- All phones are started for the first time. -/
def start (currentUsers : ℕ → Option Uid) : System where
  nodes i := .launch (currentUsers i)
  inFlight := []
  store := .initial

/-- In the run, every answer is touched with the test on top. -/
def FindsTests (bundle : Bundle) (target : SegueTarget) (currentUsers : ℕ → Option Uid)
    (es : List (Network.Event ℕ PhoneEvent)) : Prop :=
  (machine bundle target).EachStep (start currentUsers) es
    (Network.Meets fun s e => PhoneEvent.FindsTest s e)

/-- Whether a run finds its tests is decided phone by phone. -/
instance (bundle : Bundle) (target : SegueTarget) (currentUsers : ℕ → Option Uid)
    (es : List (Network.Event ℕ PhoneEvent)) :
    Decidable (FindsTests bundle target currentUsers es) :=
  inferInstanceAs (Decidable (Machine.EachStep _ _ _ (Network.Meets _)))

end System

namespace ResultWrite

/-- The score that a write puts under `newUsers` for the user. -/
def uploadedScore (uid : Uid) : ResultWrite → Option SectionScore
  | newUsers uid' score => if uid' = uid then some score else none
  | _ => none

/-- The write replaces the user's own document. -/
def registers (uid : Uid) : ResultWrite → Bool
  | userInfo (.setData path _) => path = uid.val
  | _ => false

/-- The writes that a phone sends off: the record of a complete form, answers with the property `P`
for the user's own document or for the shared one, and the score of a whole sheet. -/
inductive IsSent (n : ℕ) (P : List ℤ → Prop) : ResultWrite → Prop
  | registration (uid : Uid) (form : RegisterForm) (info : TestInformation)
    (h : form.profile = some info) : IsSent n P (.userInfo (.setData uid.val info.encode))
  | own (uid : Uid) (testDate : String) (testScore : List ℤ) (h : P testScore) :
    IsSent n P
      (.userInfo (.updateData uid.val "testResult" [TestResult.encode ⟨testDate, testScore⟩]))
  | shared (uid : Uid) (testDate : String) (testScore : List ℤ) (h : P testScore) :
    IsSent n P (.userInfo (.updateData allTestScore "testResult"
      [TestResultWithUid.encode ⟨testDate, testScore, uid.val⟩]))
  | score (uid : Uid) (testScore : List ℤ) (score : SectionScore) (h : IsWhole n testScore)
    (hscore : TestDetailViewModel.sectionScores (doubles testScore) = some score) :
    IsSent n P (.newUsers uid score)

/-- The user and the answers of a result for an own document. -/
def ownAnswers : ResultWrite → Option (String × List ℤ)
  | userInfo (.updateData path _ [v]) =>
    if path = allTestScore then none else (TestResult.decode v).map fun r => (path, r.testScore)
  | _ => none

/-- The user and the answers of a result for the shared document. -/
def sharedAnswers (w : ResultWrite) : Option (String × List ℤ) :=
  w.sharedResult.map fun r => (r.testUid, r.testScore)

end ResultWrite

/-! ## What a phone sends -/

namespace Phone

open Blocks

variable {bundle : Bundle} {target : SegueTarget} {questions : List TestQuestion} {n : ℕ}
  {as : List ℤ} {s s' : Phone} {e : PhoneEvent} {ws : List ResultWrite}

section

variable (ht : questions[0]?.map (·.totalQuestionNumber) = some (n : ℤ)) (h15 : 15 ≤ n)
include ht h15

/-- What holds of the answers that a touch submits holds of all that is sent. -/
lemma isSent_of_step {P : List ℤ → Prop} (h : s.Shows questions n as) (has : InRange as)
    (hP : ∀ button ownDate sharedDate, e = .touchAnswer button ownDate sharedDate →
      n ≤ as.length + 1 → P (openBlock n as ++ [button.answer]))
    (hs : (machine bundle target).step s e = some (s', ws)) : ∀ w ∈ ws, w.IsSent n P := by
  obtain ⟨e, rfl, -, rfl⟩ | ⟨button, ownDate, sharedDate, rfl, hstep⟩ | ⟨rfl, rfl, rfl⟩ |
    ⟨uid, form, rfl, rfl, rfl⟩ := step_cases hs
  · exact List.forall_mem_nil _
  · obtain ⟨-, ⟨-, -, -, rfl⟩ | ⟨hlast, -, uid, scores, -, -, rfl, hscores⟩⟩ :=
      h.touchAnswer_cases ht h15 hstep
    · exact List.forall_mem_nil _
    · have hblock := hP button ownDate sharedDate rfl hlast
      refine List.forall_mem_append.mpr ⟨?_, ?_⟩
      · rw [ResultWrite.submission, List.forall_mem_cons, List.forall_mem_singleton]
        exact ⟨.own uid _ _ hblock, .shared uid _ _ hblock⟩
      · obtain ⟨-, rfl⟩ | ⟨hfull, score, hscore, rfl⟩ := hscores
        · exact List.forall_mem_nil _
        · refine List.forall_mem_map.mpr fun user _ => .score user _ _ ⟨?_, ?_⟩ hscore
          · rw [List.length_append, length_openBlock, List.length_singleton, hfull]
          · exact (isPart_openBlock has (by omega) button).range
  · exact List.forall_mem_nil _
  · rw [PhoneEvent.registration]
    cases hp : form.profile with
    | none => exact List.forall_mem_nil _
    | some info => exact List.forall_mem_singleton.mpr (.registration uid form info hp)

/-- One step sends off parts of a sheet. -/
lemma isPart_of_step (h : s.Shows questions n as) (has : InRange as)
    (hs : (machine bundle target).step s e = some (s', ws)) : ∀ w ∈ ws, w.IsSent n (IsPart n) :=
  isSent_of_step ht h15 h has (fun button _ _ _ _ => isPart_openBlock has (by omega) button) hs

/-- A touch that finds the test on top submits whole sheets only. -/
lemma isWhole_of_step (h : s.Shows questions n as) (has : InRange as) (hfinds : e.FindsTest s)
    (hs : (machine bundle target).step s e = some (s', ws)) :
    ∀ w ∈ ws, w.IsSent n (IsWhole n) := by
  refine isSent_of_step ht h15 h has (fun button ownDate sharedDate he hlast => ?_) hs
  subst he
  have hlt := h.onTop hfinds.2.1
  refine ⟨?_, (isPart_openBlock has (by omega) button).range⟩
  rw [List.length_append, length_openBlock, List.length_singleton, Nat.mod_eq_of_lt hlt]
  omega

/-- The two writes of a submission are about the same user and the same answers. -/
lemma ownAnswers_eq_sharedAnswers (h : s.Shows questions n as)
    (hs : (machine bundle target).step s e = some (s', ws)) :
    ws.filterMap ResultWrite.ownAnswers = ws.filterMap ResultWrite.sharedAnswers := by
  obtain ⟨e, rfl, -, rfl⟩ | ⟨button, ownDate, sharedDate, rfl, hstep⟩ | ⟨rfl, rfl, rfl⟩ |
    ⟨uid, form, rfl, rfl, rfl⟩ := step_cases hs
  · rfl
  · obtain ⟨-, ⟨-, -, -, rfl⟩ | ⟨-, -, uid, scores, -, -, rfl, hscores⟩⟩ :=
      h.touchAnswer_cases ht h15 hstep
    · rfl
    · rw [List.filterMap_append, List.filterMap_append]
      congr 1
      · simp only [ResultWrite.submission, List.filterMap_cons, List.filterMap_nil,
          ResultWrite.ownAnswers, ResultWrite.sharedAnswers, ResultWrite.sharedResult_own,
          ResultWrite.sharedResult_shared, if_neg uid.val_ne_allTestScore, TestResult.decode_encode,
          Option.map_some, Option.map_none, if_pos]
      · obtain ⟨-, rfl⟩ | ⟨-, score, -, rfl⟩ := hscores
        · rfl
        · rw [List.filterMap_map, List.filterMap_map]
          rfl
  · rfl
  · rw [PhoneEvent.registration]
    cases form.profile <;> rfl

end

/-- What holds of every phone at any time. -/
def IsSound (questions : List TestQuestion) (n : ℕ) (s : Phone) : Prop :=
  ∃ as, s.Shows questions n as ∧ InRange as

/-- The phone is sound at its launch. -/
lemma IsSound.launch (currentUser : Option Uid) : (launch currentUser).IsSound questions n :=
  ⟨[], .launch currentUser, List.forall_mem_nil _⟩

/-- Every step keeps the phone sound. -/
lemma IsSound.step (hload : ∃ vc, viewDidLoad {} bundle 1 = some vc ∧ Tapped questions n [] vc [])
    (ht : questions[0]?.map (·.totalQuestionNumber) = some (n : ℤ)) (h15 : 15 ≤ n)
    (h : s.IsSound questions n) (hs : (machine bundle target).step s e = some (s', ws)) :
    s'.IsSound questions n := by
  obtain ⟨as, hshows, has⟩ := h
  exact ⟨_, hshows.step hload ht h15 hs, PhoneEvent.inRange_answersAfter has⟩

end Phone

/-! ## What the backend holds -/

namespace StoreEvent

/-- All answers that the write brings have the property `P`. -/
structure Brings (P : List ℤ → Prop) (e : StoreEvent) : Prop where
  own : ∀ u r, e.ownTest u = some r → P r.testScore
  shared : ∀ r, e.sharedTest = some r → P r.testScore

end StoreEvent

namespace Backend

variable {n : ℕ} {P : List ℤ → Prop}

/-- An accepted event of one request is that request. -/
lemma step_eq_submit {e : StoreEvent} {r : Request} (hr : e.requests = some [r])
    (ha : e.accepted = true) (c : Collection) : c.step e = some (r.submit true c) := by
  rw [Collection.step, hr, ha]
  rfl

/-- An accepted write is at most one event of the ledger. -/
lemma exists_storeEvents {w : ResultWrite} (hw : w.IsSent n P) :
    ∃ es : List StoreEvent, (∀ b : Backend, b.userInfo.run es = some (b.apply w).userInfo) ∧
      es.filterMap StoreEvent.sharedTest = w.sharedResult.toList ∧
      (∀ u, es.filterMap (·.ownTest u) = (w.ownResult u).toList) ∧
      (∀ u, ¬ w.registers u → ∀ e ∈ es, ¬ e.registers u) ∧ ∀ e ∈ es, e.Brings P := by
  have hone : ∀ (e : StoreEvent) (r : Request), e.requests = some [r] → e.accepted = true →
      ∀ b : Backend, b.userInfo.run [e] = some (b.apply (.userInfo r)).userInfo := by
    intro e r hr ha b
    rw [Collection.run, List.foldlM_cons, step_eq_submit hr ha]
    rfl
  cases hw with
  | registration uid form info h =>
    refine ⟨[.writeData uid form true], hone _ _ ?_ rfl, rfl, fun _ => rfl, fun u hu => ?_, ?_⟩
    · rw [StoreEvent.requests, RegisterForm.writeData_eq, h]
      rfl
    · rw [ResultWrite.registers, decide_eq_true_eq] at hu
      rw [List.forall_mem_singleton, StoreEvent.registers,
        decide_eq_false (mt (congrArg Uid.val) hu)]
      exact Bool.false_ne_true
    · refine List.forall_mem_singleton.mpr ?_
      constructor <;> (intros; contradiction)
  | own uid testDate testScore h =>
    refine ⟨[.updateTestScore uid testScore testDate true], hone _ _ ?_ rfl, ?_, fun u => ?_,
      fun u _ => List.forall_mem_singleton.mpr Bool.false_ne_true, ?_⟩
    · rw [StoreEvent.requests, SupportFirebase.testScoreRequest_eq _ uid.nonempty]
      rfl
    · rw [ResultWrite.sharedResult, if_neg uid.val_ne_allTestScore]
      rfl
    · rw [ResultWrite.ownResult, TestResult.decode_encode, List.filterMap_cons,
        StoreEvent.ownTest]
      by_cases hu : uid = u
      · subst hu
        rw [if_pos rfl, if_pos rfl]
        rfl
      · rw [if_neg hu, if_neg fun h => hu (Uid.ext_val h)]
        rfl
    · refine List.forall_mem_singleton.mpr ⟨fun u r hr => ?_, fun r hr => by cases hr⟩
      rw [StoreEvent.ownTest] at hr
      split at hr <;> cases hr
      exact h
  | shared uid testDate testScore h =>
    refine ⟨[.updateAllTestScore uid testScore testDate true], hone _ _ ?_ rfl, ?_, fun u => ?_,
      fun u _ => List.forall_mem_singleton.mpr Bool.false_ne_true, ?_⟩
    · rw [StoreEvent.requests, SupportFirebase.allTestScoreRequest_eq]
      rfl
    · rw [ResultWrite.sharedResult, if_pos rfl, TestResultWithUid.decode_encode]
      rfl
    · rw [ResultWrite.ownResult, if_neg u.val_ne_allTestScore.symm]
      rfl
    · refine List.forall_mem_singleton.mpr ⟨fun u r hr => (by cases hr), fun r hr => ?_⟩
      cases hr
      exact h
  | score uid testScore score h hscore =>
    exact ⟨[], fun _ => rfl, rfl, fun _ => rfl, fun _ _ => List.forall_mem_nil _,
      List.forall_mem_nil _⟩

/-- What the backend makes of the writes it accepts is what the ledger makes of their events. -/
lemma exists_run {ws : List ResultWrite} (hws : ∀ w ∈ ws, w.IsSent n P) :
    ∃ es : List StoreEvent,
      (∀ b : Backend, b.userInfo.run es = some (ws.foldl apply b).userInfo) ∧
      es.filterMap StoreEvent.sharedTest = ws.filterMap ResultWrite.sharedResult ∧
      (∀ u, es.filterMap (·.ownTest u) = ws.filterMap (·.ownResult u)) ∧
      (∀ u, (∀ w ∈ ws, ¬ w.registers u) → ∀ e ∈ es, ¬ e.registers u) ∧ ∀ e ∈ es, e.Brings P := by
  induction ws with
  | nil =>
    exact ⟨[], fun _ => rfl, rfl, fun _ => rfl, fun _ _ => List.forall_mem_nil _,
      List.forall_mem_nil _⟩
  | cons w ws ih =>
    rw [List.forall_mem_cons] at hws
    obtain ⟨es, hes, hshared, hown, hregisters, hbrings⟩ := exists_storeEvents hws.1
    obtain ⟨fs, hfs, hshared', hown', hregisters', hbrings'⟩ := ih hws.2
    have hcons : ∀ {α : Type} (f : ResultWrite → Option α),
        (w :: ws).filterMap f = (f w).toList ++ ws.filterMap f := by
      intro α f
      rw [List.filterMap_cons]
      cases f w <;> rfl
    refine ⟨es ++ fs, fun b => ?_, ?_, fun u => ?_, fun u hu => ?_,
      List.forall_mem_append.mpr ⟨hbrings, hbrings'⟩⟩
    · have h := hfs (b.apply w)
      have h' := hes b
      rw [Collection.run] at h h' ⊢
      rw [List.foldlM_append, h']
      exact h
    · rw [List.filterMap_append, hcons, hshared, hshared']
    · rw [List.filterMap_append, hcons, hown, hown']
    · rw [List.forall_mem_cons] at hu
      exact List.forall_mem_append.mpr ⟨hregisters u hu.1, hregisters' u hu.2⟩

/-- What the writes leave in the collection is what a run of the store leaves. -/
lemma refines_foldl {ws : List ResultWrite} (hws : ∀ w ∈ ws, w.IsSent n P) :
    ∃ es : List StoreEvent, Refines (ws.foldl apply initial).userInfo (Ledger.initial.run es) ∧
      es.filterMap StoreEvent.sharedTest = ws.filterMap ResultWrite.sharedResult ∧
      (∀ u, es.filterMap (·.ownTest u) = ws.filterMap (·.ownResult u)) ∧
      (∀ u, (∀ w ∈ ws, ¬ w.registers u) → ∀ e ∈ es, ¬ e.registers u) ∧ ∀ e ∈ es, e.Brings P := by
  obtain ⟨es, hes, hrest⟩ := exists_run hws
  obtain ⟨c, hc, hrefines⟩ := Refines.initial.run es
  cases hc.symm.trans (hes initial)
  exact ⟨es, hrefines, hrest⟩

/-- What a user sends for the own document has the property of all answers that are sent. -/
lemma of_mem_ownResult {ws : List ResultWrite} (hws : ∀ w ∈ ws, w.IsSent n P) {u : Uid}
    {r : TestResult} (hr : r ∈ ws.filterMap (ResultWrite.ownResult u)) : P r.testScore := by
  obtain ⟨es, -, -, hown, -, hbrings⟩ := exists_run hws
  rw [← hown] at hr
  obtain ⟨e, he, hr⟩ := List.mem_filterMap.mp hr
  exact (hbrings e he).own u r hr

/-- Every shared result of the writes is one of a sheet. -/
lemma of_mem_sharedResult {ws : List ResultWrite} (hws : ∀ w ∈ ws, w.IsSent n P)
    {r : TestResultWithUid} (hr : r ∈ ws.filterMap ResultWrite.sharedResult) : P r.testScore := by
  obtain ⟨es, -, hshared, -, -, hbrings⟩ := exists_run hws
  rw [← hshared] at hr
  obtain ⟨e, he, hr⟩ := List.mem_filterMap.mp hr
  exact (hbrings e he).shared r hr

/-- Without a registration the user's document stays missing. -/
lemma lookup_own_foldl_of_not_registers {ws : List ResultWrite} (hws : ∀ w ∈ ws, w.IsSent n P)
    {u : Uid} (hu : ∀ w ∈ ws, ¬ w.registers u) :
    (ws.foldl apply initial).userInfo.lookup u.val = none := by
  obtain ⟨es, hrefines, -, -, hregisters, -⟩ := refines_foldl hws
  rw [hrefines.own, Ledger.own_run (hregisters u hu)]
  rfl

/-- After the last registration the document holds the placeholder and every result since, once. -/
lemma lookup_own_foldl_of_registers {pre post : List ResultWrite} {w : ResultWrite}
    (hP : ¬ P []) (hws : ∀ v ∈ pre ++ w :: post, v.IsSent n P) {u : Uid} (hw : w.registers u)
    (hpost : ∀ v ∈ post, ¬ v.registers u) :
    ∃ info : TestInformation, ((pre ++ w :: post).foldl apply initial).userInfo.lookup u.val =
        some info.encode ∧
      w = .userInfo (.setData u.val { info with testResult := [placeholder] }.encode) ∧
      info.testResult = placeholder :: (post.filterMap (ResultWrite.ownResult u)).eraseDups := by
  rw [List.append_cons, List.forall_mem_append] at hws
  obtain ⟨es₁, hrefines, -⟩ := refines_foldl hws.1
  obtain ⟨es₂, hes₂, -, hown, hregisters, -⟩ := exists_run hws.2
  rw [List.append_cons, List.foldl_append]
  generalize hb : (pre ++ [w]).foldl apply initial = b at hrefines ⊢
  obtain ⟨c, hc, hrefines'⟩ := hrefines.run es₂
  cases hc.symm.trans (hes₂ b)
  obtain ⟨info, hinfo, rfl, htest⟩ : ∃ info : TestInformation,
      b.userInfo.lookup u.val = some info.encode ∧ w = .userInfo (.setData u.val info.encode) ∧
        info.testResult = [placeholder] := by
    rw [← hb, List.foldl_append]
    cases (List.forall_mem_append.mp hws.1).2 w (List.mem_singleton_self w) with
    | registration uid form info h =>
      obtain rfl : uid = u := Uid.ext_val (decide_eq_true_iff.mp hw)
      exact ⟨info, Request.lookup_submit_setData, rfl, RegisterForm.testResult_of_profile h⟩
    | own | shared | score => cases hw
  obtain ⟨info', hL, he⟩ := Option.map_eq_some_iff.mp ((hrefines.own u).symm.trans hinfo)
  have heq : info' = info := by
    have h := congrArg TestInformation.decode he
    rw [TestInformation.decode_encode, TestInformation.decode_encode] at h
    exact Option.some.inj h
  rw [hrefines'.own, Ledger.own_run (hregisters u hpost), hL, heq, hown]
  refine ⟨_, rfl, ?_, ?_⟩
  · rw [← htest]
  · -- whatever is sent has answers, which the placeholder has not
    have hne : ∀ r ∈ post.filterMap (ResultWrite.ownResult u), (!r == placeholder) = true := by
      intro r hr
      rw [Bool.not_eq_true', beq_eq_false_iff_ne]
      rintro rfl
      exact hP (of_mem_ownResult hws.2 hr)
    have hfold := UnionList.foldl_addNew [placeholder] (post.filterMap (ResultWrite.ownResult u))
    have hcons : ([placeholder] ++ post.filterMap (ResultWrite.ownResult u)).eraseDups =
        placeholder :: (post.filterMap (ResultWrite.ownResult u)).eraseDups := by
      rw [List.singleton_append, List.eraseDups_cons, List.filter_eq_self.mpr hne]
    exact (congrArg (List.foldl _ · _) htest).trans (hfold.trans hcons)

/-- The value under `newUsers` is the last one written. -/
lemma newUsers_foldl (ws : List ResultWrite) (uid : Uid) :
    (ws.foldl apply initial).newUsers uid = (ws.filterMap (·.uploadedScore uid)).getLast? := by
  induction ws using List.reverseRecOn with
  | nil => rfl
  | append_singleton ws w ih =>
    rw [List.foldl_append, List.filterMap_append, List.foldl_cons, List.foldl_nil,
      List.filterMap_cons, List.filterMap_nil]
    cases w with
    | userInfo request =>
      have hnone : (ResultWrite.userInfo request).uploadedScore uid = none := rfl
      rw [hnone, List.append_nil]
      exact ih
    | newUsers uid' score =>
      rw [ResultWrite.uploadedScore, apply]
      by_cases hu : uid' = uid
      · subst hu
        rw [if_pos rfl, List.getLast?_concat]
        exact Function.update_self ..
      · rw [if_neg hu, List.append_nil, ← ih]
        exact Function.update_of_ne (Ne.symm hu) ..

end Backend

end Soliu
