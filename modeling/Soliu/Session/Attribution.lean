import Soliu.TestScreen.Run

/-!
# Whose results a finished test writes

A finished test writes to three places. Two of the writes take the uid from the shared object
`SupportFirebase.supportFirebase`, which is made when it is first used and keeps the uid it found
then; the third asks `Auth` at that moment. `run_launch` computes both from the history of the app:
who is signed in (`signedIn`) and who was when the object was first used (`firstUse`).
`results_attributed_iff` says that the results are attributed to the user who took the test exactly
as long as the two are the same at every finished test.
-/

namespace Soliu

/-- The answers of a finished test, enough of them to be scored. -/
structure Sheet where
  answers : List ℤ
  full : 15 ≤ answers.length
deriving DecidableEq

/-- What the user does, as far as it bears on who is signed in and on results. -/
inductive SessionEvent where
  | signIn (uid : Uid)
  /-- The button of the Diary tab; `Auth` may refuse to sign out. -/
  | signInOrOut (throws : Bool)
  | register (uid : Uid)
  | profileAppears
  | finishTest (sheet : Sheet) (ownDate sharedDate : Date)
deriving DecidableEq

/-- What a finished test writes, and where. -/
inductive ResultWrite where
  | userInfo (request : Request)
  | newUsers (uid : Uid) (score : SectionScore)
deriving DecidableEq

/-- `Auth.auth().currentUser`, and the shared object once it has been used. -/
structure Session where
  auth : Option Uid
  supportFirebase : Option SupportFirebase
deriving DecidableEq

namespace Session

/-- The application at its launch, with the user whom Auth remembers. -/
def launch (auth : Option Uid) : Session := ⟨auth, none⟩

/-- `SupportFirebase` made at its first use. -/
def use (s : Session) : SupportFirebase := s.supportFirebase.getD (.init s.auth)

/-- One event of the session; a finished test traps if the helper has the empty uid. -/
def step (s : Session) : SessionEvent → Option (Session × List ResultWrite)
  | .signIn uid => some ({ s with auth := some uid }, [])
  | .signInOrOut throws =>
    match s.auth with
    -- the login screen opens
    | none => some (s, [])
    | some _ =>
      some ({ auth := if throws then s.auth else none, supportFirebase := some s.use }, [])
  | .register uid => some ({ s with auth := some uid }, [])
  | .profileAppears => some ({ s with supportFirebase := some s.use }, [])
  | .finishTest sheet ownDate sharedDate => do
    -- both writes go through the shared object, the upload asks `Auth` by itself
    let own ← s.use.updateTestScore sheet.answers ownDate
    let shared ← s.use.updateAllTestScore sheet.answers sharedDate
    let uploaded ← TestDetailViewModel.uploadData (doubles sheet.answers) s.auth
    return ({ s with supportFirebase := some s.use },
      [.userInfo own, .userInfo shared] ++ uploaded.toList.map fun w => .newUsers w.1 w.2)

/-- The session as a machine. -/
def machine : Machine Session SessionEvent ResultWrite := ⟨step⟩

/-- The three writes of a finished test, all for one user. -/
def writesFor (uid : Uid) (score : SectionScore) (sheet : Sheet) (ownDate sharedDate : Date) :
    List ResultWrite :=
  [.userInfo (.updateData uid.val "testResult"
      [TestResult.encode ⟨ownDate.iso8601withFractionalSeconds, sheet.answers⟩]),
    .userInfo (.updateData allTestScore "testResult"
      [TestResultWithUid.encode
        ⟨sharedDate.iso8601withFractionalSeconds, sheet.answers, uid.val⟩]),
    .newUsers uid score]

/-- A finished test is written three times for the user signed in, and not at all for nobody. -/
def Attributed (s : Session) (e : SessionEvent) : Prop :=
  ∀ sheet ownDate sharedDate, e = .finishTest sheet ownDate sharedDate →
    match s.auth with
    | some uid => ∃ s' score,
        TestDetailViewModel.sectionScores (doubles sheet.answers) = some score ∧
        machine.step s e = some (s', writesFor uid score sheet ownDate sharedDate)
    | none => ∀ s' writes, machine.step s e = some (s', writes) → writes = []

end Session

/-! ## The history of a run -/

namespace SessionEvent

/-- The user signed in after an event. -/
def userAfter (auth : Option Uid) : SessionEvent → Option Uid
  | signIn uid => some uid
  | signInOrOut throws => if throws then auth else none
  | register uid => some uid
  | profileAppears => auth
  | finishTest _ _ _ => auth

/-- Whether an event uses the shared helper. -/
def usesSupportFirebase (auth : Option Uid) : SessionEvent → Bool
  | signInOrOut _ => auth.isSome
  | profileAppears => true
  | finishTest _ _ _ => true
  | _ => false

/-- Whether a test is finished. -/
def isFinishTest : SessionEvent → Bool
  | finishTest _ _ _ => true
  | _ => false

end SessionEvent

/-- The user signed in after the events. -/
def signedIn (auth : Option Uid) (es : List SessionEvent) : Option Uid :=
  es.foldl SessionEvent.userAfter auth

/-- Who was signed in when these events first used the shared object. -/
def firstUse (auth : Option Uid) : List SessionEvent → Option (Option Uid)
  | [] => none
  | e :: es => if e.usesSupportFirebase auth then some auth else firstUse (e.userAfter auth) es

/-- The uid under which a test finished after these events is stored. -/
def owner (auth : Option Uid) (es : List SessionEvent) : Option Uid :=
  (firstUse auth es).getD (signedIn auth es)

/-- No test has been finished with the shared object of nobody, which stops the app. -/
def IsRunning (auth : Option Uid) (es : List SessionEvent) : Prop :=
  firstUse auth es = some none → ∀ e ∈ es, ¬ e.isFinishTest

/-- The user signed in after one more event. -/
lemma signedIn_concat (auth : Option Uid) (es : List SessionEvent) (e : SessionEvent) :
    signedIn auth (es ++ [e]) = e.userAfter (signedIn auth es) := by
  rw [signedIn, List.foldl_append]
  rfl

/-- The first use after one more event. -/
lemma firstUse_concat (auth : Option Uid) (es : List SessionEvent) (e : SessionEvent) :
    firstUse auth (es ++ [e]) =
      (firstUse auth es).or
        (if e.usesSupportFirebase (signedIn auth es) then some (signedIn auth es) else none) := by
  induction es generalizing auth with
  | nil => rfl
  | cons f es ih =>
    rw [List.cons_append, firstUse, firstUse]
    split
    · rfl
    · exact ih (f.userAfter auth)

/-- Before the first use of the helper no test has been finished. -/
lemma not_isFinishTest_of_firstUse {auth : Option Uid} {es : List SessionEvent}
    (h : firstUse auth es = none) : ∀ e ∈ es, ¬ e.isFinishTest := by
  induction es generalizing auth with
  | nil => nofun
  | cons f es ih =>
    rw [firstUse] at h
    split at h
    · cases h
    · rintro e (_ | ⟨_, he⟩)
      · cases f <;> simp_all [SessionEvent.usesSupportFirebase, SessionEvent.isFinishTest]
      · exact ih h e he

/-- The app goes on running until a finished test finds the shared object of nobody. -/
lemma isRunning_concat_iff {auth : Option Uid} {es : List SessionEvent} {e : SessionEvent} :
    IsRunning auth (es ++ [e]) ↔
      IsRunning auth es ∧ ¬ (e.isFinishTest ∧ owner auth es = none) := by
  have huses : e.isFinishTest → e.usesSupportFirebase (signedIn auth es) := by
    cases e <;> simp [SessionEvent.usesSupportFirebase, SessionEvent.isFinishTest]
  simp only [IsRunning, firstUse_concat, owner, List.forall_mem_append, List.forall_mem_singleton]
  cases hf : firstUse auth es with
  | none =>
    rw [Option.none_or, Option.getD_none]
    constructor
    · intro h
      refine ⟨nofun, ?_⟩
      rintro ⟨hfin, hs⟩
      exact (h (by rw [if_pos (huses hfin), hs])).2 hfin
    · rintro ⟨-, hne⟩ hu
      refine ⟨not_isFinishTest_of_firstUse hf, fun hfin => hne ⟨hfin, ?_⟩⟩
      rw [if_pos (huses hfin)] at hu
      exact Option.some.inj hu
  | some u =>
    rw [Option.some_or, Option.getD_some]
    constructor
    · intro h
      exact ⟨fun hu => (h hu).1, fun ⟨hfin, hu⟩ => (h (by rw [hu])).2 hfin⟩
    · rintro ⟨h, hne⟩ hu
      exact ⟨h hu, fun hfin => hne ⟨hfin, Option.some.inj hu⟩⟩

namespace Session

/-- The session that the history gives. -/
def after (auth : Option Uid) (es : List SessionEvent) : Session where
  auth := signedIn auth es
  supportFirebase := (firstUse auth es).map SupportFirebase.init

/-- The helper of the session has the uid of its owner. -/
lemma use_after (auth : Option Uid) (es : List SessionEvent) :
    (after auth es).use = .init (owner auth es) := by
  rw [use, owner, after]
  cases firstUse auth es <;> rfl

/-- The session after one more event. -/
lemma after_concat (auth : Option Uid) (es : List SessionEvent) (e : SessionEvent) :
    after auth (es ++ [e]) =
      { auth := e.userAfter (signedIn auth es)
        supportFirebase := if e.usesSupportFirebase (signedIn auth es) then
          some (after auth es).use else (after auth es).supportFirebase } := by
  rw [after, signedIn_concat, firstUse_concat, use_after, owner, after]
  cases firstUse auth es <;> cases e.usesSupportFirebase (signedIn auth es) <;> rfl

/-- The scores of a sheet are always uploaded, unless nobody is signed in. -/
lemma uploadData_sheet (sheet : Sheet) (user : Option Uid) :
    ∃ score, TestDetailViewModel.sectionScores (doubles sheet.answers) = some score ∧
      TestDetailViewModel.uploadData (doubles sheet.answers) user =
        some (user.map (·, score)) := by
  obtain ⟨score, h⟩ := Option.isSome_iff_exists.mp
    (TestDetailViewModel.sectionScores_isSome.mpr
      (show 15 ≤ (doubles sheet.answers).length by rw [length_doubles]; exact sheet.full))
  exact ⟨score, h, by rw [TestDetailViewModel.uploadData, h]; rfl⟩

/-- Every event but a finished test goes on without a trap. -/
lemma step_of_not_isFinishTest (auth : Option Uid) (es : List SessionEvent) {e : SessionEvent}
    (h : ¬ e.isFinishTest) :
    ∃ writes, machine.step (after auth es) e = some (after auth (es ++ [e]), writes) := by
  rw [after_concat]
  cases e with
  | signIn uid => exact ⟨_, rfl⟩
  | signInOrOut throws =>
    refine ⟨[], ?_⟩
    cases hs : signedIn auth es <;>
      simp [machine, step, after, hs, SessionEvent.userAfter, SessionEvent.usesSupportFirebase]
  | register uid => exact ⟨_, rfl⟩
  | profileAppears => exact ⟨_, rfl⟩
  | finishTest => exact absurd rfl h

variable {auth : Option Uid} {es : List SessionEvent} {sheet : Sheet} {ownDate sharedDate : Date}

/-- What a finished test does, call by call. -/
lemma step_finishTest (s : Session) :
    machine.step s (.finishTest sheet ownDate sharedDate) =
      (s.use.updateTestScore sheet.answers ownDate).bind fun own =>
        (s.use.updateAllTestScore sheet.answers sharedDate).bind fun shared =>
          (TestDetailViewModel.uploadData (doubles sheet.answers) s.auth).bind fun uploaded =>
            some ({ s with supportFirebase := some s.use },
              [.userInfo own, .userInfo shared] ++
                uploaded.toList.map fun w => .newUsers w.1 w.2) := rfl

/-- A finished test traps if nobody was signed in at the first use. -/
lemma step_finishTest_of_none (sheet : Sheet) (ownDate sharedDate : Date)
    (h : owner auth es = none) :
    machine.step (after auth es) (.finishTest sheet ownDate sharedDate) = none := by
  have hown : (SupportFirebase.init none).updateTestScore sheet.answers ownDate = none :=
    SupportFirebase.testScoreRequest_of_empty
  rw [step_finishTest, use_after, h, hown, Option.bind_none]

/-- With the shared object of a user it is written twice for that user, and a third time for the
user signed in, if there is one. -/
lemma step_finishTest_of_some (sheet : Sheet) (ownDate sharedDate : Date) {uid : Uid}
    (h : owner auth es = some uid) :
    ∃ score, TestDetailViewModel.sectionScores (doubles sheet.answers) = some score ∧
      machine.step (after auth es) (.finishTest sheet ownDate sharedDate) =
        some (after auth (es ++ [.finishTest sheet ownDate sharedDate]),
        [.userInfo (.updateData uid.val "testResult"
            [TestResult.encode ⟨ownDate.iso8601withFractionalSeconds, sheet.answers⟩]),
          .userInfo (.updateData allTestScore "testResult"
            [TestResultWithUid.encode
              ⟨sharedDate.iso8601withFractionalSeconds, sheet.answers, uid.val⟩])] ++
          (signedIn auth es).toList.map (.newUsers · score)) := by
  obtain ⟨score, hsections, hscore⟩ := uploadData_sheet sheet (signedIn auth es)
  have hown : (SupportFirebase.init (some uid)).updateTestScore sheet.answers ownDate = _ :=
    SupportFirebase.testScoreRequest_eq _ uid.nonempty
  have hshared :
      (SupportFirebase.init (some uid)).updateAllTestScore sheet.answers sharedDate = _ :=
    SupportFirebase.allTestScoreRequest_eq
  refine ⟨score, hsections, ?_⟩
  rw [step_finishTest, after_concat, use_after, h, hown, Option.bind_some, hshared,
    Option.bind_some, show (after auth es).auth = signedIn auth es from rfl, hscore]
  cases signedIn auth es <;> rfl

/-- At the end of a history a finished test is attributed to its user exactly if its owner is. -/
lemma attributed_after_iff :
    Attributed (after auth es) (.finishTest sheet ownDate sharedDate) ↔
      owner auth es = signedIn auth es := by
  have hauth : (after auth es).auth = signedIn auth es := rfl
  cases ho : owner auth es with
  | none =>
    -- the test traps: nothing is written, which is right for nobody only
    have hstep := step_finishTest_of_none sheet ownDate sharedDate ho
    cases hs : signedIn auth es with
    | none =>
      refine iff_of_true ?_ rfl
      rintro _ _ _ ⟨⟩
      rw [hauth, hs, hstep]
      rintro _ _ ⟨⟩
    | some u =>
      refine iff_of_false (fun h => ?_) nofun
      have h' := h _ _ _ rfl
      rw [hauth, hs, hstep] at h'
      obtain ⟨_, _, -, ⟨⟩⟩ := h'
  | some v =>
    obtain ⟨score, hsections, hstep⟩ := step_finishTest_of_some sheet ownDate sharedDate ho
    cases hs : signedIn auth es with
    | none =>
      -- two writes are made although nobody is signed in
      refine iff_of_false (fun h => ?_) nofun
      have h' := h _ _ _ rfl
      rw [hauth, hs] at h'
      cases h' _ _ hstep
    | some u =>
      rw [hs] at hstep
      constructor
      · intro h
        have h' := h _ _ _ rfl
        rw [hauth, hs, hstep] at h'
        obtain ⟨_, _, -, e⟩ := h'
        have he := congrArg Prod.snd (Option.some.inj e)
        simp only [writesFor, Option.toList_some, List.map_cons, List.map_nil, List.cons_append,
          List.nil_append, List.cons.injEq, ResultWrite.userInfo.injEq,
          Request.updateData.injEq] at he
        rw [Uid.ext_val he.1.1]
      · intro e
        cases e
        rintro _ _ _ ⟨⟩
        rw [hauth, hs]
        exact ⟨_, score, hsections, hstep⟩

/-- The session follows its history, or traps at a test of nobody's. -/
lemma step_after (auth : Option Uid) (es : List SessionEvent) (e : SessionEvent) :
    if e.isFinishTest ∧ owner auth es = none then machine.step (after auth es) e = none
    else ∃ writes, machine.step (after auth es) e = some (after auth (es ++ [e]), writes) := by
  by_cases hf : e.isFinishTest
  · cases e with
    | finishTest sheet ownDate sharedDate =>
      cases ho : owner auth es with
      | none =>
        rw [if_pos ⟨rfl, rfl⟩]
        exact step_finishTest_of_none sheet ownDate sharedDate ho
      | some uid =>
        rw [if_neg (fun h => nomatch h.2)]
        obtain ⟨score, -, h⟩ := step_finishTest_of_some sheet ownDate sharedDate ho
        exact ⟨_, h⟩
    | signIn | signInOrOut | register | profileAppears => cases hf
  · rw [if_neg (fun h => hf h.1)]
    exact step_of_not_isFinishTest auth es hf

/-- The session of a history is reached exactly if no finished test has stopped the app. -/
lemma run_launch (auth : Option Uid) (es : List SessionEvent) :
    (IsRunning auth es → ∃ writes, machine.run (launch auth) es = some (after auth es, writes)) ∧
      ∀ s writes, machine.run (launch auth) es = some (s, writes) →
        s = after auth es ∧ IsRunning auth es := by
  induction es using List.reverseRecOn with
  | nil =>
    refine ⟨fun _ => ⟨[], rfl⟩, ?_⟩
    rintro s writes ⟨⟩
    exact ⟨rfl, nofun⟩
  | append_singleton es e ih =>
    obtain ⟨ih₁, ih₂⟩ := ih
    constructor
    · intro h
      obtain ⟨hr, hf⟩ := isRunning_concat_iff.mp h
      have hstep := step_after auth es e
      rw [if_neg hf] at hstep
      obtain ⟨writes, hrun⟩ := ih₁ hr
      obtain ⟨writes', hstep⟩ := hstep
      exact ⟨_, Machine.run_concat_iff.mpr ⟨_, _, _, hrun, hstep, rfl⟩⟩
    · intro s writes h
      obtain ⟨s', _, _, hrun, hstep, -⟩ := Machine.run_concat_iff.mp h
      obtain ⟨rfl, hr⟩ := ih₂ _ _ hrun
      have hstep' := step_after auth es e
      split at hstep'
      case isTrue hf =>
        rw [hstep'] at hstep
        cases hstep
      case isFalse hf =>
        obtain ⟨_, hstep'⟩ := hstep'
        cases hstep.symm.trans hstep'
        exact ⟨rfl, isRunning_concat_iff.mpr ⟨hr, hf⟩⟩

end Session

/-- In every run of the app, every finished test that is reached is written to the three places for
the user signed in, and to none if nobody is, exactly if at every finished test that is reached the
user signed in is the one who was when the shared object was first used. -/
theorem results_attributed_iff (auth : Option Uid) (es : List SessionEvent) :
    Session.machine.EachStep (Session.launch auth) es Session.Attributed ↔
      ∀ pre sheet ownDate sharedDate post,
        es = pre ++ .finishTest sheet ownDate sharedDate :: post → IsRunning auth pre →
          owner auth pre = signedIn auth pre := by
  constructor
  · intro h pre sheet ownDate sharedDate post e hr
    obtain ⟨writes, hrun⟩ := (Session.run_launch auth pre).1 hr
    exact Session.attributed_after_iff.mp (h pre _ post _ writes e hrun)
  · rintro h pre e post s writes rfl hrun sheet ownDate sharedDate rfl
    obtain ⟨rfl, hr⟩ := (Session.run_launch auth pre).2 s writes hrun
    exact Session.attributed_after_iff.mpr (h pre _ _ _ post rfl hr) sheet _ _ rfl

/-- The first user opens the profile and signs out; then the test of a second user is written to the
document of the first. -/
theorem result_of_second_user :
    ¬ ∀ (auth : Option Uid) (es : List SessionEvent),
      Session.machine.EachStep (Session.launch auth) es Session.Attributed := by
  intro h
  let pre : List SessionEvent :=
    [.profileAppears, .signInOrOut false, .signIn (.letter 'b' rfl)]
  let e : SessionEvent := .finishTest ⟨List.replicate 15 1, by decide⟩ ⟨0, 0⟩ ⟨0, 0⟩
  have ha : Session.Attributed (Session.after (some (.letter 'a' rfl)) pre) e :=
    h (some (.letter 'a' rfl)) (pre ++ [e]) pre e [] _ [] rfl rfl
  exact absurd (Session.attributed_after_iff.mp ha) (by decide)

end Soliu
