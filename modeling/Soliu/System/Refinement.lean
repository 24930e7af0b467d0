import Soliu.System.Phone

/-!
# A phone as a session

What the screens of a phone come down to: the answers touched on the test that was pushed last (the
second part of `history`) and the session events that the phone goes through (the first part). A
finished test is the event of its last answer, with the sheet that the answers on that one screen
make up. `phone_refines_session` says that a phone is nothing but this session, with the same
writes, as long as no answer is touched below the spinner, and that it is no session at all
otherwise: then it sends off a sheet of a single answer.

`Shows` is the invariant of all runs, and `Shows.touchAnswer_cases` says all that a touch can do.
-/

namespace Soliu

open TestDetailViewController Blocks

/-- The events that may open a test screen. -/
def NavigationEvent.opensTest : NavigationEvent → Bool
  | startScreenLoads => true
  | startScreenAppears => true
  | togoTest => true
  | _ => false

/-- Who is signed in after the event. -/
def NavigationEvent.userAfter (currentUser : Option Uid) : NavigationEvent → Option Uid
  | signIn uid _ => some uid
  | signInOrOut throws => if throws then currentUser else none
  | _ => currentUser

namespace PhoneEvent

/-- The answers touched on the test that was pushed last, of which `as` have been before. -/
def answersAfter (as : List ℤ) : PhoneEvent → List ℤ
  | navigate e => if e.opensTest then [] else as
  | touchAnswer button _ _ => as ++ [button.answer]
  | profileAppears => as
  | register _ _ => as

/-- What the event is for the session. -/
def sessionEvents (n : ℕ) (as : List ℤ) : PhoneEvent → List SessionEvent
  | navigate (.signIn uid _) => [.signIn uid]
  | navigate (.signInOrOut throws) => [.signInOrOut throws]
  | navigate (.selectTab .profile) => [.profileAppears]
  | navigate _ => []
  | touchAnswer button ownDate sharedDate =>
    if h : as.length + 1 = n ∧ 15 ≤ n then
      [.finishTest ⟨as ++ [button.answer], by
        rw [List.length_append, List.length_singleton, h.1]
        exact h.2⟩ ownDate sharedDate]
    else []
  | profileAppears => [.profileAppears]
  | register uid _ => [.register uid]

/-- The record of a new user, when the form is complete. -/
def registration : PhoneEvent → List ResultWrite
  | register uid form =>
    form.profile.elim [] fun info => [.userInfo (.setData uid.val info.encode)]
  | _ => []

/-- An answer is touched only where the test is on top, and not below the spinner. -/
def FindsTest (s : Phone) : PhoneEvent → Prop
  | touchAnswer _ _ _ => s.navigation.AcceptsAnswers
  | _ => True

/-- Whether an event finds the test is decided by the navigation. -/
instance (s : Phone) : (e : PhoneEvent) → Decidable (e.FindsTest s)
  | touchAnswer _ _ _ => inferInstanceAs (Decidable s.navigation.AcceptsAnswers)
  | navigate _ => inferInstanceAs (Decidable True)
  | profileAppears => inferInstanceAs (Decidable True)
  | register _ _ => inferInstanceAs (Decidable True)

end PhoneEvent

/-- The session events of a phone, and the answers touched on the test that was pushed last. -/
def history (n : ℕ) (es : List PhoneEvent) : List SessionEvent × List ℤ :=
  es.foldl (fun h e => (h.1 ++ e.sessionEvents n h.2, e.answersAfter h.2)) ([], [])

/-- The history after one more event. -/
lemma history_concat (n : ℕ) (es : List PhoneEvent) (e : PhoneEvent) :
    history n (es ++ [e]) =
      ((history n es).1 ++ e.sessionEvents n (history n es).2,
        e.answersAfter (history n es).2) := by
  rw [history, List.foldl_append]
  rfl

namespace ResultWrite

/-- A write of a result, and not of a registration. -/
def isResult : ResultWrite → Bool
  | userInfo (.setData _ _) => false
  | _ => true

/-- The result that a write adds to the document shared by all users. -/
def sharedResult : ResultWrite → Option TestResultWithUid
  | userInfo (.updateData path _ [v]) =>
    if path = allTestScore then TestResultWithUid.decode v else none
  | _ => none

/-- The result that a write adds to the user's own document. -/
def ownResult (uid : Uid) : ResultWrite → Option TestResult
  | userInfo (.updateData path _ [v]) => if path = uid.val then TestResult.decode v else none
  | _ => none

/-- The two writes of submitted answers, one for the user's own document and one for the shared. -/
def submission (uid : Uid) (answers : List ℤ) (ownDate sharedDate : Date) : List ResultWrite :=
  [.userInfo (.updateData uid.val "testResult"
      [TestResult.encode ⟨ownDate.iso8601withFractionalSeconds, answers⟩]),
    .userInfo (.updateData allTestScore "testResult"
      [TestResultWithUid.encode ⟨sharedDate.iso8601withFractionalSeconds, answers, uid.val⟩])]

/-- The own result of a write to the user's own document. -/
lemma ownResult_own (uid : Uid) (r : TestResult) :
    ownResult uid (.userInfo (.updateData uid.val "testResult" [r.encode])) = some r := by
  rw [ownResult, if_pos rfl, TestResult.decode_encode]

/-- A write to the shared document has no own result. -/
lemma ownResult_shared (uid : Uid) (v : Value) :
    ownResult uid (.userInfo (.updateData allTestScore "testResult" [v])) = none :=
  if_neg uid.val_ne_allTestScore.symm

/-- A write to the user's own document has no shared result. -/
lemma sharedResult_own (uid : Uid) (v : Value) :
    sharedResult (.userInfo (.updateData uid.val "testResult" [v])) = none :=
  if_neg uid.val_ne_allTestScore

/-- The shared result of a write to the shared document. -/
lemma sharedResult_shared (r : TestResultWithUid) :
    sharedResult (.userInfo (.updateData allTestScore "testResult" [r.encode])) = some r := by
  rw [sharedResult, if_pos rfl, TestResultWithUid.decode_encode]

end ResultWrite

/-! ## Sheets -/

/-- The answers are all from 1 to 5. -/
def InRange (answers : List ℤ) : Prop := ∀ a ∈ answers, 1 ≤ a ∧ a ≤ 5

/-- Answers in the range stay so together. -/
lemma InRange.append {as bs : List ℤ} (has : InRange as) (hbs : InRange bs) :
    InRange (as ++ bs) := List.forall_mem_append.mpr ⟨has, hbs⟩

/-- The answer of a button is in the range. -/
lemma AnswerButton.inRange (b : AnswerButton) : InRange [b.answer] :=
  List.forall_mem_singleton.mpr (by cases b <;> decide)

/-- A sheet of `n` answers from 1 to 5. -/
structure IsWhole (n : ℕ) (answers : List ℤ) : Prop where
  length : answers.length = n
  range : InRange answers

/-- A part of such a sheet, or the whole of it. -/
structure IsPart (n : ℕ) (answers : List ℤ) : Prop where
  nonempty : answers ≠ []
  length : answers.length ≤ n
  range : InRange answers

/-- What a touch submits or uploads is a part of a sheet. -/
lemma isPart_openBlock {n : ℕ} {as : List ℤ} (has : InRange as) (hn : 0 < n) (b : AnswerButton) :
    IsPart n (openBlock n as ++ [b.answer]) where
  nonempty := List.append_ne_nil_of_right_ne_nil _ (List.cons_ne_nil _ _)
  length := by
    have := Nat.mod_lt as.length hn
    rw [List.length_append, length_openBlock, List.length_singleton]
    omega
  range := InRange.append (fun a ha => has a (List.mem_of_mem_drop ha)) b.inRange

namespace PhoneEvent

variable {n : ℕ} {as : List ℤ} {e : PhoneEvent}

/-- An event leaves answers in the range. -/
lemma inRange_answersAfter (h : InRange as) : InRange (e.answersAfter as) := by
  cases e with
  | navigate e =>
    rw [answersAfter]
    split
    · exact List.forall_mem_nil _
    · exact h
  | touchAnswer button ownDate sharedDate => exact h.append button.inRange
  | profileAppears | register uid form => exact h

/-- A finished test is the sheet of all answers, with the last one. -/
lemma isWhole_of_finishTest (has : InRange as) {sheet : Sheet} {ownDate sharedDate : Date}
    (h : .finishTest sheet ownDate sharedDate ∈ e.sessionEvents n as) :
    IsWhole n sheet.answers := by
  cases e with
  | navigate e =>
    rw [sessionEvents.eq_def] at h
    split at h <;> simp_all
  | touchAnswer button d₁ d₂ =>
    rw [sessionEvents] at h
    split at h
    case isTrue hn =>
      obtain ⟨rfl, rfl, rfl⟩ := SessionEvent.finishTest.inj (List.mem_singleton.mp h)
      refine ⟨by rw [List.length_append, List.length_singleton, hn.1], has.append button.inRange⟩
    case isFalse => cases h
  | profileAppears | register uid form => cases List.mem_singleton.mp h

end PhoneEvent

/-- The answers of a history are in the range. -/
lemma inRange_history (n : ℕ) (es : List PhoneEvent) : InRange (history n es).2 := by
  induction es using List.reverseRecOn with
  | nil => exact List.forall_mem_nil _
  | append_singleton es e ih =>
    rw [history_concat]
    exact PhoneEvent.inRange_answersAfter ih

/-- Every finished test of a history is a whole sheet. -/
lemma isWhole_of_mem_history {n : ℕ} {es : List PhoneEvent} {sheet : Sheet}
    {ownDate sharedDate : Date}
    (h : .finishTest sheet ownDate sharedDate ∈ (history n es).1) : IsWhole n sheet.answers := by
  induction es using List.reverseRecOn with
  | nil => cases h
  | append_singleton es e ih =>
    rw [history_concat, List.mem_append] at h
    obtain h | h := h
    · exact ih h
    · exact PhoneEvent.isWhole_of_finishTest (inRange_history n es) h

/-! ## The screens -/

namespace Navigation

variable {target : SegueTarget} {s s' : Navigation} {e : NavigationEvent}

/-- Test screens are pushed by the start screen only, and popped all together. -/
lemma step_testStack (h : s.step target e = some s') :
    s'.testStack = s.testStack ∨
      (∃ screen, screen ≠ .testDetail ∧ s'.testStack = screen :: s.testStack) ∨
      (e.opensTest ∧ ∃ k, s'.testStack = List.replicate (k + 1) .testDetail ++ s.testStack) ∨
      s'.testStack = [.newStartTestScreen] := by
  have hgate : ∀ t : Navigation, t.testStack = s.testStack → e.opensTest →
      (t.isLoggedIn target).testStack = s.testStack ∨
        e.opensTest ∧ ∃ k, (t.isLoggedIn target).testStack =
          List.replicate (k + 1) .testDetail ++ s.testStack := by
    intro t ht he
    obtain ⟨-, h⟩ | ⟨-, -, h⟩ | ⟨-, -, h⟩ := isLoggedIn_cases target t
    · rw [h]
      exact .inl ht
    · rw [h]
      exact .inl ht
    · rw [h]
      refine .inr ⟨he, 0, ?_⟩
      rw [push, ht]
      rfl
  cases step_cases h with
  | startScreenLoads =>
    exact (hgate { s with startLoaded := true } rfl rfl).imp_right fun h => .inr (.inl h)
  | startScreenAppears =>
    exact (hgate { s with startAppeared := true } rfl rfl).imp_right fun h => .inr (.inl h)
  | togoTest => exact .inr (.inr (.inl ⟨rfl, 1, rfl⟩))
  | dismissLogInScreen | signInPopup | signIn | signInOrOut | selectTab => exact .inl rfl
  | selectAgain =>
    rw [popToRoot]
    split
    · exact .inr (.inr (.inr rfl))
    · exact .inl rfl
  | loadingSpinner | moveToResultScreen | gotoTestScreen =>
    exact .inr (.inl ⟨_, by decide, rfl⟩)

/-- Where a test may be opened, no test is on top. -/
lemma top_of_opensTest (h : s.step target e = some s') (he : e.opensTest) :
    s.top = some .newStartTestScreen := by
  cases step_cases h with
  | startScreenLoads htab htop => exact htop
  | startScreenAppears htab htop => exact htop
  | togoTest htab htop => exact htop
  | dismissLogInScreen | signInPopup | signIn | signInOrOut | selectAgain | selectTab
  | loadingSpinner | moveToResultScreen | gotoTestScreen => cases he

/-- Who is signed in changes by the two sign-ins and by signing out. -/
lemma step_currentUser (h : s.step target e = some s') :
    s'.currentUser = e.userAfter s.currentUser := by
  have hgate : ∀ t : Navigation, (t.isLoggedIn target).currentUser = t.currentUser := by
    intro t
    obtain ⟨-, h⟩ | ⟨-, -, h⟩ | ⟨-, -, h⟩ := isLoggedIn_cases target t <;> rw [h]
    rfl
  cases step_cases h with
  | startScreenLoads | startScreenAppears => exact hgate _
  | selectAgain => exact s.currentUser_popToRoot
  | dismissLogInScreen | togoTest | signInPopup | signIn | signInOrOut | selectTab
  | loadingSpinner | moveToResultScreen | gotoTestScreen => rfl

end Navigation

/-- The shared object, if there is one, was made for a user or for nobody. -/
def Session.IsMade (s : Session) : Prop :=
  ∀ supportFirebase, s.supportFirebase = some supportFirebase →
    ∃ auth, supportFirebase = .init auth

/-- The helper of a session that made it is that of some user, or of nobody. -/
lemma Session.IsMade.use {s : Session} (h : s.IsMade) : ∃ auth, s.use = .init auth := by
  cases hs : s.supportFirebase with
  | none => exact ⟨s.auth, by rw [Session.use, hs]; rfl⟩
  | some supportFirebase =>
    obtain ⟨auth, rfl⟩ := h supportFirebase hs
    exact ⟨auth, by rw [Session.use, hs]; rfl⟩

/-- With the shared object of a user, a finished test is submitted and scored. -/
lemma Session.step_finishTest_of_use {s : Session} {sheet : Sheet} (ownDate sharedDate : Date)
    {uid : Uid} {score : SectionScore} (huse : s.use = .init (some uid))
    (hscore : TestDetailViewModel.sectionScores (doubles sheet.answers) = some score) :
    machine.step s (.finishTest sheet ownDate sharedDate) =
      some (⟨s.auth, some (.init (some uid))⟩,
        ResultWrite.submission uid sheet.answers ownDate sharedDate ++
          s.auth.toList.map (.newUsers · score)) := by
  rw [step_finishTest, huse, SupportFirebase.updateTestScore,
    SupportFirebase.testScoreRequest_eq _ uid.nonempty, SupportFirebase.updateAllTestScore,
    SupportFirebase.allTestScoreRequest_eq, TestDetailViewModel.uploadData, hscore]
  cases s.auth <;> rfl

namespace Phone

variable {bundle : Bundle} {target : SegueTarget} {questions : List TestQuestion} {n : ℕ}
  {as : List ℤ} {s s' : Phone} {ws : List ResultWrite}

/-- Each test screen has its controller. The first one has been given the answers `as`: fewer than
`n` while the test is on top, and all `n` at least when touches reach it below the spinner. -/
structure Shows (questions : List TestQuestion) (n : ℕ) (as : List ℤ) (s : Phone) : Prop where
  made : s.session.IsMade
  loaded : s.testDetails.length = s.navigation.testStack.count .testDetail
  tapped : s.navigation.top = some .testDetail ∨ s.delivering →
    ∃ vc vcs os, s.testDetails = vc :: vcs ∧ Tapped questions n as vc os
  onTop : s.navigation.top = some .testDetail → as.length < n
  below : s.delivering → n ≤ as.length

/-- The phone shows no answers at its launch. -/
lemma Shows.launch (currentUser : Option Uid) : (launch currentUser).Shows questions n [] where
  made := nofun
  loaded := rfl
  tapped h := h.elim nofun nofun
  onTop := nofun
  below := nofun

/-- An event that is neither a touch nor a change of screens. -/
lemma Shows.of_eq (h : s.Shows questions n as) (hmade : s'.session.IsMade)
    (hstack : s'.navigation.testStack = s.navigation.testStack)
    (hdetails : s'.testDetails = s.testDetails) (hdelivering : s'.delivering = false) :
    s'.Shows questions n as := by
  have htop : s'.navigation.top = s.navigation.top := congrArg List.head? hstack
  refine ⟨hmade, ?_, fun h' => ?_, ?_, fun h' => ?_⟩
  · rw [hdetails, hstack, h.loaded]
  · rw [hdetails]
    rw [htop, hdelivering] at h'
    exact h.tapped (.inl (h'.resolve_right Bool.false_ne_true))
  · rw [htop]
    exact h.onTop
  · rw [hdelivering] at h'
    cases h'

/-! ## Changes of screens -/

/-- A change of screens changes the session as its event says. -/
lemma session_navigate {e : NavigationEvent} (h : s.navigate bundle target e = some s') :
    s'.session =
      { auth := e.userAfter s.session.auth
        supportFirebase :=
          if s.usesSupportFirebase e then some s.session.use else s.supportFirebase } := by
  obtain ⟨navigation, hstep, h⟩ := Option.bind_eq_some_iff.mp h
  obtain ⟨testDetails, -, h⟩ := Option.bind_eq_some_iff.mp h
  cases h
  rw [session, Navigation.step_currentUser hstep]
  rfl

/-- The helper after its use was made by the session. -/
lemma isMade_use (h : s.session.IsMade) (auth : Option Uid) :
    Session.IsMade ⟨auth, some s.session.use⟩ := by
  rintro _ ⟨⟩
  exact h.use

/-- A step of the navigation keeps the helper one made by the session. -/
lemma isMade_navigate {e : NavigationEvent} (h : s.session.IsMade)
    (hs : s.navigate bundle target e = some s') : s'.session.IsMade := by
  rw [session_navigate hs]
  split
  · exact isMade_use h _
  · exact h

section

variable (hload : ∃ vc, viewDidLoad {} bundle 1 = some vc ∧ Tapped questions n [] vc [])
include hload

/-- The controllers that are loaded are fresh ones for the test screens that have been pushed. -/
lemma exists_loadTests (s : Phone) (navigation : Navigation) :
    ∃ vc, Tapped questions n [] vc [] ∧ s.loadTests bundle navigation =
      some (List.replicate (navigation.testStack.count .testDetail - s.testDetails.length) vc ++
        s.testDetails.drop (s.testDetails.length - navigation.testStack.count .testDetail)) := by
  obtain ⟨vc, hvc, htapped⟩ := hload
  refine ⟨vc, htapped, ?_⟩
  have hmap : ∀ k, (List.replicate k ({} : TestDetailViewController)).mapM
      (fun vc : TestDetailViewController => vc.viewDidLoad bundle 1) =
        some (List.replicate k vc) := by
    intro k
    induction k with
    | zero => rfl
    | succ k ih => rw [List.replicate_succ, List.mapM_cons, hvc, ih]; rfl
  rw [loadTests, hmap]
  rfl

/-- A step of the navigation keeps what the phone shows. -/
lemma Shows.navigate {e : NavigationEvent} (h : s.Shows questions n as) (hn : 0 < n)
    (hs : s.navigate bundle target e = some s') :
    s'.Shows questions n (PhoneEvent.answersAfter as (.navigate e)) := by
  have hmade := isMade_navigate h.made hs
  obtain ⟨navigation, hstep, hs⟩ := Option.bind_eq_some_iff.mp hs
  obtain ⟨testDetails, hdetails, hs⟩ := Option.bind_eq_some_iff.mp hs
  obtain ⟨vc, hvc, hloaded⟩ := exists_loadTests hload s navigation
  cases hdetails.symm.trans hloaded
  cases hs
  have hcount := h.loaded
  -- the answers are those to the test that is on top now, if there is one
  have htests : navigation.top = some .testDetail → (∃ vc' vcs os,
      List.replicate (navigation.testStack.count .testDetail - s.testDetails.length) vc ++
        s.testDetails.drop (s.testDetails.length - navigation.testStack.count .testDetail) =
          vc' :: vcs ∧ Tapped questions n (PhoneEvent.answersAfter as (.navigate e)) vc' os) ∧
      (PhoneEvent.answersAfter as (.navigate e)).length < n := by
    intro htop
    obtain hstack | ⟨screen, hscreen, hstack⟩ | ⟨hopens, k, hstack⟩ | hstack :=
      Navigation.step_testStack hstep
    · have htop' : s.navigation.top = some .testDetail :=
        (congrArg List.head? hstack).symm.trans htop
      have hopens : ¬ e.opensTest := fun he => by
        cases (Navigation.top_of_opensTest hstep he).symm.trans htop'
      rw [hstack, ← hcount, Nat.sub_self, List.replicate_zero, List.drop_zero, List.nil_append,
        PhoneEvent.answersAfter, if_neg hopens]
      exact ⟨h.tapped (.inl htop'), h.onTop htop'⟩
    · rw [Navigation.top, hstack] at htop
      exact absurd (Option.some.inj htop) hscreen
    · rw [hstack, List.count_append, List.count_replicate_self, ← hcount, Nat.add_sub_cancel,
        PhoneEvent.answersAfter, if_pos hopens]
      exact ⟨⟨vc, _, [], rfl, hvc⟩, hn⟩
    · rw [Navigation.top, hstack] at htop
      cases htop
  refine ⟨hmade, ?_, fun h' => (htests (h'.resolve_right Bool.false_ne_true)).1,
    fun h' => (htests h').2, nofun⟩
  rw [List.length_append, List.length_replicate, List.length_drop]
  dsimp only
  omega

end

/-! ## Touches -/

section

variable {ownDate sharedDate : Date}

/-- The performer is the phone doing what the test asks for. -/
lemma step_performer (s : Phone) (o : TestDetailOutput) :
    (performer ownDate sharedDate).step s o = s.perform ownDate sharedDate o := rfl

/-- The own result sent off through the helper of a user. -/
lemma perform_updateTestScore {uid : Uid} (huse : s.session.use = .init (some uid))
    (answers : List ℤ) :
    s.perform ownDate sharedDate (.updateTestScore answers) =
      some ({ s with supportFirebase := some (.init (some uid)) },
        [.userInfo (.updateData uid.val "testResult"
          [TestResult.encode ⟨ownDate.iso8601withFractionalSeconds, answers⟩])]) := by
  rw [perform, huse, SupportFirebase.updateTestScore,
    SupportFirebase.testScoreRequest_eq _ uid.nonempty]
  rfl

/-- The shared result sent off through the helper of a user. -/
lemma perform_updateAllTestScore {uid : Uid} (huse : s.session.use = .init (some uid))
    (answers : List ℤ) :
    s.perform ownDate sharedDate (.updateAllTestScore answers) =
      some ({ s with supportFirebase := some (.init (some uid)) },
        [.userInfo (.updateData allTestScore "testResult"
          [TestResultWithUid.encode
            ⟨sharedDate.iso8601withFractionalSeconds, answers, uid.val⟩])]) := by
  rw [perform, huse, SupportFirebase.updateAllTestScore, SupportFirebase.allTestScoreRequest_eq]
  rfl

/-- Submitted answers are sent off for the user of the shared object. -/
lemma run_performer_submits {uid : Uid} (huse : s.session.use = .init (some uid))
    (answers : List ℤ) (os : List TestDetailOutput) :
    (performer ownDate sharedDate).run s (TestDetailOutput.submits answers ++ os) =
      ((performer ownDate sharedDate).run
        { s with
          navigation := s.navigation.push .loadingSpinner
          supportFirebase := some (.init (some uid))
          delivering := true } os).map fun r =>
        (r.1, ResultWrite.submission uid answers ownDate sharedDate ++ r.2) := by
  rw [TestDetailOutput.submits, List.cons_append, List.cons_append, List.cons_append,
    List.nil_append, Machine.run_cons, step_performer, perform_updateTestScore huse,
    Option.bind_some, Machine.run_cons, step_performer, perform_updateAllTestScore rfl,
    Option.bind_some, Machine.run_cons, step_performer, perform, Option.bind_some, Option.map_map,
    Option.map_map]
  rfl

/-- For nobody they trap. -/
lemma run_performer_submits_of_none (huse : s.session.use = .init none) (answers : List ℤ)
    (os : List TestDetailOutput) :
    (performer ownDate sharedDate).run s (TestDetailOutput.submits answers ++ os) = none := by
  have htrap : s.perform ownDate sharedDate (.updateTestScore answers) = none := by
    rw [perform, huse, SupportFirebase.updateTestScore]
    rfl
  rw [TestDetailOutput.submits, List.cons_append, Machine.run_cons, step_performer, htrap,
    Option.bind_none]

/-- The upload of a sheet, and no upload. -/
lemma run_performer_upload {sheet : List ℤ} {full : Prop} [Decidable full]
    (h : (performer ownDate sharedDate).run s
      (if full then [.uploadData (doubles sheet)] else []) = some (s', ws)) :
    s' = s ∧ ((¬ full ∧ ws = []) ∨ full ∧ ∃ score,
      TestDetailViewModel.sectionScores (doubles sheet) = some score ∧
      ws = s.session.auth.toList.map (.newUsers · score)) := by
  by_cases hfull : full
  · rw [if_pos hfull] at h
    obtain ⟨_, o₁, o₂, hperform, hnil, rfl⟩ := Machine.run_cons_iff.mp h
    obtain ⟨uploaded, hupload, e⟩ := Option.map_eq_some_iff.mp hperform
    obtain ⟨score, hscore, hupload⟩ := Option.bind_eq_some_iff.mp hupload
    cases e
    cases hnil
    cases hupload
    refine ⟨rfl, .inr ⟨hfull, score, hscore, ?_⟩⟩
    have hauth : s.session.auth = s.navigation.currentUser := rfl
    rw [hauth, List.append_nil]
    cases s.navigation.currentUser <;> rfl
  · rw [if_neg hfull] at h
    cases h
    exact ⟨rfl, .inl ⟨hfull, rfl⟩⟩

/-- Whatever a touch does: below the last question nothing is sent off, and from then on the open
block with the new answer, and the score of the block if that makes it full. -/
lemma Shows.touchAnswer_cases
    (ht : questions[0]?.map (·.totalQuestionNumber) = some (n : ℤ)) (h15 : 15 ≤ n)
    {button : AnswerButton} (h : s.Shows questions n as)
    (hs : s.touchAnswer button ownDate sharedDate = some (s', ws)) :
    s'.Shows questions n (as ++ [button.answer]) ∧
      ((as.length + 1 < n ∧ s'.session = s.session ∧ s'.delivering = false ∧ ws = []) ∨
        n ≤ as.length + 1 ∧ s'.delivering = true ∧ ∃ uid scores,
          s.session.use = .init (some uid) ∧
          s'.session = ⟨s.session.auth, some (.init (some uid))⟩ ∧
          ws = ResultWrite.submission uid (openBlock n as ++ [button.answer]) ownDate sharedDate ++
            scores ∧
          ((as.length % n + 1 ≠ n ∧ scores = []) ∨ as.length % n + 1 = n ∧ ∃ score,
            TestDetailViewModel.sectionScores (doubles (openBlock n as ++ [button.answer])) =
              some score ∧
            scores = s.session.auth.toList.map (.newUsers · score))) := by
  obtain ⟨hallowed, hs⟩ := Option.ite_none_right_eq_some.mp hs
  obtain ⟨vc, vcs, os, hdetails, htapped⟩ := h.tapped (hallowed.imp_left (·.2.1))
  have hcount : (vc :: vcs).length = s.navigation.testStack.count .testDetail := hdetails ▸ h.loaded
  rw [hdetails] at hs
  obtain ⟨⟨vc', o⟩, hstep, hrun⟩ := Option.bind_eq_some_iff.mp hs
  obtain ⟨vc'', o', hstep', htapped', ho⟩ := htapped.step_outputs ht button h15
  cases hstep.symm.trans hstep'
  have hlength : (as ++ [button.answer]).length = as.length + 1 := by
    rw [List.length_append, List.length_singleton]
  by_cases hlast : n ≤ as.length + 1
  · rw [if_pos hlast] at ho
    subst ho
    obtain ⟨auth, huse⟩ := h.made.use
    cases auth with
    | none =>
      cases (run_performer_submits_of_none (s := { s with testDetails := vc' :: vcs }) huse
        _ _).symm.trans hrun
    | some uid =>
      have hperform := (run_performer_submits (s := { s with testDetails := vc' :: vcs }) huse
        _ _).symm.trans hrun
      obtain ⟨⟨t, scores⟩, hupload, e⟩ := Option.map_eq_some_iff.mp hperform
      cases e
      obtain ⟨rfl, hscores⟩ := run_performer_upload hupload
      refine ⟨⟨?_, hcount, fun _ => ⟨vc', vcs, _, rfl, htapped'⟩, nofun, fun _ => by omega⟩,
        .inr ⟨hlast, rfl, uid, scores, huse, rfl, rfl, hscores⟩⟩
      rintro _ ⟨⟩
      exact ⟨some uid, rfl⟩
  · have hfull : as.length % n + 1 ≠ n := by
      rw [Nat.mod_eq_of_lt (by omega)]
      omega
    rw [if_neg hlast, if_neg hfull] at ho
    subst ho
    cases hrun
    have hdelivering : s.delivering = false := by
      rw [← Bool.not_eq_true]
      exact fun hd => by
        have := h.below hd
        omega
    exact ⟨⟨h.made, hcount, fun _ => ⟨vc', vcs, _, rfl, htapped'⟩, fun _ => by omega,
      fun hd => by cases hdelivering.symm.trans hd⟩, .inl ⟨by omega, rfl, hdelivering, rfl⟩⟩

end

/-! ## One step -/

/-- All that a phone can do in one step. -/
lemma step_cases {e : PhoneEvent} (hs : (machine bundle target).step s e = some (s', ws)) :
    (∃ e', e = .navigate e' ∧ s.navigate bundle target e' = some s' ∧ ws = []) ∨
      (∃ button ownDate sharedDate, e = .touchAnswer button ownDate sharedDate ∧
        s.touchAnswer button ownDate sharedDate = some (s', ws)) ∨
      (e = .profileAppears ∧ ws = [] ∧
        s' = { s with supportFirebase := some s.session.use, delivering := false }) ∨
      ∃ uid form, e = .register uid form ∧ ws = e.registration ∧
        s' = { s with
          navigation := { s.navigation with currentUser := some uid }
          delivering := false } := by
  cases e with
  | navigate e =>
    have hspinner : e ≠ .loadingSpinner := by
      rintro rfl
      cases hs
    have hs' : (s.navigate bundle target e).map (·, ([] : List ResultWrite)) = some (s', ws) := by
      rw [← hs]
      cases e <;> first | rfl | exact absurd rfl hspinner
    obtain ⟨s₁, hnavigate, e'⟩ := Option.map_eq_some_iff.mp hs'
    cases e'
    exact .inl ⟨e, rfl, hnavigate, rfl⟩
  | touchAnswer button ownDate sharedDate => exact .inr (.inl ⟨_, _, _, rfl, hs⟩)
  | profileAppears =>
    obtain ⟨-, hs⟩ := Option.ite_none_right_eq_some.mp hs
    cases hs
    exact .inr (.inr (.inl ⟨rfl, rfl, rfl⟩))
  | register uid form =>
    obtain ⟨requests, hrequests, hs⟩ := Option.bind_eq_some_iff.mp hs
    cases hs
    refine .inr (.inr (.inr ⟨uid, form, rfl, ?_, rfl⟩))
    rw [RegisterForm.writeData_eq] at hrequests
    cases hrequests
    rw [PhoneEvent.registration]
    cases form.profile <;> rfl

section

variable (hload : ∃ vc, viewDidLoad {} bundle 1 = some vc ∧ Tapped questions n [] vc [])
  (ht : questions[0]?.map (·.totalQuestionNumber) = some (n : ℤ)) (h15 : 15 ≤ n)
include hload ht h15

/-- Every step keeps the invariant, with the answers that have been touched. -/
lemma Shows.step {e : PhoneEvent} (h : s.Shows questions n as)
    (hs : (machine bundle target).step s e = some (s', ws)) :
    s'.Shows questions n (e.answersAfter as) := by
  obtain ⟨e, rfl, hstep, rfl⟩ | ⟨button, ownDate, sharedDate, rfl, hstep⟩ | ⟨rfl, rfl, rfl⟩ |
    ⟨uid, form, rfl, rfl, rfl⟩ := step_cases hs
  · exact h.navigate hload (by omega) hstep
  · exact (h.touchAnswer_cases ht h15 hstep).1
  · exact h.of_eq (isMade_use h.made _) rfl rfl rfl
  · exact h.of_eq h.made rfl rfl rfl

omit hload

/-- A touch that finds the test on top is what the session makes of it. -/
lemma Shows.session_touchAnswer {button : AnswerButton} {ownDate sharedDate : Date}
    (h : s.Shows questions n as) (hfinds : s.navigation.AcceptsAnswers)
    (hs : s.touchAnswer button ownDate sharedDate = some (s', ws)) :
    Session.machine.run s.session
      ((PhoneEvent.touchAnswer button ownDate sharedDate).sessionEvents n as) =
        some (s'.session, ws) := by
  have hlt := h.onTop hfinds.2.1
  rw [PhoneEvent.sessionEvents]
  obtain ⟨-, ⟨hlast, hsession, -, rfl⟩ | ⟨hlast, -, uid, scores, huse, hsession, rfl, hscores⟩⟩ :=
    h.touchAnswer_cases ht h15 hs
  · rw [dif_neg fun h => by omega, hsession]
    rfl
  · have hfull : as.length + 1 = n := by omega
    have hopen : openBlock n as = as := by
      rw [openBlock, Nat.div_eq_of_lt hlt, Nat.mul_zero, List.drop_zero]
    rw [hopen] at hscores ⊢
    obtain ⟨hne, -⟩ | ⟨-, score, hscore, rfl⟩ := hscores
    · rw [Nat.mod_eq_of_lt hlt] at hne
      exact absurd hfull hne
    · rw [dif_pos ⟨hfull, h15⟩]
      refine Machine.run_cons_iff.mpr ⟨_, _, [], Session.step_finishTest_of_use _ _ huse hscore, ?_,
        (List.append_nil _).symm⟩
      rw [hsession]
      rfl

/-- A step that finds the test on top is what the session makes of it, with registrations left
out. -/
lemma Shows.session_step {e : PhoneEvent} (h : s.Shows questions n as) (hfinds : e.FindsTest s)
    (hs : (machine bundle target).step s e = some (s', ws)) :
    ∃ writes, Session.machine.run s.session (e.sessionEvents n as) = some (s'.session, writes) ∧
      ws = e.registration ++ writes := by
  obtain ⟨e, rfl, hstep, rfl⟩ | ⟨button, ownDate, sharedDate, rfl, hstep⟩ | ⟨rfl, rfl, rfl⟩ |
    ⟨uid, form, rfl, rfl, rfl⟩ := step_cases hs
  · refine ⟨[], ?_, rfl⟩
    -- the events of the session are the two sign-ins, signing out and showing the profile
    rw [session_navigate hstep]
    cases e with
    | signIn uid inPopup => rfl
    | signInOrOut throws =>
      obtain ⟨⟨currentUser, _, _, _, _, _⟩, _, _, _⟩ := s
      cases currentUser with
      | none => cases throws <;> rfl
      | some uid => rfl
    | selectTab tab => cases tab <;> rfl
    | startScreenLoads | startScreenAppears | dismissLogInScreen | togoTest | loadingSpinner
    | moveToResultScreen | gotoTestScreen => rfl
  · exact ⟨ws, h.session_touchAnswer ht h15 hfinds hstep, rfl⟩
  · exact ⟨[], rfl, rfl⟩
  · exact ⟨[], rfl, (List.append_nil _).symm⟩

/-- After a touch that finds the test on top, all its answers have been given when touches below the
spinner are possible. -/
lemma Shows.length_of_delivering {e : PhoneEvent} (h : s.Shows questions n as)
    (hfinds : e.FindsTest s) (hs : (machine bundle target).step s e = some (s', ws)) :
    s'.delivering → (e.answersAfter as).length = n := by
  obtain ⟨e, rfl, hstep, rfl⟩ | ⟨button, ownDate, sharedDate, rfl, hstep⟩ | ⟨rfl, rfl, rfl⟩ |
    ⟨uid, form, rfl, rfl, rfl⟩ := step_cases hs
  · obtain ⟨_, -, hstep⟩ := Option.bind_eq_some_iff.mp hstep
    obtain ⟨_, -, hstep⟩ := Option.bind_eq_some_iff.mp hstep
    cases hstep
    exact nofun
  · have hlt := h.onTop hfinds.2.1
    have hlength : (as ++ [button.answer]).length = as.length + 1 := by
      rw [List.length_append, List.length_singleton]
    have hbelow := (h.touchAnswer_cases ht h15 hstep).1.below
    rw [hlength] at hbelow
    intro hd
    rw [PhoneEvent.answersAfter, hlength]
    have := hbelow hd
    omega
  · exact nofun
  · exact nofun

/-- The first touch below the spinner sends off a sheet of one answer. -/
lemma Shows.single_of_touchAnswer {button : AnswerButton} {ownDate sharedDate : Date}
    (h : s.Shows questions n as) (hfull : as.length = n)
    (hs : s.touchAnswer button ownDate sharedDate = some (s', ws)) :
    ∃ w ∈ ws, w.isResult ∧ ∃ uid r, w.ownResult uid = some r ∧ r.testScore.length = 1 := by
  obtain ⟨-, ⟨hlast, -⟩ | ⟨-, -, uid, scores, -, -, rfl, -⟩⟩ := h.touchAnswer_cases ht h15 hs
  · omega
  · refine ⟨_, List.mem_cons_self, rfl, uid, _, ResultWrite.ownResult_own _ _, ?_⟩
    rw [List.length_append, length_openBlock, hfull, Nat.mod_self]
    rfl

end

end Phone

namespace Session

variable {s s' : Session} {e : SessionEvent} {writes : List ResultWrite}

/-- Every write of the session is a result, and those for the own documents are long enough. -/
lemma results_of_step (h : machine.step s e = some (s', writes)) :
    ∀ w ∈ writes, w.isResult ∧ ∀ uid r, w.ownResult uid = some r → 15 ≤ r.testScore.length := by
  cases e with
  | signIn uid | register uid | profileAppears =>
    cases h
    exact List.forall_mem_nil _
  | signInOrOut throws =>
    obtain ⟨auth, supportFirebase⟩ := s
    cases auth <;> cases h <;> exact List.forall_mem_nil _
  | finishTest sheet ownDate sharedDate =>
    rw [step_finishTest] at h
    obtain ⟨own, hown, h⟩ := Option.bind_eq_some_iff.mp h
    obtain ⟨shared, hshared, h⟩ := Option.bind_eq_some_iff.mp h
    obtain ⟨uploaded, -, h⟩ := Option.bind_eq_some_iff.mp h
    cases h
    have hne : s.use.currentUser ≠ "" := by
      intro he
      have htrap : (⟨""⟩ : SupportFirebase).updateTestScore sheet.answers ownDate = none := rfl
      rw [show s.use = ⟨""⟩ from congrArg SupportFirebase.mk he, htrap] at hown
      cases hown
    rw [SupportFirebase.updateTestScore, SupportFirebase.testScoreRequest_eq _ hne] at hown
    rw [SupportFirebase.updateAllTestScore, SupportFirebase.allTestScoreRequest_eq] at hshared
    cases hown
    cases hshared
    simp only [List.cons_append, List.nil_append, List.forall_mem_cons]
    refine ⟨⟨rfl, fun uid r hr => ?_⟩, ⟨rfl, fun uid r hr => ?_⟩, fun w hw => ?_⟩
    · rw [ResultWrite.ownResult, TestResult.decode_encode] at hr
      obtain ⟨-, hr⟩ := Option.ite_none_right_eq_some.mp hr
      rw [← Option.some.inj hr]
      exact sheet.full
    · rw [ResultWrite.ownResult_shared] at hr
      cases hr
    · obtain ⟨user, -, rfl⟩ := List.mem_map.mp hw
      exact ⟨rfl, fun uid r hr => by cases hr⟩

/-- A run of the session writes results only, and own results of 15 answers at least. -/
lemma results_of_run {es : List SessionEvent} (h : machine.run s es = some (s', writes)) :
    ∀ w ∈ writes, w.isResult ∧ ∀ uid r, w.ownResult uid = some r → 15 ≤ r.testScore.length := by
  refine Machine.run_rule (P := fun _ _ writes => ∀ w ∈ writes, w.isResult ∧
    ∀ uid r, w.ownResult uid = some r → 15 ≤ r.testScore.length) (List.forall_mem_nil _) ?_ h
  rintro es s writes e s' o - ih hs
  exact List.forall_mem_append.mpr ⟨ih, results_of_step hs⟩

end Session

/-- A run of a phone: what it shows, the session that it is as long as every touch finds the test,
and the sheet of one answer that it sends off otherwise. -/
lemma Phone.session_of_run {bundle : Bundle} {target : SegueTarget} {n : ℕ}
    {results : List (List (String × Json))} {currentUser : Option Uid} {es : List PhoneEvent}
    {s : Phone} {ws : List ResultWrite}
    (hfile : (bundle "testQuestion1").questions 1 = some (results, (n : ℤ)))
    (hresults : results ≠ []) (h15 : 15 ≤ n)
    (hrun : (machine bundle target).run (launch currentUser) es = some (s, ws)) :
    ((machine bundle target).EachStep (launch currentUser) es (fun s e => e.FindsTest s) →
      Session.machine.run (.launch currentUser) (history n es).1 =
        some (s.session, ws.filter ResultWrite.isResult)) ∧
    (¬ (machine bundle target).EachStep (launch currentUser) es (fun s e => e.FindsTest s) →
      ∃ w ∈ ws, w.isResult ∧ ∃ uid r, w.ownResult uid = some r ∧ r.testScore.length = 1) := by
  obtain ⟨ht, vc, hload, htapped⟩ := @viewDidLoad_of_ne_nil n bundle 1 results hfile hresults
  have hinv := Machine.run_rule (P := fun es s ws =>
    s.Shows (results.map (TestQuestion.ofDictionary n)) n (history n es).2 ∧
    ((machine bundle target).EachStep (launch currentUser) es (fun s e => e.FindsTest s) →
      (s.delivering → (history n es).2.length = n) ∧
      Session.machine.run (.launch currentUser) (history n es).1 =
        some (s.session, ws.filter ResultWrite.isResult)) ∧
    (¬ (machine bundle target).EachStep (launch currentUser) es (fun s e => e.FindsTest s) →
      ∃ w ∈ ws, w.isResult ∧ ∃ uid r, w.ownResult uid = some r ∧ r.testScore.length = 1))
    ⟨.launch currentUser, fun _ => ⟨nofun, rfl⟩, fun h => absurd Machine.eachStep_nil h⟩ ?_ hrun
  · exact ⟨fun h => (hinv.2.1 h).2, hinv.2.2⟩
  rintro es s ws e s' o hr ⟨hshows, horderly, hsingle⟩ hs
  refine ⟨history_concat n es e ▸ hshows.step ⟨vc, hload, htapped⟩ ht h15 hs, ?_, ?_⟩
  · rw [Machine.eachStep_concat hr]
    rintro ⟨hes, hfinds⟩
    obtain ⟨hdelivering, hsession⟩ := horderly hes
    obtain ⟨writes, hstep, rfl⟩ := hshows.session_step ht h15 hfinds hs
    have hregistration : e.registration.filter ResultWrite.isResult = [] := by
      cases e with
      | register uid form =>
        rw [PhoneEvent.registration]
        cases form.profile <;> rfl
      | navigate | touchAnswer | profileAppears => rfl
    have hwrites : writes.filter ResultWrite.isResult = writes :=
      List.filter_eq_self.mpr fun w hw => (Session.results_of_run hstep w hw).1
    rw [history_concat]
    refine ⟨hshows.length_of_delivering ht h15 hfinds hs, ?_⟩
    rw [Machine.run_append, hsession, Option.bind_some, hstep, Option.map_some, List.filter_append,
      List.filter_append, hregistration, List.nil_append, hwrites]
  · rw [Machine.eachStep_concat hr]
    intro hnot
    by_cases hes : (machine bundle target).EachStep (launch currentUser) es
        (fun s e => e.FindsTest s)
    · have hfinds : ¬ e.FindsTest s := fun h => hnot ⟨hes, h⟩
      obtain ⟨button, ownDate, sharedDate, rfl⟩ : ∃ button ownDate sharedDate,
          e = .touchAnswer button ownDate sharedDate := by
        cases e with
        | touchAnswer button ownDate sharedDate => exact ⟨_, _, _, rfl⟩
        | navigate | profileAppears | register => exact absurd trivial hfinds
      obtain ⟨hallowed, -⟩ := Option.ite_none_right_eq_some.mp hs
      obtain ⟨w, hw, hone⟩ := hshows.single_of_touchAnswer ht h15
        ((horderly hes).1 (hallowed.resolve_left hfinds)) hs
      exact ⟨w, List.mem_append_right _ hw, hone⟩
    · obtain ⟨w, hw, hone⟩ := hsingle hes
      exact ⟨w, List.mem_append_left _ hw, hone⟩

/-- On a phone with a question file of `n ≥ 15` questions, a run is a run of the session exactly if
every answer is touched with the test on top. It then is the run of the session events that it comes
down to: the session ends in the same state, and the results that the phone sends off are those of
the session, in order. Every finished test of these events is a sheet of `n` answers from 1 to 5. -/
theorem phone_refines_session (bundle : Bundle) (target : SegueTarget) (n : ℕ)
    (results : List (List (String × Json))) (currentUser : Option Uid) (es : List PhoneEvent)
    (s : Phone) (os : List ResultWrite)
    (hfile : (bundle "testQuestion1").questions 1 = some (results, (n : ℤ)))
    (hresults : results ≠ []) (h15 : 15 ≤ n)
    (hrun : (Phone.machine bundle target).run (.launch currentUser) es = some (s, os)) :
    ((∃ events t, Session.machine.run (.launch currentUser) events =
        some (t, os.filter ResultWrite.isResult)) ↔
      (Phone.machine bundle target).EachStep (.launch currentUser) es fun s e => e.FindsTest s) ∧
    ((Phone.machine bundle target).EachStep (.launch currentUser) es (fun s e => e.FindsTest s) →
      Session.machine.run (.launch currentUser) (history n es).1 =
        some (s.session, os.filter ResultWrite.isResult)) ∧
    ∀ sheet ownDate sharedDate,
      .finishTest sheet ownDate sharedDate ∈ (history n es).1 → IsWhole n sheet.answers := by
  obtain ⟨hsession, hsingle⟩ := Phone.session_of_run hfile hresults h15 hrun
  refine ⟨⟨?_, fun h => ⟨_, _, hsession h⟩⟩, hsession, fun _ _ _ => isWhole_of_mem_history⟩
  rintro ⟨events, t, hevents⟩
  by_contra hnot
  obtain ⟨w, hw, hresult, uid, r, hr, hone⟩ := hsingle hnot
  have hlong := (Session.results_of_run hevents w (List.mem_filter.mpr ⟨hw, hresult⟩)).2 uid r hr
  omega

/-- A user registers and gives the same answer to all questions of the test. -/
def PhoneEvent.registeredTest (u : Uid) (button : AnswerButton) : List PhoneEvent :=
  [.register u (.filledIn "a@b.c" "secret" "Female" "Junior" "History"),
    .navigate (.selectTab .test), .navigate .startScreenLoads, .navigate .startScreenAppears,
    .navigate .togoTest] ++ List.replicate 15 (.touchAnswer button ⟨0, 0⟩ ⟨0, 0⟩)

/-- A run of the session, and the same run with one more answer touched together with the last. -/
theorem phone_refines_session_registered :
    let es := PhoneEvent.registeredTest (.letter 'a' rfl) .answer2
    (∃ s os, (Phone.machine Bundle.main .popupLogin).run (.launch none) es = some (s, os) ∧
      (os.filter ResultWrite.isResult).length = 3 ∧
      Session.machine.run (.launch none) (history 15 es).1 =
        some (s.session, os.filter ResultWrite.isResult)) ∧
    ∃ s os, (Phone.machine Bundle.main .popupLogin).run (.launch none)
        (es ++ [.touchAnswer .answer1 ⟨0, 0⟩ ⟨0, 0⟩]) = some (s, os) ∧
      ¬ ∃ events t, Session.machine.run (.launch none) events =
        some (t, os.filter ResultWrite.isResult) := by
  intro es
  constructor
  · have hlength : ((Phone.machine Bundle.main .popupLogin).run (.launch none) es).map
        (fun r => (r.2.filter ResultWrite.isResult).length) = some 3 := by rfl
    obtain ⟨⟨s, os⟩, hrun, hlength⟩ := Option.map_eq_some_iff.mp hlength
    have h := phone_refines_session Bundle.main .popupLogin 15 _ none es s os rfl (by decide)
      (by decide) hrun
    exact ⟨s, os, hrun, hlength, h.2.1 (by decide)⟩
  · have hsome : ((Phone.machine Bundle.main .popupLogin).run (.launch none)
        (es ++ [.touchAnswer .answer1 ⟨0, 0⟩ ⟨0, 0⟩])).isSome := rfl
    obtain ⟨⟨s, os⟩, hrun⟩ := Option.isSome_iff_exists.mp hsome
    have h := phone_refines_session Bundle.main .popupLogin 15 _ none _ s os rfl (by decide)
      (by decide) hrun
    exact ⟨s, os, hrun, fun hevents => absurd (h.1.mp hevents) (by decide)⟩

end Soliu
