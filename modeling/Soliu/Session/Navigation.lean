import Soliu.Basic.Machine
import Soliu.Records.SupportFirebase

/-!
# Who gets to the test

The screens of the Test tab, the login popup over its start screen, and who is signed in. The only
gate is `isLoggedIn` of the start screen, which shows the popup when the screen loads and when it
appears. It is not asked when YES is tapped, which pushes the test twice, by an action and by a
segue, and not when the user comes back to the tab with the test on top. `test_gated_iff` says
exactly which runs never show the test, ready for answers, while nobody is signed in.

No screen of the Test tab goes back by one: its navigation bar is hidden and nothing is popped. Only
a tap on the tab that is selected already goes back, to the first screen (`popToRoot`).

Two segues of the start screen share the identifier `testLoginScreen`, one to the popup and one to
the test; which of them `performSegue` takes is left open (`SegueTarget`).
-/

namespace Soliu

/-- The tabs of the application. -/
inductive Tab where
  | diary
  | test
  | profile
deriving DecidableEq

/-- The screens on the stack of the Test tab. -/
inductive Screen where
  | newStartTestScreen
  | testDetail
  | loadingSpinner
  | testResult
deriving DecidableEq

/-- What `performSegue(withIdentifier: "testLoginScreen")` leads to. -/
inductive SegueTarget where
  | popupLogin
  | testDetail
deriving DecidableEq

/-- The state of the screens, with the top of the navigation stack first. -/
structure Navigation where
  currentUser : Option Uid
  tab : Tab := .diary
  testStack : List Screen := [.newStartTestScreen]
  /-- `viewDidLoad` of the start screen on top has run. -/
  startLoaded : Bool := false
  /-- `viewWillAppear` has run since the start screen on top was last hidden. -/
  startAppeared : Bool := false
  popupLogin : Bool := false
deriving DecidableEq

/-- What happens to the Test tab, and to who is signed in. -/
inductive NavigationEvent where
  | startScreenLoads
  | startScreenAppears
  | dismissLogInScreen
  /-- The YES button. -/
  | togoTest
  /-- A sign-in succeeds, in the popup or on another screen. -/
  | signIn (uid : Uid) (inPopup : Bool)
  /-- The button of the Diary tab; `Auth` may refuse to sign out. -/
  | signInOrOut (throws : Bool)
  | selectTab (tab : Tab)
  /-- The last answer has been given, or one more that was touched together with it. -/
  | loadingSpinner
  /-- A spinner has been there for two seconds. -/
  | moveToResultScreen
  | gotoTestScreen
deriving DecidableEq

namespace Navigation

/-- Push a screen; a start screen has yet to load and to appear. -/
def push (s : Navigation) (screen : Screen) : Navigation :=
  { s with testStack := screen :: s.testStack, startLoaded := false, startAppeared := false }

/-- The screen on top of the stack. -/
def top (s : Navigation) : Option Screen := s.testStack.head?

/-- A tab that is selected again goes back to its first screen, which has been loaded before. -/
def popToRoot (s : Navigation) : Navigation :=
  if s.tab = .test ∧ 1 < s.testStack.length then
    { s with testStack := [.newStartTestScreen], startLoaded := true, startAppeared := false }
  else s

/-- The check of the start screen, and the segue it performs if nobody is signed in. -/
def isLoggedIn (target : SegueTarget) (s : Navigation) : Navigation :=
  if s.currentUser = none then
    match target with
    | .popupLogin => { s with popupLogin := true }
    | .testDetail => s.push .testDetail
  else s

/-- One event, or `none` where it cannot occur: a control has to be visible and not covered by the
popup, and the start screen loads before it appears. -/
def step (target : SegueTarget) (s : Navigation) : NavigationEvent → Option Navigation
  | .startScreenLoads =>
    if s.tab = .test ∧ s.top = some .newStartTestScreen ∧ ¬ s.startLoaded then
      some ({ s with startLoaded := true }.isLoggedIn target)
    else none
  | .startScreenAppears =>
    if s.tab = .test ∧ s.top = some .newStartTestScreen ∧ s.startLoaded ∧ ¬ s.startAppeared then
      some ({ s with startAppeared := true }.isLoggedIn target)
    else none
  | .dismissLogInScreen =>
    if s.popupLogin then some { s with popupLogin := false } else none
  | .togoTest =>
    if s.tab = .test ∧ s.top = some .newStartTestScreen ∧ s.startAppeared ∧ ¬ s.popupLogin then
      -- the action and the segue of the button
      some ((s.push .testDetail).push .testDetail)
    else none
  | .signIn uid inPopup =>
    if inPopup then
      if s.popupLogin then some { s with currentUser := some uid, popupLogin := false } else none
    else some { s with currentUser := some uid }
  | .signInOrOut throws =>
    -- without a user the button opens the login screen and signs nobody out
    if s.tab = .diary ∧ ¬ s.popupLogin then
      some { s with currentUser := if throws then s.currentUser else none }
    else none
  | .selectTab tab =>
    if s.popupLogin then none
    else if s.tab = tab then some s.popToRoot
    -- the start screen will appear again, a test on top does not ask
    else some { s with tab, startAppeared := false }
  | .loadingSpinner =>
    if s.tab = .test ∧ (s.top = some .testDetail ∨ s.top = some .loadingSpinner) ∧
        ¬ s.popupLogin then
      some (s.push .loadingSpinner)
    else none
  | .moveToResultScreen =>
    -- each spinner pushes one result, and a start screen that gets covered dismisses its popup
    if s.testStack.count .testResult < s.testStack.count .loadingSpinner then
      some { s.push .testResult with popupLogin := false }
    else none
  | .gotoTestScreen =>
    if s.tab = .test ∧ s.top = some .testResult ∧ ¬ s.popupLogin then
      some (s.push .newStartTestScreen)
    else none

/-- The branches of `step`: what an event finds where it can occur, and what it leaves. -/
inductive Step (target : SegueTarget) (s : Navigation) : NavigationEvent → Navigation → Prop
  | startScreenLoads (htab : s.tab = .test) (htop : s.top = some .newStartTestScreen)
      (hloaded : ¬ s.startLoaded) :
      Step target s .startScreenLoads ({ s with startLoaded := true }.isLoggedIn target)
  | startScreenAppears (htab : s.tab = .test) (htop : s.top = some .newStartTestScreen)
      (hloaded : s.startLoaded) (happeared : ¬ s.startAppeared) :
      Step target s .startScreenAppears ({ s with startAppeared := true }.isLoggedIn target)
  | dismissLogInScreen (hp : s.popupLogin) :
      Step target s .dismissLogInScreen { s with popupLogin := false }
  | togoTest (htab : s.tab = .test) (htop : s.top = some .newStartTestScreen)
      (happeared : s.startAppeared) (hp : ¬ s.popupLogin) :
      Step target s .togoTest ((s.push .testDetail).push .testDetail)
  | signInPopup (uid : Uid) (hp : s.popupLogin) :
      Step target s (.signIn uid true) { s with currentUser := some uid, popupLogin := false }
  | signIn (uid : Uid) : Step target s (.signIn uid false) { s with currentUser := some uid }
  | signInOrOut (throws : Bool) (htab : s.tab = .diary) (hp : ¬ s.popupLogin) :
      Step target s (.signInOrOut throws)
        { s with currentUser := if throws then s.currentUser else none }
  | selectAgain (hp : ¬ s.popupLogin) : Step target s (.selectTab s.tab) s.popToRoot
  | selectTab (tab : Tab) (hp : ¬ s.popupLogin) (hne : s.tab ≠ tab) :
      Step target s (.selectTab tab) { s with tab, startAppeared := false }
  | loadingSpinner (htab : s.tab = .test)
      (htop : s.top = some .testDetail ∨ s.top = some .loadingSpinner) (hp : ¬ s.popupLogin) :
      Step target s .loadingSpinner (s.push .loadingSpinner)
  | moveToResultScreen
      (hcount : s.testStack.count .testResult < s.testStack.count .loadingSpinner) :
      Step target s .moveToResultScreen { s.push .testResult with popupLogin := false }
  | gotoTestScreen (htab : s.tab = .test) (htop : s.top = some .testResult)
      (hp : ¬ s.popupLogin) :
      Step target s .gotoTestScreen (s.push .newStartTestScreen)

/-- The Test tab as a machine. -/
def machine (target : SegueTarget) : Machine Navigation NavigationEvent Empty where
  step s e := (s.step target e).map (·, [])

/-- The application at its launch, with the user whom Auth remembers. -/
def launch (currentUser : Option Uid) : Navigation := { currentUser }

/-- The test is on top and nothing lies over it. -/
def AcceptsAnswers (s : Navigation) : Prop :=
  s.tab = .test ∧ s.top = some .testDetail ∧ ¬ s.popupLogin

/-- The test takes answers only while somebody is signed in. -/
def IsGated (s : Navigation) : Prop :=
  s.AcceptsAnswers → s.currentUser.isSome

/-- The popup is only ever over a start screen, and only if the gate opens it. -/
def PopupOverStart (target : SegueTarget) (s : Navigation) : Prop :=
  s.popupLogin → target = .popupLogin ∧ s.top = some .newStartTestScreen

end Navigation

/-- The event does not bring up the test for nobody: YES is tapped by a user, nobody comes back from
another tab with the test on top, and a gate that opens the test instead of the popup opens it for
no one. -/
def NavigationEvent.KeepsGate (target : SegueTarget) (s : Navigation) : NavigationEvent → Prop
  | startScreenLoads => target = .popupLogin ∨ s.currentUser.isSome
  | startScreenAppears => target = .popupLogin ∨ s.currentUser.isSome
  | togoTest => s.currentUser.isSome
  | selectTab tab =>
    tab = .test → s.tab ≠ .test → s.top = some .testDetail → s.currentUser.isSome
  | _ => True

namespace Navigation

variable {target : SegueTarget} {s s' : Navigation}

/-- The gate lets a user through, and shows nobody the popup or the test. -/
lemma isLoggedIn_cases (target : SegueTarget) (s : Navigation) :
    (s.currentUser.isSome ∧ s.isLoggedIn target = s) ∨
      (s.currentUser = none ∧ target = .popupLogin ∧
        s.isLoggedIn target = { s with popupLogin := true }) ∨
      (s.currentUser = none ∧ target = .testDetail ∧ s.isLoggedIn target = s.push .testDetail) := by
  by_cases hu : s.currentUser = none
  · cases target with
    | popupLogin => exact .inr (.inl ⟨hu, rfl, if_pos hu⟩)
    | testDetail => exact .inr (.inr ⟨hu, rfl, if_pos hu⟩)
  · exact .inl ⟨Option.isSome_iff_ne_none.mpr hu, if_neg hu⟩

/-- The check keeps the popup over the start screen. -/
lemma PopupOverStart.isLoggedIn (h : s.PopupOverStart target)
    (ht : s.top = some .newStartTestScreen) : (s.isLoggedIn target).PopupOverStart target := by
  obtain ⟨-, e⟩ | ⟨-, rfl, e⟩ | ⟨-, rfl, e⟩ := isLoggedIn_cases target s
  · rwa [e]
  · rw [e]
    exact fun _ => ⟨rfl, ht⟩
  · rw [e]
    exact fun hp => nomatch (h hp).1

/-- Popping to the first screen leaves the popup. -/
@[simp]
lemma popupLogin_popToRoot (s : Navigation) : s.popToRoot.popupLogin = s.popupLogin := by
  rw [popToRoot]
  split <;> rfl

/-- Popping to the first screen leaves the tab. -/
@[simp]
lemma tab_popToRoot (s : Navigation) : s.popToRoot.tab = s.tab := by
  rw [popToRoot]
  split <;> rfl

/-- Popping to the first screen leaves the user. -/
@[simp]
lemma currentUser_popToRoot (s : Navigation) : s.popToRoot.currentUser = s.currentUser := by
  rw [popToRoot]
  split <;> rfl

/-- A tap on the selected tab shows the start screen, or changes nothing. -/
lemma IsGated.popToRoot (h : s.IsGated) : s.popToRoot.IsGated := by
  rw [Navigation.popToRoot]
  split
  · exact fun ha => nomatch ha.2.1
  · exact h

/-- The gate of a visible start screen opens the test for nobody exactly if its segue does. -/
lemma isGated_isLoggedIn_iff (htab : s.tab = .test) (h : s.PopupOverStart target) :
    (s.isLoggedIn target).IsGated ↔ target = .popupLogin ∨ s.currentUser.isSome := by
  obtain ⟨hu, e⟩ | ⟨hu, rfl, e⟩ | ⟨hu, rfl, e⟩ := isLoggedIn_cases target s
  · rw [e]
    exact iff_of_true (fun _ => hu) (.inr hu)
  · rw [e]
    exact iff_of_true (fun ha => absurd rfl ha.2.2) (.inl rfl)
  · rw [e]
    refine iff_of_false (fun hg => ?_) ?_
    · have hp : ¬ s.popupLogin := fun hp => nomatch (h hp).1
      have := hg ⟨htab, rfl, hp⟩
      rw [push, hu] at this
      cases this
    · rw [hu]
      rintro (h | h) <;> cases h

/-- A step takes one of its branches. -/
lemma step_cases {e : NavigationEvent} (hs : s.step target e = some s') : Step target s e s' := by
  cases e with
  | startScreenLoads =>
    obtain ⟨⟨htab, htop, hloaded⟩, hs⟩ := Option.ite_none_right_eq_some.mp hs
    cases hs
    exact .startScreenLoads htab htop hloaded
  | startScreenAppears =>
    obtain ⟨⟨htab, htop, hloaded, happeared⟩, hs⟩ := Option.ite_none_right_eq_some.mp hs
    cases hs
    exact .startScreenAppears htab htop hloaded happeared
  | dismissLogInScreen =>
    obtain ⟨hp, hs⟩ := Option.ite_none_right_eq_some.mp hs
    cases hs
    exact .dismissLogInScreen hp
  | togoTest =>
    obtain ⟨⟨htab, htop, happeared, hp⟩, hs⟩ := Option.ite_none_right_eq_some.mp hs
    cases hs
    exact .togoTest htab htop happeared hp
  | signIn uid inPopup =>
    cases inPopup with
    | true =>
      obtain ⟨hp, hs⟩ := Option.ite_none_right_eq_some.mp hs
      cases hs
      exact .signInPopup uid hp
    | false =>
      cases hs
      exact .signIn uid
  | signInOrOut throws =>
    obtain ⟨⟨htab, hp⟩, hs⟩ := Option.ite_none_right_eq_some.mp hs
    cases hs
    exact .signInOrOut throws htab hp
  | selectTab tab =>
    obtain ⟨hp, hs⟩ := Option.ite_none_left_eq_some.mp hs
    split at hs
    case isTrue htab =>
      cases hs
      exact htab ▸ .selectAgain hp
    case isFalse hne =>
      cases hs
      exact .selectTab tab hp hne
  | loadingSpinner =>
    obtain ⟨⟨htab, htop, hp⟩, hs⟩ := Option.ite_none_right_eq_some.mp hs
    cases hs
    exact .loadingSpinner htab htop hp
  | moveToResultScreen =>
    obtain ⟨hcount, hs⟩ := Option.ite_none_right_eq_some.mp hs
    cases hs
    exact .moveToResultScreen hcount
  | gotoTestScreen =>
    obtain ⟨⟨htab, htop, hp⟩, hs⟩ := Option.ite_none_right_eq_some.mp hs
    cases hs
    exact .gotoTestScreen htab htop hp

/-- Every step keeps the popup over the start screen. -/
lemma PopupOverStart.step {e : NavigationEvent} {o : List Empty} (h : s.PopupOverStart target)
    (hs : (machine target).step s e = some (s', o)) : s'.PopupOverStart target := by
  obtain ⟨s₁, hn, e'⟩ := Option.map_eq_some_iff.mp hs
  cases e'
  cases step_cases hn with
  | startScreenLoads htab htop =>
    exact PopupOverStart.isLoggedIn (s := { s with startLoaded := true }) h htop
  | startScreenAppears htab htop =>
    exact PopupOverStart.isLoggedIn (s := { s with startAppeared := true }) h htop
  | dismissLogInScreen | signInPopup | moveToResultScreen => exact fun hp => nomatch hp
  | signIn | signInOrOut | selectTab => exact h
  | selectAgain hp => exact fun hp' => absurd (s.popupLogin_popToRoot ▸ hp') hp
  | togoTest htab htop happeared hp => exact fun hp' => absurd hp' hp
  | loadingSpinner htab htop hp => exact fun hp' => absurd hp' hp
  | gotoTestScreen htab htop hp => exact fun hp' => absurd hp' hp

/-- From a gated state an event leads to a gated state exactly if it keeps the gate. -/
lemma isGated_step_iff {e : NavigationEvent} {o : List Empty} (h : s.PopupOverStart target)
    (hg : s.IsGated) (hs : (machine target).step s e = some (s', o)) :
    e.KeepsGate target s ↔ s'.IsGated := by
  obtain ⟨s₁, hn, e'⟩ := Option.map_eq_some_iff.mp hs
  cases e'
  cases step_cases hn with
  | startScreenLoads htab =>
    exact (isGated_isLoggedIn_iff (s := { s with startLoaded := true }) htab h).symm
  | startScreenAppears htab =>
    exact (isGated_isLoggedIn_iff (s := { s with startAppeared := true }) htab h).symm
  | dismissLogInScreen hp =>
    refine iff_of_true trivial fun ha => ?_
    have ht := (h hp).2.symm.trans ha.2.1
    cases ht
  | togoTest htab htop happeared hp =>
    -- the test is on top of itself: two screens, and the upper one takes answers
    exact ⟨fun hu _ => hu, fun hg' => hg' ⟨htab, rfl, hp⟩⟩
  | signInPopup | signIn => exact iff_of_true trivial fun _ => rfl
  | signInOrOut throws htab =>
    -- the Diary tab is on screen, so the test is not
    exact iff_of_true trivial fun ha => nomatch htab.symm.trans ha.1
  | selectAgain => exact iff_of_true (fun ht htab => absurd ht htab) hg.popToRoot
  | selectTab tab hp hne =>
    exact ⟨fun hk ha => hk ha.1 (fun htab => hne (htab.trans ha.1.symm)) ha.2.1,
      fun hg' ht _ htop => hg' ⟨ht, htop, hp⟩⟩
  | loadingSpinner | moveToResultScreen | gotoTestScreen =>
    exact iff_of_true trivial fun ha => nomatch ha.2.1

end Navigation

/-- In every run of events that can occur one after the other: the test takes answers only while
somebody is signed in, in every state of the run, exactly if every event of it keeps the gate. -/
theorem test_gated_iff (target : SegueTarget) (currentUser : Option Uid)
    (es : List NavigationEvent)
    (hrun : ((Navigation.machine target).run (.launch currentUser) es).isSome) :
    (Navigation.machine target).Along (.launch currentUser) es Navigation.IsGated ↔
      (Navigation.machine target).EachStep (.launch currentUser) es fun s e =>
        e.KeepsGate target s := by
  obtain ⟨r, hr⟩ := Option.isSome_iff_exists.mp hrun
  have hpopup : (Navigation.launch currentUser).PopupOverStart target := fun hp => nomatch hp
  have hlaunch : (Navigation.launch currentUser).IsGated := fun ha => nomatch ha.1
  exact Machine.along_iff_eachStep Navigation.PopupOverStart.step Navigation.isGated_step_iff hpopup
    hlaunch hr

/-- A user who is signed in takes the test, signs out on the Diary tab and signs in again. -/
theorem test_gated_iff_signed_in :
    (Navigation.machine .popupLogin).Along (.launch (some (.letter 'a' rfl)))
        [.selectTab .test, .startScreenLoads, .startScreenAppears, .togoTest, .selectTab .diary,
          .signInOrOut false, .signIn (.letter 'a' rfl) false, .selectTab .test]
        Navigation.IsGated ↔
      (Navigation.machine .popupLogin).EachStep (.launch (some (.letter 'a' rfl)))
        [.selectTab .test, .startScreenLoads, .startScreenAppears, .togoTest, .selectTab .diary,
          .signInOrOut false, .signIn (.letter 'a' rfl) false, .selectTab .test]
        fun s e => e.KeepsGate .popupLogin s :=
  test_gated_iff .popupLogin (some (.letter 'a' rfl)) _ rfl

/-- Nobody is signed in; the popup is cancelled and YES is tapped. -/
theorem test_opens_for_nobody :
    ¬ ∀ (target : SegueTarget) (currentUser : Option Uid) (es : List NavigationEvent),
      ((Navigation.machine target).run (.launch currentUser) es).isSome →
        (Navigation.machine target).Along (.launch currentUser) es Navigation.IsGated := by
  intro h
  let es : List NavigationEvent := [.selectTab .test, .startScreenLoads, .startScreenAppears,
    .dismissLogInScreen, .togoTest]
  have hg := h .popupLogin none es rfl es [] _ [] rfl rfl
  exact absurd (hg ⟨rfl, rfl, by decide⟩) (by decide)

end Soliu
