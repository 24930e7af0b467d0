import Soliu.Records.Register
import Soliu.Session.Navigation

/-!
# The button of the Diary tab

The button says `Sign In` or `Sign Out`, and a tap goes by who is signed in when it is tapped. The
title is set when the screen appears and after each tap, but not when a sign-in completes that was
still on the way. `button_matches_iff` says when the title and the tap agree all along a run.

A sign-in that completes takes away the screen on top, if the login screen that has made it is still
on the stack, and nothing otherwise.
-/

namespace Soliu

/-- The screens that are pushed over the diary; login screens are numbered. -/
inductive AccountScreen where
  | login (number : ℕ)
  | register
deriving DecidableEq

/-- The error codes of Auth that the login screen tells apart. -/
inductive SignInErrorCode where
  | operationNotAllowed
  | userDisabled
  | wrongPassword
  | invalidEmail
  /-- Every other code, and a code that is not known. -/
  | other
deriving DecidableEq

/-- The error of a sign-in that failed. -/
structure SignInError where
  code : SignInErrorCode
  localizedDescription : String
deriving DecidableEq

/-- The alert for a sign-in that failed. -/
def SignInError.alert (error : SignInError) : Alert :=
  match error.code with
  | .operationNotAllowed =>
    ⟨"Server Issue", "Currently, our server has issues.\nPlease try again later."⟩
  | .userDisabled =>
    ⟨"Email Issue", "We can't find your email.\nPlease check your email"⟩
  | .wrongPassword =>
    ⟨"Wrong Password", "Your password word is incorrect\nPlease try another password"⟩
  | .invalidEmail =>
    ⟨"Email Issue", "We can't find your email.\nPlease check your email"⟩
  | .other => ⟨"Error", error.localizedDescription⟩

/-- The Diary tab: who is signed in, its screens and the title of its button. -/
structure DiaryTab where
  currentUser : Option Uid
  /-- The Diary tab is the one that is selected. -/
  onScreen : Bool := true
  /-- What has been pushed over the diary, top first. -/
  screens : List AccountScreen := []
  signInButton : String
  /-- The login screens of the sign-ins that have not completed. -/
  calls : List ℕ := []
  loginCount : ℕ := 0
deriving DecidableEq

/-- What happens to the Diary tab. -/
inductive DiaryTabEvent where
  | selectTab (diary : Bool)
  | signInOrOut (throws : Bool)
  | openRegisterView
  | back
  /-- The button of the login screen. -/
  | signIn
  | signInCompletes (k : ℕ) (result : Except SignInError Uid)
  /-- The Okay of the alert that a registration has succeeded. -/
  | okay
  /-- A sign-in of another tab or a registration succeeds. -/
  | signsInElsewhere (uid : Uid)

/-- The title for a user, or for nobody. -/
def signInTitle (currentUser : Option Uid) : String :=
  if currentUser = none then "Sign In" else "Sign Out"

namespace DiaryTab

/-- The application at its launch, with the title set. -/
def launch (currentUser : Option Uid) : DiaryTab where
  currentUser
  signInButton := signInTitle currentUser

/-- Sets the title to the user signed in now. -/
def setupUI (s : DiaryTab) : DiaryTab := { s with signInButton := signInTitle s.currentUser }

/-- The diary itself is seen. -/
def ShowsMain (s : DiaryTab) : Prop := s.onScreen ∧ s.screens = []

/-- Whether the diary is seen is decided by tab and stack. -/
instance (s : DiaryTab) : Decidable s.ShowsMain := inferInstanceAs (Decidable (_ ∧ _))

/-- If the diary has come to the top, its `viewDidAppear` runs. -/
def appear (s : DiaryTab) : DiaryTab := if s.ShowsMain then s.setupUI else s

/-- The action of the button: it opens the login screen or signs out. -/
def signInOrOut (s : DiaryTab) (throws : Bool) : DiaryTab :=
  if s.currentUser = none then
    { s.setupUI with
      screens := .login s.loginCount :: s.screens
      loginCount := s.loginCount + 1 }
  else { s with currentUser := if throws then s.currentUser else none }.setupUI

/-- The completion of a sign-in of this login screen. -/
def completion (s : DiaryTab) (number : ℕ) : Except SignInError Uid → DiaryTab × List Alert
  | .error error => (s, [error.alert])
  | .ok uid =>
    let s := { s with currentUser := some uid }
    -- a screen that is gone has no `navigationController`
    if .login number ∈ s.screens then ({ s with screens := s.screens.tail }.appear, [])
    else (s, [])

/-- One event of the Diary tab, if its screens allow it. -/
def step (s : DiaryTab) : DiaryTabEvent → Option (DiaryTab × List Alert)
  | .selectTab false => some ({ s with onScreen := false }, [])
  | .selectTab true =>
    -- the selected tab goes back to its first screen
    if s.onScreen then some (if s.screens = [] then s else { s with screens := [] }.appear, [])
    else some ({ s with onScreen := true }.appear, [])
  | .signInOrOut throws => if s.ShowsMain then some (s.signInOrOut throws, []) else none
  | .openRegisterView =>
    match s.onScreen, s.screens with
    | true, .login number :: screens =>
      some ({ s with screens := .register :: .login number :: screens }, [])
    | _, _ => none
  | .back =>
    match s.onScreen, s.screens with
    | true, _ :: screens => some ({ s with screens }.appear, [])
    | _, _ => none
  | .signIn =>
    match s.onScreen, s.screens with
    | true, .login number :: _ => some ({ s with calls := s.calls ++ [number] }, [])
    | _, _ => none
  | .signInCompletes k result =>
    s.calls[k]?.map fun number => { s with calls := s.calls.eraseIdx k }.completion number result
  | .okay =>
    if .register ∈ s.screens then some ({ s with screens := [] }.appear, []) else none
  | .signsInElsewhere uid => some ({ s with currentUser := some uid }, [])

/-- The Diary tab as a machine. -/
def machine : Machine DiaryTab DiaryTabEvent Alert := ⟨step⟩

/-- On the screen of the diary, the title says what a tap on the button does. -/
def ButtonMatches (s : DiaryTab) : Prop :=
  s.ShowsMain → s.signInButton = signInTitle s.currentUser

end DiaryTab

/-- The event signs somebody in. -/
def DiaryTabEvent.SignsIn : DiaryTabEvent → Prop
  | signInCompletes _ (.ok _) | signsInElsewhere _ => True
  | _ => False

namespace DiaryTab

variable {s s' : DiaryTab} {e : DiaryTabEvent} {o : List Alert}

/-- The title tells whether anybody is signed in. -/
lemma eq_none_iff_of_signInTitle_eq {u v : Option Uid} (h : signInTitle u = signInTitle v) :
    u = none ↔ v = none := by
  rw [signInTitle, signInTitle] at h
  split at h <;> split at h <;> simp_all

/-- After the title is set the button matches. -/
lemma buttonMatches_setupUI (s : DiaryTab) : s.setupUI.ButtonMatches := fun _ => rfl

/-- After the diary appears the button matches. -/
lemma buttonMatches_appear (s : DiaryTab) : s.appear.ButtonMatches := by
  rw [appear]
  split
  case isTrue => exact s.buttonMatches_setupUI
  case isFalse h => exact fun h' => absurd h' h

/-- If the diary stays in sight, the title goes wrong exactly if it said `Sign In` to nobody. -/
lemma buttonMatches_signed_in_iff (h : s.ButtonMatches) (uid : Uid) (calls : List ℕ) :
    ButtonMatches { s with currentUser := some uid, calls } ↔
      ¬ (s.ShowsMain ∧ s.currentUser = none) := by
  constructor
  · rintro hmatches ⟨hshows, hnone⟩
    have htitle := (h hshows).symm.trans (hmatches hshows)
    exact absurd ((eq_none_iff_of_signInTitle_eq htitle).mp hnone) nofun
  · intro hnot hshows
    change s.signInButton = _
    rw [h hshows, signInTitle, signInTitle, if_neg fun hnone => hnot ⟨hshows, hnone⟩,
      if_neg (Option.some_ne_none uid)]

/-- The appearance leaves the user. -/
lemma appear_currentUser (s : DiaryTab) : s.appear.currentUser = s.currentUser := by
  rw [appear]
  split <;> rfl

/-- The appearance leaves the tab. -/
lemma appear_onScreen (s : DiaryTab) : s.appear.onScreen = s.onScreen := by
  rw [appear]
  split <;> rfl

/-- What the button does to the user, the tab and its own title. -/
lemma signInOrOut_cases (s : DiaryTab) (throws : Bool) :
    (s.signInOrOut throws).currentUser = (if throws then s.currentUser else none) ∧
      (s.signInOrOut throws).onScreen = s.onScreen ∧ (s.signInOrOut throws).ButtonMatches := by
  rw [signInOrOut]
  split
  case isTrue hnone =>
    refine ⟨hnone.trans ?_, rfl, fun hshows => nomatch hshows.2⟩
    rw [hnone, ite_self]
  case isFalse => exact ⟨rfl, rfl, buttonMatches_setupUI _⟩

/-- The user and the tab stay as they are, and the title stays right. -/
def Keeps (s s' : DiaryTab) : Prop :=
  s'.currentUser = s.currentUser ∧ s'.onScreen = s.onScreen ∧ (s.ButtonMatches → s'.ButtonMatches)

/-- The appearance keeps what was kept. -/
lemma keeps_appear {t : DiaryTab} (hu : t.currentUser = s.currentUser)
    (ht : t.onScreen = s.onScreen) : s.Keeps t.appear :=
  ⟨t.appear_currentUser.trans hu, t.appear_onScreen.trans ht, fun _ => t.buttonMatches_appear⟩

/-- The completion of a sign-in pops a screen that was over the diary, or changes the user only. -/
lemma completion_ok_cases (s : DiaryTab) (number : ℕ) (uid : Uid) (calls : List ℕ) :
    let s' := (completion { s with calls } number (.ok uid)).1
    s'.currentUser = some uid ∧ s'.onScreen = s.onScreen ∧
      (¬ s.ShowsMain ∧ s'.ButtonMatches ∨ s' = { s with currentUser := some uid, calls }) := by
  dsimp only [completion]
  split
  case isTrue hmem =>
    refine ⟨appear_currentUser _, appear_onScreen _, .inl ⟨fun hshows => ?_, ?_⟩⟩
    · rw [hshows.2] at hmem
      cases hmem
    · exact buttonMatches_appear _
  case isFalse => exact ⟨rfl, rfl, .inr rfl⟩

/-- What one event can do: nothing to the user and the tab, select a tab, tap the button of the
diary, or sign somebody in. -/
lemma step_cases (hs : machine.step s e = some (s', o)) :
    (¬ e.SignsIn ∧ s.Keeps s') ∨
      (∃ diary, e = .selectTab diary ∧ s'.currentUser = s.currentUser ∧ s'.onScreen = diary ∧
        (s.ButtonMatches → s'.ButtonMatches)) ∨
      (∃ throws, e = .signInOrOut throws ∧ s.ShowsMain ∧ s' = s.signInOrOut throws) ∨
      (e.SignsIn ∧ ∃ uid, s'.currentUser = some uid ∧ s'.onScreen = s.onScreen ∧
        (¬ s.ShowsMain ∧ s'.ButtonMatches ∨
          ∃ calls, s' = { s with currentUser := some uid, calls })) := by
  cases e with
  | selectTab diary =>
    refine .inr (.inl ⟨diary, rfl, ?_⟩)
    cases diary with
    | false =>
      cases hs
      exact ⟨rfl, rfl, fun _ hshows => nomatch hshows.1⟩
    | true =>
      dsimp only [machine, step] at hs
      split at hs
      case isTrue ht =>
        cases hs
        split
        case isTrue => exact ⟨rfl, ht, id⟩
        case isFalse =>
          exact ⟨appear_currentUser _, (appear_onScreen _).trans ht,
            fun _ => buttonMatches_appear _⟩
      case isFalse =>
        cases hs
        exact ⟨appear_currentUser _, appear_onScreen _, fun _ => buttonMatches_appear _⟩
  | signInOrOut throws =>
    obtain ⟨hshows, hs⟩ := Option.ite_none_right_eq_some.mp hs
    cases hs
    exact .inr (.inr (.inl ⟨throws, rfl, hshows, rfl⟩))
  | openRegisterView =>
    dsimp only [machine, step] at hs
    split at hs <;> cases hs
    exact .inl ⟨id, rfl, rfl, fun _ hshows => nomatch hshows.2⟩
  | back =>
    dsimp only [machine, step] at hs
    split at hs <;> cases hs
    exact .inl ⟨id, keeps_appear rfl rfl⟩
  | signIn =>
    dsimp only [machine, step] at hs
    split at hs <;> cases hs
    exact .inl ⟨id, rfl, rfl, id⟩
  | signInCompletes k result =>
    obtain ⟨number, -, hs⟩ := Option.map_eq_some_iff.mp hs
    cases result with
    | error error =>
      cases hs
      exact .inl ⟨id, rfl, rfl, id⟩
    | ok uid =>
      obtain ⟨hu, ht, hmatches⟩ := s.completion_ok_cases number uid (s.calls.eraseIdx k)
      rw [hs] at hu ht hmatches
      exact .inr (.inr (.inr ⟨trivial, uid, hu, ht, hmatches.imp_right fun h => ⟨_, h⟩⟩))
  | okay =>
    obtain ⟨-, hs⟩ := Option.ite_none_right_eq_some.mp hs
    cases hs
    exact .inl ⟨id, keeps_appear rfl rfl⟩
  | signsInElsewhere uid =>
    cases hs
    exact .inr (.inr (.inr ⟨trivial, uid, rfl, rfl, .inr ⟨s.calls, rfl⟩⟩))

/-- From a state in which the button matches, an event leads to one in which it does not exactly if
it signs in the first user in sight of the diary. -/
lemma buttonMatches_step_iff (h : s.ButtonMatches) (hs : machine.step s e = some (s', o)) :
    ¬ (e.SignsIn ∧ s.ShowsMain ∧ s.currentUser = none) ↔ s'.ButtonMatches := by
  obtain ⟨he, -, -, hkeeps⟩ | ⟨diary, rfl, -, -, hkeeps⟩ | ⟨throws, rfl, -, rfl⟩ |
    ⟨he, uid, -, -, ⟨hshows, hmatches⟩ | ⟨calls, rfl⟩⟩ := step_cases hs
  · exact iff_of_true (fun hnot => he hnot.1) (hkeeps h)
  · exact iff_of_true (fun hnot => hnot.1) (hkeeps h)
  · exact iff_of_true (fun hnot => hnot.1) (s.signInOrOut_cases throws).2.2
  · exact iff_of_true (fun hnot => hshows hnot.2.1) hmatches
  · rw [buttonMatches_signed_in_iff h]
    exact not_congr (and_iff_right he)

/-! ## The screens of the other tabs -/

/-- Who is signed in and which tab is selected, as the navigation has it. -/
structure IsPartOf (s : DiaryTab) (n : Navigation) : Prop where
  currentUser : n.currentUser = s.currentUser
  tab : n.tab = .diary ↔ s.onScreen
  popupLogin : ¬ n.popupLogin

/-- One event of the tab is an event of the navigation, or none. -/
lemma IsPartOf.step {n : Navigation} (h : s.IsPartOf n) (target : SegueTarget)
    (hs : machine.step s e = some (s', o)) :
    ∃ ns n', (Navigation.machine target).run n ns = some (n', []) ∧ s'.IsPartOf n' := by
  obtain ⟨-, hu, ht, -⟩ | ⟨diary, rfl, hu, ht, -⟩ | ⟨throws, rfl, hshows, rfl⟩ |
    ⟨-, uid, hu, ht, -⟩ := step_cases hs
  · exact ⟨[], n, rfl, h.currentUser.trans hu.symm, ht ▸ h.tab, h.popupLogin⟩
  · let tab : Tab := if diary then .diary else .profile
    have htab : tab = .diary ↔ s'.onScreen := by
      rw [ht]
      cases diary <;> decide
    have hstep : (Navigation.machine target).step n (.selectTab tab) = _ :=
      congrArg (Option.map (·, [])) (if_neg h.popupLogin)
    refine ⟨[.selectTab tab], ?_⟩
    rw [Machine.run_cons, hstep]
    split
    case isTrue he =>
      refine ⟨n.popToRoot, rfl, ?_, ?_, ?_⟩
      · rw [Navigation.currentUser_popToRoot, h.currentUser, hu]
      · rw [Navigation.tab_popToRoot, he, htab]
      · rw [Navigation.popupLogin_popToRoot]
        exact h.popupLogin
    case isFalse => exact ⟨_, rfl, h.currentUser.trans hu.symm, htab, h.popupLogin⟩
  · obtain ⟨hu, ht, -⟩ := s.signInOrOut_cases throws
    have hstep : (Navigation.machine target).step n (.signInOrOut throws) = _ :=
      congrArg (Option.map (·, [])) (if_pos ⟨h.tab.mpr hshows.1, h.popupLogin⟩)
    refine ⟨[.signInOrOut throws],
      { n with currentUser := if throws then n.currentUser else none },
      by rw [Machine.run_cons, hstep]; rfl, ?_, ht ▸ h.tab, h.popupLogin⟩
    rw [hu, h.currentUser]
  · exact ⟨[.signIn uid false], { n with currentUser := some uid }, rfl, hu.symm, ht ▸ h.tab,
      h.popupLogin⟩

/-- What happens on the Diary tab is part of what the navigation allows. -/
theorem navigation_of_run (target : SegueTarget) {currentUser : Option Uid}
    {es : List DiaryTabEvent} {os : List Alert}
    (hrun : machine.run (launch currentUser) es = some (s, os)) :
    ∃ ns n, (Navigation.machine target).run (.launch currentUser) ns = some (n, []) ∧
      s.IsPartOf n := by
  refine Machine.run_rule (P := fun _ s _ => ∃ ns n,
    (Navigation.machine target).run (.launch currentUser) ns = some (n, []) ∧ s.IsPartOf n)
    ⟨[], _, rfl, rfl, iff_of_true rfl rfl, nofun⟩ ?_ hrun
  rintro es s os e s' o - ⟨ns, n, hns, h⟩ hs
  obtain ⟨ns', n', hns', h'⟩ := h.step target hs
  refine ⟨ns ++ ns', n', ?_, h'⟩
  rw [Machine.run_append, hns, Option.bind_some, hns']
  rfl

end DiaryTab

/-- In every run of events that can occur one after the other: whenever the diary is in sight the
title of the button is that of the user who is signed in, and so a tap does what it says, exactly if
nobody is ever signed in while it is in sight and says `Sign In`. -/
theorem button_matches_iff (currentUser : Option Uid) (es : List DiaryTabEvent)
    (hrun : (DiaryTab.machine.run (.launch currentUser) es).isSome) :
    DiaryTab.machine.Along (.launch currentUser) es DiaryTab.ButtonMatches ↔
      DiaryTab.machine.EachStep (.launch currentUser) es fun s e =>
        ¬ (e.SignsIn ∧ s.ShowsMain ∧ s.currentUser = none) := by
  obtain ⟨r, hr⟩ := Option.isSome_iff_exists.mp hrun
  exact Machine.along_iff_eachStep (I := fun _ => True) (fun _ _ => trivial)
    (fun _ h hs => DiaryTab.buttonMatches_step_iff h hs) trivial (fun _ => rfl) hr

/-- The login screen is left before the sign-in completes, and the button says `Sign In` to a
user. -/
theorem button_matches_iff_left :
    ¬ DiaryTab.machine.Along (.launch none)
      [.signInOrOut false, .signIn, .back, .signInCompletes 0 (.ok (.letter 'a' rfl))]
      DiaryTab.ButtonMatches := by
  rw [button_matches_iff none _ rfl]
  intro h
  exact h [.signInOrOut false, .signIn, .back] (.signInCompletes 0 (.ok (.letter 'a' rfl))) [] _ _
    rfl rfl ⟨trivial, by decide, rfl⟩

end Soliu
