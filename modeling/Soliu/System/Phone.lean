import Soliu.Records.Register
import Soliu.Session.Attribution
import Soliu.Session.Navigation

/-!
# A phone

One run of the app with its parts put together: the screens and who is signed in (`Navigation`), a
controller for each test screen on the stack, and the shared object of the session. An answer goes
to the test screen on top, and whatever its controller hands on takes effect at once: the two writes
go through the shared object, the spinner covers the test, and the upload asks who is signed in. The
outputs are the writes that the phone sends off.

The screen changes only after the event that the last answer came with. Buttons that were touched
together with it still reach the test below the spinner (`delivering`).
-/

namespace Soliu

/-- A phone: where its user is, the tests on the stack, and the shared helper. -/
structure Phone where
  navigation : Navigation
  /-- The controllers of the test screens on the stack, top first. -/
  testDetails : List TestDetailViewController := []
  supportFirebase : Option SupportFirebase := none
  /-- The event that came with the last answer may bring more touches of answers. -/
  delivering : Bool := false
deriving DecidableEq

/-- What happens on a phone. -/
inductive PhoneEvent where
  | navigate (e : NavigationEvent)
  /-- An answer is touched, in an event of its own or together with the one before it. -/
  | touchAnswer (button : AnswerButton) (ownDate sharedDate : Date)
  /-- The profile is seen again when a screen over it has gone. -/
  | profileAppears
  /-- `createUser` has succeeded, which signs the new user in. -/
  | register (uid : Uid) (form : RegisterForm)
deriving DecidableEq

/-- Whether answers are accepted is decided by tab, stack and popup. -/
instance (s : Navigation) : Decidable s.AcceptsAnswers := inferInstanceAs (Decidable (_ ∧ _ ∧ _))

namespace Phone

/-- The application at its launch. -/
def launch (currentUser : Option Uid) : Phone := { navigation := .launch currentUser }

/-- The session of the phone. -/
def session (s : Phone) : Session := ⟨s.navigation.currentUser, s.supportFirebase⟩

/-- Signing out and showing the profile go through the shared object. -/
def usesSupportFirebase (s : Phone) : NavigationEvent → Bool
  | .signInOrOut _ => s.navigation.currentUser.isSome
  | .selectTab .profile => true
  | _ => false

/-- The controllers after a change of screens: a test screen that has been pushed loads file 1, and
the controllers of those that have been popped are gone. -/
def loadTests (bundle : Bundle) (s : Phone) (navigation : Navigation) :
    Option (List TestDetailViewController) := do
  let count := navigation.testStack.count .testDetail
  let loaded ← (List.replicate (count - s.testDetails.length) {}).mapM
    fun vc : TestDetailViewController => vc.viewDidLoad bundle 1
  return loaded ++ s.testDetails.drop (s.testDetails.length - count)

/-- A step of the navigation, which loads a test when it pushes one. -/
def navigate (bundle : Bundle) (target : SegueTarget) (s : Phone) (e : NavigationEvent) :
    Option Phone := do
  let supportFirebase :=
    if s.usesSupportFirebase e then some s.session.use else s.supportFirebase
  let navigation ← s.navigation.step target e
  let testDetails ← s.loadTests bundle navigation
  return { navigation, testDetails, supportFirebase }

/-- What becomes of an output of the test on top. -/
def perform (ownDate sharedDate : Date) (s : Phone) :
    TestDetailOutput → Option (Phone × List ResultWrite)
  | .updateTestScore testScore =>
    (s.session.use.updateTestScore testScore ownDate).map fun own =>
      ({ s with supportFirebase := some s.session.use }, [.userInfo own])
  | .updateAllTestScore testScore =>
    (s.session.use.updateAllTestScore testScore sharedDate).map fun shared =>
      ({ s with supportFirebase := some s.session.use }, [.userInfo shared])
  | .loadingSpinner =>
    some ({ s with navigation := s.navigation.push .loadingSpinner, delivering := true }, [])
  | .uploadData testScore =>
    (TestDetailViewModel.uploadData testScore s.navigation.currentUser).map fun uploaded =>
      (s, uploaded.toList.map fun w => .newUsers w.1 w.2)

/-- The outputs of the test on top are the events of this machine. -/
def performer (ownDate sharedDate : Date) : Machine Phone TestDetailOutput ResultWrite :=
  ⟨perform ownDate sharedDate⟩

/-- A touch of an answer, and what the test on top asks for. -/
def touchAnswer (s : Phone) (button : AnswerButton) (ownDate sharedDate : Date) :
    Option (Phone × List ResultWrite) :=
  if s.navigation.AcceptsAnswers ∨ s.delivering then
    match s.testDetails with
    | [] => none
    | vc :: vcs => do
      let (vc, os) ← TestDetailViewController.machine.step vc button
      (performer ownDate sharedDate).run { s with testDetails := vc :: vcs } os
  else none

/-- One event of the phone, with the writes it sends off. -/
def step (bundle : Bundle) (target : SegueTarget) (s : Phone) :
    PhoneEvent → Option (Phone × List ResultWrite)
  -- the spinner is shown by the test itself
  | .navigate .loadingSpinner => none
  | .navigate e => (s.navigate bundle target e).map (·, [])
  | .touchAnswer button ownDate sharedDate => s.touchAnswer button ownDate sharedDate
  | .profileAppears =>
    if s.navigation.tab = .profile then
      some ({ s with supportFirebase := some s.session.use, delivering := false }, [])
    else none
  | .register uid form => do
    let requests ← form.writeData uid.val
    return ({ s with
        navigation := { s.navigation with currentUser := some uid }
        delivering := false },
      requests.map .userInfo)

/-- The phone as a machine. -/
def machine (bundle : Bundle) (target : SegueTarget) : Machine Phone PhoneEvent ResultWrite :=
  ⟨step bundle target⟩

end Phone

end Soliu
