import Soliu.Records.SupportFirebase

/-!
# Registering: `RegisterViewController.swift`

`register` creates an account, and on success it writes the new user's document (`writeData`) and
announces the registration, in this order and without waiting for the write. `writeData` gives up
silently when one of the three form fields it reads is missing.
-/

namespace Soliu

/-- What the register screen reads off its controls; `none` stands for a `nil` text or title. -/
structure RegisterForm where
  emailTextField : Option String
  passwordTextField : Option String
  genderSegmentedControl : Option String
  gradeSegmentedControl : Option String
  departmentTextField : Option String
deriving DecidableEq

/-- The entry that a fresh document holds in place of test results. -/
def placeholder : TestResult := { testDate := "", testScore := [] }

namespace RegisterForm

/-- The form with all of its fields filled in. -/
def filledIn (email password gender grade major : String) : RegisterForm :=
  ⟨some email, some password, some gender, some grade, some major⟩

/-- The data of the form, written to the user's document. -/
def writeData (form : RegisterForm) (uid : String) : Option (List Request) :=
  match form.genderSegmentedControl, form.gradeSegmentedControl, form.departmentTextField with
  | some genderInfo, some gradeInfo, some majorInfo => do
    let emptyTestResult := Value.dictionary [("testScore", .array []), ("testDate", .string "")]
    let ref ← document uid
    return [.setData ref (Fields.ofList [(SupportString.gender, .string genderInfo),
      (SupportString.grade, .string gradeInfo), (SupportString.major, .string majorInfo),
      (SupportString.testResult, .array [emptyTestResult])])]
  -- the `guard` returns, and nobody is told
  | _, _, _ => some []

/-- The record of a fresh user with this form, when the form is complete. -/
def profile (form : RegisterForm) : Option TestInformation :=
  match form.genderSegmentedControl, form.gradeSegmentedControl, form.departmentTextField with
  | some gender, some grade, some major =>
    some { gender, grade, major, testResult := [placeholder] }
  | _, _, _ => none

/-- `writeData` writes the encoded record of a complete form, and nothing for any other. -/
lemma writeData_eq (form : RegisterForm) (uid : Uid) :
    form.writeData uid.val =
      some (form.profile.elim [] fun info => [.setData uid.val info.encode]) := by
  obtain ⟨_, _, gender, grade, major⟩ := form
  cases gender <;> cases grade <;> cases major <;> try rfl
  simp [writeData, profile, SupportString.gender, SupportString.grade, SupportString.major,
    SupportString.testResult, Value.dictionary, Fields.ofList, Fields.insert, Fields.precedes,
    TestInformation.encode, TestResult.encode, placeholder]

/-- The profile of a form has the placeholder as its only result. -/
lemma testResult_of_profile {form : RegisterForm} {info : TestInformation}
    (h : form.profile = some info) : info.testResult = [placeholder] := by
  obtain ⟨_, _, gender, grade, major⟩ := form
  cases gender <;> cases grade <;> cases major <;> cases h
  rfl

end RegisterForm

/-! ## Creating the account -/

/-- The error codes of Auth that the code tells apart. -/
inductive AuthErrorCode where
  | operationNotAllowed
  | emailAlreadyInUse
  | weakPassword
  /-- Every other code, and a code that is not known. -/
  | other
deriving DecidableEq

/-- The error of a registration that failed. -/
structure AuthError where
  code : AuthErrorCode
  localizedDescription : String
deriving DecidableEq

/-- How `createUser` calls back. Without an error there is a result, so `authResult?.user.uid ?? ""`
is the uid of the account that was created. -/
inductive CreateUser where
  | failure (error : AuthError)
  | success (uid : Uid)
deriving DecidableEq

/-- An alert with its title and message. -/
structure Alert where
  title : String
  message : String
deriving DecidableEq

/-- The alert for a registration that failed. -/
def AuthError.alert (error : AuthError) : Alert :=
  match error.code with
  | .operationNotAllowed =>
    ⟨"Server Issue", "Currently, our server has issues.\nPlease try again later."⟩
  | .emailAlreadyInUse =>
    ⟨"Email Issue", "Your email has been used.\nPlease type another email"⟩
  | .weakPassword =>
    ⟨"Weak Password", "Your password word is weak\nPlease try another password"⟩
  | .other =>
    ⟨"System Error", error.localizedDescription ++ "\nPlease contact our customer service"⟩

/-- The alert for a registration that succeeded. -/
def registerAlertViewController : Alert :=
  ⟨"Register Successfully", "Your sign-up confirms successfully."⟩

/-- One tap on Register: the requests sent off and the alerts shown. -/
def RegisterForm.register (form : RegisterForm) (createUser : CreateUser) :
    Option (List Request × List Alert) :=
  match form.emailTextField, form.passwordTextField with
  | some _, some _ =>
    match createUser with
    | .failure error => some ([], [error.alert])
    | .success uid => do
      -- `setData` is asynchronous: the alert does not wait for its outcome
      let requests ← form.writeData uid.val
      return (requests, [registerAlertViewController])
  | _, _ => some ([], [])

/-- A failed registration is announced as what it is. -/
lemma AuthError.alert_ne (error : AuthError) : error.alert ≠ registerAlertViewController := by
  obtain ⟨code, _⟩ := error
  cases code <;> simp [alert, registerAlertViewController]

end Soliu
