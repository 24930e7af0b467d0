import Soliu.Basic.Machine
import Soliu.Records.Register

/-!
# The password and the re-entered password

The two fields of the register screen are compared when the editing of one of them ends, and all
that comes of it is the colour of the second field. `register` reads the first field only, so an
account gets a confirmed password exactly if the texts agree at the tap (`passwords_confirmed_iff`).
-/

namespace Soliu

/-- The colours of the border of the second password field. -/
inductive FieldColor where
  | red
  | green
deriving DecidableEq

/-- The controls of the register screen that `register` and the text field delegate read or set. -/
structure RegisterViewController where
  form : RegisterForm
  reEnterTextField : Option String
  reEnterColor : Option FieldColor := none
deriving DecidableEq

/-- What the user does on the registration screen. -/
inductive RegisterEvent where
  | emailChanged (text : String)
  | passwordChanged (text : String)
  | reEnterChanged (text : String)
  | textFieldDidEndEditing
  | register
deriving DecidableEq

/-- The call of `createUser` that a tap on Register makes. -/
structure Credentials where
  email : String
  password : String
deriving DecidableEq

/-- What is handed to Auth: the two texts, if both fields have one. -/
def RegisterForm.credentials (form : RegisterForm) : Option Credentials :=
  match form.emailTextField, form.passwordTextField with
  | some email, some password => some { email, password }
  | _, _ => none

/-- The tap does nothing exactly if it makes no call of `createUser`. -/
lemma RegisterForm.register_eq_nil_iff (form : RegisterForm) (createUser : CreateUser) :
    form.register createUser = some ([], []) ↔ form.credentials = none := by
  obtain ⟨email, password, gender, grade, major⟩ := form
  cases email with
  | none => exact iff_of_true rfl rfl
  | some email =>
    cases password with
    | none => exact iff_of_true rfl rfl
    | some password =>
      refine iff_of_false ?_ nofun
      -- an account or an error is announced, unless the data cannot be written
      cases createUser with
      | failure error => exact nofun
      | success uid =>
        intro h
        obtain ⟨requests, -, h⟩ := Option.bind_eq_some_iff.mp h
        cases h

namespace RegisterViewController

/-- The screen after `viewDidLoad`: empty text fields, the first segments and the sixth major. -/
def loaded : RegisterViewController where
  form := .filledIn "" "" "Male" "Freshmen" "School of Forestry and Wildlife Sciences"
  reEnterTextField := some ""

/-- Equality of optional strings, given how Swift compares strings. -/
def equalTexts (equal : String → String → Bool) : Option String → Option String → Bool
  | some s, some t => equal s t
  | none, none => true
  | _, _ => false

/-- The delegate method at the end of editing, which compares the two passwords for the border. -/
def textFieldDidEndEditing (equal : String → String → Bool) (self : RegisterViewController) :
    RegisterViewController :=
  { self with
    reEnterColor := some
      (if !equalTexts equal self.form.passwordTextField self.reEnterTextField then .red
      else .green) }

/-- The outputs are the calls of `createUser`. -/
def machine (equal : String → String → Bool) :
    Machine RegisterViewController RegisterEvent Credentials where
  step self
    | .emailChanged text =>
      some ({ self with form := { self.form with emailTextField := some text } }, [])
    | .passwordChanged text =>
      some ({ self with form := { self.form with passwordTextField := some text } }, [])
    | .reEnterChanged text => some ({ self with reEnterTextField := some text }, [])
    | .textFieldDidEndEditing => some (self.textFieldDidEndEditing equal, [])
    -- neither the second field nor its colour is read
    | .register => some (self, self.form.credentials.toList)

/-- Every account is created with the password in the second field. -/
def Confirmed (equal : String → String → Bool) (self : RegisterViewController)
    (e : RegisterEvent) : Prop :=
  ∀ self' os, (machine equal).step self e = some (self', os) → ∀ c ∈ os,
    equalTexts equal (some c.password) self.reEnterTextField

end RegisterViewController

/-- The password typed last. -/
def passwordText (es : List RegisterEvent) : String :=
  es.foldl (fun text e => match e with | .passwordChanged text => text | _ => text) ""

/-- The second password typed last. -/
def reEnterText (es : List RegisterEvent) : String :=
  es.foldl (fun text e => match e with | .reEnterChanged text => text | _ => text) ""

namespace RegisterViewController

variable {equal : String → String → Bool}

/-- The fields hold what was typed last in every run. -/
lemma fields_of_run {es : List RegisterEvent} {self : RegisterViewController}
    {os : List Credentials} (h : (machine equal).run loaded es = some (self, os)) :
    (∃ email, self.form.emailTextField = some email) ∧
      self.form.passwordTextField = some (passwordText es) ∧
      self.reEnterTextField = some (reEnterText es) := by
  refine Machine.run_rule (P := fun es self _ => (∃ email, self.form.emailTextField = some email) ∧
    self.form.passwordTextField = some (passwordText es) ∧
    self.reEnterTextField = some (reEnterText es)) ⟨⟨"", rfl⟩, rfl, rfl⟩ ?_ h
  rintro es self os e self' o - ⟨⟨email, he⟩, hp, hr⟩ hs
  rw [passwordText, reEnterText, List.foldl_append, List.foldl_append]
  cases e with
  | emailChanged text =>
    cases hs
    exact ⟨⟨text, rfl⟩, hp, hr⟩
  | passwordChanged text =>
    cases hs
    exact ⟨⟨email, he⟩, rfl, hr⟩
  | reEnterChanged text =>
    cases hs
    exact ⟨⟨email, he⟩, hp, rfl⟩
  | textFieldDidEndEditing | register =>
    cases hs
    exact ⟨⟨email, he⟩, hp, hr⟩

/-- The screen takes every event in every state. -/
lemma exists_run (equal : String → String → Bool) (es : List RegisterEvent) :
    ∃ self os, (machine equal).run loaded es = some (self, os) := by
  induction es using List.reverseRecOn with
  | nil => exact ⟨_, _, rfl⟩
  | append_singleton es e ih =>
    obtain ⟨self, os, hr⟩ := ih
    cases e <;> exact ⟨_, _, Machine.run_concat_iff.mpr ⟨_, _, _, hr, rfl, rfl⟩⟩

end RegisterViewController

open RegisterViewController

/-- In every run, each account is created with the password in the second field if and only if at
every tap on Register the texts last left in the two fields are equal. -/
theorem passwords_confirmed_iff (equal : String → String → Bool) (es : List RegisterEvent) :
    (machine equal).EachStep loaded es (Confirmed equal) ↔
      ∀ pre post, es = pre ++ .register :: post → equal (passwordText pre) (reEnterText pre) := by
  constructor
  · rintro h pre post rfl
    obtain ⟨self, os, hrun⟩ := exists_run equal pre
    obtain ⟨⟨email, he⟩, hp, hr⟩ := fields_of_run hrun
    have hc := h pre .register post self os rfl hrun self _ rfl ⟨email, passwordText pre⟩
      (by rw [RegisterForm.credentials, he, hp]; exact List.mem_singleton_self _)
    rwa [hr] at hc
  · rintro h pre e post self os rfl hrun self' o hs c hc
    obtain ⟨⟨email, he⟩, hp, hr⟩ := fields_of_run hrun
    cases e with
    | emailChanged text | passwordChanged text | reEnterChanged text | textFieldDidEndEditing =>
      cases hs
      cases hc
    | register =>
      cases hs
      rw [RegisterForm.credentials, he, hp] at hc
      rw [List.mem_singleton.mp hc, hr]
      exact h pre post rfl

/-- The second field is red, and the account is created all the same. -/
theorem mistyped_password_registered :
    ¬ ∀ es : List RegisterEvent,
      (machine (· == ·)).EachStep loaded es (Confirmed (· == ·)) := by
  intro h
  have hc := h [.emailChanged "a@x", .passwordChanged "secret", .reEnterChanged "secrte",
    .textFieldDidEndEditing, .register] [.emailChanged "a@x", .passwordChanged "secret",
    .reEnterChanged "secrte", .textFieldDidEndEditing] .register [] _ _ rfl rfl _ _ rfl
    ⟨"a@x", "secret"⟩ (List.mem_singleton_self _)
  exact absurd hc (by decide)

end Soliu
