import Soliu.Records.Ledger

/-!
# What a registration announces

`register` shows its success alert as soon as the account exists. Whether the user's document exists
then depends on the form being complete and on the write being accepted, neither of which the alert
waits for. `announcement_holds_iff` gives the exact condition under which an announced registration
has left a document behind, and so (`HasDocument.later_tests`) under which every later test of the
user is recorded.
-/

namespace Soliu

/-- The user's document exists with the three strings and an array of test results. -/
def HasDocument (c : Collection) (u : Uid) : Prop :=
  ∃ d gender grade major results, c.lookup u.val = some d ∧
    List.lookup "gender" d = some (.string gender) ∧ List.lookup "grade" d = some (.string grade) ∧
    List.lookup "major" d = some (.string major) ∧
    List.lookup "testResult" d = some (.array results)

/-- The result is among the results of the user's document. -/
def IsRecorded (c : Collection) (u : Uid) (r : TestResult) : Prop :=
  ∃ d results, c.lookup u.val = some d ∧
    List.lookup "testResult" d = some (.array results) ∧ r.encode ∈ results

/-- Whatever is written in between, every accepted test of the user gets into the document. -/
def RecordsLaterTests (c : Collection) (u : Uid) : Prop :=
  ∀ (later : List StoreEvent) (r : TestResult),
    ∃ c', c.run (later ++ [.updateTestScore u r.testScore r.testDate true]) = some c' ∧
      IsRecorded c' u r

/-- The `Register` button from the form to the alert, with the answer of the server. -/
def RegisterForm.registerRun (form : RegisterForm) (createUser : CreateUser)
    (setDataAccepted : Bool) (c : Collection) : Option (Collection × List Alert) := do
  let (requests, alerts) ← form.register createUser
  return (requests.foldl (fun c r => r.submit setDataAccepted c) c, alerts)

namespace Collection

/-- No event of the store traps. -/
lemma exists_step (c : Collection) (e : StoreEvent) :
    ∃ rs, e.requests = some rs ∧
      c.step e = some (rs.foldl (fun c r => r.submit e.accepted c) c) := by
  have h : ∃ rs, e.requests = some rs := by
    cases e with
    | writeData uid form accepted => exact ⟨_, form.writeData_eq uid⟩
    | updateTestScore uid testScore dateString accepted =>
      refine Option.isSome_iff_exists.mp ?_
      rw [StoreEvent.requests, SupportFirebase.testScoreRequest_eq _ uid.nonempty]
      rfl
    | updateAllTestScore uid testScore dateString accepted =>
      exact ⟨_, by rw [StoreEvent.requests, SupportFirebase.allTestScoreRequest_eq]; rfl⟩
  obtain ⟨rs, hrs⟩ := h
  exact ⟨rs, hrs, by rw [step, hrs, Option.map_some]⟩

/-- No run of the store traps, and no document disappears in it. -/
lemma exists_run (c : Collection) (es : List StoreEvent) :
    ∃ c', c.run es = some c' ∧ ∀ p, (c.lookup p).isSome → (c'.lookup p).isSome := by
  induction es generalizing c with
  | nil => exact ⟨c, rfl, fun _ => id⟩
  | cons e es ih =>
    obtain ⟨rs, -, hs⟩ := c.exists_step e
    have hstep : ∀ (rs : List Request) (c : Collection) (p : String), (c.lookup p).isSome →
        ((rs.foldl (fun c r => r.submit e.accepted c) c).lookup p).isSome := by
      intro rs
      induction rs with
      | nil => exact fun _ _ => id
      | cons r rs ih => exact fun c p h => ih _ p (Request.lookup_submit_isSome h)
    obtain ⟨c', hr, h'⟩ := ih (rs.foldl (fun c r => r.submit e.accepted c) c)
    exact ⟨c', by rw [run, List.foldlM_cons, hs]; exact hr, fun p hp => h' p (hstep rs c p hp)⟩

end Collection

/-- A document that exists once records every later test. -/
lemma HasDocument.later_tests {c : Collection} {u : Uid} (h : HasDocument c u) :
    RecordsLaterTests c u := by
  intro later r
  obtain ⟨d, -, -, -, -, hd, -⟩ := h
  obtain ⟨c', hr, hkeep⟩ := c.exists_run later
  obtain ⟨d', hd'⟩ := Option.isSome_iff_exists.mp (hkeep u.val (Option.isSome_of_eq_some hd))
  obtain ⟨results, hu, hmem⟩ := exists_arrayUnion (List.lookup "testResult" d') r.encode
  let request := Request.updateData u.val "testResult" [r.encode]
  have hstep : c'.step (.updateTestScore u r.testScore r.testDate true) =
      some (request.submit true c') := by
    simp only [Collection.step, StoreEvent.requests, StoreEvent.accepted,
      SupportFirebase.testScoreRequest_eq ⟨u.val⟩ u.nonempty, Option.map_some,
      List.foldl_cons, List.foldl_nil, request]
  have hrun : c.run (later ++ [.updateTestScore u r.testScore r.testDate true]) =
      some (request.submit true c') := by
    rw [Collection.run, List.foldlM_append, ← Collection.run, hr]
    exact congrArg (·.bind pure) hstep
  refine ⟨request.submit true c', hrun, _, results, Request.lookup_submit_updateData hd', ?_, hmem⟩
  rw [Fields.lookup_insert, if_pos rfl, hu]

/-- The encoding of a record is a document of the user. -/
lemma hasDocument_of_encode {c : Collection} {u : Uid} {info : TestInformation}
    (h : c.lookup u.val = some info.encode) : HasDocument c u :=
  ⟨_, info.gender, info.grade, info.major, info.testResult.map TestResult.encode, h, by
    simp [TestInformation.encode, Fields.lookup_cons]⟩

/-- With both texts filled in and the user created, the data are sent off and it is announced. -/
lemma RegisterForm.registerRun_success (form : RegisterForm) (uid : Uid) (setDataAccepted : Bool)
    (c : Collection) (he : form.emailTextField.isSome) (hp : form.passwordTextField.isSome) :
    form.registerRun (.success uid) setDataAccepted c =
      some ((form.profile.elim [] fun info => [Request.setData uid.val info.encode]).foldl
        (fun c r => r.submit setDataAccepted c) c, [registerAlertViewController]) := by
  obtain ⟨email, he⟩ := Option.isSome_iff_exists.mp he
  obtain ⟨password, hp⟩ := Option.isSome_iff_exists.mp hp
  simp [registerRun, register, he, hp, form.writeData_eq uid]

/-- With a text missing nothing is sent off and nothing announced. -/
lemma RegisterForm.registerRun_of_isNone (form : RegisterForm) (createUser : CreateUser)
    (setDataAccepted : Bool) (c : Collection)
    (h : ¬ (form.emailTextField.isSome ∧ form.passwordTextField.isSome)) :
    form.registerRun createUser setDataAccepted c = some (c, []) := by
  obtain ⟨email, password, _, _, _⟩ := form
  cases email with
  | none => rfl
  | some _ =>
    cases password with
    | none => rfl
    | some _ => exact absurd ⟨rfl, rfl⟩ h

/-- A success that `register` announces has left a document behind that records every later test,
exactly if the form is complete and the write accepted, or the document was there before. -/
theorem announcement_holds_iff (c : Collection) (form : RegisterForm) (createUser : CreateUser)
    (setDataAccepted : Bool) :
    (∀ uid c' alerts, createUser = .success uid →
        form.registerRun createUser setDataAccepted c = some (c', alerts) →
        registerAlertViewController ∈ alerts →
        HasDocument c' uid ∧ RecordsLaterTests c' uid) ↔
      ∀ uid, createUser = .success uid →
        form.emailTextField.isSome → form.passwordTextField.isSome →
        (form.profile.isSome ∧ setDataAccepted) ∨ HasDocument c uid := by
  constructor
  · rintro h uid rfl he hp
    obtain ⟨hd, -⟩ := h uid _ _ rfl (form.registerRun_success uid setDataAccepted c he hp)
      (List.mem_singleton_self _)
    -- an incomplete form and a refused write leave the collection as it was
    cases hf : form.profile with
    | none => exact .inr (by simpa [hf] using hd)
    | some info =>
      cases setDataAccepted with
      | true => exact .inl ⟨rfl, rfl⟩
      | false => exact .inr (by simpa [hf, Request.submit] using hd)
  · rintro h uid c' alerts rfl hr ha
    by_cases hep : form.emailTextField.isSome ∧ form.passwordTextField.isSome
    · rw [form.registerRun_success uid setDataAccepted c hep.1 hep.2, Option.some.injEq,
        Prod.mk.injEq] at hr
      obtain ⟨rfl, -⟩ := hr
      have hd : HasDocument ((form.profile.elim [] fun info =>
          [Request.setData uid.val info.encode]).foldl
            (fun c r => r.submit setDataAccepted c) c) uid := by
        rcases h uid rfl hep.1 hep.2 with ⟨hf, rfl⟩ | hd
        · obtain ⟨info, hf⟩ := Option.isSome_iff_exists.mp hf
          rw [hf]
          exact hasDocument_of_encode Request.lookup_submit_setData
        · cases hf : form.profile with
          | none => exact hd
          | some info =>
            cases setDataAccepted with
            | false => exact hd
            | true => exact hasDocument_of_encode Request.lookup_submit_setData
      exact ⟨hd, hd.later_tests⟩
    · rw [form.registerRun_of_isNone _ _ _ hep, Option.some.injEq, Prod.mk.injEq] at hr
      rw [← hr.2] at ha
      cases ha

/-- A refused write of a complete form is announced as a success all the same. -/
theorem announced_without_document :
    ¬ ∀ (c : Collection) (form : RegisterForm) (createUser : CreateUser) (setDataAccepted : Bool)
        (uid : Uid) (c' : Collection) (alerts : List Alert), createUser = .success uid →
      form.registerRun createUser setDataAccepted c = some (c', alerts) →
      registerAlertViewController ∈ alerts → HasDocument c' uid := by
  intro h
  obtain ⟨d, -, -, -, -, hd, -⟩ := h Collection.initial
    (.filledIn "a@x" "secret" "Male" "Junior" "Education") (.success (.letter 'a' rfl)) false
    (.letter 'a' rfl) Collection.initial [registerAlertViewController] rfl rfl
    (List.mem_singleton_self _)
  cases hd

end Soliu
