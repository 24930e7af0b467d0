import Mathlib.Logic.Function.Basic
import Soliu.Records.Register

/-!
# The collection `userInfo` and the ledger it stands for

`StoreEvent` is a write to the collection `userInfo` as one of the three writers issues it, together
with the backend's verdict; `Collection.run` is a run of such writes in the order in which the
backend applies them.

`Ledger` is what the collection is for: a record for each registered user and one list of results
shared by all. Its steps speak of records only. `Refines` ties a collection to the ledger whose
encoding it is, `Refines.run` says that every run of writes keeps that tie and never traps, and
`own_run`/`shared_run` compute the records that a run leaves behind.
-/

namespace Soliu

/-- A write to the collection `userInfo`. -/
inductive StoreEvent where
  | writeData (uid : Uid) (form : RegisterForm) (accepted : Bool)
  | updateTestScore (uid : Uid) (testScore : List ℤ) (dateString : String) (accepted : Bool)
  | updateAllTestScore (uid : Uid) (testScore : List ℤ) (dateString : String) (accepted : Bool)
deriving DecidableEq

namespace StoreEvent

/-- Whether the backend accepts the write, if its document is there. -/
def accepted : StoreEvent → Bool
  | writeData _ _ accepted => accepted
  | updateTestScore _ _ _ accepted => accepted
  | updateAllTestScore _ _ _ accepted => accepted

/-- The requests an event sends off. -/
def requests : StoreEvent → Option (List Request)
  | writeData uid form _ => form.writeData uid.val
  | updateTestScore uid testScore dateString _ =>
    ((SupportFirebase.mk uid.val).testScoreRequest testScore dateString).map ([·])
  | updateAllTestScore uid testScore dateString _ =>
    ((SupportFirebase.mk uid.val).allTestScoreRequest testScore dateString).map ([·])

end StoreEvent

namespace Collection

/-- The collection after the requests of an event. -/
def step (c : Collection) (e : StoreEvent) : Option Collection :=
  e.requests.map fun rs => rs.foldl (fun c r => r.submit e.accepted c) c

/-- The collection after the events of a run. -/
def run (c : Collection) (es : List StoreEvent) : Option Collection :=
  es.foldlM step c

end Collection

/-! ## The ledger -/

/-- A record for each registered user, and the list of results shared by all. -/
structure Ledger where
  own : Uid → Option TestInformation
  shared : Option AllTestResult

namespace Ledger

/-- The ledger after an event: an accepted one replaces or extends a record. -/
def step (L : Ledger) : StoreEvent → Ledger
  | .writeData uid form true =>
    match form.profile with
    -- a second registration replaces the record
    | some info => { L with own := Function.update L.own uid (some info) }
    | none => L
  | .updateTestScore uid testScore dateString true =>
    { L with own := Function.update L.own uid ((L.own uid).map (·.record ⟨dateString, testScore⟩)) }
  | .updateAllTestScore uid testScore dateString true =>
    { L with shared := L.shared.map (·.record ⟨dateString, testScore, uid.val⟩) }
  | _ => L

/-- The ledger after the events of a run. -/
def run (L : Ledger) (es : List StoreEvent) : Ledger :=
  es.foldl step L

/-- The run of no events. -/
@[simp]
lemma run_nil {L : Ledger} : L.run [] = L := rfl

/-- The run of one event and more. -/
@[simp]
lemma run_cons {L : Ledger} {e : StoreEvent} {es : List StoreEvent} :
    L.run (e :: es) = (L.step e).run es := rfl

/-- The run of two lists of events. -/
lemma run_append {L : Ledger} {es fs : List StoreEvent} : L.run (es ++ fs) = (L.run es).run fs :=
  List.foldl_append

end Ledger

/-- The collection holds exactly the encoding of the ledger. -/
structure Refines (c : Collection) (L : Ledger) : Prop where
  own : ∀ u : Uid, c.lookup u.val = (L.own u).map TestInformation.encode
  shared : c.lookup allTestScore = L.shared.map AllTestResult.encode
  paths : ∀ p ∈ c, p = allTestScore ∨ ∃ u : Uid, p = u.val

namespace Refines

variable {c : Collection} {L : Ledger}

/-- Writing a user's document is replacing the user's record. -/
lemma insert_own (h : Refines c L) (u : Uid) (info : TestInformation) :
    Refines (c.insert u.val info.encode) { L with own := Function.update L.own u (some info) } where
  own v := by
    dsimp only
    by_cases hv : v = u
    · subst hv
      rw [AList.lookup_insert, Function.update_self, Option.map_some]
    · rw [AList.lookup_insert_ne (fun e => hv (Uid.ext_val e)), Function.update_of_ne hv, h.own]
  shared := by
    rw [AList.lookup_insert_ne u.val_ne_allTestScore.symm, h.shared]
  paths p hp := by
    rcases (AList.mem_insert c).mp hp with rfl | hp
    · exact .inr ⟨u, rfl⟩
    · exact h.paths p hp

/-- Writing the shared document is replacing the shared results. -/
lemma insert_shared (h : Refines c L) (all : AllTestResult) :
    Refines (c.insert allTestScore all.encode) { L with shared := some all } where
  own v := by
    rw [AList.lookup_insert_ne v.val_ne_allTestScore, h.own]
  shared := by
    rw [AList.lookup_insert, Option.map_some]
  paths p hp := by
    rcases (AList.mem_insert c).mp hp with rfl | hp
    · exact .inl rfl
    · exact h.paths p hp

/-- Every write is a step of the ledger, and none of them traps. -/
lemma step (h : Refines c L) (e : StoreEvent) :
    ∃ c', c.step e = some c' ∧ Refines c' (L.step e) := by
  cases e with
  | writeData uid form accepted =>
    simp only [Collection.step, StoreEvent.requests, StoreEvent.accepted, RegisterForm.writeData_eq,
      Option.map_some, Option.some.injEq, exists_eq_left']
    cases accepted with
    -- without a complete form there is no request to refuse
    | false => cases form.profile <;> exact h
    | true =>
      cases hp : form.profile with
      | none => simpa [Ledger.step, hp] using h
      | some info =>
        simpa [Ledger.step, hp, Request.submit, Request.apply] using h.insert_own uid info
  | updateTestScore uid testScore dateString accepted =>
    simp only [Collection.step, StoreEvent.requests, StoreEvent.accepted,
      SupportFirebase.testScoreRequest_eq ⟨uid.val⟩ uid.nonempty, Option.map_some,
      Option.some.injEq, exists_eq_left', List.foldl_cons, List.foldl_nil]
    cases accepted with
    | false => exact h
    | true =>
      have hu := h.own uid
      cases hi : L.own uid with
      | none =>
        -- an update of a missing document fails, and the ledger has no record to change
        rw [hi, Option.map_none] at hu
        have e : Function.update L.own uid none = L.own := hi ▸ Function.update_eq_self uid L.own
        rw [Request.submit_updateData_of_none hu]
        simpa [Ledger.step, hi, e] using h
      | some info =>
        rw [hi, Option.map_some] at hu
        have h' := h.insert_own uid (info.record ⟨dateString, testScore⟩)
        rw [← TestInformation.insert_arrayUnion] at h'
        simpa [Ledger.step, hi, Request.submit, Request.apply, hu] using h'
  | updateAllTestScore uid testScore dateString accepted =>
    simp only [Collection.step, StoreEvent.requests, StoreEvent.accepted,
      SupportFirebase.allTestScoreRequest_eq, Option.map_some, Option.some.injEq, exists_eq_left',
      List.foldl_cons, List.foldl_nil]
    cases accepted with
    | false => exact h
    | true =>
      have hs := h.shared
      cases hi : L.shared with
      | none =>
        rw [hi, Option.map_none] at hs
        rw [Request.submit_updateData_of_none hs]
        simpa [Ledger.step, hi] using (show Refines c { L with shared := none } from hi ▸ h)
      | some all =>
        rw [hi, Option.map_some] at hs
        have h' := h.insert_shared (all.record ⟨dateString, testScore, uid.val⟩)
        rw [← AllTestResult.insert_arrayUnion] at h'
        simpa [Ledger.step, hi, Request.submit, Request.apply, hs] using h'

/-- Every run of writes is a run of the ledger, and none of them traps. -/
theorem run (h : Refines c L) (es : List StoreEvent) :
    ∃ c', c.run es = some c' ∧ Refines c' (L.run es) := by
  induction es generalizing c L with
  | nil => exact ⟨c, rfl, h⟩
  | cons e es ih =>
    obtain ⟨c', hs, h'⟩ := h.step e
    obtain ⟨c'', hr, h''⟩ := ih h'
    exact ⟨c'', by simpa [Collection.run, hs] using hr, h''⟩

end Refines

/-! ## Before the first user -/

/-- Only the shared document, with an empty `testResult`. -/
def Collection.initial : Collection :=
  AList.singleton allTestScore [("testResult", .array [])]

/-- The ledger before anybody has registered, with a shared list that is empty. -/
def Ledger.initial : Ledger where
  own _ := none
  shared := some { testResult := [] }

/-- Collection and ledger agree initially. -/
lemma Refines.initial : Refines Collection.initial Ledger.initial where
  own u := AList.lookup_eq_none.mpr fun h =>
    u.val_ne_allTestScore (by simpa [Collection.initial, AList.mem_keys] using h)
  shared := rfl
  paths p hp := .inl (by simpa [Collection.initial, AList.mem_keys] using hp)

/-! ## What a run leaves behind -/

namespace StoreEvent

/-- An accepted write of a complete form for this user. -/
def registers (u : Uid) : StoreEvent → Bool
  | writeData uid form true => decide (uid = u) && form.profile.isSome
  | _ => false

/-- The result an accepted event adds to the user's own document. -/
def ownTest (u : Uid) : StoreEvent → Option TestResult
  | updateTestScore uid testScore dateString true =>
    if uid = u then some ⟨dateString, testScore⟩ else none
  | _ => none

/-- The result an accepted event adds to the shared document. -/
def sharedTest : StoreEvent → Option TestResultWithUid
  | updateAllTestScore uid testScore dateString true => some ⟨dateString, testScore, uid.val⟩
  | _ => none

end StoreEvent

namespace Ledger

/-- A registration leaves a record with the placeholder alone. -/
lemma own_step_of_registers {L : Ledger} {u : Uid} {e : StoreEvent} (h : e.registers u) :
    ∃ info, (L.step e).own u = some info ∧ info.testResult = [placeholder] := by
  cases e with
  | writeData uid form accepted =>
    cases accepted with
    | false => cases h
    | true =>
      simp only [StoreEvent.registers, Bool.and_eq_true, decide_eq_true_eq] at h
      obtain ⟨rfl, hp⟩ := h
      obtain ⟨info, hp⟩ := Option.isSome_iff_exists.mp hp
      exact ⟨info, by simp [step, hp], RegisterForm.testResult_of_profile hp⟩
  | updateTestScore => cases h
  | updateAllTestScore => cases h

/-- Any other write records at most one test. -/
lemma own_step {L : Ledger} {u : Uid} {e : StoreEvent} (h : ¬ e.registers u) :
    (L.step e).own u =
      (L.own u).map fun info =>
        { info with
          testResult := (e.ownTest u).toList.foldl UnionList.addNew info.testResult } := by
  cases e with
  | writeData uid form accepted =>
    cases accepted with
    | false => simp [step, StoreEvent.ownTest]
    | true =>
      cases hp : form.profile with
      | none => simp [step, hp, StoreEvent.ownTest]
      | some info =>
        have hu : u ≠ uid := by
          rintro rfl
          simp [StoreEvent.registers, hp] at h
        simp [step, hp, StoreEvent.ownTest, Function.update_of_ne hu]
  | updateTestScore uid testScore dateString accepted =>
    cases accepted with
    | false => simp [step, StoreEvent.ownTest]
    | true =>
      by_cases hu : uid = u
      · subst hu
        simp [step, StoreEvent.ownTest, TestInformation.record]
      · simp [step, StoreEvent.ownTest, hu, Function.update_of_ne (Ne.symm hu)]
  | updateAllTestScore uid testScore dateString accepted =>
    cases accepted <;> simp [step, StoreEvent.ownTest]

/-- An event adds its shared result, if it has one, to the shared results. -/
lemma shared_step {L : Ledger} {e : StoreEvent} :
    (L.step e).shared =
      L.shared.map fun all =>
        ⟨e.sharedTest.toList.foldl UnionList.addNew all.testResult⟩ := by
  cases e with
  | writeData uid form accepted =>
    cases accepted with
    | false => simp [step, StoreEvent.sharedTest]
    | true => cases hp : form.profile <;> simp [step, hp, StoreEvent.sharedTest]
  | updateTestScore uid testScore dateString accepted =>
    cases accepted <;> simp [step, StoreEvent.sharedTest]
  | updateAllTestScore uid testScore dateString accepted =>
    cases accepted <;> simp [step, StoreEvent.sharedTest, AllTestResult.record]

/-- A user has a record exactly if there was one before or the user registers in the run. -/
theorem own_run_isSome {L : Ledger} {u : Uid} {es : List StoreEvent} :
    ((L.run es).own u).isSome ↔ (L.own u).isSome ∨ ∃ e ∈ es, e.registers u := by
  induction es generalizing L with
  | nil => simp
  | cons e es ih =>
    rw [run_cons, ih, List.exists_mem_cons_iff]
    by_cases h : e.registers u
    · obtain ⟨info, hi, -⟩ := own_step_of_registers (L := L) h
      simp [hi, h]
    · simp [own_step h, h]

/-- What a fresh record has and every accepted test of the user keeps, the user's record has after
every run. -/
theorem own_run_inv {P : TestInformation → Prop} {u : Uid}
    (fresh : ∀ info, info.testResult = [placeholder] → P info) {es : List StoreEvent}
    (keep : ∀ e ∈ es, ∀ r info, e.ownTest u = some r → P info → P (info.record r)) {L : Ledger}
    (hL : ∀ info, L.own u = some info → P info) :
    ∀ info, (L.run es).own u = some info → P info := by
  induction es generalizing L with
  | nil => exact hL
  | cons e es ih =>
    refine ih (fun e' he' => keep e' (List.mem_cons_of_mem e he')) fun info hi => ?_
    by_cases h : e.registers u
    · -- whatever was there before, the registration has replaced it
      obtain ⟨info', hi', hp⟩ := own_step_of_registers (L := L) h
      cases hi'.symm.trans hi
      exact fresh info hp
    · rw [own_step h] at hi
      obtain ⟨info', hi', rfl⟩ := Option.map_eq_some_iff.mp hi
      cases ho : e.ownTest u with
      | none => exact hL info' hi'
      | some r => exact keep e List.mem_cons_self r info' ho (hL info' hi')

/-- Without a registration of the user, a run records the accepted tests of the user in order. -/
theorem own_run {L : Ledger} {u : Uid} {es : List StoreEvent} (h : ∀ e ∈ es, ¬ e.registers u) :
    (L.run es).own u =
      (L.own u).map fun info =>
        { info with
          testResult := (es.filterMap (·.ownTest u)).foldl UnionList.addNew info.testResult } := by
  induction es generalizing L with
  | nil => simp
  | cons e es ih =>
    have he : ¬ e.registers u := h e List.mem_cons_self
    have ih' := ih (L := L.step e) fun e' he' => h e' (List.mem_cons_of_mem e he')
    rw [run_cons, ih', own_step he, Option.map_map]
    cases ho : e.ownTest u <;> simp [Function.comp_def, ho]

/-- The shared results after a run are those before with the new ones of the run. -/
theorem shared_run {L : Ledger} {es : List StoreEvent} :
    (L.run es).shared =
      L.shared.map fun all =>
        ⟨(es.filterMap StoreEvent.sharedTest).foldl UnionList.addNew all.testResult⟩ := by
  induction es generalizing L with
  | nil => simp
  | cons e es ih =>
    rw [run_cons, ih, shared_step, Option.map_map]
    cases hs : e.sharedTest <;> simp [Function.comp_def, hs]

/-- From the initial ledger the shared results are those of the run, without repetitions. -/
lemma shared_run_initial (es : List StoreEvent) :
    (initial.run es).shared = some ⟨(es.filterMap StoreEvent.sharedTest).eraseDups⟩ := by
  rw [shared_run]
  exact congrArg (fun l => some (AllTestResult.mk l))
    (UnionList.foldl_addNew [] (es.filterMap StoreEvent.sharedTest))

end Ledger

end Soliu
