import Soliu.Basic.Machine
import Soliu.Profile.ViewModel

/-!
# Overlapping profile reads

`readTestResult` starts two reads and waits for both in a group of its own, but all calls write to
the same two fields, and a group that is complete shows whatever the fields hold then. The machine
here delivers the callbacks and the notifications of any number of calls in any order that the
groups allow (`deliver`).

`run_history` says what the fields hold: the records of the calls that delivered last (`lastUser`,
`lastAll`). `reads_coherent_iff` turns this into the exact orders of delivery in which every record
shown is that of one call, and the last one that of the most recent call, whatever is read.
-/

namespace Soliu

open ProfileViewModel

/-- What the calls read: the user signed in when a call starts, and what its reads find by path. -/
structure Reads where
  currentUser : ℕ → Option Uid
  getDocument : ℕ → String → Option (Option Document)

/-- A step of the main queue; calls are numbered in the order in which they start. -/
inductive ReadEvent where
  | call
  | userCallback (i : ℕ)
  | allCallback (i : ℕ)
  | notify (i : ℕ)
deriving DecidableEq

/-- How far the two reads of one call have come. -/
structure Call where
  userDelivered : Bool := false
  allDelivered : Bool := false
  notified : Bool := false
deriving DecidableEq

/-- The groups after a step, if they allow it: each callback comes once, and the notification comes
once and after both. -/
def deliver (calls : List Call) : ReadEvent → Option (List Call)
  | .call => some (calls ++ [{}])
  | .userCallback i => do
    let c ← calls[i]?
    if c.userDelivered then none else return calls.set i { c with userDelivered := true }
  | .allCallback i => do
    let c ← calls[i]?
    if c.allDelivered then none else return calls.set i { c with allDelivered := true }
  | .notify i => do
    let c ← calls[i]?
    if c.userDelivered ∧ c.allDelivered ∧ ¬ c.notified then
      return calls.set i { c with notified := true }
    else none

/-- The calls after the events, unless the group does not allow these. -/
def deliveries (es : List ReadEvent) : Option (List Call) := es.foldlM deliver []

/-- The calls and the fields of the view model that they share. -/
structure ReadsState where
  calls : List Call := []
  viewModel : ProfileViewModel := {}
deriving DecidableEq

namespace Reads

/-- One step, with the score that it hands to `reloadData`, if any. -/
def step (R : Reads) (s : ReadsState) (e : ReadEvent) :
    Option (ReadsState × List AverageTestScore) := do
  let calls ← deliver s.calls e
  match e with
  | .call => return ({ s with calls }, [])
  | .userCallback i =>
    -- the path was fixed when the call started
    let document := R.getDocument i (userDocument (R.currentUser i))
    return ({ calls, viewModel := s.viewModel.receiveUserTestData document }, [])
  | .allCallback i =>
    let document := R.getDocument i "All_Test_Score"
    return ({ calls, viewModel := s.viewModel.receiveUserAllData document }, [])
  | .notify _ =>
    let score ← s.viewModel.calculateTestScore
    return ({ s with calls }, [score])

/-- The reads as a machine. -/
def machine (R : Reads) : Machine ReadsState ReadEvent AverageTestScore := ⟨R.step⟩

/-- The two records delivered to one call. -/
def records (R : Reads) (i : ℕ) : ProfileViewModel :=
  (receiveUserTestData {} (R.getDocument i (userDocument (R.currentUser i)))).receiveUserAllData
    (R.getDocument i "All_Test_Score")

/-- What is shown are the records of one call. -/
def Presents (R : Reads) (k : ℕ) (shown : List AverageTestScore) : Prop :=
  ∃ score, (R.records k).calculateTestScore = some score ∧ shown = [score]

/-- A notification shows the two records of one call that has delivered both, and if it is the last
one to come, those of the most recent call. -/
def Coherent (R : Reads) (s : ReadsState) (e : ReadEvent) : Prop :=
  ∀ i, e = .notify i → ∀ s' shown, R.machine.step s e = some (s', shown) →
    (∃ k c, s.calls[k]? = some c ∧ c.userDelivered ∧ c.allDelivered ∧ R.Presents k shown) ∧
      ((∀ c ∈ s'.calls, c.notified) → R.Presents (s.calls.length - 1) shown)

end Reads

/-! ## Who delivered last -/

/-- The call whose own read was the last to be delivered. -/
def lastUser (es : List ReadEvent) : Option ℕ :=
  es.foldl (fun last e => match e with | .userCallback i => some i | _ => last) none

/-- The call whose shared read was the last to be delivered. -/
def lastAll (es : List ReadEvent) : Option ℕ :=
  es.foldl (fun last e => match e with | .allCallback i => some i | _ => last) none

/-- At every notification the two last deliveries are of one call, and at a notification after which
nothing is left to come, of the most recent call. -/
def DeliveredInOrder (es : List ReadEvent) : Prop :=
  ∀ pre i post, es = pre ++ .notify i :: post →
    lastUser pre = lastAll pre ∧
      ∀ calls, deliveries (pre ++ [.notify i]) = some calls → (∀ c ∈ calls, c.notified) →
        lastUser pre = some (calls.length - 1)

/-- The calls after one more event. -/
lemma deliveries_concat (es : List ReadEvent) (e : ReadEvent) :
    deliveries (es ++ [e]) = (deliveries es).bind (deliver · e) := by
  rw [deliveries, List.foldlM_append, ← deliveries]
  cases deliveries es with
  | none => rfl
  | some calls => cases h : deliver calls e <;> simp [h]

/-- The last own read after one more event. -/
lemma lastUser_concat (es : List ReadEvent) (e : ReadEvent) :
    lastUser (es ++ [e]) = match e with | .userCallback i => some i | _ => lastUser es := by
  rw [lastUser, List.foldl_append]
  rfl

/-- The last shared read after one more event. -/
lemma lastAll_concat (es : List ReadEvent) (e : ReadEvent) :
    lastAll (es ++ [e]) = match e with | .allCallback i => some i | _ => lastAll es := by
  rw [lastAll, List.foldl_append]
  rfl

/-- Where a history is allowed, so is its beginning. -/
lemma deliveries_left (pre post : List ReadEvent) (h : (deliveries (pre ++ post)).isSome) :
    ∃ calls, deliveries pre = some calls := by
  rw [deliveries, List.foldlM_append, ← deliveries] at h
  cases hp : deliveries pre with
  | none => simp [hp] at h
  | some calls => exact ⟨calls, rfl⟩

/-- The last deliveries are deliveries, and there are some as soon as a group has any. -/
structure Sources (es : List ReadEvent) (calls : List Call) : Prop where
  user : ∀ k, lastUser es = some k → ∃ c, calls[k]? = some c ∧ c.userDelivered
  all : ∀ k, lastAll es = some k → ∃ c, calls[k]? = some c ∧ c.allDelivered
  userSome : ∀ (i : ℕ) (c : Call), calls[i]? = some c → c.userDelivered → (lastUser es).isSome
  allSome : ∀ (i : ℕ) (c : Call), calls[i]? = some c → c.allDelivered → (lastAll es).isSome

/-- The fields were last written by calls whose reads were delivered. -/
lemma sources_of_deliveries {es : List ReadEvent} {calls : List Call}
    (h : deliveries es = some calls) : Sources es calls := by
  induction es using List.reverseRecOn generalizing calls with
  | nil =>
    cases h
    exact ⟨nofun, nofun, nofun, nofun⟩
  | append_singleton es e ih =>
    rw [deliveries_concat] at h
    obtain ⟨calls₀, h₀, h⟩ := Option.bind_eq_some_iff.mp h
    obtain ⟨hu, ha, hus, has⟩ := ih h₀
    cases e with
    | call =>
      cases h
      constructor <;> simp only [lastUser_concat, lastAll_concat] <;> grind
    | userCallback i =>
      obtain ⟨c, hc, h⟩ := Option.bind_eq_some_iff.mp h
      split at h
      · cases h
      · cases h
        constructor <;> simp only [lastUser_concat, lastAll_concat] <;> grind
    | allCallback i =>
      obtain ⟨c, hc, h⟩ := Option.bind_eq_some_iff.mp h
      split at h
      · cases h
      · cases h
        constructor <;> simp only [lastUser_concat, lastAll_concat] <;> grind
    | notify i =>
      obtain ⟨c, hc, h⟩ := Option.bind_eq_some_iff.mp h
      split at h
      · cases h
        constructor <;> simp only [lastUser_concat, lastAll_concat] <;> grind
      · cases h

/-! ## What the two fields hold -/

namespace Reads

variable {R : Reads}

/-- The fields after the events, each from the read delivered last. -/
def fields (R : Reads) (es : List ReadEvent) : ProfileViewModel where
  testInformation := (lastUser es).bind fun i => (R.records i).testInformation
  allTestResult := (lastAll es).bind fun i => (R.records i).allTestResult

/-- What an event shows: the averages at a notification, else nothing. -/
def shows (R : Reads) (es : List ReadEvent) : ReadEvent → Option (List AverageTestScore)
  | .notify _ => (R.fields es).calculateTestScore.map ([·])
  | _ => some []

/-- A step, when the fields hold what the steps before have delivered. -/
lemma step_fields (R : Reads) (calls : List Call) (es : List ReadEvent) (e : ReadEvent) :
    R.machine.step ⟨calls, R.fields es⟩ e =
      (deliver calls e).bind fun calls' =>
        (R.shows es e).map fun shown => (⟨calls', R.fields (es ++ [e])⟩, shown) := by
  refine bind_congr fun calls' => ?_
  rw [fields, fields, lastUser_concat, lastAll_concat]
  cases e with
  | call => rfl
  | userCallback i => rfl
  | allCallback i => rfl
  | notify i =>
    rw [shows, fields]
    cases calculateTestScore ⟨(lastUser es).bind fun i => (R.records i).testInformation,
      (lastAll es).bind fun i => (R.records i).allTestResult⟩ <;> rfl

/-- The groups and the fields that a run leads to. -/
theorem run_history {es : List ReadEvent} {s : ReadsState} {os : List AverageTestScore}
    (h : R.machine.run {} es = some (s, os)) :
    ∃ calls, deliveries es = some calls ∧ s = ⟨calls, R.fields es⟩ := by
  refine Machine.run_rule (P := fun es s _ => ∃ calls, deliveries es = some calls ∧
    s = ⟨calls, R.fields es⟩) ⟨[], rfl, rfl⟩ ?_ h
  rintro es _ os e s' o - ⟨calls, hd, rfl⟩ hs
  rw [step_fields] at hs
  obtain ⟨calls', hd', hs⟩ := Option.bind_eq_some_iff.mp hs
  obtain ⟨shown, -, hs⟩ := Option.map_eq_some_iff.mp hs
  cases hs
  exact ⟨calls', by rw [deliveries_concat, hd]; exact hd', rfl⟩

/-- If nothing that is read makes the averages trap, every order that the groups allow is a run. -/
lemma exists_run (h : ∀ es, (R.fields es).calculateTestScore.isSome) {es : List ReadEvent}
    {calls : List Call} (hd : deliveries es = some calls) :
    ∃ os, R.machine.run {} es = some (⟨calls, R.fields es⟩, os) := by
  induction es using List.reverseRecOn generalizing calls with
  | nil =>
    cases hd
    exact ⟨[], rfl⟩
  | append_singleton es e ih =>
    rw [deliveries_concat] at hd
    obtain ⟨calls₀, hd₀, hd⟩ := Option.bind_eq_some_iff.mp hd
    obtain ⟨os, hr⟩ := ih hd₀
    have hshows : ∃ shown, R.shows es e = some shown := by
      obtain ⟨score, hs⟩ := Option.isSome_iff_exists.mp (h es)
      cases e with
      | notify i => exact ⟨[score], by rw [shows, hs]; rfl⟩
      | call | userCallback | allCallback => exact ⟨[], rfl⟩
    obtain ⟨shown, hshown⟩ := hshows
    have hstep : R.machine.step ⟨calls₀, R.fields es⟩ e =
        some (⟨calls, R.fields (es ++ [e])⟩, shown) := by
      rw [step_fields, hd, Option.bind_some, hshown, Option.map_some]
    exact ⟨os ++ shown, Machine.run_concat_iff.mpr ⟨_, _, _, hr, hstep, rfl⟩⟩

/-- Where both reads delivered last belong to one call, the fields are the records of that call. -/
lemma fields_eq_records {es : List ReadEvent} {k : ℕ} (hu : lastUser es = some k)
    (ha : lastAll es = some k) : R.fields es = R.records k := by
  rw [fields, hu, ha]
  rfl

/-- Reads in which the `i`-th call finds one sheet of 15 answers `i` in both documents. -/
def numbered : Reads where
  currentUser _ := none
  getDocument i path :=
    if path = "All_Test_Score" then
      some (some (AllTestResult.encode ⟨[⟨"", List.replicate 15 i, ""⟩]⟩))
    else some (some (TestInformation.encode ⟨"", "", "", [⟨"", List.replicate 15 i⟩]⟩))

/-- The records of the numbered calls, all answers of which are the number of the call. -/
lemma records_numbered (i : ℕ) :
    numbered.records i =
      ⟨some ⟨"", "", "", [⟨"", List.replicate 15 i⟩]⟩, some ⟨[⟨"", List.replicate 15 i, ""⟩]⟩⟩ := by
  simp [records, receiveUserTestData, receiveUserAllData, getUserTestData, getUserAllData,
    completion, dataAs, numbered, userDocument, TestInformation.decode_encode,
    AllTestResult.decode_encode]

/-- The averages of the numbered calls can always be calculated. -/
lemma calculateTestScore_numbered (es : List ReadEvent) :
    (numbered.fields es).calculateTestScore.isSome := by
  rw [calculateTestScore_isSome, fields]
  constructor
  · cases lastUser es with
    | none => simp [defaultTestScore]
    | some i => simp [records_numbered]
  · cases lastAll es with
    | none => simp [defaultAllTestScore]
    | some i => simp [records_numbered]

/-- The averages of the numbered calls tell from which calls the fields come. -/
lemma averages_numbered {es : List ReadEvent} {i j : ℕ} (hu : lastUser es = some i)
    (ha : lastAll es = some j) :
    ∃ score, (numbered.fields es).calculateTestScore = some score ∧
      score.userAverageDepressionScore = .finite i ∧
      score.allUserAverageDepressionScore = .finite j := by
  have hsheet : ∀ n : ℕ, Sums.addSheets [List.replicate 15 (n : ℤ)] =
      some ⟨.finite (5 * n), .finite (6 * n), .finite (4 * n)⟩ := by
    intro n
    have h := Sums.addSheet_finite 0 0 0 (List.replicate 15 (n : ℤ)) (by simp)
    simp only [List.take_replicate, List.drop_replicate, List.map_replicate, List.sum_replicate,
      zero_add, nsmul_eq_mul] at h
    simpa [Sums.addSheets, Sums.zero, ExactDouble.ofNat_eq] using h
  have hdiv : ∀ n : ℕ, ExactDouble.finite (5 * n) / 5 / (1 : ℕ) = .finite n ∧
      ExactDouble.finite (5 * n) / (1 : ℕ) / 5 = .finite n := by
    intro n
    rw [ExactDouble.natCast_eq, ExactDouble.ofNat_eq, ExactDouble.finite_div (by norm_num),
      ExactDouble.finite_div (by norm_num), ExactDouble.finite_div (by norm_num),
      ExactDouble.finite_div (by norm_num)]
    exact ⟨by congr 1; push_cast; ring, by congr 1; push_cast; ring⟩
  rw [fields, hu, ha, Option.bind_some, Option.bind_some, records_numbered, records_numbered,
    calculateTestScore, calculateUserAverageScore, calculateAllUserAverageScore]
  simp only [Option.getD_some, List.map_cons, List.map_nil, hsheet, Option.bind_eq_bind,
    Option.bind_some]
  exact ⟨_, rfl, (hdiv i).1, (hdiv j).2⟩

/-- What a notification shows tells which call it is of. -/
lemma eq_of_presents_numbered {es : List ReadEvent} {i j k : ℕ} {score : AverageTestScore}
    (hu : lastUser es = some i) (ha : lastAll es = some j)
    (hs : (numbered.fields es).calculateTestScore = some score)
    (h : numbered.Presents k [score]) : i = k ∧ j = k := by
  have hfields : numbered.fields [.userCallback k, .allCallback k] = numbered.records k := rfl
  obtain ⟨score₁, hs₁, hi, hj⟩ := averages_numbered hu ha
  obtain ⟨score₂, hs₂, hk, hk'⟩ := averages_numbered
    (rfl : lastUser [.userCallback k, .allCallback k] = some k) rfl
  obtain ⟨score', hs', e⟩ := h
  rw [hfields] at hs₂
  cases e
  cases hs.symm.trans hs₁
  cases hs'.symm.trans hs₂
  rw [hk, ExactDouble.finite.injEq, Nat.cast_inj] at hi
  rw [hk', ExactDouble.finite.injEq, Nat.cast_inj] at hj
  exact ⟨hi.symm, hj.symm⟩

/-- At a notification both reads of some call have been delivered. -/
lemma exists_lastUser_of_notify {es : List ReadEvent} {calls calls' : List Call} {i : ℕ}
    (hd : deliveries es = some calls) (hn : deliver calls (.notify i) = some calls') :
    (∃ k, lastUser es = some k) ∧ (∃ k, lastAll es = some k) ∧ calls'.length = calls.length := by
  obtain ⟨c, hc, hn⟩ := Option.bind_eq_some_iff.mp hn
  have hsrc := sources_of_deliveries hd
  split at hn
  case isTrue h =>
    cases hn
    exact ⟨Option.isSome_iff_exists.mp (hsrc.userSome i c hc h.1),
      Option.isSome_iff_exists.mp (hsrc.allSome i c hc h.2.1), List.length_set⟩
  case isFalse => cases hn

/-- If what is shown of these reads is coherent, the last deliveries are in order. -/
lemma lastUser_of_coherent_numbered {pre : List ReadEvent} {i : ℕ} {calls : List Call}
    (hd : deliveries (pre ++ [.notify i]) = some calls)
    (h : ∀ s os, numbered.machine.run {} pre = some (s, os) → numbered.Coherent s (.notify i)) :
    lastUser pre = lastAll pre ∧
      ((∀ c ∈ calls, c.notified) → lastUser pre = some (calls.length - 1)) := by
  rw [deliveries_concat] at hd
  obtain ⟨calls₀, hd₀, hn⟩ := Option.bind_eq_some_iff.mp hd
  obtain ⟨os, hrun⟩ := exists_run calculateTestScore_numbered hd₀
  obtain ⟨⟨i', hu⟩, ⟨j', ha⟩, hl⟩ := exists_lastUser_of_notify hd₀ hn
  obtain ⟨score, hs, -⟩ := averages_numbered hu ha
  have hstep : numbered.machine.step ⟨calls₀, numbered.fields pre⟩ (.notify i) =
      some (⟨calls, numbered.fields (pre ++ [.notify i])⟩, [score]) := by
    rw [step_fields, hn, Option.bind_some, shows, hs]
    rfl
  obtain ⟨⟨k, -, -, -, -, hk⟩, hlast⟩ := h _ os hrun i rfl _ _ hstep
  obtain ⟨rfl, rfl⟩ := eq_of_presents_numbered hu ha hs hk
  refine ⟨hu.trans ha.symm, fun hall => ?_⟩
  rw [hu, hl, (eq_of_presents_numbered hu ha hs (hlast hall)).1]

end Reads

/-- For an order of steps that the groups allow: whatever the calls read, every record shown is that
of one call, and the last one shown that of the most recent call, exactly if the last deliveries
before every notification are of one call, and before the last one of the most recent call. -/
theorem reads_coherent_iff (es : List ReadEvent) (hes : (deliveries es).isSome) :
    (∀ R : Reads, R.machine.EachStep {} es R.Coherent) ↔ DeliveredInOrder es := by
  constructor
  · -- the numbered reads show which calls delivered the two records
    rintro h pre i post rfl
    obtain ⟨calls', hd'⟩ := deliveries_left (pre ++ [.notify i]) post (by simpa using hes)
    obtain ⟨hsame, hlast⟩ := Reads.lastUser_of_coherent_numbered hd'
      fun s os hrun => h Reads.numbered pre _ post s os rfl hrun
    refine ⟨hsame, fun calls hd hall => ?_⟩
    cases hd'.symm.trans hd
    exact hlast hall
  · -- whatever is read, the fields hold the records of the two last deliveries
    rintro h R pre e post s os rfl hrun i rfl s' shown hstep
    obtain ⟨calls, hd, rfl⟩ := Reads.run_history hrun
    rw [Reads.step_fields] at hstep
    obtain ⟨calls', hn, hstep⟩ := Option.bind_eq_some_iff.mp hstep
    obtain ⟨shown', hshows, e⟩ := Option.map_eq_some_iff.mp hstep
    cases e
    obtain ⟨score, hs, rfl⟩ := Option.map_eq_some_iff.mp hshows
    obtain ⟨hsame, hlast⟩ := h pre i post rfl
    obtain ⟨⟨k, hu⟩, -, hl⟩ := Reads.exists_lastUser_of_notify hd hn
    have hsrc := sources_of_deliveries hd
    rw [Reads.fields_eq_records hu (hsame ▸ hu)] at hs
    obtain ⟨c, hc, hcu⟩ := hsrc.user k hu
    obtain ⟨c', hc', hca⟩ := hsrc.all k (hsame ▸ hu)
    cases hc.symm.trans hc'
    refine ⟨⟨k, c, hc, hcu, hca, score, hs, rfl⟩, fun hall => ⟨score, ?_, rfl⟩⟩
    have hk := hlast calls' (by rw [deliveries_concat, hd]; exact hn) hall
    rw [hu, Option.some.injEq, hl] at hk
    rw [← hk, hs]

/-- Two calls, as on the first appearance of the screen, the second answered first. -/
theorem reads_coherent_iff_two_calls :
    (∀ R : Reads, R.machine.EachStep {}
        [.call, .call, .userCallback 1, .userCallback 0, .allCallback 1, .allCallback 0, .notify 1,
          .notify 0] R.Coherent) ↔
      DeliveredInOrder
        [.call, .call, .userCallback 1, .userCallback 0, .allCallback 1, .allCallback 0, .notify 1,
          .notify 0] :=
  reads_coherent_iff _ (by decide)

/-- When the older of two calls is answered last, its record stays on the screen. -/
theorem stale_record_shown :
    ¬ ∀ (es : List ReadEvent) (R : Reads), (deliveries es).isSome →
      R.machine.EachStep {} es R.Coherent := by
  intro h
  let pre : List ReadEvent :=
    [.call, .call, .userCallback 1, .allCallback 1, .notify 1, .userCallback 0, .allCallback 0]
  have hd : deliveries (pre ++ [.notify 0]) = some [⟨true, true, true⟩, ⟨true, true, true⟩] := rfl
  have hstale := (Reads.lastUser_of_coherent_numbered hd fun s os hrun =>
    h (pre ++ [.notify 0]) Reads.numbered (by decide) pre _ [] s os rfl hrun).2 (by decide)
  exact absurd hstale (by decide)

end Soliu
