import Mathlib.Data.List.Induction
import Mathlib.Tactic.Common

/-!
# Machines

A machine reads one event at a time. On each event it either moves to a next state and hands out a
list of outputs, or it traps (`none`), after which nothing more happens. `Machine.run` is the run of
a whole list of events.

Two ways of speaking about every moment of a run are provided, and the rules between them:

* `Machine.Along` : a predicate holds in every state the run goes through;
* `Machine.EachStep` : a condition on the state and the event holds before every step of the run.

`Machine.run_rule` is the induction over runs (the last event is peeled off), and
`Machine.along_iff_eachStep` says that a predicate holds all along a run exactly when every single
step meets the condition under which that step keeps it.
-/

/-- A deterministic machine whose steps may trap. -/
structure Machine (State Event Output : Type*) where
  step : State → Event → Option (State × List Output)

namespace Machine

variable {State Event Output : Type*} (M : Machine State Event Output)

/-- The state reached by a list of events, with everything handed out on the way. -/
def run (s : State) : List Event → Option (State × List Output)
  | [] => some (s, [])
  | e :: es =>
    match M.step s e with
    | none => none
    | some (s', o) => (run s' es).map fun r => (r.1, o ++ r.2)

/-- A predicate holds in every state that the run of `es` goes through. -/
def Along (s : State) (es : List Event) (P : State → Prop) : Prop :=
  ∀ pre post s' os, es = pre ++ post → M.run s pre = some (s', os) → P s'

/-- A condition holds before every step that the run of `es` takes. -/
def EachStep (s : State) (es : List Event) (Q : State → Event → Prop) : Prop :=
  ∀ pre e post s' os, es = pre ++ e :: post → M.run s pre = some (s', os) → Q s' e

/-- What the steps of the run of `es` take note of, step by step. -/
def collect {α : Type*} (f : State → Event → List α) (s : State) : List Event → List α
  | [] => []
  | e :: es =>
    f s e ++
      match M.step s e with
      | none => []
      | some (s', _) => collect f s' es

variable {M}

/-- Without events nothing happens. -/
@[simp]
lemma run_nil {s : State} : M.run s [] = some (s, []) := rfl

/-- A run is its first step and the run from there. -/
lemma run_cons {s e es} :
    M.run s (e :: es) =
      (M.step s e).bind fun r => (M.run r.1 es).map fun q => (q.1, r.2 ++ q.2) := by
  rw [run]
  cases M.step s e <;> rfl

/-- The same for a run that is given. -/
lemma run_cons_iff {s e es t os} :
    M.run s (e :: es) = some (t, os) ↔
      ∃ s' o₁ o₂, M.step s e = some (s', o₁) ∧ M.run s' es = some (t, o₂) ∧ os = o₁ ++ o₂ := by
  rw [run_cons]
  cases h : M.step s e with
  | none => simp
  | some r =>
    simp only [Option.bind_some, Option.map_eq_some_iff, Option.some.injEq, Prod.mk.injEq]
    constructor
    · rintro ⟨q, hq, rfl, rfl⟩
      exact ⟨r.1, r.2, q.2, rfl, hq, rfl⟩
    · rintro ⟨s', o₁, o₂, rfl, hq, rfl⟩
      exact ⟨(t, o₂), hq, rfl, rfl⟩

/-- A run of two lists of events is two runs. -/
lemma run_append {s es fs} :
    M.run s (es ++ fs) =
      (M.run s es).bind fun r => (M.run r.1 fs).map fun q => (q.1, r.2 ++ q.2) := by
  induction es generalizing s with
  | nil => cases h : M.run s fs <;> simp [h]
  | cons e es ih =>
    rw [List.cons_append, run_cons, run_cons]
    cases M.step s e with
    | none => rfl
    | some r =>
      simp only [Option.bind_some, ih]
      cases M.run r.1 es with
      | none => rfl
      | some q => cases h : M.run q.1 fs <;> simp [h, List.append_assoc]

/-- A run is a run and one last step. -/
lemma run_concat_iff {s es e s'' os} :
    M.run s (es ++ [e]) = some (s'', os) ↔
      ∃ s' o₁ o₂, M.run s es = some (s', o₁) ∧ M.step s' e = some (s'', o₂) ∧ os = o₁ ++ o₂ := by
  rw [run_append]
  cases h : M.run s es with
  | none => simp
  | some r =>
    simp only [Option.bind_some, Option.map_eq_some_iff, Option.some.injEq, Prod.mk.injEq]
    constructor
    · rintro ⟨q, hq, rfl, rfl⟩
      obtain ⟨s', o₁, o₂, hs, hn, e⟩ := run_cons_iff.mp hq
      cases hn
      exact ⟨r.1, r.2, q.2, rfl, by rw [e, List.append_nil]; exact hs, rfl⟩
    · rintro ⟨s', o₁, o₂, rfl, hs, rfl⟩
      exact ⟨(s'', o₂), run_cons_iff.mpr ⟨s'', o₂, [], hs, rfl, (List.append_nil o₂).symm⟩, rfl,
        rfl⟩

/-- What one more step takes note of comes last. -/
lemma collect_concat {α : Type*} {f : State → Event → List α} {s es s' os e}
    (h : M.run s es = some (s', os)) :
    M.collect f s (es ++ [e]) = M.collect f s es ++ f s' e := by
  induction es generalizing s os with
  | nil =>
    cases h
    rw [List.nil_append, collect, collect, List.nil_append]
    cases M.step s' e <;> exact List.append_nil _
  | cons a es ih =>
    obtain ⟨t, o₁, o₂, hs, hr, -⟩ := run_cons_iff.mp h
    rw [List.cons_append, collect, collect, hs]
    dsimp only
    rw [ih hr, List.append_assoc]

/-- Induction over runs: what holds of the empty run and is kept by one more step holds of all. -/
theorem run_rule {s₀ : State} {P : List Event → State → List Output → Prop} (nil : P [] s₀ [])
    (snoc : ∀ {es s os e s' o}, M.run s₀ es = some (s, os) → P es s os →
      M.step s e = some (s', o) → P (es ++ [e]) s' (os ++ o)) :
    ∀ {es s os}, M.run s₀ es = some (s, os) → P es s os := by
  intro es
  induction es using List.reverseRecOn with
  | nil =>
    intro s os h
    cases h
    exact nil
  | append_singleton es e ih =>
    intro s os h
    obtain ⟨s', o₁, o₂, hr, hs, rfl⟩ := run_concat_iff.mp h
    exact snoc hr (ih hr) hs

/-- In the empty run there is only the first state. -/
lemma along_nil {s : State} {P : State → Prop} : M.Along s [] P ↔ P s := by
  constructor
  · intro h
    exact h [] [] s [] rfl rfl
  · rintro h pre post s' os e hr
    obtain ⟨rfl, rfl⟩ := List.append_eq_nil_iff.mp e.symm
    cases hr
    exact h

/-- The states of a run are the first one and those from the first step on. -/
lemma along_cons {s e es} {P : State → Prop} :
    M.Along s (e :: es) P ↔ P s ∧ ∀ s' o, M.step s e = some (s', o) → M.Along s' es P := by
  constructor
  · intro h
    refine ⟨h [] _ s [] rfl rfl, fun s' o hs pre post t os e' hr => ?_⟩
    exact h (e :: pre) post t (o ++ os) (by rw [e', List.cons_append])
      (run_cons_iff.mpr ⟨s', o, os, hs, hr, rfl⟩)
  · rintro ⟨h₁, h₂⟩ pre post t os e' hr
    cases pre with
    | nil => cases hr; exact h₁
    | cons a pre =>
      obtain ⟨rfl, rfl⟩ := List.cons.inj e'
      obtain ⟨t', o₁, o₂, hs, hq, -⟩ := run_cons_iff.mp hr
      exact h₂ t' o₁ hs pre post t o₂ rfl hq

/-- The empty run has no steps. -/
lemma eachStep_nil {s : State} {Q : State → Event → Prop} : M.EachStep s [] Q := by
  intro pre e post s' os h
  cases pre <;> cases h

/-- What holds of all states and events holds before every step. -/
lemma eachStep_of_forall {s es} {Q : State → Event → Prop} (h : ∀ s e, Q s e) :
    M.EachStep s es Q :=
  fun _ e _ s' _ _ _ => h s' e

/-- The steps of a run are the first one and those from there. -/
lemma eachStep_cons {s e es} {Q : State → Event → Prop} :
    M.EachStep s (e :: es) Q ↔
      Q s e ∧ ∀ s' o, M.step s e = some (s', o) → M.EachStep s' es Q := by
  constructor
  · intro h
    refine ⟨h [] e es s [] rfl rfl, fun s' o hs pre a post t os e' hr => ?_⟩
    exact h (e :: pre) a post t (o ++ os) (by rw [e', List.cons_append])
      (run_cons_iff.mpr ⟨s', o, os, hs, hr, rfl⟩)
  · rintro ⟨h₁, h₂⟩ pre a post t os e' hr
    cases pre with
    | nil =>
      obtain ⟨rfl, rfl⟩ := List.cons.inj e'
      cases hr
      exact h₁
    | cons b pre =>
      obtain ⟨rfl, rfl⟩ := List.cons.inj e'
      obtain ⟨t', o₁, o₂, hs, hq, -⟩ := run_cons_iff.mp hr
      exact h₂ t' o₁ hs pre a post t o₂ rfl hq

/-- A condition on each step can be decided where it can be on one. -/
instance decidableEachStep {Q : State → Event → Prop} [∀ s e, Decidable (Q s e)] :
    ∀ s es, Decidable (M.EachStep s es Q)
  | _, [] => .isTrue eachStep_nil
  | s, e :: es =>
    match h : M.step s e with
    | none => decidable_of_iff (Q s e) (by simp [eachStep_cons, h])
    | some (s', o) =>
      have := decidableEachStep (Q := Q) s' es
      decidable_of_iff (Q s e ∧ M.EachStep s' es Q) (by simp [eachStep_cons, h])

/-- The steps of a run that goes on are those before and the last one. -/
lemma eachStep_concat {s s' es os e} {Q : State → Event → Prop} (h : M.run s es = some (s', os)) :
    M.EachStep s (es ++ [e]) Q ↔ M.EachStep s es Q ∧ Q s' e := by
  constructor
  · intro hq
    refine ⟨fun pre a post t o he hr => ?_, hq es e [] s' os rfl h⟩
    exact hq pre a (post ++ [e]) t o (by rw [he, List.append_assoc, List.cons_append]) hr
  · rintro ⟨hes, he⟩ pre a post t o heq hr
    cases post using List.reverseRecOn with
    | nil =>
      obtain ⟨rfl, ha⟩ := List.append_inj' heq rfl
      cases ha
      cases h.symm.trans hr
      exact he
    | append_singleton post b =>
      have heq' : es ++ [e] = (pre ++ a :: post) ++ [b] := by
        rw [heq, List.append_assoc, List.cons_append]
      exact hes pre a post t o (List.append_inj' heq' rfl).1 hr

/-- If, from the states of an invariant `I` where `P` holds, a step that does not trap keeps `P`
exactly under the condition `Q`, then `P` holds all along a run exactly when every step of it meets
`Q`. -/
theorem along_iff_eachStep {I P : State → Prop} {Q : State → Event → Prop}
    (keep : ∀ {s e s' o}, I s → M.step s e = some (s', o) → I s')
    (exact_ : ∀ {s e s' o}, I s → P s → M.step s e = some (s', o) → (Q s e ↔ P s'))
    {s : State} (hi : I s) (hp : P s) {es : List Event} {r : State × List Output}
    (h : M.run s es = some r) : M.Along s es P ↔ M.EachStep s es Q := by
  induction es generalizing s r with
  | nil => exact ⟨fun _ => eachStep_nil, fun _ => along_nil.mpr hp⟩
  | cons e es ih =>
    obtain ⟨s', o, os, hs, hr, -⟩ := run_cons_iff.mp h
    have hstep : ∀ {t o'}, M.step s e = some (t, o') → t = s' := fun ht => by
      cases hs.symm.trans ht
      rfl
    -- the machine is deterministic, so the rest of the run starts in `s'` on both sides
    rw [along_cons, eachStep_cons, exact_ hi hp hs]
    constructor
    · rintro ⟨-, ha⟩
      have hp' : P s' := ha s' o hs [] es s' [] rfl rfl
      exact ⟨hp', fun t o' ht => hstep ht ▸ (ih (keep hi hs) hp' hr).mp (ha s' o hs)⟩
    · rintro ⟨hp', he⟩
      exact ⟨hp, fun t o' ht => hstep ht ▸ (ih (keep hi hs) hp' hr).mpr (he s' o hs)⟩

end Machine
