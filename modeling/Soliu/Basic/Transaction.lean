import Mathlib.Data.List.Basic
import Mathlib.Data.List.Induction
import Mathlib.Tactic.Common

/-!
# Transactions

A value in two copies. Changes are made to the working copy; a commit stores it, and a rollback,
such as a crash, takes it back to what is stored. The log of a run has the changes that a commit has
stored and those that are pending, and is all that the two copies depend on (`foldl_step`): a change
is lost exactly if a rollback comes before the next commit.
-/

/-- A state that has been committed, and the one that is worked on. -/
structure Transaction (σ : Type*) where
  committed : σ
  working : σ

namespace Transaction

/-- What happens to a transaction. -/
inductive Event (α : Type*) where
  | change (a : α)
  | commit
  | rollback

/-- The change that the event makes, if any. -/
def Event.change? {α : Type*} : Event α → Option α
  | change a => some a
  | commit | rollback => none

/-- The changes that are stored, and those that a rollback would lose. -/
structure Log (α : Type*) where
  durable : List α := []
  pending : List α := []

variable {α σ : Type*} {apply : σ → α → σ}

/-- All changes that are in force, durable or not. -/
def Log.changes (l : Log α) : List α := l.durable ++ l.pending

/-- What an event does to the log. -/
def Log.note (l : Log α) : Event α → Log α
  | .change a => { l with pending := l.pending ++ [a] }
  | .commit => { durable := l.changes }
  | .rollback => { durable := l.durable }

/-- The log of a history. -/
def log (es : List (Event α)) : Log α := es.foldl Log.note {}

variable (apply) in
/-- What an event does to the two states. -/
def step (t : Transaction σ) : Event α → Transaction σ
  | .change a => { t with working := apply t.working a }
  | .commit => { t with committed := t.working }
  | .rollback => { t with working := t.committed }

namespace Log

variable (l : Log α)

/-- A change comes after those before. -/
lemma changes_note_change (a : α) : (l.note (.change a)).changes = l.changes ++ [a] :=
  (List.append_assoc ..).symm

/-- A commit changes nothing in force. -/
lemma changes_note_commit : (l.note .commit).changes = l.changes := List.append_nil _

/-- A rollback takes back what is not durable. -/
lemma changes_note_rollback : (l.note .rollback).changes = l.durable := List.append_nil _

end Log

/-- The log of a history that goes on. -/
lemma log_concat (es : List (Event α)) (e : Event α) : log (es ++ [e]) = (log es).note e :=
  List.foldl_concat ..

/-- Both copies are what the log makes of the value at the start. -/
theorem foldl_step (x : σ) (es : List (Event α)) :
    es.foldl (step apply) ⟨x, x⟩ =
      ⟨(log es).durable.foldl apply x, (log es).changes.foldl apply x⟩ := by
  induction es using List.reverseRecOn with
  | nil => rfl
  | append_singleton es e ih =>
    rw [List.foldl_concat, ih, log_concat]
    cases e with
    | change a =>
      rw [Log.changes_note_change, List.foldl_concat]
      rfl
    | commit =>
      rw [Log.changes_note_commit]
      rfl
    | rollback =>
      rw [Log.changes_note_rollback]
      rfl

/-- The log has changes of the run, in their order. -/
theorem changes_sublist (es : List (Event α)) :
    (log es).changes.Sublist (es.filterMap Event.change?) := by
  induction es using List.reverseRecOn with
  | nil => exact List.nil_sublist _
  | append_singleton es e ih =>
    rw [log_concat, List.filterMap_append]
    cases e with
    | change a =>
      rw [Log.changes_note_change]
      exact ih.append (List.Sublist.refl _)
    | commit =>
      rw [Log.changes_note_commit]
      exact ih.trans (List.sublist_append_left _ _)
    | rollback =>
      rw [Log.changes_note_rollback]
      exact ((List.sublist_append_left _ _).trans ih).trans (List.sublist_append_left _ _)

/-- The durable changes are some of those made, in their order. -/
lemma durable_sublist (es : List (Event α)) :
    (log es).durable.Sublist (es.filterMap Event.change?) :=
  (List.sublist_append_left _ _).trans (changes_sublist es)

end Transaction
