import Mathlib.Data.List.Lex
import Mathlib.Tactic.Common

/-!
# Lexicographic order of composed lists

How the lexicographic order of two lists that are put together from parts comes down to that of the
parts: the first parts decide if they have the same length (`lex_append_iff_of_length_eq`), or if
both end with a terminator that is smaller than all their elements (`lex_append_cons_iff`).
-/

namespace Lexicographic

open List

variable {α : Type*} {r : α → α → Prop} {as as' bs bs' : List α}

/-- Lists with first parts of one length are compared by these, and then by the rest. -/
theorem lex_append_iff_of_length_eq (h : as.length = as'.length) :
    Lex r (as ++ bs) (as' ++ bs') ↔ Lex r as as' ∨ as = as' ∧ Lex r bs bs' := by
  induction as generalizing as' with
  | nil =>
    obtain rfl := List.length_eq_zero_iff.mp h.symm
    simp
  | cons a as ih =>
    obtain ⟨a', as', rfl⟩ := List.exists_cons_of_length_eq_add_one h.symm
    rw [List.cons_append, List.cons_append, cons_lex_cons_iff, cons_lex_cons_iff,
      ih (Nat.succ.inj h), List.cons.injEq]
    tauto

variable [Std.Asymm r] {t : α}

/-- An element that two lists start with does not matter. -/
lemma lex_cons_self_iff : Lex r (t :: bs) (t :: bs') ↔ Lex r bs bs' := by
  have hirrefl : ¬ r t t := fun h => Std.Asymm.asymm t t h h
  simp [cons_lex_cons_iff, hirrefl]

/-- A terminator that is smaller than the elements before it makes a list smaller than its
continuations, as its end alone does. -/
theorem lex_append_cons_iff (h : ∀ a ∈ as, r t a) (h' : ∀ a ∈ as', r t a) :
    Lex r (as ++ t :: bs) (as' ++ t :: bs') ↔ Lex r as as' ∨ as = as' ∧ Lex r bs bs' := by
  induction as generalizing as' with
  | nil =>
    cases as' with
    | nil => simp [lex_cons_self_iff]
    | cons a' as' =>
      have hlt := h' a' List.mem_cons_self
      simp [cons_lex_cons_iff, hlt]
  | cons a as ih =>
    have hlt := h a List.mem_cons_self
    cases as' with
    | nil =>
      have hne : a ≠ t := by
        rintro rfl
        exact Std.Asymm.asymm a a hlt hlt
      simp [cons_lex_cons_iff, hne, Std.Asymm.asymm t a hlt]
    | cons a' as' =>
      rw [List.forall_mem_cons] at h h'
      rw [List.cons_append, List.cons_append, cons_lex_cons_iff, cons_lex_cons_iff,
        ih h.2 h'.2, List.cons.injEq]
      tauto

end Lexicographic
