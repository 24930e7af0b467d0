import Mathlib.Data.List.Basic
import Mathlib.Tactic.Common

/-!
# One pass in search of a list

A pass over a list that looks for the elements of another one by one, and never goes back: after
`xs` it has found the first `matched l xs` elements of `l`. It is greedy, and still finds as many of
them as `xs` has in this order (`le_matched_iff`). `Exhausted l xs` says that it has found all of
`l` before it comes to the last element of `xs`.
-/

namespace Greedy

open List

variable {α : Type*} {l xs : List α} {x y : α} {k : ℕ}

/-- The pass has found the whole list with something left to visit. -/
def Exhausted (l xs : List α) : Prop := xs ≠ [] ∧ l <+ xs.dropLast

/-- The empty list is never exhausted. -/
@[simp]
lemma not_exhausted_nil : ¬ Exhausted l [] := fun h => h.1 rfl

/-- Where nothing is asked for, a nonempty list is exhausted. -/
@[simp]
lemma exhausted_nil_cons : Exhausted [] (x :: xs) := ⟨cons_ne_nil _ _, nil_sublist _⟩

/-- An element that is found moves both lists on. -/
lemma exhausted_cons_self : Exhausted (x :: l) (x :: xs) ↔ Exhausted l xs := by
  cases xs with
  | nil => simp [Exhausted]
  | cons x' xs => simp [Exhausted]

/-- An element that is not the one asked for is passed over. -/
lemma exhausted_cons_of_ne (h : y ≠ x) : Exhausted (y :: l) (x :: xs) ↔ Exhausted (y :: l) xs := by
  cases xs with
  | nil => simp [Exhausted]
  | cons x' xs =>
    rw [Exhausted, Exhausted, dropLast_cons_cons, sublist_cons_iff, or_iff_left]
    · simp
    · rintro ⟨r, e, -⟩
      exact h (List.cons.inj e).1

variable [DecidableEq α]

/-- Whether a list is exhausted can be decided. -/
instance : Decidable (Exhausted l xs) := inferInstanceAs (Decidable (_ ∧ _))

/-- How many elements of the first list the pass over the second one finds. -/
def matched : List α → List α → ℕ
  | _, [] => 0
  | [], _ :: _ => 0
  | y :: l, x :: xs => if y = x then matched l xs + 1 else matched (y :: l) xs

/-- Nothing is matched in the empty list. -/
@[simp]
lemma matched_nil_right : matched l [] = 0 := by rw [matched]

/-- An element that is found counts. -/
lemma matched_cons_self : matched (x :: l) (x :: xs) = matched l xs + 1 := by
  rw [matched, if_pos rfl]

/-- Another element does not. -/
lemma matched_cons_of_ne (h : y ≠ x) : matched (y :: l) (x :: xs) = matched (y :: l) xs := by
  rw [matched, if_neg h]

/-- No more is matched than is asked for. -/
lemma matched_le_length : matched l xs ≤ l.length := by
  fun_induction matched l xs with
  | case1 | case2 => exact Nat.zero_le _
  | case3 l x xs ih => exact Nat.succ_le_succ ih
  | case4 y l x xs h ih => exact ih

/-- The pass finds a part of the list from its beginning exactly if that part is a sublist. -/
theorem le_matched_iff (hk : k ≤ l.length) : k ≤ matched l xs ↔ l.take k <+ xs := by
  fun_induction matched l xs generalizing k with
  | case1 l =>
    rw [Nat.le_zero, sublist_nil, take_eq_nil_iff, or_iff_left_of_imp]
    rintro rfl
    exact Nat.le_zero.mp hk
  | case2 x xs =>
    obtain rfl := Nat.le_zero.mp hk
    simp
  | case3 l x xs ih =>
    cases k with
    | zero => simp
    | succ k =>
      rw [Nat.succ_le_succ_iff, ih (Nat.succ_le_succ_iff.mp hk), take_succ_cons, cons_sublist_cons]
  | case4 y l x xs h ih =>
    rw [ih hk]
    cases k with
    | zero => simp
    | succ k =>
      rw [take_succ_cons, sublist_cons_iff, or_iff_left]
      rintro ⟨r, e, -⟩
      exact h (List.cons.inj e).1

/-- All is matched exactly if it is a sublist. -/
lemma matched_eq_length_iff : matched l xs = l.length ↔ l <+ xs := by
  have h : l.length ≤ matched l xs ↔ l.take l.length <+ xs := le_matched_iff (Nat.le_refl _)
  rw [take_length] at h
  rw [← h]
  exact ⟨Nat.le_of_eq ∘ Eq.symm, Nat.le_antisymm matched_le_length⟩

section

variable {β : Type*} [DecidableEq β] {f : α → β}

/-- Looking for the elements by a key that tells them apart finds as many. -/
lemma matched_map (h : ∀ a ∈ l, ∀ b ∈ xs, f a = f b → a = b) :
    matched (l.map f) (xs.map f) = matched l xs := by
  fun_induction matched l xs with
  | case1 l => rw [map_nil, matched_nil_right]
  | case2 x xs => rw [map_nil, map_cons, matched]
  | case3 l x xs ih =>
    rw [map_cons, map_cons, matched_cons_self, ih]
    exact fun a ha b hb => h a (mem_cons_of_mem _ ha) b (mem_cons_of_mem _ hb)
  | case4 y l x xs hne ih =>
    have hne' : f y ≠ f x := fun e => hne (h y mem_cons_self x mem_cons_self e)
    rw [map_cons, map_cons, matched_cons_of_ne hne', ← map_cons, ih]
    exact fun a ha b hb => h a ha b (mem_cons_of_mem _ hb)

/-- A map that tells the elements of two lists apart keeps their sublists. -/
lemma map_sublist_map_iff (h : ∀ a ∈ l, ∀ b ∈ xs, f a = f b → a = b) :
    l.map f <+ xs.map f ↔ l <+ xs := by
  rw [← matched_eq_length_iff, matched_map h, length_map, matched_eq_length_iff]

/-- Such a map keeps what is exhausted. -/
lemma exhausted_map (h : ∀ a ∈ l, ∀ b ∈ xs, f a = f b → a = b) :
    Exhausted (l.map f) (xs.map f) ↔ Exhausted l xs := by
  rw [Exhausted, Exhausted, ← map_dropLast, map_sublist_map_iff, Ne, map_eq_nil_iff]
  exact fun a ha b hb => h a ha b ((dropLast_sublist _).subset hb)

end

end Greedy
