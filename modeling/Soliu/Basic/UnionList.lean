import Mathlib.Data.List.Induction
import Mathlib.Data.List.Nodup
import Mathlib.Data.List.Perm.Basic

/-!
# Lists that grow by union

`addNew xs x` appends `x` to `xs` unless an equal element is already there. A list grown this way
out of any sequence of additions is the sequence without its repeats (`foldl_addNew`), each element
standing where it was first added, so two such lists are equal up to order exactly when the same
elements were added to both (`eraseDups_perm_iff`).
-/

namespace UnionList

variable {α β : Type*} [DecidableEq α] [DecidableEq β]

/-- Append an element unless it is already there. -/
def addNew (xs : List α) (x : α) : List α :=
  if x ∈ xs then xs else xs ++ [x]

/-- What is there is not appended. -/
lemma addNew_of_mem {xs : List α} {x : α} (h : x ∈ xs) : addNew xs x = xs := if_pos h

/-- What is not there is. -/
lemma addNew_of_not_mem {xs : List α} {x : α} (h : x ∉ xs) : addNew xs x = xs ++ [x] := if_neg h

/-- The new list has the old elements and the one added. -/
@[simp]
lemma mem_addNew {xs : List α} {x y : α} : y ∈ addNew xs x ↔ y ∈ xs ∨ y = x := by
  by_cases h : x ∈ xs
  · rw [addNew_of_mem h]
    refine ⟨Or.inl, ?_⟩
    rintro (hy | rfl)
    · exact hy
    · exact h
  · rw [addNew_of_not_mem h, List.mem_append, List.mem_singleton]

/-- Additions commute with maps that tell elements apart. -/
lemma map_addNew {f : α → β} (hf : Function.Injective f) (xs : List α) (x : α) :
    (addNew xs x).map f = addNew (xs.map f) (f x) := by
  by_cases h : x ∈ xs
  · rw [addNew_of_mem h, addNew_of_mem (List.mem_map_of_mem h)]
  · have h' : f x ∉ xs.map f := by rwa [List.mem_map_of_injective hf]
    rw [addNew_of_not_mem h, addNew_of_not_mem h', List.map_append, List.map_singleton]

/-- An element that comes last is added to the list without repeats. -/
lemma eraseDups_concat (xs : List α) (x : α) :
    (xs ++ [x]).eraseDups = addNew xs.eraseDups x := by
  rw [List.eraseDups_append]
  by_cases h : x ∈ xs
  · rw [addNew_of_mem (List.mem_eraseDups.mpr h)]
    simp [List.removeAll, h]
  · rw [addNew_of_not_mem (mt List.mem_eraseDups.mp h)]
    simp [List.removeAll, h, List.eraseDups_cons]

/-- A list grown by union is the sequence of what was added, without its repeats. -/
theorem foldl_addNew (xs ys : List α) :
    ys.foldl addNew xs.eraseDups = (xs ++ ys).eraseDups := by
  induction ys generalizing xs with
  | nil => simp
  | cons y ys ih =>
    rw [List.foldl_cons, ← eraseDups_concat, ih, List.append_assoc, List.singleton_append]

/-- A list without its repeats has none. -/
lemma nodup_eraseDups (xs : List α) : xs.eraseDups.Nodup := by
  induction xs using List.reverseRecOn with
  | nil => exact List.nodup_nil
  | append_singleton xs x ih =>
    rw [eraseDups_concat]
    by_cases h : x ∈ xs.eraseDups
    · rwa [addNew_of_mem h]
    · rw [addNew_of_not_mem h]
      exact List.nodup_append.mpr ⟨ih, List.nodup_singleton x,
        fun a ha b hb => by rw [List.mem_singleton.mp hb]; rintro rfl; exact h ha⟩

/-- Repeats may be dropped before a selection or after it. -/
lemma filter_eraseDups (p : α → Bool) (xs : List α) :
    xs.eraseDups.filter p = (xs.filter p).eraseDups := by
  induction xs using List.reverseRecOn with
  | nil => rfl
  | append_singleton xs x ih =>
    rw [eraseDups_concat, List.filter_append]
    cases hp : p x with
    | false =>
      rw [List.filter_singleton, hp, cond_false, List.append_nil, ← ih]
      by_cases h : x ∈ xs.eraseDups
      · rw [addNew_of_mem h]
      · rw [addNew_of_not_mem h, List.filter_append, List.filter_singleton, hp, cond_false,
          List.append_nil]
    | true =>
      rw [List.filter_singleton, hp, cond_true, eraseDups_concat, ← ih]
      by_cases h : x ∈ xs.eraseDups
      · rw [addNew_of_mem h, addNew_of_mem (List.mem_filter.mpr ⟨h, hp⟩)]
      · rw [addNew_of_not_mem h, addNew_of_not_mem fun h' => h (List.mem_filter.mp h').1,
          List.filter_append, List.filter_singleton, hp, cond_true]

/-- Nothing is dropped exactly if nothing is added twice. -/
lemma length_eraseDups_eq_iff {xs : List α} : xs.eraseDups.length = xs.length ↔ xs.Nodup := by
  have hsub : xs.eraseDups.Subperm xs :=
    List.subperm_of_subset (nodup_eraseDups xs) fun _ => List.mem_eraseDups.mp
  constructor
  · intro h
    exact (hsub.perm_of_length_le (Nat.le_of_eq h.symm)).nodup_iff.mp (nodup_eraseDups xs)
  · intro h
    refine List.Perm.length_eq ((List.perm_ext_iff_of_nodup (nodup_eraseDups xs) h).mpr ?_)
    exact fun _ => List.mem_eraseDups

/-- Two lists grown by union agree up to order exactly when the same elements were added. -/
theorem eraseDups_perm_iff {xs ys : List α} :
    xs.eraseDups.Perm ys.eraseDups ↔ ∀ a, a ∈ xs ↔ a ∈ ys := by
  rw [List.perm_ext_iff_of_nodup (nodup_eraseDups xs) (nodup_eraseDups ys)]
  simp only [List.mem_eraseDups]

end UnionList
