import Mathlib.Data.List.Basic
import Mathlib.Tactic.Common

/-!
# Slices and index loops

Reading an array at an index it does not have is a trap (`none`). `slice xs lower upper` is the
slice `xs[lower...upper]`, both bounds included, and `foldlM_range'` says that a loop over these
indices, which reads the array element by element, traps exactly when the slice does and computes
the fold over the slice otherwise. `foldlM_isSome_iff` is for loops whose rounds trap or not
whatever has been accumulated.
-/

namespace Slice

variable {α β σ τ : Type*}

/-- The elements at the indices from `lower` to `upper`. -/
def slice (xs : List α) (lower upper : ℕ) : Option (List α) :=
  if upper < xs.length then some ((xs.take (upper + 1)).drop lower) else none

/-- A slice exists exactly if its upper bound is an index. -/
@[simp]
lemma slice_isSome {xs : List α} {lower upper : ℕ} :
    (slice xs lower upper).isSome ↔ upper < xs.length := by
  rw [slice]
  split <;> simp [*]

/-- A slice of one index has the element there. -/
lemma slice_self (xs : List α) (i : ℕ) : slice xs i i = xs[i]?.map ([·]) := by
  rw [slice]
  split
  case isTrue h =>
    rw [List.getElem?_eq_getElem h, List.take_add_one, List.getElem?_eq_getElem h,
      List.drop_append_of_le_length (by rw [List.length_take]; omega)]
    simp
  case isFalse h => rw [List.getElem?_eq_none (by omega), Option.map_none]

/-- A slice that goes on by one has one element more, if there is one. -/
lemma slice_succ (xs : List α) {lower upper : ℕ} (h : lower ≤ upper + 1) :
    slice xs lower (upper + 1) =
      (slice xs lower upper).bind fun ys => xs[upper + 1]?.map fun x => ys ++ [x] := by
  rw [slice, slice]
  by_cases h₁ : upper + 1 < xs.length
  · rw [if_pos h₁, if_pos (by omega), Option.bind_some, List.getElem?_eq_getElem h₁,
      List.take_add_one, List.getElem?_eq_getElem h₁,
      List.drop_append_of_le_length (by rw [List.length_take]; omega)]
    rfl
  · rw [if_neg h₁, List.getElem?_eq_none (by omega)]
    cases (if upper < xs.length then some ((xs.take (upper + 1)).drop lower) else none) <;> rfl

/-- A loop over the indices `lower...lower + n` is a fold over the slice. -/
theorem foldlM_range' (f : σ → α → σ) (xs : List α) (lower n : ℕ) (s : σ) :
    (List.range' lower (n + 1)).foldlM (fun s i => xs[i]?.map (f s)) s =
      (slice xs lower (lower + n)).map (List.foldl f s) := by
  induction n with
  | zero =>
    rw [Nat.zero_add, Nat.add_zero, slice_self]
    cases h : xs[lower]? <;> simp [h]
  | succ n ih =>
    rw [List.range'_concat, Nat.one_mul, List.foldlM_append, ih, ← Nat.add_assoc,
      slice_succ xs (by omega)]
    cases slice xs lower (lower + n) with
    | none => rfl
    | some ys => cases h : xs[lower + n + 1]? <;> simp [h]

/-- A loop can be replaced by one with the same rounds. -/
lemma foldlM_congr {f g : σ → β → Option σ} {bs : List β} (h : ∀ b ∈ bs, ∀ s, f s b = g s b)
    (s : σ) : bs.foldlM f s = bs.foldlM g s := by
  induction bs generalizing s with
  | nil => rfl
  | cons b bs ih =>
    rw [List.foldlM_cons, List.foldlM_cons, h b List.mem_cons_self]
    exact bind_congr fun s => ih (fun b hb => h b (List.mem_cons_of_mem _ hb)) s

/-- Of two steps the second of which traps or not whatever the first one gives, none traps. -/
lemma bind_isSome_iff {o : Option σ} {f : σ → Option τ} {p : Prop} (h : ∀ s, (f s).isSome ↔ p) :
    (o.bind f).isSome ↔ o.isSome ∧ p := by
  cases o with
  | none => simp
  | some s => simpa using h s

/-- A loop whose rounds may trap goes through exactly when none of them traps. -/
lemma foldlM_isSome_iff {f : σ → β → Option σ} {q : β → Prop}
    (h : ∀ s b, (f s b).isSome ↔ q b) (bs : List β) (s : σ) :
    (bs.foldlM f s).isSome ↔ ∀ b ∈ bs, q b := by
  induction bs generalizing s with
  | nil => simp
  | cons b bs ih =>
    rw [List.foldlM_cons, List.forall_mem_cons, ← h s b]
    exact bind_isSome_iff ih

/-- What every round of a loop keeps, the loop keeps. -/
lemma foldlM_inv {f : σ → β → Option σ} {I : σ → Prop}
    (keep : ∀ {s b s'}, I s → f s b = some s' → I s') {bs : List β} {s s' : σ} (hs : I s)
    (h : bs.foldlM f s = some s') : I s' := by
  induction bs generalizing s with
  | nil =>
    cases h
    exact hs
  | cons b bs ih =>
    rw [List.foldlM_cons] at h
    obtain ⟨t, ht, h⟩ := Option.bind_eq_some_iff.mp h
    exact ih (keep hs ht) h

end Slice
