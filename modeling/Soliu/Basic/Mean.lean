import Mathlib.Algebra.BigOperators.Group.Finset.Piecewise
import Mathlib.Algebra.Order.BigOperators.Group.List
import Mathlib.Algebra.Order.Field.Basic
import Mathlib.Tactic.Common

/-!
# Means of lists

The mean of a list lies within any bounds that its elements have, it does not depend on their order,
and the mean of values that are grouped by a key is the mean of the groups' means, each group
weighted by its size (`length_mul_mean_map`).
-/

namespace Mean

/-- The sum of the list is the sum of the sums of its fibers. -/
theorem sum_map_fiberwise {α κ M : Type*} [DecidableEq κ] [AddCommMonoid M] (f : α → M)
    (key : α → κ) (s : Finset κ) {xs : List α} (h : ∀ x ∈ xs, key x ∈ s) :
    (xs.map f).sum = ∑ k ∈ s, ((xs.filter (key · = k)).map f).sum := by
  induction xs with
  | nil => simp
  | cons x xs ih =>
    rw [List.forall_mem_cons] at h
    -- the head counts in the fiber of its own key only
    have hcons : ∀ k, (((x :: xs).filter (key · = k)).map f).sum =
        (if key x = k then f x else 0) + ((xs.filter (key · = k)).map f).sum := by
      intro k
      by_cases hk : key x = k <;> simp [hk]
    rw [List.map_cons, List.sum_cons, ih h.2, Finset.sum_congr rfl fun k _ => hcons k,
      Finset.sum_add_distrib, Finset.sum_ite_eq, if_pos h.1]

variable {K : Type*} [Field K]

/-- The sum divided by the number, and 0 of no numbers. -/
def mean (xs : List K) : K := xs.sum / xs.length

/-- The mean does not depend on the order. -/
lemma mean_perm {xs ys : List K} (h : xs.Perm ys) : mean xs = mean ys := by
  rw [mean, mean, h.sum_eq, h.length_eq]

/-- The mean as often as there are numbers is the sum. -/
lemma length_mul_mean [CharZero K] (xs : List K) : xs.length * mean xs = xs.sum := by
  cases xs with
  | nil => simp [mean]
  | cons x xs =>
    have hlength : ((x :: xs).length : K) ≠ 0 := Nat.cast_ne_zero.mpr (Nat.succ_ne_zero _)
    rw [mean, mul_div_cancel₀ _ hlength]

/-- The mean is the mean of the fibers' means, weighted by the sizes of the fibers. -/
theorem length_mul_mean_map [CharZero K] {α κ : Type*} [DecidableEq κ] (f : α → K) (key : α → κ)
    (xs : List α) :
    xs.length * mean (xs.map f) = ∑ k ∈ (xs.map key).toFinset,
      (xs.filter (key · = k)).length * mean ((xs.filter (key · = k)).map f) := by
  have hmean : ∀ ys : List α, (ys.length : K) * mean (ys.map f) = (ys.map f).sum := by
    intro ys
    have h := length_mul_mean (ys.map f)
    rwa [List.length_map] at h
  rw [hmean, sum_map_fiberwise f key (xs.map key).toFinset]
  · exact Finset.sum_congr rfl fun k _ => (hmean _).symm
  · intro x hx
    exact List.mem_toFinset.mpr (List.mem_map_of_mem hx)

section Order

variable [LinearOrder K] [IsStrictOrderedRing K] {xs : List K} {a b : K}

/-- The mean is at most what all numbers are at most. -/
lemma mean_le (hne : xs ≠ []) (h : ∀ x ∈ xs, x ≤ b) : mean xs ≤ b := by
  have hpos : (0 : K) < xs.length := Nat.cast_pos.mpr (List.length_pos_iff.mpr hne)
  rw [mean, div_le_iff₀ hpos, mul_comm, ← nsmul_eq_mul]
  exact List.sum_le_card_nsmul xs b h

/-- The mean is at least what all numbers are at least. -/
lemma le_mean (hne : xs ≠ []) (h : ∀ x ∈ xs, a ≤ x) : a ≤ mean xs := by
  have hpos : (0 : K) < xs.length := Nat.cast_pos.mpr (List.length_pos_iff.mpr hne)
  rw [mean, le_div_iff₀ hpos, mul_comm, ← nsmul_eq_mul]
  exact List.card_nsmul_le_sum xs a h

end Order

end Mean
