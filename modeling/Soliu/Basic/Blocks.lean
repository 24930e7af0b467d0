import Mathlib.Data.List.Basic
import Mathlib.Tactic.Common

/-!
# Blocks of a growing list

A list that grows at its end falls into complete blocks of `n` elements (`completeBlocks`) and a
rest that has not reached `n` elements yet (`openBlock`). The lemmas say what one more element does
to the two.
-/

namespace Blocks

variable {α β : Type*}

/-- The complete blocks of `n` elements, in order. -/
def completeBlocks (n : ℕ) (as : List α) : List (List α) :=
  (List.range (as.length / n)).map fun i => (as.drop (n * i)).take n

/-- The elements after the last complete block. -/
def openBlock (n : ℕ) (as : List α) : List α :=
  as.drop (n * (as.length / n))

/-- There are as many complete blocks as fit. -/
@[simp]
lemma length_completeBlocks (n : ℕ) (as : List α) :
    (completeBlocks n as).length = as.length / n := by
  rw [completeBlocks, List.length_map, List.length_range]

/-- The open block has the elements that are left over. -/
@[simp]
lemma length_openBlock (n : ℕ) (as : List α) : (openBlock n as).length = as.length % n := by
  rw [openBlock, List.length_drop, Nat.mod_eq_sub_mul_div]

/-- Every complete block has `n` elements. -/
lemma length_of_mem_completeBlocks {n : ℕ} {as b : List α} (h : b ∈ completeBlocks n as) :
    b.length = n := by
  obtain ⟨i, hi, rfl⟩ := List.mem_map.mp h
  have hi' : n * (i + 1) ≤ as.length :=
    Nat.le_trans (Nat.mul_le_mul_left n (List.mem_range.mp hi)) (Nat.mul_div_le as.length n)
  rw [List.length_take, List.length_drop]
  rw [Nat.mul_add, Nat.mul_one] at hi'
  omega

/-- What stands after the complete blocks, one element later. -/
lemma drop_concat (n : ℕ) (as : List α) (a : α) :
    (as ++ [a]).drop (n * (as.length / n)) = openBlock n as ++ [a] :=
  List.drop_append_of_le_length (Nat.mul_div_le as.length n)

/-- The first blocks of a list are those of every longer list. -/
lemma completeBlocks_append {n : ℕ} {as bs : List α} (m : ℕ) (h : n * m ≤ as.length) :
    (List.range m).map (fun i => ((as ++ bs).drop (n * i)).take n) =
      (List.range m).map fun i => (as.drop (n * i)).take n := by
  refine List.map_congr_left fun i hi => ?_
  have hi' : n * (i + 1) ≤ as.length :=
    Nat.le_trans (Nat.mul_le_mul_left n (List.mem_range.mp hi)) h
  rw [Nat.mul_add, Nat.mul_one] at hi'
  rw [List.drop_append_of_le_length (by omega),
    List.take_append_of_le_length (by rw [List.length_drop]; omega)]

/-- An element that does not fill the open block only joins it. -/
lemma concat_of_ne {n : ℕ} {as : List α} (a : α) (h : as.length % n + 1 ≠ n) :
    completeBlocks n (as ++ [a]) = completeBlocks n as ∧
      openBlock n (as ++ [a]) = openBlock n as ++ [a] := by
  have hd : (as ++ [a]).length / n = as.length / n := by
    rw [List.length_append, List.length_singleton]
    cases n with
    -- blocks of no elements are never complete
    | zero => rw [Nat.div_zero, Nat.div_zero]
    | succ m =>
      refine Nat.succ_div_of_mod_ne_zero fun hm => h ?_
      rw [Nat.succ_mod_succ_eq_zero_iff.mp hm]
  constructor
  · rw [completeBlocks, hd]
    exact completeBlocks_append _ (Nat.mul_div_le as.length n)
  · rw [openBlock, hd, drop_concat]

/-- An element that fills the open block completes it. -/
lemma concat_of_eq {n : ℕ} {as : List α} (a : α) (h : as.length % n + 1 = n) :
    completeBlocks n (as ++ [a]) = completeBlocks n as ++ [openBlock n as ++ [a]] ∧
      openBlock n (as ++ [a]) = [] := by
  have hd : (as ++ [a]).length / n = as.length / n + 1 := by
    rw [List.length_append, List.length_singleton]
    cases n with
    | zero => cases h
    | succ m =>
      exact Nat.succ_div_of_mod_eq_zero (Nat.succ_mod_succ_eq_zero_iff.mpr (Nat.succ.inj h))
  constructor
  · rw [completeBlocks, hd, List.range_succ, List.map_append,
      completeBlocks_append _ (Nat.mul_div_le as.length n), List.map_singleton, drop_concat,
      List.take_of_length_le (by simp [h])]
    rfl
  · have hdm := Nat.div_add_mod as.length n
    rw [openBlock, hd]
    refine List.drop_of_length_le ?_
    rw [List.length_append, List.length_singleton, Nat.mul_add, Nat.mul_one]
    omega

end Blocks
