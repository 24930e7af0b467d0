import Mathlib.Order.Defs.Unbundled

/-!
# The laws of a strict weak ordering

The four laws on given elements, as a sorting function requires them of its predicate. A comparison
that is a total preorder gives the predicate "not greater", which is transitive and total, so that
no two elements are incomparable; it holds both ways exactly of the equivalent ones
(`isLE_both_iff`), and so it is never strict (`not_laws_isLE`).
-/

namespace StrictWeak

variable {α : Type*}

/-- The laws of a strict weak order at three elements. -/
structure Laws (r : α → α → Prop) (a b c : α) : Prop where
  irrefl : ¬ r a a
  asymm : ¬ (r a b ∧ r b a)
  trans : r a b → r b c → r a c
  incomp_trans : ¬ r a b ∧ ¬ r b a → ¬ r b c ∧ ¬ r c b → ¬ r a c ∧ ¬ r c a

/-- The laws hold everywhere exactly for a strict weak order. -/
theorem forall_laws_iff {r : α → α → Prop} :
    (∀ a b c, Laws r a b c) ↔ IsStrictWeakOrder α r := by
  constructor
  · intro h
    exact { irrefl := fun a => (h a a a).irrefl
            trans := fun a b c => (h a b c).trans
            incomp_trans := fun a b c => (h a b c).incomp_trans }
  · intro h a b c
    have hirrefl : ¬ r a a := h.irrefl a
    refine ⟨hirrefl, ?_, h.trans a b c, h.incomp_trans a b c⟩
    rintro ⟨hab, hba⟩
    exact hirrefl (h.trans a b a hab hba)

section

variable {cmp : α → α → Ordering} [Std.OrientedCmp cmp]

/-- Of two elements one is less or equal. -/
lemma isLE_total (a b : α) : (cmp a b).isLE ∨ (cmp b a).isLE := by
  cases h : cmp a b with
  | lt | eq => exact .inl rfl
  | gt =>
    rw [Std.OrientedCmp.lt_of_gt h]
    exact .inr rfl

/-- Two elements are less or equal both ways exactly if they compare as equal. -/
lemma isLE_both_iff {a b : α} : (cmp a b).isLE ∧ (cmp b a).isLE ↔ cmp a b = .eq := by
  constructor
  · rintro ⟨hab, hba⟩
    exact Std.OrientedCmp.isLE_antisymm hab hba
  · intro h
    rw [h, Std.OrientedCmp.eq_symm h]
    exact ⟨rfl, rfl⟩

/-- Less or equal is never strict, at any three elements. -/
theorem not_laws_isLE (a b c : α) : ¬ Laws (fun x y => (cmp x y).isLE) a b c := by
  intro h
  exact h.irrefl ((isLE_total a a).elim id id)

end

end StrictWeak
