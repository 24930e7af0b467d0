import Soliu.Color.UIColor

/-!
# The characters of ASCII strings

How many characters an ASCII string has, where it is cut and put together again: only a carriage
return before a line feed is lost in the count, so the halves of a string have at most one character
more than the string.
-/

namespace Soliu

variable {s t : List Char} {c d : Char}

/-- CR LF is one character. -/
lemma asciiCharacters_crlf (s : List Char) :
    asciiCharacters ('\r' :: '\n' :: s) = ['\r', '\n'] :: asciiCharacters s := rfl

/-- Every other scalar is a character of its own, if more follow. -/
lemma asciiCharacters_cons_cons (h : ¬ (c = '\r' ∧ d = '\n')) (s : List Char) :
    asciiCharacters (c :: d :: s) = [c] :: asciiCharacters (d :: s) := if_neg h

/-- Induction over the characters. -/
@[elab_as_elim]
theorem ascii_induction {P : List Char → Prop} (nil : P []) (single : ∀ c, P [c])
    (crlf : ∀ s, P s → P ('\r' :: '\n' :: s))
    (cons : ∀ c d s, ¬ (c = '\r' ∧ d = '\n') → P (d :: s) → P (c :: d :: s)) : ∀ s, P s
  | [] => nil
  | [c] => single c
  | c :: d :: s => by
    by_cases h : c = '\r' ∧ d = '\n'
    · obtain ⟨rfl, rfl⟩ := h
      exact crlf s (ascii_induction nil single crlf cons s)
    · exact cons c d s h (ascii_induction nil single crlf cons (d :: s))

/-- A scalar other than CR is a character of its own. -/
lemma asciiCharacters_cons_of_ne (h : c ≠ '\r') (s : List Char) :
    asciiCharacters (c :: s) = [c] :: asciiCharacters s := by
  cases s with
  | nil => rfl
  | cons d s => exact asciiCharacters_cons_cons (fun hcd => h hcd.1) s

/-- A scalar other than LF starts a new character. -/
lemma asciiCharacters_append_cons_of_ne (h : c ≠ '\n') (s t : List Char) :
    asciiCharacters (s ++ c :: t) = asciiCharacters s ++ asciiCharacters (c :: t) := by
  induction s using ascii_induction with
  | nil => rfl
  | single d => exact asciiCharacters_cons_cons (fun hcd => h hcd.2) t
  | crlf s ih =>
    rw [List.cons_append, List.cons_append, asciiCharacters_crlf, asciiCharacters_crlf, ih]
    rfl
  | cons d e s hde ih =>
    rw [List.cons_append, List.cons_append, asciiCharacters_cons_cons hde,
      asciiCharacters_cons_cons hde]
    exact congrArg ([d] :: ·) ih

/-- The characters together are the text. -/
lemma flatten_asciiCharacters (s : List Char) : (asciiCharacters s).flatten = s := by
  induction s using ascii_induction with
  | nil => rfl
  | single c => rfl
  | crlf s ih =>
    rw [asciiCharacters_crlf, List.flatten_cons, ih]
    rfl
  | cons c d s h ih =>
    rw [asciiCharacters_cons_cons h, List.flatten_cons, ih]
    rfl

/-- The characters are single scalars and CR LF. -/
lemma mem_asciiCharacters {x : Character} (h : x ∈ asciiCharacters s) :
    (∃ c, x = [c]) ∨ x = ['\r', '\n'] := by
  induction s using ascii_induction with
  | nil => cases h
  | single c => exact .inl ⟨c, List.mem_singleton.mp h⟩
  | crlf s ih =>
    rw [asciiCharacters_crlf] at h
    obtain rfl | h := List.mem_cons.mp h
    · exact .inr rfl
    · exact ih h
  | cons c d s hcd ih =>
    rw [asciiCharacters_cons_cons hcd] at h
    obtain rfl | h := List.mem_cons.mp h
    · exact .inl ⟨c, rfl⟩
    · exact ih h

/-- Putting two strings together may merge one character of the first with one of the second. -/
lemma length_asciiCharacters_append (s t : List Char) :
    (asciiCharacters (s ++ t)).length ≤ (asciiCharacters s).length + (asciiCharacters t).length ∧
      (asciiCharacters s).length + (asciiCharacters t).length ≤
        (asciiCharacters (s ++ t)).length + 1 := by
  induction s using ascii_induction with
  | nil =>
    have hzero : (asciiCharacters []).length = 0 := rfl
    rw [hzero, List.nil_append]
    omega
  | single c =>
    have hone : (asciiCharacters [c]).length = 1 := rfl
    rw [hone, List.singleton_append]
    cases t with
    | nil => exact ⟨Nat.le_refl 1, Nat.le_succ 1⟩
    | cons d t =>
      by_cases h : c = '\r' ∧ d = '\n'
      · -- the last scalar of the first string and the first one of the second merge
        obtain ⟨rfl, rfl⟩ := h
        rw [asciiCharacters_crlf, asciiCharacters_cons_of_ne (by decide), List.length_cons,
          List.length_cons]
        omega
      · rw [asciiCharacters_cons_cons h, List.length_cons]
        omega
  | crlf s ih =>
    rw [List.cons_append, List.cons_append, asciiCharacters_crlf, asciiCharacters_crlf,
      List.length_cons, List.length_cons]
    omega
  | cons c d s h ih =>
    rw [List.cons_append, List.cons_append, asciiCharacters_cons_cons h,
      asciiCharacters_cons_cons h, List.length_cons, List.length_cons]
    rw [List.cons_append] at ih
    omega

/-- A character has one scalar or two. -/
lemma length_asciiCharacters_bounds (s : List Char) :
    (asciiCharacters s).length ≤ s.length ∧ s.length ≤ 2 * (asciiCharacters s).length := by
  induction s using ascii_induction with
  | nil => exact ⟨Nat.le_refl 0, Nat.le_refl 0⟩
  | single c => exact ⟨Nat.le_refl 1, Nat.le_succ 1⟩
  | crlf s ih =>
    rw [asciiCharacters_crlf, List.length_cons, List.length_cons, List.length_cons]
    omega
  | cons c d s h ih =>
    rw [asciiCharacters_cons_cons h, List.length_cons, List.length_cons]
    omega

/-- Without a carriage return each scalar is a character. -/
lemma asciiCharacters_of_forall_ne (h : ∀ c ∈ s, c ≠ '\r') : asciiCharacters s = s.map ([·]) := by
  induction s with
  | nil => rfl
  | cons c s ih =>
    rw [List.forall_mem_cons] at h
    rw [asciiCharacters_cons_of_ne h.1, ih h.2, List.map_cons]

/-- A string with as many characters as scalars has each scalar for a character. -/
lemma asciiCharacters_of_length_eq (h : (asciiCharacters s).length = s.length) :
    asciiCharacters s = s.map ([·]) := by
  induction s using ascii_induction with
  | nil => rfl
  | single c => rfl
  | crlf s ih =>
    have hle := (length_asciiCharacters_bounds s).1
    rw [asciiCharacters_crlf, List.length_cons, List.length_cons, List.length_cons] at h
    omega
  | cons c d s hcd ih =>
    rw [asciiCharacters_cons_cons hcd] at h ⊢
    rw [ih (Nat.succ.inj h)]
    rfl

end Soliu
