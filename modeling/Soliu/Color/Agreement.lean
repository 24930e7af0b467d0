import Mathlib.Data.Rat.Floor
import Mathlib.Tactic.NormNum
import Soliu.Color.Ascii

/-!
# When the three initialisers agree

`hexaARGB` appends the implicit opaque alpha at the end, as `hexaRGBA` does, but reads the alpha
from the front, so that of a short form every component is read from the place of another one. What
is left of the agreement is white, and eight characters that stay eight.
-/

namespace Soliu

open Strtoul

/-- The digit of value 15 in either case. -/
def IsF (c : Char) : Prop := c = 'F' ∨ c = 'f'

/-- Whether a scalar is this digit can be decided. -/
instance (c : Char) : Decidable (IsF c) := inferInstanceAs (Decidable (_ ∨ _))

/-- The two characters start with two digits F. -/
def IsFF (x y : Character) : Prop := (∃ c, x = [c] ∧ IsF c) ∧ ∃ d ds, y = d :: ds ∧ IsF d

/-- The digit is in ASCII. -/
lemma IsF.toNat_lt {c : Char} (h : IsF c) : c.toNat < 128 := by
  obtain rfl | rfl := h <;> decide

/-- One character is not enough for the value 255. -/
lemma strtoul_character_ne {y : Character} (hy : y.IsWellFormed) : strtoul y ≠ 255 := by
  obtain ⟨d, ds, rfl, hd⟩ := hy
  by_cases hascii : d.toNat < 128
  · obtain hcrlf | hds := hd hascii
    · rw [hcrlf]
      decide
    · rw [← List.singleton_append, strtoul_append_of_not_ascii hds]
      exact strtoul_singleton_ne d
  · rw [strtoul_cons_of_not_ascii (by omega)]
    decide

/-- A single scalar and another character make `FF` by their first scalars. -/
lemma isFF_singleton {c d : Char} {ds : List Char} : IsFF [c] (d :: ds) ↔ IsF c ∧ IsF d := by
  constructor
  · rintro ⟨⟨_, hc, hF⟩, _, _, hd, hF'⟩
    cases hc
    cases hd
    exact ⟨hF, hF'⟩
  · rintro ⟨hc, hd⟩
    exact ⟨⟨c, rfl, hc⟩, d, ds, rfl, hd⟩

/-- A scalar before a character is read as 255 exactly if the two make `FF`. -/
lemma strtoul_cons_eq (c : Char) {y : Character} (hy : y.IsWellFormed) :
    strtoul (c :: y) = 255 ↔ IsFF [c] y := by
  obtain ⟨d, ds, rfl, hd⟩ := hy
  rw [isFF_singleton]
  by_cases hascii : d.toNat < 128
  · obtain hcrlf | hds := hd hascii
    · have hcount : ['\r', '\n'].countP (fun e => (hexDigit e).isSome) = 0 := rfl
      cases hcrlf
      refine iff_of_false (strtoul_ne_of_countP_le ?_ (by decide) (by decide)) ?_
      · rw [List.countP_cons, hcount]
        split <;> decide
      · rintro ⟨-, hF⟩
        exact absurd hF (by decide)
    · have htail := strtoul_append_of_not_ascii hds [c, d]
      rw [List.cons_append, List.singleton_append] at htail
      rw [htail]
      exact strtoul_pair_eq
  · have hstop := strtoul_append_cons (t := ds)
      (isForeign_of_not_ascii (by omega : 128 ≤ d.toNat)) [c]
    rw [List.singleton_append] at hstop
    rw [hstop]
    refine iff_of_false (strtoul_singleton_ne c) ?_
    rintro ⟨-, hF⟩
    exact hascii hF.toNat_lt

/-- Two characters have the value 255 exactly if they start with two digits F. -/
lemma strtoul_append_eq {x y : Character} (hx : x.IsWellFormed) (hy : y.IsWellFormed) :
    strtoul (x ++ y) = 255 ↔ IsFF x y := by
  obtain ⟨c, cs, rfl, hc⟩ := hx
  by_cases hascii : c.toNat < 128
  · obtain hcrlf | hcs := hc hascii
    · -- white space, so only the second character counts
      rw [hcrlf, List.cons_append, List.cons_append, List.nil_append,
        strtoul_cons_of_isSpace (by decide), strtoul_cons_of_isSpace (by decide)]
      refine iff_of_false (strtoul_character_ne hy) ?_
      rintro ⟨⟨_, h, -⟩, -⟩
      cases h
    · cases cs with
      | nil => exact strtoul_cons_eq c hy
      | cons e es =>
        -- the conversion stops within the first character
        have hstop := strtoul_append_cons (t := es ++ y)
          (isForeign_of_not_ascii (hcs e List.mem_cons_self)) [c]
        rw [List.singleton_append] at hstop
        rw [List.cons_append, List.cons_append, hstop]
        refine iff_of_false (strtoul_singleton_ne c) ?_
        rintro ⟨⟨_, h, -⟩, -⟩
        cases h
  · rw [List.cons_append, strtoul_cons_of_not_ascii (by omega)]
    refine iff_of_false (by decide) ?_
    rintro ⟨⟨_, h, hF⟩, -⟩
    cases h
    exact hascii hF.toNat_lt

/-! ## Short forms -/

/-- The characters of ASCII are well formed. -/
lemma isWellFormed_of_ascii {x : Character} (h : (∃ c, x = [c]) ∨ x = ['\r', '\n']) :
    x.IsWellFormed := by
  obtain ⟨c, rfl⟩ | rfl := h
  · exact ⟨c, [], rfl, fun _ => .inr fun d hd => absurd hd List.not_mem_nil⟩
  · exact ⟨'\r', ['\n'], rfl, fun _ => .inl rfl⟩

/-- So are all characters that a view shows. -/
lemma CharacterView.isWellFormed_chars (V : CharacterView) {s : String} {x : Character}
    (h : x ∈ V.chars s) : x.IsWellFormed := by
  rw [chars] at h
  split at h
  · exact V.isWellFormed s x (List.mem_of_mem_tail h)
  · exact V.isWellFormed s x h

namespace UIColor

/-- The pairs are made of the characters given. -/
lemma mem_of_rgbChars {chars xs : List Character} (h : rgbChars chars = some xs) {x : Character}
    (hx : x ∈ xs) : x ∈ chars := by
  rw [rgbChars] at h
  split at h
  · cases h
    obtain ⟨c, hc, hx⟩ := List.mem_flatMap.mp hx
    simp only [List.mem_cons, List.not_mem_nil, or_false, or_self] at hx
    rwa [hx]
  · cases h
    exact hx
  · cases h

/-- A component does not depend on later characters. -/
lemma component_append {xs ys : List Character} {lower : ℕ} (h : lower + 2 ≤ xs.length) :
    component (xs ++ ys) lower = component xs lower := by
  rw [component, component, List.take_append_of_le_length h]

/-- The alpha that is appended to six characters is opaque. -/
lemma component_eq_one_of_six {xs : List Character} (h : xs.length = 6) :
    component (xs ++ [['F'], ['F']]) 6 = 1 := by
  have hslice : ((xs ++ [['F'], ['F']]).take 8).drop 6 = [['F'], ['F']] := by
    rw [List.take_of_length_le (by simp [h]), ← h, List.drop_left]
  have hvalue : strtoul ['F', 'F'] = 255 := by decide
  rw [component, hslice, List.flatten_cons, List.flatten_cons, List.flatten_nil, List.append_nil,
    List.singleton_append, hvalue]
  norm_num

/-- A component is made of the two characters of its slice. -/
lemma component_eq {xs : List Character} {lower : ℕ} {x y : Character}
    (hx : xs[lower]? = some x) (hy : xs[lower + 1]? = some y) :
    component xs lower = strtoul (x ++ y) / 255 := by
  obtain ⟨hl, rfl⟩ := List.getElem?_eq_some_iff.mp hx
  obtain ⟨hl', rfl⟩ := List.getElem?_eq_some_iff.mp hy
  have hslice : (xs.take (lower + 2)).drop lower = [xs[lower], xs[lower + 1]] := by
    rw [List.drop_take, List.drop_eq_getElem_cons hl, List.drop_eq_getElem_cons hl',
      Nat.add_sub_cancel_left]
    rfl
  rw [component, hslice, List.flatten_cons, List.flatten_cons, List.flatten_nil, List.append_nil]

/-- A component is 1 exactly if its two characters make `FF`. -/
lemma component_eq_one_iff {xs : List Character} {lower : ℕ} {x y : Character}
    (hx : xs[lower]? = some x) (hy : xs[lower + 1]? = some y) (hwx : x.IsWellFormed)
    (hwy : y.IsWellFormed) : component xs lower = 1 ↔ IsFF x y := by
  rw [component_eq hx hy, ← strtoul_append_eq hwx hwy, div_eq_one_iff_eq (by norm_num)]
  exact_mod_cast Iff.rfl

/-- Each of the three pairs of characters starts with two digits F. -/
def IsWhite (xs : List Character) : Prop :=
  ∀ lower ∈ [0, 2, 4], ∃ x y, xs[lower]? = some x ∧ xs[lower + 1]? = some y ∧ IsFF x y

/-- If `hexaRGB` accepts the string, so do the other two and give the same colour, an opaque one. -/
def AgreesOnRGB (V : CharacterView) (s : String) : Prop :=
  ∀ color, hexaRGB V s 1 = some color →
    hexaRGBA V s = some color ∧ hexaARGB V s = some color ∧ color.alpha = 1

/-- White is the colour whose three components are 1. -/
lemma isWhite_iff {xs : List Character} (hlength : xs.length = 6)
    (hwf : ∀ x ∈ xs, x.IsWellFormed) :
    IsWhite xs ↔ component xs 0 = 1 ∧ component xs 2 = 1 ∧ component xs 4 = 1 := by
  have hpair : ∀ lower, lower + 1 < xs.length →
      ((∃ x y, xs[lower]? = some x ∧ xs[lower + 1]? = some y ∧ IsFF x y) ↔
        component xs lower = 1) := by
    intro lower hl
    have hx : xs[lower]? = some xs[lower] := List.getElem?_eq_getElem (by omega)
    have hy : xs[lower + 1]? = some xs[lower + 1] := List.getElem?_eq_getElem hl
    rw [component_eq_one_iff hx hy (hwf _ (List.getElem_mem _)) (hwf _ (List.getElem_mem _)), hx,
      hy]
    simp
  rw [IsWhite, List.forall_mem_cons, List.forall_mem_cons, List.forall_mem_cons,
    hpair 0 (by omega), hpair 2 (by omega), hpair 4 (by omega)]
  simp

/-- What `hexaRGB` accepts, `hexaRGBA` accepts as the same colour. -/
lemma hexaRGBA_of_hexaRGB {V : CharacterView} {s : String} {color : UIColor}
    (h : hexaRGB V s 1 = some color) : hexaRGBA V s = some color := by
  obtain ⟨xs, hxs, rfl⟩ := Option.map_eq_some_iff.mp h
  have hlength := length_of_rgbChars hxs
  have happend : ∀ lower, lower + 2 ≤ 6 →
      component (xs ++ [['F'], ['F']]) lower = component xs lower := fun lower hl =>
    component_append (by omega)
  rw [hexaRGBA, rgbaChars_of_rgbChars hxs, Option.map_some, component_eq_one_of_six hlength,
    happend 0 (by decide), happend 2 (by decide), happend 4 (by decide)]

/-- The three initialisers agree on a short form exactly if it is white. -/
lemma agreesOnRGB_iff (V : CharacterView) (s : String) :
    AgreesOnRGB V s ↔ ∀ xs, rgbChars (V.chars s) = some xs → IsWhite xs := by
  cases h : rgbChars (V.chars s) with
  | none => simp [AgreesOnRGB, hexaRGB, h]
  | some xs =>
    have hlength := length_of_rgbChars h
    have hwf : ∀ x ∈ xs, x.IsWellFormed := fun x hx =>
      V.isWellFormed_chars (mem_of_rgbChars h hx)
    have hall : (∀ ys, some xs = some ys → IsWhite ys) ↔ IsWhite xs := by simp
    have hrgb : hexaRGB V s 1 =
        some ⟨component xs 0, component xs 2, component xs 4, 1⟩ := by
      rw [hexaRGB, h, Option.map_some]
    -- every component is read from the place of another one
    have hargb : hexaARGB V s =
        some ⟨component xs 2, component xs 4, 1, component xs 0⟩ := by
      rw [hexaARGB, rgbaChars_of_rgbChars h, Option.map_some, component_eq_one_of_six hlength,
        component_append (by omega), component_append (by omega), component_append (by omega)]
    rw [hall, isWhite_iff hlength hwf]
    constructor
    · intro hagrees
      obtain ⟨-, hsame, -⟩ := hagrees _ hrgb
      rw [hargb, Option.some.injEq, UIColor.mk.injEq] at hsame
      obtain ⟨hred, hgreen, hblue, -⟩ := hsame
      exact ⟨by rw [← hred, ← hgreen, ← hblue], by rw [← hgreen, ← hblue], hblue.symm⟩
    · rintro ⟨hred, hgreen, hblue⟩ color hcolor
      refine ⟨hexaRGBA_of_hexaRGB hcolor, ?_⟩
      cases hrgb.symm.trans hcolor
      rw [hargb, hred, hgreen, hblue]
      exact ⟨rfl, rfl⟩

end UIColor

/-! ## Eight ASCII scalars -/

/-- A view shows a text in ASCII as its characters. -/
lemma CharacterView.chars_ofList (V : CharacterView) {cs : List Char}
    (h : ∀ c ∈ cs, c.toNat < 128) : V.chars (String.ofList ('#' :: cs)) = asciiCharacters cs := by
  have hall : ∀ c ∈ (String.ofList ('#' :: cs)).toList, c.toNat < 128 := by
    rw [String.toList_ofList, List.forall_mem_cons]
    exact ⟨by decide, h⟩
  have hview : V.characters (String.ofList ('#' :: cs)) = ['#'] :: asciiCharacters cs := by
    rw [V.ascii _ hall, String.toList_ofList, asciiCharacters_cons_of_ne (by decide)]
  rw [chars, hview, if_pos List.head?_cons, List.tail_cons]

namespace UIColor

/-- Six characters get `FF` as their alpha. -/
lemma rgbaChars_of_six {chars : List Character} (h : chars.length = 6) :
    rgbaChars chars = some (chars ++ [['F'], ['F']]) := by
  rw [rgbaChars, h]
  rfl

/-- Eight characters stay as they are. -/
lemma rgbaChars_of_eight {chars : List Character} (h : chars.length = 8) :
    rgbaChars chars = some chars := by
  rw [rgbaChars, h]
  rfl

/-- Only three, six or eight characters are read. -/
lemma rgbaChars_eq_none_iff {chars : List Character} :
    rgbaChars chars = none ↔ chars.length ∉ [3, 6, 8] := by
  rw [rgbaChars]
  split <;> simp_all

/-- The last two of eight scalars in front. -/
def alphaFirst (cs : List Char) : List Char := cs.drop 6 ++ cs.take 6

/-- Both strings have eight characters, or neither of them is accepted, or the first one has six and
ends in two digits F. -/
def KeepsComponents (cs : List Char) : Prop :=
  (asciiCharacters cs).length = 8 ∧ (asciiCharacters (alphaFirst cs)).length = 8 ∨
    ((asciiCharacters cs).length ∉ [6, 8] ∧ (asciiCharacters (alphaFirst cs)).length ∉ [6, 8]) ∨
    (asciiCharacters cs).length = 6 ∧ ∀ c ∈ cs.drop 6, IsF c

variable {cs : List Char}

/-- Moving the alpha to the front keeps the length. -/
lemma length_alphaFirst (cs : List Char) : (alphaFirst cs).length = cs.length := by
  simp only [alphaFirst, List.length_append, List.length_drop, List.length_take]
  omega

/-- It adds no characters. -/
lemma mem_alphaFirst {c : Char} (h : c ∈ alphaFirst cs) : c ∈ cs :=
  (List.mem_append.mp h).elim List.mem_of_mem_drop List.mem_of_mem_take

/-- The two strings have the same halves, so their counts differ by one at most. -/
lemma length_characters_alphaFirst (cs : List Char) :
    (asciiCharacters cs).length ≤ (asciiCharacters (alphaFirst cs)).length + 1 ∧
      (asciiCharacters (alphaFirst cs)).length ≤ (asciiCharacters cs).length + 1 := by
  have hcs := length_asciiCharacters_append (cs.take 6) (cs.drop 6)
  have hrot := length_asciiCharacters_append (cs.drop 6) (cs.take 6)
  rw [List.take_append_drop] at hcs
  rw [alphaFirst]
  omega

/-- With a character for each scalar, the slices of one initialiser are those of the other. -/
lemma components_of_eight (hlength : cs.length = 8) (h : (asciiCharacters cs).length = 8)
    (hrot : (asciiCharacters (alphaFirst cs)).length = 8) :
    component (asciiCharacters cs) 0 = component (asciiCharacters (alphaFirst cs)) 2 ∧
      component (asciiCharacters cs) 2 = component (asciiCharacters (alphaFirst cs)) 4 ∧
      component (asciiCharacters cs) 4 = component (asciiCharacters (alphaFirst cs)) 6 ∧
      component (asciiCharacters cs) 6 = component (asciiCharacters (alphaFirst cs)) 0 := by
  rw [asciiCharacters_of_length_eq (h.trans hlength.symm),
    asciiCharacters_of_length_eq (hrot.trans (hlength.symm.trans (length_alphaFirst cs).symm))]
  match cs, hlength with
  | [c0, c1, c2, c3, c4, c5, c6, c7], _ => exact ⟨rfl, rfl, rfl, rfl⟩

/-- An opaque pair at the end of six characters is that of the last two scalars. -/
lemma isF_of_six (hlength : cs.length = 8) (h : (asciiCharacters cs).length = 6)
    (hblue : component (asciiCharacters cs) 4 = 1) : ∀ c ∈ cs.drop 6, IsF c := by
  have hflatten := flatten_asciiCharacters cs
  have hmem : ∀ x ∈ asciiCharacters cs, (∃ c, x = [c]) ∨ x = ['\r', '\n'] := fun x hx =>
    mem_asciiCharacters hx
  match hxs : asciiCharacters cs, h with
  | [x0, x1, x2, x3, x4, x5], _ =>
    rw [hxs] at hblue hflatten hmem
    have hx4 : x4 ∈ [x0, x1, x2, x3, x4, x5] := by simp
    have hx5 : x5 ∈ [x0, x1, x2, x3, x4, x5] := by simp
    obtain ⟨⟨c, rfl, hc⟩, d, ds, rfl, hd⟩ := (component_eq_one_iff rfl rfl
      (isWellFormed_of_ascii (hmem x4 hx4)) (isWellFormed_of_ascii (hmem _ hx5))).mp hblue
    obtain ⟨e, he⟩ | he := hmem _ hx5
    · cases he
      have hcs : cs = (x0 ++ x1 ++ x2 ++ x3) ++ [c, d] := by simp [← hflatten]
      have hsix : (x0 ++ x1 ++ x2 ++ x3).length = 6 := by
        rw [hcs, List.length_append, List.length_cons, List.length_singleton] at hlength
        omega
      rw [hcs, ← hsix, List.drop_left]
      simp [hc, hd]
    · cases he
      exact absurd hd (by decide)

/-- Six characters that end in two digits F start with them when these are put in front. -/
lemma characters_of_six (hlength : cs.length = 8) (h : (asciiCharacters cs).length = 6)
    (hF : ∀ c ∈ cs.drop 6, IsF c) :
    ∃ x0 x1 x2 x3 c d, IsF c ∧ IsF d ∧ asciiCharacters cs = [x0, x1, x2, x3, [c], [d]] ∧
      asciiCharacters (alphaFirst cs) = [[c], [d], x0, x1, x2, x3] := by
  have hne : ∀ {c}, IsF c → c ≠ '\r' ∧ c ≠ '\n' := by
    rintro c (rfl | rfl) <;> decide
  match hdrop : cs.drop 6, (by rw [List.length_drop, hlength] : (cs.drop 6).length = 2) with
  | [c, d], _ =>
    rw [hdrop] at hF
    have hc : IsF c := hF c (by simp)
    have hd : IsF d := hF d (by simp)
    have hcs : asciiCharacters cs = asciiCharacters (cs.take 6) ++ [[c], [d]] := by
      conv_lhs => rw [← List.take_append_drop 6 cs, hdrop]
      rw [asciiCharacters_append_cons_of_ne (hne hc).2, asciiCharacters_cons_of_ne (hne hc).1]
      rfl
    have hrot : asciiCharacters (alphaFirst cs) = [c] :: [d] :: asciiCharacters (cs.take 6) := by
      rw [alphaFirst, hdrop, List.cons_append, List.singleton_append,
        asciiCharacters_cons_of_ne (hne hc).1, asciiCharacters_cons_of_ne (hne hd).1]
    have hfour : (asciiCharacters (cs.take 6)).length = 4 := by
      rw [hcs, List.length_append] at h
      exact Nat.add_right_cancel h
    match htake : asciiCharacters (cs.take 6), hfour with
    | [x0, x1, x2, x3], _ =>
      rw [htake] at hcs hrot
      exact ⟨x0, x1, x2, x3, c, d, hc, hd, hcs, hrot⟩

variable {V : CharacterView}

/-- Of six characters each, the colours agree exactly if the last two scalars are digits F. -/
lemma eq_of_six_iff (hlength : cs.length = 8) (hascii : ∀ c ∈ cs, c.toNat < 128)
    (h : (asciiCharacters cs).length = 6) (hrot : (asciiCharacters (alphaFirst cs)).length = 6) :
    hexaRGBA V (String.ofList ('#' :: cs)) = hexaARGB V (String.ofList ('#' :: alphaFirst cs)) ↔
      ∀ c ∈ cs.drop 6, IsF c := by
  rw [hexaRGBA, hexaARGB, V.chars_ofList hascii,
    V.chars_ofList fun c hc => hascii c (mem_alphaFirst hc), rgbaChars_of_six h,
    rgbaChars_of_six hrot]
  simp only [Option.map_some, Option.some.injEq, UIColor.mk.injEq]
  constructor
  · rintro ⟨-, -, hblue, -⟩
    rw [component_eq_one_of_six hrot, component_append (by omega)] at hblue
    exact isF_of_six hlength h hblue
  · intro hF
    obtain ⟨x0, x1, x2, x3, c, d, hc, hd, hcs, hcs'⟩ := characters_of_six hlength h hF
    have hvalue : strtoul [c, d] = strtoul ['F', 'F'] :=
      (strtoul_pair_eq.mpr ⟨hc, hd⟩).trans (by decide)
    rw [hcs, hcs']
    refine ⟨rfl, rfl, ?_, ?_⟩
    · change (strtoul [c, d] : ℚ) / 255 = (strtoul ['F', 'F'] : ℚ) / 255
      rw [hvalue]
    · change (strtoul ['F', 'F'] : ℚ) / 255 = (strtoul [c, d] : ℚ) / 255
      rw [hvalue]

/-- Eight characters are read alike with the alpha in front. -/
lemma eq_of_eight (hlength : cs.length = 8) (hascii : ∀ c ∈ cs, c.toNat < 128)
    (h : (asciiCharacters cs).length = 8) (hrot : (asciiCharacters (alphaFirst cs)).length = 8) :
    hexaRGBA V (String.ofList ('#' :: cs)) =
      hexaARGB V (String.ofList ('#' :: alphaFirst cs)) := by
  obtain ⟨hred, hgreen, hblue, halpha⟩ := components_of_eight hlength h hrot
  rw [hexaRGBA, hexaARGB, V.chars_ofList hascii,
    V.chars_ofList fun c hc => hascii c (mem_alphaFirst hc), rgbaChars_of_eight h,
    rgbaChars_of_eight hrot, Option.map_some, Option.map_some, hred, hgreen, hblue, halpha]

/-- Eight ASCII scalars give one colour with the alpha behind and in front exactly if they keep
their components. -/
lemma hexaRGBA_eq_hexaARGB_iff (V : CharacterView) (hlength : cs.length = 8)
    (hascii : ∀ c ∈ cs, c.toNat < 128) :
    hexaRGBA V (String.ofList ('#' :: cs)) = hexaARGB V (String.ofList ('#' :: alphaFirst cs)) ↔
      KeepsComponents cs := by
  have hnone : hexaRGBA V (String.ofList ('#' :: cs)) = none ↔
      (asciiCharacters cs).length ∉ [6, 8] := by
    rw [hexaRGBA, Option.map_eq_none_iff, V.chars_ofList hascii, rgbaChars_eq_none_iff]
    have := length_asciiCharacters_bounds cs
    simp only [List.mem_cons, List.not_mem_nil, or_false]
    omega
  have hnone' : hexaARGB V (String.ofList ('#' :: alphaFirst cs)) = none ↔
      (asciiCharacters (alphaFirst cs)).length ∉ [6, 8] := by
    rw [hexaARGB, Option.map_eq_none_iff,
      V.chars_ofList fun c hc => hascii c (mem_alphaFirst hc), rgbaChars_eq_none_iff]
    have := length_asciiCharacters_bounds (alphaFirst cs)
    rw [length_alphaFirst] at this
    simp only [List.mem_cons, List.not_mem_nil, or_false]
    omega
  rw [KeepsComponents]
  by_cases h8 : (asciiCharacters cs).length = 8 ∧ (asciiCharacters (alphaFirst cs)).length = 8
  · exact iff_of_true (eq_of_eight hlength hascii h8.1 h8.2) (.inl h8)
  · by_cases h6 : (asciiCharacters cs).length = 6 ∧ (asciiCharacters (alphaFirst cs)).length = 6
    · rw [eq_of_six_iff hlength hascii h6.1 h6.2]
      simp [h6]
    · -- one of the two is not accepted
      constructor
      · intro heq
        rw [heq, hnone'] at hnone
        have hcount := length_characters_alphaFirst cs
        simp only [List.mem_cons, List.not_mem_nil, or_false] at hnone ⊢
        omega
      · rintro (h | ⟨h, h'⟩ | ⟨h, hF⟩)
        · exact absurd h h8
        · rw [hnone.mpr h, hnone'.mpr h']
        · obtain ⟨_, _, _, _, _, _, -, -, -, hrot⟩ := characters_of_six hlength h hF
          exact absurd ⟨h, by rw [hrot]; rfl⟩ h6

/-- Whether the components are kept can be decided. -/
instance (cs : List Char) : Decidable (KeepsComponents cs) := inferInstanceAs (Decidable (_ ∨ _))

end UIColor

/-! ## The result -/

/-- A character for each scalar, and one for a carriage return with the line feed after it. -/
def CharacterView.byScalar : CharacterView where
  characters s := asciiCharacters s.toList
  flatten s := flatten_asciiCharacters s.toList
  isWellFormed _ _ h := isWellFormed_of_ascii (mem_asciiCharacters h)
  ascii _ _ := rfl

open UIColor

/-- On a short form the three initialisers agree exactly if it is white, and on eight ASCII scalars
the alpha may stand behind or in front exactly if these keep their components. -/
theorem hexa_initialisers_agree_iff (V : CharacterView) :
    (∀ s, AgreesOnRGB V s ↔ ∀ xs, rgbChars (V.chars s) = some xs → IsWhite xs) ∧
      ∀ cs, cs.length = 8 → (∀ c ∈ cs, c.toNat < 128) →
        (hexaRGBA V (String.ofList ('#' :: cs)) =
            hexaARGB V (String.ofList ('#' :: alphaFirst cs)) ↔
          KeepsComponents cs) :=
  ⟨agreesOnRGB_iff V, fun _ hlength hascii => hexaRGBA_eq_hexaARGB_iff V hlength hascii⟩

/-- A blue that is half transparent, and the same with the alpha in front. -/
theorem hexa_initialisers_agree_iff_blue :
    hexaRGBA .byScalar (String.ofList ['#', '0', '0', '0', '0', 'F', 'F', '7', 'F']) =
      hexaARGB .byScalar (String.ofList ['#', '7', 'F', '0', '0', '0', '0', 'F', 'F']) :=
  ((hexa_initialisers_agree_iff .byScalar).2 ['0', '0', '0', '0', 'F', 'F', '7', 'F'] rfl
    (by simp)).mpr (by decide)

/-- The short blue is a transparent cyan for `hexaARGB`. -/
theorem short_blue_read_as_cyan :
    hexaRGB .byScalar "#00F" 1 = some ⟨0, 0, 1, 1⟩ ∧
      hexaRGBA .byScalar "#00F" = some ⟨0, 0, 1, 1⟩ ∧
      hexaARGB .byScalar "#00F" = some ⟨0, 1, 1, 0⟩ ∧ ¬ AgreesOnRGB .byScalar "#00F" := by
  have hrgb : hexaRGB .byScalar "#00F" 1 = some ⟨0, 0, 1, 1⟩ := by decide +kernel
  have hargb : hexaARGB .byScalar "#00F" = some ⟨0, 1, 1, 0⟩ := by decide +kernel
  refine ⟨hrgb, by decide +kernel, hargb, fun h => ?_⟩
  have hsame := (h _ hrgb).2.1
  rw [hargb] at hsame
  revert hsame
  decide +kernel

end Soliu
