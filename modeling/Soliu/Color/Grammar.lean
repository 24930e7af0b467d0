import Soliu.Color.Agreement

/-!
# Hexadecimal colours

The grammar of hexadecimal colours (`IsHex`) and the colours that their digits denote (`ofDigits`).
On the strings of the grammar `hexaRGBA` is this function, and `hexaRGB` a part of it. But the
initialisers count the characters and leave the digits to `strtoul`, so they accept every other
string with a fitting number of characters too (`parses_exactly_iff`).
-/

namespace Soliu

open Strtoul

/-! ## The grammar -/

/-- An optional `#`, and then hexadecimal digits with these values. -/
def IsHex (s : String) (ns : List ℕ) : Prop :=
  ∃ ds, (s.toList = ds ∨ s.toList = '#' :: ds) ∧ List.Forall₂ (hexDigit · = some ·) ds ns

namespace UIColor

/-- The value of two digits, as a fraction of the largest one. -/
def pair (a b : ℕ) : ℚ := (16 * a + b : ℕ) / 255

/-- The colour denoted: a single digit stands for two of it, and without an alpha it is opaque. -/
def ofDigits : List ℕ → Option UIColor
  | [r, g, b] => some ⟨pair r r, pair g g, pair b b, 1⟩
  | [r, r', g, g', b, b'] => some ⟨pair r r', pair g g', pair b b', 1⟩
  | [r, r', g, g', b, b', a, a'] => some ⟨pair r r', pair g g', pair b b', pair a a'⟩
  | _ => none

/-- All components are from 0 to 1. -/
def InUnit (color : UIColor) : Prop :=
  ∀ q ∈ [color.red, color.green, color.blue, color.alpha], 0 ≤ q ∧ q ≤ 1

/-- The colour is the one that the string denotes, and its components lie between 0 and 1. -/
def Denotes (s : String) (color : UIColor) : Prop :=
  ∃ ns, IsHex s ns ∧ ofDigits ns = some color ∧ color.InUnit

/-- The two initialisers accept the string exactly if it is a hexadecimal colour of a length they
take, and as the colour it denotes. -/
structure ParsesExactly (V : CharacterView) (s : String) : Prop where
  hexaRGB_isSome : (hexaRGB V s 1).isSome ↔ ∃ ns, IsHex s ns ∧ ns.length ∈ [3, 6]
  hexaRGBA_isSome : (hexaRGBA V s).isSome ↔ ∃ ns, IsHex s ns ∧ ns.length ∈ [3, 6, 8]
  hexaRGB_denotes : ∀ color, hexaRGB V s 1 = some color → Denotes s color
  hexaRGBA_denotes : ∀ color, hexaRGBA V s = some color → Denotes s color

end UIColor

section

variable {s : String} {ds : List Char} {ns : List ℕ}

/-- Digits are below 16. -/
lemma lt_of_forall₂ (h : List.Forall₂ (hexDigit · = some ·) ds ns) : ∀ n ∈ ns, n < 16 := by
  induction h with
  | nil => exact nofun
  | cons hd _ ih => exact List.forall_mem_cons.mpr ⟨lt_of_hexDigit hd, ih⟩

/-- A digit is no character that has no value. -/
lemma ne_of_hexDigit_isSome {c d : Char} (hd : (hexDigit d).isSome) (hc : hexDigit c = none) :
    d ≠ c := by
  rintro rfl
  rw [hc] at hd
  cases hd

/-- What has a value is a digit. -/
lemma isSome_of_forall₂ (h : List.Forall₂ (hexDigit · = some ·) ds ns) :
    ∀ d ∈ ds, (hexDigit d).isSome := by
  induction h with
  | nil => exact nofun
  | cons hd _ ih => exact List.forall_mem_cons.mpr ⟨Option.isSome_of_eq_some hd, ih⟩

/-- Digits are characters of their own, and a `#` before them is dropped. -/
lemma CharacterView.chars_of_isHex (V : CharacterView) (hs : s.toList = ds ∨ s.toList = '#' :: ds)
    (hd : ∀ d ∈ ds, (hexDigit d).isSome) : V.chars s = ds.map ([·]) := by
  have hascii : ∀ d ∈ ds, d.toNat < 128 := by
    intro d hmem
    by_contra hd'
    exact absurd (isForeign_of_not_ascii (by omega : 128 ≤ d.toNat)).2.1
      (Option.isSome_iff_ne_none.mp (hd d hmem))
  have hmap : asciiCharacters ds = ds.map ([·]) :=
    asciiCharacters_of_forall_ne fun d hmem => ne_of_hexDigit_isSome (hd d hmem) rfl
  obtain hs | hs := hs
  · have hview : V.characters s = ds.map ([·]) := by
      rw [V.ascii s (by rwa [hs]), hs, hmap]
    rw [chars, hview, if_neg]
    intro h
    cases ds with
    | nil => cases h
    | cons d ds =>
      have hne : d ≠ '#' := ne_of_hexDigit_isSome (hd d List.mem_cons_self) rfl
      cases h
      exact hne rfl
  · rw [← String.ofList_toList (s := s), hs, V.chars_ofList hascii, hmap]

/-- A text is its characters, with or without a `#` before them. -/
lemma CharacterView.toList_eq (V : CharacterView) (s : String) :
    s.toList = (V.chars s).flatten ∨ s.toList = '#' :: (V.chars s).flatten := by
  have hflatten := V.flatten s
  rw [chars]
  split
  case isTrue h =>
    obtain ⟨xs, hxs⟩ := List.head?_eq_some_iff.mp h
    rw [hxs] at hflatten ⊢
    exact .inr hflatten.symm
  case isFalse => exact .inl hflatten.symm

/-- Characters that are digits have values. -/
lemma exists_forall₂ (h : ∀ d ∈ ds, (hexDigit d).isSome) :
    ∃ ns, List.Forall₂ (hexDigit · = some ·) ds ns := by
  induction ds with
  | nil => exact ⟨[], .nil⟩
  | cons d ds ih =>
    rw [List.forall_mem_cons] at h
    obtain ⟨n, hn⟩ := Option.isSome_iff_exists.mp h.1
    obtain ⟨ns, hds⟩ := ih h.2
    exact ⟨n :: ns, .cons hn hds⟩

/-- Characters of one digit each are a list of digits. -/
lemma exists_map_singleton {xs : List Character}
    (h : ∀ x ∈ xs, ∃ d, x = [d] ∧ (hexDigit d).isSome) :
    ∃ ds : List Char, xs = ds.map ([·]) ∧ ∀ d ∈ ds, (hexDigit d).isSome := by
  induction xs with
  | nil => exact ⟨[], rfl, nofun⟩
  | cons x xs ih =>
    rw [List.forall_mem_cons] at h
    obtain ⟨⟨d, rfl, hd⟩, h⟩ := h
    obtain ⟨ds, rfl, hds⟩ := ih h
    exact ⟨d :: ds, rfl, List.forall_mem_cons.mpr ⟨hd, hds⟩⟩

/-- A string is of the grammar exactly if all its characters are digits. -/
lemma exists_isHex_iff (V : CharacterView) (s : String) :
    (∃ ns, IsHex s ns) ↔ ∀ x ∈ V.chars s, ∃ d, x = [d] ∧ (hexDigit d).isSome := by
  constructor
  · rintro ⟨ns, ds, hs, hds⟩ x hx
    have hdigits := isSome_of_forall₂ hds
    rw [V.chars_of_isHex hs hdigits] at hx
    obtain ⟨d, hd, rfl⟩ := List.mem_map.mp hx
    exact ⟨d, rfl, hdigits d hd⟩
  · intro h
    obtain ⟨ds, hchars, hdigits⟩ := exists_map_singleton h
    obtain ⟨ns, hds⟩ := exists_forall₂ hdigits
    refine ⟨ns, ds, ?_, hds⟩
    have hs := V.toList_eq s
    rwa [hchars, ← List.flatMap_def, List.flatMap_singleton'] at hs

/-- A hexadecimal text has as many characters as digits. -/
lemma IsHex.length_chars (h : IsHex s ns) (V : CharacterView) :
    (V.chars s).length = ns.length := by
  obtain ⟨ds, hs, hds⟩ := h
  rw [V.chars_of_isHex hs (isSome_of_forall₂ hds), List.length_map, hds.length_eq]

end

/-! ## What the digits denote -/

namespace UIColor

variable {V : CharacterView} {s : String} {ns : List ℕ} {color : UIColor}

/-- Two digits make a component from 0 to 1. -/
lemma pair_mem {a b : ℕ} (ha : a < 16) (hb : b < 16) : 0 ≤ pair a b ∧ pair a b ≤ 1 := by
  have hle : 16 * a + b ≤ 255 := by omega
  have hpos : (0 : ℚ) < 255 := by norm_num
  refine ⟨div_nonneg (Nat.cast_nonneg _) hpos.le, (div_le_one hpos).mpr ?_⟩
  exact_mod_cast hle

/-- Three, six or eight digits make a colour. -/
lemma ofDigits_isSome (ns : List ℕ) : (ofDigits ns).isSome ↔ ns.length ∈ [3, 6, 8] := by
  rw [ofDigits.eq_def]
  split
  · exact iff_of_true rfl (by simp)
  · exact iff_of_true rfl (by simp)
  · exact iff_of_true rfl (by simp)
  case h_4 h3 h6 h8 =>
    refine iff_of_false (by decide) ?_
    intro hmem
    simp only [List.mem_cons, List.not_mem_nil, or_false] at hmem
    obtain h | h | h := hmem
    · match ns, h with
      | [r, g, b], _ => exact h3 r g b rfl
    · match ns, h with
      | [r, r', g, g', b, b'], _ => exact h6 r r' g g' b b' rfl
    · match ns, h with
      | [r, r', g, g', b, b', a, a'], _ => exact h8 r r' g g' b b' a a' rfl

/-- The components of a colour made of digits are from 0 to 1. -/
lemma inUnit_of_ofDigits (hns : ∀ n ∈ ns, n < 16) (h : ofDigits ns = some color) :
    color.InUnit := by
  have hone : (0 : ℚ) ≤ 1 ∧ (1 : ℚ) ≤ 1 := by norm_num
  rw [ofDigits.eq_def] at h
  split at h <;> cases h <;>
    simp only [List.forall_mem_cons] at hns <;>
    simp only [InUnit, List.forall_mem_cons]
  · obtain ⟨hr, hg, hb, -⟩ := hns
    exact ⟨pair_mem hr hr, pair_mem hg hg, pair_mem hb hb, hone, nofun⟩
  · obtain ⟨hr, hr', hg, hg', hb, hb', -⟩ := hns
    exact ⟨pair_mem hr hr', pair_mem hg hg', pair_mem hb hb', hone, nofun⟩
  · obtain ⟨hr, hr', hg, hg', hb, hb', ha, ha', -⟩ := hns
    exact ⟨pair_mem hr hr', pair_mem hg hg', pair_mem hb hb', pair_mem ha ha', nofun⟩

/-- A component made of two digits is the value of their pair. -/
lemma component_pair {xs : List Character} {lower a b : ℕ} {c d : Char}
    (hx : xs[lower]? = some [c]) (hy : xs[lower + 1]? = some [d]) (hc : hexDigit c = some a)
    (hd : hexDigit d = some b) : component xs lower = pair a b := by
  rw [component_eq hx hy, List.singleton_append, strtoul_pair hc hd, pair]

/-- Characters that are digits are read as the colour of their values. -/
lemma rgbaChars_map_of_digits {ds : List Char} (h : List.Forall₂ (hexDigit · = some ·) ds ns)
    (hns : ns.length ∈ [3, 6, 8]) :
    ((rgbaChars (ds.map ([·]))).map fun chars =>
      (⟨component chars 0, component chars 2, component chars 4, component chars 6⟩ : UIColor)) =
        ofDigits ns := by
  have hF : hexDigit 'F' = some 15 := rfl
  have hopaque : pair 15 15 = 1 := by norm_num [pair]
  simp only [List.mem_cons, List.not_mem_nil, or_false] at hns
  obtain hn | hn | hn := hns
  · match ns, hn, ds, h with
    | [r, g, b], _, _, .cons hr (.cons hg (.cons hb .nil)) =>
      change some (UIColor.mk _ _ _ _) = _
      rw [component_pair rfl rfl hr hr, component_pair rfl rfl hg hg,
        component_pair rfl rfl hb hb, component_pair rfl rfl hF hF, hopaque]
      rfl
  · match ns, hn, ds, h with
    | [r, r', g, g', b, b'], _, _,
        .cons hr (.cons hr' (.cons hg (.cons hg' (.cons hb (.cons hb' .nil))))) =>
      change some (UIColor.mk _ _ _ _) = _
      rw [component_pair rfl rfl hr hr', component_pair rfl rfl hg hg',
        component_pair rfl rfl hb hb', component_pair rfl rfl hF hF, hopaque]
      rfl
  · match ns, hn, ds, h with
    | [r, r', g, g', b, b', a, a'], _, _,
        .cons hr (.cons hr' (.cons hg (.cons hg' (.cons hb (.cons hb'
          (.cons ha (.cons ha' .nil))))))) =>
      change some (UIColor.mk _ _ _ _) = _
      rw [component_pair rfl rfl hr hr', component_pair rfl rfl hg hg',
        component_pair rfl rfl hb hb', component_pair rfl rfl ha ha']
      rfl

/-- On the strings of the grammar `hexaRGBA` gives the colour that they denote. -/
theorem hexaRGBA_eq_ofDigits (V : CharacterView) (h : IsHex s ns) :
    hexaRGBA V s = ofDigits ns := by
  have hlength := h.length_chars V
  by_cases hns : ns.length ∈ [3, 6, 8]
  · obtain ⟨ds, hs, hds⟩ := h
    rw [hexaRGBA, V.chars_of_isHex hs (isSome_of_forall₂ hds)]
    exact rgbaChars_map_of_digits hds hns
  · have hnone : ofDigits ns = none := by
      rwa [← ofDigits_isSome, Option.not_isSome_iff_eq_none] at hns
    rw [hnone, hexaRGBA, Option.map_eq_none_iff, rgbaChars_eq_none_iff, hlength]
    exact hns

/-- `hexaRGB` reads three or six characters of any kind. -/
lemma hexaRGB_isSome (V : CharacterView) (s : String) :
    (hexaRGB V s 1).isSome ↔ (V.chars s).length ∈ [3, 6] := by
  rw [hexaRGB, Option.isSome_map, rgbChars]
  split <;> simp_all

/-- `hexaRGBA` reads three, six or eight. -/
lemma hexaRGBA_isSome (V : CharacterView) (s : String) :
    (hexaRGBA V s).isSome ↔ (V.chars s).length ∈ [3, 6, 8] := by
  rw [hexaRGBA, Option.isSome_map, Option.isSome_iff_ne_none, Ne, rgbaChars_eq_none_iff, not_not]

/-- A hexadecimal text has as many characters as its digits are allowed to be. -/
lemma length_chars_mem (V : CharacterView) {lengths : List ℕ}
    (h : ∃ ns, IsHex s ns ∧ ns.length ∈ lengths) : (V.chars s).length ∈ lengths := by
  obtain ⟨ns, hns, hmem⟩ := h
  rwa [hns.length_chars V]

/-- The strings of the grammar are parsed exactly, of whatever length. -/
lemma parsesExactly_of_isHex (V : CharacterView) (h : IsHex s ns) : ParsesExactly V s := by
  have hlength := h.length_chars V
  have hexists : ∀ lengths : List ℕ,
      (V.chars s).length ∈ lengths ↔ ∃ ns, IsHex s ns ∧ ns.length ∈ lengths := by
    intro lengths
    constructor
    · intro hmem
      exact ⟨ns, h, hlength ▸ hmem⟩
    · exact length_chars_mem V
  have hdenotes : ∀ color, hexaRGBA V s = some color → Denotes s color := by
    intro color hcolor
    rw [hexaRGBA_eq_ofDigits V h] at hcolor
    obtain ⟨ds, hs, hds⟩ := h
    exact ⟨ns, ⟨ds, hs, hds⟩, hcolor, inUnit_of_ofDigits (lt_of_forall₂ hds) hcolor⟩
  constructor
  case hexaRGB_isSome => rw [hexaRGB_isSome, hexists]
  case hexaRGBA_isSome => rw [hexaRGBA_isSome, hexists]
  case hexaRGB_denotes => exact fun color hcolor => hdenotes color (hexaRGBA_of_hexaRGB hcolor)
  case hexaRGBA_denotes => exact hdenotes

/-- Strings of other lengths are rightly not accepted. -/
lemma parsesExactly_of_length (V : CharacterView) (h : (V.chars s).length ∉ [3, 6, 8]) :
    ParsesExactly V s := by
  have hrgba : hexaRGBA V s = none := by
    rwa [← hexaRGBA_isSome, Option.not_isSome_iff_eq_none] at h
  have h' : (V.chars s).length ∉ [3, 6] := fun hmem => h (List.mem_append_left [8] hmem)
  have hrgb : hexaRGB V s 1 = none := by
    rwa [← hexaRGB_isSome, Option.not_isSome_iff_eq_none] at h'
  constructor
  case hexaRGB_isSome =>
    rw [hexaRGB_isSome]
    exact iff_of_false h' (mt (length_chars_mem V) h')
  case hexaRGBA_isSome =>
    rw [hexaRGBA_isSome]
    exact iff_of_false h (mt (length_chars_mem V) h)
  case hexaRGB_denotes =>
    rw [hrgb]
    exact nofun
  case hexaRGBA_denotes =>
    rw [hrgba]
    exact nofun

/-- The cells of the bundled file get the colours that the file has for them. -/
theorem configure_testData (V : CharacterView) :
    ∀ color ∈ testDataColors,
      ∃ background, TestScreenTableViewCell.configure V color = some background ∧
        Denotes color background := by
  have hcolors : ∀ color ∈ testDataColors, color.toList = '#' :: color.toList.tail ∧
      color.toList.tail.length = 6 ∧
      color.toList.tail.all (fun d => (hexDigit d).isSome) = true := by decide
  intro color hmem
  obtain ⟨hs, hlength, hdigits⟩ := hcolors color hmem
  obtain ⟨ns, hds⟩ := exists_forall₂ (List.all_eq_true.mp hdigits)
  have hns : IsHex color ns := ⟨color.toList.tail, .inr hs, hds⟩
  have h := parsesExactly_of_isHex V hns
  have hsix : ns.length ∈ [3, 6] := by
    rw [← hds.length_eq, hlength]
    decide
  obtain ⟨background, hbackground⟩ :=
    Option.isSome_iff_exists.mp (h.hexaRGB_isSome.mpr ⟨ns, hns, hsix⟩)
  exact ⟨background, hbackground, h.hexaRGB_denotes background hbackground⟩

end UIColor

open UIColor

/-- A string is parsed exactly if and only if, when it has a number of characters that is accepted,
all of them are hexadecimal digits. -/
theorem parses_exactly_iff (V : CharacterView) (s : String) :
    ParsesExactly V s ↔
      ((V.chars s).length ∈ [3, 6, 8] →
        ∀ x ∈ V.chars s, ∃ d, x = [d] ∧ (hexDigit d).isSome) := by
  rw [← exists_isHex_iff]
  constructor
  · intro h hlength
    obtain ⟨ns, hns, -⟩ := h.hexaRGBA_isSome.mp ((hexaRGBA_isSome V s).mpr hlength)
    exact ⟨ns, hns⟩
  · intro h
    by_cases hlength : (V.chars s).length ∈ [3, 6, 8]
    · obtain ⟨ns, hns⟩ := h hlength
      exact parsesExactly_of_isHex V hns
    · exact parsesExactly_of_length V hlength

/-- A minus sign is a part of a number for `strtoul`, and the negated value wraps around. -/
theorem signs_parsed_as_color :
    hexaRGB .byScalar "#-1-1-1" 1 =
        some ⟨(2 ^ 64 - 1) / 255, (2 ^ 64 - 1) / 255, (2 ^ 64 - 1) / 255, 1⟩ ∧
      ¬ ParsesExactly .byScalar "#-1-1-1" := by
  have hcolor : hexaRGB .byScalar "#-1-1-1" 1 =
      some ⟨(2 ^ 64 - 1) / 255, (2 ^ 64 - 1) / 255, (2 ^ 64 - 1) / 255, 1⟩ := by decide +kernel
  refine ⟨hcolor, fun h => ?_⟩
  obtain ⟨-, -, -, hunit⟩ := h.hexaRGB_denotes _ hcolor
  have hred := (hunit _ List.mem_cons_self).2
  norm_num at hred

end Soliu
