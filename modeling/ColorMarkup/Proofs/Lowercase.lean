import Mathlib.Data.List.Forall2
import ColorMarkup.Unicode.Lowercase

/-!
# Which texts have a given lower case

The way back from lower case, as far as small ASCII letters go: each of them is the lower case of
itself and of its capital, the letter k also of the Kelvin sign, and none of any other character.
So the texts whose lower case is a word of such letters can be told letter by letter.

* `forall_ascii`, `forall_isLower` and `forall_toLower` lead from the ASCII characters, looked at
  one by one, to all of them, to the small letters, and to all characters and their small forms.
* `lower_eq_singleton_iff` says which characters have a given small letter.
* `Lowercases` is lower case with the choice that there is for a capital sigma, whose small letter
  at the end of a word is another one; `Lowercases.eq_iff` says which texts have a word of small
  ASCII letters for their lower case, and that sigmas have no say in it.
-/

namespace ColorMarkup.Unicode

/-! ## ASCII letters -/

theorem isUpper_iff {c : Char} : c.isUpper = true ↔ 0x41 ≤ c.toNat ∧ c.toNat ≤ 0x5a :=
  decide_eq_true_iff

theorem isLower_iff {c : Char} : c.isLower = true ↔ 0x61 ≤ c.toNat ∧ c.toNat ≤ 0x7a :=
  Bool.and_eq_true_iff.trans (and_congr decide_eq_true_iff decide_eq_true_iff)

theorem isAlpha_iff {c : Char} : c.isAlpha = true ↔ c.isUpper = true ∨ c.isLower = true :=
  Bool.or_eq_true_iff

theorem isAlpha_of_isLower {c : Char} (h : c.isLower = true) : c.isAlpha = true :=
  isAlpha_iff.2 (Or.inr h)

theorem lower_of_lt {c : Char} (h : c.toNat < 0x80) : lower c = [c.toLower] :=
  if_pos h

theorem toLower_of_le {c : Char} (h : 0x80 ≤ c.toNat) : c.toLower = c := by
  apply dif_neg
  rintro ⟨-, hlast⟩
  have hle : c.toNat ≤ 0x5a := hlast
  omega

theorem toNat_lt_of_isAlpha {c : Char} (h : c.isAlpha = true) : c.toNat < 0x80 := by
  rw [isAlpha_iff, isUpper_iff, isLower_iff] at h
  omega

/-- What is found of the ASCII characters one by one holds of all of them. -/
theorem forall_ascii {P : Char → Prop} (h : ∀ n < 0x80, P (Char.ofNat n)) {c : Char}
    (hc : c.toNat < 0x80) : P c := by
  have hn : P (Char.ofNat c.toNat) := h c.toNat hc
  rwa [Char.ofNat_toNat] at hn

/-- What is found of the small letters one by one holds of all of them. -/
theorem forall_isLower {P : Char → Prop}
    (h : ∀ n < 0x80, (Char.ofNat n).isLower = true → P (Char.ofNat n)) {letter : Char}
    (hletter : letter.isLower = true) : P letter := by
  have hall : letter.isLower = true → P letter := by
    apply forall_ascii ?_ (toNat_lt_of_isAlpha (isAlpha_of_isLower hletter))
    exact h
  exact hall hletter

/-- What is found of the ASCII characters and their small forms one by one, and holds of any
character and itself, holds of all characters and their small forms. -/
theorem forall_toLower {P : Char → Char → Prop}
    (hascii : ∀ n < 0x80, P (Char.ofNat n) (Char.ofNat n).toLower) (hself : ∀ c, P c c) (c : Char) :
    P c c.toLower := by
  by_cases hc : c.toNat < 0x80
  · exact forall_ascii (P := fun c => P c c.toLower) hascii hc
  · rw [toLower_of_le (Nat.le_of_not_lt hc)]
    exact hself c

/-- Lower case makes letters of letters only. -/
theorem isAlpha_toLower (c : Char) : c.toLower.isAlpha = c.isAlpha := by
  apply forall_toLower (P := fun c small => small.isAlpha = c.isAlpha)
  · decide +kernel
  · exact fun _ => rfl

theorem toLower_of_isLower {letter : Char} (h : letter.isLower = true) :
    letter.toLower = letter := by
  apply forall_isLower ?_ h
  decide +kernel

theorem toLower_toUpper_of_isLower {letter : Char} (h : letter.isLower = true) :
    letter.toUpper.toLower = letter := by
  apply forall_isLower ?_ h
  decide +kernel

theorem isAlpha_toUpper_of_isLower {letter : Char} (h : letter.isLower = true) :
    letter.toUpper.isAlpha = true := by
  apply forall_isLower ?_ h
  decide +kernel

/-- The lower case does not depend on the case of ASCII letters. -/
theorem lower_toLower (c : Char) : lower c.toLower = lower c := by
  apply forall_toLower (P := fun c small => lower small = lower c)
  · decide +kernel
  · exact fun _ => rfl

theorem lowercase_map_toLower (text : List Char) :
    lowercase (text.map Char.toLower) = lowercase text := by
  simp only [lowercase, List.flatMap_map, lower_toLower]

/-- On ASCII letters, full lower case is that of ASCII. -/
theorem lowercase_of_isAlpha {text : List Char} (h : ∀ c ∈ text, c.isAlpha = true) :
    lowercase text = text.map Char.toLower := by
  induction text with
  | nil => rfl
  | cons c text ih =>
    rw [List.forall_mem_cons] at h
    rw [lowercase, List.flatMap_cons, lower_of_lt (toNat_lt_of_isAlpha h.1), ← lowercase, ih h.2]
    rfl

/-! ## One letter -/

/-- A character stands for a small letter: it is the letter, its ASCII capital or, for the letter k,
the Kelvin sign. -/
def StandsFor (c letter : Char) : Prop :=
  c = letter ∨ c = letter.toUpper ∨ letter = 'k' ∧ c = '\u212a'

instance (c letter : Char) : Decidable (StandsFor c letter) :=
  inferInstanceAs (Decidable (_ ∨ _ ∨ _))

/-- In ASCII, the lower case of a character is a small letter if it is this letter or its
capital. -/
theorem toLower_eq_iff {letter : Char} (h : letter.isLower = true) (c : Char) :
    c.toLower = letter ↔ c = letter ∨ c = letter.toUpper := by
  constructor
  · rintro rfl
    apply forall_toLower (P := fun c small => c = small ∨ c = small.toUpper)
    · decide +kernel
    · exact fun _ => Or.inl rfl
  · rintro (rfl | rfl)
    · exact toLower_of_isLower h
    · exact toLower_toUpper_of_isLower h

/-- Of the capitals outside ASCII, only the Kelvin sign has its small letter in ASCII. -/
theorem eq_kelvin_of_target_lt : ∀ run ∈ capitalTable,
    run.target < 0x80 → run = ⟨0x212a, 0x212a, 1, 0x6b⟩ := by
  decide +kernel

/-- Outside ASCII, the only small ASCII letter that a table entry leads to is that of the Kelvin
sign. -/
theorem lowerCodePoint?_lt {c : Char} {n : ℕ} (h : lowerCodePoint? c = some n) (hn : n < 0x80) :
    c = '\u212a' ∧ n = 0x6b := by
  obtain ⟨run, hseek, hlower⟩ := Option.bind_eq_some_iff.1 h
  obtain ⟨hmem, hfirst, hlast⟩ := mem_of_seek hseek
  dsimp only at hfirst hlast
  obtain ⟨-, rfl⟩ : (c.toNat - run.first) % run.step = 0 ∧ run.target + (c.toNat - run.first) = n :=
    by simpa [CapitalRun.lower?] using hlower
  obtain rfl : run = ⟨0x212a, 0x212a, 1, 0x6b⟩ := eq_kelvin_of_target_lt run hmem (by omega)
  have hc : c.toNat = 0x212a := Nat.le_antisymm hlast hfirst
  refine ⟨?_, by simp [hc]⟩
  rw [← Char.ofNat_toNat c, hc]

theorem ofNat_eq_of_isLower {letter : Char} (h : letter.isLower = true) {n : ℕ}
    (hn : Char.ofNat n = letter) : n = letter.toNat := by
  by_cases hvalid : n.isValidChar
  · have hofNat : Char.ofNat n = Char.ofNatAux n hvalid := dif_pos hvalid
    rw [← hn, hofNat]
    rfl
  · -- a number that is no code point gives no letter
    have hnull : Char.ofNat n = '\x00' := dif_neg hvalid
    rw [← hn, hnull] at h
    exact absurd h (by decide)

/-- Only one character lowers to more than one. -/
theorem exists_lower_eq_singleton {c : Char} (h : c ≠ '\u0130') : ∃ s, lower c = [s] := by
  by_cases hc : c.toNat < 0x80
  · exact ⟨_, lower_of_lt hc⟩
  · rw [lower, if_neg hc, if_neg h]
    exact ⟨_, rfl⟩

theorem lower_dotted_ne (letter : Char) : lower '\u0130' ≠ [letter] := by
  rw [show lower '\u0130' = ['i', '\u0307'] by decide]
  simp

/-- A small ASCII letter is the lower case of the characters that stand for it and of no others. -/
theorem lower_eq_singleton_iff {letter : Char} (h : letter.isLower = true) (c : Char) :
    lower c = [letter] ↔ StandsFor c letter := by
  have hletter := isLower_iff.1 h
  have hcapital : letter.toUpper.toNat < 0x80 :=
    toNat_lt_of_isAlpha (isAlpha_toUpper_of_isLower h)
  by_cases hc : c.toNat < 0x80
  · -- in ASCII there is no Kelvin sign
    have hkelvin : ¬(letter = 'k' ∧ c = '\u212a') := by
      rintro ⟨-, rfl⟩
      exact absurd hc (by decide)
    rw [lower_of_lt hc, List.singleton_inj, toLower_eq_iff h, StandsFor, or_iff_left hkelvin]
  · have hself : c ≠ letter := by
      rintro rfl
      omega
    have hupper : c ≠ letter.toUpper := by
      rintro rfl
      omega
    rw [StandsFor, or_iff_right hself, or_iff_right hupper]
    by_cases hdotted : c = '\u0130'
    · subst hdotted
      refine iff_of_false (lower_dotted_ne letter) ?_
      rintro ⟨-, heq⟩
      exact absurd heq (by decide)
    · rw [lower, if_neg hc, if_neg hdotted, List.singleton_inj]
      constructor
      · intro heq
        cases hpoint : lowerCodePoint? c with
        | none => exact absurd (by simpa [hpoint] using heq) hself
        | some n =>
          rw [hpoint, Option.elim_some] at heq
          have hn : n = letter.toNat := ofNat_eq_of_isLower h heq
          obtain ⟨hkelvin, rfl⟩ := lowerCodePoint?_lt hpoint (by omega)
          exact ⟨heq.symm, hkelvin⟩
      · rintro ⟨rfl, rfl⟩
        decide +kernel

/-! ## Whole texts -/

/-- The lower case of a character as it may be within a text: its own one or, of a capital sigma,
the small letter for the end of a word. -/
def LowersTo (c : Char) (small : List Char) : Prop :=
  small = lower c ∨ c = '\u03a3' ∧ small = ['\u03c2']

/-- A lower case of a text, in which any capital sigma may count as the end of a word. -/
inductive Lowercases : List Char → List Char → Prop where
  | nil : Lowercases [] []
  | cons {c : Char} {small text lowered : List Char} (head : LowersTo c small)
      (tail : Lowercases text lowered) : Lowercases (c :: text) (small ++ lowered)

/-- Lower case character by character is one of these. -/
theorem lowercases_lowercase (text : List Char) : Lowercases text (lowercase text) := by
  induction text with
  | nil => exact .nil
  | cons c text ih => exact .cons (.inl rfl) ih

/-- A character lowers to one character, or it lowers to more and stands for no letter. -/
theorem LowersTo.cases {c : Char} {small : List Char} (h : LowersTo c small) :
    (∃ s, small = [s] ∧ ∀ letter : Char, letter.isLower = true → (s = letter ↔ StandsFor c letter))
      ∨ (∃ s ∈ small, s.isLower = false)
        ∧ ∀ letter : Char, letter.isLower = true → ¬StandsFor c letter := by
  rcases h with rfl | ⟨rfl, rfl⟩
  · by_cases hdotted : c = '\u0130'
    · subst hdotted
      refine .inr ⟨⟨'\u0307', by decide, by decide⟩, ?_⟩
      intro letter hletter hstands
      exact lower_dotted_ne letter ((lower_eq_singleton_iff hletter _).2 hstands)
    · obtain ⟨s, hs⟩ := exists_lower_eq_singleton hdotted
      refine .inl ⟨s, hs, ?_⟩
      intro letter hletter
      rw [← lower_eq_singleton_iff hletter, hs, List.singleton_inj]
  · refine .inl ⟨_, rfl, ?_⟩
    intro letter hletter
    -- neither of the two small sigmas is an ASCII letter
    have hfinal : '\u03c2' ≠ letter := by
      rintro rfl
      exact absurd hletter (by decide)
    have hinner : lower '\u03a3' ≠ [letter] := by
      intro heq
      rw [show lower '\u03a3' = ['\u03c3'] by decide +kernel, List.singleton_inj] at heq
      subst heq
      exact absurd hletter (by decide)
    exact iff_of_false hfinal (mt (lower_eq_singleton_iff hletter _).2 hinner)

/-- A word of small ASCII letters is the lower case of the texts that stand for it letter by
letter, and of no others. -/
theorem Lowercases.eq_iff {text lowered : List Char} (h : Lowercases text lowered)
    {word : List Char} (hword : ∀ letter ∈ word, letter.isLower = true) :
    lowered = word ↔ List.Forall₂ StandsFor text word := by
  induction h generalizing word with
  | nil => cases word <;> simp
  | @cons c small text lowered head tail ih =>
    rcases head.cases with ⟨s, rfl, hs⟩ | ⟨⟨s, hmem, hnot⟩, hnone⟩
    · cases word with
      | nil => simp
      | cons letter word =>
        rw [List.forall_mem_cons] at hword
        rw [List.singleton_append, List.cons.injEq, hs letter hword.1, ih hword.2,
          List.forall₂_cons]
    · -- no word has the second of the characters that this one lowers to
      refine iff_of_false ?_ ?_
      · rintro rfl
        exact absurd (hword s (List.mem_append_left _ hmem)) (by simp [hnot])
      · intro hforall
        cases hforall with
        | cons hstands _ => exact hnone _ (hword _ List.mem_cons_self) hstands

/-- The same for lower case character by character. -/
theorem lowercase_eq_iff {word : List Char} (hword : ∀ letter ∈ word, letter.isLower = true)
    (text : List Char) : lowercase text = word ↔ List.Forall₂ StandsFor text word :=
  (lowercases_lowercase text).eq_iff hword

end ColorMarkup.Unicode
