import Mathlib
import RestBindings.Text.Alphabet
import RestBindings.Text.LetterCase

/-! # Which characters have ASCII case forms

The case mappings take characters of many scripts to many others, but hardly any character that is
not ASCII to one that is.  The upper-case forms of letters such as `ß` and `ı` hold ASCII capitals,
and the only lower-case forms that hold ASCII characters are those of the Kelvin sign and of `İ`.  So
an ASCII character of a case form is a letter of that case, of a letter, or the character itself
(`ascii_mem_upper`, `ascii_mem_lower`).

Where only the letters of ASCII are mapped, the texts of one lower case are the spellings of a word
with small or capital letters (`lowerAscii_eq_iff`).

The tables are checked entry by entry: a run is above ASCII (`CaseRun.isAboveAscii`) or one of a
few characters.
-/
namespace RestBindings
namespace Text

/-! ## Images under the tables -/

/-- Where a run takes a character that it holds. -/
theorem CaseRun.image?_eq_some {r : CaseRun} {n image : Nat} (h : r.image? n = some image) :
    r.first ≤ n ∧ n ≤ r.last ∧ image = r.target + (n - r.first) := by
  rw [CaseRun.image?, Option.ite_none_right_eq_some] at h
  obtain ⟨hheld, himage⟩ := h
  simp only [Bool.and_eq_true, decide_eq_true_eq] at hheld
  exact ⟨hheld.1.1, hheld.1.2, (Option.some.inj himage).symm⟩

/-- All images of the run are characters, and none of them is ASCII. -/
def CaseRun.isAboveAscii (r : CaseRun) : Bool :=
  0x80 ≤ r.target
    && (r.target + (r.last - r.first) < 0xD800
      || 0xDFFF < r.target && r.target + (r.last - r.first) < 0x110000)

theorem CaseRun.not_ascii_of_isAboveAscii {r : CaseRun} (h : r.isAboveAscii = true) {n image : Nat}
    (himage : r.image? n = some image) : ¬ (Char.ofNat image).toNat < 0x80 := by
  simp only [CaseRun.isAboveAscii, Bool.and_eq_true, Bool.or_eq_true, decide_eq_true_eq] at h
  obtain ⟨hfirst, hlast, himage⟩ := CaseRun.image?_eq_some himage
  have hvalid : image.isValidChar := by
    rw [Nat.isValidChar]
    omega
  rw [Char.toNat_ofNat, if_pos hvalid]
  omega

/-- A run of one character takes it to the target. -/
theorem CaseRun.image?_of_first_eq_last {r : CaseRun} (h : r.first = r.last) {n image : Nat}
    (himage : r.image? n = some image) : n = r.first ∧ image = r.target := by
  obtain ⟨hfirst, hlast, himage⟩ := CaseRun.image?_eq_some himage
  omega

/-- A character of the image of `c` stands in an expansion of `c`, is the image of `c` in a run, or
is `c`. -/
theorem mapCase_cases {expansions : List (Nat × List Nat)} {runs : List CaseRun} {c d : Char}
    (h : d ∈ mapCase expansions runs c) :
    (∃ e ∈ expansions, e.1 = c.toNat ∧ ∃ n ∈ e.2, Char.ofNat n = d) ∨
      (∃ r ∈ runs, ∃ n, r.image? c.toNat = some n ∧ Char.ofNat n = d) ∨ d = c := by
  rw [mapCase] at h
  split at h
  next n image hfound =>
    refine .inl ⟨(n, image), List.mem_of_find?_eq_some hfound, ?_, by simpa using h⟩
    simpa using List.find?_some hfound
  next =>
    right
    rw [List.mem_singleton] at h
    cases hrun : runs.findSome? (·.image? c.toNat) with
    | none =>
      rw [hrun] at h
      exact .inr h
    | some n =>
      rw [hrun] at h
      obtain ⟨r, hr, himage⟩ := List.exists_of_findSome?_eq_some hrun
      exact .inl ⟨r, hr, n, himage, h.symm⟩

/-- Letters outside ASCII go to upper-case runs above ASCII or, one by one, to capitals. -/
theorem upperRuns_above_ascii : ∀ r ∈ upperRuns, r.isAboveAscii = true ∨
    r.first = r.last ∧ (Char.ofNat r.target).isUpper = true ∧
      alphabeticRanges.holds r.first = true := by
  decide +kernel

theorem upperExpansions_above_ascii : ∀ e ∈ upperExpansions, ∀ n ∈ e.2,
    ¬ (Char.ofNat n).toNat < 0x80 ∨
      (Char.ofNat n).isUpper = true ∧ alphabeticRanges.holds e.1 = true := by
  decide +kernel

theorem lowerRuns_above_ascii : ∀ r ∈ lowerRuns, r.isAboveAscii = true ∨
    r.first = r.last ∧ Char.ofNat r.target = 'k' := by
  decide +kernel

theorem lowerExpansions_above_ascii : ∀ e ∈ lowerExpansions, ∀ n ∈ e.2,
    ¬ (Char.ofNat n).toNat < 0x80 ∨ Char.ofNat n = 'i' := by
  decide

/-! ## Case forms -/

theorem case_of_not_isAlpha {c : Char} (h : c.isAlpha = false) :
    c.toUpper = c ∧ c.toLower = c := by
  rw [Char.isAlpha, Bool.or_eq_false_iff] at h
  exact ⟨Char.toUpper_eq_of_not_isLower (by simp [h]), Char.toLower_eq_of_not_isUpper (by simp [h])⟩

theorem toNat_lt_of_isAlpha {c : Char} (h : c.isAlpha = true) : c.toNat < 0x80 := by
  simp only [Char.isAlpha, Char.isUpper, Char.isLower, Bool.or_eq_true, Bool.and_eq_true,
    decide_eq_true_eq, UInt32.le_iff_toNat_le, ge_iff_le] at h
  simp only [Char.toNat_val, Char.reduceToNat] at h
  omega

theorem mapCase_ne_nil {expansions : List (Nat × List Nat)} {runs : List CaseRun}
    (h : ∀ e ∈ expansions, e.2 ≠ []) (c : Char) : mapCase expansions runs c ≠ [] := by
  rw [mapCase]
  split
  next n image hfound => simpa using h _ (List.mem_of_find?_eq_some hfound)
  next => simp

theorem upper_ne_nil (c : Char) : upper c ≠ [] := by
  rw [upper]
  split
  · exact List.cons_ne_nil _ _
  · exact mapCase_ne_nil (by decide) c

theorem lower_ne_nil (c : Char) : lower c ≠ [] := by
  rw [lower]
  split
  · exact List.cons_ne_nil _ _
  · exact mapCase_ne_nil (by decide) c

/-- **An ASCII character of an upper-case form** is a capital, of a letter, or the character itself,
which is no letter. -/
theorem ascii_mem_upper {c d : Char} (h : d ∈ upper c) (hd : d.toNat < 0x80) :
    (d.isUpper = true ∧ isAlphabetic c = true) ∨ (d = c ∧ c.isAlpha = false) := by
  rw [upper] at h
  split at h
  next hc =>
    rw [List.mem_singleton] at h
    subst h
    rw [isAlphabetic_of_ascii hc, Char.isUpper_toUpper_eq_isAlpha]
    cases hletter : c.isAlpha with
    | true => exact .inl ⟨rfl, rfl⟩
    | false => exact .inr ⟨(case_of_not_isAlpha hletter).1, rfl⟩
  next hc =>
    rw [isAlphabetic, if_neg hc]
    left
    -- an expansion, a run, or the character itself, which is not ASCII here
    obtain ⟨e, he, hn, n, hmem, rfl⟩ | ⟨r, hr, n, himage, rfl⟩ | rfl := mapCase_cases h
    · have hentry := (upperExpansions_above_ascii e he n hmem).resolve_left (not_not_intro hd)
      rwa [hn] at hentry
    · obtain habove | ⟨hfirst, hupper, hletter⟩ := upperRuns_above_ascii r hr
      · exact absurd hd (CaseRun.not_ascii_of_isAboveAscii habove himage)
      · obtain ⟨hc', rfl⟩ := CaseRun.image?_of_first_eq_last hfirst himage
        rw [hc']
        exact ⟨hupper, hletter⟩
    · exact absurd hd hc

/-- **An ASCII character of a lower-case form** is a small letter, of an ASCII letter, or the
character itself, which is no letter.  The Kelvin sign and `İ` are the only exceptions. -/
theorem ascii_mem_lower {c d : Char} (h : d ∈ lower c) (hd : d.toNat < 0x80) :
    d = 'k' ∨ d = 'i' ∨ (d.isLower = true ∧ c.isAlpha = true) ∨ (d = c ∧ c.isAlpha = false) := by
  rw [lower] at h
  split at h
  next hc =>
    rw [List.mem_singleton] at h
    subst h
    rw [Char.isLower_toLower_eq_isAlpha]
    cases hletter : c.isAlpha with
    | true => exact .inr (.inr (.inl ⟨rfl, rfl⟩))
    | false => exact .inr (.inr (.inr ⟨(case_of_not_isAlpha hletter).2, rfl⟩))
  next hc =>
    obtain ⟨e, he, -, n, hmem, rfl⟩ | ⟨r, hr, n, himage, rfl⟩ | rfl := mapCase_cases h
    · exact .inr (.inl ((lowerExpansions_above_ascii e he n hmem).resolve_left (not_not_intro hd)))
    · obtain habove | ⟨hfirst, hkelvin⟩ := lowerRuns_above_ascii r hr
      · exact absurd hd (CaseRun.not_ascii_of_isAboveAscii habove himage)
      · obtain ⟨-, rfl⟩ := CaseRun.image?_of_first_eq_last hfirst himage
        exact .inl hkelvin
    · exact absurd hd hc

/-- An ASCII letter of an upper-case form is a capital, and the character is a letter. -/
theorem isUpper_of_mem_upper {c d : Char} (h : d ∈ upper c) (hd : d.isAlpha = true) :
    d.isUpper = true ∧ isAlphabetic c = true := by
  refine (ascii_mem_upper h (toNat_lt_of_isAlpha hd)).resolve_right ?_
  rintro ⟨rfl, hno⟩
  rw [hno] at hd
  cases hd

/-- An ASCII letter of a lower-case form, other than `k` and `i`, is that of an ASCII letter. -/
theorem isAlpha_of_mem_lower {c d : Char} (h : d ∈ lower c) (hd : d.isAlpha = true) (hk : d ≠ 'k')
    (hi : d ≠ 'i') : c.isAlpha = true := by
  obtain rfl | rfl | ⟨-, hc⟩ | ⟨rfl, -⟩ := ascii_mem_lower h (toNat_lt_of_isAlpha hd)
  · exact absurd rfl hk
  · exact absurd rfl hi
  · exact hc
  · exact hd

/-! ## Words in any letter case of ASCII -/

/-- A text is a word of small letters, each of them small or capital. -/
def Spells (written word : String) : Prop :=
  List.Forall₂ (fun c letter => c = letter ∨ c = letter.toUpper) written.toList word.toList

/-- The characters whose lower case is a small letter are this letter and its capital. -/
theorem toLower_eq_iff {c letter : Char} (hletter : letter.isLower = true) :
    c.toLower = letter ↔ c = letter ∨ c = letter.toUpper := by
  have hsmall : letter.toLower = letter :=
    Char.toLower_eq_of_not_isUpper (Char.not_isUpper_of_isLower hletter)
  constructor
  · rintro rfl
    by_cases hc : c.isUpper = true
    · right
      rw [Char.toUpper_toLower_eq_toUpper,
        Char.toUpper_eq_of_not_isLower (Char.not_isLower_of_isUpper hc)]
    · left
      exact (Char.toLower_eq_of_not_isUpper hc).symm
  · rintro (rfl | rfl)
    · exact hsmall
    · rw [Char.toLower_toUpper_eq_toLower, hsmall]

theorem map_toLower_eq_iff {word : List Char} (hword : ∀ letter ∈ word, letter.isLower = true)
    (cs : List Char) :
    cs.map Char.toLower = word ↔
      List.Forall₂ (fun c letter => c = letter ∨ c = letter.toUpper) cs word := by
  induction word generalizing cs with
  | nil => rw [List.map_eq_nil_iff, List.forall₂_nil_right_iff]
  | cons letter word ih =>
    rw [List.forall_mem_cons] at hword
    cases cs with
    | nil => simp
    | cons c cs =>
      rw [List.map_cons, List.cons.injEq, toLower_eq_iff hword.1, ih hword.2, List.forall₂_cons]

/-- A text has a word of small letters as its lower case if it spells the word. -/
theorem lowerAscii_eq_iff {word : String} (hword : ∀ letter ∈ word.toList, letter.isLower = true)
    (s : String) : lowerAscii s = word ↔ Spells s word := by
  rw [← String.toList_inj, lowerAscii, String.toList_map, map_toLower_eq_iff hword, Spells]

end Text
end RestBindings
