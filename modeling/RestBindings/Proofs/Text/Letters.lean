import RestBindings.Proofs.Text.LetterCase

/-! # Which characters have case forms

Every character that the case mappings change is a letter, and so is the first character of its form
(`KeepsLetters.isAlphabetic_of_head?`).  All other characters, digits and numeric signs among them,
are their own case forms (`upper_of_not_isAlphabetic`, `lower_of_not_isAlphabetic`).

The tables are checked run by run: almost every run, and every image of one, is part of one range of
letters (`areLetters`); of the few others the members are checked one by one.
-/
namespace RestBindings
namespace Text

/-! ## Letters by their code points -/

/-- Blocks of code points that hold all letters with case forms.  A letter is looked up among those
of its block, which are few. -/
def caseBlocks : Ranges :=
  [(0xB5, 0x24F), (0x250, 0x588), (0x10A0, 0x1248), (0x13A0, 0x13FD), (0x1C80, 0x1F15),
   (0x1F18, 0x1FFC), (0x2126, 0x2D2D), (0xA640, 0xABEA), (0xFB00, 0xFF5A), (0x10400, 0x10D85),
   (0x118A0, 0x1E943)]

/-- The ranges of letters that reach into a block. -/
def lettersOf (block : Nat × Nat) : Ranges :=
  alphabeticRanges.filter fun r => block.1 ≤ r.2 && r.1 ≤ block.2

/-- All code points from `first` to `last` are letters, in one range. -/
def areLetters (first last : Nat) : Bool :=
  caseBlocks.any fun b => b.1 ≤ first && first ≤ b.2
    && (lettersOf b).any fun r => r.1 ≤ first && last ≤ r.2

/-- Every `step`-th code point from `first` to `last` is a letter. -/
def haveLetters (first last step : Nat) : Bool :=
  areLetters first last || (List.range ((last - first) / step + 1)).all fun k =>
    areLetters (first + k * step) (first + k * step) || (Char.ofNat (first + k * step)).isAlpha

/-- The ranges of letters are ranges of characters that are not ASCII. -/
theorem alphabeticRanges_valid : ∀ r ∈ alphabeticRanges,
    0x80 ≤ r.1 ∧ (r.2 < 0xD800 ∨ 0xDFFF < r.1 ∧ r.2 < 0x110000) := by
  decide +kernel

theorem isAlphabetic_of_areLetters {first last n : Nat} (h : areLetters first last = true)
    (hfirst : first ≤ n) (hlast : n ≤ last) : isAlphabetic (Char.ofNat n) = true := by
  rw [areLetters, List.any_eq_true] at h
  obtain ⟨b, -, hb⟩ := h
  rw [Bool.and_eq_true, List.any_eq_true] at hb
  obtain ⟨-, r, hr, hwithin⟩ := hb
  simp only [Bool.and_eq_true, decide_eq_true_eq] at hwithin
  have hr : r ∈ alphabeticRanges := List.mem_of_mem_filter hr
  obtain ⟨hascii, hcharacters⟩ := alphabeticRanges_valid r hr
  have hvalid : n.isValidChar := by
    rw [Nat.isValidChar]
    omega
  rw [isAlphabetic, Char.toNat_ofNat, if_pos hvalid, if_neg (by omega), Ranges.holds_iff]
  exact ⟨r, hr, by omega, by omega⟩

theorem isAlphabetic_of_isAlpha {c : Char} (h : c.isAlpha = true) : isAlphabetic c = true := by
  rw [isAlphabetic_of_ascii (toNat_lt_of_isAlpha h), h]

/-- A digit is no letter. -/
theorem isAlphabetic_of_isDigit {c : Char} (h : c.isDigit = true) : isAlphabetic c = false := by
  rw [Char.isDigit_iff_toNat] at h
  simp only [Char.reduceToNat] at h
  rw [isAlphabetic_of_ascii (by omega), Bool.eq_false_iff]
  intro halpha
  simp only [Char.isAlpha, Char.isUpper, Char.isLower, Bool.or_eq_true, Bool.and_eq_true,
    decide_eq_true_eq, UInt32.le_iff_toNat_le, ge_iff_le] at halpha
  simp only [Char.toNat_val, Char.reduceToNat] at halpha
  omega

theorem isAlphabetic_of_haveLetters {first last step n : Nat}
    (h : haveLetters first last step = true) (hfirst : first ≤ n) (hlast : n ≤ last)
    (hstep : (n - first) % step = 0) : isAlphabetic (Char.ofNat n) = true := by
  rw [haveLetters, Bool.or_eq_true] at h
  rcases h with hrange | hmembers
  · exact isAlphabetic_of_areLetters hrange hfirst hlast
  · -- `n` is the member with the number `(n - first) / step`
    have hmember : first + (n - first) / step * step = n := by
      rw [Nat.div_mul_cancel (Nat.dvd_of_mod_eq_zero hstep), Nat.add_sub_cancel' hfirst]
    have hnumber : (n - first) / step < (last - first) / step + 1 :=
      Nat.lt_succ_of_le (Nat.div_le_div_right (Nat.sub_le_sub_right hlast _))
    have hletter := List.all_eq_true.mp hmembers _ (List.mem_range.mpr hnumber)
    rw [hmember, Bool.or_eq_true] at hletter
    rcases hletter with hletter | hletter
    · exact isAlphabetic_of_areLetters hletter (Nat.le_refl n) (Nat.le_refl n)
    · exact isAlphabetic_of_isAlpha hletter

/-! ## The tables -/

/-- Every member of the run is a letter, and so is its image. -/
def CaseRun.isOfLetters (r : CaseRun) : Bool :=
  haveLetters r.first r.last r.step
    && haveLetters r.target (r.target + (r.last - r.first)) r.step

theorem CaseRun.isAlphabetic_of_isOfLetters {r : CaseRun} (h : r.isOfLetters = true) {c : Char}
    {n : Nat} (himage : r.image? c.toNat = some n) :
    isAlphabetic c = true ∧ isAlphabetic (Char.ofNat n) = true := by
  have hstep : (c.toNat - r.first) % r.step = 0 := by
    by_contra hno
    simp [CaseRun.image?, hno] at himage
  obtain ⟨hfirst, hlast, rfl⟩ := CaseRun.image?_eq_some himage
  obtain ⟨hmembers, himages⟩ := Bool.and_eq_true_iff.mp h
  have hc := isAlphabetic_of_haveLetters hmembers hfirst hlast hstep
  rw [Char.ofNat_toNat] at hc
  refine ⟨hc, isAlphabetic_of_haveLetters himages (Nat.le_add_right _ _) (by omega) ?_⟩
  rw [Nat.add_sub_cancel_left]
  exact hstep

theorem isOfLetters_upperRuns : ∀ r ∈ upperRuns, r.isOfLetters = true := by
  decide +kernel

theorem isOfLetters_lowerRuns : ∀ r ∈ lowerRuns, r.isOfLetters = true := by
  decide +kernel

/-- An expansion takes a letter to characters that start with one. -/
def isOfLetters (e : Nat × List Nat) : Bool :=
  haveLetters e.1 e.1 1 && e.2.head?.all fun n => haveLetters n n 1

theorem isOfLetters_upperExpansions : ∀ e ∈ upperExpansions, isOfLetters e = true := by
  decide +kernel

theorem isOfLetters_lowerExpansions : ∀ e ∈ lowerExpansions, isOfLetters e = true := by
  decide +kernel

/-! ## Case forms -/

/-- A form in which a case mapping may leave a character: of a letter one that starts with a letter,
of any other character the character itself. -/
def KeepsLetters (c : Char) (form : List Char) : Prop :=
  (isAlphabetic c = true ∧ ∀ d, form.head? = some d → isAlphabetic d = true) ∨ form = [c]

theorem KeepsLetters.eq_of_not_isAlphabetic {c : Char} {form : List Char} (h : KeepsLetters c form)
    (hc : isAlphabetic c = false) : form = [c] := by
  refine h.resolve_left fun hletter => ?_
  rw [hc] at hletter
  cases hletter.1

theorem KeepsLetters.isAlphabetic_of_head? {c d : Char} {form : List Char} (h : KeepsLetters c form)
    (hc : isAlphabetic c = true) (hd : form.head? = some d) : isAlphabetic d = true := by
  obtain ⟨-, hletters⟩ | rfl := h
  · exact hletters d hd
  · cases hd
    exact hc

theorem keepsLetters_mapCase {expansions : List (Nat × List Nat)} {runs : List CaseRun}
    (hexpansions : ∀ e ∈ expansions, isOfLetters e = true)
    (hruns : ∀ r ∈ runs, r.isOfLetters = true) (c : Char) :
    KeepsLetters c (mapCase expansions runs c) := by
  have hletter {n : Nat} (h : haveLetters n n 1 = true) : isAlphabetic (Char.ofNat n) = true :=
    isAlphabetic_of_haveLetters h (Nat.le_refl n) (Nat.le_refl n) (Nat.mod_one _)
  rw [mapCase]
  split
  next n image hfound =>
    have hn : n = c.toNat := by simpa using List.find?_some hfound
    obtain ⟨hc, himage⟩ :=
      Bool.and_eq_true_iff.mp (hexpansions _ (List.mem_of_find?_eq_some hfound))
    have hc := hletter hc
    rw [hn, Char.ofNat_toNat] at hc
    refine .inl ⟨hc, fun d hd => ?_⟩
    rw [List.head?_map, Option.map_eq_some_iff] at hd
    obtain ⟨first, hfirst, rfl⟩ := hd
    rw [hfirst] at himage
    exact hletter himage
  next =>
    cases hrun : runs.findSome? (·.image? c.toNat) with
    | none => exact .inr rfl
    | some n =>
      obtain ⟨r, hr, himage⟩ := List.exists_of_findSome?_eq_some hrun
      obtain ⟨hc, hn⟩ := CaseRun.isAlphabetic_of_isOfLetters (hruns r hr) himage
      refine .inl ⟨hc, fun d hd => ?_⟩
      cases hd
      exact hn

/-- The ASCII mappings take letters to letters and nothing else. -/
theorem keepsLetters_of_ascii {c d : Char} (hc : c.toNat < 0x80)
    (hletter : c.isAlpha = true → d.isAlpha = true) (hother : c.isAlpha = false → d = c) :
    KeepsLetters c [d] := by
  rw [KeepsLetters, isAlphabetic_of_ascii hc]
  cases halpha : c.isAlpha with
  | true =>
    refine .inl ⟨rfl, fun d' hd => ?_⟩
    cases hd
    exact isAlphabetic_of_isAlpha (hletter halpha)
  | false => exact .inr (by rw [hother halpha])

theorem keepsLetters_upper (c : Char) : KeepsLetters c (upper c) := by
  rw [upper]
  split
  next hc =>
    refine keepsLetters_of_ascii hc (fun h => ?_) fun h => (case_of_not_isAlpha h).1
    rw [Char.isAlpha, Char.isUpper_toUpper_eq_isAlpha, h, Bool.true_or]
  next => exact keepsLetters_mapCase isOfLetters_upperExpansions isOfLetters_upperRuns c

theorem keepsLetters_lower (c : Char) : KeepsLetters c (lower c) := by
  rw [lower]
  split
  next hc =>
    refine keepsLetters_of_ascii hc (fun h => ?_) fun h => (case_of_not_isAlpha h).2
    rw [Char.isAlpha, Char.isLower_toLower_eq_isAlpha, h, Bool.or_true]
  next => exact keepsLetters_mapCase isOfLetters_lowerExpansions isOfLetters_lowerRuns c

/-- **What is no letter is its own case form.** -/
theorem upper_of_not_isAlphabetic {c : Char} (h : isAlphabetic c = false) : upper c = [c] :=
  (keepsLetters_upper c).eq_of_not_isAlphabetic h

theorem lower_of_not_isAlphabetic {c : Char} (h : isAlphabetic c = false) : lower c = [c] :=
  (keepsLetters_lower c).eq_of_not_isAlphabetic h

/-- **The case forms of letters start with letters.** -/
theorem isAlphabetic_of_head?_upper {c d : Char} (hc : isAlphabetic c = true)
    (hd : (upper c).head? = some d) : isAlphabetic d = true :=
  (keepsLetters_upper c).isAlphabetic_of_head? hc hd

end Text
end RestBindings
