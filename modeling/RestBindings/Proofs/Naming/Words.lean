import RestBindings.Naming.Convention
import RestBindings.Proofs.Text.LetterCase
import RestBindings.Proofs.Text.Split

/-! # Which names PascalCase and identifiers give

PascalCase leaves no separators, so what is in PascalCase is one word, and its first character is no
small ASCII letter.  A name that cannot stand as an identifier is camel-cased once more and repaired.
That never makes a plain name of it: where the repair has nothing to replace and the first character
comes out as an ASCII letter, the name had been an identifier (`isIdentifierChars_of_camel`).  So a
plain name is the identifier of a name in PascalCase exactly when it is that PascalCase
(`toIdentifierChars_pascalChars_eq_iff`).

Only the letters `k` and `i` can also come from elsewhere, from the Kelvin sign and from `İ`.
-/
namespace RestBindings
namespace Naming

/-! ## PascalCase -/

/-- Raising a character gives no separator, unless it is one. -/
theorem not_isWordSeparator_of_mem_upper {c d : Char} (hc : isWordSeparator c = false)
    (hd : d ∈ Text.upper c) : isWordSeparator d = false := by
  cases hsep : isWordSeparator d with
  | false => rfl
  | true =>
    have hcases : d = '_' ∨ d = '-' := by simpa [isWordSeparator] using hsep
    have hascii : d.toNat < 0x80 := by rcases hcases with rfl | rfl <;> decide
    obtain ⟨hupper, -⟩ | ⟨rfl, -⟩ := Text.ascii_mem_upper hd hascii
    · rcases hcases with rfl | rfl <;> cases hupper
    · rw [hc] at hsep
      cases hsep

theorem not_isWordSeparator_of_mem_pascalChars {cs : List Char} {c : Char}
    (h : c ∈ pascalChars cs) : isWordSeparator c = false := by
  obtain ⟨piece, hpiece, hc⟩ := List.mem_flatMap.mp h
  cases piece with
  | nil => cases hc
  | cons first rest =>
    rcases List.mem_append.mp hc with hc | hc
    · exact not_isWordSeparator_of_mem_upper
        (Text.not_sep_of_mem_splitOn hpiece List.mem_cons_self) hc
    · exact Text.not_sep_of_mem_splitOn hpiece (List.mem_cons_of_mem first hc)

/-- What is in PascalCase is one word. -/
theorem pascalChars_pascalChars (cs : List Char) :
    pascalChars (pascalChars cs) = capitalizeChars (pascalChars cs) := by
  rw [pascalChars, Text.splitOn_of_forall_not_sep fun c => not_isWordSeparator_of_mem_pascalChars,
    List.flatMap_singleton]

/-- **A capitalized name starts with no small ASCII letter.** -/
theorem isLower_of_head?_capitalizeChars {cs : List Char} {c : Char}
    (h : (capitalizeChars cs).head? = some c) : c.isLower = false := by
  cases cs with
  | nil => cases h
  | cons first rest =>
    rw [capitalizeChars, List.head?_append_of_ne_nil _ (Text.upper_ne_nil first)] at h
    by_contra hlower
    rw [Bool.not_eq_false] at hlower
    obtain ⟨hcapital, -⟩ :=
      Text.isUpper_of_mem_upper (List.mem_of_head? h) (by simp [Char.isAlpha, hlower])
    exact Char.not_isLower_of_isUpper hcapital hlower

/-- PascalCase starts with no small ASCII letter: its first character is that of a word. -/
theorem isLower_of_head?_pascalChars {cs : List Char} {c : Char}
    (h : (pascalChars cs).head? = some c) : c.isLower = false := by
  rw [pascalChars] at h
  generalize Text.splitOn isWordSeparator cs = words at h
  induction words with
  | nil => cases h
  | cons word words ih =>
    rw [List.flatMap_cons, List.head?_append, Option.or_eq_some_iff] at h
    rcases h with h | ⟨-, h⟩
    · exact isLower_of_head?_capitalizeChars h
    · exact ih h

/-! ## Identifiers -/

theorem isIdentifierStart_of_isAlpha {c : Char} (h : c.isAlpha = true) :
    isIdentifierStart c = true := by
  rw [isIdentifierStart, Text.isAlphabetic_of_ascii (Text.toNat_lt_of_isAlpha h), h]
  rfl

/-- Repairing that leaves no `_` has repaired nothing. -/
theorem eq_of_repairChars_eq {cs g : List Char} (h : repairChars cs = g) (hg : '_' ∉ g) :
    cs = g := by
  have hmapped : (cs.map fun c => if isIdentifierPart c then c else '_') = g := by
    rw [repairChars] at h
    split at h
    · subst h
      exact absurd List.mem_cons_self hg
    next hcs =>
      rw [hcs]
      split at h
      · subst h
        exact absurd List.mem_cons_self hg
      · exact h
  have hparts : ∀ c ∈ cs, isIdentifierPart c = true := by
    intro c hc
    by_contra hpart
    refine hg ?_
    rw [← hmapped]
    exact List.mem_map.mpr ⟨c, hc, if_neg hpart⟩
  rw [← hmapped, List.map_congr_left fun c hc => if_pos (hparts c hc), List.map_id']

/-- Lowering the first character of a capitalized word gives an ASCII letter only if the word starts
with a letter; then the rest decides whether it is an identifier. -/
theorem isIdentifierChars_of_camel {cs rest : List Char} {c : Char}
    (h : uncapitalizeChars (capitalizeChars cs) = c :: rest) (hc : c.isAlpha = true)
    (hk : c ≠ 'k') (hi : c ≠ 'i') (hrest : ∀ d ∈ rest, isIdentifierPart d = true) :
    isIdentifierChars cs = true := by
  cases cs with
  | nil => cases h
  | cons first others =>
    rw [capitalizeChars] at h
    cases hupper : Text.upper first with
    | nil => exact absurd hupper (Text.upper_ne_nil first)
    | cons u us =>
      rw [hupper, List.cons_append, uncapitalizeChars] at h
      cases hlower : Text.lower u with
      | nil => exact absurd hlower (Text.lower_ne_nil u)
      | cons l ls =>
        rw [hlower] at h
        cases h
        -- back from the letter that came out, over the raised character, to the first of the word
        have hu : u.isAlpha = true :=
          Text.isAlpha_of_mem_lower (hlower ▸ List.mem_cons_self) hc hk hi
        obtain ⟨-, hfirst⟩ := Text.isUpper_of_mem_upper (hupper ▸ List.mem_cons_self) hu
        rw [isIdentifierChars, isIdentifierStart, hfirst, Bool.true_or, Bool.true_or, Bool.true_and,
          List.all_eq_true]
        exact fun d hd => hrest d (List.mem_append_right ls (List.mem_append_right us hd))

/-- An identifier without `_` that starts with an ASCII letter other than `k` and `i`. -/
def isPlainChars : List Char → Bool
  | [] => false
  | c :: rest => c.isAlpha && c != 'k' && c != 'i' && !(c :: rest).contains '_'
      && rest.all isIdentifierPart

theorem not_underscore_of_isPlainChars {cs : List Char} (h : isPlainChars cs = true) : '_' ∉ cs := by
  cases cs with
  | nil => exact List.not_mem_nil
  | cons c rest =>
    simp only [isPlainChars, Bool.and_eq_true, Bool.not_eq_true', List.contains_eq_mem,
      decide_eq_false_iff_not] at h
    exact h.1.2

/-- **A plain name is the identifier of a name in PascalCase** exactly when it is that PascalCase. -/
theorem toIdentifierChars_pascalChars_eq_iff {cs g : List Char} (hg : isPlainChars g = true) :
    toIdentifierChars (pascalChars cs) = g ↔ pascalChars cs = g := by
  cases g with
  | nil => cases hg
  | cons c rest =>
    simp only [isPlainChars, Bool.and_eq_true, bne_iff_ne, Bool.not_eq_true',
      List.contains_eq_mem, decide_eq_false_iff_not, List.all_eq_true] at hg
    obtain ⟨⟨⟨⟨hc, hk⟩, hi⟩, hunderscore⟩, hrest⟩ := hg
    constructor
    · intro h
      rw [toIdentifierChars] at h
      split at h
      · exact h
      next hno =>
        -- nothing was repaired, and then the name could have stood as it was
        have hcamel := eq_of_repairChars_eq h hunderscore
        rw [camelChars, pascalChars_pascalChars] at hcamel
        exact absurd (isIdentifierChars_of_camel hcamel hc hk hi hrest) hno
    · intro h
      have hidentifier : isIdentifierChars (pascalChars cs) = true := by
        rw [h, isIdentifierChars, isIdentifierStart_of_isAlpha hc, Bool.true_and, List.all_eq_true]
        exact hrest
      rw [toIdentifierChars, if_pos hidentifier, h]

/-! ## Reserved words -/

/-- A reserved word is escaped to a name that starts with `_`, so no other name comes out as one that
does not. -/
theorem safe_script_eq_iff {name g : String} (hg : '_' ∉ g.toList)
    (hfree : Convention.script.isReserved g = false) :
    Convention.script.safe name = g ↔ name = g := by
  rw [Convention.safe]
  split
  next hreserved =>
    constructor
    · rintro rfl
      simp [Convention.script] at hg
    · rintro rfl
      rw [hfree] at hreserved
      cases hreserved
  next => exact Iff.rfl

/-- Reserved words start with small letters and have no `_`. -/
theorem scriptReserved_small : ∀ w ∈ Convention.scriptReserved,
    w.toList.head?.any Char.isLower = true ∧ '_' ∉ w.toList := by
  decide

/-- A name is not reserved if it does not start with a small letter. -/
theorem isReserved_script_of_head? {name : String}
    (h : ∀ c, name.toList.head? = some c → c.isLower = false) :
    Convention.script.isReserved name = false := by
  by_contra hreserved
  rw [Bool.not_eq_false, Convention.isReserved, List.contains_iff_mem] at hreserved
  obtain ⟨c, hc, hlower⟩ := (Option.any_eq_true _ _).mp (scriptReserved_small _ hreserved).1
  rw [h c hc] at hlower
  cases hlower

/-- A name is not reserved if there is a `_` in it. -/
theorem isReserved_script_of_underscore {name : String} (h : '_' ∈ name.toList) :
    Convention.script.isReserved name = false := by
  by_contra hreserved
  rw [Bool.not_eq_false, Convention.isReserved, List.contains_iff_mem] at hreserved
  exact (scriptReserved_small _ hreserved).2 h

/-- No capitalized name is escaped. -/
theorem binding_script (name : String) : Convention.script.binding name = capitalize name := by
  refine Convention.safe_of_not_reserved _ (isReserved_script_of_head? fun c hc => ?_)
  rw [Convention.script, toList_capitalize] at hc
  exact isLower_of_head?_capitalizeChars hc

end Naming
end RestBindings
