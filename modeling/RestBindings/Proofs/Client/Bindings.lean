import RestBindings.Client.Fetch
import RestBindings.Proofs.Naming.Identifiers

/-! # How the names of clients start

The clients of a TypeScript module are bound to names in PascalCase that are made identifiers.  Where
PascalCase gives an identifier, that is the name.  Anywhere else the name is camel-cased once more
before it is repaired, which lowers the first letter that PascalCase raised
(`toIdentifierChars_pascalChars`): one character that an identifier cannot hold, anywhere in the name
of a model, decides about the first letter of its client.

The name is an identifier and no reserved word in either case, for a model whose name starts with an
ASCII letter.  A name that starts with a capital is no reserved word, and one that was repaired has a
`_` in it, which no reserved word has.
-/
namespace RestBindings
namespace Naming

/-! ## Names that start with a letter -/

theorem isWordSeparator_of_isAlpha {c : Char} (h : c.isAlpha = true) :
    isWordSeparator c = false := by
  rw [Bool.eq_false_iff]
  intro hsep
  obtain rfl | rfl : c = '_' ∨ c = '-' := by simpa [isWordSeparator] using hsep
  · cases h
  · cases h

/-- PascalCase raises a letter at the start. -/
theorem exists_pascalChars_cons {c : Char} (hc : c.isAlpha = true) (cs : List Char) :
    ∃ more, pascalChars (c :: cs) = c.toUpper :: more := by
  have hhead : (pascalChars (c :: cs)).head? = some c.toUpper := by
    have hsep := isWordSeparator_of_isAlpha hc
    rw [head?_pascalChars, firstChar?, List.find?_cons_of_pos (by simp [hsep]), Option.bind_some,
      Text.upper_of_ascii (Text.toNat_lt_of_isAlpha hc), List.head?_cons]
  exact List.head?_eq_some_iff.mp hhead

/-- **PascalCase with a letter at the start, made an identifier.**  If all else can stand in an
identifier, it is one.  If not, the letter is lowered, and all else is repaired. -/
theorem toIdentifierChars_pascalChars {cs more : List Char} {c : Char} (hc : c.isAlpha = true)
    (h : pascalChars cs = c.toUpper :: more) :
    toIdentifierChars (pascalChars cs) =
      if more.all isIdentifierPart then c.toUpper :: more else c.toLower :: more.map repaired := by
  have hraised : c.toUpper.isAlpha = true := by rw [Char.isAlpha_toUpper_eq_isAlpha, hc]
  have hlowered : c.toLower.isAlpha = true := by rw [Char.isAlpha_toLower_eq_isAlpha, hc]
  have hidentifier : isIdentifierChars (pascalChars cs) = more.all isIdentifierPart := by
    rw [h, isIdentifierChars, isIdentifierStart_of_isAlpha hraised, Bool.true_and]
  have hcamel : camelChars (pascalChars cs) = c.toLower :: more := by
    have hupper := Text.upper_of_ascii (Text.toNat_lt_of_isAlpha hraised)
    have hlower := Text.lower_of_ascii (Text.toNat_lt_of_isAlpha hraised)
    rw [camelChars, pascalChars_pascalChars, h, capitalizeChars, hupper,
      Char.toUpper_toUpper_eq_toUpper, List.singleton_append, uncapitalizeChars, hlower,
      Char.toLower_toUpper_eq_toLower, List.singleton_append]
  have hpart : isIdentifierPart c.toLower = true :=
    isIdentifierPart_of_isIdentifierStart (isIdentifierStart_of_isAlpha hlowered)
  have hdigit : c.toLower.isDigit = false := by
    by_contra hdigit
    have hletter := Text.isAlphabetic_of_isDigit (Bool.eq_true_of_not_eq_false hdigit)
    rw [Text.isAlphabetic_of_isAlpha hlowered] at hletter
    cases hletter
  rw [toIdentifierChars, hidentifier, hcamel]
  split
  · exact h
  · exact repairChars_append (List.forall_mem_singleton.mpr hpart) hdigit more

/-! ## What can stand in an identifier -/

/-- PascalCase keeps all characters but separators and letters. -/
theorem mem_pascalChars_of_not_isAlphabetic {cs : List Char} {d : Char} (hd : d ∈ cs)
    (hsep : isWordSeparator d = false) (hletter : Text.isAlphabetic d = false) :
    d ∈ pascalChars cs := by
  obtain ⟨word, hword, hd⟩ := Text.mem_splitOn_iff.mpr ⟨hd, hsep⟩
  refine List.mem_flatMap.mpr ⟨word, hword, ?_⟩
  cases word with
  | nil => cases hd
  | cons first rest =>
    obtain rfl | hd := List.mem_cons.mp hd
    · rw [capitalizeChars, Text.upper_of_not_isAlphabetic hletter]
      exact List.mem_cons_self
    · exact List.mem_append_right _ hd

/-- The characters of PascalCase are those of the name, and of their upper-case forms. -/
theorem exists_of_mem_pascalChars {cs : List Char} {d : Char} (h : d ∈ pascalChars cs) :
    ∃ e ∈ cs, isWordSeparator e = false ∧ (d = e ∨ d ∈ Text.upper e) := by
  obtain ⟨word, hword, hd⟩ := List.mem_flatMap.mp h
  have hmem : ∀ e ∈ word, e ∈ cs ∧ isWordSeparator e = false := fun e he =>
    Text.mem_splitOn_iff.mp ⟨word, hword, he⟩
  cases word with
  | nil => cases hd
  | cons first rest =>
    rcases List.mem_append.mp hd with hd | hd
    · obtain ⟨hfirst, hsep⟩ := hmem first List.mem_cons_self
      exact ⟨first, hfirst, hsep, .inr hd⟩
    · obtain ⟨hrest, hsep⟩ := hmem d (List.mem_cons_of_mem first hd)
      exact ⟨d, hrest, hsep, .inl rfl⟩

/-- What can stand in an identifier, or separates words by a hyphen. -/
def isKept (c : Char) : Bool := isIdentifierPart c || c == '-'

theorem isKept_of_isIdentifierPart {c : Char} (h : isIdentifierPart c = true) :
    isKept c = true := by
  simp [isKept, h]

theorem isKept_of_isWordSeparator {c : Char} (h : isWordSeparator c = true) : isKept c = true := by
  obtain rfl | rfl : c = '_' ∨ c = '-' := by simpa [isWordSeparator] using h
  · decide
  · decide

theorem isIdentifierPart_of_isKept {c : Char} (h : isKept c = true)
    (hsep : isWordSeparator c = false) : isIdentifierPart c = true := by
  rw [isKept, Bool.or_eq_true] at h
  refine h.resolve_right fun hhyphen => ?_
  rw [isWordSeparator, hhyphen, Bool.or_true] at hsep
  cases hsep

/-- Where all of PascalCase can stand in an identifier, nothing else stood in the name. -/
theorem isKept_of_pascalChars {cs : List Char}
    (h : ∀ d ∈ pascalChars cs, isIdentifierPart d = true) : ∀ d ∈ cs, isKept d = true := by
  intro d hd
  cases hsep : isWordSeparator d with
  | true => exact isKept_of_isWordSeparator hsep
  | false =>
    refine isKept_of_isIdentifierPart ?_
    cases hletter : Text.isAlphabetic d with
    | true => simp [isIdentifierPart, Text.isAlphanumeric, hletter]
    | false => exact h d (mem_pascalChars_of_not_isAlphabetic hd hsep hletter)

/-- All of PascalCase can stand in an identifier if nothing else stood in the name, and raising a
character of the name gives one character. -/
theorem isIdentifierPart_of_mem_pascalChars {cs : List Char}
    (hone : ∀ d ∈ cs, (Text.upper d).length = 1) (h : ∀ d ∈ cs, isKept d = true) :
    ∀ d ∈ pascalChars cs, isIdentifierPart d = true := by
  intro d hd
  obtain ⟨e, he, hsep, hcases⟩ := exists_of_mem_pascalChars hd
  have hpart := isIdentifierPart_of_isKept (h e he) hsep
  rcases hcases with rfl | hd
  · exact hpart
  · obtain ⟨u, hu⟩ := List.length_eq_one_iff.mp (hone e he)
    rw [hu, List.mem_singleton] at hd
    exact isIdentifierPart_of_head?_upper hpart (by rw [hu, hd, List.head?_cons])

end Naming

/-! ## Names of clients -/

namespace Client
namespace Fetch

open Naming (pascalCase isIdentifier isIdentifierPart isKept repaired)

/-- **The name of the client** of a model whose name starts with a letter: never a reserved word, it
starts with the letter raised or, if there is anything to repair in PascalCase, lowered. -/
theorem exists_bindingName_eq {name : String} {c : Char} (hhead : name.toList.head? = some c)
    (hc : c.isAlpha = true) :
    ∃ more, (pascalCase name).toList = c.toUpper :: more ∧
      (bindingName name).toList =
        if more.all isIdentifierPart then c.toUpper :: more
        else c.toLower :: more.map repaired := by
  obtain ⟨cs, hname⟩ := List.head?_eq_some_iff.mp hhead
  obtain ⟨more, hmore⟩ := Naming.exists_pascalChars_cons hc cs
  rw [← hname] at hmore
  have hidentifier : (Naming.toIdentifier (pascalCase name)).toList =
      if more.all isIdentifierPart then c.toUpper :: more
      else c.toLower :: more.map repaired := by
    rw [Naming.toList_toIdentifier, Naming.toList_pascalCase,
      Naming.toIdentifierChars_pascalChars hc hmore]
  have hfree :
      Naming.Convention.script.isReserved (Naming.toIdentifier (pascalCase name)) = false := by
    by_cases hparts : more.all isIdentifierPart = true
    · rw [if_pos hparts] at hidentifier
      refine Naming.isReserved_script_of_head? fun d hd => ?_
      rw [hidentifier, List.head?_cons] at hd
      cases hd
      exact Char.isLower_toUpper_eq_false c
    · rw [if_neg hparts] at hidentifier
      obtain ⟨d, hd, hpart⟩ : ∃ d ∈ more, ¬ isIdentifierPart d = true := by simpa using hparts
      have hrepaired : repaired d = '_' := if_neg hpart
      refine Naming.isReserved_script_of_underscore ?_
      rw [hidentifier, ← hrepaired]
      exact List.mem_cons_of_mem _ (List.mem_map_of_mem hd)
  refine ⟨more, (Naming.toList_pascalCase name).trans hmore, ?_⟩
  rw [bindingName, Naming.Convention.safe_of_not_reserved _ hfree, hidentifier]

/-- The name starts with an ASCII capital. -/
def startsWithCapital (name : String) : Bool := name.toList.head?.any Char.isUpper

/-- **Which clients have names in PascalCase.**  The name of the client of a model whose name starts
with an ASCII letter is an identifier and no reserved word.  It starts with that letter, raised if
PascalCase gives an identifier and lowered if it does not.  So it starts with a capital only if all of
the model's name is what an identifier may hold or a hyphen; and it does in that case, unless raising
a character gives more than one. -/
theorem bindingName_startsWithCapital_iff {name : String} {c : Char}
    (hhead : name.toList.head? = some c) (hc : c.isAlpha = true) :
    isIdentifier (bindingName name) = true ∧
    Naming.Convention.script.isReserved (bindingName name) = false ∧
    (bindingName name).toList.head? =
      some (if isIdentifier (pascalCase name) then c.toUpper else c.toLower) ∧
    (startsWithCapital (bindingName name) = true ↔ isIdentifier (pascalCase name) = true) ∧
    (startsWithCapital (bindingName name) = true → ∀ d ∈ name.toList, isKept d = true) ∧
    ((∀ d ∈ name.toList, (Text.upper d).length = 1) → (∀ d ∈ name.toList, isKept d = true) →
      startsWithCapital (bindingName name) = true) := by
  obtain ⟨more, hpascal, hbinding⟩ := exists_bindingName_eq hhead hc
  have hraised := Naming.isIdentifierStart_of_isAlpha
    (Char.isAlpha_toUpper_eq_isAlpha c ▸ hc : c.toUpper.isAlpha = true)
  have hlowered := Naming.isIdentifierStart_of_isAlpha
    (Char.isAlpha_toLower_eq_isAlpha c ▸ hc : c.toLower.isAlpha = true)
  have hpascalCase : isIdentifier (pascalCase name) = more.all isIdentifierPart := by
    rw [isIdentifier, hpascal, Naming.isIdentifierChars, hraised, Bool.true_and]
  have hfirst : (bindingName name).toList.head? =
      some (if isIdentifier (pascalCase name) then c.toUpper else c.toLower) := by
    rw [hbinding, hpascalCase]
    split <;> rfl
  have hcapital :
      startsWithCapital (bindingName name) = true ↔ isIdentifier (pascalCase name) = true := by
    rw [startsWithCapital, hfirst, Option.any_some]
    split
    next h => simp [h, hc]
    next h => simp [h]
  have hparts : isIdentifier (pascalCase name) = true ↔
      ∀ d ∈ Naming.pascalChars name.toList, isIdentifierPart d = true := by
    have hfirstPart := Naming.isIdentifierPart_of_isIdentifierStart hraised
    rw [hpascalCase, ← Naming.toList_pascalCase, hpascal, List.forall_mem_cons, List.all_eq_true,
      and_iff_right hfirstPart]
  refine ⟨?_, Naming.isReserved_safe_script _, hfirst, hcapital, fun h => ?_, fun hone h => ?_⟩
  · rw [isIdentifier, hbinding]
    split
    next hmore => rw [Naming.isIdentifierChars, hraised, hmore, Bool.true_and]
    next =>
      rw [Naming.isIdentifierChars, hlowered, Bool.true_and, List.all_eq_true]
      exact List.forall_mem_map.mpr fun d _ => Naming.isIdentifierPart_repaired d
  · exact Naming.isKept_of_pascalChars (hparts.mp (hcapital.mp h))
  · exact hcapital.mpr (hparts.mpr (Naming.isIdentifierPart_of_mem_pascalChars hone h))

/-- A hyphen separates words and leaves the capital; a dot in the name takes it away. -/
theorem bindingName_point_of_sale :
    (startsWithCapital (bindingName "point-of-sale") = true ∧
      isIdentifier (bindingName "point-of-sale") = true) ∧
    isIdentifier (bindingName "point.of-sale") = true ∧
    Naming.Convention.script.isReserved (bindingName "point.of-sale") = false ∧
    (bindingName "point.of-sale").toList.head? = some 'p' := by
  obtain ⟨hidentifier, -, -, -, -, hcapital⟩ :=
    @bindingName_startsWithCapital_iff "point-of-sale" 'p' (by decide) (by decide)
  obtain ⟨hidentifier', hfree', hfirst', -⟩ :=
    @bindingName_startsWithCapital_iff "point.of-sale" 'p' (by decide) (by decide)
  have hone : ∀ d ∈ "point-of-sale".toList, (Text.upper d).length = 1 := by simp [Text.upper]
  have hkept : ∀ d ∈ "point-of-sale".toList, isKept d = true := List.all_eq_true.mp (by decide)
  refine ⟨⟨hcapital hone hkept, hidentifier⟩, hidentifier', hfree', ?_⟩
  rw [hfirst', if_neg (by decide)]
  decide

/-- One dot in the name of a model, and its client is no name in PascalCase. -/
theorem bindingName_my_model :
    "my.model".toList.head? = some 'm' ∧ Char.isAlpha 'm' = true ∧
      bindingName "my.model" = "my_model" ∧
      startsWithCapital (bindingName "my.model") = false := by
  decide +kernel

end Fetch
end Client
end RestBindings
