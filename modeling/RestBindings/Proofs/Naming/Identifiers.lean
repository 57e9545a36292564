import RestBindings.Proofs.Naming.Words
import RestBindings.Proofs.Text.Letters

/-! # When a name comes out as an identifier

A name that cannot stand as an identifier is camel-cased and repaired: what an identifier cannot hold
becomes `_`, and a digit at the start gets a `_` before it.  Raising and lowering the first character
keeps a letter a letter and leaves all else alone, so what the repair finds at the start is a letter,
or the first character of the name that is no separator (`any_head?_camelChars`).

The repair guards against ASCII digits only.  A numeric sign of another script that is no letter, such
as `²` or `½`, may stand inside an identifier but not at its start, and it is let through.  These
names are the only ones that do not come out as identifiers (`isIdentifierChars_toIdentifierChars`).
They are also the only ones that can change when they are repaired again: an identifier is kept, but
a name that is none loses every `_` that the first repair put in (`toIdentifierChars_eq_self_iff`).
-/
namespace RestBindings
namespace Naming

/-! ## The first character -/

/-- The first character of a name that separates no words. -/
def firstChar? (cs : List Char) : Option Char := cs.find? (!isWordSeparator ·)

theorem pascalChars_cons_of_sep {c : Char} (h : isWordSeparator c = true) (rest : List Char) :
    pascalChars (c :: rest) = pascalChars rest := by
  rw [pascalChars, Text.splitOn, if_pos h, List.flatMap_cons]
  rfl

theorem pascalChars_append_cons {first : List Char} (h : ∀ c ∈ first, isWordSeparator c = false)
    {c : Char} (hc : isWordSeparator c = true) (rest : List Char) :
    pascalChars (first ++ c :: rest) = capitalizeChars first ++ pascalChars rest := by
  rw [pascalChars, Text.splitOn_append_cons h hc, List.flatMap_cons, pascalChars]

/-- PascalCase starts with the raised first character. -/
theorem head?_pascalChars (cs : List Char) :
    (pascalChars cs).head? = (firstChar? cs).bind fun c => (Text.upper c).head? := by
  induction cs with
  | nil => rfl
  | cons c rest ih =>
    cases hsep : isWordSeparator c with
    | true =>
      rw [pascalChars_cons_of_sep hsep, ih, firstChar?, firstChar?,
        List.find?_cons_of_neg (by simp [hsep])]
    | false =>
      have hhead (others : List Char) : (Text.upper c ++ others).head? = (Text.upper c).head? :=
        List.head?_append_of_ne_nil _ (Text.upper_ne_nil c)
      rw [firstChar?, List.find?_cons_of_pos (by simp [hsep]), Option.bind_some, pascalChars,
        Text.splitOn, if_neg (by simp [hsep])]
      split
      · exact absurd ‹_› (Text.splitOn_ne_nil _ _)
      · rw [List.flatMap_cons, capitalizeChars, List.append_assoc, hhead]

theorem head?_camelChars (cs : List Char) :
    (camelChars cs).head? = (pascalChars cs).head?.bind fun c => (Text.lower c).head? := by
  rw [camelChars]
  cases pascalChars cs with
  | nil => rfl
  | cons c rest => exact List.head?_append_of_ne_nil _ (Text.lower_ne_nil c)

/-- A numeric sign outside ASCII that is no letter: an identifier may hold it, but not start with
it. -/
def isForeignNumeral (c : Char) : Bool :=
  Text.isNumeric c && !Text.isAlphabetic c && !c.isDigit

theorem isForeignNumeral_iff {c : Char} :
    isForeignNumeral c = true ↔
      Text.isNumeric c = true ∧ Text.isAlphabetic c = false ∧ c.isDigit = false := by
  simp [isForeignNumeral, and_assoc]

theorem not_isForeignNumeral_of_isAlphabetic {c : Char} (h : Text.isAlphabetic c = true) :
    isForeignNumeral c = false := by
  simp [isForeignNumeral, h]

/-- A case mapping changes no character into a foreign numeral, and no foreign numeral. -/
theorem any_isForeignNumeral_of_keepsLetters {c : Char} {form : List Char} (hform : form ≠ [])
    (h : Text.KeepsLetters c form) :
    form.head?.any isForeignNumeral = isForeignNumeral c := by
  cases form with
  | nil => exact absurd rfl hform
  | cons d others =>
    rw [List.head?_cons, Option.any_some]
    cases hc : Text.isAlphabetic c with
    | true =>
      rw [not_isForeignNumeral_of_isAlphabetic hc,
        not_isForeignNumeral_of_isAlphabetic (h.isAlphabetic_of_head? hc List.head?_cons)]
    | false =>
      cases h.eq_of_not_isAlphabetic hc
      rfl

/-- **The first character decides** whether a name in camelCase starts with a foreign numeral. -/
theorem any_head?_camelChars (cs : List Char) :
    (camelChars cs).head?.any isForeignNumeral = (firstChar? cs).any isForeignNumeral := by
  rw [head?_camelChars, head?_pascalChars]
  cases firstChar? cs with
  | none => rfl
  | some c =>
    rw [Option.bind_some, Option.any_some,
      ← any_isForeignNumeral_of_keepsLetters (Text.upper_ne_nil c) (Text.keepsLetters_upper c)]
    cases (Text.upper c).head? with
    | none => rfl
    | some u =>
      exact any_isForeignNumeral_of_keepsLetters (Text.lower_ne_nil u) (Text.keepsLetters_lower u)

/-! ## Repairing -/

/-- What an identifier may hold and not start with are the numeric signs. -/
theorem isIdentifierStart_of_isIdentifierPart {c : Char} (h : isIdentifierPart c = true) :
    isIdentifierStart c = !(isForeignNumeral c || c.isDigit) := by
  by_cases hunderscore : c = '_'
  · subst hunderscore
    decide
  by_cases hdollar : c = '$'
  · subst hdollar
    decide
  have hstart : isIdentifierStart c = Text.isAlphabetic c := by
    rw [isIdentifierStart, beq_eq_false_iff_ne.mpr hunderscore, beq_eq_false_iff_ne.mpr hdollar,
      Bool.or_false, Bool.or_false]
  rw [hstart, isForeignNumeral]
  cases hdigit : c.isDigit with
  | true => simp [Text.isAlphabetic_of_isDigit hdigit]
  | false =>
    cases halphabetic : Text.isAlphabetic c with
    | true => simp
    | false =>
      have hnumeric : Text.isNumeric c = true := by
        simpa [isIdentifierPart, Text.isAlphanumeric, hunderscore, hdollar, halphabetic] using h
      simp [hnumeric]

/-- What a character is repaired to. -/
def repaired (c : Char) : Char := if isIdentifierPart c then c else '_'

theorem isIdentifierPart_repaired (c : Char) : isIdentifierPart (repaired c) = true := by
  rw [repaired]
  split
  · assumption
  · decide

theorem isForeignNumeral_repaired (c : Char) :
    isForeignNumeral (repaired c) = isForeignNumeral c := by
  rw [repaired]
  split
  · rfl
  next hpart =>
    have hnumeric : Text.isNumeric c = false := by
      simp only [isIdentifierPart, Text.isAlphanumeric, Bool.or_eq_true, not_or,
        Bool.not_eq_true] at hpart
      exact hpart.1.1.2
    rw [isForeignNumeral, isForeignNumeral, hnumeric]
    rfl

theorem repairChars_cons (c : Char) (rest : List Char) :
    repairChars (c :: rest) =
      if (repaired c).isDigit then '_' :: (c :: rest).map repaired else (c :: rest).map repaired :=
  rfl

/-- A repair leaves nothing that an identifier cannot hold. -/
theorem isIdentifierPart_of_mem_repairChars {cs : List Char} {c : Char} (h : c ∈ repairChars cs) :
    isIdentifierPart c = true := by
  have hmapped : ∀ d ∈ cs.map repaired, isIdentifierPart d = true :=
    List.forall_mem_map.mpr fun d _ => isIdentifierPart_repaired d
  cases cs with
  | nil =>
    cases List.mem_singleton.mp h
    decide
  | cons d rest =>
    rw [repairChars_cons] at h
    split at h
    · obtain rfl | h := List.mem_cons.mp h
      · decide
      · exact hmapped c h
    · exact hmapped c h

/-- **What a repair gives is an identifier** unless it starts with a foreign numeral. -/
theorem isIdentifierChars_repairChars (cs : List Char) :
    isIdentifierChars (repairChars cs) = !cs.head?.any isForeignNumeral := by
  cases cs with
  | nil => decide
  | cons c rest =>
    have hrest : (rest.map repaired).all isIdentifierPart = true :=
      List.all_eq_true.mpr (List.forall_mem_map.mpr fun d _ => isIdentifierPart_repaired d)
    have hstart := isIdentifierStart_of_isIdentifierPart (isIdentifierPart_repaired c)
    rw [isForeignNumeral_repaired] at hstart
    rw [repairChars_cons, List.head?_cons, Option.any_some, List.map_cons]
    split
    next hdigit =>
      have hforeign : isForeignNumeral c = false := by
        rw [← isForeignNumeral_repaired, isForeignNumeral, hdigit, Bool.not_true, Bool.and_false]
      rw [isIdentifierChars, List.all_cons, isIdentifierPart_repaired, hrest, hforeign]
      rfl
    next hdigit =>
      rw [isIdentifierChars, hrest, Bool.and_true, hstart]
      simp [hdigit]

/-- Where a name starts with what an identifier may hold, and no digit first, only the rest of it is
repaired. -/
theorem repairChars_append {c : Char} {first : List Char}
    (hparts : ∀ d ∈ c :: first, isIdentifierPart d = true) (hdigit : c.isDigit = false)
    (rest : List Char) :
    repairChars (c :: first ++ rest) = c :: first ++ rest.map repaired := by
  have hkept : ∀ d ∈ c :: first, repaired d = d := fun d hd => if_pos (hparts d hd)
  have hfirst : (c :: first).map repaired = c :: first :=
    (List.map_congr_left hkept).trans (List.map_id' _)
  rw [List.cons_append, repairChars_cons, hkept c List.mem_cons_self, if_neg (by simp [hdigit]),
    ← List.cons_append, List.map_append, hfirst]

/-! ## Identifiers -/

/-- **What a name comes out as** has only characters that an identifier can hold, whatever it starts
with. -/
theorem isIdentifierPart_of_mem_toIdentifierChars {cs : List Char} {c : Char}
    (h : c ∈ toIdentifierChars cs) : isIdentifierPart c = true := by
  rw [toIdentifierChars] at h
  split at h
  next hidentifier =>
    cases cs with
    | nil => cases h
    | cons d rest =>
      obtain ⟨hstart, hrest⟩ := Bool.and_eq_true_iff.mp hidentifier
      obtain rfl | h := List.mem_cons.mp h
      · exact isIdentifierPart_of_isIdentifierStart hstart
      · exact List.all_eq_true.mp hrest c h
  next => exact isIdentifierPart_of_mem_repairChars h

theorem toIdentifierChars_ne_nil (cs : List Char) : toIdentifierChars cs ≠ [] := by
  rw [toIdentifierChars]
  split
  next hidentifier =>
    rintro rfl
    cases hidentifier
  next =>
    cases camelChars cs with
    | nil => decide
    | cons c rest =>
      rw [repairChars_cons]
      split <;> exact List.cons_ne_nil _ _

/-- A name that is no identifier, and whose first character that is no separator is a foreign
numeral. -/
def startsWithNumeralChars (cs : List Char) : Bool :=
  !isIdentifierChars cs && (firstChar? cs).any isForeignNumeral

/-- **Which names come out as identifiers.** -/
theorem isIdentifierChars_toIdentifierChars (cs : List Char) :
    isIdentifierChars (toIdentifierChars cs) = !startsWithNumeralChars cs := by
  rw [toIdentifierChars, startsWithNumeralChars]
  cases hidentifier : isIdentifierChars cs with
  | true => simp [hidentifier]
  | false =>
    rw [if_neg Bool.false_ne_true, isIdentifierChars_repairChars, any_head?_camelChars,
      Bool.not_false, Bool.true_and]

/-- A name that does not come out as an identifier starts with a foreign numeral after the repair
too, and goes on with what an identifier may hold. -/
theorem exists_of_startsWithNumeralChars {cs : List Char} (h : startsWithNumeralChars cs = true) :
    ∃ c rest, toIdentifierChars cs = c :: rest ∧ isForeignNumeral c = true ∧
      ∀ d ∈ c :: rest, isIdentifierPart d = true := by
  rw [startsWithNumeralChars, Bool.and_eq_true, ← any_head?_camelChars] at h
  obtain ⟨hidentifier, hforeign⟩ := h
  rw [Bool.not_eq_true'] at hidentifier
  rw [toIdentifierChars, if_neg (by simp [hidentifier])]
  cases hcamel : camelChars cs with
  | nil =>
    rw [hcamel] at hforeign
    cases hforeign
  | cons c rest =>
    rw [hcamel] at hforeign
    have hforeign : isForeignNumeral c = true := hforeign
    obtain ⟨hnumeric, -, hdigit⟩ := isForeignNumeral_iff.mp hforeign
    have hpart : isIdentifierPart c = true := by
      simp [isIdentifierPart, Text.isAlphanumeric, hnumeric]
    have hrepair := repairChars_append (List.forall_mem_singleton.mpr hpart) hdigit rest
    refine ⟨c, rest.map repaired, hrepair, hforeign, List.forall_mem_cons.mpr ⟨hpart, ?_⟩⟩
    exact List.forall_mem_map.mpr fun d _ => isIdentifierPart_repaired d

/-- The upper-case form of what an identifier may hold starts with such a character. -/
theorem isIdentifierPart_of_head?_upper {c d : Char} (hc : isIdentifierPart c = true)
    (hd : (Text.upper c).head? = some d) : isIdentifierPart d = true := by
  cases hletter : Text.isAlphabetic c with
  | true => simp [isIdentifierPart, Text.isAlphanumeric, Text.isAlphabetic_of_head?_upper hletter hd]
  | false =>
    rw [Text.upper_of_not_isAlphabetic hletter] at hd
    cases hd
    exact hc

/-- Raising the first character of what an identifier may hold gives nothing to repair. -/
theorem isIdentifierPart_of_head?_pascalChars {cs : List Char}
    (hparts : ∀ d ∈ cs, isIdentifierPart d = true) {c : Char}
    (h : (pascalChars cs).head? = some c) : isIdentifierPart c = true := by
  rw [head?_pascalChars, Option.bind_eq_some_iff] at h
  obtain ⟨d, hd, hc⟩ := h
  exact isIdentifierPart_of_head?_upper (hparts d (List.mem_of_find?_eq_some hd)) hc

/-- A name that starts with a foreign numeral keeps its first word, and the rest is repaired. -/
theorem toIdentifierChars_of_pascalChars_eq {cs first more : List Char} {c : Char}
    (hidentifier : isIdentifierChars cs = false) (hforeign : isForeignNumeral c = true)
    (hparts : ∀ d ∈ c :: first, isIdentifierPart d = true)
    (h : pascalChars cs = capitalizeChars (c :: first) ++ more) :
    toIdentifierChars cs = c :: first ++ more.map repaired := by
  obtain ⟨-, hletter, hdigit⟩ := isForeignNumeral_iff.mp hforeign
  have hcamel : camelChars cs = c :: first ++ more := by
    rw [camelChars, h, capitalizeChars, Text.upper_of_not_isAlphabetic hletter]
    simp [uncapitalizeChars, Text.lower_of_not_isAlphabetic hletter]
  rw [toIdentifierChars, if_neg (by simp [hidentifier]), hcamel, repairChars_append hparts hdigit]

/-- **A repair is final** for a name that starts with a foreign numeral exactly when it put no `_` into
it: in a name that is no identifier, `_` separates words. -/
theorem toIdentifierChars_eq_self_iff {c : Char} {rest : List Char}
    (hforeign : isForeignNumeral c = true) (hparts : ∀ d ∈ c :: rest, isIdentifierPart d = true) :
    toIdentifierChars (c :: rest) = c :: rest ↔ '_' ∉ c :: rest := by
  have hidentifier : isIdentifierChars (c :: rest) = false := by
    rw [isIdentifierChars, isIdentifierStart_of_isIdentifierPart (hparts c List.mem_cons_self),
      hforeign]
    rfl
  have hnot {d : Char} (hd : d ∈ c :: rest) (hunderscore : d ≠ '_') : isWordSeparator d = false := by
    have hhyphen : d ≠ '-' := by
      rintro rfl
      exact absurd (hparts _ hd) (by decide)
    simp [isWordSeparator, hunderscore, hhyphen]
  constructor
  · intro h hmem
    obtain ⟨first, others, heq, hfirst⟩ := List.eq_append_cons_of_mem hmem
    cases first with
    | nil =>
      cases heq
      exact absurd hforeign (by decide)
    | cons c' first =>
      obtain ⟨rfl, rfl⟩ : c = c' ∧ rest = first ++ '_' :: others := List.cons.inj heq
      have hsep : ∀ d ∈ c :: first, isWordSeparator d = false := fun d hd =>
        hnot (heq ▸ List.mem_append_left _ hd) fun hd' => hfirst (hd' ▸ hd)
      have hpascal := pascalChars_append_cons hsep (by decide : isWordSeparator '_' = true) others
      rw [← heq] at hpascal
      -- the word after the `_` would start with what the repair makes a `_` of
      rw [toIdentifierChars_of_pascalChars_eq hidentifier hforeign
        (fun d hd => hparts d (heq ▸ List.mem_append_left _ hd)) hpascal, heq] at h
      have hothers := List.append_cancel_left h
      obtain ⟨d, words, hwords, hd, -⟩ := List.map_eq_cons_iff.mp hothers
      have hpart : isIdentifierPart d = true :=
        isIdentifierPart_of_head?_pascalChars
          (fun e he => hparts e (heq ▸ List.mem_append_right _ (List.mem_cons_of_mem _ he)))
          (hwords ▸ List.head?_cons)
      have hseparator : isWordSeparator d = false :=
        not_isWordSeparator_of_mem_pascalChars (hwords ▸ List.mem_cons_self)
      rw [repaired, if_pos hpart] at hd
      subst hd
      cases hseparator
  · intro hno
    have hsep : ∀ d ∈ c :: rest, isWordSeparator d = false := fun d hd =>
      hnot hd fun hd' => hno (hd' ▸ hd)
    have hpascal : pascalChars (c :: rest) = capitalizeChars (c :: rest) ++ [] := by
      rw [pascalChars, Text.splitOn_of_forall_not_sep hsep, List.flatMap_singleton, List.append_nil]
    rw [toIdentifierChars_of_pascalChars_eq hidentifier hforeign hparts hpascal, List.map_nil,
      List.append_nil]

/-! ## Parameters -/

/-- Reserved words are identifiers, and stop to be reserved when they are escaped. -/
theorem scriptReserved_escape : ∀ w ∈ Convention.scriptReserved,
    isIdentifier w = true ∧ isIdentifier ("_" ++ w) = true ∧
      Convention.script.isReserved ("_" ++ w) = false := by
  decide +kernel

theorem isReserved_safe_script (name : String) :
    Convention.script.isReserved (Convention.script.safe name) = false := by
  rw [Convention.safe]
  split
  next h => exact (scriptReserved_escape name (List.contains_iff_mem.mp h)).2.2
  next h => exact Bool.eq_false_iff.mpr h

theorem isIdentifier_safe_script (name : String) :
    isIdentifier (Convention.script.safe name) = isIdentifier name := by
  rw [Convention.safe]
  split
  next h =>
    obtain ⟨hword, hescaped, -⟩ := scriptReserved_escape name (List.contains_iff_mem.mp h)
    exact hescaped.trans hword.symm
  next => rfl

/-- A name that does not come out as an identifier. -/
def startsWithNumeral (name : String) : Bool := startsWithNumeralChars name.toList

/-- **What a parameter comes out as.**  It is never a reserved word.  It is an identifier, unless its
name is none and starts with a numeric sign outside ASCII that is no letter.  An identifier made of a
name is kept as it is; what such a name comes out as is kept if there is no `_` in it. -/
theorem param_script_spec (name : String) :
    Convention.script.isReserved (Convention.script.param name) = false ∧
    (isIdentifier (Convention.script.param name) = true ↔ startsWithNumeral name = false) ∧
    (toIdentifier (toIdentifier name) = toIdentifier name ↔
      startsWithNumeral name = false ∨ '_' ∉ (toIdentifier name).toList) := by
  have hidentifier : isIdentifier (toIdentifier name) = !startsWithNumeral name := by
    rw [isIdentifier, toList_toIdentifier, isIdentifierChars_toIdentifierChars, startsWithNumeral]
  refine ⟨isReserved_safe_script _, ?_, ?_⟩
  · have hparam : isIdentifier (Convention.script.param name) = !startsWithNumeral name :=
      (isIdentifier_safe_script _).trans hidentifier
    rw [hparam, Bool.not_eq_true']
  · cases hnumeral : startsWithNumeral name with
    | false =>
      rw [hnumeral] at hidentifier
      simp [toIdentifier_of_isIdentifier hidentifier]
    | true =>
      obtain ⟨c, rest, heq, hforeign, hparts⟩ := exists_of_startsWithNumeralChars hnumeral
      rw [← String.toList_inj, toList_toIdentifier (toIdentifier name), toList_toIdentifier, heq,
        toIdentifierChars_eq_self_iff hforeign hparts]
      simp

/-- A superscript is no ASCII digit, and passes the guard against digits. -/
theorem param_script_superscript :
    Convention.script.param "²a.b" = "²a_b" ∧ isIdentifier "²a_b" = false ∧
      toIdentifier "²a.b" = "²a_b" ∧ toIdentifier "²a_b" = "²aB" := by
  decide +kernel

end Naming
end RestBindings
