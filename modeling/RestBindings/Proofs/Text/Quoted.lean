import Mathlib.Data.List.Basic
import Mathlib.Logic.Function.Basic
import RestBindings.Json.Reader.Text
import RestBindings.Text.Quoted

/-! # Quoted texts are read back

Every escape that `escape` writes is one that `textChars` resolves to the character it stands for, so
reading a quoted text gives the text (`textChars_flatMap_escape`) and different texts are quoted
differently (`quote_injective`).  An escape has one of three shapes (`escape_cases`), and none of them
holds a control character (`not_control_of_mem_quoteChars`).  So generated code can be read back piece
by piece: `quotedAfter?` finds a quoted text where a line is known up to it.
-/
namespace RestBindings
namespace Text

open Json.Reader (hexValue? unit? isLowSurrogate isHighSurrogate shortEscape? putChar textChars)

theorem hexValue?_hexDigit : ∀ n < 16, hexValue? (hexDigit n) = some n := by decide

/-- The four digits written for a control character are those of its number. -/
theorem unit?_hexDigits {n : Nat} (h : n < 0x20) :
    unit? '0' '0' (hexDigit (n / 16)) (hexDigit (n % 16)) = some n := by
  have hzero : hexValue? '0' = some 0 := by decide
  rw [unit?, hzero, hexValue?_hexDigit _ (by omega), hexValue?_hexDigit _ (by omega)]
  simp only [Option.some.injEq]
  omega

theorem textChars_quote (left : List Char) : textChars ('"' :: left) = .ok ([], left) := by
  conv => lhs; unfold textChars
  rw [if_pos rfl]

theorem textChars_short {e c : Char} (hu : e ≠ 'u') (h : shortEscape? e = some c)
    (left : List Char) : textChars ('\\' :: e :: left) = putChar c (textChars left) := by
  conv => lhs; unfold textChars
  simp only [Char.reduceEq, if_false, if_true, if_neg hu, h]

theorem textChars_unit {a b d e : Char} {u : Nat} (h : unit? a b d e = some u) (hu : u < 0xD800)
    (left : List Char) :
    textChars ('\\' :: 'u' :: a :: b :: d :: e :: left) = putChar (Char.ofNat u) (textChars left) := by
  have hlow : isLowSurrogate u = false := by simp [isLowSurrogate]; omega
  have hhigh : isHighSurrogate u = false := by simp [isHighSurrogate]; omega
  conv => lhs; unfold textChars
  simp only [Char.reduceEq, if_false, if_true, h, hlow, hhigh, Bool.false_eq_true]

theorem textChars_plain {c : Char} (hquote : c ≠ '"') (hslash : c ≠ '\\') (h : ¬ c.toNat < 0x20)
    (left : List Char) : textChars (c :: left) = putChar c (textChars left) := by
  conv => lhs; unfold textChars
  simp only [if_neg hquote, if_neg hslash, if_neg h]

/-- The characters that stand after a backslash in a short escape. -/
def shortEscapes : List Char := ['"', '\\', 'b', 'f', 'n', 'r', 't']

/-- **How a character is written**: by a short escape, by its number, or as it is. -/
theorem escape_cases (c : Char) :
    (∃ e ∈ shortEscapes, shortEscape? e = some c ∧ escape c = ['\\', e]) ∨
    (c.toNat < 0x20 ∧ escape c =
      ['\\', 'u', '0', '0', hexDigit (c.toNat / 16), hexDigit (c.toNat % 16)]) ∨
    (c ≠ '"' ∧ c ≠ '\\' ∧ ¬ c.toNat < 0x20 ∧ escape c = [c]) := by
  have hshort {d e : Char} (he : e ∈ shortEscapes) (hread : shortEscape? e = some d) (hc : c = d) :
      ∃ e' ∈ shortEscapes, shortEscape? e' = some c ∧ ['\\', e] = ['\\', e'] :=
    ⟨e, he, hc ▸ hread, rfl⟩
  unfold escape
  split
  next h => exact .inl (hshort (by decide) (by decide) h)
  split
  next h => exact .inl (hshort (by decide) (by decide) h)
  split
  next h => exact .inl (hshort (by decide) (by decide) h)
  split
  next h => exact .inl (hshort (by decide) (by decide) h)
  split
  next h => exact .inl (hshort (by decide) (by decide) h)
  split
  next h => exact .inl (hshort (by decide) (by decide) h)
  split
  next h => exact .inl (hshort (by decide) (by decide) h)
  split
  next h => exact .inr (.inl ⟨h, rfl⟩)
  next hquote hslash _ _ _ _ _ hcontrol => exact .inr (.inr ⟨hquote, hslash, hcontrol, rfl⟩)

theorem hexDigit_spec : ∀ n < 16,
    hexDigit n ≠ '"' ∧ hexDigit n ≠ '\\' ∧ 0x20 ≤ (hexDigit n).toNat := by decide

/-- Nothing that is written for a character is a control character. -/
theorem not_control_of_mem_escape {c d : Char} (h : d ∈ escape c) : 0x20 ≤ d.toNat := by
  obtain ⟨e, he, -, heq⟩ | ⟨hcontrol, heq⟩ | ⟨-, -, hcontrol, heq⟩ := escape_cases c
  · have hshort : ∀ e ∈ shortEscapes, ∀ d ∈ ['\\', e], 0x20 ≤ d.toNat := by
      simp [shortEscapes]
    rw [heq] at h
    exact hshort e he d h
  · have hlow := (hexDigit_spec (c.toNat % 16) (by omega)).2.2
    have hhigh := (hexDigit_spec (c.toNat / 16) (by omega)).2.2
    rw [heq] at h
    simp only [List.mem_cons, List.not_mem_nil, or_false] at h
    rcases h with rfl | rfl | rfl | rfl | rfl | rfl
    · decide
    · decide
    · decide
    · decide
    · exact hhigh
    · exact hlow
  · rw [heq, List.mem_singleton] at h
    subst h
    exact Nat.not_lt.mp hcontrol

/-- **A quoted text has no control characters.** -/
theorem not_control_of_mem_quoteChars {cs : List Char} {c : Char} (h : c ∈ quoteChars cs) :
    0x20 ≤ c.toNat := by
  have hquote : 0x20 ≤ '"'.toNat := by decide
  rw [quoteChars, List.mem_append, List.mem_cons, List.mem_flatMap, List.mem_singleton] at h
  obtain (rfl | ⟨d, -, hd⟩) | rfl := h
  · exact hquote
  · exact not_control_of_mem_escape hd
  · exact hquote

/-- An escape is resolved to the character it is written for. -/
theorem textChars_escape (c : Char) (left : List Char) :
    textChars (escape c ++ left) = putChar c (textChars left) := by
  obtain ⟨e, he, hread, heq⟩ | ⟨hcontrol, heq⟩ | ⟨hquote, hslash, hcontrol, heq⟩ := escape_cases c
  · have hu : ∀ e ∈ shortEscapes, e ≠ 'u' := by simp [shortEscapes]
    rw [heq]
    exact textChars_short (hu e he) hread left
  · have hread := textChars_unit (unit?_hexDigits hcontrol) (by omega) left
    rw [Char.ofNat_toNat] at hread
    rw [heq]
    exact hread
  · rw [heq]
    exact textChars_plain hquote hslash hcontrol left

/-- Reading a quoted text after its opening quote gives the text. -/
theorem textChars_flatMap_escape (cs left : List Char) :
    textChars (cs.flatMap escape ++ '"' :: left) = .ok (cs, left) := by
  induction cs with
  | nil => exact textChars_quote left
  | cons c rest ih =>
    rw [List.flatMap_cons, List.append_assoc, textChars_escape, ih]
    rfl

/-- **Different texts are quoted differently.** -/
theorem quote_injective : Function.Injective quote := by
  intro s t h
  have hchars : s.toList.flatMap escape ++ ['"'] = t.toList.flatMap escape ++ ['"'] := by
    have hlist := congrArg String.toList h
    rw [toList_quote, toList_quote] at hlist
    exact (List.cons.inj hlist).2
  have hread := congrArg textChars hchars
  rw [textChars_flatMap_escape, textChars_flatMap_escape] at hread
  exact String.toList_inj.mp (by injection hread with h; exact (Prod.mk.inj h).1)

/-! ## Reading -/

/-- The quoted text that characters start with, and what is left after it. -/
def unquote? : List Char → Option (String × List Char)
  | '"' :: cs =>
    match textChars cs with
    | .ok (text, left) => some (String.ofList text, left)
    | .error _ => none
  | _ => none

theorem unquote?_quote (s : String) (left : List Char) :
    unquote? ((quote s).toList ++ left) = some (s, left) := by
  rw [toList_quote, quoteChars, List.cons_append, List.cons_append, List.append_assoc, unquote?]
  simp only [List.singleton_append, textChars_flatMap_escape, String.ofList_toList]

theorem unquote?_of_head?_ne {cs : List Char} (h : cs.head? ≠ some '"') : unquote? cs = none := by
  unfold unquote?
  split
  · simp at h
  · rfl

/-- The quoted text that follows a known start, and what is left after it. -/
def quotedAfter? (start : String) (cs : List Char) : Option (String × List Char) :=
  (cs.dropPrefix? start.toList).bind unquote?

theorem quotedAfter?_append (start s : String) (left : List Char) :
    quotedAfter? start (start.toList ++ ((quote s).toList ++ left)) = some (s, left) := by
  rw [quotedAfter?, List.dropPrefix?_append_of_beq _ (BEq.refl _), Option.bind_some,
    unquote?_quote]

theorem quotedAfter?_of_head?_ne {start : String} {c : Char} {rest cs : List Char}
    (hstart : start.toList = c :: rest) (hcs : cs.head? ≠ some c) : quotedAfter? start cs = none := by
  rw [quotedAfter?, hstart]
  cases cs with
  | nil => rfl
  | cons d ds =>
    have hne : (d == c) = false := beq_eq_false_iff_ne.mpr fun h => hcs (h ▸ rfl)
    rw [List.dropPrefix?, hne]
    rfl

end Text
end RestBindings
