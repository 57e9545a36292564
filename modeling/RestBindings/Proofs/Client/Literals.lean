import RestBindings.Proofs.Client.Readings
import RestBindings.Proofs.Json.Reading

/-! # Literals and keys

A backslash in a literal escapes the character after it.  What remains without such pairs is bare
(`bare`), and a literal must hold no bare quote, where it would end, and no bare backslash, which
would escape nothing.  Quoting leaves no such mark bare, character by character
(`NoBareMark.escape_append`), so what it writes is a literal of the text (`IsLiteralOf`): in quotes,
without control characters, and read as the text.

The key of a property is bare if it is an identifier, and quoted if not.  No identifier starts with a
quote, so the two never meet, and different keys are written differently
(`quoting_is_reversible`).
-/
namespace RestBindings
namespace Text

/-! ## Bare characters -/

/-- What remains of a text without every backslash and the character that it escapes. -/
def bare : List Char → List Char
  | [] => []
  | [c] => [c]
  | c :: d :: rest => if c = '\\' then bare rest else c :: bare (d :: rest)

theorem bare_cons {c : Char} (h : c ≠ '\\') (rest : List Char) : bare (c :: rest) = c :: bare rest := by
  cases rest with
  | nil => rfl
  | cons d rest => rw [bare, if_neg h]

/-- No quote and no backslash of a text is bare. -/
def NoBareMark (cs : List Char) : Prop := '"' ∉ bare cs ∧ '\\' ∉ bare cs

theorem noBareMark_nil : NoBareMark [] := ⟨List.not_mem_nil, List.not_mem_nil⟩

theorem NoBareMark.escaped {cs : List Char} (h : NoBareMark cs) (c : Char) :
    NoBareMark ('\\' :: c :: cs) := by
  rwa [NoBareMark, bare, if_pos rfl]

theorem NoBareMark.cons {cs : List Char} (h : NoBareMark cs) {c : Char} (hquote : c ≠ '"')
    (hslash : c ≠ '\\') : NoBareMark (c :: cs) := by
  rw [NoBareMark, bare_cons hslash, List.mem_cons, List.mem_cons, not_or, not_or]
  exact ⟨⟨hquote.symm, h.1⟩, ⟨hslash.symm, h.2⟩⟩

/-- **Escaping leaves no mark bare**, whatever it stands before. -/
theorem NoBareMark.escape_append {cs : List Char} (h : NoBareMark cs) (c : Char) :
    NoBareMark (escape c ++ cs) := by
  obtain ⟨e, -, -, heq⟩ | ⟨hcontrol, heq⟩ | ⟨hquote, hslash, -, heq⟩ := escape_cases c
  · rw [heq]
    exact h.escaped e
  · obtain ⟨hquote, hslash, -⟩ := hexDigit_spec (c.toNat % 16) (by omega)
    obtain ⟨hquote', hslash', -⟩ := hexDigit_spec (c.toNat / 16) (by omega)
    have hdigits := (h.cons hquote hslash).cons hquote' hslash'
    have hzeros := (hdigits.cons (c := '0') (by decide) (by decide)).cons (c := '0') (by decide)
      (by decide)
    rw [heq]
    exact hzeros.escaped 'u'
  · rw [heq]
    exact h.cons hquote hslash

theorem noBareMark_flatMap_escape (cs : List Char) : NoBareMark (cs.flatMap escape) := by
  induction cs with
  | nil => exact noBareMark_nil
  | cons c rest ih =>
    rw [List.flatMap_cons]
    exact ih.escape_append c

/-! ## Literals -/

/-- The text is a quoted literal of `s`. -/
structure IsLiteralOf (s text : String) : Prop where
  /-- It stands in double quotes, between which no quote or backslash is bare. -/
  quoted : ∃ inside, text.toList = '"' :: inside ++ ['"'] ∧ NoBareMark inside
  /-- It has no control characters. -/
  not_control : ∀ c ∈ text.toList, 0x20 ≤ c.toNat
  /-- It is read as `s`. -/
  read : Json.Reader.run Json.Reader.text text = .ok s

/-- **Quoting a text writes a literal of it.** -/
theorem isLiteralOf_quote (s : String) : IsLiteralOf s (quote s) where
  quoted := ⟨s.toList.flatMap escape, toList_quote s, noBareMark_flatMap_escape s.toList⟩
  not_control c hc := by
    rw [toList_quote] at hc
    exact not_control_of_mem_quoteChars hc
  read := by
    have hreads := Json.Reader.reads_text Json.spaces_nil s
    rw [List.nil_append, ← toList_quote] at hreads
    exact Json.Reader.run_of_reads hreads

/-- A text that looks like an escape is told apart from the character the escape stands for. -/
example : quote "\\n" = "\"\\\\n\"" ∧ quote "\n" = "\"\\n\"" := by decide +kernel

end Text

namespace Client
namespace Fetch

/-- **Quoting is reversible and keys stay apart.**  What is written for a text is a literal of it, so
different texts are quoted differently, and different keys are written differently, whether they are
quoted or bare. -/
theorem quoting_is_reversible :
    (∀ s : String, Text.IsLiteralOf s (Text.quote s)) ∧
    Function.Injective Text.quote ∧
    ∀ key key' : String, propertyKey key = propertyKey key' ↔ key = key' :=
  ⟨Text.isLiteralOf_quote, Text.quote_injective, fun _ _ => propertyKey_injective.eq_iff⟩

end Fetch
end Client
end RestBindings
