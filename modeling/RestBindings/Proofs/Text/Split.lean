import Mathlib.Data.List.Basic
import RestBindings.Text.Split

/-! # Pieces between separators

No piece of a text holds a separator.  What holds none and stands in front of a text belongs to its
first piece (`splitOn_append`), so it is a piece by itself if a separator or nothing follows.
-/
namespace RestBindings
namespace Text

/-- What does not hold a character has no separators where that character is the separator. -/
theorem beq_eq_false_of_not_mem {c : Char} {cs : List Char} (h : c ∉ cs) :
    ∀ d ∈ cs, (d == c) = false :=
  fun _ hd => beq_eq_false_iff_ne.mpr fun heq => h (heq ▸ hd)

/-- The pieces hold all characters but separators. -/
theorem mem_splitOn_iff {sep : Char → Bool} {cs : List Char} {c : Char} :
    (∃ piece ∈ splitOn sep cs, c ∈ piece) ↔ c ∈ cs ∧ sep c = false := by
  rw [← List.mem_flatten, flatten_splitOn, List.mem_filter, Bool.not_eq_true']

theorem not_sep_of_mem_splitOn {sep : Char → Bool} {cs piece : List Char} {c : Char}
    (hpiece : piece ∈ splitOn sep cs) (hc : c ∈ piece) : sep c = false :=
  (mem_splitOn_iff.mp ⟨piece, hpiece, hc⟩).2

/-- There is at most one piece more than there are characters. -/
theorem length_splitOn_le (sep : Char → Bool) (cs : List Char) :
    (splitOn sep cs).length ≤ cs.length + 1 := by
  induction cs with
  | nil => simp
  | cons c rest ih =>
    obtain ⟨piece, pieces, hrest⟩ := List.exists_cons_of_ne_nil (splitOn_ne_nil sep rest)
    rw [hrest, List.length_cons] at ih
    rw [splitOn, hrest]
    split <;> simp <;> omega

/-- What has no separators goes in front of the first piece. -/
theorem splitOn_append {sep : Char → Bool} {first : List Char} (h : ∀ c ∈ first, sep c = false)
    {cs piece : List Char} {pieces : List (List Char)} (hcs : splitOn sep cs = piece :: pieces) :
    splitOn sep (first ++ cs) = (first ++ piece) :: pieces := by
  induction first with
  | nil => exact hcs
  | cons c first ih =>
    rw [List.forall_mem_cons] at h
    rw [List.cons_append, splitOn, ih h.2]
    simp [h.1]

/-- A text without separators is one piece. -/
theorem splitOn_of_forall_not_sep {sep : Char → Bool} {cs : List Char}
    (h : ∀ c ∈ cs, sep c = false) : splitOn sep cs = [cs] := by
  simpa using splitOn_append h (splitOn_nil sep)

/-- A piece ends at the first separator. -/
theorem splitOn_append_cons {sep : Char → Bool} {first : List Char} (h : ∀ c ∈ first, sep c = false)
    {c : Char} (hc : sep c = true) (rest : List Char) :
    splitOn sep (first ++ c :: rest) = first :: splitOn sep rest := by
  have hrest : splitOn sep (c :: rest) = [] :: splitOn sep rest := by simp [splitOn, hc]
  simpa using splitOn_append h hrest

/-- Pieces that are joined by a separator are the pieces of the text. -/
theorem splitOn_intercalate {sep : Char → Bool} {c : Char} (hc : sep c = true)
    {pieces : List (List Char)} (hne : pieces ≠ []) (h : ∀ p ∈ pieces, ∀ d ∈ p, sep d = false) :
    splitOn sep (List.intercalate [c] pieces) = pieces := by
  induction pieces with
  | nil => exact absurd rfl hne
  | cons p rest ih =>
    rw [List.forall_mem_cons] at h
    cases rest with
    | nil => rw [List.intercalate_singleton, splitOn_of_forall_not_sep h.1]
    | cons q rest =>
      rw [List.intercalate_cons_cons, List.append_assoc, List.singleton_append,
        splitOn_append_cons h.1 hc, ih (List.cons_ne_nil q rest) h.2]

end Text
end RestBindings
