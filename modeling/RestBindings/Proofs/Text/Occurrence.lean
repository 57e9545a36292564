import Mathlib.Data.List.Infix
import RestBindings.Text.Blank

/-! # Where a mark occurs

A **mark** is a short sequence of characters to look for in a text, such as the end of a comment.
What is put around the text does not hide or make occurrences of a mark, as long as it has none of
the characters of the mark: a separator (`infix_append_cons_iff`), padding on either side, white
space that is trimmed.  Nor does cutting a text into its lines, if the mark stays on one line
(`infix_iff_exists_line`).
-/
namespace RestBindings
namespace Text

section Mark

variable {α : Type} {mark first rest pad cs : List α} {c : α}

theorem eq_nil_of_prefix_cons (h : c ∉ mark) (hstart : mark <+: c :: cs) : mark = [] := by
  obtain ⟨after, heq⟩ := hstart
  cases mark with
  | nil => rfl
  | cons a mark =>
    cases heq
    exact absurd List.mem_cons_self h

/-- A mark does not reach over a character that it does not have. -/
theorem infix_append_cons_iff (h : c ∉ mark) :
    mark <:+: first ++ c :: rest ↔ mark <:+: first ∨ mark <:+: rest := by
  constructor
  · intro hinfix
    obtain hfirst | hrest | ⟨before, after, rfl, hbefore, hafter⟩ :=
      List.infix_append_iff.mp hinfix
    · exact .inl hfirst
    · obtain hstart | hrest := List.infix_cons_iff.mp hrest
      · exact .inl (eq_nil_of_prefix_cons h hstart ▸ List.nil_infix)
      · exact .inr hrest
    · have hnil : after = [] :=
        eq_nil_of_prefix_cons (fun hc => h (List.mem_append_right _ hc)) hafter
      rw [hnil, List.append_nil]
      exact .inl hbefore.isInfix
  · rintro (hfirst | hrest)
    · exact hfirst.trans (List.prefix_append _ _).isInfix
    · exact hrest.trans (((List.suffix_cons c rest).trans (List.suffix_append _ _)).isInfix)

variable (hmark : mark ≠ [])
include hmark

theorem infix_cons_iff_of_not_mem (h : c ∉ mark) : mark <:+: c :: cs ↔ mark <:+: cs := by
  have hsplit : mark <:+: [] ++ c :: cs ↔ mark <:+: [] ∨ mark <:+: cs := infix_append_cons_iff h
  simpa [hmark] using hsplit

/-- Padding before a text, with none of the characters of the mark. -/
theorem infix_append_left_iff (hpad : ∀ c ∈ pad, c ∉ mark) :
    mark <:+: pad ++ cs ↔ mark <:+: cs := by
  induction pad with
  | nil => rfl
  | cons c pad ih =>
    rw [List.forall_mem_cons] at hpad
    rw [List.cons_append, infix_cons_iff_of_not_mem hmark hpad.1, ih hpad.2]

/-- Padding after a text, with none of the characters of the mark. -/
theorem infix_append_right_iff (hpad : ∀ c ∈ pad, c ∉ mark) :
    mark <:+: cs ++ pad ↔ mark <:+: cs := by
  cases pad with
  | nil => rw [List.append_nil]
  | cons c pad =>
    rw [List.forall_mem_cons] at hpad
    have hno : ¬ mark <:+: pad := by
      rw [← List.append_nil pad, infix_append_left_iff hmark hpad.2, List.infix_nil]
      exact hmark
    rw [infix_append_cons_iff hpad.1, or_iff_left hno]

end Mark

/-! ## Trimming -/

section Trimming

variable {mark : List Char} (hmark : mark ≠ []) (hblank : ∀ c ∈ mark, isBlank c = false)
include hblank

theorem not_mem_of_mem_takeWhile (cs : List Char) : ∀ c ∈ cs.takeWhile isBlank, c ∉ mark := by
  intro c hc hmem
  have hc : isBlank c = true := List.all_eq_true.mp List.all_takeWhile c hc
  rw [hblank c hmem] at hc
  cases hc

include hmark

theorem infix_trimEnd_iff (cs : List Char) : mark <:+: trimEnd cs ↔ mark <:+: cs := by
  have hsplit : cs = trimEnd cs ++ (cs.reverse.takeWhile isBlank).reverse := by
    rw [trimEnd, ← List.reverse_append, List.takeWhile_append_dropWhile, List.reverse_reverse]
  have hpad : ∀ c ∈ (cs.reverse.takeWhile isBlank).reverse, c ∉ mark := fun c hc =>
    not_mem_of_mem_takeWhile hblank cs.reverse c (List.mem_reverse.mp hc)
  conv_rhs => rw [hsplit]
  rw [infix_append_right_iff hmark hpad]

theorem infix_trim_iff (cs : List Char) : mark <:+: trim cs ↔ mark <:+: cs := by
  have hsplit : cs = cs.takeWhile isBlank ++ cs.dropWhile isBlank :=
    List.takeWhile_append_dropWhile.symm
  conv_rhs => rw [hsplit]
  rw [trim, infix_trimEnd_iff hmark hblank,
    infix_append_left_iff hmark (not_mem_of_mem_takeWhile hblank cs)]

end Trimming

/-! ## Lines -/

section Lines

variable {mark : List Char} (hmark : mark ≠ []) (hfeed : '\n' ∉ mark) (hreturn : '\r' ∉ mark)
include hmark hreturn

theorem infix_dropReturn_iff (line : List Char) : mark <:+: dropReturn line ↔ mark <:+: line := by
  rw [dropReturn]
  split
  next hlast =>
    obtain ⟨before, rfl⟩ := List.getLast?_eq_some_iff.mp hlast
    have hpad : ∀ c ∈ ['\r'], c ∉ mark := List.forall_mem_singleton.mpr hreturn
    rw [List.dropLast_concat, infix_append_right_iff hmark hpad]
  next => rfl

include hfeed

theorem exists_linesFrom_infix_iff (line cs : List Char) :
    (∃ l ∈ linesFrom line cs, mark <:+: l) ↔ mark <:+: line.reverse ++ cs := by
  -- a line feed ends the line so far, and any other character goes on with it
  induction line, cs using linesFrom.induct with
  | case1 line hempty =>
    rw [linesFrom, if_pos hempty, List.isEmpty_iff.mp hempty]
    simp [hmark]
  | case2 line hne => simp [linesFrom, hne]
  | case3 line rest ih =>
    rw [linesFrom, List.exists_mem_cons_iff, infix_dropReturn_iff hmark hreturn, ih,
      infix_append_cons_iff hfeed, List.reverse_nil, List.nil_append]
  | case4 line c rest hc ih =>
    rw [linesFrom, ih, List.reverse_cons, List.append_assoc, List.singleton_append]
    exact hc

/-- **A mark that stays on one line** occurs in a text exactly when it occurs in a line of it. -/
theorem infix_iff_exists_line (text : String) :
    mark <:+: text.toList ↔ ∃ l ∈ lines text, mark <:+: l.toList := by
  have hlines := exists_linesFrom_infix_iff hmark hfeed hreturn [] text.toList
  rw [List.reverse_nil, List.nil_append] at hlines
  rw [← hlines, lines]
  simp only [List.mem_map, exists_exists_and_eq_and, String.toList_ofList]

end Lines
end Text
end RestBindings
