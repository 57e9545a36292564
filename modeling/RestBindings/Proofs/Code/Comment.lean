import RestBindings.Proofs.Code.Writing
import RestBindings.Proofs.Text.Occurrence

/-! # Where a documentation comment ends

A documentation comment ends at the first `*/` after it was opened, wherever that comes from.  The
writer opens the comment after the indentation, ends it with its own `*/` and a newline, and writes
the text in between without looking for one.  The white space it trims and the marks and indentation
it puts before lines make no `*/` and hide none, so the comment ends where the writer ends it exactly
when the text has no `*/` (`doc_isOneComment_iff`).  All else of the text is code: a model can have
such a name (`doc_ends_early`).
-/
namespace RestBindings
namespace Code

open Text

/-- The mark that ends a comment. -/
def commentEnd : List Char := ['*', '/']

/-- The characters of exactly one documentation comment, with the end of its last line. -/
structure IsOneComment (cs : List Char) : Prop where
  /-- It opens at the start. -/
  opens : "/**".toList <+: cs
  /-- It ends at the end of the last line. -/
  ends : commentEnd ++ ['\n'] <:+ cs
  /-- It does not end before that. -/
  ends_once : ∀ before after, cs = before ++ commentEnd ++ after → after = ['\n']

theorem commentEnd_ne_nil : commentEnd ≠ [] := List.cons_ne_nil _ _

theorem isBlank_of_mem_commentEnd : ∀ c ∈ commentEnd, isBlank c = false := by
  rw [commentEnd, List.forall_mem_cons, List.forall_mem_singleton]
  exact ⟨by decide, by decide⟩

/-- A comment that is opened and closed by its writer is one comment, if what stands between has no
mark that ends it. -/
theorem isOneComment_iff {front : List Char} (hopens : "/**".toList <+: front) :
    IsOneComment (front ++ " */\n".toList) ↔ ¬ commentEnd <:+: front := by
  constructor
  · rintro h ⟨before, after, rfl⟩
    have hafter : after ++ " */\n".toList = ['\n'] :=
      h.ends_once before _ (by rw [List.append_assoc _ after])
    have hlength := congrArg List.length hafter
    simp at hlength
  · intro hno
    refine ⟨hopens.trans (List.prefix_append _ _), ⟨front ++ [' '], by simp [commentEnd]⟩,
      fun before after heq => ?_⟩
    have hends : " */\n".toList = [' ', '*', '/', '\n'] := rfl
    rw [hends, List.append_assoc, List.append_eq_append_iff] at heq
    obtain ⟨more, -, heq⟩ | ⟨more, rfl, heq⟩ := heq
    · -- the mark comes after what stands between, and can only be that of the writer
      rcases more with _ | ⟨c, _ | ⟨d, more⟩⟩
      · simp [commentEnd] at heq
      · simp only [commentEnd, List.cons_append, List.nil_append, List.cons.injEq] at heq
        exact heq.2.2.2.symm
      · have hmem : '*' ∈ ['/', '\n'] := by
          simp only [List.cons_append, List.cons.injEq] at heq
          rw [heq.2.2]
          exact List.mem_append_right _ List.mem_cons_self
        exact absurd hmem (by decide)
    · -- the mark starts in what stands between, and is all in it
      rcases more with _ | ⟨c, _ | ⟨d, more⟩⟩
      · simp [commentEnd] at heq
      · simp [commentEnd] at heq
      · simp only [commentEnd, List.cons_append, List.nil_append, List.cons.injEq] at heq
        obtain ⟨rfl, rfl, -⟩ := heq
        exact absurd ⟨before, more, by simp [commentEnd]⟩ hno

/-! ## What the writer puts around a text -/

theorem not_mem_commentEnd_of_mem_text (indent : Indent) (level : Nat) :
    ∀ c ∈ (indent.text level).toList, c ∉ commentEnd := by
  intro c hc
  cases indent with
  | spaces width =>
    rw [Indent.text, String.toList_ofList] at hc
    rw [List.eq_of_mem_replicate hc]
    decide
  | tab =>
    rw [Indent.text, String.toList_ofList] at hc
    rw [List.eq_of_mem_replicate hc]
    decide

/-- The white space and the mark of a line make no end of a comment. -/
theorem infix_docLine_iff (line : String) :
    commentEnd <:+: (Writer.docLine line).toList ↔ commentEnd <:+: line.toList := by
  rw [← infix_trimEnd_iff commentEnd_ne_nil isBlank_of_mem_commentEnd line.toList, Writer.docLine]
  cases trimEnd line.toList with
  | nil => decide
  | cons c cs =>
    have hchars : (" * " ++ String.ofList (c :: cs)).toList = [' ', '*'] ++ ' ' :: c :: cs := by
      simp
    have hno : ¬ commentEnd <:+: [' ', '*'] := by decide
    rw [hchars, infix_append_cons_iff (by decide), or_iff_right hno]

/-- Neither do indentation and the ends of lines. -/
theorem infix_join_line_iff (indent : Indent) (level : Nat) (lines : List String) :
    commentEnd <:+: (String.join (lines.map (indent.line level))).toList ↔
      ∃ l ∈ lines, commentEnd <:+: l.toList := by
  induction lines with
  | nil => simp [commentEnd_ne_nil]
  | cons l rest ih =>
    have hchars : (String.join ((l :: rest).map (indent.line level))).toList =
        (indent.text level).toList ++
          (l.toList ++ '\n' :: (String.join (rest.map (indent.line level))).toList) := by
      simp [Indent.line]
    rw [hchars, infix_append_left_iff commentEnd_ne_nil (not_mem_commentEnd_of_mem_text _ _),
      infix_append_cons_iff (by decide), ih, List.exists_mem_cons_iff]

/-! ## Comments -/

/-- What is written of a comment after its indentation, up to the closing mark of the writer. -/
def docFront (indent : Indent) (level : Nat) (text : String) : String :=
  if (lines text).length ≤ 1 then
    "/** " ++ String.ofList (trim text.toList)
  else
    "/**\n" ++ String.join (((lines text).map Writer.docLine).map (indent.line level))
      ++ indent.text level

theorem join_docLines (indent : Indent) (level : Nat) (text : String) :
    String.join ((docLines text).map (indent.line level)) =
      indent.text level ++ (docFront indent level text ++ " */\n") := by
  have hshort : " */" ++ "\n" = " */\n" := rfl
  have hopen : "/**" ++ "\n" = "/**\n" := rfl
  rw [docLines, docFront]
  split
  · simp [Indent.line, String.append_assoc, hshort]
  · simp [Indent.line, String.append_assoc, hshort, ← hopen]

theorem opens_docFront (indent : Indent) (level : Nat) (text : String) :
    "/**".toList <+: (docFront indent level text).toList := by
  rw [docFront]
  split
  · rw [String.toList_append]
    exact List.IsPrefix.trans (by decide) (List.prefix_append _ _)
  · rw [String.append_assoc, String.toList_append]
    exact List.IsPrefix.trans (by decide) (List.prefix_append _ _)

/-- Only the text can bring an end of the comment. -/
theorem infix_docFront_iff (indent : Indent) (level : Nat) (text : String) :
    commentEnd <:+: (docFront indent level text).toList ↔ commentEnd <:+: text.toList := by
  have hno : ¬ commentEnd <:+: ['/', '*', '*'] := by decide
  rw [docFront]
  split
  · have hchars : ("/** " ++ String.ofList (trim text.toList)).toList =
        ['/', '*', '*'] ++ ' ' :: trim text.toList := by simp
    rw [hchars, infix_append_cons_iff (by decide), or_iff_right hno,
      infix_trim_iff commentEnd_ne_nil isBlank_of_mem_commentEnd]
  · have hchars (s t : String) : ("/**\n" ++ s ++ t).toList =
        ['/', '*', '*'] ++ '\n' :: (s.toList ++ t.toList) := by simp
    rw [hchars, infix_append_cons_iff (by decide), or_iff_right hno,
      infix_append_right_iff commentEnd_ne_nil (not_mem_commentEnd_of_mem_text _ _),
      infix_join_line_iff, infix_iff_exists_line commentEnd_ne_nil (by decide) (by decide)]
    simp only [List.mem_map, exists_exists_and_eq_and, infix_docLine_iff]

/-- **Where a comment ends.**  Whatever a writer has written and wherever it stands, it writes the
indentation and then a comment that it opens and ends.  This is exactly one comment just when the
text has no end of a comment in it. -/
theorem doc_isOneComment_iff (w : Writer) (text : String) :
    ∃ comment : String, w.doc text = w.raw (w.indent.text w.level ++ comment) ∧
      "/**".toList <+: comment.toList ∧ commentEnd ++ ['\n'] <:+ comment.toList ∧
      (IsOneComment comment.toList ↔ ¬ commentEnd <:+: text.toList) := by
  have hopens := opens_docFront w.indent w.level text
  refine ⟨docFront w.indent w.level text ++ " */\n", ?_, ?_, ?_, ?_⟩
  · rw [Writer.doc_eq_raw, join_docLines]
  · rw [String.toList_append]
    exact hopens.trans (List.prefix_append _ _)
  · rw [String.toList_append]
    exact List.IsSuffix.trans (by decide) (List.suffix_append _ _)
  · rw [String.toList_append, isOneComment_iff hopens, infix_docFront_iff]

/-- A model can be named so that the comment on its client ends within the name. -/
theorem doc_ends_early :
    ((Writer.mk .script 0 "").doc "Either*/Or").buffer = "/** Either*/Or */\n" ∧
      ¬ IsOneComment "/** Either*/Or */\n".toList := by
  refine ⟨by decide, fun h => ?_⟩
  have hafter := h.ends_once "/** Either".toList "Or */\n".toList (by decide)
  exact absurd hafter (by decide)

end Code
end RestBindings
