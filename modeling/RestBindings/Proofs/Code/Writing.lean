import RestBindings.Code.Declaration

/-! # What a writer writes

A writer only ever appends, and what it appends for a fragment depends on nothing but the unit of
indentation, the level and the fragment.  `Fragment.written` says what that is, without a writer: a
block is its header, its body one level deeper and its closing line.  After a fragment the writer is
at the level it was at before (`Writer.apply_eq_raw`, `Writer.applyAll_eq_raw`), so fragments can be
written apart and joined, and an item at the end of a file leaves what stands before it alone
(`File.render_concat`).
-/
namespace RestBindings
namespace Code

/-- A line at a level, with its end. -/
def Indent.line (indent : Indent) (level : Nat) (s : String) : String :=
  indent.text level ++ s ++ "\n"

/-- The lines of a documentation comment. -/
def docLines (text : String) : List String :=
  if (Text.lines text).length ≤ 1 then
    ["/** " ++ String.ofList (Text.trim text.toList) ++ " */"]
  else
    "/**" :: (Text.lines text).map Writer.docLine ++ [" */"]

mutual

/-- What a fragment is written as at a level. -/
def Fragment.written (indent : Indent) (level : Nat) : Fragment → String
  | .line s => indent.line level s
  | .blank => "\n"
  | .raw s => s
  | .block header body close =>
    indent.line level header ++ writtenAll indent (level + 1) body
      ++ String.join (close.toList.map (indent.line level))
  | .indented body => writtenAll indent (level + 1) body
  | .sequence body => writtenAll indent level body
  | .doc text => String.join ((docLines text).map (indent.line level))

/-- What fragments are written as at a level, one after the other. -/
def Fragment.writtenAll (indent : Indent) (level : Nat) : List Fragment → String
  | [] => ""
  | f :: rest => f.written indent level ++ writtenAll indent level rest

end

namespace Writer

variable (w : Writer)

@[simp] theorem raw_empty : w.raw "" = w := by
  simp [raw]

@[simp] theorem raw_raw (s t : String) : (w.raw s).raw t = w.raw (s ++ t) := by
  simp [raw, String.append_assoc]

@[simp] theorem indent_raw (s : String) : (w.raw s).indent = w.indent := rfl

theorem line_eq_raw (s : String) : w.line s = w.raw (w.indent.line w.level s) := rfl

theorem back_raw_deeper (s : String) : (w.deeper.raw s).back = w.raw s := rfl

theorem foldl_line_eq_raw (lines : List String) :
    lines.foldl Writer.line w = w.raw (String.join (lines.map (w.indent.line w.level))) := by
  induction lines generalizing w with
  | nil => simp
  | cons l rest ih =>
    rw [List.foldl_cons, ih, level_line, indent_line, line_eq_raw, raw_raw, List.map_cons,
      String.join_cons]

theorem doc_eq_raw (text : String) :
    w.doc text = w.raw (String.join ((docLines text).map (w.indent.line w.level))) := by
  rw [← foldl_line_eq_raw, doc, docLines]
  split
  · rfl
  · simp only [List.cons_append, List.foldl_cons, List.foldl_append, List.foldl_map, List.foldl_nil]

mutual

/-- **Writing a fragment appends what it is written as**, and nothing else changes. -/
theorem apply_eq_raw (w : Writer) : (f : Fragment) → w.apply f = w.raw (f.written w.indent w.level)
  | .line _ => rfl
  | .blank => rfl
  | .raw _ => rfl
  | .block header body close => by
    have hbody : ((w.line header).deeper.applyAll body).back = w.raw
        (w.indent.line w.level header ++ Fragment.writtenAll w.indent (w.level + 1) body) := by
      rw [applyAll_eq_raw _ body, back_raw_deeper, line_eq_raw, raw_raw]
      rfl
    cases close with
    | none => simp [apply, hbody, Fragment.written]
    | some s =>
      simp only [apply, hbody]
      rw [line_eq_raw, raw_raw]
      simp [Fragment.written]
  | .indented body => by
    rw [apply, applyAll_eq_raw _ body, back_raw_deeper, Fragment.written]
    rfl
  | .sequence body => by rw [apply, applyAll_eq_raw _ body, Fragment.written]
  | .doc text => by rw [apply, doc_eq_raw, Fragment.written]

theorem applyAll_eq_raw (w : Writer) :
    (fs : List Fragment) → w.applyAll fs = w.raw (Fragment.writtenAll w.indent w.level fs)
  | [] => by rw [applyAll, Fragment.writtenAll, raw_empty]
  | f :: rest => by
    rw [applyAll, apply_eq_raw w f, applyAll_eq_raw _ rest, level_raw, indent_raw, raw_raw,
      Fragment.writtenAll]

end

end Writer

theorem Fragment.writtenAll_append (indent : Indent) (level : Nat) (first rest : List Fragment) :
    writtenAll indent level (first ++ rest) =
      writtenAll indent level first ++ writtenAll indent level rest := by
  induction first with
  | nil => simp [writtenAll]
  | cons f first ih => rw [List.cons_append, writtenAll, ih, writtenAll, String.append_assoc]

theorem Fragment.render_eq_writtenAll (indent : Indent) (fragments : List Fragment) :
    render indent fragments = writtenAll indent 0 fragments := by
  rw [render, Writer.applyAll_eq_raw, Writer.buffer_raw, String.empty_append]

/-! ## Files -/

namespace File

/-- **A file is its items, rendered by themselves and joined by a line feed.** -/
theorem render_eq_intercalate (items : List (List Fragment)) (indent : Indent) :
    (File.mk items).render indent =
      String.intercalate "\n" (items.map (Fragment.render indent)) := by
  induction items with
  | nil => rw [render, joined, Fragment.render_eq_writtenAll, Fragment.writtenAll, List.map_nil,
      String.intercalate_nil]
  | cons item rest ih =>
    cases rest with
    | nil => rw [render, joined, List.map_singleton, String.intercalate_singleton]
    | cons next rest =>
      rw [List.map_cons, String.intercalate_cons_of_ne_nil (by simp), ← ih]
      simp only [render, joined, Fragment.render_eq_writtenAll, Fragment.writtenAll_append,
        Fragment.writtenAll, Fragment.written, String.append_assoc]

/-- **An item at the end of a file** comes after a blank line, and all else stays as it is. -/
theorem render_concat {items : List (List Fragment)} (h : items ≠ []) (item : List Fragment)
    (indent : Indent) :
    (File.mk (items ++ [item])).render indent =
      (File.mk items).render indent ++ "\n" ++ Fragment.render indent item := by
  rw [render_eq_intercalate, render_eq_intercalate, List.map_append,
    String.intercalate_append_of_ne_nil (by simpa using h) (by simp), List.map_singleton,
    String.intercalate_singleton]

end File

/-! ## Fragments by themselves -/

/-- A fragment rendered by itself, by a writer that starts at a level. -/
def Fragment.alone (indent : Indent) (level : Nat) (f : Fragment) : String :=
  ((Writer.mk indent level "").apply f).buffer

theorem Fragment.alone_eq_written (indent : Indent) (level : Nat) (f : Fragment) :
    f.alone indent level = f.written indent level := by
  rw [alone, Writer.apply_eq_raw, Writer.buffer_raw, String.empty_append]

theorem Fragment.writtenAll_eq_join (indent : Indent) (level : Nat) (fs : List Fragment) :
    writtenAll indent level fs = String.join (fs.map (alone indent level)) := by
  induction fs with
  | nil => simp [writtenAll]
  | cons f rest ih => rw [writtenAll, ih, ← alone_eq_written, List.map_cons, String.join_cons]

/-- **Rendering is compositional, and returns to its level.**  Whatever a writer has written, a
fragment adds to it the text that it is rendered as by itself, and the writer is at the level it was
at.  That text is made of those of the parts: a block is its header, its body one level deeper and its
closing line.  So a file is its items, each rendered by itself from the first level on, joined by a
line feed. -/
theorem rendering_composes (indent : Indent) (level : Nat) :
    (∀ buffer f, (Writer.mk indent level buffer).apply f =
      { indent, level, buffer := buffer ++ f.alone indent level }) ∧
    (∀ header body close, (Fragment.block header body close).alone indent level =
      indent.text level ++ header ++ "\n"
        ++ String.join (body.map (Fragment.alone indent (level + 1)))
        ++ (match close with
          | some s => indent.text level ++ s ++ "\n"
          | none => "")) ∧
    (∀ body, (Fragment.indented body).alone indent level =
      String.join (body.map (Fragment.alone indent (level + 1)))) ∧
    (∀ body, (Fragment.sequence body).alone indent level =
      String.join (body.map (Fragment.alone indent level))) ∧
    (∀ fragments, Fragment.render indent fragments =
      String.join (fragments.map (Fragment.alone indent 0))) ∧
    ∀ items, (File.mk items).render indent =
      String.intercalate "\n" (items.map (Fragment.render indent)) := by
  refine ⟨fun buffer f => ?_, fun header body close => ?_, fun body => ?_, fun body => ?_,
    fun fragments => ?_, fun items => File.render_eq_intercalate items indent⟩
  · rw [Writer.apply_eq_raw, Fragment.alone_eq_written]
    rfl
  · rw [Fragment.alone_eq_written, Fragment.written, Fragment.writtenAll_eq_join]
    cases close <;> simp [Indent.line]
  · rw [Fragment.alone_eq_written, Fragment.written, Fragment.writtenAll_eq_join]
  · rw [Fragment.alone_eq_written, Fragment.written, Fragment.writtenAll_eq_join]
  · rw [Fragment.render_eq_writtenAll, Fragment.writtenAll_eq_join]

end Code
end RestBindings
