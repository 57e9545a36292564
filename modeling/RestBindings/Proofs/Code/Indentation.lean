import RestBindings.Proofs.Code.Declared

/-! # Indentation is a uniform shift

What is written one level deeper is the same text with one more unit of indentation at the start of
every line, except that a line with nothing on it stays empty (`shiftLines`).  This needs whole
lines: raw text may start or end within a line, and a line feed in a line makes another one that is
not indented (`IsLine`).  The lines of a documentation comment are whole whatever its text is, since
the text is cut into lines before it is written (`isLine_of_mem_docLines`).

A fragment is gone through once, with what follows it left open (`Shifts`), so that the shifts of its
parts can be put together.
-/
namespace RestBindings
namespace Code

/-! ## Lines and shifts -/

/-- The lines of a text, with an empty one after a line feed at the end. -/
def linesOf (text : List Char) : List (List Char) := Text.splitOn (· == '\n') text

/-- A line with a unit of indentation before it; a line with nothing on it stays empty. -/
def shiftLine (unit line : List Char) : List Char := if line = [] then [] else unit ++ line

/-- **The text with a unit of indentation at the start of every line that is not empty.** -/
def shiftLines (unit text : List Char) : List Char :=
  List.intercalate ['\n'] ((linesOf text).map (shiftLine unit))

/-- A line of code: it has a character, and no line feed. -/
def IsLine (s : String) : Prop := s ≠ "" ∧ '\n' ∉ s.toList

instance (s : String) : Decidable (IsLine s) := inferInstanceAs (Decidable (_ ∧ _))

/-- The first line is shifted, then the rest. -/
theorem shiftLines_append_cons (unit : List Char) {line : List Char} (h : '\n' ∉ line)
    (rest : List Char) :
    shiftLines unit (line ++ '\n' :: rest) = shiftLine unit line ++ '\n' :: shiftLines unit rest := by
  have hlines : linesOf (line ++ '\n' :: rest) = line :: linesOf rest :=
    Text.splitOn_append_cons (Text.beq_eq_false_of_not_mem h) (by decide) rest
  obtain ⟨next, more, hrest⟩ := List.exists_cons_of_ne_nil (Text.splitOn_ne_nil (· == '\n') rest)
  have hrest : linesOf rest = next :: more := hrest
  rw [shiftLines, hlines, shiftLines, hrest, List.map_cons, List.map_cons,
    List.intercalate_cons_cons, List.append_assoc, List.singleton_append]

theorem shiftLine_eq_nil_iff {unit line : List Char} : shiftLine unit line = [] ↔ line = [] := by
  rw [shiftLine]
  split <;> simp [*]

/-- A shift changes no line but by the unit, and makes or joins none. -/
theorem linesOf_shiftLines {unit : List Char} (hunit : '\n' ∉ unit) (text : List Char) :
    linesOf (shiftLines unit text) = (linesOf text).map (shiftLine unit) := by
  refine Text.splitOn_intercalate (by decide) ?_ ?_
  · rw [Ne, List.map_eq_nil_iff]
    exact Text.splitOn_ne_nil _ text
  · rw [List.forall_mem_map]
    intro line hline c hc
    have hkept : c ∈ unit ∨ c ∈ line := by
      rw [shiftLine] at hc
      split at hc
      · cases hc
      · exact List.mem_append.mp hc
    rcases hkept with hc | hc
    · exact Text.beq_eq_false_of_not_mem hunit c hc
    · have hsep := Text.not_sep_of_mem_splitOn hline hc
      exact hsep

/-- **The lines that are empty stay empty**, and no other line becomes empty. -/
theorem getElem?_linesOf_shiftLines_iff {unit : List Char} (hunit : '\n' ∉ unit) (text : List Char)
    (i : Nat) : (linesOf (shiftLines unit text))[i]? = some [] ↔ (linesOf text)[i]? = some [] := by
  rw [linesOf_shiftLines hunit, List.getElem?_map, Option.map_eq_some_iff]
  constructor
  · rintro ⟨line, hline, hempty⟩
    rw [hline, shiftLine_eq_nil_iff.mp hempty]
  · intro h
    exact ⟨[], h, rfl⟩

/-! ## Indentation -/

namespace Indent

variable (indent : Indent)

theorem text_succ (level : Nat) : indent.text (level + 1) = indent.text 1 ++ indent.text level := by
  cases indent with
  | spaces width =>
    rw [text, text, text, ← String.ofList_append, List.replicate_append_replicate, ← Nat.add_mul,
      Nat.add_comm]
  | tab =>
    rw [text, text, text, ← String.ofList_append, List.replicate_append_replicate, Nat.add_comm]

theorem not_mem_text (level : Nat) : '\n' ∉ (indent.text level).toList := by
  cases indent with
  | spaces width => simp [text]
  | tab => simp [text]

end Indent

/-! ## What is written one level deeper -/

/-- The first text, whatever comes after it, shifts to the second. -/
def Shifts (unit text text' : List Char) : Prop :=
  ∀ rest, shiftLines unit (text ++ rest) = text' ++ shiftLines unit rest

section Shifts

variable {unit : List Char}

theorem shifts_nil : Shifts unit [] [] := fun _ => rfl

theorem Shifts.append {first rest first' rest' : List Char} (h : Shifts unit first first')
    (h' : Shifts unit rest rest') : Shifts unit (first ++ rest) (first' ++ rest') := by
  intro more
  rw [List.append_assoc, h, h', List.append_assoc]

/-- A line with nothing on it stays as it is. -/
theorem shifts_blank : Shifts unit "\n".toList "\n".toList := fun rest =>
  shiftLines_append_cons unit List.not_mem_nil rest

theorem Shifts.eq_shiftLines {text text' : List Char} (h : Shifts unit text text') :
    text' = shiftLines unit text := by
  have hend := h []
  rw [List.append_nil] at hend
  rw [hend]
  exact (List.append_nil text').symm

end Shifts

section Written

open Fragment

variable (indent : Indent)

/-- A line is shifted by one unit. -/
theorem shifts_line (level : Nat) {s : String} (h : IsLine s) :
    Shifts (indent.text 1).toList (indent.line level s).toList
      (indent.line (level + 1) s).toList := by
  have hfeed : '\n' ∉ (indent.text level).toList ++ s.toList := by
    rw [List.mem_append, not_or]
    exact ⟨indent.not_mem_text level, h.2⟩
  have hne : (indent.text level).toList ++ s.toList ≠ [] := by
    intro hnil
    exact h.1 (String.toList_eq_nil_iff.mp (List.append_eq_nil_iff.mp hnil).2)
  intro rest
  have hline : (indent.line level s).toList ++ rest =
      ((indent.text level).toList ++ s.toList) ++ '\n' :: rest := by
    simp [Indent.line]
  have hdeeper : (indent.line (level + 1) s).toList =
      (indent.text 1).toList ++ ((indent.text level).toList ++ s.toList) ++ ['\n'] := by
    simp [Indent.line, indent.text_succ level]
  rw [hline, shiftLines_append_cons _ hfeed, shiftLine, if_neg hne, hdeeper]
  simp only [List.append_assoc, List.singleton_append]

theorem shifts_lines (level : Nat) {lines : List String} (h : ∀ l ∈ lines, IsLine l) :
    Shifts (indent.text 1).toList (String.join (lines.map (indent.line level))).toList
      (String.join (lines.map (indent.line (level + 1)))).toList := by
  induction lines with
  | nil => exact shifts_nil
  | cons l rest ih =>
    rw [List.forall_mem_cons] at h
    simp only [List.map_cons, String.join_cons, String.toList_append]
    exact (shifts_line indent level h.1).append (ih h.2)

/-- The lines of a documentation comment are whole lines, whatever its text is. -/
theorem isLine_of_mem_docLines (text : String) : ∀ l ∈ docLines text, IsLine l := by
  have hne : ∀ l ∈ docLines text, l ≠ "" := by
    have hline (l : String) : Writer.docLine l ≠ "" := by
      rw [Writer.docLine]
      split <;> simp
    rw [docLines]
    split
    · simp
    · simp only [List.cons_append, List.forall_mem_cons, List.forall_mem_append, List.forall_mem_map]
      exact ⟨by decide, fun l _ => hline l, by decide, List.forall_mem_nil _⟩
  exact fun l hl => ⟨hne l hl, not_mem_docLines text l hl⟩

mutual

/-- **A fragment without raw text, whose lines are whole, is shifted by one unit.** -/
theorem shifts_written (level : Nat) : (f : Fragment) → (∀ t ∈ f.texts, IsLine t) →
    f.hasRaw = false → Shifts (indent.text 1).toList (f.written indent level).toList
      (f.written indent (level + 1)).toList
  | .line s, h, _ => shifts_line indent level (h s (by simp [texts]))
  | .blank, _, _ => shifts_blank
  | .raw _, _, hraw => by cases hraw
  | .block header body close, h, hraw => by
    simp only [texts, List.mem_append, List.mem_cons, or_imp, forall_and, forall_eq] at h
    have hheader := shifts_line indent level h.1.1
    have hbody := shifts_writtenAll (level + 1) body h.1.2 hraw
    have hclose := shifts_lines indent level h.2
    simp only [written, String.toList_append]
    exact (hheader.append hbody).append hclose
  | .indented body, h, hraw => shifts_writtenAll (level + 1) body h hraw
  | .sequence body, h, hraw => shifts_writtenAll level body h hraw
  | .doc text, _, _ => shifts_lines indent level (isLine_of_mem_docLines text)

theorem shifts_writtenAll (level : Nat) : (fs : List Fragment) → (∀ t ∈ textsAll fs, IsLine t) →
    hasRawAll fs = false → Shifts (indent.text 1).toList (writtenAll indent level fs).toList
      (writtenAll indent (level + 1) fs).toList
  | [], _, _ => shifts_nil
  | f :: rest, h, hraw => by
    rw [hasRawAll, Bool.or_eq_false_iff] at hraw
    simp only [textsAll, List.mem_append, or_imp, forall_and] at h
    simp only [writtenAll, String.toList_append]
    exact (shifts_written level f h.1 hraw.1).append (shifts_writtenAll level rest h.2 hraw.2)

end

end Written

/-- **Indentation is a uniform shift.**  For every unit of indentation, a fragment without raw text,
whose lines and what opens and closes its blocks have characters and no line feeds, is written one
level deeper as the same text with one unit at the start of every line that is not empty.  A line that
is empty at some level is empty at every level. -/
theorem indentation_is_uniform (indent : Indent) {f : Fragment} (hraw : f.hasRaw = false)
    (htexts : ∀ t ∈ f.texts, IsLine t) (level : Nat) :
    (f.alone indent (level + 1)).toList =
      shiftLines (indent.text 1).toList (f.alone indent level).toList ∧
    ∀ i : Nat, (linesOf (f.alone indent level).toList)[i]? = some [] ↔
      (linesOf (f.alone indent 0).toList)[i]? = some [] := by
  have hshift (level : Nat) : (f.alone indent (level + 1)).toList =
      shiftLines (indent.text 1).toList (f.alone indent level).toList := by
    rw [Fragment.alone_eq_written, Fragment.alone_eq_written]
    exact (shifts_written indent level f htexts hraw).eq_shiftLines
  refine ⟨hshift level, fun i => ?_⟩
  induction level with
  | zero => rfl
  | succ level ih => rw [hshift level, getElem?_linesOf_shiftLines_iff (indent.not_mem_text 1), ih]

/-- A block with a comment over several lines and a blank line in it. -/
def listing : Fragment :=
  .block "const limits = \x7b"
    [.doc "Limits.\n\n- of time", .line "time: 1,", .blank, .indented [.line "// none of space"]]
    (some "\x7d;")

theorem listing_is_shifted :
    listing.hasRaw = false ∧ (∀ t ∈ listing.texts, IsLine t) ∧
    (listing.alone .tab 1).toList = shiftLines ['\t'] (listing.alone .tab 0).toList ∧
    (listing.alone .tab 1) =
      "\tconst limits = \x7b\n\t\t/**\n\t\t * Limits.\n\t\t *\n\t\t * - of time\n\t\t */\n"
        ++ "\t\ttime: 1,\n\n\t\t\t// none of space\n\t\x7d;\n" := by
  have hraw : listing.hasRaw = false := rfl
  have htexts : ∀ t ∈ listing.texts, IsLine t := by decide
  exact ⟨hraw, htexts, (indentation_is_uniform .tab hraw htexts 0).1, by decide +kernel⟩

end Code
end RestBindings
