import RestBindings.Text.Blank

/-! # Fragments of code

A **fragment** is generated code before indentation: lines, blank lines, raw text, comments, and
blocks of fragments one level deeper.  A `Writer` turns fragments into text.  It holds the level it
writes at, and every line starts with one unit of indentation for each level; blank lines and raw
text start with none.
-/
namespace RestBindings
namespace Code

/-- One unit of indentation. -/
inductive Indent where
  | spaces (width : Nat)
  | tab
deriving DecidableEq, Repr

/-- Two spaces, as all built-in templates use. -/
def Indent.script : Indent := .spaces 2

/-- The start of a line at a level. -/
def Indent.text (indent : Indent) (level : Nat) : String :=
  match indent with
  | spaces width => String.ofList (List.replicate (level * width) ' ')
  | tab => String.ofList (List.replicate level '\t')

/-- Generated code before indentation. -/
inductive Fragment where
  /-- A line. -/
  | line (s : String)
  /-- A line with nothing on it, not even indentation. -/
  | blank
  /-- Text as it is, without a line feed. -/
  | raw (s : String)
  /-- A line, fragments one level deeper, and a closing line if there is one. -/
  | block (header : String) (body : List Fragment) (close : Option String)
  /-- Fragments one level deeper. -/
  | indented (body : List Fragment)
  /-- Fragments one after the other. -/
  | sequence (body : List Fragment)
  /-- A documentation comment. -/
  | doc (text : String)
deriving Repr, Inhabited

/-- A line for every line of code, blank if there is nothing on it. -/
def Fragment.ofLines (lines : List String) : List Fragment :=
  lines.map fun l => if l.isEmpty then .blank else .line l

/-- Code given as text, line by line. -/
def Fragment.ofText (text : String) : List Fragment := ofLines (Text.lines text)

/-- Text being written. -/
structure Writer where
  indent : Indent
  level : Nat := 0
  buffer : String := ""
deriving DecidableEq, Repr

namespace Writer

variable (w : Writer)

/-- Write text as it is. -/
def raw (s : String) : Writer := { w with buffer := w.buffer ++ s }

/-- Write a line at the current level. -/
def line (s : String) : Writer := w.raw (w.indent.text w.level ++ s ++ "\n")

/-- Write a line with nothing on it. -/
def blank : Writer := w.raw "\n"

/-- Go one level deeper. -/
def deeper : Writer := { w with level := w.level + 1 }

/-- Go back one level, not above the first. -/
def back : Writer := { w with level := w.level - 1 }

/-- A line of a documentation comment over several lines. -/
def docLine (line : String) : String :=
  match Text.trimEnd line.toList with
  | [] => " *"
  | cs => " * " ++ String.ofList cs

/-- Write a documentation comment: text of one line stands between the marks, longer text on lines
of its own. -/
def doc (text : String) : Writer :=
  let lines := Text.lines text
  if lines.length ≤ 1 then
    w.line ("/** " ++ String.ofList (Text.trim text.toList) ++ " */")
  else
    (lines.foldl (fun w l => w.line (docLine l)) (w.line "/**")).line " */"

mutual

/-- Write a fragment. -/
def apply (w : Writer) : Fragment → Writer
  | .line s => w.line s
  | .blank => w.blank
  | .raw s => w.raw s
  | .block header body close =>
    let w := ((w.line header).deeper.applyAll body).back
    match close with
    | some s => w.line s
    | none => w
  | .indented body => (w.deeper.applyAll body).back
  | .sequence body => w.applyAll body
  | .doc text => w.doc text

/-- Write fragments one after the other. -/
def applyAll (w : Writer) : List Fragment → Writer
  | [] => w
  | f :: rest => (w.apply f).applyAll rest

end

@[simp] theorem buffer_raw (s : String) : (w.raw s).buffer = w.buffer ++ s := rfl

@[simp] theorem level_raw (s : String) : (w.raw s).level = w.level := rfl

@[simp] theorem level_line (s : String) : (w.line s).level = w.level := rfl

@[simp] theorem indent_line (s : String) : (w.line s).indent = w.indent := rfl

@[simp] theorem level_back_deeper : w.deeper.back = w := rfl

end Writer

/-- The text of fragments from the first level on. -/
def Fragment.render (indent : Indent) (fragments : List Fragment) : String :=
  ((Writer.mk indent 0 "").applyAll fragments).buffer

end Code
end RestBindings
