import RestBindings.Json.Fault

/-! # Reading from the characters that are left

A **reader** takes the characters that are left of a text and gives a result with the characters
that are left after it, or the fault that stops it.  The text is read once from the front, so the
first fault is the one that is reported.  Blanks are skipped only where the grammar allows them:
`peek` skips them and shows the next character without taking it.
-/
namespace RestBindings
namespace Json

/-- A reader of an `α` from the characters that are left. -/
abbrev Reader (α : Type) := StateT (List Char) (Except Fault) α

namespace Reader

/-- Stop at a misspelling, after looking at `looked` more bytes than were taken. -/
def stop (cause : Misspelling) (looked : Nat) : Reader α := fun left =>
  .error (.misspelled cause (byteCount left - looked))

/-- Stop at a mismatch. -/
def reject (cause : Mismatch) : Reader α := fun _ => .error (.mismatched cause)

/-- The characters that JSON allows between its parts. -/
def isSpace (c : Char) : Bool := c == ' ' || c == '\n' || c == '\t' || c == '\r'

/-- Skip blanks and show the next character. -/
def peek : Reader (Option Char) := fun left =>
  let left := left.dropWhile isSpace
  .ok (left.head?, left)

/-- Take one character. -/
def take : Reader Unit := fun left => .ok ((), left.tail)

/-- Take the digits that come next. -/
def takeDigits : Reader (List Char) := fun left =>
  .ok (left.takeWhile Char.isDigit, left.dropWhile Char.isDigit)

/-- Show the next character without skipping anything. -/
def next : Reader (Option Char) := fun left => .ok (left.head?, left)

/-- Take the characters of a fixed word. -/
def word : List Char → Reader Unit
  | [] => pure ()
  | expected :: more => fun left =>
    match left with
    | [] => stop .endInValue 0 left
    | c :: rest => if c = expected then word more rest else stop .expectedWord 1 left

/-- Run a reader on a whole text, after which nothing but blanks may be left. -/
def run (reader : Reader α) (source : String) : Except Refusal α :=
  let whole : Reader α := do
    let result ← reader
    match ← peek with
    | none => pure result
    | some _ => stop .trailingCharacters 1
  match whole source.toList with
  | .ok (result, _) => .ok result
  | .error fault => .error (fault.refusal source.toList)

end Reader
end Json
end RestBindings
