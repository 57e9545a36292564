import RestBindings.Json.Reader.Text
import RestBindings.Json.Reader.Number

/-! # Skipping a value

A member nobody asked for is skipped: its form is checked, but lone surrogates and numbers of any
size pass, and brackets may nest to any depth.  The open brackets are kept on a stack, and what may
come next is one of four situations.  Every step takes at least one character, so the number of
characters bounds the number of steps.
-/
namespace RestBindings
namespace Json
namespace Reader

/-- An open bracket. -/
inductive Bracket where
  | list
  | object
deriving DecidableEq, Repr

namespace Bracket

/-- The character that closes the bracket. -/
def closing : Bracket → Char
  | list => ']'
  | object => '\x7d'

/-- The misspelling of a text that ends inside the bracket. -/
def atEnd : Bracket → Misspelling
  | list => .endInList
  | object => .endInObject

/-- The misspelling of anything but a comma or the closing character. -/
def notClosed : Bracket → Misspelling
  | list => .expectedListCommaOrEnd
  | object => .expectedObjectCommaOrEnd

end Bracket

/-- What may come next, with the brackets that are open around it, innermost first. -/
inductive Skipping where
  /-- A value. -/
  | value (around : List Bracket)
  /-- The inside of a bracket that was just opened. -/
  | opened (inner : Bracket) (around : List Bracket)
  /-- A member's name and colon. -/
  | name (around : List Bracket)
  /-- The rest of the brackets, after a value. -/
  | closing (around : List Bracket)

/-- Take the colon after a member's name. -/
def colon : Reader Unit := do
  match ← peek with
  | some ':' => take
  | some _ => stop .expectedColon 1
  | none => stop .endInObject 0

/-- Take a scalar value, or an opening bracket. -/
def skipStart (around : List Bracket) : Reader Skipping := do
  match ← peek with
  | none => stop .endInValue 0
  | some 'n' => take; word ['u', 'l', 'l']; pure (.closing around)
  | some 't' => take; word ['r', 'u', 'e']; pure (.closing around)
  | some 'f' => take; word ['a', 'l', 's', 'e']; pure (.closing around)
  | some '-' => take; skipNumber; pure (.closing around)
  | some '"' => take; skipQuoted; pure (.closing around)
  | some '[' => take; pure (.opened .list around)
  | some '\x7b' => take; pure (.opened .object around)
  | some c =>
    if c.isDigit then do skipNumber; pure (.closing around)
    else stop .expectedValue 1

/-- What comes after the opening bracket or a comma inside a bracket. -/
def Bracket.inside (inner : Bracket) (around : List Bracket) : Skipping :=
  match inner with
  | .list => .value (.list :: around)
  | .object => .name (.object :: around)

/-- One step; `none` when the value is complete. -/
def skipStep : Skipping → Reader (Option Skipping)
  | .value around => some <$> skipStart around
  | .opened inner around => do
    match ← peek with
    | none => stop inner.atEnd 0
    | some c =>
      if c = inner.closing then do take; pure (some (.closing around))
      else pure (some (inner.inside around))
  | .name around => do
    match ← peek with
    | none => stop .endInObject 0
    | some '"' => take; skipQuoted; colon; pure (some (.value around))
    | some _ => stop .nameNotText 1
  | .closing [] => pure none
  | .closing (inner :: around) => do
    match ← peek with
    | none => stop inner.atEnd 0
    | some c =>
      if c = ',' then do take; pure (some (inner.inside around))
      else if c = inner.closing then do take; pure (some (.closing around))
      else stop inner.notClosed 1

/-- Steps until the value is complete. -/
def skipFrom : (fuel : Nat) → Skipping → Reader Unit
  | 0, _ => stop .endInValue 0
  | fuel + 1, situation => do
    match ← skipStep situation with
    | none => pure ()
    | some situation => skipFrom fuel situation

/-- Skip one value.  Between two characters there are at most two steps that take none. -/
def skipValue : Reader Unit := fun left =>
  skipFrom (3 * left.length + 3) (.value []) left

end Reader
end Json
end RestBindings
