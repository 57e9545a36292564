import RestBindings.Decimal.Shortest
import RestBindings.Text.Quoted

/-! # JSON values

A value keeps the members of its objects in order, repeated names included.  Its compact text has no
spaces; its pretty text puts every element and member on a line of its own, two spaces deeper than
the bracket around it.
-/
namespace RestBindings
namespace Json

/-- A number: a natural below `2^64`, a negative integer not below `-2^63`, or in any other case the
nearest number in double precision. -/
inductive Number where
  /-- The number `n`. -/
  | natural (n : Nat)
  /-- The number `-n`. -/
  | negative (n : Nat)
  /-- A number with a fraction or an exponent, or one too large for an integer. -/
  | real (isNegative : Bool) (magnitude : Magnitude)
deriving DecidableEq, Repr

/-- The text of a number. -/
def Number.text : Number → String
  | .natural n => toString n
  | .negative n => "-" ++ toString n
  | .real isNegative magnitude => (if isNegative then "-" else "") ++ magnitude.text

/-- A JSON value. -/
inductive Value where
  | null
  | bool (b : Bool)
  | number (n : Number)
  | text (s : String)
  | list (elements : List Value)
  | object (members : List (String × Value))
deriving Repr

namespace Value

mutual

/-- The text of a value without spaces. -/
def compact : Value → String
  | .null => "null"
  | .bool b => toString b
  | .number n => n.text
  | .text s => Text.quote s
  | .list elements => "[" ++ compactElements elements ++ "]"
  | .object members => "\x7b" ++ compactMembers members ++ "\x7d"

/-- The elements of a list, separated by commas. -/
def compactElements : List Value → String
  | [] => ""
  | [v] => v.compact
  | v :: w :: rest => v.compact ++ "," ++ compactElements (w :: rest)

/-- The members of an object, separated by commas. -/
def compactMembers : List (String × Value) → String
  | [] => ""
  | [(name, v)] => Text.quote name ++ ":" ++ v.compact
  | (name, v) :: m :: rest =>
    Text.quote name ++ ":" ++ v.compact ++ "," ++ compactMembers (m :: rest)

end

/-- The start of a line at a nesting depth. -/
def newLine (depth : Nat) : String :=
  "\n" ++ String.ofList (List.replicate (2 * depth) ' ')

mutual

/-- The text of a value over several lines, inside `depth` brackets. -/
def prettyAt (depth : Nat) : Value → String
  | .null => "null"
  | .bool b => toString b
  | .number n => n.text
  | .text s => Text.quote s
  | .list [] => "[]"
  | .list (v :: rest) =>
    "[" ++ newLine (depth + 1) ++ v.prettyAt (depth + 1) ++ prettyElements (depth + 1) rest
      ++ newLine depth ++ "]"
  | .object [] => "\x7b\x7d"
  | .object ((name, v) :: rest) =>
    "\x7b" ++ newLine (depth + 1) ++ Text.quote name ++ ": " ++ v.prettyAt (depth + 1)
      ++ prettyMembers (depth + 1) rest ++ newLine depth ++ "\x7d"

/-- The elements after the first, each on its line. -/
def prettyElements (depth : Nat) : List Value → String
  | [] => ""
  | v :: rest => "," ++ newLine depth ++ v.prettyAt depth ++ prettyElements depth rest

/-- The members after the first, each on its line. -/
def prettyMembers (depth : Nat) : List (String × Value) → String
  | [] => ""
  | (name, v) :: rest =>
    "," ++ newLine depth ++ Text.quote name ++ ": " ++ v.prettyAt depth ++ prettyMembers depth rest

end

/-- The text of a value over several lines. -/
def pretty (v : Value) : String := v.prettyAt 0

/-- A text, or nothing. -/
def ofOption (f : α → Value) : Option α → Value
  | some a => f a
  | none => .null

end Value
end Json
end RestBindings
