import RestBindings.Json.Value
import RestBindings.Text.Printable

/-! # Why a JSON text is refused

A text is refused because it is no JSON (`Misspelling`), with the place where reading stopped, or
because it is JSON of another shape than asked for (`Mismatch`).  Places are counted in bytes: a
reader reports how many bytes it has left, and `Place.after` turns the number of bytes read into a
line and a column.  Where in the text a mismatch was noticed is left out.
-/
namespace RestBindings
namespace Json

/-- What is wrong with a text that is no JSON. -/
inductive Misspelling where
  | endInList
  | endInObject
  | endInText
  | endInValue
  | expectedColon
  | expectedListCommaOrEnd
  | expectedObjectCommaOrEnd
  | expectedValue
  | expectedWord
  | nameNotText
  | trailingComma
  | trailingCharacters
  | invalidNumber
  | numberOutOfRange
  | invalidEscape
  | controlCharacter
  | loneSurrogate
  | unfinishedSurrogate
  | tooDeep
deriving DecidableEq, Repr

namespace Misspelling

/-- The wording of a misspelling. -/
def message : Misspelling → String
  | endInList => "EOF while parsing a list"
  | endInObject => "EOF while parsing an object"
  | endInText => "EOF while parsing a string"
  | endInValue => "EOF while parsing a value"
  | expectedColon => "expected `:`"
  | expectedListCommaOrEnd => "expected `,` or `]`"
  | expectedObjectCommaOrEnd => "expected `,` or `\x7d`"
  | expectedValue => "expected value"
  | expectedWord => "expected ident"
  | nameNotText => "key must be a string"
  | trailingComma => "trailing comma"
  | trailingCharacters => "trailing characters"
  | invalidNumber => "invalid number"
  | numberOutOfRange => "number out of range"
  | invalidEscape => "invalid escape"
  | controlCharacter => "control character (\\u0000-\\u001F) found while parsing a string"
  | loneSurrogate => "lone leading surrogate in hex escape"
  | unfinishedSurrogate => "unexpected end of hex escape"
  | tooDeep => "recursion limit exceeded"

/-- The text ended too early; any other misspelling is at a character that is there. -/
def isEnd : Misspelling → Bool
  | endInList | endInObject | endInText | endInValue => true
  | _ => false

end Misspelling

/-- What stands in the text where something else was asked for. -/
inductive Found where
  | null
  | bool (b : Bool)
  | number (n : Number)
  | text (s : String)
  | list
  | object
deriving DecidableEq, Repr

/-- The wording of what was found. -/
def Found.message : Found → String
  | null => "null"
  | bool b => "boolean `" ++ toString b ++ "`"
  | number (.real isNegative magnitude) =>
    "floating point `" ++ (Number.real isNegative magnitude).text ++ "`"
  | number n => "integer `" ++ n.text ++ "`"
  | text s => "string " ++ Text.shown s
  | list => "sequence"
  | object => "map"

/-- How a JSON text differs from the shape asked for. -/
inductive Mismatch where
  /-- A record lacks a member. -/
  | missing (name : String)
  /-- A record has a member twice. -/
  | duplicate (name : String)
  /-- A value is of another kind. -/
  | unexpected (found : Found) (expected : String)
  /-- A word is none of those that may stand here. -/
  | unknownWord (word : String) (known : List String)
  /-- A value fits none of the shapes of a choice. -/
  | noVariant (choice : String)
  /-- A list that stands for a record is too short. -/
  | tooShort (length : Nat) (expected : String)
deriving DecidableEq, Repr

/-- The wording of a mismatch. -/
def Mismatch.message : Mismatch → String
  | missing name => "missing field `" ++ name ++ "`"
  | duplicate name => "duplicate field `" ++ name ++ "`"
  | unexpected found expected => "invalid type: " ++ found.message ++ ", expected " ++ expected
  | unknownWord word known =>
    "unknown variant `" ++ word ++ "`, expected one of "
      ++ String.intercalate ", " (known.map fun k => "`" ++ k ++ "`")
  | noVariant choice => "data did not match any variant of untagged enum " ++ choice
  | tooShort length expected => "invalid length " ++ toString length ++ ", expected " ++ expected

/-- Why reading stopped. -/
inductive Fault where
  /-- The text is no JSON; `left` bytes were not looked at. -/
  | misspelled (cause : Misspelling) (left : Nat)
  /-- The text is JSON of another shape. -/
  | mismatched (cause : Mismatch)
deriving DecidableEq, Repr

/-- The number of bytes of a text. -/
def byteCount : List Char → Nat
  | [] => 0
  | c :: cs => c.utf8Size + byteCount cs

@[simp] theorem byteCount_nil : byteCount [] = 0 := rfl

@[simp] theorem byteCount_cons (c : Char) (cs : List Char) :
    byteCount (c :: cs) = c.utf8Size + byteCount cs := rfl

@[simp] theorem byteCount_append (cs ds : List Char) :
    byteCount (cs ++ ds) = byteCount cs + byteCount ds := by
  induction cs with
  | nil => simp
  | cons c cs ih => simp [ih, Nat.add_assoc]

/-- A line, counted from one, and the number of bytes read of it. -/
structure Place where
  line : Nat
  column : Nat
deriving DecidableEq, Repr

namespace Place

/-- Continue from a place over `n` bytes; a line feed ends the line, and a character may be read in
part. -/
def advance (place : Place) : (n : Nat) → List Char → Place
  | _, [] => place
  | 0, _ :: _ => place
  | n + 1, c :: rest =>
    if c = '\n' then advance ⟨place.line + 1, 0⟩ n rest
    else advance ⟨place.line, place.column + min (n + 1) c.utf8Size⟩ (n + 1 - c.utf8Size) rest

/-- The place after the first `n` bytes. -/
def after (n : Nat) (cs : List Char) : Place := advance ⟨1, 0⟩ n cs

/-- The wording of a place. -/
def message (place : Place) : String :=
  "line " ++ toString place.line ++ " column " ++ toString place.column

/-- The number of bytes of the first `n` lines, their line feeds included. -/
def bytesOfLines : (n : Nat) → List Char → Nat
  | 0, _ => 0
  | _, [] => 0
  | n + 1, c :: rest =>
    if c = '\n' then 1 + bytesOfLines n rest else c.utf8Size + bytesOfLines (n + 1) rest

/-- The byte offset of a place: the last byte read, clamped to the text.  A place without a line has
no offset.  The numbers are unbounded; in machine words the sum could wrap around for a column near
`2 ^ 64`, where the clamp still keeps the offset within the text. -/
def offset? (place : Place) (cs : List Char) : Option Nat :=
  if place.line = 0 then none
  else some (min (bytesOfLines (place.line - 1) cs + (place.column - 1)) (byteCount cs))

end Place

/-- Why a whole text is refused. -/
inductive Refusal where
  /-- The text is no JSON, from the place on where reading stopped. -/
  | misspelled (cause : Misspelling) (place : Place)
  /-- The text is JSON of another shape; the place of the mismatch is left out. -/
  | mismatched (cause : Mismatch)
deriving DecidableEq, Repr

/-- The wording of a refusal. -/
def Refusal.message : Refusal → String
  | misspelled cause place => cause.message ++ " at " ++ place.message
  | mismatched cause => cause.message

/-- The refusal of the text `cs` for a fault met while reading it. -/
def Fault.refusal (cs : List Char) : Fault → Refusal
  | .misspelled cause left => .misspelled cause (Place.after (byteCount cs - left) cs)
  | .mismatched cause => .mismatched cause

end Json
end RestBindings
