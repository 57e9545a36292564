import RestBindings.Naming.Words
import RestBindings.Text.Alphabet

/-! # Identifiers

An identifier starts with a letter, `_` or `$` and continues with letters, digits, `_` and `$`.
`toIdentifier` keeps a name that is one already; any other name is camel-cased, every character an
identifier cannot hold becomes `_`, and a leading ASCII digit gets a `_` before it.
-/
namespace RestBindings
namespace Naming

/-- A character an identifier may start with. -/
def isIdentifierStart (c : Char) : Bool := Text.isAlphabetic c || c == '_' || c == '$'

/-- A character an identifier may hold. -/
def isIdentifierPart (c : Char) : Bool := Text.isAlphanumeric c || c == '_' || c == '$'

/-- The characters of an identifier. -/
def isIdentifierChars : List Char → Bool
  | [] => false
  | c :: rest => isIdentifierStart c && rest.all isIdentifierPart

/-- A text that can stand as a bare identifier. -/
def isIdentifier (name : String) : Bool := isIdentifierChars name.toList

/-- Replace what an identifier cannot hold, and keep digits off the first place. -/
def repairChars (cs : List Char) : List Char :=
  match cs.map fun c => if isIdentifierPart c then c else '_' with
  | [] => ['_']
  | c :: rest => if c.isDigit then '_' :: c :: rest else c :: rest

/-- The identifier made of the characters of a name. -/
def toIdentifierChars (cs : List Char) : List Char :=
  if isIdentifierChars cs then cs else repairChars (camelChars cs)

/-- The identifier made of a name. -/
def toIdentifier (name : String) : String := String.ofList (toIdentifierChars name.toList)

@[simp] theorem toList_toIdentifier (name : String) :
    (toIdentifier name).toList = toIdentifierChars name.toList := by
  simp [toIdentifier]

theorem toIdentifier_of_isIdentifier {name : String} (h : isIdentifier name = true) :
    toIdentifier name = name := by
  have h' : isIdentifierChars name.toList = true := h
  simp [toIdentifier, toIdentifierChars, h']

theorem isIdentifierPart_of_isIdentifierStart {c : Char} (h : isIdentifierStart c = true) :
    isIdentifierPart c = true := by
  simp only [isIdentifierStart, Bool.or_eq_true] at h
  simp only [isIdentifierPart, Text.isAlphanumeric, Bool.or_eq_true]
  rcases h with (h | h) | h <;> simp [h]

end Naming
end RestBindings
