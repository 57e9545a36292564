import RestBindings.Code.Object

/-! # Declarations and files

Constants and functions of generated code, with their documentation, and files: declarations with a
blank line between one and the next.
-/
namespace RestBindings
namespace Code

/-- What a constant is bound to. -/
inductive ConstValue where
  /-- Code on one line. -/
  | code (s : String)
  /-- An object literal. -/
  | object (properties : Object)
deriving Repr

/-- A constant. -/
structure Const where
  name : String
  value : ConstValue
  /-- The type, where types are written. -/
  type : Option String := none
  doc : Option String := none
  isExported : Bool := true
deriving Repr

/-- A text before a declaration, for documentation. -/
def docFragments (doc : Option String) : List Fragment := doc.toList.map .doc

/-- The word before an exported declaration. -/
def exportWord (isExported : Bool) : String := if isExported then "export " else ""

namespace Const

/-- What stands before the equals sign. -/
def head (c : Const) : String :=
  exportWord c.isExported ++ "const " ++ c.name ++ (match c.type with
    | some type => ": " ++ type
    | none => "")

/-- The declaration; the braces of an object open on its first line. -/
def fragments (c : Const) : List Fragment :=
  docFragments c.doc ++ [match c.value with
    | .code s => .line (c.head ++ " = " ++ s ++ ";")
    | .object [] => .line (c.head ++ " = \x7b\x7d;")
    | .object properties =>
      .block (c.head ++ " = \x7b") (Object.propertyFragments properties) (some "\x7d;")]

end Const

/-- A parameter of a declared function. -/
structure Formal where
  name : String
  type : Option String := none
  isOptional : Bool := false
  /-- The value it has when it is not given. -/
  default : Option String := none
deriving DecidableEq, Repr

/-- The text of a parameter. -/
def Formal.text (p : Formal) : String :=
  p.name ++ (if p.isOptional then "?" else "")
    ++ (match p.type with
      | some type => ": " ++ type
      | none => "")
    ++ (match p.default with
      | some value => " = " ++ value
      | none => "")

/-- A declared function. -/
structure Function where
  name : String
  doc : Option String := none
  isExported : Bool := true
  isAsync : Bool := false
  params : List Formal := []
  /-- The type of the result, where types are written. -/
  returns : Option String := none
  /-- The lines of the body. -/
  body : List String := []
deriving DecidableEq, Repr

namespace Function

/-- The first line. -/
def head (f : Function) : String :=
  exportWord f.isExported ++ (if f.isAsync then "async " else "") ++ "function " ++ f.name ++ "("
    ++ String.intercalate ", " (f.params.map Formal.text) ++ ")"
    ++ (match f.returns with
      | some type => ": " ++ type
      | none => "")
    ++ " \x7b"

/-- The declaration; a line of the body with nothing but white space is blank. -/
def fragments (f : Function) : List Fragment :=
  docFragments f.doc ++ [.block f.head
    (f.body.map fun l => if Text.isBlankText l then .blank else .line l) (some "\x7d")]

end Function

/-- A file: the fragments of its items. -/
structure File where
  items : List (List Fragment) := []
deriving Repr

namespace File

/-- The fragments of items with a blank line between one and the next. -/
def joined : List (List Fragment) → List Fragment
  | [] => []
  | [item] => item
  | item :: next :: rest => item ++ .blank :: joined (next :: rest)

/-- The text of a file. -/
def render (file : File) (indent : Indent) : String :=
  Fragment.render indent (joined file.items)

end File
end Code
end RestBindings
