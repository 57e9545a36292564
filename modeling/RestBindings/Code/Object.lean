import RestBindings.Code.Fragment
import RestBindings.Text.Quoted

/-! # Object literals

An object literal of generated code: properties in order, each with a key that is written as it is
and a value that is a quoted text, raw code, an object or a function.  It is rendered over several
lines, a property to a line and a comma after each, or on one line, where functions have no place
and are left out.
-/
namespace RestBindings
namespace Code

/-- A function as a value. -/
structure Lambda where
  /-- Whether it is written `(…) => {…}` and not `function(…) {…}`. -/
  isArrow : Bool
  /-- The parameters, as they are written. -/
  params : String
  isAsync : Bool := false
  /-- The type of the result, where types are written. -/
  returns : Option String := none
  /-- The lines of the body. -/
  body : List String := []
deriving DecidableEq, Repr

/-- The first line of a function. -/
def Lambda.head (f : Lambda) : String :=
  let async := if f.isAsync then "async " else ""
  let returns := match f.returns with
    | some type => ": " ++ type
    | none => ""
  if f.isArrow then async ++ "(" ++ f.params ++ ")" ++ returns ++ " => \x7b"
  else async ++ "function(" ++ f.params ++ ")" ++ returns ++ " \x7b"

/-- The value of a property. -/
inductive Expr where
  /-- A text, which will be quoted. -/
  | text (s : String)
  /-- Code as it is. -/
  | code (s : String)
  /-- An object. -/
  | object (properties : List (String × Expr))
  /-- A function. -/
  | lambda (f : Lambda)
deriving Repr

/-- An object literal: its properties in order. -/
abbrev Object := List (String × Expr)

namespace Object

mutual

/-- A value on one line; a function has no such form. -/
def inlineValue? : Expr → Option String
  | .text s => some (Text.quote s)
  | .code s => some s
  | .object [] => some "\x7b\x7d"
  | .object (p :: rest) =>
    some ("\x7b " ++ String.intercalate ", " (inlineProperties (p :: rest)) ++ " \x7d")
  | .lambda _ => none

/-- Properties on one line. -/
def inlineProperties : List (String × Expr) → List String
  | [] => []
  | (key, value) :: rest =>
    match inlineValue? value with
    | some s => (key ++ ": " ++ s) :: inlineProperties rest
    | none => inlineProperties rest

end

/-- An object on one line. -/
def inline (object : Object) : String := (inlineValue? (.object object)).getD ""

/-- The properties that are written on one line are those whose values have such a form, in order,
each with a colon after its key. -/
theorem inlineProperties_eq_filterMap (properties : List (String × Expr)) :
    inlineProperties properties =
      properties.filterMap fun p => (inlineValue? p.2).map (p.1 ++ ": " ++ ·) := by
  induction properties with
  | nil => rfl
  | cons p rest ih =>
    obtain ⟨key, value⟩ := p
    rw [inlineProperties, List.filterMap_cons, ih]
    cases inlineValue? value <;> rfl

theorem inlineProperties_append (properties others : List (String × Expr)) :
    inlineProperties (properties ++ others) =
      inlineProperties properties ++ inlineProperties others := by
  simp only [inlineProperties_eq_filterMap, List.filterMap_append]

@[simp] theorem inlineValue?_code (s : String) : inlineValue? (.code s) = some s := rfl

/-- An object has a form on one line. -/
theorem inlineValue?_object (object : Object) :
    inlineValue? (.object object) = some (inline object) := by
  cases object <;> rfl

/-- What an object writes on one line: its properties between braces, with commas between them. -/
theorem inline_cons (p : String × Expr) (rest : List (String × Expr)) :
    inline (p :: rest) =
      "\x7b " ++ String.intercalate ", " (inlineProperties (p :: rest)) ++ " \x7d" := rfl

mutual

/-- A property on lines of its own. -/
def propertyFragment (key : String) : Expr → Fragment
  | .text s => .line (key ++ ": " ++ Text.quote s ++ ",")
  | .code s => .line (key ++ ": " ++ s ++ ",")
  | .object properties => .block (key ++ ": \x7b") (propertyFragments properties) (some "\x7d,")
  | .lambda f => .block (key ++ ": " ++ f.head) (f.body.map .line) (some "\x7d,")

/-- Properties on lines of their own. -/
def propertyFragments : List (String × Expr) → List Fragment
  | [] => []
  | (key, value) :: rest => propertyFragment key value :: propertyFragments rest

end

/-- An object over several lines. -/
def fragments (object : Object) : List Fragment :=
  match object with
  | [] => [.line "\x7b\x7d"]
  | properties => [.block "\x7b" (propertyFragments properties) (some "\x7d")]

/-- The keys in order. -/
def keys (object : Object) : List String := object.map Prod.fst

end Object
end Code
end RestBindings
