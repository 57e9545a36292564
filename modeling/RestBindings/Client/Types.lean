import RestBindings.Text.LetterCase

/-! # Types of TypeScript

The type a parameter has in TypeScript, by the type the registry writes.  Types are known in any
letter case of ASCII; a type in square brackets is an array, and an unknown type is `any`.
-/
namespace RestBindings
namespace Client

/-- The types that are known by name. -/
def knownTypes : List (String × String) := [
  ("string", "string"),
  ("number", "number"),
  ("boolean", "boolean"),
  ("date", "string | Date"),
  ("array", "any[]"),
  ("object", "Record<string, any>")]

/-- The TypeScript type of a registry type. -/
def scriptType (type : String) : String :=
  if type.toList.head? == some '[' && type.toList.getLast? == some ']' then "any[]"
  else (knownTypes.lookup (Text.lowerAscii type)).getD "any"

end Client
end RestBindings
