import RestBindings.Text.LetterCase
import RestBindings.Text.Split

/-! # Word case

Names come in many spellings: `user_id`, `access-token`, `MyModel`.  An underscore and a hyphen
separate words.  PascalCase raises the first character of every word and joins the words, camelCase
lowers the first character of that, and capitalizing raises the first character and keeps the rest.
Only first characters change, so capitals inside a word survive.
-/
namespace RestBindings
namespace Naming

/-- The characters that separate the words of a name. -/
def isWordSeparator (c : Char) : Bool := c == '_' || c == '-'

/-- Raise the first character. -/
def capitalizeChars : List Char → List Char
  | [] => []
  | c :: rest => Text.upper c ++ rest

/-- Lower the first character. -/
def uncapitalizeChars : List Char → List Char
  | [] => []
  | c :: rest => Text.lower c ++ rest

/-- The words of a name, each capitalized, joined. -/
def pascalChars (cs : List Char) : List Char :=
  (Text.splitOn isWordSeparator cs).flatMap capitalizeChars

/-- PascalCase with its first character lowered. -/
def camelChars (cs : List Char) : List Char :=
  uncapitalizeChars (pascalChars cs)

/-- `hello_world` becomes `HelloWorld`. -/
def pascalCase (s : String) : String := String.ofList (pascalChars s.toList)

/-- `user_id` becomes `userId`. -/
def camelCase (s : String) : String := String.ofList (camelChars s.toList)

/-- `lower-case` becomes `Lower-case`. -/
def capitalize (s : String) : String := String.ofList (capitalizeChars s.toList)

@[simp] theorem toList_pascalCase (s : String) : (pascalCase s).toList = pascalChars s.toList := by
  simp [pascalCase]

@[simp] theorem toList_camelCase (s : String) : (camelCase s).toList = camelChars s.toList := by
  simp [camelCase]

@[simp] theorem toList_capitalize (s : String) :
    (capitalize s).toList = capitalizeChars s.toList := by
  simp [capitalize]

end Naming
end RestBindings
