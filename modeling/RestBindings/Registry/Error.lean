import RestBindings.Json.Fault
import RestBindings.Text.Quoted

/-! # Why a registry gives no classes

A registry document may be unreadable, malformed or of a bad shape, and any registry may fail to
list its classes.  An error in a document points into its text with a **span** of bytes: the place
where reading stopped, or the first quoted literal that names what is wrong.
-/
namespace RestBindings

/-- A range of bytes in a text. -/
structure Span where
  offset : Nat
  length : Nat
deriving DecidableEq, Repr

/-- Why a registry gives no classes. -/
inductive RegistryError where
  /-- The document cannot be read. -/
  | unreadable (path : String)
  /-- The text of the document is refused. -/
  | refused (file : String) (span : Option Span) (refusal : Json.Refusal)
  /-- The document breaks a rule. -/
  | invalid (file : String) (span : Option Span) (message : String)
  /-- The classes cannot be listed. -/
  | unbuilt (message : String)
deriving DecidableEq, Repr

namespace RegistryError

/-- The wording of an error. -/
def message : RegistryError → String
  | unreadable path => "failed to read '" ++ path ++ "'"
  | refused _ _ _ => "failed to parse registry document"
  | invalid _ _ message => message
  | unbuilt message => "failed to build REST classes: " ++ message

/-- The code an error is known by. -/
def code? : RegistryError → Option String
  | unreadable _ => none
  | refused .. => some "sira::parse_error"
  | invalid .. => some "sira::validation_error"
  | unbuilt _ => some "sira::build_error"

/-- Advice on an error. -/
def help? : RegistryError → Option String
  | unreadable _ => some "export the application's REST metadata to a JSON registry document"
  | _ => none

end RegistryError

/-- The text of a document, and what messages call it. -/
structure SourceText where
  content : String
  file : String
deriving DecidableEq, Repr

namespace SourceText

/-- The place of the first occurrence of `pattern`, in bytes after `offset`. -/
def find? (pattern : List Char) (offset : Nat) : List Char → Option Nat
  | [] => if pattern.isEmpty then some offset else none
  | c :: rest =>
    if pattern.isPrefixOf (c :: rest) then some offset
    else find? pattern (offset + c.utf8Size) rest

/-- The first quoted literal of a text. -/
def locate? (s : SourceText) (value : String) : Option Span :=
  let pattern := (Text.quote value).toList
  (find? pattern 0 s.content.toList).map (⟨·, Json.byteCount pattern⟩)

/-- The error of a text that is refused.  Only a misspelling has a place here, as the place of a
mismatch is left out. -/
def refusal (s : SourceText) (refusal : Json.Refusal) : RegistryError :=
  let span := match refusal with
    | .misspelled _ place => (place.offset? s.content.toList).map (⟨·, 0⟩)
    | .mismatched _ => none
  .refused s.file span refusal

/-- The error of a broken rule, at the literal `needle` if the text has it. -/
def broken (s : SourceText) (message : String) (needle : Option String) : RegistryError :=
  .invalid s.file (needle.bind s.locate?) message

end SourceText
end RestBindings
