import RestBindings.Registry.RestClass

/-! # The shape of a registry document

A registry document is the JSON export of an application's REST metadata.  `Document` holds what it
says and nothing more; each entry has a reader.  Where a method is served may be written as one
route or as a list of routes.  Both are tried, one route first, and because a route may itself be
written as a list of its fields, the empty list is one route with nothing set: so a method that says
where it is served always has a first route (`RouteEntries`).
-/
namespace RestBindings

open Json (Value Field Record Reader)

/-- A route of a document. -/
structure RouteEntry where
  verb : String := "post"
  path : Option String := none
deriving DecidableEq, Repr

/-- The routes of a method that says where it is served. -/
structure RouteEntries where
  first : RouteEntry
  others : List RouteEntry
deriving DecidableEq, Repr

/-- A method of a document. -/
structure MethodEntry where
  name : String
  isStatic : Bool := false
  accepts : List Param := []
  returns : List Param := []
  http : Option RouteEntries := none
  aliases : List String := []
  description : Option String := none
  restClass : Option String := none
deriving DecidableEq, Repr

/-- A class of a document. -/
structure ClassEntry where
  name : String
  path : Option String := none
  ctor : Option (List Param) := none
  methods : List MethodEntry := []
deriving DecidableEq, Repr

/-- A registry document. -/
structure Document where
  resultful : Option Bool := none
  classes : List ClassEntry := []
deriving DecidableEq, Repr

namespace RouteEntries

/-- The routes in order. -/
def toList (routes : RouteEntries) : List RouteEntry := routes.first :: routes.others

@[simp] theorem toList_ne_nil (routes : RouteEntries) : routes.toList ≠ [] := by
  simp [toList]

end RouteEntries

namespace RouteEntry

/-- A text, or nothing for `null`; any other value is refused. -/
def optionalText? : Value → Option (Option String)
  | .null => some none
  | .text s => some (some s)
  | _ => none

/-- A route written as a list of its fields or as an object. -/
def ofValue? : Value → Option RouteEntry
  | .list [] => some {}
  | .list [.text verb] => some { verb }
  | .list [.text verb, path] => (optionalText? path).map fun path => { verb, path }
  | .object members => do
    let valuesOf (name : String) : List Value := (members.filter (·.1 == name)).map (·.2)
    let verb ← match valuesOf "verb" with
      | [] => some "post"
      | [.text verb] => some verb
      | _ => none
    let path ← match valuesOf "path" with
      | [] => some none
      | [path] => optionalText? path
      | _ => none
    pure { verb, path }
  | _ => none

end RouteEntry

namespace RouteEntries

/-- One route, or else a list of routes. -/
def ofValue? (v : Value) : Option RouteEntries :=
  match RouteEntry.ofValue? v with
  | some route => some ⟨route, []⟩
  | none =>
    match v with
    | .list (first :: others) => do
      pure ⟨← RouteEntry.ofValue? first, ← others.mapM RouteEntry.ofValue?⟩
    | _ => none

/-- How many brackets may be opened below a method.  A document may open 127 at once, and five are
open around what a method says: the document, its classes, a class, its methods and a method. -/
def depthLimit : Nat := 122

/-- The reader of routes. -/
def read : Reader RouteEntries := do
  match ofValue? (← Reader.value depthLimit) with
  | some routes => pure routes
  | none => Reader.reject (.noVariant "OneOrMany")

end RouteEntries

/-- The reader of a method. -/
def MethodEntry.record : Record MethodEntry where
  label := "struct RawMethod"
  blank := { name := "" }
  fields := [
    ⟨"name", .required, fun m => do return { m with name := ← Reader.text }⟩,
    ⟨"isStatic", .defaulted, fun m => do return { m with isStatic := ← Reader.bool }⟩,
    ⟨"accepts", .defaulted, fun m => do
      return { m with accepts := ← Reader.list Param.record.read }⟩,
    ⟨"returns", .defaulted, fun m => do
      return { m with returns := ← Reader.list Param.record.read }⟩,
    ⟨"http", .defaulted, fun m => do
      return { m with http := ← Reader.optional RouteEntries.read }⟩,
    ⟨"aliases", .defaulted, fun m => do
      return { m with aliases := ← Reader.list Reader.text }⟩,
    ⟨"description", .defaulted, fun m => do
      return { m with description := ← Reader.optional Reader.text }⟩,
    ⟨"restClass", .defaulted, fun m => do
      return { m with restClass := ← Reader.optional Reader.text }⟩]

namespace ClassEntry

/-- The reader of where a class is served. -/
def pathRecord : Record String where
  label := "struct RawClassHttp"
  blank := ""
  fields := [⟨"path", .required, fun _ => Reader.text⟩]

/-- The reader of a shared constructor. -/
def ctorRecord : Record (List Param) where
  label := "struct RawCtor"
  blank := []
  fields := [⟨"accepts", .defaulted, fun _ => Reader.list Param.record.read⟩]

/-- The reader of a class. -/
def record : Record ClassEntry where
  label := "struct RawClass"
  blank := { name := "" }
  fields := [
    ⟨"name", .required, fun c => do return { c with name := ← Reader.text }⟩,
    ⟨"http", .defaulted, fun c => do
      return { c with path := ← Reader.optional pathRecord.read }⟩,
    ⟨"ctor", .defaulted, fun c => do
      return { c with ctor := ← Reader.optional ctorRecord.read }⟩,
    ⟨"methods", .defaulted, fun c => do
      return { c with methods := ← Reader.list MethodEntry.record.read }⟩]

end ClassEntry

namespace Document

/-- The reader of the settings. -/
def settingsRecord : Record (Option Bool) where
  label := "struct RawSettings"
  blank := none
  fields := [⟨"resultful", .nullable, fun _ => Reader.optional Reader.bool⟩]

/-- The reader of a document. -/
def record : Record Document where
  label := "struct RawDocument"
  blank := {}
  fields := [
    ⟨"settings", .defaulted, fun d => do return { d with resultful := ← settingsRecord.read }⟩,
    ⟨"classes", .defaulted, fun d => do
      return { d with classes := ← Reader.list ClassEntry.record.read }⟩]

/-- Read a document from its text. -/
def ofJson (content : String) : Except Json.Refusal Document := Reader.run record.read content

end Document
end RestBindings
