import RestBindings.Json.Reader.Record
import RestBindings.Text.LetterCase

/-! # Parameters

One entry of a method's list of parameters, with the part of the HTTP request that carries it.  A
parameter has a written form in JSON, which leaves out what is absent, and a reader of that form,
which supplies the defaults.
-/
namespace RestBindings

/-- The part of a request that carries a parameter. -/
inductive Source where
  | path
  | query
  | body
  | form
  | header
  | req
  | res
  | context
deriving DecidableEq, Repr

namespace Source

/-- The name of a source in a registry. -/
def name : Source → String
  | path => "path"
  | query => "query"
  | body => "body"
  | form => "form"
  | header => "header"
  | req => "req"
  | res => "res"
  | context => "context"

/-- Every source, in the order messages list them. -/
def all : List Source := [path, query, body, form, header, req, res, context]

/-- A source that the server fills and no caller does. -/
def isServerSide : Source → Bool
  | req | res | context => true
  | _ => false

/-- The source with a name. -/
def ofName? (name : String) : Option Source := all.find? (·.name == name)

@[simp] theorem ofName?_name (s : Source) : ofName? s.name = some s := by
  cases s <;> decide

end Source

/-- A parameter of a method, or one of its results. -/
structure Param where
  /-- The name of the parameter. -/
  arg : String
  /-- Its type, as the registry writes it: `string`, `object`, `[string]`. -/
  type : String := "any"
  /-- Whether the caller must supply it. -/
  required : Bool := false
  /-- A description for documentation. -/
  description : Option String := none
  /-- The part of the request that carries it, if the registry says so. -/
  source : Option Source := none
  /-- For a result: it is the whole body of the response. -/
  root : Bool := false
deriving DecidableEq, Repr

namespace Param

/-- The type `array` in any letter case, or a type in square brackets. -/
def isArray (p : Param) : Bool :=
  Text.lowerAscii p.type == "array" ||
    (p.type.toList.head? == some '[' && p.type.toList.getLast? == some ']')

/-- A parameter that no caller supplies. -/
def isServerSide (p : Param) : Bool := p.source.any Source.isServerSide

open Json (Value Field Record Reader)

/-- The written form of a parameter. -/
def toJson (p : Param) : Value :=
  .object <|
    [("arg", .text p.arg), ("type", .text p.type), ("required", .bool p.required)]
      ++ p.description.toList.map (fun d => ("description", .text d))
      ++ p.source.toList.map (fun s => ("http", .object [("source", .text s.name)]))
      ++ (if p.root then [("root", .bool true)] else [])

/-- The reader of the part of the request. -/
def sourceRecord : Record Source where
  label := "struct ParamHttp"
  blank := .path
  fields := [⟨"source", .required, fun _ => Reader.wordOf (Source.all.map fun s => (s.name, s))⟩]

/-- The reader of a parameter. -/
def record : Record Param where
  label := "struct ParamDescriptor"
  blank := { arg := "" }
  fields := [
    ⟨"arg", .required, fun p => do return { p with arg := ← Reader.text }⟩,
    ⟨"type", .defaulted, fun p => do return { p with type := ← Reader.text }⟩,
    ⟨"required", .defaulted, fun p => do return { p with required := ← Reader.bool }⟩,
    ⟨"description", .defaulted, fun p => do
      return { p with description := ← Reader.optional Reader.text }⟩,
    ⟨"http", .defaulted, fun p => do
      return { p with source := ← Reader.optional sourceRecord.read }⟩,
    ⟨"root", .defaulted, fun p => do return { p with root := ← Reader.bool }⟩]

/-- Read a parameter from its written form. -/
def ofJson (source : String) : Except Json.Refusal Param := Reader.run record.read source

end Param
end RestBindings
