import RestBindings.Registry.Param

/-! # Classes exposed over REST

A class has a base path and methods; one with a shared constructor is a **model**, whose instances
are identified by the constructor's parameters.  A method is static, and called on the class, or a
prototype method, and called on an instance.
-/
namespace RestBindings

/-- An HTTP verb and a path relative to the path of the class. -/
structure Route where
  verb : String
  path : String
deriving DecidableEq, Repr

/-- The route with a verb in any letter case. -/
def Route.of (verb path : String) : Route := ⟨Text.upperAscii verb, path⟩

/-- One callable endpoint of a class. -/
structure Method where
  /-- The name of the method. -/
  name : String
  /-- Whether it is called on the class and not on an instance. -/
  isStatic : Bool
  /-- Its parameters, in order. -/
  accepts : List Param
  /-- Its results. -/
  returns : List Param
  /-- Where it is served, the preferred route first. -/
  routes : List Route
  /-- The name of the class that owns it. -/
  restClass : String
  /-- Other names it is called by. -/
  aliases : List String
  /-- A description for documentation. -/
  description : Option String
  /-- The name of the function on the server that the method shares. -/
  sharedName : String := name
deriving DecidableEq, Repr

namespace Method

/-- The key of the method in a generated client.  A prototype method is marked, so that it cannot
meet a static method of the same name. -/
def action (m : Method) : String :=
  if m.isStatic then m.name else "prototype$" ++ m.name

/-- The route a client uses. -/
def firstRoute? (m : Method) : Option Route := m.routes.head?

/-- Some result is the whole response and an array. -/
def returnsArray (m : Method) : Bool := m.returns.any fun r => r.root && r.isArray

end Method

/-- A class exposed over REST. -/
structure RestClass where
  /-- The name of the class. -/
  name : String
  /-- The parameters of its shared constructor, if it has one. -/
  ctor : Option (List Param)
  /-- The path of the class. -/
  httpPath : String
  /-- Its methods, in order. -/
  methods : List Method
deriving DecidableEq, Repr

/-- A class with a shared constructor. -/
def RestClass.isModel (c : RestClass) : Bool := c.ctor.isSome

open Json (Value)

/-- The written form of a route. -/
def Route.toJson (r : Route) : Value :=
  .object [("verb", .text r.verb), ("path", .text r.path)]

/-- The written form of a method; the static flag stands with the method and with the function it
shares. -/
def Method.toJson (m : Method) : Value :=
  .object [
    ("name", .text m.name),
    ("accepts", .list (m.accepts.map Param.toJson)),
    ("isStatic", .bool m.isStatic),
    ("routes", .list (m.routes.map Route.toJson)),
    ("restClass", .text m.restClass),
    ("sharedMethod", .object <|
      [("name", .text m.sharedName), ("isStatic", .bool m.isStatic),
        ("aliases", .list (m.aliases.map .text))]
        ++ m.description.toList.map (fun d => ("description", .text d))
        ++ [("returns", .list (m.returns.map Param.toJson))])]

/-- The members of the written form of a class. -/
def RestClass.jsonMembers (c : RestClass) : List (String × Value) := [
  ("name", .text c.name),
  ("ctor", Value.ofOption (fun accepts => .object [("accepts", .list (accepts.map Param.toJson))])
    c.ctor),
  ("httpPath", .text c.httpPath),
  ("methods", .list (c.methods.map Method.toJson))]

/-- The written form of a class. -/
def RestClass.toJson (c : RestClass) : Value := .object c.jsonMembers

end RestBindings
