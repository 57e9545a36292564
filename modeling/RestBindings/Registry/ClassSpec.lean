import RestBindings.Registry.RestClass

/-! # Building classes

A program that has its classes at hand describes them step by step: start from `ClassSpec.model` or
`ClassSpec.service`, add what is known, and `build` supplies the rest.  A class is served at
`/<name>`, a method that declares no route at `POST /<name>`, and a method belongs to the class it
is declared in.
-/
namespace RestBindings

/-- A method under construction. -/
structure MethodSpec where
  name : String
  isStatic : Bool
  accepts : List Param := []
  returns : List Param := []
  routes : List Route := []
  aliases : List String := []
  description : Option String := none
  restClass : Option String := none
deriving DecidableEq, Repr

namespace MethodSpec

/-- A method called on the class. -/
def static (name : String) : MethodSpec := { name, isStatic := true }

/-- A method called on an instance. -/
def prototype (name : String) : MethodSpec := { name, isStatic := false }

variable (m : MethodSpec)

/-- Add a parameter. -/
def accepting (p : Param) : MethodSpec := { m with accepts := m.accepts ++ [p] }

/-- Add a result. -/
def returning (p : Param) : MethodSpec := { m with returns := m.returns ++ [p] }

/-- Add a route. -/
def route (verb path : String) : MethodSpec := { m with routes := m.routes ++ [.of verb path] }

/-- Add another name. -/
def calledAlso (name : String) : MethodSpec := { m with aliases := m.aliases ++ [name] }

/-- Set the description. -/
def described (text : String) : MethodSpec := { m with description := some text }

/-- Set the class that owns the method. -/
def ownedBy (name : String) : MethodSpec := { m with restClass := some name }

/-- The method, in a class. -/
def build (className : String) : Method where
  name := m.name
  isStatic := m.isStatic
  accepts := m.accepts
  returns := m.returns
  routes := if m.routes.isEmpty then [.of "POST" ("/" ++ m.name)] else m.routes
  restClass := m.restClass.getD className
  aliases := m.aliases
  description := m.description
  sharedName := m.name

end MethodSpec

/-- A class under construction. -/
structure ClassSpec where
  name : String
  ctor : Option (List Param) := none
  httpPath : Option String := none
  methods : List MethodSpec := []
deriving DecidableEq, Repr

namespace ClassSpec

/-- A class with a shared constructor, so far without parameters. -/
def model (name : String) : ClassSpec := { name, ctor := some [] }

/-- A class without a shared constructor. -/
def service (name : String) : ClassSpec := { name }

variable (c : ClassSpec)

/-- Add a parameter of the shared constructor, which makes the class a model. -/
def constructing (p : Param) : ClassSpec := { c with ctor := some (c.ctor.getD [] ++ [p]) }

/-- Set the path of the class. -/
def servedAt (path : String) : ClassSpec := { c with httpPath := some path }

/-- Add a method. -/
def method (m : MethodSpec) : ClassSpec := { c with methods := c.methods ++ [m] }

/-- The class. -/
def build : RestClass where
  name := c.name
  ctor := c.ctor
  httpPath := c.httpPath.getD ("/" ++ c.name)
  methods := c.methods.map (·.build c.name)

end ClassSpec
end RestBindings
