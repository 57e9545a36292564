import RestBindings.Model.Basic
import RestBindings.Registry.Lowering

/-! # Describing models

Describing turns the classes of a registry into models.  A class without a shared constructor is
skipped, and a second model of one name is an error.  Every prototype method asks for the identity
of its instance first: the parameters of the constructor of the class that owns it are put before
its own.  The classes skipped are told in order, up to the error if there is one
(`Description.skipped`).
-/
namespace RestBindings

/-- Why models cannot be described. -/
inductive DescribeError where
  /-- The registry gives no classes. -/
  | registry (error : RegistryError)
  /-- Two models share a name. -/
  | duplicateModel (name : String)
deriving DecidableEq, Repr

namespace DescribeError

/-- The wording of an error. -/
def message : DescribeError → String
  | registry error => error.message
  | duplicateModel name => "duplicate model name '" ++ name ++ "'"

/-- The code an error is known by. -/
def code? : DescribeError → Option String
  | registry _ => none
  | duplicateModel _ => some "sira::describe::duplicate_model"

/-- Advice on an error. -/
def help? : DescribeError → Option String
  | registry _ => none
  | duplicateModel _ =>
    some "model names are the keys of the generated bindings and must be unique"

end DescribeError

/-- What describing gives. -/
structure Description where
  /-- The classes skipped, in order, up to the error if there is one. -/
  skipped : List String
  /-- The models, or the error. -/
  models : Except DescribeError Models

/-- The constructor of the first model with a name. -/
def ctorOf? (classes : List RestClass) (name : String) : Option (List Param) :=
  classes.findSome? fun c => if c.name = name then c.ctor else none

/-- A method with the parameters of its owner's constructor, if it is called on an instance. -/
def Method.withCtor (ctor : Option (List Param)) (m : Method) : Method :=
  match ctor with
  | some accepts => if m.isStatic then m else { m with accepts := accepts ++ m.accepts }
  | none => m

/-- The model of a class among `classes`. -/
def RestClass.described (classes : List RestClass) (c : RestClass) : Model :=
  .ofClass { c with methods := c.methods.map fun m => m.withCtor (ctorOf? classes m.restClass) }

/-- Describe the classes that remain of `classes`, after the models and skipped classes so far. -/
def describeFrom (classes : List RestClass) (models : Models) (skipped : List String) :
    List RestClass → Description
  | [] => { skipped, models := .ok models }
  | c :: rest =>
    if !c.isModel then describeFrom classes models (skipped ++ [c.name]) rest
    else if models.contains c.name then { skipped, models := .error (.duplicateModel c.name) }
    else describeFrom classes (models.insert (c.described classes)) skipped rest

/-- Describe the models among classes. -/
def describe (classes : List RestClass) : Description :=
  describeFrom classes .empty [] classes

/-- Describe the models of a registry. -/
def Registry.describe (registry : Registry) : Description :=
  match registry.classes with
  | .ok classes => RestBindings.describe classes
  | .error error => { skipped := [], models := .error (.registry error) }

end RestBindings
