import RestBindings.Registry.Document
import RestBindings.Registry.Error
import RestBindings.Text.Blank

/-! # From a document to classes

Lowering checks the rules that the shape of a document does not express and fills in what it leaves
out.  No name may be blank and every verb must be known; verbs may be in any letter case, and `del`
stands for `DELETE`.  A class is served at `/<name>`, a route at `/<method>`, and a method that does
not say where it is served at `POST /<method>`.  The first broken rule is reported: classes in
order, and in a class its name, its constructor, then its methods, each with its name, its
parameters, its results and its routes.
-/
namespace RestBindings

/-- The list a parameter stands in. -/
inductive ParamSite where
  | ctor (className : String)
  | accepts (className methodName : String)
  | returns (className methodName : String)
deriving DecidableEq, Repr

/-- What messages call a class of a document. -/
def classLocation (className : String) : String := "classes." ++ className

/-- What messages call a method of a document. -/
def methodLocation (className methodName : String) : String :=
  classLocation className ++ ".methods." ++ methodName

/-- What messages call a list of parameters. -/
def ParamSite.location : ParamSite → String
  | ctor className => classLocation className ++ ".ctor"
  | accepts className methodName => methodLocation className methodName ++ ".accepts"
  | returns className methodName => methodLocation className methodName ++ ".returns"

/-- A broken rule of a document. -/
inductive ShapeFault where
  | unnamedClass (place : Nat)
  | unnamedMethod (className : String)
  | unnamedParam (site : ParamSite) (place : Nat)
  | unknownVerb (className methodName verb : String)
deriving DecidableEq, Repr

namespace ShapeFault

/-- The wording of a broken rule. -/
def message : ShapeFault → String
  | unnamedClass place => "class #" ++ toString place ++ " has an empty name"
  | unnamedMethod className => classLocation className ++ " has a method with an empty name"
  | unnamedParam site place =>
    site.location ++ " has a parameter #" ++ toString place ++ " with an empty name"
  | unknownVerb className methodName verb =>
    methodLocation className methodName ++ " uses unknown HTTP verb '" ++ verb ++ "'"

/-- The text to point at. -/
def needle? : ShapeFault → Option String
  | unnamedMethod className => some className
  | unknownVerb _ _ verb => some verb
  | _ => none

end ShapeFault

/-- The verbs a route may have. -/
def knownVerbs : List String := ["GET", "POST", "PUT", "PATCH", "DELETE", "HEAD", "OPTIONS"]

/-- The known verb that a document's verb stands for. -/
def knownVerb? (verb : String) : Option String :=
  let upper := Text.upperAscii verb
  if upper = "DEL" then some "DELETE"
  else if upper ∈ knownVerbs then some upper
  else none

/-- Every parameter of a list has a name. -/
def checkParams (site : ParamSite) (params : List Param) : Except ShapeFault Unit :=
  match params.findIdx? fun p => Text.isBlankText p.arg with
  | some place => .error (.unnamedParam site place)
  | none => .ok ()

/-- The route of an entry. -/
def RouteEntry.lower (className methodName : String) (route : RouteEntry) :
    Except ShapeFault Route :=
  match knownVerb? route.verb with
  | some verb => .ok (.of verb (route.path.getD ("/" ++ methodName)))
  | none => .error (.unknownVerb className methodName route.verb)

/-- The method of an entry. -/
def MethodEntry.lower (className : String) (m : MethodEntry) : Except ShapeFault Method := do
  if Text.isBlankText m.name then
    throw (.unnamedMethod className)
  checkParams (.accepts className m.name) m.accepts
  checkParams (.returns className m.name) m.returns
  let routes ← match m.http with
    | some routes => routes.toList.mapM (RouteEntry.lower className m.name)
    | none => pure [.of "POST" ("/" ++ m.name)]
  pure {
    name := m.name
    isStatic := m.isStatic
    accepts := m.accepts
    returns := m.returns
    routes
    restClass := m.restClass.getD className
    aliases := m.aliases
    description := m.description
    sharedName := m.name }

/-- The class of an entry, at a place in the document. -/
def ClassEntry.lower (place : Nat) (c : ClassEntry) : Except ShapeFault RestClass := do
  if Text.isBlankText c.name then
    throw (.unnamedClass place)
  checkParams (.ctor c.name) (c.ctor.getD [])
  let methods ← c.methods.mapM (MethodEntry.lower c.name)
  pure {
    name := c.name
    ctor := c.ctor
    httpPath := c.path.getD ("/" ++ c.name)
    methods }

/-- The classes of a document. -/
def Document.lower (d : Document) : Except ShapeFault (List RestClass) :=
  d.classes.zipIdx.mapM fun (c, place) => c.lower place

/-- The classes of a document and its setting. -/
structure RegistryDocument where
  classes : List RestClass
  /-- Whether responses come in an envelope, if the document says so. -/
  resultful : Option Bool
deriving DecidableEq, Repr

/-- Read and lower a document. -/
def RegistryDocument.parse (source : SourceText) : Except RegistryError RegistryDocument :=
  match Document.ofJson source.content with
  | .error refusal => .error (source.refusal refusal)
  | .ok d =>
    match d.lower with
    | .error fault => .error (source.broken fault.message fault.needle?)
    | .ok classes => .ok { classes, resultful := d.resultful }

/-- A source of classes: it gives its classes in a fixed order, or fails. -/
structure Registry where
  classes : Except RegistryError (List RestClass)
  /-- Whether responses come in an envelope, if the registry says so. -/
  resultful : Option Bool := none

namespace Registry

/-- The registry of classes at hand. -/
def ofClasses (classes : List RestClass) (resultful : Option Bool) : Registry :=
  { classes := .ok classes, resultful }

/-- The registry of a document. -/
def ofDocument (d : RegistryDocument) : Registry := ofClasses d.classes d.resultful

/-- A registry that fails to list its classes. -/
def broken (message : String) : Registry := { classes := .error (.unbuilt message) }

end Registry
end RestBindings
