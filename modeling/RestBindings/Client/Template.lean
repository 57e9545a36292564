import RestBindings.Journal
import RestBindings.Model.Basic
import RestBindings.Text.Blank
import RestBindings.Text.Printable

/-! # Templates

A **template** renders models into one source text.  It is given a context: the models, the name of
the generated module, the base URL of the API and the setting of the application.  Templates are
looked up by name in a set that remembers the order in which the names first came.

Names of models become identifiers by a function of the template; `Context.identifiers` refuses two
models that come out the same.
-/
namespace RestBindings
namespace Client

/-- Why models cannot be rendered. -/
inductive RenderError where
  /-- Two names of one scope come out as the same identifier. -/
  | identifierConflict (identifier first second : String)
  /-- The module cannot have this name. -/
  | invalidModuleName (name : String)
  /-- A model has something that cannot be rendered. -/
  | malformed (model : String) (reason : String)
deriving DecidableEq, Repr

namespace RenderError

/-- The wording of an error. -/
def message : RenderError → String
  | identifierConflict identifier first second =>
    "'" ++ first ++ "' and '" ++ second ++ "' both map to identifier '" ++ identifier ++ "'"
  | invalidModuleName name => "invalid module name '" ++ name ++ "'"
  | malformed model reason => "cannot render model '" ++ model ++ "': " ++ reason

/-- The code an error is known by. -/
def code : RenderError → String
  | identifierConflict .. => "sira::render::identifier_conflict"
  | invalidModuleName _ => "sira::render::invalid_module_name"
  | malformed .. => "sira::render::malformed"

/-- Advice on an error. -/
def help? : RenderError → Option String
  | identifierConflict .. => some "rename one of them so their generated names differ"
  | invalidModuleName _ => some "pass a non-empty name with --module-name"
  | malformed .. => none

end RenderError

/-- What a template renders. -/
structure Context where
  /-- The name of the generated module. -/
  moduleName : String
  /-- The models in order. -/
  models : Models
  /-- The base URL of the API, without slashes at its end. -/
  urlBase : String
  /-- Whether responses come in an envelope, if the application says so. -/
  resultful : Option Bool := none
deriving Repr

namespace Context

variable (context : Context)

/-- Responses come in an envelope. -/
def isResultful : Bool := context.resultful.getD false

/-- The name of the module must not be blank. -/
def checkModuleName : Except RenderError Unit :=
  if Text.isBlankText context.moduleName then
    .error (.invalidModuleName context.moduleName)
  else
    .ok ()

end Context

/-- Give an identifier to each of the models that remain, none of which is `taken` by a model
before. -/
def identifiersFrom (toIdentifier : String → String) (taken : List (String × Model)) :
    List Model → Except RenderError (List (String × Model))
  | [] => .ok taken
  | m :: rest =>
    let identifier := toIdentifier m.name
    match taken.lookup identifier with
    | some first => .error (.identifierConflict identifier first.name m.name)
    | none => identifiersFrom toIdentifier (taken ++ [(identifier, m)]) rest

/-- The models with their identifiers, which must be distinct. -/
def Context.identifiers (context : Context) (toIdentifier : String → String) :
    Except RenderError (List (String × Model)) :=
  identifiersFrom toIdentifier [] context.models.toList

/-- A way to render models into one source text. -/
structure Template where
  name : String
  /-- What the template renders, in one line. -/
  description : String
  /-- The file extension of the source. -/
  extension : String
  render : Context → Except RenderError String
  /-- What the template tells while it renders. -/
  journal : Context → List Journal.Entry := fun _ => []

/-- Replace the template with the name of `t`, or add `t` at the end. -/
def insertTemplate (t : Template) : List Template → List Template
  | [] => [t]
  | u :: rest => if u.name = t.name then t :: rest else u :: insertTemplate t rest

/-- Templates by name, in the order in which their names first came. -/
structure TemplateSet where
  toList : List Template := []

namespace TemplateSet

variable (templates : TemplateSet)

/-- Add a template; a template with its name is replaced in its place. -/
def register (t : Template) : TemplateSet := { toList := insertTemplate t templates.toList }

/-- The template with a name. -/
def get? (name : String) : Option Template := templates.toList.find? (·.name == name)

/-- There is a template with a name. -/
def contains (name : String) : Bool := templates.toList.any (·.name == name)

/-- The names in order. -/
def names : List String := templates.toList.map (·.name)

/-- The number of templates. -/
def size : Nat := templates.toList.length

/-- There are no templates. -/
def isEmpty : Bool := templates.toList.isEmpty

/-- The set as messages show it. -/
def shown : String :=
  "TemplateRegistry \x7b templates: [" ++ String.intercalate ", " (templates.names.map Text.shown)
    ++ "] \x7d"

end TemplateSet
end Client
end RestBindings
