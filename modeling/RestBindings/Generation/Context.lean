import RestBindings.Model.Description

/-! # The context of a generation

A context is what the phases of a generation work on: the classes of the registry, the setting of
the application, the models once they are described, and the diagnostics raised so far.  A phase
that fails ends the generation with an `Abort`, which keeps the errors of the registry and of the
describer apart from all others.
-/
namespace RestBindings
namespace Generation

/-- How serious a diagnostic is. -/
inductive Severity where
  | error
  | warning
  | info
deriving DecidableEq, Repr

/-- The word for a severity. -/
def Severity.name : Severity → String
  | error => "error"
  | warning => "warning"
  | info => "info"

/-- A message raised in a phase. -/
structure Diagnostic where
  severity : Severity
  /-- The phase that raised it. -/
  phase : String
  message : String
  /-- What it is about, often the name of a class. -/
  location : Option String := none
deriving DecidableEq, Repr

/-- A diagnostic as messages show it. -/
def Diagnostic.text (d : Diagnostic) : String :=
  d.severity.name ++ ": " ++ d.message ++ (match d.location with
    | some location => " (at " ++ location ++ ")"
    | none => "")

/-- What the phases of a generation work on. -/
structure GenerationContext where
  classes : List RestClass
  /-- Whether responses come in an envelope, if the application says so. -/
  resultful : Option Bool
  /-- The models, once they are described. -/
  models : Option Models := none
  diagnostics : List Diagnostic := []
deriving DecidableEq, Repr

namespace GenerationContext

variable (context : GenerationContext)

/-- The diagnostics of a severity. -/
def raised (severity : Severity) : List Diagnostic :=
  context.diagnostics.filter (·.severity == severity)

/-- Some diagnostic is an error. -/
def hasErrors : Bool := context.diagnostics.any (·.severity == .error)

/-- Raise a diagnostic. -/
def raise (d : Diagnostic) : GenerationContext :=
  { context with diagnostics := context.diagnostics ++ [d] }

end GenerationContext

/-- Why a generation ends early. -/
inductive Abort where
  /-- The registry gives no classes. -/
  | registry (error : RegistryError)
  /-- The models cannot be described. -/
  | describe (error : DescribeError)
  /-- A phase or a plugin gives up, with a message and the messages of what caused it. -/
  | other (message : String) (causes : List String)
deriving DecidableEq, Repr

namespace Abort

/-- The message, without what caused it. -/
def message : Abort → String
  | registry error => error.message
  | describe error => error.message
  | other message _ => message

end Abort
end Generation
end RestBindings
