import RestBindings.Generation.Pipeline
import RestBindings.Report.Output

/-! # Checking a registry document

A check describes the models of a document that was read and says what it found.  Two models of one
name make the document invalid; then the report lists nothing else.
-/
namespace RestBindings
namespace Report

open Generation (Abort Pipeline GenerationContext)

/-- What a check found. -/
structure CheckReport where
  /-- The path of the document. -/
  path : String
  /-- The names of the models. -/
  models : List String := []
  /-- The names of the classes that are no models. -/
  skipped : List String := []
  /-- Whether responses come in an envelope, if the document says so. -/
  resultful : Option Bool
  /-- What is wrong with the document. -/
  errors : List String := []
deriving DecidableEq, Repr

namespace CheckReport

/-- Nothing is wrong. -/
def isValid (report : CheckReport) : Bool := report.errors.isEmpty

/-- What a finished generation found. -/
def ofContext (report : CheckReport) (context : GenerationContext) : CheckReport := { report with
  models := (context.models.map Models.names).getD []
  skipped := (context.raised .warning).filterMap (·.location)
  errors := (context.raised .error).map (·.text) }

/-- A list under a heading that counts it. -/
def counted (name : String) (items : List String) : List Output :=
  .heading (name ++ " (" ++ toString items.length ++ ")") :: items.map .item

/-- What to show. -/
def outputs (report : CheckReport) : List Output :=
  if report.isValid then
    [.text ("✓ " ++ report.path ++ " is valid"), .newline]
      ++ counted "Models" report.models
      ++ (if report.skipped.isEmpty then []
        else .newline :: counted "Skipped, not models" report.skipped)
      ++ (match report.resultful with
        | some resultful =>
          [.newline, .heading "Settings", .keyValue "resultful" (toString resultful)]
        | none => [])
  else
    report.errors.map .error

end CheckReport

/-- Check a document that was read from a path. -/
def check (path : String) (document : RegistryDocument) : Except Abort CheckReport :=
  let report : CheckReport := { path, resultful := document.resultful }
  match Pipeline.runRegistry {} (Registry.ofDocument document) with
  | .ok context => .ok (report.ofContext context)
  | .error (.describe error) => .ok { report with errors := [error.message] }
  | .error abort => .error abort

end Report
end RestBindings
