import RestBindings.Files.Tree
import RestBindings.Generation.Generator
import RestBindings.Report.Output

/-! # Writing client services

The source of a request goes to a file, to standard output, or into a preview that shows what would
be written.  Nothing is written unless the whole request succeeds.
-/
namespace RestBindings
namespace Report

open Files (PendingFile Tree WriteError)
open Generation (Diagnostic GenerateError Generated Options)

/-- Where the source should go. -/
structure Target where
  /-- The file, or standard output if there is none. -/
  output : Option String := none
  /-- Show what would be written, and write nothing. -/
  dryRun : Bool := false
deriving DecidableEq, Repr

/-- Where the source went. -/
inductive Delivery where
  | written (path : String)
  | stdout (source : String)
  | preview (path : Option String) (content : String)
deriving DecidableEq, Repr

/-- What became of a request. -/
structure GenerateReport where
  template : String
  moduleName : String
  /-- The number of models rendered. -/
  modelCount : Nat
  /-- The names of the classes that are no models. -/
  skipped : List String
  delivery : Delivery
deriving DecidableEq, Repr

/-- Why a request has no report. -/
inductive DeliveryError where
  | generate (error : GenerateError)
  /-- The file cannot be written. -/
  | unwritten (path : String) (error : WriteError)
deriving DecidableEq, Repr

/-- The wording of an error. -/
def DeliveryError.message : DeliveryError → String
  | generate error => error.message
  | unwritten path _ => "Failed to write services to '" ++ path ++ "'"

/-- The classes that the describer says are no models. -/
def skippedClasses (generated : Generated) : List String :=
  (generated.diagnostics.filter fun d => d.severity == .warning && d.phase == "describe").filterMap
    (·.location)

/-- Bring generated source to its target. -/
def deliver (generated : Generated) (target : Target) (tree : Tree) :
    Except DeliveryError Delivery × Tree :=
  let file := target.output.map fun path => PendingFile.generated path generated.source
  if target.dryRun then
    (.ok (.preview target.output ((file.map PendingFile.content).getD generated.source)), tree)
  else
    match file with
    | none => (.ok (.stdout generated.source), tree)
    | some file =>
      match file.write tree with
      | (.ok (), tree) => (.ok (.written file.path), tree)
      | (.error error, tree) => (.error (.unwritten file.path error), tree)

/-- Answer a request with the built-in templates and bring the source to its target. -/
def generate (registry : Registry) (options : Options) (target : Target) (tree : Tree) :
    Except DeliveryError GenerateReport × Tree :=
  match Generation.generateServices registry Client.builtinTemplates options with
  | .error error => (.error (.generate error), tree)
  | .ok generated =>
    let (delivery, tree) := deliver generated target tree
    (delivery.map fun delivery => {
      template := generated.template
      moduleName := generated.moduleName
      modelCount := generated.modelCount
      skipped := skippedClasses generated
      delivery }, tree)

namespace GenerateReport

/-- A number of models, in words. -/
def modelsText (count : Nat) : String :=
  toString count ++ " model" ++ (if count = 1 then "" else "s")

/-- What to show. -/
def outputs (report : GenerateReport) : List Output :=
  let rendered := "'" ++ report.template ++ "' template"
  (if report.modelCount = 0 then
    [.warning "the registry has no models, the services will be empty"] else [])
  ++ match report.delivery with
    | .written path =>
      .status ("✓ Generated " ++ modelsText report.modelCount ++ " with the " ++ rendered ++ ": "
        ++ path)
      :: if report.skipped.isEmpty then []
        else [.status ("  skipped: " ++ String.intercalate ", " report.skipped)]
    | .stdout source => [.source source]
    | .preview path content => [
        .divider (path.getD "stdout"),
        .source content,
        .divider "Summary",
        .text (modelsText report.modelCount ++ " would be rendered with the " ++ rendered
          ++ " as module '" ++ report.moduleName ++ "'")]

end GenerateReport

/-- The models of a registry as JSON. -/
def describeJson (registry : Registry) : Except DescribeError String :=
  registry.describe.models.map fun models => models.toJson.pretty

end Report
end RestBindings
