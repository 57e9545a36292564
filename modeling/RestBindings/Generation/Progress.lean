import RestBindings.Generation.Generator

/-! # The journal of a generation

What describing and generating tell while they work.  Of the classes, each that is skipped is told,
and the number of models once all of them are described.
-/
namespace RestBindings

open Journal (Entry countField quotedField)

/-- What is told of classes that are described. -/
def describeEntries (classes : List RestClass) : List Entry :=
  let description := describe classes
  let skipped := description.skipped.map fun name => {
    level := .warn
    message := "Skipping class as it is not a Sira model"
    fields := [("model", name)] }
  match description.models with
  | .ok models => skipped ++ [{
      level := .debug
      message := "Described models"
      fields := [countField "models" models.size] }]
  | .error _ => skipped

namespace Generation

/-- What is told of a phase that runs. -/
def phaseEntry (name : String) : Entry where
  level := .debug
  message := "Running phase"
  fields := [quotedField "phase" name]

/-- What is told of classes that run through a pipeline without phases of the user. -/
def pipelineEntries (classes : List RestClass) : List Entry :=
  phaseEntry describePhase.name :: describeEntries classes

/-- What is told of an answer. -/
def Generated.entry (generated : Generated) : Entry where
  level := .info
  message := "Generated client services"
  fields := [quotedField "template" generated.template, ("module", generated.moduleName),
    countField "models" generated.modelCount]

/-- What is told of models that are rendered. -/
def templateEntries (template : Client.Template) (options : ResolvedOptions)
    (context : GenerationContext) : List Entry :=
  match context.models with
  | none => []
  | some models =>
    let rendered : Client.Context :=
      { moduleName := options.moduleName, models, urlBase := options.urlBase,
        resultful := context.resultful }
    match rendered.checkModuleName with
    | .ok _ => template.journal rendered
    | .error _ => []

/-- What is told of a request that is answered without phases of the user. -/
def generateEntries (registry : Registry) (templates : Client.TemplateSet) (options : Options) :
    List Entry :=
  match templates.get? options.resolve.template, registry.classes with
  | some template, .ok classes =>
    let rendering := match Pipeline.run {} classes registry.resultful with
      | .ok context => templateEntries template options.resolve context
      | .error _ => []
    let answered := match generateServices registry templates options with
      | .ok generated => [generated.entry]
      | .error _ => []
    pipelineEntries classes ++ rendering ++ answered
  | _, _ => []

end Generation
end RestBindings
