import RestBindings.Client.Builtin
import RestBindings.Generation.Options
import RestBindings.Generation.Pipeline

/-! # Generating client services

A request names a template and is answered with source text: the template is looked up, the registry
lists its classes, the pipeline describes them, and the template renders the models.  Each stage may
fail, and the first that does gives the error; nothing is handed out then.
-/
namespace RestBindings
namespace Generation

open Client (Template TemplateSet RenderError)

/-- Why a request fails. -/
inductive GenerateError where
  /-- The registry gives no classes. -/
  | registry (error : RegistryError)
  /-- The models cannot be described. -/
  | describe (error : DescribeError)
  /-- There is no template with this name. -/
  | templateNotFound (name : String) (available : List String)
  /-- The models cannot be rendered. -/
  | render (error : RenderError)
  /-- A phase or a plugin gave up, or took the models away. -/
  | pipeline (message : String)
deriving DecidableEq, Repr

namespace GenerateError

/-- The wording of an error. -/
def message : GenerateError → String
  | registry error => error.message
  | describe error => error.message
  | templateNotFound name _ => "template '" ++ name ++ "' not found"
  | render error => error.message
  | pipeline message => "generation pipeline aborted: " ++ message

/-- The code an error is known by, if it is not that of another error. -/
def code? : GenerateError → Option String
  | templateNotFound .. => some "sira::template_not_found"
  | pipeline _ => some "sira::pipeline"
  | _ => none

/-- Advice on an error, if it is not that of another error. -/
def help? : GenerateError → Option String
  | templateNotFound _ available =>
    some ("available templates: " ++ String.intercalate ", " available)
  | _ => none

/-- The error of a pipeline that aborts; a message is followed by those of its causes. -/
def ofAbort : Abort → GenerateError
  | .registry error => .registry error
  | .describe error => .describe error
  | .other message causes => .pipeline (String.intercalate ": " (message :: causes))

end GenerateError

/-- The answer to a request. -/
structure Generated where
  /-- The source text. -/
  source : String
  /-- The diagnostics in the order in which they were raised. -/
  diagnostics : List Diagnostic
  /-- The name of the template. -/
  template : String
  /-- The file extension of the source. -/
  extension : String
  moduleName : String
  /-- The number of models rendered. -/
  modelCount : Nat
deriving DecidableEq, Repr

/-- Templates to choose from and a pipeline to describe models with. -/
structure Generator where
  templates : TemplateSet
  pipeline : Pipeline := {}

/-- Means to carry a request out: `F ε` are computations that may fail with `ε`, and what is not the
generator's own, the calls of a pipeline and the templates, is left to such computations. -/
structure Means (F : Type → Type → Type) where
  /-- The computation that has an outcome already. -/
  done {ε α : Type} : Except ε α → F ε α
  /-- A computation with its error put another way. -/
  mapError {ε ε' α : Type} : (ε → ε') → F ε α → F ε' α
  call : Call → GenerationContext → F Abort GenerationContext
  render : Template → Client.Context → F RenderError String

/-- To make the calls and render the templates, and do nothing else. -/
def Means.plain : Means Except where
  done := id
  mapError := Except.mapError
  call c := c.step
  render template := template.render

namespace Generator

section Means

variable {F : Type → Type → Type} [∀ ε, Monad (F ε)] (means : Means F)

/-- Render the models of a context, by some means. -/
def renderContextWith (template : Template) (options : ResolvedOptions)
    (context : GenerationContext) : F GenerateError Generated :=
  match context.models with
  | none => means.done (.error (.pipeline "no model descriptions were produced"))
  | some models => do
    let rendered : Client.Context :=
      { moduleName := options.moduleName, models, urlBase := options.urlBase,
        resultful := context.resultful }
    means.mapError .render (means.done rendered.checkModuleName)
    let source ← means.mapError .render (means.render template rendered)
    pure {
      source
      diagnostics := context.diagnostics
      template := template.name
      extension := template.extension
      moduleName := options.moduleName
      modelCount := models.size }

variable (generator : Generator)

/-- Answer a request, by some means. -/
def generateWith (registry : Registry) (options : Options) : F GenerateError Generated :=
  let options := options.resolve
  match generator.templates.get? options.template with
  | none => means.done (.error (.templateNotFound options.template generator.templates.names))
  | some template => do
    let classes ← means.done (registry.classes.mapError .registry)
    let context ← means.mapError .ofAbort
      (generator.pipeline.runWith means.call { classes, resultful := registry.resultful })
    renderContextWith means template options context

end Means

/-- Render the models of a context. -/
def renderContext (template : Template) (options : ResolvedOptions)
    (context : GenerationContext) : Except GenerateError Generated :=
  renderContextWith .plain template options context

variable (generator : Generator)

/-- Answer a request. -/
def generate (registry : Registry) (options : Options) : Except GenerateError Generated :=
  generator.generateWith .plain registry options

/-- What rendering a context comes to, stage by stage. -/
theorem renderContext_eq (template : Template) (options : ResolvedOptions)
    (context : GenerationContext) :
    renderContext template options context =
      match context.models with
      | none => .error (.pipeline "no model descriptions were produced")
      | some models =>
        let rendered : Client.Context :=
          { moduleName := options.moduleName, models, urlBase := options.urlBase,
            resultful := context.resultful }
        match rendered.checkModuleName.bind fun _ => template.render rendered with
        | .error error => .error (.render error)
        | .ok source => .ok {
            source
            diagnostics := context.diagnostics
            template := template.name
            extension := template.extension
            moduleName := options.moduleName
            modelCount := models.size } := by
  rw [renderContext, renderContextWith]
  cases context.models with
  | none => rfl
  | some models =>
    dsimp only [Means.plain, id]
    generalize Client.Context.mk options.moduleName models options.urlBase context.resultful =
      rendered
    cases rendered.checkModuleName with
    | error error => rfl
    | ok u =>
      rw [Except.bind]
      cases template.render rendered <;> rfl

/-- What a request comes to, stage by stage. -/
theorem generate_eq (registry : Registry) (options : Options) :
    generator.generate registry options =
      match generator.templates.get? options.resolve.template with
      | none => .error (.templateNotFound options.resolve.template generator.templates.names)
      | some template =>
        match registry.classes with
        | .error error => .error (.registry error)
        | .ok classes =>
          match generator.pipeline.run classes registry.resultful with
          | .error abort => .error (.ofAbort abort)
          | .ok context => renderContext template options.resolve context := by
  rw [generate, generateWith]
  cases generator.templates.get? options.resolve.template with
  | none => rfl
  | some template =>
    obtain ⟨classes, resultful⟩ := registry
    cases classes with
    | error error => rfl
    | ok classes =>
      -- the loops with the calls themselves are the run
      show ((generator.pipeline.run classes resultful).mapError GenerateError.ofAbort >>=
        renderContext template options.resolve) = _
      dsimp only
      cases generator.pipeline.run classes resultful <;> rfl

/-- The calls of the pipeline that a request makes: none without a template or without classes. -/
def callsMade (registry : Registry) (options : Options) : List (Call × GenerationContext) :=
  match generator.templates.get? options.resolve.template, registry.classes with
  | some _, .ok classes =>
    made { classes, resultful := registry.resultful } generator.pipeline.schedule
  | _, _ => []

end Generator

/-- Answer a request with templates and no phases of the user. -/
def generateServices (registry : Registry) (templates : TemplateSet) (options : Options) :
    Except GenerateError Generated :=
  Generator.generate { templates } registry options

end Generation
end RestBindings
