import RestBindings.Generation.Context

/-! # The pipeline

A pipeline runs **phases** over a context, first the one that describes the models and then those
the user added, and calls the hooks of **plugins** before and after each.  Every phase and every
hook is a step: a function on contexts that may abort.  The first step that aborts ends the run.
Describing is written as an **action**, which works on the context in place, so that it says what is
left of the context where it aborts.

`Pipeline.runWith` has the loops of a run, with anything done for a **call** of a phase or a hook, and
`Pipeline.run` makes the calls.  `Pipeline.schedule` is the same as one flat list of calls, and `made`
says which of the calls in a list are made from a context, each with the context it gets.
-/
namespace RestBindings
namespace Generation

/-- A function on contexts that may abort. -/
abbrev Step := GenerationContext → Except Abort GenerationContext

/-- A named step of a generation. -/
structure Phase where
  name : String
  run : Step

/-- Hooks around every phase, each given the name of the phase. -/
structure Plugin where
  name : String
  before : (phase : String) → Step := fun _ => .ok
  after : (phase : String) → Step := fun _ => .ok

/-- The diagnostic for a class that is no model. -/
def skippedDiagnostic (className : String) : Diagnostic where
  severity := .warning
  phase := "describe"
  message := "skipping '" ++ className ++ "' as it is not a Sira model"
  location := some className

/-- A step that works on a context in place: it goes through or aborts, and leaves a context either
way. -/
abbrev Action := EStateM Abort GenerationContext Unit

/-- The step that an action takes.  A run that aborts asks for nothing more, so the context that the
action leaves then is dropped. -/
def Action.step (action : Action) : Step := fun context =>
  match action.run context with
  | .ok () left => .ok left
  | .error abort _ => .error abort

/-- Raise the warnings on classes that are skipped, one after the other. -/
def raiseSkipped (names : List String) : Action :=
  names.forM fun name => modify (·.raise (skippedDiagnostic name))

/-- Describe the models of a context, and raise a warning for every class skipped.  The describer
tells of those while it walks, and may fail after that, so what it tells is kept back until it has
gone through. -/
def describeModels : Action := do
  let description := describe (← get).classes
  match description.models with
  | .error error => throw (.describe error)
  | .ok models =>
    raiseSkipped description.skipped
    modify ({ · with models := some models })

/-- The phase that describes the models. -/
def describePhase : Phase where
  name := "describe"
  run := describeModels.step

/-- Which part of a pipeline a call is for. -/
inductive CallSite where
  | before (plugin phase : String)
  | phase (phase : String)
  | after (plugin phase : String)
deriving DecidableEq, Repr

/-- One call of a run. -/
structure Call where
  site : CallSite
  step : Step

/-- Phases and plugins added by the user, in order. -/
structure Pipeline where
  phases : List Phase := []
  plugins : List Plugin := []

namespace Pipeline

variable (pipeline : Pipeline)

/-- Add a phase after the others. -/
def phase (p : Phase) : Pipeline := { pipeline with phases := pipeline.phases ++ [p] }

/-- Add a plugin after the others. -/
def plugin (p : Plugin) : Pipeline := { pipeline with plugins := pipeline.plugins ++ [p] }

/-- All phases in the order in which they run. -/
def allPhases : List Phase := describePhase :: pipeline.phases

/-- The names of the phases in the order in which they run. -/
def phaseNames : List String := pipeline.allPhases.map (·.name)

section Loops

variable {m : Type → Type} [Monad m] (perform : Call → GenerationContext → m GenerationContext)

/-- A phase between the hooks of the plugins, with anything done for a call. -/
def runPhaseWith (context : GenerationContext) (p : Phase) : m GenerationContext := do
  let context ← pipeline.plugins.foldlM
    (fun context q => perform ⟨.before q.name p.name, q.before p.name⟩ context) context
  let context ← perform ⟨.phase p.name, p.run⟩ context
  pipeline.plugins.foldlM
    (fun context q => perform ⟨.after q.name p.name, q.after p.name⟩ context) context

/-- All phases from a context, with anything done for a call. -/
def runWith (context : GenerationContext) : m GenerationContext :=
  pipeline.allPhases.foldlM (pipeline.runPhaseWith perform) context

end Loops

/-- Run all phases from a context. -/
def runFrom (context : GenerationContext) : Except Abort GenerationContext :=
  pipeline.runWith (fun c => c.step) context

/-- Run all phases over classes. -/
def run (classes : List RestClass) (resultful : Option Bool) : Except Abort GenerationContext :=
  pipeline.runFrom { classes, resultful }

/-- Run all phases over the classes of a registry. -/
def runRegistry (registry : Registry) : Except Abort GenerationContext :=
  match registry.classes with
  | .ok classes => pipeline.run classes registry.resultful
  | .error error => .error (.registry error)

/-- The calls around and of one phase. -/
def phaseCalls (p : Phase) : List Call :=
  pipeline.plugins.map (fun q => ⟨.before q.name p.name, q.before p.name⟩)
    ++ ⟨.phase p.name, p.run⟩
    :: pipeline.plugins.map (fun q => ⟨.after q.name p.name, q.after p.name⟩)

/-- All calls of a run that does not abort, in order. -/
def schedule : List Call := pipeline.allPhases.flatMap pipeline.phaseCalls

end Pipeline

/-- The calls of a list that are made from a context, each with the context it gets: all up to the
first that aborts. -/
def made (context : GenerationContext) : List Call → List (Call × GenerationContext)
  | [] => []
  | c :: rest =>
    (c, context) :: match c.step context with
      | .ok context => made context rest
      | .error _ => []

end Generation
end RestBindings
