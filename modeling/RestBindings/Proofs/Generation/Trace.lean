import Mathlib.Data.List.Chain
import RestBindings.Generation.Generator
import RestBindings.Proofs.Sequence

/-! # The calls of a run

A pipeline is a loop over phases with two loops over plugins inside it, and every call may abort all
of them.  Told as a list the calls are simple: `Pipeline.schedule` has all of them in order, and
`made` those that are made.  That the loops make these calls, and no others, is seen by the same
loops (`Pipeline.runWith`) with means that note a call before they make it (`Noted`): they give what a
run gives, and note the calls that are made, each with the context that it gets.  A request is
followed to its template in the same way (`Generator.noted`).

The main statement, `calls_in_order`, says what that means: every call gets the context that the call
before it left, and the calls that are made are all of the schedule, or all up to the first that
aborts.  A request whose pipeline aborts never comes to its template.
-/
namespace RestBindings
namespace Generation

/-! ## Calls one after the other -/

/-- Make calls one after the other. -/
def runCalls (calls : List Call) (context : GenerationContext) : Except Abort GenerationContext :=
  calls.foldlM (fun context c => c.step context) context

theorem runCalls_cons_of_ok {c : Call} {context next : GenerationContext}
    (h : c.step context = .ok next) (rest : List Call) :
    runCalls (c :: rest) context = runCalls rest next := by
  rw [runCalls, List.foldlM_cons, h]
  rfl

theorem runCalls_cons_of_error {c : Call} {context : GenerationContext} {e : Abort}
    (h : c.step context = .error e) (rest : List Call) : runCalls (c :: rest) context = .error e := by
  rw [runCalls, List.foldlM_cons, h]
  rfl

theorem made_cons_of_ok {c : Call} {context next : GenerationContext}
    (h : c.step context = .ok next) (rest : List Call) :
    made context (c :: rest) = (c, context) :: made next rest := by
  rw [made, h]

theorem made_cons_of_error {c : Call} {context : GenerationContext} {e : Abort}
    (h : c.step context = .error e) (rest : List Call) : made context (c :: rest) = [(c, context)] := by
  rw [made, h]

/-- A call with the context that it gets. -/
abbrev Made := Call × GenerationContext

/-- The call leaves a context. -/
def Made.Leaves (c : Made) (next : GenerationContext) : Prop := c.1.step c.2 = .ok next

/-- The call aborts. -/
def Made.Aborts (c : Made) (e : Abort) : Prop := c.1.step c.2 = .error e

/-- **Calls made in order** from a context, with what comes of them. -/
structure InOrder (calls : List Call) (start : GenerationContext) (trace : List Made)
    (outcome : Except Abort GenerationContext) : Prop where
  /-- The first call gets the context at the start. -/
  starts : ∀ c ∈ trace.head?, c.2 = start
  /-- Every other call gets the context that the call before it left. -/
  passes_on : trace.IsChain fun c d => Made.Leaves c d.2
  /-- If no call aborts, all calls are made, once each, and the outcome is the context that the last
  of them left, which without calls is the context at the start. -/
  of_leaves : (∀ c ∈ trace, ∃ next, Made.Leaves c next) → trace.map Prod.fst = calls ∧
    ∃ final, outcome = .ok final ∧ (trace = [] → final = start) ∧
      ∀ c ∈ trace.getLast?, Made.Leaves c final
  /-- If a call aborts, the calls that are made are the first ones up to it, none of those before it
  aborts, and the outcome is its error. -/
  of_aborts : ∀ c ∈ trace, ∀ e, Made.Aborts c e → outcome = .error e ∧
    ∃ earlier, trace = earlier ++ [c] ∧ trace.map Prod.fst <+: calls ∧
      ∀ b ∈ earlier, ∃ next, Made.Leaves b next

namespace InOrder

theorem nil (start : GenerationContext) : InOrder [] start [] (.ok start) where
  starts := by simp
  passes_on := .nil
  of_leaves _ := ⟨rfl, start, rfl, fun _ => rfl, by simp⟩
  of_aborts := by simp

variable {c : Call} {rest : List Call} {start next : GenerationContext} {trace : List Made}
  {outcome : Except Abort GenerationContext}

theorem cons_of_error {e : Abort} (h : c.step start = .error e) :
    InOrder (c :: rest) start [(c, start)] (.error e) where
  starts := by simp
  passes_on := .singleton _
  of_leaves hall := by
    obtain ⟨next, hnext⟩ := hall _ List.mem_cons_self
    rw [Made.Leaves, h] at hnext
    cases hnext
  of_aborts d hd e' he := by
    obtain rfl := List.mem_singleton.mp hd
    rw [Made.Aborts, h] at he
    cases he
    exact ⟨rfl, [], rfl, ⟨rest, rfl⟩, by simp⟩

/-- A call that does not abort comes before the calls that are made from what it left. -/
theorem cons_of_ok (h : c.step start = .ok next) (hrest : InOrder rest next trace outcome) :
    InOrder (c :: rest) start ((c, start) :: trace) outcome where
  starts := by simp
  passes_on := by
    refine hrest.passes_on.cons fun d hd => ?_
    rw [Made.Leaves, hrest.starts d hd]
    exact h
  of_leaves hall := by
    rw [List.forall_mem_cons] at hall
    obtain ⟨hcalls, final, houtcome, hnone, hlast⟩ := hrest.of_leaves hall.2
    refine ⟨by rw [List.map_cons, hcalls], final, houtcome, by simp, ?_⟩
    cases trace with
    | nil =>
      intro d hd
      obtain rfl := Option.some.inj hd
      rw [Made.Leaves, hnone rfl]
      exact h
    | cons d trace => exact hlast
  of_aborts d hd e he := by
    rcases List.mem_cons.mp hd with rfl | hd
    · rw [Made.Aborts, h] at he
      cases he
    · obtain ⟨houtcome, earlier, rfl, hcalls, hearlier⟩ := hrest.of_aborts d hd e he
      refine ⟨houtcome, (c, start) :: earlier, rfl, ?_, ?_⟩
      · exact List.cons_prefix_cons.mpr ⟨rfl, hcalls⟩
      · exact List.forall_mem_cons.mpr ⟨⟨next, h⟩, hearlier⟩

end InOrder

/-- The calls that are made from a list are made in order, with what comes of the list. -/
theorem inOrder_made (calls : List Call) (context : GenerationContext) :
    InOrder calls context (made context calls) (runCalls calls context) := by
  induction calls generalizing context with
  | nil => exact .nil context
  | cons c rest ih =>
    cases h : c.step context with
    | ok next =>
      rw [made_cons_of_ok h, runCalls_cons_of_ok h]
      exact .cons_of_ok h (ih next)
    | error e =>
      rw [made_cons_of_error h, runCalls_cons_of_error h]
      exact .cons_of_error h

/-! ## The loops of a pipeline -/

namespace Pipeline

variable {m : Type → Type} [Monad m] [LawfulMonad m]
  (perform : Call → GenerationContext → m GenerationContext) (pipeline : Pipeline)

theorem runPhaseWith_eq_foldlM (context : GenerationContext) (p : Phase) :
    pipeline.runPhaseWith perform context p =
      (pipeline.phaseCalls p).foldlM (fun context c => perform c context) context := by
  rw [runPhaseWith, phaseCalls, List.foldlM_append, List.foldlM_map]
  simp only [List.foldlM_cons, List.foldlM_map]

/-- **The loops go through the schedule.** -/
theorem runWith_eq_foldlM (context : GenerationContext) :
    pipeline.runWith perform context =
      pipeline.schedule.foldlM (fun context c => perform c context) context := by
  rw [runWith, schedule]
  -- over the phases that remain, from any context
  induction pipeline.allPhases generalizing context with
  | nil => rfl
  | cons p rest ih =>
    rw [List.foldlM_cons, List.flatMap_cons, List.foldlM_append, runPhaseWith_eq_foldlM]
    simp only [ih]

theorem runFrom_eq_runCalls (context : GenerationContext) :
    pipeline.runFrom context = runCalls pipeline.schedule context := by
  rw [runFrom, runWith_eq_foldlM]
  rfl

end Pipeline

/-! ## Runs that note their events -/

/-- What a generation does that its user can see. -/
inductive Event where
  /-- It makes a call. -/
  | call (c : Made)
  /-- It renders a template. -/
  | render (template : Client.Template) (context : Client.Context)

/-- A computation that may fail, with the events on its way. -/
structure Noted (ε α : Type) where
  events : List Event
  outcome : Except ε α

namespace Noted

variable {ε ε' α β γ : Type}

/-- Go on with what a computation gives; one that fails is the end. -/
def bind (x : Noted ε α) (f : α → Noted ε β) : Noted ε β :=
  match x.outcome with
  | .ok a => ⟨x.events ++ (f a).events, (f a).outcome⟩
  | .error e => ⟨x.events, .error e⟩

instance : Monad (Noted ε) where
  pure a := ⟨[], .ok a⟩
  bind := bind

/-- A computation without events. -/
def silent (outcome : Except ε α) : Noted ε α := ⟨[], outcome⟩

/-- A computation with its error put another way. -/
def mapError (f : ε → ε') (x : Noted ε α) : Noted ε' α := ⟨x.events, x.outcome.mapError f⟩

/-- Make a call. -/
def call (c : Call) (context : GenerationContext) : Noted Abort GenerationContext :=
  ⟨[.call (c, context)], c.step context⟩

/-- Render a template. -/
def render (template : Client.Template) (context : Client.Context) :
    Noted Client.RenderError String :=
  ⟨[.render template context], template.render context⟩

theorem bind_of_ok {events : List Event} {a : α} (f : α → Noted ε β) :
    ((⟨events, .ok a⟩ : Noted ε α) >>= f) = ⟨events ++ (f a).events, (f a).outcome⟩ := rfl

theorem bind_of_error {events : List Event} {e : ε} (f : α → Noted ε β) :
    ((⟨events, .error e⟩ : Noted ε α) >>= f) = ⟨events, .error e⟩ := rfl

theorem bind_pure (x : Noted ε α) : x >>= pure = x := by
  obtain ⟨events, outcome⟩ := x
  cases outcome with
  | error e => rfl
  | ok a => exact congrArg (Noted.mk · _) (List.append_nil events)

theorem bind_bind (x : Noted ε α) (f : α → Noted ε β) (g : β → Noted ε γ) :
    x >>= f >>= g = x >>= fun a => f a >>= g := by
  obtain ⟨events, outcome⟩ := x
  cases outcome with
  | error e => rfl
  | ok a =>
    rw [bind_of_ok, bind_of_ok]
    obtain ⟨later, outcome⟩ := f a
    cases outcome with
    | error e => rfl
    | ok b => simp only [bind_of_ok, List.append_assoc]

instance : LawfulMonad (Noted ε) :=
  LawfulMonad.mk' (Noted ε) bind_pure (fun _ _ => rfl) bind_bind

end Noted

/-- To note the calls and what is rendered. -/
def Means.noted : Means Noted where
  done := .silent
  mapError := .mapError
  call := .call
  render := .render

/-- Calls that are noted: those that are made, with what comes of them. -/
theorem foldlM_call (calls : List Call) (context : GenerationContext) :
    calls.foldlM (fun context c => Noted.call c context) context =
      ⟨(made context calls).map .call, runCalls calls context⟩ := by
  induction calls generalizing context with
  | nil => rfl
  | cons c rest ih =>
    rw [List.foldlM_cons, Noted.call]
    cases h : c.step context with
    | ok next =>
      rw [Noted.bind_of_ok, ih, made_cons_of_ok h, runCalls_cons_of_ok h]
      rfl
    | error e =>
      rw [Noted.bind_of_error, made_cons_of_error h, runCalls_cons_of_error h]
      rfl

/-- The calls of a pipeline over classes, with the contexts that they get. -/
def Pipeline.trace (pipeline : Pipeline) (classes : List RestClass) (resultful : Option Bool) :
    List Made :=
  made { classes, resultful } pipeline.schedule

/-- A run notes the calls of its trace. -/
theorem runWith_call (pipeline : Pipeline) (classes : List RestClass) (resultful : Option Bool) :
    pipeline.runWith Noted.call { classes, resultful } =
      ⟨(pipeline.trace classes resultful).map .call, pipeline.run classes resultful⟩ := by
  rw [Pipeline.runWith_eq_foldlM, foldlM_call, Pipeline.trace, Pipeline.run,
    Pipeline.runFrom_eq_runCalls]

namespace Generator

/-- Answer a request, and note the calls and what is rendered. -/
def noted (generator : Generator) (registry : Registry) (options : Options) :
    Noted GenerateError Generated :=
  generator.generateWith .noted registry options

/-- Rendering gives what it gives without notes, and comes to the template once at most. -/
theorem renderContextWith_noted_cases (template : Client.Template) (options : ResolvedOptions)
    (context : GenerationContext) :
    (renderContextWith .noted template options context).outcome =
      renderContext template options context ∧
    ((renderContextWith .noted template options context).events = [] ∨
      ∃ rendered,
        (renderContextWith .noted template options context).events = [.render template rendered]) := by
  rw [renderContextWith, renderContext_eq]
  cases context.models with
  | none => exact ⟨rfl, .inl rfl⟩
  | some models =>
    dsimp only
    generalize Client.Context.mk options.moduleName models options.urlBase context.resultful =
      rendered
    simp only [Means.noted, Noted.silent, Noted.mapError, Noted.render]
    cases rendered.checkModuleName with
    | error e => exact ⟨rfl, .inl rfl⟩
    | ok u =>
      rw [Except.bind]
      cases template.render rendered with
      | error e => exact ⟨rfl, .inr ⟨rendered, rfl⟩⟩
      | ok source => exact ⟨rfl, .inr ⟨rendered, rfl⟩⟩

/-- The stages of a request whose template and classes are there. -/
theorem noted_eq {generator : Generator} {options : Options} {template : Client.Template}
    (h : generator.templates.get? options.resolve.template = some template)
    (classes : List RestClass) (resultful : Option Bool) :
    generator.noted { classes := .ok classes, resultful } options =
      ((⟨(generator.pipeline.trace classes resultful).map .call,
        generator.pipeline.run classes resultful⟩ : Noted Abort GenerationContext).mapError
          .ofAbort >>= renderContextWith .noted template options.resolve) := by
  rw [noted, generateWith, ← runWith_call]
  simp only [h]
  rfl

/-- A request gives what it gives without notes. -/
theorem outcome_noted (generator : Generator) (registry : Registry) (options : Options) :
    (generator.noted registry options).outcome = generator.generate registry options := by
  rw [generate_eq]
  cases htemplate : generator.templates.get? options.resolve.template with
  | none =>
    rw [noted, generateWith, htemplate]
    rfl
  | some template =>
    obtain ⟨classes, resultful⟩ := registry
    cases classes with
    | error e =>
      rw [noted, generateWith, htemplate]
      rfl
    | ok classes =>
      rw [noted_eq htemplate]
      dsimp only
      cases generator.pipeline.run classes resultful with
      | error e => rfl
      | ok context => exact (renderContextWith_noted_cases template options.resolve context).1

end Generator

/-- **The calls of a run come in order**: those of the schedule, each with the context that the call
before it left, all of them or all up to the first that aborts.  A request makes the same calls, and
only if none aborts it comes to its template. -/
theorem calls_in_order (pipeline : Pipeline) (classes : List RestClass) (resultful : Option Bool) :
    pipeline.runWith Noted.call { classes, resultful } =
      ⟨(pipeline.trace classes resultful).map .call, pipeline.run classes resultful⟩ ∧
    InOrder pipeline.schedule { classes, resultful } (pipeline.trace classes resultful)
      (pipeline.run classes resultful) ∧
    ∀ (templates : Client.TemplateSet) (options : Options) (template : Client.Template),
      templates.get? options.resolve.template = some template →
      let generator : Generator := { templates, pipeline }
      let registry : Registry := { classes := .ok classes, resultful }
      (generator.noted registry options).outcome = generator.generate registry options ∧
      generator.callsMade registry options = pipeline.trace classes resultful ∧
      (∀ e, pipeline.run classes resultful = .error e →
        generator.noted registry options =
          ⟨(pipeline.trace classes resultful).map .call, .error (.ofAbort e)⟩) ∧
      (∀ context, pipeline.run classes resultful = .ok context →
        ∃ renderings, (generator.noted registry options).events =
            (pipeline.trace classes resultful).map .call ++ renderings ∧
          (renderings = [] ∨ ∃ rendered, renderings = [.render template rendered])) := by
  refine ⟨runWith_call pipeline classes resultful, ?_, fun templates options template h => ?_⟩
  · rw [Pipeline.run, Pipeline.runFrom_eq_runCalls]
    exact inOrder_made _ _
  · refine ⟨Generator.outcome_noted _ _ _, ?_, fun e he => ?_, fun context hcontext => ?_⟩
    · simp only [Generator.callsMade, h, Pipeline.trace]
    · rw [Generator.noted_eq h, he]
      rfl
    · rw [Generator.noted_eq h, hcontext]
      exact ⟨_, rfl, (Generator.renderContextWith_noted_cases template options.resolve context).2⟩

end Generation
end RestBindings
