import RestBindings.Proofs.Generation.Outcome
import RestBindings.Proofs.Generation.Trace

/-! # The diagnostics of an answer

An answer hands out the diagnostics of the context that its pipeline left, whatever their severity:
nothing between the pipeline and the answer looks for errors among them.  So an error among the
diagnostics does not stop a generation, and an answer may have some.

Where they come from is read off the calls of the run (`mem_diagnostics_iff`): a diagnostic that was
not there at the start stands at the end when a call raised it and every call after that left it
standing.  Describing raises warnings only, so an error is always one of the user's phases and hooks
(`free_of_errors_iff`).
-/
namespace RestBindings
namespace Generation

open Client (Builtin builtinTemplates)

/-! ## Diagnostics along the calls of a run -/

namespace Made

/-- The call leaves a context with the diagnostic. -/
def LeavesStanding (c : Made) (d : Diagnostic) : Prop :=
  ∃ next, c.Leaves next ∧ d ∈ next.diagnostics

/-- The call raises the diagnostic. -/
def Raises (c : Made) (d : Diagnostic) : Prop := d ∉ c.2.diagnostics ∧ c.LeavesStanding d

end Made

/-- **A diagnostic stands** at the end of calls that were made: a call of a kind raised it, and every
call after that left it standing. -/
def Stands (kind : Call → Prop) (trace : List Made) (d : Diagnostic) : Prop :=
  ∃ before c after, trace = before ++ c :: after ∧ kind c.1 ∧ c.Raises d ∧
    ∀ b ∈ after, b.LeavesStanding d

variable {kind : Call → Prop} {d : Diagnostic}

theorem not_stands_nil : ¬ Stands kind [] d := by
  rintro ⟨before, c, after, h, -⟩
  cases before <;> cases h

theorem stands_cons_iff {c : Made} {trace : List Made} :
    Stands kind (c :: trace) d ↔
      (kind c.1 ∧ c.Raises d ∧ ∀ b ∈ trace, b.LeavesStanding d) ∨ Stands kind trace d := by
  constructor
  · rintro ⟨before, b, after, h, hkind, hraises, hafter⟩
    cases before with
    | nil =>
      cases h
      exact .inl ⟨hkind, hraises, hafter⟩
    | cons first before =>
      cases h
      exact .inr ⟨before, b, after, rfl, hkind, hraises, hafter⟩
  · rintro (⟨hkind, hraises, hafter⟩ | ⟨before, b, after, rfl, hkind, hraises, hafter⟩)
    · exact ⟨[], c, trace, rfl, hkind, hraises, hafter⟩
    · exact ⟨c :: before, b, after, rfl, hkind, hraises, hafter⟩

theorem leavesStanding_iff {c : Call} {context next : GenerationContext}
    (h : c.step context = .ok next) :
    Made.LeavesStanding (c, context) d ↔ d ∈ next.diagnostics := by
  constructor
  · rintro ⟨next', hnext, hd⟩
    rw [Made.Leaves, h] at hnext
    cases hnext
    exact hd
  · intro hd
    exact ⟨next, h, hd⟩

/-- **Which diagnostics there are at the end of calls**: those at the start that every call left
standing, and those that stand since a call raised them. -/
theorem mem_diagnostics_iff {calls : List Call} {context final : GenerationContext}
    (h : runCalls calls context = .ok final) :
    d ∈ final.diagnostics ↔
      (d ∈ context.diagnostics ∧ ∀ c ∈ made context calls, Made.LeavesStanding c d) ∨
        Stands (fun _ => True) (made context calls) d := by
  induction calls generalizing context with
  | nil =>
    cases h
    simp [made, not_stands_nil]
  | cons c rest ih =>
    cases hstep : c.step context with
    | error e =>
      rw [runCalls_cons_of_error hstep] at h
      cases h
    | ok next =>
      rw [runCalls_cons_of_ok hstep] at h
      rw [ih h, made_cons_of_ok hstep, List.forall_mem_cons, stands_cons_iff, Made.Raises,
        leavesStanding_iff hstep]
      -- what the first call left was there before it, or the call raised it
      by_cases hd : d ∈ context.diagnostics <;> simp [hd]

/-! ## The calls of the user -/

/-- The call that describes the models. -/
def describeCall : Call := ⟨.phase describePhase.name, describePhase.run⟩

/-- The call is of a phase or a plugin of the user. -/
def Pipeline.OfUser (pipeline : Pipeline) (c : Call) : Prop :=
  (∃ p ∈ pipeline.phases, c = ⟨.phase p.name, p.run⟩) ∨
    ∃ q ∈ pipeline.plugins, ∃ p ∈ pipeline.allPhases,
      c = ⟨.before q.name p.name, q.before p.name⟩ ∨ c = ⟨.after q.name p.name, q.after p.name⟩

theorem ofUser_of_mem_schedule {pipeline : Pipeline} {c : Call} (h : c ∈ pipeline.schedule)
    (hc : c ≠ describeCall) : pipeline.OfUser c := by
  obtain ⟨p, hp, hcall⟩ := List.mem_flatMap.mp h
  rw [Pipeline.phaseCalls, List.mem_append, List.mem_cons, List.mem_map, List.mem_map] at hcall
  rcases hcall with ⟨q, hq, rfl⟩ | rfl | ⟨q, hq, rfl⟩
  · exact .inr ⟨q, hq, p, hp, .inl rfl⟩
  · rcases List.mem_cons.mp hp with rfl | hp
    · exact absurd rfl hc
    · exact .inl ⟨p, hp, rfl⟩
  · exact .inr ⟨q, hq, p, hp, .inr rfl⟩

theorem mem_of_mem_made {calls : List Call} {context : GenerationContext} {c : Made}
    (h : c ∈ made context calls) : c.1 ∈ calls := by
  induction calls generalizing context with
  | nil => cases h
  | cons b rest ih =>
    rw [made] at h
    rcases List.mem_cons.mp h with rfl | h
    · exact List.mem_cons_self
    · split at h
      · exact List.mem_cons_of_mem b (ih h)
      · cases h

/-- Describing raises warnings, and nothing else. -/
theorem severity_of_describe_raises {context : GenerationContext}
    (h : Made.Raises (describeCall, context) d) : d.severity = .warning := by
  obtain ⟨hnew, next, hnext, hd⟩ := h
  have hnext : describePhase.run context = .ok next := hnext
  rw [run_describePhase] at hnext
  split at hnext
  · cases hnext
    obtain ⟨name, -, rfl⟩ := List.mem_map.mp ((List.mem_append.mp hd).resolve_left hnew)
    rfl
  · cases hnext

/-- An error that stands at the end of a run was raised by the user's phases and hooks. -/
theorem Stands.ofUser {pipeline : Pipeline} {context : GenerationContext}
    (h : Stands (fun _ => True) (made context pipeline.schedule) d) (hd : d.severity = .error) :
    Stands pipeline.OfUser (made context pipeline.schedule) d := by
  obtain ⟨before, c, after, htrace, -, hraises, hafter⟩ := h
  have hmem : c ∈ made context pipeline.schedule :=
    htrace ▸ List.mem_append_right before List.mem_cons_self
  refine ⟨before, c, after, htrace, ofUser_of_mem_schedule (mem_of_mem_made hmem) ?_, hraises, hafter⟩
  intro hc
  obtain ⟨call, received⟩ := c
  obtain rfl : call = describeCall := hc
  rw [severity_of_describe_raises hraises] at hd
  cases hd

theorem Stands.imp {kind' : Call → Prop} {trace : List Made} (h : Stands kind trace d)
    (himp : ∀ c, kind c → kind' c) : Stands kind' trace d := by
  obtain ⟨before, c, after, htrace, hkind, hraises, hafter⟩ := h
  exact ⟨before, c, after, htrace, himp c.1 hkind, hraises, hafter⟩

/-! ## Answers -/

/-- An answer has the diagnostics of the context that the pipeline left. -/
theorem diagnostics_of_generate {generator : Generator} {registry : Registry} {options : Options}
    {answer : Generated} (h : generator.generate registry options = .ok answer) :
    ∃ classes context, registry.classes = .ok classes ∧
      generator.pipeline.run classes registry.resultful = .ok context ∧
      generator.callsMade registry options =
        made { classes, resultful := registry.resultful } generator.pipeline.schedule ∧
      answer.diagnostics = context.diagnostics := by
  rw [Generator.generate_eq] at h
  split at h
  · cases h
  next template htemplate =>
    split at h
    · cases h
    next classes hclasses =>
      split at h
      · cases h
      next context hcontext =>
        refine ⟨classes, context, hclasses, hcontext, ?_, (answer_of_renderContext h).1⟩
        simp only [Generator.callsMade, htemplate, hclasses]

/-- A built-in template answers when the pipeline leaves models that it can render. -/
theorem exists_answer_of_run {t : Builtin} {pipeline : Pipeline} {registry : Registry}
    {options : Options} {classes : List RestClass} {context : GenerationContext} {models : Models}
    (ht : options.resolve.template = t.template.name) (hclasses : registry.classes = .ok classes)
    (hcontext : pipeline.run classes registry.resultful = .ok context)
    (hmodels : context.models = some models)
    (hname : Text.isBlankText options.resolve.moduleName = false)
    (hall : t.RendersAll models.toList) :
    ∃ answer, Generator.generate { templates := builtinTemplates, pipeline } registry options =
      .ok answer := by
  let rendered := renderedContext options.resolve models context.resultful
  obtain ⟨source, hsource⟩ := (t.exists_render_iff rendered).mpr ⟨hname, hall⟩
  have hcheck : rendered.checkModuleName = .ok () := Client.checkModuleName_eq_ok_iff.mpr hname
  have hrender : (rendered.checkModuleName.bind fun _ => t.template.render rendered) = .ok source := by
    rw [hcheck]
    exact hsource
  have hgenerate : Generator.generate { templates := builtinTemplates, pipeline } registry options =
      Generator.renderContext t.template options.resolve context := by
    rw [Generator.generate_eq]
    simp only [ht, get?_builtinTemplates, hclasses, hcontext]
  rw [hgenerate, Generator.renderContext_eq, hmodels]
  simp only [rendered, renderedContext] at hrender
  simp only [hrender, Except.ok.injEq, exists_eq']

theorem hasErrors_eq_false_iff {context : GenerationContext} :
    context.hasErrors = false ↔ ∀ d ∈ context.diagnostics, d.severity ≠ .error := by
  simp [GenerationContext.hasErrors]

/-- **When an answer is free of errors.**  The diagnostics of an answer are those that its pipeline
left, so there is no error among them exactly when that context has none.  And that is so exactly when
none stands that a phase or a plugin of the user raised. -/
theorem free_of_errors_iff {generator : Generator} {registry : Registry} {options : Options}
    {answer : Generated} (h : generator.generate registry options = .ok answer) :
    ((∀ d ∈ answer.diagnostics, d.severity ≠ .error) ↔
      ∃ classes context, registry.classes = .ok classes ∧
        generator.pipeline.run classes registry.resultful = .ok context ∧
        context.hasErrors = false) ∧
    ((∀ d ∈ answer.diagnostics, d.severity ≠ .error) ↔
      ∀ d, Stands generator.pipeline.OfUser (generator.callsMade registry options) d →
        d.severity ≠ .error) := by
  obtain ⟨classes, context, hclasses, hcontext, hcalls, hdiagnostics⟩ := diagnostics_of_generate h
  rw [hdiagnostics]
  refine ⟨?_, ?_⟩
  · rw [← hasErrors_eq_false_iff]
    constructor
    · intro hfree
      exact ⟨classes, context, hclasses, hcontext, hfree⟩
    · rintro ⟨classes', context', hclasses', hcontext', hfree⟩
      obtain rfl := Except.ok.inj (hclasses.symm.trans hclasses')
      obtain rfl := Except.ok.inj (hcontext.symm.trans hcontext')
      exact hfree
  · rw [Pipeline.run, Pipeline.runFrom_eq_runCalls] at hcontext
    rw [hcalls]
    -- a run starts without diagnostics, so all there are stand since a call raised them
    have hstands (d : Diagnostic) : d ∈ context.diagnostics ↔
        Stands (fun _ => True)
          (made { classes, resultful := registry.resultful } generator.pipeline.schedule) d := by
      rw [mem_diagnostics_iff hcontext]
      simp
    constructor
    · intro hfree d hd
      exact hfree d ((hstands d).mpr (hd.imp fun _ _ => trivial))
    · intro hfree d hd herror
      exact hfree d (((hstands d).mp hd).ofUser herror) herror

/-- A phase that finds an error and goes on. -/
def lintPhase : Phase where
  name := "lint"
  run context := .ok (context.raise
    { severity := .error, phase := "lint", message := "model names must be documented" })

/-- A plugin that keeps warnings only. -/
def warningsOnly : Plugin where
  name := "warnings-only"
  after _ context := .ok { context with diagnostics := context.raised .warning }

/-- A generation with a pipeline, without classes and options. -/
def generateNothing (pipeline : Pipeline) : Except GenerateError Generated :=
  Generator.generate { templates := builtinTemplates, pipeline } (.ofClasses [] none) {}

theorem exists_answer_of_nothing {pipeline : Pipeline} {context : GenerationContext}
    (hcontext : pipeline.run [] none = .ok context) (hmodels : context.models = some .empty) :
    ∃ answer, generateNothing pipeline = .ok answer := by
  refine exists_answer_of_run (t := .angular) rfl rfl hcontext hmodels (by decide) ?_
  exact ⟨List.nodup_nil, by simp⟩

theorem free_of_errors_warnings_only :
    ∃ answer, generateNothing { phases := [lintPhase], plugins := [warningsOnly] } = .ok answer ∧
      ∀ d ∈ answer.diagnostics, d.severity ≠ .error := by
  have hcontext : Pipeline.run { phases := [lintPhase], plugins := [warningsOnly] } [] none =
      .ok { classes := [], resultful := none, models := some .empty } := rfl
  obtain ⟨answer, hanswer⟩ := exists_answer_of_nothing hcontext rfl
  obtain ⟨hiff, -⟩ := free_of_errors_iff hanswer
  exact ⟨answer, hanswer, hiff.mpr ⟨[], _, rfl, hcontext, rfl⟩⟩

/-- An error that a phase raised is handed out with an answer. -/
theorem lint_error_in_answer :
    ∃ answer, generateNothing { phases := [lintPhase] } = .ok answer ∧
      ∃ d ∈ answer.diagnostics, d.severity = .error := by
  have hcontext : Pipeline.run { phases := [lintPhase] } [] none = lintPhase.run
      { classes := [], resultful := none, models := some .empty } := rfl
  obtain ⟨answer, hanswer⟩ := exists_answer_of_nothing hcontext rfl
  refine ⟨answer, hanswer, ?_⟩
  obtain ⟨classes, context, hclasses, hrun, -, hdiagnostics⟩ := diagnostics_of_generate hanswer
  cases hclasses
  obtain rfl := Except.ok.inj (hcontext.symm.trans hrun)
  rw [hdiagnostics]
  exact ⟨_, List.mem_cons_self, rfl⟩

end Generation
end RestBindings
