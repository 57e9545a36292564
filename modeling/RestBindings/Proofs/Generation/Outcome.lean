import RestBindings.Generation.Generator
import RestBindings.Proofs.Client.Rendering
import RestBindings.Proofs.Generation.Describing

/-! # The outcome of a generation

A request with a built-in template passes four stages: the registry gives classes, the classes are
described, the name of the module is looked at, and the models are rendered.  Each stage is opened by
one lemma, and `generateServices_outcome` puts them together: it says exactly when there is an answer
and, by the first stage that fails, what the error is.  A template that is not there is an error
before all of them.
-/
namespace RestBindings
namespace Generation

open Client (Builtin TemplateSet builtinTemplates)

/-! ## Rendering a context -/

section RenderContext

variable {template : Client.Template} {options : ResolvedOptions}
  {context context' : GenerationContext}

/-- An answer hands out the diagnostics of its context, and counts its models. -/
theorem answer_of_renderContext {answer : Generated}
    (h : Generator.renderContext template options context = .ok answer) :
    answer.diagnostics = context.diagnostics ∧
      ∃ models, context.models = some models ∧ answer.modelCount = models.size := by
  rw [Generator.renderContext_eq] at h
  split at h
  · cases h
  next models hmodels =>
    dsimp only at h
    split at h
    · cases h
    · cases h
      exact ⟨rfl, models, hmodels, rfl⟩

/-- Rendering does not fail as the describer does. -/
theorem renderContext_ne_describe_error {error : DescribeError} :
    Generator.renderContext template options context ≠ .error (.describe error) := by
  rw [Generator.renderContext_eq]
  split
  · exact nofun
  · dsimp only
    split <;> exact nofun

/-- All that an answer has of the classes and the diagnostics of its context is the diagnostics. -/
theorem renderContext_congr (hmodels : context'.models = context.models)
    (hresultful : context'.resultful = context.resultful) :
    Generator.renderContext template options context' =
      (Generator.renderContext template options context).map
        fun answer => { answer with diagnostics := context'.diagnostics } := by
  rw [Generator.renderContext_eq, Generator.renderContext_eq, hmodels, hresultful]
  cases context.models with
  | none => rfl
  | some models =>
    dsimp only
    split <;> rfl

end RenderContext

/-! ## The stages -/

/-- Without phases of the user and without plugins, the pipeline describes the models. -/
theorem run_default (classes : List RestClass) (resultful : Option Bool) :
    Pipeline.run {} classes resultful = describePhase.run { classes, resultful } := by
  simp [Pipeline.run, Pipeline.runFrom, Pipeline.runWith, Pipeline.allPhases,
    Pipeline.runPhaseWith]

theorem get?_eq_none_of_not_mem {templates : TemplateSet} {name : String}
    (h : name ∉ templates.names) : templates.get? name = none := by
  rw [TemplateSet.get?, List.find?_eq_none]
  intro t ht heq
  exact h (beq_iff_eq.mp heq ▸ List.mem_map_of_mem ht)

theorem exists_get?_of_mem {templates : TemplateSet} {name : String} (h : name ∈ templates.names) :
    ∃ template, templates.get? name = some template := by
  obtain ⟨t, ht, rfl⟩ := List.mem_map.mp h
  rw [← Option.isSome_iff_exists, TemplateSet.get?, List.find?_isSome]
  exact ⟨t, ht, beq_self_eq_true t.name⟩

theorem get?_builtinTemplates (t : Builtin) :
    builtinTemplates.get? t.template.name = some t.template := by
  cases t <;> rfl

section Stages

variable {registry : Registry} {templates : TemplateSet} {options : Options}

/-- A template that is not there is an error, whatever the registry gives. -/
theorem generateServices_of_not_mem (h : options.resolve.template ∉ templates.names) :
    generateServices registry templates options =
      .error (.templateNotFound options.resolve.template templates.names) := by
  rw [generateServices, Generator.generate_eq]
  simp only [get?_eq_none_of_not_mem h]

/-- The context that the describer leaves of described classes. -/
def describedContext (classes : List RestClass) (resultful : Option Bool) (models : Models) :
    GenerationContext where
  classes := classes
  resultful := resultful
  models := some models
  diagnostics := (describe classes).skipped.map skippedDiagnostic

/-- A request for any template that is there describes the classes and renders what comes of it. -/
theorem generateServices_of_get? {template : Client.Template} {classes : List RestClass}
    (htemplate : templates.get? options.resolve.template = some template)
    (hclasses : registry.classes = .ok classes) :
    generateServices registry templates options =
      match (describe classes).models with
      | .error e => .error (.describe e)
      | .ok models => Generator.renderContext template options.resolve
          (describedContext classes registry.resultful models) := by
  rw [generateServices, Generator.generate_eq]
  simp only [htemplate, hclasses, run_default, run_describePhase, List.nil_append]
  cases (describe classes).models <;> rfl

/-- A request for a template that is there fails with the errors of the describer exactly when the
describer does. -/
theorem generateServices_eq_describe_error_iff {classes : List RestClass} {error : DescribeError}
    (hmem : options.resolve.template ∈ templates.names)
    (hclasses : registry.classes = .ok classes) :
    generateServices registry templates options = .error (.describe error) ↔
      (describe classes).models = .error error := by
  obtain ⟨template, htemplate⟩ := exists_get?_of_mem hmem
  rw [generateServices_of_get? htemplate hclasses]
  cases (describe classes).models with
  | error e => simp
  | ok models => exact iff_of_false renderContext_ne_describe_error nofun

variable {t : Builtin} (ht : options.resolve.template = t.template.name)
include ht

theorem get?_of_builtin :
    builtinTemplates.get? options.resolve.template = some t.template := by
  rw [ht, get?_builtinTemplates]

theorem generateServices_of_registry_error {e : RegistryError} (h : registry.classes = .error e) :
    generateServices registry builtinTemplates options = .error (.registry e) := by
  rw [generateServices, Generator.generate_eq]
  simp only [ht, get?_builtinTemplates, h]

variable {classes : List RestClass} (hclasses : registry.classes = .ok classes)
include hclasses

theorem generateServices_of_describe_error {e : DescribeError}
    (h : (describe classes).models = .error e) :
    generateServices registry builtinTemplates options = .error (.describe e) := by
  rw [generateServices_of_get? (get?_of_builtin ht) hclasses, h]

/-- What templates are given of described models. -/
def renderedContext (options : ResolvedOptions) (models : Models) (resultful : Option Bool) :
    Client.Context where
  moduleName := options.moduleName
  models := models
  urlBase := options.urlBase
  resultful := resultful

variable {models : Models} (hmodels : (describe classes).models = .ok models)
include hmodels

/-- The answer with the source of a template. -/
theorem generateServices_of_described :
    generateServices registry builtinTemplates options =
      match ((renderedContext options.resolve models registry.resultful).checkModuleName.bind
        fun _ => t.template.render (renderedContext options.resolve models registry.resultful)) with
      | .error error => .error (.render error)
      | .ok source => .ok {
          source
          diagnostics := (describe classes).skipped.map skippedDiagnostic
          template := t.template.name
          extension := t.template.extension
          moduleName := options.resolve.moduleName
          modelCount := models.size } := by
  rw [generateServices_of_get? (get?_of_builtin ht) hclasses, hmodels]
  exact Generator.renderContext_eq _ _ _

theorem generateServices_of_isBlank (h : Text.isBlankText options.resolve.moduleName = true) :
    generateServices registry builtinTemplates options =
      .error (.render (.invalidModuleName options.resolve.moduleName)) := by
  have hcheck : (renderedContext options.resolve models registry.resultful).checkModuleName =
      .error (.invalidModuleName options.resolve.moduleName) :=
    Client.checkModuleName_of_isBlank h
  rw [generateServices_of_described ht hclasses hmodels, hcheck]
  rfl

/-- Under a name that is not blank, there is an answer when the template can render the models, and
otherwise its error, which is about them. -/
theorem generateServices_of_not_isBlank (h : Text.isBlankText options.resolve.moduleName = false) :
    (t.RendersAll (describedModels classes) ∧
      ∃ answer, generateServices registry builtinTemplates options = .ok answer) ∨
    (¬ t.RendersAll (describedModels classes) ∧ ∃ e, e.OfModels ∧
      t.template.render (renderedContext options.resolve models registry.resultful) = .error e ∧
      generateServices registry builtinTemplates options = .error (.render e)) := by
  have hcheck :
      (renderedContext options.resolve models registry.resultful).checkModuleName = .ok () :=
    Client.checkModuleName_eq_ok_iff.mpr h
  obtain ⟨-, htoList⟩ := describe_eq_ok_iff.mp hmodels
  have hrender := t.exists_render_iff (renderedContext options.resolve models registry.resultful)
  rw [show (renderedContext options.resolve models registry.resultful).models = models from rfl,
    htoList] at hrender
  rw [generateServices_of_described ht hclasses hmodels, hcheck]
  cases hsource : t.template.render
      (renderedContext options.resolve models registry.resultful) with
  | ok source =>
    obtain ⟨-, hall⟩ := hrender.mp ⟨source, hsource⟩
    exact .inl ⟨hall, _, rfl⟩
  | error e =>
    refine .inr ⟨fun hall => ?_, e, t.failsWith_render_of_models h e hsource, rfl, rfl⟩
    obtain ⟨source, hok⟩ := hrender.mpr ⟨h, hall⟩
    rw [hsource] at hok
    cases hok

end Stages

/-- There is an answer about classes whose models the template can render. -/
theorem exists_answer_of_rendersAll {registry : Registry} {options : Options} {t : Builtin}
    {classes : List RestClass} (ht : options.resolve.template = t.template.name)
    (hclasses : registry.classes = .ok classes) (hnodup : (modelNames classes).Nodup)
    (hname : Text.isBlankText options.resolve.moduleName = false)
    (hall : t.RendersAll (describedModels classes)) :
    ∃ answer, generateServices registry builtinTemplates options = .ok answer := by
  obtain ⟨models, -, hdescribe⟩ := describe_of_nodup hnodup
  have hmodels : (describe classes).models = .ok models := by rw [hdescribe]
  obtain ⟨-, hanswer⟩ | ⟨hno, -⟩ := generateServices_of_not_isBlank ht hclasses hmodels hname
  · exact hanswer
  · exact absurd hall hno

/-- The source of an answer is what the template renders of the described models. -/
theorem exists_rendered_of_generateServices {registry : Registry} {options : Options} {t : Builtin}
    (ht : options.resolve.template = t.template.name) {answer : Generated}
    (h : generateServices registry builtinTemplates options = .ok answer) :
    ∃ classes models, registry.classes = .ok classes ∧ (describe classes).models = .ok models ∧
      t.template.render (renderedContext options.resolve models registry.resultful) =
        .ok answer.source := by
  cases hclasses : registry.classes with
  | error e =>
    rw [generateServices_of_registry_error ht hclasses] at h
    cases h
  | ok classes =>
    cases hmodels : (describe classes).models with
    | error e =>
      rw [generateServices_of_describe_error ht hclasses hmodels] at h
      cases h
    | ok models =>
      rw [generateServices_of_described ht hclasses hmodels] at h
      cases hsource :
          (renderedContext options.resolve models registry.resultful).checkModuleName.bind fun _ =>
            t.template.render (renderedContext options.resolve models registry.resultful) with
      | error e =>
        rw [hsource] at h
        cases h
      | ok source =>
        rw [hsource] at h
        cases h
        obtain ⟨-, -, hrender⟩ := bind_eq_ok_iff.mp hsource
        exact ⟨classes, models, rfl, hmodels, hrender⟩

/-- What the template renders of the described models is the source of an answer. -/
theorem exists_answer_of_render {registry : Registry} {options : Options} {t : Builtin}
    {classes : List RestClass} {models : Models} {source : String}
    (ht : options.resolve.template = t.template.name) (hclasses : registry.classes = .ok classes)
    (hmodels : (describe classes).models = .ok models)
    (h : t.template.render (renderedContext options.resolve models registry.resultful) =
      .ok source) :
    ∃ answer, generateServices registry builtinTemplates options = .ok answer ∧
      answer.source = source := by
  obtain ⟨hname, -⟩ := t.exists_render_iff _ |>.mp ⟨source, h⟩
  have hcheck :
      (renderedContext options.resolve models registry.resultful).checkModuleName = .ok () :=
    Client.checkModuleName_eq_ok_iff.mpr hname
  rw [generateServices_of_described ht hclasses hmodels, hcheck]
  exact ⟨_, by rw [Except.bind, h], rfl⟩

/-! ## The outcome -/

/-- **The outcome of a generation with a built-in template.**  There is an answer exactly when the
registry gives classes, no two models share a name, the name of the module is not blank and the
template can render the models.  Otherwise the error is that of the first of these that fails, in
this order.  A template that is not there is an error whatever the registry gives. -/
theorem generateServices_outcome (registry : Registry) (options : Options) :
    (∀ t : Builtin, options.resolve.template = t.template.name →
      ((∃ answer, generateServices registry builtinTemplates options = .ok answer) ↔
        ∃ classes, registry.classes = .ok classes ∧ (modelNames classes).Nodup ∧
          Text.isBlankText options.resolve.moduleName = false ∧
          t.RendersAll (describedModels classes)) ∧
      (∀ e, registry.classes = .error e →
        generateServices registry builtinTemplates options = .error (.registry e)) ∧
      (∀ classes, registry.classes = .ok classes →
        (¬ (modelNames classes).Nodup → ∃ e, (describe classes).models = .error e ∧
          generateServices registry builtinTemplates options = .error (.describe e)) ∧
        ((modelNames classes).Nodup → Text.isBlankText options.resolve.moduleName = true →
          generateServices registry builtinTemplates options =
            .error (.render (.invalidModuleName options.resolve.moduleName))) ∧
        ((modelNames classes).Nodup → Text.isBlankText options.resolve.moduleName = false →
          ¬ t.RendersAll (describedModels classes) → ∃ models e, e.OfModels ∧
            (describe classes).models = .ok models ∧
            t.template.render (renderedContext options.resolve models registry.resultful) =
              .error e ∧
            generateServices registry builtinTemplates options = .error (.render e)))) ∧
    (∀ templates : TemplateSet, options.resolve.template ∉ templates.names →
      generateServices registry templates options =
        .error (.templateNotFound options.resolve.template templates.names)) := by
  refine ⟨fun t ht => ?_, fun templates h => generateServices_of_not_mem h⟩
  -- the first stage that fails decides, so the cases follow the stages
  cases hclasses : registry.classes with
  | error e =>
    have herror := generateServices_of_registry_error ht hclasses
    refine ⟨iff_of_false (by simp [herror]) (by simp), ?_, nofun⟩
    rintro e' h
    cases h
    exact herror
  | ok classes =>
    simp only [Except.ok.injEq, exists_eq_left', forall_eq', reduceCtorEq, false_implies,
      implies_true, true_and]
    by_cases hnodup : (modelNames classes).Nodup
    · obtain ⟨models, htoList, hdescribe⟩ := describe_of_nodup hnodup
      have hmodels : (describe classes).models = .ok models := by rw [hdescribe]
      cases hblank : Text.isBlankText options.resolve.moduleName with
      | true =>
        have herror := generateServices_of_isBlank ht hclasses hmodels hblank
        exact ⟨by simp [herror], fun h => absurd hnodup h, fun _ _ => herror, nofun⟩
      | false =>
        obtain ⟨hall, answer, heq⟩ | ⟨hall, e, hof, hrender, herror⟩ :=
          generateServices_of_not_isBlank ht hclasses hmodels hblank
        · exact ⟨iff_of_true ⟨answer, heq⟩ ⟨hnodup, rfl, hall⟩, fun h => absurd hnodup h, nofun,
            fun _ _ h => absurd hall h⟩
        · exact ⟨by simp [herror, hall], fun h => absurd hnodup h, nofun,
            fun _ _ _ => ⟨models, e, hof, hmodels, hrender, herror⟩⟩
    · obtain ⟨before, c, after, -, -, -, -, hdescribe⟩ := describe_of_not_nodup hnodup
      have hmodels : (describe classes).models = .error (.duplicateModel c.name) := by
        rw [hdescribe]
      have herror := generateServices_of_describe_error ht hclasses hmodels
      exact ⟨by simp [herror, hnodup], fun _ => ⟨_, hmodels, herror⟩, fun h => absurd h hnodup,
        fun h => absurd h hnodup⟩

end Generation
end RestBindings
