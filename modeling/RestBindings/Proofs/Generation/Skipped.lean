import RestBindings.Proofs.Description.Dependence
import RestBindings.Proofs.Generation.Outcome

/-! # Classes that are skipped

A class without a constructor has no part in a generated client.  The describer skips it, whether or
not a model has its name and whatever methods say that it owns them, and all that an answer tells of
it is a warning that is located at its name (`answer_tells_skipped`).  So a request about classes is
answered as one about the models among them is, by any template: with the same error, or with the
same client (`services_leave_client`).
-/
namespace RestBindings
namespace Generation

open Client (TemplateSet)

variable {classes : List RestClass} {resultful : Option Bool} {templates : TemplateSet}
  {options : Options}

/-- The warnings of the describer are located at the classes skipped. -/
theorem filterMap_location_skipped {p : Diagnostic → Bool}
    (h : ∀ name, p (skippedDiagnostic name) = true) (names : List String) :
    ((names.map skippedDiagnostic).filter p).filterMap (·.location) = names := by
  have hall : ∀ d ∈ names.map skippedDiagnostic, p d = true :=
    List.forall_mem_map.mpr fun name _ => h name
  rw [List.filter_eq_self.mpr hall, List.filterMap_map]
  exact List.filterMap_some

/-- **What an answer tells** is a warning for every service, in order, and how many models there
are. -/
theorem answer_tells_skipped {registry : Registry} {answer : Generated}
    (hclasses : registry.classes = .ok classes)
    (h : generateServices registry templates options = .ok answer) :
    ∃ models, (describe classes).models = .ok models ∧
      answer.diagnostics = (serviceNames classes).map skippedDiagnostic ∧
      answer.modelCount = models.size := by
  by_cases hmem : options.resolve.template ∈ templates.names
  · obtain ⟨template, htemplate⟩ := exists_get?_of_mem hmem
    rw [generateServices_of_get? htemplate hclasses] at h
    cases hmodels : (describe classes).models with
    | error e =>
      rw [hmodels] at h
      cases h
    | ok models =>
      rw [hmodels] at h
      obtain ⟨hdiagnostics, models', hmodels', hcount⟩ := answer_of_renderContext h
      cases hmodels'
      rw [describedContext, skipped_of_described hmodels] at hdiagnostics
      exact ⟨models, rfl, hdiagnostics, hcount⟩
  · rw [generateServices_of_not_mem hmem] at h
    cases h

/-- Without its services a list of classes has the answer that it has with them, less the
diagnostics. -/
theorem generateServices_filter_isModel (classes : List RestClass) (resultful : Option Bool)
    (templates : TemplateSet) (options : Options) :
    generateServices (.ofClasses (classes.filter RestClass.isModel) resultful) templates options =
      (generateServices (.ofClasses classes resultful) templates options).map
        fun answer => { answer with diagnostics := [] } := by
  by_cases hmem : options.resolve.template ∈ templates.names
  · obtain ⟨template, htemplate⟩ := exists_get?_of_mem hmem
    rw [generateServices_of_get? htemplate rfl, generateServices_of_get? htemplate rfl,
      describe_filter_isModel]
    cases (describe classes).models with
    | error e => rfl
    | ok models =>
      have htold : (describedContext (classes.filter RestClass.isModel) resultful
          models).diagnostics = [] := by
        rw [describedContext, describe_filter_isModel]
        rfl
      -- the contexts that are rendered differ in their classes and their diagnostics only
      have hmodels : (describedContext (classes.filter RestClass.isModel) resultful models).models =
          (describedContext classes resultful models).models := rfl
      refine (renderContext_congr hmodels rfl).trans ?_
      rw [htold]
      rfl
  · rw [generateServices_of_not_mem hmem, generateServices_of_not_mem hmem]
    rfl

/-- **Services leave the client alone.**  With or without them, a request is refused with the same
error or answered with the same client.  What is missing without them is the warnings, one for every
service in the order of the classes. -/
theorem services_leave_client (classes : List RestClass) (resultful : Option Bool)
    (templates : TemplateSet) (options : Options) :
    (∃ e, generateServices (.ofClasses classes resultful) templates options = .error e ∧
      generateServices (.ofClasses (classes.filter RestClass.isModel) resultful) templates options =
        .error e) ∨
    ∃ answer, generateServices (.ofClasses classes resultful) templates options = .ok answer ∧
      answer.diagnostics = (serviceNames classes).map skippedDiagnostic ∧
      generateServices (.ofClasses (classes.filter RestClass.isModel) resultful) templates options =
        .ok { answer with diagnostics := [] } := by
  have hmodels := generateServices_filter_isModel classes resultful templates options
  cases hwhole : generateServices (.ofClasses classes resultful) templates options with
  | error e =>
    rw [hwhole] at hmodels
    exact .inl ⟨e, rfl, hmodels⟩
  | ok answer =>
    rw [hwhole] at hmodels
    obtain ⟨-, -, hdiagnostics, -⟩ := answer_tells_skipped rfl hwhole
    exact .inr ⟨answer, rfl, hdiagnostics, hmodels⟩

end Generation
end RestBindings
