import RestBindings.Proofs.Generation.Skipped
import RestBindings.Report.Check
import RestBindings.Report.Generate

/-! # Checking, describing and generating agree

Three ways lead to the describer.  Describing asks it, and is told of the services that it skips.  A
check runs a pipeline and reads a report off the diagnostics.  Generating runs a pipeline too, and
reads the services off those diagnostics that the describer raised.  An error of the describer is
handed on by the first, becomes a line of the report in the second, and is wrapped twice in the
third.

What a check makes of models and of two models with one name is told by one lemma each
(`check_of_described`, `check_of_error`), and so is what generating makes of them
(`generate_eq_error_iff`, `generate_tells`).  Together they say that the three never disagree about
a document (`entry_points_agree`).
-/
namespace RestBindings
namespace Report

open Client (builtinTemplates)
open Files (Tree)
open Generation (GenerateError Generated Options generateServices)

/-- The wording of an error says which name two models share. -/
theorem message_duplicateModel_inj {name name' : String} :
    (DescribeError.duplicateModel name).message = (DescribeError.duplicateModel name').message ↔
      name = name' := by
  refine Iff.trans (String.append_left_inj "'") ?_
  exact String.append_right_inj "duplicate model name '"

/-! ## Checking -/

section Check

variable {path : String} {document : RegistryDocument}

/-- What a check does with the context that the describer leaves. -/
theorem check_eq : check path document =
    match (describe document.classes).models with
    | .error error => .ok { path, resultful := document.resultful, errors := [error.message] }
    | .ok models => .ok (CheckReport.ofContext { path, resultful := document.resultful }
        (Generation.describedContext document.classes document.resultful models)) := by
  rw [check, Generation.Pipeline.runRegistry]
  simp only [Registry.ofDocument, Registry.ofClasses, Generation.run_default,
    Generation.run_describePhase, List.nil_append]
  cases (describe document.classes).models <;> rfl

/-- A report on two models of one name lists nothing else. -/
theorem check_of_error {error : DescribeError}
    (h : (describe document.classes).models = .error error) :
    check path document =
      .ok { path, resultful := document.resultful, errors := [error.message] } := by
  rw [check_eq, h]

/-- A report on models that can be described lists them, and the services. -/
theorem check_of_described {models : Models} (h : (describe document.classes).models = .ok models) :
    check path document = .ok {
      path
      models := models.names
      skipped := serviceNames document.classes
      resultful := document.resultful } := by
  have hwarnings := Generation.filterMap_location_skipped (p := (·.severity == .warning))
    (fun _ => rfl) (serviceNames document.classes)
  have herrors : ((serviceNames document.classes).map Generation.skippedDiagnostic).filter
      (·.severity == .error) = [] := by
    rw [List.filter_eq_nil_iff, List.forall_mem_map]
    exact fun name _ => Bool.false_ne_true
  rw [check_eq, h]
  simp only [CheckReport.ofContext, Generation.GenerationContext.raised,
    Generation.describedContext, skipped_of_described h, hwarnings, herrors]
  rfl

end Check

/-! ## Generating -/

section Generate

variable {registry : Registry} {options : Options} {target : Target} {tree : Tree}

/-- **A request that fails writes nothing**, wherever its source was to go. -/
theorem generate_of_error {error : GenerateError}
    (h : generateServices registry builtinTemplates options = .error error) :
    generate registry options target tree = (.error (.generate error), tree) := by
  rw [generate, h]

/-- The report of an answer that went somewhere. -/
def reportOf (answer : Generated) (delivery : Delivery) : GenerateReport where
  template := answer.template
  moduleName := answer.moduleName
  modelCount := answer.modelCount
  skipped := skippedClasses answer
  delivery := delivery

/-- What becomes of an answer is what bringing it to its target gives. -/
theorem generate_of_answer {answer : Generated}
    (h : generateServices registry builtinTemplates options = .ok answer) :
    generate registry options target tree =
      ((deliver answer target tree).1.map (reportOf answer), (deliver answer target tree).2) := by
  rw [generate, h]
  rfl

/-- Source that is brought to its target has been generated. -/
theorem deliver_ne_generate_error (answer : Generated) (error : GenerateError) :
    (deliver answer target tree).1 ≠ .error (.generate error) := by
  rw [deliver]
  cases target.dryRun with
  | true => exact nofun
  | false =>
    cases target.output with
    | none => exact nofun
    | some path =>
      dsimp only [Option.map_some]
      rw [if_neg Bool.false_ne_true]
      split <;> exact nofun

/-- Generating fails with the errors of a request, and otherwise only where a file cannot be
written. -/
theorem generate_eq_error_iff {error : GenerateError} :
    (generate registry options target tree).1 = .error (.generate error) ↔
      generateServices registry builtinTemplates options = .error error := by
  cases hanswer : generateServices registry builtinTemplates options with
  | error e =>
    rw [generate_of_error hanswer]
    simp
  | ok answer =>
    rw [generate_of_answer hanswer]
    refine iff_of_false (fun h => ?_) nofun
    cases hdelivery : (deliver answer target tree).1 with
    | ok delivery =>
      rw [hdelivery] at h
      cases h
    | error e =>
      rw [hdelivery] at h
      cases h
      exact deliver_ne_generate_error answer error hdelivery

/-- A report of a request lists the services and counts the models. -/
theorem generate_tells {classes : List RestClass} {report : GenerateReport}
    (hclasses : registry.classes = .ok classes)
    (h : (generate registry options target tree).1 = .ok report) :
    ∃ models, (describe classes).models = .ok models ∧ report.skipped = serviceNames classes ∧
      report.modelCount = models.size := by
  cases hanswer : generateServices registry builtinTemplates options with
  | error e =>
    rw [generate_of_error hanswer] at h
    cases h
  | ok answer =>
    obtain ⟨models, hmodels, hdiagnostics, hcount⟩ :=
      Generation.answer_tells_skipped hclasses hanswer
    have hskipped : skippedClasses answer = serviceNames classes := by
      rw [skippedClasses, hdiagnostics]
      exact Generation.filterMap_location_skipped (fun _ => rfl) (serviceNames classes)
    rw [generate_of_answer hanswer] at h
    cases hdelivery : (deliver answer target tree).1 with
    | error e =>
      rw [hdelivery] at h
      cases h
    | ok delivery =>
      rw [hdelivery] at h
      cases h
      exact ⟨models, hmodels, hskipped, hcount⟩

end Generate

/-! ## Agreement -/

/-- **The three ways agree** on a registry: what describing gives, the report of a check, and what
becomes of a request. -/
structure Agreement (registry : Registry) (report : CheckReport)
    (outcome : Except DeliveryError GenerateReport) : Prop where
  /-- A check finds an error exactly when the models cannot be described. -/
  invalid_iff : report.errors ≠ [] ↔ ∃ error, registry.describe.models = .error error
  /-- It does so exactly when a request is refused as two models share a name. -/
  refused_iff : report.errors ≠ [] ↔
    ∃ name, outcome = .error (.generate (.describe (.duplicateModel name)))
  /-- The check and the describer name the same model. -/
  check_names : ∀ name, report.errors = [(DescribeError.duplicateModel name).message] ↔
    registry.describe.models = .error (.duplicateModel name)
  /-- The request and the describer name the same model. -/
  request_names : ∀ name, outcome = .error (.generate (.describe (.duplicateModel name))) ↔
    registry.describe.models = .error (.duplicateModel name)
  /-- A report with an error lists no models and no services. -/
  invalid_lists : report.errors ≠ [] → report.models = [] ∧ report.skipped = []
  /-- Any other report lists what the describer gives and what it tells. -/
  valid_lists : ∀ models, registry.describe.models = .ok models →
    report.models = models.names ∧ report.skipped = registry.describe.skipped
  /-- A request that succeeds skips the services of the report and renders its models. -/
  request_lists : ∀ generated, outcome = .ok generated →
    generated.skipped = report.skipped ∧ generated.modelCount = report.models.length

section Agreement

variable {registry : Registry} {report : CheckReport}
  {outcome : Except DeliveryError GenerateReport}
  (hrequest : ∀ error, outcome = .error (.generate (.describe error)) ↔
    registry.describe.models = .error error)
include hrequest

/-- The three ways agree where two models share a name. -/
theorem agreement_of_error {name : String}
    (hmodels : registry.describe.models = .error (.duplicateModel name))
    (herrors : report.errors = [(DescribeError.duplicateModel name).message])
    (hlists : report.models = [] ∧ report.skipped = []) : Agreement registry report outcome := by
  have hrefused : outcome = .error (.generate (.describe (.duplicateModel name))) :=
    (hrequest _).mpr hmodels
  have hinvalid : report.errors ≠ [] := by simp [herrors]
  exact {
    invalid_iff := iff_of_true hinvalid ⟨_, hmodels⟩
    refused_iff := iff_of_true hinvalid ⟨name, hrefused⟩
    check_names := fun name' => by
      rw [herrors, hmodels, List.cons.injEq, and_iff_left rfl, message_duplicateModel_inj,
        Except.error.injEq, DescribeError.duplicateModel.injEq]
    request_names := fun name' => hrequest _
    invalid_lists := fun _ => hlists
    valid_lists := fun models h => by
      rw [hmodels] at h
      cases h
    request_lists := fun generated h => by
      rw [hrefused] at h
      cases h }

/-- The three ways agree where models can be described. -/
theorem agreement_of_described {models : Models} (hmodels : registry.describe.models = .ok models)
    (herrors : report.errors = []) (hnames : report.models = models.names)
    (hskipped : report.skipped = registry.describe.skipped)
    (hlists : ∀ generated, outcome = .ok generated →
      generated.skipped = registry.describe.skipped ∧ generated.modelCount = models.size) :
    Agreement registry report outcome := by
  have hdescribed (error : DescribeError) : registry.describe.models ≠ .error error := by
    rw [hmodels]
    exact nofun
  have hvalid : ¬ report.errors ≠ [] := fun h => h herrors
  exact {
    invalid_iff := iff_of_false hvalid fun ⟨error, h⟩ => hdescribed error h
    refused_iff := iff_of_false hvalid fun ⟨name, h⟩ => hdescribed _ ((hrequest _).mp h)
    check_names := fun name => iff_of_false (by simp [herrors]) (hdescribed _)
    request_names := fun name => hrequest _
    invalid_lists := fun h => absurd h hvalid
    valid_lists := fun models' h => by
      obtain rfl := Except.ok.inj (hmodels.symm.trans h)
      exact ⟨hnames, hskipped⟩
    request_lists := fun generated h => by
      obtain ⟨hgenerated, hcount⟩ := hlists generated h
      refine ⟨hgenerated.trans hskipped.symm, ?_⟩
      rw [hcount, hnames, Models.names, List.length_map, Models.size] }

end Agreement

/-- **Checking, describing and generating agree** about every document, for every request that names
a built-in template.  The check itself always gives a report. -/
theorem entry_points_agree (path : String) (document : RegistryDocument) {options : Options}
    (target : Target) (tree : Tree) (h : options.resolve.template ∈ builtinTemplates.names) :
    ∃ report, check path document = .ok report ∧
      Agreement (.ofDocument document) report
        (generate (.ofDocument document) options target tree).1 := by
  have hdescribe : (Registry.ofDocument document).describe = describe document.classes := rfl
  have hrequest (error : DescribeError) :
      (generate (.ofDocument document) options target tree).1 =
          .error (.generate (.describe error)) ↔
        (Registry.ofDocument document).describe.models = .error error := by
    rw [generate_eq_error_iff, Generation.generateServices_eq_describe_error_iff h rfl, hdescribe]
  cases hmodels : (describe document.classes).models with
  | error error =>
    obtain ⟨name, rfl⟩ := eq_duplicateModel_of_describe hmodels
    exact ⟨_, check_of_error hmodels, agreement_of_error hrequest hmodels rfl ⟨rfl, rfl⟩⟩
  | ok models =>
    have hskipped : (Registry.ofDocument document).describe.skipped =
        serviceNames document.classes := skipped_of_described hmodels
    refine ⟨_, check_of_described hmodels,
      agreement_of_described hrequest hmodels rfl rfl hskipped.symm fun generated hgenerated => ?_⟩
    obtain ⟨models', hmodels', hgeneratedSkipped, hcount⟩ := generate_tells rfl hgenerated
    obtain rfl := Except.ok.inj (hmodels.symm.trans hmodels')
    exact ⟨hgeneratedSkipped.trans hskipped.symm, hcount⟩

/-- A shop whose service has the name of a model. -/
def shop : RegistryDocument where
  resultful := some true
  classes := [
    { name := "Product", ctor := some [], httpPath := "/products", methods := [] },
    { name := "Product", ctor := none, httpPath := "/mail", methods := [] },
    { name := "User", ctor := some [{ arg := "id" }], httpPath := "/users", methods := [] }]

/-- A shop with two models of one name. -/
def mergedShop : RegistryDocument where
  resultful := none
  classes := shop.classes ++ shop.classes.reverse

theorem entry_points_agree_shop :
    (Options.resolve {}).template ∈ builtinTemplates.names ∧
    (∃ report generated, check "shop.json" shop = .ok report ∧
      report.models = ["Product", "User"] ∧ report.skipped = ["Product"] ∧
      (generate (.ofDocument shop) {} {} {}).1 = .ok generated ∧
      Agreement (.ofDocument shop) report (.ok generated)) ∧
    ∃ report, check "shop.json" mergedShop = .ok report ∧
      report.errors = ["duplicate model name 'User'"] ∧
      Agreement (.ofDocument mergedShop) report (generate (.ofDocument mergedShop) {} {} {}).1 := by
  have hmem : (Options.resolve {}).template ∈ builtinTemplates.names := by decide
  have hshop : check "shop.json" shop = .ok {
      path := "shop.json"
      models := ["Product", "User"]
      skipped := ["Product"]
      resultful := some true } := rfl
  have hmerged : check "shop.json" mergedShop = .ok {
      path := "shop.json"
      resultful := none
      errors := ["duplicate model name 'User'"] } := rfl
  refine ⟨hmem, ?_, ?_⟩
  · obtain ⟨generated, hgenerated⟩ :
        ∃ generated, (generate (.ofDocument shop) {} {} {}).1 = .ok generated := ⟨_, rfl⟩
    obtain ⟨report, hcheck, hagree⟩ := entry_points_agree "shop.json" shop {} {} hmem
    obtain rfl := Except.ok.inj (hshop.symm.trans hcheck)
    exact ⟨_, generated, hshop, rfl, rfl, hgenerated, hgenerated ▸ hagree⟩
  · obtain ⟨report, hcheck, hagree⟩ := entry_points_agree "shop.json" mergedShop {} {} hmem
    obtain rfl := Except.ok.inj (hmerged.symm.trans hcheck)
    exact ⟨_, hmerged, rfl, hagree⟩

end Report
end RestBindings
