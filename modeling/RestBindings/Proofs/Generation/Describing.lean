import RestBindings.Generation.Pipeline
import RestBindings.Proofs.Description

/-! # Describing a context in place

The phase that describes the models works on a context that it shares with the rest of the run.  It
asks the describer first, which tells of the classes that it skips while it walks, and which may stop
at a repeated name with some of them told already.  Nothing of that is written before the walk is
over: then the warnings are raised one by one (`run_raiseSkipped`) and the models are set.  So the
phase does all of its work or leaves the context as it found it (`describing_is_atomic`).
-/
namespace RestBindings
namespace Generation

variable (context : GenerationContext)

/-- Warnings that are raised one by one stand at the end, in order. -/
theorem run_raiseSkipped (names : List String) :
    (raiseSkipped names).run context =
      .ok () { context with
        diagnostics := context.diagnostics ++ names.map skippedDiagnostic } := by
  induction names generalizing context with
  | nil =>
    rw [List.map_nil, List.append_nil]
    rfl
  | cons name rest ih =>
    have hstep : (raiseSkipped (name :: rest)).run context =
        (raiseSkipped rest).run (context.raise (skippedDiagnostic name)) := rfl
    rw [hstep, ih, GenerationContext.raise, List.append_assoc, List.map_cons,
      List.singleton_append]

/-- **What describing does with a context**: it sets the models and adds the warnings, or it aborts
with the error of the describer and leaves the context alone. -/
theorem run_describeModels :
    describeModels.run context =
      match (describe context.classes).models with
      | .ok models => .ok () { context with
          models := some models
          diagnostics :=
            context.diagnostics ++ (describe context.classes).skipped.map skippedDiagnostic }
      | .error error => .error (.describe error) context := by
  rw [describeModels, EStateM.run_bind, EStateM.run_get]
  cases hmodels : (describe context.classes).models with
  | error error =>
    simp only [hmodels]
    rfl
  | ok models =>
    simp only [hmodels, EStateM.run_bind, run_raiseSkipped, EStateM.run_modify]

/-- The phase hands on what describing leaves of the context. -/
theorem run_describePhase :
    describePhase.run context =
      match (describe context.classes).models with
      | .ok models => .ok { context with
          models := some models
          diagnostics :=
            context.diagnostics ++ (describe context.classes).skipped.map skippedDiagnostic }
      | .error error => .error (.describe error) := by
  have hstep : describePhase.run context = describeModels.step context := rfl
  rw [hstep, Action.step, run_describeModels]
  cases (describe context.classes).models <;> rfl

/-- The warnings on the services of classes, one by one. -/
theorem map_skippedDiagnostic_serviceNames (classes : List RestClass) :
    (serviceNames classes).map skippedDiagnostic =
      (classes.filter (·.ctor.isNone)).map fun c => skippedDiagnostic c.name := by
  have hservice (c : RestClass) : (!c.isModel) = c.ctor.isNone := Option.not_isSome c.ctor
  rw [serviceNames, List.map_map, List.filter_congr fun c _ => hservice c]
  rfl

/-- **Describing is atomic.**  It goes through exactly when no two models of the context share a name.
Then the classes and the setting of the application are as before, the models are what the describer
gives for the classes, and one warning for each class without a constructor stands after the earlier
diagnostics, in the order of the classes and located at the name.  Otherwise a model repeats the name
of a model before it; the describer has told of the services up to there, and the context is as
before.  The phase goes through with what describing leaves. -/
theorem describing_is_atomic :
    ((∃ left, describeModels.run context = .ok () left) ↔
      (modelNames context.classes).Nodup) ∧
    (∀ left, describeModels.run context = .ok () left →
      left.classes = context.classes ∧ left.resultful = context.resultful ∧
      (∃ models, (describe context.classes).models = .ok models ∧ left.models = some models) ∧
      left.diagnostics = context.diagnostics ++
        (context.classes.filter (·.ctor.isNone)).map fun c => {
          severity := .warning
          phase := "describe"
          message := "skipping '" ++ c.name ++ "' as it is not a Sira model"
          location := some c.name }) ∧
    (∀ abort left, describeModels.run context = .error abort left →
      left = context ∧
      ∃ before c after, context.classes = before ++ c :: after ∧ c.isModel = true ∧
        c.name ∈ modelNames before ∧ (describe context.classes).skipped = serviceNames before ∧
        abort = .describe (.duplicateModel c.name)) ∧
    (∀ left, describePhase.run context = .ok left ↔ describeModels.run context = .ok () left) := by
  rw [run_describePhase, run_describeModels]
  by_cases hnodup : (modelNames context.classes).Nodup
  · obtain ⟨models, -, heq⟩ := describe_of_nodup hnodup
    rw [heq]
    refine ⟨iff_of_true ⟨_, rfl⟩ hnodup, ?_, ?_, ?_⟩
    · intro left h
      cases h
      exact ⟨rfl, rfl, ⟨models, rfl, rfl⟩,
        congrArg (context.diagnostics ++ ·) (map_skippedDiagnostic_serviceNames context.classes)⟩
    · intro abort left h
      cases h
    · intro left
      simp only [Except.ok.injEq, EStateM.Result.ok.injEq, true_and]
  · obtain ⟨before, c, after, hsplit, hc, -, hmem, heq⟩ := describe_of_not_nodup hnodup
    rw [heq]
    refine ⟨iff_of_false ?_ hnodup, ?_, ?_, ?_⟩
    · rintro ⟨left, h⟩
      cases h
    · intro left h
      cases h
    · intro abort left h
      cases h
      exact ⟨rfl, before, c, after, hsplit, hc, hmem, rfl, rfl⟩
    · intro left
      exact iff_of_false (by simp) (by simp)

/-- A service that the describer tells of before it fails leaves no trace. -/
example (models : Option Models) (diagnostics : List Diagnostic) :
    let context : GenerationContext := {
      classes := [
        { name := "Mailer", ctor := none, httpPath := "/mail", methods := [] },
        { name := "Product", ctor := some [], httpPath := "/products", methods := [] },
        { name := "Product", ctor := some [], httpPath := "/goods", methods := [] }]
      resultful := none
      models
      diagnostics }
    (describe context.classes).skipped = ["Mailer"] ∧
      describeModels.run context = .error (.describe (.duplicateModel "Product")) context :=
  ⟨rfl, rfl⟩

end Generation
end RestBindings
