import RestBindings.Proofs.Files.Writing
import RestBindings.Proofs.Report.Agreement

/-! # Where generated source goes

A request that fails writes nothing, as all that can fail in generating comes before the files are
touched.  What a request that is answered brings to its target is one text (`deliveredText`), the same
in a dry run and in the run without: the dry run shows it, and the run prints it or puts it into the
file.  Only a file can refuse it, one that cannot be written, and then nothing but directories above
the file is new.

`source_goes_to_target` compares the two runs on the same input.  Standard output gets the text if
there is no file, and nothing if there is one, since all else that a report says of a run without a
preview is for standard error.
-/
namespace RestBindings
namespace Report

open Client (Builtin builtinTemplates)
open Files (Tree generatedHeader)
open Generation (Generated Options generateServices renderedContext)

/-! ## What a report shows on standard output -/

section Shown

variable {report : GenerateReport}

theorem stdoutOf_append (outputs outputs' : List Output) :
    Output.stdoutOf (outputs ++ outputs') = Output.stdoutOf outputs ++ Output.stdoutOf outputs' := by
  rw [Output.stdoutOf, List.map_append, String.join_append]
  rfl

/-- The warning about a registry without models is for standard error. -/
theorem stdoutOf_warning (report : GenerateReport) (message : String) :
    Output.stdoutOf (if report.modelCount = 0 then [.warning message] else []) = "" := by
  split <;> rfl

/-- Source that is printed stands there alone. -/
theorem stdoutOf_of_stdout {source : String} (h : report.delivery = .stdout source) :
    Output.stdoutOf report.outputs = source := by
  have hsource : Output.stdoutOf [.source source] = source := by
    simp [Output.stdoutOf, Output.stdout]
  rw [GenerateReport.outputs, h, stdoutOf_append, stdoutOf_warning, hsource, String.empty_append]

/-- A report on a file that was written is for standard error. -/
theorem stdoutOf_of_written {path : String} (h : report.delivery = .written path) :
    Output.stdoutOf report.outputs = "" := by
  rw [GenerateReport.outputs, h, stdoutOf_append, stdoutOf_warning, String.empty_append]
  dsimp only
  split <;> rfl

end Shown

/-! ## The targets -/

/-- The text that is brought to a target: in a file, generated source stands below a line that says
so. -/
def deliveredText (source : String) : (output : Option String) → String
  | none => source
  | some _ => generatedHeader ++ "\n" ++ source

section Targets

variable {registry : Registry} {options : Options} {tree : Tree} {answer : Generated}

variable (h : generateServices registry builtinTemplates options = .ok answer)
include h

/-- A dry run shows the text and leaves the files alone. -/
theorem generate_of_dryRun (output : Option String) :
    generate registry options { output, dryRun := true } tree =
      (.ok (reportOf answer (.preview output (deliveredText answer.source output))), tree) := by
  rw [generate_of_answer h]
  cases output <;> rfl

/-- Without a file the source is printed. -/
theorem generate_of_no_output :
    generate registry options {} tree = (.ok (reportOf answer (.stdout answer.source)), tree) := by
  rw [generate_of_answer h]
  rfl

/-- With a file, the outcome is that of the write. -/
theorem generate_of_output (path : String) :
    generate registry options { output := some path } tree =
      match tree.write path (deliveredText answer.source (some path)) with
      | (.ok (), later) => (.ok (reportOf answer (.written path)), later)
      | (.error error, later) => (.error (.unwritten path error), later) := by
  have hdeliver : deliver answer { output := some path } tree =
      match tree.write path (deliveredText answer.source (some path)) with
      | (.ok (), later) => (.ok (.written path), later)
      | (.error error, later) => (.error (.unwritten path error), later) := rfl
  rw [generate_of_answer h, hdeliver]
  obtain ⟨written, later⟩ := tree.write path (deliveredText answer.source (some path))
  cases written <;> rfl

/-- The source of an answer is what a built-in template renders of the described models. -/
theorem exists_template_of_answer :
    ∃ (t : Builtin) (models : Models), options.resolve.template = t.template.name ∧
      t.template.render (renderedContext options.resolve models registry.resultful) =
        .ok answer.source := by
  have hmem : options.resolve.template ∈ builtinTemplates.names := by
    by_contra hno
    rw [Generation.generateServices_of_not_mem hno] at h
    cases h
  obtain ⟨t, ht⟩ : ∃ t : Builtin, options.resolve.template = t.template.name := by
    rw [Client.names_builtinTemplates, List.mem_cons, List.mem_singleton] at hmem
    rcases hmem with hangular | hfetch
    · exact ⟨.angular, hangular⟩
    · exact ⟨.fetch, hfetch⟩
  obtain ⟨_, models, -, -, hrender⟩ := Generation.exists_rendered_of_generateServices ht h
  exact ⟨t, models, ht, hrender⟩

end Targets

/-- **Where generated source goes.**  A request that fails writes nothing.  Otherwise a template has
rendered the source, and the text for the target is the source, below one line if the target is a
file.  A dry run writes nothing and shows this text.  Without a dry run and without a file, the report
shows it on standard output, and nothing else.  With a file that can be written, directories above it
that are missing included, the report shows nothing there and the file holds the text, while elsewhere
only directories are new.  Any other file is refused, and then no file has changed. -/
theorem source_goes_to_target (registry : Registry) (options : Options) (tree : Tree) :
    (∀ error, generateServices registry builtinTemplates options = .error error → ∀ target,
      generate registry options target tree = (.error (.generate error), tree)) ∧
    ∀ answer, generateServices registry builtinTemplates options = .ok answer →
      (∃ (t : Builtin) (models : Models), options.resolve.template = t.template.name ∧
        t.template.render (renderedContext options.resolve models registry.resultful) =
          .ok answer.source) ∧
      (∀ output, ∃ preview, generate registry options { output, dryRun := true } tree =
          (.ok preview, tree) ∧
        preview.delivery = .preview output (deliveredText answer.source output)) ∧
      (∃ report, generate registry options {} tree = (.ok report, tree) ∧
        Output.stdoutOf report.outputs = deliveredText answer.source none) ∧
      (∀ path,
        (tree.IsWritable path ∧ ∃ report later,
          tree.write path (deliveredText answer.source (some path)) = (.ok (), later) ∧
          generate registry options { output := some path } tree = (.ok report, later) ∧
          Output.stdoutOf report.outputs = "" ∧
          tree.Written path (deliveredText answer.source (some path)) later) ∨
        (¬ tree.IsWritable path ∧ ∃ error later,
          tree.write path (deliveredText answer.source (some path)) = (.error error, later) ∧
          generate registry options { output := some path } tree =
            (.error (.unwritten path error), later) ∧
          tree.GrowsOnly later)) := by
  refine ⟨fun error h target => generate_of_error h, fun answer h => ⟨?_, ?_, ?_, ?_⟩⟩
  · exact exists_template_of_answer h
  · exact fun output => ⟨_, generate_of_dryRun h output, rfl⟩
  · exact ⟨_, generate_of_no_output h, stdoutOf_of_stdout rfl⟩
  · intro path
    rw [generate_of_output h path]
    obtain ⟨later, hwrite, hwritten⟩ | ⟨error, later, hwrite, hgrows⟩ :=
      tree.write_cases path (deliveredText answer.source (some path))
    · rw [hwrite]
      exact .inl ⟨(Tree.write_eq_ok_iff _).mp ⟨later, hwrite⟩, _, later, rfl, rfl,
        stdoutOf_of_written rfl, hwritten⟩
    · rw [hwrite]
      refine .inr ⟨fun hwritable => ?_, error, later, rfl, rfl, hgrows⟩
      obtain ⟨later', hwrite'⟩ := (Tree.write_eq_ok_iff _).mpr hwritable
      rw [hwrite] at hwrite'
      cases hwrite'

end Report
end RestBindings
