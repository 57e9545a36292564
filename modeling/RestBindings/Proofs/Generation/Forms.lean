import RestBindings.Proofs.Client.Forms
import RestBindings.Proofs.Generation.Agreement

/-! # What a registry cannot break out of

The names, paths and verbs of a registry, the URL and the name of the module may be any texts, with
quotes and line feeds in them.  The lines of a generated source still have the forms of its template,
which are the same whatever is generated: what comes from outside is quoted in them or is a name, and
ends no line (`lines_have_forms`).  Documentation comments are no part of this.
-/
namespace RestBindings
namespace Generation

open Client (Builtin builtinTemplates)
open Code (Fragment)

/-- **Every line of a source has a form of its template**, and so does what opens and closes a block:
the texts of the template's own are fixed in it, and all else is quoted or is a name.  It is on one
line. -/
theorem lines_have_forms {registry : Registry} {options : Options} {t : Builtin}
    {answer : Generated} (ht : options.resolve.template = t.template.name)
    (h : generateServices registry builtinTemplates options = .ok answer) :
    ∃ classes models fragments,
      registry.classes = .ok classes ∧ (describe classes).models = .ok models ∧
      t.fragments (renderedContext options.resolve models registry.resultful) = .ok fragments ∧
      answer.source = Fragment.render .script fragments ∧
      ∀ text ∈ Fragment.textsAll fragments,
        '\n' ∉ text.toList ∧ ∃ form ∈ t.forms, form.Matches text := by
  obtain ⟨classes, models, hclasses, hmodels, hrender⟩ := exists_rendered_of_generateServices ht h
  obtain ⟨fragments, hfragments, hsource, hforms⟩ := Builtin.exists_fragments_of_render hrender
  exact ⟨classes, models, fragments, hclasses, hmodels, hfragments, hsource, hforms⟩

/-- A class whose texts have quotes and line feeds. -/
def unrulyClass : RestClass where
  name := "Event\"\n// next"
  ctor := some [{ arg := "id\"," }]
  httpPath := "/events\"\n"
  methods := [{
    name := "cancel\n"
    isStatic := false
    accepts := [{ arg := "reason);\n", source := some .body }]
    returns := []
    routes := [⟨"PO\"ST", "/cancel\n"⟩]
    restClass := "Event\"\n// next"
    aliases := ["stop\"]"]
    description := none }]

theorem lines_have_forms_unruly :
    ∃ answer fragments,
      generateServices (.ofClasses [unrulyClass] none) builtinTemplates
        { template := some "fetch" } = .ok answer ∧
      answer.source = Fragment.render .script fragments ∧
      ∀ text ∈ Fragment.textsAll fragments, '\n' ∉ text.toList := by
  obtain ⟨answer, hanswer⟩ :
      ∃ answer, generateServices (.ofClasses [unrulyClass] none) builtinTemplates
        { template := some "fetch" } = .ok answer := by
    refine exists_answer_of_rendersAll (t := .fetch) rfl rfl (by decide) (by decide +kernel) ?_
    refine ⟨by decide +kernel, fun m hm => Builtin.renders_fetch_iff.mpr ?_⟩
    simp only [Client.Fetch.exists_function_iff, fresh_map_iff]
    revert m
    decide +kernel
  obtain ⟨_, _, fragments, -, -, -, hsource, hforms⟩ := lines_have_forms (t := .fetch) rfl hanswer
  exact ⟨answer, fragments, hanswer, hsource, fun text htext => (hforms text htext).1⟩

end Generation
end RestBindings
