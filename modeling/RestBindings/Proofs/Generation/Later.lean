import RestBindings.Proofs.Client.Identity
import RestBindings.Proofs.Code.Writing
import RestBindings.Proofs.Description.Dependence
import RestBindings.Proofs.Generation.Outcome

/-! # A class that comes later

A TypeScript client grows at its end.  When a class is put after all others, and no method of theirs
says that it owns it, all models before are described as they were (`describedModels_append`), have
the identifiers and the keys that they had, and so the same clients.  What is written for them stays
too: after a declaration the writer is back at the first level (`Code.File.render_concat`).  So the
source is the source without the class, a blank line and the declaration of its client, which starts
with a comment and the line that exports it (`Client.Fetch.render_declaration`); or the same source,
if the class is a service (`later_class_appends`).
-/
namespace RestBindings

open Code (Const File Fragment Indent Object docLines)

namespace Client
namespace Fetch

theorem header_ne_nil (context : Context) : header context ≠ [] := List.cons_ne_nil _ _

/-- **The text of a declaration**: a comment that names the model, the line that exports the client,
the properties one level deeper, and the closing line. -/
theorem render_declaration (binding : String) (m : Model) (object : Object) :
    Fragment.render .script (declaration binding m object) =
      String.join ((docLines ("Client for the `" ++ m.name ++ "` model.")).map (· ++ "\n")) ++
        "export const " ++ binding ++ " = \x7b\n" ++
        String.join ((Object.propertyFragments object).map (Fragment.alone .script 1)) ++
        "\x7d;\n" := by
  have hline (l : String) : Indent.script.line 0 l = l ++ "\n" := by
    have hstart : Indent.script.text 0 = "" := by decide
    rw [Indent.line, hstart, String.empty_append]
  simp only [Fragment.render_eq_writtenAll, declaration, Fragment.writtenAll, Fragment.written,
    Fragment.writtenAll_eq_join, funext hline]
  simp [String.append_assoc]

/-- **One more model at the end** of those that are rendered: its declaration comes after a blank
line, and all else is rendered as it is without the model. -/
theorem render_concat {context : Context} {models : Models} {m : Model} {source : String}
    (hmodels : models.toList = context.models.toList ++ [m])
    (h : render { context with models } = .ok source) :
    ∃ first object, render context = .ok first ∧ clientObject m = .ok object ∧
      source = first ++ "\n" ++ Fragment.render .script
        (declaration (bindingName m.name) m object) := by
  obtain ⟨hname, hnodup, clients, hclients, rfl⟩ :=
    renderItems_eq_ok_iff { context with models } bindingName client _ |>.mp h
  rw [hmodels] at hnodup hclients
  rw [List.map_append] at hnodup
  obtain ⟨before, last, hbefore, hlast, rfl⟩ := exists_of_forall₂_concat hclients
  obtain ⟨object, hobject, hfragments⟩ := fragments_of_client hlast
  refine ⟨(file context before).render .script, object, ?_, hobject, ?_⟩
  · exact renderItems_eq_ok_iff context bindingName client _ |>.mpr
      ⟨hname, (List.nodup_append.mp hnodup).1, before, hbefore, rfl⟩
  · have hitems : header context ++ before.map Const.fragments ≠ [] :=
      List.append_ne_nil_of_left_ne_nil (header_ne_nil context) _
    rw [← hfragments, file, file, ← File.render_concat hitems, List.map_append, List.append_assoc]
    rfl

end Fetch
end Client

namespace Generation

open Client (Builtin builtinTemplates)
open Client.Fetch (bindingName clientObject declaration parcelClass render_declaration)

/-- What is described of classes and a later one that owns none of their methods: the models of the
classes, and that of the later one if it is a model. -/
theorem toList_of_later {classes : List RestClass} {c : RestClass} {all : Models}
    (howner : ∀ d ∈ classes, ∀ method ∈ d.methods, method.restClass ≠ c.name)
    (hall : (describe (classes ++ [c])).models = .ok all) :
    (modelNames classes).Nodup ∧ all.toList = describedModels classes ++
      ([c].filter RestClass.isModel).map (RestClass.described (classes ++ [c])) := by
  obtain ⟨hnodup, hlist⟩ := describe_eq_ok_iff.mp hall
  rw [modelNames_append] at hnodup
  refine ⟨(List.nodup_append.mp hnodup).1, hlist.trans (describedModels_append ?_)⟩
  intro d hd method hmethod e he
  rw [List.mem_singleton.mp he]
  exact (howner d hd method hmethod).symm

/-- **A class that comes later only appends.**  Where a TypeScript client is generated of classes and
one more at the end, which owns no method of theirs, one is generated of the classes without it.  Its
source stands before all that the class adds.  That is nothing if the class has no constructor.  If it
has one, it is a blank line, the comment that names the model, the line that exports its client, the
properties of the client one level deeper, and the closing line. -/
theorem later_class_appends {classes : List RestClass} {c : RestClass} {resultful : Option Bool}
    {options : Options} {longer : Generated} (ht : options.resolve.template = "fetch")
    (howner : ∀ d ∈ classes, ∀ method ∈ d.methods, method.restClass ≠ c.name)
    (h : generateServices (.ofClasses (classes ++ [c]) resultful) builtinTemplates options =
      .ok longer) :
    ∃ answer, generateServices (.ofClasses classes resultful) builtinTemplates options =
        .ok answer ∧
      answer.source.toList <+: longer.source.toList ∧
      (c.ctor = none → longer.source = answer.source) ∧
      (c.ctor ≠ none → ∃ object,
        clientObject (c.described (classes ++ [c])) = .ok object ∧
        longer.source = answer.source ++ "\n" ++
          (String.join ((docLines ("Client for the `" ++ c.name ++ "` model.")).map (· ++ "\n")) ++
            "export const " ++ bindingName c.name ++ " = \x7b\n" ++
            String.join ((Object.propertyFragments object).map (Fragment.alone .script 1)) ++
            "\x7d;\n")) := by
  have ht : options.resolve.template = Builtin.fetch.template.name := ht
  have hanswers {models : Models} {source : String}
      (hdescribed : (describe classes).models = .ok models)
      (hsource : Builtin.fetch.template.render (renderedContext options.resolve models resultful) =
        .ok source) :
      ∃ answer, generateServices (.ofClasses classes resultful) builtinTemplates options =
        .ok answer ∧ answer.source = source :=
    exists_answer_of_render ht rfl hdescribed hsource
  obtain ⟨_, all, hclasses, hall, hrender⟩ := exists_rendered_of_generateServices ht h
  cases hclasses
  obtain ⟨hfirst, hlist⟩ := toList_of_later howner hall
  cases hctor : c.ctor with
  | none =>
    -- the models are the same
    have hmodel : c.isModel = false := by simp [RestClass.isModel, hctor]
    rw [List.filter_cons_of_neg (by simp [hmodel]), List.filter_nil, List.map_nil,
      List.append_nil] at hlist
    obtain ⟨answer, hanswer, hsource⟩ :=
      hanswers (describe_eq_ok_iff.mpr ⟨hfirst, hlist⟩) hrender
    exact ⟨answer, hanswer, hsource ▸ List.prefix_refl _, fun _ => hsource.symm,
      fun hsome => absurd rfl hsome⟩
  | some accepts =>
    -- there is one more model, at the end
    have hmodel : c.isModel = true := by simp [RestClass.isModel, hctor]
    obtain ⟨models, htoList, hdescribe⟩ := describe_of_nodup hfirst
    rw [List.filter_cons_of_pos hmodel, List.filter_nil, List.map_singleton, ← htoList] at hlist
    obtain ⟨source, object, hsource, hobject, hlonger⟩ :
        ∃ source object,
          Client.Fetch.render (renderedContext options.resolve models resultful) = .ok source ∧
          clientObject (c.described (classes ++ [c])) = .ok object ∧
          longer.source = source ++ "\n" ++ Fragment.render .script
            (declaration (bindingName c.name) (c.described (classes ++ [c])) object) :=
      Client.Fetch.render_concat hlist hrender
    obtain ⟨answer, hanswer, rfl⟩ := hanswers (by rw [hdescribe]) hsource
    refine ⟨answer, hanswer, ?_, fun hnone => absurd hnone (Option.some_ne_none accepts),
      fun _ => ⟨object, hobject, hlonger.trans (by rw [render_declaration]; rfl)⟩⟩
    rw [hlonger, String.append_assoc, String.toList_append]
    exact List.prefix_append _ _

/-- Depots, which come after parcels. -/
def depotClass : RestClass where
  name := "Depot"
  ctor := some [{ arg := "city" }]
  httpPath := "/depots"
  methods := []

theorem later_class_appends_depot :
    ∃ longer answer,
      generateServices (.ofClasses [parcelClass, depotClass] none) builtinTemplates
        { template := some "fetch" } = .ok longer ∧
      generateServices (.ofClasses [parcelClass] none) builtinTemplates
        { template := some "fetch" } = .ok answer ∧
      longer.source = answer.source ++ ("\n/** Client for the `Depot` model. */\n" ++
        "export const Depot = \x7b\n  modelName: \"Depot\",\n\x7d;\n") := by
  obtain ⟨longer, hlonger⟩ :
      ∃ longer, generateServices (.ofClasses ([parcelClass] ++ [depotClass]) none) builtinTemplates
        { template := some "fetch" } = .ok longer := by
    refine exists_answer_of_rendersAll (t := .fetch) rfl rfl (by decide) (by decide +kernel) ?_
    refine ⟨by decide +kernel, fun m hm => Builtin.renders_fetch_iff.mpr ?_⟩
    simp only [Client.Fetch.exists_function_iff, fresh_map_iff]
    revert m
    decide +kernel
  obtain ⟨answer, hanswer, -, -, hadded⟩ := later_class_appends rfl (by decide) hlonger
  obtain ⟨object, hobject, hsource⟩ := hadded (by decide)
  cases hobject
  refine ⟨longer, answer, hlonger, hanswer, ?_⟩
  calc longer.source = answer.source ++ ("\n" ++ _) := hsource.trans (String.append_assoc ..)
    _ = answer.source ++ _ := congrArg (answer.source ++ ·) (by decide +kernel)

end Generation
end RestBindings
