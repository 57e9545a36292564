import RestBindings.Proofs.Generation.Agreement
import RestBindings.Proofs.Naming.Words

/-! # The services that an AngularJS module registers

A generated module registers one service per model, and three of its own: the store of the session,
the interceptor, and the provider that wraps `$resource`, which is named after the module.  AngularJS
keeps the last service of a name.

That the names of the models differ from each other is checked while rendering; that they differ from
the other three is not, and it need not be so.  A model has its capitalized name, since no capitalized
name is reserved (`Naming.binding_script`), and the names of the three differ by their ends
(`nodup_ownServices`).  So no service is lost exactly when no model has one of these three names
(`services_differ_iff`).
-/
namespace RestBindings

open Code (Fragment)

namespace Client
namespace Angular

open Text (quotedAfter? quotedAfter?_append)

/-! ## Reading the services of a module -/

/-- The name of the service that a line of a chain of calls registers. -/
def chained? (cs : List Char) : Option String :=
  (cs.dropPrefix? "  .factory('".toList).map fun left => String.ofList (left.takeWhile (· != '\''))

/-- The name of the service that a fragment of a module registers. -/
def service? : Fragment → Option String
  | .block header _ _ =>
    ((quotedAfter? "module.factory(" header.toList).or
      (quotedAfter? "module.provider(" header.toList)).map Prod.fst
  | .line s => chained? s.toList
  | _ => none

/-- The names of the services that a module registers, in order. -/
def services : List Fragment → List String
  | [.block _ body _] => body.filterMap service?
  | _ => []

/-- The names of the services that every module registers. -/
def ownServices (moduleName : String) : List String :=
  ["SiraAuth", "SiraAuthRequestInterceptor", resourceName moduleName]

/-- A line that is not indented registers nothing. -/
theorem service?_line {line : String} {c : Char} (h : line.toList.head? = some c) (hc : c ≠ ' ') :
    service? (.line line) = none := by
  obtain ⟨rest, hline⟩ := List.head?_eq_some_iff.mp h
  have hstart : "  .factory('".toList = ' ' :: " .factory('".toList := by decide
  have hne : (c == ' ') = false := beq_eq_false_iff_ne.mpr hc
  rw [service?, chained?, hline, hstart, List.dropPrefix?, hne]
  rfl

theorem filterMap_service?_ofLines (lines : List String) :
    (Fragment.ofLines lines).filterMap service? = (lines.map String.toList).filterMap chained? := by
  rw [Fragment.ofLines, List.filterMap_map, List.filterMap_map]
  refine List.filterMap_congr fun line _ => ?_
  by_cases h : line.isEmpty = true
  · obtain rfl := String.isEmpty_iff.mp h
    rfl
  · simp only [Function.comp_apply, if_neg h, service?]

/-- The services that every module registers before the provider. -/
theorem filterMap_service?_authServices :
    (Fragment.ofLines authServices).filterMap service? =
      ["SiraAuth", "SiraAuthRequestInterceptor"] := by
  rw [filterMap_service?_ofLines, authServices]
  -- the characters of every line in its place, as the kernel is slow to take a text apart
  simp only [List.map_cons, List.map_nil]
  repeat rw [String.toList_ofList]
  decide

theorem service?_provider (moduleName : String) (body : List Fragment) (close : Option String) :
    service? (.block ("module.provider(" ++ Text.quote (resourceName moduleName)
      ++ ", function() \x7b") body close) = some (resourceName moduleName) := by
  have hfactory (cs : List Char) :
      quotedAfter? "module.factory(" ("module.provider(".toList ++ cs) = none := by
    rw [quotedAfter?]
    repeat rw [String.toList_ofList]
    rfl
  simp only [service?, String.toList_append, List.append_assoc, hfactory, quotedAfter?_append,
    Option.none_or, Option.map_some]

/-- A factory registers one service, under the name it is bound to. -/
theorem filterMap_service?_factory {context : Context} {binding : String} {m : Model}
    {fragments : List Fragment} (h : factory context binding m = .ok fragments) :
    fragments.filterMap service? = [binding] := by
  obtain ⟨table, -, h⟩ := bind_eq_ok_iff.mp h
  obtain ⟨actions, -, h⟩ := bind_eq_ok_iff.mp h
  cases h
  simp only [List.filterMap_cons, List.filterMap_nil, service?, String.toList_append,
    List.append_assoc, quotedAfter?_append, Option.some_or, Option.map_some]

/-- Factories register one service each. -/
theorem filterMap_service?_flatMap {names : List String} {factories : List (List Fragment)}
    (h : List.Forall₂ (fun name f => f.filterMap service? = [name]) names factories) :
    (factories.flatMap (Fragment.blank :: ·)).filterMap service? = names := by
  induction h with
  | nil => rfl
  | @cons name f names factories hf _ ih =>
    rw [List.flatMap_cons, List.filterMap_append, ih, List.filterMap_cons_none rfl, hf]
    rfl

/-- **The services of a module**: those of the factories, and its own. -/
theorem services_moduleFragments {context : Context} {names : List String}
    {factories : List (List Fragment)}
    (h : List.Forall₂ (fun name f => f.filterMap service? = [name]) names factories) :
    services (moduleFragments context factories) = names ++ ownServices context.moduleName := by
  have hline {start : String} (rest : String) (hstart : start.toList.head? = some 'v') :
      service? (.line (start ++ rest)) = none :=
    service?_line (by rw [String.toList_append, List.head?_append, hstart]; rfl) (by decide)
  have hbefore : [Fragment.line "'use strict';", .blank,
      .line ("var urlBase = " ++ Text.quote context.urlBase ++ ";"),
      .line "var authHeader = 'authorization';", .blank, .doc (moduleDoc context.moduleName),
      .line ("var module = angular.module(" ++ Text.quote context.moduleName
        ++ ", ['ngResource']);")].filterMap service? = [] := by
    simp only [List.filterMap_eq_nil_iff, List.forall_mem_cons, String.append_assoc]
    exact ⟨by decide, rfl, hline _ (by decide), by decide +kernel, rfl, rfl,
      hline _ (by decide), nofun⟩
  have hunwrap : (if context.isResultful then .blank :: unwrapFunction.fragments else []).filterMap
      service? = [] := by
    cases context.isResultful <;> decide
  have hprovider (body : List Fragment) (close : Option String) :
      [Fragment.blank, .block ("module.provider(" ++ Text.quote (resourceName context.moduleName)
        ++ ", function() \x7b") body close].filterMap service? =
          [resourceName context.moduleName] := by
    rw [List.filterMap_cons_none rfl, List.filterMap_cons_some (service?_provider _ _ _),
      List.filterMap_nil]
  rw [moduleFragments, services]
  simp only [List.filterMap_append, hbefore, hunwrap, filterMap_service?_flatMap h, hprovider]
  rw [List.filterMap_cons_none rfl, filterMap_service?_authServices, ownServices]
  simp

/-! ## Names that differ -/

theorem getLast?_resourceName (moduleName : String) :
    (resourceName moduleName).toList.getLast? = some 'e' := by
  rw [resourceName, String.toList_append, List.getLast?_append]
  rfl

/-- The services that every module registers differ by their ends. -/
theorem nodup_ownServices (moduleName : String) : (ownServices moduleName).Nodup := by
  have hend {name : String} (h : name.toList.getLast? ≠ some 'e') :
      name ≠ resourceName moduleName :=
    fun heq => h (heq ▸ getLast?_resourceName moduleName)
  simp only [ownServices, List.nodup_cons, List.mem_cons, List.not_mem_nil, or_false, not_or]
  exact ⟨⟨by decide, hend (by decide)⟩, hend (by decide), not_false, List.nodup_nil⟩

/-- Services do not take each other's names when no model takes one of the module. -/
theorem nodup_services_iff {names : List String} (hnames : names.Nodup) (moduleName : String) :
    (names ++ ownServices moduleName).Nodup ↔ ∀ name ∈ names, name ∉ ownServices moduleName := by
  rw [List.nodup_append']
  constructor
  · rintro ⟨-, -, hdisjoint⟩ name hname hown
    exact hdisjoint hname hown
  · intro hfree
    exact ⟨hnames, nodup_ownServices moduleName, fun name hname hown => hfree name hname hown⟩

end Angular
end Client

namespace Generation

open Client (Builtin builtinTemplates)
open Client.Angular (services moduleFragments ownServices)

/-- What an answer of the template `angular` registers: a service for every model under its
capitalized name, no two of them the same, and the services of the module. -/
theorem exists_services {registry : Registry} {options : Options} {answer : Generated}
    (ht : options.resolve.template = "angular")
    (h : generateServices registry builtinTemplates options = .ok answer) :
    ∃ classes models factories, registry.classes = .ok classes ∧
      (describe classes).models = .ok models ∧
      answer.source = Fragment.render .script (moduleFragments
        (renderedContext options.resolve models registry.resultful) factories) ∧
      services (moduleFragments
          (renderedContext options.resolve models registry.resultful) factories) =
        (models.toList.map fun m => Naming.capitalize m.name)
          ++ ownServices options.resolve.moduleName ∧
      (models.toList.map fun m => Naming.capitalize m.name).Nodup := by
  obtain ⟨classes, models, hclasses, hmodels, hrender⟩ :=
    exists_rendered_of_generateServices (t := .angular) ht h
  obtain ⟨-, hall⟩ := (Builtin.angular.exists_render_iff _).mp ⟨_, hrender⟩
  obtain ⟨factories, hfactories, hsource⟩ := Client.exists_items_of_renderItems _ _
    (Client.Angular.factory (renderedContext options.resolve models registry.resultful)) _ hrender
  refine ⟨classes, models, factories, hclasses, hmodels, hsource, ?_, ?_⟩
  · refine Client.Angular.services_moduleFragments (List.forall₂_map_left_iff.mpr ?_)
    refine hfactories.imp fun m factory hfactory => ?_
    rw [← Naming.binding_script]
    exact Client.Angular.filterMap_service?_factory hfactory
  · have hnames := hall.bindings_nodup
    simp only [Builtin.bindingName, Naming.binding_script] at hnames
    exact hnames

/-- **When no service of a module is lost.**  An answer of the template `angular` registers a service
for every model, under its capitalized name, and three of its own.  These names differ exactly when no
model has one of the three. -/
theorem services_differ_iff {registry : Registry} {options : Options} {answer : Generated}
    (ht : options.resolve.template = "angular")
    (h : generateServices registry builtinTemplates options = .ok answer) :
    ∃ classes models factories, registry.classes = .ok classes ∧
      (describe classes).models = .ok models ∧
      answer.source = Fragment.render .script (moduleFragments
        (renderedContext options.resolve models registry.resultful) factories) ∧
      services (moduleFragments
          (renderedContext options.resolve models registry.resultful) factories) =
        (models.toList.map fun m => Naming.capitalize m.name)
          ++ ["SiraAuth", "SiraAuthRequestInterceptor",
            Naming.capitalize options.resolve.moduleName ++ "Resource"] ∧
      ((services (moduleFragments
          (renderedContext options.resolve models registry.resultful) factories)).Nodup ↔
        ∀ m ∈ models.toList, Naming.capitalize m.name ∉
          ["SiraAuth", "SiraAuthRequestInterceptor",
            Naming.capitalize options.resolve.moduleName ++ "Resource"]) := by
  obtain ⟨classes, models, factories, hclasses, hmodels, hsource, hservices, hnames⟩ :=
    exists_services ht h
  refine ⟨classes, models, factories, hclasses, hmodels, hsource, hservices, ?_⟩
  rw [hservices, Client.Angular.nodup_services_iff hnames, List.forall_mem_map]
  rfl

theorem services_differ_users :
    ∃ answer context factories,
      generateServices users builtinTemplates {} = .ok answer ∧
      answer.source = Fragment.render .script (moduleFragments context factories) ∧
      services (moduleFragments context factories) =
        ["User", "SiraAuth", "SiraAuthRequestInterceptor", "SirasResource"] ∧
      (services (moduleFragments context factories)).Nodup := by
  obtain ⟨answer, hanswer⟩ := exists_answer_users {} .angular rfl (by decide)
  obtain ⟨classes, models, factories, hclasses, hmodels, hsource, hservices, hnodup⟩ :=
    services_differ_iff rfl hanswer
  cases hclasses
  obtain ⟨-, htoList⟩ := describe_eq_ok_iff.mp hmodels
  rw [htoList] at hservices hnodup
  exact ⟨answer, _, factories, hanswer, hsource, hservices.trans (by decide),
    hnodup.mpr (by decide)⟩

/-- A class whose model has the name of the store of the session. -/
def siraAuthClass : RestClass where
  name := "siraAuth"
  ctor := some []
  httpPath := "/auth"
  methods := []

/-- A service of the module is lost to a model, and there is an answer. -/
theorem siraAuth_registered_twice :
    ∃ answer context factories,
      generateServices (.ofClasses [siraAuthClass] none) builtinTemplates {} = .ok answer ∧
      answer.source = Fragment.render .script (moduleFragments context factories) ∧
      ¬ (services (moduleFragments context factories)).Nodup := by
  obtain ⟨answer, hanswer⟩ : ∃ answer, generateServices (.ofClasses [siraAuthClass] none)
      builtinTemplates {} = .ok answer := by
    refine exists_answer_of_rendersAll (t := .angular) rfl rfl (by decide) (by decide) ?_
    refine ⟨by decide, fun m hm => ?_⟩
    obtain rfl := List.mem_singleton.mp hm
    exact Builtin.renders_angular_iff.mpr ⟨⟨by decide, by decide⟩, by decide⟩
  obtain ⟨classes, models, factories, hclasses, hmodels, hsource, hservices, -⟩ :=
    exists_services rfl hanswer
  cases hclasses
  obtain ⟨-, htoList⟩ := describe_eq_ok_iff.mp hmodels
  refine ⟨answer, _, factories, hanswer, hsource, ?_⟩
  rw [hservices, htoList]
  decide

end Generation
end RestBindings
