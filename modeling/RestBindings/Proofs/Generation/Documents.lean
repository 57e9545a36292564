import RestBindings.Proofs.Generation.Outcome
import RestBindings.Proofs.Registry.Lowering

/-! # Generating from documents

A template refuses a method without a route as malformed.  A program that builds classes can leave
one without routes; a document cannot.

* A method that does not say where it is served has a route by default.
* What it says is read in the first of two ways that fits, as one route or as a list of routes
  (`firstReading?`).  A list could be empty; but a route may be written as the list of its fields,
  which all have defaults, so the empty list has been read as one route before it comes to that
  (`firstReading?_ne_nil`).
* Every entry of a route lowers to a route with a known verb, or the document is refused.

Describing leaves routes as they are, so what is wrong with a request about a document is never that
a method is malformed (`documents_are_routed`).
-/
namespace RestBindings

/-! ## Reading routes -/

namespace RouteEntries

open Json (Value)

/-- The routes of a value that is read as a list of routes. -/
def listed? : Value → Option (List RouteEntry)
  | .list items => items.mapM RouteEntry.ofValue?
  | _ => none

/-- The routes of a value by the first way to read it that fits: as one route, or as a list of
routes. -/
def firstReading? (v : Value) : Option (List RouteEntry) :=
  ((RouteEntry.ofValue? v).map ([·])).or (listed? v)

/-- Only the empty list is a list of no routes. -/
theorem eq_nil_of_listed? {v : Value} (h : listed? v = some []) : v = .list [] := by
  cases v with
  | list items =>
    cases items with
    | nil => rfl
    | cons first others =>
      rw [listed?, List.mapM_cons] at h
      obtain ⟨route, -, h⟩ := Option.bind_eq_some_iff.mp h
      obtain ⟨routes, -, h⟩ := Option.bind_eq_some_iff.mp h
      cases h
  | _ => cases h

/-- **No value is read as no routes**: the one that would be is read as a route without fields. -/
theorem firstReading?_ne_nil (v : Value) : firstReading? v ≠ some [] := by
  intro h
  rw [firstReading?, Option.or_eq_some_iff] at h
  rcases h with h | ⟨hone, hlist⟩
  · obtain ⟨route, -, h⟩ := Option.map_eq_some_iff.mp h
    cases h
  · obtain rfl := eq_nil_of_listed? hlist
    cases hone

/-- Routes are read in the first way that fits. -/
theorem map_toList_ofValue? (v : Value) : (ofValue? v).map toList = firstReading? v := by
  cases hone : RouteEntry.ofValue? v with
  | some route => simp only [ofValue?, firstReading?, hone, Option.map_some, Option.some_or, toList]
  | none =>
    cases v with
    | list items =>
      cases items with
      | nil => cases hone
      | cons first others =>
        simp only [ofValue?, firstReading?, hone, Option.map_none, Option.none_or, listed?,
          List.mapM_cons]
        cases RouteEntry.ofValue? first with
        | none => rfl
        | some route => cases others.mapM RouteEntry.ofValue? <;> rfl
    | _ => simp only [ofValue?, firstReading?, hone, Option.map_none, Option.none_or, listed?]

end RouteEntries

/-! ## Routes of classes -/

/-- A method has a route, and all its routes have known verbs. -/
structure Method.Routed (m : Method) : Prop where
  routes_ne_nil : m.routes ≠ []
  verbs_known : ∀ route ∈ m.routes, route.verb ∈ knownVerbs

theorem routeVerb_mem_knownVerbs {verb : String} (h : IsKnownVerb verb) :
    routeVerb verb ∈ knownVerbs := by
  rw [routeVerb]
  split
  · decide
  next hdel => exact h.resolve_left hdel

theorem MethodEntry.LowersTo.routed {className : String} {entry : MethodEntry} {m : Method}
    (h : entry.LowersTo className m) (hshaped : entry.WellShaped) : m.Routed := by
  cases hhttp : entry.http with
  | none =>
    have hroutes := h.defaultRoute hhttp
    refine ⟨by rw [hroutes]; exact List.cons_ne_nil _ _, fun route hroute => ?_⟩
    obtain rfl := List.mem_singleton.mp (hroutes ▸ hroute)
    exact List.mem_cons_of_mem _ List.mem_cons_self
  | some entries =>
    have hlower := h.routes (by simp [hhttp])
    have hentries : entry.routes = entries.toList := by rw [MethodEntry.routes, hhttp]; rfl
    refine ⟨fun hnil => ?_, fun route hroute => ?_⟩
    · rw [hnil, List.forall₂_nil_right_iff, hentries] at hlower
      exact entries.toList_ne_nil hlower
    · obtain ⟨routeEntry, hmem, hlowers⟩ := exists_mem_of_forall₂ hlower hroute
      rw [hlowers.verb]
      exact routeVerb_mem_knownVerbs (hshaped.routes routeEntry hmem)

/-- Every method of a document has a route. -/
theorem routed_of_parse {source : SourceText} {registry : RegistryDocument}
    (h : RegistryDocument.parse source = .ok registry) :
    ∀ c ∈ registry.classes, ∀ m ∈ c.methods, m.Routed := by
  cases hread : Document.ofJson source.content with
  | error refusal =>
    rw [RegistryDocument.parse, hread] at h
    cases h
  | ok d =>
    obtain ⟨hlower, -⟩ := (RegistryDocument.parse_eq_ok_iff hread).mp h
    obtain ⟨hshaped, hclasses⟩ := Document.lower_eq_ok_iff.mp hlower
    intro c hc m hm
    obtain ⟨classEntry, hclassEntry, hc⟩ := exists_mem_of_forall₂ hclasses hc
    obtain ⟨methodEntry, hmethodEntry, hm⟩ := exists_mem_of_forall₂ hc.methods hm
    exact hm.routed ((hshaped classEntry hclassEntry).methods methodEntry hmethodEntry)

/-- Describing leaves routes as they are. -/
theorem routes_ne_nil_of_described {classes : List RestClass} {models : Models}
    (hmodels : (describe classes).models = .ok models)
    (h : ∀ c ∈ classes, ∀ m ∈ c.methods, m.routes ≠ []) :
    ∀ m ∈ models.toList, ∀ method ∈ m.methods, method.routes ≠ [] := by
  obtain ⟨-, htoList⟩ := describe_eq_ok_iff.mp hmodels
  rw [htoList, describedModels, List.forall_mem_map]
  intro c hc method hmethod
  obtain ⟨raw, hraw, rfl⟩ := List.mem_map.mp hmethod
  rw [Method.routes_withCtor]
  exact h c (List.mem_of_mem_filter hc) raw hraw

/-! ## Requests about documents -/

namespace Generation

open Client (Builtin RenderError TemplateSet builtinTemplates)

/-- A request about classes whose methods all have routes fails, if it is rendered, with errors
about names. -/
theorem failsWith_generateServices_of_routed {registry : Registry} {templates : TemplateSet}
    {options : Options} {t : Builtin} {classes : List RestClass}
    (htemplate : templates.get? options.resolve.template = some t.template)
    (hclasses : registry.classes = .ok classes)
    (h : ∀ c ∈ classes, ∀ m ∈ c.methods, m.routes ≠ []) {e : RenderError}
    (herror : generateServices registry templates options = .error (.render e)) : e.OfNames := by
  rw [generateServices_of_get? htemplate hclasses] at herror
  cases hmodels : (describe classes).models with
  | error error =>
    rw [hmodels] at herror
    cases herror
  | ok models =>
    rw [hmodels] at herror
    simp only [Generator.renderContext_eq, describedContext] at herror
    split at herror
    next hrefused =>
      cases herror
      refine (Client.failsWith_checkModuleName _).bind (fun _ _ => ?_) _ hrefused
      exact t.failsWith_render_of_routed (routes_ne_nil_of_described hmodels h)
    · cases herror

/-- **A document leaves no method without a route.**  Every method of a document that is accepted
has a route, and all its routes have known verbs.  What a method says of its routes is read in the
first way that fits, and never as no routes.  So no request about the document that names a built-in
template is refused because a model is malformed. -/
theorem documents_are_routed {source : SourceText} {registry : RegistryDocument}
    (h : RegistryDocument.parse source = .ok registry) :
    (∀ c ∈ registry.classes, ∀ m ∈ c.methods, m.Routed) ∧
    (∀ v, (RouteEntries.ofValue? v).map RouteEntries.toList = RouteEntries.firstReading? v ∧
      RouteEntries.firstReading? v ≠ some []) ∧
    ∀ (templates : TemplateSet) (options : Options) (t : Builtin),
      templates.get? options.resolve.template = some t.template →
      ∀ model reason, generateServices (.ofDocument registry) templates options ≠
        .error (.render (.malformed model reason)) := by
  have hrouted := routed_of_parse h
  refine ⟨hrouted, fun v => ?_, fun templates options t htemplate model reason herror => ?_⟩
  · exact ⟨RouteEntries.map_toList_ofValue? v, RouteEntries.firstReading?_ne_nil v⟩
  · exact failsWith_generateServices_of_routed htemplate rfl
      (fun c hc m hm => (hrouted c hc m hm).routes_ne_nil) herror

/-- A document with a method for each way to write routes: none, `null`, an object, a list of
objects, a list of fields and the empty list. -/
def dockText : SourceText where
  file := "dock.json"
  content := "\x7b\"classes\":[\x7b\"name\":\"Dock\",\"ctor\":\x7b\x7d,\"methods\":["
    ++ "\x7b\"name\":\"moor\"\x7d,"
    ++ "\x7b\"name\":\"load\",\"http\":null\x7d,"
    ++ "\x7b\"name\":\"lift\",\"http\":\x7b\x7d\x7d,"
    ++ "\x7b\"name\":\"tow\",\"http\":[\x7b\"verb\":\"get\"\x7d,\x7b\x7d]\x7d,"
    ++ "\x7b\"name\":\"cast\",\"http\":[\"del\",\"/rope\"]\x7d,"
    ++ "\x7b\"name\":\"drift\",\"http\":[]\x7d]\x7d]\x7d"

/-- A method of the dock, served at the routes. -/
def dockMethod (name : String) (routes : List Route) : Method where
  name := name
  isStatic := false
  accepts := []
  returns := []
  routes := routes
  restClass := "Dock"
  aliases := []
  description := none

def dock : RegistryDocument where
  resultful := none
  classes := [{
    name := "Dock"
    ctor := some []
    httpPath := "/Dock"
    methods := [
      dockMethod "moor" [⟨"POST", "/moor"⟩],
      dockMethod "load" [⟨"POST", "/load"⟩],
      dockMethod "lift" [⟨"POST", "/lift"⟩],
      dockMethod "tow" [⟨"GET", "/tow"⟩, ⟨"POST", "/tow"⟩],
      dockMethod "cast" [⟨"DELETE", "/rope"⟩],
      dockMethod "drift" [⟨"POST", "/drift"⟩]] }]

theorem documents_are_routed_dock :
    RegistryDocument.parse dockText = .ok dock ∧
    (∀ c ∈ dock.classes, ∀ m ∈ c.methods, m.Routed) ∧
    ∀ t : Builtin, builtinTemplates.get? t.template.name = some t.template ∧
      ∀ model reason, generateServices (.ofDocument dock) builtinTemplates
        { template := t.template.name } ≠ .error (.render (.malformed model reason)) := by
  have hparse : RegistryDocument.parse dockText = .ok dock := by decide +kernel
  obtain ⟨hrouted, -, hrequest⟩ := documents_are_routed hparse
  refine ⟨hparse, hrouted, fun t => ?_⟩
  have htemplate := get?_builtinTemplates t
  have hresolve : (Options.resolve { template := t.template.name }).template = t.template.name := by
    cases t <;> rfl
  exact ⟨htemplate, hrequest builtinTemplates _ t (hresolve.symm ▸ htemplate)⟩

end Generation
end RestBindings
