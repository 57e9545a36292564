import RestBindings.Proofs.Client.Keys
import RestBindings.Proofs.Generation.Outcome

/-! # The built-in templates agree

The templates build their tables of actions and aliases apart from each other, and do not reserve the
same keys.  Still a user can go from one to the other: an action has the same key, verb and path in
both, and an alias of an AngularJS factory is one of the TypeScript client too, for the same action.

For the actions both are what the methods are at their preferred routes.  For the aliases it matters
that which method keeps an alias does not depend on what is reserved: it is the first that declares
it, or none (`mem_aliases_iff`).  A factory reserves all that a client does, so it can only keep fewer
aliases, and each for the same method (`mem_aliases_of_assigned`).
-/
namespace RestBindings

open Code (Fragment Const)

namespace Client

/-- An alias that a factory assigns is kept in a client, by the method whose action it is. -/
theorem mem_aliases_of_assigned {context : Context} {binding binding' : String} {m : Model}
    {factory : List Fragment} {c : Const} (hfactory : Angular.factory context binding m = .ok factory)
    (hc : Fetch.client binding' m = .ok c) {name action : String}
    (h : (name, action) ∈ Angular.assignedAliases factory) :
    ∃ k ∈ (keyTable m Fetch.reservedKeys).keys, k.action = action ∧ name ∈ k.aliases := by
  obtain ⟨hfresh, -⟩ := Fetch.exists_client_iff.mp ⟨c, hc⟩
  obtain ⟨haction, hreserved, method, hdeclarer, rfl⟩ :=
    (Angular.mem_assignedAliases_iff hfactory).mp h
  obtain ⟨k, hk, rfl⟩ := exists_keys_of_declarer? hdeclarer Fetch.reservedKeys
  -- the one key that a client reserves is reserved in a factory too
  have hfree : name ∉ Fetch.reservedKeys ++ m.methods.map Method.action := by
    rw [List.mem_append, not_or, Fetch.reservedKeys, List.mem_singleton]
    refine ⟨fun hname => hreserved ?_, fun hname => haction ?_⟩
    · rw [hname]
      exact List.mem_cons_self
    · exact List.mem_append_left _ hname
  exact ⟨k, hk, action_of_mem_keyTable hk, (mem_aliases_iff hfresh hk).mpr ⟨hfree, hdeclarer⟩⟩

/-- **A factory and a client of one model agree.** -/
structure Agree (m : Model) (factory : List Fragment) (c : Const) : Prop where
  /-- There is an endpoint for every method, in order. -/
  keys : (Fetch.actionEndpoints m c).map Endpoint.key = m.methods.map Method.action
  /-- The endpoints of the methods are the same; after them a factory may have `getCurrent`. -/
  endpoints : Angular.endpoints? factory =
    some (Fetch.actionEndpoints m c ++ Angular.addedEndpoints m)
  /-- An alias of the factory is one of the client, of the same action and with its function. -/
  aliases : ∀ name action, (name, action) ∈ Angular.assignedAliases factory →
    ∃ table, clientKeys m Fetch.reservedKeys = .ok table ∧
      ∃ k ∈ table.keys, k.action = action ∧ name ∈ k.aliases ∧
        ∃ f, Fetch.function m k.method = .ok f ∧
          (Fetch.properties c).lookup (Fetch.propertyKey action) = some (.lambda f) ∧
          (Fetch.properties c).lookup (Fetch.propertyKey name) = some (.lambda f)

theorem agree {context : Context} {binding binding' : String} {m : Model} {factory : List Fragment}
    {c : Const} (hfactory : Angular.factory context binding m = .ok factory)
    (hc : Fetch.client binding' m = .ok c) : Agree m factory c where
  keys := by
    obtain ⟨-, hrouted⟩ := Angular.exists_factory_iff.mp ⟨factory, hfactory⟩
    rw [Fetch.actionEndpoints_client hc, map_key_methodEndpoints hrouted]
  endpoints := by rw [Angular.endpoints?_factory hfactory, Fetch.actionEndpoints_client hc]
  aliases name action h := by
    obtain ⟨hfresh, -⟩ := Fetch.exists_client_iff.mp ⟨c, hc⟩
    obtain ⟨k, hk, rfl, hname⟩ := mem_aliases_of_assigned hfactory hc h
    obtain ⟨f, hf, hlookup⟩ := Fetch.lookup_client hc hk
    exact ⟨_, clientKeys_eq_ok_iff.mpr ⟨hfresh, rfl⟩, k, hk, rfl, hname, f, hf,
      hlookup _ List.mem_cons_self, hlookup _ (List.mem_cons_of_mem _ hname)⟩

/-- What both templates render of a model, one for one in the order of the models. -/
theorem exists_rendered {models : List Model} {context : Context} {factories : List (List Fragment)}
    {clients : List Const} {binding binding' : String → String}
    (hfactories : List.Forall₂ (fun m factory =>
      Angular.factory context (binding m.name) m = .ok factory) models factories)
    (hclients : List.Forall₂ (fun m c => Fetch.client (binding' m.name) m = .ok c) models clients) :
    ∃ rendered : List (List Fragment × Const), rendered.map Prod.fst = factories ∧
      rendered.map Prod.snd = clients ∧
      List.Forall₂ (fun m r => Agree m r.1 r.2) models rendered := by
  induction hfactories generalizing clients with
  | nil =>
    cases hclients
    exact ⟨[], rfl, rfl, .nil⟩
  | @cons m factory models factories hfactory _ ih =>
    obtain ⟨c, rest, hc, hrest, rfl⟩ := List.forall₂_cons_left_iff.mp hclients
    obtain ⟨rendered, rfl, rfl, hagree⟩ := ih hrest
    exact ⟨(factory, c) :: rendered, rfl, rfl, .cons (agree hfactory hc) hagree⟩

end Client

namespace Generation

open Client (Agree Builtin builtinTemplates)

/-- **The built-in templates agree.**  When both answer a request, they render the same models, in
the same order, and what they render of a model agrees. -/
theorem templates_agree {registry : Registry} {options : Options} {js ts : Generated}
    (hjs : generateServices registry builtinTemplates { options with template := some "angular" } =
      .ok js)
    (hts : generateServices registry builtinTemplates { options with template := some "fetch" } =
      .ok ts) :
    ∃ classes models rendered, registry.classes = .ok classes ∧
      (describe classes).models = .ok models ∧
      js.source = Fragment.render .script (Client.Angular.moduleFragments
        (renderedContext options.resolve models registry.resultful) (rendered.map Prod.fst)) ∧
      ts.source = (Client.Fetch.file (renderedContext options.resolve models registry.resultful)
        (rendered.map Prod.snd)).render .script ∧
      List.Forall₂ (fun m r => Agree m r.1 r.2) models.toList rendered := by
  obtain ⟨classes, models, hclasses, hmodels, hjs⟩ :=
    exists_rendered_of_generateServices (t := .angular) rfl hjs
  obtain ⟨classes', models', hclasses', hmodels', hts⟩ :=
    exists_rendered_of_generateServices (t := .fetch) rfl hts
  -- both requests are about the same models
  obtain rfl : classes = classes' := Except.ok.inj (hclasses.symm.trans hclasses')
  obtain rfl : models = models' := Except.ok.inj (hmodels.symm.trans hmodels')
  obtain ⟨factories, hfactories, hjs⟩ := Client.exists_items_of_renderItems _ _
    (Client.Angular.factory (renderedContext options.resolve models registry.resultful)) _ hjs
  obtain ⟨clients, hclients, hts⟩ := Client.exists_items_of_renderItems _ _ Client.Fetch.client _ hts
  obtain ⟨rendered, rfl, rfl, hagree⟩ := Client.exists_rendered hfactories hclients
  exact ⟨classes, models, rendered, hclasses, hmodels, hjs, hts, hagree⟩

/-- A registry of users. -/
def users : Registry := .ofClasses [Client.userClass] (some true)

/-- Both templates can render users. -/
theorem rendersAll_users (t : Builtin) : t.RendersAll (describedModels [Client.userClass]) := by
  have hmodels : describedModels [Client.userClass] =
      [RestClass.described [Client.userClass] Client.userClass] := rfl
  rw [hmodels]
  refine ⟨by simp, fun m hm => ?_⟩
  rw [List.mem_singleton] at hm
  subst hm
  cases t with
  | angular => exact Builtin.renders_angular_iff.mpr ⟨⟨by decide, by decide +kernel⟩, by decide⟩
  | fetch =>
    refine Builtin.renders_fetch_iff.mpr ⟨⟨by decide, by decide⟩, ?_⟩
    simp only [Client.Fetch.exists_function_iff]
    decide +kernel

/-- Both templates answer a request for users. -/
theorem exists_answer_users (options : Options) (t : Builtin)
    (ht : options.resolve.template = t.template.name)
    (hname : Text.isBlankText options.resolve.moduleName = false) :
    ∃ answer, generateServices users builtinTemplates options = .ok answer :=
  exists_answer_of_rendersAll ht rfl (by decide) hname (rendersAll_users t)

theorem templates_agree_users :
    ∃ js ts, generateServices users builtinTemplates { template := some "angular" } = .ok js ∧
      generateServices users builtinTemplates { template := some "fetch" } = .ok ts ∧
      ∃ models factory c, (describe [Client.userClass]).models = .ok models ∧
        js.source = Fragment.render .script (Client.Angular.moduleFragments
          (renderedContext (Options.resolve {}) models (some true)) [factory]) ∧
        ts.source = (Client.Fetch.file
          (renderedContext (Options.resolve {}) models (some true)) [c]).render .script ∧
        Agree (RestClass.described [Client.userClass] Client.userClass) factory c := by
  obtain ⟨js, hjs⟩ :=
    exists_answer_users { template := some "angular" } .angular rfl (by decide +kernel)
  obtain ⟨ts, hts⟩ :=
    exists_answer_users { template := some "fetch" } .fetch rfl (by decide +kernel)
  obtain ⟨classes, models, rendered, hclasses, hmodels, hjs', hts', hagree⟩ :=
    @templates_agree users {} js ts hjs hts
  cases hclasses
  obtain ⟨-, htoList⟩ := describe_eq_ok_iff.mp hmodels
  rw [htoList] at hagree
  obtain ⟨⟨factory, c⟩, rest, hfirst, hrest, rfl⟩ := List.forall₂_cons_left_iff.mp hagree
  cases hrest
  exact ⟨js, ts, hjs, hts, models, factory, c, hmodels, hjs', hts', hfirst⟩

end Generation
end RestBindings
