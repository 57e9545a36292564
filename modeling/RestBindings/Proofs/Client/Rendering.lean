import RestBindings.Client.Builtin
import RestBindings.Proofs.Client.Calls
import RestBindings.Proofs.Client.Identifiers

/-! # What the built-in templates can render

Rendering goes model by model and method by method, and can stop at three places: where a key of a
client is taken, where a method has no route, and, in TypeScript, where two parameters come out as
one variable.  `Builtin.Renders` says of a model that none of this happens, and
`exists_render_iff` that a module is rendered exactly when its name is not blank, the identifiers of
its models differ and each of them can be rendered.  Which errors there are is told once for every
kind of errors that has all conflicts of names (`failsWith_render`): the rest come from the name of
the module and from the routes of methods.

The AngularJS template reserves one more key for some models, the action `getCurrent` that it adds.
No method can have it: a static method of this name keeps the template from adding the action, and
the action names of prototype methods are marked (`fresh_reservedKeys_iff`).
-/
namespace RestBindings
namespace Client

/-- The error is about models, and not about the module. -/
def RenderError.OfModels : RenderError → Prop
  | .invalidModuleName _ => False
  | _ => True

/-- The error is about names, and not about what a method lacks. -/
def RenderError.OfNames : RenderError → Prop
  | .malformed .. => False
  | _ => True

/-! ## Stages that both templates share -/

theorem checkModuleName_of_isBlank {context : Context}
    (h : Text.isBlankText context.moduleName = true) :
    context.checkModuleName = .error (.invalidModuleName context.moduleName) := by
  rw [Context.checkModuleName, if_pos h]

theorem checkModuleName_eq_ok_iff {context : Context} {u : Unit} :
    context.checkModuleName = .ok u ↔ Text.isBlankText context.moduleName = false := by
  rw [Context.checkModuleName]
  split <;> simp_all

theorem failsWith_checkModuleName (context : Context) :
    FailsWith RenderError.OfNames context.checkModuleName := by
  rw [Context.checkModuleName]
  split
  · exact failsWith_error trivial
  · exact failsWith_ok ()

theorem failsWith_routeOf (m : Model) (method : Method) :
    FailsWith RenderError.OfModels (routeOf m method) := by
  rw [routeOf]
  split
  · exact failsWith_ok _
  · exact failsWith_error trivial

theorem exists_routeOf_iff {m : Model} {method : Method} :
    (∃ route, routeOf m method = .ok route) ↔ method.routes ≠ [] := by
  simp only [routeOf_eq_ok_iff, Method.firstRoute?, List.head?_eq_some_iff]
  cases method.routes <;> simp

theorem failsWith_takeAll {α β : Type} {kind : RenderError → Prop} {entry : α → String × β}
    {conflict : α → β → RenderError} (h : ∀ a first, kind (conflict a first))
    (taken : List (String × β)) (l : List α) :
    FailsWith kind (takeAll entry conflict taken l) := by
  obtain ⟨-, heq⟩ | ⟨_, a, _, first, -, -, -, heq⟩ := takeAll_cases entry conflict taken l
  · exact heq ▸ failsWith_ok _
  · exact heq ▸ failsWith_error (h a first)

/-- A method with a route has no error. -/
theorem failsWith_routeOf_of_routed {kind : RenderError → Prop} {m : Model} {method : Method}
    (h : method.routes ≠ []) : FailsWith kind (routeOf m method) := by
  obtain ⟨route, hroute⟩ := exists_routeOf_iff (m := m).mpr h
  rw [hroute]
  exact failsWith_ok route

/-- What holds of the methods with keys holds of all methods. -/
theorem forall_keyTable_iff {m : Model} {reserved : List String} {p : Method → Prop} :
    (∀ k ∈ (keyTable m reserved).keys, p k.method) ↔ ∀ method ∈ m.methods, p method := by
  rw [← map_method_keyTable m reserved, List.forall_mem_map]

/-! ## TypeScript clients -/

namespace Fetch

open Code (Const Fragment Object)

theorem exists_function_iff {m : Model} {method : Method} :
    (∃ f, function m method = .ok f) ↔
      method.routes ≠ [] ∧ ((callerParams method).map variableOf).Nodup := by
  rw [← exists_routeOf_iff (m := m)]
  constructor
  · rintro ⟨f, h⟩
    obtain ⟨route, args, hroute, hargs, -⟩ := function_eq_ok_iff.mp h
    exact ⟨⟨route, routeOf_eq_ok_iff.mpr hroute⟩, (arguments_eq_ok_iff.mp hargs).1⟩
  · rintro ⟨⟨route, hroute⟩, hnodup⟩
    exact ⟨_, function_eq_ok_iff.mpr ⟨route, _, routeOf_eq_ok_iff.mp hroute,
      arguments_eq_ok_iff.mpr ⟨hnodup, rfl⟩, rfl⟩⟩

/-- A model has a client exactly when its action names are free and its methods have functions. -/
theorem exists_client_iff {binding : String} {m : Model} :
    (∃ c, client binding m = .ok c) ↔
      Fresh reservedKeys (m.methods.map Method.action) ∧
        ∀ method ∈ m.methods, ∃ f, function m method = .ok f := by
  rw [client, exists_bind_pure_eq_ok_iff, clientObject, exists_bind_eq_ok_iff]
  simp only [clientKeys_eq_ok_iff, exists_bind_pure_eq_ok_iff, exists_mapM_eq_ok_iff,
    methodProperties]
  constructor
  · rintro ⟨_, ⟨hfresh, rfl⟩, hmethods⟩
    exact ⟨hfresh, forall_keyTable_iff.mp hmethods⟩
  · rintro ⟨hfresh, hmethods⟩
    exact ⟨_, ⟨hfresh, rfl⟩, forall_keyTable_iff.mpr hmethods⟩

/-- The declaration of a client: its documentation and an exported constant. -/
def declaration (binding : String) (m : Model) (object : Object) : List Fragment := [
  .doc ("Client for the `" ++ m.name ++ "` model."),
  .block ("export const " ++ binding ++ " = \x7b") (Object.propertyFragments object)
    (some "\x7d;")]

theorem fragments_of_client {binding : String} {m : Model} {c : Const}
    (h : client binding m = .ok c) :
    ∃ object, clientObject m = .ok object ∧ c.fragments = declaration binding m object := by
  obtain ⟨object, hobject, h⟩ := bind_eq_ok_iff.mp h
  cases h
  refine ⟨object, hobject, ?_⟩
  -- an object that starts with the name of the model is not empty
  obtain ⟨table, -, hobject⟩ := bind_eq_ok_iff.mp hobject
  obtain ⟨methods, -, hobject⟩ := bind_eq_ok_iff.mp hobject
  cases hobject
  simp [Const.fragments, Const.head, Code.docFragments, Code.exportWord, declaration]

end Fetch

/-! ## AngularJS services -/

namespace Angular

/-- A model has a factory exactly when its action names are free and its methods have routes. -/
theorem exists_factory_iff {context : Context} {binding : String} {m : Model} :
    (∃ f, factory context binding m = .ok f) ↔
      Fresh (reservedKeys m) (m.methods.map Method.action) ∧
        ∀ method ∈ m.methods, method.routes ≠ [] := by
  rw [factory, exists_bind_eq_ok_iff]
  simp only [clientKeys_eq_ok_iff, exists_bind_pure_eq_ok_iff, actions, methodActions,
    exists_mapM_eq_ok_iff, ← exists_routeOf_iff (m := m)]
  constructor
  · rintro ⟨_, ⟨hfresh, rfl⟩, hmethods⟩
    exact ⟨hfresh, forall_keyTable_iff.mp hmethods⟩
  · rintro ⟨hfresh, hmethods⟩
    exact ⟨_, ⟨hfresh, rfl⟩, forall_keyTable_iff.mpr hmethods⟩

/-- No method has the action name `getCurrent` where the template adds this action. -/
theorem action_ne_getCurrent {m : Model} (hadds : addsGetCurrent m = true) {method : Method}
    (hmethod : method ∈ m.methods) : method.action ≠ "getCurrent" := by
  intro haction
  rw [addsGetCurrent, Bool.and_eq_true, Bool.not_eq_true', hasStatic, List.any_eq_false] at hadds
  have hstatic := hadds.2 method hmethod
  rw [Method.action] at haction
  split at haction
  next h => simp [h, haction] at hstatic
  next h =>
    -- the mark of prototype methods starts with another character
    have hlist := congrArg String.toList haction
    simp at hlist

/-- The keys a factory sets that a method could have too. -/
def contestedKeys (m : Model) : List String :=
  "modelName" :: if m.isUser then ["getCachedCurrent", "isAuthenticated", "getCurrentId"] else []

/-- The action `getCurrent` that the template adds never takes the key of a method. -/
theorem fresh_reservedKeys_iff {m : Model} :
    Fresh (reservedKeys m) (m.methods.map Method.action) ↔
      Fresh (contestedKeys m) (m.methods.map Method.action) := by
  have hmem {name : String} (hname : name ∈ m.methods.map Method.action) :
      name ∈ reservedKeys m ↔ name ∈ contestedKeys m := by
    obtain ⟨method, hmethod, rfl⟩ := List.mem_map.mp hname
    rw [reservedKeys, contestedKeys, userHelperNames]
    by_cases hadds : addsGetCurrent m = true
    · have hne := action_ne_getCurrent hadds hmethod
      simp [hadds, hne]
    · simp [hadds]
  constructor
  · rintro ⟨hnodup, hfree⟩
    exact ⟨hnodup, fun name hname h => hfree name hname ((hmem hname).mpr h)⟩
  · rintro ⟨hnodup, hfree⟩
    exact ⟨hnodup, fun name hname h => hfree name hname ((hmem hname).mp h)⟩

end Angular

/-! ## Rendering a module -/

section Module

variable {α : Type} (context : Context) (toIdentifier : String → String)
  (item : String → Model → Except RenderError α) (finish : List α → String)

/-- Rendering as both templates do it: under a name that is not blank, an item for every model with
its identifier, and a module of the items. -/
def renderItems : Except RenderError String := do
  context.checkModuleName
  let models ← context.identifiers toIdentifier
  let items ← models.mapM fun (identifier, m) => item identifier m
  pure (finish items)

theorem exists_renderItems_iff {p : Model → Prop}
    (hitem : ∀ identifier m, (∃ a, item identifier m = .ok a) ↔ p m) :
    (∃ source, renderItems context toIdentifier item finish = .ok source) ↔
      Text.isBlankText context.moduleName = false ∧
        (context.models.toList.map fun m => toIdentifier m.name).Nodup ∧
        ∀ m ∈ context.models.toList, p m := by
  have hitems (models : List Model) :
      (∃ items, (models.map (identified toIdentifier)).mapM (fun (identifier, m) =>
        item identifier m) = .ok items) ↔ ∀ m ∈ models, p m := by
    rw [exists_mapM_eq_ok_iff, List.forall_mem_map]
    simp only [identified, hitem]
  rw [renderItems, exists_bind_eq_ok_iff]
  simp only [checkModuleName_eq_ok_iff, ← hitems]
  constructor
  · rintro ⟨-, hname, h⟩
    obtain ⟨models, hmodels, h⟩ := exists_bind_eq_ok_iff.mp h
    obtain ⟨hnodup, rfl⟩ := identifiers_eq_ok_iff.mp hmodels
    exact ⟨hname, hnodup, exists_bind_pure_eq_ok_iff.mp h⟩
  · rintro ⟨hname, hnodup, h⟩
    exact ⟨(), hname, exists_bind_eq_ok_iff.mpr
      ⟨_, identifiers_eq_ok_iff.mpr ⟨hnodup, rfl⟩, exists_bind_pure_eq_ok_iff.mpr h⟩⟩

/-- What is rendered is a module of the items of all models, in order. -/
theorem renderItems_eq_ok_iff {source : String} :
    renderItems context toIdentifier item finish = .ok source ↔
      Text.isBlankText context.moduleName = false ∧
        (context.models.toList.map fun m => toIdentifier m.name).Nodup ∧
        ∃ items, List.Forall₂ (fun m a => item (toIdentifier m.name) m = .ok a)
          context.models.toList items ∧ source = finish items := by
  rw [renderItems]
  simp only [bind_eq_ok_iff, checkModuleName_eq_ok_iff, identifiers_eq_ok_iff, mapM_eq_ok_iff]
  constructor
  · rintro ⟨-, hname, _, ⟨hnodup, rfl⟩, items, hitems, h⟩
    cases h
    exact ⟨hname, hnodup, items, List.forall₂_map_left_iff.mp hitems, rfl⟩
  · rintro ⟨hname, hnodup, items, hitems, rfl⟩
    exact ⟨(), hname, _, ⟨hnodup, rfl⟩, items, List.forall₂_map_left_iff.mpr hitems, rfl⟩

theorem exists_items_of_renderItems {source : String}
    (h : renderItems context toIdentifier item finish = .ok source) :
    ∃ items, List.Forall₂ (fun m a => item (toIdentifier m.name) m = .ok a)
      context.models.toList items ∧ source = finish items :=
  (renderItems_eq_ok_iff context toIdentifier item finish |>.mp h).2.2

end Module

/-! ## Errors

The errors of rendering are of any kind that has all conflicts of names, as long as those of the
places that are left are: the name of the module, and the routes of methods. -/

/-- A computation for the keys of every method of a model fails as it does for one. -/
theorem failsWith_forKeys {α : Type} {kind : RenderError → Prop} {m : Model}
    {reserved : List String} {table : KeyTable} {f : MethodKeys → Except RenderError α}
    (htable : clientKeys m reserved = .ok table)
    (hf : ∀ k : MethodKeys, k.method ∈ m.methods → FailsWith kind (f k)) :
    FailsWith kind (table.keys.mapM f) := by
  obtain ⟨-, rfl⟩ := clientKeys_eq_ok_iff.mp htable
  have hmem : ∀ k ∈ (keyTable m reserved).keys, k.method ∈ m.methods :=
    forall_keyTable_iff.mpr fun _ hmethod => hmethod
  exact FailsWith.mapM fun k hk => hf k (hmem k hk)

section Errors

variable {kind : RenderError → Prop}
  (hconflict : ∀ identifier first second, kind (.identifierConflict identifier first second))
include hconflict

theorem failsWith_identifiers (context : Context) (toIdentifier : String → String) :
    FailsWith kind (context.identifiers toIdentifier) := by
  rw [Context.identifiers, identifiersFrom_eq_takeAll]
  exact failsWith_takeAll (fun _ _ => hconflict _ _ _) _ _

theorem failsWith_clientKeys (m : Model) (reserved : List String) :
    FailsWith kind (clientKeys m reserved) := by
  rw [clientKeys, ownActions_eq_takeAll]
  exact (failsWith_takeAll (fun _ _ => hconflict _ _ _) _ _).bind fun _ _ => failsWith_ok _

theorem Fetch.failsWith_arguments (m : Model) (method : Method) :
    FailsWith kind (Fetch.arguments m method) := by
  obtain ⟨-, heq⟩ | ⟨-, _, _, _, heq⟩ := Fetch.arguments_cases m method
  · exact heq ▸ failsWith_ok _
  · exact heq ▸ failsWith_error (hconflict _ _ _)

section Model

variable {m : Model} (hroutes : ∀ method ∈ m.methods, FailsWith kind (routeOf m method))
include hroutes

theorem Fetch.failsWith_client (binding : String) : FailsWith kind (Fetch.client binding m) := by
  refine FailsWith.bind ?_ fun _ _ => failsWith_ok _
  refine (failsWith_clientKeys hconflict m Fetch.reservedKeys).bind fun table htable => ?_
  refine FailsWith.bind ?_ fun _ _ => failsWith_ok _
  refine failsWith_forKeys htable fun k hk => ?_
  refine FailsWith.bind ?_ fun _ _ => failsWith_ok _
  refine (hroutes k.method hk).bind fun _ _ => ?_
  exact (Fetch.failsWith_arguments hconflict m k.method).bind fun _ _ => failsWith_ok _

theorem Angular.failsWith_factory (context : Context) (binding : String) :
    FailsWith kind (Angular.factory context binding m) := by
  refine (failsWith_clientKeys hconflict m (Angular.reservedKeys m)).bind fun table htable => ?_
  refine FailsWith.bind ?_ fun _ _ => failsWith_ok _
  refine FailsWith.bind ?_ fun _ _ => failsWith_ok _
  refine failsWith_forKeys htable fun k hk => ?_
  exact (hroutes k.method hk).bind fun _ _ => failsWith_ok _

end Model

theorem failsWith_renderItems {α : Type} {context : Context} {toIdentifier : String → String}
    {item : String → Model → Except RenderError α} {finish : List α → String}
    (hname : FailsWith kind context.checkModuleName)
    (hitem : ∀ m ∈ context.models.toList, ∀ identifier, FailsWith kind (item identifier m)) :
    FailsWith kind (renderItems context toIdentifier item finish) := by
  refine hname.bind fun _ _ => ?_
  refine (failsWith_identifiers hconflict context toIdentifier).bind fun models hmodels => ?_
  refine FailsWith.bind ?_ fun _ _ => failsWith_ok _
  obtain ⟨-, rfl⟩ := identifiers_eq_ok_iff.mp hmodels
  refine FailsWith.mapM (List.forall_mem_map.mpr fun m hm => ?_)
  exact hitem m hm _

end Errors

/-! ## Both templates -/

/-- The built-in templates. -/
inductive Builtin where
  | angular
  | fetch
deriving DecidableEq, Repr

namespace Builtin

/-- The template. -/
def template : Builtin → Template
  | angular => Angular.template
  | fetch => Fetch.template

/-- The name that a template binds a model to. -/
def bindingName : Builtin → String → String
  | angular => Naming.Convention.script.binding
  | fetch => Fetch.bindingName

/-- The keys of a client that no method may have. -/
def reserved : Builtin → Model → List String
  | angular, m => Angular.contestedKeys m
  | fetch, _ => Fetch.reservedKeys

/-- A template can render a model. -/
structure Renders (t : Builtin) (m : Model) : Prop where
  /-- Action names differ. -/
  actions_nodup : (m.methods.map Method.action).Nodup
  /-- No action name is reserved. -/
  actions_free : ∀ method ∈ m.methods, method.action ∉ t.reserved m
  /-- Every method has a route. -/
  routed : ∀ method ∈ m.methods, method.routes ≠ []
  /-- In TypeScript, no two names that a caller supplies come out as the same variable. -/
  variables_differ : t = .fetch → ∀ method ∈ m.methods, ∀ p ∈ method.accepts,
    ∀ q ∈ method.accepts, p.isServerSide = false → q.isServerSide = false → p.arg ≠ q.arg →
      Naming.Convention.script.param p.arg ≠ Naming.Convention.script.param q.arg

/-- A template can render models into one module. -/
structure RendersAll (t : Builtin) (models : List Model) : Prop where
  /-- The names that models are bound to differ. -/
  bindings_nodup : (models.map fun m => t.bindingName m.name).Nodup
  /-- Every model can be rendered. -/
  renders : ∀ m ∈ models, t.Renders m

theorem renders_angular_iff {m : Model} :
    Builtin.angular.Renders m ↔
      Fresh (Angular.contestedKeys m) (m.methods.map Method.action) ∧
        ∀ method ∈ m.methods, method.routes ≠ [] := by
  rw [fresh_map_iff]
  constructor
  · rintro ⟨hnodup, hfree, hrouted, -⟩
    exact ⟨⟨hnodup, hfree⟩, hrouted⟩
  · rintro ⟨⟨hnodup, hfree⟩, hrouted⟩
    exact ⟨hnodup, hfree, hrouted, nofun⟩

theorem renders_fetch_iff {m : Model} :
    Builtin.fetch.Renders m ↔
      Fresh Fetch.reservedKeys (m.methods.map Method.action) ∧
        ∀ method ∈ m.methods, ∃ f, Fetch.function m method = .ok f := by
  simp only [fresh_map_iff, Fetch.exists_function_iff, Fetch.nodup_variables_iff]
  constructor
  · rintro ⟨hnodup, hfree, hrouted, hdiffer⟩
    exact ⟨⟨hnodup, hfree⟩,
      fun method hmethod => ⟨hrouted method hmethod, hdiffer rfl method hmethod⟩⟩
  · rintro ⟨⟨hnodup, hfree⟩, hmethods⟩
    exact ⟨hnodup, hfree, fun method hmethod => (hmethods method hmethod).1,
      fun _ method hmethod => (hmethods method hmethod).2⟩

/-- **What a template can render**: a module whose name is not blank, of models that it can
render. -/
theorem exists_render_iff (t : Builtin) (context : Context) :
    (∃ source, t.template.render context = .ok source) ↔
      Text.isBlankText context.moduleName = false ∧ t.RendersAll context.models.toList := by
  have hall : t.RendersAll context.models.toList ↔
      (context.models.toList.map fun m => t.bindingName m.name).Nodup ∧
        ∀ m ∈ context.models.toList, t.Renders m :=
    ⟨fun h => ⟨h.bindings_nodup, h.renders⟩, fun h => ⟨h.1, h.2⟩⟩
  rw [hall]
  cases t with
  | angular =>
    refine exists_renderItems_iff context _ (Angular.factory context) _ fun identifier m => ?_
    rw [Angular.exists_factory_iff, Angular.fresh_reservedKeys_iff, renders_angular_iff]
  | fetch =>
    refine exists_renderItems_iff context _ Fetch.client _ fun identifier m => ?_
    rw [Fetch.exists_client_iff, renders_fetch_iff]

/-- **Where errors come from.**  Of any kind that has all conflicts of names, the errors of a template
are of this kind if those of the name of the module and of the routes of methods are. -/
theorem failsWith_render (t : Builtin) {context : Context} {kind : RenderError → Prop}
    (hconflict : ∀ identifier first second, kind (.identifierConflict identifier first second))
    (hname : FailsWith kind context.checkModuleName)
    (hroutes : ∀ m ∈ context.models.toList, ∀ method ∈ m.methods,
      FailsWith kind (routeOf m method)) :
    FailsWith kind (t.template.render context) := by
  cases t with
  | angular =>
    exact failsWith_renderItems hconflict hname fun m hm binding =>
      Angular.failsWith_factory hconflict (hroutes m hm) context binding
  | fetch =>
    exact failsWith_renderItems hconflict hname fun m hm binding =>
      Fetch.failsWith_client hconflict (hroutes m hm) binding

/-- Under a name that is not blank, rendering fails with errors about models only. -/
theorem failsWith_render_of_models (t : Builtin) {context : Context}
    (hname : Text.isBlankText context.moduleName = false) :
    FailsWith RenderError.OfModels (t.template.render context) := by
  refine t.failsWith_render (fun _ _ _ => trivial) ?_ fun m _ method _ => failsWith_routeOf m method
  rw [checkModuleName_eq_ok_iff (u := ()).mpr hname]
  exact failsWith_ok ()

/-- Where every method has a route, rendering fails with errors about names only. -/
theorem failsWith_render_of_routed (t : Builtin) {context : Context}
    (h : ∀ m ∈ context.models.toList, ∀ method ∈ m.methods, method.routes ≠ []) :
    FailsWith RenderError.OfNames (t.template.render context) :=
  t.failsWith_render (fun _ _ _ => trivial) (failsWith_checkModuleName context)
    fun m hm method hmethod => failsWith_routeOf_of_routed (h m hm method hmethod)

end Builtin

end Client
end RestBindings
