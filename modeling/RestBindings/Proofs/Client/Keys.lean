import Mathlib.Data.List.Perm.Basic
import RestBindings.Proofs.Client.Readings
import RestBindings.Proofs.Client.Rendering

/-! # No key of a client is defined twice

Three computations have to agree for the keys of a client to be distinct.  What an AngularJS factory
reserves depends on a look for a static method `getCurrent`, the action of this name is added by
another look, and aliases are dropped by what is reserved and by all action names.  So the keys of a
factory, read off its actions and its assignments, are the reserved keys, the action names and the
aliases that are kept (`nodup_keys_factory`), and these are distinct by `nodup_names`.

A TypeScript client writes its keys bare or quoted.  Written keys are read back as the keys they
stand for, so the properties of a client are distinct texts too, and the function that a client has
under an alias is that of the action the alias is kept for.
-/
namespace RestBindings
namespace Client

open Code (Fragment Object Const)

/-- A method that declares an alias first has keys. -/
theorem exists_keys_of_declarer? {m : Model} {name : String} {method : Method}
    (h : declarer? m.methods name = some method) (reserved : List String) :
    ∃ k ∈ (keyTable m reserved).keys, k.method = method := by
  have hmem := (declarer?_eq_some h).1
  rw [← map_method_keyTable m reserved] at hmem
  exact List.mem_map.mp hmem

/-- Where every method has a route, the keys of the endpoints are the action names. -/
theorem map_key_methodEndpoints {m : Model} {methods : List Method}
    (h : ∀ method ∈ methods, method.routes ≠ []) :
    (methodEndpoints m methods).map Endpoint.key = methods.map Method.action := by
  induction methods with
  | nil => rfl
  | cons method rest ih =>
    rw [List.forall_mem_cons] at h
    obtain ⟨route, hroute⟩ := exists_routeOf_iff (m := m).mpr h.1
    rw [methodEndpoints_cons (routeOf_eq_ok_iff.mp hroute), List.map_cons, List.map_cons, ih h.2]
    rfl

/-! ## AngularJS factories -/

namespace Angular

/-- The keys of the object of actions, in order, if every property is an action. -/
def actionKeys? (factory : List Fragment) : Option (List String) :=
  (endpoints? factory).map fun endpoints => endpoints.map Endpoint.key

/-- The keys that actions should have: the action names of the methods, and `getCurrent` for a user
model without a static method of this name. -/
def actionNames (m : Model) : List String :=
  m.methods.map Method.action
    ++ if m.isUser = true ∧ ∀ method ∈ m.methods, method.isStatic = true →
        method.name ≠ "getCurrent" then
      ["getCurrent"] else []

/-- **The keys of a factory are defined once.** -/
structure KeysOnce (m : Model) (factory : List Fragment) : Prop where
  /-- There is an action for every method, in order, and `getCurrent` where it belongs. -/
  actions : actionKeys? factory = some (actionNames m)
  /-- Below the actions, the aliases are assigned, the session helpers of a user model, and the
  name. -/
  assigned : assignedKeys factory = (assignedAliases factory).map Prod.fst
    ++ (if m.isUser then ["getCachedCurrent", "isAuthenticated", "getCurrentId"] else [])
    ++ ["modelName"]
  /-- No two of all these keys are the same. -/
  nodup : (actionNames m ++ assignedKeys factory).Nodup
  /-- An alias is assigned the action of its own method, the first that declares it, unless it is a
  key already. -/
  aliases : ∀ name action, (name, action) ∈ assignedAliases factory ↔
    name ∉ actionNames m ∧ name ∉ reservedKeys m ∧
      ∃ method, declarer? m.methods name = some method ∧ method.action = action

theorem addsGetCurrent_iff {m : Model} :
    addsGetCurrent m = true ↔ m.isUser = true ∧ ∀ method ∈ m.methods, method.isStatic = true →
      method.name ≠ "getCurrent" := by
  simp [addsGetCurrent, hasStatic]

theorem actionNames_eq (m : Model) :
    actionNames m = m.methods.map Method.action ++ (addedEndpoints m).map Endpoint.key := by
  rw [actionNames, addedEndpoints]
  simp only [addsGetCurrent_iff]
  split <;> rfl

theorem reservedKeys_eq (m : Model) :
    reservedKeys m = "modelName" :: ((if m.isUser then userHelperNames else [])
      ++ (addedEndpoints m).map Endpoint.key) := by
  rw [reservedKeys, addedEndpoints]
  cases addsGetCurrent m <;> rfl

/-- The added action is reserved. -/
theorem mem_reservedKeys_append_iff {m : Model} {name : String} :
    name ∈ reservedKeys m ++ m.methods.map Method.action ↔
      name ∈ actionNames m ∨ name ∈ reservedKeys m := by
  rw [actionNames_eq, reservedKeys_eq]
  simp only [List.mem_append, List.mem_cons]
  tauto

theorem nodup_reservedKeys (m : Model) : (reservedKeys m).Nodup := by
  rw [reservedKeys, addsGetCurrent]
  cases m.isUser <;> cases hasStatic m "getCurrent" <;> decide

theorem map_fst_aliasPairs (keys : List MethodKeys) :
    (aliasPairs keys).map Prod.fst = keys.flatMap MethodKeys.aliases := by
  simp only [aliasPairs, List.map_flatMap, List.map_map, Function.comp_def, List.map_id']

theorem mem_aliasPairs_iff {keys : List MethodKeys} {name action : String} :
    (name, action) ∈ aliasPairs keys ↔ ∃ k ∈ keys, name ∈ k.aliases ∧ k.action = action := by
  simp [aliasPairs]

section Factory

variable {context : Context} {binding : String} {m : Model} {fragments : List Fragment}
  (h : factory context binding m = .ok fragments)
include h

theorem actionKeys?_factory : actionKeys? fragments = some (actionNames m) := by
  obtain ⟨-, hrouted⟩ := exists_factory_iff.mp ⟨fragments, h⟩
  rw [actionKeys?, endpoints?_factory h, Option.map_some, List.map_append,
    map_key_methodEndpoints hrouted, actionNames_eq]

/-- The keys of a factory are the reserved keys, the action names and the aliases. -/
theorem keys_factory_perm :
    (actionNames m ++ assignedKeys fragments).Perm
      (reservedKeys m ++ m.methods.map Method.action
        ++ (keyTable m (reservedKeys m)).keys.flatMap MethodKeys.aliases) := by
  rw [assignedKeys_factory h, map_fst_aliasPairs, actionNames_eq, reservedKeys_eq,
    List.perm_iff_count]
  -- the added action is an action on the left and a reserved key on the right
  intro name
  simp only [List.cons_append, List.count_append, List.count_cons, List.count_nil]
  omega

theorem nodup_keys_factory : (actionNames m ++ assignedKeys fragments).Nodup := by
  obtain ⟨hfresh, -⟩ := exists_factory_iff.mp ⟨fragments, h⟩
  exact (keys_factory_perm h).nodup_iff.mpr (nodup_names (nodup_reservedKeys m) hfresh)

theorem mem_assignedAliases_iff {name action : String} :
    (name, action) ∈ assignedAliases fragments ↔
      name ∉ actionNames m ∧ name ∉ reservedKeys m ∧
        ∃ method, declarer? m.methods name = some method ∧ method.action = action := by
  obtain ⟨hfresh, -⟩ := exists_factory_iff.mp ⟨fragments, h⟩
  rw [assignedAliases_factory h, mem_aliasPairs_iff, ← and_assoc, ← not_or,
    ← mem_reservedKeys_append_iff]
  constructor
  · rintro ⟨k, hk, hname, rfl⟩
    obtain ⟨hfree, hdeclarer⟩ := (mem_aliases_iff hfresh hk).mp hname
    exact ⟨hfree, k.method, hdeclarer, (action_of_mem_keyTable hk).symm⟩
  · rintro ⟨hfree, method, hdeclarer, rfl⟩
    obtain ⟨k, hk, rfl⟩ := exists_keys_of_declarer? hdeclarer (reservedKeys m)
    exact ⟨k, hk, (mem_aliases_iff hfresh hk).mpr ⟨hfree, hdeclarer⟩, action_of_mem_keyTable hk⟩

theorem keysOnce_factory : KeysOnce m fragments where
  actions := actionKeys?_factory h
  assigned := by rw [assignedKeys_factory h, assignedAliases_factory h, userHelperNames]
  nodup := nodup_keys_factory h
  aliases _ _ := mem_assignedAliases_iff h

end Factory

end Angular

/-! ## TypeScript clients -/

namespace Fetch

/-- **The keys of a client are defined once.** -/
structure KeysOnce (m : Model) (c : Const) (keys : List MethodKeys) : Prop where
  /-- Every method has keys, in order. -/
  methods : keys.map MethodKeys.method = m.methods
  /-- A method is reached under its action name. -/
  action : ∀ k ∈ keys, k.action = k.method.action
  /-- A method keeps the aliases that it is the first to declare, unless they are keys already. -/
  aliases : ∀ k ∈ keys, ∀ name, name ∈ k.aliases ↔
    name ≠ "modelName" ∧ name ∉ m.methods.map Method.action ∧
      declarer? m.methods name = some k.method
  /-- The properties are the name, the action names and the aliases, bare or quoted. -/
  written : Object.keys (properties c) =
    ("modelName" :: keys.flatMap fun k => k.action :: k.aliases).map propertyKey
  /-- No two properties are written the same. -/
  nodup : (Object.keys (properties c)).Nodup
  /-- Under the aliases there is the same function as under the action name. -/
  function : ∀ k ∈ keys, ∃ f, function m k.method = .ok f ∧ ∀ key ∈ k.action :: k.aliases,
    (properties c).lookup (propertyKey key) = some (.lambda f)

section Client

variable {binding : String} {m : Model} {c : Const} (h : client binding m = .ok c)
include h

theorem nodup_keys_client : (Object.keys (properties c)).Nodup := by
  obtain ⟨hfresh, -⟩ := exists_client_iff.mp ⟨c, h⟩
  have hnames := nodup_names (List.nodup_singleton "modelName") hfresh
  rw [List.append_assoc, List.singleton_append, ← map_action_keyTable m ["modelName"]] at hnames
  -- the client writes the aliases of a method after its action name
  have hperm := List.map_append_flatMap_perm (keyTable m ["modelName"]).keys MethodKeys.action
    MethodKeys.aliases
  rw [keys_client h]
  exact ((hperm.cons "modelName").nodup_iff.mp hnames).map propertyKey_injective

/-- The function of a method is found under its action name and its aliases. -/
theorem lookup_client {k : MethodKeys} (hk : k ∈ (keyTable m reservedKeys).keys) :
    ∃ f, function m k.method = .ok f ∧ ∀ key ∈ k.action :: k.aliases,
      (properties c).lookup (propertyKey key) = some (.lambda f) := by
  obtain ⟨f, hf, hmem⟩ := mem_properties_client h hk
  exact ⟨f, hf, fun key hkey => lookup_eq_some_of_mem (nodup_keys_client h) (hmem key hkey)⟩

theorem keysOnce_client : KeysOnce m c (keyTable m reservedKeys).keys where
  methods := map_method_keyTable m reservedKeys
  action _ hk := action_of_mem_keyTable hk
  aliases k hk name := by
    obtain ⟨hfresh, -⟩ := exists_client_iff.mp ⟨c, h⟩
    rw [mem_aliases_iff hfresh hk, List.mem_append, not_or, and_assoc, reservedKeys,
      List.mem_singleton]
  written := keys_client h
  nodup := nodup_keys_client h
  function _ hk := lookup_client h hk

end Client

end Fetch

/-! ## Both templates -/

/-- **No key of a client is defined twice**, by any of the built-in templates.  The actions of an
AngularJS factory, the aliases, session helpers and name that it assigns are distinct, and an alias is
assigned the action of its method; the properties of a TypeScript client are distinct texts, and
under an alias there is the function of its action. -/
theorem keys_defined_once (m : Model) :
    (∀ context binding factory, Angular.factory context binding m = .ok factory →
      Angular.KeysOnce m factory) ∧
    (∀ binding c, Fetch.client binding m = .ok c →
      ∃ table, clientKeys m Fetch.reservedKeys = .ok table ∧ Fetch.KeysOnce m c table.keys) := by
  refine ⟨fun context binding factory h => Angular.keysOnce_factory h, fun binding c h => ?_⟩
  obtain ⟨hfresh, -⟩ := Fetch.exists_client_iff.mp ⟨c, h⟩
  exact ⟨_, clientKeys_eq_ok_iff.mpr ⟨hfresh, rfl⟩, Fetch.keysOnce_client h⟩

/-- A class of users whose methods share aliases with each other, with an action and with what a
factory reserves. -/
def userClass : RestClass where
  name := "User"
  ctor := some [{ arg := "id" }]
  httpPath := "/users"
  methods :=
    let method (name : String) (isStatic : Bool) (route : Route) (aliases : List String) : Method :=
      { name, isStatic, accepts := [], returns := [], routes := [route], restClass := "User", aliases,
        description := none }
    [method "find" true ⟨"GET", "/"⟩ ["all", "login", "getCurrent"],
      method "login" true ⟨"POST", "/login"⟩ ["all", "signIn"],
      method "login" false ⟨"POST", "/login"⟩ ["getCurrentId", "signIn"]]

/-- The user model of this class. -/
def userModel : Model := { restClass := userClass, isUser := true }

theorem keys_defined_once_user :
    ∃ factory c table,
      Angular.factory { moduleName := "siras", models := .empty, urlBase := "" } "User" userModel =
        .ok factory ∧
      Fetch.client "User" userModel = .ok c ∧
      clientKeys userModel Fetch.reservedKeys = .ok table ∧
      Angular.KeysOnce userModel factory ∧ Fetch.KeysOnce userModel c table.keys ∧
      Angular.assignedAliases factory = [("all", "find"), ("signIn", "login")] ∧
      Object.keys (Fetch.properties c) = ["modelName", "find", "all", "getCurrent", "login",
        "signIn", "prototype$login", "getCurrentId"] := by
  have hangular : ∃ factory, Angular.factory { moduleName := "siras", models := .empty, urlBase := "" }
      "User" userModel = .ok factory :=
    Angular.exists_factory_iff.mpr ⟨⟨by decide, by decide⟩, by decide⟩
  have hfetch : ∃ c, Fetch.client "User" userModel = .ok c :=
    Fetch.exists_client_iff.mpr
      ⟨⟨by decide, by decide⟩, by simp only [Fetch.exists_function_iff]; decide⟩
  obtain ⟨factory, hfactory⟩ := hangular
  obtain ⟨c, hc⟩ := hfetch
  obtain ⟨hfactories, hclients⟩ := keys_defined_once userModel
  obtain ⟨table, htable, honce⟩ := hclients _ _ hc
  refine ⟨factory, c, table, hfactory, hc, htable, hfactories _ _ _ hfactory, honce, ?_, ?_⟩
  · rw [Angular.assignedAliases_factory hfactory]
    decide
  · rw [Fetch.keys_client hc]
    decide +kernel

end Client
end RestBindings
