import RestBindings.Client.Builtin
import RestBindings.Proofs.Client.Aliases
import RestBindings.Proofs.Client.Calls
import RestBindings.Proofs.Text.Quoted

/-! # Clients read back

What a generated client offers is read off the code that is generated.  An AngularJS factory has an
object of actions, with a property for every key and the URL and the verb on lines of their own, and
assigns further keys on the service below it.  A TypeScript client has a property for every key, and
all but the name of the model are functions that send a verb and a path.

The readers know how such code looks and nothing of models.  Actions are read one by one, whatever is
asked of each (`mapM_actionProperties`).  What the readers give is told in terms of the model: the
endpoints of its methods (`endpoints?_factory`, `actionEndpoints_client`), the keys and
the aliases (`assignedKeys_factory`, `assignedAliases_factory`, `keys_client`).
-/
namespace RestBindings
namespace Client

open Code (Fragment Object Const Lambda)
open Text (unquote? quotedAfter?)

/-- What a client reaches under a key. -/
structure Endpoint where
  key : String
  verb : String
  path : String
deriving DecidableEq, Repr

/-- A method at a route, under a key. -/
def endpointAt (m : Model) (method : Method) (route : Route) (key : String) : Endpoint :=
  ⟨key, route.verb, actionPath m method route⟩

/-- Methods at their preferred routes, under their action names. -/
def methodEndpoints (m : Model) (methods : List Method) : List Endpoint :=
  methods.filterMap fun method =>
    method.firstRoute?.map fun route => endpointAt m method route method.action

theorem methodEndpoints_cons {m : Model} {method : Method} {route : Route}
    (h : method.firstRoute? = some route) (rest : List Method) :
    methodEndpoints m (method :: rest) =
      endpointAt m method route method.action :: methodEndpoints m rest :=
  List.filterMap_cons_some (by rw [h]; rfl)

theorem propertyFragments_eq_map (object : Object) :
    Object.propertyFragments object = object.map fun p => Object.propertyFragment p.1 p.2 := by
  induction object with
  | nil => rfl
  | cons p rest ih => rw [Object.propertyFragments, ih, List.map_cons]

/-! ## AngularJS factories -/

namespace Angular

/-- The quoted text on a line with a known start. -/
def quotedOn? (start : String) : Fragment → Option String
  | .line s => (quotedAfter? start s.toList).map Prod.fst
  | _ => none

/-- The endpoint of an action. -/
def endpoint? : Fragment → Option Endpoint
  | .block header lines _ =>
    match unquote? header.toList, lines.findSome? (quotedOn? "method: "),
      lines.findSome? (quotedOn? "url: urlBase + ") with
    | some (key, _), some verb, some path => some ⟨key, verb, path⟩
    | _, _, _ => none
  | _ => none

/-- The body of the function that makes the service of a factory. -/
def serviceBody : List Fragment → List Fragment
  | [.doc _, .block _ [.line _, .block _ body _] _] => body
  | _ => []

/-- The properties of the object of actions. -/
def actionProperties (factory : List Fragment) : List Fragment :=
  match serviceBody factory with
  | .block _ [.line _, .line _, .block _ properties _] _ :: _ => properties
  | _ => []

/-- The endpoints of the object of actions, in order, if every property is one. -/
def endpoints? (factory : List Fragment) : Option (List Endpoint) :=
  (actionProperties factory).mapM endpoint?

/-- The key that a line assigns on the service. -/
def assignedKey? : Fragment → Option String
  | .line s =>
    match quotedAfter? "R[" s.toList with
    | some (key, _) => some key
    | none => (s.toList.dropPrefix? "R.".toList).map fun cs =>
      String.ofList (cs.takeWhile (· != ' '))
  | _ => none

/-- The keys that a factory assigns on the service, in order. -/
def assignedKeys (factory : List Fragment) : List String :=
  (serviceBody factory).filterMap assignedKey?

/-- The alias that a line assigns, and the action that it is assigned. -/
def assignedAlias? : Fragment → Option (String × String)
  | .line s =>
    match quotedAfter? "R[" s.toList with
    | some (key, cs) => (quotedAfter? "] = R[" cs).map fun (action, _) => (key, action)
    | none => none
  | _ => none

/-- The aliases that a factory assigns, each with its action, in order. -/
def assignedAliases (factory : List Fragment) : List (String × String) :=
  (serviceBody factory).filterMap assignedAlias?

/-! ### Actions -/

theorem quotedOn?_line {start line s : String} (rest : String)
    (h : line = start ++ (Text.quote s ++ rest)) : quotedOn? start (.line line) = some s := by
  rw [quotedOn?, h, String.toList_append, String.toList_append, Text.quotedAfter?_append]
  rfl

theorem quotedOn?_url (path : String) :
    quotedOn? "url: urlBase + " (Object.propertyFragment "url" (.code (urlCode path))) =
      some path := by
  refine quotedOn?_line "," ?_
  simp [urlCode, ← String.toList_inj]

theorem quotedOn?_verb (verb : String) :
    quotedOn? "method: " (Object.propertyFragment "method" (.text verb)) = some verb := by
  refine quotedOn?_line "," ?_
  simp [← String.toList_inj]

theorem quotedOn?_verb_url (path : String) :
    quotedOn? "method: " (Object.propertyFragment "url" (.code (urlCode path))) = none := by
  have hhead : ("url" ++ ": " ++ urlCode path ++ ",").toList.head? = some 'u' := by
    simp only [String.toList_append]
    rfl
  have hstart : "method: ".toList = 'm' :: "ethod: ".toList := by decide
  rw [Object.propertyFragment, quotedOn?,
    Text.quotedAfter?_of_head?_ne hstart (by rw [hhead]; decide)]
  rfl

/-- Session properties are objects, and these are written as blocks. -/
theorem findSome?_quotedOn?_session (start : String) (m : Model) (method : Method) :
    (Object.propertyFragments (sessionProperties m method)).findSome? (quotedOn? start) = none := by
  rw [sessionProperties]
  split
  · split
    · rfl
    · split <;> rfl
  · rfl

theorem endpoint?_action (isResultful : Bool) (m : Model) (method : Method) (route : Route)
    (key : String) :
    endpoint? (Object.propertyFragment (Text.quote key)
        (.object (action isResultful m method route))) =
      some (endpointAt m method route key) := by
  rw [Object.propertyFragment, endpoint?, String.toList_append, Text.unquote?_quote, action,
    propertyFragments_eq_map]
  simp only [List.map_append, ← propertyFragments_eq_map, List.findSome?_append,
    findSome?_quotedOn?_session, Option.none_or]
  simp only [Object.propertyFragments, List.findSome?_cons, quotedOn?_url, quotedOn?_verb,
    quotedOn?_verb_url, Option.some_or]
  rfl

theorem endpoint?_getCurrentAction (isResultful : Bool) (m : Model) :
    endpoint? (Object.propertyFragment (Text.quote "getCurrent")
        (.object (getCurrentAction isResultful m))) =
      some ⟨"getCurrent", "GET", joinPath [m.httpPath, ":id"]⟩ := by
  rw [Object.propertyFragment, endpoint?, String.toList_append, Text.unquote?_quote,
    getCurrentAction]
  simp only [List.cons_append, Object.propertyFragments, List.findSome?_cons, quotedOn?_url,
    quotedOn?_verb, quotedOn?_verb_url]

/-- What is read off the actions of methods, by induction along the methods and the properties that
were made of them. -/
theorem mapM_methodActions {α : Type} {read : Fragment → Option α} {value : Method → Route → α}
    {isResultful : Bool} {m : Model}
    (hread : ∀ method route, read (Object.propertyFragment (Text.quote method.action)
      (.object (action isResultful m method route))) = some (value method route))
    {keys : List MethodKeys} (hkeys : ∀ k ∈ keys, k.action = k.method.action) {methods : Object}
    (h : methodActions isResultful m keys = .ok methods) :
    (Object.propertyFragments methods).mapM read =
      some ((keys.map MethodKeys.method).filterMap fun method =>
        method.firstRoute?.map (value method)) := by
  rw [methodActions, mapM_eq_ok_iff] at h
  induction h with
  | nil => rfl
  | @cons k _ rest _ hk _ ih =>
    rw [List.forall_mem_cons] at hkeys
    obtain ⟨route, hroute, hk⟩ := bind_eq_ok_iff.mp hk
    cases hk
    rw [Object.propertyFragments, List.mapM_cons, hkeys.1, hread, ih hkeys.2, List.map_cons,
      List.filterMap_cons, routeOf_eq_ok_iff.mp hroute]
    rfl

/-- The action that a factory adds to those of the methods. -/
def addedActions (isResultful : Bool) (m : Model) : Object :=
  if addsGetCurrent m then
    [(Text.quote "getCurrent", .object (getCurrentAction isResultful m))]
  else []

/-- The endpoint of the action that a factory adds. -/
def addedEndpoints (m : Model) : List Endpoint :=
  if addsGetCurrent m then [⟨"getCurrent", "GET", joinPath [m.httpPath, ":id"]⟩] else []

/-! ### Assignments -/

/-- The aliases of keys, each with the action of its method. -/
def aliasPairs (keys : List MethodKeys) : List (String × String) :=
  keys.flatMap fun k => k.aliases.map fun key => (key, k.action)

theorem aliasLines_eq_map (keys : List MethodKeys) :
    aliasLines keys = (aliasPairs keys).map fun p => aliasLine p.1 p.2 := by
  simp only [aliasLines, aliasPairs, List.map_flatMap, List.map_map]
  rfl

theorem toList_aliasLine (key action : String) :
    (aliasLine key action).toList = "R[".toList ++ ((Text.quote key).toList
      ++ ("] = R[".toList ++ ((Text.quote action).toList ++ "];".toList))) := by
  simp only [aliasLine, String.toList_append, List.append_assoc]

theorem assignedKey?_aliasLine (key action : String) :
    assignedKey? (.line (aliasLine key action)) = some key := by
  rw [assignedKey?, toList_aliasLine, Text.quotedAfter?_append]

theorem assignedAlias?_aliasLine (key action : String) :
    assignedAlias? (.line (aliasLine key action)) = some (key, action) := by
  rw [assignedAlias?, toList_aliasLine, Text.quotedAfter?_append]
  simp only [Text.quotedAfter?_append]
  rfl

theorem assignedKey?_modelName (name : String) :
    assignedKey? (.line ("R.modelName = " ++ Text.quote name ++ ";")) = some "modelName" := by
  simp [assignedKey?, quotedAfter?, List.dropPrefix?]

theorem assignedAlias?_modelName (name : String) :
    assignedAlias? (.line ("R.modelName = " ++ Text.quote name ++ ";")) = none := by
  simp [assignedAlias?, quotedAfter?, List.dropPrefix?]

/-- The session helpers are the assignments of their names. -/
theorem filterMap_assignedKey?_userHelpers :
    (Fragment.ofLines userHelpers).filterMap assignedKey? = userHelperNames := by
  decide +kernel

theorem filterMap_assignedAlias?_userHelpers :
    (Fragment.ofLines userHelpers).filterMap assignedAlias? = [] := by
  decide +kernel

/-! ### The factory -/

/-- What stands in a factory: the object of actions, and below it the assignments. -/
theorem factory_eq_ok {context : Context} {binding : String} {m : Model}
    {fragments : List Fragment} (h : factory context binding m = .ok fragments) :
    Fresh (reservedKeys m) (m.methods.map Method.action) ∧
      ∃ methods url defaults,
        methodActions context.isResultful m (keyTable m (reservedKeys m)).keys = .ok methods ∧
        serviceBody fragments =
          .block "var R = Resource("
            (.line url :: .line defaults ::
              Object.fragments (methods ++ addedActions context.isResultful m)) (some ");") ::
          ((if (aliasLines (keyTable m (reservedKeys m)).keys).isEmpty then []
              else .blank :: (aliasLines (keyTable m (reservedKeys m)).keys).map .line)
            ++ (if m.isUser then .blank :: Fragment.ofLines userHelpers else [])
            ++ [.blank, .line ("R.modelName = " ++ Text.quote m.name ++ ";"), .blank,
              .line "return R;"]) := by
  obtain ⟨table, htable, h⟩ := bind_eq_ok_iff.mp h
  obtain ⟨object, hobject, h⟩ := bind_eq_ok_iff.mp h
  obtain ⟨hfresh, rfl⟩ := clientKeys_eq_ok_iff.mp htable
  rw [actions] at hobject
  obtain ⟨methods, hmethods, hobject⟩ := bind_eq_ok_iff.mp hobject
  cases hobject
  cases h
  exact ⟨hfresh, methods, _, _, hmethods, rfl⟩

/-- The properties read off a service are those of the object written there. -/
theorem actionProperties_eq {factory rest : List Fragment} {header url defaults : String}
    {object : Object} {close : Option String}
    (h : serviceBody factory =
      .block header (.line url :: .line defaults :: Object.fragments object) close :: rest) :
    actionProperties factory = Object.propertyFragments object := by
  rw [actionProperties, h]
  -- an empty object is a line, and where no block stands no properties are read
  cases object <;> rfl

section Factory

variable {context : Context} {binding : String} {m : Model} {fragments : List Fragment}
  (h : factory context binding m = .ok fragments)
include h

/-- What is read off the object of actions, one by one: what every method gives at its preferred
route, and what the added action gives. -/
theorem mapM_actionProperties {α : Type} {read : Fragment → Option α} {value : Method → Route → α}
    {added : α}
    (hread : ∀ method route, read (Object.propertyFragment (Text.quote method.action)
      (.object (action context.isResultful m method route))) = some (value method route))
    (hadded : read (Object.propertyFragment (Text.quote "getCurrent")
      (.object (getCurrentAction context.isResultful m))) = some added) :
    (actionProperties fragments).mapM read =
      some ((m.methods.filterMap fun method => method.firstRoute?.map (value method))
        ++ if addsGetCurrent m then [added] else []) := by
  obtain ⟨-, methods, url, defaults, hmethods, hbody⟩ := factory_eq_ok h
  have haddedActions : (Object.propertyFragments (addedActions context.isResultful m)).mapM read =
      some (if addsGetCurrent m then [added] else []) := by
    rw [addedActions]
    split
    · simp only [Object.propertyFragments, List.mapM_cons, hadded]
      rfl
    · rfl
  rw [actionProperties_eq hbody, propertyFragments_eq_map, List.map_append,
    ← propertyFragments_eq_map, ← propertyFragments_eq_map, List.mapM_append,
    mapM_methodActions hread (fun k => action_of_mem_keyTable) hmethods, haddedActions,
    map_method_keyTable]
  rfl

/-- **The endpoints of a factory** are those of the methods, and the one it adds. -/
theorem endpoints?_factory :
    endpoints? fragments = some (methodEndpoints m m.methods ++ addedEndpoints m) :=
  mapM_actionProperties h
    (fun method route => endpoint?_action context.isResultful m method route method.action)
    (endpoint?_getCurrentAction context.isResultful m)

/-- What is read off the body of a service, part by part. -/
theorem filterMap_serviceBody {α : Type} {read : Fragment → Option α}
    (hblock : ∀ header body close, read (.block header body close) = none)
    (hblank : read .blank = none) (hreturn : read (.line "return R;") = none) :
    (serviceBody fragments).filterMap read =
      (aliasPairs (keyTable m (reservedKeys m)).keys).filterMap
          (fun p => read (.line (aliasLine p.1 p.2)))
        ++ (if m.isUser then (Fragment.ofLines userHelpers).filterMap read else [])
        ++ (read (.line ("R.modelName = " ++ Text.quote m.name ++ ";"))).toList := by
  obtain ⟨-, methods, url, defaults, -, hbody⟩ := factory_eq_ok h
  -- a part that may be missing starts with a blank line, which reads as nothing
  have haliases (lines : List String) :
      (if lines.isEmpty then [] else Fragment.blank :: lines.map .line).filterMap read =
        lines.filterMap fun l => read (.line l) := by
    cases lines with
    | nil => rfl
    | cons l rest =>
      simp only [List.isEmpty_cons, Bool.false_eq_true, if_false, List.filterMap_cons, hblank,
        List.filterMap_map]
      rfl
  have hhelpers :
      (if m.isUser then Fragment.blank :: Fragment.ofLines userHelpers else []).filterMap read =
        if m.isUser then (Fragment.ofLines userHelpers).filterMap read else [] := by
    split
    · rw [List.filterMap_cons, hblank]
    · rfl
  have hname : [Fragment.blank, .line ("R.modelName = " ++ Text.quote m.name ++ ";"), .blank,
      .line "return R;"].filterMap read =
        (read (.line ("R.modelName = " ++ Text.quote m.name ++ ";"))).toList := by
    simp only [List.filterMap_cons, hblank, hreturn, List.filterMap_nil]
    cases read (.line ("R.modelName = " ++ Text.quote m.name ++ ";")) <;> rfl
  rw [hbody, List.filterMap_cons, hblock, List.filterMap_append, List.filterMap_append, haliases,
    hhelpers, hname, aliasLines_eq_map, List.filterMap_map]
  rfl

/-- **The keys that a factory assigns**: the aliases, the session helpers and the name. -/
theorem assignedKeys_factory :
    assignedKeys fragments =
      (aliasPairs (keyTable m (reservedKeys m)).keys).map Prod.fst
        ++ (if m.isUser then userHelperNames else []) ++ ["modelName"] := by
  have hreturn : assignedKey? (.line "return R;") = none := by decide +kernel
  rw [assignedKeys, filterMap_serviceBody h (fun _ _ _ => rfl) rfl hreturn,
    filterMap_assignedKey?_userHelpers, assignedKey?_modelName]
  simp only [assignedKey?_aliasLine, List.filterMap_eq_map', Option.toList_some]

/-- **The aliases that a factory assigns** are those its keys keep, each with its action. -/
theorem assignedAliases_factory :
    assignedAliases fragments = aliasPairs (keyTable m (reservedKeys m)).keys := by
  have hreturn : assignedAlias? (.line "return R;") = none := by decide +kernel
  rw [assignedAliases, filterMap_serviceBody h (fun _ _ _ => rfl) rfl hreturn,
    filterMap_assignedAlias?_userHelpers, assignedAlias?_modelName]
  simp only [assignedAlias?_aliasLine, List.filterMap_eq_map', List.map_id', ite_self,
    Option.toList_none, List.append_nil]

end Factory

end Angular

/-! ## TypeScript clients -/

namespace Fetch

/-- The key that a property is written for. -/
def keyOf (written : String) : String :=
  match unquote? written.toList with
  | some (key, _) => key
  | none => written

theorem keyOf_propertyKey (key : String) : keyOf (propertyKey key) = key := by
  rw [propertyKey]
  split
  next h =>
    -- a quote does not start an identifier, so a bare key is not taken for a quoted one
    have hhead : key.toList.head? ≠ some '"' := by
      rw [Naming.isIdentifier] at h
      cases hkey : key.toList with
      | nil => simp
      | cons c rest =>
        rw [hkey, Naming.isIdentifierChars, Bool.and_eq_true] at h
        have hquote : Naming.isIdentifierStart '"' = false := by decide +kernel
        rintro ⟨⟩
        rw [hquote] at h
        simp at h
    rw [keyOf, Text.unquote?_of_head?_ne hhead]
  next =>
    have hread := Text.unquote?_quote key []
    rw [List.append_nil] at hread
    rw [keyOf, hread]

/-- **Different keys are written differently**, bare or quoted. -/
theorem propertyKey_injective : Function.Injective propertyKey :=
  Function.LeftInverse.injective keyOf_propertyKey

theorem propertyKey_modelName : propertyKey "modelName" = "modelName" := by decide +kernel

/-- The properties of a client. -/
def properties (c : Const) : Object :=
  match c.value with
  | .object properties => properties
  | .code _ => []

/-- The endpoint that a property calls, if it is a function. -/
def endpoint? : String × Code.Expr → Option Endpoint
  | (written, .lambda f) =>
    match f.body with
    | [line] => do
      let (verb, cs) ← quotedAfter? "return request(" line.toList
      let (path, _) ← quotedAfter? ", " cs
      pure ⟨keyOf written, verb, path⟩
    | _ => none
  | _ => none

/-- The endpoints of a client, in order. -/
def endpoints (c : Const) : List Endpoint := (properties c).filterMap endpoint?

/-- The endpoints of a client under the action names of a model. -/
def actionEndpoints (m : Model) (c : Const) : List Endpoint :=
  (endpoints c).filter fun e => e.key ∈ m.methods.map Method.action

theorem endpoint?_function {m : Model} {method : Method} {f : Lambda}
    (h : function m method = .ok f) :
    ∃ route, method.firstRoute? = some route ∧ ∀ key,
      endpoint? (propertyKey key, .lambda f) = some (endpointAt m method route key) := by
  obtain ⟨route, args, hroute, -, rfl⟩ := function_eq_ok_iff.mp h
  refine ⟨route, hroute, fun key => ?_⟩
  -- the line as the reader takes it apart: what comes before a quoted text, and the text
  have hline : ("return request(" ++ Text.quote route.verb ++ ", "
      ++ Text.quote (actionPath m method route) ++ ", " ++ Object.inline (options args)
      ++ ");").toList =
      "return request(".toList ++ ((Text.quote route.verb).toList ++ (", ".toList
        ++ ((Text.quote (actionPath m method route)).toList
          ++ (", " ++ Object.inline (options args) ++ ");").toList))) := by
    simp only [String.toList_append, List.append_assoc]
  simp only [endpoint?, callerFunction, hline, Text.quotedAfter?_append, keyOf_propertyKey,
    Option.bind_eq_bind, Option.bind_some, endpointAt]
  rfl

/-! ### The properties of a method -/

/-- The properties are the function of a method, under its action name and its aliases. -/
def HasFunction (m : Model) (k : MethodKeys) (properties : Object) : Prop :=
  ∃ f, function m k.method = .ok f ∧
    properties = (k.action :: k.aliases).map fun key => (propertyKey key, .lambda f)

theorem keys_flatten {m : Model} {keys : List MethodKeys} {methods : List Object}
    (h : List.Forall₂ (HasFunction m) keys methods) :
    Object.keys methods.flatten =
      (keys.flatMap fun k => k.action :: k.aliases).map propertyKey := by
  rw [Object.keys]
  induction h with
  | nil => rfl
  | cons hk _ ih =>
    obtain ⟨f, -, rfl⟩ := hk
    rw [List.flatten_cons, List.map_append, ih, List.flatMap_cons, List.map_append, List.map_map]
    rfl

theorem mem_flatten {m : Model} {keys : List MethodKeys} {methods : List Object}
    (h : List.Forall₂ (HasFunction m) keys methods) {k : MethodKeys} (hk : k ∈ keys) :
    ∃ f, function m k.method = .ok f ∧
      ∀ key ∈ k.action :: k.aliases, (propertyKey key, .lambda f) ∈ methods.flatten := by
  induction h with
  | nil => cases hk
  | cons hfirst _ ih =>
    rcases List.mem_cons.mp hk with rfl | hk
    · obtain ⟨f, hf, rfl⟩ := hfirst
      exact ⟨f, hf, fun key hkey => List.mem_append_left _ (List.mem_map_of_mem hkey)⟩
    · obtain ⟨f, hf, hmem⟩ := ih hk
      exact ⟨f, hf, fun key hkey => List.mem_append_right _ (hmem key hkey)⟩

/-- The key of a method is its action name, and no alias is an action name. -/
structure KeyedBy (actions : List String) (k : MethodKeys) : Prop where
  action_eq : k.action = k.method.action
  action_mem : k.action ∈ actions
  alias_not_mem : ∀ name ∈ k.aliases, name ∉ actions

theorem filter_endpoints_of_hasFunction {m : Model} {actions : List String} {k : MethodKeys}
    {properties : Object} (h : HasFunction m k properties) (hk : KeyedBy actions k) :
    (properties.filterMap endpoint?).filter (fun e => e.key ∈ actions) =
      methodEndpoints m [k.method] := by
  obtain ⟨f, hf, rfl⟩ := h
  obtain ⟨route, hroute, hread⟩ := endpoint?_function hf
  -- the function reads as one endpoint under each of its keys, and the first key passes the test
  have hendpoints : ((k.action :: k.aliases).map fun key =>
      (propertyKey key, Code.Expr.lambda f)).filterMap endpoint? =
        (k.action :: k.aliases).map (endpointAt m k.method route) := by
    simp only [List.filterMap_map, Function.comp_def, hread, List.filterMap_eq_map']
  have haliases : (k.aliases.map (endpointAt m k.method route)).filter (fun e => e.key ∈ actions) =
      [] := by
    simpa [endpointAt] using hk.alias_not_mem
  have haction : (endpointAt m k.method route k.action).key ∈ actions := hk.action_mem
  rw [hendpoints, List.map_cons, List.filter_cons, if_pos (decide_eq_true haction), haliases,
    methodEndpoints_cons hroute, hk.action_eq]
  rfl

theorem filter_endpoints_flatten {m : Model} {actions : List String} {keys : List MethodKeys}
    {methods : List Object} (h : List.Forall₂ (HasFunction m) keys methods)
    (hkeys : ∀ k ∈ keys, KeyedBy actions k) :
    (methods.flatten.filterMap endpoint?).filter (fun e => e.key ∈ actions) =
      methodEndpoints m (keys.map MethodKeys.method) := by
  induction h with
  | nil => rfl
  | cons hk _ ih =>
    rw [List.forall_mem_cons] at hkeys
    rw [List.flatten_cons, List.filterMap_append, List.filter_append, ih hkeys.2,
      filter_endpoints_of_hasFunction hk hkeys.1, List.map_cons, methodEndpoints, methodEndpoints,
      methodEndpoints, ← List.filterMap_append]
    rfl

/-! ### The client -/

/-- What stands in a client: the name of the model, and the properties of every method. -/
theorem client_eq_ok {binding : String} {m : Model} {c : Const} (h : client binding m = .ok c) :
    Fresh reservedKeys (m.methods.map Method.action) ∧
      ∃ methods, List.Forall₂ (HasFunction m) (keyTable m reservedKeys).keys methods ∧
        properties c = ("modelName", .text m.name) :: methods.flatten := by
  obtain ⟨object, hobject, h⟩ := bind_eq_ok_iff.mp h
  obtain ⟨table, htable, hobject⟩ := bind_eq_ok_iff.mp hobject
  obtain ⟨hfresh, rfl⟩ := clientKeys_eq_ok_iff.mp htable
  obtain ⟨methods, hmethods, hobject⟩ := bind_eq_ok_iff.mp hobject
  cases hobject
  cases h
  refine ⟨hfresh, methods, (mapM_eq_ok_iff.mp hmethods).imp fun k properties hk => ?_, rfl⟩
  obtain ⟨f, hf, hk⟩ := bind_eq_ok_iff.mp hk
  cases hk
  exact ⟨f, hf, rfl⟩

theorem keyedBy_keyTable {m : Model} {reserved : List String}
    (hfresh : Fresh reserved (m.methods.map Method.action)) {k : MethodKeys}
    (hk : k ∈ (keyTable m reserved).keys) : KeyedBy (m.methods.map Method.action) k where
  action_eq := action_of_mem_keyTable hk
  action_mem := by
    rw [action_of_mem_keyTable hk]
    exact List.mem_map_of_mem (method_mem_of_mem_keyTable hk)
  alias_not_mem name hname haction :=
    ((mem_aliases_iff hfresh hk).mp hname).1 (List.mem_append_right _ haction)

section Client

variable {binding : String} {m : Model} {c : Const} (h : client binding m = .ok c)
include h

/-- **The endpoints of a client** under action names are those of the methods. -/
theorem actionEndpoints_client : actionEndpoints m c = methodEndpoints m m.methods := by
  obtain ⟨hfresh, methods, hmethods, hc⟩ := client_eq_ok h
  have hread := filter_endpoints_flatten hmethods fun k hk => keyedBy_keyTable hfresh hk
  rw [map_method_keyTable] at hread
  rw [actionEndpoints, endpoints, hc, List.filterMap_cons_none rfl, hread]

/-- **The keys of a client**, as they are written: the name, and for every method its action name
and its aliases. -/
theorem keys_client :
    Object.keys (properties c) =
      ("modelName" :: (keyTable m reservedKeys).keys.flatMap fun k => k.action :: k.aliases).map
        propertyKey := by
  obtain ⟨-, methods, hmethods, hc⟩ := client_eq_ok h
  have hkeys := keys_flatten hmethods
  rw [Object.keys] at hkeys
  rw [hc, Object.keys, List.map_cons, List.map_cons, hkeys, propertyKey_modelName]

/-- The function of a method is a property of the client, under its action name and its aliases. -/
theorem mem_properties_client {k : MethodKeys} (hk : k ∈ (keyTable m reservedKeys).keys) :
    ∃ f, function m k.method = .ok f ∧
      ∀ key ∈ k.action :: k.aliases, (propertyKey key, .lambda f) ∈ properties c := by
  obtain ⟨-, methods, hmethods, hc⟩ := client_eq_ok h
  obtain ⟨f, hf, hmem⟩ := mem_flatten hmethods hk
  exact ⟨f, hf, fun key hkey => hc ▸ List.mem_cons_of_mem _ (hmem key hkey)⟩

end Client

end Fetch
end Client
end RestBindings
