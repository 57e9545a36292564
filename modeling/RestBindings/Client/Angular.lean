import RestBindings.Client.Angular.Session
import RestBindings.Client.Path
import RestBindings.Client.Progress
import RestBindings.Code.Declaration
import RestBindings.Naming.Convention

/-! # AngularJS services

The template `angular` renders one function that registers an AngularJS module: one factory per
model, built on a provider that wraps `$resource`, and the store of the session with the interceptor
that sends its access token.  A factory has an action for every method of its model, assigns the
aliases to their actions and, for the user model, has session helpers; logging in and out keep the
session, and unless the model has a static method of that name there is an action `getCurrent`.
-/
namespace RestBindings
namespace Client
namespace Angular

open Code (Fragment Object Lambda)

/-- The name of the provider that wraps `$resource`. -/
def resourceName (moduleName : String) : String := Naming.capitalize moduleName ++ "Resource"

/-- The model has a static method with a name. -/
def hasStatic (m : Model) (name : String) : Bool :=
  m.methods.any fun method => method.isStatic && method.name == name

/-- The factory adds an action that gets the user who is logged in. -/
def addsGetCurrent (m : Model) : Bool := m.isUser && !hasStatic m "getCurrent"

/-- The keys a factory sets besides the actions of the methods. -/
def reservedKeys (m : Model) : List String :=
  "modelName" :: ((if m.isUser then userHelperNames else [])
    ++ (if addsGetCurrent m then ["getCurrent"] else []))

/-- A function of the response, as an interceptor has it. -/
def interceptor (body : List String) : String × Code.Expr :=
  ("interceptor", .object [("response", .lambda { isArrow := false, params := "response", body })])

/-- What logging in adds to an action: it asks for the user and fills the session. -/
def loginProperties : Object := [
  ("params", .object [("include", .text "user")]),
  interceptor [
    "var accessToken = response.data;",
    "SiraAuth.setUser(accessToken.id, accessToken.userId, accessToken.user);",
    "SiraAuth.rememberMe = response.config.params.rememberMe !== false;",
    "SiraAuth.save();",
    "return response.resource;"]]

/-- What logging out adds to an action: it clears the session. -/
def logoutProperties : Object := [
  interceptor [
    "SiraAuth.clearUser();",
    "SiraAuth.clearStorage();",
    "return response.resource;"]]

/-- What a method of the user model adds to its action. -/
def sessionProperties (m : Model) (method : Method) : Object :=
  if m.isUser && method.isStatic then
    if method.name = "login" then loginProperties
    else if method.name = "logout" then logoutProperties
    else []
  else
    []

/-- The URL of a path, as code. -/
def urlCode (path : String) : String := "urlBase + " ++ Text.quote path

/-- The property that unwraps responses that come in an envelope. -/
def unwrapProperties (isResultful : Bool) : Object :=
  if isResultful then [("transformResponse", .code "unwrapResult")] else []

/-- The action of a method at a route. -/
def action (isResultful : Bool) (m : Model) (method : Method) (route : Route) : Object :=
  sessionProperties m method
    ++ [("url", .code (urlCode (actionPath m method route))), ("method", .text route.verb)]
    ++ (if method.returnsArray then [("isArray", .code "true")] else [])
    ++ unwrapProperties isResultful

/-- The action that gets the user who is logged in; without a session the interceptor answers it. -/
def getCurrentAction (isResultful : Bool) (m : Model) : Object := [
  ("url", .code (urlCode (joinPath [m.httpPath, ":id"]))),
  ("method", .text "GET"),
  ("params", .object [("id", .lambda { isArrow := false, params := "", body := [
    "var id = SiraAuth.currentUserId;",
    "if (id == null) id = '__anonymous__';",
    "return id;"] })]),
  interceptor [
    "SiraAuth.currentUserData = response.data;",
    "return response.resource;"],
  ("__isGetCurrentUser__", .code "true")]
    ++ unwrapProperties isResultful

/-- The actions of the methods, by action name. -/
def methodActions (isResultful : Bool) (m : Model) (keys : List MethodKeys) :
    Except RenderError Object :=
  keys.mapM fun k => do
    let route ← routeOf m k.method
    pure (Text.quote k.action, .object (action isResultful m k.method route))

/-- All actions of a factory. -/
def actions (isResultful : Bool) (m : Model) (keys : List MethodKeys) :
    Except RenderError Object := do
  let methods ← methodActions isResultful m keys
  pure (methods ++ if addsGetCurrent m then
    [(Text.quote "getCurrent", .object (getCurrentAction isResultful m))] else [])

/-- The default of every parameter that identifies an instance: the property of its name. -/
def paramDefaults (m : Model) : Object :=
  (pathParams m).map fun p => (Text.quote p.arg, .text ("@" ++ p.arg))

/-- The assignment of an alias to an action. -/
def aliasLine (key action : String) : String :=
  "R[" ++ Text.quote key ++ "] = R[" ++ Text.quote action ++ "];"

/-- The assignments of all aliases. -/
def aliasLines (keys : List MethodKeys) : List String :=
  keys.flatMap fun k => k.aliases.map fun key => aliasLine key k.action

/-- The documentation of a factory. -/
def factoryDoc (moduleName binding model : String) : String :=
  let title := moduleName ++ "." ++ binding
  "@ngdoc object\n@name " ++ title ++ "\n@header " ++ title ++ "\n\n@description\n\n"
    ++ "A $resource object for interacting with the `" ++ model ++ "` model."

/-- The factory of a model. -/
def factory (context : Context) (binding : String) (m : Model) :
    Except RenderError (List Fragment) := do
  let table ← clientKeys m (reservedKeys m)
  let actions ← actions context.isResultful m table.keys
  let aliases := aliasLines table.keys
  pure [
    .doc (factoryDoc context.moduleName binding m.name),
    .block ("module.factory(" ++ Text.quote binding ++ ", [") [
      .line (Text.quote (resourceName context.moduleName) ++ ", 'SiraAuth',"),
      .block "function(Resource, SiraAuth) \x7b"
        ([.block "var R = Resource("
            ([.line (urlCode (resourcePath m) ++ ","),
              .line (Object.inline (paramDefaults m) ++ ",")]
              ++ Object.fragments actions)
            (some ");")]
          ++ (if aliases.isEmpty then [] else .blank :: aliases.map .line)
          ++ (if m.isUser then .blank :: Fragment.ofLines userHelpers else [])
          ++ [.blank, .line ("R.modelName = " ++ Text.quote m.name ++ ";"), .blank,
            .line "return R;"])
        (some "\x7d")]
      (some "]);")]

/-- The function that takes a response out of its envelope. -/
def unwrapFunction : Code.Function where
  name := "unwrapResult"
  doc := some "Unwrap the `\x7b result: ... \x7d` envelope of resultful responses."
  isExported := false
  params := [{ name := "data" }]
  body := [
    "var json = data ? angular.fromJson(data) : data;",
    "return json && json.result !== undefined ? json.result : json;"]

/-- The documentation of the module. -/
def moduleDoc (name : String) : String :=
  "@ngdoc overview\n@name " ++ name ++ "\n@module " ++ name ++ "\n@description\n\n"
    ++ "The `" ++ name ++ "` module provides services for interacting with\n"
    ++ "the models exposed by the Sira server via the REST API."

/-- The module around the factories of its models. -/
def moduleFragments (context : Context) (factories : List (List Fragment)) : List Fragment := [
  .block "(function(window, angular, undefined) \x7b"
    ([.line "'use strict';",
      .blank,
      .line ("var urlBase = " ++ Text.quote context.urlBase ++ ";"),
      .line "var authHeader = 'authorization';",
      .blank,
      .doc (moduleDoc context.moduleName),
      .line ("var module = angular.module(" ++ Text.quote context.moduleName
        ++ ", ['ngResource']);")]
      ++ (if context.isResultful then .blank :: unwrapFunction.fragments else [])
      ++ factories.flatMap (Fragment.blank :: ·)
      ++ .blank :: Fragment.ofLines authServices
      ++ [.blank,
        .block ("module.provider(" ++ Text.quote (resourceName context.moduleName)
            ++ ", function() \x7b")
          (Fragment.ofLines resourceProvider) (some "\x7d);")])
    (some "\x7d)(window, window.angular);")]

/-- The source of a module. -/
def render (context : Context) : Except RenderError String := do
  context.checkModuleName
  let models ← context.identifiers Naming.Convention.script.binding
  let factories ← models.mapM fun (binding, m) => factory context binding m
  pure (Fragment.render .script (moduleFragments context factories))

/-- What is told of the models. -/
def journal (context : Context) : List Journal.Entry :=
  match context.identifiers Naming.Convention.script.binding with
  | .ok models =>
    renderingEntries "Rendering angular factory" (fun m => clientKeys m (reservedKeys m))
      (fun binding m => (factory context binding m).isOk) models
  | .error _ => []

/-- The template. -/
def template : Template where
  name := "angular"
  description := "AngularJS module with one $resource service per model"
  extension := "js"
  render := render
  journal := journal

end Angular
end Client
end RestBindings
