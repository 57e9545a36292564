import RestBindings.Client.Fetch.Request
import RestBindings.Client.Path
import RestBindings.Client.Progress
import RestBindings.Client.Types
import RestBindings.Code.Declaration
import RestBindings.Naming.Convention

/-! # TypeScript clients

The template `fetch` renders a TypeScript module without dependencies: a helper that sends requests
with `fetch()`, and one object per model.  Every method of a model is a function of its arguments
that calls the helper with a verb, a path and the arguments grouped by the part of the request that
carries them.

An **argument** is a parameter that the caller supplies.  A method's parameters may repeat those of
the constructor; the first of a name counts.  Two arguments must not come out as the same variable.
-/
namespace RestBindings
namespace Client
namespace Fetch

open Code (Fragment Object Lambda Const)

/-- The name a model is bound to, in PascalCase. -/
def bindingName (name : String) : String :=
  Naming.Convention.script.safe (Naming.toIdentifier (Naming.pascalCase name))

/-- A parameter that the caller of a function supplies. -/
structure Argument where
  /-- The variable. -/
  name : String
  /-- The parameter. -/
  param : Param
  /-- A parameter of the constructor, which the path carries unless it says otherwise. -/
  identifies : Bool
deriving DecidableEq, Repr

namespace Argument

/-- The part of the request that carries the argument, if it is known. -/
def source (a : Argument) : Option Source :=
  if a.param.source.isNone && a.identifies then some .path else a.param.source

/-- The key of the argument in a request. -/
def key (a : Argument) : String := Text.quote a.param.arg

/-- The argument as a property. -/
def property (a : Argument) : String × Code.Expr := (a.key, .code a.name)

end Argument

/-- What messages call a parameter of a method. -/
def paramName (m : Model) (method : Method) (arg : String) : String :=
  m.name ++ "." ++ method.name ++ "(" ++ arg ++ ")"

/-- The arguments among the parameters that remain, after the arguments so far. -/
def argumentsFrom (m : Model) (method : Method) (identifying : List String)
    (sofar : List Argument) : List Param → Except RenderError (List Argument)
  | [] => .ok sofar
  | p :: rest =>
    if p.isServerSide || sofar.any (·.param.arg == p.arg) then
      argumentsFrom m method identifying sofar rest
    else
      let name := Naming.Convention.script.param p.arg
      match sofar.find? (·.name == name) with
      | some first =>
        .error (.identifierConflict name (paramName m method first.param.arg)
          (paramName m method p.arg))
      | none =>
        argumentsFrom m method identifying
          (sofar ++ [{ name, param := p, identifies := identifying.contains p.arg }]) rest

/-- The arguments of a method, in order. -/
def arguments (m : Model) (method : Method) : Except RenderError (List Argument) :=
  let identifying := if method.isStatic then [] else (pathParams m).map (·.arg)
  argumentsFrom m method identifying [] method.accepts

/-- A parameter of a function; `?` marks one that may be left out, which only those may be that no
required one follows.  Any other optional parameter takes `undefined`. -/
def formal (a : Argument) (requiredFollows : Bool) : String :=
  let type := scriptType a.param.type
  if a.param.required then a.name ++ ": " ++ type
  else if requiredFollows then a.name ++ ": " ++ type ++ " | undefined"
  else a.name ++ "?: " ++ type

/-- The parameters of a function. -/
def formals : List Argument → List String
  | [] => []
  | a :: rest => formal a (rest.any (·.param.required)) :: formals rest

/-- The parameter list of a function. -/
def signature (args : List Argument) : String := String.intercalate ", " (formals args)

/-- The arguments that stand in the path. -/
def pathArguments (args : List Argument) : List Argument :=
  args.filter fun a => a.source == some .path

/-- The arguments sent as headers. -/
def headerArguments (args : List Argument) : List Argument :=
  args.filter fun a => a.source == some .header

/-- The arguments sent in the body. -/
def bodyArguments (args : List Argument) : List Argument :=
  args.filter fun a => a.source == some .body || a.source == some .form

/-- The arguments sent in the query: all that are sent nowhere else. -/
def queryArguments (args : List Argument) : List Argument :=
  args.filter fun a =>
    !(a.source == some .path || a.source == some .header || a.source == some .body
      || a.source == some .form)

/-- The body of a request: an argument that is the whole body, or an object of arguments. -/
def body? : List Argument → Option String
  | [] => none
  | [a] => some (if a.source == some .body then a.name else Object.inline [a.property])
  | args => some (Object.inline (args.map Argument.property))

/-- A group of arguments, left out if it is empty. -/
def group (name : String) (args : List Argument) : Object :=
  if args.isEmpty then [] else [(name, .object (args.map Argument.property))]

/-- The options of a request. -/
def options (args : List Argument) : Object :=
  group "path" (pathArguments args)
    ++ group "query" (queryArguments args)
    ++ group "headers" (headerArguments args)
    ++ (body? (bodyArguments args)).toList.map fun code => ("body", .code code)

/-- The function of a method. -/
def function (m : Model) (method : Method) : Except RenderError Lambda := do
  let route ← routeOf m method
  let args ← arguments m method
  pure {
    isArrow := true
    params := signature args
    isAsync := true
    returns := some "Promise<any>"
    body := ["return request(" ++ Text.quote route.verb ++ ", "
      ++ Text.quote (actionPath m method route) ++ ", " ++ Object.inline (options args) ++ ");"] }

/-- A key of an object: an identifier stands as it is, anything else is quoted. -/
def propertyKey (key : String) : String :=
  if Naming.isIdentifier key then key else Text.quote key

/-- The keys the template sets itself. -/
def reservedKeys : List String := ["modelName"]

/-- The properties of a method: its function under its action name and its aliases. -/
def methodProperties (m : Model) (keys : MethodKeys) : Except RenderError Object := do
  let f ← function m keys.method
  pure ((keys.action :: keys.aliases).map fun key => (propertyKey key, .lambda f))

/-- The object of a model. -/
def clientObject (m : Model) : Except RenderError Object := do
  let table ← clientKeys m reservedKeys
  let methods ← table.keys.mapM (methodProperties m)
  pure (("modelName", .text m.name) :: methods.flatten)

/-- The declaration of the client of a model. -/
def client (binding : String) (m : Model) : Except RenderError Const := do
  let object ← clientObject m
  pure {
    name := binding
    value := .object object
    doc := some ("Client for the `" ++ m.name ++ "` model.") }

/-- The helper that sends requests, which may take responses out of their envelope. -/
def requestFunction (isResultful : Bool) : Code.Function where
  name := "request"
  isExported := false
  isAsync := true
  params := [
    { name := "method", type := some "string" },
    { name := "path", type := some "string" },
    { name := "options", type := some "RequestOptions", default := some "\x7b\x7d" }]
  returns := some "Promise<any>"
  body := "const accessToken = session.accessToken;" :: requestBody
    ++ [if isResultful then
      "return data !== null && data.result !== undefined ? data.result : data;"
    else
      "return data;"]

/-- The helper that keeps the access token. -/
def setAccessTokenFunction : Code.Function where
  name := "setAccessToken"
  doc := some "Set the access token sent with every request."
  params := [{ name := "token", type := some "string | null" }]
  returns := some "void"
  body := ["session.accessToken = token;"]

/-- What stands before the clients. -/
def header (context : Context) : List (List Fragment) :=
  let constant (name code : String) (isExported : Bool) : List Fragment :=
    Const.fragments { name, value := .code code, isExported }
  [constant "moduleName" (Text.quote context.moduleName) true,
    constant "urlBase" (Text.quote context.urlBase) true,
    Fragment.ofLines requestOptionsType,
    constant "authHeader" (Text.quote "authorization") false,
    constant "session" "\x7b accessToken: null as string | null \x7d" false,
    setAccessTokenFunction.fragments,
    (requestFunction context.isResultful).fragments]

/-- The module. -/
def file (context : Context) (clients : List Const) : Code.File where
  items := header context ++ clients.map Const.fragments

/-- The source of a module. -/
def render (context : Context) : Except RenderError String := do
  context.checkModuleName
  let models ← context.identifiers bindingName
  let clients ← models.mapM fun (binding, m) => client binding m
  pure ((file context clients).render .script)

/-- What is told of the models. -/
def journal (context : Context) : List Journal.Entry :=
  match context.identifiers bindingName with
  | .ok models =>
    renderingEntries "Rendering fetch client" (clientKeys · reservedKeys)
      (fun binding m => (client binding m).isOk) models
  | .error _ => []

/-- The template. -/
def template : Template where
  name := "fetch"
  description := "Dependency-free TypeScript client built on fetch()"
  extension := "ts"
  render := render
  journal := journal

end Fetch

end Client
end RestBindings
