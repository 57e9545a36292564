import RestBindings.Client.Template
import RestBindings.Text.Split

/-! # URL paths

Paths are joined from pieces: the pieces are cut at slashes, empty segments are dropped, and what is
left is put together with one slash before each segment.  An instance of a model is identified in
the path by the parameters of its constructor that the path carries, each as a segment `:arg`; they
come after the path of the class and before the route of a prototype method.
-/
namespace RestBindings
namespace Client

/-- The segments of a piece of a path. -/
def segments (piece : String) : List (List Char) :=
  (Text.splitOn (· == '/') piece.toList).filter fun s => !s.isEmpty

/-- The characters of the path with the given segments. -/
def pathChars : List (List Char) → List Char
  | [] => ['/']
  | [s] => '/' :: s
  | s :: t :: rest => '/' :: s ++ pathChars (t :: rest)

/-- Join pieces of a path. -/
def joinPath (pieces : List String) : String :=
  String.ofList (pathChars (pieces.flatMap segments))

/-- A text without the slashes at its end. -/
def stripSlashes (url : String) : String :=
  String.ofList (url.toList.reverse.dropWhile (· == '/')).reverse

/-- The parameter is carried by the path, which is so when the registry does not say otherwise. -/
def inPath (p : Param) : Bool := p.source.getD .path == .path

/-- The parameters of the constructor that identify an instance in the path. -/
def pathParams (m : Model) : List Param := (m.ctor.getD []).filter inPath

/-- The placeholders of the parameters that identify an instance. -/
def placeholders (m : Model) : List String := (pathParams m).map fun p => ":" ++ p.arg

/-- The path of an instance of a model. -/
def resourcePath (m : Model) : String := joinPath (m.httpPath :: placeholders m)

/-- The path of a method at a route. -/
def actionPath (m : Model) (method : Method) (route : Route) : String :=
  joinPath (m.httpPath :: (if method.isStatic then [] else placeholders m) ++ [route.path])

/-- The route a method is rendered with. -/
def routeOf (m : Model) (method : Method) : Except RenderError Route :=
  match method.firstRoute? with
  | some route => .ok route
  | none => .error (.malformed m.name ("method '" ++ method.name ++ "' has no HTTP route"))

end Client
end RestBindings
