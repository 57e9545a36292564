import RestBindings.Text.Split

/-! # File paths

A path is a text of names between slashes.  Empty names and `.` mean nothing, except for a `.` at
the very start, and `..` goes up.  The parent of a path is the path without its last name, as a
text; a path with no name, like the root, has none.
-/
namespace RestBindings
namespace Files

/-- The pieces of a path between its slashes. -/
def pathPieces (path : String) : List String :=
  (Text.splitOn (· == '/') path.toList).map String.ofList

/-- A path that starts at the root. -/
def isAbsolute (path : String) : Bool := path.toList.head? == some '/'

/-- A path whose last piece says that it is a directory. -/
def namesDirectory (path : String) : Bool :=
  ["", ".", ".."].contains ((pathPieces path).getLast?.getD "")

/-- The steps of a path: its names without those that mean nothing. -/
def pathSteps (path : String) : List String :=
  (pathPieces path).filter fun p => p != "" && p != "."

/-- Drop pieces that mean nothing from the end of a path, given in reverse. -/
def dropEmptyPieces : List String → List String
  | [] => []
  | [p] => [p]
  | p :: q :: rest => if p == "" || p == "." then dropEmptyPieces (q :: rest) else p :: q :: rest

/-- The path without its last name. -/
def parent? (path : String) : Option String :=
  match dropEmptyPieces (pathPieces path).reverse with
  | [] => none
  | p :: rest =>
    if p == "" then none
    else
      match dropEmptyPieces rest with
      | [""] => some "/"
      | pieces => some (String.intercalate "/" pieces.reverse)

/-- A path below a directory. -/
def join (directory name : String) : String :=
  if directory.isEmpty || directory.toList.getLast? == some '/' then directory ++ name
  else directory ++ "/" ++ name

end Files
end RestBindings
