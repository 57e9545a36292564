import RestBindings.Files.Path

/-! # Files and directories

The files a program sees, as a value.  Places are named from the working directory; the directories
above it and the root are there, and everything else is there only if the tree holds it.  A path is
followed step by step, and every step but the last must be a directory.
-/
namespace RestBindings
namespace Files

/-- What is at a place. -/
inductive Node where
  | file (content : String)
  | directory
deriving DecidableEq, Repr

/-- A place: names from the working directory down, after as many `..` as lead above it, or after
the root. -/
abbrev Location := List String

/-- The path of a place. -/
def Location.path : Location → String
  | "/" :: names => "/" ++ String.intercalate "/" names
  | names => String.intercalate "/" names

/-- The files and directories that are there. -/
structure Tree where
  nodes : List (Location × Node) := []
deriving Repr

/-- Why a path leads nowhere. -/
inductive Obstacle where
  /-- A directory on the way is missing. -/
  | missing
  /-- Something on the way is no directory, or the path is no path. -/
  | blocked
deriving DecidableEq, Repr

namespace Tree

variable (tree : Tree)

/-- What is at a place. -/
def node? (l : Location) : Option Node :=
  if l.all (· == "..") || l == ["/"] then some .directory else tree.nodes.lookup l

/-- The place one step from a directory. -/
def enter (l : Location) (step : String) : Location :=
  if step != ".." then l ++ [step]
  else if l.all (· == "..") then l ++ [".."]
  else if l == ["/"] then l
  else l.dropLast

/-- Follow steps from a place. -/
def follow (tree : Tree) (l : Location) : List String → Except Obstacle Location
  | [] => .ok l
  | step :: rest =>
    match tree.node? l with
    | some .directory => tree.follow (enter l step) rest
    | some (.file _) => .error .blocked
    | none => .error .missing

/-- The place a path leads to, which need not be there. -/
def locate (path : String) : Except Obstacle Location :=
  if path.isEmpty then .error .missing
  else if path.toList.contains '\x00' then .error .blocked
  else tree.follow (if isAbsolute path then ["/"] else []) (pathSteps path)

/-- What a path leads to. -/
def find? (path : String) : Option Node :=
  match tree.locate path with
  | .ok l =>
    match tree.node? l with
    | some (.file content) => if namesDirectory path then none else some (.file content)
    | other => other
  | .error _ => none

/-- The content of a file. -/
def read? (path : String) : Option String :=
  match tree.find? path with
  | some (.file content) => some content
  | _ => none

/-- The path leads to a directory. -/
def isDirectory (path : String) : Bool := tree.find? path == some .directory

/-- Put a node at a place. -/
def set (l : Location) (n : Node) : Tree :=
  { nodes := (tree.nodes.filter fun entry => entry.1 != l) ++ [(l, n)] }

/-- Make one directory, where nothing is yet. -/
def makeDirectory (path : String) : Except Obstacle Tree :=
  match tree.locate path with
  | .error obstacle => .error obstacle
  | .ok l => if (tree.node? l).isSome then .error .blocked else .ok (tree.set l .directory)

/-- Make a directory and those above it that are missing, within `fuel` of them. -/
def makeDirectoriesUpTo (tree : Tree) : (fuel : Nat) → (path : String) → Bool × Tree
  | 0, _ => (false, tree)
  | fuel + 1, path =>
    if path.isEmpty then (true, tree)
    else
      match tree.makeDirectory path with
      | .ok tree => (true, tree)
      | .error .blocked => (tree.isDirectory path, tree)
      | .error .missing =>
        match parent? path with
        | none => (false, tree)
        | some above =>
          match tree.makeDirectoriesUpTo fuel above with
          | (false, tree) => (false, tree)
          | (true, tree) =>
            match tree.makeDirectory path with
            | .ok tree => (true, tree)
            | .error _ => (tree.isDirectory path, tree)

/-- Make a directory and those above it that are missing; the answer is whether it is there, and
what was made.  A path has no more parents than characters. -/
def makeDirectories (path : String) : Bool × Tree :=
  tree.makeDirectoriesUpTo (path.length + 1) path

/-- Put a text into a file, in a directory that is there. -/
def put? (path content : String) : Option Tree :=
  if namesDirectory path then none
  else
    match tree.locate path with
    | .error _ => none
    | .ok l =>
      if tree.node? l == some .directory then none else some (tree.set l (.file content))

/-- Put a node at a path and directories above it, without asking whether they can be there. -/
def place (path : String) (n : Node) : Tree :=
  let start : Location := if isAbsolute path then ["/"] else []
  let steps := pathSteps path
  let (tree, above) := steps.dropLast.foldl
    (fun (tree, l) step =>
      let l := enter l step
      (if (tree.node? l).isSome then tree else tree.set l .directory, l))
    (tree, start)
  match steps.getLast? with
  | some step => tree.set (enter above step) n
  | none => tree

/-- The files by path. -/
def files : List (String × String) :=
  tree.nodes.filterMap fun (l, n) =>
    match n with
    | .file content => some (l.path, content)
    | .directory => none

/-- The files that were not in an earlier tree, or held something else there. -/
def changedSince (earlier : Tree) : List (String × String) :=
  tree.files.filter fun entry => !earlier.files.contains entry

end Tree

/-- Why a file is not written. -/
inductive WriteError where
  /-- Its directory cannot be made. -/
  | directory (path : String)
  /-- The file itself cannot be written. -/
  | file (path : String)
deriving DecidableEq, Repr

/-- The wording of an error. -/
def WriteError.message : WriteError → String
  | directory path => "failed to create '" ++ path ++ "'"
  | file path => "failed to write '" ++ path ++ "'"

/-- Write a file, and make the directories above it that are missing. -/
def Tree.write (tree : Tree) (path content : String) : Except WriteError Unit × Tree :=
  let (above, tree) := match parent? path with
    | none => (true, tree)
    | some above => tree.makeDirectories above
  if above then
    match tree.put? path content with
    | some tree => (.ok (), tree)
    | none => (.error (.file path), tree)
  else
    (.error (.directory ((parent? path).getD "")), tree)

/-- The line above generated code. -/
def generatedHeader : String := "// Generated by sira-sdk. Do not edit."

/-- A file waiting to be written. -/
structure PendingFile where
  path : String
  /-- What it holds below the header. -/
  body : String
  /-- The line above the body, if there is one. -/
  header : Option String := none
deriving DecidableEq, Repr

namespace PendingFile

/-- A file of generated code. -/
def generated (path body : String) : PendingFile :=
  { path, body, header := some generatedHeader }

/-- What the file will hold. -/
def content (file : PendingFile) : String :=
  match file.header with
  | some header => header ++ "\n" ++ file.body
  | none => file.body

/-- Write the file, replacing any that is there. -/
def write (file : PendingFile) (tree : Tree) : Except WriteError Unit × Tree :=
  tree.write file.path file.content

end PendingFile
end Files
end RestBindings
