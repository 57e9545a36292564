import RestBindings.CommandLine.Run

/-! # The program

Reads the files that the command names, runs it, writes the files that the run changed and shows
what it gave.
-/
namespace RestBindings

open CommandLine (Outcome Surroundings)
open Files (Node Tree)

/-- The tree with the file at a path, if it can be read. -/
def readInto (tree : Tree) (path : String) : IO Tree := do
  try
    let content ← IO.FS.readFile path
    return tree.place path (.file content)
  catch _ =>
    return tree

/-- What surrounds the program when it is called with arguments. -/
def surroundings (arguments : List String) : IO Surroundings := do
  let directory := (← IO.currentDir).toString
  let inputs := match CommandLine.read arguments with
    | .ok invocation => invocation.inputs directory
    | .error _ => []
  let tree ← inputs.foldlM readInto {}
  let apiUrl ← IO.getEnv "SIRA_API_URL"
  return { tree, directory, apiUrl }

/-- Write a file with the directories above it. -/
def writeOut (file : String × String) : IO Unit := do
  match Files.parent? file.1 with
  | some above => if above.isEmpty then pure () else IO.FS.createDirAll above
  | none => pure ()
  IO.FS.writeFile file.1 file.2

/-- Show an outcome. -/
def present (outcome : Outcome) : IO UInt32 := do
  IO.print outcome.stdout
  IO.eprint outcome.stderr
  return outcome.code.toUInt32

end RestBindings

/-- Run the program. -/
def main (arguments : List String) : IO UInt32 := do
  let before ← RestBindings.surroundings arguments
  let outcome := RestBindings.CommandLine.run before arguments
  try
    (outcome.tree.changedSince before.tree).forM RestBindings.writeOut
    RestBindings.present outcome
  catch error =>
    IO.eprintln ("Error: " ++ toString error)
    return 1
