import RestBindings.Files.Tree
import RestBindings.Registry.Lowering

/-! # Documents in files

A registry document is read from a file, and what is wrong with it is said of the file's path.
-/
namespace RestBindings

open Files (Tree)

/-- Read the registry document at a path. -/
def RegistryDocument.load (tree : Tree) (path : String) : Except RegistryError RegistryDocument :=
  match tree.read? path with
  | some content => RegistryDocument.parse ⟨content, path⟩
  | none => .error (.unreadable path)

end RestBindings
