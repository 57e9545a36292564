import RestBindings.Files.Tree
import RestBindings.Generation.Options
import RestBindings.Toml.Reader

/-! # Project configuration

A project keeps its choices in `sira-sdk.toml`, in a table `generate`.  Nothing else may stand in
the file, so that a misspelt name is not silently ignored.  The table may also be a list of the
three choices in order.  A configuration that is asked for by path must be there; the one in the
working directory is read if it is there.
-/
namespace RestBindings
namespace Config

open Files (Tree)
open Generation (Options)

/-- The configuration that is looked up when none is asked for. -/
def fileName : String := "sira-sdk.toml"

/-- Options with one more choice of a configuration. -/
def choice? (options : Options) (name : String) (item : Toml.Item) : Option Options :=
  match name, item with
  | "template", .text s => some { options with template := some s }
  | "module-name", .text s => some { options with moduleName := some s }
  | "api-url", .text s => some { options with apiUrl := some s }
  | _, _ => none

/-- The choices of the table `generate`. -/
def choices? : Toml.Item → Option Options
  | .table _ entries => entries.foldlM (fun options (name, item) => choice? options name item) {}
  | .list (.text template :: .text moduleName :: .text apiUrl :: _) =>
    some { template, moduleName, apiUrl }
  | _ => none

/-- The choices of a configuration, if it is valid. -/
def parse? (source : String) : Option Options :=
  match Toml.parse? source with
  | some [] => some {}
  | some [("generate", item)] => choices? item
  | _ => none

/-- Why there is no configuration. -/
inductive LoadError where
  | unreadable (path : String)
  | invalid (path : String)
deriving DecidableEq, Repr

/-- The wording of an error. -/
def LoadError.message : LoadError → String
  | unreadable path => "failed to read '" ++ path ++ "'"
  | invalid path => "invalid config '" ++ path ++ "'"

/-- The choices of the configuration at a path. -/
def read (tree : Tree) (path : String) : Except LoadError Options :=
  match tree.read? path with
  | none => .error (.unreadable path)
  | some source =>
    match parse? source with
    | some options => .ok options
    | none => .error (.invalid path)

/-- Where the configuration of a directory is, if there is one. -/
def implicit? (tree : Tree) (directory : String) : Option String :=
  let path := Files.join directory fileName
  if (tree.read? path).isSome then some path else none

/-- The choices of the configuration that is asked for, or of the one in a directory. -/
def load (tree : Tree) (explicit : Option String) (directory : String) :
    Except LoadError Options :=
  match explicit <|> implicit? tree directory with
  | some path => read tree path
  | none => .ok {}

/-- A configuration that says nothing makes no choice. -/
@[simp] theorem parse?_empty : parse? "" = some {} := by decide +kernel

end Config
end RestBindings
