/-! # The command line

The program has commands, and every command has options.  An option is named by a word after two
dashes and mostly by a letter after one.  It is a flag, takes a text, or takes a path, which must
not be empty; two options ask for help and for the version instead of a run.
-/
namespace RestBindings
namespace CommandLine

/-- What the program is called. -/
def programName : String := "sira-sdk"

/-- The version of the program. -/
def programVersion : String := "0.3.0"

/-- The registry document that is read if none is named. -/
def defaultRegistry : String := "registry.json"

/-- What an option takes, or does. -/
inductive OptionKind where
  | flag
  | text
  | path
  | help
  | version
deriving DecidableEq, Repr

/-- The option takes a value. -/
def OptionKind.takesValue : OptionKind → Bool
  | text | path => true
  | flag | help | version => false

/-- An option. -/
structure OptionSpec where
  /-- The word after two dashes. -/
  name : String
  /-- The letter after one dash. -/
  letter : Option Char
  kind : OptionKind
  /-- What it is for. -/
  about : String
deriving DecidableEq, Repr

/-- What messages call the value of an option. -/
def OptionSpec.valueName (option : OptionSpec) : String :=
  String.ofList (option.name.toList.map fun c => if c = '-' then '_' else c.toUpper)

/-- What messages call an option. -/
def OptionSpec.usage (option : OptionSpec) : String :=
  "--" ++ option.name ++ if option.kind.takesValue then " <" ++ option.valueName ++ ">" else ""

/-- The journal is read to its last level. -/
def verboseOption : OptionSpec := ⟨"verbose", some 'v', .flag, "Show debug logs"⟩

/-- Only errors are read in the journal. -/
def quietOption : OptionSpec := ⟨"quiet", some 'q', .flag, "Only show errors"⟩

/-- Help is asked for. -/
def helpOption : OptionSpec := ⟨"help", some 'h', .help, "Print help"⟩

/-- The version is asked for. -/
def versionOption : OptionSpec := ⟨"version", some 'V', .version, "Print version"⟩

/-- The registry document to read. -/
def registryOption : OptionSpec :=
  ⟨"registry", some 'r', .path, "Path to the registry document [default: registry.json]"⟩

/-- The options of generating, without those that all commands have. -/
def generateOptions : List OptionSpec := [
  registryOption,
  ⟨"config", some 'c', .path, "Path to sira-sdk.toml (defaults to ./sira-sdk.toml when present)"⟩,
  ⟨"template", some 't', .text, "Template to render"⟩,
  ⟨"module-name", some 'm', .text, "Name of the generated module"⟩,
  ⟨"api-url", some 'u', .text, "Base URL of the REST API [env: SIRA_API_URL=]"⟩,
  ⟨"output", some 'o', .path, "Output file (defaults to stdout)"⟩,
  ⟨"dry-run", none, .flag, "Preview generated code without writing to disk"⟩]

/-- A command without its options. -/
inductive Topic where
  | generate
  | describe
  | check
  | templates
  | completions
deriving DecidableEq, Repr

namespace Topic

/-- All commands, in the order in which help lists them. -/
def all : List Topic := [generate, describe, check, templates, completions]

/-- The word for a command. -/
def name : Topic → String
  | generate => "generate"
  | describe => "describe"
  | check => "check"
  | templates => "templates"
  | completions => "completions"

/-- What a command does. -/
def about : Topic → String
  | generate => "Generate client services from a registry document"
  | describe => "Print the model descriptions as JSON"
  | check => "Validate a registry document without generating code"
  | templates => "List the built-in templates"
  | completions => "Generate shell completions"

/-- The options of a command. -/
def options (topic : Topic) : List OptionSpec :=
  (match topic with
    | generate => generateOptions
    | describe | check => [registryOption]
    | templates | completions => [])
  ++ [verboseOption, quietOption, helpOption]

/-- The command with a name. -/
def ofName? (word : String) : Option Topic := all.find? (·.name == word)

/-- Every command is found by its name. -/
@[simp] theorem ofName?_name (topic : Topic) : ofName? topic.name = some topic := by
  cases topic <;> decide

end Topic

/-- The options that stand before the command. -/
def programOptions : List OptionSpec := [verboseOption, quietOption, helpOption, versionOption]

/-- The options of the program or of a command. -/
def optionsOf : Option Topic → List OptionSpec
  | none => programOptions
  | some topic => topic.options

/-- A shell that can complete commands. -/
inductive Shell where
  | bash
  | elvish
  | fish
  | powershell
  | zsh
deriving DecidableEq, Repr

namespace Shell

/-- All shells, in alphabetical order. -/
def all : List Shell := [bash, elvish, fish, powershell, zsh]

/-- The word for a shell. -/
def name : Shell → String
  | bash => "bash"
  | elvish => "elvish"
  | fish => "fish"
  | powershell => "powershell"
  | zsh => "zsh"

/-- The shell with a name. -/
def ofName? (word : String) : Option Shell := all.find? (·.name == word)

/-- Every shell is found by its name. -/
@[simp] theorem ofName?_name (shell : Shell) : ofName? shell.name = some shell := by
  cases shell <;> decide

end Shell
end CommandLine
end RestBindings
