import RestBindings.CommandLine.Manual
import RestBindings.Config
import RestBindings.Generation.Progress
import RestBindings.Registry.Opening
import RestBindings.Report.Check
import RestBindings.Report.Generate
import RestBindings.Report.Templates

/-! # Running the program

A run is a function of the arguments and of what surrounds the program: the files, the working
directory and the URL of the API that the environment names.  It gives an exit code, what is shown
on the two output streams, and the files afterwards.  The code is 0 if the run does what it was
asked for, 1 if it fails, and 2 if the command line is wrong.  Standard error gets the journal
first, at the level that the flags choose.
-/
namespace RestBindings
namespace CommandLine

open Files (Tree)
open Generation (Options)
open Journal (Entry Level countField quotedField)
open Report (Output)

/-- What surrounds the program. -/
structure Surroundings where
  tree : Tree := {}
  /-- The working directory, where the configuration is looked up. -/
  directory : String := "."
  /-- The URL of the API, if the environment names one. -/
  apiUrl : Option String := none
  /-- The journal is shown. -/
  isJournalShown : Bool := true

/-- What a run gives. -/
structure Outcome where
  code : Nat
  stdout : String := ""
  stderr : String := ""
  tree : Tree

/-- What a command gives: its journal, and then an outcome. -/
abbrev Run := List Entry × Outcome

namespace Invocation

variable (invocation : Invocation)

/-- The journal is read down to this level. -/
def level : Level :=
  if invocation.has quietOption then .error
  else if invocation.has verboseOption then .debug
  else .warn

/-- The path of the registry document. -/
def registryPath : String := (invocation.command.value? "registry").getD defaultRegistry

/-- The configuration that is asked for. -/
def configPath : Option String := invocation.command.value? "config"

/-- The choices that the command line and the environment make. -/
def options (apiUrl : Option String) : Options where
  template := invocation.command.value? "template"
  moduleName := invocation.command.value? "module-name"
  apiUrl := invocation.command.value? "api-url" <|> apiUrl

/-- Where the source should go. -/
def target : Report.Target where
  output := invocation.command.value? "output"
  dryRun := (invocation.command.value? "dry-run").isSome

/-- The paths of the files that the command reads if they are there. -/
def inputs (directory : String) : List String :=
  match invocation.topic with
  | .generate =>
    [invocation.configPath.getD (Files.join directory Config.fileName), invocation.registryPath]
  | .describe | .check => [invocation.registryPath]
  | .templates | .completions => []

end Invocation

/-- The text of a failure. -/
def failureText (message : String) (help : Option String) : String :=
  "Error: " ++ message ++ "\n" ++ match help with
    | some advice => "  help: " ++ advice ++ "\n"
    | none => ""

/-- A run that fails. -/
def failed (tree : Tree) (entries : List Entry) (message : String) (help : Option String := none) :
    Run :=
  (entries, { code := 1, stderr := failureText message help, tree })

/-- A run that shows outputs. -/
def shown (tree : Tree) (code : Nat) (entries : List Entry) (outputs : List Output) : Run :=
  (entries, { code, stdout := Output.stdoutOf outputs, stderr := Output.stderrOf outputs, tree })

/-- What is told of a document that was read. -/
def loadedEntry (path : String) (document : RegistryDocument) : Entry where
  level := .debug
  message := "Loaded registry document"
  fields := [quotedField "file" path, countField "classes" document.classes.length]

/-- Go on with the registry document at a path, or fail. -/
def withDocument (tree : Tree) (entries : List Entry) (path : String)
    (next : List Entry → RegistryDocument → Run) : Run :=
  match RegistryDocument.load tree path with
  | .error error => failed tree entries error.message error.help?
  | .ok document => next (entries ++ [loadedEntry path document]) document

/-- What is told of the configuration in the working directory. -/
def configEntries (tree : Tree) (explicit : Option String) (directory : String) : List Entry :=
  match explicit, Config.implicit? tree directory with
  | none, some path =>
    [{ level := .debug, message := "Using project config", fields := [("path", path)] }]
  | _, _ => []

/-- What is told of source that went to a file. -/
def deliveryEntries : Report.Delivery → List Entry
  | .written path =>
    [{ level := .debug, message := "Wrote generated services", fields := [("path", path)] }]
  | _ => []

/-- Generate client services. -/
def runGenerate (surroundings : Surroundings) (invocation : Invocation) : Run :=
  let tree := surroundings.tree
  let entries := configEntries tree invocation.configPath surroundings.directory
  match Config.load tree invocation.configPath surroundings.directory with
  | .error error => failed tree entries error.message
  | .ok config =>
    withDocument tree entries invocation.registryPath fun entries document =>
      let registry := Registry.ofDocument document
      let options := (invocation.options surroundings.apiUrl).or config
      let entries :=
        entries ++ Generation.generateEntries registry Client.builtinTemplates options
      match Report.generate registry options invocation.target tree with
      | (.ok report, tree) =>
        shown tree 0 (entries ++ deliveryEntries report.delivery) report.outputs
      | (.error (.generate error), tree) => failed tree entries error.message error.help?
      | (.error error, tree) => failed tree entries error.message

/-- What is told of models that were described. -/
def describedEntry (description : Description) (models : Models) : Entry where
  level := .debug
  message := "Described registry"
  fields := [countField "models" models.size, countField "skipped" description.skipped.length]

/-- Print the models of a registry document. -/
def runDescribe (tree : Tree) (invocation : Invocation) : Run :=
  withDocument tree [] invocation.registryPath fun entries document =>
    let description := describe document.classes
    let entries := entries ++ describeEntries document.classes
    match description.models, Report.describeJson (Registry.ofDocument document) with
    | .ok models, .ok json =>
      shown tree 0 (entries ++ [describedEntry description models]) [.text json]
    | .error error, _ | _, .error error => failed tree entries error.message error.help?

/-- Check a registry document. -/
def runCheck (tree : Tree) (invocation : Invocation) : Run :=
  withDocument tree [] invocation.registryPath fun entries document =>
    let entries := entries ++ Generation.pipelineEntries document.classes
    match Report.check invocation.registryPath document with
    | .ok report => shown tree (if report.isValid then 0 else 1) entries report.outputs
    | .error abort => failed tree entries (Generation.GenerateError.ofAbort abort).message

/-- Run a command. -/
def runCommand (surroundings : Surroundings) (invocation : Invocation) : Run :=
  let tree := surroundings.tree
  match invocation.topic with
  | .generate => runGenerate surroundings invocation
  | .describe => runDescribe tree invocation
  | .check => runCheck tree invocation
  | .templates => shown tree 0 [] (Report.templatesOutputs Client.builtinTemplates)
  | .completions =>
    let script := (invocation.command.shell.map completionScript).getD ""
    shown tree 0 [] [.source script]

/-- Run an invocation, and show the journal before anything else. -/
def runInvocation (surroundings : Surroundings) (invocation : Invocation) : Outcome :=
  let (entries, outcome) := runCommand surroundings invocation
  let journal := if surroundings.isJournalShown then Journal.read invocation.level entries else ""
  { outcome with stderr := journal ++ outcome.stderr }

/-- Run the program with its arguments. -/
def run (surroundings : Surroundings) (arguments : List String) : Outcome :=
  let tree := surroundings.tree
  match read arguments with
  | .ok invocation => runInvocation surroundings invocation
  | .error (.help topic) => { code := 0, stdout := helpText topic, tree }
  | .error .version => { code := 0, stdout := versionText, tree }
  | .error (.usage error) => { code := 2, stderr := error.text, tree }

end CommandLine
end RestBindings
