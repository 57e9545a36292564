import RestBindings.CommandLine.Reading

/-! # Help on the command line

Help says what the program or a command does, how to call it, and what its options are, in columns.
A shell completes the words of the command line by a script of its own form.
-/
namespace RestBindings
namespace CommandLine

/-- The line of the version. -/
def versionText : String := programName ++ " " ++ programVersion ++ "\n"

/-- Rows of two columns, the first as wide as its widest entry. -/
def columns (rows : List (String × String)) : String :=
  let width := rows.foldl (fun width row => max width row.1.length) 0
  String.join (rows.map fun (first, second) =>
    let gap := String.ofList (List.replicate (width + 2 - first.length) ' ')
    "  " ++ first ++ gap ++ second ++ "\n")

/-- The row of an option. -/
def OptionSpec.row (option : OptionSpec) : String × String :=
  let letter := match option.letter with
    | some c => String.ofList ['-', c] ++ ", "
    | none => "    "
  (letter ++ option.usage, option.about)

/-- The options, under their heading. -/
def optionRows (topic : Option Topic) : String :=
  "Options:\n" ++ columns ((optionsOf topic).map OptionSpec.row)

/-- The rows of the commands. -/
def topicRows : List (String × String) :=
  Topic.all.map (fun topic => (topic.name, topic.about))
    ++ [("help", "Print this message or the help of the given subcommand(s)")]

/-- What the row of the argument of a command says. -/
def shellRow : String × String :=
  ("<SHELL>", "Shell to generate completions for [possible values: "
    ++ String.intercalate ", " (Shell.all.map Shell.name) ++ "]")

/-- How to call the program or a command. -/
def usageLine : Option Topic → String
  | none => "Usage: " ++ programName ++ " [OPTIONS] <COMMAND>\n"
  | some topic => "Usage: " ++ programName ++ " " ++ topic.name ++ " [OPTIONS]"
      ++ (if topic = .completions then " <SHELL>" else "") ++ "\n"

/-- Help on the program or on a command. -/
def helpText (topic : Option Topic) : String :=
  match topic with
  | none => "Generate client services for Sira REST models\n\n" ++ usageLine none
      ++ "\nCommands:\n" ++ columns topicRows ++ "\n" ++ optionRows none
  | some topic => topic.about ++ "\n\n" ++ usageLine (some topic)
      ++ (if topic = .completions then "\nArguments:\n" ++ columns [shellRow] else "")
      ++ "\n" ++ optionRows (some topic)

/-- What is said of a command line that is wrong. -/
def UsageError.text (error : UsageError) : String :=
  "error: " ++ error.message ++ "\n\n" ++ usageLine none
    ++ "\nFor more information, try '--help'.\n"

/-- The words that a shell may complete. -/
def completionWords : List String := topicRows.map Prod.fst

/-- The script by which a shell completes the commands of the program. -/
def completionScript (shell : Shell) : String :=
  let words := String.intercalate " " completionWords
  match shell with
  | .bash => "complete -W '" ++ words ++ "' " ++ programName ++ "\n"
  | .elvish => "set edit:completion:arg-completer[" ++ programName ++ "] = \x7b|@words| put "
      ++ words ++ " \x7d\n"
  | .fish => "complete -c " ++ programName ++ " -f -a '" ++ words ++ "'\n"
  | .powershell => "Register-ArgumentCompleter -Native -CommandName " ++ programName
      ++ " -ScriptBlock \x7b '" ++ words ++ "'.Split(' ') \x7d\n"
  | .zsh => "#compdef " ++ programName ++ "\n_arguments '1: :(" ++ words ++ ")'\n"

end CommandLine
end RestBindings
