import RestBindings.CommandLine.Grammar

/-! # Reading a command line

The arguments are read from left to right, first those of the program up to the command, then those
of the command.  The first thing that is wrong is reported, unless help or the version was asked for
before it.  An option is given once among the arguments of the program and once among those of the
command.  Its value follows an equals sign, or a letter directly, or is the next argument, which
then must not look like an option.  After `--` no argument is an option.
-/
namespace RestBindings
namespace CommandLine

/-- What is wrong with a command line. -/
inductive UsageError where
  /-- An option or a word that has no place here. -/
  | unexpected (word : String)
  | missingValue (option : OptionSpec)
  /-- A flag with a value. -/
  | unexpectedValue (option : OptionSpec) (value : String)
  /-- An option that is given a second time. -/
  | repeated (option : OptionSpec)
  /-- Two options that exclude each other. -/
  | conflict (first second : OptionSpec)
  | unknownCommand (word : String)
  | missingCommand
  | missingShell
  | unknownShell (word : String)
deriving DecidableEq, Repr

/-- The wording of an error. -/
def UsageError.message : UsageError → String
  | unexpected word => "unexpected argument '" ++ word ++ "' found"
  | missingValue option =>
    "a value is required for '" ++ option.usage ++ "' but none was supplied"
  | unexpectedValue option value =>
    "unexpected value '" ++ value ++ "' for '" ++ option.usage ++ "' found; no more were expected"
  | repeated option => "the argument '" ++ option.usage ++ "' cannot be used multiple times"
  | conflict first second =>
    "the argument '" ++ first.usage ++ "' cannot be used with '" ++ second.usage ++ "'"
  | unknownCommand word => "unrecognized subcommand '" ++ word ++ "'"
  | missingCommand => "'" ++ programName ++ "' requires a subcommand but one was not provided"
  | missingShell => "the following required arguments were not provided:\n  <SHELL>"
  | unknownShell word =>
    "invalid value '" ++ word ++ "' for '<SHELL>'\n  [possible values: "
      ++ String.intercalate ", " (Shell.all.map Shell.name) ++ "]"

/-- Why reading stops without a command to run. -/
inductive Stop where
  | usage (error : UsageError)
  /-- Help on the program or on a command is asked for. -/
  | help (topic : Option Topic)
  | version
deriving DecidableEq, Repr

/-- What the arguments of the program or of a command say. -/
structure Reading where
  /-- The options given, with their values. -/
  given : List (String × String) := []
  /-- The shell of a command that takes one. -/
  shell : Option Shell := none
deriving DecidableEq, Repr

namespace Reading

/-- The value of an option, if it is given. -/
def value? (reading : Reading) (option : String) : Option String := reading.given.lookup option

/-- An option is given. -/
def has (reading : Reading) (option : OptionSpec) : Bool := (reading.value? option.name).isSome

end Reading

/-- Give an option; a flag has the empty value. -/
def give (topic : Option Topic) (reading : Reading) (option : OptionSpec) (value : String) :
    Except Stop Reading :=
  match option.kind with
  | .help => .error (.help topic)
  | .version => .error .version
  | kind =>
    if reading.has option then .error (.usage (.repeated option))
    else if kind = .path ∧ value.isEmpty then .error (.usage (.missingValue option))
    else .ok { reading with given := reading.given ++ [(option.name, value)] }

/-- Give the options of letters.  If the last one waits for its value, it is told. -/
def giveLetters (topic : Option Topic) (reading : Reading) :
    List Char → Except Stop (Reading × Option OptionSpec)
  | [] => .ok (reading, none)
  | c :: rest =>
    match (optionsOf topic).find? (·.letter == some c) with
    | none => .error (.usage (.unexpected (String.ofList ['-', c])))
    | some option =>
      if option.kind.takesValue then
        match rest with
        | [] => .ok (reading, some option)
        | '=' :: value => (give topic reading option (String.ofList value)).map (·, none)
        | value => (give topic reading option (String.ofList value)).map (·, none)
      else
        match give topic reading option "" with
        | .ok reading => giveLetters topic reading rest
        | .error stop => .error stop

/-- Give the option of a word.  If it waits for its value, it is told. -/
def giveWord (topic : Option Topic) (reading : Reading) (word : List Char) :
    Except Stop (Reading × Option OptionSpec) :=
  let name := String.ofList (word.takeWhile (· != '='))
  let value? := match word.dropWhile (· != '=') with
    | [] => none
    | _ :: value => some (String.ofList value)
  match (optionsOf topic).find? (·.name == name), value? with
  | none, _ => .error (.usage (.unexpected ("--" ++ name)))
  | some option, some value =>
    if option.kind.takesValue then (give topic reading option value).map (·, none)
    else .error (.usage (.unexpectedValue option value))
  | some option, none =>
    if option.kind.takesValue then .ok (reading, some option)
    else (give topic reading option "").map (·, none)

/-- Take an argument that is no option: only one command takes one. -/
def place (topic : Option Topic) (reading : Reading) (word : String) : Except Stop Reading :=
  if topic = some .completions ∧ reading.shell.isNone then
    match Shell.ofName? word with
    | some shell => .ok { reading with shell := some shell }
    | none => .error (.usage (.unknownShell word))
  else .error (.usage (.unexpected word))

/-- An argument that looks like an option. -/
def isOption (word : String) : Bool := word.toList.head? == some '-' && word != "-"

/-- Give the options of one argument.  If the last one waits for its value, it is told. -/
def giveArgument (topic : Option Topic) (reading : Reading) (word : String) :
    Except Stop (Reading × Option OptionSpec) :=
  match word.toList with
  | '-' :: '-' :: name => giveWord topic reading name
  | letters => giveLetters topic reading letters.tail

/-- Read the arguments of the program, up to its command, or of a command; and tell which arguments
are left. -/
def readArguments (topic : Option Topic) (reading : Reading) :
    List String → Except Stop (Reading × List String)
  | [] => .ok (reading, [])
  | word :: rest =>
    if word = "--" then (rest.foldlM (place topic) reading).map (·, [])
    else if isOption word then
      match giveArgument topic reading word, rest with
      | .error stop, _ => .error stop
      | .ok (reading, none), rest => readArguments topic reading rest
      | .ok (_, some option), [] => .error (.usage (.missingValue option))
      | .ok (reading, some option), value :: rest =>
        if isOption value then .error (.usage (.missingValue option))
        else
          match give topic reading option value with
          | .ok reading => readArguments topic reading rest
          | .error stop => .error stop
    else if topic.isNone then .ok (reading, word :: rest)
    else
      match place topic reading word with
      | .ok reading => readArguments topic reading rest
      | .error stop => .error stop

/-- Flags that exclude each other are not both given. -/
def checkConflict (reading : Reading) : Except Stop Unit :=
  if reading.has verboseOption ∧ reading.has quietOption then
    .error (.usage (.conflict verboseOption quietOption))
  else .ok ()

/-- Read the arguments of a command. -/
def readCommand (topic : Topic) (arguments : List String) : Except Stop Reading := do
  let (reading, _) ← readArguments (some topic) {} arguments
  if topic = .completions ∧ reading.shell.isNone then .error (.usage .missingShell)
  checkConflict reading
  pure reading

/-- What help is asked for by words: on the program, or on one command. -/
def helpOn : List String → Stop
  | [] => .help none
  | word :: rest =>
    if word = "help" ∧ rest.isEmpty then .help none
    else
      match Topic.ofName? word, rest with
      | none, _ => .usage (.unknownCommand word)
      | some topic, [] => .help (some topic)
      | some _, extra :: _ => .usage (.unknownCommand extra)

/-- A command with what the arguments before and after it say. -/
structure Invocation where
  topic : Topic
  program : Reading
  command : Reading
deriving DecidableEq, Repr

namespace Invocation

/-- A flag of all commands is given, before the command or after it. -/
def has (invocation : Invocation) (option : OptionSpec) : Bool :=
  invocation.program.has option || invocation.command.has option

end Invocation

/-- Read the arguments of the program. -/
def read (arguments : List String) : Except Stop Invocation := do
  let (program, rest) ← readArguments none {} arguments
  match rest with
  | [] => .error (.usage .missingCommand)
  | word :: rest =>
    if word = "help" then .error (helpOn rest)
    else
      match Topic.ofName? word with
      | none => .error (.usage (.unknownCommand word))
      | some topic =>
        let command ← readCommand topic rest
        checkConflict program
        pure { topic, program, command }

end CommandLine
end RestBindings
