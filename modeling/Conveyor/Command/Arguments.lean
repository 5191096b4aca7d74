import Conveyor.Command.Basic

/-!
# Reading a command line

A command line is a row of words.  A word of two dashes and a name is an option, and so is a word of
one dash and a letter; the value of an option is the next word, or what follows an equals sign or
the letter in the same word.  Two dashes alone end the options.  The last value of an option counts.

Options of the program stand in front of the command, options of the command behind it, mixed with
its arguments.
-/

set_option autoImplicit false

namespace Conveyor.CommandLine

/-- The options of the program and its commands. -/
inductive Key where
  | logLevel
  | version
  | help
  | config
  | output
  | outputDirectory
  | projectName
  | repoUrl
  | environments
  | region
  | lenient
  deriving DecidableEq, Repr

/-- How an option is written. -/
structure Switch where
  key : Key
  name : String
  letter : Option Char := none
  takesValue : Bool := true
  deriving DecidableEq, Repr

/-- Why a command line means nothing. -/
inductive Misuse where
  | noWords
  | unknownOption (word : String)
  | missingValue (word : String)
  | unwantedValue (word : String)
  | missingCommand
  | unknownCommand (word : String)
  | missingArgument (name : String)
  | extraArgument (word : String)
  deriving DecidableEq, Repr

/-- The wording of a misuse. -/
def Misuse.text : Misuse → String
  | noWords => "Nothing to do."
  | unknownOption word => "No such option: " ++ word
  | missingValue word => "Option '" ++ word ++ "' requires an argument."
  | unwantedValue word => "Option '" ++ word ++ "' does not take a value."
  | missingCommand => "Missing command."
  | unknownCommand word => "No such command '" ++ word ++ "'."
  | missingArgument name => "Missing argument '" ++ name ++ "'."
  | extraArgument word => "Got unexpected extra argument (" ++ word ++ ")"

/-- The options of a row of words in their order, and the other words. -/
structure Given where
  options : List (Key × String) := []
  words : List String := []
  deriving DecidableEq, Repr

/-- The value of an option; the last one counts. -/
def Given.value? (g : Given) (key : Key) : Option String := g.options.reverse.lookup key

/-- Whether an option is given. -/
def Given.has (g : Given) (key : Key) : Bool := (g.value? key).isSome

/-- What a single word is: the end of the options, an option with its value, an option that waits
for its value, or any other word. -/
inductive Word where
  | close
  | option (key : Key) (value : String)
  | pending (key : Key)
  | other
  deriving DecidableEq, Repr

/-- The word for an option, which may hold a value. -/
def Word.ofOption (word : String) (switch : Option Switch) (value : Option String) :
    Except Misuse Word :=
  match switch, value with
  | none, _ => .error (.unknownOption word)
  | some s, none => .ok (if s.takesValue then .pending s.key else .option s.key "")
  | some s, some v => if s.takesValue then .ok (.option s.key v) else .error (.unwantedValue word)

/-- What follows the first equals sign, if there is one. -/
def attached? (s : List Char) : Option String :=
  match s.dropWhile (· ≠ '=') with
  | _ :: value => some (String.ofList value)
  | [] => none

/-- What a word is by its dashes. -/
def Word.ofText (switches : List Switch) (word : String) : Except Misuse Word :=
  match word.toList with
  | ['-', '-'] => .ok close
  | '-' :: '-' :: rest =>
    let name := String.ofList ('-' :: '-' :: rest.takeWhile (· ≠ '='))
    ofOption word (switches.find? (·.name = name)) (attached? rest)
  | '-' :: letter :: rest =>
    ofOption word (switches.find? (·.letter = some letter))
      (if rest.isEmpty then none else some (String.ofList rest))
  | _ => .ok other

/-- Words with one more option in front. -/
def Given.withOption (key : Key) (value : String) (g : Given) : Given :=
  { g with options := (key, value) :: g.options }

/-- Sorts words into options and others.  Where options and other words do not mix, everything
counts as another word from the first one on. -/
def scan (switches : List Switch) (mixed : Bool) : List String → Except Misuse Given
  | [] => .ok {}
  | word :: rest => do
    match ← Word.ofText switches word with
    | .close => return { words := rest }
    | .option key value => return (← scan switches mixed rest).withOption key value
    | .pending key =>
      match rest with
      | [] => throw (.missingValue word)
      | value :: after => return (← scan switches mixed after).withOption key value
    | .other =>
      if mixed then
        let given ← scan switches mixed rest
        return { given with words := word :: given.words }
      else return { words := word :: rest }

/-- The option that asks for help. -/
def helpSwitch : Switch := ⟨.help, "--help", none, false⟩

/-- The option for the path of the definition. -/
def configSwitch : Switch := ⟨.config, "--config", some 'c', true⟩

/-- The option for the format, or the path of a starter. -/
def outputSwitch : Switch := ⟨.output, "--output", some 'o', true⟩

/-- The options of the program. -/
def programSwitches : List Switch :=
  [⟨.logLevel, "--log-level", none, true⟩, ⟨.version, "--version", none, false⟩, helpSwitch]

/-- The options of the command that writes a starter. -/
def initSwitches : List Switch :=
  [outputSwitch, ⟨.projectName, "--name", some 'n', true⟩, ⟨.repoUrl, "--repo-url", none, true⟩,
   ⟨.environments, "--environments", none, true⟩, ⟨.region, "--region", none, true⟩, helpSwitch]

/-- The options of the command that checks a definition. -/
def validateSwitches : List Switch := [configSwitch, outputSwitch, helpSwitch]

/-- The options of the command that prints one artifact. -/
def renderSwitches : List Switch := [configSwitch, helpSwitch]

/-- The options of the command that writes all artifacts. -/
def generateSwitches : List Switch :=
  [configSwitch, ⟨.outputDirectory, "--output-dir", some 'd', true⟩, outputSwitch,
   ⟨.lenient, "--lenient", none, false⟩, helpSwitch]

/-- The path of the definition that the options name. -/
def Given.definition (g : Given) : String := (g.value? .config).getD defaultDefinition

/-- The format that the options name. -/
def Given.format (g : Given) : Format := Format.ofName ((g.value? .output).getD "TEXT")

/-- The settings for a starter that the options name. -/
def Given.initSettings (g : Given) : InitSettings :=
  let default : InitSettings := {}
  { output := (g.value? .output).getD default.output
    projectName := (g.value? .projectName).getD default.projectName
    repoUrl := g.value? .repoUrl
    environments := (g.value? .environments).getD default.environments
    region := (g.value? .region).getD default.region }

/-- A command without arguments. -/
def alone (g : Given) (command : Command) : Except Misuse Command :=
  match g.words with
  | [] => .ok command
  | word :: _ => .error (.extraArgument word)

/-- The command that artifacts are printed with. -/
def renderCommand (g : Given) : Except Misuse Command :=
  match g.words with
  | [] => .error (.missingArgument "ARTIFACT")
  | [artifact] => .ok (.render artifact g.definition)
  | _ :: word :: _ => .error (.extraArgument word)

/-- Reads the words behind the name of a command; a request for help comes before all others. -/
def readWords (switches : List Switch) (command : Given → Except Misuse Command)
    (words : List String) (level : Option String) : Except Misuse Request := do
  let given ← scan switches true words
  if given.has .help then return .help
  return .run level (← command given)

/-- The text about the program that the options ask for; the first request counts. -/
def about? (g : Given) : Option Request :=
  g.options.findSome? fun
    | (.version, _) => some .version
    | (.help, _) => some .help
    | _ => none

/-- Reads words that begin with no command.  They are read as options of the program once more,
because they can be options that follow the end of the options. -/
def readUnknown (name : String) (rest : List String) : Except Misuse Request := do
  match about? (← scan programSwitches false (name :: rest)) with
  | some request => return request
  | none => throw (.unknownCommand name)

/-- Reads a command by its name. -/
def readCommand (level : Option String) (name : String) (words : List String) :
    Except Misuse Request :=
  match name with
  | "init" => readWords initSwitches (fun g => alone g (.init g.initSettings)) words level
  | "validate" =>
    readWords validateSwitches (fun g => alone g (.validate g.definition g.format)) words level
  | "render" => readWords renderSwitches renderCommand words level
  | "generate" =>
    readWords generateSwitches
      (fun g => alone g (.generate g.definition
        ((g.value? .outputDirectory).getD defaultDirectory) g.format (g.has .lenient)))
      words level
  | name => readUnknown name words

/-- Reads a command line. -/
def read (words : List String) : Except Misuse Request := do
  if words.isEmpty then throw .noWords
  let given ← scan programSwitches false words
  match about? given, given.words with
  | some request, _ => return request
  | none, [] => throw .missingCommand
  | none, name :: rest => readCommand (given.value? .logLevel) name rest

end Conveyor.CommandLine
