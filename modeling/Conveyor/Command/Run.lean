import Conveyor.Command.Arguments
import Conveyor.Command.Summary
import Conveyor.Terminal.Escape
import Conveyor.Terminal.Outline

/-!
# Running commands

A command reads the file tree, writes to the two streams and ends with a status.  Commands that
write no files have a type without a tree, so they leave every file as it is; the others give the
tree afterwards together with their status, or with a failure that they do not handle.

A command sets up the logging of the whole program before it does anything else.  Log lines share
the standard output with text; where the standard output is for a machine to read, they go to the
other stream.  What a command tells reaches a stream without control sequences, while log lines and
what is laid out for a terminal keep them.
-/

set_option autoImplicit false

namespace Conveyor

namespace Command

/-- What a command that writes files comes to. -/
abbrev Effect := FileTree × Except Failure Exit

/-- Shows a text on a stream without its control sequences. -/
def tell (stream : Log.Stream) (text : String) : Logged Unit :=
  Logged.say stream (Terminal.unstyled text)

/-- Shows a message about something that went wrong. -/
def complain (message : String) : Logged Exit := do
  tell .err ("❌ Error: " ++ message ++ "\n")
  return .failure

/-- Shows a JSON document. -/
def tellJson (v : Value) : Logged Unit := do tell .out (Summary.line (← v.json))

/-- Sets up the logging of the program: an option comes before the environment. -/
def configureLogging (stream : Log.Stream) (level : Option String) : Logged Unit := do
  let fromEnvironment := ((← read).get? Log.levelVariable).getD Log.defaultLevel
  Log.setUp Log.packageName (level.getD fromEnvironment) stream

/-- The stream for log lines beside output of a format. -/
def logStream : Format → Log.Stream
  | .text => .out
  | .json => .err

/-! ## Commands that write no files -/

/-- Sums up a session. -/
def describe (format : Format) (s : Session) : Logged Exit := do
  match format with
  | .json => tellJson (← Summary.value s)
  | .text => tell .out (← Summary.text s)
  return .success

/-- Sums up what is wrong with a definition. -/
def reject (format : Format) (message : String) : Logged Exit :=
  match format with
  | .json => do
    tellJson (Summary.refusal message)
    return .failure
  | .text => complain message

/-- A session for a definition whose stages fit a Jenkinsfile. -/
def openSession (t : FileTree) (definition : String) : Logged Session := do
  let session ← Session.ofFile t definition true
  let _ ← session.jenkinsfile
  return session

/-- Checks a definition and sums it up. -/
def checkDefinition (t : FileTree) (definition : String) (format : Format) : Logged Exit := do
  match ← Logged.attempt (openSession t definition) with
  | .ok session => describe format session
  | .error failure =>
    if failure.isVerdict then reject format failure.text else throw failure

/-- The message about an artifact that nobody renders. -/
def unknownArtifact (artifact : String) : String :=
  "Artifact '" ++ artifact ++ "' is not a registered renderer. Available artifacts: "
    ++ commaSeparated Registry.builtin.names

/-- The text of an artifact. -/
def artifactText : Value → Except Failure String
  | .text s => .ok s
  | v => Yaml.print v

/-- Prints one artifact. -/
def printArtifact (t : FileTree) (artifact definition : String) : Logged Exit := do
  if Registry.builtin.names.contains artifact then
    let work : Logged Value := do (← Session.ofFile t definition true).render artifact
    match ← Logged.attempt work with
    | .ok rendered =>
      tell .out (← artifactText rendered)
      return .success
    | .error failure => if failure.isVerdict then complain failure.text else throw failure
  else complain (unknownArtifact artifact)

/-! ## Commands that write files -/

/-- What is said about a starter that was written to a path. -/
def starterSummary (path : String) (s : Starter) : String :=
  String.join (([
    "✅ Pipeline definition created: " ++ path,
    "📝 Project name: " ++ s.projectName,
    "🎯 Environments: " ++ commaSeparated s.environments,
    "",
    "📋 Next steps:",
    "1. Review the registry and stage settings",
    "2. Validate with: k8s-pipeline-gen validate --config " ++ path,
    "3. Generate with: k8s-pipeline-gen generate --config " ++ path]).map Summary.line)

/-- Writes a starter to a path that nothing is found at. -/
def writeStarter (t : FileTree) (path : Path) (s : Starter) : Logged Effect := do
  let stored := Bundle.storeOne t path s.text
  match stored.stopped with
  | none =>
    tell .out (starterSummary path.text s)
    return (stored.tree, .ok .success)
  | some error =>
    let failure := Failure.file error
    if failure.isFile then
      tell .err ("❌ Error creating pipeline definition: " ++ failure.text ++ "\n")
      return (stored.tree, .ok .failure)
    else return (stored.tree, .error failure)

/-- Writes a starter definition, unless something is found at its path. -/
def writeDefinition (t : FileTree) (settings : InitSettings) : Logged Effect := do
  let path := Path.ofText settings.output
  match t.stat path.text with
  | .error .nameTooLong => throw (.file ⟨.nameTooLong, path.text⟩)
  | .error _ => writeStarter t path settings.starter
  | .ok _ => return (t, .ok (← complain (path.text ++ " already exists")))

/-- The rows of names that lead to written files from their directory. -/
def belowDirectory (directory : String) (paths : List String) : List (List String) :=
  let root := Path.ofText directory
  paths.map fun path => (Path.ofText path).parts.drop root.parts.length

/-- Tells which files were written. -/
def announce (columns : Nat) (format : Format) (directory : String) (s : Session)
    (paths : List String) : Logged Exit := do
  match format with
  | .json => tellJson (Summary.written s directory paths)
  | .text =>
    tell .out ("✅ Generated " ++ toString paths.length ++ " files for " ++ s.config.name
      ++ " in " ++ directory ++ "\n")
    let outline := Terminal.Outline.ofPaths (Path.ofText directory).text
      (belowDirectory directory paths)
    Logged.say .out (String.join ((← outline.lines columns).map Summary.line))
  return .success

/-- Tells why no artifacts, or not all of them, were written. -/
def explain (logger directory : String) (failure : Failure) : Logged (Except Failure Exit) := do
  if failure.isVerdict then return .ok (← complain failure.text)
  else if failure.isFile then
    Log.emit .debug logger ("Write to " ++ directory ++ " failed")
    return .ok (← complain
      ("Failed to write pipeline files to " ++ directory ++ ": " ++ failure.text))
  else return .error failure

/-- A session for a definition, and what saving its artifacts came to. -/
def saveAll (t : FileTree) (definition directory : String) (lenient : Bool) :
    Logged (Session × FileTree × Except Failure (List String)) := do
  let session ← Session.ofFile t definition (!lenient)
  return (session, ← session.save t (.text directory))

/-- Writes all artifacts below a directory. -/
def writeArtifacts (columns : Nat) (t : FileTree) (definition directory : String) (format : Format)
    (lenient : Bool) : Logged Effect := do
  let logger ← Log.component "generate"
  match ← Logged.attempt (saveAll t definition directory lenient) with
  | .error failure => return (t, ← explain logger directory failure)
  | .ok (_, tree, .error failure) => return (tree, ← explain logger directory failure)
  | .ok (session, tree, .ok paths) =>
    return (tree, ← Logged.attempt (announce columns format directory session paths))

/-- Runs a command on a terminal with some columns. -/
def run (columns : Nat) (t : FileTree) (level : Option String) : Command → Logged Effect
  | .init settings => do
    configureLogging .out level
    writeDefinition t settings
  | .validate definition format => do
    configureLogging (logStream format) level
    return (t, .ok (← checkDefinition t definition format))
  | .render artifact definition => do
    configureLogging .err level
    return (t, .ok (← printArtifact t artifact definition))
  | .generate definition directory format lenient => do
    configureLogging (logStream format) level
    writeArtifacts columns t definition directory format lenient

end Command

/-! ## Whole runs -/

namespace CommandLine

/-- What a run of the program comes to: the status, the tree and the journal afterwards, the failure
that nothing handled, and whether such a failure was reported. -/
structure Outcome where
  exit : Exit
  tree : FileTree
  journal : Log.Journal := {}
  unhandled : Option Failure := none
  reported : Bool := false
  deriving Repr

/-- What the program says about itself. -/
def versionText : String := programName ++ " " ++ programVersion ++ "\n"

/-- How the program is used. -/
def helpText : String :=
  "Usage: k8s-pipeline-gen [--log-level LEVEL] [--version] [--help] COMMAND [ARGS]...

Commands:
  init      Create a starter pipeline definition
  validate  Validate and describe a pipeline definition
  render    Print one artifact to stdout
  generate  Write all artifacts to a directory
"

/-- A run that only shows a text. -/
def showing (t : FileTree) (stream : Log.Stream) (exit : Exit) (text : String) : Outcome :=
  { exit, tree := t, journal := { shown := [(stream, .text text)] } }

/-- Runs what a command line asks for. -/
def perform (columns : Nat) (env : Environment) (t : FileTree) : Request → Outcome
  | .version => showing t .out .success versionText
  | .help => showing t .out .success helpText
  | .run level command =>
    match (command.run columns t level).perform env with
    | (.ok (tree, .ok exit), journal) => { exit, tree, journal }
    | (.ok (tree, .error failure), journal) =>
      { exit := .failure, tree, journal, unhandled := some failure }
    | (.error failure, journal) =>
      { exit := .failure, tree := t, journal, unhandled := some failure }

/-- Runs a command line. -/
def run (columns : Nat) (env : Environment) (t : FileTree) (words : List String) : Outcome :=
  match read words with
  | .ok request => perform columns env t request
  | .error misuse => showing t .err .misuse (misuse.text ++ "\n")

/-- The lines that help after a failure that no command handled. -/
def suggestions : List String :=
  ["\n[yellow]💡 Common usage patterns:[/yellow]",
   "   [cyan]k8s-pipeline-gen init --output pipeline.yaml --name my-app[/cyan]",
   "   [cyan]k8s-pipeline-gen validate --config pipeline.yaml[/cyan]",
   "   [cyan]k8s-pipeline-gen render jenkinsfile --config pipeline.yaml[/cyan]",
   "   [cyan]k8s-pipeline-gen generate --config pipeline.yaml --output-dir ./pipeline[/cyan]",
   "\n[yellow]📖 For detailed help:[/yellow]",
   "   [cyan]k8s-pipeline-gen --help[/cyan]",
   "   [cyan]k8s-pipeline-gen <command> --help[/cyan]"]

/-- What is shown about a failure that no command handled. -/
def report (failure : Failure) : List String :=
  ["[dim]k8s-pipeline-gen v" ++ programVersion ++ "[/dim]",
   "\n[red]❌ Error: " ++ failure.text ++ "[/red]"] ++ suggestions

/-- Shows texts with tags one after another, up to the first that has a faulty tag. -/
def showAll (columns : Nat) : List String → Logged Unit
  | [] => pure ()
  | s :: rest => do
    Logged.say .err (← Terminal.printed columns s)
    showAll columns rest

/-- Runs a command line and reports a failure that no command handled.  After the report the run
ends as if the failure had been handled; a report that fails itself leaves its own failure. -/
def runReporting (columns : Nat) (env : Environment) (t : FileTree) (words : List String) :
    Outcome :=
  let outcome := run columns env t words
  match outcome.unhandled with
  | none => outcome
  | some failure =>
    match (showAll columns (report failure)).perform env outcome.journal with
    | (.ok (), journal) => { outcome with journal, unhandled := none, reported := true }
    | (.error fault, journal) => { outcome with journal, unhandled := some fault }

end CommandLine

end Conveyor
