import Conveyor.Environment
import Conveyor.Log.Hierarchy

/-!
# The journal of a run

While the program works it keeps a journal: the loggers as they are set, the records that were
logged, and the text that went to the two streams.  `Logged` is work that reads the environment,
adds to the journal and may fail; what was entered before a failure stays.  Work of this type has
no access to the file system, so whatever is written in it leaves every file as it is.
-/

set_option autoImplicit false

namespace Conveyor

namespace Log

/-- A logged event. -/
structure Record where
  level : Level
  logger : String
  message : String
  deriving DecidableEq, Repr

/-- What is shown on a stream: a text, or the line for a record. -/
inductive Shown where
  | text (s : String)
  | record (r : Record)
  deriving DecidableEq, Repr

/-- Everything that a run has logged and shown. -/
structure Journal where
  hierarchy : Hierarchy := {}
  records : List Record := []
  shown : List (Stream × Shown) := []
  deriving DecidableEq, Repr, Inhabited

/-- The line for a record that was logged at some time. -/
def Record.line (time : String) (r : Record) : String :=
  time ++ " - " ++ r.logger ++ " - " ++ r.level.name ++ " - " ++ r.message ++ "\n"

/-- What is shown, as a text. -/
def Shown.render (time : String) : Shown → String
  | .text s => s
  | .record r => r.line time

/-- The text that went to a stream, with one time for all records. -/
def Journal.textOf (time : String) (j : Journal) (stream : Stream) : String :=
  String.join ((j.shown.filter (·.1 = stream)).map (·.2.render time))

/-- Enters a record and shows its line on the streams that it reaches. -/
def Journal.enter (j : Journal) (r : Record) : Journal :=
  { j with
    records := j.records ++ [r]
    shown := j.shown ++ (j.hierarchy.streams r.logger r.level).map fun s => (s, .record r) }

end Log

/-- Work that reads the environment, keeps a journal and may fail. -/
abbrev Logged := ReaderT Environment (ExceptT Failure (StateM Log.Journal))

namespace Logged

/-- Runs logged work in an environment, from a journal on. -/
def perform {α : Type} (work : Logged α) (env : Environment) (journal : Log.Journal := {}) :
    Except Failure α × Log.Journal :=
  (work.run env).run.run journal

/-- A pure result as logged work. -/
def ofExcept {α : Type} : Except Failure α → Logged α
  | .ok a => pure a
  | .error e => throw e

/-- Shows a text on a stream. -/
def say (stream : Log.Stream) (text : String) : Logged Unit :=
  modify fun j => { j with shown := j.shown ++ [(stream, .text text)] }

/-- Runs logged work and gives its failure as a result; what it entered before it failed stays. -/
def attempt {α : Type} (work : Logged α) : Logged (Except Failure α) :=
  tryCatch (Except.ok <$> work) fun failure => return .error failure

end Logged

instance : MonadLift (Except Failure) Logged := ⟨Logged.ofExcept⟩

namespace Log

/-- The logger that all loggers of the program descend from. -/
def packageName : String := "k8s_pipeline_gen"

/-- The variable that sets the level of loggers that nobody else set up. -/
def levelVariable : String := "K8S_PIPELINE_GEN_LOG_LEVEL"

/-- The level where neither an option nor the variable gives one. -/
def defaultLevel : String := "WARNING"

/-- Takes the handlers from a logger. -/
def clear (name : String) : Logged Unit :=
  modify fun j => { j with hierarchy := j.hierarchy.update name fun l => { l with handlers := [] } }

/-- Gives a logger a single handler and a level.  The old handlers go first, also where the name
of the level turns out to be unknown. -/
def setUp (name level : String) (stream : Stream) : Logged Unit := do
  clear name
  let level ← Level.ofName level
  modify fun j => { j with
    hierarchy := j.hierarchy.set name { level, handlers := [stream], passesOn := false } }

/-- Prepares the logger of a component and gives its name.  With handlers on the package's logger
the component passes its records on to it; otherwise it gets a handler of its own, at the level of
the environment. -/
def component (part : String) : Logged String := do
  let name := packageName ++ "." ++ part
  let j ← get
  if (j.hierarchy.get packageName).handlers.isEmpty then
    setUp name (((← read).get? levelVariable).getD defaultLevel) .err
  else
    set { j with hierarchy := j.hierarchy.set name {} }
  return name

/-- Logs an event of a logger. -/
def emit (level : Level) (logger message : String) : Logged Unit :=
  modify (·.enter ⟨level, logger, message⟩)

/-- Prepares the logger of a component and logs an event of it. -/
def event (level : Level) (part message : String) : Logged Unit := do
  emit level (← component part) message

end Log

end Conveyor
