import Conveyor.Definition.Starter
import Conveyor.Text.Blank
import Conveyor.Text.Case

/-!
# Commands

What a command line asks for: one of four commands with its settings, or one of two texts about the
program.  Every setting that can be left out has its default here.
-/

set_option autoImplicit false

namespace Conveyor

/-- The name of the program. -/
def programName : String := "k8s-pipeline-gen"

/-- The version of the program. -/
def programVersion : String := "1.0.0"

/-- How a command reports. -/
inductive Format where
  | text
  | json
  deriving DecidableEq, Repr, Inhabited

/-- The format of a name in any case; every name but one stands for text. -/
def Format.ofName (name : String) : Format := if Text.upper name = "JSON" then json else text

/-- The settings of the command that writes a starter definition. -/
structure InitSettings where
  output : String := "pipeline.yaml"
  projectName : String := "k8s-app"
  repoUrl : Option String := none
  environments : String := "dev,staging,prod"
  region : String := "us-east-1"
  deriving DecidableEq, Repr, Inhabited

/-- The environments that a setting names, separated by commas. -/
def environmentsOf (s : String) : List String :=
  ((s.toList.splitOn ',').map fun part => Text.trim (String.ofList part)).filter (!·.isEmpty)

/-- The repository of a project that nobody named. -/
def defaultRepository (projectName : String) : String := "https://github.com/myorg/" ++ projectName

/-- The starter that some settings ask for. -/
def InitSettings.starter (s : InitSettings) : Starter :=
  { projectName := s.projectName
    repoUrl :=
      match s.repoUrl with
      | some url => if url.isEmpty then defaultRepository s.projectName else url
      | none => defaultRepository s.projectName
    environments := environmentsOf s.environments
    region := s.region }

/-- The path of a definition that nobody named. -/
def defaultDefinition : String := "pipeline.yaml"

/-- The directory of artifacts that nobody named. -/
def defaultDirectory : String := "./pipeline"

/-- A command with its settings. -/
inductive Command where
  | init (settings : InitSettings)
  | validate (definition : String) (format : Format)
  | render (artifact definition : String)
  | generate (definition directory : String) (format : Format) (lenient : Bool)
  deriving DecidableEq, Repr

/-- What a command line asks for. -/
inductive Request where
  | version
  | help
  | run (level : Option String) (command : Command)
  deriving DecidableEq, Repr

/-- The status that a run ends with. -/
inductive Exit where
  | success
  | failure
  | misuse
  deriving DecidableEq, Repr, Inhabited

/-- The number of a status. -/
def Exit.code : Exit → Nat
  | success => 0
  | failure => 1
  | misuse => 2

end Conveyor
