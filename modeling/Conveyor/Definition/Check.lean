import Conveyor.Definition.Grammar
import Conveyor.Definition.Parts
import Conveyor.Definition.Source

/-!
# Checking a definition file

A definition file is checked in three steps, and each step is taken only if the one before it found
nothing: the file is read, its value is checked against the grammar, and the environments of its
deploy stages are looked up among the declared ones, which no schema can express.  A file that
passes has a configuration and stages.
-/

set_option autoImplicit false

namespace Conveyor.Definition

/-- Why a definition file has no value. -/
inductive Unreadable where
  | missing (path : String)
  | failed (failure : Failure)
  | empty (path : String)
  deriving DecidableEq, Repr

/-- The line for a file without a value. -/
def Unreadable.text : Unreadable → String
  | .missing path => "File not found: " ++ path
  | .failed failure => "YAML syntax error: " ++ failure.text
  | .empty path => "Pipeline definition is empty: " ++ path

/-- Why a file has no value if reading it failed. -/
def blame (path : String) : Failure → Unreadable
  | .definitionMissing _ | .file ⟨.missing, _⟩ => .missing path
  | failure => .failed failure

/-- A definition has to have some value. -/
def present (path : String) : Value → Except Unreadable Value
  | .null => .error (.empty path)
  | data => .ok data

/-- The value of a definition file, or why it has none. -/
def read (t : FileTree) (path : String) : Logged (Except Unreadable Value) := do
  match ← Logged.attempt (load t path) with
  | .ok data => return present path data
  | .error failure => return .error (blame path failure)

/-- The environments that a definition declares, or the default ones. -/
def declaredEnvironments (data : Value) : Except Failure Value :=
  data.givenOr "environments" (.list (Config.defaultEnvironments.map .text))

/-- The violation of an item of the stages that deploys to no declared environment. -/
def environmentViolation (environments : Value) (position : Nat) (stage : Value) :
    Except Failure (List String) := do
  if !(← stage.fieldOr "type" .null).same (.text "deploy") then return []
  let environment ← stage.fieldOr "environment" .null
  if ← environment.member environments then return []
  let given ← environment.display
  let known ← Value.names (← environments.items)
  return [Schema.Violation.line ["stages", toString position, "environment"]
    (Refusal.unknownEnvironment given known).text]

/-- The violations of the deploy stages in the order of the stages. -/
def environmentViolations (data : Value) : Except Failure (List String) := do
  let environments ← declaredEnvironments data
  let stages ← (← data.givenOr "stages" (.list [])).items
  return (← stages.zipIdx.mapM fun (stage, k) => environmentViolation environments k stage).flatten

/-- What is wrong with a definition, and its value. -/
structure Report where
  problems : List String
  data : Value
  deriving Repr

/-- Whether nothing is wrong. -/
def Report.isClean (r : Report) : Bool := r.problems.isEmpty

/-- Everything that is wrong with the value of a definition: the violations of the grammar, or else
those of the environments. -/
def problems (data : Value) : Except Failure (List String) := do
  match ← Schema.report Grammar.schema data with
  | [] => environmentViolations data
  | found => return found

/-- Checks a definition file. -/
def check (t : FileTree) (path : String) : Logged Report := do
  match ← read t path with
  | .error reason => return ⟨[reason.text], .map []⟩
  | .ok data => return ⟨← problems data, data⟩

/-- The configuration and the items of the stages of a definition file, which has to pass the
check. -/
def loadParts (t : FileTree) (path : String) : Logged (Config × List Value) := do
  let logger ← Log.component "definition"
  let report ← check t path
  if report.isClean then
    let (config, stages) ← parts report.data
    Log.emit .debug logger ("Loaded definition for " ++ config.name ++ " with "
      ++ toString stages.length ++ " stages from " ++ path)
    return (config, stages)
  else throw (.refused (.invalidDefinition path report.problems))

end Conveyor.Definition
