import Conveyor.Session
import Conveyor.Value.Json

/-!
# Summaries

A valid definition is summed up by the settings of its project and by its stages with the names of
their steps; an invalid one by what is wrong with it.
-/

set_option autoImplicit false

namespace Conveyor.Summary

/-- A text with the end of a line. -/
def line (s : String) : String := s ++ "\n"

/-- The summary of a stage as a JSON object. -/
def stageValue (s : Stage) : Value :=
  .record [
    ("name", s.name),
    ("steps", .list (s.steps.map (·.name))),
    ("runAfter", s.runAfter)]

/-- The summary of a session as a JSON object. -/
def value (s : Session) : Except Failure Value := do
  let c := s.config
  return .record [
    ("valid", .bool true),
    ("project", .text c.name),
    ("repository", c.repoUrl),
    ("branch", c.branch),
    ("namespace", c.namespaceName),
    ("image", .text (← c.imageUri)),
    ("environments", .list (c.environments.map .text)),
    ("stages", .list (s.stages.map stageValue))]

/-- The line for a stage. -/
def stageLine (s : Stage) : Except Failure String := do
  let steps ← Value.names (s.steps.map (·.name))
  return line ("  - " ++ (← s.name.display) ++ ": " ++ commaSeparated steps)

/-- The lines for the stages. -/
def stageLines (stages : List Stage) : Except Failure String := do
  if stages.isEmpty then return line "  (none)"
  return String.join (← stages.mapM stageLine)

/-- The summary of a session as lines of text. -/
def text (s : Session) : Except Failure String := do
  let c := s.config
  return line ("Project: " ++ c.name)
    ++ line ("Repository: " ++ (← (c.repoUrl.orElse (.text "(none)")).display)
      ++ " (" ++ (← c.branch.display) ++ ")")
    ++ line ("Namespace: " ++ (← c.namespaceName.display))
    ++ line ("Image: " ++ (← c.imageUri))
    ++ line ("Environments: " ++ commaSeparated c.environments)
    ++ line "\nStages:"
    ++ (← stageLines s.stages)

/-- The summary of an invalid definition as a JSON object. -/
def refusal (message : String) : Value :=
  .record [("valid", .bool false), ("error", .text message)]

/-- The summary of the files that were written as a JSON object. -/
def written (s : Session) (directory : String) (paths : List String) : Value :=
  .record [
    ("project", .text s.config.name),
    ("outputDir", .text directory),
    ("files", .list (paths.map .text))]

end Conveyor.Summary
