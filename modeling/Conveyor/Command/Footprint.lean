import Conveyor.Command.Run

/-!
# What a command depends on

A run is computed from a file tree and an environment.  Of the real ones a command needs only a
part: the definition that it reads with the variables that the definition refers to, and whatever
stands already where it is going to write.
-/

set_option autoImplicit false

namespace Conveyor

namespace Command

/-- The path of the definition that a command reads. -/
def definition? : Command → Option String
  | .init _ => none
  | .validate definition _ | .render _ definition | .generate definition _ _ _ => some definition

/-- The paths that a command looks at first. -/
def sources : Command → List String
  | .init settings => [settings.output]
  | .validate definition _ | .render _ definition => [definition]
  | .generate definition directory _ _ => [definition, directory]

/-- The names of the variables that a command depends on. -/
def variableNames (t : FileTree) (command : Command) : List String :=
  let names := do
    let definition ← command.definition?
    let text ← (t.readText definition).toOption
    return (← (Yaml.read text).toOption).activeNames
  Log.levelVariable :: names.getD []

/-- The artifacts of a definition, as far as it can be loaded and rendered. -/
def artifacts (env : Environment) (t : FileTree) (definition : String) (strict : Bool) : Bundle :=
  let work : Logged Bundle := do (← Session.ofFile t definition strict).renderAll
  ((work.perform env).1.toOption).getD []

/-- The paths that a command writes files to. -/
def targets (env : Environment) (t : FileTree) : Command → List String
  | .generate definition directory _ lenient =>
    (artifacts env t definition (!lenient)).map fun f =>
      ((Path.ofText directory).join (Path.ofText f.1)).text
  | _ => []

end Command

end Conveyor
