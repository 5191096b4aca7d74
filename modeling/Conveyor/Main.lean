import Conveyor.Command.Footprint
import Std.Time.Format

/-!
# The program

The outer layer of the program: it looks up the files and variables that the command line needs,
computes the run, writes what the run has written and shows what it has shown.
-/

set_option autoImplicit false

namespace Conveyor.Main

/-- The number of columns of a terminal that does not tell. -/
def defaultColumns : Nat := 80

/-- The number of columns to lay text out in. -/
def columns : IO Nat := do
  return (((← IO.getEnv "COLUMNS").getD "").toNat?).getD defaultColumns

/-- The current time as log lines begin with it. -/
def time : IO String := do
  return (← Std.Time.PlainDateTime.now).format "uuuu-MM-dd HH:mm:ss,SSS"

/-- What is held of a file that cannot be read as a text.  No document has this character, so such a
file is malformed. -/
def unreadable : String := "\x00"

/-- What really stands at a path. -/
def nodeAt (path : String) : IO (Option Node) := do
  let found := (IO.FS.DirEntry.mk "." path).path
  if ← found.isDir then return some .directory
  else if ← found.pathExists then
    try return some (.file (← IO.FS.readFile path))
    catch _ => return some (.file unreadable)
  else return none

/-- The paths that lead to a path, one name longer each. -/
def ancestry (path : String) : List String :=
  let p := Path.ofText path
  (List.range p.parts.length).map fun k => Path.text { p with parts := p.parts.take (k + 1) }

/-- The tree together with what really stands at a path and on the way there. -/
def learn (t : FileTree) (path : String) : IO FileTree := do
  let mut t := t
  for part in ancestry path do
    match t.resolve part with
    | .error _ => return t
    | .ok place =>
      if (t.at? place).isNone then
        match ← nodeAt part with
        | some node => t := t.put place node
        | none => return t
  return t

/-- The tree together with what really stands at some paths. -/
def learnAll (t : FileTree) (paths : List String) : IO FileTree := paths.foldlM learn t

/-- The variables of some names that are set. -/
def environment (names : List String) : IO Environment := do
  let found ← names.filterMapM fun name => do return (← IO.getEnv name).map (name, ·)
  return ⟨found⟩

/-- The part of the real environment and the real file tree that a request depends on. -/
def surroundings (request : Request) : IO (Environment × FileTree) := do
  match request with
  | .run _ command =>
    let t ← learnAll {} command.sources
    let env ← environment (command.variableNames t)
    return (env, ← learnAll t (command.targets env t))
  | _ => return ({}, {})

/-- Writes what was put at a place. -/
def store (place : Place) : Node → IO Unit
  | .directory => IO.FS.createDirAll (FileTree.Place.text place)
  | .file content => IO.FS.writeFile (FileTree.Place.text place) content

end Conveyor.Main

open Conveyor in
def main (words : List String) : IO UInt32 := do
  let (env, before) ← match CommandLine.read words with
    | .ok request => Main.surroundings request
    | .error _ => pure ({}, {})
  let outcome := CommandLine.runReporting (← Main.columns) env before words
  for (place, node) in outcome.tree.since before do
    Main.store place node
  let now ← Main.time
  (← IO.getStdout).putStr (outcome.journal.textOf now .out)
  (← IO.getStderr).putStr (outcome.journal.textOf now .err)
  if let some failure := outcome.unhandled then
    (← IO.getStderr).putStr (failure.text ++ "\n")
  return outcome.exit.code.toUInt32
