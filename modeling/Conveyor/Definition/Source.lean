import Conveyor.FileTree.Basic
import Conveyor.Reference
import Conveyor.Yaml.Reader
import Conveyor.Yaml.Sharing

/-!
# Reading a definition file

A definition file is a YAML text; the references to variables in it are replaced once the text has
been read, so that what is put in is never taken for YAML.
-/

set_option autoImplicit false

namespace Conveyor.Definition

/-- The depth up to which the references in lists and mappings are replaced.  It stands for the
interpreter's limit of 1000 frames, of which each level takes two, counted from an empty stack. -/
def deepest : Nat := 490

/-- The value that a YAML text from a path holds, if the references in it can be reached. -/
def parse (path text : String) : Except Failure Value :=
  match Yaml.read text with
  | .ok v => if deepest < v.reach then .error .tooDeep else .ok v
  | .error .form => .error (.malformed path)
  | .error (.content m) => .error (.mismatch m)

/-- The value that a definition file holds, with its references replaced. -/
def load (t : FileTree) (path : String) : Logged Value := do
  if !t.exists? path then throw (.definitionMissing path)
  match t.readText path with
  | .error e => throw (.file e)
  | .ok text => (← parse path text).substitute

/-- The value that a definition file holds, and its YAML text with the references replaced.  What
is one node in the file is one node again. -/
def restated (t : FileTree) (path : String) : Logged (Value × String) := do
  let v ← load t path
  let origin := match t.readText path with
    | .ok text => Yaml.originOf text
    | .error _ => .plain
  return (v, ← Yaml.printShared origin v)

end Conveyor.Definition
