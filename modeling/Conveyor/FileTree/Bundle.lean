import Conveyor.FileTree.Basic
import Conveyor.Log.Journal

/-!
# Bundles of files

A bundle is a row of texts with the paths that they are to have below some directory.  It is
stored one file after another; storing stops at the first file that the file system turns down,
and what was stored up to then stays.
-/

set_option autoImplicit false

namespace Conveyor

/-- Texts and their paths below a directory, in the order in which they are stored. -/
abbrev Bundle := List (String × String)

namespace Bundle

/-- Sets the text for a path; a path that is there already keeps its place. -/
def put (path content : String) : Bundle → Bundle
  | [] => [(path, content)]
  | (p, c) :: rest => if p = path then (p, content) :: rest else (p, c) :: put path content rest

/-- A bundle from rows of paths and texts, where a later row replaces an earlier one. -/
def ofRows (rows : List (String × String)) : Bundle :=
  rows.foldl (fun b row => put row.1 row.2 b) []

/-- Stores one file below a directory. -/
def storeOne (t : FileTree) (path : Path) (content : String) : FileTree.Outcome :=
  let made := t.makeDirectories path.parent
  match made.stopped with
  | some _ => made
  | none =>
    match made.tree.writeText path.text content with
    | .ok written => ⟨written, none⟩
    | .error e => ⟨made.tree, some e⟩

/-- What storing a bundle came to. -/
structure Stored where
  tree : FileTree
  written : List (String × Nat)
  stopped : Option FileError
  deriving DecidableEq, Repr

/-- Stores the files of a bundle below a directory, which exists. -/
def storeFiles (root : Path) (t : FileTree) : Bundle → Stored
  | [] => ⟨t, [], none⟩
  | (relative, content) :: rest =>
    let path := root.join (Path.ofText relative)
    let one := storeOne t path content
    match one.stopped with
    | some e => ⟨one.tree, [], some e⟩
    | none =>
      let more := storeFiles root one.tree rest
      { more with written := (path.text, content.length) :: more.written }

/-- Stores a bundle below a directory, which is made if it is missing. -/
def store (root : Path) (t : FileTree) (b : Bundle) : Stored :=
  let made := t.makeDirectories root
  match made.stopped with
  | some e => ⟨made.tree, [], some e⟩
  | none => storeFiles root made.tree b

/-- Stores a bundle below a directory and logs every file that was written.  The tree that comes
out is the one after all that was written, also where storing stopped early. -/
def write (t : FileTree) (directory : String) (b : Bundle) :
    Logged (FileTree × Except Failure (List String)) := do
  let logger ← Log.component "output_writer"
  let root := Path.ofText directory
  let stored := store root t b
  for (path, size) in stored.written do
    Log.emit .debug logger ("Wrote " ++ path ++ " (" ++ toString size ++ " bytes)")
  match stored.stopped with
  | some e => return (stored.tree, .error (.file e))
  | none =>
    Log.emit .info logger ("Wrote " ++ toString stored.written.length ++ " files to " ++ root.text)
    return (stored.tree, .ok (stored.written.map (·.1)))

end Bundle

end Conveyor
