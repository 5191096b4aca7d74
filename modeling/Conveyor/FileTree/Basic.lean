import Conveyor.Failure
import Conveyor.FileTree.Path

/-!
# The file tree

The part of the file system that a run can see: regular files with their text, and directories.
Every place is known relative to the working directory, as so many levels above it and a row of
names from there on, or else from the top of the file system.  The directories on the way up from
the working directory exist.
-/

set_option autoImplicit false

namespace Conveyor

/-- Where a row of names starts. -/
inductive Anchor where
  | above (levels : Nat)
  | top
  deriving DecidableEq, Repr, Inhabited

/-- A place in the file system. -/
structure Place where
  anchor : Anchor
  names : List String
  deriving DecidableEq, Repr, Inhabited

/-- What can be found at a place. -/
inductive Node where
  | file (content : String)
  | directory
  deriving DecidableEq, Repr, Inhabited

/-- The files and directories that a run can see. -/
structure FileTree where
  nodes : List (Place × Node) := []
  deriving DecidableEq, Repr, Inhabited

namespace FileTree

/-- The greatest number of octets of a name. -/
def longestName : Nat := 255

/-- The number of octets from which on a whole path is too long. -/
def tooLongPath : Nat := 4096

/-- What is found at a place. -/
def at? (t : FileTree) (p : Place) : Option Node :=
  if p.names.isEmpty then some .directory else t.nodes.lookup p

/-- The tree with something put at a place. -/
def put (t : FileTree) (p : Place) (n : Node) : FileTree :=
  ⟨t.nodes.filter (·.1 ≠ p) ++ [(p, n)]⟩

/-- The place one level up. -/
def Place.up (p : Place) : Place :=
  if p.names.isEmpty then
    match p.anchor with
    | .above levels => ⟨.above (levels + 1), []⟩
    | .top => p
  else { p with names := p.names.dropLast }

/-- A path that leads to a place. -/
def Place.text (p : Place) : String :=
  let names := "/".intercalate p.names
  match p.anchor with
  | .above levels => String.join (List.replicate levels "../") ++ names
  | .top => "/" ++ names

/-- What a tree has that an earlier one had not, in the order in which it was put there. -/
def since (t before : FileTree) : List (Place × Node) :=
  t.nodes.filter fun (place, node) => decide (before.at? place ≠ some node)

/-- Takes one step from a place, which has to be a directory. -/
def walkStep (t : FileTree) (p : Place) (name : String) : Except FileError.Cause Place :=
  match t.at? p with
  | none => .error .missing
  | some (.file _) => .error .notDirectory
  | some .directory =>
    if name = "." then .ok p
    else if name = ".." then .ok (Place.up p)
    else if longestName < name.utf8ByteSize then .error .nameTooLong
    else .ok { p with names := p.names ++ [name] }

/-- The place that names lead to.  All but the last have to lead to directories. -/
def walk (t : FileTree) (start : Place) (names : List String) : Except FileError.Cause Place :=
  names.foldlM t.walkStep start

/-- Where a path starts. -/
def start (fromTop : Bool) : Place := ⟨if fromTop then .top else .above 0, []⟩

/-- The place that a text leads to. -/
def resolve (t : FileTree) (path : String) : Except FileError.Cause Place :=
  if path.toList.contains '\x00' then .error .nullCharacter
  else if path.isEmpty then .error .missing
  else if tooLongPath ≤ path.utf8ByteSize then .error .nameTooLong
  else t.walk (start (path.toList.head? = some '/')) (Path.steps path)

/-- What a path leads to. -/
def stat (t : FileTree) (path : String) : Except FileError.Cause Node := do
  match t.at? (← t.resolve path) with
  | some n => return n
  | none => throw .missing

/-- Whether a path leads to a directory. -/
def isDirectory (t : FileTree) (path : String) : Bool :=
  match t.stat path with
  | .ok .directory => true
  | _ => false

/-- Whether a path leads anywhere. -/
def exists? (t : FileTree) (path : String) : Bool :=
  match t.stat path with
  | .ok _ => true
  | .error _ => false

/-- Carriage returns, alone or before a line feed, as line feeds. -/
def normalLines : List Char → List Char
  | '\r' :: '\n' :: rest => '\n' :: normalLines rest
  | '\r' :: rest => '\n' :: normalLines rest
  | c :: rest => c :: normalLines rest
  | [] => []

/-- The text of a file, with every line ended by a line feed. -/
def readText (t : FileTree) (path : String) : Except FileError String :=
  match t.stat path with
  | .ok (.file content) => .ok (String.ofList (normalLines content.toList))
  | .ok .directory => .error ⟨.isDirectory, path⟩
  | .error cause => .error ⟨cause, path⟩

/-- Makes a directory in a directory that exists. -/
def makeDirectory (t : FileTree) (path : String) : Except FileError FileTree :=
  match t.resolve path with
  | .error cause => .error ⟨cause, path⟩
  | .ok place =>
    match t.at? place with
    | some _ => .error ⟨.present, path⟩
    | none => .ok (t.put place .directory)

/-- Writes a file in a directory that exists, in place of any file that is there.  A file that can be
opened is always written whole: a device that is full, or a limit on the size of files, is left
out. -/
def writeText (t : FileTree) (path content : String) : Except FileError FileTree :=
  match t.resolve path with
  | .error cause => .error ⟨cause, path⟩
  | .ok place =>
    match t.at? place with
    | some .directory => .error ⟨.isDirectory, path⟩
    | _ => .ok (t.put place (.file content))

/-- A tree and, if the work on it stopped early, why it did. -/
structure Outcome where
  tree : FileTree
  stopped : Option FileError := none
  deriving DecidableEq, Repr

/-- Accepts a failure to make a directory if the directory is there. -/
def settle (t : FileTree) (path : String) : Except FileError FileTree → Outcome
  | .ok made => ⟨made, none⟩
  | .error e => if t.isDirectory path then ⟨t, none⟩ else ⟨t, some e⟩

/-- Makes the directory of a row of names, given in reverse, and all that are missing above it. -/
def makeAll (t : FileTree) (root : Path.Root) : List String → Outcome
  | [] => settle t (Path.text ⟨root, []⟩) (t.makeDirectory (Path.text ⟨root, []⟩))
  | name :: above =>
    let path := Path.text ⟨root, (name :: above).reverse⟩
    match t.makeDirectory path with
    | .error ⟨.missing, _⟩ =>
      let outer := t.makeAll root above
      match outer.stopped with
      | some _ => outer
      | none =>
        match outer.tree.makeDirectory path with
        | .error ⟨.missing, p⟩ => ⟨outer.tree, some ⟨.missing, p⟩⟩
        | made => settle outer.tree path made
    | made => settle t path made

/-- Makes a directory with all directories above it; one that is there already is kept. -/
def makeDirectories (t : FileTree) (p : Path) : Outcome := t.makeAll p.root p.parts.reverse

/-- The regular files below the working directory with their paths, in the order of the paths. -/
def files (t : FileTree) : List (String × String) :=
  (t.nodes.filterMap fun
    | (⟨.above 0, names⟩, .file content) => some ("/".intercalate names, content)
    | _ => none).mergeSort fun a b => !decide (b.1 < a.1)

end FileTree

end Conveyor
