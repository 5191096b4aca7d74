/-!
# Paths

A path is a row of names, read from the working directory or from the top of the file system.  Its
normal form has neither empty names nor single dots; double dots stay, since what they lead to
depends on the file system.
-/

set_option autoImplicit false

namespace Conveyor

/-- Where a path starts: in the working directory, or at the top of the file system.  Exactly two
slashes name the top as well, and are kept apart from one. -/
inductive Path.Root where
  | here
  | top
  | twoSlashes
  deriving DecidableEq, Repr, Inhabited

/-- A path in normal form. -/
structure Path where
  root : Path.Root
  parts : List String
  deriving DecidableEq, Repr, Inhabited

namespace Path

/-- The start of a path as it is written. -/
def Root.text : Root → String
  | .here => ""
  | .top => "/"
  | .twoSlashes => "//"

/-- The start of the path that a text names. -/
def Root.ofText (s : String) : Root :=
  match (s.toList.takeWhile (· = '/')).length with
  | 0 => .here
  | 2 => .twoSlashes
  | _ => .top

/-- The names between the slashes of a text. -/
def split (s : String) : List String := (s.toList.splitOn '/').map String.ofList

/-- Whether a name leads on from where it stands. -/
def isProper (name : String) : Bool := name ≠ "" && name ≠ "."

/-- The path that a text names. -/
def ofText (s : String) : Path :=
  ⟨.ofText s, (split s).filter isProper⟩

/-- The text of a path; the working directory is a single dot. -/
def text (p : Path) : String :=
  if p.root = .here && p.parts.isEmpty then "." else p.root.text ++ "/".intercalate p.parts

/-- The path that a second path leads to from a first one. -/
def join (p q : Path) : Path := if q.root ≠ .here then q else { p with parts := p.parts ++ q.parts }

/-- The path without its last name; a path without names is its own parent. -/
def parent (p : Path) : Path := { p with parts := p.parts.dropLast }

/-- The last name of a path. -/
def name (p : Path) : String := p.parts.getLast?.getD ""

/-- The names that a text leads along, as the file system takes it: a slash at the end asks for a
directory. -/
def steps (s : String) : List String :=
  let names := split s
  let isLast := names.getLast? = some ""
  names.filter isProper ++ (if isLast && s ≠ "" then ["."] else [])

end Path

end Conveyor
