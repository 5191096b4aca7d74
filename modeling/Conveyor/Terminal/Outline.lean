import Conveyor.Terminal.Lines

/-!
# Outlines of directories

Files below a directory are shown as an outline: one line for each directory and each file, with
guides that lead from a directory to what is in it.  A directory is shown once, where the first of
its files is met; files keep the order in which they come.
-/

set_option autoImplicit false

namespace Conveyor.Terminal

/-- A file, or a directory with what is in it. -/
inductive Outline where
  | file (name : String)
  | directory (name : String) (entries : List Outline)
  deriving Repr, Inhabited

namespace Outline

/-- The label of an entry. -/
def label : Outline → String
  | file name => "📄 " ++ name
  | directory name _ => "📁 " ++ name

/-- Changes what is in the first directory of a name, which is made if there is none. -/
def within (name : String) (change : List Outline → List Outline) : List Outline → List Outline
  | [] => [directory name (change [])]
  | directory n entries :: rest =>
    if n = name then directory n (change entries) :: rest
    else directory n entries :: within name change rest
  | entry :: rest => entry :: within name change rest

/-- Adds a file by the names that lead to it. -/
def insert : List String → List Outline → List Outline
  | [], entries => entries
  | [name], entries => entries ++ [file name]
  | name :: rest, entries => within name (insert rest) entries

/-- The outline of the files that some rows of names lead to. -/
def ofPaths (root : String) (paths : List (List String)) : Outline :=
  directory root (paths.foldl (fun entries path => insert path entries) [])

/-- The guide in front of an entry. -/
def branchGuide (isLast : Bool) : String := if isLast then "└── " else "├── "

/-- The guide in front of everything else that belongs to an entry. -/
def stemGuide (isLast : Bool) : String := if isLast then "    " else "│   "

/-- Lines with one guide in front of the first and another one in front of the others. -/
def guided (first others : String) : List String → List String
  | [] => []
  | line :: rest => (first ++ line) :: rest.map (others ++ ·)

/-- The lines of a label behind some guides. -/
def labelLines (columns : Nat) (first others label : String) : Except Failure (List String) := do
  return guided first others (← Terminal.lines (columns - first.length) label)

mutual

/-- The lines of an entry and of all that is in it, behind the guides of the directories above. -/
def linesAt (columns : Nat) (guides : String) (isLast : Bool) : Outline →
    Except Failure (List String)
  | file name =>
    labelLines columns (guides ++ branchGuide isLast) (guides ++ stemGuide isLast)
      (file name).label
  | directory name entries => do
    let head ← labelLines columns (guides ++ branchGuide isLast) (guides ++ stemGuide isLast)
      (directory name []).label
    return head ++ (← entryLines columns (guides ++ stemGuide isLast) entries)

/-- The lines of a row of entries. -/
def entryLines (columns : Nat) (guides : String) : List Outline → Except Failure (List String)
  | [] => return []
  | entry :: rest => do
    let head ← linesAt columns guides rest.isEmpty entry
    return head ++ (← entryLines columns guides rest)

end

/-- The lines of an outline. -/
def lines (columns : Nat) (o : Outline) : Except Failure (List String) := do
  let head ← Terminal.lines columns o.label
  match o with
  | file _ => return head
  | directory _ entries => return head ++ (← entryLines columns "" entries)

end Outline

end Conveyor.Terminal
