/-!
# Tags

The tag of a node says what kind of value its content denotes.  The tags of YAML's own repertory
are constructors; every other tag is kept by its name and denotes nothing here.  One tag of the
repertory is left out: the items of a set have no order that is the same in every run, so a set has
no text of its own, and the tag for sets denotes nothing like any unknown tag.
-/

set_option autoImplicit false

namespace Conveyor.Yaml

/-- A tag. -/
inductive Tag where
  | null
  | bool
  | int
  | float
  | timestamp
  | binary
  | str
  | seq
  | map
  | omap
  | pairs
  | merge
  | value
  | other (name : String)
  deriving DecidableEq, Repr, Inhabited

namespace Tag

/-- What the full names of YAML's own tags start with. -/
def repertory : String := "tag:yaml.org,2002:"

/-- The tags of YAML's repertory, but for the one for sets, and their short names. -/
def names : List (String × Tag) :=
  [("null", null), ("bool", bool), ("int", int), ("float", float), ("timestamp", timestamp),
   ("binary", binary), ("str", str), ("seq", seq), ("map", map), ("omap", omap),
   ("pairs", pairs), ("merge", merge), ("value", value)]

/-- The tag with a full name. -/
def ofName (full : String) : Tag :=
  match names.find? fun entry => repertory ++ entry.1 = full with
  | some entry => entry.2
  | none => other full

/-- The short form of a tag, as it stands before a node. -/
def short : Tag → String
  | other name => "!<" ++ name ++ ">"
  | t => "!!" ++ ((names.find? fun entry => entry.2 = t).map (·.1)).getD ""

end Tag

end Conveyor.Yaml
