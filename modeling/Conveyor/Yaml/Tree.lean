import Conveyor.Yaml.Scalar

/-!
# Trees to be written

What is written of a value: scalars with their texts, sequences and mappings in their order.  A part
that is met again has an anchor where it is met first, and an alias stands wherever else it is met.
-/

set_option autoImplicit false

namespace Conveyor.Yaml

/-- A tree to be written. -/
inductive Tree where
  | scalar (anchor : Option (List Char)) (content : Scalar)
  | sequence (anchor : Option (List Char)) (items : List Tree)
  | mapping (anchor : Option (List Char)) (entries : List (Tree × Tree))
  | alias (name : List Char)
  deriving Repr, Inhabited

namespace Tree

/-- The depth up to which the collections of a value are nested for it to be written.  It stands for
the interpreter's limit of 1000 frames, of which each level takes three, counted from an empty
stack. -/
def deepest : Nat := 329

mutual

/-- The tree of a value, with room for a number of levels; nothing is met again in it. -/
def ofValue (room : Nat) : Value → Except Failure Tree
  | .list xs | .tuple xs => goInside room fun left => Tree.sequence none <$> ofItems left xs
  | .map es => goInside room fun left => Tree.mapping none <$> ofEntries left es
  | .null => Tree.scalar none <$> Scalar.ofValue .null
  | .bool b => Tree.scalar none <$> Scalar.ofValue (.bool b)
  | .int n => Tree.scalar none <$> Scalar.ofValue (.int n)
  | .float x => Tree.scalar none <$> Scalar.ofValue (.float x)
  | .text s => Tree.scalar none <$> Scalar.ofValue (.text s)
  | .bytes octets => Tree.scalar none <$> Scalar.ofValue (.bytes octets)
  | .date d => Tree.scalar none <$> Scalar.ofValue (.date d)
  | .moment m => Tree.scalar none <$> Scalar.ofValue (.moment m)

/-- The trees of a row of values. -/
def ofItems (room : Nat) : List Value → Except Failure (List Tree)
  | [] => .ok []
  | x :: xs => do return (← ofValue room x) :: (← ofItems room xs)

/-- The trees of a mapping's entries. -/
def ofEntries (room : Nat) : List (Value × Value) → Except Failure (List (Tree × Tree))
  | [] => .ok []
  | (k, v) :: es => do return (← ofValue room k, ← ofValue room v) :: (← ofEntries room es)

end

/-- The anchor of a tree. -/
def anchor? : Tree → Option (List Char)
  | scalar a _ | sequence a _ | mapping a _ => a
  | .alias _ => none

/-- A tree with an anchor. -/
def anchored (name : List Char) : Tree → Tree
  | scalar _ s => scalar (some name) s
  | sequence _ items => sequence (some name) items
  | mapping _ entries => mapping (some name) entries
  | .alias a => .alias a

end Tree

end Conveyor.Yaml
