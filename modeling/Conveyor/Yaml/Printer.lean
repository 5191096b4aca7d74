import Conveyor.Yaml.Tree

/-!
# Writing a value as YAML

Lists and mappings are written in block style, one item or entry to a line, in their own order.
A list below a key starts on a new line at the indentation of the key; every other collection
starts on the line of its indicator or, below a key, on a new line two columns further in.  A key
that is empty, has several lines or is long stands after a question mark.

An anchor stands before what it names, and a collection with an anchor starts on a new line.
-/

set_option autoImplicit false

namespace Conveyor.Yaml

/-- Blanks up to an indentation. -/
def pad (indent : Nat) : List Char := List.replicate indent ' '

/-- The columns by which an inner block is indented. -/
def step : Nat := 2

/-- The size from which on a key, with its anchor and its tag, stands after a question mark. -/
def longKey : Nat := 128

/-- An anchor as it stands before what it names. -/
def anchorMark : Option (List Char) → List Char
  | none => []
  | some name => '&' :: name

/-- An anchor with the blank before what it names. -/
def anchorLead (anchor : Option (List Char)) : List Char :=
  if anchor.isNone then [] else anchorMark anchor ++ [' ']

/-- The text of a key that may stand right before its colon, at a column; `none` for any other
key. -/
def simpleKey? (indent : Nat) : Tree → Option (List Char)
  | .sequence anchor [] => some (anchorLead anchor ++ ['[', ']'])
  | .mapping anchor [] => some (anchorLead anchor ++ ['\x7b', '\x7d'])
  | .sequence .. | .mapping .. => none
  | .alias name => some ('*' :: name)
  | .scalar anchor s =>
    let size := (anchor.getD []).length + s.tag.short.length + s.text.length
    let lead := anchorLead anchor
    if size < longKey ∧ !s.text.isEmpty ∧ !Scalar.isMultiline s.text then
      some (lead ++ s.write true (indent + step) (indent + lead.length))
    else none

/-- A scalar with the line end that follows it. -/
def scalarLine (indent column : Nat) (anchor : Option (List Char)) (s : Scalar) : List Char :=
  let lead := anchorLead anchor
  lead ++ s.write false indent (column + lead.length)
    ++ (if s.style false = .literal then [] else ['\n'])

/-- Where a node stands: behind the hyphen of an item, behind the question mark or the colon of an
entry that takes two lines, or behind a key on the same line. -/
inductive Position where
  | item
  | part
  | below
  deriving DecidableEq, Repr

/-- What stands between an indicator and a block, and the indentation of the block. -/
def blockLead (indent : Nat) (position : Position) (anchor : Option (List Char))
    (isSequence : Bool) : List Char × Nat :=
  let inner := if isSequence && position ≠ .item then indent else indent + step
  match anchor with
  | some name => (' ' :: '&' :: name ++ '\n' :: pad inner, inner)
  | none => if position = .below then ('\n' :: pad inner, inner) else ([' '], indent + step)

mutual

/-- A node after an indicator that ends before a column. -/
def after (indent column : Nat) (position : Position) : Tree → List Char
  | .alias name => ' ' :: '*' :: name ++ ['\n']
  | .scalar anchor s => ' ' :: scalarLine (indent + step) (column + 1) anchor s
  | .sequence anchor [] => ' ' :: anchorLead anchor ++ ['[', ']', '\n']
  | .mapping anchor [] => ' ' :: anchorLead anchor ++ ['\x7b', '\x7d', '\n']
  | .sequence anchor xs =>
    let (lead, inner) := blockLead indent position anchor true
    lead ++ listItems inner true xs
  | .mapping anchor es =>
    let (lead, inner) := blockLead indent position anchor false
    lead ++ mapEntries inner true es

/-- The items of a list, with their hyphens at an indentation; the first one stands there
already. -/
def listItems (indent : Nat) : (first : Bool) → List Tree → List Char
  | _, [] => []
  | first, x :: xs =>
    (if first then [] else pad indent) ++ '-' :: after indent (indent + 1) .item x
      ++ listItems indent false xs

/-- The entries of a mapping, with their keys at an indentation; the first one stands there
already. -/
def mapEntries (indent : Nat) : (first : Bool) → List (Tree × Tree) → List Char
  | _, [] => []
  | first, (k, v) :: es =>
    let entry :=
      match simpleKey? indent k with
      | some key => key ++ ':' :: after indent (indent + key.length + 1) .below v
      | none =>
        '?' :: after indent (indent + 1) .part k
          ++ pad indent ++ ':' :: after indent (indent + 1) .part v
    (if first then [] else pad indent) ++ entry ++ mapEntries indent false es

end

mutual

/-- Whether the last thing written of a tree is a literal block that keeps its last line ends. -/
def endsOpen : Tree → Bool
  | .sequence _ xs => itemsEndOpen xs
  | .mapping _ es => entriesEndOpen es
  | .scalar _ s => s.tag = .str && s.style false = .literal && Scalar.keepsLineEnds s.text
  | .alias _ => false

/-- `endsOpen` for the items of a list. -/
def itemsEndOpen : List Tree → Bool
  | [] => false
  | x :: xs => if xs.isEmpty then endsOpen x else itemsEndOpen xs

/-- `endsOpen` for the entries of a mapping. -/
def entriesEndOpen : List (Tree × Tree) → Bool
  | [] => false
  | (_, v) :: es => if es.isEmpty then endsOpen v else entriesEndOpen es

end

/-- The line that closes a document whose end could otherwise be taken for a part of it. -/
def endMark : List Char := ['.', '.', '.', '\n']

/-- A document that holds one tree. -/
def document (t : Tree) : List Char :=
  match t with
  | .alias name => '*' :: name ++ ['\n']
  | .sequence _ [] => ['[', ']', '\n']
  | .mapping _ [] => ['\x7b', '\x7d', '\n']
  | .sequence _ xs => listItems 0 true xs ++ closing
  | .mapping _ es => mapEntries 0 true es ++ closing
  | .scalar anchor s =>
    scalarLine step 0 anchor s ++ closing ++ (if s.style false = .plain then endMark else [])
where
  /-- What closes a tree that ends open. -/
  closing : List Char := if endsOpen t then endMark else []

/-- The YAML text of a value that is written with room for a number of levels. -/
def printWithin (room : Nat) (v : Value) : Except Failure String := do
  return String.ofList (document (← Tree.ofValue room v))

/-- The YAML text of a value. -/
def print (v : Value) : Except Failure String := printWithin Tree.deepest v

end Conveyor.Yaml
