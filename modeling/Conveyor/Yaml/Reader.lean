import Conveyor.Value.Access
import Conveyor.Yaml.Content
import Conveyor.Yaml.Node

/-!
# Reading a value from YAML

A node denotes a value: a scalar by its tag, a sequence a list, a mapping a mapping.  A mapping may
take over the entries of other mappings under the key `<<`; its own entries win over those, and of
several mappings the first one wins.

Of several faults in a document the one nearest to the root is reported, and the first of those in
the order of the text.
-/

set_option autoImplicit false

namespace Conveyor.Yaml

/-- A fault and the depth of the collection that it was met in. -/
structure Finding where
  depth : Nat
  fault : Fault
  deriving DecidableEq, Repr

namespace Finding

/-- Of two findings, the one nearer to the root, or else the first one. -/
def first (a b : Finding) : Finding := if b.depth < a.depth then b else a

end Finding

/-- A result, or the finding to be reported. -/
abbrev Findings (α : Type) := Except Finding α

/-- Joins two results that are both looked at. -/
def Findings.both {α β γ : Type} (f : α → β → γ) : Findings α → Findings β → Findings γ
  | .ok a, .ok b => .ok (f a b)
  | .error e, .ok _ => .error e
  | .ok _, .error e => .error e
  | .error e, .error e' => .error (e.first e')

/-- A fault at a depth. -/
def Findings.fault {α : Type} (depth : Nat) (f : Fault) : Findings α := .error ⟨depth, f⟩

namespace Node

/-! ## Merging

A merge key stands for the entries of a mapping, or of each mapping in a sequence.  Whether every
merge key of a mapping has such a value is settled before anything else in the mapping.
-/

mutual

/-- Whether every merge key in a row of entries has entries to take over. -/
def mergesWell : List (Node × Node) → Bool
  | [] => true
  | (k, v) :: rest => (k.tag ≠ .merge || isMergeable v) && mergesWell rest

/-- Whether a node has entries that a mapping can take over. -/
def isMergeable : Node → Bool
  | mapping _ _ es => mergesWell es
  | sequence _ _ xs => areMappings xs
  | scalar .. => false

/-- Whether all nodes are mappings that merge well. -/
def areMappings : List Node → Bool
  | [] => true
  | x :: xs => (match x with
      | mapping _ _ es => mergesWell es
      | _ => false) && areMappings xs

end

mutual

/-- The text of a node under a tag for scalars.  A mapping has the text of what stands under its `=`
key. -/
def scalarText : Node → Except Fault (List Char)
  | scalar _ _ s => .ok s
  | sequence .. => .error .form
  | mapping _ _ es => entryText es

/-- The text of what stands under the first `=` key of some entries. -/
def entryText : List (Node × Node) → Except Fault (List Char)
  | [] => .error .form
  | (k, v) :: rest => if k.tag = .value then scalarText v else entryText rest

end

/-- Whether a node is a scalar. -/
def isScalar : Node → Bool
  | scalar .. => true
  | _ => false

/-- A content as a value. -/
def ofContent {α : Type} (f : α → Value) : Except Mismatch α → Except Fault Value
  | .ok a => .ok (f a)
  | .error m => .error (.content m)

/-- The value of a node under one of the tags for scalars. -/
def scalarValue (t : Tag) (node : Node) : Except Fault Value := do
  let s ← node.scalarText
  match t with
  | .null => return .null
  | .bool => ofContent .bool (Content.bool s)
  | .int => ofContent .int (Content.int s)
  | .float => ofContent .float (Content.float node.number s)
  | .timestamp =>
    if node.isScalar then ofContent id (Content.timestamp s)
    else throw (.content ⟨.kind, "expected string or bytes-like object, got 'list'"⟩)
  | .binary =>
    match if s.all (·.toNat < 0x80) then Base64.decode? s else none with
    | some octets => return .bytes octets
    | none => throw .form
  | .str => return .text (String.ofList s)
  | _ => throw .form

/-- What a tag makes of a node. -/
inductive Shape where
  | scalar
  | sequence
  | mapping
  | pairs
  | nothing
  deriving DecidableEq, Repr

/-- The shape of the values under a tag. -/
def shapeOf : Tag → Shape
  | .null | .bool | .int | .float | .timestamp | .binary | .str => .scalar
  | .seq => .sequence
  | .map => .mapping
  | .omap | .pairs => .pairs
  | .merge | .value | .other _ => .nothing

/-- `scalarValue` as a result at a depth. -/
def scalarFinding (depth : Nat) (t : Tag) (node : Node) : Findings Value :=
  match scalarValue t node with
  | .ok v => .ok v
  | .error f => Findings.fault depth f

/-- Joins the results for a key, its value and the entries that follow.  A collection is no key,
whatever is wrong inside it. -/
def joinEntries (depth : Nat) (key value : Findings Value)
    (rest : Findings (List (Value × Value))) : Findings (List (Value × Value)) :=
  match key with
  | .error e => if depth < e.depth then Findings.fault depth .form else .error e
  | .ok k =>
    if k.isKey then Findings.both (fun v es => (k, v) :: es) value rest
    else Findings.fault depth .form

mutual

/-- The value of a node that stands in a collection of a depth. -/
def value (depth : Nat) : Node → Findings Value
  | scalar n t s =>
    match shapeOf t with
    | .scalar => scalarFinding depth t (scalar n t s)
    | .nothing => Findings.fault depth .form
    | .sequence | .pairs | .mapping => Findings.fault (depth + 1) .form
  | sequence _ t xs =>
    match shapeOf t with
    | .sequence => Value.list <$> itemValues (depth + 1) xs
    | .pairs => Value.list <$> pairValues (depth + 1) xs
    | .mapping => Findings.fault (depth + 1) .form
    | .scalar | .nothing => Findings.fault depth .form
  | mapping n t es =>
    match shapeOf t with
    | .mapping =>
      if mergesWell es then
        Findings.both (fun taken own => Value.map (Value.ofRows (taken ++ own)))
          (takenRows (depth + 1) es) (ownRows (depth + 1) es)
      else Findings.fault (depth + 1) .form
    | .sequence | .pairs => Findings.fault (depth + 1) .form
    | .scalar => scalarFinding depth t (mapping n t es)
    | .nothing => Findings.fault depth .form

/-- The values of the items of a sequence. -/
def itemValues (depth : Nat) : List Node → Findings (List Value)
  | [] => .ok []
  | x :: xs => Findings.both (· :: ·) (value depth x) (itemValues depth xs)

/-- The values of the entries that a mapping has of its own. -/
def ownRows (depth : Nat) : List (Node × Node) → Findings (List (Value × Value))
  | [] => .ok []
  | (k, v) :: rest =>
    if k.tag = .merge then ownRows depth rest
    else
      let key := match k with
        | scalar _ .value s => .ok (.text (String.ofList s))
        | node => value depth node
      joinEntries depth key (value depth v) (ownRows depth rest)

/-- The values of the entries that a mapping takes over. -/
def takenRows (depth : Nat) : List (Node × Node) → Findings (List (Value × Value))
  | [] => .ok []
  | (k, v) :: rest =>
    if k.tag = .merge then Findings.both (· ++ ·) (mergedRows depth v) (takenRows depth rest)
    else takenRows depth rest

/-- The values of the entries that the value of a merge key stands for. -/
def mergedRows (depth : Nat) : Node → Findings (List (Value × Value))
  | mapping _ _ es => Findings.both (· ++ ·) (takenRows depth es) (ownRows depth es)
  | sequence _ _ xs => mergedItems depth xs
  | scalar .. => .ok []

/-- The values of the entries of a row of mappings; those of an earlier mapping come later, so that
they win. -/
def mergedItems (depth : Nat) : List Node → Findings (List (Value × Value))
  | [] => .ok []
  | x :: xs => Findings.both (· ++ ·) (mergedItems depth xs) (mergedRows depth x)

/-- The values of the items of a sequence of pairs, each a mapping with one entry. -/
def pairValues (depth : Nat) : List Node → Findings (List Value)
  | [] => .ok []
  | mapping _ _ [(k, v)] :: xs =>
    Findings.both (· :: ·)
      (Findings.both (fun k v => .tuple [k, v]) (value depth k) (value depth v))
      (pairValues depth xs)
  | _ :: _ => Findings.fault depth .form

end

end Node

/-- The value that a YAML text holds; a text without a document holds nothing. -/
def read (text : String) : Except Fault Value := do
  match ← Node.ofText text.toList with
  | none => return .null
  | some root =>
    match root.value 0 with
    | .ok v => return v
    | .error finding => throw finding.fault

end Conveyor.Yaml
