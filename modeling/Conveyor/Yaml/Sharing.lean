import Conveyor.Yaml.Printer
import Conveyor.Yaml.Reader

/-!
# Nodes that are met again

A document may name a node and use it in several places.  What is read from such a node is one
thing wherever it stands: dates, moments and pairs, and the collections inside pairs.  Other
collections are built anew in every place, and scalars other than dates are not worth a name.

When such a value is written again, what is met a second time gets an anchor and aliases.  Anchors
are numbered in the order of the second meetings.
-/

set_option autoImplicit false

namespace Conveyor.Yaml

/-- What a part of a value was read from: a node by its number, or one of the pairs of a node. -/
structure Identity where
  node : Nat
  pair : Nat
  deriving DecidableEq, Repr

/-- The identities of a value and of its parts, keys and values of a mapping in turn. -/
inductive Origin where
  | of (identity : Option Identity) (parts : List Origin)
  deriving Repr, Inhabited

namespace Origin

/-- The origin of a value that is like any other of its kind. -/
def plain : Origin := .of none []

/-- An entry of a mapping: its key, and the origins of key and value. -/
abbrev Row := Value × Origin × Origin

/-- Adds an entry: a key that is there already keeps its place and its origin. -/
def put (row : Row) : List Row → List Row
  | [] => [row]
  | r :: rest => if r.1.same row.1 then (r.1, r.2.1, row.2.2) :: rest else r :: put row rest

/-- The origins of the parts of a mapping with some rows. -/
def partsOf (rows : List Row) : List Origin :=
  (rows.foldl (fun met row => put row met) []).flatMap fun r => [r.2.1, r.2.2]

/-- An origin with the identity of a node if it counts. -/
def ofNode (counts : Bool) (number : Nat) (parts : List Origin) : Origin :=
  .of (if counts then some ⟨number, 0⟩ else none) parts

end Origin

namespace Node

/-- The key that a node is in a mapping. -/
def keyValue (k : Node) : Value :=
  match k with
  | scalar _ .value s => .text (String.ofList s)
  | node =>
    match node.value 0 with
    | .ok v => v
    | .error _ => .null

mutual

/-- The origin of the value of a node; `inPair` says whether the node stands inside a pair. -/
def origin (inPair : Bool) : Node → Origin
  | scalar n t _ => .ofNode (t = .timestamp) n []
  | sequence n t xs =>
    match shapeOf t with
    | .pairs => .ofNode inPair n (pairOrigins n 1 xs)
    | _ => .ofNode inPair n (itemOrigins inPair xs)
  | mapping n t es =>
    match shapeOf t with
    | .mapping => .ofNode inPair n (Origin.partsOf (takenOrigins inPair es ++ ownOrigins inPair es))
    | _ => .plain

/-- The origins of the items of a sequence. -/
def itemOrigins (inPair : Bool) : List Node → List Origin
  | [] => []
  | x :: xs => origin inPair x :: itemOrigins inPair xs

/-- The origins of the pairs of a sequence, counted from a number on. -/
def pairOrigins (node pair : Nat) : List Node → List Origin
  | mapping _ _ [(k, v)] :: xs =>
    .of (some ⟨node, pair⟩) [origin true k, origin true v] :: pairOrigins node (pair + 1) xs
  | _ => []

/-- The rows of the entries that a mapping has of its own. -/
def ownOrigins (inPair : Bool) : List (Node × Node) → List Origin.Row
  | [] => []
  | (k, v) :: rest =>
    if k.tag = .merge then ownOrigins inPair rest
    else (k.keyValue, origin inPair k, origin inPair v) :: ownOrigins inPair rest

/-- The rows of the entries that a mapping takes over. -/
def takenOrigins (inPair : Bool) : List (Node × Node) → List Origin.Row
  | [] => []
  | (k, v) :: rest =>
    if k.tag = .merge then mergedOrigins inPair v ++ takenOrigins inPair rest
    else takenOrigins inPair rest

/-- The rows of the entries that the value of a merge key stands for. -/
def mergedOrigins (inPair : Bool) : Node → List Origin.Row
  | mapping _ _ es => takenOrigins inPair es ++ ownOrigins inPair es
  | sequence _ _ xs => mergedItemOrigins inPair xs
  | scalar .. => []

/-- The rows of the entries of a row of mappings, those of an earlier mapping last. -/
def mergedItemOrigins (inPair : Bool) : List Node → List Origin.Row
  | [] => []
  | x :: xs => mergedItemOrigins inPair xs ++ mergedOrigins inPair x

end

end Node

/-! ## Anchors -/

/-- The identities that have been met, and those that have been met again in the order of their
second meetings. -/
structure Meetings where
  once : List Identity := []
  again : List Identity := []

mutual

/-- Counts the meetings in a value.  What has been met before is not looked into again. -/
def Origin.survey (m : Meetings) : Origin → Meetings
  | .of none parts => surveyParts m parts
  | .of (some i) parts =>
    if m.once.contains i then
      if m.again.contains i then m else { m with again := m.again ++ [i] }
    else surveyParts { m with once := i :: m.once } parts

/-- Counts the meetings in a row of values. -/
def Origin.surveyParts (m : Meetings) : List Origin → Meetings
  | [] => m
  | o :: os => surveyParts (survey m o) os

end

/-- The name of the anchor with a number. -/
def anchorName (number : Nat) : List Char :=
  let digits := Nat.toDigits 10 number
  "id".toList ++ List.replicate (3 - digits.length) '0' ++ digits

/-- The name of the anchor of what has been met again. -/
def Meetings.name? (m : Meetings) (i : Identity) : Option (List Char) :=
  (m.again.findIdx? (· = i)).map fun k => anchorName (k + 1)

/-- The first origin of a row and the rest. -/
def Origin.uncons : List Origin → Origin × List Origin
  | [] => (.plain, [])
  | o :: os => (o, os)

/-- The parts of an origin. -/
def Origin.parts : Origin → List Origin
  | .of _ parts => parts

namespace Tree

mutual

/-- A tree with anchors and aliases, and the identities that have got their anchors. -/
def shared (m : Meetings) (o : Origin) (done : List Identity) : Tree → Tree × List Identity
  | .alias name => (.alias name, done)
  | .scalar anchor s =>
    match mark o done with
    | .inl name => (.alias name, done)
    | .inr (name, done) => (named name (.scalar anchor s), done)
  | .sequence anchor xs =>
    match mark o done with
    | .inl name => (.alias name, done)
    | .inr (name, done) =>
      let (xs, done) := sharedItems m o.parts done xs
      (named name (.sequence anchor xs), done)
  | .mapping anchor es =>
    match mark o done with
    | .inl name => (.alias name, done)
    | .inr (name, done) =>
      let (es, done) := sharedEntries m o.parts done es
      (named name (.mapping anchor es), done)
where
  /-- The alias for what has its anchor already, or the anchor that it gets now. -/
  mark (o : Origin) (done : List Identity) :
      List Char ⊕ (Option (List Char) × List Identity) :=
    match o with
    | .of (some i) _ =>
      match m.name? i with
      | some name => if done.contains i then .inl name else .inr (some name, i :: done)
      | none => .inr (none, done)
    | .of none _ => .inr (none, done)
  /-- A tree with an anchor if there is one. -/
  named (name : Option (List Char)) (t : Tree) : Tree :=
    match name with
    | some n => t.anchored n
    | none => t

/-- `shared` for the items of a sequence. -/
def sharedItems (m : Meetings) (os : List Origin) (done : List Identity) :
    List Tree → List Tree × List Identity
  | [] => ([], done)
  | x :: xs =>
    let (x, done) := shared m (Origin.uncons os).1 done x
    let (xs, done) := sharedItems m (Origin.uncons os).2 done xs
    (x :: xs, done)

/-- `shared` for the entries of a mapping. -/
def sharedEntries (m : Meetings) (os : List Origin) (done : List Identity) :
    List (Tree × Tree) → List (Tree × Tree) × List Identity
  | [] => ([], done)
  | (k, v) :: es =>
    let (k, done) := shared m (Origin.uncons os).1 done k
    let after := (Origin.uncons os).2
    let (v, done) := shared m (Origin.uncons after).1 done v
    let (es, done) := sharedEntries m (Origin.uncons after).2 done es
    ((k, v) :: es, done)

end

end Tree

/-- The origin of the value that a YAML text holds. -/
def originOf (text : String) : Origin :=
  match Node.ofText text.toList with
  | .ok (some root) => root.origin false
  | _ => .plain

/-- The YAML text of a value with an origin. -/
def printShared (o : Origin) (v : Value) : Except Failure String := do
  let tree ← Tree.ofValue Tree.deepest v
  return String.ofList (document (Tree.shared (o.survey {}) o [] tree).1)

end Conveyor.Yaml
