import Conveyor.Yaml.Implicit
import Conveyor.Yaml.Token.Lexer

/-!
# Nodes

The tree of a document: scalars with their texts, sequences and mappings, each with its tag.  The
tree is read off the tokens by recursive descent.  An alias yields the node that its anchor was set
on before; two anchors of one document never have the same name.

An alias may stand inside the node that it names.  A mapping takes over nothing from itself; any
other node that is met again inside itself goes on for ever, and a tower of sequences stands for it
there.
-/

set_option autoImplicit false

namespace Conveyor.Yaml

/-- A node of a document.  Every node has a number of its own; an alias yields the very node that
it stands for. -/
inductive Node where
  | scalar (number : Nat) (tag : Tag) (text : List Char)
  | sequence (number : Nat) (tag : Tag) (items : List Node)
  | mapping (number : Nat) (tag : Tag) (entries : List (Node × Node))
  deriving Repr, Inhabited

namespace Node

/-- The tag of a node. -/
def tag : Node → Tag
  | scalar _ t _ | sequence _ t _ | mapping _ t _ => t

/-- The number of a node. -/
def number : Node → Nat
  | scalar n _ _ | sequence n _ _ | mapping n _ _ => n

/-! ## Nodes inside themselves -/

/-- A row of sequences, each of which stands in the one before it. -/
def tower : (height : Nat) → Node
  | 0 => .sequence 0 .seq []
  | n + 1 => .sequence 0 .seq [tower n]

/-- The height of the tower that stands for what goes on for ever.  It is deeper than lists and
mappings in which references are replaced, and than what is compared, but it can be quoted.  The
marks with which a quotation breaks off where a value contains itself are left out. -/
def endlessHeight : Nat := 600

/-- What a collection with a number is inside itself. -/
def endless (number : Nat) (isMapping : Bool) : Node :=
  if isMapping then .mapping number .map [(.scalar 0 .str [], tower endlessHeight)]
  else .sequence number .seq [tower endlessHeight]

mutual

/-- The entries of a mapping with a number without those that it would take over from itself. -/
def withoutSelf (number : Nat) : List (Node × Node) → List (Node × Node)
  | [] => []
  | (k, v) :: rest =>
    if k.tag = .merge then
      match source? number v with
      | some v => (k, v) :: withoutSelf number rest
      | none => withoutSelf number rest
    else (k, v) :: withoutSelf number rest

/-- What a mapping with a number takes over from a node; none if the node is the mapping. -/
def source? (number : Nat) : Node → Option Node
  | mapping n t es => if n = number then none else some (mapping n t (withoutSelf number es))
  | sequence n t xs => some (sequence n t (sources number xs))
  | scalar n t s => some (scalar n t s)

/-- What a mapping with a number takes over from the nodes of a row. -/
def sources (number : Nat) : List Node → List Node
  | [] => []
  | x :: xs =>
    match source? number x with
    | some x => x :: sources number xs
    | none => sources number xs

end

/-! ## Reading -/

/-- What is left of the tokens, the fault that is met after the last one, the meanings of tag
handles, the anchors set so far, the number of the last node, and the number of collections around
the next one. -/
structure Source where
  rest : List Token
  fault : Option Fault := none
  met : Nat := 0
  depth : Nat := 0
  handles : List (List Char × List Char) := []
  anchors : List (List Char × Node) := []

/-- Reading nodes. -/
abbrev Read := StateT Source (Except Fault)

/-- Fails on the form of the document. -/
def fail {α : Type} : Read α := throw .form

/-- The next token, without reading it; none at the end of the text. -/
def peek : Read (Option Token) := do
  let s ← get
  match s.rest, s.fault with
  | t :: _, _ => return some t
  | [], none => return none
  | [], some fault => throw fault

/-- A number for a new node. -/
def newNumber : Read Nat := do
  let s ← get
  set { s with met := s.met + 1 }
  return s.met + 1

/-- Reads one token. -/
def skip : Read Unit := modify fun s => { s with rest := s.rest.drop 1 }

/-- Reads a token if it is the given one. -/
def accept (t : Token) : Read Bool := do
  if (← peek) = some t then
    skip
    return true
  else return false

/-- Reads a token, which has to be the given one. -/
def expect (t : Token) : Read Unit := do
  unless ← accept t do fail

/-- Whether the next token is one of some. -/
def isNext (ts : List Token) : Read Bool := do return (← peek).any ts.contains

/-- The handles that have a meaning without a directive. -/
def standardHandles : List (List Char × List Char) :=
  [(['!'], ['!']), (['!', '!'], Tag.repertory.toList)]

/-- The anchor and the tag in front of a node. -/
structure Properties where
  anchor : Option (List Char) := none
  tag : Option (List Char) := none

/-- The full name of a tag. -/
def fullTag (handle : Option (List Char)) (suffix : List Char) : Read (List Char) := do
  match handle with
  | none => return suffix
  | some h =>
    let s ← get
    match (s.handles ++ standardHandles).lookup h with
    | some meaning => return meaning ++ suffix
    | none => fail

/-- Reads an anchor, if one comes next. -/
def anchor? : Read (Option (List Char)) := do
  match ← peek with
  | some (.anchor name) =>
    skip
    return some name
  | _ => return none

/-- Reads a tag, if one comes next. -/
def tag? : Read (Option (Option (List Char) × List Char)) := do
  match ← peek with
  | some (.tag handle suffix) =>
    skip
    return some (handle, suffix)
  | _ => return none

/-- Reads an anchor and a tag, in either order. -/
def properties : Read Properties := do
  let before ← anchor?
  let tag ← tag?
  let anchor ← if before.isNone && tag.isSome then anchor? else pure before
  let tag ← tag.mapM fun (handle, suffix) => fullTag handle suffix
  return { anchor, tag }

/-- The tag in front of a node, where it says more than that the node has one. -/
def explicitTag (p : Properties) : Option Tag :=
  match p.tag with
  | none | some ['!'] => none
  | some name => some (Tag.ofName (String.ofList name))

/-- Sets an anchor, which must be new, on what its node is inside itself. -/
def setAnchor (name : List Char) (inside : Node) : Read Unit := do
  let s ← get
  if (s.anchors.lookup name).isSome then fail
  set { s with anchors := (name, inside) :: s.anchors }

/-- Gives an anchor its node. -/
def fillAnchor (p : Properties) (node : Node) : Read Unit := do
  match p.anchor with
  | none => pure ()
  | some name =>
    modify fun s =>
      { s with anchors := s.anchors.map fun a => if a.1 = name then (name, node) else a }

/-- The node of an anchor, or what it is inside itself while it is being read. -/
def ofAlias (name : List Char) : Read Node := do
  match (← get).anchors.lookup name with
  | some node => return node
  | none => fail

/-- A mapping with some entries.  Only a mapping with an anchor can take over from itself. -/
def ofEntries (number : Nat) (p : Properties) (entries : List (Node × Node)) : Node :=
  .mapping number ((explicitTag p).getD .map)
    (if p.anchor.isSome then withoutSelf number entries else entries)

/-- Whether a mapping starts with a token. -/
def startsMapping (next : Option Token) : Bool :=
  next = some .flowMappingStart || next = some .blockMappingStart

/-- A scalar, typed by its form if it is plain or has the tag `!`. -/
def ofScalar (number : Nat) (p : Properties) (text : List Char) (isPlain : Bool) : Node :=
  match explicitTag p with
  | some tag => .scalar number tag text
  | none => .scalar number (if isPlain ∨ p.tag.isSome then implicitTag text else .str) text

/-- A node without any content. -/
def empty : Node := .scalar 0 .null []

/-- The depth up to which collections are nested.  It stands for the interpreter's limit of 1000
frames, of which each level takes two, counted from an empty stack. -/
def deepest : Nat := 490

/-- Reads what stands in a collection; collections must not be nested too deeply. -/
def nested {α : Type} (read : Read α) : Read α := do
  let s ← get
  if deepest ≤ s.depth then throw (.content ⟨.depth, "maximum recursion depth exceeded"⟩)
  set { s with depth := s.depth + 1 }
  let a ← read
  modify fun s => { s with depth := s.depth - 1 }
  return a

mutual

/-- Reads a node.  Blocks are read outside brackets only, and a row of items without a block of
its own only below a key. -/
def node : Nat → (block belowKey : Bool) → Read Node
  | 0, _, _ => fail
  | n + 1, block, belowKey => do
    match ← peek with
    | some (.alias name) =>
      skip
      ofAlias name
    | _ =>
      let p ← properties
      let next ← peek
      let number ← newNumber
      if let some name := p.anchor then setAnchor name (endless number (startsMapping next))
      let content ← match next with
        | some (.scalar text isPlain) => do skip; pure (ofScalar number p text isPlain)
        | some .flowSequenceStart => do
          skip; pure (.sequence number ((explicitTag p).getD .seq) (← nested (flowItems n true)))
        | some .flowMappingStart => do
          skip; pure (ofEntries number p (← nested (flowEntries n true)))
        | next =>
          if belowKey ∧ next = some .blockEntry then
            pure (.sequence number ((explicitTag p).getD .seq) (← nested (items n false)))
          else if block ∧ next = some .blockSequenceStart then do
            skip
            let xs ← nested (items n true)
            expect .blockEnd
            pure (.sequence number ((explicitTag p).getD .seq) xs)
          else if block ∧ next = some .blockMappingStart then do
            skip
            let es ← nested (entries n)
            expect .blockEnd
            pure (ofEntries number p es)
          else if p.anchor.isSome ∨ p.tag.isSome then pure (ofScalar number p [] true)
          else fail
      fillAnchor p content
      return content

/-- Reads the items of a block; in a block of their own an item may be left out before the end. -/
def items : Nat → (own : Bool) → Read (List Node)
  | 0, _ => fail
  | n + 1, own => do
    if ← accept .blockEntry then
      let ends := if own then [Token.blockEntry, .blockEnd]
        else [.blockEntry, .key, .value, .blockEnd]
      let x ← if (← isNext ends) then pure empty else node n true false
      return x :: (← items n own)
    else return []

/-- Reads the entries of a block. -/
def entries : Nat → Read (List (Node × Node))
  | 0 => fail
  | n + 1 => do
    let ends := [Token.key, .value, .blockEnd]
    if ← accept .key then
      let k ← if (← isNext ends) then pure empty else node n true true
      let v ← if ← accept .value then
          if (← isNext ends) then pure empty else node n true true
        else pure empty
      return (k, v) :: (← entries n)
    else return []

/-- Reads the items between brackets with the closing bracket.  An item with a key is a mapping
with one entry. -/
def flowItems : Nat → (first : Bool) → Read (List Node)
  | 0, _ => fail
  | n + 1, first => do
    if ← accept .flowSequenceEnd then return []
    unless first do expect .flowEntry
    if ← accept .key then
      let k ← if (← isNext [.value, .flowEntry, .flowSequenceEnd]) then pure empty
        else node n false false
      let v ← if ← accept .value then
          if (← isNext [.flowEntry, .flowSequenceEnd]) then pure empty else node n false false
        else pure empty
      return .mapping (← newNumber) .map [(k, v)] :: (← flowItems n false)
    else if ← accept .flowSequenceEnd then return []
    else return (← node n false false) :: (← flowItems n false)

/-- Reads the entries between braces with the closing brace. -/
def flowEntries : Nat → (first : Bool) → Read (List (Node × Node))
  | 0, _ => fail
  | n + 1, first => do
    if ← accept .flowMappingEnd then return []
    unless first do expect .flowEntry
    if ← accept .key then
      let k ← if (← isNext [.value, .flowEntry, .flowMappingEnd]) then pure empty
        else node n false false
      let v ← if ← accept .value then
          if (← isNext [.flowEntry, .flowMappingEnd]) then pure empty else node n false false
        else pure empty
      return (k, v) :: (← flowEntries n false)
    else if ← accept .flowMappingEnd then return []
    else return (← node n false false, empty) :: (← flowEntries n false)

end

/-- Reads the directives of a document.  The version has to be one of the first series; neither
the version nor a handle may be given twice. -/
def directives : Nat → (versioned : Bool) → Read Unit
  | 0, _ => fail
  | n + 1, versioned => do
    match ← peek with
    | some (.directive d) =>
      skip
      match d with
      | .version major _ =>
        if versioned || major ≠ 1 then fail
        directives n true
      | .handle name meaning =>
        if ((← get).handles.lookup name).isSome then fail
        modify fun s => { s with handles := (name, meaning) :: s.handles }
        directives n versioned
      | .unknown => directives n versioned
    | _ => pure ()

/-- Skips the marks at the end of a document. -/
def endMarks : Nat → Read Unit
  | 0 => pure ()
  | n + 1 => do
    if ← accept .documentEnd then endMarks n

/-- Reads the only document of a text; `none` if there is no document. -/
def document (fuel : Nat) : Read (Option Node) := do
  match ← peek with
  | none => return none
  | some first =>
    let starts := match first with
      | .directive _ | .documentStart => true
      | _ => false
    let root ← if starts then do
        directives fuel false
        expect .documentStart
        let isEmpty := match ← peek with
          | none | some .documentStart | some .documentEnd | some (.directive _) => true
          | _ => false
        if isEmpty then pure empty else node fuel true false
      else node fuel true false
    endMarks fuel
    if (← peek).isSome then fail
    return some root

/-- The node of a text that holds one document at most. -/
def ofText (text : List Char) : Except Fault (Option Node) := do
  let lexed := Lexed.ofText text
  let fuel := 4 * lexed.tokens.length + 8
  let (root, _) ← (document fuel).run { rest := lexed.tokens, fault := lexed.fault }
  return root

end Node

end Conveyor.Yaml
