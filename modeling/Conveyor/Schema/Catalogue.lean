import Conveyor.Number.Numeral
import Conveyor.Schema.Dialect
import Conveyor.Schema.Uri
import Conveyor.Value.Access

/-!
# References between schemas

A schema may refer to another one by its address.  The address leads to the root schema, to the
schema of schemas, to a part of the root that has an address of its own, or from there along a path
of keys and positions; a fragment that is no path is a name that a part has given itself.

A relative address starts from the nearest address around it.
-/

set_option autoImplicit false

namespace Conveyor.Schema

/-- A schema and the address from which its references start. -/
structure Located where
  base : List Char
  schema : Value

/-- The address that a schema gives itself.  A name is no address, and next to a reference an
address does not count. -/
def ownAddress : Value → Except Failure (Option (List Char))
  | .bool _ => .ok none
  | .map es =>
    if (Value.field "$ref" es).isSome then .ok none
    else
      match Value.field "$id" es with
      | none | some .null => .ok none
      | some (.text s) =>
        if s.toList.head? = some '#' then .ok none
        else .ok (some (s.toList.reverse.dropWhile (· = '#')).reverse)
      | some _ => .error (.noMember "an address is a text")
  | .text _ | .list _ | .tuple _ => .error (.noMember "a schema is a mapping")
  | _ => .error (.wrongKind "a schema is a mapping")

/-- The address from which the references inside a schema start. -/
def entered (base : List Char) (schema : Value) : Except Failure (List Char) := do
  match ← ownAddress schema with
  | none => return base
  | some address => Uri.join base address

/-- The name that a schema gives itself. -/
def ownName : Value → Except Failure (Option (List Char))
  | .map es =>
    match Value.field "$id" es with
    | none => .ok none
    | some (.text s) =>
      match s.toList with
      | '#' :: name => .ok (some name)
      | _ => .ok none
    | some _ => .error (.noMember "an address is a text")
  | _ => .ok none

/-! ## Parts of a schema that are schemas -/

/-- Keywords whose argument is a schema. -/
def schemaKeywords : List String :=
  ["additionalItems", "additionalProperties", "contains", "else", "if", "not", "propertyNames",
   "then"]

/-- Keywords whose argument is a row of schemas. -/
def rowKeywords : List String := ["allOf", "anyOf", "oneOf"]

/-- Keywords whose argument has schemas as its values. -/
def mappingKeywords : List String := ["definitions", "patternProperties", "properties"]

/-- The values of a mapping. -/
def valuesOf (v : Value) : Except Failure (List Value) := do return (← v.entries).map (·.2)

/-- The schemas among the arguments of `items`. -/
def itemSchemas : Option Value → Except Failure (List Value)
  | none | some .null => .ok []
  | some v =>
    match v with
    | .list _ | .tuple _ | .text _ | .bytes _ => v.items
    | _ => .ok [v]

/-- The schemas among the arguments of `dependencies`; the first argument decides. -/
def dependencySchemas : Option Value → Except Failure (List Value)
  | none | some .null => .ok []
  | some v => do
    match ← valuesOf v with
    | .map es :: rest => return .map es :: rest
    | _ => return []

/-- The schemas that a schema is made of. -/
def subschemas : Value → Except Failure (List Value)
  | .map es => do
    let single := schemaKeywords.filterMap (Value.field · es)
    let rows ← (rowKeywords.filterMap (Value.field · es)).mapM Value.items
    let mapped ← (mappingKeywords.filterMap (Value.field · es)).mapM valuesOf
    let items ← itemSchemas (Value.field "items" es)
    let dependent ← dependencySchemas (Value.field "dependencies" es)
    return single ++ rows.flatten ++ mapped.flatten ++ items ++ dependent
  | _ => .ok []

mutual

/-- The number of nodes of a value. -/
def weight : Value → Nat
  | .list xs | .tuple xs => 1 + itemsWeight xs
  | .map es => 1 + entriesWeight es
  | .text s => 1 + s.length
  | _ => 1

/-- The number of nodes of a row of values. -/
def itemsWeight : List Value → Nat
  | [] => 0
  | x :: xs => weight x + itemsWeight xs

/-- The number of nodes of a mapping's entries. -/
def entriesWeight : List (Value × Value) → Nat
  | [] => 0
  | (k, v) :: es => weight k + weight v + entriesWeight es

end

/-- A schema under its address, and under its name if it has one. -/
structure Entry where
  address : List Char
  name : Option (List Char)
  schema : Value

/-- The entries of schemas and of all schemas that they are made of. -/
def entriesOf : (fuel : Nat) → List Located → Except Failure (List Entry)
  | 0, _ | _, [] => .ok []
  | fuel + 1, s :: rest => do
    let address ← entered s.base s.schema
    let inner := (← subschemas s.schema).reverse.map fun part => ⟨address, part⟩
    let name ← ownName s.schema
    return ⟨address, name, s.schema⟩ :: (← entriesOf fuel (inner ++ rest))

/-- The address of a root schema. -/
def rootAddress (root : Value) : Except Failure (List Char) := do
  return (← ownAddress root).getD []

/-- A failure of a reference that leads nowhere. -/
def leadsNowhere {α : Type} (reference : List Char) : Except Failure α :=
  .error (.mismatch ⟨.reference, "unresolvable reference " ++ String.ofList reference⟩)

/-- All entries of a root schema, the last one first. -/
def catalogue (root : Value) : Except Failure (List Entry) := do
  return (← entriesOf (weight root + 1) [⟨← rootAddress root, root⟩]).reverse

/-- The schema with an address.  A part counts under the address that it gives itself. -/
def schemaAt (root : Value) (address : List Char) : Except Failure Value := do
  if address = (← rootAddress root) then return root
  else if address = Dialect.address.toList then return Dialect.schema
  else
    let entries ← catalogue root
    match ← entries.findM? fun e => do
        return e.address = address && (← ownAddress e.schema).isSome with
    | some e => return e.schema
    | none => leadsNowhere address

/-! ## Paths -/

/-- The name in one step of a path, with its two escapes undone. -/
def pointerName : List Char → List Char
  | '~' :: '0' :: rest => '~' :: pointerName rest
  | '~' :: '1' :: rest => '/' :: pointerName rest
  | c :: rest => c :: pointerName rest
  | [] => []

/-- The item of a row at a position; positions below zero count from the end. -/
def itemAt (items : List Value) (position : Int) : Option Value :=
  if 0 ≤ position then items[position.toNat]?
  else if -(items.length : Int) ≤ position then items[(items.length + position).toNat]?
  else none

/-- What one step of a path leads to. -/
def pointerStep (v : Value) (step : List Char) : Except Failure Value := do
  match v with
  | .map es =>
    match Value.field (String.ofList (pointerName step)) es with
    | some part => return part
    | none => leadsNowhere step
  | .list _ | .tuple _ | .text _ | .bytes _ =>
    match Numeral.read 10 step with
    | .number n =>
      match itemAt (← v.items) n with
      | some part => return part
      | none => leadsNowhere step
    | _ => throw (.badContent "a position is a number")
  | _ => throw (.wrongKind "value has no parts")

/-- The keyword that a step of a path names in a value; positions name none. -/
def stepName (v : Value) (step : List Char) : Option String :=
  match v with
  | .map _ => some (String.ofList (pointerName step))
  | _ => none

/-- Whether the steps from a schema to a value lead to a schema again. -/
def leadsToSchema (value : Value) : List (Option String) → Bool
  | [] => true
  | some name :: rest =>
    let isMapping := match value with
      | .map _ => true
      | _ => false
    if (name = "items" || name = "dependencies") && isMapping then true
    else if schemaKeywords.contains name then leadsToSchema value rest
    else if rowKeywords.contains name || mappingKeywords.contains name then
      match rest with
      | [] => false
      | _ :: rest => leadsToSchema value rest
    else false
  | none :: _ => false

/-- What a path leads to from a schema.  `walked` are the steps since the last schema with an
address. -/
def follow (s : Located) (walked : List (Option String)) :
    List (List Char) → Except Failure Located
  | [] => .ok s
  | step :: rest => do
    let part ← pointerStep s.schema step
    let walked := walked ++ [stepName s.schema step]
    if leadsToSchema part walked then
      match ← ownAddress part with
      | some address => follow ⟨← Uri.join s.base address, part⟩ [] rest
      | none => follow ⟨s.base, part⟩ walked rest
    else follow ⟨s.base, part⟩ walked rest

/-- The schema of a root that has a name at an address. -/
def schemaNamed (root : Value) (address name : List Char) : Except Failure Value := do
  match (← catalogue root).find? fun e => e.address = address && e.name = some name with
  | some e => return e.schema
  | none => leadsNowhere name

/-- The schema that a reference in a root schema leads to. -/
def resolve (root : Value) (base reference : List Char) : Except Failure Located := do
  let (address, fragment) ←
    match reference with
    | '#' :: fragment => pure (base, fragment)
    | _ => do Uri.cutFragment (← Uri.join base reference)
  let schema ← schemaAt root address
  match fragment with
  | [] => return ⟨address, schema⟩
  | '/' :: path => follow ⟨address, schema⟩ [] ((Uri.unescaped path).splitOn '/')
  | name => return ⟨address, ← schemaNamed root address name⟩

end Conveyor.Schema
