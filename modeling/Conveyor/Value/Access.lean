import Conveyor.Value.Display

/-!
# Reading dynamic values

The questions that options and stage descriptions are asked: is something a member, which field
does a record have, which texts does a row hold.  Every question can be asked of every value; the
ones that have no answer fail with a `Mismatch`.
-/

set_option autoImplicit false

namespace Conveyor.Value

/-- Whether a run of characters occurs in a text. -/
def occursIn (needle : List Char) : List Char → Bool
  | [] => needle.isEmpty
  | c :: rest => needle.isPrefixOf (c :: rest) || occursIn needle rest

/-- Whether a value can be the key of a mapping. -/
def isKey : Value → Bool
  | .list _ | .map _ => false
  | _ => true

/-- Whether a value is an item of another one; a text holds its own parts. -/
def member (item : Value) : Value → Except Failure Bool
  | .list xs | .tuple xs => .ok (xs.any (·.same item))
  | .map es =>
    if item.isKey then .ok (es.any (·.1.same item))
    else .error (.wrongKind "a collection cannot be a key")
  | .text s =>
    match item with
    | .text part => .ok (occursIn part.toList s.toList)
    | _ => .error (.wrongKind "only a text can be a part of a text")
  | _ => .error (.wrongKind "value has no items")

/-- The value of a record's field; only a mapping has fields. -/
def field? (record : Value) (key : String) : Except Failure (Option Value) :=
  field key <$> record.entries

/-- The value of a record's field, or a default where the record has no such field. -/
def fieldOr (record : Value) (key : String) (fallback : Value) : Except Failure Value := do
  return (← record.field? key).getD fallback

/-- The value of a record's field where it counts as given, or a default. -/
def givenOr (record : Value) (key : String) (fallback : Value) : Except Failure Value := do
  return (← record.fieldOr key .null).orElse fallback

/-- The texts of a row of values, for a list of names; every item has to be a text. -/
def names : List Value → Except Failure (List String)
  | [] => .ok []
  | .text s :: rest => (s :: ·) <$> names rest
  | _ :: _ => .error (.wrongKind "a list of names holds texts only")

/-- The two halves of a value with exactly two items. -/
def halves (pair : Value) : Except Failure (Value × Value) := do
  match ← pair.items with
  | [a, b] => return (a, b)
  | _ => throw (.badContent "a pair has two items")

/-- A mapping from a value that is a mapping or a row of pairs. -/
def asMapping : Value → Except Failure (List (Value × Value))
  | .map es => .ok es
  | v => do
    return ofRows (← (← v.items).mapM fun pair => do
      let row ← pair.halves
      if row.1.isKey then return row else throw (.wrongKind "a collection cannot be a key"))

/-- The fields of a record, all of which have to be among the known ones. -/
def fieldsAmong (record : Value) (known : List String) :
    Except Failure (List (Value × Value)) := do
  match record with
  | .map es =>
    if es.all fun e => known.any fun k => e.1.same (.text k) then return es
    else throw (.wrongKind "unknown field")
  | _ => throw (.wrongKind "a record is a mapping")

end Conveyor.Value
