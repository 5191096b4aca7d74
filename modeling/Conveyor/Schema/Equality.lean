import Conveyor.Failure
import Conveyor.Value.Order

/-!
# Equality of documents

Inside documents a truth value is never equal to a number, while whole numbers and doubles are
compared by value.  Lists and tuples are equal item by item, mappings entry by entry in any order;
octets count as a row of numbers.

The items of a row are distinct if no two that stand side by side are equal after the row has been
sorted.  Only where the items have no order all of them are compared with each other.

Two collections are compared by going into both of them, up to a fixed depth only.  A comparison
that would have to go deeper fails, and what depends on it fails with it.
-/

set_option autoImplicit false

namespace Conveyor.Schema

/-- The depth up to which collections are compared.  It stands for the interpreter's limit of 1000
frames, of which each level takes four, counted from an empty stack. -/
def deepestCompared : Nat := 240

/-- Whether two scalars are equal, truth values only to truth values. -/
def equalScalar : Value → Value → Bool
  | .bool a, .bool b => a = b
  | .bool _, _ | _, .bool _ => false
  | a, b => a.sameScalar b

/-- Whether octets are equal to a row of numbers. -/
def equalOctets : List UInt8 → List Value → Bool
  | [], [] => true
  | o :: os, v :: vs => equalScalar (.int o.toNat) v && equalOctets os vs
  | _, _ => false

mutual

/-- Equality of documents, with room for a number of levels. -/
def equalWithin (room : Nat) : Value → Value → Except Failure Bool
  | .list xs, .list ys | .list xs, .tuple ys | .tuple xs, .list ys | .tuple xs, .tuple ys =>
    goInside room fun left => if xs.length = ys.length then equalItems left xs ys else .ok false
  | .bytes os, .list vs | .bytes os, .tuple vs | .list vs, .bytes os | .tuple vs, .bytes os =>
    .ok (equalOctets os vs)
  | .map es, .map fs =>
    goInside room fun left => if es.length = fs.length then equalEntries left es fs else .ok false
  | a, b => .ok (equalScalar a b)

/-- Equality of rows of documents; the first two that differ settle it. -/
def equalItems (room : Nat) : List Value → List Value → Except Failure Bool
  | [], [] => .ok true
  | x :: xs, y :: ys => do
    if ← equalWithin room x y then equalItems room xs ys else return false
  | _, _ => .ok false

/-- Whether every entry of the first mapping has an equal one in the second. -/
def equalEntries (room : Nat) :
    List (Value × Value) → List (Value × Value) → Except Failure Bool
  | [], _ => .ok true
  | (k, v) :: rest, other =>
    match Value.lookup k other with
    | some w => do if ← equalWithin room v w then equalEntries room rest other else return false
    | none => .ok false

end

/-- Equality of documents. -/
def equal (a b : Value) : Except Failure Bool := equalWithin deepestCompared a b

/-- Whether no two of some documents are equal, and none of them to one of those seen before. -/
def noneEqual (seen : List Value) : List Value → Except Failure Bool
  | [] => .ok true
  | x :: xs => do
    if ← seen.anyM (equal · x) then return false else noneEqual (seen ++ [x]) xs

/-- Whether no two of some documents that stand side by side are equal. -/
def noNeighboursEqual : List Value → Except Failure Bool
  | x :: y :: rest => do if ← equal x y then return false else noNeighboursEqual (y :: rest)
  | _ => .ok true

/-- The order of documents, in which truth values have no place. -/
def before? : Value → Value → Option Bool
  | .bool _, _ | _, .bool _ => none
  | a, b => a.before? b

/-- Whether the items of a row count as distinct. -/
def areDistinct (items : List Value) : Except Failure Bool :=
  match Row.sorted? before? items with
  | some sorted => noNeighboursEqual sorted
  | none => noneEqual [] items

end Conveyor.Schema
