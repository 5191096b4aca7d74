import Conveyor.Calendar
import Conveyor.Failure
import Conveyor.Number.Shortest

/-!
# Values of a definition

What a definition file denotes: scalars, lists and mappings.  A mapping keeps the order in which
its keys came first, and any value may be a key.  Options reach the configuration as such values,
so the configuration's checks see every kind of value.
-/

set_option autoImplicit false

namespace Conveyor

/-- A value of a definition. -/
inductive Value where
  | null
  | bool (b : Bool)
  | int (n : Int)
  | float (x : Binary64)
  | text (s : String)
  | bytes (octets : List UInt8)
  | date (d : Date)
  | moment (m : Moment)
  | list (items : List Value)
  | tuple (items : List Value)
  | map (entries : List (Value × Value))
  deriving Inhabited, Repr

namespace Value

/-- Whether a value counts as given: everything but nothing, no, zero and what is empty. -/
def isTruthy : Value → Bool
  | .null => false
  | .bool b => b
  | .int n => n ≠ 0
  | .float x => !x.isZero
  | .text s => !s.isEmpty
  | .bytes octets => !octets.isEmpty
  | .date _ | .moment _ => true
  | .list items | .tuple items => !items.isEmpty
  | .map entries => !entries.isEmpty

/-- The first value if it counts as given, and the second one otherwise. -/
def orElse (v fallback : Value) : Value := if v.isTruthy then v else fallback

/-- Whether two scalars are equal; numbers and truth values are compared as numbers.  What is no
number is equal to itself only, as it is found again in a collection. -/
def sameScalar : Value → Value → Bool
  | .null, .null => true
  | .text a, .text b => a = b
  | .bytes a, .bytes b => a = b
  | .date a, .date b => a = b
  | .moment a, .moment b => a.same b
  | .float x, .float y => x.compare? y = some .eq || x.isSameNan y
  | .float x, other => sameNumber x other
  | other, .float x => sameNumber x other
  | .bool a, .bool b => a = b
  | .bool a, .int n => n = a.toNat
  | .int n, .bool a => n = a.toNat
  | .int m, .int n => m = n
  | _, _ => false
where
  /-- Whether a double equals a whole number or a truth value. -/
  sameNumber (x : Binary64) : Value → Bool
    | .int n => x.compareInt? n = some .eq
    | .bool b => x.compareInt? b.toNat = some .eq
    | _ => false

mutual

/-- Equality of values.  The order of a mapping's keys does not matter, a list is never equal to a
tuple, and a truth value is equal to the number one or zero. -/
def same : Value → Value → Bool
  | .list xs, .list ys => sameItems xs ys
  | .tuple xs, .tuple ys => sameItems xs ys
  | .map es, .map fs => es.length = fs.length && coveredBy es fs
  | x, y => sameScalar x y

/-- Equality of two rows of values, place by place. -/
def sameItems : List Value → List Value → Bool
  | [], [] => true
  | x :: xs, y :: ys => same x y && sameItems xs ys
  | _, _ => false

/-- Whether every entry of the first mapping has an equal entry in the second one. -/
def coveredBy : List (Value × Value) → List (Value × Value) → Bool
  | [], _ => true
  | (k, v) :: rest, other =>
    (match other.find? fun e => same k e.1 with
      | some e => same v e.2
      | none => false) && coveredBy rest other

end

mutual

/-- How deeply collections are nested in a value. -/
def depth : Value → Nat
  | .list xs | .tuple xs => itemsDepth xs + 1
  | .map es => entriesDepth es + 1
  | _ => 0

/-- How deeply collections are nested in the items of a list. -/
def itemsDepth : List Value → Nat
  | [] => 0
  | x :: xs => max (depth x) (itemsDepth xs)

/-- How deeply collections are nested in the keys and values of a mapping. -/
def entriesDepth : List (Value × Value) → Nat
  | [] => 0
  | (k, v) :: es => max (max (depth k) (depth v)) (entriesDepth es)

end

@[simp] theorem depth_text (s : String) : (text s).depth = 0 := rfl

/-- The value that a mapping's entries have for a key. -/
def lookup (key : Value) (entries : List (Value × Value)) : Option Value :=
  (entries.find? fun e => e.1.same key).map (·.2)

/-- The value that a mapping's entries have for a textual key. -/
def field (key : String) (entries : List (Value × Value)) : Option Value :=
  lookup (.text key) entries

/-- Whether a mapping's entries have a key. -/
def hasKey (key : Value) (entries : List (Value × Value)) : Bool := (lookup key entries).isSome

/-- Sets a key: an old entry keeps its place and its key, a new one comes last. -/
def put (key value : Value) : List (Value × Value) → List (Value × Value)
  | [] => [(key, value)]
  | (k, v) :: rest => if k.same key then (k, value) :: rest else (k, v) :: put key value rest

/-- A mapping from rows of keys and values, where a later row replaces an earlier one. -/
def ofRows (rows : List (Value × Value)) : List (Value × Value) :=
  rows.foldl (fun entries row => put row.1 row.2 entries) []

/-- A mapping with textual keys. -/
def record (fields : List (String × Value)) : Value :=
  .map (fields.map fun f => (.text f.1, f.2))

/-- The texts among the values. -/
def texts (items : List Value) : List String :=
  items.filterMap fun
    | .text s => some s
    | _ => none

/-- The entries of a mapping; only a mapping can be asked for a key. -/
def entries : Value → Except Failure (List (Value × Value))
  | .map es => .ok es
  | _ => .error (.noMember "value has no keys")

/-- The items of a value, one after another: the members of a list, the keys of a mapping, the
characters of a text, the octets of a byte string. -/
def items : Value → Except Failure (List Value)
  | .list xs | .tuple xs => .ok xs
  | .map es => .ok (es.map (·.1))
  | .text s => .ok (s.toList.map fun c => .text (String.singleton c))
  | .bytes octets => .ok (octets.map fun o => .int o.toNat)
  | _ => .error (.wrongKind "value has no items")

end Value

end Conveyor
