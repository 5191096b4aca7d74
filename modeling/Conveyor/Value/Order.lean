import Conveyor.Value.Number

/-!
# The order of values

Texts are ordered by their characters, numbers by size, dates and moments by time, lists item by
item.  Values of different kinds have no order, nor do mappings.

A row of values is sorted by inserting every value into the sorted part before it, behind those it
does not come before.  Values between which the order does not decide keep their places.
-/

set_option autoImplicit false

namespace Conveyor

namespace Value

/-- Whether a value takes part in the order of numbers. -/
def isComparedAsNumber : Value → Bool
  | .bool _ | .int _ | .float _ => true
  | _ => false

/-- Whether a moment is earlier than another one; moments with and without an offset have no
order. -/
def momentBefore? (a b : Moment) : Option Bool :=
  match a.offset, b.offset with
  | some p, some q =>
    some (a.localMicroseconds - p * 60000000 < b.localMicroseconds - q * 60000000)
  | none, none => some (a.localMicroseconds < b.localMicroseconds)
  | _, _ => none

mutual

/-- Whether a value comes before another one, if the two have an order. -/
def before? : Value → Value → Option Bool
  | .text a, .text b => some (a < b)
  | .bytes a, .bytes b => some (a.map UInt8.toNat < b.map UInt8.toNat)
  | .date a, .date b => some (a.ordinal < b.ordinal)
  | .moment a, .moment b => momentBefore? a b
  | .list xs, .list ys | .tuple xs, .tuple ys => rowBefore? xs ys
  | a, b =>
    if a.isComparedAsNumber && b.isComparedAsNumber then some (a.compareNumbers? b == some .lt)
    else none

/-- The order of two rows is that of the first two items that differ. -/
def rowBefore? : List Value → List Value → Option Bool
  | [], ys => some (!ys.isEmpty)
  | _ :: _, [] => some false
  | x :: xs, y :: ys => if x.same y then rowBefore? xs ys else before? x y

end

end Value

namespace Row

/-- The number of items at the beginning of a row, each of which comes before the one in front of it
if `falling`, and does not if not. -/
def runLength {α : Type} (before : α → α → Option Bool) (falling : Bool) :
    α → List α → Option Nat
  | _, [] => some 0
  | x, y :: rest => do
    if (← before y x) = falling then return (← runLength before falling y rest) + 1 else return 0

/-- The place of an item in a sorted row, between two bounds that are halved. -/
def placeFor {α : Type} (before : α → α → Option Bool) (x : α) (row : List α) :
    (fuel low high : Nat) → Option Nat
  | 0, low, _ => some low
  | fuel + 1, low, high => do
    if high ≤ low then return low
    else
      let middle := low + (high - low) / 2
      match row[middle]? with
      | none => return low
      | some y =>
        if ← before x y then placeFor before x row fuel low middle
        else placeFor before x row fuel (middle + 1) high

/-- Inserts an item into a sorted row. -/
def insertInto {α : Type} (before : α → α → Option Bool) (row : List α) (x : α) :
    Option (List α) := do
  let place ← placeFor before x row (row.length + 1) 0 row.length
  return row.take place ++ x :: row.drop place

/-- A row in its order; none if two items that have to be compared have no order. -/
def sorted? {α : Type} (before : α → α → Option Bool) : List α → Option (List α)
  | [] => some []
  | [x] => some [x]
  | x :: y :: rest => do
    let falling ← before y x
    let length := (← runLength before falling x (y :: rest)) + 1
    let run := (x :: y :: rest).take length
    let start := if falling then run.reverse else run
    ((x :: y :: rest).drop length).foldlM (insertInto before) start

end Row

end Conveyor
