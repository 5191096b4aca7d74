import Conveyor.Value.Basic

/-!
# Numbers among values

Integers and doubles are compared without rounding either of them.  A truth value is a number only
where it is compared with one.
-/

set_option autoImplicit false

namespace Conveyor.Value

/-- The order of two numbers; none if a value is not a number, or no number at all. -/
def compareNumbers? : Value → Value → Option Ordering
  | .int m, .int n => some (compare m n)
  | .int m, .float y => (y.compareInt? m).map Ordering.swap
  | .float x, .int n => x.compareInt? n
  | .float x, .float y => x.compare? y
  | .bool b, y => ofBool b y
  | x, .bool b => (ofBool b x).map Ordering.swap
  | _, _ => none
where
  /-- The order of a truth value and a number. -/
  ofBool (b : Bool) : Value → Option Ordering
    | .int n => some (compare (b.toNat : Int) n)
    | .float y => (y.compareInt? b.toNat).map Ordering.swap
    | .bool c => some (compare b.toNat c.toNat)
    | _ => none

/-- Whether a value is a number. -/
def isNumber : Value → Bool
  | .int _ | .float _ => true
  | _ => false

/-- Whether a value is a whole number, also if it is written as a double. -/
def isWhole : Value → Bool
  | .int _ => true
  | .float x => x.toInt?.isSome
  | _ => false

end Conveyor.Value
