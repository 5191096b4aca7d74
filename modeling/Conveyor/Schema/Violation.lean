import Conveyor.Value.Access

/-!
# Violations

A violation is a place in a document, given by the keys and positions that lead to it, and a
message.  Violations are listed by their places: places are compared step by step, and each step by
its text, so a position counts by its digits and not by its value.  Violations at one place keep
the order in which they were met.
-/

set_option autoImplicit false

namespace Conveyor.Schema

/-- A violation of a schema. -/
structure Violation where
  place : List Value
  message : String
  deriving Repr, Inhabited

namespace Violation

/-- The violation seen from one step further out. -/
def below (step : Value) (v : Violation) : Violation := { v with place := step :: v.place }

/-- The texts of the steps that lead to a place. -/
def steps (place : List Value) : Except Failure (List String) := place.mapM Value.display

/-- The text of a place. -/
def placeText (steps : List String) : String :=
  if steps.isEmpty then "root" else " -> ".intercalate steps

/-- The line for a message about a place. -/
def line (steps : List String) (message : String) : String :=
  "Path '" ++ placeText steps ++ "': " ++ message

/-- Violations with the texts of their places, in the order of the texts. -/
def sorted (vs : List Violation) : Except Failure (List (List String × String)) := do
  let located ← vs.mapM fun v => do return (← steps v.place, v.message)
  return located.mergeSort fun a b => !decide (b.1 < a.1)

/-- The lines for violations, in the order of their places. -/
def lines (vs : List Violation) : Except Failure (List String) := do
  return (← sorted vs).map fun v => line v.1 v.2

end Violation

end Conveyor.Schema
