/-!
# Sets of characters given by ranges

A set of characters is a list of closed ranges of code points.  The tables of this library
(blank characters, decimal digits, characters without a glyph) are all of this form, so that
one membership test serves them all.
-/

set_option autoImplicit false

namespace Conveyor.Text

/-- A set of code points, as closed ranges in increasing order. -/
abbrev Ranges := List (Nat × Nat)

/-- Membership of a character in a set of ranges. -/
def Ranges.holds (ranges : Ranges) (c : Char) : Bool :=
  ranges.any fun range => range.1 ≤ c.toNat && c.toNat ≤ range.2

end Conveyor.Text
