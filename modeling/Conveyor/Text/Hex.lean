/-!
# Hexadecimal numerals

Numerals in base sixteen of a fixed least width, in lower or upper case, and the value of a
hexadecimal digit.
-/

set_option autoImplicit false

namespace Conveyor.Text

/-- The lower-case hexadecimal numeral of a number, filled up with zeros to a least width. -/
def hex (width n : Nat) : List Char :=
  let digits := Nat.toDigits 16 n
  List.replicate (width - digits.length) '0' ++ digits

/-- The upper-case hexadecimal numeral of a number, filled up with zeros to a least width. -/
def upperHex (width n : Nat) : List Char := (hex width n).map Char.toUpper

/-- The value of a hexadecimal digit of either case. -/
def hexValue? (c : Char) : Option Nat :=
  if c.isDigit then some (c.toNat - 0x30)
  else if 'a' ≤ c ∧ c ≤ 'f' then some (c.toNat - 0x57)
  else if 'A' ≤ c ∧ c ≤ 'F' then some (c.toNat - 0x37)
  else none

/-- The number that a run of hexadecimal digits denotes; `none` if some character is no digit. -/
def hexNumber? (digits : List Char) : Option Nat :=
  digits.foldl (fun acc c => do return (← acc) * 16 + (← hexValue? c)) (some 0)

end Conveyor.Text
