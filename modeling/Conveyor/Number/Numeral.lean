import Conveyor.Text.Blank
import Conveyor.Text.Digit
import Conveyor.Text.Hex

/-!
# Numerals of whole numbers

A numeral of a base is a run of digits of any script, with a sign before it and blanks around it.
Single low lines may stand between the digits.  Numerals of the bases two, eight and sixteen may
begin with the mark of their base.

The number of digits is limited, except for the bases that are powers of two.
-/

set_option autoImplicit false

namespace Conveyor

/-- What a text is when it is read as a numeral. -/
inductive Numeral where
  | number (n : Int)
  | malformed
  | tooLong (digits : Nat)
  deriving DecidableEq, Repr

namespace Numeral

/-- The greatest number of decimal digits of an integer that has a text. -/
def longest : Nat := 4300

/-- The explanation for a numeral with too many digits. -/
def tooLongText (count : Nat) : String :=
  "Exceeds the limit (" ++ toString longest ++ " digits) for integer string conversion: value has "
    ++ toString count ++ " digits; use sys.set_int_max_str_digits() to increase the limit"

/-- Whether a character may stand around a numeral: the information separators may not. -/
def isPadding (c : Char) : Bool := Text.isBlank c && !(0x1c ≤ c.toNat && c.toNat ≤ 0x1f)

/-- A text without the characters around it that do not count. -/
def unpadded (s : List Char) : List Char :=
  ((s.dropWhile isPadding).reverse.dropWhile isPadding).reverse

/-- A sign and what follows it. -/
def signed : List Char → Bool × List Char
  | '-' :: rest => (true, rest)
  | '+' :: rest => (false, rest)
  | rest => (false, rest)

/-- An integer with its sign. -/
def withSign (negative : Bool) (n : Int) : Int := if negative then -n else n

/-- The letters that mark a base after a zero. -/
def baseMarks : List (Nat × List Char) := [(2, ['b', 'B']), (8, ['o', 'O']), (16, ['x', 'X'])]

/-- What follows the mark of a base, if the mark is there; one low line may follow the mark. -/
def afterMark (base : Nat) (s : List Char) : List Char :=
  match s with
  | '0' :: c :: rest =>
    if ((baseMarks.lookup base).getD []).contains c then
      match rest with
      | '_' :: digits => digits
      | _ => rest
    else s
  | _ => s

/-- The value of a digit in a base. -/
def digitIn? (base : Nat) (c : Char) : Option Nat := do
  let n ← match Text.digitValue? c with
    | some n => some n
    | none => if base = 16 then Text.hexValue? c else none
  if n < base then some n else none

/-- The value of a run of digits in which single low lines stand between digits; `expected` says
that a digit has to come next. -/
def value? (base : Nat) : (expected : Bool) → Nat → List Char → Option Nat
  | expected, n, [] => if expected then none else some n
  | expected, n, c :: rest =>
    if c = '_' then if expected then none else value? base true n rest
    else
      match digitIn? base c with
      | some d => value? base false (n * base + d) rest
      | none => none

/-- Whether the numerals of a base may have any number of digits. -/
def isUnlimited (base : Nat) : Bool := [2, 8, 16].contains base

/-- The number of digits at the beginning of a text, or none if low lines among them stand where
they must not. -/
def leadingDigits? (base : Nat) (s : List Char) : Option Nat :=
  let run := s.takeWhile fun c => c = '_' || (digitIn? base c).isSome
  let zeros := run.map fun c => if c = '_' then c else '0'
  (value? 10 true 0 zeros).map fun _ => (run.filter (· ≠ '_')).length

/-- Reads a numeral of a base. -/
def read (base : Nat) (s : List Char) : Numeral :=
  let (negative, body) := signed (unpadded s)
  let digits := afterMark base body
  let isTooLong := !isUnlimited base && (leadingDigits? base digits).any (longest < ·)
  if isTooLong then .tooLong ((leadingDigits? base digits).getD 0)
  else
    match value? base true 0 digits with
    | some n => .number (withSign negative n)
    | none => .malformed

end Numeral

end Conveyor
