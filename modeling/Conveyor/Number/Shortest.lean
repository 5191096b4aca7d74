import Conveyor.Number.Binary64

/-!
# The shortest decimal text of a double

A finite double is written with the fewest significant digits that read back as the same double;
among the decimals of that length the one nearest to the double is taken.  Numbers from `1e-4` up
to, but not including, `1e16` are written with a decimal point in place, all others with one digit
before the point and an exponent of at least two digits.
-/

set_option autoImplicit false

namespace Conveyor.Binary64

/-- A decimal numeral: `digits * 10 ^ scale`. -/
structure Decimal where
  digits : Nat
  scale : Int
  deriving DecidableEq, Repr

/-- `num / den` divided by `10 ^ scale`, as a fraction. -/
def scaleTen (num den : Nat) (scale : Int) : Nat × Nat :=
  if 0 ≤ scale then (num, den * tenTo scale) else (num * tenTo (-scale), den)

/-- The decimal exponent of the leading digit of a positive fraction. -/
def leadingExponent (num den : Nat) : Int :=
  let guess : Int := ((num.log2 : Int) - (den.log2 : Int)) * 30103 / 100000
  let above (k : Int) : Bool := let (n, d) := scaleTen num den k; d ≤ n
  if above (guess + 1) then guess + 1 else if above guess then guess else guess - 1

/-- The decimal of `count` significant digits nearest to a positive fraction among the two
neighbours on that grid that read back as `x`. -/
def neighbour? (x : Binary64) (num den : Nat) (lead : Int) (count : Nat) : Option Decimal :=
  let scale := lead - (count - 1 : Nat)
  let (n, d) := scaleTen num den scale
  let below := n / d
  let readsBack (digits : Nat) : Bool := ofDecimal false digits scale = x
  let low := readsBack below
  let high := readsBack (below + 1)
  let rest := n % d
  let nearerLow := 2 * rest < d ∨ (2 * rest = d ∧ below % 2 = 0)
  if low && (!high || decide nearerLow) then some ⟨below, scale⟩
  else if high then some ⟨below + 1, scale⟩
  else none

/-- The shortest decimal that reads back as the positive double `m * 2 ^ e`. -/
def shortest (m : Nat) (e : Int) : Decimal :=
  let (num, den) := if 0 ≤ e then (m * twoTo e, 1) else (m, twoTo (-e))
  let lead := leadingExponent num den
  ((List.range 17).findSome? fun k => neighbour? (.finite false m e) num den lead (k + 1)).getD
    ⟨m, 0⟩

/-- The significant digits of a decimal without the zeros at its end, and the place of the point
counted from the first of them. -/
def Decimal.places (d : Decimal) : List Char × Int :=
  let digits := Nat.toDigits 10 d.digits
  ((digits.reverse.dropWhile (· = '0')).reverse, digits.length + d.scale)

/-- The text of an exponent: a sign and at least two digits. -/
def exponentText (e : Int) : List Char :=
  let digits := Nat.toDigits 10 e.natAbs
  (if e < 0 then '-' else '+') :: (List.replicate (2 - digits.length) '0' ++ digits)

/-- The text of significant digits with the decimal point at a place counted from the first. -/
def pointText (digits : List Char) (point : Int) : List Char :=
  if -4 < point ∧ point ≤ 16 then
    if point ≤ 0 then '0' :: '.' :: (List.replicate (-point).toNat '0' ++ digits)
    else if digits.length ≤ point.toNat then
      digits ++ List.replicate (point.toNat - digits.length) '0' ++ ['.', '0']
    else digits.take point.toNat ++ '.' :: digits.drop point.toNat
  else
    let lead := digits.take 1
    let rest := digits.drop 1
    lead ++ (if rest.isEmpty then [] else '.' :: rest) ++ 'e' :: exponentText (point - 1)

/-- The text of a double. -/
def text : Binary64 → String
  | .nan _ => "nan"
  | .infinite s => if s then "-inf" else "inf"
  | .finite s m e =>
    let sign := if s then ['-'] else []
    if m = 0 then String.ofList (sign ++ ['0', '.', '0'])
    else
      let (digits, point) := (shortest m e).places
      String.ofList (sign ++ pointText digits point)

/-- A run of decimal digits as a number. -/
def digitsValue (digits : List Char) : Nat :=
  digits.foldl (fun n c => n * 10 + (c.toNat - 0x30)) 0

/-- Reads a decimal with an optional sign, point and exponent; `none` if the text has another
form.  Digits are those of ASCII. -/
def ofText? (s : List Char) : Option Binary64 :=
  let (negative, body) :=
    match s with
    | '-' :: rest => (true, rest)
    | '+' :: rest => (false, rest)
    | rest => (false, rest)
  let whole := body.takeWhile Char.isDigit
  let afterWhole := body.dropWhile Char.isDigit
  let (part, afterPart) :=
    match afterWhole with
    | '.' :: rest => (rest.takeWhile Char.isDigit, rest.dropWhile Char.isDigit)
    | rest => ([], rest)
  if whole.isEmpty && part.isEmpty then none
  else
    let number (exponent : Int) : Binary64 :=
      ofDecimal negative (digitsValue (whole ++ part)) (exponent - part.length)
    match afterPart with
    | [] => some (number 0)
    | c :: rest =>
      if c = 'e' ∨ c = 'E' then
        let (down, digits) :=
          match rest with
          | '-' :: more => (true, more)
          | '+' :: more => (false, more)
          | more => (false, more)
        if digits.isEmpty || !digits.all Char.isDigit then none
        else
          let size := digitsValue digits
          some (number (if down then -(size : Int) else size))
      else none

end Conveyor.Binary64
