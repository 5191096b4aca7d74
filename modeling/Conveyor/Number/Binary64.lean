/-!
# Double-precision numbers

A double is a dyadic fraction with at most 53 significant bits, an infinity, or no number at all.
Arithmetic is exact on the fractions and rounds once at the end, to the nearest double, a half
going to the even neighbour.  So every operation here is a closed computation on natural numbers.
-/

set_option autoImplicit false

namespace Conveyor

/-- A double-precision number; `finite negative m e` is `m * 2 ^ e` with its sign.  What is no
number differs from everything, but a collection that holds it finds it again; the mark tells one
from another. -/
inductive Binary64 where
  | finite (negative : Bool) (mantissa : Nat) (exponent : Int)
  | infinite (negative : Bool)
  | nan (mark : Nat)
  deriving DecidableEq, Repr, Inhabited

namespace Binary64

/-- A power of two; a negative exponent counts as zero. -/
def twoTo (e : Int) : Nat := Nat.pow 2 e.toNat

/-- A power of ten; a negative exponent counts as zero. -/
def tenTo (e : Int) : Nat := Nat.pow 10 e.toNat

/-- The exponent of the smallest double above zero. -/
def leastExponent : Int := -1074

/-- The exponent of the largest doubles. -/
def greatestExponent : Int := 971

/-- Zero, with its sign. -/
def zero (negative : Bool) : Binary64 := .finite negative 0 leastExponent

/-- The quotient rounded to the nearest natural number, a half to the even one. -/
def roundHalfEven (num den : Nat) : Nat :=
  let q := num / den
  let twice := 2 * (num % den)
  if twice < den then q
  else if den < twice then q + 1
  else if q % 2 = 0 then q else q + 1

/-- `num / den` divided by `2 ^ e`, as a fraction. -/
def scaleDown (num den : Nat) (e : Int) : Nat × Nat :=
  if 0 ≤ e then (num, den * twoTo e) else (num * twoTo (-e), den)

/-- The exponent under which a positive fraction has its 53 leading bits before the point. -/
def exponentOf (num den : Nat) : Int :=
  let guess : Int := (num.log2 : Int) - (den.log2 : Int) - 52
  let (n, d) := scaleDown num den guess
  let e := if twoTo 53 ≤ n / d then guess + 1 else if n / d < twoTo 52 then guess - 1 else guess
  if e < leastExponent then leastExponent else e

/-- The double nearest to a fraction. -/
def ofRatio (negative : Bool) (num den : Nat) : Binary64 :=
  if num = 0 ∨ den = 0 then zero negative
  else
    let e := exponentOf num den
    let (n, d) := scaleDown num den e
    let m := roundHalfEven n d
    let (m, e) := if m = twoTo 53 then (twoTo 52, e + 1) else (m, e)
    if greatestExponent < e then .infinite negative else .finite negative m e

/-- The double nearest to `digits * 10 ^ scale`.  Powers of ten that leave the range of doubles by
far are settled without being computed. -/
def ofDecimal (negative : Bool) (digits : Nat) (scale : Int) : Binary64 :=
  if digits = 0 then zero negative
  else
    let size : Int := digits.log2
    if 400 < size * 3 / 10 + scale then .infinite negative
    else if (size + 1) / 3 + scale < -400 then zero negative
    else if 0 ≤ scale then ofRatio negative (digits * tenTo scale) 1
    else ofRatio negative digits (tenTo (-scale))

/-- The double nearest to an integer; an infinity if the integer is beyond all doubles. -/
def ofInt (n : Int) : Binary64 := ofRatio (n < 0) n.natAbs 1

/-- Whether the number is zero of either sign. -/
def isZero : Binary64 → Bool
  | .finite _ m _ => m = 0
  | _ => false

/-- The number with the opposite sign. -/
def neg : Binary64 → Binary64
  | .finite s m e => .finite (!s) m e
  | .infinite s => .infinite (!s)
  | .nan mark => .nan mark

/-- A finite double as an exact fraction with a power of two below the line. -/
def toRatio? : Binary64 → Option (Int × Nat)
  | .finite s m e =>
    let sign : Int := if s then -1 else 1
    some (if 0 ≤ e then (sign * (m * twoTo e : Nat), 1) else (sign * m, twoTo (-e)))
  | _ => none

/-- The integer that the number is equal to, if there is one. -/
def toInt? (x : Binary64) : Option Int :=
  match x.toRatio? with
  | some (num, den) => if num % den = 0 then some (num / den) else none
  | none => none

/-- The order of two doubles; none with no number among them. -/
def compare? : Binary64 → Binary64 → Option Ordering
  | .nan _, _ | _, .nan _ => none
  | .infinite s, .infinite t => some (compare t.toNat s.toNat)
  | .infinite s, .finite .. => some (if s then .lt else .gt)
  | .finite .., .infinite t => some (if t then .gt else .lt)
  | x@(.finite ..), y@(.finite ..) =>
    match x.toRatio?, y.toRatio? with
    | some (a, b), some (c, d) => some (compare (a * d) (c * b))
    | _, _ => none

/-- The order of a double and an integer, without rounding the integer. -/
def compareInt? : Binary64 → Int → Option Ordering
  | .nan _, _ => none
  | .infinite s, _ => some (if s then .lt else .gt)
  | x@(.finite ..), n => x.toRatio?.map fun (a, b) => compare a (n * b)

/-- The exact fraction rounded to a double; `sign` decides the sign of a zero. -/
def ofSigned (sign : Bool) (num : Int) (den : Nat) : Binary64 :=
  if num = 0 then zero sign else ofRatio (num < 0) num.natAbs den

/-- The sum of two doubles. -/
def add : Binary64 → Binary64 → Binary64
  | .nan _, _ | _, .nan _ => .nan 0
  | .infinite s, .infinite t => if s = t then .infinite s else .nan 0
  | .infinite s, .finite .. => .infinite s
  | .finite .., .infinite t => .infinite t
  | x@(.finite s ..), y@(.finite t ..) =>
    match x.toRatio?, y.toRatio? with
    | some (a, b), some (c, d) => ofSigned (s && t) (a * d + c * b) (b * d)
    | _, _ => .nan 0

/-- The product of two doubles. -/
def mul : Binary64 → Binary64 → Binary64
  | .nan _, _ | _, .nan _ => .nan 0
  | .infinite s, .infinite t => .infinite (s != t)
  | .infinite s, .finite t m _ | .finite t m _, .infinite s =>
    if m = 0 then .nan 0 else .infinite (s != t)
  | x@(.finite s ..), y@(.finite t ..) =>
    match x.toRatio?, y.toRatio? with
    | some (a, b), some (c, d) => ofSigned (s != t) (a * c) (b * d)
    | _, _ => .nan 0

/-- The quotient of two doubles, of which the second one is not zero. -/
def div : Binary64 → Binary64 → Binary64
  | .nan _, _ | _, .nan _ | .infinite _, .infinite _ => .nan 0
  | .infinite s, .finite t _ _ => .infinite (s != t)
  | .finite s _ _, .infinite t => zero (s != t)
  | x@(.finite s ..), y@(.finite t ..) =>
    match x.toRatio?, y.toRatio? with
    | some (a, b), some (c, d) =>
      ofSigned (s != t) (if c < 0 then -(a * d) else a * d) (b * c.natAbs)
    | _, _ => .nan 0

/-- Whether two doubles are one and the same that is no number. -/
def isSameNan : Binary64 → Binary64 → Bool
  | .nan a, .nan b => a = b
  | _, _ => false

/-- The double with its mark set, if it is no number. -/
def marked (mark : Nat) : Binary64 → Binary64
  | .nan _ => .nan mark
  | x => x

end Binary64

end Conveyor
