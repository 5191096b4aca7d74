import Conveyor.Yaml.Tag

/-!
# Implicit types of plain scalars

A scalar without quotes and without a tag is typed by its form, with the forms of YAML 1.1: words
for truth values, integers in four bases and in base sixty, decimals, dates and moments.  What has
none of these forms is a text.  A single line feed at the end of the scalar does not count.
-/

set_option autoImplicit false

namespace Conveyor.Yaml

namespace Implicit

/-- Digits of a base and underscores. -/
def isDigitOr (digit : Char → Bool) (c : Char) : Bool := digit c || c = '_'

/-- The digits of base two. -/
def isBinary (c : Char) : Bool := c = '0' || c = '1'

/-- The digits of base eight. -/
def isOctal (c : Char) : Bool := '0' ≤ c && c ≤ '7'

/-- The digits of base sixteen. -/
def isHex (c : Char) : Bool := c.isDigit || ('a' ≤ c && c ≤ 'f') || ('A' ≤ c && c ≤ 'F')

/-- A text without its sign. -/
def unsigned : List Char → List Char
  | '-' :: rest | '+' :: rest => rest
  | rest => rest

/-- Whether a text is a non-empty run of characters of a class. -/
def isRun (p : Char → Bool) (s : List Char) : Bool := !s.isEmpty && s.all p

/-- Whether a run of digits may stand for minutes or seconds. -/
def isSixtieth : List Char → Bool
  | [d] => d.isDigit
  | [t, d] => '0' ≤ t && t ≤ '5' && d.isDigit
  | _ => false

/-- Reads groups of a colon and up to two digits, at least one, and gives what follows. -/
def sixtieths? (s : List Char) : Option (List Char) := go s.length false s
where
  /-- The loop; `n` bounds the groups left, `met` tells whether one was read. -/
  go : Nat → Bool → List Char → Option (List Char)
    | n + 1, met, ':' :: rest =>
      if isSixtieth (rest.takeWhile Char.isDigit) then go n true (rest.dropWhile Char.isDigit)
      else if met then some (':' :: rest) else none
    | _, met, rest => if met then some rest else none

/-- The decimal integers and those of base sixty start with a digit other than zero. -/
def isCounted : List Char → Bool
  | c :: rest =>
    '1' ≤ c && c ≤ '9' &&
      (match rest.dropWhile (isDigitOr Char.isDigit) with
        | [] => true
        | more => sixtieths? more = some [])
  | [] => false

/-- Whether a text is an integer. -/
def isInt (s : List Char) : Bool :=
  match unsigned s with
  | '0' :: 'b' :: rest => isRun (isDigitOr isBinary) rest
  | '0' :: 'x' :: rest => isRun (isDigitOr isHex) rest
  | '0' :: rest => rest.all (isDigitOr isOctal)
  | rest => isCounted rest

/-- Whether a text is empty or an exponent with its sign. -/
def isExponent : List Char → Bool
  | [] => true
  | e :: sign :: digits =>
    (e = 'e' || e = 'E') && (sign = '-' || sign = '+') && isRun Char.isDigit digits
  | _ => false

/-- Whether a text is a decimal with a point. -/
def isFloat (s : List Char) : Bool :=
  let body := unsigned s
  let pointed := match s with
    | '.' :: d :: rest =>
      d.isDigit && isExponent (rest.dropWhile (isDigitOr Char.isDigit))
    | _ => false
  let whole := match body with
    | d :: rest =>
      d.isDigit &&
        (match rest.dropWhile (isDigitOr Char.isDigit) with
          | '.' :: more => isExponent (more.dropWhile (isDigitOr Char.isDigit))
          | more =>
            match sixtieths? more with
            | some ('.' :: tail) => tail.all (isDigitOr Char.isDigit)
            | _ => false)
    | [] => false
  pointed || whole
    || [".inf", ".Inf", ".INF"].any (·.toList = body)
    || [".nan", ".NaN", ".NAN"].any (·.toList = s)

/-- The words for truth values. -/
def boolWords : List String :=
  ["yes", "Yes", "YES", "no", "No", "NO", "true", "True", "TRUE", "false", "False", "FALSE",
   "on", "On", "ON", "off", "Off", "OFF"]

/-- The words for nothing. -/
def nullWords : List String := ["", "~", "null", "Null", "NULL"]

end Implicit

/-- The offset of a moment as it is written. -/
inductive Stamp.Zone where
  | universal
  | offset (negative : Bool) (hours minutes : List Char)
  deriving DecidableEq, Repr

/-- The time of the day as it is written. -/
structure Stamp.Clock where
  hour : List Char
  minute : List Char
  second : List Char
  fraction : List Char
  zone : Option Stamp.Zone
  deriving DecidableEq, Repr

/-- A date, with or without a time of the day, as it is written. -/
structure Stamp where
  year : List Char
  month : List Char
  day : List Char
  clock : Option Stamp.Clock
  deriving DecidableEq, Repr

namespace Stamp

/-- Splits off a run of digits whose length is between two bounds. -/
def digits? (least most : Nat) (s : List Char) : Option (List Char × List Char) :=
  let run := (s.take most).takeWhile Char.isDigit
  if least ≤ run.length then some (run, s.drop run.length) else none

/-- Splits off one given character. -/
def char? (c : Char) : List Char → Option (List Char)
  | d :: rest => if d = c then some rest else none
  | [] => none

/-- Whether a character may stand between a date, a time and an offset. -/
def isSpacing (c : Char) : Bool := c = ' ' || c = '\t'

/-- Reads an offset up to the end of the text. -/
def zone? (s : List Char) : Option (Option Zone) :=
  match s.dropWhile isSpacing with
  | [] => if s.isEmpty then some none else none
  | ['Z'] => some (some .universal)
  | sign :: rest =>
    if sign = '-' ∨ sign = '+' then do
      let (hours, rest) ← digits? 1 2 rest
      match rest with
      | [] => some (some (.offset (sign = '-') hours []))
      | _ => do
        let rest ← char? ':' rest
        let (minutes, rest) ← digits? 2 2 rest
        if rest.isEmpty then some (some (.offset (sign = '-') hours minutes)) else none
    else none

/-- Reads a time of the day with its offset up to the end of the text. -/
def clock? (s : List Char) : Option Clock := do
  let (hour, s) ← digits? 1 2 s
  let s ← char? ':' s
  let (minute, s) ← digits? 2 2 s
  let s ← char? ':' s
  let (second, s) ← digits? 2 2 s
  let (fraction, s) := match s with
    | '.' :: rest => (rest.takeWhile Char.isDigit, rest.dropWhile Char.isDigit)
    | rest => ([], rest)
  let zone ← zone? s
  return ⟨hour, minute, second, fraction, zone⟩

/-- What separates a date from a time: the letter T or blanks. -/
def gap? : List Char → Option (List Char)
  | 'T' :: rest | 't' :: rest => some rest
  | c :: rest => if isSpacing c then some (rest.dropWhile isSpacing) else none
  | [] => none

/-- Reads a date, with or without a time of the day. -/
def read? (s : List Char) : Option Stamp := do
  let (year, s) ← digits? 4 4 s
  let s ← char? '-' s
  let (month, s) ← digits? 1 2 s
  let s ← char? '-' s
  let (day, s) ← digits? 1 2 s
  match s with
  | [] => return ⟨year, month, day, none⟩
  | _ => return ⟨year, month, day, some (← clock? (← gap? s))⟩

/-- A bare date counts as a date only with two digits for the month and the day. -/
def isPlain (stamp : Stamp) : Bool :=
  stamp.clock.isSome || (stamp.month.length = 2 && stamp.day.length = 2)

end Stamp

/-- A scalar without a single line feed at its end. -/
def withoutLastBreak (s : List Char) : List Char :=
  if s.getLast? = some '\n' then s.dropLast else s

/-- The tag that the form of a plain scalar gives it. -/
def implicitTag (scalar : List Char) : Tag :=
  if scalar.isEmpty then .null
  else
    let s := withoutLastBreak scalar
    let isWord (words : List String) : Bool := words.any (·.toList = s)
    if s.isEmpty then .str
    else if isWord Implicit.boolWords then .bool
    else if Implicit.isFloat s then .float
    else if Implicit.isInt s then .int
    else if s = ['<', '<'] then .merge
    else if isWord Implicit.nullWords then .null
    else if (Stamp.read? s).any Stamp.isPlain then .timestamp
    else if s = ['='] then .value
    else if s = ['!'] ∨ s = ['&'] ∨ s = ['*'] then .other (Tag.repertory ++ "yaml")
    else .str

end Conveyor.Yaml
