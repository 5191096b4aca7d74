import Conveyor.Number.Numeral
import Conveyor.Text.LowerCase
import Conveyor.Value.Display
import Conveyor.Yaml.Base64
import Conveyor.Yaml.Implicit

/-!
# The content of scalars

What the text of a scalar denotes under each of the tags for scalars.  A plain scalar always has a
text that fits its tag in form; a text under a tag that was written out may not fit, and then the
failure says what is wrong with it.
-/

set_option autoImplicit false

namespace Conveyor.Yaml.Content

/-- A text that denotes nothing under its tag. -/
def bad {α : Type} (cause : Mismatch.Cause) (text : String) : Except Mismatch α :=
  .error ⟨cause, text⟩

/-- A text without underscores. -/
def withoutUnderscores (s : List Char) : List Char := s.filter (· ≠ '_')

/-- The greatest number of characters of a text that is quoted as no numeral. -/
def longestQuote : Nat := 200

/-- The integer that a numeral of a base denotes. -/
def integer (base : Nat) (s : List Char) : Except Mismatch Int :=
  match Numeral.read base s with
  | .number n => .ok n
  | .tooLong count => bad .content (Numeral.tooLongText count)
  | .malformed =>
    bad .content ("invalid literal for int() with base " ++ toString base ++ ": "
      ++ String.ofList ((Text.quoted (String.ofList s)).toList.take longestQuote))

/-- The sum of digits in base sixty, the last one counting once. -/
def sixtieths (digits : List Int) : Int := digits.foldl (fun n d => n * 60 + d) 0

/-- The integer that a text denotes. -/
def int (s : List Char) : Except Mismatch Int := do
  match withoutUnderscores s with
  | [] => bad .position "string index out of range"
  | c :: rest =>
    let (negative, body) := Numeral.signed (c :: rest)
    Numeral.withSign negative <$>
      match body with
      | [] => bad .position "string index out of range"
      | ['0'] => return 0
      | '0' :: 'b' :: digits => integer 2 digits
      | '0' :: 'x' :: digits => integer 16 digits
      | '0' :: _ => integer 8 body
      | _ =>
        if body.contains ':' then do
          return sixtieths (← (body.splitOn ':').mapM (integer 10))
        else integer 10 body

/-- A decimal, with blanks around it allowed, or one of the words for what is no number. -/
def decimal (s : List Char) : Except Mismatch Binary64 :=
  let (negative, body) := Numeral.signed (Numeral.unpadded s)
  if ["inf", "infinity"].any (·.toList = body) then .ok (.infinite negative)
  else if body = "nan".toList then .ok (.nan 0)
  else
    let ascii := (Numeral.unpadded s).map fun c =>
      match Text.digitValue? c with
      | some n => Char.ofNat (0x30 + n)
      | none => c
    match Binary64.ofText? ascii with
    | some x => .ok x
    | none => bad .content ("could not convert string to float: "
        ++ Text.quoted (String.ofList s))

/-- A power of sixty as a double. -/
def sixtyTo (k : Nat) : Except Mismatch Binary64 :=
  match Binary64.ofInt (Nat.pow 60 k) with
  | .infinite _ => bad .size "int too large to convert to float"
  | x => .ok x

/-- The sum of decimals in base sixty, added from the last one on. -/
def decimalSixtieths (digits : List Binary64) : Except Mismatch Binary64 := do
  let terms ← digits.reverse.zipIdx.mapM fun (d, k) => do return d.mul (← sixtyTo k)
  return terms.foldl Binary64.add (.zero false)

/-- The double that a text denotes.  What is no number gets a mark, unless it is written with the
word for it. -/
def float (mark : Nat) (s : List Char) : Except Mismatch Binary64 := do
  match (Text.lower (String.ofList (withoutUnderscores s))).toList with
  | [] => bad .position "string index out of range"
  | c :: rest =>
    let (negative, body) := Numeral.signed (c :: rest)
    if body = ".nan".toList then return .nan 0
    else
      let x ←
        if body = ".inf".toList then pure (.infinite false)
        else if body.contains ':' then (body.splitOn ':').mapM decimal >>= decimalSixtieths
        else decimal body
      return (if negative then x.neg else x).marked mark

/-- The truth values by their words. -/
def boolWords : List (String × Bool) :=
  [("yes", true), ("no", false), ("true", true), ("false", false), ("on", true), ("off", false)]

/-- The truth value that a text denotes. -/
def bool (s : List Char) : Except Mismatch Bool :=
  let word := Text.lower (String.ofList s)
  match boolWords.lookup word with
  | some b => .ok b
  | none => bad .key (Text.quoted word)

/-- The number that a run of digits denotes. -/
def number (digits : List Char) : Nat := Binary64.digitsValue digits

/-- Checks that a date is one of the calendar. -/
def checkDate (d : Date) : Except Mismatch Unit :=
  if d.year < 1 then bad .content ("year " ++ toString d.year ++ " is out of range")
  else if d.month < 1 ∨ 12 < d.month then bad .content "month must be in 1..12"
  else if d.day < 1 ∨ Date.daysIn d.year d.month < d.day then
    bad .content "day is out of range for month"
  else .ok ()

/-- Checks that a time of the day is one of the clock. -/
def checkClock (hour minute second : Nat) : Except Mismatch Unit :=
  if 23 < hour then bad .content "hour must be in 0..23"
  else if 59 < minute then bad .content "minute must be in 0..59"
  else if 59 < second then bad .content "second must be in 0..59"
  else .ok ()

/-- The offset that is written, in minutes; it is less than a day. -/
def offset : Stamp.Zone → Except Mismatch Int
  | .universal => .ok 0
  | .offset negative hours minutes =>
    let size : Int := number hours * 60 + number minutes
    let signed := Numeral.withSign negative size
    if 1440 ≤ size then
      bad .content ("offset must be a timedelta strictly between -timedelta(hours=24) and "
        ++ "timedelta(hours=24), not " ++ Value.shownSpan signed ++ ".")
    else .ok signed

/-- The microseconds of a fraction of a second, of which six digits count. -/
def microseconds (fraction : List Char) : Nat :=
  let digits := fraction.take 6
  number (digits ++ List.replicate (6 - digits.length) '0')

/-- The date or the moment that a text denotes. -/
def timestamp (s : List Char) : Except Mismatch Value :=
  match Stamp.read? (withoutLastBreak s) with
  | none => bad .member "'NoneType' object has no attribute 'groupdict'"
  | some stamp => do
    let date : Date := ⟨number stamp.year, number stamp.month, number stamp.day⟩
    match stamp.clock with
    | none =>
      checkDate date
      return .date date
    | some clock =>
      let zone ← clock.zone.mapM offset
      let (hour, minute, second) := (number clock.hour, number clock.minute, number clock.second)
      checkDate date
      checkClock hour minute second
      return .moment ⟨date, hour, minute, second, microseconds clock.fraction, zone⟩

end Conveyor.Yaml.Content
