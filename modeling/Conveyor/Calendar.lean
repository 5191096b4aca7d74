import Conveyor.Text.Hex

/-!
# Dates and moments

A definition file may hold calendar dates and moments of time.  They are read with the rules of
the Gregorian calendar and written in the international form, year first.
-/

set_option autoImplicit false

namespace Conveyor

/-- A day of the Gregorian calendar. -/
structure Date where
  year : Nat
  month : Nat
  day : Nat
  deriving DecidableEq, Repr, Inhabited

/-- A moment of time; the offset from universal time, in minutes, may be unknown. -/
structure Moment where
  date : Date
  hour : Nat
  minute : Nat
  second : Nat
  microsecond : Nat
  offset : Option Int
  deriving DecidableEq, Repr, Inhabited

namespace Date

/-- Whether a year has a leap day. -/
def isLeap (year : Nat) : Bool := year % 4 = 0 && (year % 100 ≠ 0 || year % 400 = 0)

/-- The number of days of a month. -/
def daysIn (year month : Nat) : Nat :=
  if month = 2 then (if isLeap year then 29 else 28)
  else if [4, 6, 9, 11].contains month then 30
  else 31

/-- The number of days before a date since the start of year one. -/
def ordinal (d : Date) : Nat :=
  let y := d.year - 1
  let months := (List.range (d.month - 1)).foldl (fun n m => n + daysIn d.year (m + 1)) 0
  y * 365 + y / 4 - y / 100 + y / 400 + months + (d.day - 1)

end Date

/-- A decimal numeral filled up with zeros to a least width. -/
def padded (width n : Nat) : String :=
  let digits := toString n
  "".pushn '0' (width - digits.length) ++ digits

/-- A date as `2020-01-31`. -/
def Date.text (d : Date) : String :=
  padded 4 d.year ++ "-" ++ padded 2 d.month ++ "-" ++ padded 2 d.day

namespace Moment

/-- An offset as `+02:30`. -/
def offsetText (minutes : Int) : String :=
  let size := minutes.natAbs
  (if minutes < 0 then "-" else "+") ++ padded 2 (size / 60) ++ ":" ++ padded 2 (size % 60)

/-- The time of the day with the fraction, if any, and the offset, if known. -/
def clockText (m : Moment) : String :=
  padded 2 m.hour ++ ":" ++ padded 2 m.minute ++ ":" ++ padded 2 m.second
    ++ (if m.microsecond = 0 then "" else "." ++ padded 6 m.microsecond)
    ++ (match m.offset with
        | some minutes => offsetText minutes
        | none => "")

/-- A moment with `separator` between the day and the time. -/
def text (separator : String) (m : Moment) : String := m.date.text ++ separator ++ m.clockText

/-- The microseconds from the start of year one, by the clock of the moment. -/
def localMicroseconds (m : Moment) : Int :=
  (((m.date.ordinal * 24 + m.hour) * 60 + m.minute) * 60 + m.second) * 1000000 + m.microsecond

/-- Two moments are the same if they name the same point of time; one with an offset is never the
same as one without. -/
def same (a b : Moment) : Bool :=
  match a.offset, b.offset with
  | some p, some q =>
    a.localMicroseconds - p * 60000000 = b.localMicroseconds - q * 60000000
  | none, none => a.localMicroseconds = b.localMicroseconds
  | _, _ => false

end Moment

end Conveyor
