import Conveyor.Number.Numeral
import Conveyor.Value.Basic

/-!
# The text of a value

A value has two texts.  Its `shown` text is what messages quote: texts between quotes, lists in
brackets, mappings in braces.  Its `display` is what is pasted into scripts: the same, except that
a text stands for itself and a date is written in the international form.

An integer of more than `Numeral.longest` digits has no decimal text.
-/

set_option autoImplicit false

namespace Conveyor.Value

/-- The decimal text of an integer that is not too long. -/
def numeral (n : Int) : Except Failure String :=
  let digits := toString n.natAbs
  if Numeral.longest < digits.length then
    .error (.badContent ("Exceeds the limit (" ++ toString Numeral.longest
      ++ " digits) for integer string conversion; "
      ++ "use sys.set_int_max_str_digits() to increase the limit"))
  else .ok (if n < 0 then "-" ++ digits else digits)

/-- The word for a truth value. -/
def boolText (b : Bool) : String := if b then "True" else "False"

/-- One octet between quotes. -/
def shownOctet (quote : Char) (o : UInt8) : List Char :=
  let c := Char.ofNat o.toNat
  if c = quote ∨ c = '\\' then ['\\', c]
  else if c = '\n' then ['\\', 'n']
  else if c = '\r' then ['\\', 'r']
  else if c = '\t' then ['\\', 't']
  else if 0x20 ≤ o ∧ o < 0x7f then [c]
  else '\\' :: 'x' :: Text.hex 2 o.toNat

/-- A byte string between quotes. -/
def shownBytes (octets : List UInt8) : String :=
  let quote := Text.quoteFor (octets.map fun o => Char.ofNat o.toNat)
  String.ofList ('b' :: quote :: octets.flatMap (shownOctet quote) ++ [quote])

/-- A date as a constructor call. -/
def shownDate (d : Date) : String :=
  "datetime.date(" ++ commaSeparated ([d.year, d.month, d.day].map toString) ++ ")"

/-- A span of some minutes as a constructor call. -/
def shownSpan (minutes : Int) : String :=
  let days := minutes / 1440
  let seconds := minutes % 1440 * 60
  let parts := (if days = 0 then [] else ["days=" ++ toString days])
    ++ (if seconds = 0 then [] else ["seconds=" ++ toString seconds])
  "datetime.timedelta(" ++ (if parts.isEmpty then "0" else commaSeparated parts) ++ ")"

/-- An offset from universal time as a constructor call. -/
def shownOffset (minutes : Int) : String :=
  if minutes = 0 then "datetime.timezone.utc"
  else "datetime.timezone(" ++ shownSpan minutes ++ ")"

/-- A moment as a constructor call; seconds and fraction are left out where they are zero. -/
def shownMoment (m : Moment) : String :=
  let clock := [m.date.year, m.date.month, m.date.day, m.hour, m.minute]
    ++ (if m.second = 0 ∧ m.microsecond = 0 then [] else [m.second])
    ++ (if m.microsecond = 0 then [] else [m.microsecond])
  let zone := match m.offset with
    | some minutes => ["tzinfo=" ++ shownOffset minutes]
    | none => []
  "datetime.datetime(" ++ commaSeparated (clock.map toString ++ zone) ++ ")"

mutual

/-- The text of a value as messages quote it. -/
def shown : Value → Except Failure String
  | .null => .ok "None"
  | .bool b => .ok (boolText b)
  | .int n => numeral n
  | .float x => .ok x.text
  | .text s => .ok (Text.quoted s)
  | .bytes octets => .ok (shownBytes octets)
  | .date d => .ok (shownDate d)
  | .moment m => .ok (shownMoment m)
  | .list xs => do return "[" ++ commaSeparated (← shownItems xs) ++ "]"
  | .tuple [x] => do return "(" ++ (← shown x) ++ ",)"
  | .tuple xs => do return "(" ++ commaSeparated (← shownItems xs) ++ ")"
  | .map es => do return "\x7b" ++ commaSeparated (← shownEntries es) ++ "\x7d"

/-- The quoted texts of a row of values. -/
def shownItems : List Value → Except Failure (List String)
  | [] => .ok []
  | x :: xs => do return (← shown x) :: (← shownItems xs)

/-- The quoted texts of a mapping's entries. -/
def shownEntries : List (Value × Value) → Except Failure (List String)
  | [] => .ok []
  | (k, v) :: es => do return ((← shown k) ++ ": " ++ (← shown v)) :: (← shownEntries es)

end

/-- The text of a value as it is pasted into a script. -/
def display : Value → Except Failure String
  | .text s => .ok s
  | .date d => .ok d.text
  | .moment m => .ok (m.text " ")
  | v => shown v

@[simp] theorem display_text (s : String) : display (.text s) = .ok s := rfl

/-- A natural number is pasted as its numeral, unless this is too long. -/
theorem display_natural_iff {n : Nat} {text : String} :
    display (.int n) = .ok text ↔ (toString n).length ≤ Numeral.longest ∧ toString n = text := by
  have same : display (.int n) = numeral n := by
    rw [display, shown]
    all_goals nofun
  rw [same, numeral, Int.natAbs_natCast]
  split
  · rename_i long
    exact iff_of_false nofun fun ⟨short, _⟩ => Nat.not_lt.mpr short long
  · rename_i short
    rw [if_neg (by omega), Except.ok.injEq]
    exact (and_iff_right (Nat.not_lt.mp short)).symm

@[simp] theorem shown_text (s : String) : shown (.text s) = .ok (Text.quoted s) := by
  simp [shown]

end Conveyor.Value
