import Conveyor.Text.Hex
import Conveyor.Value.Display

/-!
# The JSON text of a value

A value as a JSON document in ASCII: two blanks of indentation a level, one item or entry a line,
and every character beyond ASCII written as one or two escaped UTF-16 units.  Keys keep their
order.  Dates and byte strings have no JSON text.
-/

set_option autoImplicit false

namespace Conveyor.Value

/-- One UTF-16 unit as an escape. -/
def jsonUnit (n : Nat) : List Char := '\\' :: 'u' :: Text.hex 4 n

/-- One character inside a JSON text. -/
def jsonChar (c : Char) : List Char :=
  if c = '"' ∨ c = '\\' then ['\\', c]
  else if c = '\n' then ['\\', 'n']
  else if c = '\r' then ['\\', 'r']
  else if c = '\t' then ['\\', 't']
  else if c = '\x0c' then ['\\', 'f']
  else if c = '\x08' then ['\\', 'b']
  else if 0x20 ≤ c.toNat ∧ c.toNat < 0x7f then [c]
  else if c.toNat < 0x10000 then jsonUnit c.toNat
  else
    let rest := c.toNat - 0x10000
    jsonUnit (0xd800 + rest / 0x400) ++ jsonUnit (0xdc00 + rest % 0x400)

/-- A text as a JSON string. -/
def jsonText (s : String) : String :=
  String.ofList ('"' :: s.toList.flatMap jsonChar ++ ['"'])

/-- The start of a line at some depth. -/
def jsonLine (depth : Nat) : String := String.ofList ('\n' :: List.replicate (2 * depth) ' ')

/-- Parts between brackets, each on a line of its own. -/
def jsonBlock (depth : Nat) (opening closing : String) (parts : List String) : String :=
  if parts.isEmpty then opening ++ closing
  else
    opening ++ ",".intercalate (parts.map (jsonLine (depth + 1) ++ ·)) ++ jsonLine depth ++ closing

/-- A double as a JSON number, or the name of what is no number. -/
def jsonDouble (x : Binary64) : String :=
  match x with
  | .nan _ => "NaN"
  | .infinite negative => if negative then "-Infinity" else "Infinity"
  | _ => x.text

/-- A key of a mapping as a text. -/
def jsonKey : Value → Except Failure String
  | .text s => .ok s
  | .null => .ok "null"
  | .bool b => .ok (if b then "true" else "false")
  | .int n => numeral n
  | .float x => .ok (jsonDouble x)
  | _ => .error (.wrongKind "a key of a JSON object is a scalar")

mutual

/-- The JSON text of a value that stands at some depth. -/
def jsonAt (depth : Nat) : Value → Except Failure String
  | .null => .ok "null"
  | .bool b => .ok (if b then "true" else "false")
  | .int n => numeral n
  | .float x => .ok (jsonDouble x)
  | .text s => .ok (jsonText s)
  | .list xs | .tuple xs => do return jsonBlock depth "[" "]" (← jsonItems (depth + 1) xs)
  | .map es => do return jsonBlock depth "\x7b" "\x7d" (← jsonEntries (depth + 1) es)
  | .bytes _ | .date _ | .moment _ => .error (.wrongKind "value has no JSON text")

/-- The JSON texts of a row of values. -/
def jsonItems (depth : Nat) : List Value → Except Failure (List String)
  | [] => .ok []
  | x :: xs => do return (← jsonAt depth x) :: (← jsonItems depth xs)

/-- The JSON texts of a mapping's entries. -/
def jsonEntries (depth : Nat) : List (Value × Value) → Except Failure (List String)
  | [] => .ok []
  | (k, v) :: es => do
    return (jsonText (← jsonKey k) ++ ": " ++ (← jsonAt depth v)) :: (← jsonEntries depth es)

end

/-- The JSON text of a value. -/
def json (v : Value) : Except Failure String := jsonAt 0 v

end Conveyor.Value
