/-!
# Base sixty-four

Byte strings are written with the sixty-four letters, digits and signs of the usual alphabet, in
lines of seventy-six characters.  Reading skips every character outside the alphabet.
-/

set_option autoImplicit false

namespace Conveyor.Yaml.Base64

/-- The character for a number below sixty-four. -/
def letter (n : Nat) : Char :=
  if n < 26 then Char.ofNat (0x41 + n)
  else if n < 52 then Char.ofNat (0x61 + (n - 26))
  else if n < 62 then Char.ofNat (0x30 + (n - 52))
  else if n = 62 then '+' else '/'

/-- The number that a character of the alphabet stands for. -/
def letterValue? (c : Char) : Option Nat :=
  if 'A' ≤ c ∧ c ≤ 'Z' then some (c.toNat - 0x41)
  else if 'a' ≤ c ∧ c ≤ 'z' then some (c.toNat - 0x61 + 26)
  else if '0' ≤ c ∧ c ≤ '9' then some (c.toNat - 0x30 + 52)
  else if c = '+' then some 62
  else if c = '/' then some 63
  else none

/-- Groups of four characters for every three octets, the last group filled up with `=`. -/
def encode : List UInt8 → List Char
  | [] => []
  | [a] =>
    let n := a.toNat * 16
    [letter (n / 64), letter (n % 64), '=', '=']
  | [a, b] =>
    let n := (a.toNat * 256 + b.toNat) * 4
    [letter (n / 4096), letter (n / 64 % 64), letter (n % 64), '=']
  | a :: b :: c :: rest =>
    let n := (a.toNat * 256 + b.toNat) * 256 + c.toNat
    letter (n / 262144) :: letter (n / 4096 % 64) :: letter (n / 64 % 64) :: letter (n % 64)
      :: encode rest

/-- Text in lines of a width, each ended by a line feed; `room` is what is left of the line. -/
def wrap (width : Nat) : Nat → List Char → List Char
  | _, [] => []
  | room, [c] => if room = 0 then ['\n', c, '\n'] else [c, '\n']
  | 0, c :: rest => '\n' :: c :: wrap width (width - 1) rest
  | room + 1, c :: rest => c :: wrap width room rest

/-- A byte string in lines of seventy-six characters. -/
def encodeLines (octets : List UInt8) : List Char := wrap 76 76 (encode octets)

/-- The octets of characters of the alphabet; `sign` is the place in the group of four, `left` what
the last character left over, `pads` the number of signs of padding in a row.  Reading ends at the
padding that completes a group. -/
def decodeGroups : Nat → Nat → Nat → List Char → Option (List UInt8)
  | sign, _, _, [] => if sign = 0 then some [] else none
  | sign, left, pads, c :: rest =>
    if c = '=' then
      if 2 ≤ sign ∧ 4 ≤ sign + (pads + 1) then some []
      else decodeGroups sign left (pads + 1) rest
    else
      match letterValue? c with
      | none => decodeGroups sign left pads rest
      | some n =>
        match sign with
        | 0 => decodeGroups 1 n 0 rest
        | 1 => (decodeGroups 2 (n % 16) 0 rest).map (UInt8.ofNat (left * 4 + n / 16) :: ·)
        | 2 => (decodeGroups 3 (n % 4) 0 rest).map (UInt8.ofNat (left * 16 + n / 4) :: ·)
        | _ => (decodeGroups 0 0 0 rest).map (UInt8.ofNat (left * 64 + n) :: ·)

/-- The octets that a text stands for; `none` if its last group is not complete. -/
def decode? (s : List Char) : Option (List UInt8) := decodeGroups 0 0 0 s

end Conveyor.Yaml.Base64
