/-!
# Reading octets as a text

A text is written as octets, one to four for a character.  Octets that are no written form of any
character are read as the replacement character: a character that is broken off counts once for all
the octets that fit it, and every other octet counts on its own.
-/

set_option autoImplicit false

namespace Conveyor.Text.Utf8

/-- The octets of a character. -/
def ofChar (c : Char) : List Nat := (String.singleton c).toUTF8.toList.map UInt8.toNat

/-- The character for octets that are no written form. -/
def replacement : Char := Char.ofNat 0xfffd

/-- For the first octet of a character: the number of octets that follow, the bits of the code point
that it holds, and the least and the greatest octet that may come second. -/
def lead? (o : Nat) : Option (Nat × Nat × Nat × Nat) :=
  if o < 0x80 then some (0, o, 0, 0)
  else if 0xc2 ≤ o ∧ o < 0xe0 then some (1, o - 0xc0, 0x80, 0xbf)
  else if o = 0xe0 then some (2, 0, 0xa0, 0xbf)
  else if o = 0xed then some (2, 0xd, 0x80, 0x9f)
  else if 0xe1 ≤ o ∧ o < 0xf0 then some (2, o - 0xe0, 0x80, 0xbf)
  else if o = 0xf0 then some (3, 0, 0x90, 0xbf)
  else if 0xf1 ≤ o ∧ o < 0xf4 then some (3, o - 0xf0, 0x80, 0xbf)
  else if o = 0xf4 then some (3, 4, 0x80, 0x8f)
  else none

/-- Reads octets, of which some may have begun a character: the number of octets that it still
needs, its bits so far and the bounds of the next octet. -/
def decodeFrom : Option (Nat × Nat × Nat × Nat) → List Nat → List Char
  | none, [] => []
  | some _, [] => [replacement]
  | pending, o :: rest =>
    match pending with
    | some (need, bits, low, high) =>
      if low ≤ o && o ≤ high then
        let bits := bits * 64 + (o - 0x80)
        if need = 1 then Char.ofNat bits :: decodeFrom none rest
        else decodeFrom (some (need - 1, bits, 0x80, 0xbf)) rest
      else replacement :: begin? o rest
    | none => begin? o rest
where
  /-- Reads octets of which the first one begins a character. -/
  begin? (o : Nat) (rest : List Nat) : List Char :=
    match lead? o with
    | some (0, bits, _, _) => Char.ofNat bits :: decodeFrom none rest
    | some start => decodeFrom (some start) rest
    | none => replacement :: decodeFrom none rest

/-- The text that octets stand for. -/
def decode (octets : List Nat) : List Char := decodeFrom none octets

end Conveyor.Text.Utf8
