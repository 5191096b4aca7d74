import Conveyor.Text.Hex
import Conveyor.Text.Printable

/-!
# Quoted text

Messages show a text between quotes, so that blanks at its ends and characters without a glyph
can be seen.  The apostrophe is the usual quote; a text that holds an apostrophe and no quotation
mark is put between quotation marks instead.
-/

set_option autoImplicit false

namespace Conveyor.Text

/-- The quote that encloses a text. -/
def quoteFor (s : List Char) : Char :=
  if s.contains '\'' && !s.contains '"' then '"' else '\''

/-- The code point of a character as an escape, in the least of the widths two, four and eight. -/
def codePointEscape (c : Char) : List Char :=
  if c.toNat < 0x100 then '\\' :: 'x' :: hex 2 c.toNat
  else if c.toNat < 0x10000 then '\\' :: 'u' :: hex 4 c.toNat
  else '\\' :: 'U' :: hex 8 c.toNat

/-- One character as it stands between quotes. -/
def quotedChar (quote c : Char) : List Char :=
  if c = quote ∨ c = '\\' then ['\\', c]
  else if c = '\n' then ['\\', 'n']
  else if c = '\r' then ['\\', 'r']
  else if c = '\t' then ['\\', 't']
  else if isPrintable c then [c]
  else codePointEscape c

/-- A text between quotes, with the quote and all that has no glyph escaped. -/
def quoted (s : String) : String :=
  let chars := s.toList
  let quote := quoteFor chars
  String.ofList (quote :: chars.flatMap (quotedChar quote) ++ [quote])

end Conveyor.Text
