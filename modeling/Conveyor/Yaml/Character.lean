/-!
# Character classes of YAML

Lines end at a line feed, a next-line character, a line separator or a paragraph separator; a
carriage return never reaches this library, since reading a file turns it into a line feed.
-/

set_option autoImplicit false

namespace Conveyor.Yaml

/-- The characters that end a line. -/
def isBreak (c : Char) : Bool :=
  c = '\n' || c = '\x85' || c = '\u2028' || c = '\u2029'

/-- The characters that end a token: blanks, tabs and the ends of lines. -/
def isGap (c : Char) : Bool := c = ' ' || c = '\t' || isBreak c

/-- Whether a text is at its end or continues with a gap. -/
def atGap : List Char → Bool
  | [] => true
  | c :: _ => isGap c

/-- Whether a text is at its end or at the end of a line. -/
def atLineEnd : List Char → Bool
  | [] => true
  | c :: _ => isBreak c

/-- The characters that a YAML text may hold. -/
def isAllowed (c : Char) : Bool :=
  c = '\t' || c = '\n' || c = '\r' || ('\x20' ≤ c && c ≤ '\x7e') || c = '\x85'
    || ('\xa0' ≤ c && c ≤ '\ufffd') || 0x10000 ≤ c.toNat

/-- The letters, digits, hyphens and underscores that make up names of anchors, tags and
directives. -/
def isNameChar (c : Char) : Bool := c.isDigit || c.isAlpha || c = '-' || c = '_'

end Conveyor.Yaml
