import Conveyor.Text.Range

/-!
# Blank characters

Names are judged after their blank ends are cut off: a name that holds blank characters only
counts as empty.  Blank means the white space of Unicode together with the four information
separators of ASCII.
-/

set_option autoImplicit false

namespace Conveyor.Text

/-- The white space of Unicode and the ASCII information separators. -/
def blankRanges : Ranges :=
  [(0x09, 0x0d), (0x1c, 0x20), (0x85, 0x85), (0xa0, 0xa0), (0x1680, 0x1680), (0x2000, 0x200a),
   (0x2028, 0x2029), (0x202f, 0x202f), (0x205f, 0x205f), (0x3000, 0x3000)]

/-- Whether a character is blank. -/
def isBlank (c : Char) : Bool := blankRanges.holds c

/-- A text without the blank characters at its two ends. -/
def trim (s : String) : String :=
  String.ofList ((s.toList.dropWhile isBlank).reverse.dropWhile isBlank).reverse

/-- Whether a text consists of blank characters only; the empty text does. -/
def isBlankText (s : String) : Bool := s.toList.all isBlank

/-- The words of a text, which blank characters stand between. -/
def words (s : String) : List String :=
  ((s.toList.splitBy fun a b => isBlank a = isBlank b).map String.ofList).filter (!isBlankText ·)

end Conveyor.Text
