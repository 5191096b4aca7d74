import Conveyor.Terminal.Width.Table

/-!
# Cells of a terminal

A terminal shows text in cells of one width.  Most characters take one cell; the wide characters of
East Asian scripts and most pictures take two, and characters that only change the one before them
take none, and neither do control characters.

Characters can work together.  A joiner makes the character behind it one with the character before
it, and a selector shows the character before it as a picture, which can make it wider.  Clusters
are the pieces that a text can be cut into without changing what is shown.
-/

set_option autoImplicit false

namespace Conveyor.Terminal

/-- The character that joins its two neighbours. -/
def joiner : Char := '\u200d'

/-- The character that shows the one before it as a picture. -/
def pictureSelector : Char := '\ufe0f'

/-- The number of cells of a character. -/
def cells (c : Char) : Nat :=
  if cellLessRanges.holds c then 0 else if wideRanges.holds c then 2 else 1

/-- The number of cells that a character gains where it is shown as a picture. -/
def gain (c : Char) : Nat := if widenedRanges.holds c then 1 else 0

/-- The number of cells of a row of characters behind others, the last of which with a cell of its
own may still be shown as a picture. -/
def widthFrom (last : Option Char) : List Char → Nat
  | [] => 0
  | c :: rest =>
    if c = joiner then
      match rest with
      | _ :: after => widthFrom last after
      | [] => 0
    else if c = pictureSelector then (last.map gain).getD 0 + widthFrom none rest
    else if cells c = 0 then widthFrom last rest
    else cells c + widthFrom (some c) rest

/-- The number of cells of a row of characters. -/
def width (s : List Char) : Nat := widthFrom none s

/-- Characters that are shown as one, with the number of cells that they take. -/
structure Cluster where
  chars : List Char
  cells : Nat
  deriving DecidableEq, Repr

namespace Cluster

/-- The cluster of a single character. -/
def ofChar (c : Char) : Cluster := ⟨[c], Terminal.cells c⟩

/-- A cluster with more characters at its end, which add some cells. -/
def extend (k : Cluster) (chars : List Char) (more : Nat) : Cluster :=
  ⟨k.chars ++ chars, k.cells + more⟩

/-- The character of a cluster that a selector behind it shows as a picture. -/
def shownBy (c : Char) : Option Char := if Terminal.cells c = 0 then none else some c

/-- The clusters of a text behind one that is not complete yet. -/
def ofCharsFrom (k : Cluster) (last : Option Char) : List Char → List Cluster
  | [] => [k]
  | c :: rest =>
    if c = joiner then
      match rest with
      | d :: after => ofCharsFrom (k.extend [c, d] 0) last after
      | [] => [k.extend [c] 0]
    else if c = pictureSelector then
      ofCharsFrom (k.extend [c] ((last.map gain).getD 0)) none rest
    else if Terminal.cells c = 0 then ofCharsFrom (k.extend [c] 0) last rest
    else k :: ofCharsFrom (ofChar c) (some c) rest

/-- The clusters of a text. -/
def ofChars : List Char → List Cluster
  | [] => []
  | c :: rest => ofCharsFrom (ofChar c) (shownBy c) rest

end Cluster

end Conveyor.Terminal
