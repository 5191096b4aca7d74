import Conveyor.Terminal.Markup
import Conveyor.Terminal.Width

/-!
# Lines on a terminal

Text is laid out in lines of at most a given number of cells.  A line is broken between words, and
a word keeps the blanks that follow it; a word that no line can hold is cut wherever a line is full.
-/

set_option autoImplicit false

namespace Conveyor.Terminal

/-- The number of cells from one tab stop to the next. -/
def tabWidth : Nat := 8

/-- The first tab stop that is not in front of a column. -/
def nextStop (column : Nat) : Nat := (column + (tabWidth - 1)) / tabWidth * tabWidth

/-- The pieces of a line between its tabs, each with at least one blank up to the next tab stop
behind it; the first piece begins at some column. -/
def untabbed (column : Nat) : List (List Char) → List Char
  | [] => []
  | [piece] => piece
  | piece :: rest =>
    let reached := column + width (piece ++ [' '])
    piece ++ ' ' :: List.replicate (nextStop reached - reached) ' '
      ++ untabbed (nextStop reached) rest

/-- Whether a line has ink at its start. -/
def startsInked : List Char → Bool
  | [] => false
  | c :: _ => !Text.isBlank c

/-- A line as runs, each of some ink and the blanks after it; blanks at the start are a run. -/
def runs : List Char → List (List Char)
  | [] => []
  | c :: rest =>
    match runs rest with
    | [] => [[c]]
    | run :: more =>
      if Text.isBlank c && startsInked run then [c] :: run :: more else (c :: run) :: more

/-- The words of a line with the blanks after them; blanks at the start belong to the first. -/
def words (line : List Char) : List (List Char) :=
  match runs line with
  | [] => []
  | first :: rest =>
    if startsInked first then first :: rest
    else
      match rest with
      | [] => []
      | second :: more => (first ++ second) :: more

/-- The number of cells of a word without the blanks after it. -/
def inkWidth (word : List Char) : Nat := width (word.reverse.dropWhile Text.isBlank).reverse

/-- Cuts clusters wherever a line is full; the line that they begin with holds something already. -/
def chop (columns : Nat) (line : List Char) (used : Nat) : List Cluster → List (List Char)
  | [] => [line]
  | k :: rest =>
    if columns < used + k.cells then line :: chop columns k.chars k.cells rest
    else chop columns (line ++ k.chars) (used + k.cells) rest

/-- Lays words out in lines; the first line holds something already. -/
def fill (columns : Nat) (line : List Char) (used : Nat) : List (List Char) → List (List Char)
  | [] => [line]
  | word :: rest =>
    if inkWidth word + used ≤ columns then fill columns (line ++ word) (used + width word) rest
    else if columns < inkWidth word then
      let pieces := chop columns [] 0 (Cluster.ofChars word)
      let last := pieces.getLast?.getD []
      (if line.isEmpty then [] else [line]) ++ pieces.dropLast
        ++ fill columns last (width last) rest
    else line :: fill columns word (width word) rest

/-- Takes blanks from the end of a line, but no more than it has characters beside those that the
columns are enough for. -/
def trimEnd (columns : Nat) (line : List Char) : List Char :=
  let blanks := (line.reverse.takeWhile Text.isBlank).length
  line.take (line.length - min blanks (line.length - columns))

/-- The clusters that some columns hold; a cluster that is cut leaves a blank. -/
def cropped (columns : Nat) : List Cluster → List Char
  | [] => []
  | k :: rest =>
    if k.cells ≤ columns then k.chars ++ cropped (columns - k.cells) rest
    else List.replicate columns ' '

/-- A line cut off where the columns end. -/
def crop (columns : Nat) (line : List Char) : List Char :=
  if width line ≤ columns then line else cropped columns (Cluster.ofChars line)

/-- The lines that one line of a text is laid out in. -/
def wrap (columns : Nat) (line : List Char) : List (List Char) :=
  let line := untabbed 0 (line.splitOn '\t')
  let broken :=
    match words line with
    | [] => [line]
    | found => fill columns [] 0 found
  broken.map fun l => crop columns (trimEnd columns l)

/-- The lines of a text with tags.  Where there are no columns there are no lines. -/
def lines (columns : Nat) (s : String) : Except Failure (List String) := do
  if columns = 0 then return []
  let text ← plain s
  return ((text.toList.splitOn '\n').flatMap (wrap columns)).map String.ofList

/-- A text with tags as it is printed, every line with its end. -/
def printed (columns : Nat) (s : String) : Except Failure String := do
  return String.join ((← lines columns s).map (· ++ "\n"))

end Conveyor.Terminal
