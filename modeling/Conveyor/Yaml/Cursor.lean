import Conveyor.Failure
import Conveyor.Yaml.Character

/-!
# Reading characters

A cursor is what is left of a text together with the place that it was reached at.  Reading is a
state transformer on cursors that may fail; a failure is either a fault of the form or a content
that denotes nothing.
-/

set_option autoImplicit false

namespace Conveyor.Yaml

/-- Why a text has no meaning. -/
inductive Fault where
  | form
  | content (mismatch : Mismatch)
  deriving DecidableEq, Repr

/-- What is left of a text, and the place in it. -/
structure Cursor where
  rest : List Char
  line : Nat := 0
  column : Nat := 0
  index : Nat := 0
  deriving DecidableEq, Repr

namespace Cursor

/-- The cursor after a character.  A byte order mark takes no column. -/
def step (cursor : Cursor) (c : Char) (rest : List Char) : Cursor :=
  let index := cursor.index + 1
  if isBreak c then ⟨rest, cursor.line + 1, 0, index⟩
  else ⟨rest, cursor.line, if c = '\ufeff' then cursor.column else cursor.column + 1, index⟩

/-- The cursor after a number of characters. -/
def skip : Nat → Cursor → Cursor
  | 0, cursor => cursor
  | n + 1, cursor =>
    match cursor.rest with
    | [] => cursor
    | c :: rest => skip n (cursor.step c rest)

/-- The character a number of places ahead. -/
def ahead (cursor : Cursor) (n : Nat) : Option Char := cursor.rest[n]?

/-- Whether a document mark stands at the cursor, followed by a gap. -/
def atMark (cursor : Cursor) (mark : Char) : Bool :=
  [mark, mark, mark].isPrefixOf cursor.rest && atGap (cursor.rest.drop 3)

/-- Whether one of the two document marks stands at the cursor. -/
def atDocumentMark (cursor : Cursor) : Bool := cursor.atMark '-' || cursor.atMark '.'

end Cursor

/-- Reading characters. -/
abbrev Scan := StateT Cursor (Except Fault)

namespace Scan

/-- Fails on the form of the text. -/
def fail {α : Type} : Scan α := throw .form

/-- The next character, without reading it. -/
def peek : Scan (Option Char) := do return (← get).rest.head?

/-- Reads a number of characters. -/
def skip (n : Nat) : Scan Unit := modify (Cursor.skip n)

/-- Reads all characters of a class, as far as they go. -/
def takeWhile (p : Char → Bool) : Scan (List Char) := do
  let cursor ← get
  let run := cursor.rest.takeWhile p
  set (cursor.skip run.length)
  return run

/-- Skips all characters of a class, as far as they go. -/
def skipWhile (p : Char → Bool) : Scan Unit := do
  let _ ← takeWhile p

/-- Skips blanks. -/
def skipBlanks : Scan Unit := skipWhile (· = ' ')

/-- Skips a comment, if one starts here. -/
def skipComment : Scan Unit := do
  if (← peek) = some '#' then skipWhile fun c => !isBreak c

/-- Reads a line end, if there is one.  All line ends but the two separators count as a line
feed. -/
def lineEnd : Scan (List Char) := do
  match ← peek with
  | some c =>
    if isBreak c then
      skip 1
      return [if c = '\u2028' ∨ c = '\u2029' then c else '\n']
    else return []
  | none => return []

/-- Whether the cursor is at the end of a line or of the text. -/
def isAtLineEnd : Scan Bool := do return atLineEnd (← get).rest

/-- Whether the cursor is at a blank or at the end of a line or of the text. -/
def isAtBlank : Scan Bool := do
  return (← peek) = some ' ' || atLineEnd (← get).rest

/-- Whether the cursor is at a gap or at the end of the text. -/
def isAtGap : Scan Bool := do return atGap (← get).rest

/-- Skips blanks and a comment up to the end of the line, and the line end. -/
def restOfLine : Scan Unit := do
  skipBlanks
  skipComment
  if ← isAtLineEnd then
    let _ ← lineEnd
  else fail

end Scan

end Conveyor.Yaml
