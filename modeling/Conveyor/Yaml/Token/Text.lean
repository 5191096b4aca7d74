import Conveyor.Text.Hex
import Conveyor.Yaml.Cursor

/-!
# Reading scalars

The four ways to write a scalar: plain, between apostrophes, between quotation marks, and as a
block of lines.  In all of them a single line end between words stands for a blank, except in a
literal block; a line end followed by empty lines stands for the empty lines.
-/

set_option autoImplicit false

namespace Conveyor.Yaml

open Scan

/-- The text of a line end that is followed by empty lines: a single line feed becomes a blank. -/
def foldedBreak (lineEnd : List Char) (emptyLines : List Char) : List Char :=
  if lineEnd ≠ ['\n'] then lineEnd ++ emptyLines
  else if emptyLines.isEmpty then [' ']
  else emptyLines

namespace Plain

/-- The characters that end a plain scalar inside brackets. -/
def isFlowIndicator (c : Char) : Bool := ",?[]\x7b\x7d".toList.contains c

/-- The characters that may follow the colon of a key inside brackets. -/
def endsFlowKey (c : Char) : Bool := ",[]\x7b\x7d".toList.contains c

/-- Whether a colon with some text after it ends a plain scalar. -/
def colonEnds (flow : Bool) (rest : List Char) : Bool :=
  atGap rest || flow && rest.head?.any endsFlowKey

/-- The longest run of characters of a plain scalar without gaps. -/
def run (flow : Bool) : List Char → List Char
  | [] => []
  | c :: rest =>
    if isGap c || c = ':' && colonEnds flow rest || flow && isFlowIndicator c then []
    else c :: run flow rest

/-- Reads the empty lines after a line end; fails to go on at a document mark. -/
def emptyLines : Nat → List Char → Scan (Option (List Char))
  | 0, lines => return some lines
  | n + 1, lines => do
    match ← peek with
    | some ' ' => skip 1; emptyLines n lines
    | _ =>
      let more ← lineEnd
      if more.isEmpty then return some lines
      else if (← get).atDocumentMark then return none
      else emptyLines n (lines ++ more)

/-- Reads what stands between two runs of a plain scalar: its text, if the scalar may go on, and
whether a line ended. -/
def gap : Scan (Option (List Char) × Bool) := do
  let blanks ← takeWhile (· = ' ')
  let ended ← lineEnd
  if ended.isEmpty then return (if blanks.isEmpty then none else some blanks, false)
  else if (← get).atDocumentMark then return (none, true)
  else
    match ← emptyLines ((← get).rest.length + 1) [] with
    | none => return (none, true)
    | some lines => return (some (foldedBreak ended lines), true)

/-- Reads what stands between two runs; its text is missing if the scalar does not go on. -/
def link (flow : Bool) (indent : Nat) : Scan (Option (List Char) × Bool) := do
  let (between, ended) ← gap
  let cursor ← get
  if cursor.rest.head? = some '#' ∨ (!flow ∧ cursor.column < indent) then return (none, ended)
  else return (between, ended)

/-- Reads the runs of a plain scalar, with `before` standing between what was read and the next
run.  The answer tells whether a line ended after the last run. -/
def runs (flow : Bool) (indent : Nat) : Nat → (text before : List Char) → (ended : Bool) →
    Scan (List Char × Bool)
  | 0, text, _, ended => return (text, ended)
  | n + 1, text, before, ended => do
    let cursor ← get
    let next := run flow cursor.rest
    if cursor.rest.head? = some '#' ∨ next.isEmpty then return (text, ended)
    skip next.length
    let text := text ++ before ++ next
    match ← link flow indent with
    | (none, ended) => return (text, ended)
    | (some between, ended) => runs flow indent n text between ended

end Plain

/-- Reads a plain scalar whose lines have to be indented by a number of columns.  The answer tells
whether a line ended after it. -/
def plainScalar (flow : Bool) (indent : Nat) : Scan (List Char × Bool) := do
  Plain.runs flow indent ((← get).rest.length + 1) [] [] false

namespace Quote

/-- The characters between two words on a line. -/
def isBlank (c : Char) : Bool := c = ' ' || c = '\t'

/-- The characters that are read as a word. -/
def isWordChar (c : Char) : Bool := !(isGap c || c = '"' || c = '\'' || c = '\\')

/-- Reads the empty lines after a line end; a document mark must not stand there. -/
def emptyLines : Nat → List Char → Scan (List Char)
  | 0, lines => return lines
  | n + 1, lines => do
    if (← get).atDocumentMark then fail
    skipWhile isBlank
    let more ← lineEnd
    if more.isEmpty then return lines else emptyLines n (lines ++ more)

/-- Reads blanks and line ends between words. -/
def gap : Scan (List Char) := do
  let blanks ← takeWhile isBlank
  let ended ← lineEnd
  if ended.isEmpty then
    if (← peek).isNone then fail else return blanks
  else return foldedBreak ended (← emptyLines ((← get).rest.length + 1) [])

/-- The characters that the letters of short escapes stand for. -/
def shortEscapes : List (Char × Char) :=
  [('0', '\x00'), ('a', '\x07'), ('b', '\x08'), ('t', '\t'), ('\t', '\t'), ('n', '\n'),
   ('v', '\x0b'), ('f', '\x0c'), ('r', '\r'), ('e', '\x1b'), (' ', ' '), ('"', '"'),
   ('\\', '\\'), ('/', '/'), ('N', '\x85'), ('_', '\xa0'), ('L', '\u2028'), ('P', '\u2029')]

/-- The number of hexadecimal digits after the letters of numeric escapes. -/
def numericEscapes : List (Char × Nat) := [('x', 2), ('u', 4), ('U', 8)]

/-- Checks that a number can be a code point. -/
def checkCodePoint (n : Nat) : Except Fault Unit :=
  if n < 0x110000 then .ok ()
  else if n < 0x80000000 then
    .error (.content ⟨.content, "chr() arg not in range(0x110000)"⟩)
  else .error (.content ⟨.size, "Python int too large to convert to C int"⟩)

/-- The code unit of the second half of a character, if it is what comes next, and the number of
characters that write it. -/
def secondHalf? (rest : List Char) : Option (Nat × Nat) := do
  match rest with
  | '\\' :: letter :: digits =>
    let width ← numericEscapes.lookup letter
    let n ← Text.hexNumber? (digits.take width)
    if digits.length < width || n < 0xdc00 || 0xe000 ≤ n then none
    else some (n, width + 2)
  | _ => none

/-- The character whose first half is a code unit.  A text here holds whole characters only, so two
halves in a row are one character, and a half that stands alone, which denotes no character, is left
out: a null character stands for it. -/
def wholeCharacter (first : Nat) : Scan Char := do
  let rest := (← get).rest
  match if 0xd800 ≤ first && first < 0xdc00 then secondHalf? rest else none with
  | some (second, size) =>
    skip size
    return Char.ofNat (0x10000 + (first - 0xd800) * 0x400 + (second - 0xdc00))
  | none => return Char.ofNat first

/-- Reads an escape after its backslash. -/
def escape : Scan (List Char) := do
  match ← peek with
  | none => fail
  | some c =>
    match shortEscapes.lookup c, numericEscapes.lookup c with
    | some meaning, _ => skip 1; return [meaning]
    | none, some width =>
      skip 1
      let digits := (← get).rest.take width
      match if digits.length = width then Text.hexNumber? digits else none with
      | some n =>
        checkCodePoint n
        skip width
        return [← wholeCharacter n]
      | none => fail
    | none, none =>
      if isBreak c then
        let _ ← lineEnd
        emptyLines ((← get).rest.length + 1) []
      else fail

/-- Reads the rest of a quoted scalar with its closing quote. -/
def body (double : Bool) : Nat → List Char → Scan (List Char)
  | 0, _ => fail
  | n + 1, text => do
    match ← peek with
    | none => fail
    | some c =>
      if c = '"' ∧ double then skip 1; return text
      else if c = '\'' ∧ !double then
        if (← get).ahead 1 = some '\'' then skip 2; body double n (text ++ ['\''])
        else skip 1; return text
      else if c = '\\' ∧ double then skip 1; body double n (text ++ (← escape))
      else if isGap c then body double n (text ++ (← gap))
      else
        let word ← takeWhile isWordChar
        if word.isEmpty then skip 1; body double n (text ++ [c])
        else body double n (text ++ word)

end Quote

/-- Reads a quoted scalar. -/
def quotedScalar (double : Bool) : Scan (List Char) := do
  skip 1
  Quote.body double ((← get).rest.length + 1) []

namespace Block

/-- How line ends at the end of a block count. -/
inductive Chomping where
  | strip
  | clip
  | keep
  deriving DecidableEq, Repr

/-- Reads a chomping indicator, if there is one. -/
def chomping : Scan (Option Chomping) := do
  match ← peek with
  | some '+' => skip 1; return some .keep
  | some '-' => skip 1; return some .strip
  | _ => return none

/-- Reads an indentation indicator, if there is one; it is not zero. -/
def increment : Scan (Option Nat) := do
  match ← peek with
  | some c =>
    if c.isDigit then
      if c = '0' then fail
      skip 1
      return some (c.toNat - 0x30)
    else return none
  | none => return none

/-- Reads the indicators of a block, in either order. -/
def header : Scan (Chomping × Option Nat) := do
  let first ← chomping
  let size ← increment
  let chomp ← match first with
    | some c => pure (some c)
    | none => if size.isSome then chomping else pure none
  if ← isAtBlank then return (chomp.getD .clip, size) else fail

/-- Reads leading empty lines; the answer holds the greatest number of blanks in one of them or
before the first line. -/
def leadingLines : Nat → (lines : List Char) → (most : Nat) → Scan (List Char × Nat)
  | 0, lines, most => return (lines, most)
  | n + 1, lines, most => do
    match ← peek with
    | some ' ' =>
      skip 1
      leadingLines n lines (max most (← get).column)
    | _ =>
      let more ← lineEnd
      if more.isEmpty then return (lines, most) else leadingLines n (lines ++ more) most

/-- Skips the indentation of a line. -/
def skipIndent (indent : Nat) : Scan Unit := do
  let cursor ← get
  let blanks := (cursor.rest.takeWhile (· = ' ')).length
  skip (min blanks (indent - cursor.column))

/-- Reads empty lines and the indentation of the line after them. -/
def emptyLines (indent : Nat) : Nat → List Char → Scan (List Char)
  | 0, lines => return lines
  | n + 1, lines => do
    skipIndent indent
    let more ← lineEnd
    if more.isEmpty then return lines else emptyLines indent n (lines ++ more)

/-- Whether a line starts with a blank. -/
def isLoose (c : Option Char) : Bool := c = some ' ' || c = some '\t'

/-- Reads a line, its end and the empty lines after it; the first answer tells whether the line
starts with a blank. -/
def line (indent : Nat) : Scan (Bool × List Char × List Char × List Char) := do
  let startsLoose := isLoose (← peek)
  let text ← takeWhile fun c => !isBreak c
  let ended ← lineEnd
  return (startsLoose, text, ended, ← emptyLines indent ((← get).rest.length + 1) [])

/-- Whether the cursor is at a line of the block. -/
def isAtLine (indent : Nat) : Scan Bool := do
  let cursor ← get
  return cursor.column = indent && !cursor.rest.isEmpty

/-- Reads the lines of a block; `lines` are the empty lines before the next one.  The answer holds
the text, the last line end and the empty lines after it. -/
def body (folded : Bool) (indent : Nat) : Nat → (text lines : List Char) →
    Scan (List Char × List Char × List Char)
  | 0, text, lines => return (text, [], lines)
  | n + 1, text, lines => do
    let (startsLoose, here, ended, after) ← line indent
    let text := text ++ lines ++ here
    let lines := after
    if ← isAtLine indent then
      let isFolded := folded && ended = ['\n'] && !startsLoose && !isLoose (← peek)
      let between := if !isFolded then ended else if lines.isEmpty then [' '] else []
      body folded indent n (text ++ between) lines
    else return (text, ended, lines)

/-- Reads what stands in front of the first line: the empty lines, and the indentation, which is
looked for if no hint tells it. -/
def leading (least : Nat) (size : Option Nat) : Scan (List Char × Nat) := do
  let fuel := (← get).rest.length + 1
  match size with
  | none =>
    let (lines, most) ← leadingLines fuel [] 0
    return (lines, max least most)
  | some n => return (← emptyLines (least + n - 1) fuel [], least + n - 1)

/-- Reads all lines of a block after the empty lines in front of them. -/
def all (folded : Bool) (indent : Nat) (lines : List Char) :
    Scan (List Char × List Char × List Char) := do
  if ← isAtLine indent then body folded indent ((← get).rest.length + 1) [] lines
  else return ([], [], lines)

/-- The text of a block, as far as its last line ends count. -/
def counted (chomp : Chomping) (text ended after : List Char) : List Char :=
  text ++ (if chomp = .strip then [] else ended) ++ (if chomp = .keep then after else [])

end Block

/-- Reads a block scalar below an indentation. -/
def blockScalar (folded : Bool) (least : Nat) : Scan (List Char) := do
  skip 1
  let (chomp, size) ← Block.header
  restOfLine
  let (lines, indent) ← Block.leading least size
  let (text, ended, after) ← Block.all folded indent lines
  return Block.counted chomp text ended after

end Conveyor.Yaml
