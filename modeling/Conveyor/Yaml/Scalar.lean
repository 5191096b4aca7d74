import Conveyor.Value.Display
import Conveyor.Yaml.Base64
import Conveyor.Yaml.Character
import Conveyor.Yaml.Implicit

/-!
# Scalars as they are written

A scalar value becomes a text with a tag.  The text is written plain where a reader would give it
the same tag back, in a literal block where it has several lines, and between quotes otherwise.
Which of these forms a text admits is decided by the characters that it starts with, ends with and
holds side by side.
-/

set_option autoImplicit false

namespace Conveyor.Yaml

/-- The forms of a written scalar. -/
inductive Style where
  | plain
  | single
  | double
  | literal
  deriving DecidableEq, Repr

/-- A scalar to be written; `inLines` asks for a literal block. -/
structure Scalar where
  text : List Char
  tag : Tag
  inLines : Bool
  deriving DecidableEq, Repr

namespace Scalar

/-- The text of a double, with a point also where an exponent follows. -/
def floatText : Binary64 → List Char
  | .nan _ => ".nan".toList
  | .infinite s => if s then "-.inf".toList else ".inf".toList
  | x =>
    let s := x.text.toList
    if s.contains '.' then s
    else s.takeWhile (· ≠ 'e') ++ (if s.contains 'e' then ".0".toList else [])
      ++ s.dropWhile (· ≠ 'e')

/-- The scalar of a value that is neither a list nor a mapping. -/
def ofValue : Value → Except Failure Scalar
  | .null => .ok ⟨"null".toList, .null, false⟩
  | .bool b => .ok ⟨(if b then "true" else "false").toList, .bool, false⟩
  | .int n => do return ⟨(← Value.numeral n).toList, .int, false⟩
  | .float x => .ok ⟨floatText x, .float, false⟩
  | .text s => .ok ⟨s.toList, .str, s.toList.contains '\n'⟩
  | .bytes octets => .ok ⟨Base64.encodeLines octets, .binary, true⟩
  | .date d => .ok ⟨d.text.toList, .timestamp, false⟩
  | .moment m => .ok ⟨(m.text " ").toList, .timestamp, false⟩
  | .list _ | .tuple _ | .map _ => .error (.wrongKind "a collection is no scalar")

/-! ## What the characters of a text admit -/

/-- Whether somewhere a character of the first class stands right before one of the second. -/
def hasPair (p q : Char → Bool) : List Char → Bool
  | a :: b :: rest => p a && q b || hasPair p q (b :: rest)
  | _ => false

/-- The characters that mean something at the start of a plain scalar. -/
def isIndicator (c : Char) : Bool := "#,[]\x7b\x7d&*!|>'\"%@\x60".toList.contains c

/-- Whether a text has to be escaped to be written: a control character, a byte order mark, or a
character outside the planes that are written as they are. -/
def isSpecial (c : Char) : Bool :=
  !(c = '\n' || ('\x20' ≤ c && c ≤ '\x7e') || c = '\x85'
      || (('\xa0' ≤ c && c ≤ '\ufffd') || (0x10000 ≤ c.toNat && c.toNat < 0x10ffff))
        && c ≠ '\ufeff')

/-- Whether the start of a text would be read as an indicator. -/
def startsAsIndicator : List Char → Bool
  | [] => false
  | c :: rest =>
    ['-', '-', '-'].isPrefixOf (c :: rest) || ['.', '.', '.'].isPrefixOf (c :: rest)
      || isIndicator c || ((c = '?' || c = ':' || c = '-') && atGap rest)

/-- Whether a colon, other than the first character, stands before a gap or at the end. -/
def endsKeyInside : List Char → Bool
  | [] => false
  | _ :: rest => go rest
where
  /-- The loop over the characters after the first. -/
  go : List Char → Bool
    | [] => false
    | c :: rest => c = ':' && atGap rest || go rest

/-- Whether a reader outside brackets would take the text for something else than a text. -/
def hasIndicators (s : List Char) : Bool :=
  startsAsIndicator s || endsKeyInside s || hasPair isGap (· = '#') s

/-- Whether a text has several lines. -/
def isMultiline (s : List Char) : Bool := s.any isBreak

/-- Whether the first or the last character is a blank or a line end. -/
def hasLooseEnds (s : List Char) : Bool :=
  let loose (c : Char) : Bool := c = ' ' || isBreak c
  s.head?.any loose || s.getLast?.any loose

/-- Whether a blank stands before a line end. -/
def hasBlankBeforeBreak (s : List Char) : Bool := hasPair (· = ' ') isBreak s

/-- Whether a text may be written plain. -/
def allowsPlain (s : List Char) : Bool :=
  !(hasLooseEnds s || isMultiline s || hasBlankBeforeBreak s || s.any isSpecial
      || hasIndicators s)

/-- Whether a text may be written between apostrophes. -/
def allowsSingle (s : List Char) : Bool :=
  !(hasPair isBreak (· = ' ') s || hasBlankBeforeBreak s || s.any isSpecial)

/-- Whether a text may be written as a literal block. -/
def allowsLiteral (s : List Char) : Bool :=
  !(s.isEmpty || s.getLast? = some ' ' || hasBlankBeforeBreak s || s.any isSpecial)

/-- The form in which a scalar is written; a key before a colon stays on one line. -/
def style (key : Bool) (s : Scalar) : Style :=
  if !s.inLines && implicitTag s.text = s.tag && allowsPlain s.text
      && !(key && s.text.isEmpty) then .plain
  else if s.inLines && !key && allowsLiteral s.text then .literal
  else if !s.inLines && allowsSingle s.text && !(key && isMultiline s.text) then .single
  else .double

/-- Whether a scalar in a form needs its tag in front. -/
def needsTag (s : Scalar) (style : Style) : Bool :=
  if style = .plain then implicitTag s.text ≠ s.tag else s.tag ≠ .str

/-! ## Writing -/

/-- The column after which a long line is folded at the next single blank. -/
def lineWidth : Nat := 4096

/-- A new line with blanks up to an indentation. -/
def newline (indent : Nat) : List Char := '\n' :: List.replicate indent ' '

/-- Writes a plain text from a column on; `blank` tells whether a blank was written last. -/
def foldPlain (fold : Bool) (indent : Nat) : Nat → (blank : Bool) → List Char → List Char
  | _, _, [] => []
  | column, blank, c :: rest =>
    if fold ∧ c = ' ' ∧ !blank ∧ rest.head? ≠ some ' ' ∧ lineWidth < column then
      newline indent ++ foldPlain fold indent indent false rest
    else c :: foldPlain fold indent (column + 1) (c = ' ') rest

/-- Writes a text between apostrophes from a column on; `before` is the character before. -/
def foldSingle (fold : Bool) (indent : Nat) : Nat → Option Char → List Char → List Char
  | _, _, [] => []
  | column, before, c :: rest =>
    if c = '\'' then '\'' :: '\'' :: foldSingle fold indent (column + 2) (some c) rest
    else if isBreak c then
      let first := !before.any isBreak
      let last := !rest.head?.any isBreak
      (if first && c = '\n' then ['\n'] else []) ++ [c]
        ++ (if last then List.replicate indent ' ' else [])
        ++ foldSingle fold indent indent (some c) rest
    else if fold ∧ c = ' ' ∧ before.any (· ≠ ' ') ∧ rest.head?.any (· ≠ ' ')
        ∧ lineWidth < column then
      newline indent ++ foldSingle fold indent indent (some c) rest
    else c :: foldSingle fold indent (column + 1) (some c) rest

/-- The letters of the short escapes. -/
def shortEscapes : List (Char × Char) :=
  [('\x00', '0'), ('\x07', 'a'), ('\x08', 'b'), ('\t', 't'), ('\n', 'n'), ('\x0b', 'v'),
   ('\x0c', 'f'), ('\r', 'r'), ('\x1b', 'e'), ('"', '"'), ('\\', '\\'), ('\x85', 'N'),
   ('\xa0', '_'), ('\u2028', 'L'), ('\u2029', 'P')]

/-- Whether a character is escaped between quotation marks. -/
def isEscaped (c : Char) : Bool :=
  c = '"' || c = '\\' || c = '\x85' || c = '\u2028' || c = '\u2029' || c = '\ufeff'
    || !(('\x20' ≤ c && c ≤ '\x7e') || ('\xa0' ≤ c && c ≤ '\ufffd'))

/-- The escape of a character. -/
def escape (c : Char) : List Char :=
  match shortEscapes.lookup c with
  | some letter => ['\\', letter]
  | none =>
    if c.toNat ≤ 0xff then '\\' :: 'x' :: Text.upperHex 2 c.toNat
    else if c.toNat ≤ 0xffff then '\\' :: 'u' :: Text.upperHex 4 c.toNat
    else '\\' :: 'U' :: Text.upperHex 8 c.toNat

/-- Writes a text between quotation marks from a column on; `first` tells whether nothing was
written yet, `fresh` whether an escape or a new line was written last. -/
def foldDouble (fold : Bool) (indent : Nat) :
    Nat → (first fresh : Bool) → List Char → List Char
  | _, _, _, [] => []
  | column, first, fresh, c :: rest =>
    let inside := fold && !first && !rest.isEmpty
    if isEscaped c then
      let written := escape c
      let column := column + written.length
      if inside && decide (lineWidth < column - 1) then
        let guarded := rest.head? = some ' '
        written ++ '\\' :: newline indent ++ (if guarded then ['\\'] else [])
          ++ foldDouble fold indent (if guarded then indent + 1 else indent) false true rest
      else written ++ foldDouble fold indent column false true rest
    else if inside && (c = ' ' || fresh) && decide (lineWidth < column) then
      let guarded := c = ' '
      '\\' :: newline indent ++ (if guarded then ['\\'] else [])
        ++ c :: foldDouble fold indent (if guarded then indent + 2 else indent + 1) false false rest
    else c :: foldDouble fold indent (column + 1) false false rest

/-- What follows the bar of a literal block: the indentation where the first line would hide it,
and how the line ends at the end of the text count. -/
def literalHints (s : List Char) : List Char :=
  let loose (c : Char) : Bool := c = ' ' || isBreak c
  (if s.head?.any loose then ['2'] else [])
    ++ (match s.reverse with
        | [] => []
        | [last] => if isBreak last then ['+'] else ['-']
        | last :: before :: _ =>
          if !isBreak last then ['-'] else if isBreak before then ['+'] else [])

/-- The lines of a literal block; `start` tells whether a line starts here. -/
def literalLines (indent : Nat) : Bool → List Char → List Char
  | start, [] => if start then [] else ['\n']
  | start, c :: rest =>
    if isBreak c then c :: literalLines indent true rest
    else (if start then List.replicate indent ' ' else []) ++ c :: literalLines indent false rest

/-- Whether a literal block keeps all line ends at its end. -/
def keepsLineEnds (s : List Char) : Bool := (literalHints s).getLast? = some '+'

/-- Writes a scalar from a column on.  A literal block ends with a line end, every other form
without one. -/
def write (key : Bool) (indent column : Nat) (s : Scalar) : List Char :=
  let style := s.style key
  let tag := if s.needsTag style then s.tag.short.toList ++ [' '] else []
  let column := column + tag.length
  tag ++
    match style with
    | .plain => foldPlain (!key) indent column false s.text
    | .single => '\'' :: foldSingle (!key) indent (column + 1) none s.text ++ ['\'']
    | .double => '"' :: foldDouble (!key) indent (column + 1) true true s.text ++ ['"']
    | .literal => '|' :: literalHints s.text ++ '\n' :: literalLines indent true s.text

end Scalar

end Conveyor.Yaml
