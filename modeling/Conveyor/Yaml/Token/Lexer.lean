import Conveyor.Number.Numeral
import Conveyor.Yaml.Token.Basic
import Conveyor.Yaml.Token.Text

/-!
# From characters to tokens

The lexer goes through a text once and appends lexemes to a row.  Outside brackets it keeps the
columns of the open blocks, so that a line that starts further left closes blocks and one that
starts further right opens one.  A scalar, a bracket or a property may turn out to begin a key; a
slot is kept for it until a colon follows or the line ends.
-/

set_option autoImplicit false

namespace Conveyor.Yaml

open Scan

/-- A slot that may become a key, and where it stands.  A required key has to get its colon. -/
structure PendingKey where
  slot : Nat
  required : Bool
  line : Nat
  column : Nat
  index : Nat
  deriving DecidableEq, Repr

/-- The greatest number of characters from the start of a key to its colon. -/
def longestKey : Nat := 1024

/-- The state of the lexer.  A block at the left margin has column zero; outside all blocks there
is no column.  `pending` holds the slots by the number of brackets around them. -/
structure Lexer where
  column : Option Nat := none
  outer : List (Option Nat) := []
  brackets : Nat := 0
  allowsKey : Bool := true
  pending : List (Nat × PendingKey) := []
  slots : Nat := 0
  keys : List (Nat × Bool) := []
  row : List Lexeme := []
  deriving Repr

/-- The lexer at work on a text. -/
abbrev Lex := StateT Lexer Scan

namespace Lex

/-- Appends a token. -/
def emit (t : Token) : Lex Unit := modify fun l => { l with row := .token t :: l.row }

/-- Whether the lexer is between brackets. -/
def isFlow : Lex Bool := do return (← get).brackets ≠ 0

/-- Sets whether a key may begin here. -/
def allowKey (allowed : Bool) : Lex Unit := modify fun l => { l with allowsKey := allowed }

/-- The column of the cursor. -/
def cursorColumn : Lex Nat := do return (← (get : Scan Cursor)).column

/-- Closes the blocks that start further right than a column; with no column, all blocks. -/
def closeBlocks (column : Option Nat) : Lex Unit := do
  let l ← get
  if l.brackets = 0 then set (go l l.outer)
where
  /-- The loop over the open blocks, innermost first. -/
  go (l : Lexer) : List (Option Nat) → Lexer
    | [] => l
    | next :: rest =>
      let isInside := match l.column, column with
        | some d, some c => decide (c < d)
        | some _, none => true
        | none, _ => false
      if isInside then
        go { l with column := next, outer := rest, row := .token .blockEnd :: l.row } rest
      else l

/-- Opens a block at a column, unless a block that starts there or further right is open. -/
def openBlock (column : Nat) : Lex Bool := do
  let l ← get
  let isNew := match l.column with
    | none => true
    | some d => d < column
  if isNew then set { l with column := some column, outer := l.column :: l.outer }
  return isNew

/-- Gives up the slots that are too far back to become keys. -/
def dropStale : Lex Unit := do
  let cursor ← (get : Scan Cursor)
  let l ← get
  let isStale (k : PendingKey) : Bool :=
    k.line ≠ cursor.line || longestKey < cursor.index - k.index
  if l.pending.any fun p => isStale p.2 && p.2.required then fail
  set { l with pending := l.pending.filter fun p => !isStale p.2 }

/-- Gives up the slot between the present brackets. -/
def dropKey : Lex Unit := do
  let l ← get
  match l.pending.lookup l.brackets with
  | some k =>
    if k.required then fail
    set { l with pending := l.pending.filter (·.1 ≠ l.brackets) }
  | none => pure ()

/-- Keeps a slot for a key that may begin here. -/
def saveKey : Lex Unit := do
  if (← get).allowsKey then
    dropKey
    let cursor ← (get : Scan Cursor)
    modify fun l =>
      let required := l.brackets = 0 && l.column = some cursor.column
      let key : PendingKey := ⟨l.slots, required, cursor.line, cursor.column, cursor.index⟩
      { l with
        pending := (l.brackets, key) :: l.pending
        slots := l.slots + 1
        row := .slot l.slots :: l.row }

/-! ## Tokens of more than one character -/

/-- Reads the name of an anchor or an alias. -/
def anchorName : Scan (List Char) := do
  skip 1
  let name ← takeWhile isNameChar
  let next ← peek
  let ends := (← isAtGap) || next.any fun c => "?:,]\x7d%@\x60".toList.contains c
  if name.isEmpty || !ends then fail else return name

/-- Reads the handle of a tag: a name between exclamation marks, or one mark alone. -/
def tagHandle : Scan (List Char) := do
  if (← peek) ≠ some '!' then fail
  skip 1
  if (← peek) = some ' ' then return ['!']
  let name ← takeWhile isNameChar
  if (← peek) = some '!' then
    skip 1
    return '!' :: name ++ ['!']
  else fail

/-- The characters of a tag besides escapes. -/
def isUriChar (c : Char) : Bool :=
  c.isDigit || c.isAlpha || "-;/?:@&=+$,_.!~*'()[]".toList.contains c

/-- Reads a run of escaped octets. -/
def uriOctets : Nat → List UInt8 → Scan (List UInt8)
  | 0, octets => return octets
  | n + 1, octets => do
    if (← peek) = some '%' then
      skip 1
      let digits := (← get).rest.take 2
      match if digits.length = 2 then Text.hexNumber? digits else none with
      | some octet => skip 2; uriOctets n (octets ++ [UInt8.ofNat octet])
      | none => fail
    else return octets

/-- Reads the characters of a tag. -/
def uriChars : Nat → List Char → Scan (List Char)
  | 0, text => return text
  | n + 1, text => do
    let plain ← takeWhile isUriChar
    let text := text ++ plain
    if (← peek) = some '%' then
      let octets ← uriOctets (n + 1) []
      match String.fromUTF8? ⟨octets.toArray⟩ with
      | some s => uriChars n (text ++ s.toList)
      | none => fail
    else if text.isEmpty then fail
    else return text

/-- Reads the part of a tag after its handle. -/
def uri : Scan (List Char) := do uriChars ((← get).rest.length + 1) []

/-- Whether another exclamation mark stands in the same word. -/
def hasHandle (s : List Char) : Bool :=
  (s.takeWhile fun c => !(c = ' ' || isBreak c)).contains '!'

/-- Reads a tag. -/
def tag : Scan Token := do
  let cursor ← get
  let (handle, suffix) ←
    match cursor.ahead 1 with
    | some '<' => do
      skip 2
      let name ← uri
      if (← peek) ≠ some '>' then fail
      skip 1
      pure (none, name)
    | next =>
      if next.all isGap then do skip 1; pure (none, ['!'])
      else if hasHandle (cursor.rest.drop 1) then do
        let handle ← tagHandle
        pure (some handle, ← uri)
      else do
        skip 1
        pure (some ['!'], ← uri)
  if ← isAtBlank then return .tag handle suffix else fail

/-- Reads a number of a version. -/
def versionNumber : Scan Nat := do
  let digits ← takeWhile Char.isDigit
  if digits.isEmpty then fail
  if Numeral.longest < digits.length then
    throw (.content ⟨.content, Numeral.tooLongText digits.length⟩)
  return digits.foldl (fun n c => n * 10 + (c.toNat - 0x30)) 0

/-- Reads a directive with its line. -/
def directive : Scan Directive := do
  skip 1
  let name ← takeWhile isNameChar
  if name.isEmpty then fail
  unless ← isAtBlank do fail
  let d ← if name = "YAML".toList then do
      skipBlanks
      let major ← versionNumber
      if (← peek) ≠ some '.' then fail
      skip 1
      let minor ← versionNumber
      unless ← isAtBlank do fail
      pure (Directive.version major minor)
    else if name = "TAG".toList then do
      skipBlanks
      let handle ← tagHandle
      if (← peek) ≠ some ' ' then fail
      skipBlanks
      let meaning ← uri
      unless ← isAtBlank do fail
      pure (.handle handle meaning)
    else do
      skipWhile fun c => !isBreak c
      pure .unknown
  restOfLine
  return d

/-! ## One token after another -/

/-- Skips blanks, comments and line ends up to the next token. -/
def toNextToken : Nat → Lex Unit
  | 0 => pure ()
  | n + 1 => do
    let cursor ← (get : Scan Cursor)
    if cursor.index = 0 ∧ cursor.rest.head? = some '\ufeff' then skip 1
    skipBlanks
    skipComment
    if (← lineEnd).isEmpty then pure ()
    else
      unless ← isFlow do allowKey true
      toNextToken n

/-- Reads a token of some characters that closes all blocks. -/
def atMargin (size : Nat) (t : Token) : Lex Unit := do
  closeBlocks none
  dropKey
  allowKey false
  skip size
  emit t

/-- Reads an opening bracket. -/
def openBracket (t : Token) : Lex Unit := do
  saveKey
  modify fun l => { l with brackets := l.brackets + 1, allowsKey := true }
  skip 1
  emit t

/-- Reads a closing bracket; there has to be an open one. -/
def closeBracket (t : Token) : Lex Unit := do
  dropKey
  unless ← isFlow do fail
  modify fun l => { l with brackets := l.brackets - 1, allowsKey := false }
  skip 1
  emit t

/-- Reads the sign of an item or a key outside brackets, which opens a block where one may
begin. -/
def openEntry (start : Token) : Lex Unit := do
  unless ← isFlow do
    unless (← get).allowsKey do fail
    if ← openBlock (← cursorColumn) then emit start

/-- Reads the hyphen of an item. -/
def blockEntry : Lex Unit := do
  openEntry .blockSequenceStart
  allowKey true
  dropKey
  skip 1
  emit .blockEntry

/-- Reads the question mark of a key. -/
def explicitKey : Lex Unit := do
  openEntry .blockMappingStart
  allowKey (!(← isFlow))
  dropKey
  skip 1
  emit .key

/-- Reads the colon of a value; the slot before it, if there is one, becomes its key. -/
def colon : Lex Unit := do
  let l ← get
  match l.pending.lookup l.brackets with
  | some k =>
    set { l with pending := l.pending.filter (·.1 ≠ l.brackets) }
    let opens ← if ← isFlow then pure false else openBlock k.column
    modify fun l => { l with keys := (k.slot, opens) :: l.keys, allowsKey := false }
  | none =>
    openEntry .blockMappingStart
    allowKey (!(← isFlow))
    dropKey
  skip 1
  emit .value

/-- Reads something that may begin a key. -/
def node (read : Scan Token) : Lex Unit := do
  saveKey
  allowKey false
  emit (← read)

/-- Reads a plain scalar. -/
def plain : Lex Unit := do
  saveKey
  let indent := match (← get).column with
    | some d => d + 1
    | none => 0
  let (text, ended) ← plainScalar (← isFlow) indent
  allowKey ended
  emit (.scalar text true)

/-- Reads a block scalar. -/
def block (folded : Bool) : Lex Unit := do
  allowKey true
  dropKey
  let least := match (← get).column with
    | some d => d + 1
    | none => 1
  emit (.scalar (← blockScalar folded least) false)

/-- Whether a plain scalar may start with some characters. -/
def startsPlain (flow : Bool) : List Char → Bool
  | [] => false
  | c :: rest =>
    !(isGap c || "-?:,[]\x7b\x7d#&*!|>'\"%@\x60".toList.contains c)
      || !atGap rest && (c = '-' || !flow && (c = '?' || c = ':'))

/-- Goes to the next token: gives up the slots that are left behind and closes the blocks that end
before it. -/
def settle : Lex Unit := do
  toNextToken ((← (get : Scan Cursor)).rest.length + 1)
  dropStale
  closeBlocks (some (← cursorColumn))

/-- Reads the token at a cursor, which starts with a character. -/
def token (flow : Bool) (cursor : Cursor) (c : Char) (rest : List Char) : Lex Unit := do
  let margin := cursor.column = 0
  if c = '%' ∧ margin then
    closeBlocks none
    dropKey
    allowKey false
    emit (.directive (← directive))
  else if margin ∧ cursor.atMark '-' then atMargin 3 .documentStart
  else if margin ∧ cursor.atMark '.' then atMargin 3 .documentEnd
  else if c = '[' then openBracket .flowSequenceStart
  else if c = '\x7b' then openBracket .flowMappingStart
  else if c = ']' then closeBracket .flowSequenceEnd
  else if c = '\x7d' then closeBracket .flowMappingEnd
  else if c = ',' then
    allowKey true
    dropKey
    skip 1
    emit .flowEntry
  else if c = '-' ∧ atGap rest then blockEntry
  else if c = '?' ∧ (flow ∨ atGap rest) then explicitKey
  else if c = ':' ∧ (flow ∨ atGap rest) then colon
  else if c = '*' then node (Token.alias <$> anchorName)
  else if c = '&' then node (Token.anchor <$> anchorName)
  else if c = '!' then node tag
  else if c = '|' ∧ !flow then block false
  else if c = '>' ∧ !flow then block true
  else if c = '\'' then node ((Token.scalar · false) <$> quotedScalar false)
  else if c = '"' then node ((Token.scalar · false) <$> quotedScalar true)
  else if startsPlain flow cursor.rest then plain
  else fail

/-- Reads the next token; `none` at the end of the text. -/
def next : Lex (Option Unit) := do
  settle
  let cursor ← (get : Scan Cursor)
  match cursor.rest with
  | [] =>
    closeBlocks none
    dropKey
    return none
  | c :: rest => some <$> token (← isFlow) cursor c rest

/-- Reads tokens up to the end of the text, or up to a fault; the lexer is then as it was before
the token with the fault. -/
def all : (fuel : Nat) → Lexer → Cursor → Lexer × Option Fault
  | 0, lexer, _ => (lexer, none)
  | fuel + 1, lexer, cursor =>
    match (next.run lexer).run cursor with
    | .ok ((some (), lexer), cursor) => all fuel lexer cursor
    | .ok ((none, lexer), _) => ({ lexer with pending := [] }, none)
    | .error fault =>
      match (dropStale.run lexer).run cursor with
      | .ok ((_, fresh), _) => (fresh, some fault)
      | .error stale => (lexer, some stale)

end Lex

/-- The tokens of a text, and the fault that ends them. -/
structure Lexed where
  tokens : List Token
  fault : Option Fault
  deriving Repr

namespace Lexed

/-- The lexemes in front of the first slot that may still become a key; what follows them is not
settled yet. -/
def settled (lexer : Lexer) : List Lexeme :=
  lexer.row.reverse.takeWhile fun
    | .token _ => true
    | .slot n => !lexer.pending.any (·.2.slot = n)

/-- The tokens of a text.  A text with a character that no text may hold has none. -/
def ofText (text : List Char) : Lexed :=
  if !text.all isAllowed then ⟨[], some .form⟩
  else
    let (lexer, fault) := Lex.all (text.length + 1) {} ⟨text, 0, 0, 0⟩
    ⟨linearise lexer.keys (settled lexer), fault⟩

end Lexed

end Conveyor.Yaml
