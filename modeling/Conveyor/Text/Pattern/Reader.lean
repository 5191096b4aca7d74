import Conveyor.Failure
import Conveyor.Number.Numeral
import Conveyor.Text.Pattern.Search

/-!
# Reading patterns

The written form of patterns: sets in brackets, groups in parentheses, `*`, `+`, `?` and braces for
repetitions, bars between choices, a backslash before characters with a meaning of their own.
Options for a whole pattern stand at its beginning, options for a part in a group.

A text that is no pattern is refused.  Two faults are told apart from all others: a repetition with
too great a number, and options that exclude each other.
-/

set_option autoImplicit false

namespace Conveyor.Text.Pattern

/-- The options under which a part of a pattern is read. -/
structure Options where
  ignoreCase : Bool := false
  multiline : Bool := false
  dotAll : Bool := false
  spaced : Bool := false
  ascii : Bool := false
  unicode : Bool := false
  template : Bool := false
  deriving DecidableEq, Repr

namespace Options

/-- How characters are compared under the options. -/
def reading (o : Options) : Reading := ⟨o.ignoreCase, o.ascii⟩

/-- Turns an option on or off, by its letter. -/
def set (o : Options) (on : Bool) : Char → Options
  | 'i' => { o with ignoreCase := on }
  | 'm' => { o with multiline := on }
  | 's' => { o with dotAll := on }
  | 'x' => { o with spaced := on }
  | 'a' => { o with ascii := on }
  | 'u' => { o with unicode := on }
  | 't' => { o with template := on }
  | _ => o

/-- The options inside a group that turns some on and some off. -/
def inside (o : Options) (on off : List Char) : Options :=
  let o := if on.contains 'u' then { o with ascii := false } else o
  off.foldl (fun o c => o.set false c) (on.foldl (fun o c => o.set true c) o)

end Options

/-- What is still to be read, and the groups that have been met. -/
structure Reader where
  rest : List Char
  opened : Nat := 0
  names : List (String × Nat) := []
  closed : List (Nat × Nat × Option Nat) := []
  fence : Option Nat := none
  asked : List Nat := []
  isUneven : Bool := false
  hasRounds : Bool := false
  deriving Repr

namespace Reader

/-- A step of reading. -/
abbrev Step := StateT Reader (Except Failure)

/-- A text that is no pattern. -/
def flaw {α : Type} (text : String) : Step α := throw (.mismatch ⟨.pattern, text⟩)

/-- The next character. -/
def peek : Step (Option Char) := do return (← get).rest.head?

/-- Passes over the next character. -/
def skip : Step Unit := modify fun r => { r with rest := r.rest.drop 1 }

/-- Takes the next character, which has to be there. -/
def next : Step Char := do
  match ← peek with
  | some c =>
    skip
    return c
  | none => flaw "unexpected end of pattern"

/-- Takes a character if it is the next one. -/
def accept (c : Char) : Step Bool := do
  if (← peek) = some c then
    skip
    return true
  else return false

/-- Takes a character that has to be the next one. -/
def expect (c : Char) : Step Unit := do
  if !(← accept c) then flaw ("missing " ++ String.singleton c)

/-- Takes at most some number of characters of a kind. -/
def takeUpTo (most : Nat) (test : Char → Bool) : Step (List Char) := do
  let taken := ((← get).rest.take most).takeWhile test
  modify fun r => { r with rest := r.rest.drop taken.length }
  return taken

/-- Takes all characters of a kind. -/
def takeAll (test : Char → Bool) : Step (List Char) := do
  let taken := (← get).rest.takeWhile test
  modify fun r => { r with rest := r.rest.drop taken.length }
  return taken

/-- Takes the characters before a character, and that character; there has to be one at least. -/
def takeUntil (last : Char) : Step (List Char) := do
  let taken ← takeAll (· ≠ last)
  expect last
  if taken.isEmpty then flaw "missing name" else return taken

/-- Whether a character is an octal digit. -/
def isOctal (c : Char) : Bool := '0' ≤ c && c ≤ '7'

/-- The number that octal digits denote. -/
def octal (digits : List Char) : Nat := digits.foldl (fun n c => n * 8 + (c.toNat - 0x30)) 0

/-- The number that decimal digits denote. -/
def decimal (digits : List Char) : Nat := digits.foldl (fun n c => n * 10 + (c.toNat - 0x30)) 0

/-- A code point that is written with a fixed number of hexadecimal digits. -/
def codePoint (digits : Nat) : Step Nat := do
  let taken ← takeUpTo digits fun c => (hexValue? c).isSome
  let n := (hexNumber? taken).getD 0
  if taken.length < digits || 0x10ffff < n then flaw "incomplete escape" else return n

/-- The greatest code point that octal digits may denote. -/
def greatestOctal : Nat := 0xff

/-- Characters with a letter of their own after a backslash. -/
def letterEscape? : Char → Option Nat
  | 'a' => some 7
  | 'b' => some 8
  | 'f' => some 12
  | 'n' => some 10
  | 'r' => some 13
  | 't' => some 9
  | 'v' => some 11
  | '\\' => some 92
  | _ => none

/-- Kinds of characters with a letter of their own after a backslash. -/
def kindEscape? : Char → Option CharMember
  | 'd' => some (.kind .digit false)
  | 'D' => some (.kind .digit true)
  | 's' => some (.kind .blank false)
  | 'S' => some (.kind .blank true)
  | 'w' => some (.kind .word false)
  | 'W' => some (.kind .word true)
  | _ => none

/-- A single code point as a member of a set. -/
def single (n : Nat) : CharMember := .range n n

/-- The code point that an escape with a number or a plain character denotes. -/
def commonEscape (c : Char) : Step Nat := do
  match c with
  | 'x' => codePoint 2
  | 'u' => codePoint 4
  | 'U' => codePoint 8
  | _ => if c.isAlphanum then flaw "bad escape" else return c.toNat

/-- A member of a set that follows a backslash. -/
def memberEscape : Step CharMember := do
  let c ← next
  match letterEscape? c, kindEscape? c with
  | some n, _ => return single n
  | none, some m => return m
  | none, none =>
    if isOctal c then
      let n := octal (c :: (← takeUpTo 2 isOctal))
      if greatestOctal < n then flaw "octal escape too large" else return single n
    else return single (← commonEscape c)

/-- The first part of a member of a set: a character or what a backslash stands before. -/
def memberHead (c : Char) : Step CharMember :=
  if c = '\\' then memberEscape else return single c.toNat

/-- The members of a set up to the closing bracket.  A bracket that comes first is a member. -/
def members : (fuel : Nat) → List CharMember → Step (List CharMember)
  | 0, _ => flaw "unterminated character set"
  | fuel + 1, met => do
    let c ← next
    if c = ']' && !met.isEmpty then return met
    else
      let first ← memberHead c
      if !(← accept '-') then members fuel (met ++ [first])
      else
        let c ← next
        if c = ']' then return met ++ [first, single '-'.toNat]
        else
          match first.code?, (← memberHead c).code? with
          | some a, some b =>
            if b < a then flaw "bad character range"
            else members fuel (met ++ [.range a b])
          | _, _ => flaw "bad character range"

/-- A set, after its opening bracket. -/
def charSet : Step CharSet := do
  let negated ← accept '^'
  return ⟨negated, ← members ((← get).rest.length + 1) []⟩

/-- Checks that a group may be recalled at the present place: it is closed, and it is not one of
the look behind that is being read. -/
def checkRecall (number : Nat) (needsClosed : Bool) : Step Unit := do
  let r ← get
  let isClosed := r.closed.any (·.1 = number)
  if (needsClosed || r.fence.isSome) && !isClosed then flaw "cannot refer to an open group"
  if r.fence.any (· ≤ number) then flaw "cannot refer to a group of the same look behind"

/-- A pattern for what a group matched. -/
def recallOf (o : Options) (number : Nat) : Step Pattern := do
  checkRecall number true
  return .recall number o.reading

/-- A single code point as a pattern. -/
def codeOf (o : Options) (n : Nat) : Pattern := .char ⟨false, [single n]⟩ o.reading

/-- An octal escape of three digits, or the number of a group. -/
def numberEscape (o : Options) (c : Char) : Step Pattern := do
  let second ← takeUpTo 1 Char.isDigit
  let third ← if ([c] ++ second).all isOctal && !second.isEmpty then takeUpTo 1 isOctal else pure []
  if !third.isEmpty then
    let n := octal (c :: second ++ third)
    if greatestOctal < n then flaw "octal escape too large" else return codeOf o n
  else
    let number := decimal (c :: second)
    if number ≤ (← get).opened then recallOf o number else flaw "invalid group reference"

/-- What follows a backslash outside of sets. -/
def escape (o : Options) : Step Pattern := do
  let c ← next
  match c with
  | 'A' => return .anchor .textStart
  | 'Z' => return .anchor .textEnd
  | 'b' => return .anchor (.wordEdge o.ascii false)
  | 'B' => return .anchor (.wordEdge o.ascii true)
  | '0' => return codeOf o (octal (← takeUpTo 2 isOctal))
  | _ =>
    match kindEscape? c, letterEscape? c with
    | some m, _ => return .char ⟨false, [m]⟩ o.reading
    | none, some n => return codeOf o n
    | none, none =>
      if c.isDigit then numberEscape o c else return codeOf o (← commonEscape c)

/-- A number that no repetition may reach. -/
def tooManyRounds : Nat := 4294967295

/-- The number of a repetition, if one is given. -/
def roundCount (digits : List Char) : Step (Option Nat) := do
  if digits.isEmpty then return none
  else
    match Numeral.read 10 digits with
    | .number n =>
      if tooManyRounds ≤ n.toNat then
        throw (.mismatch ⟨.size, "the repetition number is too large"⟩)
      else return some n.toNat
    | _ => throw (.badContent "the repetition number has too many digits")

/-- The bounds of a repetition between braces, after the opening one; none if the brace stands for
itself. -/
def braces : Step (Option (Nat × Option Nat)) := do
  let before ← get
  if (← peek) = some '\x7d' then return none
  let low ← takeAll Char.isDigit
  let high ← if ← accept ',' then takeAll Char.isDigit else pure low
  if !(← accept '\x7d') then
    set before
    return none
  let least ← roundCount low
  let most ← roundCount high
  if most.any (· < least.getD 0) then flaw "min repeat greater than max repeat"
  return some (least.getD 0, most)

/-- A part of a sequence; an enclosed one counts as a whole where a repetition follows. -/
inductive Piece where
  | bare (p : Pattern)
  | enclosed (p : Pattern)

namespace Piece

/-- The pattern of a part. -/
def pattern : Piece → Pattern
  | .bare p | .enclosed p => p

/-- Checks that a part can be repeated. -/
def checkRepeatable : Piece → Step Unit
  | .bare (.anchor _) => flaw "nothing to repeat"
  | .bare (.rounds ..) => flaw "multiple repeat"
  | _ => return ()

end Piece

/-- The mark after a repetition that says which numbers of rounds come first. -/
def readAppetite : Step Appetite := do
  match ← peek with
  | some '?' =>
    skip
    return .lazy
  | some '+' =>
    skip
    return .possessive
  | _ => return .greedy

/-- Repeats the last part of a sequence. -/
def repeatLast (least : Nat) (most : Option Nat) : List Piece → Step (List Piece)
  | [] => flaw "nothing to repeat"
  | last :: before => do
    last.checkRepeatable
    let appetite ← readAppetite
    modify fun r => { r with hasRounds := true }
    return .bare (.rounds least most appetite last.pattern) :: before

/-- Whether a text can name a group. -/
def isName (s : List Char) : Bool :=
  match s with
  | [] => false
  | c :: _ => s.all isWordChar && !isDecimalDigit c

/-- The number of the group with a name. -/
def groupNamed (name : List Char) : Step Nat := do
  match (← get).names.lookup (String.ofList name) with
  | some n => return n
  | none => flaw "unknown group name"

/-- The group that a condition asks for. -/
def askedGroup (name : List Char) : Step Nat := do
  if isName name then groupNamed name
  else
    match Numeral.read 10 name with
    | .number n =>
      if n ≤ 0 then flaw "bad group number"
      modify fun r => { r with asked := n.toNat :: r.asked }
      return n.toNat
    | _ => flaw "bad character in group name"

/-- Opens the next group. -/
def openGroup (name : Option (List Char)) : Step Nat := do
  let r ← get
  let number := r.opened + 1
  let names ← match name with
    | none => pure r.names
    | some s =>
      if (r.names.lookup (String.ofList s)).isSome then flaw "redefinition of group name"
      else pure ((String.ofList s, number) :: r.names)
  set { r with opened := number, names }
  return number

/-- The width of a pattern whose groups are closed. -/
def widthOf (p : Pattern) : Step (Nat × Option Nat) := do
  let closed := (← get).closed
  return p.width fun n => (closed.lookup n).getD (0, some 0)

/-- Closes a group. -/
def closeGroup (number : Nat) (p : Pattern) : Step Unit := do
  let width ← widthOf p
  modify fun r => { r with closed := (number, width) :: r.closed }

/-- The letters of options. -/
def optionLetters : List Char := "imsxaut".toList

/-- Checks that letters of options go together: of those for the script at most one. -/
def checkLetters (letters : List Char) : Step Unit := do
  if !letters.all optionLetters.contains then flaw "unknown flag"
  if letters.contains 'a' && letters.contains 'u' then flaw "flags are incompatible"

/-- The options that a group turns on and off, up to the colon. -/
def groupOptions : Step (List Char × List Char) := do
  let on ← takeAll Char.isAlpha
  checkLetters on
  if on.contains 't' then flaw "cannot turn on global flag"
  let off ←
    if ← accept '-' then
      let off ← takeAll Char.isAlpha
      checkLetters off
      if off.isEmpty || ['a', 'u', 't'].any off.contains then flaw "cannot turn off flag"
      pure off
    else if on.isEmpty then flaw "unknown extension" else pure []
  expect ':'
  if on.any off.contains then flaw "flag turned on and off"
  return (on, off)

/-- Passes over a comment, up to its closing parenthesis. -/
def skipComment : List Char → Option (List Char)
  | [] => none
  | '\\' :: _ :: rest => skipComment rest
  | ')' :: rest => some rest
  | _ :: rest => skipComment rest

/-- Passes over a comment in a group. -/
def comment : Step Unit := do
  match skipComment (← get).rest with
  | some rest => modify fun r => { r with rest }
  | none => flaw "missing ), unterminated comment"

/-- Whether a character between parts does not count in a spaced pattern. -/
def isSpacing (c : Char) : Bool := " \t\n\r\x0b\x0c".toList.contains c

mutual

/-- Choices between bars. -/
def choices : (fuel : Nat) → Options → Step Pattern
  | 0, _ => flaw "unexpected end of pattern"
  | fuel + 1, o => do
    let first ← pieces fuel o []
    if ← accept '|' then return .choice first (← choices fuel o) else return first

/-- A sequence of parts, up to a bar or a closing parenthesis; the last part stands first among
those that have been read. -/
def pieces : (fuel : Nat) → Options → List Piece → Step Pattern
  | 0, _, _ => flaw "unexpected end of pattern"
  | fuel + 1, o, met => do
    match ← peek with
    | none | some '|' | some ')' => return sequence (met.reverse.map Piece.pattern)
    | some c =>
      skip
      if o.spaced && isSpacing c then pieces fuel o met
      else if o.spaced && c = '#' then
        let _ ← takeAll (· ≠ '\n')
        pieces fuel o met
      else
        match c with
        | '\\' => pieces fuel o (.bare (← escape o) :: met)
        | '[' => pieces fuel o (.bare (.char (← charSet) o.reading) :: met)
        | '.' =>
          let set : CharSet := ⟨true, if o.dotAll then [] else [single '\n'.toNat]⟩
          pieces fuel o (.bare (.char set o.reading) :: met)
        | '^' =>
          pieces fuel o (.bare (.anchor (if o.multiline then .lineStart else .textStart)) :: met)
        | '$' =>
          pieces fuel o (.bare (.anchor (if o.multiline then .lineEnd else .lastLineEnd)) :: met)
        | '*' => pieces fuel o (← repeatLast 0 none met)
        | '+' => pieces fuel o (← repeatLast 1 none met)
        | '?' => pieces fuel o (← repeatLast 0 (some 1) met)
        | '\x7b' =>
          match ← braces with
          | some (least, most) => pieces fuel o (← repeatLast least most met)
          | none => pieces fuel o (.bare (codeOf o c.toNat) :: met)
        | '(' =>
          match ← parenthesis fuel o with
          | some piece => pieces fuel o (piece :: met)
          | none => pieces fuel o met
        | _ => pieces fuel o (.bare (codeOf o c.toNat) :: met)

/-- What follows an opening parenthesis, up to the closing one; a comment is no part. -/
def parenthesis : (fuel : Nat) → Options → Step (Option Piece)
  | 0, _ => flaw "unexpected end of pattern"
  | fuel + 1, o => do
    if !(← accept '?') then capturing fuel o none
    else
      match ← next with
      | 'P' =>
        match ← next with
        | '<' =>
          let name ← takeUntil '>'
          if isName name then capturing fuel o (some name) else flaw "bad character in group name"
        | '=' =>
          let name ← takeUntil ')'
          if !isName name then flaw "bad character in group name"
          return some (.bare (← recallOf o (← groupNamed name)))
        | _ => flaw "unknown extension"
      | ':' =>
        let p ← choices fuel o
        expect ')'
        return some (.enclosed p)
      | '#' =>
        comment
        return none
      | '=' => look fuel o false false
      | '!' => look fuel o false true
      | '<' =>
        match ← next with
        | '=' => look fuel o true false
        | '!' => look fuel o true true
        | _ => flaw "unknown extension"
      | '(' =>
        let number ← askedGroup (← takeUntil ')')
        checkRecall number false
        let p ← pieces fuel o []
        let q ← if ← accept '|' then pieces fuel o [] else pure .empty
        expect ')'
        return some (.bare (.whether number p q))
      | '>' =>
        let p ← choices fuel o
        expect ')'
        return some (.bare (.atomic p))
      | c =>
        modify fun r => { r with rest := c :: r.rest }
        let (on, off) ← groupOptions
        let p ← choices fuel (o.inside on off)
        expect ')'
        return some (.enclosed p)

/-- A group that keeps what it matches. -/
def capturing : (fuel : Nat) → Options → Option (List Char) → Step (Option Piece)
  | 0, _, _ => flaw "unexpected end of pattern"
  | fuel + 1, o, name => do
    let number ← openGroup name
    let p ← choices fuel o
    expect ')'
    closeGroup number p
    return some (.enclosed (.group number p))

/-- A look ahead or behind.  What a look behind matches has to have one length. -/
def look : (fuel : Nat) → Options → (isBehind negated : Bool) → Step (Option Piece)
  | 0, _, _, _ => flaw "unexpected end of pattern"
  | fuel + 1, o, isBehind, negated => do
    let fence := (← get).fence
    if isBehind then modify fun r => { r with fence := some (fence.getD (r.opened + 1)) }
    let p ← choices fuel o
    modify fun r => { r with fence }
    expect ')'
    if isBehind then
      let (least, most) ← widthOf p
      if most ≠ some least then modify fun r => { r with isUneven := true }
      return some (.bare (.behind negated least p))
    else return some (.bare (.ahead negated p))

end

/-- The options at the beginning of a pattern, and what follows them. -/
def leadingOptions : (fuel : Nat) → Options → List Char → Options × List Char
  | 0, o, s => (o, s)
  | fuel + 1, o, s =>
    match s with
    | '(' :: '?' :: '#' :: rest =>
      match skipComment rest with
      | some rest => leadingOptions fuel o rest
      | none => (o, s)
    | '(' :: '?' :: rest =>
      let letters := rest.takeWhile Char.isAlpha
      let isFit := !letters.isEmpty && letters.all optionLetters.contains
        && !(letters.contains 'a' && letters.contains 'u')
      match rest.drop letters.length with
      | ')' :: after =>
        if isFit then leadingOptions fuel (letters.foldl (fun o c => o.set true c) o) after
        else (o, s)
      | _ => (o, s)
    | '#' :: rest =>
      if o.spaced then leadingOptions fuel o (rest.dropWhile (· ≠ '\n')) else (o, s)
    | c :: rest => if o.spaced && isSpacing c then leadingOptions fuel o rest else (o, s)
    | [] => (o, s)

end Reader

open Reader in
/-- Reads a pattern. -/
def ofText (s : String) : Except Failure Pattern := do
  let chars := s.toList
  let (o, rest) := leadingOptions (chars.length + 1) {} chars
  let fuel := 4 * rest.length + 8
  let (p, r) ← (choices fuel o).run { rest }
  if o.ascii && o.unicode then throw (.badContent "ASCII and UNICODE flags are incompatible")
  if !r.rest.isEmpty then throw (.mismatch ⟨.pattern, "unbalanced parenthesis"⟩)
  if r.asked.any (r.opened < ·) then throw (.mismatch ⟨.pattern, "invalid group reference"⟩)
  if r.isUneven then
    throw (.mismatch ⟨.pattern, "look-behind requires fixed-width pattern"⟩)
  if o.template && r.hasRounds then
    throw (.mismatch ⟨.pattern, "unsupported template operator"⟩)
  return p

end Conveyor.Text.Pattern
