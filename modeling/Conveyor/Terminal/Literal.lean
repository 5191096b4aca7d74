import Conveyor.Number.Numeral
import Conveyor.Text.Word

/-!
# Literals

A literal is a text that writes a value down: a number with or without a sign, the sum of a number
and an imaginary one, a text or a row of bytes in quotes, one of four names, or a row, a set or a
mapping of literals in round or curly brackets.  What a set holds and what a mapping has as its keys
must be fixed, so no set and no mapping is among it.

Only whether a text is a literal matters here, so that of each part its kind is read and no more.
There are no square brackets, because a tag cannot hold them.
-/

set_option autoImplicit false

namespace Conveyor.Terminal

namespace Literal

/-- The parts that a literal is made of. -/
inductive Token where
  | mark (c : Char)
  | number (isImaginary : Bool)
  | text (isBytes : Bool)
  | name (s : String)
  deriving DecidableEq, Repr

/-! ## Numbers -/

/-- Whether a character is one of the sixteen digits. -/
def isHexDigit (c : Char) : Bool := (Text.hexValue? c).isSome

/-- Whether a run of digits has low lines between digits only. -/
def isDigitRun (base : Nat) (s : List Char) : Bool := (Numeral.value? base true 0 s).isSome

/-- Whether a number ends in front of a text. -/
def endsNumber : List Char → Bool
  | c :: _ => !Text.isWordChar c
  | [] => true

/-- The digits of a base at the beginning of a text and what follows them. -/
def digits (base : Nat) (s : List Char) : List Char × List Char :=
  s.span fun c => c = '_' || (c.isAlphanum && (Numeral.digitIn? base c).isSome)

/-- What follows a number that begins with the mark of a base, given what follows the mark. -/
def afterBased? (base : Nat) (s : List Char) : Option (List Char) :=
  let (run, rest) := digits base s
  let run := if run.head? = some '_' then run.drop 1 else run
  if isDigitRun base run && endsNumber rest then some rest else none

/-- What follows the digits behind a point, if there is a point, and whether there is one. -/
def afterPoint? (isBare : Bool) : List Char → Option (Bool × List Char)
  | '.' :: s =>
    let (run, rest) := digits 10 s
    if isDigitRun 10 run || (run.isEmpty && !isBare) then some (true, rest) else none
  | s => if isBare then none else some (false, s)

/-- What follows an exponent, if there is one, and whether there is one. -/
def afterExponent? : List Char → Option (Bool × List Char)
  | c :: s =>
    if c = 'e' || c = 'E' then
      let (run, rest) := digits 10 (Numeral.signed s).2
      if isDigitRun 10 run then some (true, rest) else none
    else some (false, c :: s)
  | [] => some (false, [])

/-- Whether a run of digits can be an integer: one that begins with zero is zero. -/
def isInteger (run : List Char) : Bool :=
  (run.head? ≠ some '0' || run.all fun c => c = '0' || c = '_')
    && (run.filter (· ≠ '_')).length ≤ Numeral.longest

/-- Reads a decimal number: whether it is imaginary, and what follows it. -/
def decimal? (s : List Char) : Option (Bool × List Char) := do
  let (whole, rest) := digits 10 s
  guard (whole.isEmpty || isDigitRun 10 whole)
  let (hasPoint, rest) ← afterPoint? whole.isEmpty rest
  let (hasExponent, rest) ← afterExponent? rest
  let isImaginary := rest.head? = some 'j' || rest.head? = some 'J'
  let rest := if isImaginary then rest.drop 1 else rest
  guard (endsNumber rest)
  guard (hasPoint || hasExponent || isImaginary || isInteger whole)
  return (isImaginary, rest)

/-- Reads a number: whether it is imaginary, and what follows it. -/
def number? (s : List Char) : Option (Bool × List Char) :=
  match s with
  | '0' :: c :: rest =>
    match Numeral.baseMarks.find? fun mark => mark.2.contains c with
    | some (base, _) => (afterBased? base rest).map (false, ·)
    | none => decimal? s
  | _ => decimal? s

/-! ## Texts -/

/-- How a text in quotes is written. -/
structure Quotes where
  quote : Char
  isTriple : Bool
  isRaw : Bool
  isBytes : Bool
  deriving DecidableEq, Repr

/-- The letters in front of a quote, each with what they say about the text: whether its backslashes
stand for themselves, and whether it is a row of bytes. -/
def quoteMarks : List (String × Bool × Bool) :=
  [("", false, false), ("u", false, false), ("r", true, false), ("b", false, true),
   ("br", true, true), ("rb", true, true)]

/-- Whether what follows a backslash, with the letter behind it, is an escape. -/
def isEscape (q : Quotes) (c : Char) (rest : List Char) : Bool :=
  let hasDigits (n : Nat) := (rest.take n).length = n && (rest.take n).all isHexDigit
  if q.isRaw then true
  else if c = 'x' then hasDigits 2
  else if q.isBytes then true
  else if c = 'u' then hasDigits 4
  else if c = 'U' then
    hasDigits 8
      && (rest.take 8).foldl (fun n d => n * 16 + (Text.hexValue? d).getD 0) 0 ≤ 0x10ffff
  else c ≠ 'N'

/-- What follows the closing quotes of a text. -/
def afterText? (q : Quotes) : List Char → Option (List Char)
  | [] => none
  | '\\' :: c :: rest =>
    if isEscape q c rest && !(q.isBytes && 0x80 ≤ c.toNat) then afterText? q rest else none
  | c :: rest =>
    if c = q.quote then
      if !q.isTriple then some rest
      else
        match rest with
        | d :: e :: after => if d = c && e = c then some after else afterText? q rest
        | _ => none
    else if c = '\n' && !q.isTriple then none
    else if q.isBytes && 0x80 ≤ c.toNat then none
    else afterText? q rest

/-- Reads a text after its first quote: whether it is a row of bytes, and what follows it. -/
def text? (letters : String) (quote : Char) (rest : List Char) : Option (Bool × List Char) := do
  let (isRaw, isBytes) ← quoteMarks.lookup letters
  let after ←
    match rest with
    | c :: d :: body =>
      if c = quote && d = quote then afterText? ⟨quote, true, isRaw, isBytes⟩ body
      else afterText? ⟨quote, false, isRaw, isBytes⟩ rest
    | _ => afterText? ⟨quote, false, isRaw, isBytes⟩ rest
  return (isBytes, after)

/-! ## Tokens -/

/-- The greatest number of brackets around a part. -/
def deepest : Nat := 200

/-- Whether a text holds nothing but blanks and remarks, each up to the end of its line. -/
def isIdle : (inRemark : Bool) → List Char → Bool
  | _, [] => true
  | true, c :: rest => isIdle (c ≠ '\n') rest
  | false, c :: rest =>
    if c = '#' then isIdle true rest
    else ['\n', ' ', '\t', '\x0c'].contains c && isIdle false rest

/-- The tokens of a text within some brackets.  Outside brackets a literal ends with its line. -/
def tokens? : (fuel depth : Nat) → List Char → Option (List Token)
  | _, _, [] => some []
  | 0, _, _ => none
  | fuel + 1, depth, c :: rest =>
    if c = '\n' then
      if depth = 0 then if isIdle false rest then some [] else none
      else tokens? fuel depth rest
    else if [' ', '\t', '\x0c'].contains c then tokens? fuel depth rest
    else if c = '#' then tokens? fuel depth (rest.dropWhile (· ≠ '\n'))
    else if c = '\\' then
      match rest with
      | '\n' :: rest => tokens? fuel depth rest
      | _ => none
    else if c = '(' || c = '{' then
      if depth < deepest then (tokens? fuel (depth + 1) rest).map (.mark c :: ·) else none
    else if c = ')' || c = '}' then (tokens? fuel (depth - 1) rest).map (.mark c :: ·)
    else if [',', ':', '+', '-'].contains c then (tokens? fuel depth rest).map (.mark c :: ·)
    else if c = '"' || c = '\'' then do
      let (isBytes, rest) ← text? "" c rest
      return .text isBytes :: (← tokens? fuel depth rest)
    else if c.isDigit || (c = '.' && (rest.head?.any Char.isDigit)) then do
      let (isImaginary, rest) ← number? (c :: rest)
      return .number isImaginary :: (← tokens? fuel depth rest)
    else if c = '.' then
      match rest with
      | '.' :: '.' :: rest => (tokens? fuel depth rest).map (.name "..." :: ·)
      | _ => none
    else do
      let (word, rest) := (c :: rest).span Text.isWordChar
      guard (!word.isEmpty)
      match rest with
      | q :: after =>
        if q = '"' || q = '\'' then
          let (isBytes, rest) ← text? (String.ofList (word.map Char.toLower)) q after
          return .text isBytes :: (← tokens? fuel depth rest)
        else return .name (String.ofList word) :: (← tokens? fuel depth rest)
      | [] => return [.name (String.ofList word)]

/-! ## Values -/

/-- What a literal is, as far as its place in another one goes: a number, another fixed value, or
one that can change. -/
inductive Kind where
  | number (isImaginary isSigned : Bool)
  | fixed
  | changing
  deriving DecidableEq, Repr

/-- Whether a value can be in a set or be a key of a mapping. -/
def Kind.isFixed (k : Kind) : Bool := k ≠ changing

/-- A number with a sign. -/
def Kind.signed? : Kind → Option Kind
  | number isImaginary false => some (number isImaginary true)
  | _ => none

/-- The sum of a number and an imaginary one. -/
def Kind.sum? : Kind → Kind → Option Kind
  | number false _, number true false => some fixed
  | _, _ => none

/-- What stands between two commas: a value, or a value and what a colon gives to it. -/
structure Item where
  kind : Kind
  value : Option Kind
  deriving DecidableEq, Repr

/-- What stands between brackets: items, whether there is a comma among them, and what follows. -/
structure Items where
  items : List Item
  hasComma : Bool
  rest : List Token
  deriving DecidableEq, Repr

/-- Whether there are no colons among some items. -/
def Items.isPlain (s : Items) : Bool := s.items.all (·.value.isNone)

/-- What items in round brackets are: one item without a comma is what it is without brackets. -/
def Items.row? (s : Items) : Option Kind :=
  if !s.isPlain then none
  else
    match s.items, s.hasComma with
    | [item], false => some item.kind
    | items, _ => some (if items.all (·.kind.isFixed) then .fixed else .changing)

/-- What items in curly brackets are. -/
def Items.set? (s : Items) : Option Kind :=
  if s.items.all (·.kind.isFixed) && (s.isPlain || s.items.all (·.value.isSome)) then some .changing
  else none

/-- What follows a mark that has to come next. -/
def after? (c : Char) : List Token → Option (List Token)
  | token :: rest => if token = .mark c then some rest else none
  | [] => none

/-- What follows texts of one sort that stand side by side. -/
def afterTexts? (isBytes : Bool) : List Token → Option (List Token)
  | .text b :: rest => if b = isBytes then afterTexts? isBytes rest else none
  | rest => some rest

/-- What a name stands for, and what follows it. -/
def named? (s : String) (rest : List Token) : Option (Kind × List Token) :=
  if ["True", "False", "None", "..."].contains s then some (.fixed, rest)
  else if s = "set" then do
    return (.changing, ← after? ')' (← after? '(' rest))
  else none

mutual

/-- Reads a value that is no sum. -/
def term? : (fuel : Nat) → List Token → Option (Kind × List Token)
  | fuel + 1, .mark c :: rest =>
    if c = '+' || c = '-' then do
      let (kind, rest) ← term? fuel rest
      return (← kind.signed?, rest)
    else if c = '(' then do
      let found ← items? fuel rest
      return (← found.row?, ← after? ')' found.rest)
    else if c = '{' then do
      let found ← items? fuel rest
      return (← found.set?, ← after? '}' found.rest)
    else none
  | _ + 1, .number isImaginary :: rest => some (.number isImaginary false, rest)
  | _ + 1, .text isBytes :: rest => (afterTexts? isBytes rest).map (.fixed, ·)
  | _ + 1, .name s :: rest => named? s rest
  | _, _ => none

/-- Reads a value. -/
def value? : (fuel : Nat) → List Token → Option (Kind × List Token)
  | 0, _ => none
  | fuel + 1, tokens => do
    let (kind, rest) ← term? fuel tokens
    match rest with
    | .mark c :: after =>
      if c = '+' || c = '-' then
        let (second, rest) ← term? fuel after
        return (← kind.sum? second, rest)
      else return (kind, rest)
    | _ => return (kind, rest)

/-- Reads items up to the bracket that closes them or the end. -/
def items? : (fuel : Nat) → List Token → Option Items
  | 0, _ => none
  | fuel + 1, tokens =>
    if tokens.head?.all fun t => t = .mark ')' || t = .mark '}' then some ⟨[], false, tokens⟩
    else do
      let (kind, rest) ← value? fuel tokens
      let (value, rest) ←
        match after? ':' rest with
        | some rest => (value? fuel rest).map fun (v, rest) => (some v, rest)
        | none => some (none, rest)
      match after? ',' rest with
      | some rest =>
        let more ← items? fuel rest
        return ⟨⟨kind, value⟩ :: more.items, true, more.rest⟩
      | none => return ⟨[⟨kind, value⟩], false, rest⟩

end

/-- Whether tokens make a literal; a row of literals needs no brackets around it. -/
def isWhole (tokens : List Token) : Bool :=
  match items? (4 * tokens.length + 4) tokens with
  | some found => found.rest.isEmpty && !found.items.isEmpty && found.isPlain
  | none => false

end Literal

/-- A text with one sign for all ends of lines. -/
def withLineFeeds : List Char → List Char
  | '\r' :: '\n' :: rest => '\n' :: withLineFeeds rest
  | '\r' :: rest => '\n' :: withLineFeeds rest
  | c :: rest => c :: withLineFeeds rest
  | [] => []

/-- Whether a text is a literal. -/
def isLiteral (s : List Char) : Bool :=
  let s := withLineFeeds (s.dropWhile fun c => c = ' ' || c = '\t')
  !s.contains '\x00' && (Literal.tokens? (s.length + 1) 0 s).any Literal.isWhole

end Conveyor.Terminal
