/-!
# Tokens

The tokens of a YAML text.  Some tokens have no characters of their own: the starts and the ends
of blocks, which follow from the indentation, and the start of a key that only the colon after it
gives away.
-/

set_option autoImplicit false

namespace Conveyor.Yaml

/-- A directive; those without a meaning here are read and forgotten. -/
inductive Directive where
  | version (major minor : Nat)
  | handle (name meaning : List Char)
  | unknown
  deriving DecidableEq, Repr

/-- A token. -/
inductive Token where
  | directive (d : Directive)
  | documentStart
  | documentEnd
  | blockSequenceStart
  | blockMappingStart
  | blockEnd
  | flowSequenceStart
  | flowSequenceEnd
  | flowMappingStart
  | flowMappingEnd
  | blockEntry
  | flowEntry
  | key
  | value
  | alias (name : List Char)
  | anchor (name : List Char)
  | tag (handle : Option (List Char)) (suffix : List Char)
  | scalar (text : List Char) (isPlain : Bool)
  deriving DecidableEq, Repr

/-- What the lexer puts in its row: a token, or a numbered place where a key may turn out to have
begun. -/
inductive Lexeme where
  | token (t : Token)
  | slot (number : Nat)
  deriving DecidableEq, Repr

/-- The tokens of a row of lexemes.  A slot that became a key yields the start of the key, after
the start of a mapping if the key is the first one of a block. -/
def linearise (keys : List (Nat × Bool)) (row : List Lexeme) : List Token :=
  row.flatMap fun
    | .token t => [t]
    | .slot n =>
      match keys.lookup n with
      | some true => [.blockMappingStart, .key]
      | some false => [.key]
      | none => []

end Conveyor.Yaml
