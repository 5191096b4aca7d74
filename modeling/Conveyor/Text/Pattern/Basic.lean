import Conveyor.Text.Blank
import Conveyor.Text.Digit
import Conveyor.Text.LowerCase
import Conveyor.Text.Word

/-!
# Patterns

A pattern describes texts by sets of characters, sequences, choices and repetitions.  Groups keep
what they matched, so that a later part can recall it; looks and anchors match at a place without
taking characters.  Choices and repetitions are ordered: of the ways to match, an earlier one is
tried first.

Characters are given by their code points, since a set may also name code points that no character
has.
-/

set_option autoImplicit false

namespace Conveyor.Text

/-- Kinds of characters that have a name of their own in patterns. -/
inductive CharKind where
  | digit
  | blank
  | word
  deriving DecidableEq, Repr

namespace CharKind

/-- Whether a character is of a kind; `ascii` leaves out all characters beyond ASCII. -/
def holds (ascii : Bool) (c : Char) : CharKind → Bool
  | .digit => (!ascii || c.toNat < 0x80) && isDecimalDigit c
  | .blank => if ascii then " \t\n\r\x0b\x0c".toList.contains c else isBlank c
  | .word => (!ascii || c.toNat < 0x80) && isWordChar c

end CharKind

/-- How characters are compared: without regard to case, and by the rules of ASCII only. -/
structure Reading where
  ignoreCase : Bool
  ascii : Bool
  deriving DecidableEq, Repr

/-- Small letters that have one capital letter in common, beside the one that is usual for it. -/
def caseFellows : List (List Nat) :=
  [[0x69, 0x131], [0x73, 0x17f], [0xb5, 0x3bc], [0x345, 0x3b9, 0x1fbe], [0x390, 0x1fd3],
   [0x3b0, 0x1fe3], [0x3b2, 0x3d0], [0x3b5, 0x3f5], [0x3b8, 0x3d1], [0x3ba, 0x3f0],
   [0x3c0, 0x3d6], [0x3c1, 0x3f1], [0x3c2, 0x3c3], [0x3c6, 0x3d5], [0x432, 0x1c80],
   [0x434, 0x1c81], [0x43e, 0x1c82], [0x441, 0x1c83], [0x442, 0x1c84, 0x1c85],
   [0x44a, 0x1c86], [0x463, 0x1c87], [0x1c88, 0xa64b], [0x1e61, 0x1e9b], [0xfb05, 0xfb06]]

/-- The characters with a small letter: the letter itself and its capitals. -/
def capitalsOf (n : Nat) : List Nat :=
  n :: (if 0x61 ≤ n && n ≤ 0x7a then [n - 0x20] else [])
    ++ (if n = 0x69 then [0x130] else [])
    ++ smallRuns.filterMap fun (first, last, step, shift) =>
        let capital := ((n : Int) - shift).toNat
        if first ≤ capital && capital ≤ last && (capital - first) % step == 0 then some capital
        else none

namespace Reading

/-- The small letter that stands for a character in a comparison. -/
def folded (r : Reading) (c : Char) : Char :=
  if !r.ignoreCase then c
  else if r.ascii then c.toLower
  else if c.toNat = 0x130 then 'i'
  else lowerChar c

/-- The code points that count as the same as a character. -/
def fellows (r : Reading) (c : Char) : List Nat :=
  if !r.ignoreCase then [c.toNat]
  else if r.ascii then
    if c.isAlpha then [c.toLower.toNat, c.toUpper.toNat] else [c.toNat]
  else
    let small := (r.folded c).toNat
    let row := (caseFellows.find? (·.contains small)).getD [small]
    c.toNat :: row.flatMap capitalsOf

end Reading

/-- A member of a set of characters. -/
inductive CharMember where
  | range (first last : Nat)
  | kind (kind : CharKind) (negated : Bool)
  deriving DecidableEq, Repr

namespace CharMember

/-- The code point of a member that is a single one. -/
def code? : CharMember → Option Nat
  | .range first last => if first = last then some first else none
  | .kind .. => none

end CharMember

/-- A set of characters, or all but those of a set. -/
structure CharSet where
  negated : Bool
  members : List CharMember
  deriving DecidableEq, Repr

namespace CharSet

/-- The set of a single character. -/
def one (c : Char) : CharSet := ⟨false, [.range c.toNat c.toNat]⟩

/-- Whether a character is a member. -/
def hasMember (r : Reading) (c : Char) (codes : List Nat) : CharMember → Bool
  | .range first last => codes.any fun n => first ≤ n && n ≤ last
  | .kind kind negated => kind.holds r.ascii c != negated

/-- Whether a character is in a set. -/
def holds (s : CharSet) (r : Reading) (c : Char) : Bool :=
  let codes := r.fellows c
  s.members.any (hasMember r c codes) != s.negated

end CharSet

/-- A condition on a place in a text. -/
inductive Anchor where
  | textStart
  | lineStart
  | textEnd
  | lastLineEnd
  | lineEnd
  | wordEdge (ascii negated : Bool)
  deriving DecidableEq, Repr

/-- The order in which a repetition tries its numbers of rounds: as many as possible first, as few
as possible first, or as many as possible and no other. -/
inductive Appetite where
  | greedy
  | lazy
  | possessive
  deriving DecidableEq, Repr

/-- A description of texts.  Groups are numbered; a look behind carries the length of the text that
it looks at. -/
inductive Pattern where
  | empty
  | char (set : CharSet) (reading : Reading)
  | anchor (anchor : Anchor)
  | seq (first second : Pattern)
  | choice (first second : Pattern)
  | group (number : Nat) (inner : Pattern)
  | recall (number : Nat) (reading : Reading)
  | atomic (inner : Pattern)
  | ahead (negated : Bool) (inner : Pattern)
  | behind (negated : Bool) (length : Nat) (inner : Pattern)
  | whether (number : Nat) (matched unmatched : Pattern)
  | rounds (least : Nat) (most : Option Nat) (appetite : Appetite) (inner : Pattern)
  deriving Repr

namespace Pattern

/-- Patterns one after another. -/
def sequence (ps : List Pattern) : Pattern := ps.foldr .seq .empty

/-- The least and the greatest number of characters that a pattern takes; `widths` holds those of
the groups by their numbers. -/
def width (widths : Nat → Nat × Option Nat) : Pattern → Nat × Option Nat
  | .empty | .anchor _ | .ahead .. | .behind .. => (0, some 0)
  | .char .. => (1, some 1)
  | .seq p q => both (p.width widths) (q.width widths)
  | .choice p q | .whether _ p q => either (p.width widths) (q.width widths)
  | .group _ p | .atomic p => p.width widths
  | .recall n _ => widths n
  | .rounds least most _ p =>
    let (low, high) := p.width widths
    (least * low,
      match most, high with
      | some m, some h => some (m * h)
      | none, some 0 => some 0
      | some 0, none => some 0
      | _, _ => none)
where
  /-- The widths of a sequence. -/
  both (a b : Nat × Option Nat) : Nat × Option Nat :=
    (a.1 + b.1, do return (← a.2) + (← b.2))
  /-- The widths of a choice. -/
  either (a b : Nat × Option Nat) : Nat × Option Nat :=
    (min a.1 b.1, do return max (← a.2) (← b.2))

end Pattern

end Conveyor.Text
