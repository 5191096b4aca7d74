import Conveyor.Text.Pattern.Basic

/-!
# Searching a text for a pattern

A match is built from left to right.  Each part of a pattern is handed what has to match after it,
so that a later failure makes an earlier choice try its next way.  A repetition starts a further
round only at a place where it has not just started one; a round that takes nothing is therefore
the last one, and the number of rounds is bounded by the least number that is asked for and by the
number of characters that are left.
-/

set_option autoImplicit false

namespace Conveyor.Text.Pattern

/-- A place in a text, with the places at which groups were opened and closed last. -/
structure Spot where
  position : Nat
  opened : List (Nat × Nat)
  closed : List (Nat × Nat)
  deriving Repr

namespace Spot

/-- The first place of a search. -/
def start (position : Nat) : Spot := ⟨position, [], []⟩

/-- The part of the text that a group matched. -/
def part? (s : Spot) (number : Nat) : Option (Nat × Nat) := do
  let first ← s.opened.lookup number
  let last ← s.closed.lookup number
  if first ≤ last then some (first, last) else none

end Spot

/-- What has to match after a part of a pattern. -/
abbrev Rest := Spot → Option Spot

/-- Whether the characters before and after a place are of different kinds. -/
def isWordEdge (text : Array Char) (ascii : Bool) (position : Nat) : Bool :=
  let isWord (c : Option Char) : Bool := c.any fun c => CharKind.word.holds ascii c
  let before := if position = 0 then none else text[position - 1]?
  isWord before != isWord text[position]?

/-- Whether a place meets a condition.  An empty text has no edges and no places between them. -/
def isAt (text : Array Char) (position : Nat) : Anchor → Bool
  | .textStart => position = 0
  | .lineStart => position = 0 || text[position - 1]? == some '\n'
  | .textEnd => position = text.size
  | .lastLineEnd =>
    position = text.size || (position + 1 = text.size && text[position]? == some '\n')
  | .lineEnd => position = text.size || text[position]? == some '\n'
  | .wordEdge ascii negated =>
    text.size ≠ 0 && isWordEdge text ascii position != negated

/-- Tries what comes first, and if it fails what comes second. -/
def firstOf (first second : Option Spot) : Option Spot :=
  match first with
  | some s => some s
  | none => second

/-- The rounds of a repetition from a place on.  `done` counts the rounds, `last` is the place
where the last round beyond the least number started. -/
def repeated (round : Rest → Rest) (least : Nat) (most : Option Nat) (lazy : Bool) (rest : Rest) :
    (fuel done : Nat) → (last : Option Nat) → Rest
  | 0, _, _, _ => none
  | fuel + 1, done, last, s =>
    if done < least then
      round (fun t => repeated round least most lazy rest fuel (done + 1) last t) s
    else
      let more : Option Spot :=
        if most.all (done < ·) && last ≠ some s.position then
          round (fun t =>
            repeated round least most lazy rest fuel (done + 1) (some s.position) t) s
        else none
      if lazy then firstOf (rest s) more else firstOf more (rest s)

/-- As many rounds as possible, each of them settled before the next one starts. -/
def settledRounds (round : Rest) (least : Nat) (most : Option Nat) :
    (fuel done : Nat) → (last : Option Nat) → Rest
  | 0, _, _, _ => none
  | fuel + 1, done, last, s =>
    if done < least then
      match round s with
      | some t => settledRounds round least most fuel (done + 1) last t
      | none => none
    else if most.all (done < ·) && last ≠ some s.position then
      match round s with
      | some t => settledRounds round least most fuel (done + 1) (some s.position) t
      | none => some s
    else some s

/-- Whether two stretches of a text of equal length read the same. -/
def sameStretch (text : Array Char) (r : Reading) (length : Nat) (a b : Nat) : Bool :=
  b + length ≤ text.size && (List.range length).all fun k =>
    (text[a + k]?).map r.folded == (text[b + k]?).map r.folded

/-- Matches a pattern from a place on, and then what has to match after it. -/
def run (text : Array Char) : Pattern → Rest → Rest
  | .empty, rest, s => rest s
  | .char set reading, rest, s =>
    match text[s.position]? with
    | some c => if set.holds reading c then rest { s with position := s.position + 1 } else none
    | none => none
  | .anchor a, rest, s => if isAt text s.position a then rest s else none
  | .seq p q, rest, s => run text p (run text q rest) s
  | .choice p q, rest, s => firstOf (run text p rest s) (run text q rest s)
  | .group n p, rest, s =>
    run text p (fun t => rest { t with closed := (n, t.position) :: t.closed })
      { s with opened := (n, s.position) :: s.opened }
  | .recall n reading, rest, s =>
    match s.part? n with
    | some (first, last) =>
      if sameStretch text reading (last - first) first s.position then
        rest { s with position := s.position + (last - first) }
      else none
    | none => none
  | .atomic p, rest, s => (run text p some s).bind rest
  | .ahead negated p, rest, s =>
    match run text p some s with
    | some t => if negated then none else rest { t with position := s.position }
    | none => if negated then rest s else none
  | .behind negated length p, rest, s =>
    let seen := if length ≤ s.position then
      run text p some { s with position := s.position - length } else none
    match seen with
    | some t => if negated then none else rest { t with position := s.position }
    | none => if negated then rest s else none
  | .whether n p q, rest, s =>
    if (s.part? n).isSome then run text p rest s else run text q rest s
  | .rounds least most appetite p, rest, s =>
    let fuel := least + (text.size - s.position) + 2
    match appetite with
    | .possessive =>
      (settledRounds (run text p some) least most fuel 0 none s).bind rest
    | _ => repeated (run text p) least most (appetite = .lazy) rest fuel 0 none s

/-- Whether some part of a text matches a pattern. -/
def occursIn (p : Pattern) (s : String) : Bool :=
  let text := s.toList.toArray
  (List.range (text.size + 1)).any fun k => (run text p some (.start k)).isSome

end Conveyor.Text.Pattern
