import Conveyor.Log.Journal
import Conveyor.Text.Digit
import Conveyor.Value.Basic

/-!
# References to variables

A text of a definition may refer to a variable of the environment as `$\x7bNAME\x7d`, with a
default as `$\x7bNAME:default\x7d`.  A second dollar sign in front makes it a literal reference,
without the second sign.  References whose default has the form of an offset or of an offset and
a length are left to the shell, and so are references to variables that are not set and have no
default.

A text is first cut into pieces, characters and references, from left to right; every piece is then
replaced on its own.  What is put in for a reference is therefore never read again.
-/

set_option autoImplicit false

namespace Conveyor

/-- A reference to a variable as it stands in a text. -/
structure Reference where
  escaped : Bool
  name : List Char
  fallback : Option (List Char)
  deriving DecidableEq, Repr

namespace Reference

/-- The reference without the sign that escapes it. -/
def bare (r : Reference) : List Char :=
  '$' :: '\x7b' :: r.name
    ++ (match r.fallback with
        | some d => ':' :: d
        | none => [])
    ++ ['\x7d']

/-- The text of the reference. -/
def text (r : Reference) : List Char := if r.escaped then '$' :: r.bare else r.bare

/-- The characters of a name. -/
def isNameChar (c : Char) : Bool := c ≠ '\x7d' && c ≠ ':'

/-- Reads what follows the opening brace, up to the closing one. -/
def body? (escaped : Bool) (s : List Char) : Option (Reference × List Char) :=
  let name := s.takeWhile isNameChar
  if name.isEmpty then none
  else
    match s.dropWhile isNameChar with
    | '\x7d' :: rest => some (⟨escaped, name, none⟩, rest)
    | ':' :: more =>
      match more.dropWhile (· ≠ '\x7d') with
      | '\x7d' :: rest => some (⟨escaped, name, some (more.takeWhile (· ≠ '\x7d'))⟩, rest)
      | _ => none
    | _ => none

/-- Reads a reference at the start of a text and gives what follows it. -/
def read? : List Char → Option (Reference × List Char)
  | '$' :: '$' :: '\x7b' :: rest => body? true rest
  | '$' :: '\x7b' :: rest => body? false rest
  | _ => none

theorem length_of_body? {escaped : Bool} {s rest : List Char} {r : Reference}
    (h : body? escaped s = some (r, rest)) : rest.length ≤ s.length := by
  have dropped := (List.dropWhile_suffix (l := s) isNameChar).length_le
  unfold body? at h
  simp only at h
  split at h
  · simp at h
  · split at h
    · rename_i eq
      rw [eq] at dropped
      cases h
      simp at dropped
      omega
    · rename_i more eq
      rw [eq] at dropped
      have inner := (List.dropWhile_suffix (l := more) (· ≠ '\x7d')).length_le
      split at h
      · rename_i eq'
        rw [eq'] at inner
        cases h
        simp at dropped inner
        omega
      · simp at h
    · simp at h

/-- Reading a reference takes at least one character. -/
theorem length_of_read? {s rest : List Char} {r : Reference} (h : read? s = some (r, rest)) :
    rest.length < s.length := by
  unfold read? at h
  split at h
  · have := length_of_body? h; simp; omega
  · have := length_of_body? h; simp; omega
  · simp at h

/-- Whether a text is a number, or two numbers with a colon between them. -/
def isSubstringRange (s : List Char) : Bool :=
  let s := if s.getLast? = some '\n' then s.dropLast else s
  let first := s.takeWhile Text.isDecimalDigit
  !first.isEmpty &&
    (match s.dropWhile Text.isDecimalDigit with
      | [] => true
      | ':' :: second => !second.isEmpty && second.all Text.isDecimalDigit
      | _ => false)

/-- Whether the reference is one for the shell. -/
def isSubstring (r : Reference) : Bool := r.fallback.any isSubstringRange

/-- Whether the reference needs a variable that is not set. -/
def isUnset (env : Environment) (r : Reference) : Bool :=
  !r.escaped && !r.isSubstring && r.fallback.isNone
    && (env.get? (String.ofList r.name)).isNone

/-- What is put in for a reference. -/
def expand (env : Environment) (r : Reference) : List Char :=
  if r.escaped || r.isSubstring then r.bare
  else
    match env.get? (String.ofList r.name) with
    | some value => value.toList
    | none => r.fallback.getD r.bare

/-- A piece of a text. -/
inductive Piece where
  | char (c : Char)
  | reference (r : Reference)
  deriving DecidableEq, Repr

/-- The pieces of a text, from left to right. -/
def pieces (s : List Char) : List Piece :=
  match s with
  | [] => []
  | c :: rest =>
    match _ : read? (c :: rest) with
    | some (r, after) => .reference r :: pieces after
    | none => .char c :: pieces rest
termination_by s.length
decreasing_by
  · exact length_of_read? ‹_›
  · simp

/-- The characters that a piece becomes. -/
def Piece.expand (env : Environment) : Piece → List Char
  | .char c => [c]
  | .reference r => r.expand env

/-- A text with its references replaced. -/
def substitute (env : Environment) (s : List Char) : List Char :=
  (pieces s).flatMap (Piece.expand env)

/-- The names of the variables that a text needs and that are not set, in order. -/
def unset (env : Environment) (s : List Char) : List String :=
  (pieces s).filterMap fun
    | .reference r => if r.isUnset env then some (String.ofList r.name) else none
    | .char _ => none

/-- Whether the environment decides what is put in for the reference. -/
def isActive (r : Reference) : Bool := !r.escaped && !r.isSubstring

/-- The names of the variables that a text depends on, in order. -/
def activeNames (s : List Char) : List String :=
  (pieces s).filterMap fun
    | .reference r => if r.isActive then some (String.ofList r.name) else none
    | .char _ => none

end Reference

namespace Value

mutual

/-- A value with the references in its texts replaced.  The keys of mappings stay as they are, and
so does everything inside a tuple. -/
def expanded (env : Environment) : Value → Value
  | .text s => .text (String.ofList (Reference.substitute env s.toList))
  | .list xs => .list (expandedItems env xs)
  | .map es => .map (expandedEntries env es)
  | v => v

/-- The items of a list with their references replaced. -/
def expandedItems (env : Environment) : List Value → List Value
  | [] => []
  | x :: xs => expanded env x :: expandedItems env xs

/-- The entries of a mapping with the references in their values replaced. -/
def expandedEntries (env : Environment) : List (Value × Value) → List (Value × Value)
  | [] => []
  | (k, v) :: es => (k, expanded env v) :: expandedEntries env es

end

mutual

/-- How deeply the lists and mappings are nested whose references are replaced. -/
def reach : Value → Nat
  | .list xs => reachOfItems xs + 1
  | .map es => reachOfEntries es + 1
  | _ => 0

/-- `reach` for the items of a list. -/
def reachOfItems : List Value → Nat
  | [] => 0
  | x :: xs => max (reach x) (reachOfItems xs)

/-- `reach` for the values of a mapping. -/
def reachOfEntries : List (Value × Value) → Nat
  | [] => 0
  | (_, v) :: es => max (reach v) (reachOfEntries es)

end

mutual

/-- The names of the variables that a value needs and that are not set, in order. -/
def unset (env : Environment) : Value → List String
  | .text s => Reference.unset env s.toList
  | .list xs => unsetItems env xs
  | .map es => unsetEntries env es
  | _ => []

/-- `unset` for the items of a list. -/
def unsetItems (env : Environment) : List Value → List String
  | [] => []
  | x :: xs => unset env x ++ unsetItems env xs

/-- `unset` for the values of a mapping. -/
def unsetEntries (env : Environment) : List (Value × Value) → List String
  | [] => []
  | (_, v) :: es => unset env v ++ unsetEntries env es

end

mutual

/-- The names of the variables that a value depends on, in order. -/
def activeNames : Value → List String
  | .text s => Reference.activeNames s.toList
  | .list xs => activeNamesOfItems xs
  | .map es => activeNamesOfEntries es
  | _ => []

/-- `activeNames` for the items of a list. -/
def activeNamesOfItems : List Value → List String
  | [] => []
  | x :: xs => activeNames x ++ activeNamesOfItems xs

/-- `activeNames` for the values of a mapping. -/
def activeNamesOfEntries : List (Value × Value) → List String
  | [] => []
  | (_, v) :: es => activeNames v ++ activeNamesOfEntries es

end

/-- A value with its references replaced; every variable that is missed is logged. -/
def substitute (v : Value) : Logged Value := do
  let env ← read
  for name in v.unset env do
    Log.event .debug "utils" ("Variable " ++ name ++ " is not set, leaving reference in place")
  return v.expanded env

end Value

end Conveyor
