import Conveyor.Terminal.Emoji.Table
import Conveyor.Text.Blank
import Conveyor.Text.LowerCase

/-!
# Emoji by name

In text with tags a name between two colons stands for an emoji.  The name may be written in any
case and end in the presentation that is asked for, as text or in colour.  A name that no emoji has
stands for itself, and so does a name with a blank in it.
-/

set_option autoImplicit false

namespace Conveyor.Terminal

/-- Rows of names and emoji as pairs. -/
def namedPairs : List String → List (String × String)
  | name :: emoji :: rest => (name, emoji) :: namedPairs rest
  | _ => []

/-- The emoji with their names. -/
def namedEmoji : List (String × String) := namedPairs (Text.words emojiTable)

/-- The presentations of an emoji: how a name ends that asks for one, and the character that stands
behind the emoji then. -/
def presentations : List (String × Char) := [("-text", '\ufe0e'), ("-emoji", '\ufe0f')]

/-- The emoji of a name, with the presentation that the name asks for. -/
def emoji? (name : String) : Option String :=
  match presentations.find? fun p => name.endsWith p.1 with
  | some (ending, selector) => do
    let emoji ← namedEmoji.lookup (Text.lower (name.dropEnd ending.length).copy)
    return emoji.push selector
  | none => namedEmoji.lookup (Text.lower name)

/-- Whether a character can be part of a name. -/
def isNamePart (c : Char) : Bool := c ≠ ':' && !Text.isBlank c

/-- The name that a colon closes, and what follows the colon. -/
def closedName? (s : List Char) : Option (List Char × List Char) :=
  match s.dropWhile isNamePart with
  | ':' :: rest => some (s.takeWhile isNamePart, rest)
  | _ => none

theorem length_of_closedName? {s name rest : List Char} (h : closedName? s = some (name, rest)) :
    rest.length < s.length := by
  have suffix := (List.dropWhile_suffix isNamePart (l := s)).length_le
  unfold closedName? at h
  split at h
  · next tail eq =>
    simp only [Option.some.injEq, Prod.mk.injEq] at h
    obtain ⟨_, rfl⟩ := h
    rw [eq] at suffix
    simp at suffix
    omega
  · simp at h

/-- Text with emoji in the place of their names. -/
def withEmoji : List Char → List Char
  | [] => []
  | c :: rest =>
    if c = ':' then
      match _ : closedName? rest with
      | some (name, after) =>
        match emoji? (String.ofList name) with
        | some emoji => emoji.toList ++ withEmoji after
        | none => ':' :: name ++ ':' :: withEmoji after
      | none => c :: withEmoji rest
    else c :: withEmoji rest
termination_by s => s.length
decreasing_by
  · have := length_of_closedName? ‹_›
    simp
    omega
  · have := length_of_closedName? ‹_›
    simp
    omega
  all_goals simp

end Conveyor.Terminal
