import Conveyor.Terminal.Color

/-!
# Styles of text

A style is written as a row of words: features, each by its name or a letter of it and switched off
where a word says so in front of it, the colour of the text, the colour behind it, and a link.  Of
two words for the same thing the last one counts.

Styles that are written differently can be the same.  `Style.normal` gives every writing of a style
one and the same text, and leaves what is no style as it is but for its case and the blanks around.
-/

set_option autoImplicit false

namespace Conveyor.Terminal

/-- What text can be apart from its colours. -/
inductive Feature where
  | bold
  | dim
  | italic
  | underline
  | blink
  | blink2
  | reverse
  | conceal
  | strike
  | underline2
  | frame
  | encircle
  | overline
  deriving DecidableEq, Repr

namespace Feature

/-- The features in the order in which a style is written, each with its name and its short
form. -/
def table : List (Feature × String × Option String) :=
  [(bold, "bold", some "b"), (dim, "dim", some "d"), (italic, "italic", some "i"),
   (underline, "underline", some "u"), (blink, "blink", none), (blink2, "blink2", none),
   (reverse, "reverse", some "r"), (conceal, "conceal", some "c"), (strike, "strike", some "s"),
   (underline2, "underline2", some "uu"), (frame, "frame", none), (encircle, "encircle", none),
   (overline, "overline", some "o")]

/-- The feature of a name or a short form. -/
def ofName? (s : String) : Option Feature :=
  (table.find? fun row => row.2.1 = s || row.2.2 = some s).map (·.1)

end Feature

/-- A style: the features that it switches on or off, its two colours and its link. -/
structure Style where
  features : List (Feature × Bool) := []
  color : Option String := none
  background : Option String := none
  link : Option String := none
  deriving DecidableEq, Repr

namespace Style

/-- The words for the features of a style. -/
def featureWords (s : Style) : List String :=
  Feature.table.filterMap fun (feature, name, _) =>
    (s.features.lookup feature).map fun isOn => if isOn then name else "not " ++ name

/-- The text of a style. -/
def text (s : Style) : String :=
  let words := s.featureWords ++ s.color.toList
    ++ (s.background.toList.flatMap fun c => ["on", c])
    ++ (s.link.toList.flatMap fun l => ["link", l])
  if words.isEmpty then "none" else " ".intercalate words

/-- A style with one more feature switched on or off. -/
def withFeature (feature : Feature) (isOn : Bool) (s : Style) : Style :=
  { s with features := (feature, isOn) :: s.features }

/-- The style that words describe, after the words in front of them. -/
def ofWords? (s : Style) : List String → Except Failure (Option Style)
  | [] => return some s
  | word :: rest =>
    match Text.lower word, rest with
    | "on", color :: rest => do
      match ← Color.ofText? color with
      | some name => ofWords? { s with background := some name } rest
      | none => return none
    | "not", name :: rest =>
      match Feature.ofName? name with
      | some feature => ofWords? (s.withFeature feature false) rest
      | none => return none
    | "link", target :: rest => ofWords? { s with link := some target } rest
    | name, rest =>
      match Feature.ofName? name with
      | some feature => ofWords? (s.withFeature feature true) rest
      | none => do
        match ← Color.ofText? name with
        | some color => ofWords? { s with color := some color } rest
        | none => return none

/-- The style that a text describes. -/
def ofText? (s : String) : Except Failure (Option Style) :=
  if Text.trim s = "none" then return some {} else ofWords? {} (Text.words s)

/-- A text with every writing of a style brought into one form. -/
def normal (s : String) : Except Failure String := do
  match ← ofText? s with
  | some style => return style.text
  | none => return Text.lower (Text.trim s)

end Style

end Conveyor.Terminal
