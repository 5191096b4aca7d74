import Conveyor.Terminal.Emoji
import Conveyor.Terminal.Literal
import Conveyor.Terminal.Style

/-!
# Text with tags

Text for a terminal may hold tags in square brackets that style what follows.  A tag begins with a
small letter, a number sign, a slash or an at sign; other brackets stand for themselves, and a
backslash in front of a tag makes it stand for itself too.  A tag with a slash closes the last open
tag of its style, or the last one at all if it has no style.

A tag with an at sign names an action, and what follows an equals sign are the parameters of the
action.  They have to be a literal by the time the tag is closed.

The terminal of this program has no styles, so that of a text with tags only the plain text is left.
A tag that closes nothing is a fault all the same.
-/

set_option autoImplicit false

namespace Conveyor.Terminal

/-- Whether a character can be the first one of a tag. -/
def startsTag (c : Char) : Bool := ('a' ≤ c && c ≤ 'z') || c = '#' || c = '/' || c = '@'

/-- The body of a tag, up to its closing bracket, and what follows the bracket. -/
def tagBody? : List Char → Option (List Char × List Char)
  | [] => none
  | ']' :: rest => some ([], rest)
  | '[' :: _ => none
  | c :: rest => (tagBody? rest).map fun (body, after) => (c :: body, after)

/-- Reads a tag after its opening bracket. -/
def tag? : List Char → Option (List Char × List Char)
  | c :: rest => if startsTag c then (tagBody? rest).map fun (b, after) => (c :: b, after) else none
  | [] => none

theorem length_of_tagBody? {s body rest : List Char} (h : tagBody? s = some (body, rest)) :
    rest.length < s.length := by
  fun_induction tagBody? s generalizing body with
  | case1 => simp at h
  | case2 => simp at h; simp [h]
  | case3 => simp at h
  | case4 c tail _ _ ih =>
    obtain ⟨⟨b, after⟩, found, eq⟩ := Option.map_eq_some_iff.1 h
    simp only [Prod.mk.injEq] at eq
    obtain ⟨rfl, rfl⟩ := eq
    have := ih found
    simp
    omega

theorem length_of_tag? {s body rest : List Char} (h : tag? s = some (body, rest)) :
    rest.length < s.length := by
  match s, h with
  | c :: tail, h =>
    by_cases starts : startsTag c
    · simp only [tag?, starts, if_true] at h
      obtain ⟨⟨b, after⟩, found, eq⟩ := Option.map_eq_some_iff.1 h
      simp only [Prod.mk.injEq] at eq
      obtain ⟨rfl, rfl⟩ := eq
      have := length_of_tagBody? found
      simp
      omega
    · simp [tag?, starts] at h

/-! ## Parts -/

/-- A tag: its name, and the parameters behind an equals sign. -/
structure Tag where
  name : List Char
  parameters : Option (List Char)
  deriving DecidableEq, Repr

/-- The tag of a body. -/
def Tag.ofBody (body : List Char) : Tag :=
  ⟨body.takeWhile (· ≠ '='),
    match body.dropWhile (· ≠ '=') with
    | _ :: parameters => some parameters
    | [] => none⟩

/-- A part of a text with tags. -/
inductive Part where
  | text (s : List Char)
  | tag (tag : Tag)
  deriving DecidableEq, Repr

/-- The parts of a text with tags; some text in front of it is not a part yet.  Of the backslashes
in front of a tag every pair stands for one of them. -/
def partsFrom (front s : List Char) : List Part :=
  let slashes := s.takeWhile (· = '\\')
  match _ : s.dropWhile (· = '\\') with
  | [] => [.text (front ++ slashes)]
  | '[' :: inner =>
    match _ : tag? inner with
    | some (body, after) =>
      let half := slashes.take (slashes.length / 2)
      let part := if slashes.length % 2 = 1 then .text ('[' :: body ++ [']'])
        else .tag (Tag.ofBody body)
      .text front :: .text half :: part :: partsFrom [] after
    | none => partsFrom (front ++ slashes ++ ['[']) inner
  | c :: rest => partsFrom (front ++ slashes ++ [c]) rest
termination_by s.length
decreasing_by
  all_goals
    have suffix := (List.dropWhile_suffix (· = '\\') (l := s)).length_le
    simp_all
  all_goals first
    | omega
    | have := length_of_tag? ‹_›
      omega

/-- The parts of a text with tags. -/
def parts (s : List Char) : List Part := partsFrom [] s

/-! ## Plain text -/

/-- Text without the backslashes in front of brackets that are no tags. -/
def withoutSlashes : List Char → List Char
  | '\\' :: '[' :: rest => '[' :: withoutSlashes rest
  | c :: rest => c :: withoutSlashes rest
  | [] => []

/-- Whether a character is never shown. -/
def isDropped (c : Char) : Bool := ['\x07', '\x08', '\x0b', '\x0c', '\x0d'].contains c

/-- What is shown of a part that is no tag. -/
def shownText (s : List Char) : List Char := (withEmoji (withoutSlashes s)).filter (!isDropped ·)

/-- An open tag: its style in the normal form, and its parameters. -/
structure OpenTag where
  style : String
  parameters : Option (List Char)
  deriving DecidableEq, Repr

/-- The literal that the parameters of an action have to be.  The name of a handler can stand in
front of its arguments in round brackets, or alone. -/
def actionLiteral (parameters : List Char) : List Char :=
  let trimmed := (Text.trim (String.ofList parameters)).toList
  match trimmed.dropWhile fun c => c = '.' || Text.isWordChar c with
  | [] => ['(', ')']
  | '(' :: rest =>
    let arguments := '(' :: rest
    if rest.getLast? = some ')' && !rest.contains '\n' then arguments else trimmed
  | _ => trimmed

/-- Whether the parameters of a tag are in order. -/
def OpenTag.isSound (t : OpenTag) : Bool :=
  match t.parameters with
  | some parameters =>
    !t.style.startsWith "@" || parameters.isEmpty || isLiteral (actionLiteral parameters)
  | none => true

/-- Closes a tag. -/
def OpenTag.close (t : OpenTag) : Except Failure Unit :=
  if t.isSound then return else throw (.markup "the parameters of a tag are no literal")

/-- The tags that are open after the last one was closed. -/
def closeLast : List OpenTag → Except Failure (List OpenTag)
  | [] => throw (.markup "closing tag '[/]' has nothing to close")
  | last :: rest => do
    last.close
    return rest

/-- The tags that are open after the last one of a style was closed. -/
def closeStyle (style : String) : List OpenTag → Except Failure (List OpenTag)
  | [] => throw (.markup ("closing tag '[/" ++ style ++ "]' doesn't match any open tag"))
  | last :: rest => do
    if last.style = style then
      last.close
      return rest
    else return last :: (← closeStyle style rest)

/-- The tags that are open after one more tag. -/
def Tag.meet (t : Tag) (opened : List OpenTag) : Except Failure (List OpenTag) :=
  match t.name with
  | '/' :: name => do
    let name := Text.trim (String.ofList name)
    if name.isEmpty then closeLast opened else closeStyle (← Style.normal name) opened
  | name => do return ⟨← Style.normal (String.ofList name), t.parameters⟩ :: opened

/-- The plain text of some parts, where some tags are open already. -/
def plainParts (opened : List OpenTag) : List Part → Except Failure (List Char)
  | [] => return []
  | .text s :: rest => do return shownText s ++ (← plainParts opened rest)
  | .tag t :: rest => do plainParts (← t.meet opened) rest

/-- The plain text of a text with tags. -/
def plain (s : String) : Except Failure String := String.ofList <$> plainParts [] (parts s.toList)

end Conveyor.Terminal
