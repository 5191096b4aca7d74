/-!
# Control sequences in text

A terminal takes styles and other orders from control sequences within the text: an escape
character, an opening bracket, parameters, and a letter that ends the sequence.  Where text is not
shown on a terminal the sequences are left out.  A sequence that is cut off is text like any other.
-/

set_option autoImplicit false

namespace Conveyor.Terminal

/-- The character that begins a control sequence. -/
def escape : Char := '\x1b'

/-- Whether a character can be part of the parameters of a control sequence. -/
def isParameter (c : Char) : Bool := c.isDigit || c = ';' || c = '?'

/-- What follows a control sequence, given what follows its escape character. -/
def afterSequence? : List Char → Option (List Char)
  | '[' :: rest =>
    match rest.dropWhile isParameter with
    | c :: after => if c.isAlpha then some after else none
    | [] => none
  | _ => none

theorem length_of_afterSequence? {s after : List Char} (h : afterSequence? s = some after) :
    after.length < s.length := by
  match s, h with
  | c :: rest, h =>
    unfold afterSequence? at h
    split at h
    · next tail eq =>
      obtain ⟨rfl, rfl⟩ := List.cons.inj eq
      have suffix := (List.dropWhile_suffix isParameter (l := rest)).length_le
      split at h
      · next found =>
        rw [found] at suffix
        simp only [Option.ite_none_right_eq_some, Option.some.injEq] at h
        obtain ⟨_, rfl⟩ := h
        simp at suffix ⊢
        omega
      · simp at h
    · simp at h

/-- Text without its control sequences. -/
def withoutSequences : List Char → List Char
  | [] => []
  | c :: rest =>
    if c = escape then
      match _ : afterSequence? rest with
      | some after => withoutSequences after
      | none => c :: withoutSequences rest
    else c :: withoutSequences rest
termination_by s => s.length
decreasing_by
  · have := length_of_afterSequence? ‹_›
    simp
    omega
  all_goals simp

/-- A text without its control sequences. -/
def unstyled (s : String) : String := String.ofList (withoutSequences s.toList)

end Conveyor.Terminal
