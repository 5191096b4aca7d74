import Conveyor.Yaml.Scalar
import Mathlib

/-!
# Characters in rows

What the classes of characters say about a row of them: runs of a class, rows that stay on a line,
and rows in which no character of one class stands before one of another.
-/

set_option autoImplicit false

namespace Conveyor.Yaml

theorem isBreak_of_not_isGap {c : Char} (noGap : isGap c = false) : isBreak c = false := by
  simp only [isGap, Bool.or_eq_false_iff] at noGap
  exact noGap.2

/-- The ends of lines that stand for themselves. -/
def isOwnBreak (c : Char) : Bool := c = '\n' || c = '\u2028' || c = '\u2029'

theorem isBreak_of_isOwnBreak {c : Char} (own : isOwnBreak c = true) : isBreak c = true := by
  simp only [isOwnBreak, Bool.or_eq_true, decide_eq_true_eq] at own
  rcases own with (rfl | rfl) | rfl <;> decide

/-- Characters that neither end a line nor take no column. -/
def OnLine (s : List Char) : Prop := ∀ c ∈ s, isBreak c = false ∧ c ≠ '\ufeff'

namespace OnLine

variable {c : Char} {s t : List Char}

theorem nil : OnLine [] := fun _ there => by simp at there

theorem cons (here : isBreak c = false ∧ c ≠ '\ufeff') (rest : OnLine s) : OnLine (c :: s) := by
  intro d there
  rcases List.mem_cons.mp there with rfl | later
  · exact here
  · exact rest d later

theorem append (first : OnLine s) (rest : OnLine t) : OnLine (s ++ t) := by
  intro d there
  rcases List.mem_append.mp there with early | late
  · exact first d early
  · exact rest d late

theorem replicate (n : Nat) (here : isBreak c = false ∧ c ≠ '\ufeff') :
    OnLine (List.replicate n c) := by
  intro d there
  rw [List.eq_of_mem_replicate there]
  exact here

theorem blanks (n : Nat) : OnLine (List.replicate n ' ') := replicate n (by decide)

theorem head (h : OnLine (c :: s)) : isBreak c = false ∧ c ≠ '\ufeff' := h c (by simp)

theorem tail (h : OnLine (c :: s)) : OnLine s := fun d there => h d (by simp [there])

theorem left (h : OnLine (s ++ t)) : OnLine s := fun d there => h d (by simp [there])

theorem right (h : OnLine (s ++ t)) : OnLine t := fun d there => h d (by simp [there])

end OnLine

/-- A text that a new token may start with: it starts with no blank, no line end and no comment. -/
def Solid (body : List Char) : Prop :=
  ∀ c ∈ body.head?, c ≠ ' ' ∧ isBreak c = false ∧ c ≠ '#' ∧ c ≠ '\ufeff'

theorem Solid.ink {body : List Char} (solid : Solid body) :
    ∀ c ∈ body.head?, c ≠ ' ' ∧ isBreak c = false :=
  fun c there => ⟨(solid c there).1, (solid c there).2.1⟩

/-- Whole lines without a token: empty lines and comments. -/
inductive Interlude : List Char → Prop where
  | nil : Interlude []
  | blank {lines : List Char} : Interlude lines → Interlude ('\n' :: lines)
  | comment {text lines : List Char} : (∀ c ∈ text, isBreak c = false) → Interlude lines →
      Interlude ('#' :: (text ++ '\n' :: lines))

theorem Interlude.append {s more : List Char} (interlude : Interlude s)
    (interlude' : Interlude more) : Interlude (s ++ more) := by
  induction interlude with
  | nil => exact interlude'
  | blank _ ih => exact .blank ih
  | @comment text _ onLine _ ih =>
      rw [List.cons_append, List.append_assoc]
      exact .comment onLine ih

/-- Whether a text, from outside or inside a comment, goes on without a token to the end of a
line. -/
def isInterlude (inComment : Bool) : List Char → Bool
  | [] => !inComment
  | c :: rest =>
    if c = '\n' then isInterlude false rest
    else (inComment && !isBreak c || !inComment && decide (c = '#')) && isInterlude true rest

theorem interlude_of_isInterlude : ∀ {s : List Char} {inComment : Bool},
    isInterlude inComment s = true →
      if inComment then ∃ text lines, s = text ++ '\n' :: lines ∧ (∀ c ∈ text, isBreak c = false) ∧
        Interlude lines
      else Interlude s
  | [], false, _ => .nil
  | c :: s, inComment, found => by
      rw [isInterlude] at found
      split at found
      · rename_i here
        subst here
        have lines : Interlude s := by simpa using interlude_of_isInterlude found
        cases inComment with
        | false => exact .blank lines
        | true => exact ⟨[], s, rfl, by simp, lines⟩
      · rw [Bool.and_eq_true] at found
        obtain ⟨text, lines, rfl, onLine, interlude⟩ : ∃ text lines, s = text ++ '\n' :: lines ∧
            (∀ c ∈ text, isBreak c = false) ∧ Interlude lines := by
          simpa using interlude_of_isInterlude found.2
        cases inComment with
        | false =>
            obtain rfl : c = '#' := by simpa using found.1
            exact .comment onLine interlude
        | true =>
            refine ⟨c :: text, lines, rfl, ?_, interlude⟩
            rw [List.forall_mem_cons]
            exact ⟨by simpa using found.1, onLine⟩

/-- A text is a run of a class and what follows the run. -/
theorem exists_run (p : Char → Bool) (s : List Char) :
    ∃ w r, s = w ++ r ∧ (∀ c ∈ w, p c = true) ∧ ∀ c ∈ r.head?, p c = false := by
  induction s with
  | nil => exact ⟨[], [], rfl, by simp, by simp⟩
  | cons c s ih =>
      obtain ⟨w, r, rfl, inside, outside⟩ := ih
      by_cases here : p c = true
      · exact ⟨c :: w, r, rfl, by simpa [here] using inside, outside⟩
      · exact ⟨[], c :: (w ++ r), rfl, by simp, by simpa using here⟩

/-- A text is a number of blanks and what follows them. -/
theorem exists_blanks (s : List Char) :
    ∃ n r, s = List.replicate n ' ' ++ r ∧ r.head? ≠ some ' ' := by
  obtain ⟨w, r, rfl, inside, outside⟩ := exists_run (· = ' ') s
  refine ⟨w.length, r, ?_, fun same => ?_⟩
  · rw [← List.eq_replicate_of_mem fun c there => by simpa using inside c there]
  · simpa using outside ' ' same

/-! ## Neighbours -/

namespace Scalar

theorem hasPair_append {p q : Char → Bool} (w : List Char) {r : List Char}
    (h : Scalar.hasPair p q (w ++ r) = false) : Scalar.hasPair p q r = false := by
  induction w with
  | nil => exact h
  | cons c w ih =>
      refine ih ?_
      cases rest : w ++ r with
      | nil => rfl
      | cons d rest' =>
          rw [List.cons_append, rest, Scalar.hasPair, Bool.or_eq_false_iff] at h
          exact h.2

theorem not_pair {p q : Char → Bool} {c d : Char} (w : List Char) {r : List Char}
    (h : Scalar.hasPair p q (w ++ c :: d :: r) = false) (first : p c = true) : q d = false := by
  have pair := hasPair_append w h
  rw [Scalar.hasPair, Bool.or_eq_false_iff, first, Bool.true_and] at pair
  exact pair.1

end Scalar

end Conveyor.Yaml
