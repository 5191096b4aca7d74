import Conveyor.Proofs.Yaml.Classes
import Conveyor.Yaml.Cursor

/-!
# What reading characters gives

A reader that succeeds gives an answer and a new cursor.  Readers are taken apart step by step: what
two readers in a row give follows from what each of them gives.  Where the characters that are read
stand on one line, the new cursor is known from their number alone.
-/

set_option autoImplicit false

namespace Conveyor.Yaml

/-! ## Cursors -/

namespace Cursor

theorem skip_add (m n : Nat) : ∀ cursor : Cursor,
    cursor.skip (m + n) = (cursor.skip m).skip n := by
  induction m with
  | zero =>
      intro cursor
      rw [Nat.zero_add]
      rfl
  | succ m ih =>
      intro cursor
      rw [Nat.succ_add]
      cases rest : cursor.rest with
      | nil =>
          have stuck : ∀ n, cursor.skip n = cursor := by
            intro n
            cases n with
            | zero => rfl
            | succ n => simp only [skip, rest]
          rw [stuck, stuck, stuck]
      | cons c t => simp only [skip, rest, ih]

theorem rest_skip (n : Nat) : ∀ cursor : Cursor, (cursor.skip n).rest = cursor.rest.drop n := by
  induction n with
  | zero => exact fun _ => rfl
  | succ n ih =>
      intro cursor
      cases rest : cursor.rest with
      | nil => simp only [skip, rest, List.drop_nil]
      | cons c t =>
          have stepped : (cursor.step c t).rest = t := by
            unfold step
            dsimp only
            split <;> rfl
          simp only [skip, rest, ih, stepped, List.drop_succ_cons]

/-- Reading what a text starts with leaves the rest of the text. -/
theorem rest_skip_append {cursor : Cursor} {s r : List Char} (here : cursor.rest = s ++ r) :
    (cursor.skip s.length).rest = r := by
  rw [rest_skip, here, List.drop_left]

theorem line_le_skip (n : Nat) : ∀ cursor : Cursor, cursor.line ≤ (cursor.skip n).line := by
  induction n with
  | zero => exact fun _ => Nat.le_refl _
  | succ n ih =>
      intro cursor
      cases rest : cursor.rest with
      | nil =>
          simp only [skip, rest]
          exact Nat.le_refl _
      | cons c t =>
          simp only [skip, rest]
          refine Nat.le_trans ?_ (ih _)
          unfold step
          dsimp only
          split
          · exact Nat.le_succ _
          · exact Nat.le_refl _

/-- Characters on one line move the cursor by their number. -/
theorem skip_onLine {s r : List Char} (onLine : OnLine s) : ∀ {cursor : Cursor},
    cursor.rest = s ++ r → cursor.skip s.length =
      ⟨r, cursor.line, cursor.column + s.length, cursor.index + s.length⟩ := by
  induction s with
  | nil =>
      intro cursor here
      cases cursor
      cases here
      rfl
  | cons c s ih =>
      intro cursor here
      have stepped : cursor.step c (s ++ r) =
          ⟨s ++ r, cursor.line, cursor.column + 1, cursor.index + 1⟩ := by
        simp only [step, onLine.head.1, Bool.false_eq_true, if_false, onLine.head.2]
      have here' : cursor.rest = c :: (s ++ r) := here
      simp only [List.length_cons, skip, here']
      rw [stepped, ih onLine.tail rfl]
      simp only [Nat.add_assoc, Nat.add_comm 1]

theorem skip_blanks (n line column index : Nat) (r : List Char) :
    skip n ⟨List.replicate n ' ' ++ r, line, column, index⟩ = ⟨r, line, column + n, index + n⟩ := by
  have here : Cursor.rest ⟨List.replicate n ' ' ++ r, line, column, index⟩ =
      List.replicate n ' ' ++ r := rfl
  have moved := skip_onLine (OnLine.blanks n) here
  rw [List.length_replicate] at moved
  exact moved

/-- A line end takes the cursor to the start of the next line. -/
theorem skip_break {c : Char} {r : List Char} {cursor : Cursor} (isBreak_ : isBreak c = true)
    (here : cursor.rest = c :: r) :
    cursor.skip 1 = ⟨r, cursor.line + 1, 0, cursor.index + 1⟩ := by
  simp only [skip, here, step, isBreak_, if_true]

/-- A cursor that comes next to a text which starts at a column: it stands either there, or at the
start of lines without a token that lead there. -/
inductive Nears (column : Nat) (body : List Char) (cursor : Cursor) : Prop where
  | here : cursor.rest = body → cursor.column = column → Nears column body cursor
  | lines {between : List Char} : Interlude between →
      cursor.rest = between ++ (List.replicate column ' ' ++ body) → cursor.column = 0 →
      Nears column body cursor

end Cursor

/-! ## Readers -/

namespace Scan

variable {α β : Type} {x : Scan α} {cursor cursor' cursor'' : Cursor} {a : α} {b : β}

/-- From a cursor, a reader gives an answer and moves to another cursor. -/
def Gives (x : Scan α) (cursor : Cursor) (a : α) (cursor' : Cursor) : Prop :=
  x.run cursor = .ok (a, cursor')

namespace Gives

theorem pure (a : α) (cursor : Cursor) : Gives (Pure.pure a) cursor a cursor := rfl

theorem bind {f : α → Scan β} (first : x.Gives cursor a cursor')
    (next : (f a).Gives cursor' b cursor'') : (x >>= f).Gives cursor b cursor'' := by
  unfold Gives at *
  rw [StateT.run_bind, first]
  exact next

theorem run_bind (first : x.Gives cursor a cursor') (f : α → Scan β) :
    (x >>= f).run cursor = (f a).run cursor' := by
  unfold Gives at first
  rw [StateT.run_bind, first]
  rfl

theorem get (cursor : Cursor) : (MonadState.get : Scan Cursor).Gives cursor cursor cursor := rfl

theorem lift {y : Except Fault α} (ok : y = .ok a) :
    (liftM y : Scan α).Gives cursor a cursor := by
  subst ok
  rfl

end Gives

theorem peek_gives (cursor : Cursor) : peek.Gives cursor cursor.rest.head? cursor := rfl

theorem skip_gives (n : Nat) (cursor : Cursor) : (skip n).Gives cursor () (cursor.skip n) := rfl

theorem takeWhile_gives (p : Char → Bool) (cursor : Cursor) :
    (takeWhile p).Gives cursor (cursor.rest.takeWhile p)
      (cursor.skip (cursor.rest.takeWhile p).length) := rfl

/-- A run of a class is read up to the first character outside it. -/
theorem takeWhile_append {p : Char → Bool} {s r : List Char} (inside : ∀ c ∈ s, p c = true)
    (outside : ∀ c ∈ r.head?, p c = false) : (s ++ r).takeWhile p = s := by
  rw [List.takeWhile_append_of_pos inside]
  cases r with
  | nil => simp
  | cons c r => simp [outside c (by simp)]

theorem takeWhile_run {p : Char → Bool} {s r : List Char} (here : cursor.rest = s ++ r)
    (inside : ∀ c ∈ s, p c = true) (outside : ∀ c ∈ r.head?, p c = false) :
    (takeWhile p).Gives cursor s (cursor.skip s.length) := by
  have run := takeWhile_gives p cursor
  rw [here, takeWhile_append inside outside] at run
  exact run

theorem skipWhile_run {p : Char → Bool} {s r : List Char} (here : cursor.rest = s ++ r)
    (inside : ∀ c ∈ s, p c = true) (outside : ∀ c ∈ r.head?, p c = false) :
    (skipWhile p).Gives cursor () (cursor.skip s.length) :=
  .bind (takeWhile_run here inside outside) (.pure () _)

/-- Where no line ends, no line end is read. -/
theorem lineEnd_none (inside : ∀ c ∈ cursor.rest.head?, isBreak c = false) :
    lineEnd.Gives cursor [] cursor := by
  refine .bind (peek_gives cursor) ?_
  cases head : cursor.rest.head? with
  | none => exact .pure _ _
  | some c =>
      dsimp only
      rw [if_neg (by simp [inside c head])]
      exact .pure _ _

theorem lineEnd_break {c : Char} {r : List Char} (here : cursor.rest = c :: r)
    (own : isOwnBreak c = true) :
    lineEnd.Gives cursor [c] ⟨r, cursor.line + 1, 0, cursor.index + 1⟩ := by
  have isBreak_ := isBreak_of_isOwnBreak own
  have itself : (if c = '\u2028' ∨ c = '\u2029' then c else '\n') = c := by
    split
    · rfl
    · rename_i other
      simp only [isOwnBreak, Bool.or_eq_true, decide_eq_true_eq] at own
      rcases own with (rfl | rfl) | rfl
      · rfl
      · simp at other
      · simp at other
  refine .bind (peek_gives cursor) ?_
  rw [here]
  dsimp only [List.head?_cons]
  rw [if_pos isBreak_, itself]
  exact .bind (Cursor.skip_break isBreak_ here ▸ skip_gives 1 cursor) (.pure _ _)

theorem skipBlanks_run {r : List Char} (n : Nat) (here : cursor.rest = List.replicate n ' ' ++ r)
    (outside : r.head? ≠ some ' ') : skipBlanks.Gives cursor () (cursor.skip n) := by
  have run := skipWhile_run (p := (· = ' ')) here
    (fun c there => by simp [List.eq_of_mem_replicate there])
    (fun c there => by
      have other : c ≠ ' ' := fun same => outside (same ▸ there)
      simp [other])
  rw [List.length_replicate] at run
  exact run

/-- A comment is skipped up to the end of its line. -/
theorem skipComment_run {text r : List Char} (inside : ∀ c ∈ text, isBreak c = false)
    (here : cursor.rest = '#' :: (text ++ '\n' :: r)) :
    skipComment.Gives cursor () (cursor.skip (text.length + 1)) ∧
      (cursor.skip (text.length + 1)).rest = '\n' :: r := by
  have here' : cursor.rest = ('#' :: text) ++ '\n' :: r := here
  refine ⟨.bind (peek_gives cursor) ?_, Cursor.rest_skip_append here'⟩
  rw [here, List.head?_cons, if_pos rfl]
  refine skipWhile_run (p := fun c => !isBreak c) here' (fun c there => ?_) (by simp [isBreak])
  rcases List.mem_cons.mp there with rfl | later
  · decide
  · simp [inside c later]

theorem skipComment_none (outside : cursor.rest.head? ≠ some '#') :
    skipComment.Gives cursor () cursor := by
  refine .bind (peek_gives cursor) ?_
  rw [if_neg outside]
  exact .pure _ _

end Scan

end Conveyor.Yaml
