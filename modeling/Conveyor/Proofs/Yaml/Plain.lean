import Conveyor.Proofs.Yaml.Scanning
import Conveyor.Yaml.Scalar
import Conveyor.Yaml.Token.Text

/-!
# Plain scalars are read back

A text that may be written plain is a row of words with blanks between them.  Where it is written,
a single blank may have become a new line with an indentation.  A reader takes the words one by one
and finds the blanks again, whatever the line on which the next word stands.
-/

set_option autoImplicit false

namespace Conveyor.Yaml

open Scan

namespace Plain

/-- A row of characters that a plain scalar holds between two gaps. -/
structure IsWord (w : List Char) : Prop where
  nonempty : w ≠ []
  inside : ∀ c ∈ w, isGap c = false
  noMark : '\ufeff' ∉ w
  last : w.getLast? ≠ some ':'

variable {fold : Bool} {indent least : Nat} {s t w tail body : List Char}

theorem IsWord.onLine (word : IsWord w) : OnLine w := fun c there =>
  ⟨isBreak_of_not_isGap (word.inside c there), fun same => word.noMark (same ▸ there)⟩

theorem IsWord.head (word : IsWord w) :
    ∃ c rest, w = c :: rest ∧ isGap c = false ∧ c ≠ '\ufeff' := by
  cases w with
  | nil => exact absurd rfl word.nonempty
  | cons c rest => exact ⟨c, rest, rfl, word.inside c (by simp), (word.onLine c (by simp)).2⟩

theorem IsWord.head?_append (word : IsWord w) (r : List Char) : (w ++ r).head? = w.head? := by
  obtain ⟨c, rest, rfl, -⟩ := word.head
  rfl

/-- A run ends where a word ends. -/
theorem run_append : ∀ {w : List Char}, IsWord w → run false tail = [] →
    run false (w ++ tail) = w
  | [], word, _ => absurd rfl word.nonempty
  | [c], word, stops => by
      have noColon : c ≠ ':' := fun same => word.last (by simp [same])
      have noGap := word.inside c (by simp)
      simp [run, noGap, noColon, stops]
  | c :: d :: rest, word, stops => by
      have noGap := word.inside c (by simp)
      have noGap' := word.inside d (by simp)
      have shorter : IsWord (d :: rest) :=
        { nonempty := by simp
          inside := fun e there => word.inside e (by simp [there])
          noMark := fun there => word.noMark (by simp [there])
          last := by simpa using word.last }
      have ih := run_append shorter stops
      rw [List.cons_append, run, ih, List.cons_append]
      simp [noGap, colonEnds, atGap, noGap']

/-- How a text is laid out over lines: a single blank may have become a new line. -/
inductive Laid (fold : Bool) (indent : Nat) : List Char → List Char → Prop where
  | word {w : List Char} : IsWord w → Laid fold indent w w
  | blanks {w s t : List Char} (n : Nat) : IsWord w → s.head? ≠ some '#' → Laid fold indent s t →
      Laid fold indent (w ++ (List.replicate (n + 1) ' ' ++ s))
        (w ++ (List.replicate (n + 1) ' ' ++ t))
  | line {w s t : List Char} : fold = true → IsWord w → s.head? ≠ some '#' →
      Laid fold indent s t → Laid fold indent (w ++ ' ' :: s) (w ++ (Scalar.newline indent ++ t))

/-- A text starts with the same character wherever its lines end. -/
theorem Laid.head (laid : Laid fold indent s t) :
    ∃ c, s.head? = some c ∧ t.head? = some c ∧ isGap c = false ∧ c ≠ '\ufeff' := by
  cases laid with
  | word word | blanks _ word | line _ word =>
      obtain ⟨c, rest, rfl, noGap, noMark⟩ := word.head
      exact ⟨c, rfl, rfl, noGap, noMark⟩

theorem Laid.solid (laid : Laid fold indent s t) (noComment : s.head? ≠ some '#') :
    Solid (t ++ tail) := by
  obtain ⟨c, starts, starts', noGap, noMark⟩ := laid.head
  intro d there
  rw [List.head?_append, starts'] at there
  obtain rfl : c = d := Option.some.inj there
  refine ⟨?_, isBreak_of_not_isGap noGap, fun same => noComment (same ▸ starts), noMark⟩
  rintro rfl
  exact absurd noGap (by decide)

/-! ## Laying out -/

/-- What the words of a plain text have in common: a colon stands before ink, no comment starts
behind a blank, and the last character is no blank. -/
structure IsPlain (s : List Char) : Prop where
  inside : ∀ c ∈ s, isGap c = true → c = ' '
  noMark : '\ufeff' ∉ s
  starts : ∃ c, s.head? = some c ∧ c ≠ ' '
  ends : s.getLast? ≠ some ' '
  noKey : Scalar.endsKeyInside.go s = false
  noComment : Scalar.hasPair isGap (· = '#') s = false

theorem endsKeyInside_append (w : List Char) {r : List Char}
    (h : Scalar.endsKeyInside.go (w ++ r) = false) : Scalar.endsKeyInside.go r = false := by
  induction w with
  | nil => exact h
  | cons c w ih =>
      rw [List.cons_append, Scalar.endsKeyInside.go, Bool.or_eq_false_iff] at h
      exact ih h.2

/-- The first characters of a plain text up to a blank are a word. -/
theorem IsPlain.isWord {r : List Char} (plain : IsPlain (w ++ r)) (nonempty : w ≠ [])
    (solid : ∀ c ∈ w, c ≠ ' ') (gap : atGap r = true) : IsWord w where
  nonempty := nonempty
  inside := by
    intro c there
    rw [← Bool.not_eq_true]
    exact fun isGap_ => solid c there (plain.inside c (by simp [there]) isGap_)
  noMark := fun there => plain.noMark (by simp [there])
  last := by
    intro colon
    obtain ⟨before, rfl⟩ := List.getLast?_eq_some_iff.mp colon
    have noKey := plain.noKey
    rw [List.append_assoc] at noKey
    have last := endsKeyInside_append before noKey
    rw [List.singleton_append, Scalar.endsKeyInside.go, gap] at last
    simp at last

/-- What stands behind the blanks after a word is a plain text again. -/
theorem IsPlain.rest {k : Nat} (plain : IsPlain (w ++ (List.replicate (k + 1) ' ' ++ s)))
    (solid : s.head? ≠ some ' ') : IsPlain s ∧ s.head? ≠ some '#' := by
  have nonempty : s ≠ [] := by
    rintro rfl
    refine plain.ends ?_
    rw [List.append_nil, List.replicate_succ', ← List.append_assoc, List.getLast?_append]
    rfl
  obtain ⟨c, rest, rfl⟩ := List.exists_cons_of_ne_nil nonempty
  have sub : ∀ d ∈ c :: rest, d ∈ w ++ (List.replicate (k + 1) ' ' ++ c :: rest) := by
    intro d there
    exact List.mem_append.mpr (.inr (List.mem_append.mpr (.inr there)))
  have noComment := Scalar.hasPair_append w plain.noComment
  refine ⟨⟨fun d there => plain.inside d (sub d there), fun there => plain.noMark (sub _ there),
    ⟨c, rfl, fun same => solid (by simp [same])⟩, ?_, ?_, Scalar.hasPair_append _ noComment⟩, ?_⟩
  · have ends := plain.ends
    rwa [List.getLast?_append_of_ne_nil _ (by simp), List.getLast?_append_of_ne_nil _ (by simp)]
      at ends
  · exact endsKeyInside_append _ (endsKeyInside_append w plain.noKey)
  · intro comment
    rw [List.replicate_succ', List.append_assoc] at noComment
    have pair := Scalar.hasPair_append _ noComment
    obtain rfl : c = '#' := by simpa using comment
    exact absurd pair (by simp [Scalar.hasPair, isGap])

theorem foldPlain_ink {c : Char} (ink : c ≠ ' ') (column : Nat) (blank : Bool) (r : List Char) :
    Scalar.foldPlain fold indent column blank (c :: r) =
      c :: Scalar.foldPlain fold indent (column + 1) false r := by
  rw [Scalar.foldPlain, if_neg fun folds => ink folds.2.1]
  simp [ink]

theorem foldPlain_word (nonempty : w ≠ []) (solid : ∀ c ∈ w, c ≠ ' ') (r : List Char)
    (column : Nat) (blank : Bool) :
    Scalar.foldPlain fold indent column blank (w ++ r) =
      w ++ Scalar.foldPlain fold indent (column + w.length) false r := by
  induction w generalizing column blank with
  | nil => exact absurd rfl nonempty
  | cons c w ih =>
      rw [List.cons_append, foldPlain_ink (solid c (by simp)), List.length_cons, List.cons_append]
      by_cases last : w = []
      · subst last
        rfl
      · rw [ih last fun d there => solid d (by simp [there]), Nat.add_assoc, Nat.add_comm 1]

theorem foldPlain_later (column n : Nat) (r : List Char) :
    Scalar.foldPlain fold indent column true (List.replicate n ' ' ++ r) =
      List.replicate n ' ' ++ Scalar.foldPlain fold indent (column + n) true r := by
  induction n generalizing column with
  | zero => rfl
  | succ n ih =>
      rw [List.replicate_succ, List.cons_append, Scalar.foldPlain, if_neg (by simp)]
      simp only [decide_true, ih, List.cons_append, Nat.add_assoc, Nat.add_comm 1]

/-- Of the blanks between two words, a single one may become a new line. -/
theorem foldPlain_blanks (fold : Bool) (indent k column : Nat) (s : List Char) :
    (∃ column', Scalar.foldPlain fold indent column false (List.replicate (k + 1) ' ' ++ s) =
      List.replicate (k + 1) ' ' ++ Scalar.foldPlain fold indent column' true s) ∨
    (fold = true ∧ k = 0 ∧ Scalar.foldPlain fold indent column false (' ' :: s) =
      Scalar.newline indent ++ Scalar.foldPlain fold indent indent false s) := by
  rw [List.replicate_succ, List.cons_append, Scalar.foldPlain]
  split
  · rename_i folds
    right
    have single : k = 0 := by
      cases k with
      | zero => rfl
      | succ k => simp [List.replicate_succ] at folds
    subst single
    refine ⟨folds.1, rfl, ?_⟩
    rw [Scalar.foldPlain]
    exact if_pos folds
  · left
    exact ⟨column + 1 + k, by simp only [decide_true, foldPlain_later, List.cons_append]⟩

/-- **A plain text is laid out over lines.** -/
theorem laid_foldPlain (n : Nat) : ∀ {s : List Char}, s.length < n → IsPlain s →
    ∀ (column : Nat) (blank : Bool),
      Laid fold indent s (Scalar.foldPlain fold indent column blank s) := by
  induction n with
  | zero => exact fun short => absurd short (by omega)
  | succ n ih =>
      intro s short plain column blank
      obtain ⟨w, r, rfl, inside, outside⟩ := exists_run (· ≠ ' ') s
      obtain ⟨k, s, rfl, solid⟩ := exists_blanks r
      have inside' : ∀ c ∈ w, c ≠ ' ' := fun c there => by simpa using inside c there
      have nonempty : w ≠ [] := by
        rintro rfl
        obtain ⟨c, starts, ink⟩ := plain.starts
        exact ink (by simpa using outside c starts)
      rw [foldPlain_word nonempty inside']
      cases k with
      | zero =>
          -- nothing stands behind the last word
          have last : s = [] := by
            cases s with
            | nil => rfl
            | cons c s =>
                exact absurd (by simpa using outside c rfl) (fun same => solid (by simp [same]))
          subst last
          simp only [List.replicate_zero, List.append_nil, Scalar.foldPlain] at plain ⊢
          exact .word (IsPlain.isWord (r := []) (by simpa using plain) nonempty inside' rfl)
      | succ k =>
          obtain ⟨plain', noComment⟩ := plain.rest solid
          have word : IsWord w := plain.isWord nonempty inside' rfl
          have ih' := ih (s := s) (by
            have wide := List.length_pos_iff.mpr nonempty
            simp only [List.length_append, List.length_replicate] at short
            omega) plain'
          rcases foldPlain_blanks fold indent k (column + w.length) s with
            ⟨column', eq⟩ | ⟨folds, rfl, eq⟩
          · rw [eq]
            exact .blanks k word noComment (ih' _ _)
          · rw [show List.replicate (0 + 1) ' ' ++ s = ' ' :: s from rfl, eq]
            exact .line folds word noComment (ih' _ _)

/-! ## Between the words -/

/-- Where nothing but blanks stands before a character, there are no empty lines. -/
theorem emptyLines_blanks (solid : ∀ c ∈ body.head?, c ≠ ' ' ∧ isBreak c = false)
    (lines : List Char) (k : Nat) : ∀ (n : Nat) (cursor : Cursor), k < n →
      cursor.rest = List.replicate k ' ' ++ body →
      (emptyLines n lines).Gives cursor (some lines) (cursor.skip k) := by
  induction k with
  | zero =>
      intro n cursor enough here
      obtain ⟨m, rfl⟩ : ∃ m, n = m + 1 := ⟨n - 1, by omega⟩
      have here' : cursor.rest = body := here
      refine .bind (peek_gives cursor) ?_
      have noEnd : lineEnd.Gives cursor [] cursor :=
        lineEnd_none fun c there => (solid c (here' ▸ there)).2
      rw [here']
      cases head : body.head? with
      | none => exact .bind noEnd (.pure _ _)
      | some c =>
          have noBlank := (solid c head).1
          split
          · rename_i same
            exact absurd (Option.some.inj same) noBlank
          · exact .bind noEnd (.pure _ _)
  | succ k ih =>
      intro n cursor enough here
      obtain ⟨m, rfl⟩ : ∃ m, n = m + 1 := ⟨n - 1, by omega⟩
      refine .bind (peek_gives cursor) ?_
      rw [here, List.replicate_succ, List.cons_append, List.head?_cons]
      have later : (cursor.skip 1).rest = List.replicate k ' ' ++ body := by
        rw [Cursor.rest_skip, here]
        rfl
      rw [Nat.add_comm k 1, Cursor.skip_add]
      exact .bind (skip_gives 1 cursor) (ih _ _ (by omega) later)

/-- No document mark stands behind an indentation. -/
theorem atDocumentMark_indented {cursor : Cursor} {k : Nat}
    (here : cursor.rest = List.replicate (k + 1) ' ' ++ body) : cursor.atDocumentMark = false := by
  simp [Cursor.atDocumentMark, Cursor.atMark, here, List.replicate_succ]

variable {cursor : Cursor}

theorem gap_none (noGap : ∀ c ∈ cursor.rest.head?, isGap c = false) :
    gap.Gives cursor (none, false) cursor := by
  have blanks : (takeWhile (· = ' ')).Gives cursor [] cursor := by
    refine takeWhile_run (s := []) (r := cursor.rest) rfl (by simp) fun c there => ?_
    have other := noGap c there
    simp only [isGap, Bool.or_eq_false_iff] at other
    exact other.1.1
  exact .bind blanks (.bind (lineEnd_none fun c there => isBreak_of_not_isGap (noGap c there))
    (.pure _ _))

theorem gap_blanks {n : Nat} (here : cursor.rest = List.replicate (n + 1) ' ' ++ body)
    (solid : ∀ c ∈ body.head?, c ≠ ' ' ∧ isBreak c = false) :
    gap.Gives cursor (some (List.replicate (n + 1) ' '), false) (cursor.skip (n + 1)) := by
  have blanks := takeWhile_run (p := (· = ' ')) here
    (fun c there => by simp [List.eq_of_mem_replicate there])
    (fun c there => by simp [(solid c there).1])
  have there := Cursor.rest_skip_append here
  rw [List.length_replicate] at blanks there
  exact .bind blanks (.bind (lineEnd_none fun c inside => (solid c (there ▸ inside)).2) (.pure _ _))

/-- A document mark behind a line end is not looked past. -/
theorem gap_mark {r : List Char} (here : cursor.rest = '\n' :: r)
    (mark : Cursor.atDocumentMark ⟨r, cursor.line + 1, 0, cursor.index + 1⟩ = true) :
    gap.Gives cursor (none, true) ⟨r, cursor.line + 1, 0, cursor.index + 1⟩ := by
  have blanks : (takeWhile (· = ' ')).Gives cursor [] cursor :=
    takeWhile_run (s := []) here (by simp) (by simp)
  refine .bind blanks (.bind (lineEnd_break here (by decide)) ?_)
  rw [if_neg (by simp)]
  refine .bind (.get _) ?_
  rw [if_pos mark]
  exact .pure _ _

/-- Behind a line end the empty lines are read. -/
theorem gap_lines {r : List Char} {found : Option (List Char)} {cursor' : Cursor}
    (here : cursor.rest = '\n' :: r)
    (noMark : ¬Cursor.atDocumentMark ⟨r, cursor.line + 1, 0, cursor.index + 1⟩ = true)
    (read : (emptyLines (r.length + 1) []).Gives ⟨r, cursor.line + 1, 0, cursor.index + 1⟩
      found cursor') :
    gap.Gives cursor (found.map (foldedBreak ['\n']), true) cursor' := by
  have blanks : (takeWhile (· = ' ')).Gives cursor [] cursor :=
    takeWhile_run (s := []) here (by simp) (by simp)
  refine .bind blanks (.bind (lineEnd_break here (by decide)) ?_)
  rw [if_neg (by simp)]
  refine .bind (.get _) ?_
  rw [if_neg noMark]
  refine .bind (.get _) (.bind read ?_)
  cases found with
  | none => exact .pure _ _
  | some lines => exact .pure _ _

theorem gap_line {k : Nat} (here : cursor.rest = '\n' :: (List.replicate k ' ' ++ body))
    (solid : ∀ c ∈ body.head?, c ≠ ' ' ∧ isBreak c = false)
    (noMark : Cursor.atDocumentMark ⟨List.replicate k ' ' ++ body, cursor.line + 1, 0,
      cursor.index + 1⟩ = false) :
    gap.Gives cursor (some [' '], true) ⟨body, cursor.line + 1, k, cursor.index + 1 + k⟩ := by
  have read := emptyLines_blanks solid [] k ((List.replicate k ' ' ++ body).length + 1)
    ⟨List.replicate k ' ' ++ body, cursor.line + 1, 0, cursor.index + 1⟩
    (by simp only [List.length_append, List.length_replicate]; omega) rfl
  rw [Cursor.skip_blanks, Nat.zero_add] at read
  exact gap_lines here (by simp [noMark]) read

/-- What follows the line of a plain scalar ends it: the next token stands further left than its
lines may start, or is a document mark. -/
def EndsAt (least k : Nat) (body : List Char) : Prop :=
  k < least ∨ k = 0 ∧ ∀ l i, Cursor.atDocumentMark ⟨body, l, 0, i⟩ = true

/-- A cursor that comes next to a text, at which a plain scalar does not go on. -/
structure Stops (least k : Nat) (body : List Char) (cursor : Cursor) (found : Option (List Char))
    (cursor' : Cursor) : Prop where
  nears : cursor'.Nears k body
  line : cursor.line ≤ cursor'.line
  shorter : cursor'.rest.length ≤ cursor.rest.length
  ends : found = none ∨ cursor'.rest.head? = some '#' ∨ cursor'.column < least

/-- Where a line has no document mark, what ends a plain scalar stands further left. -/
theorem EndsAt.left {k : Nat} (ends : EndsAt least k body)
    (here : cursor.rest = List.replicate k ' ' ++ body) (atStart : cursor.column = 0)
    (noMark : cursor.atDocumentMark = false) : k < least := by
  rcases ends with left | ⟨rfl, always⟩
  · exact left
  · have same : cursor = ⟨body, cursor.line, 0, cursor.index⟩ := by
      cases cursor
      cases here
      cases atStart
      rfl
    have mark := always cursor.line cursor.index
    rw [← same, noMark] at mark
    cases mark

/-- A scalar that goes no further than the start of a line stops there. -/
theorem Stops.atLine {k : Nat} {between : List Char} (interlude : Interlude between)
    (here : cursor.rest = between ++ (List.replicate k ' ' ++ body)) (atStart : cursor.column = 0) :
    Stops least k body cursor none cursor where
  nears := .lines interlude here atStart
  line := Nat.le_refl _
  shorter := Nat.le_refl _
  ends := .inl rfl

/-- The blanks before the next token are skipped. -/
theorem emptyLines_token {n k : Nat} (lines : List Char) (solid : Solid body) (left : k < least)
    (here : cursor.rest = List.replicate k ' ' ++ body) (atStart : cursor.column = 0)
    (enough : cursor.rest.length < n) :
    ∃ found cursor', (emptyLines n lines).Gives cursor found cursor' ∧
      Stops least k body cursor found cursor' := by
  have short : k < n := by
    simp only [here, List.length_append, List.length_replicate] at enough
    omega
  have moved := Cursor.skip_onLine (OnLine.blanks k) here
  rw [List.length_replicate, atStart, Nat.zero_add] at moved
  refine ⟨_, _, emptyLines_blanks solid.ink lines k n cursor short here, ?_,
    Cursor.line_le_skip _ _, ?_, .inr (.inr ?_)⟩
  · rw [moved]
    exact .here rfl rfl
  · simp [moved, here]
  · rwa [moved]

/-- What stops a scalar behind a line without a token stops it before that line. -/
theorem Stops.before {k : Nat} {r : List Char} {found : Option (List Char)} {cursor' : Cursor}
    (stops : Stops least k body ⟨r, cursor.line + 1, 0, cursor.index + 1⟩ found cursor')
    (here : cursor.rest = '\n' :: r) : Stops least k body cursor found cursor' where
  nears := stops.nears
  line := Nat.le_trans (Nat.le_succ _) stops.line
  shorter := by
    rw [here]
    exact Nat.le_trans stops.shorter (Nat.le_succ _)
  ends := stops.ends

/-- A line without a token is the last one if a document mark follows. -/
theorem emptyLines_mark {r : List Char} (n : Nat) (lines : List Char)
    (here : cursor.rest = '\n' :: r)
    (mark : Cursor.atDocumentMark ⟨r, cursor.line + 1, 0, cursor.index + 1⟩ = true) :
    (emptyLines (n + 1) lines).Gives cursor none ⟨r, cursor.line + 1, 0, cursor.index + 1⟩ := by
  refine .bind (peek_gives cursor) ?_
  rw [here]
  refine .bind (lineEnd_break here (by decide)) (.bind (.get _) ?_)
  rw [if_pos mark]
  exact .pure _ _

/-- A line without a token is taken if no document mark follows. -/
theorem emptyLines_line {r : List Char} {n : Nat} {lines : List Char}
    {found : Option (List Char)} {cursor' : Cursor} (here : cursor.rest = '\n' :: r)
    (noMark : ¬Cursor.atDocumentMark ⟨r, cursor.line + 1, 0, cursor.index + 1⟩ = true)
    (read : (emptyLines n (lines ++ ['\n'])).Gives ⟨r, cursor.line + 1, 0, cursor.index + 1⟩
      found cursor') :
    (emptyLines (n + 1) lines).Gives cursor found cursor' := by
  refine .bind (peek_gives cursor) ?_
  rw [here]
  refine .bind (lineEnd_break here (by decide)) (.bind (.get _) ?_)
  rw [if_neg noMark]
  exact read

/-- A comment is left where it stands. -/
theorem emptyLines_comment (n : Nat) (lines : List Char) (start : cursor.rest.head? = some '#') :
    (emptyLines (n + 1) lines).Gives cursor (some lines) cursor := by
  have noEnd : lineEnd.Gives cursor [] cursor := lineEnd_none fun c there => by
    rw [start] at there
    cases there
    decide
  refine .bind (peek_gives cursor) ?_
  rw [start]
  exact .bind noEnd (.pure _ _)

/-- The empty lines after the end of a plain scalar are skipped up to a comment or to the next
token. -/
theorem emptyLines_end {k : Nat} {between : List Char} (interlude : Interlude between)
    (solid : Solid body) (ends : EndsAt least k body) : ∀ (n : Nat) (lines : List Char)
      (cursor : Cursor), cursor.rest = between ++ (List.replicate k ' ' ++ body) →
      cursor.column = 0 → cursor.atDocumentMark = false → cursor.rest.length < n →
      ∃ found cursor', (emptyLines n lines).Gives cursor found cursor' ∧
        Stops least k body cursor found cursor' := by
  induction interlude with
  | nil =>
      intro n lines cursor here atStart noMark enough
      exact emptyLines_token lines solid (ends.left here atStart noMark) here atStart enough
  | @blank rest later ih =>
      intro n lines cursor here atStart noMark enough
      obtain ⟨m, rfl⟩ : ∃ m, n = m + 1 := ⟨n - 1, by omega⟩
      have here' : cursor.rest = '\n' :: (rest ++ (List.replicate k ' ' ++ body)) := here
      by_cases mark : Cursor.atDocumentMark ⟨rest ++ (List.replicate k ' ' ++ body),
          cursor.line + 1, 0, cursor.index + 1⟩ = true
      · exact ⟨none, _, emptyLines_mark m lines here' mark,
          (Stops.atLine later rfl rfl).before here'⟩
      · have enough' : (rest ++ (List.replicate k ' ' ++ body)).length < m := by
          rw [here', List.length_cons] at enough
          omega
        obtain ⟨found, cursor', read, stops⟩ := ih m (lines ++ ['\n']) _ rfl rfl
          (by simpa using mark) enough'
        exact ⟨found, cursor', emptyLines_line here' mark read, stops.before here'⟩
  | @comment text rest inside later ih =>
      intro n lines cursor here atStart noMark enough
      obtain ⟨m, rfl⟩ : ∃ m, n = m + 1 := ⟨n - 1, by omega⟩
      have start : cursor.rest.head? = some '#' := by rw [here]; rfl
      exact ⟨some lines, cursor, emptyLines_comment m lines start,
        .lines (.comment inside later) here atStart, Nat.le_refl _, Nat.le_refl _,
        .inr (.inl start)⟩

/-- The end of the last line of a plain scalar, with the lines without a token after it. -/
theorem gap_end {k : Nat} {between : List Char} (interlude : Interlude between)
    (here : cursor.rest = '\n' :: (between ++ (List.replicate k ' ' ++ body)))
    (solid : Solid body) (ends : EndsAt least k body) :
    ∃ found cursor', gap.Gives cursor (found, true) cursor' ∧ Stops least k body
      ⟨between ++ (List.replicate k ' ' ++ body), cursor.line + 1, 0, cursor.index + 1⟩
      found cursor' := by
  by_cases mark : Cursor.atDocumentMark ⟨between ++ (List.replicate k ' ' ++ body),
      cursor.line + 1, 0, cursor.index + 1⟩ = true
  · exact ⟨none, _, gap_mark here mark, .atLine interlude rfl rfl⟩
  · obtain ⟨found, cursor', read, stops⟩ := emptyLines_end interlude solid ends
      ((between ++ (List.replicate k ' ' ++ body)).length + 1) []
      ⟨between ++ (List.replicate k ' ' ++ body), cursor.line + 1, 0, cursor.index + 1⟩ rfl rfl
      (by simpa using mark) (Nat.lt_succ_self _)
    refine ⟨_, cursor', gap_lines here mark read, stops.nears, stops.line, stops.shorter, ?_⟩
    exact stops.ends.imp_left fun missing => by rw [missing, Option.map_none]

/-- Between two words on one line stand their blanks. -/
theorem link_blanks {n : Nat} (here : cursor.rest = List.replicate (n + 1) ' ' ++ body)
    (solid : Solid body) (right : least ≤ cursor.column + 1) :
    (link false least).Gives cursor (some (List.replicate (n + 1) ' '), false)
      (cursor.skip (n + 1)) := by
  have moved := Cursor.skip_onLine (OnLine.blanks (n + 1)) here
  rw [List.length_replicate] at moved
  refine .bind (gap_blanks here solid.ink) (.bind (.get _) ?_)
  rw [if_neg]
  · exact .pure _ _
  · rw [moved]
    rintro (comment | ⟨-, left⟩)
    · exact (solid _ comment).2.2.1 rfl
    · dsimp only at left
      omega

/-- Between two words on two lines stands one blank. -/
theorem link_line {k : Nat} (here : cursor.rest = '\n' :: (List.replicate (k + 1) ' ' ++ body))
    (solid : Solid body) (right : least ≤ k + 1) :
    (link false least).Gives cursor (some [' '], true)
      ⟨body, cursor.line + 1, k + 1, cursor.index + 1 + (k + 1)⟩ := by
  refine .bind (gap_line here solid.ink (atDocumentMark_indented rfl)) (.bind (.get _) ?_)
  rw [if_neg]
  · exact .pure _ _
  · rintro (comment | ⟨-, left⟩)
    · exact (solid _ comment).2.2.1 rfl
    · dsimp only at left
      omega

/-- Nothing stands between a key and its colon. -/
theorem link_none (noGap : ∀ c ∈ cursor.rest.head?, isGap c = false) :
    (link false least).Gives cursor (none, false) cursor := by
  refine .bind (gap_none noGap) (.bind (.get _) ?_)
  split
  · exact .pure _ _
  · exact .pure _ _

/-- A plain scalar ends with its line if the next token stands further left, or is a mark. -/
theorem link_end {k : Nat} {between : List Char} (interlude : Interlude between)
    (here : cursor.rest = '\n' :: (between ++ (List.replicate k ' ' ++ body)))
    (solid : Solid body) (ends : EndsAt least k body) :
    ∃ cursor', (link false least).Gives cursor (none, true) cursor' ∧ cursor'.Nears k body ∧
      cursor.line < cursor'.line ∧
      cursor'.rest.length ≤ (between ++ (List.replicate k ' ' ++ body)).length := by
  obtain ⟨found, cursor', read, stops⟩ := gap_end interlude here solid ends
  refine ⟨cursor', .bind read (.bind (.get _) ?_), stops.nears, stops.line, stops.shorter⟩
  split
  · exact .pure _ _
  · rename_i goesOn
    have missing : found = none := by
      rcases stops.ends with missing | comment | left
      · exact missing
      · exact absurd (.inl comment) goesOn
      · exact absurd (.inr ⟨rfl, left⟩) goesOn
    rw [missing]
    exact .pure _ _

/-! ## Word by word -/

/-- A word is taken, and what follows it is looked at. -/
theorem runs_word {answer : List Char × Bool} {cursor' : Cursor} {n : Nat}
    {text before : List Char} {ended : Bool} (word : IsWord w) (stops : run false tail = [])
    (here : cursor.rest = w ++ tail) (noComment : w.head? ≠ some '#')
    (next : ((link false least) >>= fun found =>
      match found with
      | (none, ended) => pure (text ++ before ++ w, ended)
      | (some between, ended) => runs false least n (text ++ before ++ w) between ended).Gives
        (cursor.skip w.length) answer cursor') :
    (runs false least (n + 1) text before ended).Gives cursor answer cursor' := by
  obtain ⟨c, rest, rfl, -⟩ := word.head
  refine .bind (.get _) ?_
  rw [here, run_append word stops]
  dsimp only
  rw [if_neg (by simpa using noComment)]
  exact .bind (skip_gives _ _) next

/-- The reader of words finds `s` where `t` stands, if what follows there ends the scalar. -/
def IsReadAs (least : Nat) (tail s t : List Char) : Prop :=
  ∀ (n : Nat) (text before : List Char) (ended : Bool) (cursor : Cursor), t.length < n →
    s.head? ≠ some '#' → cursor.rest = t ++ tail → least ≤ cursor.column + 1 →
    ∃ cursor', cursor'.rest = tail ∧ cursor.line ≤ cursor'.line ∧
      (OnLine t → cursor' = cursor.skip t.length) ∧
      ∀ e cursor'', (link false least).Gives cursor' (none, e) cursor'' →
        (runs false least n text before ended).Gives cursor (text ++ before ++ s, e) cursor''

/-- One more word in front, with a gap `g` behind it that stands for `b`. -/
theorem IsReadAs.cons {b g : List Char} (later : IsReadAs least tail s t)
    (word : IsWord w) (noComment' : s.head? ≠ some '#')
    (stops : run false (g ++ (t ++ tail)) = [])
    (linked : ∀ cursor, cursor.rest = g ++ (t ++ tail) → least ≤ cursor.column + 1 →
      ∃ ended cursor', (link false least).Gives cursor (some b, ended) cursor' ∧
        cursor'.rest = t ++ tail ∧ cursor.line ≤ cursor'.line ∧ least ≤ cursor'.column + 1 ∧
        (OnLine g → cursor' = cursor.skip g.length)) :
    IsReadAs least tail (w ++ (b ++ s)) (w ++ (g ++ t)) := by
  intro n text before ended cursor enough noComment here right
  obtain ⟨m, rfl⟩ : ∃ m, n = m + 1 := ⟨n - 1, by omega⟩
  rw [word.head?_append] at noComment
  rw [List.append_assoc, List.append_assoc] at here
  have moved := Cursor.skip_onLine word.onLine here
  have wide : 0 < w.length := List.length_pos_iff.mpr word.nonempty
  obtain ⟨ended', cursor₁, read, there, line₁, right₁, moved₁⟩ :=
    linked (cursor.skip w.length) (Cursor.rest_skip_append here) (by rw [moved]; dsimp only; omega)
  simp only [List.length_append] at enough
  obtain ⟨cursor', rest', line', moved', answers⟩ :=
    later m (text ++ before ++ w) b ended' cursor₁ (by omega) noComment' there right₁
  refine ⟨cursor', rest', ?_, fun onLine => ?_, fun e cursor'' after => ?_⟩
  · exact Nat.le_trans (Cursor.line_le_skip _ _) (Nat.le_trans line₁ line')
  · rw [moved' onLine.right.right, moved₁ onLine.right.left, ← Cursor.skip_add, ← Cursor.skip_add]
    simp only [List.length_append]
  · rw [← List.append_assoc, ← List.append_assoc]
    exact runs_word word stops here noComment (.bind read (answers e cursor'' after))

/-- **The words of a laid out text are read as the text.**  What ends the scalar is up to what
follows it. -/
theorem runs_gives (laid : Laid fold indent s t) (least_ : least ≤ indent) (indented : 0 < indent)
    (stops : run false tail = []) : IsReadAs least tail s t := by
  induction laid with
  | @word w word =>
      intro n text before ended cursor enough noComment here right
      obtain ⟨m, rfl⟩ : ∃ m, n = m + 1 := ⟨n - 1, by omega⟩
      refine ⟨cursor.skip w.length, Cursor.rest_skip_append here, Cursor.line_le_skip _ _,
        fun _ => rfl, fun e cursor'' after => ?_⟩
      exact runs_word word stops here noComment (.bind after (.pure _ _))
  | blanks k word noComment laid ih =>
      refine ih.cons word noComment rfl fun cursor here right => ?_
      have there := Cursor.rest_skip_append here
      have moved := Cursor.skip_onLine (OnLine.blanks (k + 1)) here
      rw [List.length_replicate] at there moved
      refine ⟨false, _, link_blanks here (laid.solid noComment) right, there,
        Cursor.line_le_skip _ _, ?_, fun _ => by rw [List.length_replicate]⟩
      rw [moved]
      dsimp only
      omega
  | line folds word noComment laid ih =>
      obtain ⟨k, rfl⟩ : ∃ k, indent = k + 1 := ⟨indent - 1, by omega⟩
      refine ih.cons (b := [' ']) word noComment rfl fun cursor here right => ?_
      refine ⟨true, _, link_line here (laid.solid noComment) least_, rfl, Nat.le_succ _, ?_,
        fun onLine => ?_⟩
      · dsimp only
        omega
      · exact absurd (onLine '\n' (by simp [Scalar.newline])).1 (by decide)

/-! ## Whole scalars -/

/-- A text that may be written plain. -/
theorem isPlain_of_allowsPlain (nonempty : s ≠ []) (allows : Scalar.allowsPlain s = true) :
    IsPlain s ∧ s.head? ≠ some '#' := by
  obtain ⟨first, rest, rfl⟩ := List.exists_cons_of_ne_nil nonempty
  simp only [Scalar.allowsPlain, Scalar.hasIndicators, Scalar.hasLooseEnds, Bool.not_eq_true',
    Bool.or_eq_false_iff] at allows
  obtain ⟨⟨⟨⟨⟨loose, loose'⟩, oneLine⟩, -⟩, special⟩, ⟨starts, keyInside⟩, comment⟩ := allows
  have usual : ∀ c ∈ first :: rest, isBreak c = false ∧ Scalar.isSpecial c = false := by
    intro c there
    simp only [Scalar.isMultiline, List.any_eq_false] at oneLine special
    exact ⟨by simpa using oneLine c there, by simpa using special c there⟩
  simp only [Scalar.startsAsIndicator, Bool.or_eq_false_iff] at starts
  have noComment : first ≠ '#' := by
    rintro rfl
    exact absurd starts.1.2 (by decide)
  refine ⟨⟨?_, ?_, ⟨first, rfl, ?_⟩, ?_, ?_, comment⟩, by simpa using noComment⟩
  · intro c there gap
    obtain ⟨noBreak, usual_⟩ := usual c there
    simp only [isGap, noBreak, Bool.or_false, Bool.or_eq_true, decide_eq_true_eq] at gap
    rcases gap with blank | rfl
    · exact blank
    · exact absurd usual_ (by decide)
  · intro there
    exact absurd (usual _ there).2 (by decide)
  · rintro rfl
    exact absurd loose (by simp)
  · intro last
    rw [last] at loose'
    exact absurd loose' (by simp)
  · rw [Scalar.endsKeyInside.go, Bool.or_eq_false_iff]
    refine ⟨?_, keyInside⟩
    rw [← Bool.not_eq_true]
    intro key
    simp only [Bool.and_eq_true, decide_eq_true_eq] at key
    have indicator := starts.2
    rw [key.1, key.2] at indicator
    exact absurd indicator (by decide)

/-- Nothing is laid out anew where nothing is folded. -/
theorem foldPlain_false (s : List Char) : ∀ (column : Nat) (blank : Bool),
    Scalar.foldPlain false indent column blank s = s := by
  induction s with
  | nil => exact fun _ _ => rfl
  | cons c s ih =>
      intro column blank
      rw [Scalar.foldPlain, if_neg (by simp), ih]

/-- **A plain scalar at the end of a line is read as its text**, and what is next is read from its
place on. -/
theorem plainScalar_end {column k : Nat} {blank : Bool} {between : List Char} (nonempty : s ≠ [])
    (allows : Scalar.allowsPlain s = true) (least_ : least ≤ indent) (indented : 0 < indent)
    (interlude : Interlude between)
    (here : cursor.rest = Scalar.foldPlain fold indent column blank s ++
      '\n' :: (between ++ (List.replicate k ' ' ++ body))) (right : least ≤ cursor.column + 1)
    (solid : Solid body) (ends : EndsAt least k body) :
    ∃ cursor', (plainScalar false least).Gives cursor (s, true) cursor' ∧ cursor'.Nears k body ∧
      cursor.line < cursor'.line ∧
      cursor'.rest.length ≤ (between ++ (List.replicate k ' ' ++ body)).length := by
  obtain ⟨plain, noComment⟩ := isPlain_of_allowsPlain nonempty allows
  have laid : Laid fold indent s (Scalar.foldPlain fold indent column blank s) :=
    laid_foldPlain (s.length + 1) (by omega) plain column blank
  obtain ⟨cursor₁, rest, line, -, answers⟩ := runs_gives laid least_ indented rfl
    (cursor.rest.length + 1) [] [] false cursor (by
      rw [here, List.length_append]
      omega) noComment here right
  obtain ⟨cursor', ended, nears, line', shorter⟩ := link_end interlude rest solid ends
  exact ⟨cursor', .bind (.get _) (answers true _ ended), nears, Nat.lt_of_le_of_lt line line',
    shorter⟩

/-- **A plain scalar before a colon is read as its text.** -/
theorem plainScalar_key {r : List Char} (nonempty : s ≠ [])
    (allows : Scalar.allowsPlain s = true) (here : cursor.rest = s ++ ':' :: r)
    (gap : atGap r = true) (right : least ≤ cursor.column + 1) :
    OnLine s ∧ (plainScalar false least).Gives cursor (s, false) (cursor.skip s.length) := by
  obtain ⟨plain, noComment⟩ := isPlain_of_allowsPlain nonempty allows
  have laid : Laid false (least + 1) s (Scalar.foldPlain false (least + 1) 0 false s) :=
    laid_foldPlain (s.length + 1) (by omega) plain 0 false
  rw [foldPlain_false] at laid
  have onLine : OnLine s := by
    intro c there
    refine ⟨?_, fun same => plain.noMark (same ▸ there)⟩
    by_cases gap : isGap c = true
    · rw [plain.inside c there gap]
      decide
    · exact isBreak_of_not_isGap (by simpa using gap)
  have stops : run false (':' :: r) = [] := by
    simp [run, colonEnds, gap]
  obtain ⟨cursor', rest, -, moved, answers⟩ := runs_gives laid (by omega) (by omega) stops
    (cursor.rest.length + 1) [] [] false cursor (by
      rw [here, List.length_append]
      omega) noComment here right
  have noGap : ∀ c ∈ cursor'.rest.head?, isGap c = false := by
    intro c there
    rw [rest] at there
    obtain rfl : ':' = c := by simpa using there
    decide
  refine ⟨onLine, .bind (.get _) ?_⟩
  rw [← moved onLine]
  exact answers false _ (link_none noGap)

end Plain

end Conveyor.Yaml
