import Conveyor.Proofs.Yaml.Scanning
import Conveyor.Yaml.Scalar
import Conveyor.Yaml.Token.Text

/-!
# Literal blocks are read back

A literal block holds its lines below the bar, each behind the same indentation, and empty lines as
they are.  The hints behind the bar tell what the lines alone do not: the indentation, if the text
starts with a blank or an empty line, and how many of the last line ends belong to the text.
-/

set_option autoImplicit false

namespace Conveyor.Yaml

open Scan

namespace Block

variable {indent least k n : Nat} {s t u w r bs body_ : List Char} {cursor : Cursor}

/-- How the line ends at the end of a text have to count for the text to be found again. -/
def chompingOf (s : List Char) : Chomping :=
  match s.reverse with
  | [] => .clip
  | [last] => if isBreak last then .keep else .strip
  | last :: before :: _ =>
    if !isBreak last then .strip else if isBreak before then .keep else .clip

/-- The sign of how line ends count. -/
def Chomping.sign : Chomping → List Char
  | .strip => ['-']
  | .clip => []
  | .keep => ['+']

/-- Whether a text starts with a blank or an empty line. -/
def startsLoose (s : List Char) : Bool := s.head?.any fun c => c = ' ' || isBreak c

theorem literalHints_eq (s : List Char) :
    Scalar.literalHints s = (if startsLoose s then ['2'] else []) ++ (chompingOf s).sign := by
  unfold Scalar.literalHints chompingOf startsLoose
  dsimp only
  congr 1
  cases s.reverse with
  | nil => rfl
  | cons last rest =>
      cases rest with
      | nil =>
          dsimp only
          split <;> rfl
      | cons before rest =>
          dsimp only
          split
          · rfl
          · split <;> rfl

/-- The end of a text tells how its line ends count. -/
theorem chompingOf_append (p : List Char) (starts : ∃ c, u.head? = some c ∧ isBreak c = false) :
    chompingOf (p ++ u) = chompingOf u := by
  obtain ⟨c, head, ink⟩ := starts
  obtain ⟨u, rfl⟩ := List.head?_eq_some_iff.mp head
  unfold chompingOf
  rw [List.reverse_append, List.reverse_cons]
  cases u.reverse with
  | nil =>
      cases p.reverse with
      | nil => rfl
      | cons before rest => simp [ink]
  | cons last rest =>
      cases rest with
      | nil => rfl
      | cons before rest => rfl

theorem chompingOf_ink {c : Char} (p : List Char) (ink : isBreak c = false) :
    chompingOf (p ++ [c]) = .strip := by
  rw [chompingOf_append p ⟨c, rfl, ink⟩]
  simp [chompingOf, ink]

theorem chompingOf_clip {b c : Char} (p : List Char) (ink : isBreak c = false)
    (isBreak_ : isBreak b = true) : chompingOf (p ++ [c, b]) = .clip := by
  rw [chompingOf_append p ⟨c, rfl, ink⟩]
  simp [chompingOf, ink, isBreak_]

theorem chompingOf_breaks {b : Char} {bs : List Char} (own : ∀ c ∈ b :: bs, isBreak c = true) :
    chompingOf (b :: bs) = .keep := by
  have each : ∀ c ∈ (b :: bs).reverse, isBreak c = true := fun c there =>
    own c (List.mem_reverse.mp there)
  unfold chompingOf
  cases reversed : (b :: bs).reverse with
  | nil => simp at reversed
  | cons last rest =>
      rw [reversed] at each
      cases rest with
      | nil => simp [each last (by simp)]
      | cons before rest => simp [each last (by simp), each before (by simp)]

theorem chompingOf_keep {b b' c : Char} (p : List Char) (bs : List Char) (ink : isBreak c = false)
    (own : ∀ d ∈ b :: b' :: bs, isBreak d = true) :
    chompingOf (p ++ c :: b :: b' :: bs) = .keep := by
  have each : ∀ d ∈ (b :: b' :: bs).reverse, isBreak d = true := fun d there =>
    own d (List.mem_reverse.mp there)
  rw [chompingOf_append p ⟨c, rfl, ink⟩]
  unfold chompingOf
  rw [List.reverse_cons]
  cases reversed : (b :: b' :: bs).reverse with
  | nil => simp at reversed
  | cons last rest =>
      rw [reversed] at each
      cases rest with
      | nil => simpa using congrArg List.length reversed
      | cons before rest => simp [each last (by simp), each before (by simp)]

theorem counted_ended {b c : Char} (p : List Char) (ink : isBreak c = false)
    (own : ∀ d ∈ b :: bs, isBreak d = true) (text : List Char) :
    counted (chompingOf (p ++ [c] ++ b :: bs)) text [b] bs = text ++ b :: bs := by
  rw [List.append_assoc, List.singleton_append]
  cases bs with
  | nil =>
      rw [chompingOf_clip p ink (own b (by simp))]
      simp [counted]
  | cons b' bs =>
      rw [chompingOf_keep p bs ink own]
      simp [counted]

/-! ## Lines -/

/-- How a text that starts with ink falls into lines: each ends with ink, and behind it stand its
end and the empty lines that follow. -/
inductive InLines : List Char → Prop where
  | last {w : List Char} {c : Char} : (∀ d ∈ w ++ [c], isBreak d = false) → InLines (w ++ [c])
  | ended {w bs : List Char} {b c : Char} : (∀ d ∈ w ++ [c], isBreak d = false) →
      (∀ d ∈ b :: bs, isOwnBreak d = true) → InLines (w ++ [c] ++ b :: bs)
  | more {w bs s : List Char} {b c d : Char} : (∀ d ∈ w ++ [c], isBreak d = false) →
      (∀ d ∈ b :: bs, isOwnBreak d = true) → isBreak d = false → InLines (d :: s) →
      InLines (w ++ [c] ++ (b :: bs ++ d :: s))

theorem inLines_of_own (n : Nat) : ∀ {c : Char} {s : List Char}, s.length < n →
    isBreak c = false → (∀ d ∈ s, isBreak d = true → isOwnBreak d = true) → InLines (c :: s) := by
  induction n with
  | zero => exact fun short => absurd short (by omega)
  | succ n ih =>
      intro c s short ink own
      obtain ⟨v, r, rfl, inside, ends⟩ := exists_run (fun d => !isBreak d) s
      obtain ⟨w, last, line⟩ : ∃ w last, c :: v = w ++ [last] :=
        ⟨_, _, (List.dropLast_concat_getLast (by simp)).symm⟩
      have inside' : ∀ d ∈ w ++ [last], isBreak d = false := by
        rw [← line]
        simpa [ink] using inside
      rw [← List.cons_append, line]
      cases r with
      | nil =>
          rw [List.append_nil]
          exact .last inside'
      | cons b r =>
          have isBreak_ : isBreak b = true := by simpa using ends b rfl
          obtain ⟨bs, u, rfl, breaks, outside⟩ := exists_run isBreak r
          have own' : ∀ d ∈ b :: bs, isOwnBreak d = true := by
            intro d there
            rcases List.mem_cons.mp there with rfl | later
            · exact own d (by simp) isBreak_
            · exact own d (by simp [later]) (breaks d later)
          cases u with
          | nil =>
              rw [List.append_nil]
              exact .ended inside' own'
          | cons d u =>
              simp only [List.length_append, List.length_cons] at short
              refine .more inside' own' (outside d rfl) (ih (by omega) (outside d rfl) ?_)
              exact fun e there => own e (by simp [there])

/-! ## Writing -/

theorem literalLines_breaks (own : ∀ c ∈ bs, isBreak c = true) (t : List Char) :
    Scalar.literalLines indent true (bs ++ t) = bs ++ Scalar.literalLines indent true t := by
  induction bs with
  | nil => rfl
  | cons b bs ih =>
      rw [List.cons_append, Scalar.literalLines, if_pos (own b (by simp)),
        ih fun c there => own c (by simp [there])]
      rfl

theorem literalLines_ink {c : Char} (ink : isBreak c = false) (t : List Char) :
    Scalar.literalLines indent false (c :: t) = c :: Scalar.literalLines indent false t := by
  simp [Scalar.literalLines, ink]

theorem literalLines_rest (ink : ∀ c ∈ w, isBreak c = false) (t : List Char) :
    Scalar.literalLines indent false (w ++ t) = w ++ Scalar.literalLines indent false t := by
  induction w with
  | nil => rfl
  | cons c w ih =>
      rw [List.cons_append, literalLines_ink (ink c (by simp)),
        ih fun d there => ink d (by simp [there])]
      rfl

/-- A line, its end and the empty lines behind it are written as they are. -/
theorem literalLines_line {b : Char} (ink : ∀ c ∈ w, isBreak c = false)
    (own : ∀ c ∈ b :: bs, isOwnBreak c = true) (t : List Char) :
    Scalar.literalLines indent false (w ++ (b :: bs ++ t)) =
      w ++ b :: (bs ++ Scalar.literalLines indent true t) := by
  have breaks : ∀ c ∈ bs, isBreak c = true := fun c there =>
    isBreak_of_isOwnBreak (own c (by simp [there]))
  rw [literalLines_rest ink, List.cons_append, Scalar.literalLines,
    if_pos (isBreak_of_isOwnBreak (own b (by simp))), literalLines_breaks breaks]

theorem length_le_literalLines (indent : Nat) : ∀ (s : List Char) (start : Bool),
    s.length ≤ (Scalar.literalLines indent start s).length
  | [], _ => Nat.zero_le _
  | c :: rest, start => by
      have ih := length_le_literalLines indent rest
      rw [Scalar.literalLines]
      split
      · simpa using ih true
      · simp only [List.length_append, List.length_cons]
        have later := ih false
        omega

theorem literalLines_start {c : Char} (ink : isBreak c = false) (t : List Char) :
    Scalar.literalLines indent true (c :: t) =
      List.replicate indent ' ' ++ Scalar.literalLines indent false (c :: t) := by
  simp [Scalar.literalLines, ink]

/-! ## Reading -/

theorem skipIndent_run {j : Nat} (here : cursor.rest = List.replicate j ' ' ++ u)
    (margin : cursor.column = 0) (fits : j = indent ∨ j < indent ∧ u.head? ≠ some ' ') :
    (skipIndent indent).Gives cursor () (cursor.skip j) := by
  have enough : min (cursor.rest.takeWhile (· = ' ')).length (indent - cursor.column) = j := by
    rw [margin, Nat.sub_zero, here]
    rcases fits with rfl | ⟨less, outside⟩
    · rw [List.takeWhile_append_of_pos (fun c there => by simp [List.eq_of_mem_replicate there]),
        List.length_append, List.length_replicate]
      omega
    · rw [takeWhile_append (fun c there => by simp [List.eq_of_mem_replicate there])
        (fun c there => by
          have other : c ≠ ' ' := fun same => outside (same ▸ there)
          simp [other]), List.length_replicate]
      omega
  refine .bind (.get _) ?_
  dsimp only
  rw [enough]
  exact skip_gives _ _

/-- Empty lines are read, and the indentation of what follows them. -/
theorem emptyLines_gives {j : Nat} (fits : j = indent ∨ j < indent ∧ u.head? ≠ some ' ')
    (ink : ∀ c ∈ u.head?, isBreak c = false) (bs : List Char) :
    ∀ (n : Nat) (lines : List Char) (cursor : Cursor), (∀ b ∈ bs, isOwnBreak b = true) →
      bs.length < n → cursor.column = 0 → cursor.rest = bs ++ (List.replicate j ' ' ++ u) →
      ∃ line index, cursor.line ≤ line ∧
        (emptyLines indent n lines).Gives cursor (lines ++ bs) ⟨u, line, j, index⟩ := by
  induction bs with
  | nil =>
      intro n lines cursor _ enough margin here
      obtain ⟨m, rfl⟩ : ∃ m, n = m + 1 := ⟨n - 1, by omega⟩
      obtain ⟨rest, line, column, index⟩ := cursor
      dsimp only at margin here
      subst margin here
      refine ⟨line, index + j, Nat.le_refl _, ?_⟩
      have indented : (skipIndent indent).Gives ⟨List.replicate j ' ' ++ u, line, 0, index⟩ _ _ :=
        skipIndent_run rfl rfl fits
      rw [Cursor.skip_blanks, Nat.zero_add] at indented
      refine .bind indented (.bind (lineEnd_none ink) ?_)
      rw [if_pos (by rfl), List.append_nil]
      exact .pure _ _
  | cons b bs ih =>
      intro n lines cursor own enough margin here
      obtain ⟨m, rfl⟩ : ∃ m, n = m + 1 := ⟨n - 1, by omega⟩
      obtain ⟨line, index, later, answers⟩ := ih m (lines ++ [b])
        ⟨bs ++ (List.replicate j ' ' ++ u), cursor.line + 1, 0, cursor.index + 1⟩
        (fun c there => own c (by simp [there])) (by simpa using enough) rfl rfl
      refine ⟨line, index, Nat.le_trans (Nat.le_succ _) later, ?_⟩
      have isBreak_ := isBreak_of_isOwnBreak (own b (by simp))
      have noBlank : b ≠ ' ' := by
        rintro rfl
        exact absurd isBreak_ (by decide)
      have indented : (skipIndent indent).Gives cursor () (cursor.skip 0) := by
        by_cases none_ : indent = 0
        · exact skipIndent_run (j := 0) here margin (.inl none_.symm)
        · exact skipIndent_run (j := 0) here margin
            (.inr ⟨Nat.pos_of_ne_zero none_, by simp [noBlank]⟩)
      refine .bind indented (.bind (lineEnd_break here (own b (by simp))) ?_)
      rw [if_neg (by simp)]
      rw [List.append_assoc] at answers
      exact answers

/-- What follows a block stands further left than its lines. -/
theorem isAtLine_false (column : cursor.column ≠ indent) :
    (isAtLine indent).Gives cursor false cursor := by
  refine .bind (.get _) ?_
  simp only [column, decide_false, Bool.false_and]
  exact .pure _ _

theorem isAtLine_true (column : cursor.column = indent) (rest : cursor.rest ≠ []) :
    (isAtLine indent).Gives cursor true cursor := by
  refine .bind (.get _) ?_
  have goesOn : cursor.rest.isEmpty = false := by simpa using rest
  simp only [column, decide_true, goesOn, Bool.not_false, Bool.and_self]
  exact .pure _ _

/-- A line of a block is read with its end and the empty lines after it. -/
theorem line_gives {b : Char} {j : Nat}
    (here : cursor.rest = w ++ b :: (bs ++ (List.replicate j ' ' ++ u)))
    (inside : ∀ c ∈ w, isBreak c = false) (own : ∀ c ∈ b :: bs, isOwnBreak c = true)
    (fits : j = indent ∨ j < indent ∧ u.head? ≠ some ' ')
    (ink : ∀ c ∈ u.head?, isBreak c = false) :
    ∃ line' index loose, cursor.line < line' ∧
      (line indent).Gives cursor (loose, w, [b], bs) ⟨u, line', j, index⟩ := by
  have isBreak_ := isBreak_of_isOwnBreak (own b (by simp))
  have there := Cursor.rest_skip_append here
  obtain ⟨line', index, later, answers⟩ := emptyLines_gives fits ink bs
    ((bs ++ (List.replicate j ' ' ++ u)).length + 1) []
    ⟨bs ++ (List.replicate j ' ' ++ u), (cursor.skip w.length).line + 1, 0,
      (cursor.skip w.length).index + 1⟩
    (fun c there => own c (by simp [there])) (by simp only [List.length_append]; omega) rfl rfl
  have further := Cursor.line_le_skip w.length cursor
  dsimp only at later
  refine ⟨line', index, isLoose cursor.rest.head?, by omega, .bind (peek_gives _) ?_⟩
  refine .bind (takeWhile_run here (fun c there => by simp [inside c there])
    (by simp [isBreak_])) ?_
  exact .bind (lineEnd_break there (own b (by simp))) (.bind (.get _) (.bind answers (.pure _ _)))

theorem body_last {text lines ended after : List Char} {loose : Bool} {cursor' : Cursor}
    (read : (line indent).Gives cursor (loose, w, ended, after) cursor')
    (outside : cursor'.column ≠ indent) :
    (body false indent (n + 1) text lines).Gives cursor (text ++ lines ++ w, ended, after)
      cursor' := by
  refine .bind read (.bind (isAtLine_false outside) ?_)
  exact .pure _ _

theorem body_goesOn {text lines ended after : List Char} {loose : Bool}
    {answer : List Char × List Char × List Char} {cursor' cursor'' : Cursor}
    (read : (line indent).Gives cursor (loose, w, ended, after) cursor')
    (column : cursor'.column = indent) (rest : cursor'.rest ≠ [])
    (next : (body false indent n (text ++ lines ++ w ++ ended) after).Gives cursor' answer
      cursor'') :
    (body false indent (n + 1) text lines).Gives cursor answer cursor'' := by
  refine .bind read (.bind (isAtLine_true column rest) ?_)
  exact .bind (peek_gives _) next

/-- **The lines of a block are read as its text**, with the line ends that count. -/
theorem body_gives (solid : Solid body_) (less : k < indent) (inLines : InLines s) :
    ∀ (n : Nat) (text lines : List Char) (cursor : Cursor), s.length < n →
      cursor.rest = Scalar.literalLines indent false s ++ (List.replicate k ' ' ++ body_) →
      ∃ found line index, cursor.line < line ∧
        (body false indent n text lines).Gives cursor found ⟨body_, line, k, index⟩ ∧
        counted (chompingOf s) found.1 found.2.1 found.2.2 = text ++ lines ++ s := by
  have outside : k = indent ∨ k < indent ∧ body_.head? ≠ some ' ' :=
    .inr ⟨less, fun blank => (solid ' ' blank).1 rfl⟩
  have noBreak : ∀ c ∈ body_.head?, isBreak c = false := fun c there => (solid c there).2.1
  induction inLines with
  | @last w c ink =>
      -- the line feed behind the last line is not its own
      intro n text lines cursor enough here
      obtain ⟨m, rfl⟩ : ∃ m, n = m + 1 := ⟨n - 1, by omega⟩
      have feed : ∀ d ∈ ['\n'], isOwnBreak d = true := by simp [isOwnBreak]
      have written : Scalar.literalLines indent false (w ++ [c] ++ []) = _ :=
        literalLines_rest ink []
      rw [List.append_nil] at written
      rw [written, List.append_assoc] at here
      obtain ⟨line', index, loose, later, read⟩ := line_gives here ink feed outside noBreak
      refine ⟨_, line', index, later, body_last read (Nat.ne_of_lt less), ?_⟩
      rw [chompingOf_ink w (ink c (by simp))]
      simp [counted]
  | @ended w bs b c ink own =>
      intro n text lines cursor enough here
      obtain ⟨m, rfl⟩ : ∃ m, n = m + 1 := ⟨n - 1, by omega⟩
      have written : Scalar.literalLines indent false (w ++ [c] ++ (b :: bs ++ [])) = _ :=
        literalLines_line ink own []
      rw [List.append_nil, Scalar.literalLines, if_pos rfl, List.append_nil] at written
      rw [written, List.append_assoc, List.cons_append] at here
      obtain ⟨line', index, loose, later, read⟩ := line_gives here ink own outside noBreak
      refine ⟨_, line', index, later, body_last read (Nat.ne_of_lt less), ?_⟩
      rw [counted_ended w (ink c (by simp)) fun d there => isBreak_of_isOwnBreak (own d there),
        List.append_assoc]
  | @more w bs s b c d ink own first _ ih =>
      intro n text lines cursor enough here
      obtain ⟨m, rfl⟩ : ∃ m, n = m + 1 := ⟨n - 1, by omega⟩
      have head : Scalar.literalLines indent false (d :: s) = _ := literalLines_ink first s
      rw [literalLines_line ink own, literalLines_start first] at here
      rw [List.append_assoc, List.cons_append, List.append_assoc bs,
        List.append_assoc (List.replicate indent ' ')] at here
      obtain ⟨line', index, loose, later, read⟩ := line_gives here ink own (.inl rfl)
        (by simpa [head] using first)
      simp only [List.length_append, List.length_cons] at enough
      obtain ⟨found, line'', index', later', answers, count⟩ := ih m
        (text ++ lines ++ (w ++ [c]) ++ [b]) bs ⟨_, line', indent, index⟩
        (by simp only [List.length_cons]; omega) rfl
      refine ⟨found, line'', index', Nat.lt_trans later later', ?_, ?_⟩
      · exact body_goesOn read rfl (by simp [head]) answers
      · rw [← List.append_assoc, chompingOf_append _ ⟨d, rfl, first⟩, count]
        simp

/-! ## Hints -/

theorem chomping_gives (chomp : Chomping) {r : List Char}
    (here : cursor.rest = chomp.sign ++ '\n' :: r) :
    ∃ found, chomping.Gives cursor found (cursor.skip chomp.sign.length) ∧
      found.getD .clip = chomp := by
  cases chomp with
  | strip =>
      refine ⟨some .strip, .bind (peek_gives _) ?_, rfl⟩
      rw [here]
      exact .bind (skip_gives _ _) (.pure _ _)
  | clip =>
      refine ⟨none, .bind (peek_gives _) ?_, rfl⟩
      rw [here]
      exact .pure _ _
  | keep =>
      refine ⟨some .keep, .bind (peek_gives _) ?_, rfl⟩
      rw [here]
      exact .bind (skip_gives _ _) (.pure _ _)

theorem increment_none {c : Char} {r : List Char} (here : cursor.rest = c :: r)
    (noDigit : c.isDigit = false) : increment.Gives cursor none cursor := by
  refine .bind (peek_gives _) ?_
  rw [here, List.head?_cons]
  dsimp only
  rw [noDigit]
  exact .pure _ _

theorem increment_two {r : List Char} (here : cursor.rest = '2' :: r) :
    increment.Gives cursor (some 2) (cursor.skip 1) := by
  refine .bind (peek_gives _) ?_
  rw [here]
  exact .bind (skip_gives _ _) (.pure _ _)

/-- **The hints are read as they were given.** -/
theorem header_gives (indented : Bool) (chomp : Chomping) {r : List Char}
    (here : cursor.rest = (if indented then ['2'] else []) ++ chomp.sign ++ '\n' :: r) :
    ∃ cursor', cursor'.rest = '\n' :: r ∧ cursor.line ≤ cursor'.line ∧
      header.Gives cursor (chomp, if indented then some 2 else none) cursor' := by
  have atEnd : ∀ cursor' : Cursor, cursor'.rest = '\n' :: r →
      isAtBlank.Gives cursor' true cursor' := by
    intro cursor' there
    refine .bind (peek_gives _) (.bind (.get _) ?_)
    rw [there]
    exact .pure _ _
  cases indented with
  | true =>
      rw [if_pos rfl, List.append_assoc] at here
      have noSign : chomping.Gives cursor none cursor := by
        refine .bind (peek_gives _) ?_
        rw [here]
        exact .pure _ _
      have there : (cursor.skip 1).rest = chomp.sign ++ '\n' :: r := by
        rw [Cursor.rest_skip, here]
        rfl
      have there' := Cursor.rest_skip_append there
      obtain ⟨found, read, same⟩ := chomping_gives chomp there
      refine ⟨_, there', ?_, ?_⟩
      · exact Nat.le_trans (Cursor.line_le_skip _ _) (Cursor.line_le_skip _ _)
      · refine .bind noSign (.bind (increment_two here) (.bind read (.bind (atEnd _ there') ?_)))
        rw [same]
        exact .pure _ _
  | false =>
      rw [if_neg (by decide), List.nil_append] at here
      have there := Cursor.rest_skip_append here
      obtain ⟨found, read, same⟩ := chomping_gives chomp here
      refine ⟨_, there, Cursor.line_le_skip _ _, ?_⟩
      have noDigit := increment_none there (by decide)
      refine .bind read (.bind noDigit ?_)
      cases found with
      | none =>
          refine .bind (.pure _ _) (.bind (atEnd _ there) ?_)
          rw [same]
          exact .pure _ _
      | some c =>
          refine .bind (.pure _ _) (.bind (atEnd _ there) ?_)
          rw [same]
          exact .pure _ _

theorem restOfLine_gives {r : List Char} (here : cursor.rest = '\n' :: r) :
    restOfLine.Gives cursor () ⟨r, cursor.line + 1, 0, cursor.index + 1⟩ := by
  refine .bind (skipBlanks_run 0 here (by simp)) (.bind (skipComment_none ?_) ?_)
  · rw [Cursor.skip, here]
    simp
  · refine .bind (.bind (.get _) (.pure _ _)) ?_
    rw [Cursor.skip, here, if_pos (by rfl)]
    exact .bind (lineEnd_break here (by decide)) (.pure _ _)

/-- The indentation of the first line is found where no hint tells it. -/
theorem leadingLines_gives (solid : ∀ c ∈ u.head?, c ≠ ' ' ∧ isBreak c = false)
    (lines : List Char) (j : Nat) : ∀ (n : Nat) (cursor : Cursor), j < n →
      cursor.rest = List.replicate j ' ' ++ u →
      (leadingLines n lines cursor.column).Gives cursor (lines, cursor.column + j)
        (cursor.skip j) := by
  induction j with
  | zero =>
      intro n cursor enough here
      obtain ⟨m, rfl⟩ : ∃ m, n = m + 1 := ⟨n - 1, by omega⟩
      have here' : cursor.rest = u := here
      have noEnd : lineEnd.Gives cursor [] cursor :=
        lineEnd_none fun c there => (solid c (here' ▸ there)).2
      refine .bind (peek_gives cursor) ?_
      rw [here']
      cases head : u.head? with
      | none => exact .bind noEnd (.pure _ _)
      | some c =>
          split
          · rename_i same
            exact absurd (Option.some.inj same) (solid c head).1
          · exact .bind noEnd (.pure _ _)
  | succ j ih =>
      intro n cursor enough here
      obtain ⟨m, rfl⟩ : ∃ m, n = m + 1 := ⟨n - 1, by omega⟩
      have moved := Cursor.skip_onLine (OnLine.blanks 1) here
      have there : (cursor.skip 1).rest = List.replicate j ' ' ++ u := by
        rw [Cursor.rest_skip, here]
        rfl
      have column : (cursor.skip 1).column = cursor.column + 1 := congrArg Cursor.column moved
      have next := ih m (cursor.skip 1) (by omega) there
      rw [column, ← Cursor.skip_add, Nat.add_assoc, Nat.add_comm 1] at next
      refine .bind (peek_gives cursor) ?_
      rw [here, List.replicate_succ, List.cons_append, List.head?_cons]
      refine .bind (skip_gives 1 cursor) (.bind (.get _) ?_)
      rw [column, Nat.max_eq_right (Nat.le_succ _)]
      exact next

/-! ## Whole blocks -/

theorem leading_hinted (own : ∀ c ∈ bs, isOwnBreak c = true) {j : Nat}
    (fits : j = least + 1 ∨ j < least + 1 ∧ u.head? ≠ some ' ')
    (ink : ∀ c ∈ u.head?, isBreak c = false) (line index : Nat) :
    ∃ line' index', line ≤ line' ∧
      (leading least (some 2)).Gives ⟨bs ++ (List.replicate j ' ' ++ u), line, 0, index⟩
        (bs, least + 1) ⟨u, line', j, index'⟩ := by
  obtain ⟨line', index', later, answers⟩ := emptyLines_gives fits ink bs
    ((bs ++ (List.replicate j ' ' ++ u)).length + 1) []
    ⟨bs ++ (List.replicate j ' ' ++ u), line, 0, index⟩ own
    (by rw [List.length_append]; omega) rfl rfl
  exact ⟨line', index', later, .bind (.get _) (.bind answers (.pure _ _))⟩

theorem leading_found {c : Char} (noBlank : c ≠ ' ') (ink : isBreak c = false)
    (margin : cursor.column = 0)
    (here : cursor.rest = List.replicate (least + 1) ' ' ++ c :: u) :
    (leading least none).Gives cursor ([], least + 1)
      ⟨c :: u, cursor.line, least + 1, cursor.index + (least + 1)⟩ := by
  obtain ⟨rest, line, column, index⟩ := cursor
  dsimp only at margin here
  subst margin here
  have answers := leadingLines_gives (u := c :: u) (by simpa using ⟨noBlank, ink⟩) [] (least + 1)
    ((List.replicate (least + 1) ' ' ++ c :: u).length + 1)
    ⟨List.replicate (least + 1) ' ' ++ c :: u, line, 0, index⟩
    (by simp only [List.length_append, List.length_replicate]; omega) rfl
  rw [Cursor.skip_blanks, Nat.zero_add] at answers
  refine .bind (.get _) (.bind answers ?_)
  dsimp only
  rw [Nat.max_eq_right (Nat.le_succ _)]
  exact .pure _ _

theorem all_none {lines : List Char} (outside : cursor.column ≠ indent) :
    (all false indent lines).Gives cursor ([], [], lines) cursor :=
  .bind (isAtLine_false outside) (.pure _ _)

theorem all_some {lines : List Char} {found : List Char × List Char × List Char}
    {cursor' : Cursor} (column : cursor.column = indent) (rest : cursor.rest ≠ [])
    (read : (body false indent (cursor.rest.length + 1) [] lines).Gives cursor found cursor') :
    (all false indent lines).Gives cursor found cursor' :=
  .bind (isAtLine_true column rest) (.bind (.get _) read)

/-- In front of ink the indentation is found, or it is known from the hint. -/
theorem leading_gives {c : Char} (own : ∀ b ∈ bs, isOwnBreak b = true) (ink : isBreak c = false)
    (least : Nat) (u r : List Char) (line index : Nat) :
    ∃ line' index', line ≤ line' ∧
      (leading least (if startsLoose (bs ++ c :: u) then some 2 else none)).Gives
        ⟨bs ++ (List.replicate (least + 1) ' ' ++ c :: r), line, 0, index⟩ (bs, least + 1)
        ⟨c :: r, line', least + 1, index'⟩ := by
  by_cases loose : startsLoose (bs ++ c :: u) = true
  · rw [if_pos loose]
    exact leading_hinted own (.inl rfl) (by simpa using ink) line index
  · rw [if_neg loose]
    have noLines : bs = [] := by
      cases bs with
      | nil => rfl
      | cons b bs => simp [startsLoose, isBreak_of_isOwnBreak (own b (by simp))] at loose
    subst noLines
    have noBlank : c ≠ ' ' := by
      rintro rfl
      simp [startsLoose] at loose
    exact ⟨line, index + (least + 1), Nat.le_refl _, leading_found noBlank ink rfl rfl⟩

/-- The lines of a block are found with the indentation that they are written with. -/
theorem lines_gives (nonempty : s ≠ []) (own : ∀ c ∈ s, isBreak c = true → isOwnBreak c = true)
    (solid : Solid body_) (less : k < least + 1) (line index : Nat) :
    ∃ lines cursor' found line' index', line ≤ line' ∧
      (leading least (if startsLoose s then some 2 else none)).Gives
        ⟨Scalar.literalLines (least + 1) true s ++ (List.replicate k ' ' ++ body_), line, 0, index⟩
        (lines, least + 1) cursor' ∧
      (all false (least + 1) lines).Gives cursor' found ⟨body_, line', k, index'⟩ ∧
      counted (chompingOf s) found.1 found.2.1 found.2.2 = s := by
  obtain ⟨bs, u, rfl, breaks, outside⟩ := exists_run isBreak s
  have own' : ∀ c ∈ bs, isOwnBreak c = true := fun c there =>
    own c (by simp [there]) (breaks c there)
  rw [literalLines_breaks breaks]
  cases u with
  | nil =>
      -- nothing but line ends
      rw [List.append_nil] at nonempty ⊢
      obtain ⟨b, bs, rfl⟩ := List.exists_cons_of_ne_nil nonempty
      have loose : startsLoose (b :: bs) = true := by
        simp [startsLoose, breaks b (by simp)]
      have margin : k = least + 1 ∨ k < least + 1 ∧ body_.head? ≠ some ' ' :=
        .inr ⟨less, fun blank => (solid ' ' blank).1 rfl⟩
      have noBreak : ∀ c ∈ body_.head?, isBreak c = false := fun c there => (solid c there).2.1
      obtain ⟨line', index', later, answers⟩ := leading_hinted own' margin noBreak line index
      rw [loose, Scalar.literalLines, if_pos rfl, if_pos rfl, List.append_nil]
      refine ⟨_, _, _, line', index', later, answers, all_none (Nat.ne_of_lt less), ?_⟩
      rw [chompingOf_breaks breaks]
      simp [counted]
  | cons c u =>
      have ink := outside c rfl
      have starts : ∃ d, (c :: u).head? = some d ∧ isBreak d = false := ⟨c, rfl, ink⟩
      have first : Scalar.literalLines (least + 1) false (c :: u) = _ := literalLines_ink ink u
      rw [literalLines_start ink, List.append_assoc, List.append_assoc, chompingOf_append bs starts,
        first, List.cons_append]
      obtain ⟨line₁, index₁, later₁, answers₁⟩ := leading_gives own' ink least u
        (Scalar.literalLines (least + 1) false u ++ (List.replicate k ' ' ++ body_)) line index
      have inLines := inLines_of_own (u.length + 1) (Nat.lt_succ_self _) ink fun d there =>
        own d (by simp [there])
      have long : (c :: u).length < (Scalar.literalLines (least + 1) false (c :: u) ++
          (List.replicate k ' ' ++ body_)).length + 1 := by
        have shorter := length_le_literalLines (least + 1) (c :: u) false
        rw [List.length_append]
        omega
      obtain ⟨found, line₂, index₂, later₂, answers₂, count⟩ :=
        body_gives solid less inLines _ [] bs ⟨_, line₁, least + 1, index₁⟩ long rfl
      rw [first] at answers₂
      refine ⟨bs, _, found, line₂, index₂, Nat.le_trans later₁ (Nat.le_of_lt later₂), answers₁,
        all_some rfl (by simp) answers₂, ?_⟩
      rw [count, List.nil_append]

/-- **A literal block is read as its text**, and what is next is read from its place on. -/
theorem blockScalar_gives (allows : Scalar.allowsLiteral s = true) (noNextLine : '\x85' ∉ s)
    (solid : Solid body_) (less : k ≤ least)
    (here : cursor.rest = '|' :: Scalar.literalHints s ++
      '\n' :: (Scalar.literalLines (least + 1) true s ++ (List.replicate k ' ' ++ body_))) :
    ∃ line index, cursor.line < line ∧
      (blockScalar false least).Gives cursor s ⟨body_, line, k, index⟩ := by
  have nonempty : s ≠ [] := by
    rintro rfl
    exact absurd allows (by decide)
  have own : ∀ c ∈ s, isBreak c = true → isOwnBreak c = true := by
    intro c there isBreak_
    have noNextLine' : c ≠ '\x85' := fun same => noNextLine (same ▸ there)
    simp only [isBreak, noNextLine', decide_false, Bool.or_false] at isBreak_
    exact isBreak_
  have there : (cursor.skip 1).rest = (if startsLoose s then ['2'] else []) ++
      (chompingOf s).sign ++
      '\n' :: (Scalar.literalLines (least + 1) true s ++ (List.replicate k ' ' ++ body_)) := by
    rw [Cursor.rest_skip, here, literalHints_eq]
    rfl
  obtain ⟨cursor₁, rest₁, line₁, hints⟩ := header_gives _ _ there
  obtain ⟨lines, cursor₂, ⟨text, ended, after⟩, line, index, later, before, read, count⟩ :=
    lines_gives nonempty own solid (Nat.lt_succ_of_le less) (cursor₁.line + 1) (cursor₁.index + 1)
  have start := Cursor.line_le_skip 1 cursor
  refine ⟨line, index, by omega, ?_⟩
  refine .bind (skip_gives _ _) (.bind hints (.bind (restOfLine_gives rest₁) ?_))
  refine .bind before (.bind read ?_)
  dsimp only at count ⊢
  rw [count]
  exact .pure _ _

end Block

end Conveyor.Yaml
