import Conveyor.Proofs.Text.Hex
import Conveyor.Proofs.Yaml.Scanning
import Conveyor.Yaml.Scalar
import Conveyor.Yaml.Token.Text

/-!
# Quoted scalars are read back

Between apostrophes an apostrophe stands twice, a blank may have become a new line, and line
separators are followed by an indentation.  Between quotation marks everything but plain ink is
escaped, and a line may end with a backslash anywhere.  One relation says how a text may be laid out
between quotes, and the reader finds the text of every layout.
-/

set_option autoImplicit false

namespace Conveyor.Yaml

open Scan

namespace Quote

/-- The quote at both ends of a scalar. -/
def mark (double : Bool) : Char := if double then '"' else '\''

/-- The characters that stand for themselves between quotes of a kind. -/
def isInk (double : Bool) (c : Char) : Bool :=
  !isGap c && c ≠ mark double && (!double || c ≠ '\\')

/-- How a text is laid out between quotes. -/
inductive Laid (double : Bool) (indent : Nat) : List Char → List Char → Prop where
  | nil : Laid double indent [] []
  | ink {c : Char} {s t : List Char} : isInk double c = true → Laid double indent s t →
      Laid double indent (c :: s) (c :: t)
  | blank {s t : List Char} : (∀ c ∈ t.head?, isBreak c = false) → Laid double indent s t →
      Laid double indent (' ' :: s) (' ' :: t)
  | apostrophe {s t : List Char} : double = false → Laid double indent s t →
      Laid double indent ('\'' :: s) ('\'' :: '\'' :: t)
  | folded {s t : List Char} : double = false → (∀ c ∈ t.head?, isGap c = false) →
      Laid double indent s t → Laid double indent (' ' :: s) (Scalar.newline indent ++ t)
  | separators {b : Char} {bs s t : List Char} : double = false → b ≠ '\n' →
      (∀ c ∈ b :: bs, isOwnBreak c = true) → (∀ c ∈ t.head?, isGap c = false) →
      Laid double indent s t →
      Laid double indent (b :: bs ++ s) (b :: bs ++ (List.replicate indent ' ' ++ t))
  | escaped {c : Char} {s t : List Char} : double = true → Laid double indent s t →
      Laid double indent (c :: s) (Scalar.escape c ++ t)
  | guarded {s t : List Char} : double = true → Laid double indent s t →
      Laid double indent (' ' :: s) ('\\' :: ' ' :: t)
  | turned {s t : List Char} : double = true → (∀ c ∈ t.head?, isGap c = false) →
      Laid double indent s t → Laid double indent s ('\\' :: (Scalar.newline indent ++ t))

variable {double : Bool} {indent n : Nat} {s t w r tail text : List Char} {cursor : Cursor}

/-! ## One step of the reader -/

theorem body_close (here : cursor.rest = mark double :: tail) (after : tail.head? ≠ some '\'') :
    (body double (n + 1) text).Gives cursor text (cursor.skip 1) := by
  refine .bind (peek_gives _) ?_
  rw [here, List.head?_cons]
  cases double with
  | true => exact .bind (skip_gives _ _) (.pure _ _)
  | false =>
      dsimp only [mark]
      rw [if_neg (by decide), if_pos (by decide)]
      refine .bind (.get _) ?_
      have single : cursor.ahead 1 ≠ some '\'' := by
        rw [Cursor.ahead, here]
        simpa [List.head?_eq_getElem?] using after
      rw [if_neg single]
      exact .bind (skip_gives _ _) (.pure _ _)

theorem body_word (here : cursor.rest = w ++ r) (nonempty : w ≠ [])
    (inside : ∀ c ∈ w, isWordChar c = true) (outside : ∀ c ∈ r.head?, isWordChar c = false) :
    (body double (n + 1) text).run cursor =
      (body double n (text ++ w)).run (cursor.skip w.length) := by
  obtain ⟨c, w, rfl⟩ := List.exists_cons_of_ne_nil nonempty
  have first := inside c (by simp)
  simp only [isWordChar, Bool.not_eq_true', Bool.or_eq_false_iff, decide_eq_false_iff_not] at first
  rw [body, (peek_gives cursor).run_bind, here, List.cons_append, List.head?_cons]
  dsimp only
  rw [if_neg (fun h => first.1.1.2 h.1), if_neg (fun h => first.1.2 h.1),
    if_neg (fun h => first.2 h.1), if_neg (by simp [first.1.1.1]),
    (takeWhile_run here inside outside).run_bind, if_neg (by simp)]

/-- A character that no word starts with is read alone. -/
theorem body_lone {c : Char} (here : cursor.rest = c :: r) (ink : isInk double c = true)
    (outside : isWordChar c = false) :
    (body double (n + 1) text).run cursor = (body double n (text ++ [c])).run (cursor.skip 1) := by
  simp only [isInk, Bool.and_eq_true, Bool.not_eq_true', decide_eq_true_eq, Bool.or_eq_true] at ink
  obtain ⟨⟨noGap, noQuote⟩, noEscape⟩ := ink
  have noWord : (takeWhile isWordChar).Gives cursor [] cursor :=
    takeWhile_run (s := []) (r := c :: r) here (by simp) (by simpa using outside)
  rw [body, (peek_gives cursor).run_bind, here, List.head?_cons]
  dsimp only
  rw [if_neg, if_neg, if_neg, if_neg (by simp [noGap]), noWord.run_bind, if_pos (by rfl),
    (skip_gives 1 cursor).run_bind]
  · rintro ⟨rfl, rfl⟩
    simp at noEscape
  · rintro ⟨rfl, single⟩
    cases double with
    | true => exact absurd single (by decide)
    | false => exact noQuote rfl
  · rintro ⟨rfl, rfl⟩
    exact noQuote rfl

/-- What is read in runs is read character by character as well. -/
theorem body_first {c : Char} {cursor' : Cursor} {answer : List Char}
    (run : ∀ {m : Nat} {v text : List Char} {cursor : Cursor}, cursor.rest = v ++ r → v ≠ [] →
      (∃ u, c :: w = u ++ v) →
      (body double (m + 1) text).run cursor =
        (body double m (text ++ v)).run (cursor.skip v.length))
    (here : cursor.rest = c :: (w ++ r))
    (next : ∀ m, n ≤ m → (body double m (text ++ [c])).Gives (cursor.skip 1) answer cursor') :
    (body double (n + 1) text).Gives cursor answer cursor' := by
  have there : (cursor.skip 1).rest = w ++ r := by
    rw [Cursor.rest_skip, here]
    rfl
  have whole : (body double (n + 1) text).run cursor = _ := run here (by simp) ⟨[], rfl⟩
  by_cases single : w = []
  · subst single
    exact whole.trans (next n (Nat.le_refl n))
  · -- the rest of the run is read with its first character, or else right after it
    have later : (body double (n + 1) (text ++ [c])).run (cursor.skip 1) = _ :=
      run there single ⟨[c], rfl⟩
    have moved : cursor.skip (c :: w).length = (cursor.skip 1).skip w.length := by
      rw [← Cursor.skip_add, List.length_cons, Nat.add_comm]
    unfold Gives
    rw [whole, moved, ← List.singleton_append, ← List.append_assoc, ← later]
    exact next (n + 1) (Nat.le_succ n)

/-- Characters that stand for themselves are read one by one. -/
theorem body_ink {c : Char} {cursor' : Cursor} {answer : List Char}
    (here : cursor.rest = c :: r) (ink : isInk double c = true)
    (next : ∀ m, n ≤ m → (body double m (text ++ [c])).Gives (cursor.skip 1) answer cursor') :
    (body double (n + 1) text).Gives cursor answer cursor' := by
  by_cases word : isWordChar c = true
  · obtain ⟨w, r', rfl, inside, outside⟩ := exists_run isWordChar r
    refine body_first (fun there nonempty ⟨u, whole⟩ => ?_) here next
    refine body_word there nonempty (fun d among => ?_) outside
    have among' : d ∈ c :: w := whole ▸ List.mem_append_right u among
    rcases List.mem_cons.1 among' with rfl | among'
    · exact word
    · exact inside d among'
  · exact (body_lone here ink (by simpa using word)).trans (next n (Nat.le_refl n))

theorem body_blanks (here : cursor.rest = w ++ r) (nonempty : w ≠ [])
    (inside : ∀ c ∈ w, isBlank c = true) (outside : ∀ c ∈ r.head?, isBlank c = false)
    (goesOn : r ≠ []) (sameLine : ∀ c ∈ r.head?, isBreak c = false) :
    (body double (n + 1) text).run cursor =
      (body double n (text ++ w)).run (cursor.skip w.length) := by
  obtain ⟨c, w, rfl⟩ := List.exists_cons_of_ne_nil nonempty
  have first := inside c (by simp)
  have isGap_ : isGap c = true := by
    simp only [isBlank, Bool.or_eq_true, decide_eq_true_eq] at first
    rcases first with rfl | rfl <;> decide
  have noQuote : c ≠ '"' ∧ c ≠ '\'' ∧ c ≠ '\\' := by
    refine ⟨?_, ?_, ?_⟩ <;> rintro rfl <;> exact absurd isGap_ (by decide)
  have there := Cursor.rest_skip_append here
  have gap_ : gap.Gives cursor (c :: w) (cursor.skip (c :: w).length) := by
    refine .bind (takeWhile_run here inside outside) ?_
    refine .bind (lineEnd_none fun d there' => sameLine d (there ▸ there')) ?_
    rw [if_pos (by rfl)]
    refine .bind (peek_gives _) ?_
    rw [there, if_neg (by simpa using goesOn)]
    exact .pure _ _
  rw [body, (peek_gives cursor).run_bind, here, List.cons_append, List.head?_cons]
  dsimp only
  rw [if_neg (fun h => noQuote.1 h.1), if_neg (fun h => noQuote.2.1 h.1),
    if_neg (fun h => noQuote.2.2 h.1), if_pos isGap_, gap_.run_bind]

/-- Blanks are read one by one. -/
theorem body_blank {cursor' : Cursor} {answer : List Char}
    (here : cursor.rest = ' ' :: r) (goesOn : r.dropWhile isBlank ≠ [])
    (sameLine : ∀ c ∈ (r.dropWhile isBlank).head?, isBreak c = false)
    (next : ∀ m, n ≤ m → (body double m (text ++ [' '])).Gives (cursor.skip 1) answer cursor') :
    (body double (n + 1) text).Gives cursor answer cursor' := by
  obtain ⟨w, r', rfl, inside, outside⟩ := exists_run isBlank r
  have rest : (w ++ r').dropWhile isBlank = r' := by
    rw [List.dropWhile_append_of_pos inside]
    cases r' with
    | nil => rfl
    | cons c r' => rw [List.dropWhile_cons_of_neg (by simp [outside c rfl])]
  rw [rest] at goesOn sameLine
  refine body_first (fun there nonempty ⟨u, whole⟩ => ?_) here next
  refine body_blanks there nonempty (fun d among => ?_) outside goesOn sameLine
  have among' : d ∈ ' ' :: w := whole ▸ List.mem_append_right u among
  rcases List.mem_cons.1 among' with rfl | among'
  · rfl
  · exact inside d among'

/-! ## Line ends -/

theorem not_isBlank {c : Char} (noGap : isGap c = false) : isBlank c = false := by
  simp only [isGap, Bool.or_eq_false_iff] at noGap
  simp only [isBlank, Bool.or_eq_false_iff]
  exact ⟨noGap.1.1, noGap.1.2⟩

theorem not_atDocumentMark {c : Char} (here : cursor.rest = c :: r) (gap : isGap c = true) :
    cursor.atDocumentMark = false := by
  have noMark : c ≠ '-' ∧ c ≠ '.' := by
    refine ⟨?_, ?_⟩ <;> rintro rfl <;> exact absurd gap (by decide)
  simp [Cursor.atDocumentMark, Cursor.atMark, here, noMark.1.symm, noMark.2.symm]

theorem isBlank_eq_false {c : Char} (isBreak_ : isBreak c = true) : isBlank c = false := by
  rw [isBlank, Bool.or_eq_false_iff, decide_eq_false_iff_not, decide_eq_false_iff_not]
  constructor <;> rintro rfl <;> exact absurd isBreak_ (by decide)

/-- Empty lines are read up to the indentation of the line after them. -/
theorem emptyLines_gives {k : Nat} (ink : ∀ c ∈ t.head?, isGap c = false) (bs : List Char) :
    ∀ (n : Nat) (lines : List Char) (cursor : Cursor), (∀ b ∈ bs, isOwnBreak b = true) →
      bs.length < n → cursor.rest = bs ++ (List.replicate (k + 1) ' ' ++ t) →
      ∃ cursor', cursor'.rest = t ∧ cursor.line ≤ cursor'.line ∧
        (emptyLines n lines).Gives cursor (lines ++ bs) cursor' := by
  induction bs with
  | nil =>
      intro n lines cursor _ enough here
      obtain ⟨m, rfl⟩ : ∃ m, n = m + 1 := ⟨n - 1, by omega⟩
      rw [List.nil_append] at here
      have there := Cursor.rest_skip_append here
      rw [List.length_replicate] at there
      refine ⟨cursor.skip (k + 1), there, Cursor.line_le_skip _ _, .bind (.get _) ?_⟩
      rw [if_neg (by simp [not_atDocumentMark here (c := ' ') (by decide)])]
      have blanks := skipWhile_run (p := isBlank) here
        (fun c inside => by rw [List.eq_of_mem_replicate inside]; rfl)
        (fun c inside => not_isBlank (ink c inside))
      rw [List.length_replicate] at blanks
      refine .bind blanks (.bind (lineEnd_none fun c inside => ?_) ?_)
      · exact isBreak_of_not_isGap (ink c (there ▸ inside))
      · rw [if_pos (by rfl), List.append_nil]
        exact .pure _ _
  | cons b bs ih =>
      intro n lines cursor own enough here
      obtain ⟨m, rfl⟩ : ∃ m, n = m + 1 := ⟨n - 1, by omega⟩
      have isBreak_ := isBreak_of_isOwnBreak (own b (by simp))
      have isGap_ : isGap b = true := by simp [isGap, isBreak_]
      have noBlank := isBlank_eq_false isBreak_
      obtain ⟨cursor', rest, line, answers⟩ := ih m (lines ++ [b])
        ⟨bs ++ (List.replicate (k + 1) ' ' ++ t), cursor.line + 1, 0, cursor.index + 1⟩
        (fun c inside => own c (by simp [inside])) (by simpa using enough) rfl
      refine ⟨cursor', rest, Nat.le_trans (Nat.le_succ _) line, .bind (.get _) ?_⟩
      rw [if_neg (by simp [not_atDocumentMark here isGap_])]
      have blanks : (skipWhile isBlank).Gives cursor () cursor :=
        skipWhile_run (s := []) here (by simp) (by simpa using noBlank)
      refine .bind blanks (.bind (lineEnd_break here (own b (by simp))) ?_)
      rw [if_neg (by simp)]
      rw [List.append_assoc] at answers
      exact answers

/-- A line end with what follows it is read as a gap. -/
theorem gap_lines {k : Nat} {b : Char} {bs : List Char} (own : ∀ c ∈ b :: bs, isOwnBreak c = true)
    (ink : ∀ c ∈ t.head?, isGap c = false)
    (here : cursor.rest = b :: bs ++ (List.replicate (k + 1) ' ' ++ t)) :
    ∃ cursor', cursor'.rest = t ∧ cursor.line ≤ cursor'.line ∧
      gap.Gives cursor (foldedBreak [b] bs) cursor' := by
  have noBlank := isBlank_eq_false (isBreak_of_isOwnBreak (own b (by simp)))
  have blanks : (takeWhile isBlank).Gives cursor [] cursor :=
    takeWhile_run (s := []) here (by simp) (by simpa using noBlank)
  obtain ⟨cursor', rest, line, answers⟩ := emptyLines_gives ink bs
    ((bs ++ (List.replicate (k + 1) ' ' ++ t)).length + 1) []
    ⟨bs ++ (List.replicate (k + 1) ' ' ++ t), cursor.line + 1, 0, cursor.index + 1⟩
    (fun c inside => own c (by simp [inside])) (by simp only [List.length_append]; omega) rfl
  refine ⟨cursor', rest, Nat.le_trans (Nat.le_succ _) line, .bind blanks ?_⟩
  refine .bind (lineEnd_break here (own b (by simp))) ?_
  rw [if_neg (by simp)]
  exact .bind (.get _) (.bind answers (.pure _ _))

/-! ## Escapes -/

theorem shortEscape {c letter : Char} (short : Scalar.shortEscapes.lookup c = some letter) :
    shortEscapes.lookup letter = some c := by
  have each : ∀ e ∈ Scalar.shortEscapes, shortEscapes.lookup e.2 = some e.1 := by decide
  obtain ⟨before, after, split, -⟩ := List.lookup_eq_some_iff.mp short
  exact each (c, letter) (by simp [split])

/-- A numeric escape is read as the character that it was written for. -/
theorem escape_numeric {c letter : Char} {width : Nat} (noShort : shortEscapes.lookup letter = none)
    (numeric : numericEscapes.lookup letter = some width) (positive : 0 < width)
    (fits : c.toNat < 16 ^ width)
    (here : cursor.rest = letter :: (Text.upperHex width c.toNat ++ r)) :
    escape.Gives cursor [c] (cursor.skip (1 + width)) := by
  have there : (cursor.skip 1).rest = Text.upperHex width c.toNat ++ r := by
    rw [Cursor.rest_skip, here]
    rfl
  have length := Text.length_upperHex positive fits
  have digits : (cursor.skip 1).rest.take width = Text.upperHex width c.toNat := by
    rw [there, List.take_left' length]
  have scalar : c.toNat < 0xd800 ∨ 0xdfff < c.toNat ∧ c.toNat < 0x110000 := c.valid
  have whole : (wholeCharacter c.toNat).Gives ((cursor.skip 1).skip width) c
      ((cursor.skip 1).skip width) := by
    have noHalf : ¬(0xd800 ≤ c.toNat ∧ c.toNat < 0xdc00) := by
      omega
    refine .bind (.get _) ?_
    dsimp only
    rw [if_neg (by simpa using noHalf)]
    have same : Char.ofNat c.toNat = c := Char.ofNat_toNat c
    rw [same]
    exact .pure _ _
  refine .bind (peek_gives _) ?_
  rw [here, List.head?_cons]
  dsimp only
  rw [noShort, numeric]
  refine .bind (skip_gives _ _) (.bind (.get _) ?_)
  rw [digits, if_pos length, Text.hexNumber?_upperHex]
  dsimp only
  have valid : checkCodePoint c.toNat = .ok () := by rw [checkCodePoint, if_pos (by omega)]
  rw [Cursor.skip_add]
  exact .bind (.lift valid) (.bind (skip_gives _ _) (.bind whole (.pure _ _)))

/-- **An escape is read as the character that it was written for.** -/
theorem escape_gives {c : Char} (here : cursor.rest = Scalar.escape c ++ r) :
    escape.Gives (cursor.skip 1) [c] (cursor.skip (Scalar.escape c).length) := by
  have there : (cursor.skip 1).rest = (Scalar.escape c ++ r).drop 1 := by
    rw [Cursor.rest_skip, here]
  have bound : c.toNat < 0x110000 := by
    have scalar : c.toNat < 0xd800 ∨ 0xdfff < c.toNat ∧ c.toNat < 0x110000 := c.valid
    omega
  cases short : Scalar.shortEscapes.lookup c with
  | some letter =>
      have written : Scalar.escape c = ['\\', letter] := by simp only [Scalar.escape, short]
      rw [written] at there ⊢
      have next : (cursor.skip 1).rest.head? = some letter := by
        rw [there]
        rfl
      refine .bind (peek_gives _) ?_
      rw [next]
      dsimp only
      rw [shortEscape short]
      have moved : cursor.skip ['\\', letter].length = (cursor.skip 1).skip 1 := by
        rw [← Cursor.skip_add]
        rfl
      rw [moved]
      exact .bind (skip_gives _ _) (.pure _ _)
  | none =>
      -- the letter and the width go with the size of the character
      obtain ⟨letter, width, written, noShort, numeric, positive, fits⟩ : ∃ letter width,
          Scalar.escape c = '\\' :: letter :: Text.upperHex width c.toNat ∧
            shortEscapes.lookup letter = none ∧ numericEscapes.lookup letter = some width ∧
            0 < width ∧ c.toNat < 16 ^ width := by
        simp only [Scalar.escape, short]
        by_cases small : c.toNat ≤ 0xff
        · exact ⟨'x', 2, by rw [if_pos small], by decide, by decide, by omega, by omega⟩
        by_cases middle : c.toNat ≤ 0xffff
        · exact ⟨'u', 4, by rw [if_neg small, if_pos middle], by decide, by decide, by omega,
            by omega⟩
        · exact ⟨'U', 8, by rw [if_neg small, if_neg middle], by decide, by decide, by omega,
            by omega⟩
      rw [written] at there ⊢
      have moved : cursor.skip ('\\' :: letter :: Text.upperHex width c.toNat).length =
          (cursor.skip 1).skip (1 + width) := by
        rw [← Cursor.skip_add, List.length_cons, List.length_cons,
          Text.length_upperHex positive fits]
        congr 1
        omega
      rw [moved]
      exact escape_numeric noShort numeric positive fits there

/-- An escaped line end is nothing. -/
theorem escape_lineEnd {k : Nat} (ink : ∀ c ∈ t.head?, isGap c = false)
    (here : cursor.rest = '\n' :: (List.replicate (k + 1) ' ' ++ t)) :
    ∃ cursor', cursor'.rest = t ∧ cursor.line ≤ cursor'.line ∧
      escape.Gives cursor [] cursor' := by
  obtain ⟨cursor', rest, line, answers⟩ := emptyLines_gives ink []
    ((List.replicate (k + 1) ' ' ++ t).length + 1) []
    ⟨List.replicate (k + 1) ' ' ++ t, cursor.line + 1, 0, cursor.index + 1⟩
    (by simp) (by simp) rfl
  refine ⟨cursor', rest, Nat.le_trans (Nat.le_succ _) line, .bind (peek_gives _) ?_⟩
  rw [here, List.head?_cons]
  have noShort : shortEscapes.lookup '\n' = none := by decide
  have noNumeric : numericEscapes.lookup '\n' = none := by decide
  dsimp only
  rw [noShort, noNumeric]
  dsimp only
  rw [if_pos (by decide)]
  exact .bind (lineEnd_break here (by decide)) (.bind (.get _) answers)

/-! ## Layouts -/

theorem escape_head (c : Char) : ∃ rest, Scalar.escape c = '\\' :: rest := by
  simp only [Scalar.escape]
  split
  · exact ⟨_, rfl⟩
  · split
    · exact ⟨_, rfl⟩
    · split <;> exact ⟨_, rfl⟩

/-- Behind the blanks at a place in a layout where no line ends, no line ends either. -/
theorem Laid.sameLine (laid : Laid double indent s t) (starts : ∀ c ∈ t.head?, isBreak c = false)
    (tail : List Char) : ((t ++ mark double :: tail).dropWhile isBlank) ≠ [] ∧
      ∀ c ∈ ((t ++ mark double :: tail).dropWhile isBlank).head?, isBreak c = false := by
  induction laid with
  | nil => cases double <;> simp [mark, isBlank, isBreak]
  | ink ink_ =>
      simp only [isInk, Bool.and_eq_true, Bool.not_eq_true'] at ink_
      have noGap := ink_.1.1
      simp [not_isBlank noGap, isBreak_of_not_isGap noGap]
  | blank next _ ih =>
      rw [List.cons_append, List.dropWhile_cons_of_pos (by rfl)]
      exact ih next
  | apostrophe | guarded | turned => simp [isBlank, isBreak]
  | folded => simp [Scalar.newline, isBreak] at starts
  | @separators b bs s t _ _ own _ _ _ =>
      have isBreak_ := isBreak_of_isOwnBreak (own b (by simp))
      simp [isBreak_] at starts
  | @escaped c s t _ _ _ =>
      obtain ⟨rest, written⟩ := escape_head c
      simp [written, isBlank, isBreak]

theorem body_gap {c : Char} {between answer : List Char} {cursor' cursor'' : Cursor}
    (here : cursor.rest = c :: r) (isGap_ : isGap c = true)
    (read : gap.Gives cursor between cursor')
    (next : (body double n (text ++ between)).Gives cursor' answer cursor'') :
    (body double (n + 1) text).Gives cursor answer cursor'' := by
  have noQuote : c ≠ '"' ∧ c ≠ '\'' ∧ c ≠ '\\' := by
    refine ⟨?_, ?_, ?_⟩ <;> rintro rfl <;> exact absurd isGap_ (by decide)
  refine .bind (peek_gives _) ?_
  rw [here, List.head?_cons]
  dsimp only
  rw [if_neg (fun h => noQuote.1 h.1), if_neg (fun h => noQuote.2.1 h.1),
    if_neg (fun h => noQuote.2.2 h.1), if_pos isGap_]
  exact .bind read next

theorem body_escape {meaning answer : List Char} {cursor' cursor'' : Cursor}
    (here : cursor.rest = '\\' :: r) (read : escape.Gives (cursor.skip 1) meaning cursor')
    (next : (body true n (text ++ meaning)).Gives cursor' answer cursor'') :
    (body true (n + 1) text).Gives cursor answer cursor'' := by
  refine .bind (peek_gives _) ?_
  rw [here, List.head?_cons]
  dsimp only
  rw [if_neg (by decide), if_neg (by decide), if_pos (by decide)]
  exact .bind (skip_gives _ _) (.bind read next)

theorem body_apostrophe {answer : List Char} {cursor' : Cursor}
    (here : cursor.rest = '\'' :: '\'' :: r)
    (next : (body false n (text ++ ['\''])).Gives (cursor.skip 2) answer cursor') :
    (body false (n + 1) text).Gives cursor answer cursor' := by
  refine .bind (peek_gives _) ?_
  rw [here, List.head?_cons]
  dsimp only
  rw [if_neg (by decide), if_pos (by decide)]
  refine .bind (.get _) ?_
  rw [if_pos (by rw [Cursor.ahead, here]; rfl)]
  exact .bind (skip_gives _ _) next

/-- What does not start with a gap does not either with the closing quote behind it. -/
theorem ink_append (ink : ∀ c ∈ t.head?, isGap c = false) (double : Bool) (tail : List Char) :
    ∀ c ∈ (t ++ mark double :: tail).head?, isGap c = false := by
  cases t with
  | nil => cases double <;> simp [mark, isGap, isBreak]
  | cons c t => simpa using ink

/-- An escaped blank is a blank. -/
theorem escape_blank (here : cursor.rest = ' ' :: r) :
    escape.Gives cursor [' '] (cursor.skip 1) := by
  refine .bind (peek_gives _) ?_
  rw [here, List.head?_cons]
  exact .bind (skip_gives _ _) (.pure _ _)

/-- The reader finds `s` where `t`, the closing quote and `tail` stand. -/
def IsReadAs (double : Bool) (tail s t : List Char) : Prop :=
  ∀ (text : List Char) (cursor : Cursor), cursor.rest = t ++ mark double :: tail →
    ∃ cursor', cursor'.rest = tail ∧ cursor.line ≤ cursor'.line ∧
      (OnLine t → cursor' = cursor.skip (t.length + 1)) ∧
      ∀ n, t.length < n → (body double n text).Gives cursor (text ++ s) cursor'

theorem isReadAs_nil (after : tail.head? ≠ some '\'') : IsReadAs double tail [] [] := by
  intro text cursor here
  refine ⟨cursor.skip 1, ?_, Cursor.line_le_skip _ _, fun _ => rfl, fun n enough => ?_⟩
  · rw [Cursor.rest_skip, here]
    rfl
  · obtain ⟨m, rfl⟩ : ∃ m, n = m + 1 := ⟨n - 1, by omega⟩
    rw [List.append_nil]
    exact body_close here after

/-- One more part `w` that stands for `v` and ends where its characters end. -/
theorem IsReadAs.onLine {v w : List Char} (later : IsReadAs double tail s t) (nonempty : w ≠ [])
    (part : ∀ {n : Nat} {text answer : List Char} {cursor cursor' : Cursor},
      cursor.rest = w ++ (t ++ mark double :: tail) →
      (∀ m, n ≤ m → (body double m (text ++ v)).Gives (cursor.skip w.length) answer cursor') →
      (body double (n + 1) text).Gives cursor answer cursor') :
    IsReadAs double tail (v ++ s) (w ++ t) := by
  intro text cursor here
  rw [List.append_assoc] at here
  obtain ⟨cursor', rest, line, moved, answers⟩ := later (text ++ v) _ (Cursor.rest_skip_append here)
  refine ⟨cursor', rest, Nat.le_trans (Cursor.line_le_skip _ _) line, fun onLine => ?_,
    fun n enough => ?_⟩
  · rw [moved onLine.right, ← Cursor.skip_add, List.length_append, Nat.add_assoc]
  · obtain ⟨m, rfl⟩ : ∃ m, n = m + 1 := ⟨n - 1, by omega⟩
    have positive := List.length_pos_of_ne_nil nonempty
    rw [List.length_append] at enough
    refine part here fun m' more => ?_
    have next := answers m' (by omega)
    rwa [List.append_assoc] at next

/-- One more part `w` that stands for `v` and ends on a later line. -/
theorem IsReadAs.acrossLines {v w : List Char} (later : IsReadAs double tail s t)
    (broken : ¬OnLine w)
    (part : ∀ {cursor : Cursor}, cursor.rest = w ++ (t ++ mark double :: tail) →
      ∃ cursor₁, cursor₁.rest = t ++ mark double :: tail ∧ cursor.line ≤ cursor₁.line ∧
        ∀ {n : Nat} {text answer : List Char} {cursor' : Cursor},
          (body double n (text ++ v)).Gives cursor₁ answer cursor' →
          (body double (n + 1) text).Gives cursor answer cursor') :
    IsReadAs double tail (v ++ s) (w ++ t) := by
  intro text cursor here
  rw [List.append_assoc] at here
  obtain ⟨cursor₁, there, line₁, read⟩ := part here
  obtain ⟨cursor', rest, line, -, answers⟩ := later (text ++ v) _ there
  refine ⟨cursor', rest, Nat.le_trans line₁ line, fun onLine => absurd onLine.left broken,
    fun n enough => ?_⟩
  obtain ⟨m, rfl⟩ : ∃ m, n = m + 1 := ⟨n - 1, by omega⟩
  have positive : 0 < w.length := List.length_pos_of_ne_nil fun empty => broken (empty ▸ .nil)
  rw [List.length_append] at enough
  have next := answers m (by omega)
  rw [List.append_assoc] at next
  exact read next

theorem not_onLine {b : Char} (isBreak_ : isBreak b = true) (there : b ∈ w) : ¬OnLine w := by
  intro onLine
  rw [(onLine b there).1] at isBreak_
  exact absurd isBreak_ (by decide)

/-- A line end with the indentation behind it is one part. -/
theorem IsReadAs.lines {b : Char} {bs : List Char} (later : IsReadAs double tail s t)
    (indented : 0 < indent) (own : ∀ c ∈ b :: bs, isOwnBreak c = true)
    (ink : ∀ c ∈ t.head?, isGap c = false) :
    IsReadAs double tail (foldedBreak [b] bs ++ s)
      (b :: bs ++ List.replicate indent ' ' ++ t) := by
  obtain ⟨k, rfl⟩ : ∃ k, indent = k + 1 := ⟨indent - 1, by omega⟩
  have isBreak_ := isBreak_of_isOwnBreak (own b (by simp))
  refine later.acrossLines (not_onLine isBreak_ (by simp)) fun here => ?_
  rw [List.append_assoc] at here
  obtain ⟨cursor₁, there, line₁, read⟩ := gap_lines own (ink_append ink double tail) here
  exact ⟨cursor₁, there, line₁, body_gap here (by simp [isGap, isBreak_]) read⟩

/-- A backslash at the end of a line stands for nothing, and so does the indentation behind it. -/
theorem IsReadAs.turned (later : IsReadAs true tail s t) (indented : 0 < indent)
    (ink : ∀ c ∈ t.head?, isGap c = false) :
    IsReadAs true tail s ('\\' :: Scalar.newline indent ++ t) := by
  obtain ⟨k, rfl⟩ : ∃ k, indent = k + 1 := ⟨indent - 1, by omega⟩
  refine later.acrossLines (v := []) (not_onLine (b := '\n') (by decide) ?_) fun {cursor} here => ?_
  · simp [Scalar.newline]
  · have there : (cursor.skip 1).rest =
        '\n' :: (List.replicate (k + 1) ' ' ++ (t ++ mark true :: tail)) := by
      rw [Cursor.rest_skip, here]
      simp [Scalar.newline]
    obtain ⟨cursor₁, there₁, line₁, read⟩ := escape_lineEnd (ink_append ink true tail) there
    exact ⟨cursor₁, there₁, Nat.le_trans (Cursor.line_le_skip 1 cursor) line₁,
      body_escape here read⟩

/-- **The text of a layout is read between the quotes.** -/
theorem body_gives (laid : Laid double indent s t) (indented : 0 < indent)
    (after : tail.head? ≠ some '\'') : IsReadAs double tail s t := by
  induction laid with
  | nil => exact isReadAs_nil after
  | @ink c s t ink_ _ ih =>
      exact ih.onLine (v := [c]) (w := [c]) (by simp) fun here next => body_ink here ink_ next
  | blank next laid ih =>
      obtain ⟨goesOn, sameLine⟩ := laid.sameLine next tail
      exact ih.onLine (v := [' ']) (w := [' ']) (by simp) fun here next =>
        body_blank here goesOn sameLine next
  | apostrophe single _ ih =>
      subst single
      exact ih.onLine (v := ['\'']) (w := ['\'', '\'']) (by simp) fun here next =>
        body_apostrophe here (next _ (Nat.le_refl _))
  | folded single ink_ _ ih =>
      have feed : ∀ c ∈ ['\n'], isOwnBreak c = true := by simp [isOwnBreak]
      exact ih.lines indented feed ink_
  | @separators b bs s t single noLineFeed own ink_ _ ih =>
      have kept : foldedBreak [b] bs = b :: bs := by
        rw [foldedBreak, if_pos (by simpa using noLineFeed)]
        rfl
      have read := ih.lines indented own ink_
      rwa [kept, List.append_assoc] at read
  | @escaped c s t twice _ ih =>
      subst twice
      obtain ⟨digits, written⟩ := escape_head c
      refine ih.onLine (v := [c]) (by simp [written]) fun here next => ?_
      refine body_escape (r := digits ++ (t ++ mark true :: tail)) ?_ (escape_gives here)
        (next _ (Nat.le_refl _))
      rw [here, written]
      rfl
  | @guarded s t twice _ ih =>
      subst twice
      refine ih.onLine (v := [' ']) (w := ['\\', ' ']) (by simp)
        fun {_ _ _ cursor _} here next => ?_
      have blank : (cursor.skip 1).rest = ' ' :: (t ++ mark true :: tail) := by
        rw [Cursor.rest_skip, here]
        rfl
      have read := escape_blank blank
      rw [← Cursor.skip_add] at read
      exact body_escape here read (next _ (Nat.le_refl _))
  | turned twice ink_ _ ih =>
      subst twice
      exact ih.turned indented ink_

/-! ## Between apostrophes -/

/-- What the parts of a text between apostrophes have in common: the ends of lines are separators
with no blanks around them. -/
structure IsSingle (s : List Char) : Prop where
  usual : ∀ c ∈ s, Scalar.isSpecial c = false
  noLineFeed : '\n' ∉ s
  noNextLine : '\x85' ∉ s
  noIndent : Scalar.hasPair isBreak (· = ' ') s = false
  noTrail : Scalar.hasPair (· = ' ') isBreak s = false

theorem IsSingle.rest (single : IsSingle (w ++ s)) : IsSingle s where
  usual c there := single.usual c (by simp [there])
  noLineFeed there := single.noLineFeed (by simp [there])
  noNextLine there := single.noNextLine (by simp [there])
  noIndent := Scalar.hasPair_append w single.noIndent
  noTrail := Scalar.hasPair_append w single.noTrail

theorem IsSingle.separator {c : Char} (single : IsSingle s) (there : c ∈ s)
    (isBreak_ : isBreak c = true) : isOwnBreak c = true ∧ c ≠ '\n' := by
  have noLineFeed : c ≠ '\n' := fun same => single.noLineFeed (same ▸ there)
  have noNextLine : c ≠ '\x85' := fun same => single.noNextLine (same ▸ there)
  simp only [isBreak, noLineFeed, noNextLine, decide_false, Bool.false_or] at isBreak_
  exact ⟨by simpa [Yaml.isOwnBreak, noLineFeed] using isBreak_, noLineFeed⟩

theorem IsSingle.not_isGap {c : Char} (single : IsSingle s) (there : c ∈ s)
    (noBlank : c ≠ ' ') (noBreak : isBreak c = false) : isGap c = false := by
  have noTab : c ≠ '\t' := by
    rintro rfl
    exact absurd (single.usual _ there) (by decide)
  simp [isGap, noBlank, noTab, noBreak]

variable {fold : Bool}

/-- Line separators are written as they are, and the next line is indented. -/
theorem IsSingle.separators (single : IsSingle (w ++ s)) (inside : ∀ c ∈ w, isBreak c = true) :
    ∀ c ∈ w, isOwnBreak c = true ∧ c ≠ '\n' :=
  fun c there => single.separator (by simp [there]) (inside c there)

/-- A blank stands before no line end. -/
theorem IsSingle.afterBlank (single : IsSingle (' ' :: s)) : ∀ c ∈ s.head?, isBreak c = false := by
  intro c there
  obtain ⟨s', rfl⟩ := List.head?_eq_some_iff.mp there
  exact Scalar.not_pair [] single.noTrail (by simp)

/-- Ink stands behind line separators. -/
theorem IsSingle.afterBreaks (single : IsSingle (w ++ s)) (nonempty : w ≠ [])
    (inside : ∀ c ∈ w, isBreak c = true) (outside : ∀ c ∈ s.head?, isBreak c = false) :
    ∀ c ∈ s.head?, isGap c = false := by
  intro c there
  obtain ⟨s', rfl⟩ := List.head?_eq_some_iff.mp there
  obtain ⟨before, last, rfl⟩ : ∃ before last, w = before ++ [last] :=
    ⟨_, _, (List.dropLast_concat_getLast nonempty).symm⟩
  have noIndent := single.noIndent
  rw [List.append_assoc] at noIndent
  refine single.not_isGap (by simp) ?_ (outside c rfl)
  simpa using Scalar.not_pair before noIndent (inside last (by simp))

theorem ne_quote_of_isBreak {c : Char} (isBreak_ : isBreak c = true) : c ≠ '\'' := by
  rintro rfl
  exact absurd isBreak_ (by decide)

theorem foldSingle_separators (fold : Bool) (indent : Nat) {b : Char} {bs : List Char}
    (own : ∀ c ∈ b :: bs, isBreak c = true) (noLineFeed : '\n' ∉ b :: bs)
    (outside : ∀ c ∈ s.head?, isBreak c = false) : ∀ (column : Nat) (before : Option Char), ∃ last,
      Scalar.foldSingle fold indent column before (b :: bs ++ s) =
        b :: bs ++ (List.replicate indent ' ' ++ Scalar.foldSingle fold indent indent last s) := by
  induction bs generalizing b with
  | nil =>
      intro column before
      have isBreak_ := own b (by simp)
      have noQuote := ne_quote_of_isBreak isBreak_
      have last : s.head?.any isBreak = false := by
        cases head : s.head? with
        | none => rfl
        | some c => simpa using outside c head
      refine ⟨some b, ?_⟩
      have noLineFeed' : b ≠ '\n' := fun same => noLineFeed (by simp [same])
      simp [Scalar.foldSingle, noQuote, isBreak_, last, noLineFeed']
  | cons b' bs ih =>
      intro column before
      have isBreak_ := own b (by simp)
      have noQuote := ne_quote_of_isBreak isBreak_
      have noLineFeed' : b ≠ '\n' := fun same => noLineFeed (by simp [same])
      obtain ⟨last, eq⟩ := ih (fun c there => own c (List.mem_cons_of_mem _ there))
        (fun there => noLineFeed (List.mem_cons_of_mem _ there)) indent (some b)
      refine ⟨last, ?_⟩
      rw [List.cons_append, Scalar.foldSingle, if_neg noQuote, if_pos isBreak_, eq]
      simp [noLineFeed', own b' (by simp)]

theorem foldSingle_ink (single : IsSingle s) (ink : ∀ c ∈ s.head?, isGap c = false)
    (column : Nat) (before : Option Char) :
    ∀ c ∈ (Scalar.foldSingle fold indent column before s).head?, isGap c = false := by
  cases s with
  | nil => simp [Scalar.foldSingle]
  | cons c s =>
      have noGap := ink c rfl
      have noBlank : c ≠ ' ' := by
        rintro rfl
        exact absurd noGap (by decide)
      have noBreak := isBreak_of_not_isGap noGap
      rw [Scalar.foldSingle]
      by_cases quote : c = '\''
      · subst quote
        simp [isGap, isBreak]
      · rw [if_neg quote, if_neg (by simp [noBreak]), if_neg fun folds => noBlank folds.2.1]
        simpa using noGap

/-- No line ends behind a blank that was written. -/
theorem foldSingle_later (sameLine : ∀ c ∈ s.head?, isBreak c = false) (column : Nat) :
    ∀ c ∈ (Scalar.foldSingle fold indent column (some ' ') s).head?, isBreak c = false := by
  cases s with
  | nil => simp [Scalar.foldSingle]
  | cons c s =>
      have noBreak := sameLine c rfl
      rw [Scalar.foldSingle]
      by_cases quote : c = '\''
      · subst quote
        simp [isBreak]
      · rw [if_neg quote, if_neg (by simp [noBreak]), if_neg fun folds => by simp at folds]
        simpa using noBreak

/-- **A text between apostrophes is laid out.** -/
theorem laid_foldSingle (n : Nat) : ∀ {s : List Char}, s.length < n → IsSingle s →
    ∀ (column : Nat) (before : Option Char),
      Laid false indent s (Scalar.foldSingle fold indent column before s) := by
  induction n with
  | zero => exact fun short => absurd short (by omega)
  | succ n ih =>
      intro s short single column before
      cases s with
      | nil => exact .nil
      | cons c rest =>
          have rest_ : IsSingle rest := single.rest (w := [c])
          have short' : rest.length < n := by simpa using short
          by_cases quote : c = '\''
          · subst quote
            rw [Scalar.foldSingle, if_pos rfl]
            exact .apostrophe rfl (ih short' rest_ _ _)
          by_cases isBreak_ : isBreak c = true
          · -- the line separators in front are taken together
            obtain ⟨bs, s, rfl, inside, outside⟩ := exists_run isBreak rest
            have inside' : ∀ d ∈ c :: bs, isBreak d = true := by simpa [isBreak_] using inside
            rw [← List.cons_append] at single ⊢
            have own := single.separators inside'
            have ink := single.afterBreaks (by simp) inside' outside
            have later : IsSingle s := single.rest
            obtain ⟨last, eq⟩ := foldSingle_separators fold indent inside'
              (fun there => (own _ there).2 rfl) outside column before
            rw [eq]
            refine .separators rfl (own c (by simp)).2 (fun d there => (own d there).1)
              (foldSingle_ink later ink _ _) (ih ?_ later _ _)
            rw [List.length_append] at short'
            omega
          · have noBreak : isBreak c = false := by simpa using isBreak_
            rw [Scalar.foldSingle, if_neg quote, if_neg isBreak_]
            split
            · rename_i folds
              obtain ⟨-, rfl, -, next, -⟩ := folds
              refine .folded rfl (foldSingle_ink rest_ (fun d there => ?_) _ _)
                (ih short' rest_ _ _)
              refine rest_.not_isGap (List.mem_of_mem_head? there) ?_ (single.afterBlank d there)
              rw [there] at next
              simpa using next
            · by_cases blank : c = ' '
              · subst blank
                exact .blank (foldSingle_later single.afterBlank _) (ih short' rest_ _ _)
              · refine .ink ?_ (ih short' rest_ _ _)
                have noGap := single.not_isGap (by simp) blank noBreak
                simp [isInk, noGap, mark, quote]

/-! ## Between quotation marks -/

/-- What is not escaped stands for itself. -/
theorem not_isEscaped {c : Char} (plain : Scalar.isEscaped c = false) :
    c = ' ' ∨ isInk true c = true := by
  by_cases blank : c = ' '
  · exact .inl blank
  · right
    simp only [Scalar.isEscaped, Bool.or_eq_false_iff, decide_eq_false_iff_not,
      Bool.not_eq_false'] at plain
    obtain ⟨⟨⟨⟨⟨⟨noQuote, noSlash⟩, noNextLine⟩, noLine⟩, noParagraph⟩, -⟩, visible⟩ := plain
    have noLineFeed : c ≠ '\n' := by
      rintro rfl
      exact absurd visible (by decide)
    have noTab : c ≠ '\t' := by
      rintro rfl
      exact absurd visible (by decide)
    simp [isInk, isGap, isBreak, mark, blank, noQuote, noSlash, noNextLine, noLine, noParagraph,
      noLineFeed, noTab]

theorem not_isGap_of_isInk {c : Char} (ink : isInk double c = true) : isGap c = false := by
  simp only [isInk, Bool.and_eq_true, Bool.not_eq_true'] at ink
  exact ink.1.1

/-- What is written between quotation marks starts with an escape or with the text. -/
theorem foldDouble_head (column : Nat) (first fresh : Bool) :
    ∀ c ∈ (Scalar.foldDouble fold indent column first fresh s).head?,
      c = '\\' ∨ s.head? = some c ∧ (c = ' ' ∨ isInk true c = true) := by
  cases s with
  | nil => simp [Scalar.foldDouble]
  | cons c s =>
      rw [Scalar.foldDouble]
      dsimp only
      split
      · obtain ⟨rest, written⟩ := escape_head c
        split <;> simp [written]
      · rename_i plain
        have usual := not_isEscaped (by simpa using plain)
        split
        · simp
        · simpa using .inr usual

/-- What is written between quotation marks starts with a blank only if the text does. -/
theorem foldDouble_ink (noBlank : s.head? ≠ some ' ') (column : Nat) (first fresh : Bool) :
    ∀ c ∈ (Scalar.foldDouble fold indent column first fresh s).head?, isGap c = false := by
  intro c there
  rcases foldDouble_head column first fresh c there with rfl | ⟨starts, rfl | ink⟩
  · decide
  · exact absurd starts noBlank
  · exact not_isGap_of_isInk ink

theorem foldDouble_sameLine (column : Nat) (first fresh : Bool) :
    ∀ c ∈ (Scalar.foldDouble fold indent column first fresh s).head?, isBreak c = false := by
  intro c there
  rcases foldDouble_head column first fresh c there with rfl | ⟨-, rfl | ink⟩
  · decide
  · decide
  · exact isBreak_of_not_isGap (not_isGap_of_isInk ink)

/-- What is laid out with a blank in front is laid out without it. -/
theorem Laid.of_blank (laid : Laid true indent (' ' :: s) (' ' :: t)) : Laid true indent s t := by
  generalize whole : ' ' :: t = t' at laid
  cases laid with
  | ink ink_ _ => exact absurd ink_ (by decide)
  | blank _ laid =>
      cases whole
      exact laid
  | folded single => exact absurd single (by decide)
  | separators single => exact absurd single (by decide)
  | escaped =>
      obtain ⟨rest, written⟩ := escape_head ' '
      rw [written] at whole
      simp at whole
  | guarded => simp at whole
  | turned => simp at whole

/-- A blank at the start of a new line stands for itself. -/
theorem foldDouble_blank (narrow : indent + 1 ≤ Scalar.lineWidth) (s : List Char) :
    Scalar.foldDouble fold indent (indent + 1) false true (' ' :: s) =
      ' ' :: Scalar.foldDouble fold indent (indent + 1 + 1) false false s := by
  have noEscape : Scalar.isEscaped ' ' = false := by decide
  rw [Scalar.foldDouble]
  dsimp only
  rw [noEscape, if_neg (by decide), if_neg]
  simp only [Bool.and_eq_true, decide_eq_true_eq]
  omega

/-- **A text between quotation marks is laid out.**  A blank that would start a line is guarded,
which takes a line that is not full. -/
theorem laid_foldDouble (narrow : indent + 1 ≤ Scalar.lineWidth) : ∀ (s : List Char) (column : Nat)
    (first fresh : Bool), Laid true indent s (Scalar.foldDouble fold indent column first fresh s)
  | [], _, _, _ => .nil
  | c :: rest, column, first, fresh => by
      have ih := laid_foldDouble narrow rest
      rw [Scalar.foldDouble]
      dsimp only
      split
      · split
        · by_cases blank : rest.head? = some ' '
          · -- the blank behind the new line has its own backslash
            obtain ⟨rest, rfl⟩ := List.head?_eq_some_iff.mp blank
            have inner := ih (indent + 1) false true
            rw [foldDouble_blank narrow] at inner
            rw [if_pos (by simp), if_pos (by simp), foldDouble_blank narrow]
            simp only [List.append_assoc, List.cons_append, List.nil_append]
            refine .escaped rfl (.turned rfl ?_ (.guarded rfl inner.of_blank))
            simp [isGap, isBreak]
          · rw [if_neg (by simpa using blank), if_neg (by simpa using blank)]
            simp only [List.append_assoc, List.cons_append, List.nil_append]
            exact .escaped rfl (.turned rfl (foldDouble_ink blank _ _ _) (ih _ _ _))
        · exact .escaped rfl (ih _ _ _)
      · rename_i plain
        split
        · by_cases blank : c = ' '
          · subst blank
            rw [if_pos (by simp), if_pos (by simp)]
            simp only [List.append_assoc, List.cons_append, List.nil_append]
            refine .turned rfl ?_ (.guarded rfl (ih _ _ _))
            simp [isGap, isBreak]
          · have ink : isInk true c = true :=
              (not_isEscaped (by simpa using plain)).resolve_left blank
            rw [if_neg (by simpa using blank), if_neg (by simpa using blank)]
            simp only [List.append_assoc, List.cons_append, List.nil_append]
            refine .turned rfl ?_ (.ink ink (ih _ _ _))
            simpa using not_isGap_of_isInk ink
        · rcases not_isEscaped (by simpa using plain) with rfl | ink
          · exact .blank (foldDouble_sameLine _ _ _) (ih _ _ _)
          · exact .ink ink (ih _ _ _)

/-! ## Whole scalars -/

/-- A laid out text between its quotes is read as the text. -/
theorem quotedScalar_gives (laid : Laid double indent s t) (indented : 0 < indent)
    (after : tail.head? ≠ some '\'')
    (here : cursor.rest = mark double :: (t ++ mark double :: tail)) :
    ∃ cursor', cursor'.rest = tail ∧ cursor.line ≤ cursor'.line ∧
      (OnLine t → cursor' = cursor.skip (t.length + 2)) ∧
      (quotedScalar double).Gives cursor s cursor' := by
  have there : (cursor.skip 1).rest = t ++ mark double :: tail := by
    rw [Cursor.rest_skip, here]
    rfl
  obtain ⟨cursor', rest, line, moved, answers⟩ := body_gives laid indented after [] _ there
  refine ⟨cursor', rest, Nat.le_trans (Cursor.line_le_skip _ _) line, fun onLine => ?_, ?_⟩
  · rw [moved onLine, ← Cursor.skip_add]
    congr 1
    omega
  · refine .bind (skip_gives _ _) (.bind (.get _) (answers _ ?_))
    rw [there, List.length_append]
    omega

theorem isSingle_of_allowsSingle (allows : Scalar.allowsSingle s = true) (noLineFeed : '\n' ∉ s)
    (noNextLine : '\x85' ∉ s) : IsSingle s := by
  simp only [Scalar.allowsSingle, Scalar.hasBlankBeforeBreak, Bool.not_eq_true',
    Bool.or_eq_false_iff] at allows
  refine ⟨fun c there => ?_, noLineFeed, noNextLine, allows.1.1, allows.1.2⟩
  simpa using List.any_eq_false.mp allows.2 c there

/-- **A scalar between apostrophes is read as its text.** -/
theorem quotedScalar_single {column : Nat} (allows : Scalar.allowsSingle s = true)
    (noLineFeed : '\n' ∉ s) (noNextLine : '\x85' ∉ s) (indented : 0 < indent)
    (after : tail.head? ≠ some '\'')
    (here : cursor.rest =
      '\'' :: (Scalar.foldSingle fold indent column none s ++ '\'' :: tail)) :
    ∃ cursor', cursor'.rest = tail ∧ cursor.line ≤ cursor'.line ∧
      (OnLine (Scalar.foldSingle fold indent column none s) →
        cursor' = cursor.skip ((Scalar.foldSingle fold indent column none s).length + 2)) ∧
      (quotedScalar false).Gives cursor s cursor' :=
  quotedScalar_gives (laid_foldSingle (s.length + 1) (Nat.lt_succ_self _)
    (isSingle_of_allowsSingle allows noLineFeed noNextLine) column none) indented after here

/-- **A scalar between quotation marks is read as its text.** -/
theorem quotedScalar_double {column : Nat} (narrow : indent + 1 ≤ Scalar.lineWidth)
    (indented : 0 < indent) (after : tail.head? ≠ some '\'')
    (here : cursor.rest =
      '"' :: (Scalar.foldDouble fold indent column true true s ++ '"' :: tail)) :
    ∃ cursor', cursor'.rest = tail ∧ cursor.line ≤ cursor'.line ∧
      (OnLine (Scalar.foldDouble fold indent column true true s) →
        cursor' = cursor.skip ((Scalar.foldDouble fold indent column true true s).length + 2)) ∧
      (quotedScalar true).Gives cursor s cursor' :=
  quotedScalar_gives (laid_foldDouble narrow s column true true) indented after here

/-! ## Keys -/

/-- The longest escape has a letter and eight digits. -/
theorem escape_onLine (c : Char) :
    OnLine (Scalar.escape c) ∧ (Scalar.escape c).length ≤ 10 := by
  have digits : ∀ width n, OnLine (Text.upperHex width n) := by
    have all : Text.upperHexDigits.all (fun d => isBreak d = false ∧ d ≠ '\ufeff') = true := by
      decide
    exact fun width n d there =>
      of_decide_eq_true (List.all_eq_true.mp all d (Text.mem_upperHex d there))
  have bound : c.toNat < 0x110000 := by
    have scalar : c.toNat < 0xd800 ∨ 0xdfff < c.toNat ∧ c.toNat < 0x110000 := c.valid
    omega
  have numeral {letter : Char} {width : Nat} (other : isBreak letter = false ∧ letter ≠ '\ufeff')
      (positive : 0 < width) (short : width ≤ 8) (fits : c.toNat < Nat.pow 16 width) :
      OnLine ('\\' :: letter :: Text.upperHex width c.toNat) ∧
        ('\\' :: letter :: Text.upperHex width c.toNat).length ≤ 10 := by
    refine ⟨.cons (by decide) (.cons other (digits _ _)), ?_⟩
    rw [List.length_cons, List.length_cons, Text.length_upperHex positive fits]
    exact Nat.add_le_add_right short 2
  simp only [Scalar.escape]
  split
  · rename_i letter short
    have each : ∀ e ∈ Scalar.shortEscapes, isBreak e.2 = false ∧ e.2 ≠ '\ufeff' := by decide
    obtain ⟨before, after, split, -⟩ := List.lookup_eq_some_iff.mp short
    exact ⟨.cons (by decide) (.cons (each (c, letter) (by simp [split])) .nil), by simp⟩
  · split
    · rename_i small
      exact numeral (by decide) (by decide) (by decide) (Nat.lt_succ_of_le small)
    · split
      · rename_i small
        exact numeral (by decide) (by decide) (by decide) (Nat.lt_succ_of_le small)
      · exact numeral (by decide) (by decide) (by decide) (Nat.lt_trans bound (by decide))

/-- A key between quotation marks stays on its line, and no character takes more than ten. -/
theorem foldDouble_onLine (indent : Nat) : ∀ (s : List Char) (column : Nat) (first fresh : Bool),
    OnLine (Scalar.foldDouble false indent column first fresh s) ∧
      (Scalar.foldDouble false indent column first fresh s).length ≤ 10 * s.length
  | [], _, _, _ => ⟨.nil, Nat.le_refl _⟩
  | c :: rest, column, first, fresh => by
      have ih := foldDouble_onLine indent rest
      simp only [Scalar.foldDouble, Bool.false_and, Bool.false_eq_true, if_false]
      split
      · obtain ⟨onLine, short⟩ := escape_onLine c
        obtain ⟨onLine', short'⟩ := ih (column + (Scalar.escape c).length) false true
        refine ⟨onLine.append onLine', ?_⟩
        rw [List.length_append, List.length_cons]
        omega
      · rename_i plain
        obtain ⟨onLine', short'⟩ := ih (column + 1) false false
        have noBreak : isBreak c = false := by
          rcases not_isEscaped (by simpa using plain) with rfl | ink
          · decide
          · exact isBreak_of_not_isGap (not_isGap_of_isInk ink)
        have noMark : c ≠ '\ufeff' := by
          rintro rfl
          exact absurd plain (by decide)
        refine ⟨.cons ⟨noBreak, noMark⟩ onLine', ?_⟩
        rw [List.length_cons, List.length_cons]
        omega

/-- A key between apostrophes stays on its line, and no character takes more than two. -/
theorem foldSingle_onLine (indent : Nat) : ∀ (s : List Char) (column : Nat) (before : Option Char),
    OnLine s → OnLine (Scalar.foldSingle false indent column before s) ∧
      (Scalar.foldSingle false indent column before s).length ≤ 2 * s.length
  | [], _, _, _ => ⟨.nil, Nat.le_refl _⟩
  | c :: rest, column, before, onLine => by
      have ih := foldSingle_onLine indent rest
      have noBreak := onLine.head.1
      simp only [Scalar.foldSingle, Bool.false_eq_true, false_and, if_false, noBreak]
      split
      · obtain ⟨onLine', short⟩ := ih (column + 2) (some c) onLine.tail
        refine ⟨.cons (by decide) (.cons (by decide) onLine'), ?_⟩
        simp only [List.length_cons]
        omega
      · obtain ⟨onLine', short⟩ := ih (column + 1) (some c) onLine.tail
        refine ⟨.cons onLine.head onLine', ?_⟩
        simp only [List.length_cons]
        omega

end Quote

end Conveyor.Yaml
