import Conveyor.Proofs.Yaml.Literal
import Conveyor.Proofs.Yaml.Plain
import Conveyor.Proofs.Yaml.Quoted
import Conveyor.Proofs.Yaml.Signs
import Conveyor.Yaml.Printer

/-!
# Scalars at a place

The first character of a written scalar tells which reader takes it up.  The scalar leads to the
next line, where the blocks end that start further right.
-/

set_option autoImplicit false

namespace Conveyor.Yaml

open Scan

namespace Lex

variable {l l' : Lexer} {cursor cursor' : Cursor} {blocks : List Nat} {made : List Token}
  {s rest body tail : List Char} {col indent column k : Nat} {allows ended fold blank : Bool}

/-- The least column of what belongs to the innermost block. -/
def margin : List Nat → Nat
  | [] => 0
  | d :: _ => d + 1

/-- The lexer after a scalar at a cursor. -/
def afterScalar (text : List Char) (isPlain ended : Bool) (l : Lexer) (cursor : Cursor) : Lexer :=
  { saved l cursor with
    allowsKey := ended
    row := .token (.scalar text isPlain) :: (saved l cursor).row }

theorem plain_gives (stands : Stands l blocks made) (nothing : l.pending = [])
    (read : (plainScalar false (margin blocks)).Gives cursor (s, ended) cursor') :
    plain.Gives l cursor () (afterScalar s true ended l cursor) cursor' := by
  have stands' := stands.saved cursor
  refine .bind (saveKey_gives nothing cursor) (.bind (get_gives _ _) ?_)
  rw [stands'.column_eq]
  refine .bind (isFlow_gives stands'.brackets _) ?_
  refine .bind (.scan (?_ : Scan.Gives _ cursor (s, ended) cursor'))
    (.bind (allowKey_gives _ _ _) (emit_gives _ _ _))
  cases blocks <;> exact read

theorem quoted_gives {double : Bool} (nothing : l.pending = [])
    (read : (quotedScalar double).Gives cursor s cursor') :
    (node ((Token.scalar · false) <$> quotedScalar double)).Gives l cursor ()
      (afterScalar s false false l cursor) cursor' := by
  refine .bind (saveKey_gives nothing cursor) (.bind (allowKey_gives _ _ _) ?_)
  refine .bind (.scan (a := .scalar s false) ?_) (emit_gives _ _ _)
  rw [map_eq_pure_bind]
  exact .bind read (.pure _ _)

theorem block_gives (stands : Stands l blocks made) (nothing : l.pending = [])
    (read : (blockScalar false (max 1 (margin blocks))).Gives cursor s cursor') :
    (block false).Gives l cursor ()
      { l with allowsKey := true, row := .token (.scalar s false) :: l.row } cursor' := by
  refine .bind (allowKey_gives _ _ _) (.bind (dropKey_none (by simp [nothing]) _) ?_)
  refine .bind (get_gives _ _) ?_
  have column : ({ l with allowsKey := true } : Lexer).column = blocks.head? := stands.column_eq
  rw [column]
  refine .bind (.scan (?_ : Scan.Gives _ cursor s cursor')) (emit_gives _ _ _)
  cases blocks with
  | nil => exact read
  | cons d blocks =>
      rw [margin, Nat.max_eq_right (Nat.succ_pos d)] at read
      exact read

/-! ## Which reader takes up a scalar -/

theorem token_single (here : cursor.rest = '\'' :: rest) :
    token false cursor '\'' rest = node ((Token.scalar · false) <$> quotedScalar false) := by
  simp [token, Cursor.atMark_of_ne _ here]

theorem token_double (here : cursor.rest = '"' :: rest) :
    token false cursor '"' rest = node ((Token.scalar · false) <$> quotedScalar true) := by
  simp [token, Cursor.atMark_of_ne _ here]

theorem token_bar (here : cursor.rest = '|' :: rest) :
    token false cursor '|' rest = block false := by
  simp [token, Cursor.atMark_of_ne _ here]

/-- What follows a written plain text: a colon or a line end. -/
def Follows (tail : List Char) : Prop := tail.head? = some ':' ∨ tail.head? = some '\n'

theorem foldPlain_cons {c : Char} (other : c ≠ ' ') :
    Scalar.foldPlain fold indent column blank (c :: s) =
      c :: Scalar.foldPlain fold indent (column + 1) false s := by
  simp [Scalar.foldPlain, other]

/-- A character of a written plain text other than a blank is the one of the text. -/
theorem head_foldPlain {c : Char} {w : List Char} (other : c ≠ ' ' ∧ c ≠ '\n')
    (here : Scalar.foldPlain fold indent column blank s = c :: w) :
    ∃ s' column', s = c :: s' ∧ w = Scalar.foldPlain fold indent column' false s' := by
  cases s with
  | nil => cases here
  | cons d s' =>
      rw [Scalar.foldPlain] at here
      split at here
      · simp only [Scalar.newline, List.cons_append, List.cons.injEq] at here
        exact absurd here.1.symm other.2
      · simp only [List.cons.injEq] at here
        obtain ⟨rfl, rfl⟩ := here
        exact ⟨s', column + 1, rfl, by simp [other.1]⟩

/-- A document mark at a plain text is one in the text. -/
theorem atMark_plain (mark : Char) (other : mark ≠ ' ' ∧ mark ≠ '\n' ∧ mark ≠ ':')
    (follows : Follows tail)
    (here : cursor.rest = Scalar.foldPlain fold indent column blank s ++ tail)
    (noMark : [mark, mark, mark].isPrefixOf s = false) : cursor.atMark mark = false := by
  have stop : ∀ (n : Nat) (s : List Char) (column : Nat) (blank : Bool),
      (List.replicate n mark).isPrefixOf
        (Scalar.foldPlain fold indent column blank s ++ tail) = true →
      (List.replicate n mark).isPrefixOf s = true := by
    intro n
    induction n with
    | zero => exact fun s _ _ _ => by cases s <;> rfl
    | succ n ih =>
        intro s column blank isPrefix
        cases written : Scalar.foldPlain fold indent column blank s with
        | nil =>
            rw [written, List.nil_append] at isPrefix
            cases tail with
            | nil => cases isPrefix
            | cons d tail =>
                rw [List.replicate_succ, List.isPrefixOf, Bool.and_eq_true, beq_iff_eq] at isPrefix
                obtain ⟨rfl, -⟩ := isPrefix
                rcases follows with colon | break_
                · exact absurd (Option.some.inj colon) other.2.2
                · exact absurd (Option.some.inj break_) other.2.1
        | cons d w =>
            rw [written, List.cons_append, List.replicate_succ, List.isPrefixOf, Bool.and_eq_true,
              beq_iff_eq] at isPrefix
            obtain ⟨rfl, isPrefix⟩ := isPrefix
            obtain ⟨s', column', rfl, rfl⟩ := head_foldPlain ⟨other.1, other.2.1⟩ written
            rw [List.replicate_succ, List.isPrefixOf, Bool.and_eq_true]
            exact ⟨beq_self_eq_true _, ih s' column' false isPrefix⟩
  rw [Cursor.atMark, here, Bool.and_eq_false_iff]
  left
  by_contra isPrefix
  exact absurd (stop 3 s column blank (by simpa using isPrefix)) (by
    rw [show List.replicate 3 mark = [mark, mark, mark] from rfl, noMark]
    exact Bool.false_ne_true)

/-- The first character of a text that may be written plain. -/
structure StartsPlain (c : Char) (rest : List Char) : Prop where
  ink : isGap c = false
  noMark : c ≠ '\ufeff'
  noIndicator : Scalar.isIndicator c = false
  noSign : c = '?' ∨ c = ':' ∨ c = '-' → atGap rest = false
  noStart : ['-', '-', '-'].isPrefixOf (c :: rest) = false
  noEnd : ['.', '.', '.'].isPrefixOf (c :: rest) = false

theorem startsPlain_of_allowsPlain {c : Char} (allows : Scalar.allowsPlain (c :: s) = true) :
    StartsPlain c s := by
  simp only [Scalar.allowsPlain, Scalar.hasLooseEnds, Scalar.isMultiline, Scalar.hasIndicators,
    Scalar.startsAsIndicator, Bool.not_eq_true', Bool.or_eq_false_iff, List.head?_cons,
    Option.any_some, List.any_cons, decide_eq_false_iff_not] at allows
  obtain ⟨⟨⟨⟨⟨loose, -⟩, -⟩, -⟩, special, -⟩, ⟨⟨⟨⟨noStart, noEnd⟩, noIndicator⟩, noSign⟩, -⟩, -⟩ :=
    allows
  have noTab : c ≠ '\t' := by
    rintro rfl
    exact absurd special (by decide)
  refine ⟨?_, ?_, noIndicator, fun sign => ?_, noStart, noEnd⟩
  · simp [isGap, loose.1, loose.2, noTab]
  · rintro rfl
    exact absurd special (by decide)
  · have sign' : (decide (c = '?') || decide (c = ':') || decide (c = '-')) = true := by
      simpa [or_assoc] using sign
    rwa [sign', Bool.true_and] at noSign

namespace StartsPlain

variable {c : Char}

theorem ne_indicator (starts : StartsPlain c s) {d : Char}
    (indicates : Scalar.isIndicator d = true) : c ≠ d := by
  rintro rfl
  rw [starts.noIndicator] at indicates
  cases indicates

theorem ne_blank (starts : StartsPlain c s) : c ≠ ' ' := by
  rintro rfl
  exact absurd starts.ink (by decide)

/-- Behind a sign the written text goes on with ink as well. -/
theorem sign_written (starts : StartsPlain c s) (sign : c = '?' ∨ c = ':' ∨ c = '-') :
    atGap (Scalar.foldPlain fold indent column false s ++ tail) = false := by
  have ink := starts.noSign sign
  cases s with
  | nil => cases ink
  | cons d s =>
      have noBlank : d ≠ ' ' := by
        rintro rfl
        cases ink
      rw [foldPlain_cons noBlank, List.cons_append]
      exact ink

theorem startsPlain_eq (starts : StartsPlain c s)
    (sign : c = '?' ∨ c = ':' ∨ c = '-' → atGap rest = false) :
    startsPlain false (c :: rest) = true := by
  rw [startsPlain]
  by_cases isSign : c = '?' ∨ c = ':' ∨ c = '-'
  · rw [sign isSign]
    rcases isSign with rfl | rfl | rfl <;> rfl
  · have listed : "-?:,[]\x7b\x7d#&*!|>'\"%@\x60".toList.all (fun d =>
        (d = '?' ∨ d = ':' ∨ d = '-') ∨ Scalar.isIndicator d = true) = true := by decide
    have unlisted : ("-?:,[]\x7b\x7d#&*!|>'\"%@\x60".toList.contains c) = false := by
      rw [Bool.eq_false_iff]
      intro there
      have inside := List.all_eq_true.mp listed c (List.contains_iff_mem.mp there)
      rcases of_decide_eq_true inside with sign' | indicates
      · exact isSign sign'
      · exact starts.ne_indicator indicates rfl
    rw [unlisted, starts.ink]
    rfl

/-- No other reader takes up what starts a plain scalar. -/
theorem token_eq (starts : StartsPlain c s)
    (sign : c = '?' ∨ c = ':' ∨ c = '-' → atGap rest = false) (here : cursor.rest = c :: rest)
    (noHyphens : cursor.atMark '-' = false) (noDots : cursor.atMark '.' = false) :
    token false cursor c rest = plain := by
  have isStart : startsPlain false cursor.rest = true := here ▸ starts.startsPlain_eq sign
  have noItem : ¬(c = '-' ∧ atGap rest) := fun both => by
    simp [sign (.inr (.inr both.1))] at both
  have noKey : ¬(c = '?' ∧ atGap rest) := fun both => by simp [sign (.inl both.1)] at both
  have noColon : ¬(c = ':' ∧ atGap rest) := fun both => by
    simp [sign (.inr (.inl both.1))] at both
  have differs (d : Char) (indicates : Scalar.isIndicator d = true) := starts.ne_indicator indicates
  simp only [token, isStart, noHyphens, noDots, noItem, noKey, noColon, differs '%' (by decide),
    differs '[' (by decide), differs '\x7b' (by decide), differs ']' (by decide),
    differs '\x7d' (by decide), differs ',' (by decide), differs '*' (by decide),
    differs '&' (by decide), differs '!' (by decide), differs '|' (by decide),
    differs '>' (by decide), differs '\'' (by decide), differs '"' (by decide), false_and,
    and_false, Bool.false_eq_true, false_or, if_false, if_true]

end StartsPlain

/-- **A text that may be written plain is taken up as a plain scalar.** -/
theorem token_plain (fold : Bool) (indent column : Nat) (blank : Bool) (nonempty : s ≠ [])
    (allows : Scalar.allowsPlain s = true) (follows : Follows tail) :
    ∃ c rest, Scalar.foldPlain fold indent column blank s ++ tail = c :: rest ∧ Solid (c :: rest) ∧
      ∀ cursor, cursor.rest = c :: rest → token false cursor c rest = plain := by
  obtain ⟨c, s', rfl⟩ := List.exists_cons_of_ne_nil nonempty
  have starts := startsPlain_of_allowsPlain allows
  have written : Scalar.foldPlain fold indent column blank (c :: s') ++ tail =
      c :: (Scalar.foldPlain fold indent (column + 1) false s' ++ tail) := by
    rw [foldPlain_cons starts.ne_blank, List.cons_append]
  refine ⟨c, _, written, ?_, fun cursor here => ?_⟩
  · intro d there
    cases there
    exact ⟨starts.ne_blank, isBreak_of_not_isGap starts.ink, starts.ne_indicator (by decide),
      starts.noMark⟩
  · have here' := here.trans written.symm
    exact starts.token_eq starts.sign_written here
      (atMark_plain '-' (by decide) follows here' starts.noStart)
      (atMark_plain '.' (by decide) follows here' starts.noEnd)

end Lex

namespace Scalar

/-- A scalar that is written without its tag: a text, or a word whose form gives it its tag. -/
inductive IsUntagged (s : Scalar) : Prop where
  | text (isText : s.tag = .str) (lines : s.inLines = s.text.contains '\n')
      (noNextLine : '\x85' ∉ s.text)
  | word (onLine : s.inLines = false) (typed : implicitTag s.text = s.tag)
      (allows : allowsPlain s.text = true) (nonempty : s.text ≠ [])

namespace IsUntagged

variable {s : Scalar} {key : Bool}

theorem style_of_word (onLine : s.inLines = false) (typed : implicitTag s.text = s.tag)
    (allows : allowsPlain s.text = true) (nonempty : s.text ≠ []) : s.style key = .plain := by
  simp [style, onLine, typed, allows, nonempty]

theorem plain (untagged : s.IsUntagged) (isPlain : s.style key = .plain) :
    s.text ≠ [] ∧ allowsPlain s.text = true ∧ implicitTag s.text = s.tag := by
  cases untagged with
  | text isText lines noNextLine =>
      rw [style] at isPlain
      split at isPlain
      · rename_i condition
        simp only [Bool.and_eq_true, decide_eq_true_eq] at condition
        obtain ⟨⟨⟨-, typed⟩, allows⟩, -⟩ := condition
        refine ⟨fun empty => ?_, allows, typed⟩
        rw [empty, isText] at typed
        cases typed
      · split at isPlain
        · cases isPlain
        · split at isPlain <;> cases isPlain
  | word onLine typed allows nonempty => exact ⟨nonempty, allows, typed⟩

theorem literal (untagged : s.IsUntagged) (isLiteral : s.style key = .literal) :
    key = false ∧ s.tag = .str ∧ allowsLiteral s.text = true ∧ '\x85' ∉ s.text := by
  cases untagged with
  | text isText lines noNextLine =>
      rw [style] at isLiteral
      split at isLiteral
      · cases isLiteral
      · split at isLiteral
        · rename_i condition
          simp only [Bool.and_eq_true, Bool.not_eq_true'] at condition
          exact ⟨condition.1.2, isText, condition.2, noNextLine⟩
        · split at isLiteral <;> cases isLiteral
  | word onLine typed allows nonempty =>
      rw [style_of_word onLine typed allows nonempty] at isLiteral
      cases isLiteral

theorem single (untagged : s.IsUntagged) (isSingle : s.style key = .single) :
    s.tag = .str ∧ allowsSingle s.text = true ∧ '\n' ∉ s.text ∧ '\x85' ∉ s.text := by
  cases untagged with
  | text isText lines noNextLine =>
      rw [style] at isSingle
      split at isSingle
      · cases isSingle
      · split at isSingle
        · cases isSingle
        · split at isSingle
          · rename_i condition
            simp only [Bool.and_eq_true, Bool.not_eq_true'] at condition
            obtain ⟨⟨onLine, allows⟩, -⟩ := condition
            rw [lines] at onLine
            exact ⟨isText, allows, by simpa using onLine, noNextLine⟩
          · cases isSingle
  | word onLine typed allows nonempty =>
      rw [style_of_word onLine typed allows nonempty] at isSingle
      cases isSingle

theorem isText (untagged : s.IsUntagged) (key : Bool) (other : s.style key ≠ .plain) :
    s.tag = .str := by
  cases untagged with
  | text isText lines noNextLine => exact isText
  | word onLine typed allows nonempty =>
      exact absurd (style_of_word onLine typed allows nonempty) other

/-- No tag is written. -/
theorem needsTag (untagged : s.IsUntagged) (key : Bool) : s.needsTag (s.style key) = false := by
  cases style : s.style key with
  | plain => simp [Scalar.needsTag, (untagged.plain style).2.2]
  | single => simp [Scalar.needsTag, (untagged.single style).1]
  | double => simp [Scalar.needsTag, untagged.isText key (by simp [style])]
  | literal => simp [Scalar.needsTag, (untagged.literal style).2.1]

/-! ### The line of a scalar in each of the styles -/

variable {indent column : Nat} {r : List Char}

theorem line_plain (untagged : s.IsUntagged) (style : s.style false = .plain) :
    scalarLine indent column none s ++ r =
      foldPlain true indent column false s.text ++ '\n' :: r := by
  have noTag := style ▸ untagged.needsTag false
  simp [scalarLine, anchorLead, write, noTag, style]

theorem line_single (untagged : s.IsUntagged) (style : s.style false = .single) :
    scalarLine indent column none s ++ r =
      '\'' :: (foldSingle true indent (column + 1) none s.text ++ '\'' :: '\n' :: r) := by
  have noTag := style ▸ untagged.needsTag false
  simp [scalarLine, anchorLead, write, noTag, style]

theorem line_double (untagged : s.IsUntagged) (style : s.style false = .double) :
    scalarLine indent column none s ++ r =
      '"' :: (foldDouble true indent (column + 1) true true s.text ++ '"' :: '\n' :: r) := by
  have noTag := style ▸ untagged.needsTag false
  simp [scalarLine, anchorLead, write, noTag, style]

theorem line_literal (untagged : s.IsUntagged) (style : s.style false = .literal) :
    scalarLine indent column none s ++ r =
      '|' :: (literalHints s.text ++ '\n' :: (literalLines indent true s.text ++ r)) := by
  have noTag := style ▸ untagged.needsTag false
  simp [scalarLine, anchorLead, write, noTag, style]

end IsUntagged

end Scalar

namespace Lex

variable {blocks : List Nat} {made : List Token} {s : Scalar} {body text : List Char}
  {col indent column k : Nat} {allows : Bool}

theorem ne_of_margin_le (left : margin blocks ≤ col) : ∀ d ∈ blocks.head?, d ≠ col := by
  intro d there
  cases blocks with
  | nil => cases there
  | cons d' blocks =>
      cases there
      exact Nat.ne_of_lt left

theorem stands_afterScalar {l : Lexer} (stands : Stands l blocks made) (text : List Char)
    (isPlain ended : Bool) (cursor : Cursor) :
    Stands (afterScalar text isPlain ended l cursor) blocks
      (made ++ [.scalar text isPlain]) := by
  have stands' := (stands.saved cursor).emit (.scalar text isPlain)
  exact ⟨stands'.columns, stands'.brackets, stands'.keys, stands'.row, stands'.made⟩

/-- **A scalar between quotes leads to the next line**, over lines without a token. -/
theorem quoted_leads {quote : Char} {double : Bool} {text written between : List Char}
    (which : ∀ {cursor rest}, cursor.rest = quote :: rest →
      token false cursor quote rest = node ((Token.scalar · false) <$> quotedScalar double))
    (read : ∀ {cursor tail}, tail.head? ≠ some '\'' →
      cursor.rest = quote :: (written ++ quote :: tail) → ∃ cursor', cursor'.rest = tail ∧
        cursor.line ≤ cursor'.line ∧ (quotedScalar double).Gives cursor text cursor')
    (left : margin blocks ≤ col) (interlude : Interlude between) (solid : Solid body) :
    Leads ⟨blocks, made, allows, col,
        quote :: (written ++ quote :: '\n' :: (between ++ (List.replicate k ' ' ++ body)))⟩
      ⟨kept k blocks, made ++ [.scalar text false] ++ ends k blocks, true, k, body⟩ := by
  refine .of_token_toward rfl fun l cursor at_ => ?_
  have required := saved_free at_.stands at_.pending at_.column (ne_of_margin_le left)
  obtain ⟨cursor', rest, line, gives⟩ := read (by simp) at_.text
  refine ⟨_, cursor', by rw [which at_.text]; exact quoted_gives at_.pending gives, ?_, ?_⟩
  · rw [rest, List.length_append]
    simp only [List.length_cons]
    omega
  · refine toward_line interlude cursor' (stands_afterScalar at_.stands text false false cursor)
      (fun p there => ?_) rest solid
    obtain ⟨-, line', -⟩ := saved_pending cursor at_.stands at_.pending p there
    exact ⟨required p there, line' ▸ line⟩

/-- **A plain scalar leads to the line that ends it**, over lines without a token. -/
theorem plain_leads {fold : Bool} {between : List Char} (nonempty : text ≠ [])
    (allowed : Scalar.allowsPlain text = true) (left : margin blocks ≤ col)
    (indented : max 1 (margin blocks) < indent) (ended : Plain.EndsAt (margin blocks) k body)
    (interlude : Interlude between) (solid : Solid body) :
    Leads ⟨blocks, made, allows, col, Scalar.foldPlain fold indent column false text ++
        '\n' :: (between ++ (List.replicate k ' ' ++ body))⟩
      ⟨kept k blocks, made ++ [.scalar text true] ++ ends k blocks, true, k, body⟩ := by
  have follows : Follows ('\n' :: (between ++ (List.replicate k ' ' ++ body))) := .inr rfl
  obtain ⟨c, rest, start, -, which⟩ :=
    token_plain fold indent column false nonempty allowed follows
  refine .of_token_toward start fun l cursor at_ => ?_
  obtain ⟨cursor', gives, nears, lower, shorter⟩ := Plain.plainScalar_end nonempty allowed
    (by omega) (by omega) interlude at_.text (at_.column ▸ Nat.le_succ_of_le left) solid ended
  have required := saved_free at_.stands at_.pending at_.column (ne_of_margin_le left)
  have toward : Toward _ (afterScalar text true true l cursor, cursor') :=
    toward_nears (stands_afterScalar at_.stands _ _ _ _) rfl (fun p there => by
      obtain ⟨-, line', -⟩ := saved_pending cursor at_.stands at_.pending p there
      exact ⟨required p there, line' ▸ lower⟩) nears solid
  have size := congrArg List.length start
  simp only [List.length_append, List.length_cons] at size shorter
  rw [which cursor (at_.text.trans start)]
  exact ⟨_, _, plain_gives at_.stands at_.pending gives, by omega, toward⟩

/-- **A literal block leads to the first line after it.** -/
theorem literal_leads (allowed : Scalar.allowsLiteral text = true) (noNextLine : '\x85' ∉ text)
    (below : k ≤ max 1 (margin blocks)) (solid : Solid body) :
    Leads ⟨blocks, made, allows, col, '|' :: (Scalar.literalHints text ++ '\n' ::
        (Scalar.literalLines (max 1 (margin blocks) + 1) true text ++
          (List.replicate k ' ' ++ body)))⟩
      ⟨kept k blocks, made ++ [.scalar text false] ++ ends k blocks, true, k, body⟩ := by
  refine .of_token_toward rfl fun l cursor at_ => ?_
  obtain ⟨line, index, lower, gives⟩ :=
    Block.blockScalar_gives allowed noNextLine solid below at_.text
  have stands := at_.stands.emit (.scalar text false)
  have toward := toward_here (j := 0) (l := { l with
      allowsKey := true
      row := .token (.scalar text false) :: l.row }) ⟨List.replicate 0 ' ' ++ body, line, k, index⟩
    ⟨stands.columns, stands.brackets, stands.keys, stands.row, stands.made⟩
    (by simp [at_.pending]) rfl solid
  refine ⟨_, _, by rw [token_bar at_.text]; exact block_gives at_.stands at_.pending gives, ?_,
    toward⟩
  simp only [List.replicate_zero, List.nil_append, List.length_append, List.length_cons]
  omega

/-- **A scalar leads to the next line.** -/
theorem scalar_leads (made : List Token) (allows : Bool) (column : Nat)
    (untagged : s.IsUntagged) (left : margin blocks ≤ col)
    (below : k < max 1 (margin blocks)) (narrow : max 1 (margin blocks) + 2 ≤ Scalar.lineWidth)
    (ended : s.style false = .plain → Plain.EndsAt (margin blocks) k body)
    (solid : Solid body) :
    Leads ⟨blocks, made, allows, col,
        scalarLine (max 1 (margin blocks) + 1) column none s ++ (List.replicate k ' ' ++ body)⟩
      ⟨kept k blocks, made ++ [.scalar s.text (s.style false = .plain)] ++ ends k blocks, true, k,
        body⟩ := by
  cases style : s.style false with
  | plain =>
      obtain ⟨nonempty, allowed, -⟩ := untagged.plain style
      rw [untagged.line_plain style]
      exact plain_leads nonempty allowed left (Nat.lt_succ_self _) (ended style) .nil solid
  | single =>
      obtain ⟨-, allowed, noLineFeed, noNextLine⟩ := untagged.single style
      rw [untagged.line_single style]
      refine quoted_leads token_single (fun after here => ?_) left .nil solid
      obtain ⟨cursor', rest, line, -, gives⟩ := Quote.quotedScalar_single allowed noLineFeed
        noNextLine (Nat.succ_pos _) after here
      exact ⟨cursor', rest, line, gives⟩
  | double =>
      rw [untagged.line_double style]
      refine quoted_leads token_double (fun after here => ?_) left .nil solid
      obtain ⟨cursor', rest, line, -, gives⟩ :=
        Quote.quotedScalar_double narrow (Nat.succ_pos _) after here
      exact ⟨cursor', rest, line, gives⟩
  | literal =>
      obtain ⟨-, -, allowed, noNextLine⟩ := untagged.literal style
      rw [untagged.line_literal style]
      exact literal_leads allowed noNextLine (Nat.le_of_lt below) solid

/-- The line of a scalar starts with neither a blank nor a line end nor a comment. -/
theorem solid_scalarLine (untagged : s.IsUntagged) (indent column : Nat) (r : List Char) :
    Solid (scalarLine indent column none s ++ r) := by
  cases style : s.style false with
  | plain =>
      obtain ⟨nonempty, allowed, -⟩ := untagged.plain style
      have follows : Follows ('\n' :: r) := .inr rfl
      obtain ⟨c, rest, start, solid, -⟩ :=
        token_plain true indent column false nonempty allowed follows
      rwa [untagged.line_plain style, start]
  | single =>
      rw [untagged.line_single style]
      exact fun c there => by cases there; decide
  | double =>
      rw [untagged.line_double style]
      exact fun c there => by cases there; decide
  | literal =>
      rw [untagged.line_literal style]
      exact fun c there => by cases there; decide

end Lex

end Conveyor.Yaml
