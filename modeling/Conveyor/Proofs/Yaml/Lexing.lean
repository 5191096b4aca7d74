import Conveyor.Proofs.Yaml.Literal
import Conveyor.Proofs.Yaml.Plain
import Conveyor.Proofs.Yaml.Quoted
import Conveyor.Yaml.Token.Lexer
import Mathlib.Logic.Relation

/-!
# Steps of the lexer

Between two tokens outside brackets a lexer is known by the columns of the open blocks, the tokens
made so far, whether a key may begin, and what is left of the text.  A step reads one token and goes
to the next one.  What each kind of token does to these data is said once; whole texts are then
followed from place to place.
-/

set_option autoImplicit false

namespace Conveyor.Yaml

namespace Lex

variable {α β : Type} {x : Lex α} {l l' l'' : Lexer} {cursor cursor' cursor'' : Cursor}

/-- From a lexer at a cursor, reading gives an answer and leads to another lexer and cursor. -/
def Gives (x : Lex α) (l : Lexer) (cursor : Cursor) (a : α) (l' : Lexer) (cursor' : Cursor) :
    Prop :=
  (x.run l).run cursor = .ok ((a, l'), cursor')

namespace Gives

theorem pure (a : α) (l : Lexer) (cursor : Cursor) : Gives (Pure.pure a) l cursor a l cursor := rfl

theorem bind {f : α → Lex β} {a : α} {b : β} (first : x.Gives l cursor a l' cursor')
    (next : (f a).Gives l' cursor' b l'' cursor'') : (x >>= f).Gives l cursor b l'' cursor'' := by
  unfold Gives at *
  rw [StateT.run_bind, StateT.run_bind, first]
  exact next

theorem scan {y : Scan α} {a : α} (read : y.Gives cursor a cursor') :
    (liftM y : Lex α).Gives l cursor a l cursor' := by
  unfold Gives
  have run : ((liftM y : Lex α).run l).run cursor =
      (y >>= fun a => Pure.pure (a, l)).run cursor := rfl
  rw [run, read.run_bind]
  rfl

end Gives

theorem get_gives (l : Lexer) (cursor : Cursor) : (get : Lex Lexer).Gives l cursor l l cursor := rfl

theorem set_gives (l l' : Lexer) (cursor : Cursor) :
    (set l' : Lex Unit).Gives l cursor () l' cursor := rfl

theorem modify_gives (f : Lexer → Lexer) (l : Lexer) (cursor : Cursor) :
    (modify f : Lex Unit).Gives l cursor () (f l) cursor := rfl

theorem emit_gives (t : Token) (l : Lexer) (cursor : Cursor) :
    (emit t).Gives l cursor () { l with row := .token t :: l.row } cursor := rfl

theorem allowKey_gives (allowed : Bool) (l : Lexer) (cursor : Cursor) :
    (allowKey allowed).Gives l cursor () { l with allowsKey := allowed } cursor := rfl

theorem cursorColumn_gives (l : Lexer) (cursor : Cursor) :
    cursorColumn.Gives l cursor cursor.column l cursor := rfl

theorem isFlow_gives (outside : l.brackets = 0) (cursor : Cursor) :
    isFlow.Gives l cursor false l cursor := by
  refine .bind (get_gives _ _) ?_
  rw [outside]
  exact .pure _ _ _

/-! ## What is known between two tokens -/

/-- The open blocks by their columns, innermost first, and the tokens made so far.  Slots are
numbered in the order in which they are kept, so that a slot that becomes a key later is none of
those in the row. -/
structure Stands (l : Lexer) (blocks : List Nat) (made : List Token) : Prop where
  columns : l.column :: l.outer = blocks.map some ++ [none]
  brackets : l.brackets = 0
  keys : ∀ k ∈ l.keys, k.1 < l.slots
  row : ∀ n, .slot n ∈ l.row → n < l.slots
  made : linearise l.keys l.row.reverse = made

variable {blocks : List Nat} {made : List Token}

theorem linearise_append (keys : List (Nat × Bool)) (row row' : List Lexeme) :
    linearise keys (row ++ row') = linearise keys row ++ linearise keys row' :=
  List.flatMap_append

theorem Stands.emit (stands : Stands l blocks made) (t : Token) :
    Stands { l with row := .token t :: l.row } blocks (made ++ [t]) where
  columns := stands.columns
  brackets := stands.brackets
  keys := stands.keys
  row n there := stands.row n (by simpa using there)
  made := by
    rw [List.reverse_cons, linearise_append, stands.made]
    rfl

/-- The columns of the blocks that stay open at a column. -/
def kept (column : Nat) (blocks : List Nat) : List Nat := blocks.dropWhile (column < ·)

/-- The ends of the blocks that are closed at a column. -/
def ends (column : Nat) (blocks : List Nat) : List Token :=
  (blocks.takeWhile (column < ·)).map fun _ => .blockEnd

theorem kept_of_le {column d : Nat} (le : d ≤ column) :
    kept column (d :: blocks) = d :: blocks := by
  simp [kept, le]

theorem ends_of_le {column d : Nat} (le : d ≤ column) : ends column (d :: blocks) = [] := by
  simp [ends, le]

theorem kept_of_lt {column d : Nat} (lt : column < d) :
    kept column (d :: blocks) = kept column blocks := by
  simp [kept, lt]

theorem ends_of_lt {column d : Nat} (lt : column < d) :
    ends column (d :: blocks) = .blockEnd :: ends column blocks := by
  simp [ends, lt]

/-- Closing blocks changes nothing but the blocks and the row. -/
structure Closed (l l' : Lexer) : Prop where
  allows : l'.allowsKey = l.allowsKey
  pending : l'.pending = l.pending

section

variable {column next : Option Nat} {rest : List (Option Nat)} {d : Nat}

theorem go_cons_of_left (here : l.column = some d) (left : column.all (· < d) = true) :
    closeBlocks.go column l (next :: rest) = closeBlocks.go column ⟨next, rest, l.brackets,
      l.allowsKey, l.pending, l.slots, l.keys, .token .blockEnd :: l.row⟩ rest := by
  cases l
  subst here
  cases column with
  | none => rfl
  | some c => exact if_pos left

theorem go_cons_of_not_left (here : l.column = some d) (right : ¬column.all (· < d) = true) :
    closeBlocks.go column l (next :: rest) = l := by
  cases l
  subst here
  cases column with
  | none => exact absurd rfl right
  | some c => exact if_neg right

end

/-- Blocks are closed from the innermost one on, as long as they start further right than a
column; without a column all of them are closed. -/
theorem go_closes (column : Option Nat) : ∀ {blocks : List Nat} {made : List Token} {l : Lexer},
    Stands l blocks made →
      Stands (closeBlocks.go column l l.outer) (blocks.dropWhile fun d => column.all (· < d))
        (made ++ (blocks.takeWhile fun d => column.all (· < d)).map fun _ => .blockEnd) ∧
      Closed l (closeBlocks.go column l l.outer) := by
  intro blocks
  induction blocks with
  | nil =>
      intro made l stands
      have columns := stands.columns
      simp only [List.map_nil, List.nil_append, List.cons.injEq] at columns
      rw [columns.2, closeBlocks.go]
      exact ⟨by simpa using stands, rfl, rfl⟩
  | cons d blocks ih =>
      intro made l stands
      have columns := stands.columns
      simp only [List.map_cons, List.cons_append, List.cons.injEq] at columns
      let left (d : Nat) : Bool := column.all (· < d)
      obtain ⟨next, rest, split⟩ : ∃ next rest, l.outer = next :: rest := by
        rw [columns.2]
        cases blocks <;> exact ⟨_, _, rfl⟩
      rw [split]
      by_cases lt : column.all (· < d) = true
      · have closed := stands.emit .blockEnd
        have stands' : Stands ⟨next, rest, l.brackets, l.allowsKey, l.pending, l.slots, l.keys,
            .token .blockEnd :: l.row⟩ blocks (made ++ [.blockEnd]) :=
          ⟨by rw [← split, columns.2], closed.brackets, closed.keys, closed.row, closed.made⟩
        have inner := ih stands'
        rw [go_cons_of_left columns.1 lt, List.dropWhile_cons_of_pos (p := left) lt,
          List.takeWhile_cons_of_pos (p := left) lt, List.map_cons,
          List.append_cons made .blockEnd]
        exact ⟨inner.1, inner.2.allows, inner.2.pending⟩
      · rw [go_cons_of_not_left columns.1 lt, List.dropWhile_cons_of_neg (p := left) lt,
          List.takeWhile_cons_of_neg (p := left) lt, List.map_nil, List.append_nil]
        exact ⟨stands, rfl, rfl⟩

theorem closeBlocks_gives (stands : Stands l blocks made) (column : Nat) (cursor : Cursor) :
    ∃ l', (closeBlocks (some column)).Gives l cursor () l' cursor ∧
      Stands l' (kept column blocks) (made ++ ends column blocks) ∧ Closed l l' := by
  refine ⟨_, .bind (get_gives _ _) ?_, go_closes (some column) stands⟩
  rw [if_pos stands.brackets]
  exact set_gives _ _ _

/-- Where no column holds them, all blocks are closed. -/
theorem closeBlocks_none (stands : Stands l blocks made) (cursor : Cursor) :
    ∃ l', (closeBlocks none).Gives l cursor () l' cursor ∧
      Stands l' [] (made ++ blocks.map fun _ => .blockEnd) ∧ Closed l l' := by
  have closes := go_closes none stands
  rw [List.takeWhile_eq_self_iff.mpr (by simp), List.dropWhile_eq_nil_iff.mpr (by simp)] at closes
  refine ⟨_, .bind (get_gives _ _) ?_, closes⟩
  rw [if_pos stands.brackets]
  exact set_gives _ _ _

/-- Nothing is closed at a column that the innermost block reaches. -/
theorem closeBlocks_same (stands : Stands l blocks made) {column : Nat}
    (reached : ∀ d ∈ blocks.head?, d ≤ column) (cursor : Cursor) :
    (closeBlocks (some column)).Gives l cursor () l cursor := by
  have columns := stands.columns
  have same : closeBlocks.go (some column) l l.outer = l := by
    cases blocks with
    | nil =>
        simp only [List.map_nil, List.nil_append, List.cons.injEq] at columns
        rw [columns.2, closeBlocks.go]
    | cons d blocks =>
        simp only [List.map_cons, List.cons_append, List.cons.injEq] at columns
        have le := reached d rfl
        cases outer : l.outer with
        | nil => rw [closeBlocks.go]
        | cons next rest => exact go_cons_of_not_left columns.1 (by simpa using le)
  refine .bind (get_gives _ _) ?_
  rw [if_pos stands.brackets, same]
  exact set_gives _ _ _

/-- Between brackets no block is closed. -/
theorem closeBlocks_inside (inside : l.brackets ≠ 0) (column : Option Nat) (cursor : Cursor) :
    (closeBlocks column).Gives l cursor () l cursor := by
  refine .bind (get_gives _ _) ?_
  rw [if_neg inside]
  exact .pure _ _ _

/-! ## Slots that may become keys -/

/-- A slot on another line is given up, unless it has to become a key. -/
theorem dropStale_other (stale : ∀ p ∈ l.pending, p.2.required = false ∧ p.2.line ≠ cursor.line) :
    dropStale.Gives l cursor () { l with pending := [] } cursor := by
  let isStale (k : PendingKey) : Bool :=
    k.line ≠ cursor.line || longestKey < cursor.index - k.index
  have free : ¬(l.pending.any fun p => isStale p.2 && p.2.required) = true := by
    intro some_
    obtain ⟨p, there, both⟩ := List.any_eq_true.mp some_
    rw [(stale p there).1, Bool.and_false] at both
    cases both
  have none_ : (l.pending.filter fun p => !isStale p.2) = [] := by
    refine List.filter_eq_nil_iff.mpr fun p there => ?_
    simp [isStale, (stale p there).2]
  refine .bind (.scan (.get cursor)) (.bind (get_gives _ _) ?_)
  dsimp only
  rw [if_neg free, none_]
  exact set_gives _ _ _

/-- A slot on the same line is not given up before the colon of a short key. -/
theorem dropStale_same
    (fresh : ∀ p ∈ l.pending, p.2.line = cursor.line ∧ cursor.index - p.2.index ≤ longestKey) :
    dropStale.Gives l cursor () l cursor := by
  let isStale (k : PendingKey) : Bool :=
    k.line ≠ cursor.line || longestKey < cursor.index - k.index
  have notStale : ∀ p ∈ l.pending, isStale p.2 = false := fun p there => by
    simp [isStale, (fresh p there).1, (fresh p there).2]
  have free : ¬(l.pending.any fun p => isStale p.2 && p.2.required) = true := by
    intro some_
    obtain ⟨p, there, both⟩ := List.any_eq_true.mp some_
    rw [notStale p there, Bool.false_and] at both
    cases both
  have all : (l.pending.filter fun p => !isStale p.2) = l.pending :=
    List.filter_eq_self.mpr fun p there => by rw [notStale p there]; rfl
  refine .bind (.scan (.get cursor)) (.bind (get_gives _ _) ?_)
  dsimp only
  rw [if_neg free, all]
  exact set_gives _ _ _

theorem dropKey_none (nothing : l.pending.lookup l.brackets = none) (cursor : Cursor) :
    dropKey.Gives l cursor () l cursor := by
  refine .bind (get_gives _ _) ?_
  rw [nothing]
  exact .pure _ _ _

/-! ## Going to the next token -/

variable {body : List Char}

theorem toNextToken_here {j : Nat} (n : Nat) (cursor : Cursor)
    (here : cursor.rest = List.replicate j ' ' ++ body)
    (solid : Solid body) : (toNextToken (n + 1)).Gives l cursor () l (cursor.skip j) := by
  have noMark : cursor.rest.head? ≠ some '\ufeff' := by
    rw [here]
    cases j with
    | zero => exact fun same => (solid _ same).2.2.2 rfl
    | succ j => simp [List.replicate_succ]
  have moved : (cursor.skip j).rest = body := by
    rw [Cursor.rest_skip, here, List.drop_left' List.length_replicate]
  refine .bind (.scan (.get cursor)) ?_
  dsimp only
  rw [if_neg (fun both => noMark both.2)]
  refine .bind (.scan (Scan.skipBlanks_run j here fun same => (solid _ same).1 rfl)) ?_
  refine .bind (.scan (Scan.skipComment_none ?_)) (.bind (.scan (Scan.lineEnd_none ?_)) ?_)
  · rw [moved]
    exact fun same => (solid _ same).2.2.1 rfl
  · rw [moved]
    exact fun c there => (solid c there).2.1
  · exact .pure _ _ _

/-- A line end is skipped; a key may begin on the next line. -/
theorem toNextToken_lineEnd {rest : List Char} {n : Nat} (outside : l.brackets = 0)
    (here : cursor.rest = '\n' :: rest)
    (next : (toNextToken n).Gives { l with allowsKey := true }
      ⟨rest, cursor.line + 1, 0, cursor.index + 1⟩ () l' cursor') :
    (toNextToken (n + 1)).Gives l cursor () l' cursor' := by
  refine .bind (.scan (.get cursor)) ?_
  dsimp only
  rw [if_neg (by simp [here])]
  refine .bind (.scan (Scan.skipBlanks_run 0 here (by simp))) ?_
  refine .bind (.scan (Scan.skipComment_none (by simp [Cursor.skip, here]))) ?_
  refine .bind (.scan (Scan.lineEnd_break here (by decide))) ?_
  refine .bind (isFlow_gives outside _) ?_
  exact .bind (allowKey_gives true l _) next

/-- A comment is skipped with its line. -/
theorem toNextToken_comment {text rest : List Char} (outside : l.brackets = 0)
    (inside : ∀ c ∈ text, isBreak c = false) (here : cursor.rest = '#' :: (text ++ '\n' :: rest)) :
    ∃ line index, cursor.line ≤ line ∧ ∀ {n l' cursor'},
      (toNextToken n).Gives { l with allowsKey := true } ⟨rest, line, 0, index⟩ () l' cursor' →
        (toNextToken (n + 1)).Gives l cursor () l' cursor' := by
  obtain ⟨comment, there⟩ := Scan.skipComment_run inside here
  refine ⟨(cursor.skip (text.length + 1)).line + 1, (cursor.skip (text.length + 1)).index + 1,
    Nat.le_succ_of_le (Cursor.line_le_skip _ _), fun {n l' cursor'} next => ?_⟩
  refine .bind (.scan (.get cursor)) ?_
  dsimp only
  rw [if_neg (by simp [here])]
  refine .bind (.scan (Scan.skipBlanks_run 0 here (by simp))) ?_
  refine .bind (.scan comment) (.bind (.scan (Scan.lineEnd_break there (by decide))) ?_)
  exact .bind (isFlow_gives outside _) (.bind (allowKey_gives true l _) next)

/-- Lines without a token are skipped up to the next one. -/
theorem toNextToken_nears {k : Nat} (outside : l.brackets = 0) (allows : l.allowsKey = true)
    (solid : Solid body) (n : Nat) (nears : cursor.Nears k body) (enough : cursor.rest.length < n) :
    ∃ line index, cursor.line ≤ line ∧
      (toNextToken n).Gives l cursor () l ⟨body, line, k, index⟩ := by
  have same : { l with allowsKey := true } = l := by
    cases l
    cases allows
    rfl
  cases nears with
  | here here column =>
      obtain ⟨m, rfl⟩ : ∃ m, n = m + 1 := ⟨n - 1, by omega⟩
      obtain ⟨rest, line, column', index⟩ := cursor
      cases here
      cases column
      exact ⟨line, index, Nat.le_refl _, toNextToken_here (j := 0) m _ rfl solid⟩
  | lines interlude here atStart =>
      induction interlude generalizing cursor n with
      | nil =>
          obtain ⟨m, rfl⟩ : ∃ m, n = m + 1 := ⟨n - 1, by omega⟩
          obtain ⟨rest, line, column', index⟩ := cursor
          cases here
          cases atStart
          have found := toNextToken_here (l := l) (j := k) m ⟨_, line, 0, index⟩ rfl solid
          rw [Cursor.skip_blanks, Nat.zero_add] at found
          exact ⟨line, index + k, Nat.le_refl _, found⟩
      | blank later ih =>
          obtain ⟨m, rfl⟩ : ∃ m, n = m + 1 := ⟨n - 1, by omega⟩
          rw [List.cons_append] at here
          rw [here, List.length_cons] at enough
          obtain ⟨line, index, lower, found⟩ :=
            @ih ⟨_, cursor.line + 1, 0, cursor.index + 1⟩ m (Nat.lt_of_succ_lt_succ enough) rfl rfl
          exact ⟨line, index, Nat.le_trans (Nat.le_succ _) lower,
            toNextToken_lineEnd outside here (by rw [same]; exact found)⟩
      | comment inside later ih =>
          obtain ⟨m, rfl⟩ : ∃ m, n = m + 1 := ⟨n - 1, by omega⟩
          rw [List.cons_append, List.append_assoc, List.cons_append] at here
          obtain ⟨line', index', lower', skipped⟩ := toNextToken_comment outside inside here
          simp only [here, List.length_cons, List.length_append] at enough
          obtain ⟨line, index, lower, found⟩ := @ih ⟨_, line', 0, index'⟩ m (by
            simp only [List.length_append]
            omega) rfl rfl
          exact ⟨line, index, Nat.le_trans lower' lower, skipped (by rw [same]; exact found)⟩

/-- What is done about slots and blocks once the next token is found. -/
theorem settle_of_found (found : (toNextToken (cursor.rest.length + 1)).Gives l cursor () l' cursor')
    (stands : Stands l' blocks made)
    (stale : ∀ p ∈ l'.pending, p.2.required = false ∧ p.2.line < cursor'.line) :
    ∃ l'', settle.Gives l cursor () l'' cursor' ∧ Stands l'' (kept cursor'.column blocks)
        (made ++ ends cursor'.column blocks) ∧ l''.allowsKey = l'.allowsKey ∧ l''.pending = [] := by
  obtain ⟨l'', closes, stands', allows, pending⟩ :=
    closeBlocks_gives (l := { l' with pending := [] })
      ⟨stands.columns, stands.brackets, stands.keys, stands.row, stands.made⟩ cursor'.column cursor'
  refine ⟨l'', ?_, stands', allows, pending⟩
  refine .bind (.scan (.get cursor)) (.bind found (.bind (dropStale_other ?_) ?_))
  · exact fun p there => ⟨(stale p there).1, Nat.ne_of_lt (stale p there).2⟩
  · exact .bind (cursorColumn_gives _ _) closes

/-- **What goes to the next token on the same line.** -/
theorem settle_here {j : Nat} (stands : Stands l blocks made)
    (stale : ∀ p ∈ l.pending, p.2.required = false ∧ p.2.line < cursor.line)
    (here : cursor.rest = List.replicate j ' ' ++ body) (solid : Solid body) :
    ∃ l', settle.Gives l cursor () l' ⟨body, cursor.line, cursor.column + j, cursor.index + j⟩ ∧
      Stands l' (kept (cursor.column + j) blocks) (made ++ ends (cursor.column + j) blocks) ∧
      l'.allowsKey = l.allowsKey ∧ l'.pending = [] := by
  have moved : cursor.skip j = ⟨body, cursor.line, cursor.column + j, cursor.index + j⟩ := by
    have skipped := Cursor.skip_onLine (OnLine.blanks j) here
    rwa [List.length_replicate] at skipped
  have found := toNextToken_here (l := l) cursor.rest.length cursor here solid
  rw [moved] at found
  exact settle_of_found found stands stale

/-- **What goes to the next token over lines without a token.** -/
theorem settle_nears {k : Nat} (stands : Stands l blocks made) (allows : l.allowsKey = true)
    (stale : ∀ p ∈ l.pending, p.2.required = false ∧ p.2.line < cursor.line)
    (nears : cursor.Nears k body) (solid : Solid body) :
    ∃ l' line index, settle.Gives l cursor () l' ⟨body, line, k, index⟩ ∧
      Stands l' (kept k blocks) (made ++ ends k blocks) ∧
      l'.allowsKey = true ∧ l'.pending = [] := by
  obtain ⟨line, index, lower, found⟩ :=
    toNextToken_nears stands.brackets allows solid _ nears (Nat.lt_succ_self _)
  obtain ⟨l', gives, stands', allows', pending⟩ := settle_of_found found stands fun p there =>
    ⟨(stale p there).1, Nat.lt_of_lt_of_le (stale p there).2 lower⟩
  exact ⟨l', line, index, gives, stands', allows'.trans allows, pending⟩

/-- **What goes to the next token from the end of a line.** -/
theorem settle_line {k : Nat} {between : List Char} (interlude : Interlude between)
    (stands : Stands l blocks made)
    (stale : ∀ p ∈ l.pending, p.2.required = false ∧ p.2.line ≤ cursor.line)
    (here : cursor.rest = '\n' :: (between ++ (List.replicate k ' ' ++ body)))
    (solid : Solid body) :
    ∃ l' line index, settle.Gives l cursor () l' ⟨body, line, k, index⟩ ∧
      Stands l' (kept k blocks) (made ++ ends k blocks) ∧
      l'.allowsKey = true ∧ l'.pending = [] := by
  have size := congrArg List.length here
  rw [List.length_cons] at size
  have nears : Cursor.Nears k body ⟨between ++ (List.replicate k ' ' ++ body), cursor.line + 1, 0,
      cursor.index + 1⟩ := .lines interlude rfl rfl
  obtain ⟨line, index, lower, later⟩ := toNextToken_nears (l := { l with allowsKey := true })
    stands.brackets rfl solid cursor.rest.length nears (by dsimp only; omega)
  obtain ⟨l', gives, stands', allows, pending⟩ := settle_of_found
    (toNextToken_lineEnd stands.brackets here later)
    ⟨stands.columns, stands.brackets, stands.keys, stands.row, stands.made⟩ fun p there =>
      ⟨(stale p there).1, Nat.lt_of_le_of_lt (stale p there).2 lower⟩
  exact ⟨l', line, index, gives, stands', allows, pending⟩

/-- At a token on the same line nothing happens. -/
theorem settle_same
    (fresh : ∀ p ∈ l.pending, p.2.line = cursor.line ∧ cursor.index - p.2.index ≤ longestKey)
    (solid : Solid cursor.rest)
    (closed : (closeBlocks (some cursor.column)).Gives l cursor () l cursor) :
    settle.Gives l cursor () l cursor := by
  have found := toNextToken_here (l := l) (j := 0) cursor.rest.length cursor rfl solid
  refine .bind (.scan (.get cursor)) (.bind found (.bind (dropStale_same fresh) ?_))
  exact .bind (cursorColumn_gives _ _) closed

end Lex

end Conveyor.Yaml
