import Conveyor.Proofs.Yaml.Lexing

/-!
# Places between tokens

A place is what matters of a lexer that stands right before a token outside brackets.  One place
leads to another if every lexer that is about to go to the first one comes, token by token, to a
lexer that is about to go to the second one.  Each kind of token has one lemma; the text of a whole
document is followed by chaining them.
-/

set_option autoImplicit false

namespace Conveyor.Yaml

namespace Lex

/-- The open blocks with the innermost first, the tokens made so far, whether a key may begin, the
column, and the text that is left. -/
structure Place where
  blocks : List Nat
  made : List Token
  allows : Bool
  column : Nat
  text : List Char

/-- A lexer and its cursor are at a place. -/
structure At (p : Place) (l : Lexer) (cursor : Cursor) : Prop where
  stands : Stands l p.blocks p.made
  allows : l.allowsKey = p.allows
  pending : l.pending = []
  column : cursor.column = p.column
  text : cursor.rest = p.text

/-- The next token is the one at a place. -/
def Toward (p : Place) (s : Lexer × Cursor) : Prop :=
  ∃ l cursor, settle.Gives s.1 s.2 () l cursor ∧ At p l cursor ∧
    cursor.rest.length ≤ s.2.rest.length

/-- One token is read, which takes a character at least. -/
structure Step (s s' : Lexer × Cursor) : Prop where
  reads : next.Gives s.1 s.2 (some ()) s'.1 s'.2
  shorter : s'.2.rest.length < s.2.rest.length

/-- From one place the lexer comes to another. -/
def Leads (p p' : Place) : Prop :=
  ∀ s, Toward p s → ∃ s', Relation.ReflTransGen Step s s' ∧ Toward p' s'

theorem Leads.trans {p q r : Place} (first : Leads p q) (second : Leads q r) : Leads p r := by
  intro s toward
  obtain ⟨s', steps, toward'⟩ := first s toward
  obtain ⟨s'', steps', toward''⟩ := second s' toward'
  exact ⟨s'', steps.trans steps', toward''⟩

variable {l l' l'' : Lexer} {cursor cursor' cursor'' : Cursor} {p p' : Place} {c : Char}
  {rest : List Char} {blocks : List Nat} {made : List Token}

theorem Gives.map {α β : Type} {x : Lex α} {a : α} (f : α → β)
    (first : x.Gives l cursor a l' cursor') :
    (f <$> x).Gives l cursor (f a) l' cursor' := by
  rw [map_eq_pure_bind]
  exact .bind first (.pure _ _ _)

theorem next_gives (settled : settle.Gives l cursor () l' cursor')
    (here : cursor'.rest = c :: rest)
    (read : (token (decide (l'.brackets ≠ 0)) cursor' c rest).Gives l' cursor' () l'' cursor'') :
    next.Gives l cursor (some ()) l'' cursor'' := by
  have level : isFlow.Gives l' cursor' (decide (l'.brackets ≠ 0)) l' cursor' :=
    .bind (get_gives _ _) (.pure _ _ _)
  refine .bind settled (.bind (.scan (.get cursor')) ?_)
  rw [here]
  exact .bind level (.map some read)

/-- What reads the token at a place leads on. -/
theorem Leads.of_token (here : p.text = c :: rest)
    (read : ∀ l cursor, At p l cursor → ∃ l' cursor',
      (token false cursor c rest).Gives l cursor () l' cursor' ∧
      cursor'.rest.length ≤ rest.length ∧
      ∃ s', Relation.ReflTransGen Step (l', cursor') s' ∧ Toward p' s') : Leads p p' := by
  rintro ⟨l₀, cursor₀⟩ ⟨l, cursor, settled, at_, shorter⟩
  obtain ⟨l', cursor', reads, shorter', s', steps, toward⟩ := read l cursor at_
  have text := at_.text.trans here
  have outside : decide (l.brackets ≠ 0) = false := by simp [at_.stands.brackets]
  have reads' := next_gives settled text (by rw [outside]; exact reads)
  refine ⟨s', .head ⟨reads', ?_⟩ steps, toward⟩
  simp only [text, List.length_cons] at shorter
  exact Nat.lt_of_le_of_lt shorter' shorter

/-- A token after which the lexer goes on to the next place. -/
theorem Leads.of_token_toward (here : p.text = c :: rest)
    (read : ∀ l cursor, At p l cursor → ∃ l' cursor',
      (token false cursor c rest).Gives l cursor () l' cursor' ∧
      cursor'.rest.length ≤ rest.length ∧ Toward p' (l', cursor')) : Leads p p' := by
  refine .of_token here fun l cursor at_ => ?_
  obtain ⟨l', cursor', reads, shorter, toward⟩ := read l cursor at_
  exact ⟨l', cursor', reads, shorter, (l', cursor'), .refl, toward⟩

variable {body : List Char} {j k : Nat}

/-- A text after some blanks on the same line. -/
theorem toward_here (cursor : Cursor) (stands : Stands l blocks made)
    (stale : ∀ p ∈ l.pending, p.2.required = false ∧ p.2.line < cursor.line)
    (here : cursor.rest = List.replicate j ' ' ++ body) (solid : Solid body) :
    Toward ⟨kept (cursor.column + j) blocks, made ++ ends (cursor.column + j) blocks, l.allowsKey,
      cursor.column + j, body⟩ (l, cursor) := by
  obtain ⟨l', gives, stands', allows, pending⟩ := settle_here stands stale here solid
  refine ⟨l', _, gives, ⟨stands', allows, pending, rfl, rfl⟩, ?_⟩
  simp [here]

/-- A text that lines without a token lead to. -/
theorem toward_nears (stands : Stands l blocks made) (allows : l.allowsKey = true)
    (stale : ∀ p ∈ l.pending, p.2.required = false ∧ p.2.line < cursor.line)
    (nears : cursor.Nears k body) (solid : Solid body) :
    Toward ⟨kept k blocks, made ++ ends k blocks, true, k, body⟩ (l, cursor) := by
  obtain ⟨l', line, index, gives, stands', allows', pending⟩ :=
    settle_nears stands allows stale nears solid
  refine ⟨l', _, gives, ⟨stands', allows', pending, rfl, rfl⟩, ?_⟩
  cases nears with
  | here here => simp [here]
  | lines _ here =>
      simp only [here, List.length_append]
      omega

/-- A text on the next line, or after lines without a token. -/
theorem toward_line {between : List Char} (interlude : Interlude between) (cursor : Cursor)
    (stands : Stands l blocks made)
    (stale : ∀ p ∈ l.pending, p.2.required = false ∧ p.2.line ≤ cursor.line)
    (here : cursor.rest = '\n' :: (between ++ (List.replicate k ' ' ++ body)))
    (solid : Solid body) :
    Toward ⟨kept k blocks, made ++ ends k blocks, true, k, body⟩ (l, cursor) := by
  obtain ⟨l', line, index, gives, stands', allows, pending⟩ :=
    settle_line interlude stands stale here solid
  refine ⟨l', _, gives, ⟨stands', allows, pending, rfl, rfl⟩, ?_⟩
  simp only [here, List.length_cons, List.length_append]
  omega

/-! ## The end of a text -/

/-- As long as tokens are read, the loop goes on with what is left. -/
theorem all_of_steps {s s' : Lexer × Cursor} (steps : Relation.ReflTransGen Step s s') :
    ∀ fuel, s.2.rest.length < fuel →
      ∃ fuel', s'.2.rest.length < fuel' ∧ all fuel s.1 s.2 = all fuel' s'.1 s'.2 := by
  induction steps using Relation.ReflTransGen.head_induction_on with
  | refl => exact fun fuel enough => ⟨fuel, enough, rfl⟩
  | head step _ ih =>
      intro fuel enough
      obtain ⟨fuel, rfl⟩ : ∃ n, fuel = n + 1 := ⟨fuel - 1, by omega⟩
      have shorter := step.shorter
      obtain ⟨fuel', enough', same⟩ := ih fuel (by omega)
      refine ⟨fuel', enough', ?_⟩
      have reads := step.reads
      unfold Gives at reads
      rw [all, reads]
      exact same

/-- At the end of the text all blocks are closed. -/
theorem all_of_end {allows : Bool} {column : Nat} {s : Lexer × Cursor}
    (toward : Toward ⟨blocks, made, allows, column, []⟩ s) (fuel : Nat) :
    ∃ l, all (fuel + 1) s.1 s.2 = (l, none) ∧ l.pending = [] ∧
      linearise l.keys l.row.reverse = made ++ blocks.map fun _ => .blockEnd := by
  obtain ⟨l, cursor, settled, at_, -⟩ := toward
  obtain ⟨l', closes, stands, closed⟩ := closeBlocks_none at_.stands cursor
  have nothing : l'.pending = [] := closed.pending.trans at_.pending
  have reads : next.Gives s.1 s.2 none l' cursor := by
    refine .bind settled (.bind (.scan (.get cursor)) ?_)
    rw [at_.text]
    exact .bind closes (.bind (dropKey_none (by rw [nothing]; rfl) _) (.pure _ _ _))
  unfold Gives at reads
  refine ⟨{ l' with pending := [] }, by rw [all, reads], rfl, stands.made⟩

end Lex

/-- **What leads to the end of a text gives its tokens**, also behind lines without a token. -/
theorem Lexed.ofText_of_leads {heading text : List Char} (interlude : Interlude heading)
    {blocks : List Nat} {made : List Token} {allows : Bool} {column : Nat}
    (allowed : (heading ++ text).all isAllowed = true) (solid : Solid text)
    (leads : Lex.Leads ⟨[], [], true, 0, text⟩ ⟨blocks, made, allows, column, []⟩) :
    Lexed.ofText (heading ++ text) = ⟨made ++ blocks.map fun _ => .blockEnd, none⟩ := by
  have start : Lex.Stands {} [] [] := ⟨rfl, rfl, by simp, by simp, rfl⟩
  obtain ⟨s, steps, toward⟩ := leads ({}, ⟨heading ++ text, 0, 0, 0⟩)
    (Lex.toward_nears (k := 0) start rfl (by simp) (.lines interlude rfl rfl) solid)
  obtain ⟨fuel, enough, same⟩ :=
    Lex.all_of_steps steps ((heading ++ text).length + 1) (Nat.lt_succ_self _)
  obtain ⟨fuel, rfl⟩ : ∃ n, fuel = n + 1 := ⟨fuel - 1, by omega⟩
  obtain ⟨l, ended, pending, tokens⟩ := Lex.all_of_end toward fuel
  have settled : Lexed.settled l = l.row.reverse := by
    refine List.takeWhile_eq_self_iff.mpr fun lexeme _ => ?_
    rw [pending]
    cases lexeme <;> rfl
  rw [Lexed.ofText, allowed]
  simp only [Bool.not_true, Bool.false_eq_true, if_false]
  rw [same, ended]
  dsimp only
  rw [settled, tokens]

end Conveyor.Yaml
