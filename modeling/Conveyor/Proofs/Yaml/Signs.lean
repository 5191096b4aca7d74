import Conveyor.Proofs.Yaml.Places

/-!
# Signs of a block

The hyphen of an item, the question mark and the colon of an entry that takes two lines, the
brackets of an empty collection, and the mark at the end of a document: what each of them does to a
place.
-/

set_option autoImplicit false

namespace Conveyor.Yaml

open Scan

namespace Cursor

variable {cursor : Cursor} {c mark : Char} {rest : List Char}

theorem atMark_of_ne (mark : Char) (here : cursor.rest = c :: rest) (other : c ≠ mark) :
    cursor.atMark mark = false := by
  have other' : mark ≠ c := fun same => other same.symm
  simp [atMark, here, List.isPrefixOf, other']

/-- A sign before a gap is no document mark. -/
theorem atMark_of_gap (mark : Char) (here : cursor.rest = c :: rest) (gap : atGap rest = true)
    (ink : isGap mark = false) : cursor.atMark mark = false := by
  cases rest with
  | nil => simp [atMark, here, List.isPrefixOf]
  | cons d rest =>
      have other : mark ≠ d := by
        rintro rfl
        exact absurd gap (by simp [atGap, ink])
      simp [atMark, here, List.isPrefixOf, other]

end Cursor

namespace Lex

variable {l l' : Lexer} {cursor cursor' : Cursor} {blocks blocks' : List Nat} {made : List Token}
  {rest body : List Char} {col k : Nat} {allows isNew : Bool}

/-! ## Which token stands at a sign -/

theorem token_hyphen (here : cursor.rest = '-' :: rest) (gap : atGap rest = true) :
    token false cursor '-' rest = blockEntry := by
  have noMark := Cursor.atMark_of_gap '-' here gap (by decide)
  have noMark' := Cursor.atMark_of_ne '.' here (by decide)
  simp [token, noMark, noMark', gap]

theorem token_question (here : cursor.rest = '?' :: rest) (gap : atGap rest = true) :
    token false cursor '?' rest = explicitKey := by
  have noMark := Cursor.atMark_of_ne '-' here (by decide)
  have noMark' := Cursor.atMark_of_ne '.' here (by decide)
  simp [token, noMark, noMark', gap]

theorem token_colon (here : cursor.rest = ':' :: rest) (gap : atGap rest = true) :
    token false cursor ':' rest = colon := by
  have noMark := Cursor.atMark_of_ne '-' here (by decide)
  have noMark' := Cursor.atMark_of_ne '.' here (by decide)
  simp [token, noMark, noMark', gap]

/-! ## Blocks that open -/

/-- Where a sign stands, a block is new if all open ones start further left, and the sign belongs to
the innermost one if that starts at its column. -/
inductive Opens (col : Nat) : List Nat → List Nat → Bool → Prop where
  | new {blocks : List Nat} (inner : ∀ d ∈ blocks.head?, d < col) :
      Opens col blocks (col :: blocks) true
  | same (outer : List Nat) : Opens col (col :: outer) (col :: outer) false

theorem Opens.head (opens : Opens col blocks blocks' isNew) :
    ∃ outer, blocks' = col :: outer := by
  cases opens with
  | new inner => exact ⟨_, rfl⟩
  | same outer => exact ⟨_, rfl⟩

/-- The start of a block, if it is new. -/
def startOf (t : Token) (isNew : Bool) : List Token := if isNew then [t] else []

theorem Stands.column_eq (stands : Stands l blocks made) : l.column = blocks.head? := by
  have columns := stands.columns
  cases blocks with
  | nil =>
      simp only [List.map_nil, List.nil_append, List.cons.injEq] at columns
      exact columns.1
  | cons d blocks =>
      simp only [List.map_cons, List.cons_append, List.cons.injEq] at columns
      exact columns.1

/-- Opening a block changes nothing but the blocks. -/
structure Opened (l l' : Lexer) : Prop extends Closed l l' where
  slots : l'.slots = l.slots
  keys : l'.keys = l.keys
  row : l'.row = l.row

theorem openBlock_gives (stands : Stands l blocks made) (opens : Opens col blocks blocks' isNew)
    (cursor : Cursor) :
    ∃ l', (openBlock col).Gives l cursor isNew l' cursor ∧ Stands l' blocks' made ∧
      Opened l l' := by
  have column := stands.column_eq
  cases opens with
  | new inner =>
      refine ⟨{ l with column := some col, outer := l.column :: l.outer }, ?_, ?_,
        ⟨⟨rfl, rfl⟩, rfl, rfl, rfl⟩⟩
      · refine .bind (get_gives _ _) ?_
        rw [column]
        cases head : blocks.head? with
        | none =>
            dsimp only
            rw [if_pos rfl, ← head, ← column]
            exact .bind (set_gives _ _ _) (.pure _ _ _)
        | some d =>
            dsimp only
            rw [if_pos (by simp [inner d head]), ← head, ← column, decide_eq_true (inner d head)]
            exact .bind (set_gives _ _ _) (.pure _ _ _)
      · exact ⟨by rw [stands.columns]; rfl, stands.brackets, stands.keys, stands.row, stands.made⟩
  | same outer =>
      refine ⟨l, .bind (get_gives _ _) ?_, stands, ⟨rfl, rfl⟩, rfl, rfl, rfl⟩
      rw [column]
      simp only [List.head?_cons, Nat.lt_irrefl, decide_false, Bool.false_eq_true, if_false]
      exact .pure _ _ _

theorem openEntry_gives (stands : Stands l blocks made) (allowed : l.allowsKey = true)
    (column : cursor.column = col) (opens : Opens col blocks blocks' isNew) (start : Token) :
    ∃ l', (openEntry start).Gives l cursor () l' cursor ∧
      Stands l' blocks' (made ++ startOf start isNew) ∧ l'.pending = l.pending := by
  subst column
  obtain ⟨l', gives, stands', same⟩ := openBlock_gives stands opens cursor
  have outside := isFlow_gives stands.brackets cursor
  cases isNew with
  | true =>
      refine ⟨_, .bind outside ?_, stands'.emit start, same.pending⟩
      refine .bind (get_gives _ _) ?_
      rw [allowed]
      exact .bind (cursorColumn_gives _ _) (.bind gives (emit_gives _ _ _))
  | false =>
      refine ⟨l', .bind outside ?_, by simpa [startOf] using stands', same.pending⟩
      refine .bind (get_gives _ _) ?_
      rw [allowed]
      exact .bind (cursorColumn_gives _ _) (.bind gives (.pure _ _ _))

/-- The end of the reading of a sign: a key may begin after it, one blank further right. -/
theorem sign_gives {outer : List Nat} (stands : Stands l (col :: outer) made)
    (nothing : l.pending = []) (t : Token) {c : Char} (here : cursor.rest = c :: ' ' :: body)
    (onLine : OnLine [c]) (column : cursor.column = col) (solid : Solid body) :
    ∃ l' cursor', (do dropKey; skip 1; emit t : Lex Unit).Gives { l with allowsKey := true } cursor
        () l' cursor' ∧ cursor'.rest.length ≤ (' ' :: body).length ∧
      Toward ⟨col :: outer, made ++ [t], true, col + 2, body⟩ (l', cursor') := by
  have moved := Cursor.skip_onLine onLine (r := ' ' :: body) here
  have toward := toward_here (l := { l with allowsKey := true, row := .token t :: l.row }) (j := 1)
    ⟨' ' :: body, cursor.line, cursor.column + 1, cursor.index + 1⟩
    ⟨stands.columns, stands.brackets, stands.keys, (stands.emit t).row, (stands.emit t).made⟩
    (by simp [nothing]) rfl solid
  dsimp only at toward
  rw [kept_of_le (by omega), ends_of_le (by omega), List.append_nil, column] at toward
  refine ⟨_, ⟨' ' :: body, cursor.line, col + 1, cursor.index + 1⟩,
    .bind (dropKey_none (by simp [nothing]) _) (.bind (.scan (skip_gives 1 cursor)) ?_),
    Nat.le_refl _, toward⟩
  rw [List.length_singleton, column] at moved
  rw [moved]
  exact emit_gives _ _ _

/-- **The hyphen of an item.** -/
theorem hyphen_leads (made : List Token) (opens : Opens col blocks blocks' isNew)
    (solid : Solid body) :
    Leads ⟨blocks, made, true, col, '-' :: ' ' :: body⟩
      ⟨blocks', made ++ startOf .blockSequenceStart isNew ++ [.blockEntry], true, col + 2,
        body⟩ := by
  refine .of_token_toward rfl fun l cursor at_ => ?_
  obtain ⟨l', opened, stands, pending⟩ := openEntry_gives at_.stands at_.allows at_.column opens
    .blockSequenceStart
  obtain ⟨outer, rfl⟩ := opens.head
  obtain ⟨l'', cursor', gives, shorter, toward⟩ := sign_gives stands (pending.trans at_.pending)
    .blockEntry at_.text (.cons (by decide) .nil) at_.column solid
  rw [token_hyphen at_.text rfl]
  exact ⟨l'', cursor', .bind opened (.bind (allowKey_gives true _ _) gives), shorter, toward⟩

/-- **The question mark before a key.** -/
theorem question_leads (made : List Token) (opens : Opens col blocks blocks' isNew)
    (solid : Solid body) :
    Leads ⟨blocks, made, true, col, '?' :: ' ' :: body⟩
      ⟨blocks', made ++ startOf .blockMappingStart isNew ++ [.key], true, col + 2, body⟩ := by
  refine .of_token_toward rfl fun l cursor at_ => ?_
  obtain ⟨l', opened, stands, pending⟩ := openEntry_gives at_.stands at_.allows at_.column opens
    .blockMappingStart
  obtain ⟨outer, rfl⟩ := opens.head
  obtain ⟨l'', cursor', gives, shorter, toward⟩ := sign_gives stands (pending.trans at_.pending)
    .key at_.text (.cons (by decide) .nil) at_.column solid
  rw [token_question at_.text rfl]
  exact ⟨l'', cursor', .bind opened (.bind (isFlow_gives stands.brackets _)
    (.bind (allowKey_gives _ _ _) gives)), shorter, toward⟩

/-- **The colon on a line of its own.** -/
theorem colon_leads (made : List Token) (col : Nat) (outer : List Nat) (solid : Solid body) :
    Leads ⟨col :: outer, made, true, col, ':' :: ' ' :: body⟩
      ⟨col :: outer, made ++ [.value], true, col + 2, body⟩ := by
  refine .of_token_toward rfl fun l cursor at_ => ?_
  obtain ⟨l', opened, stands, pending⟩ := openEntry_gives at_.stands at_.allows at_.column
    (Opens.same outer) .blockMappingStart
  have stands' : Stands l' (col :: outer) made := by simpa [startOf] using stands
  obtain ⟨l'', cursor', gives, shorter, toward⟩ := sign_gives stands' (pending.trans at_.pending)
    .value at_.text (.cons (by decide) .nil) at_.column solid
  rw [token_colon at_.text rfl]
  refine ⟨l'', cursor', .bind (get_gives _ _) ?_, shorter, toward⟩
  rw [at_.pending]
  exact .bind opened (.bind (isFlow_gives stands.brackets _) (.bind (allowKey_gives _ _ _) gives))

/-! ## Slots -/

/-- The lexer with a slot for a key that may begin at a cursor. -/
def saved (l : Lexer) (cursor : Cursor) : Lexer :=
  if l.allowsKey then
    { l with
      pending := (l.brackets, ⟨l.slots, l.brackets = 0 && l.column = some cursor.column,
        cursor.line, cursor.column, cursor.index⟩) :: l.pending
      slots := l.slots + 1
      row := .slot l.slots :: l.row }
  else l

theorem saveKey_gives (nothing : l.pending = []) (cursor : Cursor) :
    saveKey.Gives l cursor () (saved l cursor) cursor := by
  refine .bind (get_gives _ _) ?_
  by_cases allowed : l.allowsKey = true
  · rw [if_pos allowed, saved, if_pos allowed]
    refine .bind (dropKey_none (by rw [nothing]; rfl) _) (.bind (.scan (.get cursor)) ?_)
    exact modify_gives _ _ _
  · rw [if_neg allowed, saved, if_neg allowed]
    exact .pure _ _ _

theorem lookup_eq_none {α : Type} {n : Nat} {keys : List (Nat × α)} (less : ∀ k ∈ keys, k.1 < n) :
    keys.lookup n = none := by
  refine List.lookup_eq_none_iff.mpr fun k there => ?_
  have ne := Nat.ne_of_gt (less k there)
  simpa using ne

/-- A slot alone is no token. -/
theorem Stands.saved (stands : Stands l blocks made) (cursor : Cursor) :
    Stands (saved l cursor) blocks made := by
  unfold Lex.saved
  split
  · refine ⟨stands.columns, stands.brackets, ?_, ?_, ?_⟩
    · exact fun k there => Nat.lt_succ_of_lt (stands.keys k there)
    · intro n there
      rcases List.mem_cons.mp there with same | earlier
      · cases same
        exact Nat.lt_succ_self _
      · exact Nat.lt_succ_of_lt (stands.row n earlier)
    · have unknown := lookup_eq_none stands.keys
      rw [List.reverse_cons, linearise_append, stands.made]
      simp [linearise, unknown]
  · exact stands

/-- Where nothing is pending, a slot that is saved is the only one. -/
theorem eq_of_mem_saved (nothing : l.pending = []) {p : Nat × PendingKey}
    (there : p ∈ (saved l cursor).pending) :
    p = (l.brackets, ⟨l.slots, l.brackets = 0 && l.column = some cursor.column, cursor.line,
      cursor.column, cursor.index⟩) := by
  unfold saved at there
  split at there
  · rw [nothing] at there
    exact List.mem_singleton.mp there
  · rw [nothing] at there
    cases there

theorem saved_pending (cursor : Cursor) (stands : Stands l blocks made) (nothing : l.pending = []) :
    ∀ p ∈ (saved l cursor).pending,
      p.1 = 0 ∧ p.2.line = cursor.line ∧ p.2.index = cursor.index := by
  intro p there
  obtain rfl := eq_of_mem_saved nothing there
  exact ⟨stands.brackets, rfl, rfl⟩

/-- A slot that does not stand at the column of the block need not become a key. -/
theorem saved_free (stands : Stands l blocks made) (nothing : l.pending = [])
    (column : cursor.column = col) (free : ∀ d ∈ blocks.head?, d ≠ col) :
    ∀ p ∈ (saved l cursor).pending, p.2.required = false := by
  intro p there
  have other : l.column ≠ some cursor.column := by
    rw [stands.column_eq]
    exact fun same => free _ same column
  obtain rfl := eq_of_mem_saved nothing there
  simp [other]

/-! ## Brackets -/

/-- The lexer after an opening bracket. -/
def opened (t : Token) (l : Lexer) (cursor : Cursor) : Lexer :=
  { saved l cursor with
    brackets := (saved l cursor).brackets + 1
    allowsKey := true
    row := .token t :: (saved l cursor).row }

theorem openBracket_gives (nothing : l.pending = []) (t : Token) (cursor : Cursor) :
    (openBracket t).Gives l cursor () (opened t l cursor) (cursor.skip 1) :=
  .bind (saveKey_gives nothing cursor) (.bind (modify_gives _ _ _)
    (.bind (.scan (skip_gives 1 cursor)) (emit_gives t _ _)))

theorem closeBracket_gives (inside : l.brackets = 1) (outer : ∀ p ∈ l.pending, p.1 = 0) (t : Token)
    (cursor : Cursor) :
    (closeBracket t).Gives l cursor () { l with
      brackets := 0
      allowsKey := false
      row := .token t :: l.row } (cursor.skip 1) := by
  have nothing : l.pending.lookup l.brackets = none := by
    refine List.lookup_eq_none_iff.mpr fun p there => ?_
    simp [inside, outer p there]
  have flow : isFlow.Gives l cursor true l cursor := by
    refine .bind (get_gives _ _) ?_
    rw [inside]
    exact .pure _ _ _
  have left : l.brackets - 1 = 0 := by rw [inside]
  refine .bind (dropKey_none nothing _) (.bind flow (.bind (modify_gives _ _ _)
    (.bind (.scan (skip_gives 1 _)) ?_)))
  rw [left]
  exact emit_gives t _ _

/-- **An empty collection between brackets.** -/
theorem empty_leads {opening closing : Char} {t t' : Token}
    (opens : ∀ {cursor rest}, cursor.rest = opening :: rest →
      token false cursor opening rest = openBracket t)
    (closes : ∀ {cursor rest}, cursor.rest = closing :: rest →
      token true cursor closing rest = closeBracket t')
    (onLine : OnLine [opening, closing]) (solid' : ∀ rest, Solid (closing :: rest))
    (free : ∀ d ∈ blocks.head?, d ≠ col) (solid : Solid body) :
    Leads ⟨blocks, made, allows, col, opening :: closing :: '\n' :: (List.replicate k ' ' ++ body)⟩
      ⟨kept k blocks, made ++ [t, t'] ++ ends k blocks, true, k, body⟩ := by
  refine .of_token rfl fun l cursor at_ => ?_
  have pending := saved_pending cursor at_.stands at_.pending
  have required := saved_free at_.stands at_.pending at_.column free
  have stands := (at_.stands.saved cursor).emit t
  have level : (opened t l cursor).brackets = 1 := by
    rw [opened, (at_.stands.saved cursor).brackets]
  -- the two brackets one after the other
  have first := Cursor.skip_onLine (s := [opening]) (OnLine.left (t := [closing]) onLine) at_.text
  rw [List.length_singleton] at first
  have here : (cursor.skip 1).rest = closing :: '\n' :: (List.replicate k ' ' ++ body) := by
    rw [first]
  have second := Cursor.skip_onLine (s := [closing]) onLine.tail here
  rw [List.length_singleton, first] at second
  have opens' := openBracket_gives at_.pending t cursor
  have closes' := closeBracket_gives level (fun p there => (pending p there).1) t' (cursor.skip 1)
  have settled : settle.Gives (opened t l cursor) (cursor.skip 1) () (opened t l cursor)
      (cursor.skip 1) := by
    refine settle_same (fun p there => ?_) (here ▸ solid' _) (closeBlocks_inside ?_ _ _)
    · obtain ⟨-, line, index⟩ := pending p there
      rw [first, line, index]
      exact ⟨rfl, by simp [longestKey]⟩
    · rw [level]
      exact Nat.one_ne_zero
  rw [← closes here] at closes'
  have reads := next_gives settled here (by rw [level]; exact closes')
  have toward := toward_line .nil (l := { opened t l cursor with
      brackets := 0
      allowsKey := false
      row := .token t' :: (opened t l cursor).row }) ((cursor.skip 1).skip 1)
    ⟨stands.columns, rfl, stands.keys, (stands.emit t').row, (stands.emit t').made⟩
    (fun p there => ⟨required p there, by simp [first, second, pending p there]⟩)
    (by rw [first, second]; rfl) solid
  rw [List.append_assoc made, List.singleton_append] at toward
  refine ⟨opened t l cursor, cursor.skip 1, by rw [opens at_.text]; exact opens', ?_, _,
    .single ⟨reads, ?_⟩, toward⟩
  · rw [here]
  · dsimp only
    rw [first, second]
    exact Nat.lt_succ_self _

/-- An empty list. -/
theorem empty_sequence_leads (free : ∀ d ∈ blocks.head?, d ≠ col) (solid : Solid body) :
    Leads ⟨blocks, made, allows, col, '[' :: ']' :: '\n' :: (List.replicate k ' ' ++ body)⟩
      ⟨kept k blocks, made ++ [.flowSequenceStart, .flowSequenceEnd] ++ ends k blocks, true, k,
        body⟩ := by
  refine empty_leads (fun {cursor rest} here => ?_) (fun {cursor rest} here => ?_) ?_ ?_ free solid
  · simp [token, Cursor.atMark_of_ne _ here]
  · simp [token, Cursor.atMark_of_ne _ here]
  · exact .cons (by decide) (.cons (by decide) .nil)
  · exact fun rest c there => by
      cases there
      decide

/-- An empty mapping. -/
theorem empty_mapping_leads (free : ∀ d ∈ blocks.head?, d ≠ col) (solid : Solid body) :
    Leads ⟨blocks, made, allows, col,
        '\x7b' :: '\x7d' :: '\n' :: (List.replicate k ' ' ++ body)⟩
      ⟨kept k blocks, made ++ [.flowMappingStart, .flowMappingEnd] ++ ends k blocks, true, k,
        body⟩ := by
  refine empty_leads (fun {cursor rest} here => ?_) (fun {cursor rest} here => ?_) ?_ ?_ free solid
  · simp [token, Cursor.atMark_of_ne _ here]
  · simp [token, Cursor.atMark_of_ne _ here]
  · exact .cons (by decide) (.cons (by decide) .nil)
  · exact fun rest c there => by
      cases there
      decide

/-! ## The end of a document -/

/-- **The mark that closes a document.** -/
theorem endMark_leads : Leads ⟨blocks, made, allows, 0, ['.', '.', '.', '\n']⟩
    ⟨[], made ++ (blocks.map fun _ => .blockEnd) ++ [.documentEnd], true, 0, []⟩ := by
  refine .of_token_toward rfl fun l cursor at_ => ?_
  obtain ⟨l', closes, stands, closed⟩ := closeBlocks_none at_.stands cursor
  have nothing : l'.pending = [] := closed.pending.trans at_.pending
  have mark : cursor.atMark '.' = true := by
    simp [Cursor.atMark, at_.text, List.isPrefixOf, atGap, isGap, isBreak]
  have noMark := Cursor.atMark_of_ne '-' at_.text (by decide)
  have moved := Cursor.skip_onLine (s := ['.', '.', '.']) (.replicate 3 (by decide)) at_.text
  have toward := toward_line .nil (l := { l' with
      allowsKey := false
      row := .token .documentEnd :: l'.row }) (k := 0) (cursor.skip 3)
    ⟨stands.columns, stands.brackets, stands.keys, (stands.emit _).row, (stands.emit _).made⟩
    (by simp [nothing]) (by rw [Cursor.rest_skip, at_.text]; rfl) (by simp [Solid])
  rw [show ends 0 [] = [] from rfl, List.append_nil] at toward
  refine ⟨_, cursor.skip 3, ?_, ?_, toward⟩
  · have which : token false cursor '.' ['.', '.', '\n'] = atMargin 3 .documentEnd := by
      simp [token, at_.column, mark, noMark]
    rw [which]
    refine .bind closes (.bind (dropKey_none (by rw [nothing]; rfl) _) ?_)
    exact .bind (allowKey_gives _ _ _) (.bind (.scan (skip_gives 3 cursor)) (emit_gives _ _ _))
  · rw [Cursor.rest_skip, at_.text]
    simp

end Lex

end Conveyor.Yaml
