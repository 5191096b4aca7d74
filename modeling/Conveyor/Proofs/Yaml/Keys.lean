import Conveyor.Proofs.Yaml.Words

/-!
# Keys before their colons

A scalar at a place where a key may begin leaves a slot.  The colon after it makes the slot a key:
the tokens made before stay as they are, and the start of the key, with the start of a mapping if
the key is the first one of a block, comes before the scalar.
-/

set_option autoImplicit false

namespace Conveyor.Yaml

open Scan

namespace Lex

variable {l l' : Lexer} {cursor cursor' : Cursor} {blocks blocks' : List Nat} {made : List Token}
  {rest body : List Char} {col : Nat} {isNew : Bool}

/-- A key in a slot that is not in a row changes nothing in it. -/
theorem linearise_fresh (keys : List (Nat × Bool)) {row : List Lexeme} {n : Nat} (opens : Bool)
    (old : ∀ m, .slot m ∈ row → m < n) :
    linearise ((n, opens) :: keys) row = linearise keys row := by
  induction row with
  | nil => rfl
  | cons lexeme row ih =>
      have rest := ih fun m there => old m (List.mem_cons_of_mem _ there)
      unfold linearise at rest ⊢
      rw [List.flatMap_cons, List.flatMap_cons, rest]
      cases lexeme with
      | token t => rfl
      | slot m =>
          have other : (m == n) = false := by simpa using Nat.ne_of_lt (old m List.mem_cons_self)
          simp [List.lookup, other]

/-- A slot that became a key stands for the sign of the key, with the start of its mapping. -/
theorem Stands.linearise_key (stands : Stands l blocks made) (isNew : Bool) (ts : List Token) :
    linearise ((l.slots, isNew) :: l.keys)
        (l.row.reverse ++ .slot l.slots :: ts.map Lexeme.token) =
      made ++ startOf .blockMappingStart isNew ++ .key :: ts := by
  have old := linearise_fresh l.keys isNew fun m there => stands.row m (List.mem_reverse.mp there)
  have start : linearise ((l.slots, isNew) :: l.keys) [.slot l.slots] =
      startOf .blockMappingStart isNew ++ [.key] := by
    cases isNew <;> simp [linearise, startOf]
  have tokens : linearise ((l.slots, isNew) :: l.keys) (ts.map Lexeme.token) = ts := by
    simp [linearise, List.flatMap_map]
  rw [← List.singleton_append (x := Lexeme.slot l.slots), linearise_append, linearise_append, old,
    stands.made, start, tokens]
  simp

/-- The lexer after a scalar whose slot may still become a key. -/
theorem afterScalar_saved (allows : l.allowsKey = true) (nothing : l.pending = [])
    (level : l.brackets = 0) (text : List Char) (isPlain : Bool) (cursor : Cursor) :
    afterScalar text isPlain false l cursor = { l with
      pending := [(0, ⟨l.slots, l.brackets = 0 && l.column = some cursor.column,
        cursor.line, cursor.column, cursor.index⟩)]
      slots := l.slots + 1
      allowsKey := false
      row := .token (.scalar text isPlain) :: .slot l.slots :: l.row } := by
  rw [afterScalar, saved, if_pos allows, nothing, level]

/-- The colon after a scalar makes it a key. -/
theorem colon_gives (at_ : At ⟨blocks, made, true, col, rest⟩ l cursor)
    (opens : Opens col blocks blocks' isNew) (text : List Char) (isPlain : Bool)
    (cursor' : Cursor) :
    ∃ l', colon.Gives (afterScalar text isPlain false l cursor) cursor' () l' (cursor'.skip 1) ∧
      Stands l' blocks'
        (made ++ startOf .blockMappingStart isNew ++ [.key, .scalar text isPlain, .value]) ∧
      l'.allowsKey = false ∧ l'.pending = [] := by
  obtain rfl : cursor.column = col := at_.column
  have stands := at_.stands
  have level := stands.brackets
  have lexed := stands_afterScalar stands text isPlain false cursor
  have saves := afterScalar_saved at_.allows at_.pending level text isPlain cursor
  obtain ⟨l', block, stands', same⟩ := openBlock_gives
    (l := { afterScalar text isPlain false l cursor with pending := [] })
    ⟨lexed.columns, lexed.brackets, lexed.keys, lexed.row, lexed.made⟩ opens cursor'
  have outside := isFlow_gives (l := { afterScalar text isPlain false l cursor with pending := [] })
    lexed.brackets cursor'
  have slots : l'.slots = l.slots + 1 := by rw [same.slots, saves]
  have keys : l'.keys = l.keys := by rw [same.keys, saves]
  have row : l'.row = .token (.scalar text isPlain) :: .slot l.slots :: l.row := by
    rw [same.row, saves]
  refine ⟨{ l' with
    keys := (l.slots, isNew) :: l'.keys
    allowsKey := false
    row := .token .value :: l'.row }, ?_, ⟨stands'.columns, stands'.brackets, ?_, ?_, ?_⟩, rfl,
    same.pending⟩
  · have found : (afterScalar text isPlain false l cursor).pending.lookup
          (afterScalar text isPlain false l cursor).brackets =
        some ⟨l.slots, l.brackets = 0 && l.column = some cursor.column, cursor.line,
          cursor.column, cursor.index⟩ := by
      simp [saves, level]
    have dropped : (afterScalar text isPlain false l cursor).pending.filter
        (·.1 ≠ (afterScalar text isPlain false l cursor).brackets) = [] := by
      simp [saves, level]
    refine .bind (get_gives _ _) ?_
    rw [found, dropped]
    refine .bind (set_gives _ _ _) (.bind outside (.bind block ?_))
    exact .bind (modify_gives _ _ _) (.bind (.scan (skip_gives 1 cursor')) (emit_gives _ _ _))
  · intro k there
    rw [slots]
    rcases List.mem_cons.mp there with rfl | there
    · exact Nat.lt_succ_self _
    · exact Nat.lt_succ_of_lt (stands.keys k (keys ▸ there))
  · intro n there
    refine stands'.row n ?_
    simpa using there
  · have expanded := stands.linearise_key isNew [.scalar text isPlain, .value]
    rw [row, keys]
    simpa using expanded

/-- A key is read up to its colon. -/
structure ReadsKey (blocks : List Nat) (made : List Token) (col : Nat) (w r : List Char)
    (text : List Char) (isPlain : Bool) : Prop where
  nonempty : w ≠ []
  onLine : OnLine w
  short : w.length ≤ longestKey
  reads : ∃ c rest, w ++ ':' :: r = c :: rest ∧ Solid (c :: rest) ∧
    ∀ l cursor, At ⟨blocks, made, true, col, w ++ ':' :: r⟩ l cursor →
      (token false cursor c rest).Gives l cursor () (afterScalar text isPlain false l cursor)
        (cursor.skip w.length)

/-- **A key with its colon.** -/
theorem ReadsKey.leads {p : Place} {w r text : List Char} {isPlain : Bool}
    (key : ReadsKey blocks made col w r text isPlain) (gap : atGap r = true)
    (opens : Opens col blocks blocks' isNew)
    (toward : ∀ l cursor, Stands l blocks' (made ++ startOf .blockMappingStart isNew ++
        [.key, .scalar text isPlain, .value]) → l.allowsKey = false → l.pending = [] →
      cursor.rest = r → cursor.column = col + w.length + 1 → Toward p (l, cursor)) :
    Leads ⟨blocks, made, true, col, w ++ ':' :: r⟩ p := by
  obtain ⟨c, rest, start, solid, reads⟩ := key.reads
  refine .of_token start fun l cursor at_ => ?_
  have moved := Cursor.skip_onLine key.onLine at_.text
  have stands := stands_afterScalar at_.stands text isPlain false cursor
  obtain ⟨l', gives, stands', allows, nothing⟩ :=
    colon_gives at_ opens text isPlain (cursor.skip w.length)
  have here : (cursor.skip w.length).rest = ':' :: r := by rw [moved]
  have moved' := Cursor.skip_onLine (s := [':']) (.cons (by decide) .nil) here
  rw [List.length_singleton] at moved'
  have settled : settle.Gives (afterScalar text isPlain false l cursor) (cursor.skip w.length) ()
      (afterScalar text isPlain false l cursor) (cursor.skip w.length) := by
    refine settle_same (fun p there => ?_) ?_ (closeBlocks_same stands ?_ _)
    · obtain ⟨-, line, index⟩ := saved_pending cursor at_.stands at_.pending p there
      rw [moved, line, index, Nat.add_sub_cancel_left]
      exact ⟨rfl, key.short⟩
    · rw [here]
      exact fun c there => by
        cases there
        decide
    · intro d there
      rw [moved, at_.column]
      refine Nat.le_add_right_of_le ?_
      cases opens with
      | new inner => exact Nat.le_of_lt (inner d there)
      | same outer =>
          cases there
          exact Nat.le_refl _
  have outside : decide ((afterScalar text isPlain false l cursor).brackets ≠ 0) = false := by
    simp [stands.brackets]
  have reads' := next_gives settled here (by
    rw [outside, token_colon here gap]
    exact gives)
  refine ⟨_, cursor.skip w.length, reads l cursor at_, ?_,
    (l', (cursor.skip w.length).skip 1), .single ⟨reads', ?_⟩,
    toward l' ((cursor.skip w.length).skip 1) stands' allows nothing (by rw [moved']) ?_⟩
  · have size := congrArg List.length start
    have some_ := List.length_pos_of_ne_nil key.nonempty
    simp only [List.length_append, List.length_cons] at size
    simp only [here, List.length_cons]
    omega
  · simp only [moved', here]
    exact Nat.lt_succ_self _
  · rw [moved', moved, at_.column]

theorem readsKey_quoted {quote : Char} {double : Bool} {text written r : List Char}
    (which : ∀ {cursor rest}, cursor.rest = quote :: rest →
      token false cursor quote rest = node ((Token.scalar · false) <$> quotedScalar double))
    (solid : Solid [quote]) (onLine : OnLine (quote :: written ++ [quote]))
    (short : written.length + 2 ≤ longestKey)
    (read : ∀ {cursor}, cursor.rest = quote :: (written ++ quote :: ':' :: r) →
      (quotedScalar double).Gives cursor text (cursor.skip (written.length + 2))) :
    ReadsKey blocks made col (quote :: written ++ [quote]) r text false := by
  have size : (quote :: written ++ [quote]).length = written.length + 2 := by simp
  refine ⟨by simp, onLine, size ▸ short, quote, written ++ quote :: ':' :: r, by simp,
    fun c there => ?_, fun l cursor at_ => ?_⟩
  · cases there
    exact solid quote rfl
  · have here : cursor.rest = quote :: (written ++ quote :: ':' :: r) := by simpa using at_.text
    rw [which here, size]
    exact quoted_gives at_.pending (read here)

section

variable {s : Scalar} {indent column : Nat} {r : List Char}

theorem readsKey_plain (nonempty : s.text ≠ []) (allowed : Scalar.allowsPlain s.text = true)
    (short : s.text.length ≤ longestKey) (gap : atGap r = true) (left : margin blocks ≤ col + 1) :
    ReadsKey blocks made col s.text r s.text true := by
  obtain ⟨c, rest, start, solid, which⟩ :=
    token_plain false 0 0 false nonempty allowed (.inl rfl : Follows (':' :: r))
  rw [Plain.foldPlain_false] at start
  have read (cursor : Cursor) (column : cursor.column = col)
      (here : cursor.rest = s.text ++ ':' :: r) :=
    Plain.plainScalar_key nonempty allowed here gap (column ▸ left)
  have onLine := (read ⟨s.text ++ ':' :: r, 0, col, 0⟩ rfl rfl).1
  refine ⟨nonempty, onLine, short, c, rest, start, solid, fun l cursor at_ => ?_⟩
  rw [which cursor (at_.text.trans start)]
  exact plain_gives at_.stands at_.pending (read cursor at_.column at_.text).2

theorem readsKey_single (allowed : Scalar.allowsSingle s.text = true)
    (noLineFeed : '\n' ∉ s.text) (noNextLine : '\x85' ∉ s.text)
    (oneLine : Scalar.isMultiline s.text = false) (short : s.text.length ≤ 100)
    (indented : 0 < indent) :
    ReadsKey blocks made col
      ('\'' :: Scalar.foldSingle false indent (column + 1) none s.text ++ ['\'']) r s.text
      false := by
  have plainChars : OnLine s.text := by
    intro c there
    refine ⟨by simpa using List.any_eq_false.mp oneLine c there, ?_⟩
    rintro rfl
    simp only [Scalar.allowsSingle, Bool.not_eq_true', Bool.or_eq_false_iff] at allowed
    exact absurd (List.any_eq_false.mp allowed.2 _ there) (by decide)
  obtain ⟨onLine, size⟩ := Quote.foldSingle_onLine indent s.text (column + 1) none plainChars
  refine readsKey_quoted token_single (fun c there => ?_) (.append (.cons (by decide) onLine)
    (.cons (by decide) .nil)) (by simp only [longestKey]; omega) fun here => ?_
  · cases there
    decide
  · obtain ⟨cursor', -, -, same, gives⟩ := Quote.quotedScalar_single allowed noLineFeed
      noNextLine indented (by simp) here
    exact same onLine ▸ gives

theorem readsKey_double (short : s.text.length ≤ 100) (indented : 0 < indent)
    (narrow : indent + 1 ≤ Scalar.lineWidth) :
    ReadsKey blocks made col
      ('"' :: Scalar.foldDouble false indent (column + 1) true true s.text ++ ['"']) r s.text
      false := by
  obtain ⟨onLine, size⟩ := Quote.foldDouble_onLine indent s.text (column + 1) true true
  refine readsKey_quoted token_double (fun c there => ?_) (.append (.cons (by decide) onLine)
    (.cons (by decide) .nil)) (by simp only [longestKey]; omega) fun here => ?_
  · cases there
    decide
  · obtain ⟨cursor', -, -, same, gives⟩ := Quote.quotedScalar_double narrow indented
      (by simp) here
    exact same onLine ▸ gives

/-- **A key that stays on its line is read up to its colon.** -/
theorem readsKey (untagged : s.IsUntagged) (nonempty : s.text ≠ [])
    (oneLine : Scalar.isMultiline s.text = false) (short : s.text.length ≤ 100)
    (gap : atGap r = true) (left : margin blocks ≤ col + 1) (indented : 0 < indent)
    (narrow : indent + 1 ≤ Scalar.lineWidth) :
    ReadsKey blocks made col (s.write true indent column) r s.text
      (decide (s.style true = .plain)) := by
  have noTag := untagged.needsTag true
  cases style : s.style true with
  | plain =>
      rw [style] at noTag
      obtain ⟨-, allowed, -⟩ := untagged.plain style
      have written : s.write true indent column = s.text := by
        simp [Scalar.write, noTag, style, Plain.foldPlain_false]
      rw [written]
      exact readsKey_plain nonempty allowed (Nat.le_trans short (by decide)) gap left
  | single =>
      rw [style] at noTag
      obtain ⟨-, allowed, noLineFeed, noNextLine⟩ := untagged.single style
      have written : s.write true indent column =
          '\'' :: Scalar.foldSingle false indent (column + 1) none s.text ++ ['\''] := by
        simp [Scalar.write, noTag, style]
      rw [written]
      exact readsKey_single allowed noLineFeed noNextLine oneLine short indented
  | double =>
      rw [style] at noTag
      have written : s.write true indent column =
          '"' :: Scalar.foldDouble false indent (column + 1) true true s.text ++ ['"'] := by
        simp [Scalar.write, noTag, style]
      rw [written]
      exact readsKey_double short indented narrow
  | literal =>
      obtain ⟨impossible, -⟩ := untagged.literal style
      cases impossible

end

section

variable {w text : List Char} {isPlain : Bool} {k : Nat}

/-- A key with its value on the same line. -/
theorem ReadsKey.leads_here (key : ReadsKey blocks made col w (' ' :: body) text isPlain)
    (opens : Opens col blocks blocks' isNew) (solid : Solid body) :
    Leads ⟨blocks, made, true, col, w ++ ':' :: ' ' :: body⟩
      ⟨blocks', made ++ startOf .blockMappingStart isNew ++
        [.key, .scalar text isPlain, .value], false, col + w.length + 2, body⟩ := by
  refine key.leads rfl opens fun l cursor stands allows nothing here column => ?_
  obtain ⟨outer, rfl⟩ := opens.head
  have toward := toward_here (j := 1) cursor stands (by simp [nothing]) here solid
  rw [column, allows, kept_of_le (by omega), ends_of_le (by omega), List.append_nil] at toward
  exact toward

/-- A key with its value on the next line. -/
theorem ReadsKey.leads_line
    (key : ReadsKey blocks made col w ('\n' :: (List.replicate k ' ' ++ body)) text isPlain)
    (opens : Opens col blocks blocks' isNew) (right : col ≤ k) (solid : Solid body) :
    Leads ⟨blocks, made, true, col, w ++ ':' :: '\n' :: (List.replicate k ' ' ++ body)⟩
      ⟨blocks', made ++ startOf .blockMappingStart isNew ++
        [.key, .scalar text isPlain, .value], true, k, body⟩ := by
  refine key.leads rfl opens fun l cursor stands allows nothing here column => ?_
  obtain ⟨outer, rfl⟩ := opens.head
  have toward := toward_line .nil cursor stands (by simp [nothing]) here solid
  rw [kept_of_le right, ends_of_le right, List.append_nil] at toward
  exact toward

end

end Lex

end Conveyor.Yaml
