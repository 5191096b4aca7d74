import Conveyor.Proofs.Yaml.Data
import Conveyor.Proofs.Yaml.Restoring

/-!
# Sheets

A sheet is a YAML text as people lay it out: words that are plain or between quotation marks,
mappings, and lists that are indented below their keys, with empty lines and comments behind the
words. It is read as the value that it lays out, and fails to be read if it lays out none
(`read_sheet`): a plain word stands for whatever its form says, which may be a text, a truth value,
a number or a date, or nothing where the date is none of the calendar.
-/

set_option autoImplicit false

namespace Conveyor.Yaml

/-- A value laid out on lines: a text with the lines behind it that hold no token, a list, or a
mapping with its keys. -/
inductive Sheet where
  | scalar (quoted : Bool) (text after : List Char)
  | items (xs : List Sheet)
  | entries (es : List (List Char × Sheet))

/-- A text that may be written without quotes. -/
structure IsPlain (s : List Char) : Prop where
  nonempty : s ≠ []
  allowed : Scalar.allowsPlain s = true

theorem IsPlain.printed {s : List Char} (plain : IsPlain s) : s.all isPrinted = true := by
  have allowed := plain.allowed
  simp only [Scalar.allowsPlain, Bool.not_eq_true', Bool.or_eq_false_iff] at allowed
  exact Scalar.all_isPrinted_of_usual allowed.1.2

/-- A text that stands for itself without quotes. -/
structure IsPlainText (s : List Char) : Prop extends IsPlain s where
  typed : implicitTag s = .str

instance (s : List Char) : Decidable (IsPlainText s) :=
  decidable_of_iff (s ≠ [] ∧ Scalar.allowsPlain s = true ∧ implicitTag s = .str)
    ⟨fun ⟨nonempty, allowed, typed⟩ => ⟨⟨nonempty, allowed⟩, typed⟩,
      fun ⟨⟨nonempty, allowed⟩, typed⟩ => ⟨nonempty, allowed, typed⟩⟩

/-- The types of words. Decimals are left out: which of them are the same depends on their nodes. -/
def wordTags : List Tag := [.str, .bool, .int, .null, .timestamp]

/-- A text that stands for some value of its own without quotes, if for any. -/
structure IsPlainWord (s : List Char) : Prop extends IsPlain s where
  typed : implicitTag s ∈ wordTags

theorem IsPlainText.isPlainWord {s : List Char} (plain : IsPlainText s) : IsPlainWord s :=
  ⟨plain.toIsPlain, by simp [plain.typed, wordTags]⟩

/-- The value that a text stands for without quotes, if there is one. -/
def wordValue? (s : List Char) : Option Value :=
  (Node.scalarValue (implicitTag s) (.scalar 0 (implicitTag s) s)).toOption

/-- A text by its form stands for itself. -/
theorem wordValue?_of_text {s : List Char} (typed : implicitTag s = .str) :
    wordValue? s = some (.text (String.ofList s)) := by
  simp [wordValue?, typed, Node.scalarValue, Node.scalarText, Except.toOption]

/-- A date or a moment is no text. -/
theorem timestamp_ne_text (s : List Char) (text : String) :
    Content.timestamp s ≠ .ok (.text text) := by
  intro read
  unfold Content.timestamp at read
  split at read
  · cases read
  · split at read
    · obtain ⟨-, -, made⟩ := bind_eq_ok_iff.mp read
      cases made
    · obtain ⟨zone, -, read⟩ := bind_eq_ok_iff.mp read
      dsimp only at read
      obtain ⟨-, -, read⟩ := bind_eq_ok_iff.mp read
      obtain ⟨-, -, made⟩ := bind_eq_ok_iff.mp read
      cases made

theorem ofContent_ne_text {α : Type} {f : α → Value} {x : Except Mismatch α} {text : String}
    (other : ∀ a, x = .ok a → f a ≠ .text text) : Node.ofContent f x ≠ .ok (.text text) := by
  cases x with
  | ok a => exact fun same => other a rfl (Except.ok.inj same)
  | error m => exact nofun

/-- Only a text by its form stands for a text. -/
theorem typed_of_wordValue? {s : List Char} (word : IsPlainWord s) {text : String}
    (found : wordValue? s = some (.text text)) : implicitTag s = .str := by
  have read : Node.scalarValue (implicitTag s) (.scalar 0 (implicitTag s) s) =
      .ok (.text text) := by
    unfold wordValue? at found
    cases made : Node.scalarValue (implicitTag s) (.scalar 0 (implicitTag s) s) with
    | ok v =>
        rw [made] at found
        rw [Option.some.inj found]
    | error f =>
        rw [made] at found
        cases found
  have typed := word.typed
  simp only [wordTags, List.mem_cons, List.not_mem_nil, or_false] at typed
  -- A word of any other type is read as a value of another kind, or as none.
  rcases typed with tag | tag | tag | tag | tag
  · exact tag
  all_goals rw [tag] at read
  · exact absurd read (ofContent_ne_text fun _ _ => nofun)
  · exact absurd read (ofContent_ne_text fun _ _ => nofun)
  · cases read
  · exact absurd read (ofContent_ne_text fun v made same =>
      timestamp_ne_text s text (made.trans (congrArg _ same)))

namespace Sheet

/-- What stands between a key and the first line of its value. -/
def lead (column : Nat) : Sheet → List Char
  | .scalar .. => [' ']
  | .items _ | .entries _ => '\n' :: pad (column + 2)

mutual

/-- The lines of a sheet whose block starts at a column. -/
def lines (column : Nat) : Sheet → List Char
  | .scalar quoted text after =>
    (if quoted then '"' :: (text ++ ['"']) else text) ++ '\n' :: after
  | .items xs => itemLines column true xs
  | .entries es => entryLines column true es

/-- The lines of the items of a list. -/
def itemLines (column : Nat) (first : Bool) : List Sheet → List Char
  | [] => []
  | x :: xs =>
    (if first then [] else pad column) ++ '-' :: ' ' :: lines (column + 2) x
      ++ itemLines column false xs

/-- The lines of the entries of a mapping. -/
def entryLines (column : Nat) (first : Bool) : List (List Char × Sheet) → List Char
  | [] => []
  | (key, x) :: es =>
    (if first then [] else pad column) ++ (key ++ ':' :: (lead column x ++ lines (column + 2) x))
      ++ entryLines column false es

end

mutual

/-- The value that a sheet lays out, if each of its texts stands for one. -/
def value? : Sheet → Option Value
  | .scalar quoted text _ =>
    if quoted then some (.text (String.ofList text)) else wordValue? text
  | .items xs => (values? xs).map .list
  | .entries es => (rows? es).map .map

/-- The values of the items of a list. -/
def values? : List Sheet → Option (List Value)
  | [] => some []
  | x :: xs => do return (← value? x) :: (← values? xs)

/-- The rows of the entries of a mapping. -/
def rows? : List (List Char × Sheet) → Option (List (Value × Value))
  | [] => some []
  | (key, x) :: es => do return (.text (String.ofList key), ← value? x) :: (← rows? es)

end

mutual

/-- The tokens of a sheet. -/
def tokens : Sheet → List Token
  | .scalar quoted text _ => [.scalar text (!quoted)]
  | .items xs => .blockSequenceStart :: (itemTokens xs ++ [.blockEnd])
  | .entries es => .blockMappingStart :: (entryTokens es ++ [.blockEnd])

/-- The tokens of the items of a list. -/
def itemTokens : List Sheet → List Token
  | [] => []
  | x :: xs => .blockEntry :: (tokens x ++ itemTokens xs)

/-- The tokens of the entries of a mapping. -/
def entryTokens : List (List Char × Sheet) → List Token
  | [] => []
  | (key, x) :: es => .key :: .scalar key true :: .value :: (tokens x ++ entryTokens es)

end

mutual

/-- A sheet of words, in which collections are nested up to a depth; none of them is empty, and no
mapping has a key twice. Its keys stand for themselves. -/
def Regular (room : Nat) : Sheet → Prop
  | .scalar quoted text after =>
    (if quoted then text.any Scalar.isEscaped = false else IsPlainWord text) ∧
      Interlude after ∧ after.all isPrinted = true
  | .items xs => 0 < room ∧ xs ≠ [] ∧ RegularItems (room - 1) xs
  | .entries es =>
    0 < room ∧ es ≠ [] ∧ (es.map (·.1)).Nodup ∧ RegularEntries (room - 1) es

/-- The items of a regular list. -/
def RegularItems (room : Nat) : List Sheet → Prop
  | [] => True
  | x :: xs => Regular room x ∧ RegularItems room xs

/-- The entries of a regular mapping. -/
def RegularEntries (room : Nat) : List (List Char × Sheet) → Prop
  | [] => True
  | (key, x) :: es =>
    (IsPlainText key ∧ key.length ≤ longestKey) ∧ Regular room x ∧ RegularEntries room es

end

theorem regularItems_iff (room : Nat) (xs : List Sheet) :
    RegularItems room xs ↔ ∀ x ∈ xs, Regular room x := by
  induction xs with
  | nil => simp [RegularItems]
  | cons x xs ih => simp [RegularItems, ih]

theorem values?_eq_some_iff {xs : List Sheet} {vs : List Value} :
    values? xs = some vs ↔ List.Forall₂ (fun x v => x.value? = some v) xs vs := by
  induction xs generalizing vs with
  | nil => simp [values?, eq_comm]
  | cons x xs ih =>
      simp only [values?, Option.bind_eq_bind, Option.bind_eq_some_iff, Option.pure_def,
        Option.some.injEq, List.forall₂_cons_left_iff, ih]
      constructor
      · rintro ⟨v, here, more, there, rfl⟩
        exact ⟨v, more, here, there, rfl⟩
      · rintro ⟨v, more, here, there, rfl⟩
        exact ⟨v, here, more, there, rfl⟩

theorem rows?_eq_some_iff {es : List (List Char × Sheet)} {rows : List (Value × Value)} :
    rows? es = some rows ↔ List.Forall₂ (fun e row =>
      row.1 = .text (String.ofList e.1) ∧ e.2.value? = some row.2) es rows := by
  induction es generalizing rows with
  | nil => simp [rows?, eq_comm]
  | cons e es ih =>
      simp only [rows?, Option.bind_eq_bind, Option.bind_eq_some_iff, Option.pure_def,
        Option.some.injEq, List.forall₂_cons_left_iff, ih]
      constructor
      · rintro ⟨v, here, more, there, rfl⟩
        exact ⟨(_, v), more, ⟨rfl, here⟩, there, rfl⟩
      · rintro ⟨⟨_, v⟩, more, ⟨rfl, here⟩, there, rfl⟩
        exact ⟨v, here, more, there, rfl⟩

/-- Every entry has a value, which is found under its key. -/
theorem exists_field_of_rows? {es : List (List Char × Sheet)} {rows : List (Value × Value)}
    (found : rows? es = some rows) {key : String} {e : List Char × Sheet}
    (there : es.find? (fun e => e.1 = key.toList) = some e) :
    ∃ v, e.2.value? = some v ∧ Value.field key rows = some v := by
  have each := rows?_eq_some_iff.mp found
  clear found
  induction each with
  | nil => cases there
  | @cons e' row _ _ here _ ih =>
      obtain ⟨name, v⟩ := row
      obtain ⟨rfl, value⟩ := here
      rw [Value.field_cons]
      by_cases isKey : e'.1 = key.toList
      · rw [List.find?_cons_of_pos (by simpa using isKey), Option.some.injEq] at there
        subst there
        exact ⟨v, value, if_pos (by simp [isKey])⟩
      · rw [List.find?_cons_of_neg (by simpa using isKey)] at there
        have other : String.ofList e'.1 ≠ key := fun same =>
          isKey (by rw [← same, String.toList_ofList])
        rw [if_neg (by simpa using other)]
        exact ih there

/-- The rows of a mapping have its keys, each of them once if they are different. -/
theorem distinct_of_rows? {es : List (List Char × Sheet)} {rows : List (Value × Value)}
    (distinct : (es.map (·.1)).Nodup) (found : rows? es = some rows) :
    rows.Pairwise fun a b => a.1.same b.1 = false := by
  have keys : rows.map (·.1) = (es.map (·.1)).map fun key => .text (String.ofList key) := by
    rw [List.map_map]
    have each := rows?_eq_some_iff.mp found
    clear found distinct
    induction each with
    | nil => rfl
    | cons here _ ih => rw [List.map_cons, List.map_cons, ih, here.1]; rfl
  have apart : (rows.map (·.1)).Pairwise fun a b => a.same b = false := by
    rw [keys, List.pairwise_map]
    refine distinct.imp fun differs => ?_
    rw [Value.same_text_right_eq_false]
    simpa [String.ofList_inj] using differs
  exact List.pairwise_map.mp apart

/-! ## From text to tokens -/

open Conveyor.Yaml.Lex Conveyor.Yaml.Tree

variable {room indent : Nat} {outer blocks : List Nat} {isNew : Bool}

/-- Characters that need no escape are written as they are. -/
theorem foldDouble_false (fold_indent : Nat) {s : List Char}
    (usual : s.any Scalar.isEscaped = false) (column : Nat) (first fresh : Bool) :
    Scalar.foldDouble false fold_indent column first fresh s = s := by
  induction s generalizing column first fresh with
  | nil => rfl
  | cons c s ih =>
      rw [List.any_cons, Bool.or_eq_false_iff] at usual
      rw [Scalar.foldDouble]
      simp [usual.1, ih usual.2]

theorem scalar_passes {quoted : Bool} {text after : List Char} {col : Nat}
    (regular : Regular room (.scalar quoted text after)) (right : indent < col) (allows : Bool)
    (column : Nat) :
    Passes (indent :: outer) allows col (lines column (.scalar quoted text after)) indent outer
      (tokens (.scalar quoted text after)) := by
  rw [Regular] at regular
  obtain ⟨written, interlude, -⟩ := regular
  have left : margin (indent :: outer) ≤ col := right
  rw [lines, tokens]
  cases quoted with
  | true =>
      simp only [if_true] at written ⊢
      refine ⟨fun r c there => ?_, fun made k body below solid => ?_⟩
      · cases there
        decide
      · have read {cursor : Cursor} {tail : List Char} (noQuote : tail.head? ≠ some '\'')
            (here : cursor.rest = '"' :: (text ++ '"' :: tail)) : ∃ cursor', cursor'.rest = tail ∧
              cursor.line ≤ cursor'.line ∧ (quotedScalar true).Gives cursor text cursor' := by
          rw [← foldDouble_false 1 written 0 true true] at here
          obtain ⟨cursor', rest, line, -, gives⟩ :=
            Quote.quotedScalar_double (by decide) Nat.zero_lt_one noQuote here
          exact ⟨cursor', rest, line, gives⟩
        have leads : Leads ⟨indent :: outer, made, allows, col, '"' :: (text ++ '"' :: '\n' ::
            (after ++ (List.replicate k ' ' ++ body)))⟩ _ :=
          quoted_leads token_double read left interlude solid
        simpa using leads
  | false =>
      simp only [Bool.false_eq_true, if_false] at written ⊢
      have fold (s : List Char) : Scalar.foldPlain false (indent + 2) 0 false s = s :=
        Plain.foldPlain_false s 0 false
      refine ⟨fun r => ?_, fun made k body below solid => ?_⟩
      · have follows : Follows ('\n' :: (after ++ r)) := .inr rfl
        obtain ⟨c, rest, start, solid, -⟩ :=
          token_plain false (indent + 2) 0 false written.nonempty written.allowed follows
        rw [fold] at start
        simpa [start] using solid
      · have leads : Leads ⟨indent :: outer, made, allows, col,
            Scalar.foldPlain false (indent + 2) 0 false text ++
              '\n' :: (after ++ (List.replicate k ' ' ++ body))⟩ _ :=
          plain_leads written.nonempty written.allowed left (by simp [margin])
            (.inl (Nat.lt_succ_of_le below)) interlude solid
        rw [fold] at leads
        simpa using leads

/-- A sheet passes behind a sign; a text passes behind a key as well. -/
def IsPassed (x : Sheet) : Prop :=
  ∀ indent outer allows col, indent < col →
    (x.lead indent = [' '] ∨ allows = true ∧ col = indent + 2) →
    Passes (indent :: outer) allows col (x.lines (indent + 2)) indent outer x.tokens

/-- The items of a list pass where their block opens or goes on. -/
def AreItemsPassed (xs : List Sheet) : Prop :=
  ∀ indent blocks outer isNew, xs ≠ [] → Opens indent blocks (indent :: outer) isNew →
    Passes blocks true indent (itemLines indent true xs) indent outer
      (startOf .blockSequenceStart isNew ++ itemTokens xs)

/-- The entries of a mapping pass where their block opens or goes on. -/
def AreEntriesPassed (es : List (List Char × Sheet)) : Prop :=
  ∀ indent blocks outer isNew, es ≠ [] → Opens indent blocks (indent :: outer) isNew →
    Passes blocks true indent (entryLines indent true es) indent outer
      (startOf .blockMappingStart isNew ++ entryTokens es)

theorem isPassed_items {xs : List Sheet} (some_ : xs ≠ []) (passed : AreItemsPassed xs) :
    IsPassed (.items xs) := by
  rintro indent outer allows col right (scalar | ⟨rfl, rfl⟩)
  · cases scalar
  · have passes := passed (indent + 2) (indent :: outer) (indent :: outer) true some_
      (opens_inner indent outer)
    rw [lines, tokens]
    simpa [startOf] using passes.close (by omega)

theorem isPassed_entries {es : List (List Char × Sheet)} (some_ : es ≠ [])
    (passed : AreEntriesPassed es) : IsPassed (.entries es) := by
  rintro indent outer allows col right (scalar | ⟨rfl, rfl⟩)
  · cases scalar
  · have passes := passed (indent + 2) (indent :: outer) (indent :: outer) true some_
      (opens_inner indent outer)
    rw [lines, tokens]
    simpa [startOf] using passes.close (by omega)

theorem itemLines_false (column : Nat) (x : Sheet) (xs : List Sheet) :
    itemLines column false (x :: xs) = pad column ++ itemLines column true (x :: xs) := by
  simp [itemLines]

theorem entryLines_false (column : Nat) (e : List Char × Sheet) (es : List (List Char × Sheet)) :
    entryLines column false (e :: es) = pad column ++ entryLines column true (e :: es) := by
  simp [entryLines]

theorem itemLines_append (column : Nat) (first : Bool) (xs ys : List Sheet) :
    itemLines column first (xs ++ ys) =
      itemLines column first xs ++ itemLines column (first && xs.isEmpty) ys := by
  induction xs generalizing first with
  | nil => simp [itemLines]
  | cons x xs ih => simp [itemLines, ih]

theorem entryLines_append (column : Nat) (first : Bool) (es fs : List (List Char × Sheet)) :
    entryLines column first (es ++ fs) =
      entryLines column first es ++ entryLines column (first && es.isEmpty) fs := by
  induction es generalizing first with
  | nil => simp [entryLines]
  | cons e es ih => simp [entryLines, ih]

theorem areItemsPassed_cons {x : Sheet} {xs : List Sheet} (item : IsPassed x)
    (items : AreItemsPassed xs) : AreItemsPassed (x :: xs) := by
  intro indent blocks outer isNew _ opens
  have first := (item indent outer true (indent + 2) (by omega) (.inr ⟨rfl, rfl⟩)).hyphen opens
  cases xs with
  | nil => simpa [itemLines, itemTokens] using first
  | cons x' xs =>
      have both := first.cons (items indent (indent :: outer) outer false (by simp) (.same outer))
      rw [itemLines, itemLines_false, itemTokens]
      simpa [startOf] using both

theorem entry_passes {key : List Char} {x : Sheet} (plain : IsPlainText key)
    (short : key.length ≤ longestKey) (value : IsPassed x)
    (opens : Opens indent blocks (indent :: outer) isNew) :
    Passes blocks true indent (key ++ ':' :: (x.lead indent ++ x.lines (indent + 2))) indent outer
      (startOf .blockMappingStart isNew ++
        .key :: .scalar key true :: .value :: x.tokens) := by
  have reads made r (gap : atGap r = true) : ReadsKey blocks made indent key r key true :=
    readsKey_plain (s := ⟨key, .str, false⟩) plain.nonempty plain.allowed short gap
      (margin_le_of_opens opens)
  have below (inner : Passes (indent :: outer) true (indent + 2) (x.lines (indent + 2)) indent
      outer x.tokens) : Passes blocks true indent (key ++ ':' :: '\n' :: pad (indent + 2) ++
        x.lines (indent + 2)) indent outer
      (startOf .blockMappingStart isNew ++ .key :: .scalar key true :: .value :: x.tokens) :=
    .key_line reads opens (by omega) inner
  cases x with
  | scalar quoted text after =>
      exact .key_here reads opens (value indent outer false _ (by omega) (.inl rfl))
  | items xs =>
      simpa [lead] using below (value indent outer true _ (by omega) (.inr ⟨rfl, rfl⟩))
  | entries es =>
      simpa [lead] using below (value indent outer true _ (by omega) (.inr ⟨rfl, rfl⟩))

theorem areEntriesPassed_cons {key : List Char} {x : Sheet} {es : List (List Char × Sheet)}
    (plain : IsPlainText key) (short : key.length ≤ longestKey) (value : IsPassed x)
    (entries : AreEntriesPassed es) : AreEntriesPassed ((key, x) :: es) := by
  intro indent blocks outer isNew _ opens
  have first := entry_passes plain short value opens
  cases es with
  | nil => simpa [entryLines, entryTokens] using first
  | cons e es =>
      have both := first.cons (entries indent (indent :: outer) outer false (by simp) (.same outer))
      rw [entryLines, entryLines_false, entryTokens]
      simpa [startOf] using both

mutual

/-- **A regular sheet passes.** -/
theorem isPassed : ∀ {room : Nat} {x : Sheet}, Regular room x → IsPassed x
  | _, .scalar _ _ _, regular => fun _ _ allows _ right _ =>
      scalar_passes regular right allows _
  | _, .items xs, regular => by
      rw [Regular] at regular
      exact isPassed_items regular.2.1 (areItemsPassed regular.2.2)
  | _, .entries es, regular => by
      rw [Regular] at regular
      exact isPassed_entries regular.2.1 (areEntriesPassed regular.2.2.2)

theorem areItemsPassed : ∀ {room : Nat} {xs : List Sheet}, RegularItems room xs →
    AreItemsPassed xs
  | _, [], _ => fun _ _ _ _ some_ => absurd rfl some_
  | _, x :: xs, regular => by
      rw [RegularItems] at regular
      exact areItemsPassed_cons (isPassed regular.1) (areItemsPassed regular.2)

theorem areEntriesPassed : ∀ {room : Nat} {es : List (List Char × Sheet)},
    RegularEntries room es → AreEntriesPassed es
  | _, [], _ => fun _ _ _ _ some_ => absurd rfl some_
  | _, (key, x) :: es, regular => by
      rw [RegularEntries] at regular
      exact areEntriesPassed_cons regular.1.1 regular.1.2 (isPassed regular.2.1)
        (areEntriesPassed regular.2.2)

end

/-! ## From tokens to a value -/

open Conveyor.Yaml.Node

/-- What is found at any depth: a result, if there is one. -/
def Finds {α : Type} (f : Nat → Findings α) (x : Option α) : Prop :=
  ∀ depth a, f depth = .ok a ↔ x = some a

theorem finds_word {s : List Char} (typed : implicitTag s ∈ wordTags) (number : Nat) :
    Finds (fun depth => (Node.scalar number (implicitTag s) s).value depth) (wordValue? s) := by
  intro depth v
  have same : Node.scalarValue (implicitTag s) (.scalar number (implicitTag s) s) =
      Node.scalarValue (implicitTag s) (.scalar 0 (implicitTag s) s) := by
    simp only [wordTags, List.mem_cons, List.not_mem_nil, or_false] at typed
    rcases typed with tag | tag | tag | tag | tag <;> rw [tag] <;> rfl
  have shape : Node.shapeOf (implicitTag s) = .scalar := by
    simp only [wordTags, List.mem_cons, List.not_mem_nil, or_false] at typed
    rcases typed with tag | tag | tag | tag | tag <;> rw [tag] <;> rfl
  dsimp only
  rw [Node.value, shape, wordValue?]
  dsimp only
  rw [Node.scalarFinding, same]
  cases Node.scalarValue (implicitTag s) (.scalar 0 (implicitTag s) s) with
  | ok w => simp [Except.toOption]
  | error f => simp [Except.toOption]

theorem finds_sequence {ys : List Node} {values : Option (List Value)}
    (finds : Finds (fun depth => Node.itemValues depth ys) values) (number : Nat) :
    Finds (fun depth => (Node.sequence number .seq ys).value depth) (values.map .list) := by
  intro depth v
  dsimp only
  rw [Node.value]
  dsimp only [Node.shapeOf]
  rw [Findings.map_eq_ok_iff, Option.map_eq_some_iff]
  simp only [finds (depth + 1)]

/-- One more item. -/
theorem finds_cons {y : Node} {ys : List Node} {v : Option Value} {vs : Option (List Value)}
    (value : Finds (fun depth => y.value depth) v)
    (more : Finds (fun depth => Node.itemValues depth ys) vs) :
    Finds (fun depth => Node.itemValues depth (y :: ys)) (do return (← v) :: (← vs)) := by
  intro depth values
  dsimp only
  rw [Node.itemValues]
  simp only [Findings.both_eq_ok_iff, value depth, more depth, Option.bind_eq_bind,
    Option.bind_eq_some_iff, Option.pure_def, Option.some.injEq]
  constructor
  · rintro ⟨v, vs, here, there, rfl⟩
    exact ⟨v, here, vs, there, rfl⟩
  · rintro ⟨v, here, vs, there, rfl⟩
    exact ⟨v, vs, here, there, rfl⟩

/-- Entries of nodes, none of which takes over others, stand for the rows of a mapping. -/
structure FindRows (ys : List (Node × Node)) (rows : Option (List (Value × Value))) : Prop where
  merges : Node.mergesWell ys = true
  taken : ∀ depth, Node.takenRows depth ys = .ok []
  own : Finds (fun depth => Node.ownRows depth ys) rows

theorem finds_mapping {ys : List (Node × Node)} {rows : Option (List (Value × Value))}
    (distinct : ∀ es, rows = some es → es.Pairwise fun a b => a.1.same b.1 = false)
    (finds : FindRows ys rows) (number : Nat) :
    Finds (fun depth => (Node.mapping number .map ys).value depth) (rows.map .map) := by
  intro depth v
  dsimp only
  rw [Node.value]
  dsimp only [Node.shapeOf]
  rw [if_pos finds.merges, finds.taken, Findings.both_eq_ok_iff, Option.map_eq_some_iff]
  simp only [finds.own (depth + 1), Except.ok.injEq]
  constructor
  · rintro ⟨_, es, rfl, found, rfl⟩
    rw [List.nil_append, Value.ofRows_of_distinct (distinct es found)]
    exact ⟨es, found, rfl⟩
  · rintro ⟨es, found, rfl⟩
    refine ⟨[], es, rfl, found, ?_⟩
    rw [List.nil_append, Value.ofRows_of_distinct (distinct es found)]

theorem findRows_nil : FindRows [] (some []) :=
  ⟨rfl, fun _ => rfl, fun _ _ => by simp [Node.ownRows]⟩

/-- One more entry, whose key is a text. -/
theorem FindRows.cons {ys : List (Node × Node)} {rows : Option (List (Value × Value))}
    {number : Nat} {key : List Char} {v : Option Value} {y : Node}
    (value : Finds (fun depth => y.value depth) v) (more : FindRows ys rows) :
    FindRows ((.scalar number .str key, y) :: ys)
      (do return (.text (String.ofList key), ← v) :: (← rows)) := by
  have noMerge : ¬(Node.scalar number .str key).tag = .merge := by simp [Node.tag]
  refine ⟨by rw [Node.mergesWell, more.merges]; rfl, fun depth => ?_, fun depth es => ?_⟩
  · rw [Node.takenRows, if_neg noMerge]
    exact more.taken depth
  · dsimp only
    rw [Node.ownRows, if_neg noMerge]
    · rw [Node.value_text]
      show Findings.both _ _ _ = _ ↔ _
      simp only [Findings.both_eq_ok_iff, value depth, more.own depth, Option.bind_eq_bind,
        Option.bind_eq_some_iff, Option.pure_def, Option.some.injEq]
      constructor
      · rintro ⟨v, rows, here, there, rfl⟩
        exact ⟨v, here, rows, there, rfl⟩
      · rintro ⟨v, here, rows, there, rfl⟩
        exact ⟨v, rows, here, there, rfl⟩
    · intro number s isValue
      cases isValue

theorem exists_tokens_cons (x : Sheet) : ∃ first more, x.tokens = first :: more ∧
    startsNode first = true ∧ first ≠ .blockEntry := by
  cases x <;> exact ⟨_, _, by rw [tokens], rfl, by simp⟩

/-- A node is read where a sheet stands, if there is fuel enough for its tokens; it denotes the
value of the sheet, if there is one. -/
def IsRead (room : Nat) (x : Sheet) : Prop :=
  ∀ belowKey rest met depth n, depth + room ≤ Node.deepest → 2 * x.tokens.length + 2 ≤ n →
    ∃ y met', (node n true belowKey).Gives (source (x.tokens ++ rest) met depth) y
      (source rest met' depth) ∧ Finds (fun depth => y.value depth) x.value?

/-- The items of a list are read up to a token that does not go on with it. -/
def AreItemsRead (room : Nat) (xs : List Sheet) : Prop :=
  ∀ (rest : List Token) met depth n, rest.head? ≠ some .blockEntry → depth + room ≤ Node.deepest →
    2 * (itemTokens xs).length + 1 ≤ n →
    ∃ ys met', (Node.items n true).Gives (source (itemTokens xs ++ rest) met depth) ys
      (source rest met' depth) ∧ Finds (fun depth => Node.itemValues depth ys) (values? xs)

/-- The entries of a mapping are read up to a token that does not go on with it. -/
def AreEntriesRead (room : Nat) (es : List (List Char × Sheet)) : Prop :=
  ∀ (rest : List Token) met depth n, rest.head? ≠ some .key → depth + room ≤ Node.deepest →
    2 * (entryTokens es).length + 1 ≤ n →
    ∃ ys met', (Node.entries n).Gives (source (entryTokens es ++ rest) met depth) ys
      (source rest met' depth) ∧ FindRows ys (rows? es)

theorem isRead_scalar {quoted : Bool} {text after : List Char}
    (regular : Regular room (.scalar quoted text after)) :
    IsRead room (.scalar quoted text after) := by
  intro belowKey rest met depth n _ enough
  obtain ⟨n, rfl⟩ : ∃ m, n = m + 1 := ⟨n - 1, by omega⟩
  have gives := node_scalar n belowKey text (!quoted) rest met depth
  rw [Regular] at regular
  rw [tokens]
  refine ⟨_, _, gives, ?_⟩
  rw [value?]
  cases quoted with
  | true =>
      intro depth v
      simp [Node.value_text]
  | false => simpa using finds_word (by simpa using regular.1.typed) (met + 1)

theorem isRead_items {xs : List Sheet} (some_ : 0 < room) (read : AreItemsRead (room - 1) xs) :
    IsRead room (.items xs) := by
  intro belowKey rest met depth n shallow enough
  obtain ⟨n, rfl⟩ : ∃ m, n = m + 1 := ⟨n - 1, by omega⟩
  rw [tokens] at enough ⊢
  simp only [List.length_cons, List.length_append, List.length_nil] at enough
  obtain ⟨ys, met', gives, finds⟩ := read (.blockEnd :: rest) (met + 1) (depth + 1) n (by simp)
    (by omega) (by omega)
  have gives' := node_sequence belowKey (by omega) gives
  rw [List.append_cons, ← List.cons_append] at gives'
  exact ⟨_, _, gives', by rw [value?]; exact finds_sequence finds _⟩

theorem isRead_entries {es : List (List Char × Sheet)} (some_ : 0 < room)
    (distinct : (es.map (·.1)).Nodup) (read : AreEntriesRead (room - 1) es) :
    IsRead room (.entries es) := by
  intro belowKey rest met depth n shallow enough
  obtain ⟨n, rfl⟩ : ∃ m, n = m + 1 := ⟨n - 1, by omega⟩
  rw [tokens] at enough ⊢
  simp only [List.length_cons, List.length_append, List.length_nil] at enough
  obtain ⟨ys, met', gives, finds⟩ := read (.blockEnd :: rest) (met + 1) (depth + 1) n (by simp)
    (by omega) (by omega)
  have gives' := node_mapping belowKey (by omega) gives
  rw [List.append_cons, ← List.cons_append] at gives'
  refine ⟨_, _, gives', ?_⟩
  rw [value?]
  exact finds_mapping (fun rows found => distinct_of_rows? distinct found) finds _

theorem areItemsRead_nil : AreItemsRead room [] := by
  intro rest met depth n ends _ enough
  obtain ⟨n, rfl⟩ : ∃ m, n = m + 1 := ⟨n - 1, by omega⟩
  exact ⟨[], met, items_nil ends _ _ _, fun _ _ => by simp [Node.itemValues, values?]⟩

theorem areItemsRead_cons {x : Sheet} {xs : List Sheet} (item : IsRead room x)
    (more : AreItemsRead room xs) : AreItemsRead room (x :: xs) := by
  intro rest met depth n ends shallow enough
  obtain ⟨n, rfl⟩ : ∃ m, n = m + 1 := ⟨n - 1, by omega⟩
  obtain ⟨first, rest', start, starts, noEntry⟩ := exists_tokens_cons x
  rw [itemTokens] at enough ⊢
  simp only [List.length_cons, List.length_append] at enough
  obtain ⟨y, met₁, gives, finds⟩ := item false (itemTokens xs ++ rest) met depth n shallow
    (by omega)
  obtain ⟨ys, met₂, gives', finds'⟩ := more rest met₁ depth n ends shallow (by omega)
  refine ⟨y :: ys, met₂, ?_, ?_⟩
  · rw [start] at gives ⊢
    simpa using items_cons starts noEntry gives gives'
  · rw [values?]
    exact finds_cons finds finds'

theorem areEntriesRead_nil : AreEntriesRead room [] := by
  intro rest met depth n ends _ enough
  obtain ⟨n, rfl⟩ : ∃ m, n = m + 1 := ⟨n - 1, by omega⟩
  exact ⟨[], met, entries_nil ends _ _, findRows_nil⟩

theorem areEntriesRead_cons {key : List Char} {x : Sheet} {es : List (List Char × Sheet)}
    (plain : IsPlainText key) (value : IsRead room x) (more : AreEntriesRead room es) :
    AreEntriesRead room ((key, x) :: es) := by
  intro rest met depth n ends shallow enough
  rw [entryTokens] at enough ⊢
  simp only [List.length_cons, List.length_append] at enough
  obtain ⟨n, rfl⟩ : ∃ m, n = m + 2 := ⟨n - 2, by omega⟩
  obtain ⟨first, rest', start, starts, -⟩ := exists_tokens_cons x
  have named := node_scalar n true key true (.value :: (x.tokens ++ (entryTokens es ++ rest))) met
    depth
  rw [if_pos rfl, plain.typed] at named
  obtain ⟨y, met₁, gives, finds⟩ := value true (entryTokens es ++ rest) (met + 1) depth (n + 1)
    shallow (by omega)
  obtain ⟨ys, met₂, gives', finds'⟩ := more rest met₁ depth (n + 1) ends shallow (by omega)
  refine ⟨(.scalar (met + 1) .str key, y) :: ys, met₂, ?_, ?_⟩
  · rw [start] at gives named ⊢
    have entry := entries_cons rfl starts named gives gives'
    simpa using entry
  · rw [rows?]
    exact finds'.cons finds

mutual

/-- **Recursive descent gives the value of every regular sheet.** -/
theorem isRead : ∀ {room : Nat} {x : Sheet}, Regular room x → IsRead room x
  | _, .scalar _ _ _, regular => isRead_scalar regular
  | _, .items xs, regular => by
      rw [Regular] at regular
      exact isRead_items regular.1 (areItemsRead regular.2.2)
  | _, .entries es, regular => by
      rw [Regular] at regular
      exact isRead_entries regular.1 regular.2.2.1 (areEntriesRead regular.2.2.2)

theorem areItemsRead : ∀ {room : Nat} {xs : List Sheet}, RegularItems room xs →
    AreItemsRead room xs
  | _, [], _ => areItemsRead_nil
  | _, x :: xs, regular => by
      rw [RegularItems] at regular
      exact areItemsRead_cons (isRead regular.1) (areItemsRead regular.2)

theorem areEntriesRead : ∀ {room : Nat} {es : List (List Char × Sheet)},
    RegularEntries room es → AreEntriesRead room es
  | _, [], _ => areEntriesRead_nil
  | _, (key, x) :: es, regular => by
      rw [RegularEntries] at regular
      exact areEntriesRead_cons regular.1.1 (isRead regular.2.1) (areEntriesRead regular.2.2)

end

/-! ## Documents -/

theorem all_isPrinted_scalar {quoted : Bool} {text after : List Char}
    (regular : Regular room (.scalar quoted text after)) (column : Nat) :
    (lines column (.scalar quoted text after)).all isPrinted = true := by
  rw [Regular] at regular
  obtain ⟨written, -, printed⟩ := regular
  have text_ : text.all isPrinted = true := by
    cases quoted with
    | true =>
        rw [List.all_eq_true]
        intro c there
        have usual := List.any_eq_false.mp written c there
        exact Scalar.isPrinted_of_not_isEscaped (by simpa using usual)
    | false => exact written.printed
  have quote : isPrinted '"' = true := by decide
  cases quoted <;> simp [lines, text_, printed, quote]

theorem all_isPrinted_lead (column : Nat) (x : Sheet) : (x.lead column).all isPrinted = true := by
  cases x <;> simp [lead]

mutual

theorem all_isPrinted_lines : ∀ {room : Nat} {x : Sheet}, Regular room x → ∀ column,
    (x.lines column).all isPrinted = true
  | _, .scalar _ _ _, regular, column => all_isPrinted_scalar regular column
  | _, .items xs, regular, column => by
      rw [Regular] at regular
      rw [lines]
      exact all_isPrinted_itemLines regular.2.2 column true
  | _, .entries es, regular, column => by
      rw [Regular] at regular
      rw [lines]
      exact all_isPrinted_entryLines regular.2.2.2 column true

theorem all_isPrinted_itemLines : ∀ {room : Nat} {xs : List Sheet}, RegularItems room xs →
    ∀ column first, (itemLines column first xs).all isPrinted = true
  | _, [], _, _, _ => rfl
  | _, x :: xs, regular, column, first => by
      rw [RegularItems] at regular
      have item := all_isPrinted_lines regular.1 (column + 2)
      have more := all_isPrinted_itemLines regular.2 column false
      cases first <;> simp [itemLines, item, more, isPrinted_signs]

theorem all_isPrinted_entryLines : ∀ {room : Nat} {es : List (List Char × Sheet)},
    RegularEntries room es → ∀ column first, (entryLines column first es).all isPrinted = true
  | _, [], _, _, _ => rfl
  | _, (key, x) :: es, regular, column, first => by
      rw [RegularEntries] at regular
      have name := regular.1.1.printed
      have value := all_isPrinted_lines regular.2.1 (column + 2)
      have more := all_isPrinted_entryLines regular.2.2 column false
      cases first <;>
        simp [entryLines, name, all_isPrinted_lead, value, more, isPrinted_signs]

end

/-- **A regular sheet is read as its value**, if it has one, also behind lines without a token; and
it is made of characters that a file keeps. -/
theorem read_sheet {heading : List Char} {es : List (List Char × Sheet)}
    (regular : Regular room (.entries es)) (shallow : room ≤ Node.deepest)
    (interlude : Interlude heading) (printed : heading.all isPrinted = true) :
    (heading ++ lines 0 (.entries es)).all isPrinted = true ∧ ∀ v,
      read (String.ofList (heading ++ lines 0 (.entries es))) = .ok v ↔
        value? (.entries es) = some v := by
  have printed' : (heading ++ lines 0 (.entries es)).all isPrinted = true := by
    rw [List.all_append, printed, all_isPrinted_lines regular 0]
    rfl
  have allowed : (heading ++ (lines 0 (.entries es) ++ [])).all isAllowed = true := by
    rw [List.append_nil, List.all_eq_true]
    exact fun c there => isAllowed_of_isPrinted (List.all_eq_true.mp printed' c there)
  refine ⟨printed', fun v => ?_⟩
  have isRead := isRead regular
  rw [Regular] at regular
  have passes := areEntriesPassed regular.2.2.2 0 [] [] true regular.2.1 opens_root
  have lexed : Lexed.ofText (heading ++ lines 0 (.entries es)) =
      ⟨tokens (.entries es) ++ [], none⟩ := by
    simpa [lines, tokens, startOf] using lexed_of_passes interlude isMark_nil passes allowed
  obtain ⟨x, found, finds⟩ := ofText_of_lexed lexed isMark_nil ⟨_, _, by rw [tokens], rfl⟩
    fun n enough => isRead false [] 0 0 n (by omega) enough
  rw [← finds 0 v]
  simp only [read, String.toList_ofList, found, bind, Except.bind]
  cases x.value 0 with
  | ok w =>
      show (pure w : Except Fault Value) = .ok v ↔ _
      rw [pure_eq_ok_iff, Except.ok.injEq]
  | error finding =>
      constructor
      · intro made
        cases made
      · intro found
        cases found

end Sheet

end Conveyor.Yaml
