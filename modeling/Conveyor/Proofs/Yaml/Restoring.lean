import Conveyor.Proofs.Value.Data
import Conveyor.Proofs.Yaml.Data
import Conveyor.Proofs.Yaml.Descent
import Conveyor.Proofs.Yaml.Printed
import Conveyor.Proofs.Yaml.Types

/-!
# What is written as YAML is read back

A tree of nulls, truth values, integers, texts, lists and mappings with short textual keys is
written as a text that holds just this tree.  Collections may be nested as deeply as there is room
for when the tree is written, however much that is; a tree that is nested deeper has no text.
-/

set_option autoImplicit false

namespace Conveyor

namespace Value

/-- A text without the next-line character, which a reader would take for a line feed. -/
def IsLine (s : String) : Prop := '\x85' ∉ s.toList

instance (s : String) : Decidable (IsLine s) := inferInstanceAs (Decidable (¬_))

/-- A key of a tree. -/
def IsName : Value → Prop
  | .text s => s.length ≤ Yaml.longestName ∧ IsLine s
  | _ => False

instance : (v : Value) → Decidable v.IsName
  | .text s => inferInstanceAs (Decidable (s.length ≤ Yaml.longestName ∧ IsLine s))
  | .null | .bool _ | .int _ | .float _ | .bytes _ | .date _ | .moment _ | .list _ | .tuple _
  | .map _ => isFalse id

mutual

/-- A value without floats, octets, dates and tuples, whose integers are not too long, whose texts
hold no next-line character and whose keys are different short texts. -/
def IsTree : Value → Prop
  | .null | .bool _ => True
  | .int n => (toString n.natAbs).length < Numeral.longest
  | .text s => IsLine s
  | .list xs => AreTrees xs
  | .map es => (es.Pairwise fun a b => a.1.same b.1 = false) ∧ AreEntriesOfTree es
  | .float _ | .bytes _ | .date _ | .moment _ | .tuple _ => False

/-- `IsTree` for the items of a list. -/
def AreTrees : List Value → Prop
  | [] => True
  | x :: xs => IsTree x ∧ AreTrees xs

/-- `IsTree` for the entries of a mapping. -/
def AreEntriesOfTree : List (Value × Value) → Prop
  | [] => True
  | (k, v) :: es => k.IsName ∧ IsTree v ∧ AreEntriesOfTree es

end

mutual

/-- Whether a value is a tree. -/
def decideTree : (v : Value) → Decidable v.IsTree
  | .null | .bool _ => isTrue trivial
  | .int n => inferInstanceAs (Decidable ((toString n.natAbs).length < Numeral.longest))
  | .text s => inferInstanceAs (Decidable (IsLine s))
  | .list xs => decideTrees xs
  | .map es =>
    have := decideEntries es
    inferInstanceAs (Decidable ((es.Pairwise fun a b => a.1.same b.1 = false) ∧
      AreEntriesOfTree es))
  | .float _ | .bytes _ | .date _ | .moment _ | .tuple _ => isFalse id

/-- `decideTree` for the items of a list. -/
def decideTrees : (xs : List Value) → Decidable (AreTrees xs)
  | [] => isTrue trivial
  | x :: xs =>
    have := decideTree x
    have := decideTrees xs
    inferInstanceAs (Decidable (x.IsTree ∧ AreTrees xs))

/-- `decideTree` for the entries of a mapping. -/
def decideEntries : (es : List (Value × Value)) → Decidable (AreEntriesOfTree es)
  | [] => isTrue trivial
  | (k, v) :: es =>
    have := decideTree v
    have := decideEntries es
    inferInstanceAs (Decidable (k.IsName ∧ v.IsTree ∧ AreEntriesOfTree es))

end

instance (v : Value) : Decidable v.IsTree := decideTree v

/-- The name of an entry. -/
theorem exists_text_of_isName {k : Value} (name : k.IsName) :
    ∃ s, k = .text s ∧ s.length ≤ Yaml.longestName ∧ '\x85' ∉ s.toList := by
  cases k <;> first | exact ⟨_, rfl, name⟩ | exact name.elim

theorem put_of_new {key : Value} (v : Value) : ∀ {es : List (Value × Value)},
    (∀ e ∈ es, e.1.same key = false) → put key v es = es ++ [(key, v)]
  | [], _ => rfl
  | (k, w) :: es, new => by
      have differs := new (k, w) List.mem_cons_self
      have later := put_of_new v fun e there => new e (List.mem_cons_of_mem _ there)
      rw [put, if_neg (by simp [differs]), later]
      rfl

/-- Rows with different keys stay as they are. -/
theorem ofRows_of_distinct {rows : List (Value × Value)}
    (distinct : rows.Pairwise fun a b => a.1.same b.1 = false) : ofRows rows = rows := by
  have built : ∀ (rows es : List (Value × Value)),
      ((es ++ rows).Pairwise fun a b => a.1.same b.1 = false) →
        rows.foldl (fun entries row => put row.1 row.2 entries) es = es ++ rows := by
    intro rows
    induction rows with
    | nil => exact fun es _ => (List.append_nil es).symm
    | cons row rows ih =>
        intro es distinct
        have new : ∀ e ∈ es, e.1.same row.1 = false := fun e there =>
          (List.pairwise_append.mp distinct).2.2 e there row List.mem_cons_self
        rw [List.foldl_cons, put_of_new row.2 new, ih]
        · simp
        · simpa using distinct
  exact built rows [] (by simpa using distinct)

end Value

namespace Yaml

namespace Node

/-- The items of a sequence stand for a row of values. -/
theorem value_sequence {ys : List Node} {xs : List Value}
    (items : ∀ depth, itemValues depth ys = .ok xs) (number depth : Nat) :
    (Node.sequence number .seq ys).value depth = .ok (.list xs) := by
  rw [Node.value]
  dsimp only [Node.shapeOf]
  rw [items]
  rfl

/-- Entries of nodes, none of which takes over others, stand for rows of values. -/
structure HaveRows (ys : List (Node × Node)) (es : List (Value × Value)) : Prop where
  merges : mergesWell ys = true
  taken : ∀ depth, takenRows depth ys = .ok []
  own : ∀ depth, ownRows depth ys = .ok es

/-- Rows with different keys stand for a mapping. -/
theorem value_mapping {ys : List (Node × Node)} {es : List (Value × Value)}
    (distinct : es.Pairwise fun a b => a.1.same b.1 = false) (rows : HaveRows ys es)
    (number depth : Nat) : (Node.mapping number .map ys).value depth = .ok (.map es) := by
  rw [Node.value]
  dsimp only [Node.shapeOf]
  rw [if_pos rows.merges, rows.taken, rows.own]
  show Except.ok (Value.map (Value.ofRows es)) = _
  rw [Value.ofRows_of_distinct distinct]

theorem HaveRows.nil : HaveRows [] [] := ⟨rfl, fun _ => rfl, fun _ => rfl⟩

/-- One more entry, whose key is a text. -/
theorem HaveRows.cons {ys : List (Node × Node)} {es : List (Value × Value)} {number : Nat}
    {text : List Char} {s : String} {v : Value} {y : Node}
    (key : ∀ depth, (Node.scalar number .str text).value depth = .ok (.text s))
    (value : ∀ depth, y.value depth = .ok v) (more : HaveRows ys es) :
    HaveRows ((.scalar number .str text, y) :: ys) ((.text s, v) :: es) := by
  have noMerge : ¬(Node.scalar number .str text).tag = .merge := by simp [Node.tag]
  refine ⟨by rw [mergesWell, more.merges]; rfl, fun depth => ?_, fun depth => ?_⟩
  · rw [takenRows, if_neg noMerge]
    exact more.taken depth
  · rw [ownRows, if_neg noMerge]
    · rw [key depth, value depth, more.own depth]
      rfl
    · intro number s isValue
      cases isValue

end Node

namespace Tree

/-- A tree whose nodes denote a value. -/
def Restores (t : Tree) (v : Value) : Prop :=
  ∀ x, t.Matches x → ∀ depth, x.value depth = .ok v

variable {room : Nat}

theorem restores_scalar {s : Scalar} {v : Value} (denotes : s.Denotes v) :
    Restores (.scalar none s) v := by
  intro x same depth
  cases x with
  | scalar number tag text =>
      obtain ⟨rfl, rfl⟩ := same
      exact denotes.value depth number
  | sequence number tag xs => exact same.elim
  | mapping number tag xs => exact same.elim

/-- The items of a sequence stand for a row of values. -/
def RestoreItems (ts : List Tree) (xs : List Value) : Prop :=
  ∀ ys, MatchItems ts ys → ∀ depth, Node.itemValues depth ys = .ok xs

/-- The entries of a mapping, none of which takes over others, stand for rows of values. -/
def RestoreEntries (fs : List (Tree × Tree)) (es : List (Value × Value)) : Prop :=
  ∀ ys, MatchEntries fs ys → Node.HaveRows ys es

theorem restores_sequence {ts : List Tree} {xs : List Value} (items : RestoreItems ts xs) :
    Restores (.sequence none ts) (.list xs) := by
  intro x same depth
  cases x with
  | sequence number tag ys =>
      obtain ⟨rfl, same⟩ := same
      exact Node.value_sequence (items ys same) number depth
  | scalar number tag text => exact same.elim
  | mapping number tag ys => exact same.elim

theorem restores_mapping {fs : List (Tree × Tree)} {es : List (Value × Value)}
    (distinct : es.Pairwise fun a b => a.1.same b.1 = false) (entries : RestoreEntries fs es) :
    Restores (.mapping none fs) (.map es) := by
  intro x same depth
  cases x with
  | mapping number tag ys =>
      obtain ⟨rfl, same⟩ := same
      exact Node.value_mapping distinct (entries ys same) number depth
  | scalar number tag text => exact same.elim
  | sequence number tag ys => exact same.elim

theorem restoreItems_nil : RestoreItems [] [] := by
  intro ys same depth
  cases ys with
  | nil => rfl
  | cons y ys => exact same.elim

theorem restoreItems_cons {t : Tree} {ts : List Tree} {x : Value} {xs : List Value}
    (item : Restores t x) (more : RestoreItems ts xs) : RestoreItems (t :: ts) (x :: xs) := by
  intro ys same depth
  cases ys with
  | nil => exact same.elim
  | cons y ys =>
      rw [Node.itemValues, item y same.1, more ys same.2]
      rfl

theorem restoreEntries_nil : RestoreEntries [] [] := by
  intro ys same
  cases ys with
  | nil => exact .nil
  | cons y ys => exact same.elim

/-- An entry whose key is a text. -/
theorem restoreEntries_cons {k : Scalar} {s : String} {t : Tree} {v : Value}
    {fs : List (Tree × Tree)} {es : List (Value × Value)} (denotes : k.Denotes (.text s))
    (isText : k.tag = .str) (value : Restores t v) (more : RestoreEntries fs es) :
    RestoreEntries ((.scalar none k, t) :: fs) ((.text s, v) :: es) := by
  intro ys same
  obtain _ | ⟨⟨k', y⟩, ys⟩ := ys
  · exact same.elim
  · obtain ⟨key, same, same'⟩ := same
    have text := restores_scalar denotes k' key
    cases k' with
    | scalar number tag text' =>
        obtain ⟨rfl, rfl⟩ := key
        rw [isText] at text ⊢
        exact (more ys same').cons text (value y same)
    | sequence number tag xs => exact key.elim
    | mapping number tag xs => exact key.elim

/-- What is written of a value with some room, and what it stands for. -/
def IsWritten (room : Nat) (v : Value) : Prop :=
  ∃ t, ofValue room v = .ok t ∧ t.Regular room ∧ Restores t v

theorem isWritten_scalar {s : Scalar} {v : Value}
    (text : ofValue room v = Tree.scalar none <$> Scalar.ofValue v)
    (written : Scalar.ofValue v = .ok s) (denotes : s.Denotes v) : IsWritten room v := by
  refine ⟨.scalar none s, by rw [text, written]; rfl, ?_, restores_scalar denotes⟩
  rw [Regular]
  exact ⟨rfl, denotes.untagged⟩

/-- The items of a list with the values that they stand for. -/
def AreItemsWritten (room : Nat) (xs : List Value) : Prop :=
  ∃ ts, ofItems room xs = .ok ts ∧ RegularItems room ts ∧ RestoreItems ts xs

/-- The entries of a mapping with the values that they stand for. -/
def AreEntriesWritten (room : Nat) (es : List (Value × Value)) : Prop :=
  ∃ fs, ofEntries room es = .ok fs ∧ RegularEntries room fs ∧ RestoreEntries fs es

theorem isWritten_list {xs : List Value} (items : AreItemsWritten room xs) :
    IsWritten (room + 1) (.list xs) := by
  obtain ⟨ts, written, regular, restored⟩ := items
  refine ⟨.sequence none ts, ?_, ?_, restores_sequence restored⟩
  · rw [ofValue, goInside, written]
    rfl
  · rw [Regular]
    exact ⟨rfl, Nat.succ_pos room, regular⟩

theorem isWritten_map {es : List (Value × Value)}
    (distinct : es.Pairwise fun a b => a.1.same b.1 = false)
    (entries : AreEntriesWritten room es) : IsWritten (room + 1) (.map es) := by
  obtain ⟨fs, written, regular, restored⟩ := entries
  refine ⟨.mapping none fs, ?_, ?_, restores_mapping distinct restored⟩
  · rw [ofValue, goInside, written]
    rfl
  · rw [Regular]
    exact ⟨rfl, Nat.succ_pos room, regular⟩

theorem areItemsWritten_cons {x : Value} {xs : List Value} (item : IsWritten room x)
    (more : AreItemsWritten room xs) : AreItemsWritten room (x :: xs) := by
  obtain ⟨t, written, regular, restored⟩ := item
  obtain ⟨ts, written', regular', restored'⟩ := more
  refine ⟨t :: ts, ?_, ⟨regular, regular'⟩, restoreItems_cons restored restored'⟩
  rw [ofItems, written, written']
  rfl

theorem areEntriesWritten_cons {s : String} {v : Value} {es : List (Value × Value)}
    (short : s.length ≤ longestName) (noNextLine : '\x85' ∉ s.toList)
    (value : IsWritten room v) (more : AreEntriesWritten room es) :
    AreEntriesWritten room ((.text s, v) :: es) := by
  obtain ⟨t, written, regular, restored⟩ := value
  obtain ⟨fs, written', regular', restored'⟩ := more
  have denotes := Scalar.denotes_text noNextLine
  have name : Scalar.IsName ⟨s.toList, .str, s.toList.contains '\n'⟩ :=
    ⟨denotes.untagged, rfl, by rwa [String.length_toList]⟩
  refine ⟨(.scalar none ⟨s.toList, .str, s.toList.contains '\n'⟩, t) :: fs, ?_,
    ⟨⟨_, rfl, name⟩, regular, regular'⟩, restoreEntries_cons denotes rfl restored restored'⟩
  rw [ofEntries, written, written']
  rfl

mutual

/-- **A tree is written as scalars and collections that stand for it.** -/
theorem isWritten : ∀ {v : Value}, v.IsTree → ∀ {room : Nat}, v.depth ≤ room → IsWritten room v
  | .null, _, _, _ => isWritten_scalar (by rw [ofValue]) rfl Scalar.denotes_null
  | .bool true, _, _, _ => isWritten_scalar (by rw [ofValue]) rfl Scalar.denotes_true
  | .bool false, _, _, _ => isWritten_scalar (by rw [ofValue]) rfl Scalar.denotes_false
  | .int n, short, _, _ => by
      have fits : (Nat.toDigits 10 n.natAbs).length ≤ Numeral.longest := by
        have short : (toString n.natAbs).length < Numeral.longest := short
        rw [Nat.toString_eq_ofList_toDigits, String.length_ofList] at short
        exact Nat.le_of_lt short
      refine isWritten_scalar (by rw [ofValue]) ?_ (Scalar.denotes_int fits)
      rw [Scalar.ofValue, Scalar.numeral_eq fits]
      simp
  | .text s, noNextLine, _, _ =>
      isWritten_scalar (by rw [ofValue]) rfl (Scalar.denotes_text noNextLine)
  | .list xs, trees, _ + 1, shallow =>
      isWritten_list (areItemsWritten trees (Nat.le_of_succ_le_succ shallow))
  | .map es, trees, _ + 1, shallow =>
      isWritten_map trees.1 (areEntriesWritten trees.2 (Nat.le_of_succ_le_succ shallow))

theorem areItemsWritten : ∀ {xs : List Value}, Value.AreTrees xs → ∀ {room : Nat},
    Value.itemsDepth xs ≤ room → AreItemsWritten room xs
  | [], _, _, _ => ⟨[], rfl, trivial, restoreItems_nil⟩
  | x :: xs, trees, room, shallow => by
      rw [Value.itemsDepth] at shallow
      exact areItemsWritten_cons (isWritten trees.1 (by omega))
        (areItemsWritten trees.2 (by omega))

theorem areEntriesWritten : ∀ {es : List (Value × Value)}, Value.AreEntriesOfTree es →
    ∀ {room : Nat}, Value.entriesDepth es ≤ room → AreEntriesWritten room es
  | [], _, _, _ => ⟨[], rfl, trivial, restoreEntries_nil⟩
  | (k, v) :: es, trees, room, shallow => by
      obtain ⟨name, value, rest⟩ := trees
      obtain ⟨s, rfl, short, noNextLine⟩ := Value.exists_text_of_isName name
      rw [Value.entriesDepth] at shallow
      exact areEntriesWritten_cons short noNextLine (isWritten value (by omega))
        (areEntriesWritten rest (by omega))

end

end Tree

/-- The document of a tree is read as the value that the tree stands for, and it is made of
characters that a file keeps. -/
theorem read_document {room : Nat} {t : Tree} {v : Value} (regular : t.Regular room)
    (near : room ≤ Tree.deepest) (restored : t.Restores v) :
    (document t).all isPrinted = true ∧ read (String.ofList (document t)) = .ok v := by
  have printed := Tree.all_isPrinted_document regular.unnamed
  have allowed : (document t).all isAllowed = true :=
    List.all_eq_true.mpr fun c there => isAllowed_of_isPrinted (List.all_eq_true.mp printed c there)
  have fits : Tree.Fits 0 room := by
    have narrow : 0 + 2 * Tree.deepest + 4 ≤ Scalar.lineWidth := by decide
    unfold Tree.Fits
    omega
  obtain ⟨x, parsed, same⟩ :=
    Tree.ofText_document regular fits (Nat.le_trans near (by decide)) allowed
  refine ⟨printed, ?_⟩
  simp only [read, String.toList_ofList, parsed, bind, Except.bind, restored x same 0]
  rfl

/-- **What is written is read back**, and it is made of characters that a file keeps. -/
theorem read_of_printWithin {v : Value} (tree : v.IsTree) {room : Nat} (near : room ≤ Tree.deepest)
    (shallow : v.depth ≤ room) :
    ∃ text, printWithin room v = .ok text ∧ text.toList.all isPrinted = true ∧
      read text = .ok v := by
  obtain ⟨t, written, regular, restored⟩ := Tree.isWritten tree shallow
  obtain ⟨printed, denoted⟩ := read_document regular near restored
  refine ⟨String.ofList (document t), by rw [printWithin, written]; rfl, ?_, denoted⟩
  rwa [String.toList_ofList]

/-! ## Trees that are too deep -/

namespace Tree

theorem inside_tooDeep {α : Type} {room : Nat} {inside : Nat → Except Failure α}
    (deep : ∀ left, room = left + 1 → inside left = .error .tooDeep) :
    goInside room inside = .error .tooDeep := by
  cases room with
  | zero => rfl
  | succ left => exact deep left rfl

mutual

theorem ofValue_tooDeep : ∀ {v : Value}, v.IsTree → ∀ {room : Nat}, room < v.depth →
    ofValue room v = .error .tooDeep
  | .list xs, trees, room, deep => by
      rw [ofValue]
      refine inside_tooDeep fun left full => ?_
      subst full
      rw [ofItems_tooDeep trees (Nat.lt_of_succ_lt_succ deep)]
      rfl
  | .map es, trees, room, deep => by
      rw [ofValue]
      refine inside_tooDeep fun left full => ?_
      subst full
      rw [ofEntries_tooDeep trees.2 (Nat.lt_of_succ_lt_succ deep)]
      rfl
  | .null, _, _, deep | .bool _, _, _, deep | .int _, _, _, deep | .text _, _, _, deep =>
      absurd deep (Nat.not_lt_zero _)

theorem ofItems_tooDeep : ∀ {xs : List Value}, Value.AreTrees xs → ∀ {room : Nat},
    room < Value.itemsDepth xs → ofItems room xs = .error .tooDeep
  | x :: xs, trees, room, deep => by
      rw [Value.itemsDepth] at deep
      rw [ofItems]
      by_cases here : room < x.depth
      · rw [ofValue_tooDeep trees.1 here]
        rfl
      · obtain ⟨t, written, -⟩ := isWritten trees.1 (Nat.le_of_not_lt here)
        rw [written, ofItems_tooDeep trees.2 (by omega)]
        rfl

theorem ofEntries_tooDeep : ∀ {es : List (Value × Value)}, Value.AreEntriesOfTree es →
    ∀ {room : Nat}, room < Value.entriesDepth es → ofEntries room es = .error .tooDeep
  | (k, v) :: es, trees, room, deep => by
      obtain ⟨name, value, rest⟩ := trees
      obtain ⟨s, rfl, -⟩ := Value.exists_text_of_isName name
      rw [Value.entriesDepth, Value.depth_text, Nat.zero_max] at deep
      have key : ofValue room (.text s) =
          .ok (.scalar none ⟨s.toList, .str, s.toList.contains '\n'⟩) := by
        rw [ofValue]
        rfl
      rw [ofEntries, key]
      by_cases here : room < v.depth
      · rw [ofValue_tooDeep value here]
        rfl
      · obtain ⟨t, written, -⟩ := isWritten value (Nat.le_of_not_lt here)
        rw [written, ofEntries_tooDeep rest (by omega)]
        rfl

end

end Tree

/-- A tree that is nested deeper than there is room for has no text. -/
theorem printWithin_tooDeep {v : Value} (tree : v.IsTree) {room : Nat} (deep : room < v.depth) :
    printWithin room v = .error .tooDeep := by
  rw [printWithin, Tree.ofValue_tooDeep tree deep]
  rfl

end Yaml

end Conveyor
