import Conveyor.Proofs.Yaml.Layout
import Conveyor.Yaml.Node

/-!
# From tokens back to the tree

Recursive descent gives the tree back that the tokens were taken from: the same scalars with the
tags that they were written under, and the same sequences and mappings in the same order.  Only the
numbers of the nodes are new.
-/

set_option autoImplicit false

namespace Conveyor.Yaml

namespace Node

/-- From a source, reading gives an answer and leads to another source. -/
def Read.Gives {α : Type} (read : Read α) (s : Source) (a : α) (s' : Source) : Prop :=
  read.run s = .ok (a, s')

namespace Read.Gives

variable {α β : Type} {read : Read α} {s s' s'' : Source}

theorem pure (a : α) (s : Source) : Gives (Pure.pure a) s a s := rfl

theorem bind {f : α → Read β} {a : α} {b : β} (first : Gives read s a s')
    (next : Gives (f a) s' b s'') : Gives (read >>= f) s b s'' := by
  unfold Gives at *
  rw [StateT.run_bind, first]
  exact next

end Read.Gives

/-! ## Tokens one by one -/

/-- A source without faults, handles and anchors. -/
def source (rest : List Token) (met depth : Nat) : Source := { rest, met, depth }

variable {rest rest' : List Token} {met met' depth : Nat} {t : Token}

theorem peek_gives (rest : List Token) (met depth : Nat) :
    peek.Gives (source rest met depth) rest.head? (source rest met depth) := by
  cases rest <;> rfl

theorem skip_gives (t : Token) (rest : List Token) (met depth : Nat) :
    skip.Gives (source (t :: rest) met depth) () (source rest met depth) := rfl

theorem newNumber_gives (rest : List Token) (met depth : Nat) :
    newNumber.Gives (source rest met depth) (met + 1) (source rest (met + 1) depth) := rfl

theorem accept_same (t : Token) (rest : List Token) (met depth : Nat) :
    (accept t).Gives (source (t :: rest) met depth) true (source rest met depth) := by
  refine .bind (peek_gives _ _ _) ?_
  rw [List.head?_cons, if_pos rfl]
  exact .bind (skip_gives _ _ _ _) (.pure _ _)

theorem accept_other (other : rest.head? ≠ some t) (met depth : Nat) :
    (accept t).Gives (source rest met depth) false (source rest met depth) := by
  refine .bind (peek_gives _ _ _) ?_
  rw [if_neg other]
  exact .pure _ _

theorem expect_gives (t : Token) (rest : List Token) (met depth : Nat) :
    (expect t).Gives (source (t :: rest) met depth) () (source rest met depth) :=
  .bind (accept_same _ _ _ _) (.pure _ _)

theorem isNext_gives (ts rest : List Token) (met depth : Nat) :
    (isNext ts).Gives (source rest met depth) (rest.head?.any ts.contains)
      (source rest met depth) :=
  .bind (peek_gives _ _ _) (.pure _ _)

theorem nested_gives {α : Type} {read : Read α} {a : α} (shallow : depth < deepest)
    (inside : read.Gives (source rest met (depth + 1)) a (source rest' met' (depth + 1))) :
    (nested read).Gives (source rest met depth) a (source rest' met' depth) := by
  refine .bind rfl ?_
  have within : ¬deepest ≤ (source rest met depth).depth := Nat.not_le_of_lt shallow
  rw [if_neg within]
  exact .bind rfl (.bind inside rfl)

/-- The tokens that start a node without an anchor and a tag. -/
def startsNode : Token → Bool
  | .scalar .. | .flowSequenceStart | .flowMappingStart | .blockSequenceStart
  | .blockMappingStart | .blockEntry => true
  | _ => false

theorem properties_gives (starts : startsNode t = true) (rest : List Token) (met depth : Nat) :
    properties.Gives (source (t :: rest) met depth) {} (source (t :: rest) met depth) := by
  cases t <;> first | rfl | cases starts

/-! ## Nodes by their first tokens -/

variable {n : Nat} {xs : List Node} {es : List (Node × Node)}

theorem node_scalar (n : Nat) (belowKey : Bool) (text : List Char) (isPlain : Bool)
    (rest : List Token) (met depth : Nat) :
    (node (n + 1) true belowKey).Gives (source (.scalar text isPlain :: rest) met depth)
      (.scalar (met + 1) (if isPlain then implicitTag text else .str) text)
      (source rest (met + 1) depth) := by
  rw [node]
  refine .bind (peek_gives _ _ _) (.bind (properties_gives rfl _ _ _) (.bind (peek_gives _ _ _) ?_))
  refine .bind (newNumber_gives _ _ _) (.bind (.bind (skip_gives _ _ _ _) (.pure _ _)) ?_)
  refine .bind (.pure _ _) ?_
  cases isPlain <;> exact .pure _ _

theorem node_sequence (belowKey : Bool) (shallow : depth < deepest)
    (inside : (items n true).Gives (source rest (met + 1) (depth + 1)) xs
      (source (.blockEnd :: rest') met' (depth + 1))) :
    (node (n + 1) true belowKey).Gives (source (.blockSequenceStart :: rest) met depth)
      (.sequence (met + 1) .seq xs) (source rest' met' depth) := by
  rw [node]
  refine .bind (peek_gives _ _ _) (.bind (properties_gives rfl _ _ _) (.bind (peek_gives _ _ _) ?_))
  refine .bind (newNumber_gives _ _ _) ?_
  rw [List.head?_cons]
  dsimp only
  rw [if_neg (by simp), if_pos (by simp)]
  refine .bind (skip_gives _ _ _ _) (.bind (nested_gives shallow inside) ?_)
  exact .bind (expect_gives _ _ _ _) (.bind (.pure _ _) (.bind (.pure _ _) (.pure _ _)))

theorem node_mapping (belowKey : Bool) (shallow : depth < deepest)
    (inside : (entries n).Gives (source rest (met + 1) (depth + 1)) es
      (source (.blockEnd :: rest') met' (depth + 1))) :
    (node (n + 1) true belowKey).Gives (source (.blockMappingStart :: rest) met depth)
      (.mapping (met + 1) .map es) (source rest' met' depth) := by
  rw [node]
  refine .bind (peek_gives _ _ _) (.bind (properties_gives rfl _ _ _) (.bind (peek_gives _ _ _) ?_))
  refine .bind (newNumber_gives _ _ _) ?_
  rw [List.head?_cons]
  dsimp only
  rw [if_neg (by simp), if_neg (by simp), if_pos (by simp)]
  refine .bind (skip_gives _ _ _ _) (.bind (nested_gives shallow inside) ?_)
  exact .bind (expect_gives _ _ _ _) (.bind (.pure _ _) (.bind (.pure _ _) (.pure _ _)))

theorem node_items (shallow : depth < deepest)
    (inside : (items n false).Gives (source (.blockEntry :: rest) (met + 1) (depth + 1)) xs
      (source rest' met' (depth + 1))) :
    (node (n + 1) true true).Gives (source (.blockEntry :: rest) met depth)
      (.sequence (met + 1) .seq xs) (source rest' met' depth) := by
  rw [node]
  refine .bind (peek_gives _ _ _) (.bind (properties_gives rfl _ _ _) (.bind (peek_gives _ _ _) ?_))
  refine .bind (newNumber_gives _ _ _) ?_
  rw [List.head?_cons]
  dsimp only
  rw [if_pos (by simp)]
  exact .bind (nested_gives shallow inside) (.bind (.pure _ _) (.bind (.pure _ _) (.pure _ _)))

theorem node_flowSequence (n : Nat) (belowKey : Bool) (rest : List Token) (met depth : Nat)
    (shallow : depth < deepest) :
    (node (n + 2) true belowKey).Gives
      (source (.flowSequenceStart :: .flowSequenceEnd :: rest) met depth)
      (.sequence (met + 1) .seq []) (source rest (met + 1) depth) := by
  have inside : (flowItems (n + 1) true).Gives
      (source (.flowSequenceEnd :: rest) (met + 1) (depth + 1)) []
      (source rest (met + 1) (depth + 1)) := by
    rw [flowItems]
    exact .bind (accept_same _ _ _ _) (.pure _ _)
  rw [node]
  refine .bind (peek_gives _ _ _) (.bind (properties_gives rfl _ _ _) (.bind (peek_gives _ _ _) ?_))
  refine .bind (newNumber_gives _ _ _) ?_
  rw [List.head?_cons]
  dsimp only
  exact .bind (skip_gives _ _ _ _) (.bind (nested_gives shallow inside)
    (.bind (.pure _ _) (.bind (.pure _ _) (.pure _ _))))

theorem node_flowMapping (n : Nat) (belowKey : Bool) (rest : List Token) (met depth : Nat)
    (shallow : depth < deepest) :
    (node (n + 2) true belowKey).Gives
      (source (.flowMappingStart :: .flowMappingEnd :: rest) met depth)
      (.mapping (met + 1) .map []) (source rest (met + 1) depth) := by
  have inside : (flowEntries (n + 1) true).Gives
      (source (.flowMappingEnd :: rest) (met + 1) (depth + 1)) []
      (source rest (met + 1) (depth + 1)) := by
    rw [flowEntries]
    exact .bind (accept_same _ _ _ _) (.pure _ _)
  rw [node]
  refine .bind (peek_gives _ _ _) (.bind (properties_gives rfl _ _ _) (.bind (peek_gives _ _ _) ?_))
  refine .bind (newNumber_gives _ _ _) ?_
  rw [List.head?_cons]
  dsimp only
  exact .bind (skip_gives _ _ _ _) (.bind (nested_gives shallow inside)
    (.bind (.pure _ _) (.bind (.pure _ _) (.pure _ _))))

/-! ## Rows of items and entries -/

variable {s : Source} {x k v : Node} {r r' : List Token} {m m' : Nat}

theorem isNext_other {ts : List Token} (other : t ∉ ts) (rest : List Token) (met depth : Nat) :
    (isNext ts).Gives (source (t :: rest) met depth) false (source (t :: rest) met depth) := by
  have gives := isNext_gives ts (t :: rest) met depth
  have none_ : ts.contains t = false := by simpa using other
  rwa [List.head?_cons, Option.any_some, none_] at gives

theorem items_nil (ends : rest.head? ≠ some .blockEntry) (own : Bool) (met depth : Nat) :
    (items (n + 1) own).Gives (source rest met depth) [] (source rest met depth) := by
  rw [items]
  exact .bind (accept_other ends _ _) (.pure _ _)

theorem items_cons {own : Bool} (starts : startsNode t = true) (noEntry : t ≠ .blockEntry)
    (item : (node n true false).Gives (source (t :: rest) met depth) x (source r m depth))
    (more : (items n own).Gives (source r m depth) xs s) :
    (items (n + 1) own).Gives (source (.blockEntry :: t :: rest) met depth) (x :: xs) s := by
  have other : t ∉ (if own then [Token.blockEntry, .blockEnd]
      else [.blockEntry, .key, .value, .blockEnd]) := by
    cases own <;> cases t <;> first
      | exact absurd rfl noEntry
      | exact absurd starts Bool.false_ne_true
      | simp
  rw [items]
  refine .bind (accept_same _ _ _ _) ?_
  rw [if_pos rfl]
  refine .bind (isNext_other other _ _ _) ?_
  rw [if_neg (by simp)]
  exact .bind item (.bind more (.pure _ _))

theorem entries_nil (ends : rest.head? ≠ some .key) (met depth : Nat) :
    (entries (n + 1)).Gives (source rest met depth) [] (source rest met depth) := by
  rw [entries]
  exact .bind (accept_other ends _ _) (.pure _ _)

theorem entries_cons {t' : Token} {rest' : List Token} (starts : startsNode t = true)
    (starts' : startsNode t' = true)
    (key : (node n true true).Gives (source (t :: rest) met depth) k
      (source (.value :: t' :: rest') m depth))
    (value : (node n true true).Gives (source (t' :: rest') m depth) v (source r m' depth))
    (more : (entries n).Gives (source r m' depth) es s) :
    (entries (n + 1)).Gives (source (.key :: t :: rest) met depth) ((k, v) :: es) s := by
  have other {t : Token} (starts : startsNode t = true) : t ∉ [Token.key, .value, .blockEnd] := by
    cases t <;> first
      | exact absurd starts Bool.false_ne_true
      | simp
  rw [entries]
  refine .bind (accept_same _ _ _ _) ?_
  rw [if_pos rfl]
  refine .bind (isNext_other (other starts) _ _ _) ?_
  rw [if_neg (by simp)]
  refine .bind key (.bind (accept_same _ _ _ _) ?_)
  rw [if_pos rfl]
  refine .bind (isNext_other (other starts') _ _ _) ?_
  rw [if_neg (by simp)]
  exact .bind value (.bind more (.pure _ _))

end Node

namespace Tree

/-! ## The tree of the tokens -/

mutual

/-- A node that a tree was read as: it has the tags and the texts of the tree in the same order. -/
def Matches : Tree → Node → Prop
  | .scalar _ s, .scalar _ tag text => tag = s.tag ∧ text = s.text
  | .sequence _ ts, .sequence _ tag xs => tag = .seq ∧ MatchItems ts xs
  | .mapping _ es, .mapping _ tag xs => tag = .map ∧ MatchEntries es xs
  | _, _ => False

/-- `Matches` for the items of a list. -/
def MatchItems : List Tree → List Node → Prop
  | [], [] => True
  | t :: ts, x :: xs => Matches t x ∧ MatchItems ts xs
  | _, _ => False

/-- `Matches` for the entries of a mapping. -/
def MatchEntries : List (Tree × Tree) → List (Node × Node) → Prop
  | [], [] => True
  | (k, v) :: es, (k', v') :: xs => Matches k k' ∧ Matches v v' ∧ MatchEntries es xs
  | _, _ => False

end

open Conveyor.Yaml.Node

variable {room : Nat}

/-- The first token of a tree. -/
theorem exists_tokens_cons {t : Tree} (regular : Regular room t) (position : Position) :
    ∃ first more, tokens position t = first :: more ∧ startsNode first = true ∧
      (position ≠ .below → first ≠ .blockEntry) := by
  cases t with
  | scalar anchor s => exact ⟨_, _, by rw [tokens], rfl, by simp⟩
  | sequence anchor xs =>
      cases xs with
      | nil => exact ⟨_, _, by rw [tokens], rfl, by simp⟩
      | cons x xs =>
          by_cases below : position = .below
          · rw [below, tokens_sequence_below, itemTokens]
            exact ⟨_, _, rfl, rfl, fun other => absurd rfl other⟩
          · rw [tokens_sequence_own _ _ _ below]
            exact ⟨_, _, rfl, rfl, by simp⟩
  | mapping anchor es =>
      cases es with
      | nil => exact ⟨_, _, by rw [tokens], rfl, by simp⟩
      | cons e es =>
          rw [tokens_mapping]
          exact ⟨_, _, rfl, rfl, by simp⟩
  | «alias» name =>
      rw [Regular] at regular
      exact regular.elim

/-- A node is read where a tree stands, if there is fuel enough for its tokens. -/
def IsRead (room : Nat) (t : Tree) : Prop :=
  ∀ position belowKey rest met depth n,
    (position = .below → belowKey = true ∧ rest.head? ≠ some .blockEntry) →
    depth + room ≤ Node.deepest → 2 * (tokens position t).length + 2 ≤ n →
    ∃ x met', (node n true belowKey).Gives (source (tokens position t ++ rest) met depth) x
      (source rest met' depth) ∧ t.Matches x

/-- The items of a list are read up to a token that does not go on with it. -/
def AreItemsRead (room : Nat) (ts : List Tree) : Prop :=
  ∀ own rest met depth n, rest.head? ≠ some .blockEntry →
    depth + room ≤ Node.deepest → 2 * (itemTokens ts).length + 1 ≤ n →
    ∃ xs met', (items n own).Gives (source (itemTokens ts ++ rest) met depth) xs
      (source rest met' depth) ∧ MatchItems ts xs

/-- The entries of a mapping are read up to a token that does not go on with it. -/
def AreEntriesRead (room : Nat) (es : List (Tree × Tree)) : Prop :=
  ∀ rest met depth n, rest.head? = some .blockEnd →
    depth + room ≤ Node.deepest → 2 * (entryTokens es).length + 1 ≤ n →
    ∃ xs met', (entries n).Gives (source (entryTokens es ++ rest) met depth) xs
      (source rest met' depth) ∧ MatchEntries es xs

theorem isRead_scalar (anchor : Option (List Char)) {s : Scalar} (untagged : s.IsUntagged) :
    IsRead room (.scalar anchor s) := by
  intro position belowKey rest met depth n _ _ enough
  obtain ⟨n, rfl⟩ : ∃ m, n = m + 1 := ⟨n - 1, by omega⟩
  have gives := node_scalar n belowKey s.text (s.style false = .plain) rest met depth
  rw [tokens]
  refine ⟨_, _, gives, ?_, rfl⟩
  by_cases plain : s.style false = .plain
  · simp [plain, (untagged.plain plain).2.2]
  · simp [plain, untagged.isText false plain]

theorem isRead_sequence_nil (anchor : Option (List Char)) (some_ : 0 < room) :
    IsRead room (.sequence anchor []) := by
  intro position belowKey rest met depth n _ shallow enough
  obtain ⟨n, rfl⟩ : ∃ m, n = m + 2 := ⟨n - 2, by omega⟩
  rw [tokens]
  have gives := node_flowSequence n belowKey rest met depth (by omega)
  exact ⟨_, _, gives, rfl, trivial⟩

theorem isRead_mapping_nil (anchor : Option (List Char)) (some_ : 0 < room) :
    IsRead room (.mapping anchor []) := by
  intro position belowKey rest met depth n _ shallow enough
  obtain ⟨n, rfl⟩ : ∃ m, n = m + 2 := ⟨n - 2, by omega⟩
  rw [tokens]
  have gives := node_flowMapping n belowKey rest met depth (by omega)
  exact ⟨_, _, gives, rfl, trivial⟩

theorem isRead_sequence (anchor : Option (List Char)) {t : Tree} {ts : List Tree} (some_ : 0 < room)
    (read : AreItemsRead (room - 1) (t :: ts)) : IsRead room (.sequence anchor (t :: ts)) := by
  intro position belowKey rest met depth n place shallow enough
  obtain ⟨n, rfl⟩ : ∃ m, n = m + 1 := ⟨n - 1, by omega⟩
  by_cases below : position = .below
  · obtain ⟨rfl, ends⟩ := place below
    subst below
    rw [tokens_sequence_below] at enough ⊢
    obtain ⟨xs, met', gives, same⟩ := read false rest (met + 1) (depth + 1) n ends (by omega)
      (by omega)
    rw [itemTokens] at gives ⊢
    have gives' := node_items (by omega) gives
    exact ⟨_, _, gives', rfl, same⟩
  · rw [tokens_sequence_own _ _ _ below] at enough ⊢
    simp only [List.length_cons, List.length_append, List.length_nil] at enough
    obtain ⟨xs, met', gives, same⟩ := read true (.blockEnd :: rest) (met + 1) (depth + 1) n
      (by simp) (by omega) (by omega)
    have gives' := node_sequence belowKey (by omega) gives
    rw [List.append_cons, ← List.cons_append] at gives'
    exact ⟨_, _, gives', rfl, same⟩

theorem isRead_mapping (anchor : Option (List Char)) {e : Tree × Tree} {es : List (Tree × Tree)}
    (some_ : 0 < room) (read : AreEntriesRead (room - 1) (e :: es)) :
    IsRead room (.mapping anchor (e :: es)) := by
  intro position belowKey rest met depth n place shallow enough
  obtain ⟨n, rfl⟩ : ∃ m, n = m + 1 := ⟨n - 1, by omega⟩
  rw [tokens_mapping] at enough ⊢
  simp only [List.length_cons, List.length_append, List.length_nil] at enough
  obtain ⟨xs, met', gives, same⟩ := read (.blockEnd :: rest) (met + 1) (depth + 1) n rfl
    (by omega) (by omega)
  have gives' := node_mapping belowKey (by omega) gives
  rw [List.append_cons, ← List.cons_append] at gives'
  exact ⟨_, _, gives', rfl, same⟩

theorem areItemsRead_nil : AreItemsRead room [] := by
  intro own rest met depth n ends _ enough
  obtain ⟨n, rfl⟩ : ∃ m, n = m + 1 := ⟨n - 1, by omega⟩
  exact ⟨[], met, items_nil ends _ _ _, trivial⟩

theorem areItemsRead_cons {t : Tree} {ts : List Tree} (regular : Regular room t)
    (item : IsRead room t) (more : AreItemsRead room ts) : AreItemsRead room (t :: ts) := by
  intro own rest met depth n ends shallow enough
  obtain ⟨n, rfl⟩ : ∃ m, n = m + 1 := ⟨n - 1, by omega⟩
  obtain ⟨first, rest', start, starts, noEntry⟩ := exists_tokens_cons regular .item
  rw [itemTokens] at enough ⊢
  simp only [List.length_cons, List.length_append] at enough
  obtain ⟨x, met₁, gives, same⟩ := item .item false (itemTokens ts ++ rest) met depth n (by simp)
    shallow (by omega)
  obtain ⟨xs, met₂, gives', same'⟩ := more own rest met₁ depth n ends shallow (by omega)
  refine ⟨x :: xs, met₂, ?_, same, same'⟩
  rw [start] at gives ⊢
  simpa using items_cons starts (noEntry (by simp)) gives gives'

theorem areEntriesRead_nil : AreEntriesRead room [] := by
  intro rest met depth n ends _ enough
  obtain ⟨n, rfl⟩ : ∃ m, n = m + 1 := ⟨n - 1, by omega⟩
  exact ⟨[], met, entries_nil (by rw [entryTokens, List.nil_append, ends]; simp) _ _, trivial⟩

/-- The key of an entry is read up to its value. -/
theorem key_isRead {s : Scalar} (name : s.IsName) (rest : List Token) (met depth n : Nat) :
    ∃ k, (node (n + 1) true true).Gives
        (source (keyToken (.scalar none s) ++ rest) met depth) k (source rest (met + 1) depth) ∧
      (Tree.scalar none s).Matches k := by
  have gives := node_scalar n true s.text (s.style (isSimple s) = .plain) rest met depth
  rw [keyToken]
  refine ⟨_, gives, ?_, rfl⟩
  by_cases plain : s.style (isSimple s) = .plain
  · simp [plain, (name.untagged.plain plain).2.2]
  · simp [plain, name.isText]

theorem areEntriesRead_cons {s : Scalar} {v : Tree} {es : List (Tree × Tree)} (name : s.IsName)
    (regular : Regular room v) (value : IsRead room v) (more : AreEntriesRead room es) :
    AreEntriesRead room ((.scalar none s, v) :: es) := by
  intro rest met depth n ends shallow enough
  rw [entryTokens] at enough ⊢
  simp only [keyToken, List.length_cons, List.length_append, List.length_nil] at enough
  obtain ⟨n, rfl⟩ : ∃ m, n = m + 2 := ⟨n - 2, by omega⟩
  obtain ⟨first, rest', start, starts, -⟩ :=
    exists_tokens_cons regular (valuePosition (.scalar none s))
  have next : (entryTokens es ++ rest).head? ≠ some .blockEntry := by
    cases es with
    | nil => simp [entryTokens, ends]
    | cons e es => simp [entryTokens]
  obtain ⟨k, key, same⟩ := key_isRead name
    (.value :: (tokens (valuePosition (.scalar none s)) v ++ (entryTokens es ++ rest))) met depth n
  obtain ⟨x, met₁, gives, same'⟩ := value (valuePosition (.scalar none s)) true
    (entryTokens es ++ rest) (met + 1) depth (n + 1) (fun _ => ⟨rfl, next⟩) shallow (by omega)
  obtain ⟨xs, met₂, gives', same''⟩ := more rest met₁ depth (n + 1) ends shallow (by omega)
  refine ⟨(k, x) :: xs, met₂, ?_, same, same', same''⟩
  rw [start] at gives key ⊢
  have entry := entries_cons rfl starts key gives gives'
  simpa [keyToken] using entry

mutual

/-- **Recursive descent gives every regular tree back.** -/
theorem isRead : ∀ {room : Nat} {t : Tree}, Regular room t → IsRead room t
  | _, .scalar anchor s, regular => by
      rw [Regular] at regular
      exact isRead_scalar anchor regular.2
  | _, .sequence anchor [], regular => by
      rw [Regular] at regular
      exact isRead_sequence_nil anchor regular.2.1
  | _, .mapping anchor [], regular => by
      rw [Regular] at regular
      exact isRead_mapping_nil anchor regular.2.1
  | _, .sequence anchor (t :: ts), regular => by
      rw [Regular] at regular
      exact isRead_sequence anchor regular.2.1 (areItemsRead regular.2.2)
  | _, .mapping anchor (e :: es), regular => by
      rw [Regular] at regular
      exact isRead_mapping anchor regular.2.1 (areEntriesRead regular.2.2)
  | _, .alias _, regular => by
      rw [Regular] at regular
      exact regular.elim

theorem areItemsRead : ∀ {room : Nat} {ts : List Tree}, RegularItems room ts →
    AreItemsRead room ts
  | _, [], _ => areItemsRead_nil
  | _, t :: ts, regular => by
      rw [RegularItems] at regular
      exact areItemsRead_cons regular.1 (isRead regular.1) (areItemsRead regular.2)

theorem areEntriesRead : ∀ {room : Nat} {es : List (Tree × Tree)}, RegularEntries room es →
    AreEntriesRead room es
  | _, [], _ => areEntriesRead_nil
  | _, (k, v) :: es, regular => by
      rw [RegularEntries] at regular
      obtain ⟨⟨s, rfl, name⟩, value, rest⟩ := regular
      exact areEntriesRead_cons name value (isRead value) (areEntriesRead rest)

end

/-! ## Documents -/

theorem endMarks_gives {mark : List Char} {marks : List Token} (isMark : IsMark mark marks)
    (met n : Nat) :
    (endMarks (n + 2)).Gives (source marks met 0) () (source [] met 0) := by
  rcases isMark with ⟨-, rfl⟩ | ⟨-, rfl⟩
  · rw [endMarks]
    exact .bind (accept_other (by simp) _ _) (.pure _ _)
  · rw [endMarks, endMarks]
    exact .bind (accept_same _ _ _ _) (.bind (accept_other (by simp) _ _) (.pure _ _))

theorem document_gives {n : Nat} {first : Token} {rest marks : List Token} {x : Node} {met : Nat}
    (starts : startsNode first = true)
    (root : (node n true false).Gives (source (first :: rest) 0 0) x (source marks met 0))
    (ends : (endMarks n).Gives (source marks met 0) () (source [] met 0)) :
    (Node.document n).Gives (source (first :: rest) 0 0) (some x) (source [] met 0) := by
  refine .bind (peek_gives _ _ _) ?_
  rw [List.head?_cons]
  dsimp only
  rw [if_neg]
  · refine .bind root (.bind ends (.bind (peek_gives _ _ _) ?_))
    exact .pure _ _
  · cases first <;> first
      | exact absurd starts Bool.false_ne_true
      | exact Bool.false_ne_true

/-- A text whose tokens start a node, and are read as one up to the mark behind it, holds this
node. -/
theorem ofText_of_lexed {text : List Char} {ts : List Token} {P : Node → Prop} {mark : List Char}
    {marks : List Token} (lexed : Lexed.ofText text = ⟨ts ++ marks, none⟩)
    (isMark : IsMark mark marks) (starts : ∃ first rest, ts = first :: rest ∧ startsNode first = true)
    (root : ∀ n, 2 * ts.length + 2 ≤ n → ∃ x met,
      (node n true false).Gives (source (ts ++ marks) 0 0) x (source marks met 0) ∧ P x) :
    ∃ x, Node.ofText text = .ok (some x) ∧ P x := by
  obtain ⟨first, rest, rfl, starts⟩ := starts
  obtain ⟨x, met, gives, holds⟩ := root (4 * (first :: rest ++ marks).length + 8)
    (by rw [List.length_append]; omega)
  have ends := endMarks_gives isMark met (4 * (first :: rest ++ marks).length + 6)
  rw [List.cons_append] at gives ends lexed
  have reads := document_gives starts gives ends
  unfold Read.Gives source at reads
  refine ⟨x, ?_, holds⟩
  rw [Node.ofText, lexed]
  dsimp only
  rw [reads]
  rfl

/-- **The document of a tree is read as the tree.** -/
theorem ofText_document {t : Tree} (regular : Regular room t) (fits : Fits 0 room)
    (shallow : room ≤ Node.deepest) (allowed : (document t).all isAllowed = true) :
    ∃ x, Node.ofText (document t) = .ok (some x) ∧ t.Matches x := by
  obtain ⟨mark, marks, isMark, lexed⟩ := lexed_document regular fits allowed
  obtain ⟨first, rest, start, starts, -⟩ := exists_tokens_cons regular .item
  refine ofText_of_lexed lexed isMark ⟨first, rest, start, starts⟩ fun n enough => ?_
  exact isRead regular .item false marks 0 0 n (by simp) (by omega) enough

end Tree

end Conveyor.Yaml
