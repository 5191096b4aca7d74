import Conveyor.Proofs.Yaml.Data
import Conveyor.Yaml.Sharing
import Mathlib.Data.List.Forall2

/-!
# The node under a path of keys

A path of keys leads from the root of a document to a node, through mappings that may have entries
of their own and may take over the entries of others. Of several entries under one key the last one
counts, and own entries come after those that are taken over. What stands at the end of the path
makes the value that is found under the same keys in the data (`exists_below?_of_at?`).
-/

set_option autoImplicit false

namespace Conveyor

namespace Yaml.Node

open Findings

/-! ## Keys -/

/-- The result for a node that stands as a key. -/
def keyFinding (depth : Nat) : Node → Findings Value
  | scalar _ .value s => .ok (.text (String.ofList s))
  | node => value depth node

theorem keyFinding_of_plain {k : Node} (plain : ¬∃ n s, k = .scalar n .value s) (depth : Nat) :
    k.keyFinding depth = k.value depth := by
  unfold keyFinding
  split
  · exact absurd ⟨_, _, rfl⟩ plain
  · rfl

theorem ownRows_cons (depth : Nat) (k v : Node) (es : List (Node × Node)) :
    ownRows depth ((k, v) :: es) = if k.tag = .merge then ownRows depth es
      else joinEntries depth (k.keyFinding depth) (value depth v) (ownRows depth es) := by
  by_cases valueKey : ∃ n s, k = .scalar n .value s
  · obtain ⟨n, s, rfl⟩ := valueKey
    rw [ownRows]
    rfl
  · rw [ownRows, keyFinding_of_plain valueKey]
    exact fun n s same => valueKey ⟨n, s, same⟩

/-- A text is read at every depth or at none. -/
theorem value_text_of_value {depth : Nat} {node : Node} {s : String}
    (read : node.value depth = .ok (.text s)) (depth' : Nat) :
    node.value depth' = .ok (.text s) := by
  have found {t : Tag} (read : scalarFinding depth t node = .ok (.text s)) :
      scalarFinding depth' t node = .ok (.text s) := by
    unfold scalarFinding at read ⊢
    cases made : scalarValue t node with
    | ok v => rwa [made] at read
    | error f =>
        rw [made] at read
        exact absurd read fault_ne_ok
  cases node with
  | scalar n t text =>
      rw [value] at read ⊢
      split at read
      · exact found read
      all_goals exact absurd read fault_ne_ok
  | sequence n t xs =>
      rw [value] at read
      split at read
      · obtain ⟨items, -, same⟩ := map_eq_ok_iff.mp read
        cases same
      · obtain ⟨items, -, same⟩ := map_eq_ok_iff.mp read
        cases same
      all_goals exact absurd read fault_ne_ok
  | mapping n t es =>
      rw [value] at read ⊢
      split at read
      · split at read
        · obtain ⟨taken, own, -, -, same⟩ := both_eq_ok_iff.mp read
          cases same
        · exact absurd read fault_ne_ok
      · exact absurd read fault_ne_ok
      · exact absurd read fault_ne_ok
      · exact found read
      · exact absurd read fault_ne_ok

theorem keyFinding_text_of_keyFinding {depth : Nat} {k : Node} {s : String}
    (read : k.keyFinding depth = .ok (.text s)) (depth' : Nat) :
    k.keyFinding depth' = .ok (.text s) := by
  unfold keyFinding at read ⊢
  split at read
  · exact read
  · exact value_text_of_value read depth'

theorem keyValue_eq_text_iff (k : Node) (name : String) :
    k.keyValue = .text name ↔ k.keyFinding 0 = .ok (.text name) := by
  by_cases valueKey : ∃ n s, k = .scalar n .value s
  · obtain ⟨n, s, rfl⟩ := valueKey
    simp [keyValue, keyFinding]
  · rw [keyFinding_of_plain valueKey]
    unfold keyValue
    split
    · exact absurd ⟨_, _, rfl⟩ valueKey
    · cases k.value 0 with
      | ok v => simp
      | error e => simp

/-- The key of a row is a name exactly if its node is this name as a key. -/
theorem same_text_of_keyFinding {depth : Nat} {k : Node} {key : Value} (name : String)
    (read : k.keyFinding depth = .ok key) :
    k.keyValue.same (.text name) = key.same (.text name) := by
  rw [Bool.eq_iff_iff, Value.same_text_right, Value.same_text_right, keyValue_eq_text_iff]
  constructor
  · intro named
    rw [keyFinding_text_of_keyFinding named depth, Except.ok.injEq] at read
    exact read.symm
  · rintro rfl
    exact keyFinding_text_of_keyFinding read 0

/-! ## Entries -/

/-- The entries that a mapping has of its own. -/
def ownEntries (es : List (Node × Node)) : List (Node × Node) := es.filter (·.1.tag ≠ .merge)

mutual

/-- The entries that a mapping takes over. -/
def takenEntries : List (Node × Node) → List (Node × Node)
  | [] => []
  | (k, v) :: rest =>
    if k.tag = .merge then mergedEntries v ++ takenEntries rest else takenEntries rest

/-- The entries that the value of a merge key stands for. -/
def mergedEntries : Node → List (Node × Node)
  | mapping _ _ es => takenEntries es ++ ownEntries es
  | sequence _ _ xs => mergedItemEntries xs
  | scalar .. => []

/-- The entries of a row of mappings, those of an earlier mapping last. -/
def mergedItemEntries : List Node → List (Node × Node)
  | [] => []
  | x :: xs => mergedItemEntries xs ++ mergedEntries x

end

/-- An entry that is read as a row. -/
structure ReadsAs (depth : Nat) (e : Node × Node) (row : Value × Value) : Prop where
  key : e.1.keyFinding depth = .ok row.1
  value : e.2.value depth = .ok row.2

theorem ownRows_readsAs (depth : Nat) {es : List (Node × Node)} {rows : List (Value × Value)}
    (read : ownRows depth es = .ok rows) :
    List.Forall₂ (ReadsAs depth) (ownEntries es) rows := by
  induction es generalizing rows with
  | nil =>
      rw [ownRows] at read
      cases read
      exact .nil
  | cons e es ih =>
      obtain ⟨k, v⟩ := e
      rw [ownRows_cons] at read
      split at read
      · rename_i isMerge
        rw [ownEntries, List.filter_cons_of_neg (by simpa using isMerge)]
        exact ih read
      · rename_i isOwn
        rw [ownEntries, List.filter_cons_of_pos (by simpa using isOwn)]
        obtain ⟨key, w, more, found, -, here, there, rfl⟩ := joinEntries_eq_ok read
        exact .cons ⟨found, here⟩ (ih there)

mutual

theorem takenRows_readsAs (depth : Nat) :
    ∀ {es : List (Node × Node)} {rows : List (Value × Value)},
      takenRows depth es = .ok rows → List.Forall₂ (ReadsAs depth) (takenEntries es) rows
  | [], rows, read => by
      rw [takenRows] at read
      cases read
      exact .nil
  | (k, v) :: rest, rows, read => by
      rw [takenRows] at read
      rw [takenEntries]
      split at read
      · rename_i isMerge
        obtain ⟨merged, more, here, there, rfl⟩ := both_eq_ok_iff.mp read
        rw [if_pos isMerge]
        exact List.rel_append (mergedRows_readsAs depth here) (takenRows_readsAs depth there)
      · rename_i isOwn
        rw [if_neg isOwn]
        exact takenRows_readsAs depth read

theorem mergedRows_readsAs (depth : Nat) : ∀ {node : Node} {rows : List (Value × Value)},
    mergedRows depth node = .ok rows → List.Forall₂ (ReadsAs depth) (mergedEntries node) rows
  | .mapping n t es, rows, read => by
      rw [mergedRows] at read
      obtain ⟨taken, own, foundTaken, foundOwn, rfl⟩ := both_eq_ok_iff.mp read
      rw [mergedEntries]
      exact List.rel_append (takenRows_readsAs depth foundTaken) (ownRows_readsAs depth foundOwn)
  | .sequence n t xs, rows, read => by
      rw [mergedRows] at read
      rw [mergedEntries]
      exact mergedItems_readsAs depth read
  | .scalar n t s, rows, read => by
      rw [mergedRows] at read
      cases read
      exact .nil

theorem mergedItems_readsAs (depth : Nat) :
    ∀ {nodes : List Node} {rows : List (Value × Value)},
      mergedItems depth nodes = .ok rows →
        List.Forall₂ (ReadsAs depth) (mergedItemEntries nodes) rows
  | [], rows, read => by
      rw [mergedItems] at read
      cases read
      exact .nil
  | node :: nodes, rows, read => by
      rw [mergedItems] at read
      obtain ⟨later, earlier, there, here, rfl⟩ := both_eq_ok_iff.mp read
      rw [mergedItemEntries]
      exact List.rel_append (mergedItems_readsAs depth there) (mergedRows_readsAs depth here)

end

/-! ## Paths -/

/-- The node under a key of a mapping's entries: the last one of those that are taken over and of
its own. -/
def underKey? (name : String) (es : List (Node × Node)) : Option Node :=
  ((takenEntries es ++ ownEntries es).reverse.find? (·.1.keyValue.same (.text name))).map (·.2)

/-- The node under a path of keys. -/
def at? : List String → Node → Option Node
  | [], node => some node
  | name :: path, mapping _ .map es => (underKey? name es).bind (at? path)
  | _ :: _, _ => none

/-- In related rows the first members with a property are related. -/
theorem exists_find?_of_forall₂ {α β : Type} {R : α → β → Prop} {p : α → Bool} {q : β → Bool}
    (same : ∀ x y, R x y → p x = q y) {xs : List α} {ys : List β} (related : List.Forall₂ R xs ys)
    {x : α} (found : xs.find? p = some x) : ∃ y, ys.find? q = some y ∧ R x y := by
  induction related with
  | nil => cases found
  | @cons x' y' _ _ here _ ih =>
      cases isThis : p x' with
      | true =>
          rw [List.find?_cons_of_pos isThis, Option.some.injEq] at found
          subst found
          exact ⟨y', List.find?_cons_of_pos (same _ _ here ▸ isThis), here⟩
      | false =>
          rw [List.find?_cons_of_neg (by simp [isThis])] at found
          rw [List.find?_cons_of_neg (by simp [← same _ _ here, isThis])]
          exact ih found

/-- What stands under a key makes the value of the field with its name. -/
theorem exists_field_of_underKey? {depth number : Nat} {es : List (Node × Node)} {v : Value}
    (read : (mapping number .map es).value depth = .ok v) {name : String} {node : Node}
    (found : underKey? name es = some node) :
    ∃ rows w, v = .map rows ∧ Value.field name rows = some w ∧
      node.value (depth + 1) = .ok w := by
  rw [value] at read
  dsimp only [shapeOf] at read
  split at read
  · obtain ⟨taken, own, foundTaken, foundOwn, rfl⟩ := both_eq_ok_iff.mp read
    obtain ⟨e, last, rfl⟩ := Option.map_eq_some_iff.mp found
    have rows := List.rel_append (takenRows_readsAs _ foundTaken) (ownRows_readsAs _ foundOwn)
    have named : ∀ e row, ReadsAs (depth + 1) e row →
        e.1.keyValue.same (.text name) = row.1.same (.text name) :=
      fun e row reads => same_text_of_keyFinding name reads.key
    obtain ⟨row, there, reads⟩ :=
      exists_find?_of_forall₂ named (List.forall₂_reverse_iff.mpr rows) last
    exact ⟨_, row.2, rfl, by rw [Value.field_ofRows, there]; rfl, reads.value⟩
  · exact absurd read fault_ne_ok

/-- **What stands under a path makes the value under the same path.** -/
theorem exists_below?_of_at? {path : List String} {depth : Nat} {root leaf : Node} {v : Value}
    (read : root.value depth = .ok v) (found : root.at? path = some leaf) :
    ∃ depth w, v.below? path = some w ∧ leaf.value depth = .ok w := by
  induction path generalizing depth root v with
  | nil =>
      cases found
      exact ⟨depth, v, rfl, read⟩
  | cons name path ih =>
      unfold at? at found
      split at found
      · rename_i same
        cases same
      · rename_i number es same
        cases same
        obtain ⟨node, here, there⟩ := Option.bind_eq_some_iff.mp found
        obtain ⟨rows, w, rfl, field, value⟩ := exists_field_of_underKey? read here
        obtain ⟨depth', u, inside, made⟩ := ih value there
        exact ⟨depth', u, by rw [Value.below?, field, Option.bind_some, inside], made⟩
      · cases found

end Yaml.Node

end Conveyor
