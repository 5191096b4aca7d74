import Conveyor.Proofs.Value.Data
import Conveyor.Proofs.Value.Verdict
import Conveyor.Yaml.Reader

/-!
# What is read from YAML is data

A document denotes data: the keys of its mappings are scalars, because a collection is turned down
as a key, and no two keys of a mapping are the same, because a later row replaces an earlier one.
-/

set_option autoImplicit false

namespace Conveyor.Yaml

namespace Findings

variable {α β γ : Type}

/-- Two results join if both are there. -/
theorem both_eq_ok_iff {f : α → β → γ} {x : Findings α} {y : Findings β} {c : γ} :
    both f x y = .ok c ↔ ∃ a b, x = .ok a ∧ y = .ok b ∧ f a b = c := by
  cases x <;> cases y <;> simp [both]

theorem map_eq_ok_iff {f : α → β} {x : Findings α} {b : β} :
    f <$> x = .ok b ↔ ∃ a, x = .ok a ∧ f a = b := by
  cases x <;> simp [Functor.map, Except.map]

@[simp] theorem fault_ne_ok {depth : Nat} {f : Fault} {a : α} : fault depth f ≠ .ok a := by
  simp [fault]

end Findings

namespace Node

open Findings

/-- What a node can denote: data, and no tuple. -/
structure Denoted (v : Value) : Prop where
  isData : v.IsData
  noTuple : ∀ xs, v ≠ .tuple xs

/-- The keys are scalars, and the values are data. -/
def AreRows (rows : List (Value × Value)) : Prop :=
  ∀ r ∈ rows, r.1.isScalar = true ∧ r.2.IsData

theorem Denoted.of_isScalar {v : Value} (scalar : v.isScalar = true) : Denoted v := by
  cases v <;> first
    | exact ⟨trivial, fun xs same => by cases same⟩
    | simp [Value.isScalar] at scalar

theorem Denoted.isScalar {v : Value} (denoted : Denoted v) (key : v.isKey = true) :
    v.isScalar = true := by
  cases v <;> first
    | rfl
    | exact absurd rfl (denoted.noTuple _)
    | simp [Value.isKey] at key

theorem AreRows.append {rows more : List (Value × Value)} (h : AreRows rows)
    (hm : AreRows more) : AreRows (rows ++ more) := by
  intro r hr
  rcases List.mem_append.mp hr with here | there
  · exact h r here
  · exact hm r there

theorem ofContent_eq_ok {α : Type} {f : α → Value} {content : Except Mismatch α} {v : Value}
    (read : ofContent f content = .ok v) : ∃ a, content = .ok a ∧ f a = v := by
  cases content with
  | ok a => exact ⟨a, rfl, by simpa [ofContent] using read⟩
  | error m => cases read

/-- A timestamp is a date or a moment. -/
theorem timestamp_isScalar {s : List Char} {v : Value} (read : Content.timestamp s = .ok v) :
    v.isScalar = true := by
  unfold Content.timestamp at read
  split at read
  · cases read
  · dsimp only at read
    split at read
    · obtain ⟨-, -, read⟩ := bind_eq_ok_iff.mp read
      rw [pure_eq_ok_iff] at read
      subst read
      rfl
    · obtain ⟨zone, -, read⟩ := bind_eq_ok_iff.mp read
      obtain ⟨-, -, read⟩ := bind_eq_ok_iff.mp read
      obtain ⟨-, -, read⟩ := bind_eq_ok_iff.mp read
      rw [pure_eq_ok_iff] at read
      subst read
      rfl

theorem scalarValue_isScalar {t : Tag} {node : Node} {v : Value}
    (read : scalarValue t node = .ok v) : v.isScalar = true := by
  obtain ⟨s, -, read⟩ := bind_eq_ok_iff.mp read
  cases t <;> dsimp only at read
  case null => rw [pure_eq_ok_iff] at read; subst read; rfl
  case str => rw [pure_eq_ok_iff] at read; subst read; rfl
  case bool => obtain ⟨b, -, rfl⟩ := ofContent_eq_ok read; rfl
  case int => obtain ⟨n, -, rfl⟩ := ofContent_eq_ok read; rfl
  case float => obtain ⟨x, -, rfl⟩ := ofContent_eq_ok read; rfl
  case timestamp =>
    split at read
    · obtain ⟨stamp, found, rfl⟩ := ofContent_eq_ok read
      exact timestamp_isScalar found
    · cases read
  case binary =>
    split at read
    · rw [pure_eq_ok_iff] at read
      subst read
      rfl
    · cases read
  all_goals cases read

theorem scalarFinding_denoted {depth : Nat} {t : Tag} {node : Node} {v : Value}
    (read : scalarFinding depth t node = .ok v) : Denoted v := by
  unfold scalarFinding at read
  split at read
  · rename_i found
    cases read
    exact .of_isScalar (scalarValue_isScalar found)
  · exact absurd read fault_ne_ok

/-- An entry joins others if its key may be one and if all of them are read. -/
theorem joinEntries_eq_ok {depth : Nat} {key value : Findings Value}
    {rest : Findings (List (Value × Value))} {rows : List (Value × Value)}
    (read : joinEntries depth key value rest = .ok rows) :
    ∃ k v es, key = .ok k ∧ k.isKey = true ∧ value = .ok v ∧ rest = .ok es ∧
      rows = (k, v) :: es := by
  unfold joinEntries at read
  split at read
  · split at read
    · exact absurd read fault_ne_ok
    · cases read
  · rename_i k
    split at read
    · rename_i isKey
      obtain ⟨v, es, found, more, rfl⟩ := both_eq_ok_iff.mp read
      exact ⟨k, v, es, rfl, isKey, found, more, rfl⟩
    · exact absurd read fault_ne_ok

theorem joinEntries_rows {depth : Nat} {key value : Findings Value}
    {rest : Findings (List (Value × Value))} {rows : List (Value × Value)}
    (keys : ∀ k, key = .ok k → Denoted k) (values : ∀ v, value = .ok v → Denoted v)
    (others : ∀ es, rest = .ok es → AreRows es)
    (read : joinEntries depth key value rest = .ok rows) : AreRows rows := by
  obtain ⟨k, v, es, keyed, isKey, found, more, rfl⟩ := joinEntries_eq_ok read
  intro r hr
  rcases List.mem_cons.mp hr with here | there
  · exact here ▸ ⟨(keys k keyed).isScalar isKey, (values v found).isData⟩
  · exact others es more r there

theorem isData_items {xs : List Value} (each : ∀ x ∈ xs, Denoted x) : Denoted (.list xs) :=
  ⟨(Value.isData_list xs).mpr fun x hx => (each x hx).isData, fun ys same => by cases same⟩

theorem isData_rows {rows : List (Value × Value)} (each : AreRows rows) :
    Denoted (.map (Value.ofRows rows)) :=
  ⟨Value.isData_ofRows each, fun ys same => by cases same⟩

mutual

theorem value_denoted (depth : Nat) : ∀ {node : Node} {v : Value},
    value depth node = .ok v → Denoted v
  | .scalar n t s, v, read => by
      rw [value] at read
      split at read
      · exact scalarFinding_denoted read
      all_goals exact absurd read fault_ne_ok
  | .sequence n t xs, v, read => by
      rw [value] at read
      split at read
      · obtain ⟨items, found, rfl⟩ := map_eq_ok_iff.mp read
        exact isData_items (itemValues_denoted (depth + 1) found)
      · obtain ⟨items, found, rfl⟩ := map_eq_ok_iff.mp read
        exact ⟨(Value.isData_list items).mpr (pairValues_data (depth + 1) found),
          fun ys same => by cases same⟩
      all_goals exact absurd read fault_ne_ok
  | .mapping n t es, v, read => by
      rw [value] at read
      split at read
      · split at read
        · obtain ⟨taken, own, foundTaken, foundOwn, rfl⟩ := both_eq_ok_iff.mp read
          exact isData_rows ((takenRows_areRows (depth + 1) foundTaken).append
            (ownRows_areRows (depth + 1) foundOwn))
        · exact absurd read fault_ne_ok
      · exact absurd read fault_ne_ok
      · exact absurd read fault_ne_ok
      · exact scalarFinding_denoted read
      · exact absurd read fault_ne_ok

theorem itemValues_denoted (depth : Nat) : ∀ {nodes : List Node} {xs : List Value},
    itemValues depth nodes = .ok xs → ∀ x ∈ xs, Denoted x
  | [], xs, read => by
      rw [itemValues] at read
      cases read
      simp
  | node :: nodes, xs, read => by
      rw [itemValues] at read
      obtain ⟨x, rest, here, there, rfl⟩ := both_eq_ok_iff.mp read
      exact List.forall_mem_cons.mpr ⟨value_denoted depth here, itemValues_denoted depth there⟩

theorem ownRows_areRows (depth : Nat) : ∀ {es : List (Node × Node)} {rows : List (Value × Value)},
    ownRows depth es = .ok rows → AreRows rows
  | [], rows, read => by
      rw [ownRows] at read
      cases read
      exact fun r hr => by simp at hr
  | (k, v) :: rest, rows, read => by
      -- A value key stands for its own text, every other key for its value.
      by_cases valueKey : ∃ n s, k = .scalar n .value s
      · obtain ⟨n, s, rfl⟩ := valueKey
        rw [ownRows] at read
        split at read
        · exact ownRows_areRows depth read
        · exact joinEntries_rows (fun key found => by cases found; exact .of_isScalar rfl)
            (fun w found => value_denoted depth found) (fun es found => ownRows_areRows depth found)
            read
      · rw [ownRows] at read
        · split at read
          · exact ownRows_areRows depth read
          · exact joinEntries_rows (fun key found => value_denoted depth found)
              (fun w found => value_denoted depth found)
              (fun es found => ownRows_areRows depth found) read
        · exact fun n s same => valueKey ⟨n, s, same⟩

theorem takenRows_areRows (depth : Nat) :
    ∀ {es : List (Node × Node)} {rows : List (Value × Value)},
      takenRows depth es = .ok rows → AreRows rows
  | [], rows, read => by
      rw [takenRows] at read
      cases read
      exact fun r hr => by simp at hr
  | (k, v) :: rest, rows, read => by
      rw [takenRows] at read
      split at read
      · obtain ⟨merged, more, here, there, rfl⟩ := both_eq_ok_iff.mp read
        exact (mergedRows_areRows depth here).append (takenRows_areRows depth there)
      · exact takenRows_areRows depth read

theorem mergedRows_areRows (depth : Nat) : ∀ {node : Node} {rows : List (Value × Value)},
    mergedRows depth node = .ok rows → AreRows rows
  | .mapping n t es, rows, read => by
      rw [mergedRows] at read
      obtain ⟨taken, own, foundTaken, foundOwn, rfl⟩ := both_eq_ok_iff.mp read
      exact (takenRows_areRows depth foundTaken).append (ownRows_areRows depth foundOwn)
  | .sequence n t xs, rows, read => by
      rw [mergedRows] at read
      exact mergedItems_areRows depth read
  | .scalar n t s, rows, read => by
      rw [mergedRows] at read
      cases read
      exact fun r hr => by simp at hr

theorem mergedItems_areRows (depth : Nat) : ∀ {nodes : List Node} {rows : List (Value × Value)},
    mergedItems depth nodes = .ok rows → AreRows rows
  | [], rows, read => by
      rw [mergedItems] at read
      cases read
      exact fun r hr => by simp at hr
  | node :: nodes, rows, read => by
      rw [mergedItems] at read
      obtain ⟨later, earlier, there, here, rfl⟩ := both_eq_ok_iff.mp read
      exact (mergedItems_areRows depth there).append (mergedRows_areRows depth here)

theorem pairValues_data (depth : Nat) : ∀ {nodes : List Node} {xs : List Value},
    pairValues depth nodes = .ok xs → ∀ x ∈ xs, x.IsData
  | [], xs, read => by
      rw [pairValues] at read
      cases read
      simp
  | .mapping _ _ [(k, v)] :: nodes, xs, read => by
      rw [pairValues] at read
      obtain ⟨pair, rest, here, there, rfl⟩ := both_eq_ok_iff.mp read
      obtain ⟨key, item, foundKey, foundItem, rfl⟩ := both_eq_ok_iff.mp here
      refine List.forall_mem_cons.mpr ⟨?_, pairValues_data depth there⟩
      exact ⟨(value_denoted depth foundKey).isData, (value_denoted depth foundItem).isData, trivial⟩
  | .scalar _ _ _ :: _, xs, read => by
      simp only [pairValues] at read
      exact absurd read fault_ne_ok
  | .sequence _ _ _ :: _, xs, read => by
      simp only [pairValues] at read
      exact absurd read fault_ne_ok
  | .mapping _ _ [] :: _, xs, read => by
      simp only [pairValues] at read
      exact absurd read fault_ne_ok
  | .mapping _ _ (_ :: _ :: _) :: _, xs, read => by
      simp only [pairValues] at read
      exact absurd read fault_ne_ok

end

end Node

/-- The value that a text holds is data. -/
theorem isData_of_read {text : String} {v : Value} (read : Yaml.read text = .ok v) : v.IsData := by
  obtain ⟨root, -, denoted⟩ := bind_eq_ok_iff.mp read
  split at denoted
  · rw [pure_eq_ok_iff] at denoted
    subst denoted
    trivial
  · split at denoted
    · rename_i found
      rw [pure_eq_ok_iff] at denoted
      subst denoted
      exact (Node.value_denoted 0 found).isData
    · cases denoted

end Conveyor.Yaml
