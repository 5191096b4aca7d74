import Conveyor.Proofs.Value.Expansion

/-!
# Depth

What stands in a collection is nested less deeply than the collection. Replacing the references in
a value changes texts only, so it keeps the depth of the value; and it goes no deeper into the
value than the value is nested.
-/

set_option autoImplicit false

namespace Conveyor.Value

theorem depth_le_itemsDepth {x : Value} : ∀ {xs : List Value}, x ∈ xs → x.depth ≤ itemsDepth xs
  | y :: ys, member => by
      rw [itemsDepth]
      rcases List.mem_cons.mp member with rfl | there
      · exact Nat.le_max_left _ _
      · exact Nat.le_trans (depth_le_itemsDepth there) (Nat.le_max_right _ _)

theorem depth_le_entriesDepth {e : Value × Value} : ∀ {es : List (Value × Value)}, e ∈ es →
    e.2.depth ≤ entriesDepth es
  | (k, v) :: es, member => by
      rw [entriesDepth]
      rcases List.mem_cons.mp member with rfl | there
      · exact Nat.le_trans (Nat.le_max_right _ _) (Nat.le_max_left _ _)
      · exact Nat.le_trans (depth_le_entriesDepth there) (Nat.le_max_right _ _)

/-- An item is nested less deeply than its list. -/
theorem depth_le_list {x : Value} {xs : List Value} (member : x ∈ xs) :
    x.depth ≤ (Value.list xs).depth :=
  Nat.le_succ_of_le (depth_le_itemsDepth member)

/-- A value is nested less deeply than its mapping. -/
theorem depth_le_map {e : Value × Value} {es : List (Value × Value)} (member : e ∈ es) :
    e.2.depth ≤ (Value.map es).depth :=
  Nat.le_succ_of_le (depth_le_entriesDepth member)

theorem depth_le_of_field {key : String} {v : Value} {es : List (Value × Value)}
    (found : field key es = some v) : v.depth ≤ (Value.map es).depth :=
  depth_le_map (mem_of_field found)

mutual

/-- Replacing references keeps the depth. -/
theorem depth_expanded (env : Environment) : ∀ v : Value, (v.expanded env).depth = v.depth
  | .list xs => congrArg (· + 1) (itemsDepth_expanded env xs)
  | .map es => congrArg (· + 1) (entriesDepth_expanded env es)
  | .null | .bool _ | .int _ | .float _ | .text _ | .bytes _ | .date _ | .moment _ | .tuple _ => rfl

theorem itemsDepth_expanded (env : Environment) :
    ∀ xs : List Value, itemsDepth (expandedItems env xs) = itemsDepth xs
  | [] => rfl
  | x :: xs => by
      rw [expandedItems, itemsDepth, itemsDepth, depth_expanded env x, itemsDepth_expanded env xs]

theorem entriesDepth_expanded (env : Environment) :
    ∀ es : List (Value × Value), entriesDepth (expandedEntries env es) = entriesDepth es
  | [] => rfl
  | (k, v) :: es => by
      rw [expandedEntries, entriesDepth, entriesDepth, depth_expanded env v,
        entriesDepth_expanded env es]

end

mutual

/-- The references of a value stand no deeper than the value is nested. -/
theorem reach_le_depth : ∀ v : Value, v.reach ≤ v.depth
  | .list xs => Nat.succ_le_succ (reachOfItems_le xs)
  | .map es => Nat.succ_le_succ (reachOfEntries_le es)
  | .null | .bool _ | .int _ | .float _ | .text _ | .bytes _ | .date _ | .moment _ | .tuple _ =>
      Nat.zero_le _

theorem reachOfItems_le : ∀ xs : List Value, reachOfItems xs ≤ itemsDepth xs
  | [] => Nat.le_refl 0
  | x :: xs => by
      have here := reach_le_depth x
      have there := reachOfItems_le xs
      rw [reachOfItems, itemsDepth]
      omega

theorem reachOfEntries_le : ∀ es : List (Value × Value), reachOfEntries es ≤ entriesDepth es
  | [] => Nat.le_refl 0
  | (k, v) :: es => by
      have here := reach_le_depth v
      have there := reachOfEntries_le es
      rw [reachOfEntries, entriesDepth]
      omega

end

theorem reachOfItems_le_iff {n : Nat} : ∀ {xs : List Value},
    reachOfItems xs ≤ n ↔ ∀ x ∈ xs, x.reach ≤ n
  | [] => by simp [reachOfItems]
  | x :: xs => by
      rw [reachOfItems, Nat.max_le, List.forall_mem_cons, reachOfItems_le_iff]

theorem reachOfEntries_le_iff {n : Nat} : ∀ {es : List (Value × Value)},
    reachOfEntries es ≤ n ↔ ∀ e ∈ es, e.2.reach ≤ n
  | [] => by simp [reachOfEntries]
  | (k, v) :: es => by
      rw [reachOfEntries, Nat.max_le, List.forall_mem_cons, reachOfEntries_le_iff]

@[simp] theorem reach_text (s : String) : (Value.text s).reach = 0 := rfl

@[simp] theorem reach_list_le_iff {xs : List Value} {n : Nat} :
    (Value.list xs).reach ≤ n + 1 ↔ ∀ x ∈ xs, x.reach ≤ n := by
  rw [reach, Nat.add_le_add_iff_right, reachOfItems_le_iff]

@[simp] theorem reach_map_le_iff {es : List (Value × Value)} {n : Nat} :
    (Value.map es).reach ≤ n + 1 ↔ ∀ e ∈ es, e.2.reach ≤ n := by
  rw [reach, Nat.add_le_add_iff_right, reachOfEntries_le_iff]

end Conveyor.Value
