import Conveyor.Proofs.Log.Outcome
import Conveyor.Proofs.Reference.Matching
import Conveyor.Proofs.Value.Data

/-!
# References in data

Replacing references changes texts only: a mapping keeps its keys, a list its length, so what is
data stays data. Whatever the references are, the replacement succeeds.
-/

set_option autoImplicit false

namespace Conveyor

namespace Reference

/-- Without a dollar sign there is no reference. -/
theorem pieces_of_not_mem {s : List Char} (plain : '$' ∉ s) : pieces s = s.map .char := by
  induction s with
  | nil => rw [pieces, List.map_nil]
  | cons c s ih =>
      have other : c ≠ '$' := fun same => plain (by simp [same])
      have none_ : ¬ Starts (c :: s) := by
        rw [starts_iff]
        rintro ⟨x, signs | signs, -⟩ <;> exact other (List.cons.inj signs).1
      rw [pieces_of_read?_eq_none (read?_eq_none_iff.mpr none_),
        ih fun there => plain (List.mem_cons_of_mem _ there), List.map_cons]

theorem substitute_of_not_mem {env : Environment} {s : List Char} (plain : '$' ∉ s) :
    substitute env s = s := by
  rw [substitute, pieces_of_not_mem plain, List.flatMap_map]
  exact List.flatMap_singleton' s

/-- A text that is nothing but a reference. -/
theorem substitute_of_read? {env : Environment} {s : List Char} {r : Reference}
    (read : read? s = some (r, [])) : substitute env s = r.expand env := by
  rw [substitute, pieces_of_read? read, pieces]
  exact List.flatMap_singleton _ _

end Reference

namespace Value

theorem expanded_text {env : Environment} {s : String} (plain : '$' ∉ s.toList) :
    (Value.text s).expanded env = .text s := by
  rw [expanded, Reference.substitute_of_not_mem plain, String.ofList_toList]

theorem expandedItems_eq_map (env : Environment) (xs : List Value) :
    expandedItems env xs = xs.map (expanded env) := by
  induction xs with
  | nil => rfl
  | cons x xs ih => rw [expandedItems, ih, List.map_cons]

theorem expandedEntries_eq_map (env : Environment) (es : List (Value × Value)) :
    expandedEntries env es = es.map fun e => (e.1, expanded env e.2) := by
  induction es with
  | nil => rfl
  | cons e es ih => simp only [expandedEntries, List.map_cons, ih]

/-- A mapping is keyed by its keys alone. -/
theorem Keyed.mapValues (f : Value → Value) {es : List (Value × Value)} (keyed : Keyed es) :
    Keyed (es.map fun e => (e.1, f e.2)) := by
  refine ⟨?_, ?_⟩
  · rw [List.forall_mem_map]
    exact keyed.scalar
  · rw [List.pairwise_map]
    exact keyed.distinct

mutual

theorem isData_expanded (env : Environment) : ∀ {v : Value}, v.IsData → (v.expanded env).IsData
  | .list xs, data => by
      rw [expanded, IsData]
      exact areData_expanded env data
  | .map es, data => by
      rw [expanded, isData_map, expandedEntries_eq_map]
      refine ⟨data.1.mapValues _, ?_⟩
      rw [← expandedEntries_eq_map, ← areEntriesOfData_iff]
      exact areEntriesOfData_expanded env data.2
  | .text s, _ => trivial
  | .tuple xs, data => data
  | .null, _ | .bool _, _ | .int _, _ | .float _, _ | .bytes _, _ | .date _, _ | .moment _, _ =>
      trivial

theorem areData_expanded (env : Environment) :
    ∀ {xs : List Value}, AreData xs → AreData (expandedItems env xs)
  | [], _ => trivial
  | _ :: _, data => ⟨isData_expanded env data.1, areData_expanded env data.2⟩

theorem areEntriesOfData_expanded (env : Environment) :
    ∀ {es : List (Value × Value)}, AreEntriesOfData es → AreEntriesOfData (expandedEntries env es)
  | [], _ => trivial
  | (_, _) :: _, data => ⟨isData_expanded env data.1, areEntriesOfData_expanded env data.2⟩

end

/-- From a journal that is ready the references of a value can always be replaced. -/
theorem substitute_yields (env : Environment) (v : Value) :
    Logged.Yields env v.substitute (.ok (v.expanded env)) := by
  refine .after .read ?_
  refine .after (.forIn (fun name => ?_) _) (.pure _)
  exact .after (Log.event_yields .debug "utils" _) (.pure _)

end Value

end Conveyor
