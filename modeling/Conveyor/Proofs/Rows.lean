import Mathlib.Data.List.Basic

/-!
# Looking up in rows

A row of keys and values is looked up from its front; looked up from behind, the last entry of a
key counts.
-/

set_option autoImplicit false

namespace Conveyor.Rows

variable {α β : Type} [BEq α] [LawfulBEq α] {rows : List (α × β)} {key : α} {v : β}

theorem lookup_cons_eq_ite [DecidableEq α] (key k : α) (v : β) (rows : List (α × β)) :
    ((k, v) :: rows).lookup key = if key = k then some v else rows.lookup key := by
  rw [List.lookup_cons]
  by_cases same : key = k
  · simp [same]
  · have other : (key == k) = false := by simpa using same
    rw [other, if_neg same]

/-- What is found from behind is the value of an entry that has no other one of its key after it. -/
theorem lookup_reverse_eq_some_iff : rows.reverse.lookup key = some v ↔
    ∃ before after, rows = before ++ (key, v) :: after ∧ ∀ row ∈ after, row.1 ≠ key := by
  rw [List.lookup_eq_some_iff]
  constructor
  · rintro ⟨later, earlier, split, others⟩
    refine ⟨earlier.reverse, later.reverse, ?_, fun row there => ?_⟩
    · rw [← List.reverse_reverse rows, split, List.reverse_append, List.reverse_cons,
        List.append_assoc, List.singleton_append]
    · exact Ne.symm (bne_iff_ne.mp (others row (List.mem_reverse.mp there)))
  · rintro ⟨before, after, rfl, others⟩
    refine ⟨after.reverse, before.reverse, ?_, fun row there => ?_⟩
    · rw [List.reverse_append, List.reverse_cons, List.append_assoc, List.singleton_append]
    · exact bne_iff_ne.mpr (Ne.symm (others row (List.mem_reverse.mp there)))

theorem lookup_reverse_eq_none_iff :
    rows.reverse.lookup key = none ↔ ∀ row ∈ rows, key ≠ row.1 := by
  rw [List.lookup_eq_none_iff]
  refine forall_congr' fun row => ?_
  rw [List.mem_reverse, bne_iff_ne]

end Conveyor.Rows
