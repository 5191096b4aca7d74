import Conveyor.Proofs.Rows
import Conveyor.Registry
import Mathlib

/-!
# What a registry knows

A registry is built up by registrations, one after another. Its names are the names that were
registered, each of them once and in the order in which they first came: a name that comes again
keeps its place (`listsFirst_names`). A name gives the renderer that was last registered under it,
and exactly a name that was never registered is refused, with the names that there are
(`records_ofRows`).
-/

set_option autoImplicit false

namespace Conveyor.Registry

variable {names row : List String} {rows : List (String × Renderer)} {r : Registry} {name : String}
  {renderer : Renderer}

/-- The registry after some registrations, one after another. -/
def ofRows (rows : List (String × Renderer)) : Registry :=
  rows.foldl (fun r row => r.register row.1 row.2) {}

theorem ofRows_concat (rows : List (String × Renderer)) (row : String × Renderer) :
    ofRows (rows ++ [row]) = (ofRows rows).register row.1 row.2 := by
  rw [ofRows, List.foldl_append]
  rfl

/-- The renderers that every session knows were registered in the order of their names. -/
theorem builtin_eq_ofRows : builtin = ofRows builtin.renderers := rfl

/-! ## Names -/

/-- The names in a row, in the order in which they first come. -/
structure ListsFirst (names row : List String) : Prop where
  mem_iff : ∀ n, n ∈ names ↔ n ∈ row
  ordered : names.Pairwise fun m n => row.idxOf m < row.idxOf n

theorem ListsFirst.nil : ListsFirst [] [] := ⟨fun _ => Iff.rfl, .nil⟩

/-- No name is listed twice, since it comes first in one place only. -/
theorem ListsFirst.nodup (h : ListsFirst names row) : names.Nodup := by
  refine List.Pairwise.imp (fun {m n} before => ?_) h.ordered
  rintro rfl
  exact Nat.lt_irrefl _ before

/-- A longer row does not change the order of the names that came before. -/
theorem ListsFirst.ordered_append (h : ListsFirst names row) (more : List String) :
    names.Pairwise fun m n => (row ++ more).idxOf m < (row ++ more).idxOf n := by
  refine h.ordered.imp_of_mem fun {m n} listed listed' before => ?_
  rw [List.idxOf_append_of_mem ((h.mem_iff m).mp listed),
    List.idxOf_append_of_mem ((h.mem_iff n).mp listed')]
  exact before

/-- A name that comes again is listed where it was. -/
theorem ListsFirst.again (h : ListsFirst names row) (there : name ∈ row) :
    ListsFirst names (row ++ [name]) where
  mem_iff n := by
    rw [h.mem_iff, List.mem_append, List.mem_singleton]
    exact ⟨.inl, fun either => either.elim id fun same => same ▸ there⟩
  ordered := h.ordered_append [name]

/-- A name that comes for the first time is listed last. -/
theorem ListsFirst.next (h : ListsFirst names row) (fresh : name ∉ row) :
    ListsFirst (names ++ [name]) (row ++ [name]) where
  mem_iff n := by rw [List.mem_append, List.mem_append, h.mem_iff]
  ordered := by
    refine List.pairwise_append.mpr ⟨h.ordered_append [name], List.pairwise_singleton _ _, ?_⟩
    intro m listed n last
    have came : m ∈ row := (h.mem_iff m).mp listed
    rw [List.mem_singleton.mp last, List.idxOf_append_of_mem came,
      List.idxOf_append_of_notMem fresh]
    exact Nat.lt_of_lt_of_le (List.idxOf_lt_length_of_mem came) (Nat.le_add_right _ _)

theorem names_insert (name : String) (renderer : Renderer) (rows : List (String × Renderer)) :
    (insert name renderer rows).map (·.1) =
      if name ∈ rows.map (·.1) then rows.map (·.1) else rows.map (·.1) ++ [name] := by
  induction rows with
  | nil => rfl
  | cons row rows ih =>
      obtain ⟨n, old⟩ := row
      rw [insert]
      by_cases same : n = name
      · simp [same]
      · have listed : name ∈ n :: rows.map (·.1) ↔ name ∈ rows.map (·.1) := by
          rw [List.mem_cons, or_iff_right (Ne.symm same)]
        rw [if_neg same, List.map_cons, List.map_cons, ih]
        simp only [listed]
        split <;> rfl

theorem listsFirst_names (rows : List (String × Renderer)) :
    ListsFirst (ofRows rows).names (rows.map (·.1)) := by
  induction rows using List.reverseRecOn with
  | nil => exact .nil
  | append_singleton rows row ih =>
      have listed : row.1 ∈ (ofRows rows).names ↔ row.1 ∈ rows.map (·.1) := ih.mem_iff row.1
      rw [ofRows_concat, register, names, names_insert, List.map_append]
      split
      · rename_i there
        exact ih.again (listed.mp there)
      · rename_i fresh
        exact ih.next (mt listed.mpr fresh)

/-! ## Renderers -/

/-- A renderer was registered under a name, and no other one later. -/
def IsLast (rows : List (String × Renderer)) (name : String) (renderer : Renderer) : Prop :=
  ∃ before after, rows = before ++ (name, renderer) :: after ∧ ∀ row ∈ after, row.1 ≠ name

/-- A name that is registered again has the new renderer, and all others keep theirs. -/
theorem lookup_insert (name : String) (renderer : Renderer) (rows : List (String × Renderer))
    (n : String) :
    (insert name renderer rows).lookup n = if n = name then some renderer else rows.lookup n := by
  induction rows with
  | nil => rw [insert, Rows.lookup_cons_eq_ite]
  | cons row rows ih =>
      obtain ⟨m, old⟩ := row
      rw [insert]
      by_cases replaced : m = name
      · rw [if_pos replaced, Rows.lookup_cons_eq_ite, Rows.lookup_cons_eq_ite, replaced]
        split <;> rfl
      · rw [if_neg replaced, Rows.lookup_cons_eq_ite, Rows.lookup_cons_eq_ite, ih]
        by_cases here : n = m
        · rw [if_pos here, if_neg (here ▸ replaced), if_pos here]
        · rw [if_neg here, if_neg here]

/-- Of several renderers for a name the last one counts. -/
theorem lookup_ofRows (rows : List (String × Renderer)) (name : String) :
    (ofRows rows).renderers.lookup name = rows.reverse.lookup name := by
  induction rows using List.reverseRecOn with
  | nil => rfl
  | append_singleton rows row ih =>
      rw [ofRows_concat, register, lookup_insert, ih, List.reverse_concat, Rows.lookup_cons_eq_ite]

theorem lookup_ofRows_eq_some_iff :
    (ofRows rows).renderers.lookup name = some renderer ↔ IsLast rows name renderer := by
  rw [lookup_ofRows]
  exact Rows.lookup_reverse_eq_some_iff

theorem lookup_ofRows_eq_none_iff :
    (ofRows rows).renderers.lookup name = none ↔ name ∉ rows.map (·.1) := by
  rw [lookup_ofRows, Rows.lookup_reverse_eq_none_iff, List.mem_map, not_exists]
  refine forall_congr' fun row => ?_
  rw [not_and, ne_comm]

/-! ## Looking a name up -/

theorem get_eq_ok_iff : r.get name = .ok renderer ↔ r.renderers.lookup name = some renderer := by
  unfold get
  cases r.renderers.lookup name <;> simp

theorem get_eq_error_iff {e : Failure} : r.get name = .error e ↔
    r.renderers.lookup name = none ∧ e = .refused (.unknownArtifact name r.names) := by
  unfold get
  cases r.renderers.lookup name <;> simp [eq_comm]

/-- A registry knows of the registrations that it comes from: the names that were registered, each
once and in the order in which they first came, and for each of them the last renderer. Only a name
that was never registered is refused, and the refusal tells the names in this order. -/
structure Records (r : Registry) (rows : List (String × Renderer)) : Prop where
  distinct : r.names.Nodup
  names : ListsFirst r.names (rows.map (·.1))
  get_ok : ∀ name renderer, r.get name = .ok renderer ↔ IsLast rows name renderer
  get_error : ∀ name e, r.get name = .error e ↔
    name ∉ rows.map (·.1) ∧ e = .refused (.unknownArtifact name r.names)
  message : ∀ name e, r.get name = .error e →
    e.text = "No renderer registered for artifact: " ++ name ++ ". Available: " ++
      ", ".intercalate r.names

theorem records_ofRows (rows : List (String × Renderer)) : (ofRows rows).Records rows where
  distinct := (listsFirst_names rows).nodup
  names := listsFirst_names rows
  get_ok _ _ := by rw [get_eq_ok_iff, lookup_ofRows_eq_some_iff]
  get_error _ _ := by rw [get_eq_error_iff, lookup_ofRows_eq_none_iff]
  message _ _ refused := by
    rw [(get_eq_error_iff.mp refused).2]
    rfl

end Conveyor.Registry
