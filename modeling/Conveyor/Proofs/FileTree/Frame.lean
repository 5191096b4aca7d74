import Conveyor.Proofs.FileTree.Path
import Conveyor.Proofs.Rows
import Conveyor.Proofs.Value.Verdict

/-!
# What the operations on a file tree change

Making directories changes nothing but places where nothing was (`Grows`), and writing a file
changes one place more (`Sets`). Either way directories stay directories (`Keeps`), so a place that
could be walked to before can be walked to afterwards, along the same names.
-/

set_option autoImplicit false

namespace Conveyor.FileTree

variable {t u v : FileTree}

/-! ## Putting something at a place -/

theorem lookup_put (nodes : List (Place × Node)) (p q : Place) (n : Node) :
    (nodes.filter (·.1 ≠ p) ++ [(p, n)]).lookup q = if q = p then some n else nodes.lookup q := by
  induction nodes with
  | nil => exact Rows.lookup_cons_eq_ite q p n []
  | cons e nodes ih =>
      obtain ⟨place, old⟩ := e
      by_cases replaced : place = p
      · rw [List.filter_cons_of_neg (by simpa using replaced), ih, Rows.lookup_cons_eq_ite, replaced]
        split <;> rfl
      · rw [List.filter_cons_of_pos (by simpa using replaced), List.cons_append,
          Rows.lookup_cons_eq_ite, Rows.lookup_cons_eq_ite, ih]
        by_cases here : q = place
        · rw [if_pos here, if_neg (here ▸ replaced), if_pos here]
        · rw [if_neg here, if_neg here]

/-- The place itself holds what was put there; every other place holds what it held. -/
theorem at?_put_of_ne {p q : Place} {n : Node} (differs : q ≠ p) :
    (t.put p n).at? q = t.at? q := by
  unfold at? put
  rw [lookup_put, if_neg differs]

theorem at?_put_self {p : Place} {n : Node} (free : t.at? p ≠ some .directory) :
    (t.put p n).at? p = some n := by
  unfold at? at free
  split at free
  · exact absurd rfl free
  · rename_i named
    unfold at? put
    rw [if_neg named, lookup_put, if_pos rfl]

/-! ## Growth -/

/-- New directories stand where nothing was, and nothing else is different. -/
def Grows (t u : FileTree) : Prop :=
  ∀ p, u.at? p = t.at? p ∨ (t.at? p = none ∧ u.at? p = some .directory)

/-- What is a directory stays one. -/
def Keeps (t u : FileTree) : Prop := ∀ p, t.at? p = some .directory → u.at? p = some .directory

theorem Keeps.trans (h : Keeps t u) (h' : Keeps u v) : Keeps t v := fun p there => h' p (h p there)

theorem Grows.refl (t : FileTree) : Grows t t := fun _ => .inl rfl

/-- A place where two trees in a row add a directory at most has at most a directory more. -/
theorem adds_trans {q : Place}
    (h : u.at? q = t.at? q ∨ (t.at? q = none ∧ u.at? q = some .directory))
    (h' : v.at? q = u.at? q ∨ (u.at? q = none ∧ v.at? q = some .directory)) :
    v.at? q = t.at? q ∨ (t.at? q = none ∧ v.at? q = some .directory) := by
  rcases h with same | ⟨free, made⟩
  · rcases h' with same' | ⟨free', made'⟩
    · exact .inl (same'.trans same)
    · exact .inr ⟨same ▸ free', made'⟩
  · rcases h' with same' | ⟨free', -⟩
    · exact .inr ⟨free, same'.trans made⟩
    · rw [made] at free'
      cases free'

theorem Grows.trans (h : Grows t u) (h' : Grows u v) : Grows t v := fun p => adds_trans (h p) (h' p)

theorem Grows.keeps (h : Grows t u) : Keeps t u := by
  intro p there
  rcases h p with same | ⟨free, -⟩
  · exact same.trans there
  · rw [there] at free
    cases free

theorem grows_of_makeDirectory {path : String} (made : t.makeDirectory path = .ok u) :
    Grows t u := by
  unfold makeDirectory at made
  split at made
  · cases made
  · rename_i place _
    split at made
    · cases made
    · rename_i free
      cases made
      intro p
      by_cases here : p = place
      · subst here
        exact .inr ⟨free, at?_put_self (by simp [free])⟩
      · exact .inl (at?_put_of_ne here)

theorem grows_settle {path : String} {made : Except FileError FileTree}
    (h : ∀ u, made = .ok u → Grows t u) : Grows t (settle t path made).tree := by
  cases made with
  | ok u => exact h u rfl
  | error e =>
      unfold settle
      dsimp only
      split <;> exact .refl t

/-- Making a directory with all above it adds directories only, also where it stops early. -/
theorem grows_makeAll (root : Path.Root) :
    ∀ (names : List String) (t : FileTree), Grows t (t.makeAll root names).tree
  | [], t => by
      unfold makeAll
      exact grows_settle fun u => grows_of_makeDirectory
  | name :: above, t => by
      have outer := grows_makeAll root above t
      unfold makeAll
      dsimp only
      split
      · split
        · exact outer
        · split
          · exact outer
          · exact outer.trans (grows_settle fun u => grows_of_makeDirectory)
      · exact grows_settle fun u => grows_of_makeDirectory

theorem grows_makeDirectories (t : FileTree) (p : Path) : Grows t (t.makeDirectories p).tree :=
  grows_makeAll p.root p.parts.reverse t

/-! ## Walking -/

/-- A step can be taken from a directory only. It stays there, leads up, or leads to what has the
name. -/
theorem walkStep_eq_ok_iff {p q : Place} {name : String} :
    t.walkStep p name = .ok q ↔ t.at? p = some .directory ∧
      (name = "." ∧ q = p ∨ name = ".." ∧ q = Place.up p ∨
        (name ≠ "." ∧ name ≠ "..") ∧ name.utf8ByteSize ≤ longestName ∧
          q = { p with names := p.names ++ [name] }) := by
  unfold walkStep
  cases there : t.at? p with
  | none => simp
  | some node =>
      cases node with
      | file content => simp
      | directory =>
          by_cases dot : name = "."
          · subst dot
            simp [eq_comm]
          · by_cases dots : name = ".."
            · subst dots
              simp [eq_comm]
            · by_cases sized : longestName < name.utf8ByteSize
              · simp [dot, dots, sized, Nat.not_le_of_lt sized]
              · simp [dot, dots, sized, Nat.le_of_not_lt sized, eq_comm]

theorem walk_cons_eq_ok_iff {p q : Place} {name : String} {names : List String} :
    t.walk p (name :: names) = .ok q ↔ ∃ r, t.walkStep p name = .ok r ∧ t.walk r names = .ok q := by
  unfold walk
  rw [List.foldlM_cons]
  exact bind_eq_ok_iff

theorem walkStep_of_keeps (keeps : Keeps t u) {p q : Place} {name : String}
    (step : t.walkStep p name = .ok q) : u.walkStep p name = .ok q := by
  obtain ⟨there, leads⟩ := walkStep_eq_ok_iff.mp step
  exact walkStep_eq_ok_iff.mpr ⟨keeps p there, leads⟩

theorem walk_of_keeps (keeps : Keeps t u) {names : List String} {p q : Place}
    (walked : t.walk p names = .ok q) : u.walk p names = .ok q := by
  induction names generalizing p with
  | nil => exact walked
  | cons name names ih =>
      obtain ⟨r, step, rest⟩ := walk_cons_eq_ok_iff.mp walked
      exact walk_cons_eq_ok_iff.mpr ⟨r, walkStep_of_keeps keeps step, ih rest⟩

/-- A walk along names that lead on ends below where it began. -/
theorem walk_eq_ok {names : List String} {p q : Place}
    (forward : ∀ name ∈ names, name ≠ "." ∧ name ≠ "..") (walked : t.walk p names = .ok q) :
    q = { p with names := p.names ++ names } := by
  induction names generalizing p with
  | nil =>
      cases walked
      simp
  | cons name names ih =>
      obtain ⟨r, step, rest⟩ := walk_cons_eq_ok_iff.mp walked
      obtain ⟨noDot, noDots⟩ := forward name (by simp)
      obtain ⟨-, ⟨dot, -⟩ | ⟨dots, -⟩ | ⟨-, -, rfl⟩⟩ := walkStep_eq_ok_iff.mp step
      · exact absurd dot noDot
      · exact absurd dots noDots
      · rw [ih (fun name' member => forward name' (by simp [member])) rest]
        simp

theorem walk_append_eq_ok {names more : List String} {p q : Place}
    (walked : t.walk p (names ++ more) = .ok q) :
    ∃ r, t.walk p names = .ok r ∧ t.walk r more = .ok q := by
  unfold walk at walked ⊢
  rw [List.foldlM_append] at walked
  exact bind_eq_ok_iff.mp walked

/-- A text that may name a path leads where its names lead. -/
theorem resolve_eq_ok_iff {path : String} {p : Place} :
    t.resolve path = .ok p ↔
      (path.toList.contains '\x00' = false ∧ path.isEmpty = false ∧
        path.utf8ByteSize < tooLongPath) ∧
      t.walk (start (path.toList.head? = some '/')) (Path.steps path) = .ok p := by
  unfold resolve
  by_cases null : path.toList.contains '\x00' = true
  · simp only [null, if_true, reduceCtorEq, Bool.true_eq_false, false_and]
  · by_cases empty : path.isEmpty = true
    · rw [if_neg null, if_pos empty, empty]
      simp
    · by_cases long : tooLongPath ≤ path.utf8ByteSize
      · rw [if_neg null, if_neg empty, if_pos long]
        simp [Nat.not_lt_of_le long]
      · rw [if_neg null, if_neg empty, if_neg long]
        exact (and_iff_right ⟨by simpa using null, by simpa using empty, by omega⟩).symm

theorem walk_of_resolve {path : String} {p : Place} (resolved : t.resolve path = .ok p) :
    t.walk (start (path.toList.head? = some '/')) (Path.steps path) = .ok p :=
  (resolve_eq_ok_iff.mp resolved).2

end Conveyor.FileTree
