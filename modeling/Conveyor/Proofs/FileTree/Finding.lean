import Conveyor.Proofs.FileTree.Storing

/-!
# Paths that find what is there

A place that a path leads to has directories all the way down to it, whatever path it was
(`Rests.of_resolve`). So a path without double dots that leads to such a place once some directories
were made led there before: it found what is there (`exists_stat_of_resolve`). A path with double
dots may lead to a file only because a directory was made on its way.
-/

set_option autoImplicit false

namespace Conveyor.FileTree

variable {t u : FileTree} {p q : Place}

/-- All the way down to a place there are directories. -/
def Rests (t : FileTree) (p : Place) : Prop :=
  ∀ k < p.names.length, t.at? ⟨p.anchor, p.names.take k⟩ = some .directory

theorem Rests.up (rests : Rests t p) : Rests t (Place.up p) := by
  unfold Place.up
  split
  · cases p.anchor with
    | above levels => exact fun k small => absurd small (Nat.not_lt_zero k)
    | top => exact rests
  · intro k small
    rw [List.length_dropLast] at small
    have within : k < p.names.length := by omega
    have cut : p.names.dropLast.take k = p.names.take k := by
      rw [List.dropLast_eq_take, List.take_take, Nat.min_eq_left (by omega)]
    rw [cut]
    exact rests k within

theorem Rests.down (rests : Rests t p) (there : t.at? p = some .directory) (name : String) :
    Rests t { p with names := p.names ++ [name] } := by
  intro k small
  rw [List.length_append, List.length_singleton] at small
  rcases Nat.lt_or_eq_of_le (Nat.le_of_lt_succ small) with within | whole
  · rw [List.take_append_of_le_length (Nat.le_of_lt within)]
    exact rests k within
  · rw [whole, List.take_left]
    exact there

theorem Rests.walkStep (rests : Rests t p) {name : String} (step : t.walkStep p name = .ok q) :
    Rests t q := by
  obtain ⟨there, ⟨-, rfl⟩ | ⟨-, rfl⟩ | ⟨-, -, rfl⟩⟩ := walkStep_eq_ok_iff.mp step
  · exact rests
  · exact rests.up
  · exact rests.down there name

theorem Rests.walk {names : List String} (rests : Rests t p) (walked : t.walk p names = .ok q) :
    Rests t q := by
  induction names generalizing p with
  | nil => exact Except.ok.inj walked ▸ rests
  | cons name names ih =>
      obtain ⟨r, step, rest⟩ := walk_cons_eq_ok_iff.mp walked
      exact ih (rests.walkStep step) rest

/-- Wherever a path leads, there are directories all the way down. -/
theorem Rests.of_resolve {path : String} (resolved : t.resolve path = .ok p) : Rests t p := by
  have top : ∀ fromTop, Rests t (start fromTop) := fun _ k small => absurd small (Nat.not_lt_zero k)
  exact (top _).walk (walk_of_resolve resolved)

/-- A walk that only leads on can be taken in another tree with directories all the way down. -/
theorem walk_of_rests {names : List String} (forward : ∀ name ∈ names, name ≠ "." ∧ name ≠ "..")
    (walked : u.walk p names = .ok q) (here : Rests t q) : t.walk p names = .ok q := by
  induction names generalizing p with
  | nil => exact walked
  | cons name names ih =>
      have place := walk_eq_ok forward walked
      have there : t.at? p = some .directory := by
        have above := here p.names.length (by simp [place])
        rw [place, List.take_left] at above
        exact above
      obtain ⟨r, step, rest⟩ := walk_cons_eq_ok_iff.mp walked
      have same : t.walkStep p name = .ok r :=
        walkStep_eq_ok_iff.mpr ⟨there, (walkStep_eq_ok_iff.mp step).2⟩
      exact walk_cons_eq_ok_iff.mpr
        ⟨r, same, ih (fun name' member => forward name' (by simp [member])) rest⟩

/-- A path without double dots that leads to a place which some path leads to in another tree leads
there in the other tree as well. -/
theorem resolve_of_rests {path : Path} (normal : path.IsNormal) (some_ : path.parts ≠ [])
    (forward : ".." ∉ path.parts) (resolved : u.resolve path.text = .ok p) (here : Rests t p) :
    t.resolve path.text = .ok p := by
  have leads : ∀ name ∈ Path.steps path.text, name ≠ "." ∧ name ≠ ".." := by
    rw [Path.steps_text normal some_]
    intro name member
    have proper := normal.proper name member
    exact ⟨by rintro rfl; exact absurd proper (by decide), by rintro rfl; exact forward member⟩
  obtain ⟨named, walked⟩ := resolve_eq_ok_iff.mp resolved
  exact resolve_eq_ok_iff.mpr ⟨named, walk_of_rests leads walked here⟩

/-- A path without names leads to a directory. -/
theorem stat_of_parts_nil {path : Path} (none_ : path.parts = []) :
    t.stat path.text = .ok .directory := by
  obtain ⟨root, parts⟩ := path
  subst none_
  cases root <;> rfl

/-- A file at a place that a path without double dots leads to, after some directories were made, is
found by this path before they are made. -/
theorem exists_stat_of_resolve {path : Path} (normal : path.IsNormal) (forward : ".." ∉ path.parts)
    (resolved : u.resolve path.text = .ok p) {held content : String}
    (there : t.resolve held = .ok p) (file : t.at? p = some (.file content)) :
    ∃ node, t.stat path.text = .ok node := by
  by_cases none_ : path.parts = []
  · exact ⟨_, stat_of_parts_nil none_⟩
  · have same := resolve_of_rests normal none_ forward resolved (Rests.of_resolve there)
    exact ⟨_, stat_of_keeps (fun _ here => here) same file⟩

end Conveyor.FileTree
