import Conveyor.Proofs.FileTree.Storing

/-!
# Where stored files stand

A walk asks the tree whether there are directories, but where it ends is a matter of the names alone
(`lead`): two dots lead one level up, also from the place where the walk began. Names that are
counted and never rise above their start (`depthAfter`) end below it.

So every file that is new after a bundle was stored holds a text of the bundle and stands where the
path of that text leads from the directory of the bundle (`new_of_store`), also where storing
stopped early.
-/

set_option autoImplicit false

namespace Conveyor

/-- A place that is reached from another one by at least one name. -/
def Place.IsBelow (p base : Place) : Prop :=
  p.anchor = base.anchor ∧ ∃ names, names ≠ [] ∧ p.names = base.names ++ names

namespace FileTree

variable {t u : FileTree}

/-! ## Names alone -/

/-- The place one name on, if the place before it is a directory. -/
def leadStep (p : Place) (name : String) : Place :=
  if name = "." then p
  else if name = ".." then Place.up p
  else { p with names := p.names ++ [name] }

/-- The place that names lead to, if there are directories on the way. -/
def lead (p : Place) (names : List String) : Place := names.foldl leadStep p

theorem eq_leadStep_of_walkStep {p q : Place} {name : String} (step : t.walkStep p name = .ok q) :
    q = leadStep p name := by
  obtain ⟨-, ⟨rfl, rfl⟩ | ⟨rfl, rfl⟩ | ⟨⟨noDot, noDots⟩, -, rfl⟩⟩ := walkStep_eq_ok_iff.mp step
  · rfl
  · rfl
  · rw [leadStep, if_neg noDot, if_neg noDots]

theorem eq_lead_of_walk {names : List String} {p q : Place} (walked : t.walk p names = .ok q) :
    q = lead p names := by
  induction names generalizing p with
  | nil => exact (Except.ok.inj walked).symm
  | cons name names ih =>
      obtain ⟨r, step, rest⟩ := walk_cons_eq_ok_iff.mp walked
      rw [lead, List.foldl_cons, ← eq_leadStep_of_walkStep step]
      exact ih rest

/-- How deep one is after a name, unless it leads above the start. -/
def depthStep (depth : Nat) (name : String) : Option Nat :=
  if name = "." then some depth
  else if name = ".." then if depth = 0 then none else some (depth - 1)
  else some (depth + 1)

/-- How deep one is after names, unless one of them leads above the start. -/
def depthAfter (depth : Nat) (names : List String) : Option Nat := names.foldlM depthStep depth

theorem depthAfter_cons (depth : Nat) (name : String) (names : List String) :
    depthAfter depth (name :: names) = (depthStep depth name).bind fun d => depthAfter d names :=
  List.foldlM_cons

theorem depthAfter_append (depth : Nat) (names more : List String) :
    depthAfter depth (names ++ more) = (depthAfter depth names).bind fun d => depthAfter d more :=
  List.foldlM_append

/-- The place so many names below another one. -/
structure IsAtDepth (base p : Place) (depth : Nat) : Prop where
  anchor : p.anchor = base.anchor
  names : ∃ names, names.length = depth ∧ p.names = base.names ++ names

theorem IsAtDepth.refl (base : Place) : IsAtDepth base base 0 :=
  ⟨rfl, [], rfl, (List.append_nil _).symm⟩

theorem IsAtDepth.isBelow {base p : Place} {depth : Nat} (h : IsAtDepth base p depth)
    (positive : 0 < depth) : p.IsBelow base := by
  obtain ⟨names, length, same⟩ := h.names
  refine ⟨h.anchor, names, ?_, same⟩
  rintro rfl
  rw [← length] at positive
  exact Nat.lt_irrefl _ positive

theorem IsAtDepth.up {base p : Place} {depth : Nat} (h : IsAtDepth base p (depth + 1)) :
    IsAtDepth base (Place.up p) depth := by
  obtain ⟨names, length, same⟩ := h.names
  have some_ : names ≠ [] := List.ne_nil_of_length_eq_add_one length
  have filled : p.names.isEmpty = false := by
    rw [same]
    simp [some_]
  rw [Place.up, if_neg (by simp [filled])]
  refine ⟨h.anchor, names.dropLast, ?_, ?_⟩
  · rw [List.length_dropLast, length]
    rfl
  · rw [same]
    exact List.dropLast_append_of_ne_nil some_

theorem IsAtDepth.step {base p : Place} {depth depth' : Nat} {name : String}
    (h : IsAtDepth base p depth) (stays : depthStep depth name = some depth') :
    IsAtDepth base (leadStep p name) depth' := by
  unfold depthStep at stays
  unfold leadStep
  split at stays
  · rename_i dot
    rw [if_pos dot]
    exact Option.some.inj stays ▸ h
  · rename_i noDot
    rw [if_neg noDot]
    split at stays
    · rename_i dots
      rw [if_pos dots]
      split at stays
      · cases stays
      · rename_i deeper
        obtain ⟨above, rfl⟩ := Nat.exists_eq_succ_of_ne_zero deeper
        exact Option.some.inj stays ▸ h.up
    · rename_i noDots
      rw [if_neg noDots]
      obtain ⟨names, length, same⟩ := h.names
      refine ⟨h.anchor, names ++ [name], ?_, by simp [same]⟩
      rw [List.length_append, length]
      exact Option.some.inj stays

/-- Names that never rise above their start end as deep below it as they are counted. -/
theorem IsAtDepth.lead {base : Place} {names : List String} {p : Place} {depth depth' : Nat}
    (h : IsAtDepth base p depth) (stays : depthAfter depth names = some depth') :
    IsAtDepth base (FileTree.lead p names) depth' := by
  induction names generalizing p depth with
  | nil => exact Option.some.inj stays ▸ h
  | cons name names ih =>
      unfold depthAfter at stays ih
      rw [List.foldlM_cons] at stays
      obtain ⟨next, step, rest⟩ := Option.bind_eq_some_iff.mp stays
      exact ih (h.step step) rest

end FileTree

namespace Bundle

open FileTree

/-! ## Stored files -/

/-- A relative path with at least one name. -/
def NamesFile (path : String) : Prop :=
  (Path.ofText path).root = .here ∧ (Path.ofText path).parts ≠ []

variable {root : Path} {p : Place} {content : String}

/-- A place that holds a file which it did not hold before. -/
def IsNew (t u : FileTree) (p : Place) (content : String) : Prop :=
  t.at? p ≠ some (.file content) ∧ u.at? p = some (.file content)

theorem not_isNew_of_grows {t u : FileTree} (grows : Grows t u) : ¬ IsNew t u p content := by
  rintro ⟨absent, there⟩
  rcases grows p with same | ⟨-, made⟩
  · exact absent (same ▸ there)
  · rw [made] at there
    cases there

/-- The only file that is new after one file was written is that file. -/
theorem eq_of_isNew_of_sets {t u : FileTree} {q : Place} {written : String}
    (sets : Sets t u q written) (isNew : IsNew t u p content) : p = q ∧ content = written := by
  obtain ⟨absent, there⟩ := isNew
  by_cases here : p = q
  · subst here
    rw [sets.set, Option.some.injEq, Node.file.injEq] at there
    exact ⟨rfl, there.symm⟩
  · rcases sets.rest p here with same | ⟨-, made⟩
    · exact absurd (same ▸ there) absent
    · rw [made] at there
      cases there

/-- A file of a bundle that is new stands where its path leads from the bundle's directory. -/
theorem new_of_storeFiles (normal : root.IsNormal) :
    ∀ {b : Bundle} {t : FileTree}, (∀ e ∈ b, NamesFile e.1) →
      IsNew t (storeFiles root t b).tree p content →
      ∃ base, (storeFiles root t b).tree.walk (startOf root) root.parts = .ok base ∧
        ∃ path, (path, content) ∈ b ∧ p = lead base (Path.ofText path).parts
  | [], t, _, isNew => absurd isNew (not_isNew_of_grows (.refl t))
  | (path, text) :: rest, t, files, isNew => by
      have filesThere : ∀ e ∈ rest, NamesFile e.1 := fun e member => files e (by simp [member])
      have keeps := keeps_storeFiles root rest (storeOne t (root.join (.ofText path)) text).tree
      rw [storeFiles] at isNew ⊢
      dsimp only at isNew ⊢
      rcases storeOne_cases t (root.join (.ofText path)) text with
        ⟨e, stopped, grows⟩ | ⟨finished, u, grows, written⟩
      · rw [stopped] at isNew
        exact absurd isNew (not_isNew_of_grows grows)
      · rw [finished] at isNew ⊢
        dsimp only at isNew ⊢
        by_cases early : (storeOne t (root.join (.ofText path)) text).tree.at? p =
            some (.file content)
        · obtain ⟨here, some_⟩ := files (path, text) (by simp)
          obtain ⟨base, q, toBase, fromBase, -, sets⟩ :=
            sets_of_writeText_join normal (Path.isNormal_ofText path) here some_ written
          obtain ⟨rfl, rfl⟩ := eq_of_isNew_of_sets (grows.sets sets) ⟨isNew.1, early⟩
          exact ⟨base, walk_of_keeps keeps toBase, path, by simp, eq_lead_of_walk fromBase⟩
        · obtain ⟨base, walked, path', member, place⟩ :=
            new_of_storeFiles normal filesThere ⟨early, isNew.2⟩
          exact ⟨base, walked, path', by simp [member], place⟩

/-- A file that is new after a bundle was stored is one of the bundle, and stands where its path
leads from the bundle's directory, whether or not storing stopped early. -/
theorem new_of_store (normal : root.IsNormal) {b : Bundle} {t : FileTree}
    (files : ∀ e ∈ b, NamesFile e.1) (isNew : IsNew t (store root t b).tree p content) :
    ∃ base, (store root t b).tree.walk (startOf root) root.parts = .ok base ∧
      ∃ path, (path, content) ∈ b ∧ p = lead base (Path.ofText path).parts := by
  have grows := grows_makeDirectories t root
  unfold store at isNew ⊢
  dsimp only at isNew ⊢
  split at isNew
  · exact absurd isNew (not_isNew_of_grows grows)
  · refine new_of_storeFiles normal files ⟨fun there => ?_, isNew.2⟩
    exact not_isNew_of_grows grows ⟨isNew.1, there⟩

end Bundle

end Conveyor
